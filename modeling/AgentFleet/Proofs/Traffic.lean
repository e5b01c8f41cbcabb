import AgentFleet.Proofs.Lifetime
import AgentFleet.Proofs.SharedCalls

/-!
# Calls in progress side by side

Several creations and removals of agents go on at one site.  Each step of each
of them is atomic, and the steps of different calls follow one another in any
order.  A schedule says which call takes the next step; whatever the schedule,
the service is at all times shared out among the calls as their answers tell.
-/

namespace AgentFleet

/-- The script has come to its end. -/
def Script.isDone {α : Type} : Script α → Bool
  | .done _ => true
  | .act _ _ => false

/-- A creation that has begun. -/
structure Creation where
  cluster : String
  /-- What is left of it. -/
  script : Script (Except Agent.Error (Option Agent))
  holding : Holding := {}
  /-- The clusters in which the agent that came of it has been asked to stop. -/
  asked : List String := []

/-- The agent that the creation has answered with. -/
def Creation.agent? (c : Creation) : Option Agent :=
  match c.script with
  | .done (.ok (some a)) => some a
  | _ => none

/-- The agent, unless it has been asked to stop. -/
def Creation.live? (c : Creation) : Option Agent :=
  if c.asked = [] then c.agent? else none

/-- The agent, unless it has been asked to stop in its cluster. -/
def Creation.unstopped? (c : Creation) : Option Agent :=
  if c.cluster ∈ c.asked then none else c.agent?

/-- The removal of an agent. -/
structure Removal where
  /-- The place of the creation that the agent came of. -/
  creation : Nat
  /-- The cluster in which the agent is asked to stop. -/
  cluster : String
  /-- What is left of it. -/
  script : Script Unit

/-- A site, and the creations and removals that have begun there. -/
structure Traffic where
  site : Site
  creations : List Creation := []
  removals : List Removal := []

/-- What happens next. -/
inductive Move where
  /-- A creation begins. -/
  | create (fresh : Identity) (server : String) (s : Settings)
      (r : AgentRequest)
  /-- A creation takes one step. -/
  | advance (k : Nat) (now : UInt64)
  /-- The agent of a creation is asked to stop, be it once more. -/
  | stop (k : Nat) (s : Settings)
  /-- A removal takes one step. -/
  | advanceRemoval (j : Nat) (now : UInt64)
  | arrange (a : Arrangement) (ha : a.SparesRemovals)

namespace Traffic

/-- The next step of a creation, unless it is at its end or a count would
overflow. -/
def advance (k : Nat) (now : UInt64) (w : Traffic) : Traffic :=
  match w.creations[k]? with
  | none => w
  | some c =>
    match c.script with
    | .done _ => w
    | .act a next =>
      if a.countsFit w.site.service then
        let (answer, site) := w.site.perform now a
        { w with
          site
          creations :=
            w.creations.set k
              { c with
                script := next answer
                holding := c.holding.after a answer } }
      else w

/-- The removal of the agent of a creation begins, if there is one. -/
def stop (k : Nat) (s : Settings) (w : Traffic) : Traffic :=
  match w.creations[k]? with
  | none => w
  | some c =>
    match c.agent? with
    | none => w
    | some a =>
      { w with
        creations :=
          w.creations.set k { c with asked := s.clusterName :: c.asked }
        removals := w.removals ++ [⟨k, s.clusterName, stopAgent s a⟩] }

/-- The next step of a removal, unless it is at its end. -/
def advanceRemoval (j : Nat) (now : UInt64) (w : Traffic) : Traffic :=
  match w.removals[j]? with
  | none => w
  | some x =>
    match x.script, w.creations[x.creation]? with
    | .act a next, some c =>
      let (answer, site) := w.site.perform now a
      { site
        creations :=
          w.creations.set x.creation
            { c with holding := c.holding.after a answer }
        removals := w.removals.set j { x with script := next answer } }
    | _, _ => w

def move (w : Traffic) : Move → Traffic
  | .create fresh server s r =>
    { w with creations := w.creations ++
        [⟨s.clusterName, (createAgent fresh server s r).run, {}, []⟩] }
  | .advance k now => w.advance k now
  | .stop k s => w.stop k s
  | .advanceRemoval j now => w.advanceRemoval j now
  | .arrange a _ =>
    { w with site := w.site.withService (w.site.service.arrange a) }

/-- The traffic after a schedule. -/
def play (w : Traffic) (ms : List Move) : Traffic :=
  ms.foldl move w

/-! ## Creations by their places -/

theorem forall_mem_set
    {P : Creation → Prop} {cs : List Creation} {k : Nat} {c' : Creation}
    (hall : ∀ c ∈ cs, P c) (hnew : P c') :
    ∀ c ∈ cs.set k c', P c := by
  intro c hc
  rcases List.mem_or_eq_of_mem_set hc with hold | rfl
  · exact hall c hold
  · exact hnew

theorem exists_perm_set
    {cs : List Creation} {k : Nat} {c : Creation} (hc : cs[k]? = some c) :
    ∃ rest,
      (cs.map Creation.holding).Perm (c.holding :: rest) ∧
      ∀ c' : Creation,
        ((cs.set k c').map Creation.holding).Perm (c'.holding :: rest) := by
  obtain ⟨hk, rfl⟩ := List.getElem?_eq_some_iff.mp hc
  have hset : ∀ c' : Creation, ((cs.set k c').map Creation.holding).Perm
      (c'.holding :: (cs.take k ++ cs.drop (k + 1)).map Creation.holding) := by
    intro c'
    rw [List.set_eq_take_append_cons_drop, if_pos hk]
    exact List.perm_middle.map Creation.holding
  refine ⟨_, ?_, hset⟩
  have hself := hset cs[k]
  rwa [List.set_getElem_self] at hself

theorem eq_or_getElem?_set
    {cs : List Creation} {j k : Nat} {c c' : Creation} (hc : cs[k]? = some c)
    (hc' : cs[j]? = some c') :
    (k = j ∧ c = c') ∨ ∀ c₁ : Creation, (cs.set k c₁)[j]? = some c' := by
  by_cases hkj : k = j
  · subst hkj
    exact Or.inl ⟨rfl, Option.some.inj (hc.symm.trans hc')⟩
  · refine Or.inr fun c₁ => ?_
    rw [List.getElem?_set_ne hkj]
    exact hc'

theorem eq_or_getElem?_of_append
    {cs : List Creation} {k : Nat} {c c' : Creation}
    (hc : (cs ++ [c'])[k]? = some c) :
    c = c' ∨ cs[k]? = some c := by
  rw [List.getElem?_append] at hc
  split at hc
  · exact Or.inr hc
  · exact Or.inl (List.mem_singleton.mp (List.mem_of_getElem? hc))

theorem getElem?_append_of_getElem?
    {cs : List Creation} {k : Nat} {c : Creation} (hc : cs[k]? = some c)
    (c' : Creation) :
    (cs ++ [c'])[k]? = some c := by
  obtain ⟨hk, -⟩ := List.getElem?_eq_some_iff.mp hc
  rwa [List.getElem?_append_left hk]

theorem eq_or_getElem?_of_set
    {cs : List Creation} {j k : Nat} {c c' : Creation}
    (hc : (cs.set j c')[k]? = some c) :
    (j = k ∧ c = c') ∨ cs[k]? = some c := by
  by_cases hjk : j = k
  · subst hjk
    obtain ⟨hj, rfl⟩ := List.getElem?_eq_some_iff.mp hc
    exact Or.inl ⟨rfl, List.getElem_set_self hj⟩
  · rw [List.getElem?_set_ne hjk] at hc
    exact Or.inr hc

end Traffic

/-! ## The invariant -/

/-- The task, if there is one, has not been stopped. -/
def Holding.IsRunning (h : Holding) : Prop :=
  ∀ t : Task, h.task = some t → t.desiredStatus = .running

theorem Holding.Runs.isRunning
    {cluster : String} {h : Holding} (hruns : h.Runs cluster) :
    h.IsRunning :=
  fun t ht => (hruns t ht).1

/-- The creation is under way, or has ended with an agent that is still whole,
or with nothing. -/
structure Creation.OnCourse (c : Creation) : Prop where
  leads : c.script.Leads c.cluster Settled c.holding
  runs : c.holding.Runs c.cluster

/-- Whose agent is asked to stop, and in which cluster. -/
def Removal.address (x : Removal) : Nat × String :=
  (x.creation, x.cluster)

/-- The removal has come as far with its agent as what is left of it tells. -/
def Removal.IsOf (x : Removal) (s : Service) (c : Creation) : Prop :=
  x.cluster ∈ c.asked ∧
  ∃ a,
    c.agent? = some a ∧
    c.holding.Belongs c.cluster a s ∧
    c.holding.Follows x.cluster a x.script

/-- The service is shared out among the calls, each of which is at a certain
point. -/
structure Traffic.Coherent
    (s₀ : Service) (bases : Std.ExtTreeMap String ContainerInstance)
    (w : Traffic) : Prop where
  undisturbed : w.site.Undisturbed
  shared :
    Service.Shared s₀ bases (w.creations.map Creation.holding) w.site.service
  creations : ∀ c ∈ w.creations, c.asked = [] → c.OnCourse
  running : ∀ c ∈ w.creations, c.cluster ∉ c.asked → c.holding.IsRunning
  removals : ∀ x ∈ w.removals, ∃ c, w.creations[x.creation]? = some c ∧
    x.IsOf w.site.service c
  asked :
    ∀ (k : Nat) (c : Creation),
      w.creations[k]? = some c →
      ∀ cluster ∈ c.asked, (k, cluster) ∈ w.removals.map Removal.address

namespace Traffic.Coherent

variable {s₀ : Service} {bases : Std.ExtTreeMap String ContainerInstance}
  {w : Traffic}

theorem start
    {site : Site} (hsite : site.Undisturbed) (hbounded : site.service.Bounded) :
    Coherent site.service site.service.instances { site } where
  undisturbed := hsite
  shared := .start hbounded
  creations := by simp
  running := by simp
  removals := by simp
  asked := by simp

theorem agent?_eq_some_iff
    {c : Creation} {a : Agent} :
    c.agent? = some a ↔ c.script = .done (.ok (some a)) := by
  rw [Creation.agent?]
  split
  · next a' hscript => simp [hscript]
  · next hother =>
    constructor
    · rintro ⟨⟩
    · intro hscript
      exact absurd hscript (hother a)

/-- Where an agent has been asked to stop, there is a removal of it. -/
theorem exists_removal
    (h : Coherent s₀ bases w) {k : Nat} {c : Creation}
    (hc : w.creations[k]? = some c) {cluster : String}
    (hasked : cluster ∈ c.asked) :
    ∃ x ∈ w.removals,
      x.creation = k ∧ x.cluster = cluster ∧ x.IsOf w.site.service c := by
  obtain ⟨x, hx, haddress⟩ := List.mem_map.mp (h.asked k c hc cluster hasked)
  obtain ⟨rfl, rfl⟩ := Prod.mk.inj haddress
  obtain ⟨c', hc', hremoval⟩ := h.removals x hx
  obtain rfl : c = c' := Option.some.inj (hc.symm.trans hc')
  exact ⟨x, hx, rfl, rfl, hremoval⟩

theorem asked_eq_nil
    (h : Coherent s₀ bases w) {k : Nat} {c : Creation}
    (hc : w.creations[k]? = some c) {a : Act} {next : a.Answer → Script _}
    (hscript : c.script = .act a next) :
    c.asked = [] := by
  rw [List.eq_nil_iff_forall_not_mem]
  intro cluster hasked
  obtain ⟨x, -, -, -, -, t, hagent, -⟩ := h.exists_removal hc hasked
  rw [agent?_eq_some_iff, hscript] at hagent
  cases hagent

/-- What a creation holds that has answered with an agent belongs to the agent.
-/
theorem belongs
    (h : Coherent s₀ bases w) {k : Nat} {c : Creation}
    (hc : w.creations[k]? = some c) {a : Agent} (hagent : c.agent? = some a) :
    c.holding.Belongs c.cluster a w.site.service := by
  cases hasked : c.asked with
  | cons cluster others =>
    have hmem : cluster ∈ c.asked := hasked ▸ List.mem_cons_self
    obtain ⟨x, -, -, -, -, a', hagent', hbelongs, -⟩ := h.exists_removal hc hmem
    obtain rfl : a = a' := Option.some.inj (hagent.symm.trans hagent')
    exact hbelongs
  | nil =>
    have hmem : c ∈ w.creations := List.mem_of_getElem? hc
    obtain ⟨hleads, hruns⟩ := h.creations c hmem hasked
    rw [agent?_eq_some_iff.mp hagent] at hleads
    obtain ⟨d, t, o, target, hholding, rfl⟩ := hleads
    have hstored :=
      h.shared.getElem?_definition (List.mem_map_of_mem hmem) (d := d)
        (by rw [hholding]; rfl)
    rw [hholding] at hruns ⊢
    refine ⟨⟨t, rfl, rfl, (hruns t rfl).2.1⟩, ?_, ?_, ?_⟩
    · rintro d' ⟨⟩
      rfl
    · exact h.undisturbed.grown.sound.spareDefinitions d.arn d hstored
    · rintro ⟨⟩

/-! ## Steps of creations -/

/-- A creation that begins has nothing yet. -/
theorem create
    (h : Coherent s₀ bases w) (fresh : Identity) (server : String)
    (s : Settings) (r : AgentRequest) :
    Coherent s₀ bases (w.move (.create fresh server s r)) where
  undisturbed := h.undisturbed
  shared := by
    have hempty :
        Service.Shared s₀ bases
          (({} : Holding) :: w.creations.map Creation.holding)
        w.site.service := h.shared.cons_empty
    apply hempty.perm
    rw [Traffic.move, List.map_append]
    exact List.perm_append_singleton _ _
  creations := by
    intro c hc hasked
    rcases List.mem_append.mp hc with hold | hnew
    · exact h.creations c hold hasked
    · obtain rfl := List.mem_singleton.mp hnew
      exact ⟨createAgent_leads fresh server s r, .of_none rfl⟩
  running := by
    intro c hc hasked
    rcases List.mem_append.mp hc with hold | hnew
    · exact h.running c hold hasked
    · obtain rfl := List.mem_singleton.mp hnew
      rintro t ⟨⟩
  removals := by
    intro x hx
    obtain ⟨c, hc, hremoval⟩ := h.removals x hx
    exact ⟨c, getElem?_append_of_getElem? hc _, hremoval⟩
  asked := by
    intro k c hc cluster hasked
    rcases eq_or_getElem?_of_append hc with rfl | hold
    · cases hasked
    · exact h.asked k c hold cluster hasked

/-- A step of a creation changes what the creation holds, and nothing else that
is held. -/
theorem advance
    (h : Coherent s₀ bases w) (k : Nat) (now : UInt64) :
    ∃ bases',
      Table.Extends bases bases' ∧ Coherent s₀ bases' (w.advance k now) := by
  have hstays : Table.Extends bases bases := fun _ _ hbase => hbase
  rw [Traffic.advance]
  cases hc : w.creations[k]? with
  | none => exact ⟨bases, hstays, h⟩
  | some c =>
    cases hscript : c.script with
    | done result => exact ⟨bases, hstays, by simpa only [hscript] using h⟩
    | act a next =>
      by_cases hfits : a.countsFit w.site.service = true
      · have hasked := h.asked_eq_nil hc hscript
        obtain ⟨hleads, hruns⟩ := h.creations c (List.mem_of_getElem? hc) hasked
        rw [hscript] at hleads
        obtain ⟨rest, hperm, hset⟩ := exists_perm_set hc
        obtain ⟨bases', hextends, hshared, hruns'⟩ :=
          (h.shared.perm hperm.symm).perform h.undisturbed hruns hleads.1 hfits
            now
        refine ⟨bases', hextends, ?_⟩
        simp only [hscript, if_pos hfits]
        refine
          { undisturbed := h.undisturbed.perform now a
            shared := hshared.perm (hset _)
            creations := ?creations
            running := ?running
            removals := ?removals
            asked := ?asked }
        case creations =>
          exact forall_mem_set h.creations fun _ => ⟨hleads.2 _, hruns'⟩
        case running =>
          exact forall_mem_set h.running fun _ => hruns'.isRunning
        case removals =>
          intro x hx
          obtain ⟨c', hc', hasked', t, hagent, hbelongs, hfollows⟩ :=
            h.removals x hx
          rcases eq_or_getElem?_set hc hc' with ⟨-, rfl⟩ | hother
          · rw [hasked] at hasked'
            cases hasked'
          · have hbelongs' := hbelongs.perform h.undisturbed.direct now a
            exact ⟨c', hother _, hasked', t, hagent, hbelongs', hfollows⟩
        case asked =>
          intro k' c' hc' cluster hasked'
          rcases eq_or_getElem?_of_set hc' with ⟨-, rfl⟩ | hold
          · rw [hasked] at hasked'
            cases hasked'
          · exact h.asked k' c' hold cluster hasked'
      · simp only [hscript, if_neg hfits]
        exact ⟨bases, hstays, h⟩

/-! ## Steps of removals -/

/-- A removal that begins finds what its agent is made up of. -/
theorem stop
    (h : Coherent s₀ bases w) (k : Nat) (s : Settings) :
    Coherent s₀ bases (w.stop k s) := by
  rw [Traffic.stop]
  cases hc : w.creations[k]? with
  | none => exact h
  | some c =>
    cases hagent : c.agent? with
    | none => simpa only [hagent] using h
    | some a =>
      simp only [hagent]
      have hbelongs := h.belongs hc hagent
      obtain ⟨rest, hperm, hset⟩ := exists_perm_set hc
      have hk : k < w.creations.length := (List.getElem?_eq_some_iff.mp hc).1
      refine
        { undisturbed := h.undisturbed
          shared := h.shared.perm ((hset _).trans hperm.symm)
          creations := ?creations
          running := ?running
          removals := ?removals
          asked := ?asked }
      case creations =>
        apply forall_mem_set h.creations
        rintro ⟨⟩
      case running =>
        apply forall_mem_set h.running
        intro hasked'
        have hbefore : c.cluster ∉ c.asked :=
          fun hmem => hasked' (List.mem_cons_of_mem _ hmem)
        exact h.running c (List.mem_of_getElem? hc) hbefore
      case removals =>
        intro x hx
        rcases List.mem_append.mp hx with hold | hnew
        · obtain ⟨c', hc', hasked', hremoval⟩ := h.removals x hold
          rcases eq_or_getElem?_set hc hc' with ⟨rfl, rfl⟩ | hother
          · exact ⟨_, List.getElem?_set_self hk, List.mem_cons_of_mem _ hasked',
              hremoval⟩
          · exact ⟨c', hother _, hasked', hremoval⟩
        · obtain rfl := List.mem_singleton.mp hnew
          exact ⟨_, List.getElem?_set_self hk, List.mem_cons_self, a, hagent,
            hbelongs, .begun s rfl⟩
      case asked =>
        intro k' c' hc' cluster hasked'
        rw [List.map_append, List.mem_append]
        rcases eq_or_getElem?_of_set hc' with ⟨rfl, rfl⟩ | hold
        · rcases List.mem_cons.mp hasked' with rfl | hbefore
          · exact Or.inr List.mem_cons_self
          · exact Or.inl (h.asked k c hc cluster hbefore)
        · exact Or.inl (h.asked k' c' hold cluster hasked')

/-- A step of a removal changes what is left of its agent, and nothing else that
is held. -/
theorem advanceRemoval
    (h : Coherent s₀ bases w) (j : Nat) (now : UInt64) :
    Coherent s₀ bases (w.advanceRemoval j now) := by
  rw [Traffic.advanceRemoval]
  cases hx : w.removals[j]? with
  | none => exact h
  | some x =>
    obtain ⟨c, hc, hasked, t, hagent, hbelongs, hfollows⟩ :=
      h.removals x (List.mem_of_getElem? hx)
    cases hscript : x.script with
    | done result => simpa only [hscript] using h
    | act a next =>
      simp only [hscript, hc]
      rw [hscript] at hfollows
      obtain ⟨rest, hperm, hset⟩ := exists_perm_set hc
      have hleaves :=
        (h.shared.perm hperm.symm).leaves h.undisturbed hbelongs hfollows now
      have hk : x.creation < w.creations.length :=
        (List.getElem?_eq_some_iff.mp hc).1
      refine
        { undisturbed := h.undisturbed.perform now a
          shared := hleaves.shared.perm (hset _)
          creations := ?creations
          running := ?running
          removals := ?removals
          asked := ?asked }
      case creations =>
        apply forall_mem_set h.creations
        intro (hnil : c.asked = [])
        rw [hnil] at hasked
        cases hasked
      case running =>
        apply forall_mem_set h.running
        intro (hasked' : c.cluster ∉ c.asked)
        have hne : x.cluster ≠ c.cluster := fun heq => hasked' (heq ▸ hasked)
        rw [Holding.IsRunning, hleaves.elsewhere hne]
        exact h.running c (List.mem_of_getElem? hc) hasked'
      case removals =>
        intro y hy
        rcases List.mem_or_eq_of_mem_set hy with hold | rfl
        · obtain ⟨c', hc', hasked', t', hagent', hbelongs', hfollows'⟩ :=
            h.removals y hold
          rcases eq_or_getElem?_set hc hc' with ⟨hcreation, rfl⟩ | hother
          · rw [← hcreation]
            obtain rfl : t = t' := Option.some.inj (hagent.symm.trans hagent')
            exact ⟨_, List.getElem?_set_self hk, hasked', t, hagent,
              hleaves.belongs, hleaves.others _ _ hfollows'⟩
          · have hbelongs'' := hbelongs'.perform h.undisturbed.direct now a
            exact ⟨c', hother _, hasked', t', hagent', hbelongs'', hfollows'⟩
        · exact ⟨_, List.getElem?_set_self hk, hasked, t, hagent,
            hleaves.belongs, hleaves.follows⟩
      case asked =>
        intro k' c' hc' cluster hasked'
        have hsame :
            (w.removals.set j
                { x with script := next (w.site.perform now a).1 }).map
                Removal.address =
              w.removals.map Removal.address := by
          obtain ⟨hj, rfl⟩ := List.getElem?_eq_some_iff.mp hx
          have hself :=
            congrArg (List.map Removal.address) (List.set_getElem_self hj)
          rw [List.map_set] at hself ⊢
          exact hself
        rw [hsame]
        rcases eq_or_getElem?_of_set hc' with ⟨rfl, rfl⟩ | hold
        · exact h.asked _ c hc cluster hasked'
        · exact h.asked k' c' hold cluster hasked'

/-! ## Schedules -/

theorem arrange
    (h : Coherent s₀ bases w) (a : Arrangement) (ha : a.SparesRemovals) :
    Coherent s₀ bases (w.move (.arrange a ha)) where
  undisturbed := by
    apply h.undisturbed.withService (h.undisturbed.grown.arrange a) (ha.later _)
    cases a <;> rfl
  shared := by
    cases a <;> exact h.shared.of_eq rfl rfl rfl rfl
  creations := h.creations
  running := h.running
  removals := by
    intro x hx
    obtain ⟨c, hc, hasked, t, hagent, hbelongs, hfollows⟩ := h.removals x hx
    have hspares :
        (w.site.service.arrange a).SparesDefinition t.definitionArn :=
      hbelongs.spares.later (ha.later _)
    refine ⟨c, hc, hasked, t, hagent,
      ⟨hbelongs.task, hbelongs.definition, hspares, ?_⟩, hfollows⟩
    cases a <;> exact hbelongs.gone
  asked := h.asked

/-- Every move keeps the service shared out among the calls. -/
theorem move
    (h : Coherent s₀ bases w) (m : Move) :
    ∃ bases', Table.Extends bases bases' ∧ Coherent s₀ bases' (w.move m) := by
  have hstays : Table.Extends bases bases := fun _ _ hbase => hbase
  cases m with
  | create fresh server s r => exact ⟨bases, hstays, h.create fresh server s r⟩
  | advance k now => exact h.advance k now
  | stop k s => exact ⟨bases, hstays, h.stop k s⟩
  | advanceRemoval j now => exact ⟨bases, hstays, h.advanceRemoval j now⟩
  | arrange a ha => exact ⟨bases, hstays, h.arrange a ha⟩

/-- So does every schedule. -/
theorem play
    (h : Coherent s₀ bases w) (ms : List Move) :
    ∃ bases', Table.Extends bases bases' ∧ Coherent s₀ bases' (w.play ms) := by
  induction ms generalizing bases w with
  | nil => exact ⟨bases, fun _ _ hbase => hbase, h⟩
  | cons m ms ih =>
    obtain ⟨bases₁, hfirst, h₁⟩ := h.move m
    obtain ⟨bases₂, hsecond, h₂⟩ := ih h₁
    exact ⟨bases₂, fun a base hbase => hsecond a base (hfirst a base hbase), h₂⟩

end Traffic.Coherent
end AgentFleet

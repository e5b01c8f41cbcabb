import AgentFleet.Proofs.InStep

/-!
# Passes amid requests

A pass first reads the cluster and renews the roster later.  Meanwhile agents
are created and put on the roster.  Those that were there when the pass read
keep their places.  Those that came later are taken off the roster, and once the
next pass has put them back, a serverless one shows the placeholder that is made
from the name of its task in place of the one it was created with.
-/

namespace AgentFleet

/-- A world with a pass that may be under way, and what has become of the agents
on the roster. -/
structure Watch where
  world : World
  /-- What the pass that is under way has read. -/
  read : Option (List Agent) := none
  /-- The agents that were live when a pass last read. -/
  seen : List Agent := []
  /-- The agents that have been put on the roster. -/
  enrolled : List Agent := []
  /-- Those of them that a pass has taken off the roster since. -/
  dropped : List Agent := []

namespace Watch

/-- A request is answered. -/
def create
    (server : String) (s : Settings) (now : UInt64) (fresh : Identity)
    (r : AgentRequest) (v : Watch) : Watch :=
  { v with world := v.world.create server s now fresh r }

/-- The server puts an agent on its roster. -/
def enroll (t : Agent) (v : Watch) : Watch :=
  { v with
    world := v.world.enroll t
    enrolled := t :: v.enrolled
    dropped := v.dropped.filter (· ≠ t) }

/-- A pass reads the cluster; if it cannot, that is its end. -/
def look (server : String) (s : Settings) (now : UInt64) (v : Watch) : Watch :=
  let (result, site) := (readAgents server s).run.run now v.world.site
  match result with
  | .ok agents => { v with
      world := { v.world with site }
      read := some agents
      seen := v.world.live }
  | .error _ => { v with world := { v.world with site } }

/-- The pass renews the roster by what it has read, and that is its end. -/
def renew (agents : List Agent) (v : Watch) : Watch :=
  { v with
    world := { v.world with roster := v.world.roster.renew agents }
    read := none
    dropped := v.dropped ++ v.enrolled.filter (· ∉ v.seen) }

/-- What comes about if the steps of one pass after the other and those of
requests take turns, in any order. -/
inductive Reached (server : String) (s : Settings) : Watch → Prop where
  | start {w : World} (h : w.Lived server s) : Reached server s { world := w }
  | create {v : Watch} (h : Reached server s v) (now : UInt64)
      (fresh : Identity) (r : AgentRequest)
      (hname : fresh.agentName ∉ v.world.names) :
      Reached server s (v.create server s now fresh r)
  | enroll {v : Watch} (h : Reached server s v) {t : Agent}
      (ht : t ∈ v.world.live) : Reached server s (v.enroll t)
  | look {v : Watch} (h : Reached server s v) (now : UInt64)
      (hidle : v.read = none) : Reached server s (v.look server s now)
  | renew {v : Watch} (h : Reached server s v) {agents : List Agent}
      (hread : v.read = some agents) : Reached server s (v.renew agents)

variable {server : String} {s : Settings} {v : Watch}

/-- The two steps of a pass make up a reconciliation. -/
theorem renew_look
    (v : Watch) (server : String) (s : Settings) (now : UInt64)
    {agents : List Agent} (hidle : v.read = none)
    (hread : (v.look server s now).read = some agents) :
    ((v.look server s now).renew agents).world =
      v.world.refresh server s now := by
  rw [look] at hread ⊢
  rw [World.refresh, Roster.reconcile]
  rcases hrun :
      (readAgents server s).run.run now v.world.site with ⟨result, site⟩
  rw [hrun] at hread
  cases result with
  | error e => cases hidle.symm.trans hread
  | ok agents' =>
    obtain rfl := Option.some.inj hread
    rw [Script.run_bind_of_ok hrun]
    rfl

/-! ## Entries -/

/-- The agent `t` has an entry on the roster, which is `a` but for the place of
an agent on an instance whose name has stood for several machines. -/
def Shows (v : Watch) (t a : Agent) : Prop :=
  ∃ b : Agent, v.world.roster[t.name]? = some b ∧ b.unplaced = t.unplaced ∧
    (t.target.isServerless = true ∨ OneMachineEach v.world.added → b = a)

end Watch

@[simp]
theorem Agent.reread_name (t : Agent) : t.reread.name = t.name := by
  rw [reread]
  split <;> rfl

namespace Roster

theorem keepPlaceholder_of_none
    {r : Roster} {t : Agent} (h : r[t.name]? = none) :
    r.keepPlaceholder t = t := by
  rw [keepPlaceholder, h]

theorem keepPlaceholder_of_some
    {r : Roster} {t previous : Agent} (h : r[t.name]? = some previous) :
    r.keepPlaceholder t =
      if previous.target.isServerless && t.target.isServerless then
        { t with target := previous.target }
      else t := by
  rw [keepPlaceholder, h]

/-- An agent that is read again is shown as it was. -/
theorem keepPlaceholder_reread
    {r : Roster} {t : Agent} (h : r[t.name]? = some t) :
    r.keepPlaceholder t.reread = t := by
  rw [← t.reread_name] at h
  rw [keepPlaceholder_of_some h]
  cases htarget : t.target with
  | serverless placeholder spot =>
    have hreread :
        t.reread = { t with target := Target.ofTask spot t.taskArn } := by
      rw [Agent.reread, htarget]
    rw [if_pos (by simp [hreread, Target.ofTask, Target.isServerless]), hreread,
      ← htarget]
  | _ => simp [Agent.reread, htarget, Target.isServerless]

/-- An agent that was read before and is read again is shown as it was. -/
theorem keepPlaceholder_reread_reread
    {r : Roster} {t : Agent} (h : r[t.name]? = some t.reread) :
    r.keepPlaceholder t.reread = t.reread := by
  rw [← t.reread_name] at h
  rw [keepPlaceholder_of_some h, ite_self]

end Roster

/-! ## The invariant -/

namespace World

/-- A creation changes no roster and adds no instance, and stops no agent. -/
theorem create_keeps
    (server : String) (s : Settings) (now : UInt64) (fresh : Identity)
    (r : AgentRequest) (w : World) :
    (w.create server s now fresh r).roster = w.roster ∧
    (w.create server s now fresh r).added = w.added ∧
    ∀ t ∈ w.live, t ∈ (w.create server s now fresh r).live := by
  rw [create]
  rcases (createAgent fresh server s r).run.run now w.site with
    ⟨_ | _ | t, site⟩
  · exact ⟨rfl, rfl, fun _ ht => ht⟩
  · exact ⟨rfl, rfl, fun _ ht => ht⟩
  · exact ⟨rfl, rfl, fun _ ht => List.mem_cons_of_mem t ht⟩

end World

namespace Watch

variable {server : String} {s : Settings} {v : Watch}

/-- An agent on the roster is shown as it was created, and one that was taken
off it is shown as it is read, if it is shown at all. -/
structure Kept (server : String) (s : Settings) (v : Watch) : Prop where
  tended : v.world.Tended server s
  seen : ∀ t ∈ v.seen, t ∈ v.world.live
  names : (v.seen.map Agent.name).Nodup
  enrolled : ∀ t ∈ v.enrolled, t ∈ v.world.live
  dropped : ∀ t ∈ v.dropped, t ∈ v.enrolled
  read :
    ∀ agents, v.read = some agents → World.Reads v.world.added v.seen agents
  held : ∀ t ∈ v.enrolled, t ∉ v.dropped → v.Shows t t
  lost : ∀ t ∈ v.dropped, v.world.roster[t.name]? = none ∨ v.Shows t t.reread

namespace Kept

theorem start
    {w : World} (h : w.Lived server s) :
    Kept server s { world := w } where
  tended := h.tended
  seen := by simp
  names := by simp
  enrolled := by simp
  dropped := by simp
  read := by simp
  held := by simp
  lost := by simp

theorem create
    (h : Kept server s v) (now : UInt64) {fresh : Identity} (r : AgentRequest)
    (hname : fresh.agentName ∉ v.world.names) :
    Kept server s (v.create server s now fresh r) := by
  obtain ⟨hroster, hadded, hlive⟩ :=
    World.create_keeps server s now fresh r v.world
  have hshows :
      ∀ {t a : Agent},
        v.Shows t a → (v.create server s now fresh r).Shows t a := by
    intro t a hshows
    rwa [Shows, Watch.create, hroster, hadded]
  exact
    { tended := h.tended.create now r hname
      seen := fun t ht => hlive t (h.seen t ht)
      names := h.names
      enrolled := fun t ht => hlive t (h.enrolled t ht)
      dropped := h.dropped
      read := by
        rw [Watch.create, hadded]
        exact h.read
      held := fun t ht hkept => hshows (h.held t ht hkept)
      lost := by
        intro t ht
        rw [Watch.create, hroster]
        exact (h.lost t ht).imp_right hshows }

/-- Live agents of one name are one agent. -/
theorem eq_of_name
    (h : Kept server s v) {t t' : Agent} (ht : t ∈ v.world.live)
    (ht' : t' ∈ v.world.live) (hname : t.name = t'.name) :
    t = t' := by
  by_contra hne
  exact (h.tended.apart_live.forall ht ht' hne).name hname

theorem enroll
    (h : Kept server s v) {t : Agent} (ht : t ∈ v.world.live) :
    Kept server s (v.enroll t) := by
  have hentry : (v.enroll t).world.roster[t.name]? = some t :=
    Std.ExtTreeMap.getElem?_insert_self
  have hother : ∀ t' ∈ v.enrolled, t' ≠ t →
      (v.enroll t).world.roster[t'.name]? = v.world.roster[t'.name]? := by
    intro t' ht' hne
    refine Std.ExtTreeMap.getElem?_insert.trans (if_neg ?_)
    simpa using fun hname =>
      hne (h.eq_of_name (h.enrolled t' ht') ht hname.symm)
  have hshows : ∀ t' ∈ v.enrolled, t' ≠ t → ∀ {a : Agent}, v.Shows t' a →
      (v.enroll t).Shows t' a := by
    intro t' ht' hne a hshows
    rwa [Shows, hother t' ht' hne]
  exact
    { tended := h.tended.enroll t
      seen := h.seen
      names := h.names
      enrolled := List.forall_mem_cons.mpr ⟨ht, h.enrolled⟩
      dropped :=
        fun t' ht' =>
          List.mem_cons_of_mem t (h.dropped t' (List.mem_filter.mp ht').1)
      read := h.read
      held := by
        intro t' ht' hkept
        by_cases heq : t' = t
        · subst heq
          exact ⟨t', hentry, rfl, fun _ => rfl⟩
        · have hold := List.mem_of_ne_of_mem heq ht'
          refine hshows t' hold heq (h.held t' hold fun hdropped => hkept ?_)
          exact List.mem_filter.mpr ⟨hdropped, decide_eq_true heq⟩
      lost := by
        intro t' ht'
        obtain ⟨hdropped, hne⟩ := List.mem_filter.mp ht'
        have hne := of_decide_eq_true hne
        have hold := h.dropped t' hdropped
        rw [hother t' hold hne]
        exact (h.lost t' hdropped).imp_right (hshows t' hold hne) }

theorem look
    (h : Kept server s v) (now : UInt64) :
    Kept server s (v.look server s now) := by
  obtain ⟨agents, site', hread, hnoted, hreads⟩ := h.tended.readAgents_reads now
  rw [Watch.look, hread]
  exact
    { tended := h.tended.noted hnoted v.world.roster
      seen := fun t ht => ht
      names := h.tended.nodup_names
      enrolled := h.enrolled
      dropped := h.dropped
      read := by
        intro agents' hagents
        obtain rfl := Option.some.inj hagents
        exact hreads
      held := h.held
      lost := h.lost }

/-- Of the agents on the roster, a pass shows those that there were when it
read. -/
theorem renew_shows
    (h : Kept server s v) {agents : List Agent} (hread : v.read = some agents)
    {t : Agent} (ht : t ∈ v.enrolled) (hseen : t ∈ v.seen) :
    (v.renew agents).Shows t (if t ∈ v.dropped then t.reread else t) := by
  obtain ⟨a, hentry, hunplaced, hplaced⟩ :=
    (h.read agents hread).renew h.names hseen v.world.roster
  refine ⟨a, hentry, hunplaced, ?_⟩
  intro hplace
  rw [hplaced hplace]
  by_cases hdropped : t ∈ v.dropped
  · rw [if_pos hdropped]
    rcases h.lost t hdropped with hnone | ⟨b, hb, -, hsame⟩
    · exact Roster.keepPlaceholder_of_none (by rwa [t.reread_name])
    · exact Roster.keepPlaceholder_reread_reread (hsame hplace ▸ hb)
  · rw [if_neg hdropped]
    obtain ⟨b, hb, -, hsame⟩ := h.held t ht hdropped
    exact Roster.keepPlaceholder_reread (hsame hplace ▸ hb)

/-- Of the agents on the roster, a pass takes those off that came after it had
read. -/
theorem renew_drops
    (h : Kept server s v) {agents : List Agent} (hread : v.read = some agents)
    {t : Agent} (ht : t ∈ v.enrolled) (hunseen : t ∉ v.seen) :
    (v.renew agents).world.roster[t.name]? = none := by
  refine Roster.getElem?_renew_of_notMem ?_
  rw [(h.read agents hread).names.mem_iff, List.mem_map]
  rintro ⟨t', ht', hname⟩
  exact hunseen (h.eq_of_name (h.seen t' ht') (h.enrolled t ht) hname ▸ ht')

theorem renew
    (h : Kept server s v) {agents : List Agent} (hread : v.read = some agents) :
    Kept server s (v.renew agents) where
  tended := h.tended.noted (.refl _) _
  seen := h.seen
  names := h.names
  enrolled := h.enrolled
  dropped := by
    intro t ht
    rcases List.mem_append.mp ht with hold | hnew
    · exact h.dropped t hold
    · exact (List.mem_filter.mp hnew).1
  read := by
    intro agents' hagents
    cases hagents
  held := by
    intro t ht hkept
    rw [Watch.renew, List.mem_append, not_or] at hkept
    have hseen : t ∈ v.seen := by
      by_contra hunseen
      exact hkept.2 (List.mem_filter.mpr ⟨ht, decide_eq_true hunseen⟩)
    have hshows := h.renew_shows hread ht hseen
    rwa [if_neg hkept.1] at hshows
  lost := by
    intro t ht
    rcases List.mem_append.mp ht with hold | hnew
    · have henrolled := h.dropped t hold
      by_cases hseen : t ∈ v.seen
      · have hshows := h.renew_shows hread henrolled hseen
        rw [if_pos hold] at hshows
        exact Or.inr hshows
      · exact Or.inl (h.renew_drops hread henrolled hseen)
    · obtain ⟨henrolled, hunseen⟩ := List.mem_filter.mp hnew
      exact Or.inl (h.renew_drops hread henrolled (of_decide_eq_true hunseen))

end Kept

theorem Reached.kept (h : Reached server s v) : Kept server s v := by
  induction h with
  | start h => exact .start h
  | create _ now fresh r hname ih => exact ih.create now r hname
  | enroll _ ht ih => exact ih.enroll ht
  | look _ now _ ih => exact ih.look now
  | renew _ hread ih => exact ih.renew hread

/-- A pass can always read the cluster, and then it has seen the live agents. -/
theorem Reached.look_reads
    (h : Reached server s v) (now : UInt64) :
    ∃ agents,
      (v.look server s now).read = some agents ∧
      ∀ t ∈ v.world.live, t ∈ (v.look server s now).seen := by
  obtain ⟨agents, site', hread, -, -⟩ := h.kept.tended.readAgents_reads now
  refine ⟨agents, ?_⟩
  rw [Watch.look, hread]
  exact ⟨rfl, fun _ ht => ht⟩

/-- Once a pass has renewed the roster, the agents put on it before are there
that there were when the pass read, and no others.  Each is shown as it was
created, but for the placeholder of one that an earlier pass took off the
roster. -/
theorem Reached.renew_shows_seen
    (h : Reached server s v) {agents : List Agent}
    (hread : v.read = some agents) {t : Agent} (ht : t ∈ v.enrolled) :
    (t ∈ v.seen →
      (v.renew agents).Shows t (if t ∈ v.dropped then t.reread else t)) ∧
    (t ∉ v.seen → (v.renew agents).world.roster[t.name]? = none) :=
  ⟨h.kept.renew_shows hread ht, h.kept.renew_drops hread ht⟩

/-- Of two agents on the roster the one that was there when the pass read stays.
-/
theorem Reached.renew_shows_seen_small :
    ∃ (v : Watch) (agents : List Agent) (t t' : Agent),
      Reached "ci" smallSettings v ∧
      v.read = some agents ∧
      t ∈ v.enrolled ∧
      t' ∈ v.enrolled ∧
      (v.renew agents).Shows t t ∧
      (v.renew agents).world.roster[t'.name]? = none := by
  have hstart :
      Reached "ci" smallSettings
        { world := { site := { supply := .pool {} } } } :=
    .start (.start (.pool {}) ∅)
  have hcreated := hstart.create 0 ⟨"a", "p"⟩ smallRequest (by decide)
  have hfirst := hcreated.enroll (List.head_mem (by decide +kernel))
  have hcreated' :=
    (hfirst.look 0 rfl).create 0 ⟨"b", "q"⟩ smallRequest (by decide +kernel)
  have hsecond := hcreated'.enroll (List.head_mem (by decide +kernel))
  obtain ⟨agents, hread, hseen⟩ := hfirst.look_reads 0
  have hkept :=
    (hsecond.renew_shows_seen hread
          (List.mem_cons_of_mem _ List.mem_cons_self)).1
      (hseen _ (List.head_mem _))
  have hlost :=
    (hsecond.renew_shows_seen hread List.mem_cons_self).2 (by decide +kernel)
  rw [if_neg (by decide +kernel)] at hkept
  exact ⟨_, agents, _, _, hsecond, hread,
    List.mem_cons_of_mem _ List.mem_cons_self, List.mem_cons_self, hkept, hlost⟩

/-- An agent that is put on the roster amid a pass is taken off it, and when the
next pass puts it back it does not show the placeholder that it was created
with. -/
theorem renew_drops_enrolled :
    ∃ (v : Watch) (t : Agent),
      Reached "ci" smallSettings v ∧
      v.read = some [] ∧
      t ∈ v.enrolled ∧
      v.world.roster[t.name]? = some t ∧
      (v.renew []).world.roster[t.name]? = none ∧
      ((v.renew []).world.refresh "ci" smallSettings 0).roster[t.name]? =
        some t.reread ∧
      t.reread.target ≠ t.target := by
  have hstart :
      Reached "ci" smallSettings
        { world := { site := { supply := .pool {} } } } :=
    .start (.start (.pool {}) ∅)
  have hcreated :=
    (hstart.look 0 rfl).create 0 ⟨"a", "p"⟩ smallRequest (by decide +kernel)
  have henrolled := hcreated.enroll (List.head_mem (by decide +kernel))
  have hread :
      (look "ci" smallSettings 0
            { world := { site := { supply := .pool {} } } }).read =
        some [] := by
    decide +kernel
  have hdropped := henrolled.renew hread
  obtain ⟨agents, hagain, hseen⟩ := hdropped.look_reads 0
  obtain ⟨a, hentry, -, hplace⟩ := (hdropped.look 0 rfl).kept.renew_shows hagain
    List.mem_cons_self (hseen _ (List.head_mem _))
  rw [renew_look _ _ _ _ rfl hagain, hplace (Or.inl (by decide +kernel)),
    if_pos (by decide +kernel)] at hentry
  exact ⟨_, _, henrolled, hread, List.mem_cons_self,
    Std.ExtTreeMap.getElem?_insert_self, Std.ExtTreeMap.getElem?_empty, hentry,
    by decide +kernel⟩

end Watch
end AgentFleet

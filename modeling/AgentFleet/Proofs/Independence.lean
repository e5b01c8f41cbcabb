import AgentFleet.Proofs.Traffic

/-!
# Independence of calls

Creations and removals that go on side by side do not get in each other's way.
Every definition was there from the start or belongs to an agent or to a call in
progress, an instance is never given away twice, and once all calls are through
nothing is left of those that came to nothing.
-/

namespace AgentFleet

namespace Service

/-! ## Capacity -/

/-- What the service has reserved for a task. -/
def reservedFor (s : Service) (t : Task) : Demand :=
  s.reservations[t.arn]?.getD ⟨0, 0⟩

/-- What the tasks on an instance hold that have not been stopped. -/
def heldOn (s : Service) (arn : String) : List Demand :=
  (s.tasksOn arn).map s.reservedFor

/-- What an instance has left together with what the tasks on it hold. -/
def capacityAt? (s : Service) (arn : String) : Option Demand :=
  s.instances[arn]?.map fun i =>
    { memory := i.remainingMemory.toNat + ((s.heldOn arn).map Demand.memory).sum
      cpu := i.remainingCpu.toNat + ((s.heldOn arn).map Demand.cpu).sum }

namespace Shared

variable {s₀ s : Service} {bases : Std.ExtTreeMap String ContainerInstance}
  {hs : List Holding}

theorem tasksOn_perm
    (h : Shared s₀ bases hs s) (a : String) :
    (s.tasksOn a).Perm
      (hs.flatMap (fun hold => hold.task.toList.filter (occupies a)) ++
          s₀.tasksOn a) := by
  have hperm := (h.tasks.map Prod.snd).filter (occupies a)
  rw [← Table.values_eq_map_snd, List.map_append, List.filter_append,
    ← Table.values_eq_map_snd, List.map_flatMap, List.filter_flatMap] at hperm
  simp only [Holding.map_snd_tasks] at hperm
  exact hperm

theorem reservedFor_of_mem
    (h : Shared s₀ bases hs s) {hold : Holding} (hmem : hold ∈ hs) {t : Task}
    (ht : hold.task = some t) {a : String} (hon : occupies a t = true) :
    s.reservedFor t = hold.demand := by
  obtain ⟨ha, hactive⟩ := occupies_iff.mp hon
  have hreserved :=
    h.getElem?_reservation hmem ht (by rw [ha, Option.isSome_some]) hactive
  rw [reservedFor, hreserved, Option.getD_some]

/-- What was reserved from the start stays so, and nothing else is reserved for
the tasks that were there. -/
theorem reservedFor_of_start
    (h : Shared s₀ bases hs s) {t : Task} (ht : s₀.tasks[t.arn]? = some t) :
    s.reservedFor t = s₀.reservedFor t := by
  suffices hsame : s.reservations[t.arn]? = s₀.reservations[t.arn]? by
    rw [reservedFor, reservedFor, hsame]
  cases hd : s₀.reservations[t.arn]? with
  | some d =>
    apply Table.getElem?_of_perm h.reservations
    exact List.mem_append_right _ (Table.mem_of_perm (.refl _) hd)
  | none =>
    rw [Option.eq_none_iff_forall_ne_some]
    intro d hsome
    rcases List.mem_append.mp (Table.mem_of_perm h.reservations hsome) with
        hheld | hstart
    · obtain ⟨hold, hmem, hpair⟩ := List.mem_flatMap.mp hheld
      obtain ⟨t', ht', heq⟩ := List.mem_map.mp hpair
      have harn : t'.arn = t.arn := congrArg Prod.fst heq
      have hnodup := Table.nodup_fst_of_perm h.tasks
      rw [List.map_append, List.nodup_append] at hnodup
      refine hnodup.2.2 t.arn ?_ t.arn ?_ rfl
      · refine List.mem_map.mpr
          ⟨(t'.arn, t'), List.mem_flatMap.mpr ⟨hold, hmem, ?_⟩, harn⟩
        have htask := Option.mem_toList.mp (List.mem_filter.mp ht').1
        exact List.mem_map.mpr ⟨t', Option.mem_toList.mpr htask, rfl⟩
      · exact List.mem_map.mpr ⟨(t.arn, t), Table.mem_of_perm (.refl _) ht, rfl⟩
    · have hstored := Table.getElem?_of_perm (.refl _) hstart
      exact absurd (hd.symm.trans hstored) (Option.some_ne_none d).symm

theorem heldOn_perm
    (h : Shared s₀ bases hs s) (hsound : s₀.Sound) (a : String) :
    (s.heldOn a).Perm (hs.flatMap (Holding.demandsOn a) ++ s₀.heldOn a) := by
  have hperm := (h.tasksOn_perm a).map s.reservedFor
  have hheld :
      (hs.flatMap fun hold => hold.task.toList.filter (occupies a)).map
          s.reservedFor =
        hs.flatMap (Holding.demandsOn a) := by
    rw [List.map_flatMap]
    apply List.flatMap_congr
    intro hold hmem
    apply List.map_congr_left
    intro t ht
    obtain ⟨htask, hon⟩ := List.mem_filter.mp ht
    exact h.reservedFor_of_mem hmem (Option.mem_toList.mp htask) hon
  have hstart : (s₀.tasksOn a).map s.reservedFor = s₀.heldOn a := by
    apply List.map_congr_left
    intro t ht
    exact h.reservedFor_of_start
      (hsound.tasks.getElem?_of_mem (List.mem_filter.mp ht).1)
  rwa [List.map_append, hheld, hstart] at hperm

/-- The capacity of an instance is what it came with, and what was held of it
before. -/
theorem capacityAt?_eq
    (h : Shared s₀ bases hs s) (hsound : s₀.Sound) (a : String) :
    s.capacityAt? a =
      bases[a]?.map fun base =>
        { memory :=
            base.remainingMemory.toNat +
              ((s₀.heldOn a).map Demand.memory).sum
          cpu :=
            base.remainingCpu.toNat + ((s₀.heldOn a).map Demand.cpu).sum } := by
  have hheld := h.heldOn_perm hsound a
  have hmemory := (hheld.map Demand.memory).sum_eq
  have hcpu := (hheld.map Demand.cpu).sum_eq
  rw [List.map_append, List.sum_append] at hmemory hcpu
  cases hi : s.instances[a]? with
  | none =>
    rw [capacityAt?, hi, h.base_eq_none hi]
    rfl
  | some i =>
    obtain ⟨base, hbase, haccount⟩ := h.exists_account hi
    have hleft := haccount.memory
    have hidle := haccount.cpu
    rw [capacityAt?, hi, hbase, Option.map_some, Option.map_some,
      Option.some.injEq, Demand.mk.injEq]
    constructor <;> omega

end Shared

/-- The names of the tasks that are meant to run. -/
def runningArns (s : Service) : List String :=
  (s.tasks.values.filter fun t => t.desiredStatus = .running).map Task.arn

end Service

/-! ## Independence -/

/-- The agents that creations have answered with and that have not been asked to
stop. -/
def Traffic.live (w : Traffic) : List Agent :=
  w.creations.filterMap Creation.live?

/-- The agents that creations have answered with and that have not been asked to
stop in their clusters. -/
def Traffic.unstopped (w : Traffic) : List Agent :=
  w.creations.filterMap Creation.unstopped?

/-- Agents are only asked to stop in the clusters they are in. -/
def Traffic.StopsAtHome (w : Traffic) : Prop :=
  ∀ c ∈ w.creations, ∀ cluster ∈ c.asked, cluster = c.cluster

/-- All calls are at their end. -/
def Traffic.IsSettled (w : Traffic) : Prop :=
  (∀ c ∈ w.creations, c.script.isDone = true) ∧
  ∀ x ∈ w.removals, x.script.isDone = true

/-- No call has got in the way of another since the service was in state `s₀`.
-/
structure Traffic.Independent (s₀ : Service) (w : Traffic) : Prop where
  /-- What was there from the start is there as it was. -/
  keptDefinitions :
    ∀ (arn : String) (d : TaskDefinition),
      s₀.definitions[arn]? = some d → w.site.service.definitions[arn]? = some d
  keptTasks : ∀ (arn : String) (t : Task), s₀.tasks[arn]? = some t →
    w.site.service.tasks[arn]? = some t
  /-- What a creation has been given, and what a removal of its agent has left
  of it, is there. -/
  given :
    ∀ c ∈ w.creations,
      (∀ d : TaskDefinition,
          c.holding.definition = some d →
          w.site.service.definitions[d.arn]? = some d) ∧
      ∀ t : Task,
        c.holding.task = some t →
        w.site.service.tasks[t.arn]? = some t ∧
        (t.instanceArn.isSome →
          t.desiredStatus ≠ .stopped →
          w.site.service.reservations[t.arn]? = some c.holding.demand)
  /-- A live agent is backed by an active definition and a running task, for
  which the instance of the task has reserved what the definition takes. -/
  backed :
    ∀ c ∈ w.creations,
      ∀ a,
        c.live? = some a →
        ∃ d t,
          w.site.service.definitions[a.definitionArn]? = some d ∧
          d.status = .active ∧
          d.family = a.name ∧
          w.site.service.tasks[a.taskArn]? = some t ∧
          t.desiredStatus = .running ∧
          t.definitionArn = a.definitionArn ∧
          t.cluster = c.cluster ∧
          (t.instanceArn.isSome →
            w.site.service.reservations[a.taskArn]? = some d.demand)
  /-- A definition was there from the start, or belongs to a call in progress or
  to a live agent. -/
  owned :
    ∀ (arn : String) (d : TaskDefinition),
      w.site.service.definitions[arn]? = some d →
      s₀.definitions[arn]? = some d ∨
      ∃ (k : Nat) (c : Creation),
        w.creations[k]? = some c ∧
        c.holding.definition = some d ∧
        (c.script.isDone = false ∨
          (∃ a, c.live? = some a ∧ a.definitionArn = arn) ∨
          ∃ x ∈ w.removals, x.creation = k ∧ x.script.isDone = false)
  /-- Once all calls are through, there are the definitions that were there from
  the start and those of the live agents, and there run the tasks that ran from
  the start and those of the agents that nobody has stopped. -/
  settled :
    w.IsSettled →
    w.site.service.definitions.keys.Perm
      (w.live.map Agent.definitionArn ++ s₀.definitions.keys) ∧
    w.site.service.runningArns.Perm
      (w.unstopped.map Agent.taskArn ++ s₀.runningArns)
  /-- These are the live agents, unless one was asked to stop in a cluster that
  it is not in. -/
  unstopped : w.StopsAtHome → w.unstopped = w.live

namespace Traffic.Coherent

variable {s₀ : Service} {bases : Std.ExtTreeMap String ContainerInstance}
  {w : Traffic}

theorem live?_eq_some_iff
    {c : Creation} {a : Agent} :
    c.live? = some a ↔ c.asked = [] ∧ c.agent? = some a := by
  rw [Creation.live?]
  split <;> simp_all

theorem unstopped?_eq_some_iff
    {c : Creation} {a : Agent} :
    c.unstopped? = some a ↔ c.cluster ∉ c.asked ∧ c.agent? = some a := by
  rw [Creation.unstopped?]
  split <;> simp_all

/-- What a live agent is made up of. -/
theorem holding_of_live
    (h : Coherent s₀ bases w) {c : Creation} (hc : c ∈ w.creations) {a : Agent}
    (hlive : c.live? = some a) :
    ∃ d t,
      c.holding.definition = some d ∧
      c.holding.task = some t ∧
      d.arn = a.definitionArn ∧
      d.family = a.name ∧
      d.status = .active ∧
      t.arn = a.taskArn ∧
      t.desiredStatus = .running ∧
      t.definitionArn = a.definitionArn ∧
      t.cluster = c.cluster ∧
      c.holding.demand = d.demand := by
  obtain ⟨hasked, hagent⟩ := live?_eq_some_iff.mp hlive
  obtain ⟨hleads, hruns⟩ := h.creations c hc hasked
  rw [agent?_eq_some_iff.mp hagent] at hleads
  obtain ⟨d, t, o, target, hholding, rfl⟩ := hleads
  rw [hholding] at hruns ⊢
  obtain ⟨hrunning, hcluster, d', ⟨rfl⟩, hactive, hdefinition⟩ := hruns t rfl
  exact ⟨d, t, rfl, rfl, rfl, rfl, hactive, rfl, hrunning, hdefinition,
    hcluster, Holding.launch_demand rfl t⟩

/-- A creation that has ended without an agent has nothing left. -/
theorem holding_of_ended
    (h : Coherent s₀ bases w) {c : Creation} (hc : c ∈ w.creations)
    (hasked : c.asked = []) (hdone : c.script.isDone = true)
    (hnone : c.agent? = none) :
    c.holding = {} := by
  have hleads := (h.creations c hc hasked).leads
  cases hscript : c.script with
  | act a next =>
    rw [hscript] at hdone
    cases hdone
  | done result =>
    rw [hscript] at hleads
    rcases result with e | _ | a
    · exact hleads
    · exact hleads
    · rw [agent?_eq_some_iff.mpr hscript] at hnone
      cases hnone

/-- An agent whose removal is at its end has no definition, and its task has
been stopped if it is in the cluster. -/
theorem holding_of_removed
    {cluster : String} {a : Agent} {hold : Holding} {script : Script Unit}
    (hfollows : hold.Follows cluster a script) (hdone : script.isDone = true) :
    hold.IsHaltedIn cluster ∧ hold.definition = none := by
  cases hfollows with
  | begun s hcluster => cases hdone
  | halted hhalted => cases hdone
  | retired hhalted hretired => cases hdone
  | removed hhalted hnone => exact ⟨hhalted, hnone⟩

theorem owned
    (h : Coherent s₀ bases w) {arn : String} {d : TaskDefinition}
    (hd : w.site.service.definitions[arn]? = some d) :
    s₀.definitions[arn]? = some d ∨
    ∃ (k : Nat) (c : Creation),
      w.creations[k]? = some c ∧
      c.holding.definition = some d ∧
      (c.script.isDone = false ∨
        (∃ a, c.live? = some a ∧ a.definitionArn = arn) ∨
        ∃ x ∈ w.removals, x.creation = k ∧ x.script.isDone = false) := by
  rcases h.shared.exists_of_definition hd with hstart |
    ⟨hold, hhold, hheld, harn⟩
  · exact Or.inl hstart
  · obtain ⟨c, hc, rfl⟩ := List.mem_map.mp hhold
    obtain ⟨k, hk⟩ := List.getElem?_of_mem hc
    refine Or.inr ⟨k, c, hk, hheld, ?_⟩
    cases hasked : c.asked with
    | cons cluster others =>
      have hmem : cluster ∈ c.asked := hasked ▸ List.mem_cons_self
      obtain ⟨x, hx, hcreation, -, -, a, -, -, hfollows⟩ :=
        h.exists_removal hk hmem
      refine Or.inr (Or.inr ⟨x, hx, hcreation, ?_⟩)
      rw [← Bool.not_eq_true]
      intro hdone
      rw [(holding_of_removed hfollows hdone).2] at hheld
      cases hheld
    | nil =>
      cases hdone : c.script.isDone with
      | false => exact Or.inl rfl
      | true =>
        cases hagent : c.agent? with
        | none =>
          rw [h.holding_of_ended hc hasked hdone hagent] at hheld
          cases hheld
        | some a =>
          have hlive := live?_eq_some_iff.mpr ⟨hasked, hagent⟩
          obtain ⟨d', t, hd', -, hname, -⟩ := h.holding_of_live hc hlive
          obtain rfl : d = d' := Option.some.inj (hheld.symm.trans hd')
          exact Or.inr (Or.inl ⟨a, hlive, hname.symm.trans harn⟩)

/-- The definition that a creation holds once all calls are through is that of a
live agent. -/
theorem definition_of_settled
    (h : Coherent s₀ bases w) (hsettled : w.IsSettled) {c : Creation}
    (hc : c ∈ w.creations) :
    c.holding.definitions.map Prod.fst =
      c.live?.toList.map Agent.definitionArn := by
  obtain ⟨hcreations, hremovals⟩ := hsettled
  cases hasked : c.asked with
  | cons cluster others =>
    have hmem : cluster ∈ c.asked := hasked ▸ List.mem_cons_self
    obtain ⟨k, hk⟩ := List.getElem?_of_mem hc
    obtain ⟨x, hx, -, -, -, a, -, -, hfollows⟩ := h.exists_removal hk hmem
    have hnone := (holding_of_removed hfollows (hremovals x hx)).2
    simp [Holding.definitions, hnone, Creation.live?, hasked]
  | nil =>
    cases hagent : c.agent? with
    | none =>
      rw [h.holding_of_ended hc hasked (hcreations c hc) hagent, Creation.live?,
        hagent, ite_self]
      rfl
    | some a =>
      have hlive := live?_eq_some_iff.mpr ⟨hasked, hagent⟩
      obtain ⟨d, t, hd, -, hdefinition, -⟩ := h.holding_of_live hc hlive
      simp [Holding.definitions, hd, hdefinition, hlive]

/-- A task that a creation holds once all calls are through runs if nobody has
stopped it. -/
theorem task_of_settled
    (h : Coherent s₀ bases w) (hsettled : w.IsSettled) {c : Creation}
    (hc : c ∈ w.creations) :
    (c.holding.task.toList.filter fun t => t.desiredStatus = .running).map
        Task.arn =
      c.unstopped?.toList.map Agent.taskArn := by
  obtain ⟨hcreations, hremovals⟩ := hsettled
  obtain ⟨k, hk⟩ := List.getElem?_of_mem hc
  cases hagent : c.agent? with
  | none =>
    have hasked : c.asked = [] := by
      rw [List.eq_nil_iff_forall_not_mem]
      intro cluster hmem
      obtain ⟨x, -, -, -, -, a, hsome, -⟩ := h.exists_removal hk hmem
      rw [hagent] at hsome
      cases hsome
    rw [h.holding_of_ended hc hasked (hcreations c hc) hagent,
      Creation.unstopped?, hagent, ite_self]
    rfl
  | some a =>
    obtain ⟨t, ht, harn, hcluster⟩ := (h.belongs hk hagent).task
    by_cases hstopped : c.cluster ∈ c.asked
    · obtain ⟨x, hx, -, hhome, -, a', -, -, hfollows⟩ :=
        h.exists_removal hk hstopped
      have hhalted := (holding_of_removed hfollows (hremovals x hx)).1 t ht
        (hcluster.trans hhome.symm)
      simp [ht, hhalted, Creation.unstopped?, hstopped]
    · have hrunning := h.running c hc hstopped t ht
      simp [ht, hrunning, harn, unstopped?_eq_some_iff.mpr ⟨hstopped, hagent⟩]

theorem map_filterMap
    {β : Type} (f : Agent → β) (g : Creation → Option Agent)
    (cs : List Creation) :
    (cs.filterMap g).map f = cs.flatMap fun c => (g c).toList.map f := by
  rw [List.filterMap_eq_flatMap_toList, List.map_flatMap]

theorem settled_definitions
    (h : Coherent s₀ bases w) (hsettled : w.IsSettled) :
    w.site.service.definitions.keys.Perm
      (w.live.map Agent.definitionArn ++ s₀.definitions.keys) := by
  have hperm := h.shared.definitions.map Prod.fst
  have hheld :
      ((w.creations.map Creation.holding).flatMap Holding.definitions).map
          Prod.fst =
        w.live.map Agent.definitionArn := by
    rw [List.map_flatMap, List.flatMap_map, Traffic.live, map_filterMap]
    apply List.flatMap_congr
    intro c hc
    exact h.definition_of_settled hsettled hc
  rwa [List.map_append, hheld, Std.ExtTreeMap.map_fst_toList_eq_keys,
    Std.ExtTreeMap.map_fst_toList_eq_keys] at hperm

theorem settled_tasks
    (h : Coherent s₀ bases w) (hsettled : w.IsSettled) :
    w.site.service.runningArns.Perm
      (w.unstopped.map Agent.taskArn ++ s₀.runningArns) := by
  have hperm :=
    ((h.shared.tasks.map Prod.snd).filter fun t =>
          t.desiredStatus = .running).map Task.arn
  have hheld : ((((w.creations.map Creation.holding).flatMap Holding.tasks).map
      Prod.snd).filter fun t => t.desiredStatus = .running).map Task.arn =
        w.unstopped.map Agent.taskArn := by
    rw [List.map_flatMap, List.filter_flatMap, List.map_flatMap,
      List.flatMap_map, Traffic.unstopped, map_filterMap]
    apply List.flatMap_congr
    intro c hc
    rw [Holding.map_snd_tasks]
    exact h.task_of_settled hsettled hc
  rwa [List.map_append, List.filter_append, List.map_append, hheld,
    ← Table.values_eq_map_snd, ← Table.values_eq_map_snd] at hperm

/-- An agent that is asked to stop only where it is has been stopped if it has
been asked. -/
theorem unstopped_eq_live (hhome : w.StopsAtHome) : w.unstopped = w.live := by
  apply List.filterMap_congr
  intro c hc
  rw [Creation.unstopped?, Creation.live?]
  cases hasked : c.asked with
  | nil => rw [if_neg List.not_mem_nil, if_pos rfl]
  | cons cluster others =>
    have hmem : cluster ∈ c.asked := hasked ▸ List.mem_cons_self
    obtain rfl := hhome c hc cluster hmem
    rw [if_pos List.mem_cons_self, if_neg (List.cons_ne_nil _ _)]

theorem independent (h : Coherent s₀ bases w) : w.Independent s₀ where
  keptDefinitions := fun _ _ hd => h.shared.getElem?_startDefinition hd
  keptTasks := fun _ _ ht => h.shared.getElem?_startTask ht
  given := by
    intro c hc
    have hmem : c.holding ∈ w.creations.map Creation.holding :=
      List.mem_map_of_mem hc
    constructor
    · intro d hd
      exact h.shared.getElem?_definition hmem hd
    · intro t ht
      exact ⟨h.shared.getElem?_task hmem ht,
        h.shared.getElem?_reservation hmem ht⟩
  backed := by
    intro c hc a hlive
    have hmem : c.holding ∈ w.creations.map Creation.holding :=
      List.mem_map_of_mem hc
    obtain ⟨d, t, hd, ht, hdefinition, hfamily, hactive, htask, hrunning, hfrom,
      hcluster, hdemand⟩ := h.holding_of_live hc hlive
    have hstored := h.shared.getElem?_definition hmem hd
    have hlaunched := h.shared.getElem?_task hmem ht
    have hreserved := h.shared.getElem?_reservation hmem ht
    rw [hdefinition] at hstored
    rw [htask] at hlaunched
    rw [htask, hdemand, hrunning] at hreserved
    exact ⟨d, t, hstored, hactive, hfamily, hlaunched, hrunning, hfrom,
      hcluster, fun hon => hreserved hon DesiredStatus.noConfusion⟩
  owned := fun _ _ hd => h.owned hd
  settled :=
    fun hsettled => ⟨h.settled_definitions hsettled, h.settled_tasks hsettled⟩
  unstopped := unstopped_eq_live

end Traffic.Coherent

/-- Over every schedule, the calls in progress are independent of each other,
and an instance that has joined keeps its capacity. -/
theorem Traffic.play_independent
    {site : Site} (hsite : site.Undisturbed) (hbounded : site.service.Bounded)
    (ms : List Move) :
    (play { site } ms).Independent site.service ∧
    ∀ (ms' : List Move) (arn : String) (capacity : Demand),
      (play { site } ms).site.service.capacityAt? arn = some capacity →
      (play { site } (ms ++ ms')).site.service.capacityAt? arn =
        some capacity := by
  obtain ⟨bases, -, hcoherent⟩ := (Coherent.start hsite hbounded).play ms
  refine ⟨hcoherent.independent, ?_⟩
  intro ms' arn capacity hcapacity
  obtain ⟨bases', hextends, hlater⟩ := hcoherent.play ms'
  have hsound := hsite.grown.sound
  rw [hcoherent.shared.capacityAt?_eq hsound] at hcapacity
  obtain ⟨base, hbase, hsum⟩ := Option.map_eq_some_iff.mp hcapacity
  rw [play, List.foldl_append]
  refine (hlater.shared.capacityAt?_eq hsound arn).trans ?_
  rw [hextends arn base hbase, Option.map_some, hsum]

/-- Three creations take turns, and the first attempt to run a serverless task
is refused. -/
def rush : List Move :=
  [.create ⟨"a", "p"⟩ "ci" smallSettings hostedRequest,
    .create ⟨"b", "q"⟩ "ci" smallSettings smallRequest,
    .create ⟨"c", "r"⟩ "ci" smallSettings smallRequest,
    .arrange (.refuseNextRun (.throttled "slow down")) trivial] ++
  (List.replicate 12 [.advance 0 0, .advance 1 0, .advance 2 0]).flatten

/-- The agent of the first creation is removed twice at once. -/
def farewell : List Move :=
  [.stop 0 smallSettings, .stop 0 smallSettings] ++
  (List.replicate 3 [.advanceRemoval 0 0, .advanceRemoval 1 0]).flatten

/-- Of the three agents one has been removed, one has never come to be, and the
third one lives. -/
theorem Traffic.play_independent_rush :
    ∃ w,
      w = play { site := {} } (rush ++ farewell) ∧
      w.live.map Agent.name = ["GoCDc"] ∧
      w.unstopped.map Agent.name = ["GoCDc"] ∧
      w.site.service.definitions.keys.Perm (w.live.map Agent.definitionArn) ∧
      w.site.service.runningArns.Perm (w.unstopped.map Agent.taskArn) ∧
      w.site.service.capacityAt? (Pool.instanceArn "agents" 1) =
        some ⟨8192, 4096⟩ := by
  have hsite : ({} : Site).Undisturbed :=
    ⟨rfl, .empty, rfl, rfl, fun _ _ _ => Std.ExtTreeMap.getElem?_empty⟩
  have hbounded : ({} : Site).service.Bounded := by
    intro arn i hi
    have hnone : ({} : Site).service.instances[arn]? = none :=
      Std.ExtTreeMap.getElem?_empty
    exact absurd (hnone.symm.trans hi) (Option.some_ne_none i).symm
  obtain ⟨-, hcapacity⟩ := play_independent hsite hbounded rush
  obtain ⟨hindependent, -⟩ := play_independent hsite hbounded (rush ++ farewell)
  obtain ⟨hcreations, hremovals, hlive, hunstopped⟩ :
      (play { site := {} } (rush ++ farewell)).creations.all (·.script.isDone) =
        true ∧
      (play { site := {} } (rush ++ farewell)).removals.all (·.script.isDone) =
        true ∧
      (play { site := {} } (rush ++ farewell)).live.map Agent.name = ["GoCDc"] ∧
      (play { site := {} } (rush ++ farewell)).unstopped.map Agent.name =
        ["GoCDc"] := by
    decide +kernel
  have hsettled : (play { site := {} } (rush ++ farewell)).IsSettled :=
    ⟨List.all_eq_true.mp hcreations, List.all_eq_true.mp hremovals⟩
  obtain ⟨hdefinitions, htasks⟩ := hindependent.settled hsettled
  refine ⟨_, rfl, hlive, hunstopped, ?_, ?_, ?_⟩
  · exact hdefinitions.trans (.of_eq (List.append_nil _))
  · exact htasks.trans (.of_eq (List.append_nil _))
  · exact hcapacity farewell _ _ (by decide +kernel)

end AgentFleet

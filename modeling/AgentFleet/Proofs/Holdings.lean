import Mathlib.Data.List.Perm.Basic
import AgentFleet.Proofs.Balance
import AgentFleet.Proofs.Creating
import AgentFleet.Proofs.Grown

/-!
# Holdings

Several calls in progress share one service, and what each of them has been
given there is its holding: a definition, a task and what the task takes.  The
tables of the service are made up of the holdings and of what was there before,
with nothing left over and nothing counted twice, so whatever a call does to its
own holding leaves all of the others as they are.
-/

namespace AgentFleet

open Service (occupies stopped retired)

/-- What a call, or the agent that came of it, has been given by a service. -/
structure Holding where
  definition : Option TaskDefinition := none
  task : Option Task := none
  /-- What the task takes. -/
  demand : Demand := ⟨0, 0⟩

namespace Holding

/-- The definition under its name. -/
def definitions (h : Holding) : List (String × TaskDefinition) :=
  h.definition.toList.map fun d => (d.arn, d)

/-- The task under its name. -/
def tasks (h : Holding) : List (String × Task) :=
  h.task.toList.map fun t => (t.arn, t)

/-- What is reserved for the task: what it takes, as long as it is on an
instance and has not been stopped. -/
def reservations (h : Holding) : List (String × Demand) :=
  (h.task.toList.filter fun t =>
        t.instanceArn.isSome ∧ t.desiredStatus ≠ .stopped).map fun t =>
    (t.arn, h.demand)

/-- What the task takes of an instance. -/
def demandsOn (arn : String) (h : Holding) : List Demand :=
  (h.task.toList.filter (occupies arn)).map fun _ => h.demand

/-- The holding with a task started from its definition. -/
def launch (h : Holding) (t : Task) : Holding where
  definition := h.definition
  task := some t
  demand := (h.definition.map TaskDefinition.demand).getD ⟨0, 0⟩

/-- The holding once its task has been stopped. -/
def halt (h : Holding) : Holding :=
  { h with task := h.task.map stopped }

/-- The holding once its definition has been deregistered. -/
def retire (h : Holding) : Holding :=
  { h with definition := h.definition.map retired }

/-- The holding once its definition has been deleted. -/
def forget (h : Holding) : Holding :=
  { h with definition := none }

variable {h : Holding} {t : Task}

theorem map_snd_tasks (h : Holding) : h.tasks.map Prod.snd = h.task.toList := by
  rw [tasks, List.map_map]
  exact List.map_id _

theorem retire_of_none (hnone : h.definition = none) : h.retire = h := by
  cases h
  cases hnone
  rfl

theorem forget_of_none (hnone : h.definition = none) : h.forget = h := by
  cases h
  cases hnone
  rfl

theorem launch_demand
    {d : TaskDefinition} (hd : h.definition = some d) (t : Task) :
    (h.launch t).demand = d.demand := by
  simp [launch, hd]

theorem reservations_of_placed
    (ht : h.task = some t) (hon : t.instanceArn.isSome)
    (hactive : t.desiredStatus ≠ .stopped) :
    h.reservations = [(t.arn, h.demand)] := by
  simp [reservations, ht, hon, hactive]

theorem reservations_of_unplaced
    (ht : h.task = some t)
    (hoff : t.instanceArn.isSome → t.desiredStatus = .stopped) :
    h.reservations = [] := by
  simpa [reservations, ht] using hoff

theorem demandsOn_of_occupies
    {arn : String} (ht : h.task = some t) (hon : occupies arn t = true) :
    h.demandsOn arn = [h.demand] := by
  simp [demandsOn, ht, List.filter_cons_of_pos hon]

theorem demandsOn_of_not_occupies
    {arn : String} (ht : h.task = some t) (hoff : ¬occupies arn t = true) :
    h.demandsOn arn = [] := by
  simp [demandsOn, ht, List.filter_cons_of_neg hoff]

theorem demandsOn_eq_nil
    {arn : String}
    (hoff : ∀ t : Task, h.task = some t → ¬occupies arn t = true) :
    h.demandsOn arn = [] := by
  cases ht : h.task with
  | none => simp [demandsOn, ht]
  | some t => exact demandsOn_of_not_occupies ht (hoff t ht)

end Holding

/-! ## Shared services -/

/-- There is an account of an instance if and only if the instance is there. -/
def Accounted (base i : Option ContainerInstance) (ds : List Demand) : Prop :=
  Option.Rel (fun base i => Account base i ds) base i

theorem Accounted.perm
    {base i : Option ContainerInstance} {ds ds' : List Demand}
    (h : Accounted base i ds) (hperm : ds'.Perm ds) :
    Accounted base i ds' := by
  cases h with
  | some haccount => exact .some (haccount.perm hperm)
  | none => exact .none

theorem Accounted.exists_base
    {base : Option ContainerInstance} {i : ContainerInstance} {ds : List Demand}
    (h : Accounted base (some i) ds) :
    ∃ base' : ContainerInstance, base = some base' ∧ Account base' i ds := by
  cases h with
  | some haccount => exact ⟨_, rfl, haccount⟩

namespace Service

/-- No instance has more left than it has altogether. -/
def Bounded (s : Service) : Prop :=
  ∀ (arn : String) (i : ContainerInstance), s.instances[arn]? = some i →
    i.remainingMemory.toNat ≤ i.registeredMemory.toNat ∧
      i.remainingCpu.toNat ≤ i.registeredCpu.toNat

/-- The records of a service are those it started out with and those of the
holdings, one for one, and each instance is as it came but for what the tasks of
the holdings take. -/
structure Shared
    (s₀ : Service) (bases : Std.ExtTreeMap String ContainerInstance)
    (hs : List Holding) (s : Service) : Prop where
  definitions : s.definitions.toList.Perm
    (hs.flatMap Holding.definitions ++ s₀.definitions.toList)
  tasks : s.tasks.toList.Perm (hs.flatMap Holding.tasks ++ s₀.tasks.toList)
  reservations : s.reservations.toList.Perm
    (hs.flatMap Holding.reservations ++ s₀.reservations.toList)
  placed :
    ∀ h ∈ hs,
      ∀ (t : Task) (a : String),
        h.task = some t →
        t.instanceArn = some a →
        ∃ i : ContainerInstance, s.instances[a]? = some i
  accounts : ∀ a : String,
    Accounted bases[a]? s.instances[a]? (hs.flatMap (Holding.demandsOn a))

namespace Shared

variable {s₀ s s' : Service} {bases : Std.ExtTreeMap String ContainerInstance}
  {hs rest : List Holding} {h : Holding}

/-- A service with no call in progress has just what it started out with. -/
theorem start (hbounded : s₀.Bounded) : Shared s₀ s₀.instances [] s₀ where
  definitions := .refl _
  tasks := .refl _
  reservations := .refl _
  placed := by simp
  accounts := by
    intro a
    cases hi : s₀.instances[a]? with
    | none => exact .none
    | some i =>
      obtain ⟨hmemory, hcpu⟩ := hbounded a i hi
      exact .some ⟨rfl, rfl, rfl, rfl, rfl, hmemory, hcpu⟩

theorem exists_account
    (h : Shared s₀ bases hs s) {a : String} {i : ContainerInstance}
    (hi : s.instances[a]? = some i) :
    ∃ base : ContainerInstance,
      bases[a]? = some base ∧
      Account base i (hs.flatMap (Holding.demandsOn a)) := by
  have haccounted := h.accounts a
  rw [hi] at haccounted
  exact haccounted.exists_base

/-- The order of the holdings does not matter. -/
theorem perm
    (h : Shared s₀ bases hs s) {hs' : List Holding} (hperm : hs'.Perm hs) :
    Shared s₀ bases hs' s where
  definitions :=
    h.definitions.trans ((hperm.flatMap_right _).symm.append_right _)
  tasks := h.tasks.trans ((hperm.flatMap_right _).symm.append_right _)
  reservations :=
    h.reservations.trans ((hperm.flatMap_right _).symm.append_right _)
  placed := fun hold hmem => h.placed hold (hperm.mem_iff.mp hmem)
  accounts := fun a => (h.accounts a).perm (hperm.flatMap_right _)

/-- A call that has been given nothing yet changes nothing. -/
theorem cons_empty
    (h : Shared s₀ bases hs s) :
    Shared s₀ bases ({} :: hs) s where
  definitions := h.definitions
  tasks := h.tasks
  reservations := h.reservations
  placed := by
    intro hold hmem t a ht
    rcases List.mem_cons.mp hmem with rfl | hmem
    · cases ht
    · exact h.placed hold hmem t a ht
  accounts := h.accounts

/-- Sharing is about the records only. -/
theorem of_eq
    (h : Shared s₀ bases hs s) (hdefinitions : s'.definitions = s.definitions)
    (htasks : s'.tasks = s.tasks)
    (hreservations : s'.reservations = s.reservations)
    (hinstances : s'.instances = s.instances) :
    Shared s₀ bases hs s' where
  definitions := hdefinitions ▸ h.definitions
  tasks := htasks ▸ h.tasks
  reservations := hreservations ▸ h.reservations
  placed := hinstances ▸ h.placed
  accounts := hinstances ▸ h.accounts

/-- A call that is noted changes no records. -/
theorem noted
    (h : Shared s₀ bases hs s) (cs : List Call) :
    Shared s₀ bases hs (s.noted cs) :=
  h.of_eq rfl rfl rfl rfl

/-! ## Looking up holdings -/

theorem getElem?_definition
    (h : Shared s₀ bases hs s) {hold : Holding} (hmem : hold ∈ hs)
    {d : TaskDefinition} (hd : hold.definition = some d) :
    s.definitions[d.arn]? = some d := by
  apply Table.getElem?_of_perm h.definitions
  apply List.mem_append_left
  exact List.mem_flatMap.mpr ⟨hold, hmem, by simp [Holding.definitions, hd]⟩

theorem getElem?_task
    (h : Shared s₀ bases hs s) {hold : Holding} (hmem : hold ∈ hs) {t : Task}
    (ht : hold.task = some t) :
    s.tasks[t.arn]? = some t := by
  apply Table.getElem?_of_perm h.tasks
  apply List.mem_append_left
  exact List.mem_flatMap.mpr ⟨hold, hmem, by simp [Holding.tasks, ht]⟩

theorem getElem?_reservation
    (h : Shared s₀ bases hs s) {hold : Holding} (hmem : hold ∈ hs) {t : Task}
    (ht : hold.task = some t) (hon : t.instanceArn.isSome)
    (hactive : t.desiredStatus ≠ .stopped) :
    s.reservations[t.arn]? = some hold.demand := by
  apply Table.getElem?_of_perm h.reservations
  apply List.mem_append_left
  refine List.mem_flatMap.mpr ⟨hold, hmem, ?_⟩
  rw [Holding.reservations_of_placed ht hon hactive]
  exact List.mem_cons_self

theorem getElem?_startDefinition
    (h : Shared s₀ bases hs s) {arn : String} {d : TaskDefinition}
    (hd : s₀.definitions[arn]? = some d) :
    s.definitions[arn]? = some d :=
  Table.getElem?_of_perm h.definitions
    (List.mem_append_right _ (Table.mem_of_perm (.refl _) hd))

theorem getElem?_startTask
    (h : Shared s₀ bases hs s) {arn : String} {t : Task}
    (ht : s₀.tasks[arn]? = some t) :
    s.tasks[arn]? = some t :=
  Table.getElem?_of_perm h.tasks
    (List.mem_append_right _ (Table.mem_of_perm (.refl _) ht))

/-- A definition was there from the start, or some call holds it. -/
theorem exists_of_definition
    (h : Shared s₀ bases hs s) {arn : String} {d : TaskDefinition}
    (hd : s.definitions[arn]? = some d) :
    s₀.definitions[arn]? = some d ∨
    ∃ hold ∈ hs, hold.definition = some d ∧ d.arn = arn := by
  rcases List.mem_append.mp (Table.mem_of_perm h.definitions hd) with hheld |
    hstart
  · obtain ⟨hold, hmem, hpair⟩ := List.mem_flatMap.mp hheld
    simp only [Holding.definitions, List.mem_map, Option.mem_toList,
      Prod.mk.injEq] at hpair
    obtain ⟨d', hd', harn, rfl⟩ := hpair
    exact Or.inr ⟨hold, hmem, hd', harn⟩
  · exact Or.inl (Std.ExtTreeMap.mem_toList_iff_getElem?_eq_some.mp hstart)

/-! ## Definitions -/

/-- The definition of a holding changes, and nothing else does. -/
theorem setDefinition
    (hshared : Shared s₀ bases (h :: rest) s)
    {definition : Option TaskDefinition}
    (hdefinitions : s'.definitions.toList.Perm
        (({ h with definition } :: rest).flatMap Holding.definitions ++
            s₀.definitions.toList)) (htasks : s'.tasks = s.tasks)
    (hreservations : s'.reservations = s.reservations)
    (hinstances : s'.instances = s.instances) :
    Shared s₀ bases ({ h with definition } :: rest) s' where
  definitions := hdefinitions
  tasks := htasks ▸ hshared.tasks
  reservations := hreservations ▸ hshared.reservations
  placed := by
    intro hold hmem t a ht
    rw [hinstances]
    rcases List.mem_cons.mp hmem with rfl | hmem
    · exact hshared.placed h List.mem_cons_self t a ht
    · exact hshared.placed hold (List.mem_cons_of_mem _ hmem) t a ht
  accounts := hinstances ▸ hshared.accounts

theorem register
    (h : Shared s₀ bases ({} :: rest) s) (hsound : s.Sound) (r : Registration) :
    Shared s₀ bases ({ definition := some (s.nextDefinition r) } :: rest)
      (s.register r).2 := by
  refine h.setDefinition ?_ rfl rfl rfl
  exact Table.insert_perm_of_new h.definitions
    (hsound.getElem?_definitionArn r.family) _

theorem definitions_cons
    {d : TaskDefinition} (hd : h.definition = some d) :
    (h :: rest).flatMap Holding.definitions ++ s₀.definitions.toList =
      (d.arn, d) ::
        (rest.flatMap Holding.definitions ++ s₀.definitions.toList) := by
  simp [Holding.definitions, hd]

/-- The definition of a holding is changed, under its name. -/
theorem redefine
    (hshared : Shared s₀ bases (h :: rest) s) {d : TaskDefinition}
    (hd : h.definition = some d) :
    Shared s₀ bases (h.retire :: rest)
      { s with definitions := s.definitions.insert d.arn (retired d) } := by
  refine hshared.setDefinition ?_ rfl rfl rfl
  have hbefore := hshared.definitions
  rw [definitions_cons hd] at hbefore
  rw [hd, Option.map_some, definitions_cons rfl, retired_arn]
  exact Table.insert_perm_of_old hbefore _

/-- The definition of a holding is removed. -/
theorem undefine
    (hshared : Shared s₀ bases (h :: rest) s) {d : TaskDefinition}
    (hd : h.definition = some d) :
    Shared s₀ bases (h.forget :: rest)
      { s with definitions := s.definitions.erase d.arn } := by
  refine hshared.setDefinition ?_ rfl rfl rfl
  have hbefore := hshared.definitions
  rw [definitions_cons hd] at hbefore
  exact Table.erase_perm hbefore

/-! ## Tasks -/

theorem tasks_cons
    {t : Task} (ht : h.task = some t) :
    (h :: rest).flatMap Holding.tasks ++ s₀.tasks.toList =
      (t.arn, t) :: (rest.flatMap Holding.tasks ++ s₀.tasks.toList) := by
  simp [Holding.tasks, ht]

theorem tasks_cons_of_none
    (hfree : h.task = none) :
    (h :: rest).flatMap Holding.tasks = rest.flatMap Holding.tasks := by
  simp [Holding.tasks, hfree]

theorem reservations_cons_of_nil
    (hnil : h.reservations = []) :
    (h :: rest).flatMap Holding.reservations =
      rest.flatMap Holding.reservations := by
  simp [hnil]

theorem demandsOn_cons_of_nil
    {a : String} (hnil : h.demandsOn a = []) :
    (h :: rest).flatMap (Holding.demandsOn a) =
      rest.flatMap (Holding.demandsOn a) := by
  simp [hnil]

/-- A task that is launched goes to a holding that has none. -/
theorem launched
    (hshared : Shared s₀ bases (h :: rest) s) (hsound : s.Sound)
    (hfree : h.task = none) {t : Task} {cluster : String}
    (ht : t.arn = taskArn cluster (s.launched + 1)) :
    (s.tasks.insert t.arn t).toList.Perm
      ((h.launch t :: rest).flatMap Holding.tasks ++ s₀.tasks.toList) := by
  have hbefore := hshared.tasks
  rw [tasks_cons_of_none hfree] at hbefore
  have hnew : s.tasks[t.arn]? = none := by
    rw [ht]
    exact hsound.getElem?_taskArn cluster
  rw [tasks_cons rfl]
  exact Table.insert_perm_of_new hbefore hnew t

/-- A serverless task is launched from the definition of a holding. -/
theorem run
    (hshared : Shared s₀ bases (h :: rest) s) (hsound : s.Sound)
    (hfree : h.task = none) (now : UInt64) (cluster : String)
    (d : TaskDefinition) (launchType : Option Capacity)
    (provider : Option String) :
    Shared s₀ bases
      (h.launch (s.nextTask now cluster d none launchType provider) :: rest)
      (s.launch now cluster d none launchType provider).2 where
  definitions := hshared.definitions
  tasks := hshared.launched hsound hfree
    (nextTask_arn now cluster d none launchType provider s)
  reservations := by
    have hbefore := hshared.reservations
    rwa [reservations_cons_of_nil (by simp [Holding.reservations, hfree])]
      at hbefore
  placed := by
    intro hold hmem t a ht ha
    rcases List.mem_cons.mp hmem with rfl | hmem
    · cases ht
      cases ha
    · exact hshared.placed hold (List.mem_cons_of_mem _ hmem) t a ht ha
  accounts := by
    intro a
    have hbefore := hshared.accounts a
    rwa [demandsOn_cons_of_nil (by simp [Holding.demandsOn, hfree])] at hbefore

/-- A task is started on an instance from the definition of a holding. -/
theorem startOn
    (hshared : Shared s₀ bases (h :: rest) s) (hsound : s.Sound)
    (hreserves : s.ReservesForTasks) {d : TaskDefinition}
    (hd : h.definition = some d) (hfree : h.task = none) (now : UInt64)
    (cluster : String) {arn : String} {i : ContainerInstance}
    (hi : s.instances[arn]? = some i)
    (hmemory : d.demand.memory ≤ i.remainingMemory.toNat)
    (hcpu : d.demand.cpu ≤ i.remainingCpu.toNat)
    (hfits : i.pendingTasks.toNat + 1 < 2 ^ 32) :
    Shared s₀ bases
      (h.launch (s.nextTask now cluster d (some arn) (some .ec2) none) :: rest)
      (s.afterStart now cluster d i arn) where
  definitions := hshared.definitions
  tasks := hshared.launched hsound hfree
    (nextTask_arn now cluster d (some arn) (some .ec2) none s)
  reservations := by
    have hbefore := hshared.reservations
    rw [reservations_cons_of_nil (by simp [Holding.reservations, hfree])]
      at hbefore
    have hnew : s.reservations[taskArn cluster (s.launched + 1)]? = none := by
      apply hreserves.reservations_eq_none
      intro t ht
      exact absurd ((hsound.getElem?_taskArn cluster).symm.trans ht)
        (Option.some_ne_none t).symm
    rw [List.flatMap_cons,
      Holding.reservations_of_placed rfl rfl DesiredStatus.noConfusion,
      Holding.launch_demand hd]
    exact Table.insert_perm_of_new hbefore hnew d.demand
  placed := by
    intro hold hmem t a ht ha
    by_cases heq : arn = a
    · exact ⟨_, Table.getElem?_insert_eq_some_iff.mpr (Or.inl ⟨heq, rfl⟩)⟩
    · rcases List.mem_cons.mp hmem with rfl | hmem
      · cases ht
        exact absurd (Option.some.inj ha) heq
      · obtain ⟨j, hj⟩ :=
          hshared.placed hold (List.mem_cons_of_mem _ hmem) t a ht ha
        exact ⟨j, Table.getElem?_insert_eq_some_iff.mpr (Or.inr ⟨heq, hj⟩)⟩
  accounts := by
    intro a
    have hnone : h.demandsOn a = [] := by simp [Holding.demandsOn, hfree]
    change Accounted bases[a]? (s.instances.insert arn (i.reserve d.demand))[a]?
      _
    by_cases heq : arn = a
    · subst heq
      obtain ⟨base, hbase, haccount⟩ := hshared.exists_account hi
      have hpending := haccount.pending
      rw [demandsOn_cons_of_nil hnone] at haccount hpending
      rw [Std.ExtTreeMap.getElem?_insert_self, hbase, List.flatMap_cons,
        Holding.demandsOn_of_occupies rfl (by simp [nextTask, Service.launch]),
        Holding.launch_demand hd]
      exact .some (haccount.reserve hmemory hcpu (by omega))
    · have hbefore := hshared.accounts a
      rw [demandsOn_cons_of_nil hnone] at hbefore
      rw [Std.ExtTreeMap.getElem?_insert, if_neg (by simpa using heq),
        demandsOn_cons_of_nil
          (Holding.demandsOn_of_not_occupies rfl
              (by simp [nextTask, Service.launch, heq]))]
      exact hbefore

/-! ## Stops -/

/-- The task of a holding is stopped, and instances and reservations follow. -/
theorem stopAt
    (hshared : Shared s₀ bases (h :: rest) s) {t : Task} (ht : h.task = some t)
    {instances : Std.ExtTreeMap String ContainerInstance}
    {reservations : Std.ExtTreeMap String Demand}
    (hreservations : reservations.toList.Perm
        (rest.flatMap Holding.reservations ++ s₀.reservations.toList))
    (hkept : ∀ (a : String) (i : ContainerInstance),
        s.instances[a]? = some i →
        ∃ i' : ContainerInstance, instances[a]? = some i')
    (haccounts : ∀ a : String,
        Accounted bases[a]? instances[a]?
          (rest.flatMap (Holding.demandsOn a))) :
    Shared s₀ bases (h.halt :: rest)
      { s with
        instances
        reservations
        tasks := s.tasks.insert t.arn (stopped t) } where
  definitions := hshared.definitions
  tasks := by
    have hbefore := hshared.tasks
    rw [tasks_cons ht] at hbefore
    have hhalted : h.halt.task = some (stopped t) := by
      rw [Holding.halt, ht]
      rfl
    rw [tasks_cons hhalted]
    exact Table.insert_perm_of_old hbefore (stopped t)
  reservations := by
    have hnil : h.halt.reservations = [] := by
      simp [Holding.halt, Holding.reservations, ht, stopped]
    rwa [reservations_cons_of_nil hnil]
  placed := by
    intro hold hmem t' a ht' ha
    rcases List.mem_cons.mp hmem with rfl | hmem
    · rw [Holding.halt, ht] at ht'
      cases ht'
      obtain ⟨i, hi⟩ := hshared.placed h List.mem_cons_self t a ht ha
      exact hkept a i hi
    · obtain ⟨i, hi⟩ :=
        hshared.placed hold (List.mem_cons_of_mem _ hmem) t' a ht' ha
      exact hkept a i hi
  accounts := by
    intro a
    have hnil : h.halt.demandsOn a = [] := by
      simp [Holding.halt, Holding.demandsOn, ht, stopped]
    rw [demandsOn_cons_of_nil hnil]
    exact haccounts a

/-- The task of a holding is stopped once more. -/
theorem haltAgain
    (hshared : Shared s₀ bases (h :: rest) s) {t : Task} (ht : h.task = some t)
    (hstopped : t.desiredStatus = .stopped) :
    Shared s₀ bases (h.halt :: rest)
      { s with tasks := s.tasks.insert t.arn (stopped t) } := by
  apply hshared.stopAt ht
  · have hbefore := hshared.reservations
    rwa [reservations_cons_of_nil
      (Holding.reservations_of_unplaced ht fun _ => hstopped)] at hbefore
  · exact fun a i hi => ⟨i, hi⟩
  · intro a
    have hbefore := hshared.accounts a
    rwa [demandsOn_cons_of_nil
      (Holding.demandsOn_of_not_occupies ht (by simp [hstopped]))] at hbefore

/-- The task of a holding is stopped for the first time, and what it took is
handed back. -/
theorem haltFirst
    (hshared : Shared s₀ bases (h :: rest) s) (hreserves : s.ReservesForTasks)
    {t : Task} (ht : h.task = some t) (hactive : t.desiredStatus ≠ .stopped) :
    Shared s₀ bases (h.halt :: rest)
      ({ s with tasks := s.tasks.insert t.arn (stopped t) }.handBack t.arn
          t) := by
  rcases handBack_cases t.arn t
    { s with tasks := s.tasks.insert t.arn (stopped t) } with
    ⟨hnone, heq⟩ | ⟨a, i, ha, hi, heq⟩
  · have hoff : t.instanceArn = none := by
      rw [Option.eq_none_iff_forall_ne_some]
      intro a ha
      obtain ⟨i, hi⟩ := hshared.placed h List.mem_cons_self t a ht ha
      exact absurd ((hnone a ha).symm.trans hi) (Option.some_ne_none i).symm
    have hstored := hshared.getElem?_task List.mem_cons_self ht
    have hfree : s.reservations[t.arn]? = none := by
      apply hreserves.reservations_eq_none
      intro t' ht'
      obtain rfl : t = t' := Option.some.inj (hstored.symm.trans ht')
      exact hoff
    rw [heq]
    apply hshared.stopAt ht
    · have hbefore := hshared.reservations
      rw [reservations_cons_of_nil
        (Holding.reservations_of_unplaced ht (by simp [hoff]))] at hbefore
      change (s.reservations.erase t.arn).toList.Perm _
      rwa [Table.erase_of_getElem?_eq_none hfree]
    · exact fun a i hi => ⟨i, hi⟩
    · intro a
      have hbefore := hshared.accounts a
      rwa [demandsOn_cons_of_nil
        (Holding.demandsOn_of_not_occupies ht (by simp [hoff]))] at hbefore
  · have hon : t.instanceArn.isSome := by rw [ha, Option.isSome_some]
    have hreserved :=
      hshared.getElem?_reservation List.mem_cons_self ht hon hactive
    rw [heq]
    apply hshared.stopAt ht
    · have hbefore := hshared.reservations
      rw [List.flatMap_cons, Holding.reservations_of_placed ht hon hactive]
        at hbefore
      exact Table.erase_perm hbefore
    · intro b j hj
      by_cases hb : a = b
      · exact ⟨_, Table.getElem?_insert_eq_some_iff.mpr (Or.inl ⟨hb, rfl⟩)⟩
      · exact ⟨j, Table.getElem?_insert_eq_some_iff.mpr (Or.inr ⟨hb, hj⟩)⟩
    · intro b
      change Accounted bases[b]?
        (s.instances.insert a (i.release s.reservations[t.arn]?))[b]? _
      by_cases hb : a = b
      · subst hb
        obtain ⟨base, hbase, haccount⟩ := hshared.exists_account hi
        rw [List.flatMap_cons,
          Holding.demandsOn_of_occupies ht (by simp [ha, hactive])] at haccount
        rw [Std.ExtTreeMap.getElem?_insert_self, hbase, hreserved]
        exact .some haccount.release
      · have hbefore := hshared.accounts b
        rw [demandsOn_cons_of_nil
          (Holding.demandsOn_of_not_occupies ht (by simp [ha, hb]))] at hbefore
        rw [Std.ExtTreeMap.getElem?_insert, if_neg (by simpa using hb)]
        exact hbefore

/-! ## Instances -/

/-- An instance that joins takes no part in any account before. -/
theorem enlist
    (hshared : Shared s₀ bases hs s) {i : ContainerInstance}
    (hnew : s.instances[i.arn]? = none)
    (hmemory : i.remainingMemory.toNat ≤ i.registeredMemory.toNat)
    (hcpu : i.remainingCpu.toNat ≤ i.registeredCpu.toNat) :
    Shared s₀ (bases.insert i.arn i) hs (s.enlist i) where
  definitions := hshared.definitions
  tasks := hshared.tasks
  reservations := hshared.reservations
  placed := by
    intro hold hmem t a ht ha
    by_cases heq : i.arn = a
    · exact ⟨i, Table.getElem?_insert_eq_some_iff.mpr (Or.inl ⟨heq, rfl⟩)⟩
    · obtain ⟨j, hj⟩ := hshared.placed hold hmem t a ht ha
      exact ⟨j, Table.getElem?_insert_eq_some_iff.mpr (Or.inr ⟨heq, hj⟩)⟩
  accounts := by
    intro a
    change Accounted (bases.insert i.arn i)[a]? (s.instances.insert i.arn i)[a]?
      _
    by_cases heq : i.arn = a
    · subst heq
      have hnone : hs.flatMap (Holding.demandsOn i.arn) = [] := by
        rw [List.flatMap_eq_nil_iff]
        intro hold hmem
        apply Holding.demandsOn_eq_nil
        intro t ht hon
        obtain ⟨j, hj⟩ :=
          hshared.placed hold hmem t i.arn ht (occupies_iff.mp hon).1
        exact absurd (hnew.symm.trans hj) (Option.some_ne_none j).symm
      rw [Std.ExtTreeMap.getElem?_insert_self,
        Std.ExtTreeMap.getElem?_insert_self, hnone]
      exact .some ⟨rfl, rfl, rfl, rfl, rfl, hmemory, hcpu⟩
    · rw [Std.ExtTreeMap.getElem?_insert, Std.ExtTreeMap.getElem?_insert,
        if_neg (by simpa using heq), if_neg (by simpa using heq)]
      exact hshared.accounts a

/-- An instance that has yet to join has no account. -/
theorem base_eq_none
    (hshared : Shared s₀ bases hs s) {a : String}
    (hnew : s.instances[a]? = none) :
    bases[a]? = none := by
  have haccounted := hshared.accounts a
  rw [hnew] at haccounted
  cases hbase : bases[a]? with
  | none => rfl
  | some base =>
    rw [hbase] at haccounted
    cases haccounted

end Shared
end Service
end AgentFleet

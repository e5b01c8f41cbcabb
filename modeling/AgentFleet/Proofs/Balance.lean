import AgentFleet.Proofs.Account
import AgentFleet.Proofs.Reachable

/-!
# The balance of a service

What an instance has left is what it came with less what the tasks on it take
that have not been stopped.  A ledger beside the service remembers each instance
as it came and each definition as it was registered, so that the tasks on an
instance tell what they take.  The balance between the two is kept by every step
of a run.
-/

namespace AgentFleet

/-! ## Ledgers -/

/-- What has to be remembered of a run: each instance as it was added, and each
definition as it was registered. -/
structure Ledger where
  added : Std.ExtTreeMap String ContainerInstance := ∅
  registered : Std.ExtTreeMap String TaskDefinition := ∅

namespace Ledger

/-- The ledger once a service in state `s` has served a call. -/
def note (s : Service) (l : Ledger) : Call → Ledger
  | .register r =>
    { l with
      registered :=
        l.registered.insert (s.nextDefinition r).arn (s.nextDefinition r) }
  | _ => l

/-- The ledger once an instance was added. -/
def enlist (i : ContainerInstance) (l : Ledger) : Ledger :=
  { l with added := l.added.insert i.arn i }

/-- What a task takes of its instance, which is what its definition took when it
was registered. -/
def demandOf (l : Ledger) (t : Task) : Demand :=
  ((l.registered[t.definitionArn]?).map TaskDefinition.demand).getD ⟨0, 0⟩

/-- What is reserved for a task: something if it is on an instance and has not
been stopped. -/
def reservedFor (l : Ledger) (t : Task) : Option Demand :=
  if t.instanceArn.isSome ∧ t.desiredStatus ≠ .stopped then some (l.demandOf t)
  else none

end Ledger

namespace Service

/-- The task is on an instance and has not been stopped. -/
def occupies (arn : String) (t : Task) : Bool :=
  t.instanceArn = some arn ∧ t.desiredStatus ≠ .stopped

/-- The tasks on an instance that have not been stopped. -/
def tasksOn (s : Service) (arn : String) : List Task :=
  s.tasks.values.filter (occupies arn)

/-- No count of the tasks on an instance overflows. -/
def CountsFit (l : Ledger) (s : Service) : Prop :=
  ∀ (arn : String) (added : ContainerInstance), l.added[arn]? = some added →
    added.pendingTasks.toNat + (s.tasksOn arn).length < 2 ^ 32

/-- The runs of a service, each with its ledger.  Instances are added under new
names and with no more left than they have, no task is planted, and no count
overflows. -/
inductive Run : Ledger → Service → Prop where
  | start : Run {} {}
  | call {l : Ledger} {s : Service} (h : Run l s) (now : UInt64) (c : Call)
      (hfit : CountsFit l (s.serve now c).2) :
      Run (l.note s c) (s.serve now c).2
  | enlist {l : Ledger} {s : Service} (h : Run l s) (i : ContainerInstance)
      (hnew : s.instances[i.arn]? = none)
      (hmemory : i.remainingMemory.toNat ≤ i.registeredMemory.toNat)
      (hcpu : i.remainingCpu.toNat ≤ i.registeredCpu.toNat) :
      Run (l.enlist i) (s.enlist i)
  | arrange {l : Ledger} {s : Service} (h : Run l s) (a : Arrangement) :
      Run l (s.arrange a)

/-- The service agrees with the ledger. -/
structure Balanced (l : Ledger) (s : Service) : Prop where
  sound : s.Sound
  definitions :
    ∀ (arn : String) (d : TaskDefinition),
      s.definitions[arn]? = some d →
      ∃ r : TaskDefinition, l.registered[arn]? = some r ∧ r.demand = d.demand
  spareRegistered :
    ∀ (arn : String) (d : TaskDefinition),
      l.registered[arn]? = some d → s.SparesDefinition arn
  made : ∀ (arn : String) (t : Task), s.tasks[arn]? = some t →
    ∃ r : TaskDefinition, l.registered[t.definitionArn]? = some r
  placed :
    ∀ (arn a : String) (t : Task),
      s.tasks[arn]? = some t →
      t.instanceArn = some a →
      ∃ i : ContainerInstance, s.instances[a]? = some i
  reservations :
    ∀ arn : String, s.reservations[arn]? = s.tasks[arn]?.bind l.reservedFor
  accounts :
    ∀ (arn : String) (i : ContainerInstance),
      s.instances[arn]? = some i →
      ∃ added : ContainerInstance,
        l.added[arn]? = some added ∧
        Account added i ((s.tasksOn arn).map l.demandOf)

variable {l : Ledger} {s : Service}

/-! ## Tasks on instances -/

@[simp]
theorem occupies_iff
    {arn : String} {t : Task} :
    occupies arn t = true ↔
      t.instanceArn = some arn ∧ t.desiredStatus ≠ .stopped := by
  simp [occupies]

theorem tasksOn_perm_filter_of_new
    {arn : String} {t : Task} (hnew : s.tasks[arn]? = none) (s' : Service)
    (htasks : s'.tasks = s.tasks.insert arn t) (a : String) :
    (s'.tasksOn a).Perm ((t :: s.tasks.values).filter (occupies a)) := by
  rw [tasksOn, htasks]
  exact (Table.values_insert_perm_of_new t hnew).filter (occupies a)

/-- A new task is on its instance. -/
theorem tasksOn_perm_of_new
    {arn a : String} {t : Task} (hnew : s.tasks[arn]? = none) (s' : Service)
    (htasks : s'.tasks = s.tasks.insert arn t) (hon : occupies a t = true) :
    (s'.tasksOn a).Perm (t :: s.tasksOn a) := by
  have hperm := tasksOn_perm_filter_of_new hnew s' htasks a
  rwa [List.filter_cons_of_pos hon] at hperm

/-- A new task is on no other instance. -/
theorem tasksOn_perm_of_new_elsewhere
    {arn a : String} {t : Task} (hnew : s.tasks[arn]? = none) (s' : Service)
    (htasks : s'.tasks = s.tasks.insert arn t) (hoff : ¬occupies a t = true) :
    (s'.tasksOn a).Perm (s.tasksOn a) := by
  have hperm := tasksOn_perm_filter_of_new hnew s' htasks a
  rwa [List.filter_cons_of_neg hoff] at hperm

theorem perm_append_tasksOn_of_stopped
    {arn : String} {t : Task} (ht : s.tasks[arn]? = some t) (s' : Service)
    (htasks : s'.tasks = s.tasks.insert arn (stopped t)) (a : String) :
    (s.tasksOn a).Perm ([t].filter (occupies a) ++ s'.tasksOn a) := by
  obtain ⟨others, hafter, hbefore⟩ :=
    Table.values_insert_perm_of_old (stopped t) ht
  have hgone :
      (stopped t :: others).filter (occupies a) = others.filter (occupies a) :=
    List.filter_cons_of_neg (by simp [stopped])
  have hafter' := hafter.filter (occupies a)
  rw [hgone] at hafter'
  have hbefore' := hbefore.filter (occupies a)
  rw [← List.singleton_append, List.filter_append] at hbefore'
  rw [tasksOn, tasksOn, htasks]
  exact hbefore'.trans (hafter'.symm.append_left _)

/-- A task that is stopped leaves its instance, and the other tasks stay. -/
theorem tasksOn_perm_of_stopped
    {arn a : String} {t : Task} (ht : s.tasks[arn]? = some t) (s' : Service)
    (htasks : s'.tasks = s.tasks.insert arn (stopped t))
    (hon : occupies a t = true) :
    (t :: s'.tasksOn a).Perm (s.tasksOn a) := by
  have hperm := perm_append_tasksOn_of_stopped ht s' htasks a
  rw [List.filter_cons_of_pos hon] at hperm
  exact hperm.symm

/-- A task that is stopped leaves no other instance. -/
theorem tasksOn_perm_of_stopped_elsewhere
    {arn a : String} {t : Task} (ht : s.tasks[arn]? = some t) (s' : Service)
    (htasks : s'.tasks = s.tasks.insert arn (stopped t))
    (hoff : ¬occupies a t = true) :
    (s'.tasksOn a).Perm (s.tasksOn a) := by
  have hperm := perm_append_tasksOn_of_stopped ht s' htasks a
  rw [List.filter_cons_of_neg hoff] at hperm
  exact hperm.symm

/-! ## Preservation -/

namespace Balanced

theorem start : Balanced {} {} where
  sound := .empty
  definitions := by simp
  spareRegistered := by simp
  made := by simp
  placed := by simp
  reservations := by simp
  accounts := by simp

/-- What a task takes does not change with later registrations. -/
theorem demandOf_note
    (h : Balanced l s) (r : Registration) {arn : String} {t : Task}
    (ht : s.tasks[arn]? = some t) :
    (l.note s (.register r)).demandOf t = l.demandOf t := by
  obtain ⟨d, hd⟩ := h.made arn t ht
  have hne : (s.nextDefinition r).arn ≠ t.definitionArn := by
    intro heq
    exact h.spareRegistered _ d hd r.family _ (Nat.lt_succ_self _) heq.symm
  rw [Ledger.demandOf, Ledger.note, Std.ExtTreeMap.getElem?_insert,
    if_neg (by simpa using hne)]
  rfl

theorem reservedFor_note
    (h : Balanced l s) (r : Registration) {arn : String} {t : Task}
    (ht : s.tasks[arn]? = some t) :
    (l.note s (.register r)).reservedFor t = l.reservedFor t := by
  rw [Ledger.reservedFor, h.demandOf_note r ht]
  rfl

theorem register
    (h : Balanced l s) (r : Registration) :
    Balanced (l.note s (.register r)) (s.register r).2 where
  sound := h.sound.register r
  definitions := by
    intro arn d hd
    rcases Table.getElem?_insert_eq_some_iff.mp hd with ⟨harn, rfl⟩ |
      ⟨hne, hold⟩
    · exact ⟨_, Table.getElem?_insert_eq_some_iff.mpr (Or.inl ⟨harn, rfl⟩), rfl⟩
    · obtain ⟨d', hd', hdemand⟩ := h.definitions arn d hold
      exact ⟨d', Table.getElem?_insert_eq_some_iff.mpr (Or.inr ⟨hne, hd'⟩),
        hdemand⟩
  spareRegistered := by
    intro arn d hd
    rcases Table.getElem?_insert_eq_some_iff.mp hd with ⟨rfl, -⟩ | ⟨-, hold⟩
    · exact sparesDefinition_nextDefinition r s
    · exact (h.spareRegistered arn d hold).register r
  made := by
    intro arn t ht
    obtain ⟨d, hd⟩ := h.made arn t ht
    by_cases heq : (s.nextDefinition r).arn = t.definitionArn
    · exact ⟨_, Table.getElem?_insert_eq_some_iff.mpr (Or.inl ⟨heq, rfl⟩)⟩
    · exact ⟨d, Table.getElem?_insert_eq_some_iff.mpr (Or.inr ⟨heq, hd⟩)⟩
  placed := h.placed
  reservations := by
    intro arn
    change s.reservations[arn]? = s.tasks[arn]?.bind _
    rw [h.reservations arn]
    cases ht : s.tasks[arn]? with
    | none => rfl
    | some t => exact (h.reservedFor_note r ht).symm
  accounts := by
    intro arn i hi
    obtain ⟨added, hadded, haccount⟩ := h.accounts arn i hi
    refine ⟨added, hadded, ?_⟩
    have hdemands : (s.tasksOn arn).map (l.note s (.register r)).demandOf =
        (s.tasksOn arn).map l.demandOf := by
      apply List.map_congr_left
      intro t ht
      obtain ⟨k, hk⟩ := Table.mem_values_iff.mp (List.mem_filter.mp ht).1
      exact h.demandOf_note r hk
    exact hdemands ▸ haccount

/-- Definitions may change as long as they take what they took. -/
theorem submap
    (h : Balanced l s) {ds : Std.ExtTreeMap String TaskDefinition}
    (hsound : Sound { s with definitions := ds })
    (hds : ∀ (arn : String) (d : TaskDefinition),
        ds[arn]? = some d →
        ∃ d' : TaskDefinition,
          s.definitions[arn]? = some d' ∧ d'.demand = d.demand) :
    Balanced l { s with definitions := ds } where
  sound := hsound
  definitions := by
    intro arn d hd
    obtain ⟨d', hd', hdemand'⟩ := hds arn d hd
    obtain ⟨r, hr, hdemand⟩ := h.definitions arn d' hd'
    exact ⟨r, hr, hdemand.trans hdemand'⟩
  spareRegistered := h.spareRegistered
  made := h.made
  placed := h.placed
  reservations := h.reservations
  accounts := h.accounts

/-- A service that differs in its arrangements or its journal only is as
balanced. -/
theorem rearrange
    (h : Balanced l s) (mishaps : Mishaps) (journal : List Call)
    (hasProviders : Bool) :
    Balanced l { s with mishaps, journal, hasProviders } :=
  ⟨h.sound.of_eq rfl rfl rfl rfl rfl, h.definitions, h.spareRegistered, h.made,
    h.placed, h.reservations, h.accounts⟩

theorem deregister
    (h : Balanced l s) (arn : String) :
    Balanced l (s.deregister arn).2 := by
  rcases deregister_cases arn s with ⟨e, -, heq⟩ | ⟨-, -, heq⟩ | ⟨d, -, hd, heq⟩
  · rw [heq]
    exact h.rearrange _ s.journal s.hasProviders
  · rw [heq]
    exact h
  · rw [heq]
    apply h.submap (h.sound.redefine hd (retired_arn d))
    intro arn' d' hd'
    rcases Table.getElem?_insert_eq_some_iff.mp hd' with ⟨rfl, rfl⟩ | ⟨-, hold⟩
    · refine ⟨d, hd, ?_⟩
      rw [TaskDefinition.demand, TaskDefinition.demand, retired_containers]
    · exact ⟨d', hold, rfl⟩

theorem delete
    (h : Balanced l s) (arns : List String) :
    Balanced l (s.delete arns).2 := by
  rcases delete_cases arns s with ⟨e, -, heq⟩ | ⟨-, heq⟩
  · rw [heq]
    exact h.rearrange _ s.journal s.hasProviders
  · rw [heq]
    have hkept :
        ∀ (arn : String) (d : TaskDefinition),
          (removeDefinitions arns s.definitions).2[arn]? = some d →
          s.definitions[arn]? = some d :=
      fun arn d hd => getElem?_of_removeDefinitions hd
    exact h.submap (h.sound.submap hkept) fun arn d hd =>
      ⟨d, hkept arn d hd, rfl⟩

/-- A launched task takes what its definition takes. -/
theorem demandOf_eq
    (h : Balanced l s) {t : Task} {d : TaskDefinition}
    (hd : s.definitions[t.definitionArn]? = some d) :
    l.demandOf t = d.demand := by
  obtain ⟨r, hr, hdemand⟩ := h.definitions _ d hd
  rw [Ledger.demandOf, hr]
  exact hdemand

/-- Launching a task keeps the balance if instances and reservations follow. -/
theorem launched
    (h : Balanced l s) {t : Task} {cluster : String} {d : TaskDefinition}
    (hd : s.definitions[t.definitionArn]? = some d)
    {instances : Std.ExtTreeMap String ContainerInstance}
    {reservations : Std.ExtTreeMap String Demand} {s' : Service}
    (hs' : s' = { s with
      instances, reservations
      launched := s.launched + 1
      tasks := s.tasks.insert (taskArn cluster (s.launched + 1)) t })
    (hsound : s'.Sound)
    (hkept : ∀ (a : String) (i : ContainerInstance),
        s.instances[a]? = some i →
        ∃ i' : ContainerInstance, instances[a]? = some i')
    (hplaced : ∀ a : String,
        t.instanceArn = some a →
        ∃ i : ContainerInstance, instances[a]? = some i)
    (hreservations : ∀ arn : String,
        reservations[arn]? =
          if taskArn cluster (s.launched + 1) = arn then l.reservedFor t
          else s.reservations[arn]?)
    (haccounts : ∀ (a : String) (i : ContainerInstance),
        instances[a]? = some i →
        ∃ added : ContainerInstance,
          l.added[a]? = some added ∧
          Account added i ((s'.tasksOn a).map l.demandOf)) :
    Balanced l s' := by
  subst hs'
  refine ⟨hsound, h.definitions, h.spareRegistered, ?_, ?_, ?_, haccounts⟩
  · intro arn t' ht'
    rcases Table.getElem?_insert_eq_some_iff.mp ht' with ⟨-, rfl⟩ | ⟨-, hold⟩
    · obtain ⟨r, hr, -⟩ := h.definitions _ d hd
      exact ⟨r, hr⟩
    · exact h.made arn t' hold
  · intro arn a t' ht' ha
    rcases Table.getElem?_insert_eq_some_iff.mp ht' with ⟨-, rfl⟩ | ⟨-, hold⟩
    · exact hplaced a ha
    · obtain ⟨i, hi⟩ := h.placed arn a t' hold ha
      exact hkept a i hi
  · intro arn
    refine (hreservations arn).trans ?_
    rw [Std.ExtTreeMap.getElem?_insert]
    by_cases harn : taskArn cluster (s.launched + 1) = arn
    · simp [harn]
    · simpa [harn] using h.reservations arn

theorem startOn
    (h : Balanced l s) (now : UInt64) (cluster : String) {d : TaskDefinition}
    (hd : s.definitions[d.arn]? = some d) (arn : String)
    (hfit : CountsFit l (s.startOn now cluster d arn).2) :
    Balanced l (s.startOn now cluster d arn).2 := by
  have hsound := h.sound.startOn now cluster d arn
  rcases startOn_cases now cluster d arn s with ⟨f, heq⟩ |
    ⟨i, hi, hmemory, hcpu, heq⟩
  · rw [heq]
    exact h
  rw [heq] at hfit hsound ⊢
  have hdemand :=
    h.demandOf_eq (t := s.nextTask now cluster d (some arn) (some .ec2) none) hd
  have hfresh := h.sound.getElem?_taskArn cluster
  refine h.launched (t := s.nextTask now cluster d (some arn) (some .ec2) none)
    hd rfl hsound ?_ ?_ ?_ ?_
  · intro a i' hi'
    by_cases ha : arn = a
    · exact ⟨_, Table.getElem?_insert_eq_some_iff.mpr (Or.inl ⟨ha, rfl⟩)⟩
    · exact ⟨i', Table.getElem?_insert_eq_some_iff.mpr (Or.inr ⟨ha, hi'⟩)⟩
  · intro a ha
    exact ⟨_,
      Table.getElem?_insert_eq_some_iff.mpr (Or.inl ⟨Option.some.inj ha, rfl⟩)⟩
  · intro k
    rw [Std.ExtTreeMap.getElem?_insert, Ledger.reservedFor, hdemand]
    simp [nextTask, launch]
  · intro a i' hi'
    rcases Table.getElem?_insert_eq_some_iff.mp hi' with ⟨rfl, rfl⟩ |
      ⟨hne, hold⟩
    · obtain ⟨added, hadded, haccount⟩ := h.accounts arn i hi
      have hon := tasksOn_perm_of_new hfresh (a := arn)
        (s.afterStart now cluster d i arn) rfl (by simp [nextTask, launch])
      refine ⟨added, hadded,
        (haccount.reserve (d := d.demand) hmemory hcpu ?_).perm ?_⟩
      · have hcount := hfit arn added hadded
        rw [hon.length_eq] at hcount
        simpa [Nat.add_comm] using hcount
      · rw [← hdemand]
        exact hon.map l.demandOf
    · obtain ⟨added, hadded, haccount⟩ := h.accounts a i' hold
      have hon := tasksOn_perm_of_new_elsewhere hfresh (a := a)
        (s.afterStart now cluster d i arn) rfl (by simp [nextTask, launch, hne])
      exact ⟨added, hadded, haccount.perm (hon.map l.demandOf)⟩

theorem launch
    (h : Balanced l s) (now : UInt64) (cluster : String) {d : TaskDefinition}
    (hd : s.definitions[d.arn]? = some d) (launchType : Option Capacity)
    (provider : Option String) :
    Balanced l (s.launch now cluster d none launchType provider).2 := by
  have hfresh := h.sound.getElem?_taskArn cluster
  refine h.launched (t := s.nextTask now cluster d none launchType provider) hd
    rfl (h.sound.launch now cluster d none launchType provider) ?_ ?_ ?_ ?_
  · intro a i hi
    exact ⟨i, hi⟩
  · intro a ha
    exact absurd ha (Option.some_ne_none a).symm
  · intro k
    by_cases hk : taskArn cluster (s.launched + 1) = k
    · rw [if_pos hk, ← hk, h.reservations, hfresh]
      simp [Ledger.reservedFor, nextTask, Service.launch]
    · rw [if_neg hk]
  · intro a i hi
    obtain ⟨added, hadded, haccount⟩ := h.accounts a i hi
    have hon := tasksOn_perm_of_new_elsewhere hfresh (a := a)
      (s.launch now cluster d none launchType provider).2 rfl (by simp)
    exact ⟨added, hadded, haccount.perm (hon.map l.demandOf)⟩

/-- Starting tasks takes no task off an instance. -/
theorem length_tasksOn_le_startOn
    (h : s.Sound) (now : UInt64) (cluster : String) (d : TaskDefinition)
    (arn a : String) :
    (s.tasksOn a).length ≤
      ((s.startOn now cluster d arn).2.tasksOn a).length := by
  rcases startOn_cases now cluster d arn s with ⟨f, heq⟩ | ⟨i, -, -, -, heq⟩
  · exact Nat.le_of_eq (by rw [heq])
  · have hperm := tasksOn_perm_filter_of_new (h.getElem?_taskArn cluster)
      (s.afterStart now cluster d i arn) rfl a
    have hgrows :=
      ((List.sublist_cons_self
          (s.nextTask now cluster d (some arn) (some .ec2) none)
          s.tasks.values).filter (occupies a)).length_le
    rw [heq]
    exact Nat.le_trans hgrows (Nat.le_of_eq hperm.length_eq.symm)

theorem length_tasksOn_le_startEach
    (h : s.Sound) (now : UInt64) (cluster : String) (d : TaskDefinition)
    (arns : List String) (a : String) :
    (s.tasksOn a).length ≤
      ((s.startEach now cluster d arns).2.tasksOn a).length := by
  induction arns generalizing s with
  | nil => exact Nat.le_refl _
  | cons arn rest ih =>
    rw [startEach_cons]
    exact Nat.le_trans (length_tasksOn_le_startOn h now cluster d arn a)
      (ih (h.startOn now cluster d arn))

/-- Starts one after the other keep the accounts, since none of the states
between has more tasks than the last one. -/
theorem startEach
    (h : Balanced l s) (now : UInt64) (cluster : String) {d : TaskDefinition}
    (hd : s.definitions[d.arn]? = some d) (arns : List String)
    (hfit : CountsFit l (s.startEach now cluster d arns).2) :
    Balanced l (s.startEach now cluster d arns).2 := by
  induction arns generalizing s with
  | nil => exact h
  | cons arn rest ih =>
    rw [startEach_cons] at hfit ⊢
    have hfirst : CountsFit l (s.startOn now cluster d arn).2 := by
      intro a added hadded
      have hmore :=
        length_tasksOn_le_startEach (h.sound.startOn now cluster d arn) now
          cluster d rest a
      exact Nat.lt_of_le_of_lt (Nat.add_le_add_left hmore _)
        (hfit a added hadded)
    refine ih (h.startOn now cluster hd arn hfirst) ?_ hfit
    rcases startOn_cases now cluster d arn s with ⟨f, heq⟩ | ⟨i, -, -, -, heq⟩
    · rw [heq]
      exact hd
    · rw [heq]
      exact hd

/-- A definition that can be launched is there under its own name. -/
theorem getElem?_arn_of_launchable
    (h : Balanced l s) {arn : String} {d : TaskDefinition}
    (hd : s.launchable arn = .ok d) :
    s.definitions[d.arn]? = some d := by
  have hstored := (getElem?_of_launchable hd).1
  rwa [h.sound.definitions arn d hstored]

theorem startTask
    (h : Balanced l s) (now : UInt64) (r : StartTask)
    (hfit : CountsFit l (s.startTask now r).2) :
    Balanced l (s.startTask now r).2 := by
  rcases startTask_cases now r s with ⟨e, -, heq⟩ | ⟨e, -, heq⟩ | ⟨fs, heq⟩ |
    ⟨d, hd, heq⟩
  · rw [heq]
    exact h.rearrange _ s.journal s.hasProviders
  · rw [heq]
    exact h
  · rw [heq]
    exact h
  · rw [heq] at hfit ⊢
    exact h.startEach now r.cluster (h.getElem?_arn_of_launchable hd)
      r.instances hfit

theorem runTask
    (h : Balanced l s) (now : UInt64) (r : RunTask) :
    Balanced l (s.runTask now r).2 := by
  rcases runTask_cases now r s with
    ⟨e, -, heq⟩ | ⟨-, -, -, heq⟩ | ⟨e, -, heq⟩ | ⟨fs, heq⟩ |
      ⟨d, launchType, provider, hd, heq⟩
  · rw [heq]
    exact h.rearrange _ s.journal s.hasProviders
  · rw [heq]
    exact h
  · rw [heq]
    exact h
  · rw [heq]
    exact h
  · rw [heq]
    exact h.launch now r.cluster (h.getElem?_arn_of_launchable hd) launchType
      provider

/-- Stopping a task keeps the balance if instances and reservations follow. -/
theorem stoppedAt
    (h : Balanced l s) {arn : String} {t : Task} (ht : s.tasks[arn]? = some t)
    {instances : Std.ExtTreeMap String ContainerInstance}
    {reservations : Std.ExtTreeMap String Demand} {s' : Service}
    (hs' : s' =
        { s with
          instances
          reservations
          tasks := s.tasks.insert arn (stopped t) }) (hsound : s'.Sound)
    (hkept : ∀ (a : String) (i : ContainerInstance),
        s.instances[a]? = some i →
        ∃ i' : ContainerInstance, instances[a]? = some i')
    (hreservations : ∀ k : String,
        reservations[k]? = if arn = k then none else s.reservations[k]?)
    (haccounts : ∀ (a : String) (i : ContainerInstance),
        instances[a]? = some i →
        ∃ added : ContainerInstance,
          l.added[a]? = some added ∧
          Account added i ((s'.tasksOn a).map l.demandOf)) :
    Balanced l s' := by
  subst hs'
  refine ⟨hsound, h.definitions, h.spareRegistered, ?_, ?_, ?_, haccounts⟩
  · intro k t' ht'
    rcases Table.getElem?_insert_eq_some_iff.mp ht' with ⟨-, rfl⟩ | ⟨-, hold⟩
    · exact h.made arn t ht
    · exact h.made k t' hold
  · intro k a t' ht' ha
    rcases Table.getElem?_insert_eq_some_iff.mp ht' with ⟨-, rfl⟩ | ⟨-, hold⟩
    · obtain ⟨i, hi⟩ := h.placed arn a t ht ha
      exact hkept a i hi
    · obtain ⟨i, hi⟩ := h.placed k a t' hold ha
      exact hkept a i hi
  · intro k
    refine (hreservations k).trans ?_
    rw [Std.ExtTreeMap.getElem?_insert]
    by_cases hk : arn = k
    · simp [hk, Ledger.reservedFor, stopped]
    · simpa [hk] using h.reservations k

/-- Stopping a task that is already stopped hands nothing back. -/
theorem insertStopped
    (h : Balanced l s) {arn : String} {t : Task} (ht : s.tasks[arn]? = some t)
    (hstopped : t.desiredStatus = .stopped) :
    Balanced l { s with tasks := s.tasks.insert arn (stopped t) } := by
  refine h.stoppedAt ht rfl (h.sound.insertStopped ht) (fun a i hi => ⟨i, hi⟩)
    ?_ ?_
  · intro k
    by_cases hk : arn = k
    · rw [if_pos hk, ← hk, h.reservations, ht]
      simp [Ledger.reservedFor, hstopped]
    · rw [if_neg hk]
  · intro a i hi
    obtain ⟨added, hadded, haccount⟩ := h.accounts a i hi
    have hon :=
      tasksOn_perm_of_stopped_elsewhere ht (a := a)
        { s with tasks := s.tasks.insert arn (stopped t) } rfl
        (by simp [hstopped])
    exact ⟨added, hadded, haccount.perm (hon.map l.demandOf)⟩

/-- The account of the instance that a task is on starts with what the task
takes. -/
theorem account_of_placed
    (h : Balanced l s) {arn a : String} {t : Task} {i : ContainerInstance}
    (ht : s.tasks[arn]? = some t) (ha : t.instanceArn = some a)
    (hactive : t.desiredStatus ≠ .stopped) (hi : s.instances[a]? = some i)
    (s' : Service) (htasks : s'.tasks = s.tasks.insert arn (stopped t)) :
    s.reservations[arn]? = some (l.demandOf t) ∧
    ∃ added : ContainerInstance,
      l.added[a]? = some added ∧
      Account added i (l.demandOf t :: (s'.tasksOn a).map l.demandOf) := by
  constructor
  · rw [h.reservations, ht]
    simp [Ledger.reservedFor, ha, hactive]
  · obtain ⟨added, hadded, haccount⟩ := h.accounts a i hi
    have hon :=
      tasksOn_perm_of_stopped ht s' htasks (a := a) (by simp [ha, hactive])
    exact ⟨added, hadded, haccount.perm (hon.map l.demandOf)⟩

/-- Stopping a task hands back what it took, unless its instance is not known:
then the task is on no account. -/
theorem handBack
    (h : Balanced l s) {arn : String} {t : Task} (ht : s.tasks[arn]? = some t)
    (hactive : t.desiredStatus ≠ .stopped) :
    Balanced l
      ({ s with tasks := s.tasks.insert arn (stopped t) }.handBack arn t) := by
  have hsound := (h.sound.insertStopped ht).handBack arn t
  have herased : ∀ k : String, (s.reservations.erase arn)[k]? =
      if arn = k then none else s.reservations[k]? := by
    intro k
    rw [Std.ExtTreeMap.getElem?_erase]
    simp
  rcases handBack_cases arn t { s with tasks := s.tasks.insert arn (stopped t) }
    with
    ⟨hnone, heq⟩ | ⟨a, i, ha, hi, heq⟩
  · rw [heq] at hsound ⊢
    refine h.stoppedAt ht rfl hsound (fun a i hi => ⟨i, hi⟩) herased ?_
    intro a i hi
    obtain ⟨added, hadded, haccount⟩ := h.accounts a i hi
    have hoff : t.instanceArn ≠ some a := by
      intro ha
      exact absurd ((hnone a ha).symm.trans hi) (Option.some_ne_none i).symm
    have hon := tasksOn_perm_of_stopped_elsewhere ht (a := a) { s with
      reservations := s.reservations.erase arn
      tasks := s.tasks.insert arn (stopped t) } rfl (by simp [hoff])
    exact ⟨added, hadded, haccount.perm (hon.map l.demandOf)⟩
  · rw [heq] at hsound ⊢
    refine h.stoppedAt ht rfl hsound ?_ herased ?_
    · intro b j hj
      by_cases hb : a = b
      · exact ⟨_, Table.getElem?_insert_eq_some_iff.mpr (Or.inl ⟨hb, rfl⟩)⟩
      · exact ⟨j, Table.getElem?_insert_eq_some_iff.mpr (Or.inr ⟨hb, hj⟩)⟩
    · intro b j hj
      rcases Table.getElem?_insert_eq_some_iff.mp hj with ⟨rfl, rfl⟩ |
        ⟨hne, hold⟩
      · obtain ⟨hreserved, added, hadded, haccount⟩ :=
          h.account_of_placed ht ha hactive hi { s with
            reservations := s.reservations.erase arn
            instances := s.instances.insert a (i.release s.reservations[arn]?)
            tasks := s.tasks.insert arn (stopped t) } rfl
        rw [hreserved]
        exact ⟨added, hadded, haccount.release⟩
      · obtain ⟨added, hadded, haccount⟩ := h.accounts b j hold
        have hoff : t.instanceArn ≠ some b := by
          rw [ha]
          intro hab
          exact hne (Option.some.inj hab)
        have hon := tasksOn_perm_of_stopped_elsewhere ht (a := b) { s with
          reservations := s.reservations.erase arn
          instances := s.instances.insert a (i.release s.reservations[arn]?)
          tasks := s.tasks.insert arn (stopped t) } rfl (by simp [hoff])
        exact ⟨added, hadded, haccount.perm (hon.map l.demandOf)⟩

theorem stopTask
    (h : Balanced l s) (cluster arn : String) :
    Balanced l (s.stopTask cluster arn).2 := by
  rcases stopTask_cases cluster arn s with
    ⟨e, heq, -⟩ | ⟨t, ht, -, hstopped, heq⟩ | ⟨t, ht, -, hactive, heq⟩
  · rw [heq]
    exact h
  · rw [heq]
    exact h.insertStopped ht hstopped
  · rw [heq]
    exact h.handBack ht hactive

/-! ## Every step -/

theorem serve
    (h : Balanced l s) (now : UInt64) (c : Call)
    (hfit : CountsFit l (s.serve now c).2) :
    Balanced (l.note s c) (s.serve now c).2 := by
  have hnoted := h.rearrange s.mishaps (s.journal ++ [c]) s.hasProviders
  cases c with
  | register r => exact hnoted.register r
  | deregister arn => exact hnoted.deregister arn
  | delete arns => exact hnoted.delete arns
  | startTask r => exact hnoted.startTask now r hfit
  | runTask r => exact hnoted.runTask now r
  | stopTask cluster arn reason => exact hnoted.stopTask cluster arn
  | _ => exact hnoted

/-- A new instance opens an account without a task, as every task is on an
instance that is known. -/
theorem enlist
    (h : Balanced l s) (i : ContainerInstance)
    (hnew : s.instances[i.arn]? = none)
    (hmemory : i.remainingMemory.toNat ≤ i.registeredMemory.toNat)
    (hcpu : i.remainingCpu.toNat ≤ i.registeredCpu.toNat) :
    Balanced (l.enlist i) (s.enlist i) where
  sound := h.sound.enlist i
  definitions := h.definitions
  spareRegistered := h.spareRegistered
  made := h.made
  placed := by
    intro arn a t ht ha
    obtain ⟨j, hj⟩ := h.placed arn a t ht ha
    by_cases heq : i.arn = a
    · exact ⟨i, Table.getElem?_insert_eq_some_iff.mpr (Or.inl ⟨heq, rfl⟩)⟩
    · exact ⟨j, Table.getElem?_insert_eq_some_iff.mpr (Or.inr ⟨heq, hj⟩)⟩
  reservations := h.reservations
  accounts := by
    intro a j hj
    rcases Table.getElem?_insert_eq_some_iff.mp hj with ⟨rfl, rfl⟩ | ⟨hne, hold⟩
    · have hempty : s.tasksOn i.arn = [] := by
        rw [tasksOn, List.filter_eq_nil_iff]
        intro t ht hoccupies
        obtain ⟨k, hk⟩ := Table.mem_values_iff.mp ht
        obtain ⟨j, hj⟩ := h.placed k i.arn t hk (occupies_iff.mp hoccupies).1
        exact absurd (hnew.symm.trans hj) (Option.some_ne_none j).symm
      refine ⟨i, Table.getElem?_insert_eq_some_iff.mpr (Or.inl ⟨rfl, rfl⟩), ?_⟩
      change Account i i ((s.tasksOn i.arn).map l.demandOf)
      rw [hempty]
      exact ⟨rfl, rfl, rfl, rfl, rfl, hmemory, hcpu⟩
    · obtain ⟨added, hadded, haccount⟩ := h.accounts a j hold
      exact ⟨added,
        Table.getElem?_insert_eq_some_iff.mpr (Or.inr ⟨hne, hadded⟩), haccount⟩

theorem arrange
    (h : Balanced l s) (a : Arrangement) :
    Balanced l (s.arrange a) := by
  cases a <;> exact h.rearrange _ _ _

end Balanced

/-- Every run keeps the balance. -/
theorem Run.balanced (h : Run l s) : Balanced l s := by
  induction h with
  | start => exact .start
  | call _ now c hfit ih => exact ih.serve now c hfit
  | enlist _ i hnew hmemory hcpu ih => exact ih.enlist i hnew hmemory hcpu
  | arrange _ a ih => exact ih.arrange a

end Service
end AgentFleet

import AgentFleet.Proofs.ResourceNames
import AgentFleet.Proofs.ServiceCalls

/-!
# Reachable services

A service is reached from an empty one by calls, by new instances, by tasks
planted from outside and by arrangements, in any order.  In every reachable
service each record stands under its own name, and a name that the service has
yet to make up is still free.
-/

namespace AgentFleet

/-- What can be arranged about a service. -/
inductive Arrangement where
  | withoutProviders
  | breakLaunches (failures : List Failure)
  | emptyLaunches
  | refuseNextStart (e : Refusal)
  | refuseNextRun (e : Refusal)
  | refuseNextDeregister (e : Refusal)
  | refuseNextDelete (e : Refusal)
  | mendLaunches
  | clearJournal

namespace Service

/-- The service once something has been arranged. -/
def arrange (s : Service) : Arrangement → Service
  | .withoutProviders => s.withoutProviders
  | .breakLaunches failures => s.breakLaunches failures
  | .emptyLaunches => s.emptyLaunches
  | .refuseNextStart e => s.refuseNextStart e
  | .refuseNextRun e => s.refuseNextRun e
  | .refuseNextDeregister e => s.refuseNextDeregister e
  | .refuseNextDelete e => s.refuseNextDelete e
  | .mendLaunches => s.mendLaunches
  | .clearJournal => s.clearJournal

/-- No task that the service has yet to launch will have the name. -/
def SparesTask (s : Service) (arn : String) : Prop :=
  ∀ cluster n, s.launched < n → arn ≠ taskArn cluster n

/-- No definition that the service has yet to make will have the name. -/
def SparesDefinition (s : Service) (arn : String) : Prop :=
  ∀ family n, s.revisions.getD family 0 < n → arn ≠ definitionArn family n

theorem lt_of_revision_register_lt
    {s : Service} {r : Registration} {family : String} {n : Nat}
    (h : (s.register r).2.revisions.getD family 0 < n) :
    s.revisions.getD family 0 + (if r.family = family then 1 else 0) < n := by
  rw [register_eq, Std.ExtTreeMap.getD_insert] at h
  by_cases hfamily : r.family = family
  · subst hfamily
    simpa using h
  · simpa [hfamily] using h

/-- The name of a definition just made is not made up again. -/
theorem sparesDefinition_nextDefinition
    (r : Registration) (s : Service) :
    (s.register r).2.SparesDefinition (s.nextDefinition r).arn := by
  intro family n hn harn
  have hlt := lt_of_revision_register_lt hn
  obtain ⟨rfl, rfl⟩ := definitionArn_inj harn
  rw [if_pos rfl] at hlt
  exact Nat.lt_irrefl _ hlt

theorem SparesDefinition.register
    {s : Service} {arn : String} (h : s.SparesDefinition arn)
    (r : Registration) :
    (s.register r).2.SparesDefinition arn := by
  intro family n hn
  exact h family n
    (Nat.lt_of_le_of_lt (Nat.le_add_right _ _) (lt_of_revision_register_lt hn))

/-- The services that can come about.  What is planted from outside must not
have a name that the service makes up itself later. -/
inductive Reachable : Service → Prop where
  | empty : Reachable {}
  | call {s : Service} (h : Reachable s) (now : UInt64) (c : Call) :
      Reachable (s.serve now c).2
  | enlist {s : Service} (h : Reachable s) (i : ContainerInstance) :
      Reachable (s.enlist i)
  | plant {s : Service} (h : Reachable s) (t : Task) (d : TaskDefinition)
      (ht : s.SparesTask t.arn) (hd : s.SparesDefinition d.arn) :
      Reachable (s.plantTask t d)
  | arrange {s : Service} (h : Reachable s) (a : Arrangement) :
      Reachable (s.arrange a)

/-- Each record stands under its own name, and names not yet made up are free.
-/
structure Sound (s : Service) : Prop where
  tasks : Table.KeyedBy Task.arn s.tasks
  definitions : Table.KeyedBy TaskDefinition.arn s.definitions
  instances : Table.KeyedBy ContainerInstance.arn s.instances
  spareTasks : ∀ arn t, s.tasks[arn]? = some t → s.SparesTask arn
  spareDefinitions :
    ∀ arn d, s.definitions[arn]? = some d → s.SparesDefinition arn

namespace Sound

variable {s s' : Service}

/-- Soundness is about the records and the counters only. -/
theorem of_eq
    (h : s.Sound) (htasks : s'.tasks = s.tasks)
    (hdefinitions : s'.definitions = s.definitions)
    (hinstances : s'.instances = s.instances)
    (hlaunched : s'.launched = s.launched)
    (hrevisions : s'.revisions = s.revisions) :
    s'.Sound where
  tasks := by
    rw [htasks]
    exact h.tasks
  definitions := by
    rw [hdefinitions]
    exact h.definitions
  instances := by
    rw [hinstances]
    exact h.instances
  spareTasks := by
    intro arn t ht
    rw [SparesTask, hlaunched]
    exact h.spareTasks arn t (htasks ▸ ht)
  spareDefinitions := by
    intro arn d hd
    rw [SparesDefinition, hrevisions]
    exact h.spareDefinitions arn d (hdefinitions ▸ hd)

theorem noted (h : s.Sound) (cs : List Call) : (s.noted cs).Sound :=
  h.of_eq rfl rfl rfl rfl rfl

theorem getElem?_taskArn
    (h : s.Sound) (cluster : String) :
    s.tasks[taskArn cluster (s.launched + 1)]? = none := by
  rw [Option.eq_none_iff_forall_ne_some]
  intro t ht
  exact h.spareTasks _ t ht cluster _ (Nat.lt_succ_self _) rfl

theorem getElem?_definitionArn
    (h : s.Sound) (family : String) :
    s.definitions[definitionArn family (s.revisions.getD family 0 + 1)]? =
      none := by
  rw [Option.eq_none_iff_forall_ne_some]
  intro d hd
  exact h.spareDefinitions _ d hd family _ (Nat.lt_succ_self _) rfl

theorem empty : Sound {} where
  tasks := .empty
  definitions := .empty
  instances := .empty
  spareTasks := by simp
  spareDefinitions := by simp

/-! ## Definitions -/

theorem register (h : s.Sound) (r : Registration) : (s.register r).2.Sound where
  tasks := h.tasks
  definitions := h.definitions.insert rfl
  instances := h.instances
  spareTasks := h.spareTasks
  spareDefinitions := by
    intro arn d hd
    rcases Table.getElem?_insert_eq_some_iff.mp hd with ⟨rfl, -⟩ | ⟨-, hold⟩
    · exact sparesDefinition_nextDefinition r s
    · exact (h.spareDefinitions arn d hold).register r

/-- Fewer definitions are as sound as more. -/
theorem submap
    (h : s.Sound) {ds : Std.ExtTreeMap String TaskDefinition}
    (hds : ∀ (arn : String) (d : TaskDefinition),
        ds[arn]? = some d → s.definitions[arn]? = some d) :
    Sound { s with definitions := ds } where
  tasks := h.tasks
  definitions := fun arn d hd => h.definitions arn d (hds arn d hd)
  instances := h.instances
  spareTasks := h.spareTasks
  spareDefinitions := fun arn d hd => h.spareDefinitions arn d (hds arn d hd)

/-- A definition may be written over by one of its name. -/
theorem redefine
    (h : s.Sound) {arn : String} {d d' : TaskDefinition}
    (hd : s.definitions[arn]? = some d) (harn : d'.arn = d.arn) :
    Sound { s with definitions := s.definitions.insert arn d' } where
  tasks := h.tasks
  definitions := h.definitions.insert (harn.trans (h.definitions arn d hd))
  instances := h.instances
  spareTasks := h.spareTasks
  spareDefinitions := by
    intro k d'' hd''
    rcases Table.getElem?_insert_eq_some_iff.mp hd'' with ⟨rfl, -⟩ | ⟨-, hold⟩
    · exact h.spareDefinitions arn d hd
    · exact h.spareDefinitions k d'' hold

/-! ## Tasks -/

/-- Launching a task, whatever becomes of the instances and the reservations. -/
theorem launched (h : s.Sound) {t : Task} {cluster : String}
    (ht : t.arn = taskArn cluster (s.launched + 1))
    {instances : Std.ExtTreeMap String ContainerInstance}
    (hinstances : Table.KeyedBy ContainerInstance.arn instances)
    (reservations : Std.ExtTreeMap String Demand) :
    Sound { s with
      instances, reservations
      launched := s.launched + 1
      tasks := s.tasks.insert (taskArn cluster (s.launched + 1)) t } where
  tasks := h.tasks.insert ht
  definitions := h.definitions
  instances := hinstances
  spareTasks := by
    intro arn t' ht' cluster' n hn harn
    rcases Table.getElem?_insert_eq_some_iff.mp ht' with ⟨hnew, -⟩ | ⟨-, hold⟩
    · rw [harn] at hnew
      obtain ⟨-, rfl⟩ := taskArn_inj hnew
      exact Nat.lt_irrefl _ hn
    · exact h.spareTasks arn t' hold cluster' n (Nat.lt_of_succ_lt hn) harn
  spareDefinitions := h.spareDefinitions

theorem launch
    (h : s.Sound) (now : UInt64) (cluster : String) (d : TaskDefinition)
    (instanceArn : Option String) (launchType : Option Capacity)
    (provider : Option String) :
    (s.launch now cluster d instanceArn launchType provider).2.Sound :=
  h.launched (nextTask_arn now cluster d instanceArn launchType provider s)
    h.instances s.reservations

theorem afterStart
    (h : s.Sound) (now : UInt64) (cluster : String) (d : TaskDefinition)
    {i : ContainerInstance} {arn : String} (hi : s.instances[arn]? = some i) :
    (s.afterStart now cluster d i arn).Sound := by
  have hinstances :=
    h.instances.insert (v := i.reserve d.demand) (h.instances arn i hi)
  exact h.launched (nextTask_arn now cluster d (some arn) (some .ec2) none s)
    hinstances _

theorem startOn
    (h : s.Sound) (now : UInt64) (cluster : String) (d : TaskDefinition)
    (arn : String) :
    (s.startOn now cluster d arn).2.Sound := by
  rcases startOn_cases now cluster d arn s with ⟨f, heq⟩ | ⟨i, hi, -, -, heq⟩
  · rw [heq]
    exact h
  · rw [heq]
    exact h.afterStart now cluster d hi

theorem handBack
    (h : s.Sound) (arn : String) (t : Task) :
    (s.handBack arn t).Sound := by
  rcases handBack_cases arn t s with ⟨-, heq⟩ | ⟨a, i, -, hi, heq⟩
  · rw [heq]
    exact h.of_eq rfl rfl rfl rfl rfl
  · rw [heq]
    refine ⟨h.tasks, h.definitions, ?_, h.spareTasks, h.spareDefinitions⟩
    apply h.instances.insert
    rw [ContainerInstance.release_arn, h.instances a i hi]

theorem insertStopped
    (h : s.Sound) {arn : String} {t : Task} (ht : s.tasks[arn]? = some t) :
    Sound { s with tasks := s.tasks.insert arn (stopped t) } where
  tasks := h.tasks.insert (h.tasks arn t ht)
  definitions := h.definitions
  instances := h.instances
  spareTasks := by
    intro arn' t' ht'
    rcases Table.getElem?_insert_eq_some_iff.mp ht' with ⟨rfl, -⟩ | ⟨-, hold⟩
    · exact h.spareTasks arn t ht
    · exact h.spareTasks arn' t' hold
  spareDefinitions := h.spareDefinitions

/-! ## Every step -/

/-- Nothing that a call does makes a service unsound. -/
theorem changes
    (h : s.Sound) {now : UInt64} (hchange : Changes now s s') :
    s'.Sound := by
  cases hchange with
  | mishap m hderegister hdelete => exact h.of_eq rfl rfl rfl rfl rfl
  | register r => exact h.register r
  | retire hd => exact h.redefine hd (retired_arn _)
  | forget ds hds => exact h.submap hds
  | start cluster hd hi hmemory hcpu => exact h.afterStart now cluster _ hi
  | run cluster launchType provider hd =>
    exact h.launch now cluster _ none launchType provider
  | stopAgain ht hstopped => exact h.insertStopped ht
  | stop ht hactive => exact (h.insertStopped ht).handBack _ _

theorem serve
    (h : s.Sound) (now : UInt64) (c : Call) :
    (s.serve now c).2.Sound :=
  serve_keeps (P := Sound) (fun _ _ hchange hs => hs.changes hchange) c
    (h.noted [c])

theorem enlist (h : s.Sound) (i : ContainerInstance) : (s.enlist i).Sound :=
  ⟨h.tasks, h.definitions, h.instances.insert rfl, h.spareTasks,
    h.spareDefinitions⟩

theorem plantTask
    (h : s.Sound) {t : Task} {d : TaskDefinition} (ht : s.SparesTask t.arn)
    (hd : s.SparesDefinition d.arn) :
    (s.plantTask t d).Sound where
  tasks := h.tasks.insert rfl
  definitions := h.definitions.insert rfl
  instances := h.instances
  spareTasks := by
    intro arn t' ht'
    rcases Table.getElem?_insert_eq_some_iff.mp ht' with ⟨rfl, -⟩ | ⟨-, hold⟩
    · exact ht
    · exact h.spareTasks arn t' hold
  spareDefinitions := by
    intro arn d' hd'
    rcases Table.getElem?_insert_eq_some_iff.mp hd' with ⟨rfl, -⟩ | ⟨-, hold⟩
    · exact hd
    · exact h.spareDefinitions arn d' hold

theorem arrange (h : s.Sound) (a : Arrangement) : (s.arrange a).Sound := by
  cases a <;> exact h.of_eq rfl rfl rfl rfl rfl

/-! ## Lasting tasks -/

variable {arn : String} {t : Task}

theorem getElem?_insert_task
    (h : s.Sound) (ht : s.tasks[arn]? = some t) (cluster : String) (t' : Task) :
    (s.tasks.insert (taskArn cluster (s.launched + 1)) t')[arn]? = some t := by
  refine Table.getElem?_insert_eq_some_iff.mpr (Or.inr ⟨?_, ht⟩)
  intro harn
  exact h.spareTasks arn t ht cluster _ (Nat.lt_succ_self _) harn.symm

theorem getElem?_insert_stopped
    {a : String} {t' : Task} (ht : s.tasks[arn]? = some t)
    (hold : s.tasks[a]? = some t') :
    (s.tasks.insert a (stopped t'))[arn]? = some t ∨
    (s.tasks.insert a (stopped t'))[arn]? = some (stopped t) := by
  by_cases ha : a = arn
  · subst ha
    obtain rfl : t = t' := Option.some.inj (ht.symm.trans hold)
    exact Or.inr (Table.getElem?_insert_eq_some_iff.mpr (Or.inl ⟨rfl, rfl⟩))
  · exact Or.inl (Table.getElem?_insert_eq_some_iff.mpr (Or.inr ⟨ha, ht⟩))

theorem getElem?_tasks_of_changes
    (h : s.Sound) (ht : s.tasks[arn]? = some t) {now : UInt64}
    (hchange : Changes now s s') :
    s'.tasks[arn]? = some t ∨ s'.tasks[arn]? = some (stopped t) := by
  cases hchange with
  | start cluster hd hi hmemory hcpu =>
    exact Or.inl (h.getElem?_insert_task ht cluster _)
  | run cluster launchType provider hd =>
    exact Or.inl (h.getElem?_insert_task ht cluster _)
  | stopAgain hold hstopped => exact getElem?_insert_stopped ht hold
  | @stop a t' hold hactive =>
    rcases handBack_cases a t' { s with tasks := s.tasks.insert a (stopped t') }
      with
      ⟨-, heq⟩ | ⟨b, i, -, -, heq⟩
    · rw [heq]
      exact getElem?_insert_stopped ht hold
    · rw [heq]
      exact getElem?_insert_stopped ht hold
  | _ => exact Or.inl ht

/-- No call loses a task, and all that a call changes about one is that it is
stopped. -/
theorem getElem?_tasks_serve
    (h : s.Sound) (ht : s.tasks[arn]? = some t) (now : UInt64) (c : Call) :
    (s.serve now c).2.tasks[arn]? = some t ∨
    (s.serve now c).2.tasks[arn]? = some (stopped t) := by
  refine (serve_keeps (P := fun s' => s'.Sound ∧
    (s'.tasks[arn]? = some t ∨ s'.tasks[arn]? = some (stopped t))) ?_ c
    ⟨h.noted [c], Or.inl ht⟩).2
  rintro s₁ s₂ hchange ⟨hsound, hkept⟩
  refine ⟨hsound.changes hchange, ?_⟩
  rcases hkept with hsame | hstopped
  · exact hsound.getElem?_tasks_of_changes hsame hchange
  · rcases hsound.getElem?_tasks_of_changes hstopped hchange with hsame | hagain
    · exact Or.inr hsame
    · exact Or.inr hagain

end Sound

theorem Reachable.sound {s : Service} (h : Reachable s) : s.Sound := by
  induction h with
  | empty => exact .empty
  | call _ now c ih => exact ih.serve now c
  | enlist _ i ih => exact ih.enlist i
  | plant _ t d ht hd ih => exact ih.plantTask ht hd
  | arrange _ a ih => exact ih.arrange a

end Service
end AgentFleet

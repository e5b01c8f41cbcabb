import AgentFleet.Proofs.Later

/-!
# Events

Calls, new instances and arrangements are the events that a service may see if
nothing is planted into it.  For each event this module says what becomes of the
table of definitions and of the table of tasks, and from that, what the event
makes of one definition and of one task.
-/

namespace AgentFleet

/-- What may happen to a service. -/
inductive Event where
  | call (now : UInt64) (c : Call)
  | enlist (i : ContainerInstance)
  | arrange (a : Arrangement)

namespace Event

/-- The service after an event. -/
def apply (s : Service) : Event → Service
  | call now c => (s.serve now c).2
  | enlist i => s.enlist i
  | arrange a => s.arrange a

/-- The definitions that a registration answers with. -/
def registered (s : Service) : Event → List TaskDefinition
  | call now (.register r) => (s.serve now (.register r)).1.toOption.toList
  | _ => []

/-- The tasks that a launch answers with. -/
def launched (s : Service) : Event → List Task
  | call now (.startTask r) =>
    (s.serve now (.startTask r)).1.toOption.toList.flatMap (·.tasks)
  | call now (.runTask r) =>
    (s.serve now (.runTask r)).1.toOption.toList.flatMap (·.tasks)
  | _ => []

end Event

/-! ## What an event does to the tables -/

namespace Service

variable {s : Service}

/-- Removing definitions takes away inactive ones that were named, and no
others. -/
theorem getElem?_removeDefinitions_cases
    (arns : List String) (ds : Std.ExtTreeMap String TaskDefinition)
    (arn : String) :
    (removeDefinitions arns ds).2[arn]? = ds[arn]? ∨
    (arn ∈ arns ∧
      (∃ d : TaskDefinition, ds[arn]? = some d ∧ d.status ≠ .active) ∧
      (removeDefinitions arns ds).2[arn]? = none) := by
  fun_induction removeDefinitions arns ds with
  | case1 ds => exact Or.inl rfl
  | case2 a rest ds hnone ih =>
    rcases ih with hsame | ⟨hmem, hgone⟩
    · exact Or.inl hsame
    · exact Or.inr ⟨List.mem_cons_of_mem a hmem, hgone⟩
  | case3 a rest ds d hsome hactive => exact Or.inl rfl
  | case4 a rest ds d hsome hactive ih =>
    by_cases ha : a = arn
    · subst ha
      refine Or.inr ⟨List.mem_cons_self, ⟨d, hsome, hactive⟩, ?_⟩
      rw [Option.eq_none_iff_forall_ne_some]
      intro d' hd'
      exact (Table.getElem?_erase_eq_some_iff.mp
          (getElem?_of_removeDefinitions hd')).1 rfl
    · have herase : (ds.erase a)[arn]? = ds[arn]? := by
        rw [Std.ExtTreeMap.getElem?_erase, if_neg (by simpa using ha)]
      rw [herase] at ih
      rcases ih with hsame | ⟨hmem, hgone⟩
      · exact Or.inl hsame
      · exact Or.inr ⟨List.mem_cons_of_mem a hmem, hgone⟩

theorem adds_launch
    (h : s.Sound) (now : UInt64) (cluster : String) (d : TaskDefinition)
    (instanceArn : Option String) (launchType : Option Capacity)
    (provider : Option String) :
    Table.Adds Task.arn s.tasks
      (s.launch now cluster d instanceArn launchType provider).2.tasks
      [s.nextTask now cluster d instanceArn launchType provider] :=
  .one (nextTask_arn now cluster d instanceArn launchType provider s)
    (h.getElem?_taskArn cluster)

theorem adds_startEach
    (h : s.Sound) (now : UInt64) (cluster : String) (d : TaskDefinition)
    (arns : List String) :
    Table.Adds Task.arn s.tasks (s.startEach now cluster d arns).2.tasks
      (s.startEach now cluster d arns).1.tasks := by
  induction arns generalizing s with
  | nil => exact .nil
  | cons arn rest ih =>
    have hrest := ih (h.startOn now cluster d arn)
    rw [startEach]
    rcases startOn_cases now cluster d arn s with ⟨f, heq⟩ | ⟨i, hi, -, -, heq⟩
    · rw [heq] at hrest ⊢
      exact hrest
    · rw [heq] at hrest ⊢
      exact (adds_launch h now cluster d (some arn) (some .ec2) none).append
        hrest

theorem of_mem_startEach
    (now : UInt64) (cluster : String) (d : TaskDefinition) {arns : List String}
    {t : Task} (ht : t ∈ (s.startEach now cluster d arns).1.tasks) :
    t.definitionArn = d.arn ∧ t.desiredStatus = .running := by
  induction arns generalizing s with
  | nil => cases ht
  | cons arn rest ih =>
    rw [startEach] at ht
    rcases startOn_cases now cluster d arn s with ⟨f, heq⟩ | ⟨i, -, -, -, heq⟩
    · rw [heq] at ht
      exact ih ht
    · rw [heq] at ht
      rcases List.mem_cons.mp ht with rfl | ht
      · exact ⟨rfl, rfl⟩
      · exact ih ht

theorem definitions_startEach
    (now : UInt64) (cluster : String) (d : TaskDefinition)
    (arns : List String) :
    (s.startEach now cluster d arns).2.definitions = s.definitions := by
  induction arns generalizing s with
  | nil => rfl
  | cons arn rest ih =>
    rw [startEach_cons, ih]
    rcases startOn_cases now cluster d arn s with ⟨f, heq⟩ | ⟨i, -, -, -, heq⟩
    · rw [heq]
    · rw [heq]
      rfl

theorem definitions_handBack
    (arn : String) (t : Task) (s : Service) :
    (s.handBack arn t).definitions = s.definitions := by
  rcases handBack_cases arn t s with ⟨-, heq⟩ | ⟨a, i, -, -, heq⟩ <;> rw [heq]

theorem tasks_handBack
    (arn : String) (t : Task) (s : Service) :
    (s.handBack arn t).tasks = s.tasks := by
  rcases handBack_cases arn t s with ⟨-, heq⟩ | ⟨a, i, -, -, heq⟩ <;> rw [heq]

theorem definitions_startTask
    (now : UInt64) (r : StartTask) (s : Service) :
    (s.startTask now r).2.definitions = s.definitions := by
  rcases startTask_cases now r s with ⟨e, -, heq⟩ | ⟨e, -, heq⟩ | ⟨fs, heq⟩ |
    ⟨d, -, heq⟩
  · rw [heq]
  · rw [heq]
  · rw [heq]
  · rw [heq, definitions_startEach]

theorem definitions_runTask
    (now : UInt64) (r : RunTask) (s : Service) :
    (s.runTask now r).2.definitions = s.definitions := by
  rcases runTask_cases now r s with
    ⟨e, -, heq⟩ | ⟨-, -, -, heq⟩ | ⟨e, -, heq⟩ | ⟨fs, heq⟩ |
        ⟨d, launchType, provider, -, heq⟩ <;>
    rw [heq]
  rfl

theorem definitions_stopTask
    (cluster arn : String) (s : Service) :
    (s.stopTask cluster arn).2.definitions = s.definitions := by
  rcases stopTask_cases cluster arn s with
    ⟨e, heq, -⟩ | ⟨t, -, -, -, heq⟩ | ⟨t, -, -, -, heq⟩
  · rw [heq]
  · rw [heq]
  · rw [heq, definitions_handBack]

theorem adds_startTask
    (h : s.Sound) (now : UInt64) (r : StartTask) :
    Table.Adds Task.arn s.tasks (s.startTask now r).2.tasks
      ((s.startTask now r).1.toOption.toList.flatMap (·.tasks)) := by
  rcases startTask_cases now r s with ⟨e, -, heq⟩ | ⟨e, -, heq⟩ | ⟨fs, heq⟩ |
    ⟨d, -, heq⟩
  · rw [heq]
    exact .nil
  · rw [heq]
    exact .nil
  · rw [heq]
    exact .nil
  · rw [heq]
    simpa [Except.toOption] using adds_startEach h now r.cluster d r.instances

theorem adds_runTask
    (h : s.Sound) (now : UInt64) (r : RunTask) :
    Table.Adds Task.arn s.tasks (s.runTask now r).2.tasks
      ((s.runTask now r).1.toOption.toList.flatMap (·.tasks)) := by
  rcases runTask_cases now r s with
    ⟨e, -, heq⟩ | ⟨-, -, -, heq⟩ | ⟨e, -, heq⟩ | ⟨fs, heq⟩ |
      ⟨d, launchType, provider, -, heq⟩
  · rw [heq]
    exact .nil
  · rw [heq]
    exact .nil
  · rw [heq]
    exact .nil
  · rw [heq]
    exact .nil
  · rw [heq]
    exact adds_launch h now r.cluster d none launchType provider

/-- The task is meant to run, and the definition it was started from is there
and active. -/
def StartsFromActive (s : Service) (t : Task) : Prop :=
  t.desiredStatus = .running ∧
    ∃ d, s.definitions[t.definitionArn]? = some d ∧ d.status = .active

theorem startsFromActive_startTask
    (h : s.Sound) (now : UInt64) (r : StartTask) {t : Task}
    (ht : t ∈ (s.startTask now r).1.toOption.toList.flatMap (·.tasks)) :
    s.StartsFromActive t := by
  rcases startTask_cases now r s with ⟨e, -, heq⟩ | ⟨e, -, heq⟩ | ⟨fs, heq⟩ |
    ⟨d, hd, heq⟩
  · simp [heq, Except.toOption] at ht
  · simp [heq, Except.toOption] at ht
  · simp [heq, Except.toOption] at ht
  · obtain ⟨hstored, hactive⟩ := getElem?_of_launchable hd
    have hmem : t ∈ (s.startEach now r.cluster d r.instances).1.tasks := by
      simpa [heq, Except.toOption] using ht
    obtain ⟨harn, hrunning⟩ := of_mem_startEach now r.cluster d hmem
    refine ⟨hrunning, d, ?_, hactive⟩
    rw [harn, h.definitions _ d hstored, hstored]

theorem startsFromActive_runTask
    (h : s.Sound) (now : UInt64) (r : RunTask) {t : Task}
    (ht : t ∈ (s.runTask now r).1.toOption.toList.flatMap (·.tasks)) :
    s.StartsFromActive t := by
  rcases runTask_cases now r s with
    ⟨e, -, heq⟩ | ⟨-, -, -, heq⟩ | ⟨e, -, heq⟩ | ⟨fs, heq⟩ |
      ⟨d, launchType, provider, hd, heq⟩
  · simp [heq, Except.toOption] at ht
  · simp [heq, Except.toOption] at ht
  · simp [heq, Except.toOption] at ht
  · simp [heq, Except.toOption] at ht
  · obtain ⟨hstored, hactive⟩ := getElem?_of_launchable hd
    obtain rfl : t = s.nextTask now r.cluster d none launchType provider := by
      simpa [heq, Except.toOption] using ht
    have harn :
        (s.nextTask now r.cluster d none launchType provider).definitionArn =
          d.arn := rfl
    refine ⟨rfl, d, ?_, hactive⟩
    rw [harn, h.definitions _ d hstored, hstored]

end Service

namespace Event

open Service

variable {s : Service}

/-- What an event answers registrations with, and the definitions that it
leaves. -/
inductive Defines
    (s : Service) :
    Event →
    List TaskDefinition →
    Std.ExtTreeMap String TaskDefinition →
    Prop where
  | register (now : UInt64) (r : Registration) :
      Defines s (.call now (.register r)) [s.nextDefinition r]
        (s.definitions.insert (s.nextDefinition r).arn (s.nextDefinition r))
  | retire (now : UInt64) {arn : String} {d : TaskDefinition}
      (hd : s.definitions[arn]? = some d) :
      Defines s (.call now (.deregister arn)) []
        (s.definitions.insert arn (retired d))
  | forget (now : UInt64) (arns : List String) :
      Defines s (.call now (.delete arns)) []
        (removeDefinitions arns s.definitions).2
  | same (e : Event) : Defines s e [] s.definitions

/-- What an event answers launches with, and the tasks that it leaves. -/
inductive Tasks
    (s : Service) : Event → List Task → Std.ExtTreeMap String Task → Prop where
  | stop (now : UInt64) (reason : String) {arn : String} {t : Task}
      (ht : s.tasks[arn]? = some t) :
      Tasks s (.call now (.stopTask t.cluster arn reason)) []
        (s.tasks.insert arn (stopped t))
  | launch (e : Event) {ts : List Task} {tasks : Std.ExtTreeMap String Task}
      (hadds : Table.Adds Task.arn s.tasks tasks ts) : Tasks s e ts tasks

theorem defines
    (s : Service) (e : Event) :
    Defines s e (e.registered s) (e.apply s).definitions := by
  cases e with
  | enlist i => exact .same _
  | arrange a => cases a <;> exact .same _
  | call now c =>
    cases c with
    | register r => exact .register now r
    | deregister arn =>
      change Defines s _ []
        ((s.noted [.deregister arn]).deregister arn).2.definitions
      rcases deregister_cases arn (s.noted [.deregister arn]) with
        ⟨e, -, heq⟩ | ⟨-, -, heq⟩ | ⟨d, -, hd, heq⟩
      · rw [heq]
        exact .same _
      · rw [heq]
        exact .same _
      · rw [heq]
        exact .retire now hd
    | delete arns =>
      change Defines s _ [] ((s.noted [.delete arns]).delete arns).2.definitions
      rcases delete_cases arns (s.noted [.delete arns]) with ⟨e, -, heq⟩ |
        ⟨-, heq⟩
      · rw [heq]
        exact .same _
      · rw [heq]
        exact .forget now arns
    | startTask r =>
      change Defines s _ []
        ((s.noted [.startTask r]).startTask now r).2.definitions
      rw [definitions_startTask]
      exact .same _
    | runTask r =>
      change Defines s _ [] ((s.noted [.runTask r]).runTask now r).2.definitions
      rw [definitions_runTask]
      exact .same _
    | stopTask cluster arn reason =>
      change Defines s _ []
        ((s.noted [.stopTask cluster arn reason]).stopTask cluster
            arn).2.definitions
      rw [definitions_stopTask]
      exact .same _
    | _ => exact .same _

theorem tasks
    (h : s.Sound) (e : Event) :
    Tasks s e (e.launched s) (e.apply s).tasks := by
  cases e with
  | enlist i => exact .launch _ .nil
  | arrange a => cases a <;> exact .launch _ .nil
  | call now c =>
    cases c with
    | register r => exact .launch _ .nil
    | deregister arn =>
      change Tasks s _ [] ((s.noted [.deregister arn]).deregister arn).2.tasks
      rcases deregister_cases arn (s.noted [.deregister arn]) with
        ⟨e, -, heq⟩ | ⟨-, -, heq⟩ | ⟨d, -, -, heq⟩ <;> rw [heq] <;>
          exact .launch _ .nil
    | delete arns =>
      change Tasks s _ [] ((s.noted [.delete arns]).delete arns).2.tasks
      rcases delete_cases arns (s.noted [.delete arns]) with ⟨e, -, heq⟩ |
          ⟨-, heq⟩ <;>
        rw [heq] <;> exact .launch _ .nil
    | startTask r =>
      exact .launch _ (adds_startTask (h.noted [.startTask r]) now r)
    | runTask r =>
      exact .launch _ (adds_runTask (h.noted [.runTask r]) now r)
    | stopTask cluster arn reason =>
      change Tasks s _ []
        ((s.noted [.stopTask cluster arn reason]).stopTask cluster arn).2.tasks
      rcases stopTask_cases cluster arn (s.noted [.stopTask cluster arn reason])
        with
        ⟨e, heq, -⟩ | ⟨t, ht, rfl, -, heq⟩ | ⟨t, ht, rfl, -, heq⟩
      · rw [heq]
        exact .launch _ .nil
      · rw [heq]
        exact .stop now reason ht
      · rw [heq, tasks_handBack]
        exact .stop now reason ht
    | _ => exact .launch _ .nil

theorem startsFromActive
    (h : s.Sound) {e : Event} {t : Task} (ht : t ∈ e.launched s) :
    s.StartsFromActive t := by
  cases e with
  | enlist i => cases ht
  | arrange a => cases ht
  | call now c =>
    cases c with
    | startTask r =>
      exact startsFromActive_startTask (h.noted [.startTask r]) now r ht
    | runTask r =>
      exact startsFromActive_runTask (h.noted [.runTask r]) now r ht
    | _ => cases ht

theorem sound (h : s.Sound) (e : Event) : (e.apply s).Sound := by
  cases e with
  | call now c => exact h.serve now c
  | enlist i => exact h.enlist i
  | arrange a => exact h.arrange a

theorem sparesDefinition
    {arn : String} (h : s.SparesDefinition arn) (e : Event) :
    (e.apply s).SparesDefinition arn := by
  cases e with
  | call now c => exact h.later (.serve now c s)
  | enlist i => exact h
  | arrange a => cases a <;> exact h

/-! ## What an event makes of one definition and of one task -/

/-- What becomes of a definition under an event, once a registration has
answered with it. -/
inductive AgesDefinition (e : Event) (d : TaskDefinition) :
    Option TaskDefinition → Option TaskDefinition → Prop where
  | same (o : Option TaskDefinition) : AgesDefinition e d o o
  | retire (now : UInt64) (he : e = .call now (.deregister d.arn)) :
      AgesDefinition e d (some d) (some { d with status := .inactive })
  | remove (now : UInt64) {arns : List String}
      (he : e = .call now (.delete arns)) (harn : d.arn ∈ arns) :
      AgesDefinition e d (some { d with status := .inactive }) none

/-- What becomes of a task under an event, once a launch has answered with it.
-/
inductive AgesTask
    (e : Event) (t : Task) : Option Task → Option Task → Prop where
  | same (o : Option Task) : AgesTask e t o o
  | stop (now : UInt64) (reason : String)
      (he : e = .call now (.stopTask t.cluster t.arn reason)) :
      AgesTask e t (some t) (some (stopped t))

/-- How far a definition has come: it is as it was registered, or inactive, or
gone. -/
def DefinitionStage (d : TaskDefinition) (o : Option TaskDefinition) : Prop :=
  o = some d ∨ o = some { d with status := .inactive } ∨ o = none

/-- How far a task has come: it is as it was launched, or stopped. -/
def TaskStage (t : Task) (o : Option Task) : Prop :=
  o = some t ∨ o = some (stopped t)

theorem TaskStage.exists
    {t : Task} {o : Option Task} (h : TaskStage t o) :
    ∃ t', o = some t' := by
  rcases h with hsame | hstopped
  · exact ⟨_, hsame⟩
  · exact ⟨_, hstopped⟩

variable {e : Event}

theorem AgesDefinition.stage
    {d : TaskDefinition} {o o' : Option TaskDefinition}
    (h : e.AgesDefinition d o o') (ho : DefinitionStage d o) :
    DefinitionStage d o' := by
  cases h with
  | same => exact ho
  | retire now he => exact Or.inr (Or.inl rfl)
  | remove now he harn => exact Or.inr (Or.inr rfl)

/-- A definition that changes at all was as it was registered, or goes. -/
theorem AgesDefinition.later
    {d : TaskDefinition} {o o' : Option TaskDefinition}
    (h : e.AgesDefinition d o o') :
    o' = o ∨ o = some d ∨ o' = none := by
  cases h with
  | same => exact Or.inl rfl
  | retire now he => exact Or.inr (Or.inl rfl)
  | remove now he harn => exact Or.inr (Or.inr rfl)

theorem AgesTask.later
    {t : Task} {o o' : Option Task} (h : e.AgesTask t o o') :
    o' = o ∨ o = some t := by
  cases h with
  | same => exact Or.inl rfl
  | stop now reason he => exact Or.inr rfl

theorem AgesTask.stage
    {t : Task} {o o' : Option Task} (h : e.AgesTask t o o')
    (ho : TaskStage t o) :
    TaskStage t o' := by
  cases h with
  | same => exact ho
  | stop now reason he => exact Or.inr rfl

namespace Defines

variable {ds : List TaskDefinition} {m : Std.ExtTreeMap String TaskDefinition}

theorem ages
    (h : Defines s e ds m) {d : TaskDefinition} (hactive : d.status = .active)
    (hspares : s.SparesDefinition d.arn)
    (hstage : DefinitionStage d s.definitions[d.arn]?) :
    e.AgesDefinition d s.definitions[d.arn]? m[d.arn]? := by
  cases h with
  | register now r =>
    have hne : (s.nextDefinition r).arn ≠ d.arn :=
      fun heq => hspares r.family _ (Nat.lt_succ_self _) heq.symm
    rw [Std.ExtTreeMap.getElem?_insert, if_neg (by simpa using hne)]
    exact .same _
  | @retire now arn d' hd =>
    rw [Std.ExtTreeMap.getElem?_insert]
    by_cases harn : arn = d.arn
    · subst harn
      rw [if_pos (by simp), hd]
      rw [hd] at hstage
      rcases hstage with hsame | hinactive | hgone
      · obtain rfl : d' = d := Option.some.inj hsame
        rw [retired, if_pos hactive]
        exact .retire now rfl
      · obtain rfl : d' = { d with status := .inactive } :=
          Option.some.inj hinactive
        exact .same _
      · cases hgone
    · rw [if_neg (by simpa using harn)]
      exact .same _
  | forget now arns =>
    rcases getElem?_removeDefinitions_cases arns s.definitions d.arn with
      hsame | ⟨hmem, ⟨d', hd', hinactive⟩, hnone⟩
    · rw [hsame]
      exact .same _
    · rw [hnone]
      rw [hd'] at hstage ⊢
      rcases hstage with hsame | hretired | hgone
      · obtain rfl : d' = d := Option.some.inj hsame
        exact absurd hactive hinactive
      · rw [hretired]
        exact .remove now rfl hmem
      · cases hgone
  | same e => exact .same _

/-- A registration answers with the definition that it has put where none was.
-/
theorem of_mem
    (h : Defines s e ds m) {d : TaskDefinition} (hd : d ∈ ds) :
    ∃ now r,
      e = .call now (.register r) ∧
      ds = [d] ∧
      d = s.nextDefinition r ∧
      m[d.arn]? = some d := by
  cases h with
  | register now r =>
    obtain rfl := List.mem_singleton.mp hd
    exact ⟨now, r, rfl, rfl, rfl,
      Table.getElem?_insert_eq_some_iff.mpr (Or.inl ⟨rfl, rfl⟩)⟩
  | _ => cases hd

theorem nodup (h : Defines s e ds m) : (ds.map TaskDefinition.arn).Nodup := by
  cases h with
  | register now r => simp
  | _ => exact List.nodup_nil

theorem known
    (h : Defines s e ds m) {arn : String} {d : TaskDefinition}
    (hd : m[arn]? = some d) :
    (∃ d', s.definitions[arn]? = some d') ∨ ∃ d' ∈ ds, d'.arn = arn := by
  cases h with
  | register now r =>
    rcases Table.getElem?_insert_eq_some_iff.mp hd with ⟨harn, -⟩ | ⟨-, hold⟩
    · exact Or.inr ⟨_, List.mem_singleton_self _, harn⟩
    · exact Or.inl ⟨d, hold⟩
  | retire now hstored =>
    rcases Table.getElem?_insert_eq_some_iff.mp hd with ⟨rfl, -⟩ | ⟨-, hold⟩
    · exact Or.inl ⟨_, hstored⟩
    · exact Or.inl ⟨d, hold⟩
  | forget now arns => exact Or.inl ⟨d, getElem?_of_removeDefinitions hd⟩
  | same e => exact Or.inl ⟨d, hd⟩

end Defines

namespace Tasks

variable {ts : List Task} {m : Std.ExtTreeMap String Task}

theorem ages
    (h : Tasks s e ts m) {t : Task} (hstage : TaskStage t s.tasks[t.arn]?) :
    e.AgesTask t s.tasks[t.arn]? m[t.arn]? := by
  cases h with
  | @stop now reason arn t' ht =>
    rw [Std.ExtTreeMap.getElem?_insert]
    by_cases harn : arn = t.arn
    · subst harn
      rw [if_pos (by simp), ht]
      rw [ht] at hstage
      rcases hstage with hsame | hstopped
      · obtain rfl : t' = t := Option.some.inj hsame
        exact .stop now reason rfl
      · obtain rfl : t' = stopped t := Option.some.inj hstopped
        exact .same _
    · rw [if_neg (by simpa using harn)]
      exact .same _
  | launch e hadds =>
    obtain ⟨t', ht'⟩ := hstage.exists
    rw [hadds.getElem?_of_getElem? ht', ht']
    exact .same _

theorem of_mem
    (h : Tasks s e ts m) {t : Task} (ht : t ∈ ts) :
    s.tasks[t.arn]? = none ∧ m[t.arn]? = some t := by
  cases h with
  | stop now reason hstored => cases ht
  | launch e hadds => exact ⟨hadds.new t ht, hadds.getElem?_of_mem ht⟩

theorem nodup (h : Tasks s e ts m) : (ts.map Task.arn).Nodup := by
  cases h with
  | stop now reason hstored => exact List.nodup_nil
  | launch e hadds => exact hadds.nodup

theorem known
    (h : Tasks s e ts m) {arn : String} {t : Task} (ht : m[arn]? = some t) :
    (∃ t', s.tasks[arn]? = some t') ∨ ∃ t' ∈ ts, t'.arn = arn := by
  cases h with
  | stop now reason hstored =>
    rcases Table.getElem?_insert_eq_some_iff.mp ht with ⟨rfl, -⟩ | ⟨-, hold⟩
    · exact Or.inl ⟨_, hstored⟩
    · exact Or.inl ⟨t, hold⟩
  | launch e hadds =>
    rcases (hadds.getElem?_iff arn t).mp ht with hold | ⟨hnew, harn⟩
    · exact Or.inl ⟨t, hold⟩
    · exact Or.inr ⟨t, hnew, harn⟩

end Tasks
end Event

end AgentFleet

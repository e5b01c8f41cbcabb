import AgentFleet.Proofs.Table

/-!
# What calls do to a service

For each call that changes a service there is one theorem that lists everything
the call can come to, together with the state it leaves.  Whatever holds of a
service in the long run is derived from these cases.
-/

namespace AgentFleet

@[simp]
theorem ContainerInstance.release_arn
    (i : ContainerInstance) (reserved : Option Demand) :
    (i.release reserved).arn = i.arn := by
  cases reserved <;> rfl

/-- What comes of a start on one instance. -/
def LaunchOutcome.ofStart : Except Failure Task → LaunchOutcome
  | .ok t => ⟨[t], []⟩
  | .error f => ⟨[], [f]⟩

namespace Service

variable {s : Service}

/-- The service with more calls in its journal. -/
def noted (cs : List Call) (s : Service) : Service :=
  { s with journal := s.journal ++ cs }

@[simp]
theorem noted_noted
    (cs cs' : List Call) (s : Service) :
    (s.noted cs).noted cs' = s.noted (cs ++ cs') := by
  simp [noted]

/-! ## Definitions -/

/-- The definition that a registration makes. -/
def nextDefinition (r : Registration) (s : Service) : TaskDefinition :=
  (s.register r).1

@[simp]
theorem nextDefinition_arn
    (r : Registration) (s : Service) :
    (s.nextDefinition r).arn =
      definitionArn r.family (s.revisions.getD r.family 0 + 1) :=
  rfl

theorem register_eq
    (r : Registration) (s : Service) :
    s.register r = (s.nextDefinition r, { s with
      revisions :=
        s.revisions.insert r.family (s.revisions.getD r.family 0 + 1)
      definitions :=
        s.definitions.insert (s.nextDefinition r).arn (s.nextDefinition r) }) :=
  rfl

/-- The definition as it is once it has been deregistered. -/
def retired (d : TaskDefinition) : TaskDefinition :=
  if d.status = .active then { d with status := .inactive } else d

theorem retired_arn (d : TaskDefinition) : (retired d).arn = d.arn := by
  rw [retired]
  split <;> rfl

theorem retired_containers
    (d : TaskDefinition) :
    (retired d).containers = d.containers := by
  rw [retired]
  split <;> rfl

theorem retired_status_ne
    (d : TaskDefinition) :
    (retired d).status ≠ .active := by
  rw [retired]
  split
  · exact DefinitionStatus.noConfusion
  · assumption

theorem deregister_cases
    (arn : String) (s : Service) :
    (∃ e,
        s.mishaps.deregister = some e ∧
        s.deregister arn = (.error e, { s with mishaps.deregister := none })) ∨
    (s.mishaps.deregister = none ∧
      s.definitions[arn]? = none ∧
      s.deregister arn = (.error (noDefinition arn), s)) ∨
    (∃ d,
        s.mishaps.deregister = none ∧
        s.definitions[arn]? = some d ∧
        s.deregister arn =
          (.ok (retired d),
            { s with
              definitions := s.definitions.insert arn (retired d) })) := by
  rw [deregister]
  cases hmishap : s.mishaps.deregister with
  | some e => exact Or.inl ⟨e, rfl, rfl⟩
  | none =>
    cases hd : s.definitions[arn]? with
    | none => exact Or.inr (Or.inl ⟨rfl, rfl, rfl⟩)
    | some d => exact Or.inr (Or.inr ⟨d, rfl, rfl, rfl⟩)

/-- Removing definitions leaves the others as they were. -/
theorem getElem?_of_removeDefinitions
    {arns : List String} {ds : Std.ExtTreeMap String TaskDefinition}
    {arn : String} {d : TaskDefinition}
    (h : (removeDefinitions arns ds).2[arn]? = some d) :
    ds[arn]? = some d := by
  fun_induction removeDefinitions arns ds with
  | case1 ds => exact h
  | case2 ds a rest hnone ih => exact ih h
  | case3 ds a rest d' hsome hactive => exact h
  | case4 ds a rest d' hsome hactive ih =>
    have herased := ih h
    rw [Std.ExtTreeMap.getElem?_erase] at herased
    split at herased
    · exact absurd herased (Option.some_ne_none d).symm
    · exact herased

theorem delete_cases
    (arns : List String) (s : Service) :
    (∃ e,
        s.mishaps.delete = some e ∧
        s.delete arns = (.error e, { s with mishaps.delete := none })) ∨
    (s.mishaps.delete = none ∧
      s.delete arns =
        ((removeDefinitions arns s.definitions).1,
          { s with
            definitions := (removeDefinitions arns s.definitions).2 })) := by
  rw [delete]
  cases hmishap : s.mishaps.delete with
  | some e => exact Or.inl ⟨e, rfl, rfl⟩
  | none => exact Or.inr ⟨rfl, rfl⟩

/-! ## Launches -/

/-- The task that the next launch makes. -/
def nextTask
    (now : UInt64) (cluster : String) (d : TaskDefinition)
    (instanceArn : Option String) (launchType : Option Capacity)
    (provider : Option String) (s : Service) : Task :=
  (s.launch now cluster d instanceArn launchType provider).1

theorem nextTask_arn
    (now : UInt64) (cluster : String) (d : TaskDefinition)
    (instanceArn : Option String) (launchType : Option Capacity)
    (provider : Option String) (s : Service) :
    (s.nextTask now cluster d instanceArn launchType provider).arn =
      taskArn cluster (s.launched + 1) :=
  rfl

/-- The service after a task was started on an instance. -/
def afterStart
    (now : UInt64) (cluster : String) (d : TaskDefinition)
    (i : ContainerInstance) (arn : String) (s : Service) : Service :=
  { s with
    instances := s.instances.insert arn (i.reserve d.demand)
    launched := s.launched + 1
    tasks := s.tasks.insert (taskArn cluster (s.launched + 1))
      (s.nextTask now cluster d (some arn) (some .ec2) none)
    reservations :=
      s.reservations.insert (taskArn cluster (s.launched + 1)) d.demand }

theorem startOn_cases
    (now : UInt64) (cluster : String) (d : TaskDefinition) (arn : String)
    (s : Service) :
    (∃ f, s.startOn now cluster d arn = (.error f, s)) ∨
    (∃ i,
        s.instances[arn]? = some i ∧
        d.demand.memory ≤ i.remainingMemory.toNat ∧
        d.demand.cpu ≤ i.remainingCpu.toNat ∧
        s.startOn now cluster d arn =
          (.ok (s.nextTask now cluster d (some arn) (some .ec2) none),
            s.afterStart now cluster d i arn)) := by
  rw [startOn]
  cases hi : s.instances[arn]? with
  | none => exact Or.inl ⟨_, rfl⟩
  | some i =>
    by_cases hmemory : i.lacksMemory d.demand = true
    · exact Or.inl ⟨_, if_pos hmemory⟩
    by_cases hcpu : i.lacksCpu d.demand = true
    · exact Or.inl ⟨_, (if_neg hmemory).trans (if_pos hcpu)⟩
    refine Or.inr ⟨i, rfl, ?_, ?_, (if_neg hmemory).trans (if_neg hcpu)⟩
    · simpa [ContainerInstance.lacksMemory] using hmemory
    · simpa [ContainerInstance.lacksCpu] using hcpu

theorem startEach_cons_eq
    (now : UInt64) (cluster : String) (d : TaskDefinition) (arn : String)
    (rest : List String) (s : Service) :
    s.startEach now cluster d (arn :: rest) =
      (⟨(LaunchOutcome.ofStart (s.startOn now cluster d arn).1).tasks ++
            ((s.startOn now cluster d arn).2.startEach now cluster d
                rest).1.tasks,
          (LaunchOutcome.ofStart (s.startOn now cluster d arn).1).failures ++
            ((s.startOn now cluster d arn).2.startEach now cluster d
                rest).1.failures⟩,
        ((s.startOn now cluster d arn).2.startEach now cluster d rest).2) := by
  rw [startEach]
  rcases s.startOn now cluster d arn with ⟨result, s'⟩
  cases result <;> rfl

theorem startEach_cons
    (now : UInt64) (cluster : String) (d : TaskDefinition) (arn : String)
    (rest : List String) (s : Service) :
    (s.startEach now cluster d (arn :: rest)).2 =
      ((s.startOn now cluster d arn).2.startEach now cluster d rest).2 := by
  rw [startEach_cons_eq]

/-- The service with other arrangements and another journal, both made from its
own.  A start looks at neither. -/
def overlaid (f : Mishaps → Mishaps) (g : List Call → List Call) (s : Service) :
    Service :=
  { s with mishaps := f s.mishaps, journal := g s.journal }

theorem startOn_overlaid
    (f : Mishaps → Mishaps) (g : List Call → List Call) (now : UInt64)
    (cluster : String) (d : TaskDefinition) (arn : String) (s : Service) :
    (s.overlaid f g).startOn now cluster d arn =
      ((s.startOn now cluster d arn).1,
        (s.startOn now cluster d arn).2.overlaid f g) := by
  have hinstances : (s.overlaid f g).instances = s.instances := rfl
  rw [startOn, startOn, hinstances]
  cases s.instances[arn]? with
  | none => rfl
  | some i =>
    by_cases hmemory : i.lacksMemory d.demand = true
    · simp only [if_pos hmemory]
    by_cases hcpu : i.lacksCpu d.demand = true
    · simp only [if_neg hmemory, if_pos hcpu]
    · simp only [if_neg hmemory, if_neg hcpu]
      rfl

theorem startEach_overlaid
    (f : Mishaps → Mishaps) (g : List Call → List Call) (now : UInt64)
    (cluster : String) (d : TaskDefinition) (arns : List String) (s : Service) :
    (s.overlaid f g).startEach now cluster d arns =
      ((s.startEach now cluster d arns).1,
        (s.startEach now cluster d arns).2.overlaid f g) := by
  induction arns generalizing s with
  | nil => rfl
  | cons arn rest ih =>
    rw [startEach_cons_eq, startEach_cons_eq, startOn_overlaid, ih]

theorem launchable_eq_ok
    {arn : String} {d : TaskDefinition} (hd : s.definitions[arn]? = some d)
    (hactive : d.status = .active) :
    s.launchable arn = .ok d := by
  rw [launchable, hd]
  exact if_pos hactive

theorem getElem?_of_launchable
    {arn : String} {d : TaskDefinition} (h : s.launchable arn = .ok d) :
    s.definitions[arn]? = some d ∧ d.status = .active := by
  rw [launchable] at h
  cases hd : s.definitions[arn]? with
  | none => simp [hd] at h
  | some d' =>
    rw [hd] at h
    by_cases hactive : d'.status = .active
    · obtain rfl : d' = d := by simpa [hactive] using h
      exact ⟨rfl, hactive⟩
    · simp [hactive] at h

/-- What launches have been arranged to come to starts nothing. -/
theorem arrangedOutcome_tasks
    {o : LaunchOutcome} (h : s.arrangedOutcome = some o) :
    o.tasks = [] := by
  rw [arrangedOutcome] at h
  cases hfailures : s.mishaps.launchFailures with
  | some fs =>
    rw [hfailures] at h
    rw [← Option.some.inj h]
  | none =>
    rw [hfailures] at h
    by_cases hempty : s.mishaps.emptyLaunches = true
    · rw [← Option.some.inj ((if_pos hempty).symm.trans h)]
    · exact absurd ((if_neg hempty).symm.trans h) (Option.some_ne_none o).symm

/-- Starting tasks is refused, or comes to nothing, or tries one instance after
the other. -/
theorem startTask_cases
    (now : UInt64) (r : StartTask) (s : Service) :
    (∃ e,
        s.mishaps.startTask = some e ∧
        s.startTask now r = (.error e, { s with mishaps.startTask := none })) ∨
    (∃ e,
        s.launchable r.definition = .error e ∧
        s.startTask now r = (.error e, s)) ∨
    (∃ fs, s.startTask now r = (.ok ⟨[], fs⟩, s)) ∨
    (∃ d,
        s.launchable r.definition = .ok d ∧
        s.startTask now r =
          (.ok (s.startEach now r.cluster d r.instances).1,
            (s.startEach now r.cluster d r.instances).2)) := by
  rw [startTask]
  cases hmishap : s.mishaps.startTask with
  | some e => exact Or.inl ⟨e, rfl, rfl⟩
  | none =>
    cases hd : s.launchable r.definition with
    | error e => exact Or.inr (Or.inl ⟨e, rfl, rfl⟩)
    | ok d =>
      cases ho : s.arrangedOutcome with
      | some o =>
        obtain ⟨tasks, failures⟩ := o
        obtain rfl : tasks = [] := arrangedOutcome_tasks ho
        exact Or.inr (Or.inr (Or.inl ⟨failures, rfl⟩))
      | none => exact Or.inr (Or.inr (Or.inr ⟨d, rfl, rfl⟩))

/-- Running a task is refused, or comes to nothing, or launches one task. -/
theorem runTask_cases
    (now : UInt64) (r : RunTask) (s : Service) :
    (∃ e,
        s.mishaps.runTask = some e ∧
        s.runTask now r = (.error e, { s with mishaps.runTask := none })) ∨
    (s.mishaps.runTask = none ∧
      r.providers ≠ [] ∧
      s.hasProviders = false ∧
      s.runTask now r = (.error noProviders, s)) ∨
    (∃ e,
        s.launchable r.definition = .error e ∧
        s.runTask now r = (.error e, s)) ∨
    (∃ fs, s.runTask now r = (.ok ⟨[], fs⟩, s)) ∨
    (∃ d launchType provider,
        s.launchable r.definition = .ok d ∧
        s.runTask now r =
          (.ok ⟨[s.nextTask now r.cluster d none launchType provider], []⟩,
            (s.launch now r.cluster d none launchType provider).2)) := by
  rw [runTask]
  cases hmishap : s.mishaps.runTask with
  | some e => exact Or.inl ⟨e, rfl, rfl⟩
  | none =>
    by_cases hproviders : (!r.providers.isEmpty && !s.hasProviders) = true
    · refine Or.inr (Or.inl ⟨rfl, ?_, ?_, if_pos hproviders⟩)
      · simp only [Bool.and_eq_true, Bool.not_eq_true',
          List.isEmpty_eq_false_iff] at hproviders
        exact hproviders.1
      · simp only [Bool.and_eq_true, Bool.not_eq_true'] at hproviders
        exact hproviders.2
    · simp only [if_neg hproviders]
      cases hd : s.launchable r.definition with
      | error e => exact Or.inr (Or.inr (Or.inl ⟨e, rfl, rfl⟩))
      | ok d =>
        cases ho : s.arrangedOutcome with
        | some o =>
          obtain ⟨tasks, failures⟩ := o
          obtain rfl : tasks = [] := arrangedOutcome_tasks ho
          exact Or.inr (Or.inr (Or.inr (Or.inl ⟨failures, rfl⟩)))
        | none => exact Or.inr (Or.inr (Or.inr (Or.inr ⟨d, _, _, rfl, rfl⟩)))

/-! ## Stops -/

/-- The task as it is once it has been stopped. -/
def stopped (t : Task) : Task :=
  { t with desiredStatus := .stopped, lastStatus := "STOPPED" }

theorem stopTask_cases
    (cluster arn : String) (s : Service) :
    (∃ e,
        s.stopTask cluster arn = (.error e, s) ∧
        ∀ t, s.tasks[arn]? = some t → t.cluster ≠ cluster) ∨
    (∃ t,
        s.tasks[arn]? = some t ∧
        t.cluster = cluster ∧
        t.desiredStatus = .stopped ∧
        s.stopTask cluster arn =
          (.ok (stopped t),
            { s with tasks := s.tasks.insert arn (stopped t) })) ∨
    (∃ t,
        s.tasks[arn]? = some t ∧
        t.cluster = cluster ∧
        t.desiredStatus ≠ .stopped ∧
        s.stopTask cluster arn =
          (.ok (stopped t),
            { s with tasks := s.tasks.insert arn (stopped t) }.handBack arn
              t)) := by
  rw [stopTask]
  cases ht : s.tasks[arn]? with
  | none =>
    exact Or.inl ⟨_, rfl, fun t h => absurd h (Option.some_ne_none t).symm⟩
  | some t =>
    by_cases hcluster : t.cluster = cluster
    · have hright : ¬t.cluster ≠ cluster := fun h => h hcluster
      simp only [if_neg hright]
      by_cases hstopped : t.desiredStatus = .stopped
      · exact Or.inr (Or.inl ⟨t, rfl, hcluster, hstopped, if_pos hstopped⟩)
      · exact Or.inr (Or.inr ⟨t, rfl, hcluster, hstopped, if_neg hstopped⟩)
    · refine Or.inl ⟨_, if_pos hcluster, ?_⟩
      intro t' ht'
      obtain rfl : t = t' := Option.some.inj ht'
      exact hcluster

/-- Handing back ends the reservation, and changes the instance of the task if
there is one. -/
theorem handBack_cases
    (arn : String) (t : Task) (s : Service) :
    ((∀ a, t.instanceArn = some a → s.instances[a]? = none) ∧
      s.handBack arn t = { s with reservations := s.reservations.erase arn }) ∨
    (∃ a i,
      t.instanceArn = some a ∧
      s.instances[a]? = some i ∧
      s.handBack arn t = { s with
        reservations := s.reservations.erase arn
        instances :=
          s.instances.insert a (i.release s.reservations[arn]?) }) := by
  rw [handBack]
  cases ht : t.instanceArn with
  | none =>
    exact Or.inl ⟨fun a ha => absurd ha (Option.some_ne_none a).symm, rfl⟩
  | some a =>
    cases hi : s.instances[a]? with
    | none =>
      refine Or.inl ⟨?_, by simp only [hi]⟩
      intro b hb
      obtain rfl : a = b := Option.some.inj hb
      exact hi
    | some i => exact Or.inr ⟨a, i, rfl, hi, by simp only [hi]⟩

/-- Whether or not a task has been stopped before, a stop leaves it stopped, and
no definition changes. -/
theorem stopTask_of_mem
    {cluster arn : String} {t : Task} (ht : s.tasks[arn]? = some t)
    (hcluster : t.cluster = cluster) :
    (s.stopTask cluster arn).2.tasks = s.tasks.insert arn (stopped t) ∧
    (s.stopTask cluster arn).2.definitions = s.definitions := by
  rcases stopTask_cases cluster arn s with
    ⟨e, -, hnone⟩ | ⟨t', ht', -, -, heq⟩ | ⟨t', ht', -, -, heq⟩
  · exact absurd hcluster (hnone t ht)
  · obtain rfl : t = t' := Option.some.inj (ht.symm.trans ht')
    rw [heq]
    exact ⟨rfl, rfl⟩
  · obtain rfl : t = t' := Option.some.inj (ht.symm.trans ht')
    rw [heq]
    rcases handBack_cases arn t
      { s with tasks := s.tasks.insert arn (stopped t) } with
      ⟨-, heq'⟩ | ⟨a, i, -, -, heq'⟩ <;> rw [heq'] <;> exact ⟨rfl, rfl⟩

/-! ## Changes -/

/-- One change that serving a call may make to a service. -/
inductive Changes (now : UInt64) : Service → Service → Prop where
  /-- What was arranged to go wrong once has gone wrong. -/
  | mishap {s : Service} (m : Mishaps)
      (hderegister : m.deregister = none ∨ m.deregister = s.mishaps.deregister)
      (hdelete : m.delete = none ∨ m.delete = s.mishaps.delete) :
      Changes now s { s with mishaps := m }
  | register {s : Service} (r : Registration) : Changes now s (s.register r).2
  | retire {s : Service} {arn : String} {d : TaskDefinition}
      (hd : s.definitions[arn]? = some d) :
      Changes now s
        { s with definitions := s.definitions.insert arn (retired d) }
  | forget {s : Service} (ds : Std.ExtTreeMap String TaskDefinition)
      (hds : ∀ (arn : String) (d : TaskDefinition), ds[arn]? = some d →
        s.definitions[arn]? = some d) :
      Changes now s { s with definitions := ds }
  | start {s : Service} (cluster : String) {name arn : String}
      {d : TaskDefinition} {i : ContainerInstance}
      (hd : s.launchable name = .ok d) (hi : s.instances[arn]? = some i)
      (hmemory : d.demand.memory ≤ i.remainingMemory.toNat)
      (hcpu : d.demand.cpu ≤ i.remainingCpu.toNat) :
      Changes now s (s.afterStart now cluster d i arn)
  | run {s : Service} (cluster : String) {name : String} {d : TaskDefinition}
      (launchType : Option Capacity) (provider : Option String)
      (hd : s.launchable name = .ok d) :
      Changes now s (s.launch now cluster d none launchType provider).2
  | stopAgain {s : Service} {arn : String} {t : Task}
      (ht : s.tasks[arn]? = some t) (hstopped : t.desiredStatus = .stopped) :
      Changes now s { s with tasks := s.tasks.insert arn (stopped t) }
  | stop {s : Service} {arn : String} {t : Task} (ht : s.tasks[arn]? = some t)
      (hactive : t.desiredStatus ≠ .stopped) :
      Changes now s
        ({ s with tasks := s.tasks.insert arn (stopped t) }.handBack arn t)

variable {now : UInt64} {P : Service → Prop}

theorem startEach_keeps
    (hchanges : ∀ s s', Changes now s s' → P s → P s') (cluster : String)
    {name : String} {d : TaskDefinition} (hd : s.launchable name = .ok d)
    (hs : P s) (arns : List String) :
    P (s.startEach now cluster d arns).2 := by
  induction arns generalizing s with
  | nil => exact hs
  | cons arn rest ih =>
    rw [startEach_cons]
    rcases startOn_cases now cluster d arn s with ⟨f, heq⟩ |
      ⟨i, hi, hmemory, hcpu, heq⟩
    · rw [heq]
      exact ih hd hs
    · rw [heq]
      exact ih hd (hchanges _ _ (.start cluster hd hi hmemory hcpu) hs)

/-- What every change keeps, and what the journal has no say in, every call
keeps. -/
theorem serve_keeps
    (hchanges : ∀ s s', Changes now s s' → P s → P s') (c : Call)
    (hs : P (s.noted [c])) :
    P (s.serve now c).2 := by
  change P (Service.perform now c (s.noted [c])).2
  generalize s.noted [c] = s at hs
  cases c with
  | register r => exact hchanges _ _ (.register r) hs
  | deregister arn =>
    rcases deregister_cases arn s with ⟨e, -, heq⟩ | ⟨-, -, heq⟩ |
      ⟨d, -, hd, heq⟩
    · rw [perform, heq]
      exact hchanges _ _ (.mishap _ (Or.inl rfl) (Or.inr rfl)) hs
    · rwa [perform, heq]
    · rw [perform, heq]
      exact hchanges _ _ (.retire hd) hs
  | delete arns =>
    rcases delete_cases arns s with ⟨e, -, heq⟩ | ⟨-, heq⟩
    · rw [perform, heq]
      exact hchanges _ _ (.mishap _ (Or.inr rfl) (Or.inl rfl)) hs
    · rw [perform, heq]
      exact hchanges _ _
        (.forget _ fun arn d hd => getElem?_of_removeDefinitions hd) hs
  | startTask r =>
    rcases startTask_cases now r s with ⟨e, -, heq⟩ | ⟨e, -, heq⟩ | ⟨fs, heq⟩ |
      ⟨d, hd, heq⟩
    · rw [perform, heq]
      exact hchanges _ _ (.mishap _ (Or.inr rfl) (Or.inr rfl)) hs
    · rwa [perform, heq]
    · rwa [perform, heq]
    · rw [perform, heq]
      exact startEach_keeps hchanges r.cluster hd hs r.instances
  | runTask r =>
    rcases runTask_cases now r s with
      ⟨e, -, heq⟩ | ⟨-, -, -, heq⟩ | ⟨e, -, heq⟩ | ⟨fs, heq⟩ |
        ⟨d, launchType, provider, hd, heq⟩
    · rw [perform, heq]
      exact hchanges _ _ (.mishap _ (Or.inr rfl) (Or.inr rfl)) hs
    · rwa [perform, heq]
    · rwa [perform, heq]
    · rwa [perform, heq]
    · rw [perform, heq]
      exact hchanges _ _ (.run r.cluster launchType provider hd) hs
  | stopTask cluster arn reason =>
    rcases stopTask_cases cluster arn s with
      ⟨e, heq, -⟩ | ⟨t, ht, -, hstopped, heq⟩ | ⟨t, ht, -, hactive, heq⟩
    · rwa [perform, heq]
    · rw [perform, heq]
      exact hchanges _ _ (.stopAgain ht hstopped) hs
    · rw [perform, heq]
      exact hchanges _ _ (.stop ht hactive) hs
  | _ => exact hs

end Service
end AgentFleet

import AgentFleet.Proofs.Placing

/-!
# Launching agents

A launch registers a definition and asks the service to start a task from it.
Either one task comes of it, or none does and the definition is removed again.
-/

namespace AgentFleet

/-! ## Launches of the service -/

namespace Service

/-- Nothing was launched: two services differ at most in what is arranged for
launches and in their journals. -/
structure LaunchesNothing (s s' : Service) : Prop where
  definitions : s'.definitions = s.definitions
  revisions : s'.revisions = s.revisions
  tasks : s'.tasks = s.tasks
  instances : s'.instances = s.instances
  launched : s'.launched = s.launched
  deregister : s'.mishaps.deregister = s.mishaps.deregister
  delete : s'.mishaps.delete = s.mishaps.delete

/-- One task was launched at a time from a definition, on an instance or on
none. -/
structure LaunchesTask (now : UInt64) (cluster : String) (d : TaskDefinition)
    (instanceArn : Option String) (t : Task) (s s' : Service) : Prop where
  task :
    ∃ launchType provider,
      t = s.nextTask now cluster d instanceArn launchType provider
  definitions : s'.definitions = s.definitions
  tasks : s'.tasks = s.tasks.insert t.arn t
  hosts : ∀ host, s.Hosts host → s'.Hosts host

/-- An answer goes with a launch of one task, or else with none. -/
def Launches (now : UInt64) (cluster : String) (d : TaskDefinition)
    (instanceArn : Option String) (answer : Except Refusal LaunchOutcome)
    (s s' : Service) : Prop :=
  ((∀ o, answer = .ok o → o.tasks = []) ∧ s.LaunchesNothing s') ∨
    ∃ t, answer = .ok ⟨[t], []⟩ ∧ LaunchesTask now cluster d instanceArn t s s'

variable {s s' s'' : Service}

theorem LaunchesNothing.refl (s : Service) : s.LaunchesNothing s :=
  ⟨rfl, rfl, rfl, rfl, rfl, rfl, rfl⟩

theorem LaunchesNothing.noted
    (s : Service) (cs : List Call) :
    s.LaunchesNothing (s.noted cs) :=
  ⟨rfl, rfl, rfl, rfl, rfl, rfl, rfl⟩

theorem LaunchesNothing.trans
    (h : s.LaunchesNothing s') (h' : s'.LaunchesNothing s'') :
    s.LaunchesNothing s'' :=
  ⟨h'.definitions.trans h.definitions, h'.revisions.trans h.revisions,
    h'.tasks.trans h.tasks, h'.instances.trans h.instances,
    h'.launched.trans h.launched, h'.deregister.trans h.deregister,
    h'.delete.trans h.delete⟩

theorem LaunchesNothing.hosts
    (h : s.LaunchesNothing s') {host : Host} (hhost : s.Hosts host) :
    s'.Hosts host := by
  rwa [Hosts, h.instances]

/-- A launch after a vain one is a launch. -/
theorem LaunchesNothing.launchesTask
    (h : s.LaunchesNothing s') {now : UInt64} {cluster : String}
    {d : TaskDefinition} {instanceArn : Option String} {t : Task}
    (h' : LaunchesTask now cluster d instanceArn t s' s'') :
    LaunchesTask now cluster d instanceArn t s s'' where
  task := by
    obtain ⟨launchType, provider, ht⟩ := h'.task
    refine ⟨launchType, provider, ht.trans ?_⟩
    rw [nextTask, nextTask, Service.launch, Service.launch, h.launched]
  definitions := h'.definitions.trans h.definitions
  tasks := by
    rw [h'.tasks, h.tasks]
  hosts := fun host hhost => h'.hosts host (h.hosts hhost)

theorem LaunchesNothing.launches
    (h : s.LaunchesNothing s') {now : UInt64} {cluster : String}
    {d : TaskDefinition} {instanceArn : Option String}
    {answer : Except Refusal LaunchOutcome}
    (h' : Launches now cluster d instanceArn answer s' s'') :
    Launches now cluster d instanceArn answer s s'' := by
  rcases h' with ⟨hanswer, hnothing⟩ | ⟨t, hanswer, htask⟩
  · exact Or.inl ⟨hanswer, h.trans hnothing⟩
  · exact Or.inr ⟨t, hanswer, h.launchesTask htask⟩

/-- A refusal launches nothing. -/
theorem Launches.nothing_of_error
    {now : UInt64} {cluster : String} {d : TaskDefinition}
    {instanceArn : Option String} {e : Refusal}
    (h : Launches now cluster d instanceArn (.error e) s s') :
    s.LaunchesNothing s' := by
  rcases h with ⟨-, hnothing⟩ | ⟨t, hanswer, -⟩
  · exact hnothing
  · cases hanswer

theorem LaunchesNothing.launchable
    (h : s.LaunchesNothing s') (arn : String) :
    s'.launchable arn = s.launchable arn := by
  rw [Service.launchable, Service.launchable, h.definitions]

theorem Hosts.insert_reserve
    {host : Host} (h : s.Hosts host) {arn : String} {i : ContainerInstance}
    (hi : s.instances[arn]? = some i) (d : Demand)
    (hs' : s'.instances = s.instances.insert arn (i.reserve d)) :
    s'.Hosts host := by
  obtain ⟨j, hj, hmachine⟩ := h
  rw [Hosts, hs']
  by_cases harn : arn = host.instanceArn
  · subst harn
    obtain rfl : i = j := Option.some.inj (hi.symm.trans hj)
    exact ⟨_, Table.getElem?_insert_eq_some_iff.mpr (Or.inl ⟨rfl, rfl⟩),
      hmachine⟩
  · exact ⟨j, Table.getElem?_insert_eq_some_iff.mpr (Or.inr ⟨harn, hj⟩),
      hmachine⟩

/-- A start on one instance launches one task there, or none. -/
theorem startTask_launches
    {d : TaskDefinition} (now : UInt64) (r : StartTask) {arn : String}
    (hinstances : r.instances = [arn])
    (hd : s.launchable r.definition = .ok d) :
    Launches now r.cluster d (some arn) (s.startTask now r).1 s
      (s.startTask now r).2 := by
  rcases startTask_cases now r s with
    ⟨e, -, heq⟩ | ⟨e, hnone, -⟩ | ⟨fs, heq⟩ | ⟨d', hd', heq⟩
  · rw [heq]
    exact Or.inl
      ⟨fun o ho => absurd ho (by simp), ⟨rfl, rfl, rfl, rfl, rfl, rfl, rfl⟩⟩
  · rw [hd] at hnone
    cases hnone
  · rw [heq]
    refine Or.inl ⟨?_, .refl s⟩
    intro o ho
    rw [← Except.ok.inj ho]
  · obtain rfl : d = d' := Except.ok.inj (hd.symm.trans hd')
    rw [heq, hinstances]
    simp only [startEach]
    rcases startOn_cases now r.cluster d arn s with ⟨f, hstart⟩ |
      ⟨i, hi, -, -, hstart⟩
    · rw [hstart]
      refine Or.inl ⟨?_, .refl s⟩
      intro o ho
      rw [← Except.ok.inj ho]
    · rw [hstart]
      refine Or.inr ⟨_, rfl, ⟨⟨_, _, rfl⟩, rfl, rfl, ?_⟩⟩
      intro host hhost
      exact hhost.insert_reserve hi d.demand rfl

/-- A run of a task launches one task, or none. -/
theorem runTask_launches
    {d : TaskDefinition} (now : UInt64) (r : RunTask)
    (hd : s.launchable r.definition = .ok d) :
    Launches now r.cluster d none (s.runTask now r).1 s
      (s.runTask now r).2 := by
  rcases runTask_cases now r s with
    ⟨e, -, heq⟩ | ⟨-, -, -, heq⟩ | ⟨e, hnone, -⟩ | ⟨fs, heq⟩ |
      ⟨d', launchType, provider, hd', heq⟩
  · rw [heq]
    exact Or.inl
      ⟨fun o ho => absurd ho (by simp), ⟨rfl, rfl, rfl, rfl, rfl, rfl, rfl⟩⟩
  · rw [heq]
    exact Or.inl ⟨fun o ho => absurd ho (by simp), .refl s⟩
  · rw [hd] at hnone
    cases hnone
  · rw [heq]
    refine Or.inl ⟨?_, .refl s⟩
    intro o ho
    rw [← Except.ok.inj ho]
  · obtain rfl : d = d' := Except.ok.inj (hd.symm.trans hd')
    rw [heq]
    exact Or.inr ⟨_, rfl, ⟨⟨_, _, rfl⟩, rfl, rfl, fun host hhost => hhost⟩⟩

end Service

/-! ## Launches at a placement -/

/-- The instance that a definition is launched on at a placement. -/
def Placement.instanceArn? : Placement → Option String
  | .onHost host => some host.instanceArn
  | .serverless _ _ => none

open Script

variable {site : Site}

theorem run_startTask_launches
    (h : site.IsDirect) {d : TaskDefinition} (now : UInt64) (r : StartTask)
    {arn : String} (hinstances : r.instances = [arn])
    (hd : site.service.launchable r.definition = .ok d) :
    ∃ answer site',
      (call (.startTask r)).run.run now site = (answer, site') ∧
      site'.IsDirect ∧
      Service.Launches now r.cluster d (some arn) answer site.service
        site'.service := by
  refine ⟨_, _, run_call h now _, h.withService _, ?_⟩
  exact (Service.LaunchesNothing.noted site.service [.startTask r]).launches
    (Service.startTask_launches now r hinstances hd)

theorem run_runTask_launches
    (h : site.IsDirect) {d : TaskDefinition} (now : UInt64) (r : RunTask)
    (hd : site.service.launchable r.definition = .ok d) :
    ∃ answer site',
      (call (.runTask r)).run.run now site = (answer, site') ∧
      site'.IsDirect ∧
      Service.Launches now r.cluster d none answer site.service
        site'.service := by
  refine ⟨_, _, run_call h now _, h.withService _, ?_⟩
  exact (Service.LaunchesNothing.noted site.service [.runTask r]).launches
    (Service.runTask_launches now r hd)

/-- A launch at a placement launches one task there, or none. -/
theorem launchAt_run
    (h : site.IsDirect) {d : TaskDefinition} {definitionArn : String}
    (hd : site.service.launchable definitionArn = .ok d) (now : UInt64)
    (s : Settings) (placement : Placement) :
    ∃ answer site',
      (launchAt s definitionArn placement).run.run now site = (answer, site') ∧
      site'.IsDirect ∧
      Service.Launches now s.clusterName d placement.instanceArn? answer
        site.service site'.service := by
  cases placement with
  | onHost host =>
    rw [launchAt, run_bind_of_ok (run_lift_say now _ _)]
    exact run_startTask_launches (h.told _) now (startCall s definitionArn host)
      rfl hd
  | serverless network share =>
    rw [launchAt, run_bind_of_ok (run_lift_say now _ _)]
    obtain ⟨answer, site₁, hfirst, h₁, hlaunches⟩ :=
      run_runTask_launches (h.told _) now
        (runCall s definitionArn network share) hd
    cases answer with
    | ok o => exact ⟨.ok o, site₁, run_tryCatch_of_ok hfirst _, h₁, hlaunches⟩
    | error e =>
      have hnothing := hlaunches.nothing_of_error
      rw [run_tryCatch_of_error hfirst]
      by_cases hinvalid : e.isInvalidParameter = true
      · rw [if_pos hinvalid]
        obtain ⟨answer, site₂, hsecond, h₂, hlaunches'⟩ :=
          run_runTask_launches h₁ now
            (runCall s definitionArn network share).byLaunchType
            ((hnothing.launchable definitionArn).trans hd)
        exact ⟨answer, site₂, hsecond, h₂, hnothing.launches hlaunches'⟩
      · rw [if_neg hinvalid]
        exact ⟨.error e, site₁, run_throw now e site₁, h₁, hlaunches⟩

end AgentFleet

import AgentFleet.Proofs.Launching

/-!
# Creating agents

What a creation comes to as a whole: either one definition and one task are
added, and the agent that comes of it tells of them, or the definition that was
registered is removed again.
-/

namespace AgentFleet

/-! ## Removing a definition -/

namespace Service

/-- The service once it was asked to remove a definition. -/
def removing (now : UInt64) (arn : String) (s : Service) : Service :=
  ((s.serve now (.deregister arn)).2.serve now (.delete [arn])).2

/-- Two services differ at most in one definition, in what is arranged and in
their journals. -/
structure SameBut (arn : String) (s s' : Service) : Prop where
  tasks : s'.tasks = s.tasks
  instances : s'.instances = s.instances
  others : ∀ k : String, arn ≠ k → s'.definitions[k]? = s.definitions[k]?

variable {s s' s'' : Service} {arn : String}

theorem SameBut.trans
    (h : SameBut arn s s') (h' : SameBut arn s' s'') :
    SameBut arn s s'' :=
  ⟨h'.tasks.trans h.tasks, h'.instances.trans h.instances,
    fun k hk => (h'.others k hk).trans (h.others k hk)⟩

theorem noted_sameBut
    (arn : String) (s : Service) (cs : List Call) :
    SameBut arn s (s.noted cs) :=
  ⟨rfl, rfl, fun _ _ => rfl⟩

theorem deregister_sameBut
    (arn : String) (s : Service) :
    SameBut arn s (s.deregister arn).2 := by
  rcases deregister_cases arn s with ⟨e, -, heq⟩ | ⟨-, -, heq⟩ | ⟨d, -, -, heq⟩
  · rw [heq]
    exact ⟨rfl, rfl, fun _ _ => rfl⟩
  · rw [heq]
    exact ⟨rfl, rfl, fun _ _ => rfl⟩
  · rw [heq]
    refine ⟨rfl, rfl, ?_⟩
    intro k hk
    simp [Std.ExtTreeMap.getElem?_insert, hk]

/-- A definition that is not active is removed. -/
theorem removeDefinitions_singleton
    {ds : Std.ExtTreeMap String TaskDefinition}
    (hinactive : ∀ d : TaskDefinition, ds[arn]? = some d → d.status ≠ .active) :
    (removeDefinitions [arn] ds).2 = ds.erase arn := by
  rw [removeDefinitions]
  cases hd : ds[arn]? with
  | none => exact (Table.erase_of_getElem?_eq_none hd).symm
  | some d => simp only [if_neg (hinactive d hd), removeDefinitions]

theorem delete_sameBut
    (arn : String) (s : Service) :
    SameBut arn s (s.delete [arn]).2 := by
  rcases delete_cases [arn] s with ⟨e, -, heq⟩ | ⟨-, heq⟩
  · rw [heq]
    exact ⟨rfl, rfl, fun _ _ => rfl⟩
  · rw [heq]
    refine ⟨rfl, rfl, ?_⟩
    intro k hk
    rw [removeDefinitions]
    cases hd : s.definitions[arn]? with
    | none => rfl
    | some d =>
      by_cases hactive : d.status = .active
      · simp [hactive]
      · simp [hactive, removeDefinitions, Std.ExtTreeMap.getElem?_erase, hk]

/-- Whatever comes of the removal of a definition, the others are as they were.
-/
theorem removing_sameBut
    (now : UInt64) (arn : String) (s : Service) :
    SameBut arn s (s.removing now arn) := by
  have hfirst :=
    (noted_sameBut arn s [.deregister arn]).trans (deregister_sameBut arn _)
  have hsecond :=
    (noted_sameBut arn (s.serve now (.deregister arn)).2 [.delete [arn]]).trans
      (delete_sameBut arn _)
  exact hfirst.trans hsecond

theorem delete_definitions
    (hdelete : s.mishaps.delete = none)
    (hinactive : ∀ d : TaskDefinition,
        s.definitions[arn]? = some d → d.status ≠ .active) :
    (s.delete [arn]).2.definitions = s.definitions.erase arn := by
  rcases delete_cases [arn] s with ⟨e, hsome, -⟩ | ⟨-, heq⟩
  · exact absurd (hdelete.symm.trans hsome) (Option.some_ne_none e).symm
  · rw [heq]
    exact removeDefinitions_singleton hinactive

theorem getElem?_of_deregister
    {d : TaskDefinition}
    (hd : (s.deregister arn).2.definitions[arn]? = some d) :
    ∃ d₀ : TaskDefinition,
      s.definitions[arn]? = some d₀ ∧ (d = d₀ ∨ d = retired d₀) := by
  rcases deregister_cases arn s with ⟨e, -, heq⟩ | ⟨-, -, heq⟩ |
    ⟨d₀, -, hd₀, heq⟩
  · rw [heq] at hd
    exact ⟨d, hd, Or.inl rfl⟩
  · rw [heq] at hd
    exact ⟨d, hd, Or.inl rfl⟩
  · rw [heq] at hd
    rcases Table.getElem?_insert_eq_some_iff.mp hd with ⟨-, rfl⟩ | ⟨hne, -⟩
    · exact ⟨d₀, hd₀, Or.inr rfl⟩
    · exact absurd rfl hne

/-- What is left of a definition after its removal is the definition, or what it
is once it has been deregistered. -/
theorem getElem?_of_removing
    {now : UInt64} {d : TaskDefinition}
    (hd : (s.removing now arn).definitions[arn]? = some d) :
    ∃ d₀ : TaskDefinition,
      s.definitions[arn]? = some d₀ ∧ (d = d₀ ∨ d = retired d₀) := by
  apply getElem?_of_deregister (s := s.noted [.deregister arn])
  rcases delete_cases [arn]
    ((s.serve now (.deregister arn)).2.noted [.delete [arn]]) with
    ⟨e, -, heq⟩ | ⟨-, heq⟩
  · exact (congrArg (fun r => r.2.definitions[arn]?) heq).symm.trans hd
  · exact getElem?_of_removeDefinitions
      ((congrArg (fun r => r.2.definitions[arn]?) heq).symm.trans hd)

/-- If nothing is arranged against it, a definition is removed. -/
theorem removing_definitions
    (now : UInt64) (arn : String) (hderegister : s.mishaps.deregister = none)
    (hdelete : s.mishaps.delete = none) :
    (s.removing now arn).definitions = s.definitions.erase arn := by
  change (((s.noted [.deregister arn]).deregister arn).2.noted [.delete [arn]]
    |>.delete [arn]).2.definitions = _
  rcases deregister_cases arn (s.noted [.deregister arn]) with
    ⟨e, hsome, -⟩ | ⟨-, hnone, heq⟩ | ⟨d, -, hd, heq⟩
  · exact absurd (hderegister.symm.trans hsome) (Option.some_ne_none e).symm
  · rw [heq]
    refine delete_definitions hdelete ?_
    intro d hd
    exact absurd (hnone.symm.trans hd) (Option.some_ne_none d).symm
  · rw [heq, delete_definitions]
    · exact Table.erase_insert s.definitions arn (retired d)
    · exact hdelete
    · intro d' hd'
      rcases Table.getElem?_insert_eq_some_iff.mp hd' with ⟨-, rfl⟩ | ⟨hne, -⟩
      · exact retired_status_ne d
      · exact absurd rfl hne

/-! ## Launches as a whole -/

/-- A definition was registered and one task was started from it. -/
structure Starts (now : UInt64) (cluster : String) (r : Registration)
    (instanceArn : Option String) (t : Task) (s s' : Service) : Prop where
  task :
    ∃ launchType provider,
      t =
        s.nextTask now cluster (s.nextDefinition r) instanceArn launchType
          provider
  definitions :
    s'.definitions =
      s.definitions.insert (s.nextDefinition r).arn (s.nextDefinition r)
  tasks : s'.tasks = s.tasks.insert t.arn t
  hosts : ∀ host, s.Hosts host → s'.Hosts host

/-- No task was started from a new definition, which is gone again if nothing
has been arranged against its removal. -/
structure Undone (d : TaskDefinition) (s s' : Service) : Prop where
  tasks : s'.tasks = s.tasks
  others : ∀ k : String, d.arn ≠ k → s'.definitions[k]? = s.definitions[k]?
  left :
    ∀ d' : TaskDefinition,
      s'.definitions[d.arn]? = some d' → d' = d ∨ d' = retired d
  clean : s.mishaps.deregister = none → s.mishaps.delete = none →
    s'.definitions = s.definitions

/-- A launch from a registered definition that comes to nothing is undone. -/
theorem Sound.undone
    (h : s.Sound) (r : Registration) (now : UInt64)
    (hnothing : (s.serve now (.register r)).2.LaunchesNothing s') :
    Undone (s.nextDefinition r) s
      (s'.removing now (s.nextDefinition r).arn) where
  tasks := (removing_sameBut now _ s').tasks.trans hnothing.tasks
  others := by
    intro k hk
    rw [(removing_sameBut now _ s').others k hk, hnothing.definitions]
    exact (Std.ExtTreeMap.getElem?_insert).trans (if_neg (by simpa using hk))
  left := by
    intro d' hd'
    obtain ⟨d₀, hd₀, hd'⟩ := getElem?_of_removing hd'
    rw [hnothing.definitions] at hd₀
    rcases Table.getElem?_insert_eq_some_iff.mp hd₀ with ⟨-, rfl⟩ | ⟨hne, -⟩
    · exact hd'
    · exact absurd rfl hne
  clean := by
    intro hderegister hdelete
    rw [removing_definitions now _ (hnothing.deregister.trans hderegister)
      (hnothing.delete.trans hdelete), hnothing.definitions]
    refine (Table.erase_insert s.definitions _ _).trans ?_
    exact Table.erase_of_getElem?_eq_none (h.getElem?_definitionArn r.family)

end Service

open Script

variable {site : Site}

theorem removeDefinition_run
    (h : site.IsDirect) (now : UInt64) (arn : String) :
    (removeDefinition arn).run now site =
      ((), site.withService (site.service.removing now arn)) := by
  have hfirst := run_call h now (.deregister arn)
  have hsecond :=
    run_call (h.withService (site.service.serve now (.deregister arn)).2) now
      (.delete [arn])
  rw [removeDefinition, run_bind, run_discard, run_discard, hfirst, hsecond]
  rfl

theorem registerSpecification_run
    (h : site.IsDirect) (now : UInt64) (spec : Specification) :
    (registerSpecification spec).run.run now site =
      (.ok (site.service.nextDefinition spec.registration),
        site.withService
          (site.service.serve now (.register spec.registration)).2) :=
  run_adapt_eq_ok_iff.mpr (run_call h now _)

/-- What a launch does once its definition is registered. -/
def startRegistered
    (fresh : Identity) (server : String) (s : Settings) (r : AgentRequest)
    (spec : Specification) (placement : Placement) (d : TaskDefinition) :
    Attempt Agent := do
  match ← (launchAt s d.arn placement).run with
  | .error e =>
    removeDefinition d.arn
    throw (.service e)
  | .ok ⟨task :: _, []⟩ =>
    let target := placement.target fresh r.profile
    Script.say (scheduledLine spec.name r.profile target)
    return Agent.ofTask task d (Specification.ownership r server) target
  | .ok outcome =>
    removeDefinition d.arn
    throw (.launch spec.name outcome.failures)

/-- A launch registers its definition, which can then be launched. -/
theorem launch_registers
    (h : site.IsDirect) (now : UInt64) (fresh : Identity) (server : String)
    (s : Settings) (r : AgentRequest) (spec : Specification)
    (placement : Placement) :
    ∃ site₁,
      (launch fresh server s r spec placement).run.run now site =
        (startRegistered fresh server s r spec placement
              (site.service.nextDefinition spec.registration)).run.run now
          site₁ ∧
      site₁.IsDirect ∧
      site₁.supply = site.supply ∧
      site₁.service = (site.service.serve now (.register spec.registration)).2 ∧
      site₁.service.launchable
          (site.service.nextDefinition spec.registration).arn =
        .ok (site.service.nextDefinition spec.registration) := by
  rw [launch, run_bind_of_ok (run_lift_say now _ _),
    run_bind_of_ok (registerSpecification_run (h.told _) now spec),
    run_bind_of_ok (run_lift_say now _ _)]
  refine ⟨_, rfl, h, rfl, rfl, ?_⟩
  exact Service.launchable_eq_ok
    (Table.getElem?_insert_eq_some_iff.mpr (Or.inl ⟨rfl, rfl⟩)) rfl

/-- A launch starts a task from a new definition, or is undone: an error and an
answer without tasks both have the definition removed again. -/
theorem launch_run
    (h : site.IsDirect) (hsound : site.service.Sound) (now : UInt64)
    (fresh : Identity) (server : String) (s : Settings) (r : AgentRequest)
    (spec : Specification) (placement : Placement) :
    ∃ result site',
      (launch fresh server s r spec placement).run.run now site =
        (result, site') ∧
      ((∃ t,
            result =
              .ok (Agent.ofTask t
                  (site.service.nextDefinition spec.registration)
                  (Specification.ownership r server)
                  (placement.target fresh r.profile)) ∧
            Service.Starts now s.clusterName spec.registration
              placement.instanceArn? t site.service site'.service) ∨
        ∃ e,
          result = .error e ∧
          Service.Undone (site.service.nextDefinition spec.registration)
            site.service site'.service) := by
  obtain ⟨site₁, heq, h₁, -, hservice₁, hlaunchable⟩ :=
    launch_registers h now fresh server s r spec placement
  rw [heq, startRegistered]
  obtain ⟨answer, site₂, hlaunch, h₂, hlaunches⟩ :=
    launchAt_run h₁ hlaunchable now s placement
  rw [hservice₁] at hlaunches
  rw [run_bind_of_ok (run_lift hlaunch)]
  rcases hlaunches with ⟨hanswer, hnothing⟩ | ⟨t, rfl, htask⟩
  · have hundone := hsound.undone spec.registration now hnothing
    have hremove := removeDefinition_run h₂ now
      (site.service.nextDefinition spec.registration).arn
    cases answer with
    | error e =>
      refine ⟨_, _, run_bind_of_ok (run_lift hremove) _,
        Or.inr ⟨_, rfl, hundone⟩⟩
    | ok o =>
      obtain ⟨tasks, failures⟩ := o
      obtain rfl : tasks = [] := hanswer _ rfl
      refine ⟨_, _, run_bind_of_ok (run_lift hremove) _,
        Or.inr ⟨_, rfl, hundone⟩⟩
  · refine ⟨_, _, run_bind_of_ok (run_lift_say now _ _) _, Or.inl ⟨t, rfl, ?_⟩⟩
    exact ⟨htask.task, htask.definitions, htask.tasks, htask.hosts⟩

/-! ## Creations as a whole -/

theorem Specification.ofRequest_eq_assemble_iff
    {name : String} {r : AgentRequest} {s : Settings} {server : String}
    {spec : Specification} :
    Specification.ofRequest name r s server = .ok spec ↔
      Text.isBlankText r.profile.image = false ∧
      r.profile.memory ≠ 0 ∧
      ∃ environment,
        Specification.environmentFor name r s = .ok environment ∧
        spec = Specification.assemble name r s server environment := by
  constructor
  · intro h
    rw [ofRequest] at h
    split at h
    · cases h
    · rename_i himage
      split at h
      · cases h
      · rename_i hmemory
        split at h
        · cases h
        · rename_i environment henvironment
          exact ⟨Bool.eq_false_iff.mpr himage, hmemory, environment,
            henvironment, (Except.ok.inj h).symm⟩
  · rintro ⟨himage, hmemory, environment, henvironment, rfl⟩
    rw [ofRequest, if_neg (Bool.eq_false_iff.mp himage), if_neg hmemory,
      henvironment]

theorem Specification.exists_of_ofRequest
    {name : String} {r : AgentRequest} {s : Settings} {server : String}
    {spec : Specification}
    (h : Specification.ofRequest name r s server = .ok spec) :
    ∃ environment,
      spec = Specification.assemble name r s server environment := by
  obtain ⟨-, -, environment, -, hspec⟩ := ofRequest_eq_assemble_iff.mp h
  exact ⟨environment, hspec⟩

namespace Service

/-- The target is the machine behind the instance, or else a fresh placeholder.
-/
def Places
    (s : Service) (fresh : Identity) (p : Profile) :
    Option String → Target → Prop
  | some arn, target =>
    p.isServerless = false ∧
    ∃ i : ContainerInstance,
      s.instances[arn]? = some i ∧ target = .machine i.machineId
  | none, target =>
    p.isServerless = true ∧ target = Target.ofIdentity p.spot fresh

/-- A definition and a task were added, and an agent tells of them. -/
structure Creates
    (now : UInt64) (fresh : Identity) (server : String) (settings : Settings)
    (r : AgentRequest) (d : TaskDefinition) (task : Task) (t : Agent)
    (s s' : Service) : Prop where
  arn :
    d.arn =
      definitionArn fresh.agentName (s.revisions.getD fresh.agentName 0 + 1)
  family : d.family = fresh.agentName
  status : d.status = .active
  labels : d.agentLabels? =
    some ((Specification.ownership r server).toLabels settings.pluginId)
  made : ∃ instanceArn launchType provider,
    task = s.nextTask now settings.clusterName d instanceArn launchType provider
  definitions : s'.definitions = s.definitions.insert d.arn d
  tasks : s'.tasks = s.tasks.insert task.arn task
  agent : t = Agent.ofTask task d (Specification.ownership r server) t.target
  target : s'.Places fresh r.profile task.instanceArn t.target

namespace Creates

variable {now : UInt64} {fresh : Identity} {server : String}
  {settings : Settings} {r : AgentRequest} {d : TaskDefinition} {task : Task}
  {t : Agent} {s s' : Service}

theorem agent_name
    (h : Creates now fresh server settings r d task t s s') :
    t.name = fresh.agentName := by
  rw [h.agent]
  exact h.family

theorem agent_definitionArn
    (h : Creates now fresh server settings r d task t s s') :
    t.definitionArn = d.arn := by
  rw [h.agent]
  rfl

theorem agent_taskArn
    (h : Creates now fresh server settings r d task t s s') :
    t.taskArn = task.arn := by
  rw [h.agent]
  rfl

theorem task_definitionArn
    (h : Creates now fresh server settings r d task t s s') :
    task.definitionArn = d.arn := by
  obtain ⟨instanceArn, launchType, provider, rfl⟩ := h.made
  rfl

theorem task_desiredStatus
    (h : Creates now fresh server settings r d task t s s') :
    task.desiredStatus = .running := by
  obtain ⟨instanceArn, launchType, provider, rfl⟩ := h.made
  rfl

theorem task_cluster
    (h : Creates now fresh server settings r d task t s s') :
    task.cluster = settings.clusterName := by
  obtain ⟨instanceArn, launchType, provider, rfl⟩ := h.made
  rfl

theorem newDefinition
    (h : Creates now fresh server settings r d task t s s') (hsound : s.Sound) :
    s.definitions[t.definitionArn]? = none := by
  rw [h.agent_definitionArn, h.arn]
  exact hsound.getElem?_definitionArn fresh.agentName

theorem newTask
    (h : Creates now fresh server settings r d task t s s') (hsound : s.Sound) :
    s.tasks[t.taskArn]? = none := by
  rw [h.agent_taskArn]
  obtain ⟨instanceArn, launchType, provider, rfl⟩ := h.made
  exact hsound.getElem?_taskArn settings.clusterName

theorem definitions_eq
    (h : Creates now fresh server settings r d task t s s') :
    s'.definitions = s.definitions.insert t.definitionArn d := by
  rw [h.agent_definitionArn]
  exact h.definitions

theorem tasks_eq
    (h : Creates now fresh server settings r d task t s s') :
    s'.tasks = s.tasks.insert t.taskArn task := by
  rw [h.agent_taskArn]
  exact h.tasks

theorem storedDefinition
    (h : Creates now fresh server settings r d task t s s') :
    s'.definitions[t.definitionArn]? = some d := by
  rw [h.definitions_eq]
  exact Table.getElem?_insert_eq_some_iff.mpr (Or.inl ⟨rfl, rfl⟩)

theorem storedTask
    (h : Creates now fresh server settings r d task t s s') :
    s'.tasks[t.taskArn]? = some task := by
  rw [h.tasks_eq]
  exact Table.getElem?_insert_eq_some_iff.mpr (Or.inl ⟨rfl, rfl⟩)

end Creates

variable {s s' s'' : Service}

theorem SameRecords.nextDefinition
    (h : s.SameRecords s') (r : Registration) :
    s'.nextDefinition r = s.nextDefinition r := by
  rw [Service.nextDefinition, Service.nextDefinition, Service.register,
    Service.register, h.revisions]

theorem SameRecords.undone
    (h : s.SameRecords s') {d : TaskDefinition} (h' : Undone d s' s'') :
    Undone d s s'' where
  tasks := h'.tasks.trans h.tasks
  others := by
    intro k hk
    rw [h'.others k hk, h.definitions]
  left := h'.left
  clean := by
    intro hderegister hdelete
    rw [h'.clean (h.mishaps ▸ hderegister) (h.mishaps ▸ hdelete), h.definitions]

/-- A start at a place that suits a request creates its agent. -/
theorem Starts.creates
    {now : UInt64} {fresh : Identity} {server : String} {settings : Settings}
    {r : AgentRequest} {environment : Std.ExtTreeMap String String}
    {placement : Placement} {t : Task} (hsame : s.SameRecords s')
    (hsuits : s'.Suits r.profile placement)
    (h : Starts now settings.clusterName
        (Specification.assemble fresh.agentName r settings server
            environment).registration placement.instanceArn? t s' s'') :
    Creates now fresh server settings r
      (s'.nextDefinition
          (Specification.assemble fresh.agentName r settings server
              environment).registration) t
      (Agent.ofTask t
          (s'.nextDefinition
              (Specification.assemble fresh.agentName r settings server
                  environment).registration) (Specification.ownership r server)
          (placement.target fresh r.profile)) s s'' where
  arn := by
    rw [nextDefinition_arn, hsame.revisions]
    rfl
  family := rfl
  status := rfl
  labels := rfl
  made := by
    obtain ⟨launchType, provider, ht⟩ := h.task
    refine ⟨placement.instanceArn?, launchType, provider, ht.trans ?_⟩
    rw [nextTask, nextTask, Service.launch, Service.launch, hsame.launched]
  definitions := by
    rw [h.definitions, hsame.definitions]
  tasks := by
    rw [h.tasks, hsame.tasks]
  agent := rfl
  target := by
    obtain ⟨launchType, provider, rfl⟩ := h.task
    cases placement with
    | onHost host =>
      obtain ⟨i, hi, hmachine⟩ := h.hosts host hsuits.2
      exact ⟨hsuits.1, i, hi, congrArg Target.machine hmachine.symm⟩
    | serverless network share => exact ⟨hsuits, rfl⟩

end Service

/-- A creation adds a definition and a task and answers with the agent that they
make up, or it ends before anything is registered, or it is undone. -/
theorem createAgent_run
    (h : site.IsDirect) (hsound : site.service.Sound) (now : UInt64)
    (fresh : Identity) (server : String) (s : Settings) (r : AgentRequest) :
    ∃ result site',
      (createAgent fresh server s r).run.run now site = (result, site') ∧
      site'.IsDirect ∧
      ((∃ d task t,
            result = .ok (some t) ∧
            Service.Creates now fresh server s r d task t site.service
              site'.service) ∨
        ((∀ t, result ≠ .ok (some t)) ∧
          site.service.SameRecords site'.service) ∨
        ∃ e spec,
          result = .error e ∧
          Specification.ofRequest fresh.agentName r s server = .ok spec ∧
          Service.Undone (site.service.nextDefinition spec.registration)
            site.service site'.service) := by
  rw [createAgent_eq]
  have hsame :=
    sameRecords_of_search (choosePlacement_only fresh server s r) h now
  have h₁ := h.run now (choosePlacement fresh server s r).run
  have hsound₁ := h.run_sound hsound now (choosePlacement fresh server s r).run
  rcases hchoose :
      (choosePlacement fresh server s r).run.run now site with ⟨choice, site₁⟩
  rw [hchoose] at hsame h₁ hsound₁
  rcases choice with e | _ | ⟨spec, placement⟩
  · rw [run_bind_of_error hchoose]
    exact ⟨_, _, rfl, h₁, Or.inr (Or.inl ⟨by simp, hsame⟩)⟩
  · rw [run_bind_of_ok hchoose]
    exact ⟨_, _, rfl, h₁, Or.inr (Or.inl ⟨by simp, hsame⟩)⟩
  · obtain ⟨hspec, hsuits⟩ := choosePlacement_run h hsound.instances hchoose
    obtain ⟨result, site₂, hlaunch, houtcome⟩ :=
      launch_run h₁ hsound₁ now fresh server s r spec placement
    have h₂ := h₁.run now (launch fresh server s r spec placement).run
    rw [hlaunch] at h₂
    rw [run_bind_of_ok hchoose]
    rcases houtcome with ⟨t, rfl, hstarts⟩ | ⟨e, rfl, hundone⟩
    · obtain ⟨environment, rfl⟩ := Specification.exists_of_ofRequest hspec
      have hcreates := hstarts.creates hsame hsuits
      exact ⟨_, _, run_bind_of_ok hlaunch _, h₂,
        Or.inl ⟨_, t, _, rfl, hcreates⟩⟩
    · refine ⟨_, _, run_bind_of_error hlaunch _, h₂,
        Or.inr (Or.inr ⟨e, spec, rfl, hspec, ?_⟩)⟩
      rw [hsame.nextDefinition] at hundone
      exact hsame.undone hundone

/-! ## Small creations -/

/-- A creation that is known to answer with an agent, by some part of the agent.
-/
theorem exists_created_of_part
    {α : Type} {part : Agent → α} {a : α} {now : UInt64} {fresh : Identity}
    {server : String} {s : Settings} {r : AgentRequest}
    (h : ((createAgent fresh server s r).run.run now site).1.toOption.join.map
          part =
        some a) :
    ∃ t site',
      (createAgent fresh server s r).run.run now site = (.ok (some t), site') ∧
      part t = a := by
  rcases hrun : (createAgent fresh server s r).run.run now site with
    ⟨e | _ | t, site'⟩
  · simp [hrun, Except.toOption] at h
  · simp [hrun, Except.toOption] at h
  · rw [hrun] at h
    exact ⟨t, site', rfl, Option.some.inj h⟩

/-- Settings with one subnet for serverless tasks. -/
def smallSettings : Settings where
  serverUrl := "https://ci.example.com/go"
  clusterName := "agents"
  subnets := ["subnet-1"]

/-- A request for a serverless agent. -/
def smallRequest : AgentRequest where
  job :=
    { pipelineName := "build"
      pipelineCounter := 7
      pipelineLabel := "7"
      stageName := "test"
      stageCounter := "1"
      name := "unit"
      id := 42 }
  profile := { image := "alpine", launchMode := .serverless, memory := 512 }

/-- A request for an agent with 512 MiB on an instance. -/
def hostedRequest : AgentRequest :=
  { smallRequest with profile := { image := "alpine", memory := 512 } }

end AgentFleet

import AgentFleet.Proofs.CallOrder
import AgentFleet.Proofs.Sharing

/-!
# Falling back from capacity providers

A serverless task is asked for with a capacity provider first.  Whether the
cluster has one is seen by nobody but the service: a creation comes to the same
with and without, and so does every reconciliation pass behind it, for a task of
either kind counts as serverless.
-/

namespace AgentFleet

/-! ## Tables with a record written over -/

namespace Table

open Std

variable {α β : Type}

theorem insert_insert
    (m : ExtTreeMap String β) (k : String) (v w : β) :
    (m.insert k v).insert k w = m.insert k w := by
  apply ExtTreeMap.ext_getElem?
  intro j
  rw [ExtTreeMap.getElem?_insert, ExtTreeMap.getElem?_insert,
    ExtTreeMap.getElem?_insert]
  by_cases hkj : k = j
  · simp [hkj]
  · simp [hkj]

/-- Writing a record over another one changes no other entry. -/
theorem insert_eq_map
    {m : ExtTreeMap String β} {k : String} {v : β} (h : m[k]? = some v)
    (w : β) :
    m.insert k w = m.map fun j u => if k = j then w else u := by
  apply ExtTreeMap.ext_getElem?
  intro j
  rw [ExtTreeMap.getElem?_insert, ExtTreeMap.getElem?_map]
  by_cases hkj : k = j
  · subst hkj
    simp [h]
  · cases hu : m[j]? with
    | none => simp [hkj]
    | some u => simp [hkj]

/-- What is gathered from a table does not change when a record is written over
another one that the same is gathered from. -/
theorem filterMap_values_insert
    {m : ExtTreeMap String β} {k : String} {v w : β} (h : m[k]? = some v)
    {f : β → Option α} (hf : f w = f v) :
    (m.insert k w).values.filterMap f = m.values.filterMap f := by
  rw [insert_eq_map h, values_eq_map_snd, values_eq_map_snd,
    ExtTreeMap.toList_map, List.map_map, List.filterMap_map, List.filterMap_map]
  apply List.filterMap_congr
  rintro ⟨j, u⟩ hu
  rw [ExtTreeMap.mem_toList_iff_getElem?_eq_some] at hu
  by_cases hkj : k = j
  · subst hkj
    obtain rfl : v = u := Option.some.inj (h.symm.trans hu)
    simp [hf]
  · simp [hkj]

end Table

open Script

/-! ## Serverless launches -/

/-- The service says that the task runs on serverless capacity. -/
def Task.SaysServerless (t : Task) : Prop :=
  t.launchType = some .fargate ∨
  t.capacityProvider.any (fun p => "FARGATE".toList.isPrefixOf p.toList) = true

/-- The call asks for serverless capacity, by a provider or by its kind. -/
def RunTask.AsksServerless (r : RunTask) : Prop :=
  (∃ share,
      r.providers = [share] ∧
      "FARGATE".toList.isPrefixOf share.provider.toList = true) ∨
  (r.providers = [] ∧ r.launchType = some .fargate)

theorem Placement.isPrefixOf_provider
    (p : Profile) :
    "FARGATE".toList.isPrefixOf (Placement.provider p).toList = true := by
  rw [Placement.provider]
  split
  · decide
  · decide

namespace Service

variable {s : Service} {now : UInt64} {cluster : String} {d : TaskDefinition}

/-- The service once the refusal that was arranged for the next run of a task is
used up. -/
def letRun (s : Service) : Service :=
  { s with mishaps.runTask := none }

theorem letRun_of_none (h : s.mishaps.runTask = none) : s.letRun = s := by
  rw [letRun, ← h]

/-- What comes of a serverless launch that is not refused, with the service that
it leaves. -/
inductive RunsServerless
    (now : UInt64) (cluster : String) (d : TaskDefinition) (s : Service) :
    LaunchOutcome → Service → Prop where
  | arranged {o : LaunchOutcome} (cs : List Call)
      (ho : s.arrangedOutcome = some o) :
      RunsServerless now cluster d s o (s.noted cs)
  | started (cs : List Call) (launchType : Option Capacity)
      (provider : Option String) (ho : s.arrangedOutcome = none)
      (hcapacity : (s.nextTask now cluster d none launchType
            provider).SaysServerless) :
      RunsServerless now cluster d s
        ⟨[s.nextTask now cluster d none launchType provider], []⟩
        ((s.launch now cluster d none launchType provider).2.noted cs)

theorem RunsServerless.of_noted
    {cs : List Call} {o : LaunchOutcome} {s' : Service}
    (h : RunsServerless now cluster d (s.noted cs) o s') :
    RunsServerless now cluster d s o s' := by
  cases h with
  | arranged cs' ho =>
    rw [noted_noted]
    exact .arranged (cs ++ cs') ho
  | started cs' launchType provider ho hcapacity =>
    have hlaunch :
        ((s.noted cs).launch now cluster d none launchType provider).2.noted
            cs' =
          ((s.launch now cluster d none launchType provider).2.noted cs).noted
            cs' := rfl
    rw [hlaunch, noted_noted]
    exact .started (cs ++ cs') launchType provider ho hcapacity

/-- A run that nothing has been arranged against is not refused. -/
theorem runTask_of_open
    (hmishap : s.mishaps.runTask = none) {r : RunTask}
    (hopen : r.providers = [] ∨ s.hasProviders = true) (hr : r.AsksServerless)
    (hd : s.launchable r.definition = .ok d) (now : UInt64) :
    ∃ o s',
      s.runTask now r = (.ok o, s') ∧
      RunsServerless now r.cluster d s o (s'.noted []) := by
  have hproviders : ¬(!r.providers.isEmpty && !s.hasProviders) = true := by
    rcases hopen with h | h
    · simp [h]
    · simp [h]
  rw [runTask, hmishap]
  simp only [if_neg hproviders, hd]
  cases ho : s.arrangedOutcome with
  | some o => exact ⟨o, s, rfl, .arranged [] ho⟩
  | none =>
    refine ⟨_, _, rfl, .started [] _ _ ho ?_⟩
    rcases hr with ⟨share, hshare, hprefix⟩ | ⟨hnone, hkind⟩
    · exact Or.inr (by simpa [nextTask, launch, hshare] using hprefix)
    · exact Or.inl (by simp [nextTask, launch, hnone, hkind])

theorem serve_runTask_of_open
    (hmishap : s.mishaps.runTask = none) {r : RunTask}
    (hopen : r.providers = [] ∨ s.hasProviders = true) (hr : r.AsksServerless)
    (hd : s.launchable r.definition = .ok d) (now : UInt64) :
    ∃ o s',
      s.serve now (.runTask r) = (.ok o, s') ∧
      RunsServerless now r.cluster d s o s' := by
  obtain ⟨o, s', heq, hruns⟩ :=
    runTask_of_open (s := s.noted [.runTask r]) hmishap hopen hr hd now
  have hnothing : s'.noted [] = s' := by rw [noted, List.append_nil]
  rw [hnothing] at hruns
  exact ⟨o, s', heq, hruns.of_noted⟩

theorem serve_runTask_of_refusal
    {e : Refusal} (he : s.mishaps.runTask = some e) (r : RunTask)
    (now : UInt64) :
    s.serve now (.runTask r) = (.error e, s.letRun.noted [.runTask r]) := by
  have he' : (s.noted [.runTask r]).mishaps.runTask = some e := he
  change (s.noted [.runTask r]).runTask now r = _
  rw [runTask, he']
  rfl

theorem serve_runTask_of_noProviders
    (hmishap : s.mishaps.runTask = none) {r : RunTask} (hr : r.providers ≠ [])
    (hproviders : s.hasProviders = false) (now : UInt64) :
    s.serve now (.runTask r) =
      (.error noProviders, s.letRun.noted [.runTask r]) := by
  have hmishap' : (s.noted [.runTask r]).mishaps.runTask = none := hmishap
  have hproviders' :
      (!r.providers.isEmpty && !(s.noted [.runTask r]).hasProviders) =
        true := by
    simp [noted, hr, hproviders]
  change (s.noted [.runTask r]).runTask now r = _
  rw [runTask, hmishap', letRun_of_none hmishap]
  exact if_pos hproviders'

/-- What comes of a serverless launch, with the service that it leaves.  A
refusal stands unless it says that the call was invalid. -/
inductive LaunchesServerless
    (now : UInt64) (cluster : String) (d : TaskDefinition) (s : Service) :
    Except Refusal LaunchOutcome → Service → Prop where
  | refused {e : Refusal} (cs : List Call) (he : s.mishaps.runTask = some e)
      (hvalid : e.isInvalidParameter = false) :
      LaunchesServerless now cluster d s (.error e) (s.letRun.noted cs)
  | through {o : LaunchOutcome} {s' : Service}
      (hinvalid : ∀ e, s.mishaps.runTask = some e → e.isInvalidParameter = true)
      (hruns : RunsServerless now cluster d s.letRun o s') :
      LaunchesServerless now cluster d s (.ok o) s'

end Service

variable {site : Site} {d : TaskDefinition} {s : Settings}

/-- A serverless launch at a service with capacity providers or without. -/
theorem launchAt_serverless_run
    (h : site.IsDirect) {definitionArn : String}
    (hd : site.service.launchable definitionArn = .ok d) (now : UInt64)
    (network : NetworkConfiguration) (p : Profile) :
    ∃ answer s',
      (launchAt s definitionArn
          (.serverless network ⟨Placement.provider p, 1, 0⟩)).run.run now
          site =
        (answer,
          (site.told
                ("Starting " ++ Placement.provider p ++
                    " task to perform the current job...")).withService s') ∧
      Service.LaunchesServerless now s.clusterName d site.service answer
        s' := by
  rw [launchAt, run_bind_of_ok (run_lift_say now _ _)]
  generalize hsite₁ : site.told _ = site₁
  have h₁ : site₁.IsDirect := hsite₁ ▸ h
  have hservice₁ : site₁.service = site.service := by
    rw [← hsite₁]
    rfl
  have hfirst := run_call h₁ now (.runTask (runCall s definitionArn network
    ⟨Placement.provider p, 1, 0⟩))
  rw [hservice₁] at hfirst
  have hasks :
      (runCall s definitionArn network
          ⟨Placement.provider p, 1, 0⟩).AsksServerless :=
    Or.inl ⟨_, rfl, Placement.isPrefixOf_provider p⟩
  have hsecond : ∀ cs : List Call, ∃ o s',
      (call (.runTask (runCall s definitionArn network
        ⟨Placement.provider p, 1, 0⟩).byLaunchType)).run.run now
          (site₁.withService (site.service.letRun.noted cs)) =
        (.ok o, site₁.withService s') ∧
      Service.RunsServerless now s.clusterName d site.service.letRun o s' := by
    intro cs
    obtain ⟨o, s', hserve, hruns⟩ :=
      Service.serve_runTask_of_open (s := site.service.letRun.noted cs) rfl
        (Or.inl rfl) (Or.inr ⟨rfl, rfl⟩)
        (r :=
            (runCall s definitionArn network
                ⟨Placement.provider p, 1, 0⟩).byLaunchType) hd now
    refine ⟨o, s', ?_, hruns.of_noted⟩
    rw [run_call (h₁.withService _), Site.service_withService, hserve]
    rfl
  cases hmishap : site.service.mishaps.runTask with
  | some e =>
    rw [Service.serve_runTask_of_refusal hmishap] at hfirst
    rw [run_tryCatch_of_error hfirst]
    by_cases hinvalid : e.isInvalidParameter = true
    · obtain ⟨o, s', hrun, hruns⟩ :=
        hsecond
          [.runTask
              (runCall s definitionArn network ⟨Placement.provider p, 1, 0⟩)]
      rw [if_pos hinvalid]
      refine ⟨.ok o, s', hrun, .through ?_ hruns⟩
      intro e' he'
      rwa [← Option.some.inj (hmishap.symm.trans he')]
    · rw [if_neg hinvalid]
      exact ⟨.error e, _, rfl,
        .refused _ hmishap (Bool.eq_false_iff.mpr hinvalid)⟩
  | none =>
    have hinvalid :
        ∀ e,
          site.service.mishaps.runTask = some e →
          e.isInvalidParameter = true := by
      intro e he
      cases hmishap.symm.trans he
    by_cases hproviders : site.service.hasProviders = true
    · obtain ⟨o, s', hserve, hruns⟩ := Service.serve_runTask_of_open hmishap
        (Or.inr hproviders) hasks hd now
      rw [hserve] at hfirst
      refine ⟨.ok o, s', run_tryCatch_of_ok hfirst _, .through hinvalid ?_⟩
      rwa [Service.letRun_of_none hmishap]
    · rw [Service.serve_runTask_of_noProviders hmishap (List.cons_ne_nil _ _)
        (Bool.eq_false_iff.mpr hproviders)] at hfirst
      have hturned : Service.noProviders.isInvalidParameter = true := rfl
      rw [run_tryCatch_of_error hfirst, if_pos hturned]
      obtain ⟨o, s', hrun, hruns⟩ :=
        hsecond
          [.runTask
              (runCall s definitionArn network ⟨Placement.provider p, 1, 0⟩)]
      exact ⟨.ok o, s', hrun, .through hinvalid hruns⟩

/-! ## Launches with providers and without -/

namespace Service

/-- The service with capacity providers, or without. -/
def providing (b : Bool) (s : Service) : Service :=
  { s with hasProviders := b }

/-- The service with capacity providers or without, and with another journal. -/
def retold (b : Bool) (cs : List Call) (s : Service) : Service :=
  { s with hasProviders := b, journal := cs }

theorem letRun_noted_eq_retold
    (b : Bool) (s : Service) (cs cs' : List Call) :
    (s.providing b).letRun.noted cs' =
      (s.letRun.noted cs).retold b (s.journal ++ cs') :=
  rfl

theorem launch_noted_eq_retold
    (b : Bool) (s : Service) (now : UInt64) (cluster : String)
    (d : TaskDefinition) (launchType launchType' : Option Capacity)
    (provider provider' : Option String) (cs cs' : List Call) :
    ((s.providing b).letRun.launch now cluster d none launchType'
        provider').2.noted cs' =
      { ((s.letRun.launch now cluster d none launchType
            provider).2.noted cs).retold b (s.journal ++ cs') with
        tasks :=
          ((s.letRun.launch now cluster d none launchType
              provider).2.noted cs).tasks.insert
            (s.letRun.nextTask now cluster d none launchType provider).arn
            (s.letRun.nextTask now cluster d none launchType' provider') } := by
  have hinsert :
      ((s.letRun.launch now cluster d none launchType
          provider).2.noted cs).tasks.insert
          (s.letRun.nextTask now cluster d none launchType provider).arn
          (s.letRun.nextTask now cluster d none launchType' provider') =
        s.tasks.insert (taskArn cluster (s.launched + 1))
          (s.letRun.nextTask now cluster d none launchType' provider') :=
    Table.insert_insert s.tasks (taskArn cluster (s.launched + 1)) _ _
  rw [hinsert]
  rfl

/-- Two launches come to the same, but for the capacity that the task is said to
run on. -/
inductive LaunchesAlike
    (b : Bool) :
    Except Refusal LaunchOutcome →
    Service →
    Except Refusal LaunchOutcome →
    Service →
    Prop where
  | vain {answer : Except Refusal LaunchOutcome} {s : Service} (cs : List Call)
      (hnone : ∀ o, answer = .ok o → o.tasks = []) :
      LaunchesAlike b answer s answer (s.retold b cs)
  | started {t t' : Task} {s : Service} (cs : List Call)
      (ht : s.tasks[t.arn]? = some t)
      (hsame : t' =
          { t with
            launchType := t'.launchType
            capacityProvider := t'.capacityProvider })
      (hcapacity : t.SaysServerless) (hcapacity' : t'.SaysServerless) :
      LaunchesAlike b (.ok ⟨[t], []⟩) s (.ok ⟨[t'], []⟩)
        { s.retold b cs with tasks := s.tasks.insert t.arn t' }

theorem LaunchesServerless.alike
    {s s₁ s₂ : Service} {now : UInt64} {cluster : String} {d : TaskDefinition}
    {b : Bool} {answer₁ answer₂ : Except Refusal LaunchOutcome}
    (h₁ : LaunchesServerless now cluster d s answer₁ s₁)
    (h₂ : LaunchesServerless now cluster d (s.providing b) answer₂ s₂) :
    LaunchesAlike b answer₁ s₁ answer₂ s₂ := by
  cases h₁ with
  | @refused e cs he hvalid =>
    cases h₂ with
    | @refused e' cs' he' hvalid' =>
      obtain rfl : e = e' := Option.some.inj (he.symm.trans he')
      rw [letRun_noted_eq_retold b s cs cs']
      refine .vain _ ?_
      intro o ho
      cases ho
    | through hinvalid' hruns' =>
      rw [hinvalid' e he] at hvalid
      cases hvalid
  | through hinvalid hruns =>
    cases h₂ with
    | refused cs' he' hvalid' =>
      rw [hinvalid _ he'] at hvalid'
      cases hvalid'
    | through hinvalid' hruns' =>
      cases hruns with
      | arranged cs ho =>
        cases hruns' with
        | arranged cs' ho' =>
          cases ho.symm.trans ho'
          rw [letRun_noted_eq_retold b s cs cs']
          refine .vain _ ?_
          intro o ho'
          rw [← Except.ok.inj ho']
          exact arrangedOutcome_tasks ho
        | started cs' launchType' provider' ho' hcapacity' =>
          cases ho.symm.trans ho'
      | started cs launchType provider ho hcapacity =>
        cases hruns' with
        | arranged cs' ho' => cases ho.symm.trans ho'
        | started cs' launchType' provider' ho' hcapacity' =>
          rw [launch_noted_eq_retold b s now cluster d launchType launchType'
              provider provider' cs cs']
          refine .started _ ?_ rfl hcapacity hcapacity'
          exact Table.getElem?_insert_eq_some_iff.mpr (Or.inl ⟨rfl, rfl⟩)

theorem deregister_retold
    (b : Bool) (cs : List Call) (arn : String) (s : Service) :
    (s.retold b cs).deregister arn =
      ((s.deregister arn).1, (s.deregister arn).2.retold b cs) := by
  have hmishaps : (s.retold b cs).mishaps = s.mishaps := rfl
  have hdefinitions : (s.retold b cs).definitions = s.definitions := rfl
  rw [deregister, deregister, hmishaps, hdefinitions]
  cases s.mishaps.deregister with
  | some e => rfl
  | none => cases s.definitions[arn]? <;> rfl

theorem delete_retold
    (b : Bool) (cs : List Call) (arns : List String) (s : Service) :
    (s.retold b cs).delete arns =
      ((s.delete arns).1, (s.delete arns).2.retold b cs) := by
  have hmishaps : (s.retold b cs).mishaps = s.mishaps := rfl
  rw [delete, delete, hmishaps]
  cases s.mishaps.delete <;> rfl

/-- Removing a definition has nothing to do with capacity providers. -/
theorem removing_retold
    (b : Bool) (cs : List Call) (now : UInt64) (arn : String) (s : Service) :
    ∃ cs',
      (s.retold b cs).removing now arn = (s.removing now arn).retold b cs' := by
  have hfirst :=
    deregister_retold b (cs ++ [.deregister arn]) arn
      (s.noted [.deregister arn])
  have hsecond :=
    delete_retold b (cs ++ [.deregister arn] ++ [.delete [arn]]) [arn]
      (((s.noted [.deregister arn]).deregister arn).2.noted [.delete [arn]])
  refine ⟨cs ++ [.deregister arn] ++ [.delete [arn]], ?_⟩
  change
    (((((s.noted [.deregister arn]).retold b
        (cs ++ [.deregister arn])).deregister arn).2.noted
      [.delete [arn]]).delete [arn]).2 = _
  rw [hfirst]
  exact congrArg Prod.snd hsecond

/-- Two services are the same up to capacity providers and journals, and up to
the capacity that the task of a new agent is said to run on. -/
inductive SameButCapacity
    (b : Bool) (s : Service) : Option Agent → Service → Prop where
  | vain (cs : List Call) : SameButCapacity b s none (s.retold b cs)
  | created {a : Agent} {t t' : Task} (cs : List Call)
      (ht : s.tasks[a.taskArn]? = some t)
      (hsame : t' =
          { t with
            launchType := t'.launchType
            capacityProvider := t'.capacityProvider })
      (hcapacity : t.SaysServerless) (hcapacity' : t'.SaysServerless) :
      SameButCapacity b s (some a)
        { s.retold b cs with tasks := s.tasks.insert a.taskArn t' }

end Service

variable {r : AgentRequest}

theorem removeDefinition_throw_alike
    (h : site.IsDirect) (now : UInt64) (b : Bool) (cs : List Call)
    (arn : String) (e : Agent.Error) :
    ∃ result site₁ s₂,
      ((removeDefinition arn : Attempt Unit) >>=
          fun _ => (throw e : Attempt Agent)).run.run now site =
        (result, site₁) ∧
      ((removeDefinition arn : Attempt Unit) >>=
          fun _ => (throw e : Attempt Agent)).run.run now
          (site.withService (site.service.retold b cs)) =
        (result, site₁.withService s₂) ∧
      Service.SameButCapacity b site₁.service result.toOption s₂ := by
  have hremove := run_lift (ε := Agent.Error) (removeDefinition_run h now arn)
  have hremove' := run_lift (ε := Agent.Error)
    (removeDefinition_run (h.withService (site.service.retold b cs)) now arn)
  obtain ⟨cs', hretold⟩ := Service.removing_retold b cs now arn site.service
  rw [Site.service_withService, hretold] at hremove'
  exact ⟨_, _, _, run_bind_of_ok hremove _, run_bind_of_ok hremove' _,
    .vain cs'⟩

/-- A registered definition is launched alike with providers and without. -/
theorem startRegistered_alike
    (h : site.IsDirect) (hd : site.service.launchable d.arn = .ok d)
    (now : UInt64) (b : Bool) (fresh : Identity) (server : String)
    (spec : Specification) (network : NetworkConfiguration) (p : Profile) :
    ∃ result site₁ s₂,
      (startRegistered fresh server s r spec
          (.serverless network ⟨Placement.provider p, 1, 0⟩) d).run.run now
          site =
        (result, site₁) ∧
      (startRegistered fresh server s r spec
          (.serverless network ⟨Placement.provider p, 1, 0⟩) d).run.run now
          (site.withService (site.service.providing b)) =
        (result, site₁.withService s₂) ∧
      Service.SameButCapacity b site₁.service result.toOption s₂ := by
  obtain ⟨answer₁, s₁, hrun₁, hlaunch₁⟩ :=
    launchAt_serverless_run h hd now network p (s := s)
  obtain ⟨answer₂, s₂, hrun₂, hlaunch₂⟩ := launchAt_serverless_run (s := s)
    (h.withService (site.service.providing b)) hd now network p
  have hanswer₁ := run_lift (ε := Agent.Error) hrun₁
  have hanswer₂ := run_lift (ε := Agent.Error) hrun₂
  rw [startRegistered, run_bind_of_ok hanswer₁, run_bind_of_ok hanswer₂]
  have halike := hlaunch₁.alike hlaunch₂
  cases halike with
  | vain cs hnone =>
    cases answer₁ with
    | error e =>
      exact removeDefinition_throw_alike ((h.told _).withService s₁) now b cs
        d.arn _
    | ok o =>
      obtain ⟨tasks, failures⟩ := o
      obtain rfl : tasks = [] := hnone _ rfl
      exact removeDefinition_throw_alike ((h.told _).withService s₁) now b cs
        d.arn _
  | @started t t' _ cs ht hsame hcapacity hcapacity' =>
    refine ⟨_, _, _, run_bind_of_ok (run_lift_say now _ _) _, ?_,
      .created cs ht hsame hcapacity hcapacity'⟩
    refine (run_bind_of_ok (run_lift_say now _ _) _).trans ?_
    rw [hsame]
    rfl

theorem launch_alike
    (h : site.IsDirect) (now : UInt64) (b : Bool) (fresh : Identity)
    (server : String) (spec : Specification) (network : NetworkConfiguration)
    (p : Profile) :
    ∃ result site₁ s₂,
      (launch fresh server s r spec
          (.serverless network ⟨Placement.provider p, 1, 0⟩)).run.run now
          site =
        (result, site₁) ∧
      (launch fresh server s r spec
          (.serverless network ⟨Placement.provider p, 1, 0⟩)).run.run now
          (site.withService (site.service.providing b)) =
        (result, site₁.withService s₂) ∧
      Service.SameButCapacity b site₁.service result.toOption s₂ := by
  have hregister :=
    registerSpecification_run
      (h.told "Registering task definition with cluster...") now spec
  have hregister' :=
    registerSpecification_run
      ((h.withService (site.service.providing b)).told
          "Registering task definition with cluster...") now spec
  rw [launch, run_bind_of_ok (run_lift_say now _ _), run_bind_of_ok hregister,
    run_bind_of_ok (run_lift_say now _ _),
    run_bind_of_ok (run_lift_say now _ _), run_bind_of_ok hregister',
    run_bind_of_ok (run_lift_say now _ _)]
  have hd :
      (site.service.serve now (.register spec.registration)).2.launchable
          (site.service.nextDefinition spec.registration).arn =
        .ok (site.service.nextDefinition spec.registration) :=
    Service.launchable_eq_ok
      (Table.getElem?_insert_eq_some_iff.mpr (Or.inl ⟨rfl, rfl⟩)) rfl
  have h₁ := ((h.told "Registering task definition with cluster...").withService
    (site.service.serve now (.register spec.registration)).2).told
      "Done registering task definition with cluster."
  exact startRegistered_alike h₁ hd now b fresh server spec network p

/-! ## Creations with providers and without -/

theorem Site.IsDirect.run_keyed
    {α : Type} (h : site.IsDirect) (hkeyed : site.service.Keyed) (now : UInt64)
    (x : Script α) :
    (x.run now site).2.service.Keyed :=
  h.run_keeps now (fun _ c hs => hs.serve now c)
    (fun _ _ _ hs => ⟨hs.tasks, hs.definitions, hs.instances.insert rfl⟩) hkeyed
    x

theorem isServerlessTask_of_saysServerless
    {t : Task} (h : t.SaysServerless) (o : Ownership) :
    isServerlessTask t o = true := by
  rw [isServerlessTask, Bool.or_eq_true, Bool.or_eq_true, beq_iff_eq]
  exact Or.inl h

/-- The kind of serverless capacity does not show in an agent. -/
theorem Agent.ofListed?_of_saysServerless
    {t t' : Task}
    (hsame : t' =
        { t with
          launchType := t'.launchType
          capacityProvider := t'.capacityProvider })
    (hcapacity : t.SaysServerless) (hcapacity' : t'.SaysServerless)
    (d : TaskDefinition) (machines : Std.ExtTreeMap String String)
    (server : String) :
    Agent.ofListed? t' d machines server =
      Agent.ofListed? t d machines server := by
  have htarget : ∀ o, targetOf t' o machines = targetOf t o machines := by
    intro o
    have hinstance : t'.instanceArn = t.instanceArn := by rw [hsame]
    have harn : t'.arn = t.arn := by rw [hsame]
    rw [targetOf, targetOf, isServerlessTask_of_saysServerless hcapacity,
      isServerlessTask_of_saysServerless hcapacity', hinstance, harn]
  have hagent : ∀ o, Agent.ofTask t' d o (targetOf t' o machines) =
      Agent.ofTask t d o (targetOf t o machines) := by
    intro o
    rw [htarget, hsame]
    rfl
  rw [Agent.ofListed?, Agent.ofListed?]
  simp only [hagent]

theorem Service.SameButCapacity.agentsOf_eq
    {b : Bool} {s s' : Service} {created : Option Agent}
    (h : Service.SameButCapacity b s created s') (cluster server : String) :
    s'.agentsOf cluster server = s.agentsOf cluster server := by
  cases h with
  | vain cs => rfl
  | @created a t t' cs ht hsame hcapacity hcapacity' =>
    refine Table.filterMap_values_insert ht ?_
    have hcluster : t'.cluster = t.cluster := by rw [hsame]
    have hstatus : t'.desiredStatus = t.desiredStatus := by rw [hsame]
    have hdefinition : t'.definitionArn = t.definitionArn := by rw [hsame]
    simp only [Service.agentOf?, hcluster, hstatus, hdefinition,
      Agent.ofListed?_of_saysServerless hsame hcapacity hcapacity']

/-- A specified serverless task comes to the same with providers and without. -/
theorem createAgent_alike
    (h : site.IsDirect) (hserverless : r.profile.isServerless = true)
    (now : UInt64) (b : Bool) (fresh : Identity) (server : String)
    (s : Settings) :
    ∃ result site₁ s₂,
      (createAgent fresh server s r).run.run now site = (result, site₁) ∧
      (createAgent fresh server s r).run.run now
          (site.withService (site.service.providing b)) =
        (result, site₁.withService s₂) ∧
      Service.SameButCapacity b site₁.service result.toOption.join s₂ := by
  cases hspec : Specification.ofRequest fresh.agentName r s server with
  | error e =>
    rw [createAgent, hspec]
    exact ⟨_, _, _, rfl, rfl, .vain site.service.journal⟩
  | ok spec =>
    rw [createAgent_serverless_eq hserverless hspec,
      run_bind_of_ok (run_lift_say now _ _),
      run_bind_of_ok (run_lift_say now _ _)]
    cases hplacement : Placement.forServerless fresh.agentName s r.profile with
    | error e => exact ⟨_, _, _, rfl, rfl, .vain site.service.journal⟩
    | ok placement =>
      obtain ⟨network, share, rfl⟩ :=
        Placement.eq_serverless_of_forServerless hplacement
      obtain rfl := Placement.share_of_forServerless hplacement
      obtain ⟨result, site₁, s₂, hrun₁, hrun₂, hsame⟩ :=
        launch_alike (s := s) (r := r)
          (h.told _) now b fresh server spec network r.profile
      cases result with
      | ok t =>
        exact ⟨_, _, _, run_bind_of_ok hrun₁ _, run_bind_of_ok hrun₂ _, hsame⟩
      | error e =>
        exact ⟨_, _, _, run_bind_of_error hrun₁ _, run_bind_of_error hrun₂ _,
          hsame⟩

/-- Whether the clusters have capacity providers shows in nothing that a
serverless creation comes to but the journal and the capacity that the service
says the new task runs on, and in no pass behind it. -/
theorem createAgent_regardless_of_providers
    (hdirect : site.IsDirect) (hpossible : site.service.Possible)
    (hserverless : r.profile.isServerless = true) (now : UInt64) (b : Bool)
    (fresh : Identity) (server : String) (s : Settings) :
    ∃ result site₁ s₂,
      (createAgent fresh server s r).run.run now site = (result, site₁) ∧
      (createAgent fresh server s r).run.run now
          (site.withService (site.service.providing b)) =
        (result, site₁.withService s₂) ∧
      Service.SameButCapacity b site₁.service result.toOption.join s₂ ∧
      ∀ (later : UInt64) (server' : String) (s' : Settings) (roster : Roster),
        ((Roster.reconcile server' s' roster).run.run later
              (site₁.withService s₂)).1 =
          ((Roster.reconcile server' s' roster).run.run later site₁).1 := by
  obtain ⟨result, site₁, s₂, hrun₁, hrun₂, hsame⟩ :=
    createAgent_alike hdirect hserverless now b fresh server s
  refine ⟨result, site₁, s₂, hrun₁, hrun₂, hsame, ?_⟩
  have hdirect₁ := hdirect.run now (createAgent fresh server s r).run
  have hkeyed₁ :=
    hdirect.run_keyed hpossible.keyed now (createAgent fresh server s r).run
  have hproviding :
      (site.withService (site.service.providing b)).service.Keyed :=
    ⟨hpossible.keyed.tasks, hpossible.keyed.definitions,
      hpossible.keyed.instances⟩
  have hkeyed₂ := (hdirect.withService _).run_keyed hproviding now
    (createAgent fresh server s r).run
  rw [hrun₁] at hdirect₁ hkeyed₁
  rw [hrun₂] at hkeyed₂
  intro later server' s' roster
  rw [Roster.reconcile_run_of_keyed hdirect₁ hkeyed₁,
    Roster.reconcile_run_of_keyed (hdirect₁.withService s₂) hkeyed₂,
    Site.service_withService, hsame.agentsOf_eq]

/-- The same agent comes of a provider and of the kind of capacity that is
fallen back to. -/
theorem createAgent_regardless_of_providers_small :
    ∃ a site₁ s₂,
      (createAgent ⟨"a", "b"⟩ "ci" smallSettings smallRequest).run.run 0 {} =
        (.ok (some a), site₁) ∧
      (createAgent ⟨"a", "b"⟩ "ci" smallSettings smallRequest).run.run 0
          (Site.withService {} (Service.providing false (Site.service {}))) =
        (.ok (some a), site₁.withService s₂) ∧
      Service.SameButCapacity false site₁.service (some a) s₂ ∧
      site₁.service.tasks.values.map
          (fun t => (t.launchType, t.capacityProvider)) =
        [(none, some "FARGATE")] ∧
      s₂.tasks.values.map (fun t => (t.launchType, t.capacityProvider)) =
        [(some .fargate, none)] ∧
      ((Roster.reconcile "ci" smallSettings ∅).run.run 1
            (site₁.withService s₂)).1 =
        ((Roster.reconcile "ci" smallSettings ∅).run.run 1 site₁).1 := by
  have hdirect : Site.IsDirect {} := rfl
  obtain ⟨result, site₁, s₂, hrun₁, hrun₂, hsame, hpass⟩ :=
    createAgent_regardless_of_providers (r := smallRequest) hdirect .empty rfl 0
      false ⟨"a", "b"⟩ "ci" smallSettings
  have hcreated :
      ((createAgent ⟨"a", "b"⟩ "ci" smallSettings smallRequest).run.run 0
            {}).1.toOption.join.isSome =
        true := by
    decide +kernel
  have hprovider :
      ((createAgent ⟨"a", "b"⟩ "ci" smallSettings smallRequest).run.run 0
          {}).2.service.tasks.values.map
          (fun t => (t.launchType, t.capacityProvider)) =
        [(none, some "FARGATE")] := by
    decide +kernel
  have hkind :
      ((createAgent ⟨"a", "b"⟩ "ci" smallSettings smallRequest).run.run 0
          (Site.withService {}
              (Service.providing false
                  (Site.service {})))).2.service.tasks.values.map
          (fun t => (t.launchType, t.capacityProvider)) =
        [(some .fargate, none)] := by
    decide +kernel
  rw [hrun₁] at hcreated hprovider
  rw [hrun₂] at hkind
  obtain ⟨a, ha⟩ := Option.isSome_iff_exists.mp hcreated
  obtain rfl : result = .ok (some a) := join_toOption_eq_some_iff.mp ha
  exact ⟨a, site₁, s₂, hrun₁, hrun₂, hsame, hprovider, hkind,
    hpass 1 "ci" smallSettings ∅⟩

end AgentFleet

import AgentFleet.Proofs.Creating

/-!
# All or nothing

A creation that answers with an agent has added just the definition and the task
of the agent, and any other creation has added nothing.  If the removal of a
definition has been arranged to go wrong, the answer is the same as if it had
not, and all that can be left is the one definition that the creation registered
itself.
-/

namespace AgentFleet

/-! ## Arrangements against removals -/

/-- The service with nothing arranged against the removal of definitions. -/
def Service.allowRemovals (s : Service) : Service :=
  { s with mishaps.deregister := none, mishaps.delete := none }

/-- The site whose service has nothing arranged against the removal of
definitions. -/
def Site.allowRemovals (site : Site) : Site :=
  site.withService site.service.allowRemovals

/-- The step does not remove a definition. -/
def Act.RemovesNothing : Act → Prop
  | .call (.deregister _) => False
  | .call (.delete _) => False
  | _ => True

namespace Service

theorem startEach_allowRemovals
    (now : UInt64) (cluster : String) (d : TaskDefinition) (arns : List String)
    (s : Service) :
    s.allowRemovals.startEach now cluster d arns =
      ((s.startEach now cluster d arns).1,
        (s.startEach now cluster d arns).2.allowRemovals) :=
  startEach_overlaid (fun m => { m with deregister := none, delete := none }) id
    now cluster d arns s

theorem startTask_allowRemovals
    (now : UInt64) (r : StartTask) (s : Service) :
    s.allowRemovals.startTask now r =
      ((s.startTask now r).1, (s.startTask now r).2.allowRemovals) := by
  have hmishap : s.allowRemovals.mishaps.startTask = s.mishaps.startTask := rfl
  have hlaunchable :
      s.allowRemovals.launchable r.definition = s.launchable r.definition := rfl
  have harranged : s.allowRemovals.arrangedOutcome = s.arrangedOutcome := rfl
  rw [startTask, startTask, hmishap, hlaunchable, harranged]
  cases s.mishaps.startTask with
  | some e => rfl
  | none =>
    cases s.launchable r.definition with
    | error e => rfl
    | ok d =>
      cases s.arrangedOutcome with
      | some o => rfl
      | none => simp only [startEach_allowRemovals]

theorem runTask_allowRemovals
    (now : UInt64) (r : RunTask) (s : Service) :
    s.allowRemovals.runTask now r =
      ((s.runTask now r).1, (s.runTask now r).2.allowRemovals) := by
  have hmishap : s.allowRemovals.mishaps.runTask = s.mishaps.runTask := rfl
  have hproviders : s.allowRemovals.hasProviders = s.hasProviders := rfl
  have hlaunchable :
      s.allowRemovals.launchable r.definition = s.launchable r.definition := rfl
  have harranged : s.allowRemovals.arrangedOutcome = s.arrangedOutcome := rfl
  rw [runTask, runTask, hmishap, hproviders, hlaunchable, harranged]
  cases s.mishaps.runTask with
  | some e => rfl
  | none =>
    by_cases hrejected : (!r.providers.isEmpty && !s.hasProviders) = true
    · simp only [if_pos hrejected]
    · simp only [if_neg hrejected]
      cases s.launchable r.definition with
      | error e => rfl
      | ok d =>
        cases s.arrangedOutcome with
        | some o => rfl
        | none => rfl

theorem handBack_allowRemovals
    (arn : String) (t : Task) (s : Service) :
    s.allowRemovals.handBack arn t = (s.handBack arn t).allowRemovals := by
  rw [handBack, handBack]
  cases t.instanceArn with
  | none => rfl
  | some a =>
    have hinstances : s.allowRemovals.instances[a]? = s.instances[a]? := rfl
    simp only [hinstances]
    cases s.instances[a]? with
    | none => rfl
    | some i => rfl

theorem stopTask_allowRemovals
    (cluster arn : String) (s : Service) :
    s.allowRemovals.stopTask cluster arn =
      ((s.stopTask cluster arn).1,
        (s.stopTask cluster arn).2.allowRemovals) := by
  have htasks : s.allowRemovals.tasks = s.tasks := rfl
  rw [stopTask, stopTask, htasks]
  cases s.tasks[arn]? with
  | none => rfl
  | some t =>
    by_cases hcluster : t.cluster ≠ cluster
    · simp only [if_pos hcluster]
    · by_cases hstopped : t.desiredStatus = .stopped
      · simp only [if_neg hcluster, if_pos hstopped]
        rfl
      · simp only [if_neg hcluster, if_neg hstopped]
        rw [← handBack_allowRemovals]
        rfl

/-- What is arranged against removals makes no difference to any other call. -/
theorem serve_allowRemovals
    (now : UInt64) {c : Call} (hc : (Act.call c).RemovesNothing) (s : Service) :
    s.allowRemovals.serve now c =
      ((s.serve now c).1, (s.serve now c).2.allowRemovals) := by
  cases c with
  | deregister arn => exact hc.elim
  | delete arns => exact hc.elim
  | startTask r => exact startTask_allowRemovals now r (s.noted [.startTask r])
  | runTask r => exact runTask_allowRemovals now r (s.noted [.runTask r])
  | stopTask cluster arn reason =>
    exact stopTask_allowRemovals cluster arn
      (s.noted [.stopTask cluster arn reason])
  | _ => rfl

end Service

theorem Supply.bringUp_allowRemovals
    (s : Settings) (profile : Profile) (service : Service) (supply : Supply) :
    supply.bringUp s profile service.allowRemovals =
      ((supply.bringUp s profile service).1,
        (supply.bringUp s profile service).2.1,
        (supply.bringUp s profile service).2.2.allowRemovals) := by
  cases supply with
  | promise i => rfl
  | outage e => rfl
  | pool pool =>
    rw [bringUp, bringUp]
    by_cases hblocked : pool.blocked = true
    · simp only [if_pos hblocked]
    · simp only [if_neg hblocked]
      rfl

theorem Site.perform_allowRemovals
    (now : UInt64) {a : Act} (ha : a.RemovesNothing) (site : Site) :
    site.allowRemovals.perform now a =
      ((site.perform now a).1, (site.perform now a).2.allowRemovals) := by
  have hservice :
      site.allowRemovals.gateway.service = site.gateway.service.allowRemovals :=
    rfl
  have hprepared :
      site.allowRemovals.gateway.prepared = site.gateway.prepared := rfl
  have hsupply : site.allowRemovals.supply = site.supply := rfl
  cases a with
  | say line => rfl
  | bringUp s profile =>
    rw [perform, perform, hservice, hsupply, Supply.bringUp_allowRemovals]
    rfl
  | call c =>
    rw [perform, perform, Gateway.serve, Gateway.serve, hservice, hprepared,
      Service.serve_allowRemovals now ha]
    cases PreparedAnswer.take c.method site.gateway.prepared with
    | some r => rfl
    | none => rfl

/-! ## Indifferent scripts -/

namespace Script

variable {α β ε ε' : Type}

/-- The result of the script does not depend on what is arranged against
removals. -/
def Indifferent (now : UInt64) (x : Script α) : Prop :=
  ∀ site, (x.run now site.allowRemovals).1 = (x.run now site).1

namespace Indifferent

variable {now : UInt64}

theorem pure (a : α) : Indifferent now (Pure.pure a : Script α) :=
  fun _ => rfl

/-- Steps that remove nothing may come before a script. -/
theorem bind
    {x : Script α} {f : α → Script β} (hx : x.Only Act.RemovesNothing)
    (hf : ∀ a, Indifferent now (f a)) :
    Indifferent now (x >>= f) := by
  intro site
  rw [run_bind, run_bind,
    hx.run_commutes now (fun a site ha => site.perform_allowRemovals now ha)
      site]
  exact hf _ _

theorem bindExcept
    {x : ExceptT ε Script α} {f : α → ExceptT ε Script β}
    (hx : x.run.Only Act.RemovesNothing) (hf : ∀ a, Indifferent now (f a).run) :
    Indifferent now (x >>= f).run := by
  refine bind hx ?_
  intro result
  cases result with
  | ok a => exact hf a
  | error e => exact pure _

/-- What goes on without any further step may come after a script. -/
theorem mapExcept
    {x : ExceptT ε Script α} (hx : Indifferent now x.run) (f : α → β) :
    Indifferent now
      (x >>= fun a => Pure.pure (f a) : ExceptT ε Script β).run := by
  intro site
  have hresult := hx site
  rcases hleft : x.run.run now site.allowRemovals with ⟨left, site₁⟩
  rcases hright : x.run.run now site with ⟨right, site₂⟩
  rw [hleft, hright] at hresult
  obtain rfl : left = right := hresult
  cases left with
  | ok a =>
    rw [run_bind_of_ok hleft, run_bind_of_ok hright]
    rfl
  | error e => rw [run_bind_of_error hleft, run_bind_of_error hright]

/-- What a script does before an error has no say in the error. -/
theorem thenThrow
    (x : Script α) (e : ε) :
    Indifferent now
      (liftM x >>= fun _ => throw e : ExceptT ε Script β).run := by
  intro site
  rw [run_bind_of_ok (run_lift rfl), run_bind_of_ok (run_lift rfl)]
  rfl

end Indifferent

end Script

theorem Act.Searches.removesNothing
    {a : Act} (ha : a.Searches) :
    a.RemovesNothing := by
  cases a with
  | call c =>
    cases c with
    | deregister arn => exact ha
    | delete arns => exact ha
    | _ => trivial
  | bringUp s profile => trivial
  | say line => trivial

open Script

theorem launchAt_only
    (s : Settings) (definitionArn : String) (placement : Placement) :
    (launchAt s definitionArn placement).run.Only Act.RemovesNothing := by
  cases placement with
  | onHost host =>
    exact Only.bindExcept (Only.map _ (Only.perform trivial)) fun _ =>
      Only.perform trivial
  | serverless network share =>
    refine Only.bindExcept (Only.map _ (Only.perform trivial)) fun _ => ?_
    refine Only.tryCatch (Only.perform trivial) fun e => ?_
    split
    · exact Only.perform trivial
    · exact Only.pure _

/-- The answer to a launch is found before anything is removed. -/
theorem launch_indifferent
    (now : UInt64) (fresh : Identity) (server : String) (s : Settings)
    (r : AgentRequest) (spec : Specification) (placement : Placement) :
    Indifferent now (launch fresh server s r spec placement).run := by
  refine Indifferent.bindExcept (only_say trivial) fun _ => ?_
  refine Indifferent.bindExcept (Only.adapt _ (Only.perform trivial)) fun d =>
    ?_
  refine Indifferent.bindExcept (only_say trivial) fun _ => ?_
  refine Indifferent.bindExcept (Only.map _ (launchAt_only s d.arn placement))
    fun answer => ?_
  rcases answer with e | ⟨_ | ⟨t, rest⟩, _ | ⟨f, fs⟩⟩
  · exact Indifferent.thenThrow _ _
  · exact Indifferent.thenThrow _ _
  · exact Indifferent.thenThrow _ _
  · exact Indifferent.bindExcept (only_say trivial) fun _ => Indifferent.pure _
  · exact Indifferent.thenThrow _ _

theorem createAgent_indifferent
    (now : UInt64) (fresh : Identity) (server : String) (s : Settings)
    (r : AgentRequest) :
    Indifferent now (createAgent fresh server s r).run := by
  rw [createAgent_eq]
  refine Indifferent.bindExcept (Only.mono (fun _ ha => ha.removesNothing)
    (choosePlacement_only fresh server s r)) fun choice => ?_
  rcases choice with _ | ⟨spec, placement⟩
  · exact Indifferent.pure _
  · exact Indifferent.mapExcept
      (launch_indifferent now fresh server s r spec placement) some

/-! ## Creations -/

namespace Service

/-- Just the definition and the task of an agent have been added. -/
def Gains (t : Agent) (s s' : Service) : Prop :=
  (∃ d : TaskDefinition,
      d.arn = t.definitionArn ∧
      d.status = .active ∧
      d.family = t.name ∧
      s.definitions[t.definitionArn]? = none ∧
      s'.definitions = s.definitions.insert t.definitionArn d) ∧
  ∃ task : Task, task.arn = t.taskArn ∧ task.desiredStatus = .running ∧
    task.definitionArn = t.definitionArn ∧ s.tasks[t.taskArn]? = none ∧
    s'.tasks = s.tasks.insert t.taskArn task

/-- No task and no definition have been added, but for what may be left of `d`,
which is new. -/
def GainsNothingBut (d : TaskDefinition) (s s' : Service) : Prop :=
  s'.tasks = s.tasks ∧
  s.definitions[d.arn]? = none ∧
  (∀ arn : String, d.arn ≠ arn → s'.definitions[arn]? = s.definitions[arn]?) ∧
  ∀ d' : TaskDefinition,
    s'.definitions[d.arn]? = some d' → d' = d ∨ d' = retired d

theorem Creates.gains
    {s s' : Service} (hsound : s.Sound) {now : UInt64} {fresh : Identity}
    {server : String} {settings : Settings} {r : AgentRequest}
    {d : TaskDefinition} {task : Task} {t : Agent}
    (h : Creates now fresh server settings r d task t s s') :
    Gains t s s' := by
  constructor
  · exact ⟨d, h.agent_definitionArn.symm, h.status,
      h.family.trans h.agent_name.symm, h.newDefinition hsound,
      h.definitions_eq⟩
  · exact ⟨task, h.agent_taskArn.symm, h.task_desiredStatus,
      h.task_definitionArn.trans h.agent_definitionArn.symm, h.newTask hsound,
      h.tasks_eq⟩

end Service

/-- Creating an agent is all or nothing, and what is arranged against removals
shows in nothing but what is left of the definition that was registered. -/
theorem createAgent_all_or_nothing
    {site : Site} (hdirect : site.IsDirect)
    (hreachable : site.service.Reachable) (now : UInt64) (fresh : Identity)
    (server : String) (s : Settings) (r : AgentRequest) :
    ∃ result site',
      (createAgent fresh server s r).run.run now site = (result, site') ∧
      ((createAgent fresh server s r).run.run now site.allowRemovals).1 =
        result ∧
      (∀ t,
          result = .ok (some t) → Service.Gains t site.service site'.service) ∧
      ((∀ t, result ≠ .ok (some t)) →
        site'.service.tasks = site.service.tasks ∧
        (site.service.mishaps.deregister = none →
          site.service.mishaps.delete = none →
          site'.service.definitions = site.service.definitions) ∧
        (site'.service.definitions = site.service.definitions ∨
          ∃ spec,
            Specification.ofRequest fresh.agentName r s server = .ok spec ∧
            Service.GainsNothingBut
              (site.service.nextDefinition spec.registration) site.service
              site'.service)) := by
  have hsound := hreachable.sound
  obtain ⟨result, site', hrun, -, houtcome⟩ :=
    createAgent_run hdirect hsound now fresh server s r
  have hsame := createAgent_indifferent now fresh server s r site
  refine ⟨result, site', hrun, hsame.trans (congrArg Prod.fst hrun), ?_, ?_⟩
  · intro t ht
    rcases houtcome with ⟨d, task, t', ht', hcreates⟩ | ⟨hnone, -⟩ |
      ⟨e, spec, he, -, -⟩
    · obtain rfl : t' = t := by simpa [ht] using ht'.symm
      exact hcreates.gains hsound
    · exact absurd ht (hnone t)
    · rw [ht] at he
      cases he
  · intro hnone
    rcases houtcome with ⟨d, task, t', ht', -⟩ | ⟨-, hsame⟩ |
      ⟨e, spec, -, hspec, hundone⟩
    · exact absurd ht' (hnone t')
    · exact ⟨hsame.tasks, fun _ _ => hsame.definitions,
        Or.inl hsame.definitions⟩
    · refine ⟨hundone.tasks, hundone.clean,
        Or.inr ⟨spec, hspec, hundone.tasks, ?_, hundone.others, hundone.left⟩⟩
      exact hsound.getElem?_definitionArn spec.registration.family

/-- A site where the next deletion of a definition is refused. -/
def keepingSite : Site where
  gateway.service := Service.refuseNextDelete (.throttled "slow down") {}

/-- A site where moreover no launch succeeds. -/
def vainSite : Site where
  gateway.service := (Service.refuseNextDelete (.throttled "slow down")
    (Service.breakLaunches [⟨none, "AGENT"⟩] {}))

/-- At `vainSite` a creation fails and leaves its own definition behind, and
nothing else.  At `keepingSite` it succeeds, and adds a definition and a task.
-/
theorem createAgent_vainSite :
    (∃ result site',
        (createAgent ⟨"a", "b"⟩ "ci" smallSettings smallRequest).run.run 0
            vainSite =
          (result, site') ∧
        site'.service.tasks = ∅ ∧
        site'.service.definitions.keys = [Service.definitionArn "GoCDa" 1] ∧
        ((createAgent ⟨"a", "b"⟩ "ci" smallSettings smallRequest).run.run 0
              vainSite.allowRemovals).1 =
          result) ∧
    ∃ t site',
      (createAgent ⟨"a", "b"⟩ "ci" smallSettings hostedRequest).run.run 0
          keepingSite =
        (.ok (some t), site') ∧
      Service.Gains t keepingSite.service site'.service ∧
      site'.service.tasks.keys = [Service.taskArn "agents" 1] ∧
      site'.service.definitions.keys = [Service.definitionArn "GoCDa" 1] ∧
      ((createAgent ⟨"a", "b"⟩ "ci" smallSettings hostedRequest).run.run 0
            keepingSite.allowRemovals).1 =
        .ok (some t) := by
  constructor
  · have hreachable : vainSite.service.Reachable :=
      (Service.Reachable.empty.arrange
            (.breakLaunches [⟨none, "AGENT"⟩])).arrange
        (.refuseNextDelete (.throttled "slow down"))
    have hdirect : vainSite.IsDirect := rfl
    obtain ⟨result, site', hrun, hsame, -, hnone⟩ := createAgent_all_or_nothing
      hdirect hreachable 0 ⟨"a", "b"⟩ "ci" smallSettings smallRequest
    have hvain :
        ((createAgent ⟨"a", "b"⟩ "ci" smallSettings smallRequest).run.run 0
              vainSite).1.toOption.join =
          none := by
      decide +kernel
    have hleft :
        ((createAgent ⟨"a", "b"⟩ "ci" smallSettings smallRequest).run.run 0
              vainSite).2.service.definitions.keys =
          [Service.definitionArn "GoCDa" 1] := by
      decide +kernel
    rw [hrun] at hvain hleft
    refine ⟨result, site', hrun, (hnone ?_).1, hleft, hsame⟩
    rintro t rfl
    cases hvain
  · have hreachable : keepingSite.service.Reachable :=
      Service.Reachable.empty.arrange
        (.refuseNextDelete (.throttled "slow down"))
    have hdirect : keepingSite.IsDirect := rfl
    obtain ⟨result, site', hrun, hsame, hgains, -⟩ := createAgent_all_or_nothing
      hdirect hreachable 0 ⟨"a", "b"⟩ "ci" smallSettings hostedRequest
    have hnamed :
        ((createAgent ⟨"a", "b"⟩ "ci" smallSettings hostedRequest).run.run 0
            keepingSite).1.toOption.join.map Agent.name =
          some "GoCDa" := by
      decide +kernel
    have htasks :
        ((createAgent ⟨"a", "b"⟩ "ci" smallSettings hostedRequest).run.run 0
              keepingSite).2.service.tasks.keys =
          [Service.taskArn "agents" 1] := by
      decide +kernel
    have hdefinitions :
        ((createAgent ⟨"a", "b"⟩ "ci" smallSettings hostedRequest).run.run 0
              keepingSite).2.service.definitions.keys =
          [Service.definitionArn "GoCDa" 1] := by
      decide +kernel
    obtain ⟨t, site'', hrun', -⟩ := exists_created_of_part hnamed
    obtain ⟨rfl, rfl⟩ := Prod.mk.inj (hrun.symm.trans hrun')
    rw [hrun] at htasks hdefinitions
    exact ⟨t, site', hrun, hgains t rfl, htasks, hdefinitions, hsame⟩

end AgentFleet

import AgentFleet.Proofs.Admission

/-!
# The order of calls

The calls that a script makes in a run are what the run adds to the journal of
the service.  For a creation they are read off the script and its site: nothing,
or a search, or a search and a launch that goes well, or a search and a launch
that is undone, and which of these it is can be told from the result alone.
-/

namespace AgentFleet

open Script

variable {α β ε ε' : Type}

/-! ## The calls of a run -/

/-- The calls that a step makes. -/
def Act.calls : Act → List Call
  | .call c => [c]
  | .bringUp _ _ => []
  | .say _ => []

/-- The calls that a run of a script makes, in order. -/
def Script.calls (now : UInt64) : Script α → Site → List Call
  | .done _, _ => []
  | .act a next, site =>
    a.calls ++ (next (site.perform now a).1).calls now (site.perform now a).2

theorem Service.serve_journal
    (now : UInt64) (c : Call) (s : Service) :
    (s.serve now c).2.journal = s.journal ++ [c] := by
  suffices hkeeps :
      ∀ s₁ s₂,
        Service.Changes now s₁ s₂ →
        s₁.journal = s.journal ++ [c] →
        s₂.journal = s.journal ++ [c] from Service.serve_keeps hkeeps c rfl
  intro s₁ s₂ hchange h
  cases hchange with
  | @stop arn t ht hactive =>
    rcases Service.handBack_cases arn t
      { s₁ with tasks := s₁.tasks.insert arn (Service.stopped t) } with
      ⟨-, heq⟩ | ⟨a, i, -, -, heq⟩
    · rw [heq]
      exact h
    · rw [heq]
      exact h
  | _ => exact h

theorem Site.IsDirect.perform_journal
    {site : Site} (h : site.IsDirect) (now : UInt64) (a : Act) :
    (site.perform now a).2.service.journal =
      site.service.journal ++ a.calls := by
  cases a with
  | call c =>
    rw [h.perform_call now c]
    exact Service.serve_journal now c site.service
  | say line => exact (List.append_nil _).symm
  | bringUp s profile =>
    refine Eq.trans ?_ (List.append_nil _).symm
    exact Site.bringUp_keeps (P := fun s' => s'.journal = site.service.journal)
      (fun _ _ _ hs => hs) rfl s profile site.supply

/-- A run writes the calls that it makes into the journal, and nothing else. -/
theorem Site.IsDirect.run_journal
    {site : Site} (h : site.IsDirect) (now : UInt64) (x : Script α) :
    (x.run now site).2.service.journal =
      site.service.journal ++ x.calls now site := by
  induction x generalizing site with
  | done a => exact (List.append_nil _).symm
  | act a next ih =>
    refine (ih _ (h.perform now a)).trans ?_
    rw [h.perform_journal now a, List.append_assoc]
    rfl

namespace Script

theorem calls_bind
    (now : UInt64) (x : Script α) (f : α → Script β) (site : Site) :
    (x >>= f).calls now site =
      x.calls now site ++
        (f (x.run now site).1).calls now (x.run now site).2 := by
  induction x generalizing site with
  | done a => rfl
  | act a next ih =>
    rw [calls, List.append_assoc]
    exact congrArg (a.calls ++ ·) (ih _ _)

theorem calls_map
    (now : UInt64) (f : α → β) (x : Script α) (site : Site) :
    (f <$> x).calls now site = x.calls now site :=
  (calls_bind now x _ site).trans (List.append_nil _)

theorem calls_discard
    (now : UInt64) (x : Script α) (site : Site) :
    (discard x).calls now site = x.calls now site :=
  (calls_bind now x _ site).trans (List.append_nil _)

theorem calls_adapt
    (now : UInt64) (f : ε → ε') (x : ExceptT ε Script α) (site : Site) :
    (x.adapt f).run.calls now site = x.run.calls now site :=
  calls_map now _ x.run site

theorem calls_lift
    (now : UInt64) (x : Script α) (site : Site) :
    (liftM x : ExceptT ε Script α).run.calls now site = x.calls now site :=
  calls_map now _ x site

/-- What goes on after a result makes its calls after those that led to the
result. -/
theorem calls_bind_of_ok
    {now : UInt64} {x : ExceptT ε Script α} {site site' : Site} {a : α}
    (hx : x.run.run now site = (.ok a, site')) (f : α → ExceptT ε Script β) :
    (x >>= f).run.calls now site =
      x.run.calls now site ++ (f a).run.calls now site' := by
  refine (calls_bind now x.run _ site).trans ?_
  rw [hx]
  rfl

/-- No call is made after an error. -/
theorem calls_bind_of_error
    {now : UInt64} {x : ExceptT ε Script α} {site site' : Site} {e : ε}
    (hx : x.run.run now site = (.error e, site')) (f : α → ExceptT ε Script β) :
    (x >>= f).run.calls now site = x.run.calls now site := by
  refine (calls_bind now x.run _ site).trans ?_
  rw [hx]
  exact List.append_nil _

/-- Making something of a result takes no calls. -/
theorem calls_bind_pure
    (now : UInt64) (x : ExceptT ε Script α) (f : α → β) (site : Site) :
    (x >>= fun a => pure (f a)).run.calls now site = x.run.calls now site := by
  refine (calls_bind now x.run _ site).trans ?_
  cases (x.run.run now site).1 with
  | ok a => exact List.append_nil _
  | error e => exact List.append_nil _

theorem calls_tryCatch_of_ok
    {now : UInt64} {x : ExceptT ε Script α} {site site' : Site} {a : α}
    (hx : x.run.run now site = (.ok a, site')) (f : ε → ExceptT ε Script α) :
    (tryCatch x f).run.calls now site = x.run.calls now site := by
  refine (calls_bind now x.run _ site).trans ?_
  rw [hx]
  exact List.append_nil _

theorem calls_tryCatch_of_error
    {now : UInt64} {x : ExceptT ε Script α} {site site' : Site} {e : ε}
    (hx : x.run.run now site = (.error e, site')) (f : ε → ExceptT ε Script α) :
    (tryCatch x f).run.calls now site =
      x.run.calls now site ++ (f e).run.calls now site' := by
  refine (calls_bind now x.run _ site).trans ?_
  rw [hx]
  rfl

/-- Telling the console is not a call. -/
theorem calls_say_bind
    (now : UInt64) (line : String) (f : Unit → ExceptT ε Script β)
    (site : Site) :
    ((liftM (say line) : ExceptT ε Script Unit) >>= f).run.calls now site =
      (f ()).run.calls now (site.told line) :=
  calls_bind_of_ok (run_lift_say now line site) f

theorem calls_call
    (now : UInt64) (c : Call) (site : Site) :
    (call c).run.calls now site = [c] :=
  rfl

end Script

/-! ## The calls of a search -/

/-- The instances of a cluster are listed, and described if there are any. -/
def Service.lookupCalls (s : Service) (cluster : String) : List Call :=
  .listInstances cluster ::
    if s.instances.keys.isEmpty then []
    else [.describeInstances cluster s.instances.keys]

/-- Bringing up an instance gives this one. -/
def Site.BringsUp
    (site : Site) (s : Settings) (p : Profile) (i : ContainerInstance) : Prop :=
  (site.supply.bringUp s p site.service).1 = .ok i

/-- An instance that came up is described. -/
def Site.bringUpCalls (site : Site) (s : Settings) (p : Profile) : List Call :=
  match (site.supply.bringUp s p site.service).1 with
  | .ok i => [.describeInstances s.clusterName [i.arn]]
  | .error _ => []

/-- An instance is looked up, and if there is none that will do, one is brought
up unless the request may use spot capacity. -/
def Site.searchCalls
    (site : Site) (s : Settings) (p : Profile) (c : ContainerDefinition) :
    List Call :=
  site.service.lookupCalls s.clusterName ++
    if site.finds s p c = none ∧ p.spot = false then site.bringUpCalls s p
    else []

/-- The host is the instance that was found, or else the one that was brought
up. -/
def Site.Offers
    (site : Site) (s : Settings) (p : Profile) (c : ContainerDefinition)
    (host : Host) : Prop :=
  site.finds s p c = some host ∨
    (site.finds s p c = none ∧ p.spot = false ∧
      ∃ i, site.BringsUp s p i ∧ host.instanceArn = i.arn)

variable {site : Site} {s : Settings} {p : Profile} {c : ContainerDefinition}

theorem instancesOf_calls
    (h : site.IsDirect) (now : UInt64) (cluster : String) :
    (instancesOf cluster).run.calls now site =
      site.service.lookupCalls cluster := by
  have hlist := run_call h now (.listInstances cluster)
  rw [instancesOf, calls_bind_of_ok hlist, calls_call, Service.lookupCalls]
  split
  · rfl
  · rfl

theorem findHost_calls
    (h : site.IsDirect) (hkeyed : site.service.Keyed) (now : UInt64) :
    (findHost s p c).run.calls now site =
      site.service.lookupCalls s.clusterName := by
  obtain ⟨site', hrun, -⟩ :=
    instancesOf_run h hkeyed.instances now s.clusterName
  rw [findHost, calls_bind_of_ok (run_adapt_eq_ok_iff.mpr hrun), calls_adapt,
    instancesOf_calls h]
  exact List.append_nil _

/-- What is brought up depends on the supply alone. -/
theorem Supply.bringUp_answer
    (supply : Supply) (s : Settings) (p : Profile)
    (service service' : Service) :
    (supply.bringUp s p service).1 = (supply.bringUp s p service').1 := by
  cases supply with
  | promise i => rfl
  | outage e => rfl
  | pool pool =>
    rw [Supply.bringUp, Supply.bringUp]
    split <;> rfl

theorem bringUpHost_calls
    (h : site.IsDirect) (now : UInt64) :
    (bringUpHost s p).run.calls now site = site.bringUpCalls s p := by
  rcases hbring : (bringUp s p).run.run now site with ⟨answer, site₁⟩
  have hanswer : (site.supply.bringUp s p site.service).1 = answer :=
    congrArg Prod.fst hbring
  have h₁ : site₁.IsDirect := by
    have hdirect := h.run now (bringUp s p).run
    rwa [hbring] at hdirect
  rw [Site.bringUpCalls, hanswer]
  cases answer with
  | error e => exact calls_bind_of_error hbring _
  | ok made =>
    obtain ⟨site₂, hdescribe, -⟩ :=
      run_describeInstances h₁ now s.clusterName [made.arn]
    refine (calls_bind_of_ok hbring _).trans ?_
    refine (calls_bind_of_ok (run_adapt_eq_ok_iff.mpr hdescribe) _).trans ?_
    split
    · rfl
    · rfl

/-- A host that was brought up is the instance that came up. -/
theorem bringsUp_of_bringUpHost
    {now : UInt64} {host : Host} {site' : Site} (h : site.IsDirect)
    (hrun : (bringUpHost s p).run.run now site = (.ok host, site')) :
    ∃ i, site.BringsUp s p i ∧ host.instanceArn = i.arn := by
  obtain ⟨made, site₁, hmade, hrun⟩ := exists_of_run_bind hrun
  have h₁ : site₁.IsDirect := by
    have hdirect := h.run now (bringUp s p).run
    rwa [hmade] at hdirect
  obtain ⟨site₂, hdescribe, -⟩ :=
    run_describeInstances h₁ now s.clusterName [made.arn]
  rw [run_bind_of_ok (run_adapt_eq_ok_iff.mpr hdescribe)] at hrun
  refine ⟨made, congrArg Prod.fst hmade, ?_⟩
  split at hrun
  · rename_i i hfound
    obtain ⟨rfl, -⟩ := run_pure_eq_ok_iff.mp hrun
    simpa [Host.ofInstance] using List.find?_some hfound
  · cases hrun

/-- The answer to a search for a host. -/
inductive SearchEnds
    (s : Settings) (p : Profile) (c : ContainerDefinition) (site : Site) :
    Except Agent.Error (Option Host) → Prop where
  | host {host : Host} (hoffers : site.Offers s p c host) :
      SearchEnds s p c site (.ok (some host))
  | spot (hfinds : site.finds s p c = none) (hspot : p.spot = true) :
      SearchEnds s p c site (.ok none)
  | failed (e : Host.Error) (hfinds : site.finds s p c = none)
      (hspot : p.spot = false) : SearchEnds s p c site (.error (.host e))

/-- The answer to a search, and the calls that lead to it. -/
theorem findOrBringUpHost_calls
    (h : site.IsDirect) (hkeyed : site.service.Keyed) (now : UInt64) :
    ∃ answer site',
      (findOrBringUpHost s p c).run.run now site = (answer, site') ∧
      (findOrBringUpHost s p c).run.calls now site = site.searchCalls s p c ∧
      SearchEnds s p c site answer := by
  obtain ⟨site₁, hfind, cs, rfl⟩ :=
    findHost_run_eq (s := s) (p := p) (c := c) h hkeyed now
  have hfind' := run_adapt_eq_ok_iff (f := Agent.Error.host) |>.mpr hfind
  rw [findOrBringUpHost, run_bind_of_ok hfind', calls_bind_of_ok hfind',
    calls_adapt, findHost_calls h hkeyed, Site.searchCalls]
  cases hfinds : site.finds s p c with
  | some host =>
    refine ⟨_, _, run_bind_of_ok (run_lift_say now _ _) _, ?_,
      .host (Or.inl hfinds)⟩
    exact congrArg (site.service.lookupCalls s.clusterName ++ ·)
      (calls_say_bind now _ _ _)
  | none =>
    dsimp only
    rw [run_bind_of_ok (run_lift_say now _ _), calls_say_bind]
    by_cases hspot : p.spot = true
    · rw [if_pos hspot, if_neg fun hboth => by simp [hspot] at hboth]
      exact ⟨_, _, run_bind_of_ok (run_lift_say now _ _) _, rfl,
        .spot hfinds hspot⟩
    · have hspot' : p.spot = false := Bool.eq_false_iff.mpr hspot
      rw [if_neg hspot, if_pos ⟨rfl, hspot'⟩]
      generalize hsite₂ : Site.told (site.withService _) _ = site₂
      have h₂ : site₂.IsDirect := hsite₂ ▸ h
      have hanswer : (site₂.supply.bringUp s p site₂.service).1 =
          (site.supply.bringUp s p site.service).1 := by
        rw [← hsite₂]
        exact Supply.bringUp_answer site.supply s p _ _
      have hcalls : site₂.bringUpCalls s p = site.bringUpCalls s p := by
        rw [Site.bringUpCalls, Site.bringUpCalls, hanswer]
      rcases hbring : (bringUpHost s p).run.run now site₂ with ⟨answer, site₃⟩
      cases answer with
      | ok host =>
        have hbring' :=
          run_adapt_eq_ok_iff (f := Agent.Error.host) |>.mpr hbring
        obtain ⟨i, hi, hhost⟩ := bringsUp_of_bringUpHost h₂ hbring
        refine ⟨_, _, run_bind_of_ok hbring' _, ?_,
          .host (Or.inr ⟨hfinds, hspot', i, ?_, hhost⟩)⟩
        · rw [calls_bind_of_ok hbring', calls_adapt, bringUpHost_calls h₂,
            hcalls]
          exact congrArg _ (List.append_nil _)
        · exact hanswer.symm.trans hi
      | error e =>
        have hbring' :
            ((bringUpHost s p).adapt Agent.Error.host).run.run now site₂ =
              (.error (.host e), site₃) := by
          rw [run_adapt, hbring]
          rfl
        refine ⟨_, _, run_bind_of_error hbring' _, ?_, .failed e hfinds hspot'⟩
        rw [calls_bind_of_error hbring', calls_adapt, bringUpHost_calls h₂,
          hcalls]

/-! ## The calls of a launch -/

/-- The service turns a call that runs a task down as invalid. -/
def Service.TurnsDown (service : Service) (now : UInt64) (r : RunTask) : Prop :=
  ∃ e : Refusal,
    (service.serve now (.runTask r)).1 = .error e ∧ e.isInvalidParameter = true

/-- A task is started on its host, or run once, and if that is turned down as
invalid, run once more by its kind of capacity. -/
inductive LaunchCalls
    (now : UInt64) (s : Settings) (definitionArn : String) (service : Service) :
    Placement → List Call → Prop where
  | onHost (host : Host) :
      LaunchCalls now s definitionArn service (.onHost host)
        [.startTask (startCall s definitionArn host)]
  | once {network : NetworkConfiguration} {share : ProviderShare}
      (hfirst : ¬service.TurnsDown now
          (runCall s definitionArn network share)) :
      LaunchCalls now s definitionArn service (.serverless network share)
        [.runTask (runCall s definitionArn network share)]
  | twice {network : NetworkConfiguration} {share : ProviderShare}
      (hfirst : service.TurnsDown now (runCall s definitionArn network share)) :
      LaunchCalls now s definitionArn service (.serverless network share)
        [.runTask (runCall s definitionArn network share),
          .runTask (runCall s definitionArn network share).byLaunchType]

theorem launchAt_calls
    (h : site.IsDirect) (now : UInt64) (s : Settings) (definitionArn : String)
    (placement : Placement) :
    LaunchCalls now s definitionArn site.service placement
      ((launchAt s definitionArn placement).run.calls now site) := by
  cases placement with
  | onHost host =>
    rw [launchAt, calls_say_bind]
    exact .onHost host
  | serverless network share =>
    rw [launchAt, calls_say_bind]
    generalize hsite₁ : site.told _ = site₁
    have h₁ : site₁.IsDirect := hsite₁ ▸ h
    have hfirst :=
      run_call h₁ now (.runTask (runCall s definitionArn network share))
    have hservice₁ : site₁.service = site.service := by
      rw [← hsite₁]
      rfl
    rw [hservice₁] at hfirst
    cases hanswer :
        (site.service.serve now
              (.runTask (runCall s definitionArn network share))).1 with
    | ok o =>
      rw [hanswer] at hfirst
      rw [calls_tryCatch_of_ok hfirst, calls_call]
      refine .once ?_
      rintro ⟨e, he, -⟩
      cases hanswer.symm.trans he
    | error e =>
      rw [hanswer] at hfirst
      rw [calls_tryCatch_of_error hfirst, calls_call]
      by_cases hinvalid : e.isInvalidParameter = true
      · rw [if_pos hinvalid, calls_call]
        exact .twice ⟨e, hanswer, hinvalid⟩
      · rw [if_neg hinvalid]
        refine .once ?_
        rintro ⟨e', he', hinvalid'⟩
        cases hanswer.symm.trans he'
        exact hinvalid hinvalid'

theorem removeDefinition_calls
    (now : UInt64) (arn : String) (site : Site) :
    (removeDefinition arn).calls now site =
      [.deregister arn, .delete [arn]] := by
  rw [removeDefinition, calls_bind, calls_discard, calls_discard]
  rfl

/-- The launch that a registered definition was meant for failed. -/
def Agent.Error.IsLaunch (task : String) (e : Agent.Error) : Prop :=
  (∃ refusal, e = .service refusal) ∨ ∃ failures, e = .launch task failures

/-- What comes of the launch of a definition, and its calls: the definition is
removed again if no task was started. -/
inductive LaunchEnds (task definitionArn : String) (launched : List Call) :
    Except Agent.Error Agent → List Call → Prop where
  | started {t : Agent} (harn : t.definitionArn = definitionArn) :
      LaunchEnds task definitionArn launched (.ok t) launched
  | undone {e : Agent.Error} (he : e.IsLaunch task) :
      LaunchEnds task definitionArn launched (.error e)
        (launched ++ [.deregister definitionArn, .delete [definitionArn]])

theorem removeDefinition_throw
    (h : site.IsDirect) (now : UInt64) {task : String} {e : Agent.Error}
    (he : e.IsLaunch task) (definitionArn : String) (launched : List Call) :
    ∃ result site',
      ((removeDefinition definitionArn : Attempt Unit) >>=
          fun _ => (throw e : Attempt Agent)).run.run now site =
        (result, site') ∧
      LaunchEnds task definitionArn launched result
        (launched ++
            ((removeDefinition definitionArn : Attempt Unit) >>=
                  fun _ => (throw e : Attempt Agent)).run.calls now site) := by
  have hremove :=
    run_lift (ε := Agent.Error) (removeDefinition_run h now definitionArn)
  refine ⟨_, _, run_bind_of_ok hremove _, ?_⟩
  rw [calls_bind_of_ok hremove, calls_lift, removeDefinition_calls]
  exact .undone he

/-- Only an answer with a task and without failures is a start; whatever else
comes of a launch ends in an error. -/
theorem startRegistered_calls
    (h : site.IsDirect) (now : UInt64) (fresh : Identity) (server : String)
    (s : Settings) (r : AgentRequest) (spec : Specification)
    (placement : Placement) (d : TaskDefinition) :
    ∃ result site',
      (startRegistered fresh server s r spec placement d).run.run now site =
        (result, site') ∧
      LaunchEnds spec.name d.arn
        ((launchAt s d.arn placement).run.calls now site) result
        ((startRegistered fresh server s r spec placement d).run.calls now
            site) := by
  rcases hlaunch :
      (launchAt s d.arn placement).run.run now site with ⟨answer, site₁⟩
  have h₁ : site₁.IsDirect := by
    have hdirect := h.run now (launchAt s d.arn placement).run
    rwa [hlaunch] at hdirect
  have hanswer := run_lift (ε := Agent.Error) hlaunch
  rw [startRegistered, run_bind_of_ok hanswer, calls_bind_of_ok hanswer,
    calls_lift]
  rcases answer with e | ⟨_ | ⟨t, rest⟩, _ | ⟨f, fs⟩⟩
  · exact removeDefinition_throw h₁ now (Or.inl ⟨e, rfl⟩) d.arn _
  · exact removeDefinition_throw h₁ now (Or.inr ⟨_, rfl⟩) d.arn _
  · exact removeDefinition_throw h₁ now (Or.inr ⟨_, rfl⟩) d.arn _
  · refine ⟨_, _, run_bind_of_ok (run_lift_say now _ _) _, ?_⟩
    dsimp only
    rw [calls_say_bind]
    change LaunchEnds _ _ _ _ (_ ++ [])
    rw [List.append_nil]
    exact .started rfl
  · exact removeDefinition_throw h₁ now (Or.inr ⟨_, rfl⟩) d.arn _

/-- A launch registers its definition first. -/
theorem launch_calls
    (h : site.IsDirect) (now : UInt64) (fresh : Identity) (server : String)
    (s : Settings) (r : AgentRequest) (spec : Specification)
    (placement : Placement) :
    ∃ result site' launched calls,
      (launch fresh server s r spec placement).run.run now site =
        (result, site') ∧
      (launch fresh server s r spec placement).run.calls now site =
        .register spec.registration :: calls ∧
      LaunchCalls now s (site.service.nextDefinition spec.registration).arn
        (site.service.serve now (.register spec.registration)).2 placement
        launched ∧
      LaunchEnds spec.name (site.service.nextDefinition spec.registration).arn
        launched result calls := by
  have hregister :=
    registerSpecification_run
      (h.told "Registering task definition with cluster...") now spec
  have h₁ :=
    ((h.withService
        (site.service.serve now (.register spec.registration)).2).told
      "Registering task definition with cluster...").told
      "Done registering task definition with cluster."
  obtain ⟨result, site', hrun, hends⟩ :=
    startRegistered_calls h₁ now fresh server s r spec placement
      (site.service.nextDefinition spec.registration)
  refine ⟨result, site', _, _, ?_, ?_, launchAt_calls h₁ now s _ placement,
    hends⟩
  · rw [launch, run_bind_of_ok (run_lift_say now _ _), run_bind_of_ok hregister,
      run_bind_of_ok (run_lift_say now _ _)]
    exact hrun
  · rw [launch, calls_say_bind, calls_bind_of_ok hregister, calls_say_bind,
      registerSpecification, calls_adapt, calls_call]
    rfl

/-! ## The calls of a creation -/

/-- The calls that find a place for a task: none for a serverless one. -/
def Site.placingCalls
    (site : Site) (s : Settings) (p : Profile) (c : ContainerDefinition) :
    List Call :=
  if p.isServerless then [] else site.searchCalls s p c

/-- A task is placed on the host that is offered, or runs on a share of the one
provider that its profile asks for. -/
def Site.Places
    (site : Site) (s : Settings) (p : Profile) (c : ContainerDefinition) :
    Placement → Prop
  | .onHost host => p.isServerless = false ∧ site.Offers s p c host
  | .serverless _ share =>
    p.isServerless = true ∧ share = ⟨Placement.provider p, 1, 0⟩

/-- What comes of a creation, and its calls. -/
inductive CreationEnds
    (now : UInt64) (fresh : Identity) (server : String) (s : Settings)
    (r : AgentRequest) (site : Site) :
    Except Agent.Error (Option Agent) → List Call → Prop where
  /-- No specification comes of the request. -/
  | unspecified {e : Specification.Error}
      (hspec : Specification.ofRequest fresh.agentName r s server = .error e) :
      CreationEnds now fresh server s r site (.error (.specification e)) []
  /-- A serverless task has no subnet. -/
  | unconnected {e : Specification.Error}
      (hserverless : r.profile.isServerless = true)
      (hplacement : Placement.forServerless fresh.agentName s r.profile =
          .error e) :
      CreationEnds now fresh server s r site (.error (.specification e)) []
  /-- The request is handed over to spot capacity. -/
  | handedOver {spec : Specification}
      (hspec : Specification.ofRequest fresh.agentName r s server = .ok spec)
      (hinstances : r.profile.isServerless = false)
      (hfinds : site.finds s r.profile spec.container = none)
      (hspot : r.profile.spot = true) :
      CreationEnds now fresh server s r site (.ok none)
        (site.placingCalls s r.profile spec.container)
  /-- No instance was found or brought up. -/
  | hostless {spec : Specification} (e : Host.Error)
      (hspec : Specification.ofRequest fresh.agentName r s server = .ok spec)
      (hinstances : r.profile.isServerless = false)
      (hfinds : site.finds s r.profile spec.container = none)
      (hspot : r.profile.spot = false) :
      CreationEnds now fresh server s r site (.error (.host e))
        (site.placingCalls s r.profile spec.container)
  /-- A task was started. -/
  | started {spec : Specification} {placement : Placement}
      {launched : List Call} {t : Agent}
      (hspec : Specification.ofRequest fresh.agentName r s server = .ok spec)
      (hfamily : spec.registration.family = fresh.agentName)
      (hplaces : site.Places s r.profile spec.container placement)
      (hlaunched : LaunchCalls now s
          (site.service.nextDefinition spec.registration).arn
          (site.service.serve now (.register spec.registration)).2 placement
          launched)
      (harn : t.definitionArn =
          (site.service.nextDefinition spec.registration).arn) :
      CreationEnds now fresh server s r site (.ok (some t))
        (site.placingCalls s r.profile spec.container ++
            .register spec.registration :: launched)
  /-- No task was started, and the definition is removed again. -/
  | undone {spec : Specification} {placement : Placement} {launched : List Call}
      {e : Agent.Error}
      (hspec : Specification.ofRequest fresh.agentName r s server = .ok spec)
      (hfamily : spec.registration.family = fresh.agentName)
      (hplaces : site.Places s r.profile spec.container placement)
      (hlaunched : LaunchCalls now s
          (site.service.nextDefinition spec.registration).arn
          (site.service.serve now (.register spec.registration)).2 placement
          launched) (he : e.IsLaunch fresh.agentName) :
      CreationEnds now fresh server s r site (.error e)
        (site.placingCalls s r.profile spec.container ++
            .register spec.registration ::
            (launched ++
                [.deregister
                    (site.service.nextDefinition spec.registration).arn,
                  .delete
                    [(site.service.nextDefinition spec.registration).arn]]))

theorem createAgent_serverless_eq
    {r : AgentRequest} (hserverless : r.profile.isServerless = true)
    {fresh : Identity} {server : String} {spec : Specification}
    (hspec : Specification.ofRequest fresh.agentName r s server = .ok spec) :
    createAgent fresh server s r = (do
      Script.say
        "This is a serverless task request. Not creating a container instance."
      let placement ←
        (Placement.forServerless fresh.agentName s r.profile).mapError
          Agent.Error.specification
      return some (← launch fresh server s r spec placement)) := by
  rw [createAgent, hspec]
  exact (pure_bind spec _).trans (if_pos hserverless)

/-- A launch at a place that was found ends the creation. -/
theorem creationEnds_of_launch
    {site₁ : Site} (hsame : site.service.SameRecords site₁.service)
    (h₁ : site₁.IsDirect) (now : UInt64) {fresh : Identity} {server : String}
    {r : AgentRequest} {spec : Specification} (placement : Placement)
    (hspec : Specification.ofRequest fresh.agentName r s server = .ok spec)
    (hplaces : site.Places s r.profile spec.container placement)
    (hservice : r.profile.isServerless = true → site₁.service = site.service) :
    ∃ result site',
      ((launch fresh server s r spec placement) >>=
          fun t => (pure (some t) : Attempt (Option Agent))).run.run now
          site₁ =
        (result, site') ∧
      CreationEnds now fresh server s r site result
        (site.placingCalls s r.profile spec.container ++
            ((launch fresh server s r spec placement) >>=
                  fun t => (pure (some t) : Attempt (Option Agent))).run.calls
              now site₁) := by
  obtain ⟨result, site₂, launched, calls, hrun, hcalls, hlaunched, hends⟩ :=
    launch_calls h₁ now fresh server s r spec placement
  rw [hsame.nextDefinition] at hlaunched hends
  have hname := Specification.name_of_ofRequest hspec
  have hlaunched' :
      LaunchCalls now s (site.service.nextDefinition spec.registration).arn
        (site.service.serve now (.register spec.registration)).2 placement
        launched := by
    cases placement with
    | onHost host =>
      cases hlaunched
      exact .onHost host
    | serverless network share => rwa [hservice hplaces.1] at hlaunched
  cases hends with
  | started harn =>
    refine ⟨_, _, run_bind_of_ok hrun _, ?_⟩
    rw [calls_bind_of_ok hrun, hcalls]
    change CreationEnds _ _ _ _ _ _ _ (_ ++ (_ ++ []))
    rw [List.append_nil]
    exact .started hspec hname hplaces hlaunched' harn
  | undone he =>
    refine ⟨_, _, run_bind_of_error hrun _, ?_⟩
    rw [calls_bind_of_error hrun, hcalls]
    exact .undone hspec hname hplaces hlaunched' (hname ▸ he)

theorem Placement.share_of_forServerless
    {task : String} {s : Settings} {p : Profile}
    {network : NetworkConfiguration} {share : ProviderShare}
    (h : Placement.forServerless task s p = .ok (.serverless network share)) :
    share = ⟨Placement.provider p, 1, 0⟩ := by
  rw [Placement.forServerless] at h
  split at h
  · cases h
  · exact (Placement.serverless.inj (Except.ok.inj h)).2.symm

theorem createAgent_serverless_calls
    (h : site.IsDirect) (now : UInt64) {fresh : Identity} {server : String}
    {r : AgentRequest} {spec : Specification}
    (hspec : Specification.ofRequest fresh.agentName r s server = .ok spec)
    (hserverless : r.profile.isServerless = true) :
    ∃ result site',
      (createAgent fresh server s r).run.run now site = (result, site') ∧
      CreationEnds now fresh server s r site result
        ((createAgent fresh server s r).run.calls now site) := by
  rw [createAgent_serverless_eq hserverless hspec,
    run_bind_of_ok (run_lift_say now _ _), calls_say_bind]
  cases hplacement : Placement.forServerless fresh.agentName s r.profile with
  | error e => exact ⟨_, _, rfl, .unconnected hserverless hplacement⟩
  | ok placement =>
    obtain ⟨network, share, rfl⟩ :=
      Placement.eq_serverless_of_forServerless hplacement
    have hshare := Placement.share_of_forServerless hplacement
    have htold : ∀ line, site.service.SameRecords (site.told line).service :=
      fun _ => .refl _
    obtain ⟨result, site', hrun, hends⟩ :=
      creationEnds_of_launch (htold _) (h.told _) now
        (.serverless network share) hspec ⟨hserverless, hshare⟩ fun _ => rfl
    rw [Site.placingCalls, if_pos hserverless] at hends
    exact ⟨result, site', hrun, hends⟩

theorem createAgent_onInstances_calls
    (h : site.IsDirect) (hkeyed : site.service.Keyed) (now : UInt64)
    {fresh : Identity} {server : String} {r : AgentRequest}
    {spec : Specification}
    (hspec : Specification.ofRequest fresh.agentName r s server = .ok spec)
    (hinstances : r.profile.isServerless = false) :
    ∃ result site',
      (createAgent fresh server s r).run.run now site = (result, site') ∧
      CreationEnds now fresh server s r site result
        ((createAgent fresh server s r).run.calls now site) := by
  obtain ⟨answer, site₁, hsearch, hcalls, hends⟩ :=
    findOrBringUpHost_calls (s := s) (p := r.profile) (c := spec.container) h
      hkeyed now
  have h₁ := h.run now (findOrBringUpHost s r.profile spec.container).run
  have hsame :=
    sameRecords_of_search (findOrBringUpHost_only s r.profile spec.container) h
      now
  rw [hsearch] at h₁ hsame
  have hplacing : site.placingCalls s r.profile spec.container =
      site.searchCalls s r.profile spec.container :=
    if_neg (Bool.eq_false_iff.mp hinstances)
  rw [createAgent_onInstances_eq hinstances hspec]
  cases hends with
  | host hoffers =>
    rw [run_bind_of_ok hsearch, calls_bind_of_ok hsearch, hcalls, ← hplacing]
    exact creationEnds_of_launch hsame h₁ now (.onHost _) hspec
      ⟨hinstances, hoffers⟩ fun hserverless =>
      absurd hserverless (Bool.eq_false_iff.mp hinstances)
  | spot hfinds hspot =>
    refine ⟨_, _, run_bind_of_ok hsearch _, ?_⟩
    rw [calls_bind_of_ok hsearch, hcalls, ← hplacing]
    change CreationEnds _ _ _ _ _ _ _ (_ ++ [])
    rw [List.append_nil]
    exact .handedOver hspec hinstances hfinds hspot
  | failed e hfinds hspot =>
    refine ⟨_, _, run_bind_of_error hsearch _, ?_⟩
    rw [calls_bind_of_error hsearch, hcalls, ← hplacing]
    exact .hostless e hspec hinstances hfinds hspot

/-- The calls of a creation follow one order, which goes with the result.  None
is made if the request cannot be specified or connected.  Otherwise a place is
searched for, unless the task is serverless, and the search is all there is if
no host comes of it.  Else the definition of the agent is registered and
launched, and it is removed again if no task was started. -/
theorem createAgent_call_order
    (hdirect : site.IsDirect) (hpossible : site.service.Possible) (now : UInt64)
    (fresh : Identity) (server : String) (s : Settings) (r : AgentRequest) :
    ∃ result site' calls,
      (createAgent fresh server s r).run.run now site = (result, site') ∧
      site'.service.journal = site.service.journal ++ calls ∧
      CreationEnds now fresh server s r site result calls := by
  have hjournal := hdirect.run_journal now (createAgent fresh server s r).run
  suffices hends : ∃ result site',
      (createAgent fresh server s r).run.run now site = (result, site') ∧
      CreationEnds now fresh server s r site result
        ((createAgent fresh server s r).run.calls now site) by
    obtain ⟨result, site', hrun, hends⟩ := hends
    rw [hrun] at hjournal
    exact ⟨result, site', _, hrun, hjournal, hends⟩
  cases hspec : Specification.ofRequest fresh.agentName r s server with
  | error e =>
    rw [createAgent, hspec]
    exact ⟨_, _, rfl, .unspecified hspec⟩
  | ok spec =>
    by_cases hserverless : r.profile.isServerless = true
    · exact createAgent_serverless_calls hdirect now hspec hserverless
    · exact createAgent_onInstances_calls hdirect hpossible.keyed now hspec
        (Bool.eq_false_iff.mpr hserverless)

/-- A site without capacity providers where no launch succeeds. -/
def unprovidedSite : Site where
  gateway.service :=
    Service.breakLaunches [⟨none, "AGENT"⟩] (Service.withoutProviders {})

/-- At `unprovidedSite` a serverless task is asked for twice before its
definition is removed. -/
theorem createAgent_unprovidedSite :
    ∃ result site' calls,
      (createAgent ⟨"a", "b"⟩ "ci" smallSettings smallRequest).run.run 0
          unprovidedSite =
        (result, site') ∧
      site'.service.journal = unprovidedSite.service.journal ++ calls ∧
      CreationEnds 0 ⟨"a", "b"⟩ "ci" smallSettings smallRequest unprovidedSite
        result calls ∧
      calls.map Call.method =
        [.register, .runTask, .runTask, .deregister, .delete] := by
  have hpossible : unprovidedSite.service.Possible :=
    (Service.Possible.empty.arrange .withoutProviders).arrange
      (.breakLaunches [⟨none, "AGENT"⟩])
  have hdirect : unprovidedSite.IsDirect := rfl
  obtain ⟨result, site', calls, hrun, hjournal, hends⟩ :=
    createAgent_call_order hdirect hpossible 0 ⟨"a", "b"⟩ "ci" smallSettings
      smallRequest
  have hmethods :
      ((createAgent ⟨"a", "b"⟩ "ci" smallSettings smallRequest).run.run 0
          unprovidedSite).2.service.journal.map Call.method =
        [.register, .runTask, .runTask, .deregister, .delete] := by
    decide +kernel
  have hempty : unprovidedSite.service.journal = [] := rfl
  rw [hrun, hjournal, hempty] at hmethods
  exact ⟨result, site', calls, hrun, hjournal, hends, hmethods⟩

end AgentFleet

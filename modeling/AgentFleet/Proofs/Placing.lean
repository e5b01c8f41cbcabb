import AgentFleet.Agent.Creation
import AgentFleet.Proofs.ScriptRuns

/-!
# Placing agents

A creation starts with a specification and a place for it.  The search for a
place only looks at instances or adds one, so whatever else the service keeps
stays as it is, and the instance that comes of the search is one that the
service knows.
-/

namespace AgentFleet

/-! ## The first half of a creation -/

/-- The specification of a request and a place for it, unless the request is
handed over. -/
def choosePlacement
    (fresh : Identity) (server : String) (s : Settings) (r : AgentRequest) :
    Attempt (Option (Specification × Placement)) := do
  let name := fresh.agentName
  let spec ←
    (Specification.ofRequest name r s server).mapError Agent.Error.specification
  if r.profile.isServerless then
    Script.say
      "This is a serverless task request. Not creating a container instance."
    let placement ←
      (Placement.forServerless name s r.profile).mapError
        Agent.Error.specification
    return some (spec, placement)
  else
    match ← findOrBringUpHost s r.profile spec.container with
    | none => return none
    | some host => return some (spec, .onHost host)

/-- A creation places a specification and launches it there. -/
theorem createAgent_eq
    (fresh : Identity) (server : String) (s : Settings) (r : AgentRequest) :
    createAgent fresh server s r = (do
      match ← choosePlacement fresh server s r with
      | none => return none
      | some (spec, placement) =>
        return some (← launch fresh server s r spec placement)) := by
  rw [createAgent, choosePlacement]
  simp only [bind_assoc]
  congr 1
  funext spec
  split
  · simp only [bind_assoc, pure_bind]
  · simp only [bind_assoc]
    congr 1
    funext host
    cases host with
    | none => simp only [pure_bind]
    | some host => simp only [pure_bind]

/-! ## The steps of the search -/

/-- The step looks at instances, brings one up or tells the console. -/
def Act.Searches : Act → Prop
  | .call (.listInstances _) => True
  | .call (.describeInstances _ _) => True
  | .call _ => False
  | .bringUp _ _ => True
  | .say _ => True

open Script

theorem only_say
    {p : Act → Prop} {line : String} (h : p (.say line)) :
    (liftM (say line) : Attempt Unit).run.Only p :=
  Only.map _ (Only.perform h)

theorem instancesOf_only
    (cluster : String) :
    (instancesOf cluster).run.Only Act.Searches := by
  refine Only.bindExcept (Only.perform trivial) fun arns => ?_
  split
  · exact Only.pure _
  · exact Only.perform trivial

theorem findHost_only
    (s : Settings) (p : Profile) (c : ContainerDefinition) :
    (findHost s p c).run.Only Act.Searches :=
  Only.bindExcept (Only.adapt _ (instancesOf_only _)) fun _ => Only.pure _

theorem bringUpHost_only
    (s : Settings) (p : Profile) :
    (bringUpHost s p).run.Only Act.Searches := by
  refine Only.bindExcept (Only.perform trivial) fun made => ?_
  refine Only.bindExcept (Only.adapt _ (Only.perform trivial)) fun known => ?_
  split
  · exact Only.pure _
  · exact Only.pure _

theorem findOrBringUpHost_only
    (s : Settings) (p : Profile) (c : ContainerDefinition) :
    (findOrBringUpHost s p c).run.Only Act.Searches := by
  refine Only.bindExcept (Only.adapt _ (findHost_only s p c)) fun found => ?_
  cases found with
  | some host => exact Only.bindExcept (only_say trivial) fun _ => Only.pure _
  | none =>
    refine Only.bindExcept (only_say trivial) fun _ => ?_
    by_cases hspot : p.spot = true
    · simp only [if_pos hspot]
      exact Only.bindExcept (only_say trivial) fun _ => Only.pure _
    · simp only [if_neg hspot]
      exact Only.bindExcept (Only.adapt _ (bringUpHost_only s p)) fun _ =>
        Only.pure _

theorem choosePlacement_only
    (fresh : Identity) (server : String) (s : Settings) (r : AgentRequest) :
    (choosePlacement fresh server s r).run.Only Act.Searches := by
  refine Only.bindExcept (Only.pure _) fun spec => ?_
  split
  · refine Only.bindExcept (only_say trivial) fun _ => ?_
    exact Only.bindExcept (Only.pure _) fun _ => Only.pure _
  · refine Only.bindExcept (findOrBringUpHost_only s r.profile spec.container)
      fun host => ?_
    cases host with
    | none => exact Only.pure _
    | some host => exact Only.pure _

/-! ## What the search leaves alone -/

/-- Two services differ in their instances and their journals at most. -/
structure Service.SameRecords (s s' : Service) : Prop where
  definitions : s'.definitions = s.definitions
  revisions : s'.revisions = s.revisions
  tasks : s'.tasks = s.tasks
  reservations : s'.reservations = s.reservations
  launched : s'.launched = s.launched
  hasProviders : s'.hasProviders = s.hasProviders
  mishaps : s'.mishaps = s.mishaps

theorem Service.SameRecords.refl (s : Service) : s.SameRecords s :=
  ⟨rfl, rfl, rfl, rfl, rfl, rfl, rfl⟩

theorem Service.SameRecords.trans
    {s s' s'' : Service} (h : s.SameRecords s') (h' : s'.SameRecords s'') :
    s.SameRecords s'' :=
  ⟨h'.definitions.trans h.definitions, h'.revisions.trans h.revisions,
    h'.tasks.trans h.tasks, h'.reservations.trans h.reservations,
    h'.launched.trans h.launched, h'.hasProviders.trans h.hasProviders,
    h'.mishaps.trans h.mishaps⟩

theorem Act.Searches.sameRecords
    {a : Act} (ha : a.Searches) {site : Site} (h : site.IsDirect)
    (now : UInt64) :
    site.service.SameRecords (site.perform now a).2.service := by
  cases a with
  | call c =>
    rw [h.perform_call now c]
    cases c with
    | listInstances cluster => exact ⟨rfl, rfl, rfl, rfl, rfl, rfl, rfl⟩
    | describeInstances cluster arns =>
      exact ⟨rfl, rfl, rfl, rfl, rfl, rfl, rfl⟩
    | _ => exact ha.elim
  | say line => exact .refl _
  | bringUp s profile =>
    refine Site.bringUp_keeps (P := site.service.SameRecords) ?_ (.refl _) s
      profile site.supply
    intro s' i _ hs'
    exact hs'.trans ⟨rfl, rfl, rfl, rfl, rfl, rfl, rfl⟩

theorem sameRecords_of_search
    {α : Type} {x : Script α} (hx : x.Only Act.Searches) {site : Site}
    (h : site.IsDirect) (now : UInt64) :
    site.service.SameRecords (x.run now site).2.service := by
  refine (hx.run_keeps now (I := fun site' => site'.IsDirect ∧
    site.service.SameRecords site'.service) ?_ ⟨h, .refl _⟩).2
  rintro a site' ha ⟨hdirect, hsame⟩
  exact ⟨hdirect.perform now a, hsame.trans (ha.sameRecords hdirect now)⟩

/-! ## What the search finds -/

variable {site : Site}

theorem instancesOf_run
    (h : site.IsDirect)
    (hkeyed : Table.KeyedBy ContainerInstance.arn site.service.instances)
    (now : UInt64) (cluster : String) :
    ∃ site',
      (instancesOf cluster).run.run now site =
        (.ok site.service.instances.values, site') ∧
      site.OnlyNoted site' := by
  obtain ⟨site₁, hlist, h₁⟩ := run_listInstances h now cluster
  rw [instancesOf, run_bind_of_ok hlist]
  by_cases hempty : site.service.instances.keys.isEmpty = true
  · have hnone : site.service.instances.values = [] := by
      rwa [List.isEmpty_iff, ← hkeyed.map_values, List.map_eq_nil_iff] at hempty
    rw [if_pos hempty, hnone]
    exact ⟨site₁, run_pureExcept now _ _, h₁⟩
  · obtain ⟨site₂, hdescribe, h₂⟩ :=
      run_describeInstances (h₁.isDirect h) now cluster
        site.service.instances.keys
    have hall := hkeyed.filterMap_names fun _ hv => hv
    rw [hkeyed.map_values] at hall
    obtain ⟨cs, rfl⟩ := h₁
    rw [Site.service_withService] at hdescribe
    rw [if_neg hempty, hdescribe]
    exact ⟨site₂, congrArg (fun is => (Except.ok is, site₂)) hall,
      .trans ⟨cs, rfl⟩ h₂⟩

/-- The host is an instance that the service knows. -/
def Service.Hosts (s : Service) (host : Host) : Prop :=
  ∃ i : ContainerInstance, s.instances[host.instanceArn]? = some i ∧
    i.machineId = host.machineId

theorem Choice.mem_of_pick?
    {c : Choice} {r : Requirements} {is : List ContainerInstance}
    {i : ContainerInstance} (h : c.pick? r is = some i) :
    i ∈ is := by
  have hmem : i ∈ r.rank is := by
    cases c with
    | anyWithRoom => exact List.mem_of_mem_head? h
    | idleOnly => exact List.mem_of_find?_eq_some h
  exact (List.mem_filter.mp (List.mem_mergeSort.mp hmem)).1

theorem findHost_run
    (h : site.IsDirect)
    (hkeyed : Table.KeyedBy ContainerInstance.arn site.service.instances)
    (now : UInt64) (s : Settings) (p : Profile) (c : ContainerDefinition) :
    ∃ found site',
      (findHost s p c).run.run now site = (.ok found, site') ∧
      site.OnlyNoted site' ∧
      ∀ host, found = some host → site.service.Hosts host := by
  obtain ⟨site', hrun, hnoted⟩ := instancesOf_run h hkeyed now s.clusterName
  refine ⟨_, site', run_bind_of_ok (run_adapt_eq_ok_iff.mpr hrun) _, hnoted, ?_⟩
  intro host hhost
  obtain ⟨i, hpick, rfl⟩ := Option.map_eq_some_iff.mp hhost
  exact ⟨i, hkeyed.getElem?_of_mem (Choice.mem_of_pick? hpick), rfl⟩

theorem bringUpHost_run
    (h : site.IsDirect) {now : UInt64} {s : Settings} {p : Profile}
    {host : Host} {site' : Site}
    (hrun : (bringUpHost s p).run.run now site = (.ok host, site')) :
    site'.service.Hosts host := by
  obtain ⟨made, site₁, hmade, hrun⟩ := exists_of_run_bind hrun
  have h₁ : site₁.IsDirect := by
    have hdirect := h.run now (bringUp s p).run
    rwa [hmade] at hdirect
  obtain ⟨site₂, hdescribe, cs, rfl⟩ :=
    run_describeInstances h₁ now s.clusterName [made.arn]
  rw [run_bind_of_ok (run_adapt_eq_ok_iff.mpr hdescribe)] at hrun
  split at hrun
  · rename_i i hfound
    obtain ⟨rfl, rfl⟩ := run_pure_eq_ok_iff.mp hrun
    have hname : i.arn = made.arn := by simpa using List.find?_some hfound
    obtain ⟨arn, harn, hi⟩ :=
      List.mem_filterMap.mp (List.mem_of_find?_eq_some hfound)
    obtain rfl : arn = made.arn := List.mem_singleton.mp harn
    refine ⟨i, ?_, rfl⟩
    rwa [Host.ofInstance, hname]
  · cases hrun

/-- Whatever host is found or brought up, the service knows it. -/
theorem findOrBringUpHost_run
    (h : site.IsDirect)
    (hkeyed : Table.KeyedBy ContainerInstance.arn site.service.instances)
    {now : UInt64} {s : Settings} {p : Profile} {c : ContainerDefinition}
    {host : Host} {site' : Site}
    (hrun : (findOrBringUpHost s p c).run.run now site =
        (.ok (some host), site')) :
    site'.service.Hosts host := by
  obtain ⟨found, site₀, hfind, ⟨cs, rfl⟩, hhost⟩ :=
    findHost_run h hkeyed now s p c
  rw [findOrBringUpHost, run_bind_of_ok (run_adapt_eq_ok_iff.mpr hfind)] at hrun
  cases found with
  | some known =>
    obtain ⟨⟨⟩, site₁, htold, hrun⟩ := exists_of_run_bind hrun
    obtain ⟨hknown, rfl⟩ := run_pure_eq_ok_iff.mp hrun
    obtain rfl := (Prod.mk.inj htold).2
    exact hhost host hknown
  | none =>
    obtain ⟨⟨⟩, site₁, htold, hrun⟩ := exists_of_run_bind hrun
    obtain rfl := (Prod.mk.inj htold).2
    by_cases hspot : p.spot = true
    · rw [if_pos hspot] at hrun
      obtain ⟨⟨⟩, site₂, -, hrun⟩ := exists_of_run_bind hrun
      cases hrun
    · rw [if_neg hspot] at hrun
      obtain ⟨made, site₂, hmade, hrun⟩ := exists_of_run_bind hrun
      obtain ⟨hhost, rfl⟩ := run_pure_eq_ok_iff.mp hrun
      obtain rfl := Option.some.inj hhost
      refine bringUpHost_run ?_ (run_adapt_eq_ok_iff.mp hmade)
      exact h

theorem eq_ok_of_mapError
    {α ε ε' : Type} {f : ε → ε'} {result : Except ε α} {a : α}
    (h : result.mapError f = .ok a) :
    result = .ok a := by
  cases result with
  | ok a' => exact congrArg Except.ok (Except.ok.inj h)
  | error e => cases h

theorem Placement.eq_serverless_of_forServerless
    {task : String} {s : Settings} {p : Profile} {placement : Placement}
    (h : Placement.forServerless task s p = .ok placement) :
    ∃ network share, placement = .serverless network share := by
  rw [Placement.forServerless] at h
  split at h
  · cases h
  · obtain rfl := Except.ok.inj h
    exact ⟨_, _, rfl⟩

/-- The placement goes with the profile, and a host is one that the service
knows. -/
def Service.Suits (s : Service) (p : Profile) : Placement → Prop
  | .onHost host => p.isServerless = false ∧ s.Hosts host
  | .serverless _ _ => p.isServerless = true

theorem choosePlacement_run
    (h : site.IsDirect)
    (hkeyed : Table.KeyedBy ContainerInstance.arn site.service.instances)
    {now : UInt64} {fresh : Identity} {server : String} {s : Settings}
    {r : AgentRequest} {spec : Specification} {placement : Placement}
    {site' : Site}
    (hrun : (choosePlacement fresh server s r).run.run now site =
        (.ok (some (spec, placement)), site')) :
    Specification.ofRequest fresh.agentName r s server = .ok spec ∧
    site'.service.Suits r.profile placement := by
  obtain ⟨built, site₁, hbuilt, hrun⟩ := exists_of_run_bind hrun
  obtain ⟨hspec, rfl⟩ := Prod.mk.inj hbuilt
  by_cases hserverless : r.profile.isServerless = true
  · rw [if_pos hserverless] at hrun
    obtain ⟨⟨⟩, site₂, -, hrun⟩ := exists_of_run_bind hrun
    obtain ⟨chosen, site₃, hchosen, hrun⟩ := exists_of_run_bind hrun
    obtain ⟨hpair, rfl⟩ := run_pure_eq_ok_iff.mp hrun
    obtain ⟨rfl, rfl⟩ := Prod.mk.inj (Option.some.inj hpair)
    obtain ⟨network, share, rfl⟩ :=
      Placement.eq_serverless_of_forServerless
        (eq_ok_of_mapError (Prod.mk.inj hchosen).1)
    exact ⟨eq_ok_of_mapError hspec, hserverless⟩
  · rw [if_neg hserverless] at hrun
    obtain ⟨found, site₂, hfound, hrun⟩ := exists_of_run_bind hrun
    cases found with
    | none => cases hrun
    | some host =>
      obtain ⟨hpair, rfl⟩ := run_pure_eq_ok_iff.mp hrun
      obtain ⟨rfl, rfl⟩ := Prod.mk.inj (Option.some.inj hpair)
      exact ⟨eq_ok_of_mapError hspec, Bool.eq_false_iff.mpr hserverless,
        findOrBringUpHost_run h hkeyed hfound⟩

end AgentFleet

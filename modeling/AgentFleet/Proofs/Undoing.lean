import AgentFleet.Proofs.Holdings
import AgentFleet.Proofs.Simulations
import AgentFleet.Proofs.Stopping

/-!
# Stops undo creations

A creation that answers with an agent leaves the service as it was but for one
definition, one task with what it takes of its instance, and perhaps one
instance that was brought up for it.  This module says which service that is,
and that a stop of the agent takes all of it back.
-/

namespace AgentFleet

/-! ## What a launch adds -/

namespace Service

variable {s s' : Service} {now : UInt64} {cluster : String} {d : TaskDefinition}

/-- A task has been launched from a definition, on an instance with room for it
or on none, and nothing else has changed. -/
inductive Launched
    (now : UInt64) (cluster : String) (d : TaskDefinition) (s : Service) :
    Option String → Task → Service → Prop where
  | onInstance {arn : String} {i : ContainerInstance} (hfree : s.StartsFreely)
      (hi : s.instances[arn]? = some i)
      (hmemory : d.demand.memory ≤ i.remainingMemory.toNat)
      (hcpu : d.demand.cpu ≤ i.remainingCpu.toNat) :
      Launched now cluster d s (some arn)
        (s.nextTask now cluster d (some arn) (some .ec2) none)
        (s.afterStart now cluster d i arn)
  | serverless (launchType : Option Capacity) (provider : Option String) :
      Launched now cluster d s none
        (s.nextTask now cluster d none launchType provider)
        (s.letRun.launch now cluster d none launchType provider).2

theorem StartsFreely.of_mishaps
    (h : s.StartsFreely) (hmishaps : s'.mishaps = s.mishaps) :
    s'.StartsFreely :=
  ⟨hmishaps ▸ h.launchFailures, hmishaps ▸ h.emptyLaunches,
    hmishaps ▸ h.startTask⟩

theorem startsFreely_of_arrangedOutcome
    (hstart : s.mishaps.startTask = none) (h : s.arrangedOutcome = none) :
    s.StartsFreely := by
  cases hfailures : s.mishaps.launchFailures with
  | some fs =>
    rw [arrangedOutcome, hfailures] at h
    cases h
  | none =>
    refine ⟨hfailures, ?_, hstart⟩
    rw [arrangedOutcome, hfailures] at h
    simpa using h

/-- A start on one instance that answers with a task has launched it there. -/
theorem startTask_launched
    {r : StartTask} {arn : String} (hinstances : r.instances = [arn])
    (hd : s.launchable r.definition = .ok d) {t : Task} {ts : List Task}
    (h : s.startTask now r = (.ok ⟨t :: ts, []⟩, s')) :
    Launched now r.cluster d s (some arn) t s' := by
  rw [startTask] at h
  cases hstart : s.mishaps.startTask with
  | some e =>
    rw [hstart] at h
    cases h
  | none =>
    rw [hstart, hd] at h
    cases ho : s.arrangedOutcome with
    | some o =>
      rw [ho] at h
      obtain rfl : o = ⟨t :: ts, []⟩ := Except.ok.inj (Prod.mk.inj h).1
      cases arrangedOutcome_tasks ho
    | none =>
      rw [ho, hinstances] at h
      simp only [startEach] at h
      rcases startOn_cases now r.cluster d arn s with ⟨f, heq⟩ |
        ⟨i, hi, hmemory, hcpu, heq⟩
      · rw [heq] at h
        cases h
      · rw [heq] at h
        obtain ⟨hanswer, rfl⟩ := Prod.mk.inj h
        obtain ⟨rfl, -⟩ :=
          List.cons.inj (LaunchOutcome.mk.inj (Except.ok.inj hanswer)).1
        exact .onInstance (startsFreely_of_arrangedOutcome hstart ho) hi hmemory
          hcpu

/-- The journal makes no difference to a launch. -/
theorem Launched.of_noted
    {cs : List Call} {arn : Option String} {t : Task}
    (h : Launched now cluster d (s.noted cs) arn t s') :
    ∃ s'', Launched now cluster d s arn t s'' ∧ s' = s''.noted cs := by
  cases h with
  | onInstance hfree hi hmemory hcpu =>
    exact ⟨_, .onInstance (hfree.of_mishaps rfl) hi hmemory hcpu, rfl⟩
  | serverless launchType provider =>
    exact ⟨_, .serverless launchType provider, rfl⟩

end Service

open Script

section

variable {site site' : Site} {now : UInt64} {s : Settings} {d : TaskDefinition}

/-- A launch at a placement that answers with a task has launched it. -/
theorem launchAt_launched
    (h : site.IsDirect) {definitionArn : String}
    (hd : site.service.launchable definitionArn = .ok d) {p : Profile}
    {placement : Placement} (hplacement : placement.ForProfile p) {t : Task}
    {ts : List Task}
    (hrun : (launchAt s definitionArn placement).run.run now site =
        (.ok ⟨t :: ts, []⟩, site')) :
    site'.supply = site.supply ∧
    ∃ s' cs,
      Service.Launched now s.clusterName d site.service placement.instanceArn? t
        s' ∧
      site'.service = s'.noted cs := by
  cases placement with
  | onHost host =>
    rw [launchAt, run_bind_of_ok (run_lift_say now _ _), run_call (h.told _)]
      at hrun
    obtain ⟨hanswer, rfl⟩ := Prod.mk.inj hrun
    refine ⟨rfl, ?_⟩
    obtain ⟨s', hlaunched, hs'⟩ :=
      Service.Launched.of_noted
        (Service.startTask_launched
            (s :=
                site.service.noted
                  [.startTask (startCall s definitionArn host)]) rfl hd
            (Prod.ext hanswer rfl))
    exact ⟨s', _, hlaunched, hs'⟩
  | serverless network share =>
    obtain rfl : share = ⟨Placement.provider p, 1, 0⟩ := hplacement
    obtain ⟨answer, s', hlaunch, hlaunches⟩ :=
      launchAt_serverless_run h hd now network p (s := s)
    rw [hlaunch] at hrun
    obtain ⟨rfl, rfl⟩ := Prod.mk.inj hrun
    refine ⟨rfl, ?_⟩
    cases hlaunches with
    | through hinvalid hruns =>
      generalize ho : (⟨t :: ts, []⟩ : LaunchOutcome) = o at hruns
      cases hruns with
      | arranged cs harranged =>
        rw [← ho] at harranged
        cases Service.arrangedOutcome_tasks harranged
      | started cs launchType provider harranged hcapacity =>
        obtain ⟨rfl, -⟩ := List.cons.inj (LaunchOutcome.mk.inj ho).1
        exact ⟨_, cs, .serverless launchType provider, rfl⟩

/-- A launch that answers with an agent has registered a definition and launched
a task from it. -/
theorem launch_launched
    (h : site.IsDirect) {fresh : Identity} {server : String} {r : AgentRequest}
    {spec : Specification} {placement : Placement}
    (hplacement : placement.ForProfile r.profile) {t : Agent}
    (hrun : (launch fresh server s r spec placement).run.run now site =
        (.ok t, site')) :
    site'.supply = site.supply ∧
    ∃ task s' cs,
      Service.Launched now s.clusterName
        (site.service.nextDefinition spec.registration)
        (site.service.register spec.registration).2 placement.instanceArn? task
        s' ∧
      site'.service = s'.noted cs ∧
      t.taskArn = task.arn ∧
      t.definitionArn =
        (site.service.nextDefinition spec.registration).arn := by
  obtain ⟨site₁, heq, h₁, hsupply₁, hservice₁, hlaunchable⟩ :=
    launch_registers h now fresh server s r spec placement
  rw [heq, startRegistered] at hrun
  rcases hlaunch :
      (launchAt s (site.service.nextDefinition spec.registration).arn
            placement).run.run now site₁ with ⟨answer, site₂⟩
  rw [run_bind_of_ok (run_lift hlaunch)] at hrun
  have hfails :
      ∀ e,
        ¬(liftM
            (removeDefinition
              (site.service.nextDefinition spec.registration).arn) >>=
            fun _ => (throw e : Attempt Agent)).run.run now site₂ =
          (.ok t, site') := by
    intro e hfailed
    obtain ⟨⟨⟩, site₃, -, hthrow⟩ := exists_of_run_bind hfailed
    cases hthrow
  rcases answer with e | ⟨_ | ⟨task, tasks⟩, _ | ⟨f, failures⟩⟩
  · exact absurd hrun (hfails _)
  · exact absurd hrun (hfails _)
  · exact absurd hrun (hfails _)
  · obtain ⟨hsupply₂, s', cs, hlaunched, hs'⟩ :=
      launchAt_launched h₁ hlaunchable hplacement hlaunch
    have hrun' := (run_bind_of_ok (run_lift_say now _ _) _).symm.trans hrun
    obtain ⟨hagent, rfl⟩ := run_pure_eq_ok_iff.mp hrun'
    have hregistered :
        site₁.service =
          (site.service.register spec.registration).2.noted
            [.register spec.registration] := hservice₁
    rw [hregistered] at hlaunched
    obtain ⟨s'', hlaunched', rfl⟩ := hlaunched.of_noted
    rw [Service.noted_noted] at hs'
    exact ⟨hsupply₂.trans hsupply₁, task, s'', _, hlaunched', hs', hagent ▸ rfl,
      hagent ▸ rfl⟩
  · exact absurd hrun (hfails _)

/-! ## What the search for a place adds -/

/-- An instance of a pool has been brought up, or none has. -/
inductive Grows (pool : Pool) (s : Settings) (p : Profile) (service : Service) :
    Service → Supply → Prop where
  | same : Grows pool s p service service (.pool pool)
  | made :
      Grows pool s p service (service.enlist (pool.nth s p (pool.made + 1)))
        (.pool { pool with made := pool.made + 1 })

/-- A search for an instance that can take a container picks this one. -/
def Service.Picks (service : Service) (s : Settings) (p : Profile)
    (c : ContainerDefinition) (i : ContainerInstance) : Prop :=
  (Choice.ofPolicy (s.stopPolicy p.platform)).pick?
    (Requirements.ofContainer c p.platform) service.instances.values = some i

variable {p : Profile} {c : ContainerDefinition} {pool : Pool}

namespace Service.Picks

variable {service service' : Service} {i j : ContainerInstance}

theorem unique
    (h : service.Picks s p c i) (h' : service.Picks s p c j) :
    i = j :=
  Option.some.inj (h.symm.trans h')

theorem of_instances
    (h : service.Picks s p c i)
    (hinstances : service'.instances = service.instances) :
    service'.Picks s p c i := by
  rwa [Service.Picks, hinstances]

theorem eligible
    (h : service.Picks s p c i) :
    i.Eligible (s.stopPolicy p.platform) p.platform c :=
  (Choice.eligible_of_pick? h).2

theorem getElem?_instances
    (h : service.Picks s p c i) (hkeyed : service.Keyed) :
    service.instances[i.arn]? = some i :=
  hkeyed.instances.getElem?_of_mem (Choice.eligible_of_pick? h).1

theorem canHost
    (h : service.Picks s p c i) (hkeyed : service.Keyed) :
    service.CanHost s p c :=
  ⟨i.arn, i, h.getElem?_instances hkeyed, h.eligible⟩

/-- An instance that is eligible is picked if it is new and no other one would
have been. -/
theorem enlist
    (hnone : (Choice.ofPolicy (s.stopPolicy p.platform)).pick?
          (Requirements.ofContainer c p.platform) service.instances.values =
        none) (heligible : i.Eligible (s.stopPolicy p.platform) p.platform c) :
    (service.enlist i).Picks s p c i := by
  have hnew : i ∈ (service.enlist i).instances.values :=
    Table.mem_values_iff.mpr
      ⟨i.arn, Table.getElem?_insert_eq_some_iff.mpr (Or.inl ⟨rfl, rfl⟩)⟩
  obtain ⟨j, hpick⟩ := Option.ne_none_iff_exists'.mp
    (Choice.pick?_ne_none hnew heligible)
  obtain ⟨hmem, heligible'⟩ := Choice.eligible_of_pick? hpick
  obtain ⟨arn, hj⟩ := Table.mem_values_iff.mp hmem
  rcases Table.getElem?_insert_eq_some_iff.mp hj with ⟨-, rfl⟩ | ⟨-, hold⟩
  · exact hpick
  · have hmem' : j ∈ service.instances.values :=
      Table.mem_values_iff.mpr ⟨arn, hold⟩
    exact absurd hnone (Choice.pick?_ne_none hmem' heligible')

end Service.Picks

/-- A new instance is eligible for what it has room for. -/
theorem Pool.eligible_nth
    (pool : Pool) (s : Settings) (p : Profile) (n : Nat) (policy : StopPolicy)
    (hroom : (pool.nth s p n).HasRoom c) :
    (pool.nth s p n).Eligible policy p.platform c :=
  ⟨Text.sameCaseless_iff.mpr rfl, Simulation.system_matches s p, hroom,
    fun _ => ⟨rfl, rfl⟩⟩

/-- A pool that brings up an instance is not blocked. -/
theorem blocked_of_bringUpHost
    (hsupply : site.supply = .pool pool) {host : Host}
    (hrun : (bringUpHost s p).run.run now site = (.ok host, site')) :
    pool.blocked = false := by
  obtain ⟨made, site₁, hmade, -⟩ := exists_of_run_bind hrun
  have hanswer : (site.supply.bringUp s p site.service).1 = .ok made :=
    congrArg Prod.fst hmade
  rw [hsupply, Supply.bringUp] at hanswer
  by_cases hblocked : pool.blocked = true
  · rw [if_pos hblocked] at hanswer
    cases hanswer
  · exact Bool.eq_false_iff.mpr hblocked

/-- The instance that a pool brings up next is the host that comes of it, and
the cluster knows it. -/
theorem bringUpHost_grows
    (h : site.IsDirect) (hsupply : site.supply = .pool pool) {host : Host}
    (hrun : (bringUpHost s p).run.run now site = (.ok host, site')) :
    host = Host.ofInstance (pool.nth s p (pool.made + 1)) ∧
    site'.supply = .pool { pool with made := pool.made + 1 } ∧
    ∃ cs,
      site'.service =
        (site.service.enlist (pool.nth s p (pool.made + 1))).noted cs := by
  have hblocked : pool.blocked = false := blocked_of_bringUpHost hsupply hrun
  obtain ⟨site₁, hbring, cs, rfl⟩ := bringUpHost_run_pool h hsupply hblocked now
  obtain ⟨hhost, rfl⟩ := Prod.mk.inj (hrun.symm.trans hbring)
  exact ⟨Except.ok.inj hhost, rfl, cs, rfl⟩

/-- A host that comes of a search is an instance of the cluster, and a further
search would pick it if it has room. -/
theorem findOrBringUpHost_grows
    (h : site.IsDirect) (hkeyed : site.service.Keyed)
    (hsupply : site.supply = .pool pool) {host : Host}
    (hrun : (findOrBringUpHost s p c).run.run now site =
        (.ok (some host), site')) :
    ∃ base cs i,
      Grows pool s p site.service base site'.supply ∧
      site'.service = base.noted cs ∧
      host = Host.ofInstance i ∧
      base.instances[i.arn]? = some i ∧
      (i.HasRoom c → base.Picks s p c i) := by
  obtain ⟨site₁, hfind, cs, rfl⟩ :=
    findHost_run_eq (s := s) (p := p) (c := c) h hkeyed now
  rw [findOrBringUpHost, run_bind_of_ok (run_adapt_eq_ok_iff.mpr hfind)] at hrun
  cases hfinds : site.finds s p c with
  | some known =>
    rw [hfinds] at hrun
    obtain ⟨i, hpicks, rfl⟩ := Option.map_eq_some_iff.mp hfinds
    have hpicks : site.service.Picks s p c i := hpicks
    have hrun' := (run_bind_of_ok (run_lift_say now _ _) _).symm.trans hrun
    obtain ⟨hhost, rfl⟩ := run_pure_eq_ok_iff.mp hrun'
    obtain rfl := Option.some.inj hhost
    refine ⟨site.service, cs, i, ?_, rfl, rfl,
      hpicks.getElem?_instances hkeyed, fun _ => hpicks⟩
    exact hsupply ▸ .same
  | none =>
    rw [hfinds] at hrun
    have hrun' := (run_bind_of_ok (run_lift_say now _ _) _).symm.trans hrun
    by_cases hspot : p.spot = true
    · rw [if_pos hspot] at hrun'
      obtain ⟨⟨⟩, site₂, -, hnone⟩ := exists_of_run_bind hrun'
      cases hnone
    · rw [if_neg hspot] at hrun'
      obtain ⟨made, site₂, hmade, hrun''⟩ := exists_of_run_bind hrun'
      obtain ⟨hhost, rfl⟩ := run_pure_eq_ok_iff.mp hrun''
      obtain rfl := Option.some.inj hhost
      obtain ⟨rfl, hsupply₂, cs', hservice₂⟩ :=
        bringUpHost_grows ((h.withService (site.service.noted cs)).told _)
          hsupply (run_adapt_eq_ok_iff.mp hmade)
      have hnoted :
          ((site.service.noted cs).enlist (pool.nth s p (pool.made + 1))).noted
              cs' =
            (site.service.enlist (pool.nth s p (pool.made + 1))).noted
              (cs ++ cs') := by
        rw [← Service.noted_noted]
        rfl
      rw [hsupply₂]
      exact ⟨_, cs ++ cs', _, .made, hservice₂.trans hnoted, rfl,
        Table.getElem?_insert_eq_some_iff.mpr (Or.inl ⟨rfl, rfl⟩),
        fun hroom => .enlist (Option.map_eq_none_iff.mp hfinds)
          (pool.eligible_nth s p (pool.made + 1) _ hroom)⟩

theorem choosePlacement_grows
    (h : site.IsDirect) (hkeyed : site.service.Keyed)
    (hsupply : site.supply = .pool pool) {fresh : Identity} {server : String}
    {r : AgentRequest} {spec : Specification} {placement : Placement}
    (hrun : (choosePlacement fresh server s r).run.run now site =
        (.ok (some (spec, placement)), site')) :
    Specification.ofRequest fresh.agentName r s server = .ok spec ∧
    placement.ForProfile r.profile ∧
    ∃ base cs,
      Grows pool s r.profile site.service base site'.supply ∧
      site'.service = base.noted cs ∧
      (r.profile.isServerless = false →
        ∃ i,
          placement = .onHost (Host.ofInstance i) ∧
          base.instances[i.arn]? = some i ∧
          (i.HasRoom spec.container →
            base.Picks s r.profile spec.container i)) := by
  obtain ⟨built, site₁, hbuilt, hrun⟩ := exists_of_run_bind hrun
  obtain ⟨hspec, rfl⟩ := Prod.mk.inj hbuilt
  have hspec := eq_ok_of_mapError hspec
  by_cases hserverless : r.profile.isServerless = true
  · rw [if_pos hserverless] at hrun
    have hrun := (run_bind_of_ok (run_lift_say now _ _) _).symm.trans hrun
    obtain ⟨chosen, site₃, hchosen, hrun⟩ := exists_of_run_bind hrun
    obtain ⟨hpair, rfl⟩ := run_pure_eq_ok_iff.mp hrun
    obtain ⟨rfl, rfl⟩ := Prod.mk.inj (Option.some.inj hpair)
    obtain ⟨hforced, rfl⟩ := Prod.mk.inj hchosen
    have hforced := eq_ok_of_mapError hforced
    obtain ⟨network, share, rfl⟩ :=
      Placement.eq_serverless_of_forServerless hforced
    refine ⟨hspec, Placement.share_of_forServerless hforced, site.service, [],
      ?_, ?_, ?_⟩
    · exact hsupply ▸ .same
    · rw [Service.noted, List.append_nil]
      rfl
    · intro hinstances
      exact absurd hserverless (Bool.eq_false_iff.mp hinstances)
  · rw [if_neg hserverless] at hrun
    obtain ⟨found, site₂, hfound, hrun⟩ := exists_of_run_bind hrun
    cases found with
    | none => cases hrun
    | some host =>
      obtain ⟨hpair, rfl⟩ := run_pure_eq_ok_iff.mp hrun
      obtain ⟨rfl, rfl⟩ := Prod.mk.inj (Option.some.inj hpair)
      obtain ⟨base, cs, i, hgrows, hservice, rfl, hi, hpicks⟩ :=
        findOrBringUpHost_grows h hkeyed hsupply hfound
      exact ⟨hspec, trivial, base, cs, hgrows, hservice,
        fun _ => ⟨i, rfl, hi, hpicks⟩⟩

/-! ## What a creation adds -/

/-- An agent has come of a launch at a service, which takes another one from
there. -/
structure CreatesFrom
    (now : UInt64) (fresh : Identity) (server : String) (s : Settings)
    (r : AgentRequest) (t : Agent) (spec : Specification) (arn : Option String)
    (task : Task) (base s' : Service) : Prop where
  specification : Specification.ofRequest fresh.agentName r s server = .ok spec
  launched :
    Service.Launched now s.clusterName (base.nextDefinition spec.registration)
      (base.register spec.registration).2 arn task s'
  taskArn : t.taskArn = task.arn
  definitionArn : t.definitionArn = (base.nextDefinition spec.registration).arn
  startsFreely : r.profile.isServerless = false → s'.StartsFreely
  picks : r.profile.isServerless = false → ∃ i, arn = some i.arn ∧
    base.Picks s r.profile spec.container i

/-- A creation that answers with an agent has launched a task, perhaps on an
instance that it has brought up. -/
theorem createAgent_launched
    (h : site.IsDirect) (hkeyed : site.service.Keyed)
    (hsupply : site.supply = .pool pool) {fresh : Identity} {server : String}
    {r : AgentRequest} {t : Agent}
    (hrun : (createAgent fresh server s r).run.run now site =
        (.ok (some t), site')) :
    ∃ spec arn task base s' cs,
      Grows pool s r.profile site.service base site'.supply ∧
      CreatesFrom now fresh server s r t spec arn task base s' ∧
      site'.service = s'.noted cs := by
  rw [createAgent_eq] at hrun
  obtain ⟨choice, site₁, hchoice, hrun⟩ := exists_of_run_bind hrun
  have h₁ : site₁.IsDirect := by
    have hdirect := h.run now (choosePlacement fresh server s r).run
    rwa [hchoice] at hdirect
  obtain _ | ⟨spec, placement⟩ := choice
  · cases hrun
  obtain ⟨hspec, hplacement, base, cs, hgrows, hservice₁, hhost⟩ :=
    choosePlacement_grows h hkeyed hsupply hchoice
  obtain ⟨t', site₂, hlaunch, hrun⟩ := exists_of_run_bind hrun
  obtain ⟨ht, rfl⟩ := run_pure_eq_ok_iff.mp hrun
  obtain rfl := Option.some.inj ht
  obtain ⟨hsupply₂, task, s₁, cs', hlaunched, hservice₂, htaskArn,
    hdefinitionArn⟩ := launch_launched h₁ hplacement hlaunch
  rw [hservice₁] at hlaunched hdefinitionArn
  obtain ⟨s', hlaunched', rfl⟩ :
      ∃ s',
        Service.Launched now s.clusterName
          (base.nextDefinition spec.registration)
          (base.register spec.registration).2 placement.instanceArn? task s' ∧
        s₁ = s'.noted cs := hlaunched.of_noted
  rw [Service.noted_noted] at hservice₂
  rw [hsupply₂]
  refine ⟨spec, placement.instanceArn?, task, base, s', _, hgrows,
    ⟨hspec, hlaunched', htaskArn, hdefinitionArn, ?_, ?_⟩, hservice₂⟩
  · intro hinstances
    obtain ⟨i, rfl, -, -⟩ := hhost hinstances
    cases hlaunched' with
    | onInstance hfree hi hmemory hcpu => exact hfree.of_mishaps rfl
  · intro hinstances
    obtain ⟨i, rfl, hi, hpicks⟩ := hhost hinstances
    refine ⟨i, rfl, hpicks ?_⟩
    cases hlaunched' with
    | onInstance hfree hi' hmemory hcpu =>
      obtain rfl : i = _ := Option.some.inj (hi.symm.trans hi')
      rw [Service.demand_of_container (c := spec.container) rfl] at hmemory hcpu
      exact ⟨hmemory, hcpu⟩

end

/-! ## What a stop takes back -/

/-- An instance gets back what was reserved of it. -/
theorem ContainerInstance.release_reserve
    {i : ContainerInstance} {d : Demand}
    (hmemory : d.memory ≤ i.remainingMemory.toNat)
    (hcpu : d.cpu ≤ i.remainingCpu.toNat)
    (hbounded : i.remainingMemory.toNat ≤ i.registeredMemory.toNat ∧
      i.remainingCpu.toNat ≤ i.registeredCpu.toNat)
    (hfits : i.pendingTasks.toNat + 1 < 2 ^ 32) :
    (i.reserve d).release (some d) = i := by
  have hmemory' :
      UInt32.ofNat
          (min
              ((UInt32.ofNat (i.remainingMemory.toNat - d.memory)).toNat +
                  d.memory) i.registeredMemory.toNat) =
        i.remainingMemory := by
    rw [toNat_ofNat_of_le (Nat.sub_le _ _), Nat.sub_add_cancel hmemory,
      Nat.min_eq_left hbounded.1, UInt32.ofNat_toNat]
  have hcpu' :
      UInt32.ofNat
          (min ((UInt32.ofNat (i.remainingCpu.toNat - d.cpu)).toNat + d.cpu)
              i.registeredCpu.toNat) =
        i.remainingCpu := by
    rw [toNat_ofNat_of_le (Nat.sub_le _ _), Nat.sub_add_cancel hcpu,
      Nat.min_eq_left hbounded.2, UInt32.ofNat_toNat]
  have hpending :
      UInt32.ofNat ((i.pendingTasks + 1).toNat - 1) = i.pendingTasks := by
    rw [UInt32.toNat_add, UInt32.toNat_one, Nat.mod_eq_of_lt hfits,
      Nat.add_sub_cancel, UInt32.ofNat_toNat]
  rw [release, reserve]
  simp only [hmemory', hcpu', hpending]

namespace Service

variable {s s' : Service} {now : UInt64} {cluster : String} {d : TaskDefinition}
  {arn : Option String} {t : Task}

/-- An instance that is there under a given name can count one more task. -/
def CountsAt (s : Service) (arn : Option String) : Prop :=
  ∀ (a : String) (i : ContainerInstance), arn = some a →
    s.instances[a]? = some i → i.pendingTasks.toNat + 1 < 2 ^ 32

namespace Launched

theorem tasks_eq
    (h : Launched now cluster d s arn t s') :
    s'.tasks = s.tasks.insert t.arn t := by
  cases h with
  | onInstance hfree hi hmemory hcpu => rfl
  | serverless launchType provider => rfl

theorem definitions_eq
    (h : Launched now cluster d s arn t s') :
    s'.definitions = s.definitions := by
  cases h with
  | onInstance hfree hi hmemory hcpu => rfl
  | serverless launchType provider => rfl

/-- A task that has just been launched has not been stopped. -/
theorem unstopped
    (h : Launched now cluster d s arn t s') :
    s'.unstopped? cluster t.arn = some t := by
  rw [unstopped?_eq_some_iff, h.tasks_eq]
  refine ⟨Std.ExtTreeMap.getElem?_insert_self, ?_⟩
  cases h with
  | onInstance hfree hi hmemory hcpu => exact ⟨rfl, DesiredStatus.noConfusion⟩
  | serverless launchType provider => exact ⟨rfl, DesiredStatus.noConfusion⟩

theorem tasks_halting
    (h : Launched now cluster d s arn t s') :
    (s'.halting cluster t.arn).tasks = s.tasks.insert t.arn (stopped t) := by
  apply Std.ExtTreeMap.ext_getElem?
  intro k
  obtain ⟨ht, hcluster, -⟩ := unstopped?_eq_some_iff.mp h.unstopped
  rw [getElem?_tasks_halting, Std.ExtTreeMap.getElem?_insert]
  by_cases hk : t.arn = k
  · subst hk
    simp [ht, Task.stoppedIn, hcluster]
  · rw [h.tasks_eq, Std.ExtTreeMap.getElem?_insert]
    simp [hk]

/-- A stop right after a launch leaves every instance as it was before. -/
theorem instances_halting
    (h : Launched now cluster d s arn t s') (hbounded : s.Bounded)
    (hcounts : s.CountsAt arn) :
    (s'.halting cluster t.arn).instances = s.instances := by
  apply Std.ExtTreeMap.ext_getElem?
  intro k
  have hfrees : s'.frees cluster t.arn k ↔ t.instanceArn = some k := by
    simp [frees, h.unstopped]
  rw [getElem?_instances_halting]
  cases h with
  | serverless launchType provider =>
    rw [if_neg]
    · rfl
    · rw [hfrees]
      exact fun hsome => Option.some_ne_none k hsome.symm
  | @onInstance a i hfree hi hmemory hcpu =>
    have hreserved :
        (s.afterStart now cluster d i a).reservations[(s.nextTask now cluster d
            (some a) (some .ec2) none).arn]? =
          some d.demand := Std.ExtTreeMap.getElem?_insert_self
    have hinstances : (s.afterStart now cluster d i a).instances =
        s.instances.insert a (i.reserve d.demand) := rfl
    rw [hreserved, hinstances, Std.ExtTreeMap.getElem?_insert]
    by_cases hk : a = k
    · subst hk
      have hback :=
        ContainerInstance.release_reserve hmemory hcpu (hbounded a i hi)
          (hcounts a i rfl hi)
      rw [if_pos (hfrees.mpr rfl), hi]
      simp [hback]
    · rw [if_neg fun hfreed => hk (Option.some.inj (hfrees.mp hfreed))]
      simp [hk]

theorem instanceArn_eq
    (h : Launched now cluster d s arn t s') :
    t.instanceArn = arn := by
  cases h with
  | onInstance hfree hi hmemory hcpu => rfl
  | serverless launchType provider => rfl

theorem arn_eq
    (h : Launched now cluster d s arn t s') :
    t.arn = taskArn cluster (s.launched + 1) := by
  cases h with
  | onInstance hfree hi hmemory hcpu => rfl
  | serverless launchType provider => rfl

end Launched
end Service

section

variable {site : Site} {now : UInt64} {fresh : Identity} {server : String}
  {s : Settings} {r : AgentRequest} {t : Agent} {spec : Specification}
  {arn : Option String} {task : Task} {base s' : Service}

namespace CreatesFrom

theorem definitionArn_eq
    (h : CreatesFrom now fresh server s r t spec arn task base s') :
    t.definitionArn =
      Service.definitionArn fresh.agentName
        (base.revisions.getD fresh.agentName 0 + 1) := by
  obtain ⟨environment, rfl⟩ := Specification.exists_of_ofRequest h.specification
  exact h.definitionArn

theorem taskArn_eq
    (h : CreatesFrom now fresh server s r t spec arn task base s') :
    t.taskArn = Service.taskArn s.clusterName (base.launched + 1) :=
  h.taskArn.trans h.launched.arn_eq

theorem quit_definitions
    (h : CreatesFrom now fresh server s r t spec arn task base s') :
    (s'.quit s.clusterName t).definitions =
      base.definitions.erase t.definitionArn := by
  change (s'.halting s.clusterName t.taskArn).definitions.erase
      t.definitionArn =
    _
  rw [Service.halting_definitions, h.launched.definitions_eq, h.definitionArn]
  exact Table.erase_insert base.definitions _ _

theorem quit_tasks
    (h : CreatesFrom now fresh server s r t spec arn task base s') :
    (s'.quit s.clusterName t).tasks =
      base.tasks.insert t.taskArn (Service.stopped task) := by
  change (s'.halting s.clusterName t.taskArn).tasks = _
  rw [h.taskArn]
  exact h.launched.tasks_halting

theorem quit_instances
    (h : CreatesFrom now fresh server s r t spec arn task base s')
    (hbounded : base.Bounded) (hcounts : base.CountsAt arn) :
    (s'.quit s.clusterName t).instances = base.instances := by
  change (s'.halting s.clusterName t.taskArn).instances = _
  rw [h.taskArn]
  exact h.launched.instances_halting hbounded hcounts

/-- The task is there, on its instance. -/
theorem getElem?_tasks
    (h : CreatesFrom now fresh server s r t spec arn task base s') :
    s'.tasks[t.taskArn]? = some task ∧ task.instanceArn = arn := by
  refine ⟨?_, h.launched.instanceArn_eq⟩
  rw [h.launched.tasks_eq, h.taskArn]
  exact Std.ExtTreeMap.getElem?_insert_self

end CreatesFrom

end

end AgentFleet

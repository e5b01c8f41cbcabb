import AgentFleet.Proofs.Conservation
import AgentFleet.Proofs.Creating
import AgentFleet.Proofs.Possible

/-!
# Admission to instances

The search for an instance and the service that starts tasks on it agree on what
fits.  So an instance that was found never refuses the task it was found for,
and what comes of a request for an agent on an instance is settled by three
questions: whether an instance of the cluster is eligible, whether the request
may use spot capacity, and whether an instance of the pool is large enough.
-/

namespace AgentFleet

/-! ## Eligible instances -/

namespace ContainerInstance

/-- The instance has room for a container. -/
def HasRoom (i : ContainerInstance) (c : ContainerDefinition) : Prop :=
  c.memoryDemand.toNat ≤ i.remainingMemory.toNat ∧
  c.cpu.toNat ≤ i.remainingCpu.toNat

/-- A container may be placed on the instance under a stop policy. -/
structure Eligible
    (policy : StopPolicy) (platform : Platform) (c : ContainerDefinition)
    (i : ContainerInstance) : Prop where
  active : Text.sameCaseless i.status "ACTIVE" = true
  system : Text.sameCaseless (i.osType?.getD "linux") platform.name = true
  room : i.HasRoom c
  idle : policy = .terminateIdle → i.runningTasks = 0 ∧ i.pendingTasks = 0

variable {i : ContainerInstance} {c : ContainerDefinition} {platform : Platform}

theorem isMetBy_iff :
    (Requirements.ofContainer c platform).isMetBy i = true ↔
      Text.sameCaseless i.status "ACTIVE" = true ∧
      Text.sameCaseless (i.osType?.getD "linux") platform.name = true ∧
      i.HasRoom c := by
  simp only [Requirements.isMetBy, Requirements.ofContainer,
    Requirements.matchesPlatform, isActive, HasRoom, Bool.and_eq_true,
    decide_eq_true_iff, UInt32.le_iff_toNat_le, and_assoc]

theorem isIdle_iff :
    i.isIdle = true ↔ i.runningTasks = 0 ∧ i.pendingTasks = 0 := by
  rw [isIdle, Bool.and_eq_true, beq_iff_eq, beq_iff_eq]

end ContainerInstance

namespace Choice

open ContainerInstance

variable {policy : StopPolicy} {platform : Platform} {c : ContainerDefinition}
  {is : List ContainerInstance} {i : ContainerInstance}

theorem mem_rank_iff
    {r : Requirements} :
    i ∈ r.rank is ↔ i ∈ is ∧ r.isMetBy i = true := by
  rw [Requirements.rank, List.mem_mergeSort, List.mem_filter]

/-- Only eligible instances are picked. -/
theorem eligible_of_pick?
    (h : (ofPolicy policy).pick? (Requirements.ofContainer c platform) is =
        some i) :
    i ∈ is ∧ i.Eligible policy platform c := by
  cases policy with
  | stopIdle =>
    obtain ⟨hmem, hmet⟩ := mem_rank_iff.mp (List.mem_of_mem_head? h)
    obtain ⟨hactive, hsystem, hroom⟩ := isMetBy_iff.mp hmet
    exact ⟨hmem, hactive, hsystem, hroom,
      fun hpolicy => StopPolicy.noConfusion hpolicy⟩
  | terminateIdle =>
    obtain ⟨hmem, hmet⟩ := mem_rank_iff.mp (List.mem_of_find?_eq_some h)
    obtain ⟨hactive, hsystem, hroom⟩ := isMetBy_iff.mp hmet
    exact ⟨hmem, hactive, hsystem, hroom,
      fun _ => isIdle_iff.mp (List.find?_some h)⟩

/-- Some instance is picked if one is eligible; which one does not depend on
this. -/
theorem pick?_ne_none
    (hmem : i ∈ is) (h : i.Eligible policy platform c) :
    (ofPolicy policy).pick? (Requirements.ofContainer c platform) is ≠
      none := by
  have hrank : i ∈ (Requirements.ofContainer c platform).rank is :=
    mem_rank_iff.mpr ⟨hmem, isMetBy_iff.mpr ⟨h.active, h.system, h.room⟩⟩
  intro hnone
  cases policy with
  | stopIdle =>
    rw [ofPolicy, pick?, List.head?_eq_none_iff] at hnone
    rw [hnone] at hrank
    exact List.not_mem_nil hrank
  | terminateIdle =>
    rw [ofPolicy, pick?, List.find?_eq_none] at hnone
    exact hnone i hrank (isIdle_iff.mpr (h.idle rfl))

end Choice

namespace Service

/-- An instance of the cluster is eligible for a container of a profile. -/
def CanHost
    (s : Service) (settings : Settings) (p : Profile)
    (c : ContainerDefinition) : Prop :=
  ∃ (arn : String) (i : ContainerInstance), s.instances[arn]? = some i ∧
    i.Eligible (settings.stopPolicy p.platform) p.platform c

/-- Nothing is arranged against starting tasks. -/
structure StartsFreely (s : Service) : Prop where
  launchFailures : s.mishaps.launchFailures = none
  emptyLaunches : s.mishaps.emptyLaunches = false
  startTask : s.mishaps.startTask = none

variable {s : Service}

theorem StartsFreely.arrangedOutcome
    (h : s.StartsFreely) :
    s.arrangedOutcome = none := by
  rw [Service.arrangedOutcome, h.launchFailures]
  simp [h.emptyLaunches]

theorem demand_of_container
    {d : TaskDefinition} {c : ContainerDefinition} (h : d.containers = [c]) :
    d.demand = ⟨c.memoryDemand.toNat, c.cpu.toNat⟩ := by
  rw [TaskDefinition.demand, h]
  rfl

/-- A task with one container is started on an instance exactly if there is room
for it. -/
theorem startTask_onInstance
    (h : s.StartsFreely) (now : UInt64) {r : StartTask} {arn : String}
    (hinstances : r.instances = [arn]) {d : TaskDefinition}
    {c : ContainerDefinition} (hd : s.launchable r.definition = .ok d)
    (hc : d.containers = [c]) {i : ContainerInstance}
    (hi : s.instances[arn]? = some i) :
    (i.HasRoom c ∧ ∃ t, (s.startTask now r).1 = .ok ⟨[t], []⟩) ∨
    (¬i.HasRoom c ∧
      ∃ reason, (s.startTask now r).1 = .ok ⟨[], [⟨some arn, reason⟩]⟩) := by
  rw [Service.startTask, h.startTask, hd, h.arrangedOutcome, hinstances]
  simp only [startEach, startOn, hi, demand_of_container hc]
  by_cases hmemory : i.lacksMemory ⟨c.memoryDemand.toNat, c.cpu.toNat⟩ = true
  · rw [if_pos hmemory]
    refine Or.inr ⟨?_, _, rfl⟩
    rintro ⟨hroom, -⟩
    exact absurd (of_decide_eq_true hmemory) (Nat.not_lt.mpr hroom)
  rw [if_neg hmemory]
  by_cases hcpu : i.lacksCpu ⟨c.memoryDemand.toNat, c.cpu.toNat⟩ = true
  · rw [if_pos hcpu]
    refine Or.inr ⟨?_, _, rfl⟩
    rintro ⟨-, hroom⟩
    exact absurd (of_decide_eq_true hcpu) (Nat.not_lt.mpr hroom)
  rw [if_neg hcpu]
  have hroom : i.HasRoom c := by
    constructor
    · exact Nat.not_lt.mp fun hlt => hmemory (decide_eq_true hlt)
    · exact Nat.not_lt.mp fun hlt => hcpu (decide_eq_true hlt)
  exact Or.inl ⟨hroom, _, rfl⟩

end Service

/-! ## Finding an instance -/

/-- The host that a search for an instance of the cluster gives. -/
def Site.finds
    (site : Site) (s : Settings) (p : Profile) (c : ContainerDefinition) :
    Option Host :=
  ((Choice.ofPolicy (s.stopPolicy p.platform)).pick?
        (Requirements.ofContainer c p.platform)
        site.service.instances.values).map Host.ofInstance

open Script

variable {site : Site} {s : Settings} {p : Profile} {c : ContainerDefinition}

theorem findHost_run_eq
    (h : site.IsDirect) (hkeyed : site.service.Keyed) (now : UInt64) :
    ∃ site',
      (findHost s p c).run.run now site = (.ok (site.finds s p c), site') ∧
      site.OnlyNoted site' := by
  obtain ⟨site', hrun, hnoted⟩ :=
    instancesOf_run h hkeyed.instances now s.clusterName
  exact ⟨site', run_bind_of_ok (run_adapt_eq_ok_iff.mpr hrun) _, hnoted⟩

/-- What the search finds is an eligible instance. -/
theorem eligible_of_finds
    (hkeyed : site.service.Keyed) {host : Host}
    (h : site.finds s p c = some host) :
    ∃ i : ContainerInstance,
      host = Host.ofInstance i ∧
      site.service.instances[host.instanceArn]? = some i ∧
      i.Eligible (s.stopPolicy p.platform) p.platform c := by
  obtain ⟨i, hpick, rfl⟩ := Option.map_eq_some_iff.mp h
  obtain ⟨hmem, heligible⟩ := Choice.eligible_of_pick? hpick
  exact ⟨i, rfl, hkeyed.instances.getElem?_of_mem hmem, heligible⟩

/-- The search finds an instance exactly if one is eligible. -/
theorem canHost_iff_finds
    (hkeyed : site.service.Keyed) :
    site.service.CanHost s p c ↔ site.finds s p c ≠ none := by
  constructor
  · rintro ⟨arn, i, hi, heligible⟩ hnone
    have hmem : i ∈ site.service.instances.values :=
      Table.mem_values_iff.mpr ⟨arn, hi⟩
    exact Choice.pick?_ne_none hmem heligible (Option.map_eq_none_iff.mp hnone)
  · intro hsome
    obtain ⟨host, hfound⟩ := Option.ne_none_iff_exists'.mp hsome
    obtain ⟨i, -, hi, heligible⟩ := eligible_of_finds hkeyed hfound
    exact ⟨_, i, hi, heligible⟩

/-! ## Bringing up an instance -/

/-- The site once an instance of a pool has been brought up. -/
def Site.afterBringUp
    (site : Site) (pool : Pool) (s : Settings) (p : Profile) : Site where
  gateway := { site.gateway with
    service := site.service.enlist (pool.nth s p (pool.made + 1)) }
  supply := .pool { pool with made := pool.made + 1 }
  console := site.console ++ [Pool.announcement s p]

theorem run_bringUp_pool
    {pool : Pool} (hsupply : site.supply = .pool pool)
    (hblocked : pool.blocked = false) (now : UInt64) :
    (bringUp s p).run.run now site =
      (.ok (pool.nth s p (pool.made + 1)), site.afterBringUp pool s p) := by
  change site.perform now (.bringUp s p) = _
  have hfree : ¬pool.blocked = true := Bool.eq_false_iff.mp hblocked
  rw [Site.perform, hsupply]
  simp only [Supply.bringUp, if_neg hfree]
  rfl

/-- A pool that is not blocked brings up its next instance, and the cluster
knows it. -/
theorem bringUpHost_run_pool
    (h : site.IsDirect) {pool : Pool} (hsupply : site.supply = .pool pool)
    (hblocked : pool.blocked = false) (now : UInt64) :
    ∃ site',
      (bringUpHost s p).run.run now site =
        (.ok (Host.ofInstance (pool.nth s p (pool.made + 1))), site') ∧
      (site.afterBringUp pool s p).OnlyNoted site' := by
  have hdirect : (site.afterBringUp pool s p).IsDirect := h
  obtain ⟨site', hdescribe, hnoted⟩ :=
    run_describeInstances hdirect now s.clusterName
      [(pool.nth s p (pool.made + 1)).arn]
  refine ⟨site', ?_, hnoted⟩
  rw [bringUpHost, run_bind_of_ok (run_bringUp_pool hsupply hblocked now),
    run_bind_of_ok (run_adapt_eq_ok_iff.mpr hdescribe)]
  have hstored :
      (site.afterBringUp pool s p).service.instances[(pool.nth s p
          (pool.made + 1)).arn]? =
        some (pool.nth s p (pool.made + 1)) :=
    Table.getElem?_insert_eq_some_iff.mpr (Or.inl ⟨rfl, rfl⟩)
  have hfound :
      [pool.nth s p (pool.made + 1)].find?
          (·.arn == (pool.nth s p (pool.made + 1)).arn) =
        some (pool.nth s p (pool.made + 1)) :=
    List.find?_cons_of_pos (beq_self_eq_true _)
  rw [List.filterMap_cons_some hstored, List.filterMap_nil, hfound]
  rfl

/-! ## Finding a host or bringing one up -/

/-- What comes of the search for a host, with the site that it leaves. -/
inductive FindsHost
    (s : Settings) (p : Profile) (c : ContainerDefinition) (pool : Pool)
    (site site' : Site) : Option Host → Prop where
  | known {i : ContainerInstance}
      (hfinds : site.finds s p c = some (Host.ofInstance i))
      (hi : site'.service.instances[i.arn]? = some i) (hroom : i.HasRoom c)
      (hsupply : site'.supply = site.supply) :
      FindsHost s p c pool site site' (some (Host.ofInstance i))
  | spot (hfinds : site.finds s p c = none) (hspot : p.spot = true)
      (hsupply : site'.supply = site.supply) :
      FindsHost s p c pool site site' none
  | made {i : ContainerInstance} (hfinds : site.finds s p c = none)
      (hspot : p.spot = false) (hmade : i = pool.nth s p (pool.made + 1))
      (hi : site'.service.instances[i.arn]? = some i)
      (hsupply : site'.supply = .pool { pool with made := pool.made + 1 }) :
      FindsHost s p c pool site site' (some (Host.ofInstance i))

theorem findOrBringUpHost_findsHost
    (h : site.IsDirect) (hkeyed : site.service.Keyed) {pool : Pool}
    (hsupply : site.supply = .pool pool) (hblocked : pool.blocked = false)
    (now : UInt64) :
    ∃ found site',
      (findOrBringUpHost s p c).run.run now site = (.ok found, site') ∧
      FindsHost s p c pool site site' found := by
  obtain ⟨site₁, hfind, cs, rfl⟩ := findHost_run_eq h hkeyed now
  rw [findOrBringUpHost, run_bind_of_ok (run_adapt_eq_ok_iff.mpr hfind)]
  cases hfinds : site.finds s p c with
  | some host =>
    obtain ⟨i, rfl, hi, heligible⟩ := eligible_of_finds hkeyed hfinds
    refine ⟨_, _, run_bind_of_ok (run_lift_say now _ _) _, ?_⟩
    exact .known hfinds hi heligible.room rfl
  | none =>
    dsimp only
    rw [run_bind_of_ok (run_lift_say now _ _)]
    by_cases hspot : p.spot = true
    · rw [if_pos hspot]
      exact ⟨none, _, run_bind_of_ok (run_lift_say now _ _) _,
        .spot hfinds hspot rfl⟩
    · rw [if_neg hspot]
      generalize hsite₂ : Site.told (site.withService _) _ = site₂
      have hsupply₂ : site₂.supply = .pool pool := hsite₂ ▸ hsupply
      have hdirect₂ : site₂.IsDirect := hsite₂ ▸ h
      obtain ⟨site₃, hbring, cs', rfl⟩ :=
        bringUpHost_run_pool hdirect₂ hsupply₂ hblocked now
      refine ⟨_, _, run_bind_of_ok (run_adapt_eq_ok_iff.mpr hbring) _, ?_⟩
      refine .made hfinds (Bool.eq_false_iff.mpr hspot) rfl ?_ rfl
      exact Table.getElem?_insert_eq_some_iff.mpr (Or.inl ⟨rfl, rfl⟩)

/-! ## Launching on a host -/

theorem launchAt_onHost_run
    (h : site.IsDirect) (hfree : site.service.StartsFreely)
    {definitionArn : String} {d : TaskDefinition}
    (hd : site.service.launchable definitionArn = .ok d)
    (hc : d.containers = [c]) {i : ContainerInstance}
    (hi : site.service.instances[i.arn]? = some i) (now : UInt64)
    (s : Settings) :
    ∃ answer site',
      (launchAt s definitionArn (.onHost (Host.ofInstance i))).run.run now
          site =
        (answer, site') ∧
      site'.IsDirect ∧
      site'.supply = site.supply ∧
      ((i.HasRoom c ∧ ∃ t, answer = .ok ⟨[t], []⟩) ∨
        (¬i.HasRoom c ∧
          ∃ reason, answer = .ok ⟨[], [⟨some i.arn, reason⟩]⟩)) := by
  rw [launchAt, run_bind_of_ok (run_lift_say now _ _)]
  refine ⟨_, _, run_call (h.told _) now _, h, rfl, ?_⟩
  have hfree' :
      (site.service.noted
          [.startTask
              (startCall s definitionArn (Host.ofInstance i))]).StartsFreely :=
    ⟨hfree.launchFailures, hfree.emptyLaunches, hfree.startTask⟩
  exact Service.startTask_onInstance hfree' now rfl hd hc hi

/-- A launch on an instance starts a task exactly if the instance has room for
the container. -/
theorem launch_onHost_run
    (h : site.IsDirect) (hfree : site.service.StartsFreely)
    {i : ContainerInstance} (hi : site.service.instances[i.arn]? = some i)
    (now : UInt64) (fresh : Identity) (server : String) (s : Settings)
    (r : AgentRequest) (spec : Specification) :
    ∃ result site',
      (launch fresh server s r spec (.onHost (Host.ofInstance i))).run.run now
          site =
        (result, site') ∧
      site'.supply = site.supply ∧
      ((i.HasRoom spec.container ∧
          ∃ t, result = .ok t ∧ t.target = .machine i.machineId) ∨
        (¬i.HasRoom spec.container ∧
          ∃ reason,
            result = .error (.launch spec.name [⟨some i.arn, reason⟩]))) := by
  obtain ⟨site₁, heq, h₁, hsupply₁, hservice₁, hlaunchable⟩ :=
    launch_registers h now fresh server s r spec (.onHost (Host.ofInstance i))
  have hi₁ : site₁.service.instances[i.arn]? = some i := hservice₁ ▸ hi
  have hfree₁ : site₁.service.StartsFreely := by
    rw [hservice₁]
    exact ⟨hfree.launchFailures, hfree.emptyLaunches, hfree.startTask⟩
  obtain ⟨answer, site₂, hlaunch, h₂, hsupply₂, hanswer⟩ :=
    launchAt_onHost_run h₁ hfree₁ hlaunchable rfl hi₁ now s
  rw [heq, startRegistered, run_bind_of_ok (run_lift hlaunch)]
  rcases hanswer with ⟨hroom, t, rfl⟩ | ⟨hnone, reason, rfl⟩
  · refine ⟨_, _, run_bind_of_ok (run_lift_say now _ _) _,
      hsupply₂.trans hsupply₁, ?_⟩
    exact Or.inl ⟨hroom, _, rfl, rfl⟩
  · refine ⟨_, _, run_bind_of_ok (run_lift (removeDefinition_run h₂ now _)) _,
      hsupply₂.trans hsupply₁, ?_⟩
    exact Or.inr ⟨hnone, reason, rfl⟩

/-! ## Creations on instances -/

theorem createAgent_onInstances_eq
    {r : AgentRequest} (hinstances : r.profile.isServerless = false)
    {fresh : Identity} {server : String} {spec : Specification}
    (hspec : Specification.ofRequest fresh.agentName r s server = .ok spec) :
    createAgent fresh server s r = (do
      match ← findOrBringUpHost s r.profile spec.container with
      | none => return none
      | some host =>
        return some (← launch fresh server s r spec (.onHost host))) := by
  have hnot : ¬r.profile.isServerless = true := Bool.eq_false_iff.mp hinstances
  rw [createAgent, hspec]
  exact (pure_bind spec _).trans (if_neg hnot)

/-- The pool makes instances that a container fits on. -/
def Pool.Covers (pool : Pool) (c : ContainerDefinition) : Prop :=
  c.memoryDemand.toNat ≤ pool.memory.toNat ∧ c.cpu.toNat ≤ pool.cpu.toNat

/-- The container of a specification takes what its request asks for. -/
theorem Specification.container_of_ofRequest
    {name : String} {r : AgentRequest} {s : Settings} {server : String}
    {spec : Specification}
    (h : Specification.ofRequest name r s server = .ok spec) :
    spec.container.memoryDemand = r.profile.memory ∧
    spec.container.cpu = r.profile.cpu := by
  obtain ⟨environment, rfl⟩ := Specification.exists_of_ofRequest h
  exact ⟨rfl, rfl⟩

theorem Specification.name_of_ofRequest
    {name : String} {r : AgentRequest} {s : Settings} {server : String}
    {spec : Specification}
    (h : Specification.ofRequest name r s server = .ok spec) :
    spec.name = name := by
  obtain ⟨environment, rfl⟩ := Specification.exists_of_ofRequest h
  rfl

/-- What a creation on instances comes to, with the supply that it leaves. -/
inductive Admits
    (s : Settings) (p : Profile) (c : ContainerDefinition) (pool : Pool)
    (site : Site) (name : String) :
    Except Agent.Error (Option Agent) → Supply → Prop where
  /-- An instance of the cluster takes the task. -/
  | known {host : Host} {t : Agent} (hfinds : site.finds s p c = some host)
      (htarget : t.target = .machine host.machineId) :
      Admits s p c pool site name (.ok (some t)) (.pool pool)
  /-- The request is handed over to spot capacity. -/
  | spot (hfinds : site.finds s p c = none) (hspot : p.spot = true) :
      Admits s p c pool site name (.ok none) (.pool pool)
  /-- A new instance takes the task. -/
  | made {t : Agent} (hfinds : site.finds s p c = none) (hspot : p.spot = false)
      (hcovers : pool.Covers c)
      (htarget : t.target = .machine (Pool.machineId (pool.made + 1))) :
      Admits s p c pool site name (.ok (some t))
        (.pool { pool with made := pool.made + 1 })
  /-- A new instance is too small. -/
  | small (reason : String) (hfinds : site.finds s p c = none)
      (hspot : p.spot = false) (hcovers : ¬pool.Covers c) :
      Admits s p c pool site name
        (.error (.launch name
              [⟨some (Pool.instanceArn s.clusterName (pool.made + 1)),
                  reason⟩])) (.pool { pool with made := pool.made + 1 })

theorem createAgent_admits
    (h : site.IsDirect) (hkeyed : site.service.Keyed)
    (hfree : site.service.StartsFreely) {pool : Pool}
    (hsupply : site.supply = .pool pool) (hblocked : pool.blocked = false)
    {r : AgentRequest} (hinstances : r.profile.isServerless = false)
    {fresh : Identity} {server : String} {spec : Specification}
    (hspec : Specification.ofRequest fresh.agentName r s server = .ok spec)
    (now : UInt64) :
    ∃ result site',
      (createAgent fresh server s r).run.run now site = (result, site') ∧
      Admits s r.profile spec.container pool site fresh.agentName result
        site'.supply := by
  obtain ⟨found, site₁, hfind, hfound⟩ :=
    findOrBringUpHost_findsHost (s := s) (p := r.profile) (c := spec.container)
      h hkeyed hsupply hblocked now
  have h₁ := h.run now (findOrBringUpHost s r.profile spec.container).run
  have hsame :=
    sameRecords_of_search (findOrBringUpHost_only s r.profile spec.container) h
      now
  rw [hfind] at h₁ hsame
  have hfree₁ : site₁.service.StartsFreely :=
    ⟨hsame.mishaps ▸ hfree.launchFailures, hsame.mishaps ▸ hfree.emptyLaunches,
      hsame.mishaps ▸ hfree.startTask⟩
  rw [createAgent_onInstances_eq hinstances hspec, run_bind_of_ok hfind]
  cases hfound with
  | @known i hfinds hi hroom hsupply₁ =>
    obtain ⟨result, site₂, hlaunch, hsupply₂, houtcome⟩ :=
      launch_onHost_run h₁ hfree₁ hi now fresh server s r spec
    rcases houtcome with ⟨-, t, rfl, htarget⟩ | ⟨hnone, -⟩
    · refine ⟨_, _, run_bind_of_ok hlaunch _, ?_⟩
      rw [hsupply₂, hsupply₁, hsupply]
      exact .known hfinds htarget
    · exact absurd hroom hnone
  | spot hfinds hspot hsupply₁ =>
    refine ⟨_, _, rfl, ?_⟩
    rw [hsupply₁, hsupply]
    exact .spot hfinds hspot
  | made hfinds hspot hmade hi hsupply₁ =>
    subst hmade
    obtain ⟨result, site₂, hlaunch, hsupply₂, houtcome⟩ :=
      launch_onHost_run h₁ hfree₁ hi now fresh server s r spec
    rcases houtcome with ⟨hroom, t, rfl, htarget⟩ | ⟨hnone, reason, rfl⟩
    · refine ⟨_, _, run_bind_of_ok hlaunch _, ?_⟩
      rw [hsupply₂, hsupply₁]
      exact .made hfinds hspot hroom htarget
    · refine ⟨_, _, run_bind_of_error hlaunch _, ?_⟩
      rw [hsupply₂, hsupply₁, Specification.name_of_ofRequest hspec]
      exact .small reason hfinds hspot hnone

/-- A request for an agent with 1024 MiB on an instance. -/
def largeRequest : AgentRequest :=
  { smallRequest with profile := { image := "alpine", memory := 1024 } }

end AgentFleet

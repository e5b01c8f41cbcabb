import AgentFleet.Proofs.Admission
import AgentFleet.Proofs.Fallback
import AgentFleet.Proofs.InStep
import AgentFleet.Proofs.Validity
import AgentFleet.Simulation

/-!
# Simulations

What a simulation reports follows from the request, the subnets of the settings
and whether launches fail.  A task is scheduled, or the request is handed over
to spot capacity, or there is an error; in each case reconciliation finds what
was scheduled and nothing is left in the end.
-/

namespace AgentFleet

open Script

/-! ## Launches that fail -/

namespace Service

variable {s : Service} {o : LaunchOutcome}

/-- What has been arranged for launches is all that a start can answer with. -/
theorem serve_startTask_of_arranged
    (ho : s.arrangedOutcome = some o) (now : UInt64) (r : StartTask) :
    (s.serve now (.startTask r)).1 = .ok o ∨
    ∃ e, (s.serve now (.startTask r)).1 = .error e := by
  have ho' : (s.noted [.startTask r]).arrangedOutcome = some o := ho
  change ((s.noted [.startTask r]).startTask now r).1 = .ok o ∨
    ∃ e, ((s.noted [.startTask r]).startTask now r).1 = .error e
  rw [startTask, ho']
  cases (s.noted [.startTask r]).mishaps.startTask with
  | some e => exact Or.inr ⟨e, rfl⟩
  | none =>
    cases (s.noted [.startTask r]).launchable r.definition with
    | error e => exact Or.inr ⟨e, rfl⟩
    | ok d => exact Or.inl rfl

end Service

variable {s : Settings} {r : AgentRequest}

section

variable {site : Site} {d : TaskDefinition}

/-- A placement that a request may come to. -/
def Placement.ForProfile (p : Profile) : Placement → Prop
  | .onHost _ => True
  | .serverless _ share => share = ⟨Placement.provider p, 1, 0⟩

/-- A launch starts nothing where launches have been arranged to come to
something else. -/
theorem launchAt_of_arranged
    (h : site.IsDirect) {definitionArn : String}
    (hd : site.service.launchable definitionArn = .ok d) {o : LaunchOutcome}
    (ho : site.service.arrangedOutcome = some o) (now : UInt64) {p : Profile}
    {placement : Placement} (hplacement : placement.ForProfile p) :
    ∃ answer site',
      (launchAt s definitionArn placement).run.run now site = (answer, site') ∧
      site'.IsDirect ∧
      (answer = .ok o ∨ ∃ e, answer = .error e) := by
  cases placement with
  | onHost host =>
    rw [launchAt, run_bind_of_ok (run_lift_say now _ _)]
    exact ⟨_, _, run_call (h.told _) now _, h,
      Service.serve_startTask_of_arranged ho now _⟩
  | serverless network share =>
    obtain rfl : share = ⟨Placement.provider p, 1, 0⟩ := hplacement
    obtain ⟨answer, s', hrun, hlaunches⟩ :=
      launchAt_serverless_run h hd now network p (s := s)
    refine ⟨answer, _, hrun, h, ?_⟩
    cases hlaunches with
    | refused cs he hvalid => exact Or.inr ⟨_, rfl⟩
    | through hinvalid hruns =>
      cases hruns with
      | arranged cs ho' =>
        exact Or.inl (congrArg Except.ok (Option.some.inj (ho'.symm.trans ho)))
      | started cs launchType provider ho' hcapacity => cases ho'.symm.trans ho

/-- Where every launch reports failures, a launch ends in an error. -/
theorem launch_of_arranged
    (h : site.IsDirect) {o : LaunchOutcome}
    (ho : site.service.arrangedOutcome = some o) (now : UInt64)
    (fresh : Identity) (server : String) (spec : Specification)
    {placement : Placement} (hplacement : placement.ForProfile r.profile) :
    ∃ e site',
      (launch fresh server s r spec placement).run.run now site =
        (.error e, site') := by
  obtain ⟨site₁, heq, h₁, -, hservice₁, hlaunchable⟩ :=
    launch_registers h now fresh server s r spec placement
  have ho₁ : site₁.service.arrangedOutcome = some o := by
    rw [hservice₁]
    exact ho
  obtain ⟨answer, site₂, hlaunch, h₂, hanswer⟩ :=
    launchAt_of_arranged h₁ hlaunchable ho₁ now hplacement (s := s)
  have hremove :=
    removeDefinition_run h₂ now
      (site.service.nextDefinition spec.registration).arn
  rw [heq, startRegistered, run_bind_of_ok (run_lift hlaunch)]
  rcases hanswer with rfl | ⟨e, rfl⟩
  · obtain ⟨tasks, failures⟩ := o
    obtain rfl : tasks = [] := Service.arrangedOutcome_tasks ho
    exact ⟨_, _, run_bind_of_ok (run_lift hremove) _⟩
  · exact ⟨_, _, run_bind_of_ok (run_lift hremove) _⟩

/-! ## Serverless launches that nothing is arranged against -/

/-- A serverless launch starts a task if nothing has been arranged against it.
-/
theorem launch_serverless_of_free
    (h : site.IsDirect) (hmishap : site.service.mishaps.runTask = none)
    (ho : site.service.arrangedOutcome = none) (now : UInt64) (fresh : Identity)
    (server : String) (spec : Specification) (network : NetworkConfiguration)
    (p : Profile) :
    ∃ t site',
      (launch fresh server s r spec
          (.serverless network ⟨Placement.provider p, 1, 0⟩)).run.run now
          site =
        (.ok t, site') := by
  obtain ⟨site₁, heq, h₁, -, hservice₁, hlaunchable⟩ :=
    launch_registers h now fresh server s r spec
      (.serverless network ⟨Placement.provider p, 1, 0⟩)
  have hmishap₁ : site₁.service.mishaps.runTask = none := by
    rw [hservice₁]
    exact hmishap
  have ho₁ : site₁.service.arrangedOutcome = none := by
    rw [hservice₁]
    exact ho
  obtain ⟨answer, s', hlaunch, hlaunches⟩ :=
    launchAt_serverless_run h₁ hlaunchable now network p (s := s)
  rw [heq, startRegistered, run_bind_of_ok (run_lift hlaunch)]
  cases hlaunches with
  | refused cs he hvalid => cases hmishap₁.symm.trans he
  | through hinvalid hruns =>
    cases hruns with
    | arranged cs ho' => cases ho₁.symm.trans ho'
    | started cs launchType provider ho' hcapacity =>
      exact ⟨_, _, run_bind_of_ok (run_lift_say now _ _) _⟩

end

namespace Simulation

/-! ## The three outcomes -/

/-- There is a subnet for a serverless task. -/
def HasSubnet (s : Settings) (p : Profile) : Prop :=
  p.subnets ≠ [] ∨ s.subnets ≠ []

/-- An instance of a simulation is large enough for the container of a profile.
-/
def Fits (p : Profile) : Prop :=
  p.memory ≤ 8192 ∧ p.cpu ≤ 4096

/-- A task is scheduled. -/
def Schedules (s : Settings) (r : AgentRequest) (c : Conditions) : Prop :=
  r.IsValid ∧ c.failLaunch = false ∧
    ((r.profile.isServerless = true ∧ HasSubnet s r.profile) ∨
      (r.profile.isServerless = false ∧ Fits r.profile))

/-- The request is handed over to spot capacity. -/
def HandsOver (r : AgentRequest) : Prop :=
  r.IsValid ∧
  r.profile.isServerless = false ∧
  r.profile.spot = true ∧
  ¬Fits r.profile

/-- What comes of a creation in a simulation. -/
inductive ComesTo (s : Settings) (r : AgentRequest) (c : Conditions) :
    Except Agent.Error (Option Agent) → Prop where
  | scheduled (h : Schedules s r c) (t : Agent) : ComesTo s r c (.ok (some t))
  | handedOver (h : HandsOver r) : ComesTo s r c (.ok none)
  | failed (hschedules : ¬Schedules s r c) (hhandsOver : ¬HandsOver r)
      (e : Agent.Error) : ComesTo s r c (.error e)

variable {c : Conditions}

theorem forServerless_eq_ok_iff
    {task : String} {p : Profile} :
    (∃ placement, Placement.forServerless task s p = .ok placement) ↔
      HasSubnet s p := by
  rw [Placement.forServerless, Placement.orElse, HasSubnet]
  cases hown : p.subnets with
  | nil => cases hshared : s.subnets <;> simp
  | cons subnet rest => simp

/-! ## The site of a simulation -/

/-- Nothing is arranged against the removal of definitions, and nothing has been
created yet. -/
theorem service_tended
    (server : String) (s : Settings) (c : Conditions) (supply : Supply) :
    World.Tended server s
      { site := { gateway.service := service c, supply } } := by
  have hfresh : World.Tended server s { site :=
      { gateway.service :=
          if c.rejectCapacity then Service.withoutProviders {} else {}
        supply } } := by
    have hstart : World.Tended server s { site := { supply }, roster := ∅ } :=
      .start supply ∅
    split
    · exact hstart.arrange (a := .withoutProviders) trivial
    · exact hstart
  rw [service]
  split
  · exact hfresh.arrange
      (a := .breakLaunches [⟨none, "simulated launch failure"⟩]) trivial
  · exact hfresh

theorem site_tended
    (s : Settings) (r : AgentRequest) (c : Conditions) :
    ∃ added, World.Tended c.server s { site := site s r c, added } := by
  rw [site]
  cases hserverless : r.profile.isServerless with
  | true => exact ⟨[], service_tended _ _ _ _⟩
  | false =>
    have hfresh := service_tended c.server s c (.pool { made := 1 })
    exact ⟨_, hfresh.enlist (Pool.nth {} s r.profile 1)⟩

/-- The instance that is there from the beginning. -/
def firstInstance (s : Settings) (p : Profile) : ContainerInstance :=
  Pool.nth {} s p 1

theorem site_eq_of_onInstances
    (hinstances : r.profile.isServerless = false) :
    site s r c =
      { gateway.service := (service c).enlist (firstInstance s r.profile)
        supply := .pool { made := 1 } } := by
  rw [site, hinstances]
  rfl

theorem site_eq_of_serverless
    (hserverless : r.profile.isServerless = true) :
    site s r c = { gateway.service := service c } := by
  rw [site, hserverless]
  rfl

theorem mishaps_eq
    (s : Settings) (r : AgentRequest) (c : Conditions) :
    (site s r c).service.mishaps = (service c).mishaps := by
  cases hserverless : r.profile.isServerless with
  | true =>
    rw [site_eq_of_serverless hserverless]
    rfl
  | false =>
    rw [site_eq_of_onInstances hserverless]
    rfl

theorem runTask_mishap
    (s : Settings) (r : AgentRequest) (c : Conditions) :
    (site s r c).service.mishaps.runTask = none := by
  rw [mishaps_eq, service]
  cases c.rejectCapacity <;> cases c.failLaunch <;> rfl

theorem arrangedOutcome_of_fails
    (s : Settings) (r : AgentRequest) (hfails : c.failLaunch = true) :
    (site s r c).service.arrangedOutcome =
      some ⟨[], [⟨none, "simulated launch failure"⟩]⟩ := by
  rw [Service.arrangedOutcome, mishaps_eq, service, hfails]
  rfl

theorem startsFreely_of_works
    (s : Settings) (r : AgentRequest) (hworks : c.failLaunch = false) :
    (site s r c).service.StartsFreely := by
  have hmishaps : (service c).mishaps = {} := by
    rw [service, hworks]
    cases c.rejectCapacity <;> rfl
  constructor <;> rw [mishaps_eq, hmishaps]

theorem site_direct
    (s : Settings) (r : AgentRequest) (c : Conditions) :
    (site s r c).IsDirect := by
  obtain ⟨added, htended⟩ := site_tended s r c
  exact htended.direct

theorem site_keyed
    (s : Settings) (r : AgentRequest) (c : Conditions) :
    (site s r c).service.Keyed := by
  obtain ⟨added, htended⟩ := site_tended s r c
  exact htended.sound.keyed

theorem supply_eq_of_onInstances
    (hinstances : r.profile.isServerless = false) :
    (site s r c).supply = .pool { made := 1 } := by
  rw [site_eq_of_onInstances hinstances]

theorem instances_eq (c : Conditions) : (service c).instances = ∅ := by
  rw [service]
  cases c.rejectCapacity <;> cases c.failLaunch <;> rfl

/-! ## Room in a simulation -/

theorem covers_iff
    {p : Profile} {container : ContainerDefinition}
    (hmemory : container.memoryDemand = p.memory)
    (hcpu : container.cpu = p.cpu) :
    ({ made := 1 } : Pool).Covers container ↔ Fits p := by
  rw [Pool.Covers, hmemory, hcpu, Fits, UInt32.le_iff_toNat_le,
    UInt32.le_iff_toNat_le]

theorem system_matches
    (s : Settings) (p : Profile) :
    Text.sameCaseless ((firstInstance s p).osType?.getD "linux")
        p.platform.name =
      true := by
  have hsystem :
      (firstInstance s p).osType? = some (Pool.system p.platform) := by
    change (Pool.attributes p)[ContainerInstance.osAttribute]? = _
    rw [Pool.attributes]
    cases p.instanceType with
    | none => exact Std.ExtTreeMap.getElem?_insert_self
    | some machineType =>
      refine Std.ExtTreeMap.getElem?_insert.trans ?_
      rw [if_neg (by decide)]
      exact Std.ExtTreeMap.getElem?_insert_self
  rw [hsystem]
  cases p.platform <;> decide

/-- The instance that is there from the beginning can take every container that
fits. -/
theorem canHost_iff
    {container : ContainerDefinition}
    (hmemory : container.memoryDemand = r.profile.memory)
    (hcpu : container.cpu = r.profile.cpu)
    (hinstances : r.profile.isServerless = false) :
    (site s r c).service.CanHost s r.profile container ↔ Fits r.profile := by
  rw [← covers_iff hmemory hcpu, site_eq_of_onInstances hinstances]
  constructor
  · rintro ⟨arn, i, hi, heligible⟩
    have hinsert : ((service c).instances.insert (firstInstance s r.profile).arn
        (firstInstance s r.profile))[arn]? = some i := hi
    rw [instances_eq] at hinsert
    rcases Table.getElem?_insert_eq_some_iff.mp hinsert with ⟨-, rfl⟩ |
      ⟨-, hnone⟩
    · exact heligible.room
    · simp at hnone
  · intro hcovers
    refine ⟨_, firstInstance s r.profile,
      Table.getElem?_insert_eq_some_iff.mpr (Or.inl ⟨rfl, rfl⟩), ?_⟩
    exact ⟨Text.sameCaseless_iff.mpr rfl, system_matches s r.profile, hcovers,
      fun _ => ⟨rfl, rfl⟩⟩

/-! ## Creations in a simulation -/

/-- A request that no specification comes of ends in an error. -/
theorem comesTo_of_invalid
    (hinvalid : ¬r.IsValid) (now : UInt64) (fresh : Identity) :
    ∃ result site',
      (createAgent fresh c.server s r).run.run now (site s r c) =
        (result, site') ∧
      ComesTo s r c result := by
  have hvain : ∀ e, ComesTo s r c (.error e) :=
    .failed (fun h => hinvalid h.1) (fun h => hinvalid h.1)
  cases hspec : Specification.ofRequest fresh.agentName r s c.server with
  | error e =>
    rw [createAgent, hspec]
    exact ⟨_, _, rfl, hvain _⟩
  | ok spec =>
    exact absurd (Specification.ofRequest_eq_ok_iff.mp ⟨spec, hspec⟩) hinvalid

variable {spec : Specification} {fresh : Identity}

/-- A serverless request needs a subnet, and launches that work. -/
theorem comesTo_of_serverless
    (hvalid : r.IsValid) (hserverless : r.profile.isServerless = true)
    (hspec : Specification.ofRequest fresh.agentName r s c.server = .ok spec)
    (now : UInt64) :
    ∃ result site',
      (createAgent fresh c.server s r).run.run now (site s r c) =
        (result, site') ∧
      ComesTo s r c result := by
  have hhandsOver : ¬HandsOver r := by
    rintro ⟨-, hinstances, -⟩
    cases hserverless.symm.trans hinstances
  rw [createAgent_serverless_eq hserverless hspec,
    run_bind_of_ok (run_lift_say now _ _)]
  cases hplacement : Placement.forServerless fresh.agentName s r.profile with
  | error e =>
    refine ⟨_, _, rfl, .failed ?_ hhandsOver _⟩
    rintro ⟨-, -, ⟨-, hsubnet⟩ | ⟨hinstances, -⟩⟩
    · obtain ⟨placement, hfound⟩ := forServerless_eq_ok_iff.mpr hsubnet
      cases hfound.symm.trans hplacement
    · cases hserverless.symm.trans hinstances
  | ok placement =>
    have hsubnet := forServerless_eq_ok_iff.mp ⟨placement, hplacement⟩
    obtain ⟨network, share, rfl⟩ :=
      Placement.eq_serverless_of_forServerless hplacement
    obtain rfl := Placement.share_of_forServerless hplacement
    have htold := (site_direct s r c).told
      "This is a serverless task request. Not creating a container instance."
    cases hfails : c.failLaunch with
    | true =>
      have hplacement : Placement.ForProfile r.profile
          (.serverless network ⟨Placement.provider r.profile, 1, 0⟩) := rfl
      obtain ⟨e, site', hlaunch⟩ := launch_of_arranged (s := s) htold
        (arrangedOutcome_of_fails s r hfails) now fresh c.server spec hplacement
      refine ⟨_, _, run_bind_of_error hlaunch _, .failed ?_ hhandsOver e⟩
      rintro ⟨-, hworks, -⟩
      cases hfails.symm.trans hworks
    | false =>
      obtain ⟨t, site', hlaunch⟩ :=
        launch_serverless_of_free (s := s) (r := r) htold (runTask_mishap s r c)
          (startsFreely_of_works s r hfails).arrangedOutcome now fresh c.server
          spec network r.profile
      exact ⟨_, _, run_bind_of_ok hlaunch _,
        .scheduled ⟨hvalid, hfails, Or.inl ⟨hserverless, hsubnet⟩⟩ t⟩

/-! ### On instances -/

/-- The search finds the instance that is there exactly if the container fits.
-/
theorem fits_iff_finds
    (hinstances : r.profile.isServerless = false)
    (hspec : Specification.ofRequest fresh.agentName r s c.server = .ok spec) :
    Fits r.profile ↔ (site s r c).finds s r.profile spec.container ≠ none := by
  obtain ⟨hmemory, hcpu⟩ := Specification.container_of_ofRequest hspec
  exact (canHost_iff hmemory hcpu hinstances).symm.trans
    (canHost_iff_finds (site_keyed s r c))

/-- The search comes to an end, and leaves what is arranged for launches as it
is. -/
theorem search_run
    (hinstances : r.profile.isServerless = false) (now : UInt64)
    (container : ContainerDefinition) :
    ∃ found site',
      (findOrBringUpHost s r.profile container).run.run now (site s r c) =
        (.ok found, site') ∧
      FindsHost s r.profile container { made := 1 } (site s r c) site' found ∧
      site'.IsDirect ∧
      site'.service.arrangedOutcome = (site s r c).service.arrangedOutcome := by
  have hdirect := site_direct s r c
  obtain ⟨found, site', hfind, hfound⟩ :=
    findOrBringUpHost_findsHost (s := s) (p := r.profile) (c := container)
      hdirect (site_keyed s r c) (supply_eq_of_onInstances hinstances) rfl now
  have hdirect' := hdirect.run now (findOrBringUpHost s r.profile container).run
  have hsame :=
    sameRecords_of_search (findOrBringUpHost_only s r.profile container) hdirect
      now
  rw [hfind] at hdirect' hsame
  refine ⟨found, site', hfind, hfound, hdirect', ?_⟩
  rw [Service.arrangedOutcome, hsame.mishaps, Service.arrangedOutcome]

/-- Where launches fail, nothing is launched that is not handed over. -/
theorem comesTo_of_fails
    (hvalid : r.IsValid) (hinstances : r.profile.isServerless = false)
    (hspec : Specification.ofRequest fresh.agentName r s c.server = .ok spec)
    (hfails : c.failLaunch = true) (now : UInt64) :
    ∃ result site',
      (createAgent fresh c.server s r).run.run now (site s r c) =
        (result, site') ∧
      ComesTo s r c result := by
  have hfits := fits_iff_finds hinstances hspec
  have hschedules : ¬Schedules s r c := by
    rintro ⟨-, hworks, -⟩
    cases hfails.symm.trans hworks
  obtain ⟨found, site₁, hfind, hfound, hdirect₁, harranged⟩ :=
    search_run (s := s) (c := c) hinstances now spec.container
  rw [arrangedOutcome_of_fails s r hfails] at harranged
  have hlaunch :
      ∀ host,
        ∃ e site₂,
          (launch fresh c.server s r spec (.onHost host)).run.run now site₁ =
            (.error e, site₂) :=
    fun host =>
      launch_of_arranged hdirect₁ harranged now fresh c.server spec trivial
  rw [createAgent_onInstances_eq hinstances hspec, run_bind_of_ok hfind]
  cases hfound with
  | known hfinds =>
    obtain ⟨e, site₂, hlaunch⟩ := hlaunch _
    refine ⟨_, _, run_bind_of_error hlaunch _, .failed hschedules ?_ e⟩
    rintro ⟨-, -, -, hnot⟩
    exact hnot (hfits.mpr (hfinds ▸ Option.some_ne_none _))
  | spot hfinds hspot =>
    exact ⟨_, _, rfl,
      .handedOver ⟨hvalid, hinstances, hspot, fun h => hfits.mp h hfinds⟩⟩
  | made hfinds hspot =>
    obtain ⟨e, site₂, hlaunch⟩ := hlaunch _
    refine ⟨_, _, run_bind_of_error hlaunch _, .failed hschedules ?_ e⟩
    rintro ⟨-, -, hspot', -⟩
    cases hspot.symm.trans hspot'

/-- Where launches work, the instance that is there takes every container that
fits, and a second one is as small as the first. -/
theorem comesTo_of_works
    (hvalid : r.IsValid) (hinstances : r.profile.isServerless = false)
    (hspec : Specification.ofRequest fresh.agentName r s c.server = .ok spec)
    (hworks : c.failLaunch = false) (now : UInt64) :
    ∃ result site',
      (createAgent fresh c.server s r).run.run now (site s r c) =
        (result, site') ∧
      ComesTo s r c result := by
  have hfits := fits_iff_finds hinstances hspec
  obtain ⟨hmemory, hcpu⟩ := Specification.container_of_ofRequest hspec
  obtain ⟨result, site', hrun, hadmits⟩ :=
    createAgent_admits (site_direct s r c) (site_keyed s r c)
      (startsFreely_of_works s r hworks) (supply_eq_of_onInstances hinstances)
    rfl hinstances hspec now
  refine ⟨result, site', hrun, ?_⟩
  generalize site'.supply = supply at hadmits
  cases hadmits with
  | known hfinds =>
    have hfound := hfits.mpr (hfinds ▸ Option.some_ne_none _)
    exact .scheduled ⟨hvalid, hworks, Or.inr ⟨hinstances, hfound⟩⟩ _
  | spot hfinds hspot =>
    exact .handedOver ⟨hvalid, hinstances, hspot, fun h => hfits.mp h hfinds⟩
  | made hfinds hspot hcovers =>
    exact absurd hfinds (hfits.mp ((covers_iff hmemory hcpu).mp hcovers))
  | small reason hfinds hspot =>
    refine .failed ?_ ?_ _
    · rintro ⟨-, -, ⟨hserverless, -⟩ | ⟨-, hfound⟩⟩
      · cases hinstances.symm.trans hserverless
      · exact hfits.mp hfound hfinds
    · rintro ⟨-, -, hspot', -⟩
      cases hspot.symm.trans hspot'

/-- A creation in a simulation comes to one of the three outcomes. -/
theorem createAgent_comesTo
    (now : UInt64) (fresh : Identity) (s : Settings) (r : AgentRequest)
    (c : Conditions) :
    ∃ result site',
      (createAgent fresh c.server s r).run.run now (site s r c) =
        (result, site') ∧
      ComesTo s r c result := by
  by_cases hvalid : r.IsValid
  · obtain ⟨spec, hspec⟩ :
        ∃ spec,
          Specification.ofRequest fresh.agentName r s c.server = .ok spec :=
      Specification.ofRequest_eq_ok_iff.mpr hvalid
    cases hserverless : r.profile.isServerless with
    | true => exact comesTo_of_serverless hvalid hserverless hspec now
    | false =>
      cases hfails : c.failLaunch with
      | true => exact comesTo_of_fails hvalid hserverless hspec hfails now
      | false => exact comesTo_of_works hvalid hserverless hspec hfails now
  · exact comesTo_of_invalid hvalid now fresh

/-! ## Runs -/

/-- What a creation answers with is what reconciliation finds, and once it has
been stopped nothing is left of it. -/
theorem run_of_createAgent
    {now : UInt64} {result : Except Agent.Error (Option Agent)} {site' : Site}
    (hcreate : (createAgent fresh c.server s r).run.run now (site s r c) =
        (result, site')) :
    ∃ report,
      run now fresh s r c = .ok report ∧
      report.scheduled = result.toOption.join ∧
      (report.error.isSome = true ↔ ∃ e, result = .error e) ∧
      report.reconciled = (if report.scheduled.isSome then 1 else 0) ∧
      report.definitionsLeft = 0 := by
  obtain ⟨added, hsite⟩ := site_tended s r c
  have hname : fresh.agentName ∉ ([] : List String) := List.not_mem_nil
  have hcreated := hsite.create now r hname
  rw [World.create, hcreate] at hcreated
  rcases result with e | _ | t
  · obtain ⟨roster, site₁, hpass, hfound⟩ := hcreated.pass_run now
    simp only [run, hcreate, hpass]
    exact ⟨_, rfl, rfl, by simp, rfl, hfound.size_definitions⟩
  · obtain ⟨roster, site₁, hpass, hfound⟩ := hcreated.pass_run now
    simp only [run, hcreate, hpass]
    exact ⟨_, rfl, rfl, by simp, rfl, hfound.size_definitions⟩
  · obtain ⟨roster, site₁, hpass, hfound⟩ := hcreated.pass_run now
    have hstopped := hfound.stop now (t := t) List.mem_cons_self
    simp only [run, hcreate, hpass]
    refine ⟨_, rfl, rfl, by simp, rfl, hstopped.size_definitions.trans ?_⟩
    simp [World.stop]

/-- What a report says of a request, by the conditions of the simulation. -/
structure Report.Tells
    (s : Settings) (r : AgentRequest) (c : Conditions) (report : Report) :
    Prop where
  definitionsLeft : report.definitionsLeft = 0
  reconciled : report.reconciled = (if report.scheduled.isSome then 1 else 0)
  scheduled : report.scheduled.isSome = true ↔ Schedules s r c
  handedOver : report.scheduled = none ∧ report.error = none ↔ HandsOver r
  failed : report.error.isSome = true ↔ ¬Schedules s r c ∧ ¬HandsOver r

/-- What fits is not handed over. -/
theorem Schedules.not_handsOver (h : Schedules s r c) : ¬HandsOver r := by
  rintro ⟨-, hinstances, -, hnot⟩
  obtain ⟨-, -, ⟨hserverless, -⟩ | ⟨-, hfits⟩⟩ := h
  · cases hinstances.symm.trans hserverless
  · exact hnot hfits

/-- Of the three outcomes of a creation, its result tells which one it is. -/
theorem ComesTo.tells
    {result : Except Agent.Error (Option Agent)} (h : ComesTo s r c result) :
    (result.toOption.join.isSome = true ↔ Schedules s r c) ∧
    (result.toOption.join = none ∧ (¬∃ e, result = .error e) ↔ HandsOver r) ∧
    ((∃ e, result = .error e) ↔ ¬Schedules s r c ∧ ¬HandsOver r) := by
  cases h with
  | scheduled h t => simp [Except.toOption, h, h.not_handsOver]
  | handedOver h =>
    have hschedules : ¬Schedules s r c := fun h' => h'.not_handsOver h
    simp [Except.toOption, h, hschedules]
  | failed hschedules hhandsOver e =>
    simp [Except.toOption, hschedules, hhandsOver]

theorem run_tells
    (now : UInt64) (fresh : Identity) (s : Settings) (r : AgentRequest)
    (c : Conditions) :
    ∃ report, run now fresh s r c = .ok report ∧ report.Tells s r c := by
  obtain ⟨result, site', hcreate, hcomes⟩ := createAgent_comesTo now fresh s r c
  obtain ⟨report, hrun, hscheduled, herror, hreconciled, hleft⟩ :=
    run_of_createAgent hcreate
  obtain ⟨hschedules, hhandsOver, hfails⟩ := hcomes.tells
  have hnone : report.error = none ↔ ¬∃ e, result = .error e := by
    rw [← herror, Bool.not_eq_true, Option.isSome_eq_false_iff,
      Option.isNone_iff_eq_none]
  rw [← hscheduled] at hschedules
  rw [← hscheduled, ← hnone] at hhandsOver
  exact ⟨report, hrun, hleft, hreconciled, hschedules, hhandsOver,
    herror.trans hfails⟩

/-- What a simulation reports, for all settings, requests and conditions.  Under
which name the server acts and whether capacity providers are rejected makes no
difference to whether a task is scheduled, the request is handed over or there
is an error. -/
theorem run_characterised
    (now : UInt64) (fresh : Identity) (s : Settings) (r : AgentRequest)
    (c : Conditions) :
    ∃ report,
      run now fresh s r c = .ok report ∧
      report.Tells s r c ∧
      ∀ server rejectCapacity,
        ∃ report',
          run now fresh s r { c with server, rejectCapacity } = .ok report' ∧
          report'.scheduled.isSome = report.scheduled.isSome ∧
          report'.error.isSome = report.error.isSome := by
  obtain ⟨report, hrun, htells⟩ := run_tells now fresh s r c
  refine ⟨report, hrun, htells, ?_⟩
  intro server rejectCapacity
  obtain ⟨report', hrun', htells'⟩ :=
    run_tells now fresh s r { c with server, rejectCapacity }
  refine ⟨report', hrun', ?_, ?_⟩
  · rw [Bool.eq_iff_iff, htells.scheduled, htells'.scheduled]
    exact Iff.rfl
  · rw [Bool.eq_iff_iff, htells.failed, htells'.failed]
    exact Iff.rfl

end Simulation
end AgentFleet

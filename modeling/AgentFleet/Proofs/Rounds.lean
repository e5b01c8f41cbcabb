import AgentFleet.Proofs.Undoing

/-!
# Rounds of creations and stops

An agent is created and stopped again, over and over.  After the first round the
instances are as they were, or there is a new one on which nothing runs, so that
a request that succeeded once succeeds each time, and always finds an instance.
-/

namespace AgentFleet

open Script

variable {site site' : Site} {now : UInt64} {server : String} {s : Settings}
  {r : AgentRequest}

/-! ## Creations where an instance is eligible -/

/-- Which instance is picked depends on the request alone. -/
theorem Service.Picks.of_ofRequest
    {service : Service} {name name' : String} {spec spec' : Specification}
    {i : ContainerInstance} (h : service.Picks s r.profile spec.container i)
    (hspec : Specification.ofRequest name r s server = .ok spec)
    (hspec' : Specification.ofRequest name' r s server = .ok spec') :
    service.Picks s r.profile spec'.container i := by
  obtain ⟨hmemory, hcpu⟩ := Specification.container_of_ofRequest hspec
  obtain ⟨hmemory', hcpu'⟩ := Specification.container_of_ofRequest hspec'
  rw [Service.Picks, Requirements.ofContainer] at h ⊢
  rwa [hmemory', hcpu', ← hmemory, ← hcpu]

/-- A request for an agent on an instance succeeds where an instance is
eligible, and brings up none. -/
theorem createAgent_of_canHost
    (h : site.IsDirect) (hkeyed : site.service.Keyed)
    (hfree : site.service.StartsFreely)
    (hinstances : r.profile.isServerless = false) {fresh : Identity}
    {spec : Specification}
    (hspec : Specification.ofRequest fresh.agentName r s server = .ok spec)
    (hcan : site.service.CanHost s r.profile spec.container) (now : UInt64) :
    ∃ t site',
      (createAgent fresh server s r).run.run now site = (.ok (some t), site') ∧
      site'.supply = site.supply := by
  obtain ⟨host, hfinds⟩ :=
    Option.ne_none_iff_exists'.mp ((canHost_iff_finds hkeyed).mp hcan)
  obtain ⟨i, rfl, hi, heligible⟩ := eligible_of_finds hkeyed hfinds
  obtain ⟨site₀, hfind, cs, rfl⟩ :=
    findHost_run_eq (s := s) (p := r.profile) (c := spec.container) h hkeyed now
  obtain ⟨site₁, hsearch, h₁, hsupply₁, hservice₁⟩ : ∃ site₁,
      (findOrBringUpHost s r.profile spec.container).run.run now site =
        (.ok (some (Host.ofInstance i)), site₁) ∧ site₁.IsDirect ∧
      site₁.supply = site.supply ∧ site₁.service = site.service.noted cs := by
    rw [findOrBringUpHost, run_bind_of_ok (run_adapt_eq_ok_iff.mpr hfind),
      hfinds]
    exact ⟨_, run_bind_of_ok (run_lift_say now _ _) _, h, rfl, rfl⟩
  have hfree₁ : site₁.service.StartsFreely := hfree.of_mishaps (hservice₁ ▸ rfl)
  have hi₁ : site₁.service.instances[i.arn]? = some i := by
    rw [hservice₁]
    exact hi
  obtain ⟨result, site₂, hlaunch, hsupply₂, houtcome⟩ :=
    launch_onHost_run h₁ hfree₁ hi₁ now fresh server s r spec
  rw [createAgent_onInstances_eq hinstances hspec, run_bind_of_ok hsearch]
  rcases houtcome with ⟨-, t, rfl, -⟩ | ⟨hnone, -⟩
  · exact ⟨t, site₂, run_bind_of_ok hlaunch _, hsupply₂.trans hsupply₁⟩
  · exact absurd heligible.room hnone

/-! ## One round -/

/-- A site after an agent was created and stopped, against the service that the
agent was launched at: its instances are the same, and one more task is stopped.
-/
structure RoundTrip
    (pool : Pool) (fresh : Identity) (server : String) (s : Settings)
    (r : AgentRequest) (t : Agent) (site site' : Site) (base : Service) :
    Prop where
  grows : Grows pool s r.profile site.service base site'.supply
  direct : site'.IsDirect
  possible : site'.service.Possible
  deregister : site'.service.mishaps.deregister = none
  delete : site'.service.mishaps.delete = none
  definitionArn : t.definitionArn = Service.definitionArn fresh.agentName
    (site.service.revisions.getD fresh.agentName 0 + 1)
  taskArn :
    t.taskArn = Service.taskArn s.clusterName (site.service.launched + 1)
  definitions :
    site'.service.definitions = base.definitions.erase t.definitionArn
  tasks :
    ∃ task,
      site'.service.tasks = base.tasks.insert t.taskArn (Service.stopped task)
  instances : site'.service.instances = base.instances
  startsFreely : r.profile.isServerless = false → site'.service.StartsFreely
  picks : r.profile.isServerless = false → ∃ spec i,
    Specification.ofRequest fresh.agentName r s server = .ok spec ∧
      base.Picks s r.profile spec.container i ∧
      i.pendingTasks.toNat + 1 < 2 ^ 32

namespace Grows

variable {pool : Pool} {p : Profile} {service base : Service} {supply : Supply}

theorem bounded
    (h : Grows pool s p service base supply) (hbounded : service.Bounded) :
    base.Bounded := by
  cases h with
  | same => exact hbounded
  | made =>
    intro arn i hi
    rcases Table.getElem?_insert_eq_some_iff.mp hi with ⟨-, rfl⟩ | ⟨-, hi⟩
    · exact ⟨Nat.le_refl _, Nat.le_refl _⟩
    · exact hbounded arn i hi

theorem countsAt
    (h : Grows pool s p service base supply) {arn : Option String}
    (hcounts : service.CountsAt arn) :
    base.CountsAt arn := by
  cases h with
  | same => exact hcounts
  | made =>
    intro a i ha hi
    rcases Table.getElem?_insert_eq_some_iff.mp hi with ⟨-, rfl⟩ | ⟨-, hi⟩
    · exact Nat.one_lt_two_pow (by decide)
    · exact hcounts a i ha hi

/-- If the supply is as it was, no instance has been brought up. -/
theorem eq_of_supply
    (h : Grows pool s p service base supply) (hsupply : supply = .pool pool) :
    base = service := by
  cases h with
  | same => rfl
  | made =>
    have hmade := congrArg Supply.made hsupply
    exact absurd hmade (Nat.succ_ne_self pool.made)

theorem keyed
    (h : Grows pool s p service base supply) (hkeyed : service.Keyed) :
    base.Keyed := by
  cases h with
  | same => exact hkeyed
  | made =>
    exact ⟨hkeyed.tasks, hkeyed.definitions, hkeyed.instances.insert rfl⟩

/-- Apart from the instances nothing changes. -/
theorem eq_with
    (h : Grows pool s p service base supply) :
    base = { service with instances := base.instances } := by
  cases h with
  | same => rfl
  | made => rfl

theorem getElem?_of_getElem?
    (h : Grows pool s p service base supply)
    (hspares :
      service.instances[Pool.instanceArn s.clusterName (pool.made + 1)]? = none)
    {arn : String} {i : ContainerInstance}
    (hi : service.instances[arn]? = some i) :
    base.instances[arn]? = some i := by
  cases h with
  | same => exact hi
  | made =>
    refine Table.getElem?_insert_eq_some_iff.mpr (Or.inr ⟨?_, hi⟩)
    rintro rfl
    cases hspares.symm.trans hi

end Grows

theorem Site.IsDirect.run_possible
    {α : Type} (h : site.IsDirect) (hpossible : site.service.Possible)
    (now : UInt64) (x : Script α) :
    (x.run now site).2.service.Possible :=
  h.run_keeps now (P := Service.Possible) (fun _ c hs => hs.call now c)
    (fun _ i _ hs => hs.enlist i) hpossible x

/-- The instance that an agent has been created on, if it was there before,
could count the task. -/
def Agent.CountedFrom (t : Agent) (site site' : Site) : Prop :=
  ∀ task : Task, site'.service.tasks[t.taskArn]? = some task →
    site.service.CountsAt task.instanceArn

/-- A stop of an agent that has just been created completes a round. -/
theorem stopAgent_roundTrip
    (hdirect : site.IsDirect) (hpossible : site.service.Possible)
    (hbounded : site.service.Bounded)
    (hderegister : site.service.mishaps.deregister = none)
    (hdelete : site.service.mishaps.delete = none) {pool : Pool}
    (hsupply : site.supply = .pool pool) {fresh : Identity} {t : Agent}
    (hrun : (createAgent fresh server s r).run.run now site =
        (.ok (some t), site')) (hcounted : t.CountedFrom site site')
    (now' : UInt64) :
    ∃ site'' base,
      (stopAgent s t).run now' site' = ((), site'') ∧
      site'' =
        site'.withService
          ((site'.service.quit s.clusterName t).noted (stopCalls s t)) ∧
      RoundTrip pool fresh server s r t site site'' base := by
  have hlater :=
    Service.Later.run hdirect now (createAgent fresh server s r).run
  have hdirect' := hdirect.run now (createAgent fresh server s r).run
  have hpossible' :=
    hdirect.run_possible hpossible now (createAgent fresh server s r).run
  rw [hrun] at hlater hdirect' hpossible'
  have hderegister' := hlater.deregister hderegister
  have hdelete' := hlater.delete hdelete
  have hstop := stopAgent_run_eq hdirect' hderegister' hdelete' now' s t
  have hpossible'' := hdirect'.run_possible hpossible' now' (stopAgent s t)
  rw [hstop] at hpossible''
  obtain ⟨spec, arn, task, base, s', cs, hgrows, hcreates, hservice⟩ :=
    createAgent_launched hdirect hpossible.keyed hsupply hrun
  have hquit :
      site'.service.quit s.clusterName t =
        (s'.quit s.clusterName t).noted cs := by
    rw [hservice, Service.quit_noted]
  have hmishaps :
      (site'.service.quit s.clusterName t).mishaps = s'.mishaps := by
    rw [Service.quit_mishaps, hservice]
    rfl
  obtain ⟨htask, hinstance⟩ := hcreates.getElem?_tasks
  have hcounts : base.CountsAt arn := by
    rw [← hinstance]
    exact hgrows.countsAt (hcounted task (hservice ▸ htask))
  have hrevisions : base.revisions = site.service.revisions := by
    rw [hgrows.eq_with]
  have hlaunched : base.launched = site.service.launched := by
    rw [hgrows.eq_with]
  refine ⟨_, base, hstop, rfl, ?_⟩
  exact
    { grows := hgrows
      direct := hdirect'
      possible := hpossible''
      deregister :=
        (congrArg Mishaps.deregister (Service.quit_mishaps t)).trans
          hderegister'
      delete :=
        (congrArg Mishaps.delete (Service.quit_mishaps t)).trans hdelete'
      definitionArn := hrevisions ▸ hcreates.definitionArn_eq
      taskArn := hlaunched ▸ hcreates.taskArn_eq
      definitions :=
        (congrArg Service.definitions hquit).trans hcreates.quit_definitions
      tasks := ⟨task, (congrArg Service.tasks hquit).trans hcreates.quit_tasks⟩
      instances := (congrArg Service.instances hquit).trans
        (hcreates.quit_instances (hgrows.bounded hbounded) hcounts)
      startsFreely :=
        fun hinstances => (hcreates.startsFreely hinstances).of_mishaps hmishaps
      picks := fun hinstances => by
        obtain ⟨i, rfl, hpicks⟩ := hcreates.picks hinstances
        exact ⟨spec, i, hcreates.specification, hpicks, hcounts i.arn i rfl
          (hpicks.getElem?_instances (hgrows.keyed hpossible.keyed))⟩ }

/-! ## Any number of rounds -/

/-- What is new in a round: the identity of the agent, and the times. -/
structure Round where
  fresh : Identity
  created : UInt64
  stopped : UInt64

/-- The site after an agent was created and stopped, if one was created. -/
def Site.round
    (server : String) (s : Settings) (r : AgentRequest) (site : Site)
    (round : Round) : Option Site :=
  match (createAgent round.fresh server s r).run.run round.created site with
  | (.ok (some t), site') => some ((stopAgent s t).run round.stopped site').2
  | _ => none

/-- The site after several rounds in a row, if each of them creates an agent. -/
def Site.rounds
    (server : String) (s : Settings) (r : AgentRequest) (rounds : List Round)
    (site : Site) : Option Site :=
  rounds.foldlM (Site.round server s r) site

/-- A site where a request has been created and stopped: an instance of the
cluster is picked for it and can count its task, and nothing is arranged against
it. -/
structure Site.Ready
    (server : String) (s : Settings) (r : AgentRequest) (supply : Supply)
    (site : Site) : Prop where
  direct : site.IsDirect
  possible : site.service.Possible
  bounded : site.service.Bounded
  deregister : site.service.mishaps.deregister = none
  delete : site.service.mishaps.delete = none
  startsFreely : site.service.StartsFreely
  supply : site.supply = supply
  picks : ∃ name spec i, Specification.ofRequest name r s server = .ok spec ∧
    site.service.Picks s r.profile spec.container i ∧
    i.pendingTasks.toNat + 1 < 2 ^ 32

variable {supply : Supply}

/-- The first round leaves a site that is ready for more. -/
theorem RoundTrip.ready
    {pool : Pool} {fresh : Identity} {t : Agent} {base : Service}
    (h : RoundTrip pool fresh server s r t site site' base)
    (hinstances : r.profile.isServerless = false)
    (hbounded : site.service.Bounded) (hsupply : site'.supply = supply) :
    site'.Ready server s r supply := by
  obtain ⟨spec, i, hspec, hpicks, hcounts⟩ := h.picks hinstances
  refine
    { direct := h.direct
      possible := h.possible
      bounded := ?_
      deregister := h.deregister
      delete := h.delete
      startsFreely := h.startsFreely hinstances
      supply := hsupply
      picks := ⟨fresh.agentName, spec, i, hspec,
        hpicks.of_instances h.instances, hcounts⟩ }
  rw [Service.Bounded, h.instances]
  exact h.grows.bounded hbounded

namespace Site.Ready

/-- An agent that is created at a site that is ready is on the instance that was
picked, which can count its task. -/
theorem counted
    {pool : Pool} (h : site.Ready server s r (.pool pool))
    (hinstances : r.profile.isServerless = false) {fresh : Identity} {t : Agent}
    (hrun : (createAgent fresh server s r).run.run now site =
        (.ok (some t), site')) (hsupply : site'.supply = site.supply) :
    t.CountedFrom site site' := by
  obtain ⟨name, spec, i, hspec, hpicks, hcounts⟩ := h.picks
  obtain ⟨spec', arn, task, base, s', cs, hgrows, hcreates, hservice⟩ :=
    createAgent_launched h.direct h.possible.keyed h.supply hrun
  obtain rfl := hgrows.eq_of_supply (hsupply.trans h.supply)
  obtain ⟨j, rfl, hpicks'⟩ := hcreates.picks hinstances
  obtain rfl :=
    (hpicks.of_ofRequest hspec hcreates.specification).unique hpicks'
  obtain ⟨htask, hinstance⟩ := hcreates.getElem?_tasks
  intro task' htask' a i' ha hi'
  have htasks : site'.service.tasks[t.taskArn]? = some task := hservice ▸ htask
  obtain rfl : task = task' := Option.some.inj (htasks.symm.trans htask')
  obtain rfl : i.arn = a := Option.some.inj (hinstance.symm.trans ha)
  have hi := hpicks.getElem?_instances h.possible.keyed
  obtain rfl : i = i' := Option.some.inj (hi.symm.trans hi')
  exact hcounts

/-- Where a request succeeded once it succeeds again, and needs no new
instance. -/
theorem round
    {pool : Pool} (h : site.Ready server s r (.pool pool))
    (hinstances : r.profile.isServerless = false) (round : Round) :
    ∃ site',
      site.round server s r round = some site' ∧
      site'.Ready server s r (.pool pool) := by
  obtain ⟨name, spec, i, hspec, hpicks, -⟩ := h.picks
  obtain ⟨spec', hspec'⟩ : ∃ spec', Specification.ofRequest
      round.fresh.agentName r s server = .ok spec' :=
    Specification.ofRequest_eq_ok_iff.mpr
      (Specification.ofRequest_eq_ok_iff.mp ⟨spec, hspec⟩)
  have hcan :=
    (hpicks.of_ofRequest hspec hspec').canHost h.possible.keyed
  obtain ⟨t, site₁, hcreate, hsupply₁⟩ := createAgent_of_canHost h.direct
    h.possible.keyed h.startsFreely hinstances hspec' hcan round.created
  have hcounted := h.counted hinstances hcreate hsupply₁
  obtain ⟨site₂, base, hstop, rfl, htrip⟩ := stopAgent_roundTrip h.direct
    h.possible h.bounded h.deregister h.delete h.supply hcreate hcounted
    round.stopped
  refine ⟨_, ?_, htrip.ready hinstances h.bounded (hsupply₁.trans h.supply)⟩
  rw [Site.round, hcreate]
  exact congrArg (fun result => some result.2) hstop

/-- Further rounds go on like the first one. -/
theorem rounds
    {pool : Pool} (h : site.Ready server s r (.pool pool))
    (hinstances : r.profile.isServerless = false) (rounds : List Round) :
    ∃ site',
      site.rounds server s r rounds = some site' ∧
      site'.Ready server s r (.pool pool) := by
  induction rounds generalizing site with
  | nil => exact ⟨site, rfl, h⟩
  | cons round rounds ih =>
    obtain ⟨site₁, hround, h₁⟩ := h.round hinstances round
    obtain ⟨site₂, hrounds, h₂⟩ := ih h₁
    refine ⟨site₂, ?_, h₂⟩
    rw [Site.rounds, List.foldlM_cons, hround]
    exact hrounds

end Site.Ready

/-! ## The inverse of a creation -/

end AgentFleet

import AgentFleet.Proofs.Courses

/-!
# Calls on shared services

A call changes the holding of whoever makes it, in the way that its answer
tells, and no other one.  This is shown for each call that a creation or the
removal of an agent makes, and for each step that a creation takes.
-/

namespace AgentFleet

/-- A task of the holding runs, and its definition is active. -/
def Holding.Runs (cluster : String) (h : Holding) : Prop :=
  ∀ t : Task,
    h.task = some t →
    t.desiredStatus = .running ∧
    t.cluster = cluster ∧
    ∃ d : TaskDefinition,
      h.definition = some d ∧ d.status = .active ∧ t.definitionArn = d.arn

theorem Holding.Runs.of_none
    {cluster : String} {h : Holding} (hfree : h.task = none) :
    h.Runs cluster := by
  intro t ht
  rw [hfree] at ht
  cases ht

theorem Holding.Runs.launch
    {h : Holding} {d : TaskDefinition} (hd : h.definition = some d)
    (hactive : d.status = .active) (now : UInt64) (cluster : String)
    (instanceArn : Option String) (launchType : Option Capacity)
    (provider : Option String) (s : Service) :
    (h.launch (s.nextTask now cluster d instanceArn launchType provider)).Runs
      cluster := by
  intro t ht
  cases ht
  exact ⟨rfl, rfl, d, hd, hactive, rfl⟩

namespace Service.Shared

variable {s₀ s : Service} {bases : Std.ExtTreeMap String ContainerInstance}
  {hs rest : List Holding} {h : Holding} {d : TaskDefinition}

/-! ## Launches -/

/-- The definition that is launched is the one that is held. -/
theorem eq_of_launchable
    (hshared : Shared s₀ bases (h :: rest) s) (hd : h.definition = some d)
    {d' : TaskDefinition} (hlaunchable : s.launchable d.arn = .ok d') :
    d' = d ∧ d.status = .active := by
  obtain ⟨hd', hactive⟩ := getElem?_of_launchable hlaunchable
  have hstored := hshared.getElem?_definition List.mem_cons_self hd
  obtain rfl : d = d' := Option.some.inj (hstored.symm.trans hd')
  exact ⟨rfl, hactive⟩

theorem startTask
    (hshared : Shared s₀ bases (h :: rest) s) (hsound : s.Sound)
    (hreserves : s.ReservesForTasks) (hd : h.definition = some d)
    (hfree : h.task = none) (now : UInt64) {r : StartTask} {arn : String}
    (hdefinition : r.definition = d.arn) (hinstances : r.instances = [arn])
    (hfits : ∀ i : ContainerInstance,
        s.instances[arn]? = some i → i.pendingTasks.toNat + 1 < 2 ^ 32) :
    Shared s₀ bases (h.afterLaunch (s.startTask now r).1 :: rest)
      (s.startTask now r).2 ∧
    (h.afterLaunch (s.startTask now r).1).Runs r.cluster := by
  rcases startTask_cases now r s with ⟨e, -, heq⟩ | ⟨e, -, heq⟩ | ⟨fs, heq⟩ |
    ⟨d', hd', heq⟩
  · rw [heq]
    exact ⟨hshared.of_eq rfl rfl rfl rfl, .of_none hfree⟩
  · rw [heq]
    exact ⟨hshared, .of_none hfree⟩
  · rw [heq]
    exact ⟨hshared, .of_none hfree⟩
  · rw [hdefinition] at hd'
    obtain ⟨rfl, hactive⟩ := hshared.eq_of_launchable hd hd'
    rw [heq, hinstances]
    simp only [startEach]
    rcases startOn_cases now r.cluster d' arn s with ⟨f, hstart⟩ |
      ⟨i, hi, hmemory, hcpu, hstart⟩
    · rw [hstart]
      exact ⟨hshared, .of_none hfree⟩
    · rw [hstart]
      constructor
      · exact hshared.startOn hsound hreserves hd hfree now r.cluster hi hmemory
          hcpu (hfits i hi)
      · exact .launch hd hactive now r.cluster (some arn) (some .ec2) none s

theorem runTask
    (hshared : Shared s₀ bases (h :: rest) s) (hsound : s.Sound)
    (hd : h.definition = some d) (hfree : h.task = none) (now : UInt64)
    {r : RunTask} (hdefinition : r.definition = d.arn) :
    Shared s₀ bases (h.afterLaunch (s.runTask now r).1 :: rest)
      (s.runTask now r).2 ∧
    (h.afterLaunch (s.runTask now r).1).Runs r.cluster := by
  rcases runTask_cases now r s with
    ⟨e, -, heq⟩ | ⟨-, -, -, heq⟩ | ⟨e, -, heq⟩ | ⟨fs, heq⟩ |
      ⟨d', launchType, provider, hd', heq⟩
  · rw [heq]
    exact ⟨hshared.of_eq rfl rfl rfl rfl, .of_none hfree⟩
  · rw [heq]
    exact ⟨hshared, .of_none hfree⟩
  · rw [heq]
    exact ⟨hshared, .of_none hfree⟩
  · rw [heq]
    exact ⟨hshared, .of_none hfree⟩
  · rw [hdefinition] at hd'
    obtain ⟨rfl, hactive⟩ := hshared.eq_of_launchable hd hd'
    rw [heq]
    constructor
    · exact hshared.run hsound hfree now r.cluster d' launchType provider
    · exact .launch hd hactive now r.cluster none launchType provider s

/-! ## Removals -/

/-- What stands under the name of the definition of a holding is that
definition. -/
theorem definition_of_getElem?
    (hshared : Shared s₀ bases (h :: rest) s) {arn : String}
    (harn : ∀ d : TaskDefinition, h.definition = some d → d.arn = arn)
    (hgone : h.definition = none → s.definitions[arn]? = none)
    (hd : s.definitions[arn]? = some d) :
    h.definition = some d := by
  cases hd' : h.definition with
  | none =>
    exact absurd ((hgone hd').symm.trans hd) (Option.some_ne_none d).symm
  | some d' =>
    have hstored := hshared.getElem?_definition List.mem_cons_self hd'
    rw [harn d' hd'] at hstored
    exact hstored.symm.trans hd

/-- The definition of a holding is deregistered, or was gone before. -/
theorem deregister
    (hshared : Shared s₀ bases (h :: rest) s)
    (hfree : s.mishaps.deregister = none) {arn : String}
    (harn : ∀ d : TaskDefinition, h.definition = some d → d.arn = arn)
    (hgone : h.definition = none → s.definitions[arn]? = none) :
    Shared s₀ bases (h.retire :: rest) (s.deregister arn).2 := by
  rcases deregister_cases arn s with ⟨e, hsome, -⟩ | ⟨-, hnone, heq⟩ |
    ⟨d, -, hd, heq⟩
  · exact absurd (hfree.symm.trans hsome) (Option.some_ne_none e).symm
  · have hwithout : h.definition = none := by
      rw [Option.eq_none_iff_forall_ne_some]
      intro d hd
      have hstored := hshared.getElem?_definition List.mem_cons_self hd
      rw [harn d hd] at hstored
      exact absurd (hnone.symm.trans hstored) (Option.some_ne_none d).symm
    rw [heq, Holding.retire_of_none hwithout]
    exact hshared
  · have hheld := hshared.definition_of_getElem? harn hgone hd
    rw [heq, ← harn d hheld]
    exact hshared.redefine hheld

theorem status_ne_of_retired
    (hshared : Shared s₀ bases (h :: rest) s) {arn : String}
    (harn : ∀ d : TaskDefinition, h.definition = some d → d.arn = arn)
    (hgone : h.definition = none → s.definitions[arn]? = none)
    (hretired : h.IsRetired) :
    ∀ d : TaskDefinition,
      s.definitions[arn]? = some d → d.status ≠ .active := by
  intro d hd
  exact hretired d (hshared.definition_of_getElem? harn hgone hd)

/-- The definition of a holding is deleted, or was gone before. -/
theorem delete
    (hshared : Shared s₀ bases (h :: rest) s) (hfree : s.mishaps.delete = none)
    {arn : String}
    (harn : ∀ d : TaskDefinition, h.definition = some d → d.arn = arn)
    (hgone : h.definition = none → s.definitions[arn]? = none)
    (hretired : h.IsRetired) :
    Shared s₀ bases (h.forget :: rest) (s.delete [arn]).2 := by
  have hinactive := hshared.status_ne_of_retired harn hgone hretired
  rcases delete_cases [arn] s with ⟨e, hsome, -⟩ | ⟨-, heq⟩
  · exact absurd (hfree.symm.trans hsome) (Option.some_ne_none e).symm
  · rw [heq, removeDefinitions_singleton hinactive]
    cases hd : h.definition with
    | none =>
      rw [Holding.forget_of_none hd, Table.erase_of_getElem?_eq_none (hgone hd)]
      exact hshared
    | some d =>
      rw [← harn d hd]
      exact hshared.undefine hd

/-- The task of a holding is stopped, be it for the first time or not, if it is
in the cluster. -/
theorem stopTask
    (hshared : Shared s₀ bases (h :: rest) s) (hreserves : s.ReservesForTasks)
    {t : Task} (ht : h.task = some t) (cluster : String) :
    Shared s₀ bases (h.afterStop (s.stopTask cluster t.arn).1 :: rest)
      (s.stopTask cluster t.arn).2 ∧
    (h.afterStop (s.stopTask cluster t.arn).1).IsHaltedIn cluster ∧
    (t.cluster ≠ cluster → h.afterStop (s.stopTask cluster t.arn).1 = h) := by
  have hstored := hshared.getElem?_task List.mem_cons_self ht
  rcases stopTask_cases cluster t.arn s with
    ⟨e, heq, hnone⟩ | ⟨t', ht', hthere, hstopped, heq⟩ |
      ⟨t', ht', hthere, hactive, heq⟩
  · rw [heq]
    refine ⟨hshared, ?_, fun _ => rfl⟩
    intro t' ht' hthere
    obtain rfl : t = t' := Option.some.inj (ht.symm.trans ht')
    exact absurd hthere (hnone t hstored)
  · obtain rfl : t = t' := Option.some.inj (hstored.symm.trans ht')
    rw [heq]
    exact ⟨hshared.haltAgain ht hstopped, Holding.isHaltedIn_halt cluster h,
      fun hother => absurd hthere hother⟩
  · obtain rfl : t = t' := Option.some.inj (hstored.symm.trans ht')
    rw [heq]
    exact ⟨hshared.haltFirst hreserves ht hactive,
      Holding.isHaltedIn_halt cluster h, fun hother => absurd hthere hother⟩

end Service.Shared

/-! ## Undisturbed sites -/

/-- No instance has a name that the supply has yet to give to one. -/
def Supply.Spares (s : Service) : Supply → Prop
  | .pool p =>
    ∀ cluster n, p.made < n → s.instances[Pool.instanceArn cluster n]? = none
  | .promise _ => True
  | .outage _ => True

/-- Nothing was planted in the service and nothing is arranged against the
removal of definitions, and neither the gateway nor the supply gets in its way.
-/
structure Site.Undisturbed (site : Site) : Prop where
  direct : site.IsDirect
  grown : site.service.Grown
  deregister : site.service.mishaps.deregister = none
  delete : site.service.mishaps.delete = none
  supply : site.supply.Spares site.service

theorem Supply.Spares.of_machineAt
    {supply : Supply} {s s' : Service} (h : supply.Spares s)
    (hmachines : s'.machineAt = s.machineAt) :
    supply.Spares s' := by
  cases supply with
  | promise i => trivial
  | outage e => trivial
  | pool p =>
    intro cluster n hn
    have hnone := h cluster n hn
    have hmachine := congrFun hmachines (Pool.instanceArn cluster n)
    rwa [Service.machineAt, Service.machineAt, hnone, Option.map_none,
      Option.map_eq_none_iff] at hmachine

theorem Supply.bringUp_cases
    (s : Settings) (profile : Profile) (service : Service) (supply : Supply) :
    (∃ answer supply',
        supply.bringUp s profile service = (answer, supply', service) ∧
        ∀ s' : Service, supply.Spares s' → supply'.Spares s') ∨
    ∃ p : Pool,
      supply = .pool p ∧
      supply.bringUp s profile service =
        (.ok (p.nth s profile (p.made + 1)),
          .pool { p with made := p.made + 1 },
          service.enlist (p.nth s profile (p.made + 1))) := by
  cases supply with
  | promise i => exact Or.inl ⟨_, _, rfl, fun _ h => h⟩
  | outage e => exact Or.inl ⟨_, _, rfl, fun _ h => h⟩
  | pool p =>
    rw [bringUp]
    by_cases hblocked : p.blocked = true
    · rw [if_pos hblocked]
      exact Or.inl ⟨_, _, rfl, fun _ h => h⟩
    · rw [if_neg hblocked]
      exact Or.inr ⟨p, rfl, rfl⟩

/-- A pool never gives a name twice. -/
theorem Supply.Spares.bringUp
    {supply : Supply} {service : Service} (h : supply.Spares service)
    (s : Settings) (profile : Profile) :
    (supply.bringUp s profile service).2.1.Spares
      (supply.bringUp s profile service).2.2 := by
  rcases Supply.bringUp_cases s profile service supply with
    ⟨answer, supply', heq, hspares⟩ | ⟨p, rfl, heq⟩
  · rw [heq]
    exact hspares _ h
  · rw [heq]
    intro cluster n hn
    have hne :
        (p.nth s profile (p.made + 1)).arn ≠ Pool.instanceArn cluster n := by
      intro harn
      exact Nat.ne_of_lt hn (Pool.instanceArn_inj harn).2
    refine (Std.ExtTreeMap.getElem?_insert).trans
      ((if_neg (by simpa using hne)).trans ?_)
    exact h cluster n (Nat.lt_of_succ_lt hn)

namespace Site.Undisturbed

variable {site : Site}

theorem withService
    (h : site.Undisturbed) {s : Service} (hgrown : s.Grown)
    (hlater : site.service.Later s)
    (hmachines : s.machineAt = site.service.machineAt) :
    (site.withService s).Undisturbed where
  direct := h.direct.withService s
  grown := hgrown
  deregister := hlater.deregister h.deregister
  delete := hlater.delete h.delete
  supply := h.supply.of_machineAt hmachines

/-- No step disturbs a site. -/
theorem perform
    (h : site.Undisturbed) (now : UInt64) (a : Act) :
    (site.perform now a).2.Undisturbed := by
  cases a with
  | call c =>
    rw [h.direct.perform_call now c]
    exact h.withService (h.grown.call now c) (.serve now c _)
      (Service.machineAt_serve now c _)
  | say line => exact ⟨h.direct, h.grown, h.deregister, h.delete, h.supply⟩
  | bringUp s profile =>
    have hspares := Supply.Spares.bringUp h.supply s profile
    rw [Site.perform]
    rcases Supply.bringUp_cases s profile site.gateway.service site.supply with
      ⟨answer, supply, heq, -⟩ | ⟨p, -, heq⟩
    · rw [Site.service, heq] at hspares
      rw [heq]
      exact ⟨h.direct, h.grown, h.deregister, h.delete, hspares⟩
    · rw [Site.service, heq] at hspares
      rw [heq]
      exact ⟨h.direct, h.grown.enlist _, h.deregister, h.delete, hspares⟩

end Site.Undisturbed

/-! ## Steps of creations -/

/-- Every entry of a table is an entry of another. -/
def Table.Extends {β : Type} (m m' : Std.ExtTreeMap String β) : Prop :=
  ∀ (k : String) (v : β), m[k]? = some v → m'[k]? = some v

/-- The step does not make the number of tasks on an instance overflow. -/
def Act.countsFit (s : Service) : Act → Bool
  | .call (.startTask r) => r.instances.all fun arn =>
    (s.instances[arn]?).all fun i => i.pendingTasks.toNat + 1 < 2 ^ 32
  | _ => true

namespace Service.Shared

variable {s₀ : Service} {bases : Std.ExtTreeMap String ContainerInstance}
  {hs rest : List Holding} {h : Holding} {site : Site}

/-- A step that searches changes no holding, but a new instance may join. -/
theorem search
    (hshared : Shared s₀ bases hs site.service) (hsite : site.Undisturbed)
    {a : Act} (ha : a.Searches) (now : UInt64) :
    ∃ bases',
      Table.Extends bases bases' ∧
      Shared s₀ bases' hs (site.perform now a).2.service := by
  cases a with
  | call c =>
    refine ⟨bases, fun _ _ hbase => hbase, ?_⟩
    rw [hsite.direct.perform_call now c]
    cases c with
    | listInstances cluster => exact hshared.of_eq rfl rfl rfl rfl
    | describeInstances cluster arns => exact hshared.of_eq rfl rfl rfl rfl
    | _ => exact ha.elim
  | say line => exact ⟨bases, fun _ _ hbase => hbase, hshared⟩
  | bringUp s profile =>
    rw [Site.perform]
    rcases Supply.bringUp_cases s profile site.gateway.service site.supply with
      ⟨answer, supply, heq, -⟩ | ⟨p, hp, heq⟩
    · rw [heq]
      exact ⟨bases, fun _ _ hbase => hbase, hshared⟩
    · rw [heq]
      have hnew :
          site.service.instances[Pool.instanceArn s.clusterName (p.made + 1)]? =
            none := by
        have hfree := hsite.supply
        rw [hp] at hfree
        exact hfree s.clusterName (p.made + 1) (Nat.lt_succ_self _)
      refine ⟨_, ?_, hshared.enlist hnew (Nat.le_refl _) (Nat.le_refl _)⟩
      intro a base hbase
      refine Table.getElem?_insert_eq_some_iff.mpr (Or.inr ⟨?_, hbase⟩)
      rintro rfl
      exact absurd ((hshared.base_eq_none hnew).symm.trans hbase)
        (Option.some_ne_none base).symm

/-- A step that a creation may take changes its holding as it is answered, and
no other one. -/
theorem perform
    (hshared : Shared s₀ bases (h :: rest) site.service)
    (hsite : site.Undisturbed) {cluster : String} (hruns : h.Runs cluster)
    {a : Act} (hallows : h.Allows cluster a)
    (hfits : a.countsFit site.service = true) (now : UInt64) :
    ∃ bases',
      Table.Extends bases bases' ∧
      Shared s₀ bases' (h.after a (site.perform now a).1 :: rest)
        (site.perform now a).2.service ∧
      (h.after a (site.perform now a).1).Runs cluster := by
  have hsound := hsite.grown.sound
  have hreserves := hsite.grown.reservesForTasks
  cases hallows with
  | search ha =>
    obtain ⟨bases', hextends, hshared'⟩ := hshared.search hsite ha now
    rw [Holding.after_of_searches ha]
    exact ⟨bases', hextends, hshared', hruns⟩
  | register r =>
    have hnoted := hshared.noted [.register r]
    refine ⟨bases, fun _ _ hbase => hbase, ?_⟩
    rw [hsite.direct.perform_call]
    exact ⟨hnoted.register (hsound.noted _) r, .of_none rfl⟩
  | @start d r arn hcluster hdefinition hinstances =>
    have hroom :
        ∀ i : ContainerInstance,
          site.service.instances[arn]? = some i →
          i.pendingTasks.toNat + 1 < 2 ^ 32 := by
      intro i hi
      simpa [Act.countsFit, hinstances, hi] using hfits
    have hnoted := hshared.noted [.startTask r]
    refine ⟨bases, fun _ _ hbase => hbase, ?_⟩
    rw [hsite.direct.perform_call, ← hcluster]
    exact hnoted.startTask (hsound.noted _) hreserves rfl rfl now hdefinition
      hinstances hroom
  | @run d r hcluster hdefinition =>
    have hnoted := hshared.noted [.runTask r]
    refine ⟨bases, fun _ _ hbase => hbase, ?_⟩
    rw [hsite.direct.perform_call, ← hcluster]
    exact hnoted.runTask (hsound.noted _) rfl rfl now hdefinition
  | deregister d =>
    have hnoted := hshared.noted [.deregister d.arn]
    refine ⟨bases, fun _ _ hbase => hbase, ?_, .of_none rfl⟩
    rw [hsite.direct.perform_call]
    exact hnoted.deregister hsite.deregister (by simp) (by simp)
  | @delete d hinactive =>
    have hnoted := hshared.noted [.delete [d.arn]]
    refine ⟨bases, fun _ _ hbase => hbase, ?_, .of_none rfl⟩
    rw [hsite.direct.perform_call]
    exact hnoted.delete hsite.delete (by simp) (by simp)
      (by simpa [Holding.IsRetired] using hinactive)

end Service.Shared

/-! ## Steps of removals -/

/-- What is held is what the agent is made up of, as far as it is still there.
-/
structure Holding.Belongs
    (cluster : String) (a : Agent) (s : Service) (h : Holding) : Prop where
  task : ∃ t : Task, h.task = some t ∧ t.arn = a.taskArn ∧ t.cluster = cluster
  definition :
    ∀ d : TaskDefinition, h.definition = some d → d.arn = a.definitionArn
  spares : s.SparesDefinition a.definitionArn
  gone : h.definition = none → s.definitions[a.definitionArn]? = none

theorem Service.Forgets.perform
    {site : Site} {arn : String} (h : site.service.Forgets arn)
    (hdirect : site.IsDirect) (now : UInt64) (a : Act) :
    (site.perform now a).2.service.Forgets arn :=
  hdirect.perform_keeps now (P := fun s => s.Forgets arn)
    (fun _ c hs => hs.serve now c) (fun _ i _ hs => hs.enlist i) a h

theorem Holding.Belongs.perform
    {cluster : String} {a : Agent} {site : Site} {h : Holding}
    (hbelongs : h.Belongs cluster a site.service) (hdirect : site.IsDirect)
    (now : UInt64) (x : Act) :
    h.Belongs cluster a (site.perform now x).2.service where
  task := hbelongs.task
  definition := hbelongs.definition
  spares := by
    have hlater := Service.Later.run hdirect now (Script.perform x)
    exact hbelongs.spares.later hlater
  gone := by
    intro hnone
    have hforgets : site.service.Forgets a.definitionArn :=
      ⟨hbelongs.gone hnone, hbelongs.spares⟩
    exact (hforgets.perform hdirect now x).gone

theorem Holding.Belongs.afterStop
    {cluster : String} {a : Agent} {s : Service} {h : Holding}
    (hbelongs : h.Belongs cluster a s) (answer : Except Refusal Task) :
    (h.afterStop answer).Belongs cluster a s := by
  cases answer with
  | error e => exact hbelongs
  | ok _ =>
    obtain ⟨t, ht, harn, hcluster⟩ := hbelongs.task
    refine ⟨⟨Service.stopped t, ?_, harn, hcluster⟩, hbelongs.definition,
      hbelongs.spares, hbelongs.gone⟩
    rw [Holding.afterStop, Holding.halt, ht]
    rfl

theorem Holding.Belongs.retire
    {cluster : String} {a : Agent} {s : Service} {h : Holding}
    (hbelongs : h.Belongs cluster a s) :
    h.retire.Belongs cluster a s := by
  refine ⟨hbelongs.task, ?_, hbelongs.spares, ?_⟩
  · intro d hd
    obtain ⟨d', hd', rfl⟩ := Option.map_eq_some_iff.mp hd
    rw [Service.retired_arn]
    exact hbelongs.definition d' hd'
  · intro hnone
    exact hbelongs.gone (Option.map_eq_none_iff.mp hnone)

namespace Service.Shared

variable {s₀ : Service} {bases : Std.ExtTreeMap String ContainerInstance}
  {rest : List Holding} {h : Holding} {site : Site}

/-- What the next step of a removal comes to, for an agent of cluster `home`
that is asked to stop in a cluster. -/
structure Leaves
    (s₀ : Service) (bases : Std.ExtTreeMap String ContainerInstance)
    (rest : List Holding) (home cluster : String) (a : Agent)
    (script : Script Unit) (h h' : Holding) (s : Service) : Prop where
  shared : Shared s₀ bases (h' :: rest) s
  belongs : h'.Belongs home a s
  follows : h'.Follows cluster a script
  others :
    ∀ (other : String) (script' : Script Unit),
      h.Follows other a script' → h'.Follows other a script'
  /-- Elsewhere nothing is done to the task. -/
  elsewhere : cluster ≠ home → h'.task = h.task

/-- A step of the removal of an agent takes it one step further, and no other
one back. -/
theorem leaves
    (hshared : Shared s₀ bases (h :: rest) site.service)
    (hsite : site.Undisturbed) {home cluster : String} {a : Agent}
    (hbelongs : h.Belongs home a site.service) {x : Act}
    {next : x.Answer → Script Unit}
    (hfollows : h.Follows cluster a (.act x next)) (now : UInt64) :
    Leaves s₀ bases rest home cluster a (next (site.perform now x).1) h
      (h.after x (site.perform now x).1) (site.perform now x).2.service := by
  have hbelongs' := hbelongs.perform hsite.direct now x
  generalize hscript : Script.act x next = script at hfollows
  cases hfollows with
  | begun s hcluster =>
    cases hscript
    obtain ⟨t, ht, harn, hhome⟩ := hbelongs.task
    have hnoted :=
      hshared.noted [.stopTask s.clusterName a.taskArn stoppedBecause]
    obtain ⟨hstopped, hhalted, helsewhere⟩ :=
      hnoted.stopTask hsite.grown.reservesForTasks ht s.clusterName
    rw [harn] at hstopped hhalted helsewhere
    rw [hsite.direct.perform_call] at hbelongs' ⊢
    refine ⟨hstopped, hbelongs'.afterStop _, .halted (hcluster ▸ hhalted), ?_,
      ?_⟩
    · intro other script' hfollows
      refine hfollows.mono (fun hhalted => hhalted.afterStop _)
        (fun hretired d hd => ?_) ?_
      · exact hretired d ((Holding.afterStop_definition h _).symm.trans hd)
      · exact (Holding.afterStop_definition h _).trans
    · intro hne
      refine congrArg Holding.task (helsewhere ?_)
      rw [hhome, hcluster]
      exact hne.symm
  | halted hhalted =>
    cases hscript
    have hnoted := hshared.noted [.deregister a.definitionArn]
    have hretired :=
      hnoted.deregister hsite.deregister hbelongs.definition hbelongs.gone
    refine ⟨?_, hbelongs'.retire, .retired hhalted (Holding.isRetired_retire h),
      ?_, fun _ => rfl⟩
    · rw [hsite.direct.perform_call]
      exact hretired
    · intro other script' hfollows
      refine hfollows.mono (fun hhalted => hhalted)
        (fun _ => Holding.isRetired_retire h) ?_
      intro hnone
      exact Option.map_eq_none_iff.mpr hnone
  | retired hhalted hretired =>
    cases hscript
    have hnoted := hshared.noted [.delete [a.definitionArn]]
    have hdeleted :=
      hnoted.delete hsite.delete hbelongs.definition hbelongs.gone hretired
    refine ⟨?_, ?_, .removed hhalted rfl, ?_, fun _ => rfl⟩
    · rw [hsite.direct.perform_call]
      exact hdeleted
    · refine ⟨hbelongs.task, ?_, hbelongs'.spares, ?_⟩
      · rintro d ⟨⟩
      · intro _
        have herased :=
          delete_definitions
            (s := site.service.noted [.delete [a.definitionArn]]) hsite.delete
            (hnoted.status_ne_of_retired hbelongs.definition hbelongs.gone
                hretired)
        rw [hsite.direct.perform_call]
        refine (congrArg (fun ds => ds[a.definitionArn]?) herased).trans ?_
        exact Std.ExtTreeMap.getElem?_erase_self
    · intro other script' hfollows
      refine hfollows.mono (fun hhalted => hhalted) ?_ fun _ => rfl
      rintro - d ⟨⟩
  | removed hhalted hnone => cases hscript

end Service.Shared
end AgentFleet

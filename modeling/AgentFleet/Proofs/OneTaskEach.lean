import AgentFleet.Proofs.Admission
import AgentFleet.Proofs.Balance
import AgentFleet.Proofs.SharedCalls

/-!
# One task on each instance

If instances are terminated once they are idle, only idle ones are chosen, and
then no instance ever has more than one task on it that has not been stopped.
Nothing checks for this: it comes of the counts that an instance keeps, which
tell how many tasks are on it, and of new instances being idle.
-/

namespace AgentFleet

open Script

variable {α β ε : Type}

/-! ## What holds throughout a run -/

namespace Script

/-- A property of sites holds at every point of a run. -/
def Throughout (now : UInt64) (I : Site → Prop) : Script α → Site → Prop
  | .done _, site => I site
  | .act a next, site =>
    I site ∧
    (next (site.perform now a).1).Throughout now I (site.perform now a).2

variable {now : UInt64} {I J : Site → Prop} {site : Site}

theorem Throughout.bind
    {x : Script α} {f : α → Script β} (hx : x.Throughout now I site)
    (hf : (f (x.run now site).1).Throughout now I (x.run now site).2) :
    (x >>= f).Throughout now I site := by
  induction x generalizing site with
  | done a => exact hf
  | act a next ih => exact ⟨hx.1, ih _ hx.2 hf⟩

theorem Throughout.end
    {x : Script α} (hx : x.Throughout now I site) :
    I (x.run now site).2 := by
  induction x generalizing site with
  | done a => exact hx
  | act a next ih => exact ih _ hx.2

theorem Throughout.mono
    {x : Script α} (hx : x.Throughout now I site)
    (hmono : ∀ site', I site' → J site') :
    x.Throughout now J site := by
  induction x generalizing site with
  | done a => exact hmono _ hx
  | act a next ih => exact ⟨hmono _ hx.1, ih _ hx.2⟩

/-- What all steps of a script keep holds throughout its runs. -/
theorem Only.throughout
    {p : Act → Prop} {x : Script α} (hx : x.Only p)
    (hstep : ∀ a site, p a → I site → I (site.perform now a).2)
    (hsite : I site) :
    x.Throughout now I site := by
  induction x generalizing site with
  | done a => exact hsite
  | act a next ih => exact ⟨hsite, ih _ (hx.2 _) (hstep a site hx.1 hsite)⟩

/-- After a result a run goes on, and an error ends it. -/
theorem Throughout.bindExcept
    {x : ExceptT ε Script α} {f : α → ExceptT ε Script β}
    (hx : x.run.Throughout now I site)
    (hf : ∀ a site',
        x.run.run now site = (.ok a, site') →
        I site' →
        (f a).run.Throughout now I site') :
    (x >>= f).run.Throughout now I site := by
  refine Throughout.bind (x := x.run) hx ?_
  rcases hrun : x.run.run now site with ⟨result, site'⟩
  have hend := hx.end
  rw [hrun] at hend
  cases result with
  | ok a => exact hf a site' hrun hend
  | error e => exact hend

theorem Throughout.map
    {x : Script α} (hx : x.Throughout now I site) (f : α → β) :
    (f <$> x).Throughout now I site :=
  Throughout.bind hx hx.end

end Script

/-! ## Instances and their tasks -/

namespace Service

/-- At most one task is on an instance, which then counts it and nothing else,
and an instance that was busy from the start is as it was. -/
structure Tenanted (s₀ s : Service) : Prop where
  sound : s.Sound
  vacant : ∀ arn : String, s.instances[arn]? = none → s.tasksOn arn = []
  single :
    ∀ (arn : String) (i : ContainerInstance),
      s.instances[arn]? = some i →
      s.tasksOn arn = [] ∨
      ∃ t, s.tasksOn arn = [t] ∧ i.runningTasks = 0 ∧ i.pendingTasks = 1
  busy : ∀ (arn : String) (i : ContainerInstance), s₀.instances[arn]? = some i →
    i.isIdle = false → s.tasksOn arn = [] ∧ s.instances[arn]? = some i

variable {s₀ s s' : Service}

theorem mem_tasksOn
    {arn : String} {t : Task} (ht : s.tasks[arn]? = some t) {a : String}
    (hon : t.instanceArn = some a) (hactive : t.desiredStatus ≠ .stopped) :
    t ∈ s.tasksOn a :=
  List.mem_filter.mpr
    ⟨Table.mem_values_iff.mpr ⟨arn, ht⟩, occupies_iff.mpr ⟨hon, hactive⟩⟩

namespace Tenanted

theorem start (hsound : s.Sound) (hempty : s.tasks = ∅) : Tenanted s s := by
  have hnone : ∀ arn, s.tasksOn arn = [] := by
    intro arn
    rw [tasksOn, hempty]
    rfl
  exact ⟨hsound, fun arn _ => hnone arn, fun arn _ _ => Or.inl (hnone arn),
    fun arn i hi _ => ⟨hnone arn, hi⟩⟩

/-- If no task comes or goes, instances may change that were not there. -/
theorem of_perm
    (h : Tenanted s₀ s) (hsound : s'.Sound)
    (hinstances : s'.instances = s.instances)
    (htasks : ∀ arn, (s'.tasksOn arn).Perm (s.tasksOn arn)) :
    Tenanted s₀ s' where
  sound := hsound
  vacant := by
    intro arn hnone
    rw [hinstances] at hnone
    exact (h.vacant arn hnone ▸ htasks arn).eq_nil
  single := by
    intro arn i hi
    rw [hinstances] at hi
    rcases h.single arn i hi with hnone | ⟨t, hone, hcounts⟩
    · exact Or.inl (hnone ▸ htasks arn).eq_nil
    · exact Or.inr ⟨t, List.perm_singleton.mp (hone ▸ htasks arn), hcounts⟩
  busy := by
    intro arn i hi hbusy
    obtain ⟨hnone, hsame⟩ := h.busy arn i hi hbusy
    rw [hinstances]
    exact ⟨(hnone ▸ htasks arn).eq_nil, hsame⟩

/-- An idle instance has no task on it. -/
theorem tasksOn_of_idle
    (h : Tenanted s₀ s) {arn : String} {i : ContainerInstance}
    (hi : s.instances[arn]? = some i) (hidle : i.isIdle = true) :
    s.tasksOn arn = [] := by
  rcases h.single arn i hi with hnone | ⟨t, -, -, hpending⟩
  · exact hnone
  · obtain ⟨-, hzero⟩ := ContainerInstance.isIdle_iff.mp hidle
    rw [hpending] at hzero
    cases hzero

/-- A new instance has no task on it. -/
theorem enlist
    (h : Tenanted s₀ s) {i : ContainerInstance}
    (hnew : s.instances[i.arn]? = none) :
    Tenanted s₀ (s.enlist i) where
  sound := h.sound.enlist i
  vacant := by
    intro arn hnone
    apply h.vacant arn
    rw [Service.enlist, Std.ExtTreeMap.getElem?_insert] at hnone
    split at hnone
    · cases hnone
    · exact hnone
  single := by
    intro arn j hj
    rcases Table.getElem?_insert_eq_some_iff.mp hj with ⟨rfl, rfl⟩ | ⟨-, hold⟩
    · exact Or.inl (h.vacant _ hnew)
    · exact h.single arn j hold
  busy := by
    intro arn j hj hbusy
    obtain ⟨hnone, hsame⟩ := h.busy arn j hj hbusy
    refine ⟨hnone, Table.getElem?_insert_eq_some_iff.mpr (Or.inr ⟨?_, hsame⟩)⟩
    rintro rfl
    exact Option.some_ne_none j (hsame.symm.trans hnew)

/-- One instance changes together with its tasks. -/
theorem replace
    (h : Tenanted s₀ s) (hsound : s'.Sound) {arn : String}
    {i' : ContainerInstance}
    (hinstances : s'.instances = s.instances.insert arn i')
    (hhere : s'.tasksOn arn = [] ∨
      ∃ t, s'.tasksOn arn = [t] ∧ i'.runningTasks = 0 ∧ i'.pendingTasks = 1)
    (helsewhere : ∀ a, arn ≠ a → (s'.tasksOn a).Perm (s.tasksOn a))
    (hidle : ∀ i : ContainerInstance,
        s₀.instances[arn]? = some i → i.isIdle = true) :
    Tenanted s₀ s' where
  sound := hsound
  vacant := by
    intro a hnone
    rw [hinstances, Std.ExtTreeMap.getElem?_insert] at hnone
    split at hnone
    · cases hnone
    · rename_i hne
      exact (h.vacant a hnone ▸ helsewhere a (by simpa using hne)).eq_nil
  single := by
    intro a j hj
    rw [hinstances] at hj
    rcases Table.getElem?_insert_eq_some_iff.mp hj with ⟨rfl, rfl⟩ | ⟨hne, hold⟩
    · exact hhere
    · rcases h.single a j hold with hnone | ⟨t, hone, hcounts⟩
      · exact Or.inl (hnone ▸ helsewhere a hne).eq_nil
      · exact Or.inr
          ⟨t, List.perm_singleton.mp (hone ▸ helsewhere a hne), hcounts⟩
  busy := by
    intro a j hj hbusy
    have hne : arn ≠ a := by
      rintro rfl
      rw [hidle j hj] at hbusy
      cases hbusy
    obtain ⟨hnone, hsame⟩ := h.busy a j hj hbusy
    rw [hinstances]
    exact ⟨(hnone ▸ helsewhere a hne).eq_nil,
      Table.getElem?_insert_eq_some_iff.mpr (Or.inr ⟨hne, hsame⟩)⟩

/-- A task is started on an idle instance. -/
theorem afterStart
    (h : Tenanted s₀ s) (now : UInt64) (cluster : String) (d : TaskDefinition)
    {i : ContainerInstance} {arn : String} (hi : s.instances[arn]? = some i)
    (hidle : i.isIdle = true) :
    Tenanted s₀ (s.afterStart now cluster d i arn) := by
  have hfresh := h.sound.getElem?_taskArn cluster
  obtain ⟨hrunning, hpending⟩ := ContainerInstance.isIdle_iff.mp hidle
  refine h.replace (h.sound.afterStart now cluster d hi) rfl
    (Or.inr
        ⟨s.nextTask now cluster d (some arn) (some .ec2) none, ?_, hrunning,
          ?_⟩) ?_ ?_
  · have hhere :=
      tasksOn_perm_of_new hfresh (s.afterStart now cluster d i arn) rfl
        (a := arn) (occupies_iff.mpr ⟨rfl, DesiredStatus.noConfusion⟩)
    rw [h.tasksOn_of_idle hi hidle] at hhere
    exact List.perm_singleton.mp hhere
  · rw [ContainerInstance.reserve, hpending]
    rfl
  · intro a ha
    refine tasksOn_perm_of_new_elsewhere hfresh _ rfl ?_
    rw [occupies_iff]
    rintro ⟨hon, -⟩
    exact ha (Option.some.inj hon)
  · intro j hj
    rw [← Bool.not_eq_false]
    intro hbusy
    obtain ⟨-, hsame⟩ := h.busy arn j hj hbusy
    obtain rfl : i = j := Option.some.inj (hi.symm.trans hsame)
    rw [hidle] at hbusy
    cases hbusy

/-- A task that runs on no instance is launched. -/
theorem launch
    (h : Tenanted s₀ s) (now : UInt64) (cluster : String) (d : TaskDefinition)
    (launchType : Option Capacity) (provider : Option String) :
    Tenanted s₀ (s.launch now cluster d none launchType provider).2 := by
  refine h.of_perm (h.sound.launch now cluster d none launchType provider) rfl
    ?_
  intro a
  refine tasksOn_perm_of_new_elsewhere (h.sound.getElem?_taskArn cluster) _ rfl
    ?_
  rw [occupies_iff]
  rintro ⟨⟨⟩, -⟩

/-- A task leaves its instance, which counts one less. -/
theorem stop
    (h : Tenanted s₀ s) {arn : String} {t : Task} (ht : s.tasks[arn]? = some t)
    (hactive : t.desiredStatus ≠ .stopped) :
    Tenanted s₀
      ({ s with tasks := s.tasks.insert arn (stopped t) }.handBack arn t) := by
  have hsound := (h.sound.insertStopped ht).handBack arn t
  rcases handBack_cases arn t { s with tasks := s.tasks.insert arn (stopped t) }
    with
    ⟨hnone, heq⟩ | ⟨a₀, i, ha₀, hi, heq⟩
  · rw [heq] at hsound ⊢
    refine h.of_perm hsound rfl ?_
    intro a
    refine tasksOn_perm_of_stopped_elsewhere ht _ rfl ?_
    rw [occupies_iff]
    rintro ⟨hon, -⟩
    have hmem := mem_tasksOn ht hon hactive
    rw [h.vacant a (hnone a hon)] at hmem
    cases hmem
  · have hmem := mem_tasksOn ht ha₀ hactive
    rw [heq] at hsound ⊢
    refine h.replace hsound rfl (Or.inl ?_) ?_ ?_
    · have hhere := tasksOn_perm_of_stopped ht { s with
        tasks := s.tasks.insert arn (stopped t)
        reservations := s.reservations.erase arn
        instances :=
          s.instances.insert a₀ (i.release s.reservations[arn]?) } rfl (a := a₀)
        (occupies_iff.mpr ⟨ha₀, hactive⟩)
      rcases h.single a₀ i hi with hempty | ⟨t', hone, -⟩
      · rw [hempty] at hmem
        cases hmem
      · rw [hone] at hhere
        have hlength := hhere.length_eq
        simpa using hlength
    · intro a ha
      refine tasksOn_perm_of_stopped_elsewhere ht _ rfl ?_
      rw [occupies_iff]
      rintro ⟨hon, -⟩
      exact ha (Option.some.inj (ha₀.symm.trans hon))
    · intro j hj
      rw [← Bool.not_eq_false]
      intro hbusy
      rw [(h.busy a₀ j hj hbusy).1] at hmem
      cases hmem

/-- A stopped task is stopped again. -/
theorem stopAgain
    (h : Tenanted s₀ s) {arn : String} {t : Task} (ht : s.tasks[arn]? = some t)
    (hstopped : t.desiredStatus = .stopped) :
    Tenanted s₀ { s with tasks := s.tasks.insert arn (stopped t) } := by
  refine h.of_perm (h.sound.insertStopped ht) rfl ?_
  intro a
  refine tasksOn_perm_of_stopped_elsewhere ht _ rfl ?_
  rw [occupies_iff]
  rintro ⟨-, hactive⟩
  exact hactive hstopped

/-- A change that leaves tasks and instances alone. -/
theorem of_eq
    (h : Tenanted s₀ s) (hsound : s'.Sound) (htasks : s'.tasks = s.tasks)
    (hinstances : s'.instances = s.instances) :
    Tenanted s₀ s' := by
  refine h.of_perm hsound hinstances ?_
  intro arn
  rw [tasksOn, tasksOn, htasks]

end Tenanted

/-- A call that starts a task does so on one instance, which is idle if it is
there. -/
def StartsOnIdle (s : Service) : Call → Prop
  | .startTask r => ∃ arn, r.instances = [arn] ∧
    ∀ i : ContainerInstance, s.instances[arn]? = some i → i.isIdle = true
  | _ => True

namespace Tenanted

theorem startTask
    (h : Tenanted s₀ s) (now : UInt64) {r : StartTask}
    (hidle : s.StartsOnIdle (.startTask r)) :
    Tenanted s₀ (s.startTask now r).2 := by
  obtain ⟨arn, hinstances, hidle⟩ := hidle
  rcases startTask_cases now r s with ⟨e, -, heq⟩ | ⟨e, -, heq⟩ | ⟨fs, heq⟩ |
    ⟨d, -, heq⟩
  · rw [heq]
    exact h.of_eq (h.sound.of_eq rfl rfl rfl rfl rfl) rfl rfl
  · rwa [heq]
  · rwa [heq]
  · rw [heq, hinstances]
    simp only [startEach]
    rcases startOn_cases now r.cluster d arn s with ⟨f, hstart⟩ |
      ⟨i, hi, -, -, hstart⟩
    · rwa [hstart]
    · rw [hstart]
      exact h.afterStart now r.cluster d hi (hidle i hi)

theorem runTask
    (h : Tenanted s₀ s) (now : UInt64) (r : RunTask) :
    Tenanted s₀ (s.runTask now r).2 := by
  rcases runTask_cases now r s with
    ⟨e, -, heq⟩ | ⟨-, -, -, heq⟩ | ⟨e, -, heq⟩ | ⟨fs, heq⟩ |
      ⟨d, launchType, provider, -, heq⟩
  · rw [heq]
    exact h.of_eq (h.sound.of_eq rfl rfl rfl rfl rfl) rfl rfl
  · rwa [heq]
  · rwa [heq]
  · rwa [heq]
  · rw [heq]
    exact h.launch now r.cluster d launchType provider

theorem stopTask
    (h : Tenanted s₀ s) (cluster arn : String) :
    Tenanted s₀ (s.stopTask cluster arn).2 := by
  rcases stopTask_cases cluster arn s with
    ⟨e, heq, -⟩ | ⟨t, ht, -, hstopped, heq⟩ | ⟨t, ht, -, hactive, heq⟩
  · rwa [heq]
  · rw [heq]
    exact h.stopAgain ht hstopped
  · rw [heq]
    exact h.stop ht hactive

/-- Calls that start tasks on idle instances only keep instances apart. -/
theorem serve
    (h : Tenanted s₀ s) (now : UInt64) {c : Call} (hidle : s.StartsOnIdle c) :
    Tenanted s₀ (s.serve now c).2 := by
  have hsound := h.sound.serve now c
  have hnoted : Tenanted s₀ (s.noted [c]) := h.of_eq (h.sound.noted [c]) rfl rfl
  cases c with
  | startTask r => exact hnoted.startTask now hidle
  | runTask r => exact hnoted.runTask now r
  | stopTask cluster arn reason => exact hnoted.stopTask cluster arn
  | deregister arn =>
    have hsame := deregister_sameBut arn (s.noted [.deregister arn])
    exact h.of_eq hsound hsame.tasks hsame.instances
  | delete arns =>
    rcases delete_cases arns (s.noted [.delete arns]) with ⟨e, -, heq⟩ |
      ⟨-, heq⟩
    · have hserve : s.serve now (.delete arns) = _ := heq
      rw [hserve] at hsound ⊢
      exact h.of_eq hsound rfl rfl
    · have hserve : s.serve now (.delete arns) = _ := heq
      rw [hserve] at hsound ⊢
      exact h.of_eq hsound rfl rfl
  | _ => exact h.of_eq hsound rfl rfl

end Tenanted

end Service

/-! ## Sites whose instances are told apart -/

/-- Nothing gets between scripts and a service whose instances have at most one
task each, and new instances come from a pool. -/
structure Site.Tenanted (s₀ : Service) (site : Site) : Prop where
  direct : site.IsDirect
  service : Service.Tenanted s₀ site.service
  pool : ∃ pool, site.supply = .pool pool
  spares : site.supply.Spares site.service

/-- The step starts a task on an idle instance if it starts one. -/
def Act.StartsOnIdle (s : Service) : Act → Prop
  | .call c => s.StartsOnIdle c
  | _ => True

namespace Site.Tenanted

variable {s₀ : Service} {site : Site}

theorem perform
    (h : site.Tenanted s₀) (now : UInt64) {a : Act}
    (ha : a.StartsOnIdle site.service) :
    (site.perform now a).2.Tenanted s₀ := by
  cases a with
  | call c =>
    rw [h.direct.perform_call now c]
    exact ⟨h.direct, h.service.serve now ha, h.pool,
      h.spares.of_machineAt (Service.machineAt_serve now c site.service)⟩
  | say line => exact ⟨h.direct, h.service, h.pool, h.spares⟩
  | bringUp s profile =>
    rw [Site.perform]
    obtain ⟨pool, hpool⟩ := h.pool
    have hspares := Supply.Spares.bringUp h.spares s profile
    have hfree := h.spares
    rw [hpool] at hspares hfree ⊢
    rw [Supply.bringUp] at hspares ⊢
    by_cases hblocked : pool.blocked = true
    · rw [if_pos hblocked] at hspares ⊢
      exact ⟨h.direct, h.service, ⟨_, rfl⟩, hspares⟩
    · rw [if_neg hblocked] at hspares ⊢
      exact ⟨h.direct,
        h.service.enlist (hfree s.clusterName _ (Nat.lt_succ_self _)), ⟨_, rfl⟩,
        hspares⟩

end Site.Tenanted

/-- The step does not start a task on an instance. -/
def Act.StartsNothing : Act → Prop
  | .call (.startTask _) => False
  | _ => True

theorem Act.StartsNothing.startsOnIdle
    {a : Act} (ha : a.StartsNothing) (s : Service) :
    a.StartsOnIdle s := by
  cases a with
  | call c =>
    cases c with
    | startTask r => exact ha.elim
    | _ => trivial
  | _ => trivial

theorem Act.Searches.startsNothing
    {a : Act} (ha : a.Searches) :
    a.StartsNothing := by
  cases a with
  | call c =>
    cases c with
    | startTask r => exact ha
    | _ => trivial
  | _ => trivial

/-! ## Idle hosts -/

/-- Instances are terminated once they are idle, on every platform. -/
def Settings.TerminatesIdle (s : Settings) : Prop :=
  ∀ platform, s.stopPolicy platform = .terminateIdle

/-- The instance of a name is idle, if there is one. -/
def Service.IdleAt (s : Service) (arn : String) : Prop :=
  ∀ i : ContainerInstance, s.instances[arn]? = some i → i.isIdle = true

variable {s₀ : Service} {site : Site} {s : Settings} {p : Profile}
  {c : ContainerDefinition}

/-- A host that was brought up is idle. -/
theorem bringUpHost_idle
    {site' : Site} (h : site.Tenanted s₀) {now : UInt64} {host : Host}
    (hrun : (bringUpHost s p).run.run now site = (.ok host, site')) :
    site'.service.IdleAt host.instanceArn := by
  obtain ⟨pool, hpool⟩ := h.pool
  by_cases hblocked : pool.blocked = true
  · obtain ⟨made, site₁, hmade, -⟩ := exists_of_run_bind hrun
    have hanswer : (site.supply.bringUp s p site.service).1 = .ok made :=
      congrArg Prod.fst hmade
    rw [hpool, Supply.bringUp, if_pos hblocked] at hanswer
    cases hanswer
  · obtain ⟨site₁, hmade, cs, rfl⟩ :=
      bringUpHost_run_pool (s := s) (p := p) h.direct hpool
        (Bool.eq_false_iff.mpr hblocked) now
    obtain ⟨hhost, rfl⟩ := Prod.mk.inj (hmade.symm.trans hrun)
    obtain rfl := Except.ok.inj hhost
    intro i hi
    have hstored :
        (site.afterBringUp pool s p).service.instances[(pool.nth s p
            (pool.made + 1)).arn]? =
          some (pool.nth s p (pool.made + 1)) :=
      Table.getElem?_insert_eq_some_iff.mpr (Or.inl ⟨rfl, rfl⟩)
    obtain rfl : pool.nth s p (pool.made + 1) = i :=
      Option.some.inj (hstored.symm.trans hi)
    rfl

/-- Whatever host is found or brought up, it is idle. -/
theorem findOrBringUpHost_idle
    {site' : Site} (h : site.Tenanted s₀) (hs : s.TerminatesIdle) {now : UInt64}
    {host : Host}
    (hrun : (findOrBringUpHost s p c).run.run now site =
        (.ok (some host), site')) :
    site'.service.IdleAt host.instanceArn := by
  have hkeyed := h.service.sound.keyed
  obtain ⟨site₀, hfind, cs, rfl⟩ :=
    findHost_run_eq (s := s) (p := p) (c := c) h.direct hkeyed now
  rw [findOrBringUpHost, run_bind_of_ok (run_adapt_eq_ok_iff.mpr hfind)] at hrun
  cases hfinds : site.finds s p c with
  | some known =>
    rw [hfinds] at hrun
    obtain ⟨⟨⟩, site₁, htold, hrun⟩ := exists_of_run_bind hrun
    obtain ⟨hknown, rfl⟩ := run_pure_eq_ok_iff.mp hrun
    obtain rfl := Option.some.inj hknown
    obtain rfl := (Prod.mk.inj htold).2
    obtain ⟨i, -, hi, heligible⟩ := eligible_of_finds hkeyed hfinds
    intro j hj
    obtain rfl : i = j := Option.some.inj (hi.symm.trans hj)
    exact ContainerInstance.isIdle_iff.mpr (heligible.idle (hs p.platform))
  | none =>
    rw [hfinds] at hrun
    obtain ⟨⟨⟩, site₁, htold, hrun⟩ := exists_of_run_bind hrun
    obtain rfl := (Prod.mk.inj htold).2
    by_cases hspot : p.spot = true
    · rw [if_pos hspot] at hrun
      obtain ⟨⟨⟩, site₂, -, hrun⟩ := exists_of_run_bind hrun
      cases hrun
    · rw [if_neg hspot] at hrun
      obtain ⟨made, site₂, hmade, hrun⟩ := exists_of_run_bind hrun
      obtain ⟨hhost, rfl⟩ := run_pure_eq_ok_iff.mp hrun
      obtain rfl := Option.some.inj hhost
      have h₁ : ∀ line,
          Site.Tenanted s₀
            ((site.withService (site.service.noted cs)).told line) :=
        fun _ => ⟨h.direct,
          h.service.of_eq (h.service.sound.noted cs) rfl rfl, h.pool, h.spares⟩
      exact bringUpHost_idle (h₁ _) (run_adapt_eq_ok_iff.mp hmade)

/-- A placement on a host is one on an idle instance. -/
def Placement.IsIdle (service : Service) : Placement → Prop
  | .onHost host => service.IdleAt host.instanceArn
  | .serverless _ _ => True

theorem choosePlacement_idle
    {site' : Site} (h : site.Tenanted s₀) (hs : s.TerminatesIdle) {now : UInt64}
    {fresh : Identity} {server : String} {r : AgentRequest}
    {spec : Specification} {placement : Placement}
    (hrun : (choosePlacement fresh server s r).run.run now site =
        (.ok (some (spec, placement)), site')) :
    placement.IsIdle site'.service := by
  obtain ⟨built, site₁, hbuilt, hrun⟩ := exists_of_run_bind hrun
  obtain ⟨-, rfl⟩ := Prod.mk.inj hbuilt
  by_cases hserverless : r.profile.isServerless = true
  · rw [if_pos hserverless] at hrun
    obtain ⟨⟨⟩, site₂, -, hrun⟩ := exists_of_run_bind hrun
    obtain ⟨chosen, site₃, hchosen, hrun⟩ := exists_of_run_bind hrun
    obtain ⟨hpair, rfl⟩ := run_pure_eq_ok_iff.mp hrun
    obtain ⟨rfl, rfl⟩ := Prod.mk.inj (Option.some.inj hpair)
    obtain ⟨network, share, rfl⟩ :=
      Placement.eq_serverless_of_forServerless
        (eq_ok_of_mapError (Prod.mk.inj hchosen).1)
    trivial
  · rw [if_neg hserverless] at hrun
    obtain ⟨found, site₂, hfound, hrun⟩ := exists_of_run_bind hrun
    cases found with
    | none => cases hrun
    | some host =>
      obtain ⟨hpair, rfl⟩ := run_pure_eq_ok_iff.mp hrun
      obtain ⟨rfl, rfl⟩ := Prod.mk.inj (Option.some.inj hpair)
      exact findOrBringUpHost_idle h hs hfound

/-! ## Runs that start tasks on idle instances -/

namespace Site.Tenanted

variable {now : UInt64}

/-- A script that starts nothing leaves at most one task on each instance. -/
theorem throughout
    (h : site.Tenanted s₀) {α : Type} {x : Script α}
    (hx : x.Only Act.StartsNothing) :
    x.Throughout now (Site.Tenanted s₀) site :=
  hx.throughout
    (fun _ site' ha hsite => hsite.perform now (ha.startsOnIdle site'.service))
    h

/-- A launch starts a task where it was placed. -/
theorem launchAt
    (h : site.Tenanted s₀) {placement : Placement}
    (hidle : placement.IsIdle site.service) (definitionArn : String) :
    (AgentFleet.launchAt s definitionArn placement).run.Throughout now
      (Site.Tenanted s₀) site := by
  cases placement with
  | serverless network share =>
    refine h.throughout
      (Only.bindExcept (Only.map _ (Only.perform trivial)) fun _ => ?_)
    refine Only.tryCatch (Only.perform trivial) fun e => ?_
    split
    · exact Only.perform trivial
    · exact Only.pure _
  | onHost host =>
    rw [AgentFleet.launchAt]
    refine Throughout.bindExcept
      (h.throughout (Only.map _ (Only.perform trivial))) ?_
    intro u site' htold h₁
    rw [run_lift_say] at htold
    obtain ⟨-, rfl⟩ := Prod.mk.inj htold
    exact ⟨h₁,
      h₁.perform now (a := .call (.startTask (startCall s definitionArn host)))
        ⟨_, rfl, hidle⟩⟩

theorem removeDefinition_startsNothing
    (definitionArn : String) :
    (removeDefinition definitionArn).Only Act.StartsNothing := by
  refine Only.bind (Only.map _ (Only.perform trivial)) fun _ => ?_
  exact Only.map _ (Only.perform trivial)

theorem removeDefinition_throw_startsNothing
    (definitionArn : String) (e : Agent.Error) :
    ((removeDefinition definitionArn : Attempt Unit) >>=
          fun _ => (throw e : Attempt Agent)).run.Only Act.StartsNothing :=
  Only.bindExcept (Only.map _ (removeDefinition_startsNothing definitionArn))
    fun _ => Only.pure _

/-- Neither the console nor the registration changes an instance, so a launch
finds its host as it was chosen. -/
theorem launch
    (h : site.Tenanted s₀) {placement : Placement}
    (hidle : placement.IsIdle site.service) (fresh : Identity) (server : String)
    (r : AgentRequest) (spec : Specification) :
    (AgentFleet.launch fresh server s r spec placement).run.Throughout now
      (Site.Tenanted s₀) site := by
  rw [AgentFleet.launch]
  refine Throughout.bindExcept (h.throughout (only_say trivial)) ?_
  intro u site₁ htold h₁
  rw [run_lift_say] at htold
  obtain ⟨-, rfl⟩ := Prod.mk.inj htold
  refine Throughout.bindExcept
    (h₁.throughout (Only.adapt _ (Only.perform trivial))) ?_
  intro d site₂ hregister h₂
  rw [registerSpecification_run h₁.direct] at hregister
  obtain ⟨-, rfl⟩ := Prod.mk.inj hregister
  refine Throughout.bindExcept (h₂.throughout (only_say trivial)) ?_
  intro u' site₃ htold' h₃
  rw [run_lift_say] at htold'
  obtain ⟨-, rfl⟩ := Prod.mk.inj htold'
  refine Throughout.bindExcept (Throughout.map (h₃.launchAt ?_ d.arn) _) ?_
  · cases placement <;> exact hidle
  intro answer site₄ _ h₄
  refine h₄.throughout ?_
  rcases answer with e | ⟨_ | ⟨t, rest⟩, _ | ⟨f, fs⟩⟩
  · exact removeDefinition_throw_startsNothing _ _
  · exact removeDefinition_throw_startsNothing _ _
  · exact removeDefinition_throw_startsNothing _ _
  · exact Only.bindExcept (only_say trivial) fun _ => Only.pure _
  · exact removeDefinition_throw_startsNothing _ _

/-- A creation leaves at most one task on each instance, at every point. -/
theorem createAgent
    (h : site.Tenanted s₀) (hs : s.TerminatesIdle) (fresh : Identity)
    (server : String) (r : AgentRequest) :
    (AgentFleet.createAgent fresh server s r).run.Throughout now
      (Site.Tenanted s₀) site := by
  rw [createAgent_eq]
  have hsearch :
      (choosePlacement fresh server s r).run.Only Act.StartsNothing :=
    Only.mono (fun _ ha => ha.startsNothing)
      (choosePlacement_only fresh server s r)
  refine Throughout.bindExcept (h.throughout hsearch) ?_
  intro choice site₁ hchoose h₁
  rcases choice with _ | ⟨spec, placement⟩
  · exact h₁
  · have hidle := choosePlacement_idle h hs hchoose
    refine Throughout.bindExcept (h₁.launch hidle fresh server r spec) ?_
    intro t site₂ _ h₂
    exact h₂

theorem stopAgent
    (h : site.Tenanted s₀) (t : Agent) :
    (AgentFleet.stopAgent s t).Throughout now (Site.Tenanted s₀) site := by
  refine h.throughout
    (Only.bind (Only.map _ (Only.perform trivial)) fun _ => ?_)
  exact removeDefinition_startsNothing t.definitionArn

end Site.Tenanted

/-! ## Sites in use -/

/-- What is made of a site by creations and stops, each run to its end, if
instances are terminated once they are idle.  In between anything may be
arranged about the service, and the pool may be blocked. -/
inductive Site.Managed (site₀ : Site) : Site → Prop where
  | start : Managed site₀ site₀
  | create {site : Site} (h : Managed site₀ site) (now : UInt64)
      (fresh : Identity) (server : String) {s : Settings}
      (hs : s.TerminatesIdle) (r : AgentRequest) :
      Managed site₀ ((createAgent fresh server s r).run.run now site).2
  | stop {site : Site} (h : Managed site₀ site) (now : UInt64) (s : Settings)
      (t : Agent) : Managed site₀ ((stopAgent s t).run now site).2
  | arrange {site : Site} (h : Managed site₀ site) (a : Arrangement) :
      Managed site₀ (site.withService (site.service.arrange a))
  | block {site : Site} (h : Managed site₀ site) :
      Managed site₀ { site with supply := site.supply.block }

/-- At most one task is on each instance, and none on those that were busy from
the start. -/
structure Service.OneTaskEach (s₀ s : Service) : Prop where
  single : ∀ arn, (s.tasksOn arn).length ≤ 1
  busy : ∀ (arn : String) (i : ContainerInstance), s₀.instances[arn]? = some i →
    i.runningTasks ≠ 0 ∨ i.pendingTasks ≠ 0 → s.tasksOn arn = []

theorem Service.Tenanted.oneTaskEach
    {s : Service} (h : Tenanted s₀ s) :
    s₀.OneTaskEach s where
  single := by
    intro arn
    cases hi : s.instances[arn]? with
    | none => simp [h.vacant arn hi]
    | some i =>
      rcases h.single arn i hi with hnone | ⟨t, hone, -⟩
      · simp [hnone]
      · simp [hone]
  busy := by
    intro arn i hi hcounts
    refine (h.busy arn i hi (Bool.eq_false_iff.mpr ?_)).1
    intro hidle
    obtain ⟨hrunning, hpending⟩ := ContainerInstance.isIdle_iff.mp hidle
    exact hcounts.elim (· hrunning) (· hpending)

namespace Site.Tenanted

theorem arrange
    (h : site.Tenanted s₀) (a : Arrangement) :
    (site.withService (site.service.arrange a)).Tenanted s₀ where
  direct := h.direct.withService _
  service :=
    h.service.of_eq (h.service.sound.arrange a) (by cases a <;> rfl)
      (by cases a <;> rfl)
  pool := h.pool
  spares := h.spares.of_machineAt (by cases a <;> rfl)

theorem block
    (h : site.Tenanted s₀) :
    Site.Tenanted s₀ { site with supply := site.supply.block } := by
  obtain ⟨pool, hpool⟩ := h.pool
  have hspares := h.spares
  rw [hpool] at hspares ⊢
  exact ⟨h.direct, h.service, ⟨_, rfl⟩, hspares⟩

end Site.Tenanted

theorem Site.Managed.tenanted
    {site₀ : Site} (h₀ : site₀.Tenanted site₀.service)
    (h : site₀.Managed site) :
    site.Tenanted site₀.service := by
  induction h with
  | start => exact h₀
  | create _ now fresh server hs r ih =>
    exact (ih.createAgent hs fresh server r).end
  | stop _ now s t ih => exact (ih.stopAgent t).end
  | arrange _ a ih => exact ih.arrange a
  | block _ ih => exact ih.block

/-- Let a site start with any instances, no tasks and a pool that has yet to
give any of their names.  If instances are terminated once they are idle, there
is then at most one task on each instance at all times, also amid a creation or
a stop, and never one on an instance that was busy from the start. -/
theorem Site.Managed.one_task_each
    {site₀ : Site} {pool : Pool} (hdirect : site₀.IsDirect)
    (hreachable : site₀.service.Reachable) (hempty : site₀.service.tasks = ∅)
    (hpool : site₀.supply = .pool pool)
    (hfree : ∀ cluster n,
        pool.made < n →
        site₀.service.instances[Pool.instanceArn cluster n]? = none)
    (h : site₀.Managed site) :
    site₀.service.OneTaskEach site.service ∧
    (∀ (now : UInt64) (fresh : Identity) (server : String) (s : Settings)
          (r : AgentRequest),
        s.TerminatesIdle →
        (createAgent fresh server s r).run.Throughout now
          (fun site' => site₀.service.OneTaskEach site'.service) site) ∧
    ∀ (now : UInt64) (s : Settings) (t : Agent),
      (stopAgent s t).Throughout now
        (fun site' => site₀.service.OneTaskEach site'.service) site := by
  have hspares : site₀.supply.Spares site₀.service := by
    rw [hpool]
    exact hfree
  have hsite :=
    h.tenanted
      ⟨hdirect, Service.Tenanted.start hreachable.sound hempty, ⟨pool, hpool⟩,
        hspares⟩
  refine ⟨hsite.service.oneTaskEach, ?_, ?_⟩
  · intro now fresh server s r hs
    exact (hsite.createAgent hs fresh server r).mono fun _ hsite' =>
      hsite'.service.oneTaskEach
  · intro now s t
    exact (hsite.stopAgent t).mono fun _ hsite' => hsite'.service.oneTaskEach

/-- Settings under which instances are terminated once they are idle. -/
def thriftySettings : Settings :=
  { smallSettings with
    linuxStopPolicy := .terminateIdle
    windowsStopPolicy := .terminateIdle }

/-- An instance that has been busy from the start, and has room left. -/
def busyInstance : ContainerInstance :=
  { Service.smallInstance with
    runningTasks := 1, registeredMemory := 4096, remainingMemory := 3072 }

/-- A cluster with a busy instance, and a pool of instances of 1024 MiB. -/
def busySite : Site where
  gateway := { service := Service.enlist busyInstance {} }
  supply := .pool { memory := 1024 }

/-- Two requests that would each fit on the busy instance bring up an instance
each. -/
theorem Site.Managed.one_task_each_busySite :
    ∃ site,
      busySite.Managed site ∧
      busySite.service.OneTaskEach site.service ∧
      ["ci-1", Pool.instanceArn "agents" 1, Pool.instanceArn "agents" 2].map
          (fun arn => (site.service.tasksOn arn).length) =
        [0, 1, 1] := by
  have hthrifty : thriftySettings.TerminatesIdle := by
    intro platform
    cases platform <;> rfl
  have hfirst : busySite.Managed _ :=
    .create .start 0 ⟨"a", "b"⟩ "ci" hthrifty largeRequest
  have hsecond := hfirst.create 0 ⟨"c", "d"⟩ "ci" hthrifty largeRequest
  have hdirect : busySite.IsDirect := rfl
  have hreachable : busySite.service.Reachable := .enlist .empty busyInstance
  have hfree : ∀ cluster n, 0 < n →
      busySite.service.instances[Pool.instanceArn cluster n]? = none := by
    intro cluster n _
    have hne : busyInstance.arn ≠ Pool.instanceArn cluster n := by
      intro harn
      have hhead := congrArg (·.toList.head?) harn
      simp [Pool.toList_instanceArn, Service.arnRoot, busyInstance,
        Service.smallInstance] at hhead
    exact Std.ExtTreeMap.getElem?_insert.trans (if_neg (by simpa using hne))
  exact ⟨_, hsecond, (hsecond.one_task_each hdirect hreachable rfl rfl hfree).1,
    by decide +kernel⟩

end AgentFleet

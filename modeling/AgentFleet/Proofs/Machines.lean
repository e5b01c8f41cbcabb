import AgentFleet.Proofs.ScriptRuns

/-!
# Machines behind names

The name of an instance stands for a machine.  No call changes which machine
that is, so whatever has been added under different names, or has come of a
pool, stays where it is.
-/

namespace AgentFleet

@[simp]
theorem ContainerInstance.reserve_machineId
    (i : ContainerInstance) (d : Demand) :
    (i.reserve d).machineId = i.machineId :=
  rfl

@[simp]
theorem ContainerInstance.release_machineId
    (i : ContainerInstance) (reserved : Option Demand) :
    (i.release reserved).machineId = i.machineId := by
  cases reserved <;> rfl

namespace Service

/-- The machine that the name of an instance stands for. -/
def machineAt (s : Service) (arn : String) : Option String :=
  (s.instances[arn]?).map ContainerInstance.machineId

variable {s s' : Service}

theorem machineAt_of_getElem?
    {arn : String} {i : ContainerInstance} (hi : s.instances[arn]? = some i) :
    s.machineAt arn = some i.machineId := by
  rw [machineAt, hi, Option.map_some]

theorem machineAt_enlist
    (s : Service) (i : ContainerInstance) (arn : String) :
    (s.enlist i).machineAt arn =
      if i.arn = arn then some i.machineId else s.machineAt arn := by
  rw [machineAt, enlist, Std.ExtTreeMap.getElem?_insert]
  by_cases harn : i.arn = arn
  · simp [harn]
  · simp [harn, machineAt]

/-- Changing what an instance has left does not make it another machine. -/
theorem machineAt_of_insert
    {arn : String} {i i' : ContainerInstance} (hi : s.instances[arn]? = some i)
    (hmachine : i'.machineId = i.machineId)
    (hs' : s'.instances = s.instances.insert arn i') :
    s'.machineAt = s.machineAt := by
  funext arn'
  rw [machineAt, hs', Std.ExtTreeMap.getElem?_insert]
  by_cases harn : arn = arn'
  · subst harn
    simp [machineAt, hi, hmachine]
  · simp [harn, machineAt]

/-- Nothing that a call does changes the machine that a name stands for. -/
theorem machineAt_of_changes
    {now : UInt64} (hchange : Changes now s s') :
    s'.machineAt = s.machineAt := by
  cases hchange with
  | start cluster hd hi hmemory hcpu =>
    exact machineAt_of_insert hi (ContainerInstance.reserve_machineId _ _) rfl
  | @stop arn t ht hactive =>
    rcases handBack_cases arn t
      { s with tasks := s.tasks.insert arn (stopped t) } with
      ⟨-, heq⟩ | ⟨a, i, -, hi, heq⟩
    · rw [heq]
      rfl
    · rw [heq]
      exact machineAt_of_insert hi (i.release_machineId _) rfl
  | _ => rfl

theorem machineAt_serve
    (now : UInt64) (c : Call) (s : Service) :
    (s.serve now c).2.machineAt = s.machineAt :=
  serve_keeps (P := fun s' => s'.machineAt = s.machineAt)
    (fun _ _ hchange hs => (machineAt_of_changes hchange).trans hs) c rfl

end Service

/-! ## Where instances come from -/

/-- The instance was added, or it is one that a pool may bring up. -/
def ContainerInstance.From
    (added : List ContainerInstance) (i : ContainerInstance) : Prop :=
  i ∈ added ∨ i.OfPool

/-- The name stands for the machine of an instance that was added or brought up.
-/
def StandsFor
    (added : List ContainerInstance) (arn machineId : String) : Prop :=
  ∃ i : ContainerInstance, i.From added ∧ i.arn = arn ∧ i.machineId = machineId

theorem StandsFor.mono
    {added added' : List ContainerInstance} {arn machineId : String}
    (h : StandsFor added arn machineId) (hadded : ∀ i ∈ added, i ∈ added') :
    StandsFor added' arn machineId := by
  obtain ⟨i, hi, hnames⟩ := h
  exact ⟨i, hi.imp_left (hadded i), hnames⟩

/-- Every name of an instance stands for the machine of one that was added or
brought up. -/
def Service.Houses (added : List ContainerInstance) (s : Service) : Prop :=
  ∀ arn machineId,
    s.machineAt arn = some machineId → StandsFor added arn machineId

theorem Service.Houses.insert
    {added : List ContainerInstance} {s : Service} (h : s.Houses added)
    {i : ContainerInstance} (hi : i.From added) :
    (s.enlist i).Houses added := by
  intro arn machineId hmachine
  rw [machineAt_enlist] at hmachine
  by_cases harn : i.arn = arn
  · rw [if_pos harn] at hmachine
    exact ⟨i, hi, harn, Option.some.inj hmachine⟩
  · rw [if_neg harn] at hmachine
    exact h arn machineId hmachine

theorem Service.Houses.enlist
    {added : List ContainerInstance} {s : Service} (h : s.Houses added)
    (i : ContainerInstance) :
    (s.enlist i).Houses (i :: added) := by
  refine Houses.insert ?_ (Or.inl List.mem_cons_self)
  exact fun arn machineId hmachine =>
    (h arn machineId hmachine).mono fun _ hj => List.mem_cons_of_mem i hj

theorem Service.Houses.run
    {added : List ContainerInstance} {site : Site}
    (h : site.service.Houses added) (hdirect : site.IsDirect) {α : Type}
    (now : UInt64) (x : Script α) :
    (x.run now site).2.service.Houses added := by
  refine hdirect.run_keeps now (P := Service.Houses added) ?_ ?_ h x
  · intro s c hs
    rwa [Service.Houses, Service.machineAt_serve]
  · intro s i hi hs
    exact hs.insert (Or.inr hi)

/-- Instances of one name are one machine, be they added or brought up. -/
def OneMachineEach (added : List ContainerInstance) : Prop :=
  ∀ arn machineId machineId',
    StandsFor added arn machineId →
    StandsFor added arn machineId' →
    machineId = machineId'

theorem ContainerInstance.OfPool.machineId_eq
    {i j : ContainerInstance} (hi : i.OfPool) (hj : j.OfPool)
    (harn : i.arn = j.arn) :
    i.machineId = j.machineId := by
  obtain ⟨p, s, profile, n, rfl⟩ := hi
  obtain ⟨p', s', profile', n', rfl⟩ := hj
  obtain ⟨-, rfl⟩ := Pool.instanceArn_inj harn
  rfl

/-- It is enough that the instances that are added have different names, none of
which a pool makes up. -/
theorem oneMachineEach_of_distinct
    {added : List ContainerInstance}
    (hadded : ∀ i ∈ added,
        ∀ j ∈ added, i.arn = j.arn → i.machineId = j.machineId)
    (hpool : ∀ i ∈ added, ∀ cluster n, i.arn ≠ Pool.instanceArn cluster n) :
    OneMachineEach added := by
  have hapart :
      ∀ i ∈ added, ∀ j : ContainerInstance, j.OfPool → i.arn ≠ j.arn := by
    rintro i hi j ⟨p, s, profile, n, rfl⟩
    exact hpool i hi s.clusterName n
  rintro arn _ _ ⟨i, hi, rfl, rfl⟩ ⟨j, hj, harn, rfl⟩
  rcases hi with hi | hi <;> rcases hj with hj | hj
  · exact hadded i hi j hj harn.symm
  · exact absurd harn.symm (hapart i hi j hj)
  · exact absurd harn (hapart j hj i hi)
  · exact hi.machineId_eq hj harn.symm

end AgentFleet

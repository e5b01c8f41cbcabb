import AgentFleet.Proofs.CallOrder

/-!
# Starts on several instances

One call may start tasks on several instances.  It comes to the same as one call
for each of them, in their order, so an instance that is named again is asked
again with what is left of it by then.  Each name answers with one task or with
one failure, a failure changes nothing, and what is handed out on an instance is
taken from what it had left.
-/

namespace AgentFleet

namespace LaunchOutcome

/-- Several outcomes as one. -/
def join (os : List LaunchOutcome) : LaunchOutcome where
  tasks := os.flatMap tasks
  failures := os.flatMap failures

/-- The number of tasks that were started on an instance. -/
def countOn (arn : String) (o : LaunchOutcome) : Nat :=
  o.tasks.countP fun t => t.instanceArn = some arn

/-- The outcome is one task on the instance, or one failure of the instance. -/
def IsSingle (arn : String) (o : LaunchOutcome) : Prop :=
  (∃ t : Task, o = ⟨[t], []⟩ ∧ t.instanceArn = some arn) ∨
    ∃ f : Failure, o = ⟨[], [f]⟩ ∧ f.arn = some arn

theorem countOn_singleton
    (arn : String) (t : Task) (fs : List Failure) :
    countOn arn ⟨[t], fs⟩ = if t.instanceArn = some arn then 1 else 0 := by
  simp [countOn, List.countP_singleton]

theorem countOn_join_cons
    (arn : String) (o : LaunchOutcome) (os : List LaunchOutcome) :
    (join (o :: os)).countOn arn = o.countOn arn + (join os).countOn arn := by
  rw [countOn, join, List.flatMap_cons, List.countP_append]
  rfl

end LaunchOutcome

namespace Service

open LaunchOutcome

variable {now : UInt64} {cluster : String} {d : TaskDefinition} {r : StartTask}
  {s s' : Service} {arn : String} {o : LaunchOutcome}

/-! ## One instance -/

/-- An instance of the name is there and has room for a task. -/
def HasRoomAt (s : Service) (d : TaskDefinition) (arn : String) : Prop :=
  ∃ i, s.instances[arn]? = some i ∧ d.demand.memory ≤ i.remainingMemory.toNat ∧
    d.demand.cpu ≤ i.remainingCpu.toNat

/-- What comes of a start on one instance: a task if there is room for one, and
else a failure that changes nothing. -/
inductive StartsOne
    (now : UInt64) (cluster : String) (d : TaskDefinition) (arn : String)
    (s : Service) : LaunchOutcome → Service → Prop where
  | started {i : ContainerInstance} (hi : s.instances[arn]? = some i)
      (hmemory : d.demand.memory ≤ i.remainingMemory.toNat)
      (hcpu : d.demand.cpu ≤ i.remainingCpu.toNat) :
      StartsOne now cluster d arn s
        ⟨[s.nextTask now cluster d (some arn) (some .ec2) none], []⟩
        (s.afterStart now cluster d i arn)
  | failed (reason : String) (hfull : ¬s.HasRoomAt d arn) :
      StartsOne now cluster d arn s ⟨[], [⟨some arn, reason⟩]⟩ s

theorem startsOne_startOn
    (now : UInt64) (cluster : String) (d : TaskDefinition) (arn : String)
    (s : Service) :
    StartsOne now cluster d arn s (ofStart (s.startOn now cluster d arn).1)
      (s.startOn now cluster d arn).2 := by
  rw [startOn]
  cases hi : s.instances[arn]? with
  | none =>
    refine .failed "MISSING" ?_
    rintro ⟨i, hi', -⟩
    exact absurd (hi.symm.trans hi') (Option.some_ne_none i).symm
  | some i =>
    have hroom : s.HasRoomAt d arn →
        ¬i.lacksMemory d.demand = true ∧ ¬i.lacksCpu d.demand = true := by
      rintro ⟨i', hi', hmemory, hcpu⟩
      obtain rfl : i = i' := Option.some.inj (hi.symm.trans hi')
      simp [ContainerInstance.lacksMemory, ContainerInstance.lacksCpu, hmemory,
        hcpu]
    by_cases hmemory : i.lacksMemory d.demand = true
    · simp only [if_pos hmemory]
      exact .failed "RESOURCE:MEMORY" fun h => (hroom h).1 hmemory
    by_cases hcpu : i.lacksCpu d.demand = true
    · simp only [if_neg hmemory, if_pos hcpu]
      exact .failed "RESOURCE:CPU" fun h => (hroom h).2 hcpu
    · simp only [if_neg hmemory, if_neg hcpu]
      refine .started hi ?_ ?_
      · simpa [ContainerInstance.lacksMemory] using hmemory
      · simpa [ContainerInstance.lacksCpu] using hcpu

namespace StartsOne

theorem isSingle (h : StartsOne now cluster d arn s o s') : o.IsSingle arn := by
  cases h with
  | started hi hmemory hcpu => exact Or.inl ⟨_, rfl, rfl⟩
  | failed reason hfull => exact Or.inr ⟨_, rfl, rfl⟩

/-- What is handed out is taken from what the instance had left. -/
theorem takes
    (h : StartsOne now cluster d arn s o s') {a : String}
    {i : ContainerInstance} (hi : s.instances[a]? = some i) :
    ∃ i',
      s'.instances[a]? = some i' ∧
      i'.remainingMemory.toNat + o.countOn a * d.demand.memory =
        i.remainingMemory.toNat ∧
      i'.remainingCpu.toNat + o.countOn a * d.demand.cpu =
        i.remainingCpu.toNat := by
  cases h with
  | failed reason hfull => exact ⟨i, hi, by simp [countOn], by simp [countOn]⟩
  | @started j hj hmemory hcpu =>
    have hplaced :
        (s.nextTask now cluster d (some arn) (some .ec2) none).instanceArn =
          some arn := rfl
    rw [countOn_singleton, hplaced]
    by_cases ha : arn = a
    · subst ha
      obtain rfl : i = j := Option.some.inj (hi.symm.trans hj)
      refine ⟨i.reserve d.demand,
        Table.getElem?_insert_eq_some_iff.mpr (Or.inl ⟨rfl, rfl⟩), ?_, ?_⟩
      · rw [if_pos rfl, Nat.one_mul, ContainerInstance.reserve,
          toNat_ofNat_of_le (Nat.sub_le _ _)]
        exact Nat.sub_add_cancel hmemory
      · rw [if_pos rfl, Nat.one_mul, ContainerInstance.reserve,
          toNat_ofNat_of_le (Nat.sub_le _ _)]
        exact Nat.sub_add_cancel hcpu
    · have helsewhere : some arn ≠ some a := fun h => ha (Option.some.inj h)
      refine ⟨i, Table.getElem?_insert_eq_some_iff.mpr (Or.inr ⟨ha, hi⟩), ?_,
        ?_⟩
      · rw [if_neg helsewhere, Nat.zero_mul, Nat.add_zero]
      · rw [if_neg helsewhere, Nat.zero_mul, Nat.add_zero]

end StartsOne

/-! ## The journal -/

theorem startOn_noted
    (cs : List Call) (now : UInt64) (cluster : String) (d : TaskDefinition)
    (arn : String) (s : Service) :
    (s.noted cs).startOn now cluster d arn =
      ((s.startOn now cluster d arn).1,
        (s.startOn now cluster d arn).2.noted cs) :=
  startOn_overlaid id (· ++ cs) now cluster d arn s

theorem startEach_noted
    (cs : List Call) (now : UInt64) (cluster : String) (d : TaskDefinition)
    (arns : List String) (s : Service) :
    (s.noted cs).startEach now cluster d arns =
      ((s.startEach now cluster d arns).1,
        (s.startEach now cluster d arns).2.noted cs) :=
  startEach_overlaid id (· ++ cs) now cluster d arns s

/-! ## One instance after the other -/

/-- The call for one of the instances. -/
def singleStart (r : StartTask) (arn : String) : Call :=
  .startTask { r with instances := [arn] }

/-- Make one call for each of the instances, in their order. -/
def startSingly (now : UInt64) (r : StartTask) :
    List String → Service → List (Except Refusal LaunchOutcome) × Service
  | [], s => ([], s)
  | arn :: rest, s =>
    let (answer, s) := s.serve now (singleStart r arn)
    let (answers, s) := startSingly now r rest s
    (answer :: answers, s)

/-- Starts on one instance after the other. -/
inductive StartsInTurn (now : UInt64) (r : StartTask) (d : TaskDefinition) :
    List String → Service → List LaunchOutcome → Service → Prop where
  | nil (s : Service) : StartsInTurn now r d [] s [] s
  | cons {arn : String} {rest : List String} {o : LaunchOutcome}
      {os : List LaunchOutcome} {s s' s'' : Service}
      (hone : StartsOne now r.cluster d arn (s.noted [singleStart r arn]) o s')
      (hrest : StartsInTurn now r d rest s' os s'') :
      StartsInTurn now r d (arn :: rest) s (o :: os) s''

theorem StartsInTurn.isSingle
    {arns : List String} {os : List LaunchOutcome}
    (h : StartsInTurn now r d arns s os s') :
    List.Forall₂ IsSingle arns os := by
  induction h with
  | nil s => exact .nil
  | cons hone hrest ih => exact .cons hone.isSingle ih

theorem StartsInTurn.takes
    {arns : List String} {os : List LaunchOutcome}
    (h : StartsInTurn now r d arns s os s') {a : String} {i : ContainerInstance}
    (hi : s.instances[a]? = some i) :
    ∃ i',
      s'.instances[a]? = some i' ∧
      i'.remainingMemory.toNat + (join os).countOn a * d.demand.memory =
        i.remainingMemory.toNat ∧
      i'.remainingCpu.toNat + (join os).countOn a * d.demand.cpu =
        i.remainingCpu.toNat := by
  induction h generalizing i with
  | nil s => exact ⟨i, hi, by simp [join, countOn], by simp [join, countOn]⟩
  | cons hone hrest ih =>
    obtain ⟨i₁, hi₁, hmemory, hcpu⟩ := hone.takes hi
    obtain ⟨i', hi', hmemory', hcpu'⟩ := ih hi₁
    refine ⟨i', hi', ?_, ?_⟩
    · rw [countOn_join_cons, Nat.add_mul, ← hmemory, ← hmemory']
      omega
    · rw [countOn_join_cons, Nat.add_mul, ← hcpu, ← hcpu']
      omega

/-! ## Calls for one and for several instances -/

/-- A start changes neither what is arranged nor any definition. -/
theorem startOn_keeps
    (now : UInt64) (cluster : String) (d : TaskDefinition) (arn : String)
    (s : Service) :
    (s.startOn now cluster d arn).2.mishaps = s.mishaps ∧
    (s.startOn now cluster d arn).2.definitions = s.definitions := by
  rcases startOn_cases now cluster d arn s with ⟨f, heq⟩ | ⟨i, -, -, -, heq⟩
  · rw [heq]
    exact ⟨rfl, rfl⟩
  · rw [heq]
    exact ⟨rfl, rfl⟩

/-- A call that nothing is arranged against tries one instance after the other.
-/
theorem serve_startTask_of_free
    (hfree : s.StartsFreely) (hd : s.definitions[r.definition]? = some d)
    (hactive : d.status = .active) (now : UInt64) :
    s.serve now (.startTask r) =
      (.ok (s.startEach now r.cluster d r.instances).1,
        (s.startEach now r.cluster d r.instances).2.noted [.startTask r]) := by
  have hstart : (s.noted [.startTask r]).mishaps.startTask = none :=
    hfree.startTask
  have hlaunchable : (s.noted [.startTask r]).launchable r.definition = .ok d :=
    launchable_eq_ok hd hactive
  have harranged : (s.noted [.startTask r]).arrangedOutcome = none :=
    hfree.arrangedOutcome
  change (s.noted [.startTask r]).startTask now r = _
  rw [startTask]
  simp only [hstart, hlaunchable, harranged, startEach_noted]

theorem serve_singleStart
    (hfree : s.StartsFreely) (hd : s.definitions[r.definition]? = some d)
    (hactive : d.status = .active) (now : UInt64) (arn : String) :
    s.serve now (singleStart r arn) =
      (.ok (ofStart (s.startOn now r.cluster d arn).1),
        (s.startOn now r.cluster d arn).2.noted [singleStart r arn]) := by
  have hcall :=
    serve_startTask_of_free (r := { r with instances := [arn] }) hfree hd
      hactive now
  rw [startEach_cons_eq] at hcall
  simp only [startEach, List.append_nil] at hcall
  exact hcall

theorem StartsFreely.noted
    (hfree : s.StartsFreely) (cs : List Call) :
    (s.noted cs).StartsFreely :=
  ⟨hfree.launchFailures, hfree.emptyLaunches, hfree.startTask⟩

theorem StartsFreely.startOn
    (hfree : s.StartsFreely) (now : UInt64) (cluster : String)
    (d : TaskDefinition) (arn : String) :
    (s.startOn now cluster d arn).2.StartsFreely := by
  obtain ⟨hmishaps, -⟩ := startOn_keeps now cluster d arn s
  constructor
  · rw [hmishaps, hfree.launchFailures]
  · rw [hmishaps, hfree.emptyLaunches]
  · rw [hmishaps, hfree.startTask]

/-- The calls for the single instances come to what one call for all of them
comes to. -/
theorem startSingly_eq
    (hfree : s.StartsFreely) (hd : s.definitions[r.definition]? = some d)
    (hactive : d.status = .active) (now : UInt64) (arns : List String) :
    ∃ os,
      s.startSingly now r arns =
        (os.map .ok,
          (s.startEach now r.cluster d arns).2.noted
            (arns.map (singleStart r))) ∧
      (s.startEach now r.cluster d arns).1 = join os ∧
      StartsInTurn now r d arns s os (s.startSingly now r arns).2 := by
  induction arns generalizing s with
  | nil => exact ⟨[], by simp [startSingly, startEach, noted], rfl, .nil s⟩
  | cons arn rest ih =>
    have hone :=
      startsOne_startOn now r.cluster d arn (s.noted [singleStart r arn])
    rw [startOn_noted] at hone
    obtain ⟨os, hrest, hjoin, hturns⟩ :=
      ih (s := (s.startOn now r.cluster d arn).2.noted [singleStart r arn])
        ((hfree.startOn now r.cluster d arn).noted [singleStart r arn])
        ((congrArg (·[r.definition]?)
          (startOn_keeps now r.cluster d arn s).2).trans hd)
    rw [startEach_noted] at hrest hjoin
    have hsingly :
        s.startSingly now r (arn :: rest) =
          (.ok (ofStart (s.startOn now r.cluster d arn).1) :: os.map .ok,
            (((s.startOn now r.cluster d arn).2.startEach
                now r.cluster d rest).2.noted [singleStart r arn]).noted
              (rest.map (singleStart r))) := by
      rw [startSingly, serve_singleStart hfree hd hactive]
      simp only [hrest]
      rfl
    refine ⟨ofStart (s.startOn now r.cluster d arn).1 :: os, ?_, ?_, ?_⟩
    · rw [hsingly, startEach_cons_eq, noted_noted]
      rfl
    · rw [startEach_cons_eq, hjoin]
      rfl
    · rw [hrest] at hturns
      rw [hsingly]
      exact .cons hone hturns

/-- The outcomes `os` of the single calls account for the call for all the
instances. -/
structure StartedAsSingly
    (now : UInt64) (r : StartTask) (d : TaskDefinition) (s : Service)
    (os : List LaunchOutcome) : Prop where
  /-- Every single call answers. -/
  singly : (s.startSingly now r r.instances).1 = os.map .ok
  /-- The one call answers with all their tasks and with all their failures, in
  their order. -/
  answer : (s.serve now (.startTask r)).1 = .ok (join os)
  /-- The one call and the single calls leave the same service, the journal
  apart. -/
  service :
    (s.serve now (.startTask r)).2 =
      { (s.startSingly now r r.instances).2 with
        journal := s.journal ++ [Call.startTask r] }
  /-- Each single call starts a task where there is room, and else changes
  nothing. -/
  turns :
    StartsInTurn now r d r.instances s os (s.startSingly now r r.instances).2
  /-- Each instance that is named answers with one task on it or with one
  failure of it. -/
  single : List.Forall₂ IsSingle r.instances os
  /-- What is handed out on an instance is taken from what it had left. -/
  takes :
    ∀ (a : String) (i : ContainerInstance),
      s.instances[a]? = some i →
      ∃ i',
        (s.serve now (.startTask r)).2.instances[a]? = some i' ∧
        i'.remainingMemory.toNat + (join os).countOn a * d.demand.memory =
          i.remainingMemory.toNat ∧
        i'.remainingCpu.toNat + (join os).countOn a * d.demand.cpu =
          i.remainingCpu.toNat

/-- A start on several instances comes to what starts on each of them come to.
-/
theorem startTask_as_singly
    (hfree : s.StartsFreely) (hd : s.definitions[r.definition]? = some d)
    (hactive : d.status = .active) (now : UInt64) :
    ∃ os, StartedAsSingly now r d s os := by
  obtain ⟨os, hsingly, hjoin, hturns⟩ :=
    startSingly_eq hfree hd hactive now r.instances
  have hserve := serve_startTask_of_free hfree hd hactive now
  have hservice :
      (s.serve now (.startTask r)).2 =
        { (s.startSingly now r r.instances).2 with
          journal := s.journal ++ [Call.startTask r] } := by
    rw [hsingly, ← serve_journal now (.startTask r) s, hserve]
    rfl
  refine ⟨os, ?_, ?_, hservice, hturns, hturns.isSingle, ?_⟩
  · rw [hsingly]
  · rw [hserve, hjoin]
  · intro a i hi
    rw [hservice]
    exact hturns.takes hi

/-- On a batch that names an instance twice, with room for one task, and one
that is not there. -/
theorem startTask_as_singly_of_repeated_instance :
    let s := (serve 0 (.register smallRegistration) (enlist smallInstance {})).2
    let r : StartTask :=
      ⟨"c", definitionArn "a" 1, ["ci-1", "ci-2", "ci-1"], none⟩
    ∃ d : TaskDefinition,
      s.definitions[r.definition]? = some d ∧
      (∃ os, StartedAsSingly 0 r d s os) ∧
      (s.serve 0 (.startTask r)).1.map
          (fun o => (o.tasks.map (·.arn), o.failures)) =
        .ok ([taskArn "c" 1],
          [⟨some "ci-2", "MISSING"⟩, ⟨some "ci-1", "RESOURCE:MEMORY"⟩]) := by
  intro s r
  have hd :
      s.definitions[r.definition]? =
        some ((enlist smallInstance {}).nextDefinition smallRegistration) := by
    decide +kernel
  exact ⟨_, hd, startTask_as_singly ⟨rfl, rfl, rfl⟩ hd rfl 0, by decide +kernel⟩

end Service
end AgentFleet

import AgentFleet.Service.Call

/-!
# The state of a service

A service keeps task definitions, tasks and container instances, each under its
name.  What a started task takes of an instance is reserved until the task is
stopped.  Every call is written into a journal before it is served.  Some calls
can be arranged to go wrong.

The counters of a service and the sums that it forms are natural numbers: a
history in which one of them would run over is not described.  What an instance
says of itself has 32 bits, and its count of pending tasks starts again from
zero when it runs over.
-/

namespace AgentFleet

/-- What a task takes of an instance. -/
structure Demand where
  memory : Nat
  cpu : Nat
deriving DecidableEq, Repr

/-- What the containers of a definition take together.  The sums are natural
numbers, so they are taken never to pass 32 bits. -/
def TaskDefinition.demand (d : TaskDefinition) : Demand where
  memory := d.containers.foldr (fun c rest => c.memoryDemand.toNat + rest) 0
  cpu := d.containers.foldr (fun c rest => c.cpu.toNat + rest) 0

namespace ContainerInstance

/-- The instance has less left than a task takes. -/
def lacksMemory (i : ContainerInstance) (d : Demand) : Bool :=
  i.remainingMemory.toNat < d.memory

/-- The instance has fewer processor units left than a task takes. -/
def lacksCpu (i : ContainerInstance) (d : Demand) : Bool :=
  i.remainingCpu.toNat < d.cpu

/-- The instance with a task placed on it.  One pending task more than an
instance can count makes its count zero. -/
def reserve (i : ContainerInstance) (d : Demand) : ContainerInstance :=
  { i with
    remainingMemory := UInt32.ofNat (i.remainingMemory.toNat - d.memory)
    remainingCpu := UInt32.ofNat (i.remainingCpu.toNat - d.cpu)
    pendingTasks := i.pendingTasks + 1 }

/-- The instance with a task taken off it, and what was reserved for the task
handed back.  No more comes back than the instance has altogether. -/
def release
    (i : ContainerInstance) (reserved : Option Demand) : ContainerInstance :=
  let i := { i with pendingTasks := UInt32.ofNat (i.pendingTasks.toNat - 1) }
  match reserved with
  | none => i
  | some d =>
    { i with
      remainingMemory :=
        UInt32.ofNat
          (min (i.remainingMemory.toNat + d.memory) i.registeredMemory.toNat)
      remainingCpu :=
        UInt32.ofNat
          (min (i.remainingCpu.toNat + d.cpu) i.registeredCpu.toNat) }

end ContainerInstance

/-- What has been arranged to go wrong. -/
structure Mishaps where
  /-- Every launch reports these failures and starts nothing. -/
  launchFailures : Option (List Failure) := none
  /-- Every launch reports neither tasks nor failures. -/
  emptyLaunches : Bool := false
  /-- The next call that starts tasks is refused. -/
  startTask : Option Refusal := none
  /-- The next call that runs a task is refused. -/
  runTask : Option Refusal := none
  /-- The next call that deregisters a definition is refused. -/
  deregister : Option Refusal := none
  /-- The next call that deletes definitions is refused. -/
  delete : Option Refusal := none
deriving DecidableEq

/-- A container service. -/
structure Service where
  definitions : Std.ExtTreeMap String TaskDefinition := ∅
  /-- The last revision of each family, counted without a bound: the count is
  taken never to pass 32 bits, so a definition holds the revision that its name
  ends in. -/
  revisions : Std.ExtTreeMap String Nat := ∅
  tasks : Std.ExtTreeMap String Task := ∅
  instances : Std.ExtTreeMap String ContainerInstance := ∅
  /-- What each task on an instance has reserved there. -/
  reservations : Std.ExtTreeMap String Demand := ∅
  /-- The number of tasks launched so far, counted without a bound: the count is
  taken never to pass 64 bits. -/
  launched : Nat := 0
  /-- The calls so far, in order. -/
  journal : List Call := []
  /-- Capacity providers are associated with the clusters. -/
  hasProviders : Bool := true
  mishaps : Mishaps := {}
deriving DecidableEq

namespace Service

/-! ## Names -/

/-- What the name of every resource starts with. -/
def arnRoot : String := "arn:aws:ecs:local:000000000000"

/-- The name of a revision of a definition. -/
def definitionArn (family : String) (revision : Nat) : String :=
  arnRoot ++ ":task-definition/" ++ family ++ ":" ++ Text.decimal revision

/-- The name of the `n`-th task, which is in a cluster. -/
def taskArn (cluster : String) (n : Nat) : String :=
  arnRoot ++ ":task/" ++ cluster ++ "/" ++ Text.hexPadded 32 n

/-! ## Arrangements -/

/-- No capacity provider is associated with the clusters. -/
def withoutProviders (s : Service) : Service :=
  { s with hasProviders := false }

/-- Every launch from now on reports failures. -/
def breakLaunches (failures : List Failure) (s : Service) : Service :=
  { s with mishaps.launchFailures := some failures }

/-- Every launch from now on reports nothing at all. -/
def emptyLaunches (s : Service) : Service :=
  { s with mishaps.emptyLaunches := true }

/-- The next call that starts tasks is refused. -/
def refuseNextStart (e : Refusal) (s : Service) : Service :=
  { s with mishaps.startTask := some e }

/-- The next call that runs a task is refused. -/
def refuseNextRun (e : Refusal) (s : Service) : Service :=
  { s with mishaps.runTask := some e }

/-- The next call that deregisters a definition is refused. -/
def refuseNextDeregister (e : Refusal) (s : Service) : Service :=
  { s with mishaps.deregister := some e }

/-- The next call that deletes definitions is refused. -/
def refuseNextDelete (e : Refusal) (s : Service) : Service :=
  { s with mishaps.delete := some e }

/-- Launches work again. -/
def mendLaunches (s : Service) : Service :=
  { s with
    mishaps.launchFailures := none
    mishaps.emptyLaunches := false
    mishaps.startTask := none
    mishaps.runTask := none }

/-- Add an instance, or replace the one of its name. -/
def enlist (i : ContainerInstance) (s : Service) : Service :=
  { s with instances := s.instances.insert i.arn i }

/-- Put a task and its definition there that no call has made. -/
def plantTask (t : Task) (d : TaskDefinition) (s : Service) : Service :=
  { s with
    definitions := s.definitions.insert d.arn d
    tasks := s.tasks.insert t.arn t }

/-- Forget the calls so far. -/
def clearJournal (s : Service) : Service :=
  { s with journal := [] }

/-! ## Definitions -/

/-- Register a definition. -/
def register (r : Registration) (s : Service) : TaskDefinition × Service :=
  let revision := s.revisions.getD r.family 0 + 1
  let d : TaskDefinition :=
    { arn := definitionArn r.family revision
      family := r.family
      revision := UInt32.ofNat revision
      status := .active
      containers := r.containers
      networkMode := r.networkMode
      compatibilities := r.compatibilities
      cpu := r.cpu
      memory := r.memory }
  (d, { s with
    revisions := s.revisions.insert r.family revision
    definitions := s.definitions.insert d.arn d })

/-- The error for a definition that does not exist. -/
def noDefinition (arn : String) : Refusal :=
  .notFound ("task definition " ++ arn)

/-- Make a definition inactive. -/
def deregister
    (arn : String) (s : Service) : Except Refusal TaskDefinition × Service :=
  match s.mishaps.deregister with
  | some e => (.error e, { s with mishaps.deregister := none })
  | none =>
    match s.definitions[arn]? with
    | none => (.error (noDefinition arn), s)
    | some d =>
      let d := if d.status = .active then { d with status := .inactive } else d
      (.ok d, { s with definitions := s.definitions.insert arn d })

/-- Remove definitions one by one, up to the first that is still active. -/
def removeDefinitions :
    List String → Std.ExtTreeMap String TaskDefinition →
      Except Refusal Unit × Std.ExtTreeMap String TaskDefinition
  | [], ds => (.ok (), ds)
  | arn :: rest, ds =>
    match ds[arn]? with
    | none => removeDefinitions rest ds
    | some d =>
      if d.status = .active then
        (.error (.invalidParameter
              ("task definition " ++ arn ++
                  " must be deregistered before deletion")), ds)
      else removeDefinitions rest (ds.erase arn)

/-- Remove definitions. -/
def delete (arns : List String) (s : Service) : Except Refusal Unit × Service :=
  match s.mishaps.delete with
  | some e => (.error e, { s with mishaps.delete := none })
  | none =>
    let (answer, definitions) := removeDefinitions arns s.definitions
    (answer, { s with definitions })

/-- Describe a definition. -/
def describeDefinition
    (arn : String) (s : Service) : Except Refusal TaskDefinition :=
  match s.definitions[arn]? with
  | none => .error (noDefinition arn)
  | some d => .ok d

/-- The definition to launch a task from. -/
def launchable (arn : String) (s : Service) : Except Refusal TaskDefinition :=
  match s.definitions[arn]? with
  | none => .error (noDefinition arn)
  | some d =>
    if d.status = .active then .ok d
    else
      .error (.invalidParameter ("task definition " ++ arn ++ " is inactive"))

/-! ## Launches -/

/-- What launches have been arranged to come to. -/
def arrangedOutcome (s : Service) : Option LaunchOutcome :=
  match s.mishaps.launchFailures with
  | some failures => some ⟨[], failures⟩
  | none => if s.mishaps.emptyLaunches then some ⟨[], []⟩ else none

/-- Launch one task. -/
def launch
    (now : UInt64) (cluster : String) (d : TaskDefinition)
    (instanceArn : Option String) (launchType : Option Capacity)
    (provider : Option String) (s : Service) : Task × Service :=
  let t : Task :=
    { arn := taskArn cluster (s.launched + 1)
      definitionArn := d.arn
      cluster
      instanceArn
      lastStatus := "PENDING"
      desiredStatus := .running
      launchType
      capacityProvider := provider
      createdAt := some now
      containers :=
        d.containers.map fun c => ⟨c.name, some c.image, "PENDING"⟩ }
  (t, { s with launched := s.launched + 1, tasks := s.tasks.insert t.arn t })

/-- Start a task on one instance, if the instance exists and has enough left. -/
def startOn
    (now : UInt64) (cluster : String) (d : TaskDefinition) (arn : String)
    (s : Service) : Except Failure Task × Service :=
  match s.instances[arn]? with
  | none => (.error ⟨some arn, "MISSING"⟩, s)
  | some i =>
    if i.lacksMemory d.demand then (.error ⟨some arn, "RESOURCE:MEMORY"⟩, s)
    else if i.lacksCpu d.demand then (.error ⟨some arn, "RESOURCE:CPU"⟩, s)
    else
      let s :=
        { s with instances := s.instances.insert arn (i.reserve d.demand) }
      let (t, s) := s.launch now cluster d (some arn) (some .ec2) none
      (.ok t, { s with reservations := s.reservations.insert t.arn d.demand })

/-- Start a task on each of several instances, one after the other. -/
def startEach (now : UInt64) (cluster : String) (d : TaskDefinition) :
    List String → Service → LaunchOutcome × Service
  | [], s => (⟨[], []⟩, s)
  | arn :: rest, s =>
    let (result, s) := s.startOn now cluster d arn
    let (o, s) := startEach now cluster d rest s
    match result with
    | .ok t => (⟨t :: o.tasks, o.failures⟩, s)
    | .error f => (⟨o.tasks, f :: o.failures⟩, s)

/-- Start tasks on given instances. -/
def startTask (now : UInt64) (r : StartTask) (s : Service) :
    Except Refusal LaunchOutcome × Service :=
  match s.mishaps.startTask with
  | some e => (.error e, { s with mishaps.startTask := none })
  | none =>
    match s.launchable r.definition with
    | .error e => (.error e, s)
    | .ok d =>
      match s.arrangedOutcome with
      | some o => (.ok o, s)
      | none =>
        let (o, s) := s.startEach now r.cluster d r.instances
        (.ok o, s)

/-- The error for capacity providers that no cluster has. -/
def noProviders : Refusal :=
  .invalidParameter
    ("the specified capacity provider strategy cannot contain " ++
        "a capacity provider that is not associated with the cluster")

/-- Run a task where the service places it. -/
def runTask (now : UInt64) (r : RunTask) (s : Service) :
    Except Refusal LaunchOutcome × Service :=
  match s.mishaps.runTask with
  | some e => (.error e, { s with mishaps.runTask := none })
  | none =>
    if !r.providers.isEmpty && !s.hasProviders then (.error noProviders, s)
    else
      match s.launchable r.definition with
      | .error e => (.error e, s)
      | .ok d =>
        match s.arrangedOutcome with
        | some o => (.ok o, s)
        | none =>
          let provider := r.providers.head?.map ProviderShare.provider
          let launchType := if provider.isSome then none else r.launchType
          let (t, s) := s.launch now r.cluster d none launchType provider
          (.ok ⟨[t], []⟩, s)

/-! ## Tasks and instances -/

/-- Hand back what the task called `arn` has reserved on its instance. -/
def handBack (arn : String) (t : Task) (s : Service) : Service :=
  let reserved := s.reservations[arn]?
  let s := { s with reservations := s.reservations.erase arn }
  match t.instanceArn with
  | none => s
  | some instanceArn =>
    match s.instances[instanceArn]? with
    | none => s
    | some i =>
      { s with
        instances := s.instances.insert instanceArn (i.release reserved) }

/-- Stop a task of a cluster.  A task that is already stopped has nothing left
to hand back. -/
def stopTask
    (cluster arn : String) (s : Service) : Except Refusal Task × Service :=
  match s.tasks[arn]? with
  | none => (.error (.notFound ("task " ++ arn)), s)
  | some t =>
    if t.cluster ≠ cluster then (.error (.notFound ("task " ++ arn)), s)
    else
      let stopped :=
        { t with desiredStatus := .stopped, lastStatus := "STOPPED" }
      let s' := { s with tasks := s.tasks.insert arn stopped }
      if t.desiredStatus = .stopped then (.ok stopped, s')
      else (.ok stopped, s'.handBack arn t)

/-- List tasks of a cluster. -/
def listTasks (q : TaskQuery) (s : Service) : List String :=
  let status := q.desiredStatus.getD .running
  (s.tasks.values.filter fun t =>
        t.cluster = q.cluster ∧ t.desiredStatus = status).map Task.arn

/-- Describe tasks of a cluster. -/
def describeTasks
    (cluster : String) (arns : List String) (s : Service) : List Task :=
  (arns.filterMap (s.tasks[·]?)).filter fun t => t.cluster = cluster

/-- Describe instances. -/
def describeInstances
    (arns : List String) (s : Service) : List ContainerInstance :=
  arns.filterMap (s.instances[·]?)

/-! ## Serving calls -/

/-- Carry out a call at a given time. -/
def perform (now : UInt64) : (c : Call) → Service → c.Answer × Service
  | .register r, s =>
    let (d, s) := s.register r
    (.ok d, s)
  | .deregister arn, s => s.deregister arn
  | .delete arns, s => s.delete arns
  | .describeDefinition arn, s => (s.describeDefinition arn, s)
  | .startTask r, s => s.startTask now r
  | .runTask r, s => s.runTask now r
  | .stopTask cluster arn _, s => s.stopTask cluster arn
  | .listTasks q, s => (.ok (s.listTasks q), s)
  | .describeTasks cluster arns, s => (.ok (s.describeTasks cluster arns), s)
  | .listInstances _, s => (.ok s.instances.keys, s)
  | .describeInstances _ arns, s => (.ok (s.describeInstances arns), s)

/-- Write a call into the journal and carry it out. -/
def serve (now : UInt64) (c : Call) (s : Service) : c.Answer × Service :=
  perform now c { s with journal := s.journal ++ [c] }

end Service

/-! ## The gateway

Calls reach a service through a gateway that can be given answers to hand out
instead, each for one kind of call, in the order in which they were given.  A
call that is answered so never reaches the service.
-/

/-- An answer for the next call of a kind. -/
structure PreparedAnswer where
  method : Method
  answer : method.Answer

/-- The first prepared answer for a kind of call, and the others. -/
def PreparedAnswer.take (m : Method) :
    List PreparedAnswer → Option (m.Answer × List PreparedAnswer)
  | [] => none
  | p :: rest =>
    if h : p.method = m then some (h ▸ p.answer, rest)
    else (take m rest).map fun r => (r.1, p :: r.2)

/-- A service behind a gateway. -/
structure Gateway where
  service : Service := {}
  prepared : List PreparedAnswer := []
  /-- The kinds of the calls that the gateway answered itself, in order. -/
  intercepted : List Method := []

namespace Gateway

/-- Prepare an answer. -/
def prepare (p : PreparedAnswer) (g : Gateway) : Gateway :=
  { g with prepared := g.prepared ++ [p] }

/-- Answer a call, from what is prepared or else by the service. -/
def serve (now : UInt64) (c : Call) (g : Gateway) : c.Answer × Gateway :=
  match PreparedAnswer.take c.method g.prepared with
  | some (answer, rest) =>
    (answer,
      { g with prepared := rest, intercepted := g.intercepted ++ [c.method] })
  | none =>
    let (answer, service) := g.service.serve now c
    (answer, { g with service })

end Gateway
end AgentFleet

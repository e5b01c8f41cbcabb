import AgentFleet.Agent.Basic

/-!
# Reading agents back from the cluster

The service is the only record of agents.  The running tasks of the cluster are
listed together with their definitions, each definition being described once,
and the agents of a server are told apart by the labels of the definitions.
-/

namespace AgentFleet

/-! ## Listing tasks -/

/-- Each task with its definition, in order; `known` holds the definitions
described so far.  A task may outlive its definition, and is then left out. -/
def withDefinitions (known : Std.ExtTreeMap String TaskDefinition) :
    List Task → Attempt (List (Task × TaskDefinition))
  | [] => return []
  | t :: rest => do
    match known[t.definitionArn]? with
    | some d => return (t, d) :: (← withDefinitions known rest)
    | none =>
      match ← (Script.call (.describeDefinition t.definitionArn)).run with
      | .ok d =>
        return (t, d) ::
          (← withDefinitions (known.insert t.definitionArn d) rest)
      | .error e =>
        if e.isNotFound then withDefinitions known rest else throw (.service e)

/-- The tasks of the cluster with a desired status, each with its definition. -/
def listedTasksWith (s : Settings) (status : Option DesiredStatus) :
    Attempt (List (Task × TaskDefinition)) := do
  let arns ←
    (Script.call (.listTasks ⟨s.clusterName, status⟩)).adapt Agent.Error.service
  if arns.isEmpty then return []
  let tasks ←
    (Script.call (.describeTasks s.clusterName arns)).adapt Agent.Error.service
  withDefinitions ∅ tasks

/-- The tasks that the cluster lists by default, which are those that are meant
to run. -/
def listedTasks (s : Settings) : Attempt (List (Task × TaskDefinition)) :=
  listedTasksWith s none

/-- The first containers of the tasks that are meant to run. -/
def runningViews
    (server : String) (s : Settings) : Attempt (List ContainerView) := do
  return (← listedTasksWith s (some .running)).map fun (t, d) =>
    ContainerView.ofTask t d server

/-- The state of one task, if the cluster knows it. -/
def lookUpTask (s : Settings) (taskArn : String) : Attempt (Option Task) := do
  let tasks ←
    (Script.call (.describeTasks s.clusterName [taskArn])).adapt
      Agent.Error.service
  return tasks.head?

/-- The machines behind the instances of the cluster. -/
def machinesOf (s : Settings) : Attempt (Std.ExtTreeMap String String) := do
  let arns ←
    (Script.call (.listInstances s.clusterName)).adapt Agent.Error.service
  if arns.isEmpty then return ∅
  let instances ←
    (Script.call (.describeInstances s.clusterName arns)).adapt
      Agent.Error.service
  return Std.ExtTreeMap.ofList (instances.map fun i => (i.arn, i.machineId))

/-! ## Telling agents apart -/

/-- The task runs on serverless capacity, by what the service or its profile
says. -/
def isServerlessTask (t : Task) (o : Ownership) : Bool :=
  t.launchType == some .fargate ||
    t.capacityProvider.any (fun p => "FARGATE".toList.isPrefixOf p.toList) ||
    o.profile.isServerless

/-- Where a task runs, given the machines behind the instances. -/
def targetOf
    (t : Task) (o : Ownership) (machines : Std.ExtTreeMap String String) :
    Target :=
  match t.instanceArn with
  | some arn =>
    match machines[arn]? with
    | some id => .machine id
    | none => .unknown
  | none =>
    if isServerlessTask t o then Target.ofTask o.profile.spot t.arn
    else .unknown

/-- The agent of a server that a task is, if it is one: none if another server
owns the task or if its definition has no container. -/
def Agent.ofListed?
    (t : Task) (d : TaskDefinition) (machines : Std.ExtTreeMap String String)
    (server : String) : Except Labels.Error (Option Agent) :=
  match d.agentLabels? with
  | none => .ok none
  | some labels =>
    if Labels.belongTo labels server then
      (Ownership.ofLabels labels server).map fun o =>
        some (Agent.ofTask t d o (targetOf t o machines))
    else .ok none

/-- The agents of a server among listed tasks; those with unreadable labels are
left out. -/
def ownedAgents
    (listed : List (Task × TaskDefinition))
    (machines : Std.ExtTreeMap String String) (server : String) : List Agent :=
  listed.filterMap fun (t, d) =>
    match Agent.ofListed? t d machines server with
    | .ok agent => agent
    | .error _ => none

/-- All agents of a server in the cluster. -/
def readAgents (server : String) (s : Settings) : Attempt (List Agent) := do
  let listed ← listedTasks s
  let machines ← machinesOf s
  return ownedAgents listed machines server

end AgentFleet

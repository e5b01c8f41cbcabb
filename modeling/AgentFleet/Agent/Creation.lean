import AgentFleet.Agent.Basic
import AgentFleet.Instance.Choice

/-!
# Creating agents

A request becomes one agent task or none.  A specification is built, a place for
the task is found, its definition is registered and launched, and if the launch
fails the definition is removed again.  A request that may use spot capacity is
handed over to it when no instance will do, and then no task comes of it here.
-/

namespace AgentFleet

/-! ## Placements -/

/-- Where a definition is launched. -/
inductive Placement where
  | onHost (host : Host)
  /-- With a share of a capacity provider first, and if that is rejected, once
  more without. -/
  | serverless (network : NetworkConfiguration) (share : ProviderShare)
deriving DecidableEq, Repr

namespace Placement

/-- The first list, or the second if it is empty. -/
def orElse (own shared : List String) : List String :=
  if own.isEmpty then shared else own

/-- The capacity provider for a profile. -/
def provider (p : Profile) : String :=
  if p.spot then "FARGATE_SPOT" else "FARGATE"

/-- The placement of a serverless task.  Its network comes from the profile, or
else from the settings, and needs a subnet. -/
def forServerless (task : String) (s : Settings) (p : Profile) :
    Except Specification.Error Placement :=
  let subnets := orElse p.subnets s.subnets
  if subnets.isEmpty then .error (.noSubnets task)
  else
    .ok (.serverless
        ⟨⟨subnets, orElse p.securityGroups s.securityGroups, false⟩⟩
        ⟨provider p, 1, 0⟩)

/-- Where an agent that was launched at a placement runs. -/
def target (fresh : Identity) (p : Profile) : Placement → Target
  | .onHost host => .machine host.machineId
  | .serverless _ _ => Target.ofIdentity p.spot fresh

end Placement

/-! ## Finding a host -/

/-- The instances of a cluster. -/
def instancesOf
    (cluster : String) : ExceptT Refusal Script (List ContainerInstance) := do
  let arns ← Script.call (.listInstances cluster)
  if arns.isEmpty then return []
  Script.call (.describeInstances cluster arns)

/-- An instance of the cluster that can take a container, if there is one. -/
def findHost (s : Settings) (p : Profile) (c : ContainerDefinition) :
    ExceptT Host.Error Script (Option Host) := do
  let choice := Choice.ofPolicy (s.stopPolicy p.platform)
  let candidates ← (instancesOf s.clusterName).adapt Host.Error.service
  return (choice.pick? (Requirements.ofContainer c p.platform) candidates).map
    Host.ofInstance

/-- A new instance, once the cluster knows about it. -/
def bringUpHost
    (s : Settings) (p : Profile) : ExceptT Host.Error Script Host := do
  let made ← Script.bringUp s p
  let known ←
    (Script.call (.describeInstances s.clusterName [made.arn])).adapt
      Host.Error.service
  match known.find? (·.arn == made.arn) with
  | some i => return Host.ofInstance i
  | none => throw (.absent made.machineId)

/-- What the console is told when spot capacity is asked for. -/
def spotAnnouncement (s : Settings) (p : Profile) : String :=
  "Requested a " ++ p.platform.name ++ " spot instance for cluster " ++
    s.clusterName ++ "."

/-- The host for a task: an existing one, or none if spot capacity is asked for,
or a new one. -/
def findOrBringUpHost (s : Settings) (p : Profile) (c : ContainerDefinition) :
    Attempt (Option Host) := do
  match ← (findHost s p c).adapt Agent.Error.host with
  | some host =>
    Script.say
      ("Found an existing container instance matching the task's platform. " ++
          "Not starting a new instance...")
    return some host
  | none =>
    Script.say "No running instance found to run the task for the current job."
    if p.spot then
      Script.say (spotAnnouncement s p)
      return none
    else return some (← (bringUpHost s p).adapt Agent.Error.host)

/-! ## Definitions -/

/-- Register the definition of a specification. -/
def registerSpecification (spec : Specification) : Attempt TaskDefinition :=
  (Script.call (.register spec.registration)).adapt
    (Agent.Error.registration spec.name)

/-- Remove a definition as far as the service lets it: the second step is tried
whatever comes of the first. -/
def removeDefinition (definitionArn : String) : Script Unit := do
  discard (Script.call (.deregister definitionArn)).run
  discard (Script.call (.delete [definitionArn])).run

/-! ## Launching -/

/-- The call that starts a task on a host. -/
def startCall
    (s : Settings) (definitionArn : String) (host : Host) : StartTask where
  cluster := s.clusterName
  definition := definitionArn
  instances := [host.instanceArn]
  startedBy := some s.pluginId

/-- The call that runs a serverless task. -/
def runCall
    (s : Settings) (definitionArn : String) (network : NetworkConfiguration)
    (share : ProviderShare) : RunTask where
  cluster := s.clusterName
  definition := definitionArn
  providers := [share]
  launchType := none
  network := some network
  startedBy := some s.pluginId

/-- The call that runs the same task by its kind of capacity. -/
def RunTask.byLaunchType (r : RunTask) : RunTask :=
  { r with providers := [], launchType := some .fargate }

/-- Launch a definition at a placement. -/
def launchAt (s : Settings) (definitionArn : String) :
    Placement → ExceptT Refusal Script LaunchOutcome
  | .onHost host => do
    Script.say "Starting task to perform the current job..."
    Script.call (.startTask (startCall s definitionArn host))
  | .serverless network share => do
    Script.say
      ("Starting " ++ share.provider ++ " task to perform the current job...")
    let r := runCall s definitionArn network share
    tryCatch (Script.call (.runTask r)) fun e =>
      if e.isInvalidParameter then Script.call (.runTask r.byLaunchType)
      else throw e

/-- What the console is told about a task that was started. -/
def scheduledLine (name : String) (p : Profile) : Target → String
  | .machine id =>
    if p.spot then
      "[WARNING] The task is scheduled on a spot instance. " ++
        "A spot instance termination would re-schedule the job."
    else "Task " ++ name ++ " scheduled on container instance " ++ id ++ "."
  | _ => "Task " ++ name ++ " scheduled on serverless capacity."

/-- Register a specification, launch it at a placement and see what came of it.
-/
def launch
    (fresh : Identity) (server : String) (s : Settings) (r : AgentRequest)
    (spec : Specification) (placement : Placement) : Attempt Agent := do
  Script.say "Registering task definition with cluster..."
  let definition ← registerSpecification spec
  Script.say "Done registering task definition with cluster."
  match ← (launchAt s definition.arn placement).run with
  | .error e =>
    removeDefinition definition.arn
    throw (.service e)
  | .ok ⟨task :: _, []⟩ =>
    let target := placement.target fresh r.profile
    Script.say (scheduledLine spec.name r.profile target)
    return Agent.ofTask task definition (Specification.ownership r server)
      target
  | .ok outcome =>
    removeDefinition definition.arn
    throw (.launch spec.name outcome.failures)

/-! ## The whole procedure -/

/-- Create the agent that a request asks for, under a fresh identity. -/
def createAgent
    (fresh : Identity) (server : String) (s : Settings) (r : AgentRequest) :
    Attempt (Option Agent) := do
  let name := fresh.agentName
  let spec ←
    (Specification.ofRequest name r s server).mapError Agent.Error.specification
  if r.profile.isServerless then
    Script.say
      "This is a serverless task request. Not creating a container instance."
    let placement ←
      (Placement.forServerless name s r.profile).mapError
        Agent.Error.specification
    return some (← launch fresh server s r spec placement)
  else
    match ← findOrBringUpHost s r.profile spec.container with
    | none => return none
    | some host => return some (← launch fresh server s r spec (.onHost host))

/-- What the service is told about a task that is stopped. -/
def stoppedBecause : String :=
  "Stopped by elastic agent server."

/-- Stop an agent and remove its definition, as far as the service lets it. -/
def stopAgent (s : Settings) (t : Agent) : Script Unit := do
  discard (Script.call (.stopTask s.clusterName t.taskArn stoppedBecause)).run
  removeDefinition t.definitionArn

end AgentFleet

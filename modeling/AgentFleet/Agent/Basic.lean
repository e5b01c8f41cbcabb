import AgentFleet.Script
import AgentFleet.Specification

/-!
# Agents

An agent task as the server sees it.  An agent on an instance shows the name of
its machine; an agent on serverless capacity shows a placeholder in its place,
which either was made up when the task was created or is taken from the name of
the task.

An attempt is a script about agents that ends with a result, or with the reason
why it came to nothing.
-/

namespace AgentFleet

/-- What makes the names that come of one creation fresh. -/
structure Identity where
  /-- The end of the name of the agent. -/
  agent : String
  /-- The end of the placeholder that an agent on serverless capacity shows. -/
  placeholder : String
deriving DecidableEq, Repr

/-- The name of the agent with a fresh identity. -/
def Identity.agentName (fresh : Identity) : String :=
  "GoCD" ++ fresh.agent

/-- Where an agent runs. -/
inductive Target where
  /-- On the machine of a container instance. -/
  | machine (id : String)
  /-- On serverless capacity; the placeholder never names a machine. -/
  | serverless (placeholder : String) (spot : Bool)
  /-- On an instance that is no longer registered. -/
  | unknown
deriving DecidableEq, Repr

namespace Target

/-- The placeholder with a given end. -/
def placeholder (spot : Bool) (ending : String) : String :=
  (if spot then "FargateSpot" else "Fargate") ++ ending

/-- The part of a name behind its last slash. -/
def lastSegment (arn : String) : String :=
  String.ofList ((arn.toList.reverse.takeWhile (· != '/')).reverse)

/-- A target on serverless capacity with a fresh identity. -/
def ofIdentity (spot : Bool) (fresh : Identity) : Target :=
  .serverless (placeholder spot fresh.placeholder) spot

/-- The target of a serverless task that is known by name only. -/
def ofTask (spot : Bool) (taskArn : String) : Target :=
  .serverless (placeholder spot (lastSegment taskArn)) spot

/-- The identity to show for an agent. -/
def shownId? : Target → Option String
  | .machine id => some id
  | .serverless placeholder _ => some placeholder
  | .unknown => none

/-- The agent runs on serverless capacity. -/
def isServerless : Target → Bool
  | .serverless _ _ => true
  | _ => false

end Target

/-- An agent task of this server. -/
structure Agent where
  /-- The name of the agent, which is also the family of its definition. -/
  name : String
  taskArn : String
  definitionArn : String
  profile : Profile
  job : Job
  environment : String
  target : Target
  createdAt : Option UInt64
  lastStatus : String
deriving DecidableEq, Repr

/-- The agent task that a task, its definition and its labels make up. -/
def Agent.ofTask
    (t : Task) (d : TaskDefinition) (o : Ownership) (target : Target) :
    Agent where
  name := d.family
  taskArn := t.arn
  definitionArn := d.arn
  profile := o.profile
  job := o.job
  environment := o.environment
  target
  createdAt := t.createdAt
  lastStatus := t.lastStatus

/-- The first container of a running task. -/
structure ContainerView where
  taskArn : String
  name : String
  image : Option String
  createdAt : Option UInt64
  lastStatus : String
  /-- Absent if the container has no labels of an agent, or none that can be
  read. -/
  ownership : Option Ownership
deriving DecidableEq, Repr

/-- The view of a task through its first container; a definition without
containers lends its own name. -/
def ContainerView.ofTask
    (t : Task) (d : TaskDefinition) (server : String) : ContainerView where
  taskArn := t.arn
  name := (d.containers.head?.map ContainerDefinition.name).getD d.family
  image := (d.containers.head?.map ContainerDefinition.image).or
    (t.containers.head?.bind Container.image)
  createdAt := t.createdAt
  lastStatus := t.lastStatus
  ownership :=
    d.agentLabels?.bind fun labels =>
      (Ownership.ofLabels labels server).toOption

/-! ## Attempts -/

/-- Why an attempt came to nothing. -/
inductive Agent.Error where
  /-- No instance was found or brought up; nothing has been registered. -/
  | host (e : Host.Error)
  /-- The task was not started; its definition has been removed again. -/
  | launch (task : String) (failures : List Failure)
  /-- The definition of the task was not registered. -/
  | registration (task : String) (e : Refusal)
  | service (e : Refusal)
  | labels (e : Labels.Error)
  | specification (e : Specification.Error)
deriving DecidableEq, Repr

/-- The text of an error. -/
def Agent.Error.message : Agent.Error → String
  | .host e => "instance provisioning failed: " ++ e.message
  | .launch task failures =>
    "Fail to start task " ++ task ++ ":\n" ++ Failure.lines failures
  | .registration task e =>
    "failed to register task definition " ++ task ++ ": " ++ e.message
  | .service e => "backend error: " ++ e.message
  | .labels e => "label error: " ++ e.message
  | .specification e => "invalid task specification: " ++ e.message

/-- A script that may come to nothing. -/
abbrev Attempt := ExceptT Agent.Error Script

end AgentFleet

import AgentFleet.Service.Task

/-!
# Launching tasks

A task is started on chosen instances, or run on capacity that the service
places it on.  Either call answers with the tasks that were started and with the
places where one could not be.
-/

namespace AgentFleet

/-- The share of a capacity provider in the placement of tasks. -/
structure ProviderShare where
  provider : String
  weight : UInt32
  base : UInt32
deriving DecidableEq, Repr

namespace ProviderShare

/-- The names of the fields, in writing order. -/
def fieldNames : List String :=
  ["capacityProvider", "weight", "base"]

/-- A share in JSON. -/
def toJson (s : ProviderShare) : Json :=
  Json.ofFields
    [("capacityProvider", Json.ofText s.provider),
      ("weight", Json.ofUInt32 s.weight),
      ("base", Json.ofUInt32 s.base)]

/-- Read a share from JSON. -/
def ofJson? (v : Json) : Option ProviderShare := do
  let fs ← v.fields? fieldNames
  return {
    provider := ← fs.required "capacityProvider" Json.text?
    weight := ← fs.required "weight" Json.uint32?
    base := ← fs.required "base" Json.uint32? }

end ProviderShare

/-- The network that a serverless task is attached to. -/
structure VpcConfiguration where
  subnets : List String
  securityGroups : List String
  assignPublicIp : Bool
deriving DecidableEq, Repr

namespace VpcConfiguration

/-- The names of the fields, in writing order. -/
def fieldNames : List String :=
  ["subnets", "securityGroups", "assignPublicIp"]

/-- A network in JSON. -/
def toJson (n : VpcConfiguration) : Json :=
  Json.ofFields
    [("subnets", Json.ofList Json.ofText n.subnets),
      ("securityGroups", Json.ofList Json.ofText n.securityGroups),
      ("assignPublicIp", .bool n.assignPublicIp)]

/-- Read a network from JSON. -/
def ofJson? (v : Json) : Option VpcConfiguration := do
  let fs ← v.fields? fieldNames
  return {
    subnets := ← fs.required "subnets" (Json.list? Json.text?)
    securityGroups := ← fs.required "securityGroups" (Json.list? Json.text?)
    assignPublicIp := ← fs.required "assignPublicIp" Json.bool? }

end VpcConfiguration

/-- How a serverless task is connected. -/
structure NetworkConfiguration where
  vpc : VpcConfiguration
deriving DecidableEq, Repr

namespace NetworkConfiguration

/-- The names of the fields, in writing order. -/
def fieldNames : List String :=
  ["awsvpcConfiguration"]

/-- A network configuration in JSON. -/
def toJson (n : NetworkConfiguration) : Json :=
  Json.ofFields [("awsvpcConfiguration", n.vpc.toJson)]

/-- Read a network configuration from JSON. -/
def ofJson? (v : Json) : Option NetworkConfiguration := do
  let fs ← v.fields? fieldNames
  return { vpc := ← fs.required "awsvpcConfiguration" VpcConfiguration.ofJson? }

end NetworkConfiguration

/-- Start a task on each of the given instances. -/
structure StartTask where
  cluster : String
  definition : String
  instances : List String
  startedBy : Option String
deriving DecidableEq, Repr

namespace StartTask

/-- The names of the fields, in writing order. -/
def fieldNames : List String :=
  ["cluster", "taskDefinition", "containerInstances", "startedBy"]

/-- The call in JSON. -/
def toJson (r : StartTask) : Json :=
  Json.ofFields
    [("cluster", Json.ofText r.cluster),
      ("taskDefinition", Json.ofText r.definition),
      ("containerInstances", Json.ofList Json.ofText r.instances),
      ("startedBy", Json.ofOption Json.ofText r.startedBy)]

/-- Read the call from JSON. -/
def ofJson? (v : Json) : Option StartTask := do
  let fs ← v.fields? fieldNames
  return {
    cluster := ← fs.required "cluster" Json.text?
    definition := ← fs.required "taskDefinition" Json.text?
    instances := ← fs.required "containerInstances" (Json.list? Json.text?)
    startedBy := ← fs.optional "startedBy" Json.text? }

end StartTask

/-- Run a task wherever the capacity providers, or else the kind of capacity,
place it. -/
structure RunTask where
  cluster : String
  definition : String
  providers : List ProviderShare := []
  launchType : Option Capacity
  network : Option NetworkConfiguration
  startedBy : Option String
deriving DecidableEq, Repr

namespace RunTask

/-- The names of the fields, in writing order. -/
def fieldNames : List String :=
  ["cluster", "taskDefinition", "capacityProviderStrategy", "launchType",
    "networkConfiguration", "startedBy"]

/-- The call in JSON. -/
def toJson (r : RunTask) : Json :=
  Json.ofFields
    [("cluster", Json.ofText r.cluster),
      ("taskDefinition", Json.ofText r.definition),
      ("capacityProviderStrategy",
        Json.ofList ProviderShare.toJson r.providers),
      ("launchType", Json.ofOption (Json.ofText ∘ Capacity.name) r.launchType),
      ("networkConfiguration",
        Json.ofOption NetworkConfiguration.toJson r.network),
      ("startedBy", Json.ofOption Json.ofText r.startedBy)]

/-- Read the call from JSON. -/
def ofJson? (v : Json) : Option RunTask := do
  let fs ← v.fields? fieldNames
  return {
    cluster := ← fs.required "cluster" Json.text?
    definition := ← fs.required "taskDefinition" Json.text?
    providers := ← fs.withDefault "capacityProviderStrategy" []
      (Json.list? ProviderShare.ofJson?)
    launchType := ← fs.optional "launchType" (Json.choice? Capacity.ofName?)
    network := ← fs.optional "networkConfiguration" NetworkConfiguration.ofJson?
    startedBy := ← fs.optional "startedBy" Json.text? }

end RunTask

/-- A place where a task could not be started. -/
structure Failure where
  arn : Option String
  reason : String
deriving DecidableEq, Repr

namespace Failure

/-- The names of the fields, in writing order. -/
def fieldNames : List String :=
  ["arn", "reason"]

/-- A failure in JSON. -/
def toJson (f : Failure) : Json :=
  Json.ofFields
    [("arn", Json.ofOption Json.ofText f.arn), ("reason", Json.ofText f.reason)]

/-- Read a failure from JSON. -/
def ofJson? (v : Json) : Option Failure := do
  let fs ← v.fields? fieldNames
  return {
    arn := ← fs.optional "arn" Json.text?
    reason := ← fs.required "reason" Json.text? }

/-- A failure on a line of its own. -/
def line (f : Failure) : String :=
  "    " ++ f.arn.getD "unknown" ++ " failed with reason :" ++ f.reason

/-- Failures, one to a line. -/
def lines (fs : List Failure) : String :=
  "\n".intercalate (fs.map line)

end Failure

/-- What came of a launch. -/
structure LaunchOutcome where
  tasks : List Task
  failures : List Failure
deriving DecidableEq, Repr

namespace LaunchOutcome

/-- Nothing failed and something was started. -/
def isStarted (o : LaunchOutcome) : Bool :=
  o.failures.isEmpty && !o.tasks.isEmpty

/-- The names of the fields, in writing order. -/
def fieldNames : List String :=
  ["tasks", "failures"]

/-- An outcome in JSON. -/
def toJson (o : LaunchOutcome) : Json :=
  Json.ofFields
    [("tasks", Json.ofList Task.toJson o.tasks),
      ("failures", Json.ofList Failure.toJson o.failures)]

/-- Read an outcome from JSON. -/
def ofJson? (v : Json) : Option LaunchOutcome := do
  let fs ← v.fields? fieldNames
  return {
    tasks := ← fs.required "tasks" (Json.list? Task.ofJson?)
    failures := ← fs.required "failures" (Json.list? Failure.ofJson?) }

end LaunchOutcome
end AgentFleet

import AgentFleet.Service.Definition

/-!
# Tasks

A task is a definition that was started.  Its desired status is what the service
was told to bring about; the last status is what was last seen of it.
-/

namespace AgentFleet

/-- What a task is meant to do. -/
inductive DesiredStatus where
  | running
  | pending
  | stopped
deriving DecidableEq, Repr

namespace DesiredStatus

/-- The name of a status. -/
def name : DesiredStatus → String
  | .running => "RUNNING"
  | .pending => "PENDING"
  | .stopped => "STOPPED"

/-- The status with the given name. -/
def ofName? (s : String) : Option DesiredStatus :=
  if s = "RUNNING" then some .running
  else if s = "PENDING" then some .pending
  else if s = "STOPPED" then some .stopped
  else none

@[simp]
theorem ofName?_name (s : DesiredStatus) : ofName? s.name = some s := by
  cases s <;> decide

end DesiredStatus

/-- One container of a task. -/
structure Container where
  name : String
  image : Option String
  lastStatus : String
deriving DecidableEq, Repr

namespace Container

/-- The names of the fields, in writing order. -/
def fieldNames : List String :=
  ["name", "image", "lastStatus"]

/-- A container in JSON. -/
def toJson (c : Container) : Json :=
  Json.ofFields
    [("name", Json.ofText c.name),
      ("image", Json.ofOption Json.ofText c.image),
      ("lastStatus", Json.ofText c.lastStatus)]

/-- Read a container from JSON. -/
def ofJson? (v : Json) : Option Container := do
  let fs ← v.fields? fieldNames
  return {
    name := ← fs.required "name" Json.text?
    image := ← fs.optional "image" Json.text?
    lastStatus := ← fs.required "lastStatus" Json.text? }

end Container

/-- A task. -/
structure Task where
  arn : String
  definitionArn : String
  cluster : String
  /-- The instance that a task runs on, if it is an instance of the cluster. -/
  instanceArn : Option String
  lastStatus : String
  desiredStatus : DesiredStatus
  launchType : Option Capacity
  capacityProvider : Option String
  /-- Seconds since the beginning of 1970. -/
  createdAt : Option UInt64
  containers : List Container := []
deriving DecidableEq, Repr

namespace Task

/-- The names of the fields, in writing order. -/
def fieldNames : List String :=
  ["taskArn", "taskDefinitionArn", "cluster", "containerInstanceArn",
    "lastStatus", "desiredStatus", "launchType", "capacityProviderName",
    "createdAt", "containers"]

/-- A task in JSON. -/
def toJson (t : Task) : Json :=
  Json.ofFields
    [("taskArn", Json.ofText t.arn),
      ("taskDefinitionArn", Json.ofText t.definitionArn),
      ("cluster", Json.ofText t.cluster),
      ("containerInstanceArn", Json.ofOption Json.ofText t.instanceArn),
      ("lastStatus", Json.ofText t.lastStatus),
      ("desiredStatus", Json.ofText t.desiredStatus.name),
      ("launchType", Json.ofOption (Json.ofText ∘ Capacity.name) t.launchType),
      ("capacityProviderName", Json.ofOption Json.ofText t.capacityProvider),
      ("createdAt", Json.ofOption Json.ofUInt64 t.createdAt),
      ("containers", Json.ofList Container.toJson t.containers)]

/-- Read a task from JSON. -/
def ofJson? (v : Json) : Option Task := do
  let fs ← v.fields? fieldNames
  return {
    arn := ← fs.required "taskArn" Json.text?
    definitionArn := ← fs.required "taskDefinitionArn" Json.text?
    cluster := ← fs.required "cluster" Json.text?
    instanceArn := ← fs.optional "containerInstanceArn" Json.text?
    lastStatus := ← fs.required "lastStatus" Json.text?
    desiredStatus := ← fs.required "desiredStatus"
      (Json.choice? DesiredStatus.ofName?)
    launchType := ← fs.optional "launchType" (Json.choice? Capacity.ofName?)
    capacityProvider := ← fs.optional "capacityProviderName" Json.text?
    createdAt := ← fs.optional "createdAt" Json.uint64?
    containers := ← fs.withDefault "containers" []
      (Json.list? Container.ofJson?) }

end Task

/-- Which tasks to list. -/
structure TaskQuery where
  cluster : String
  desiredStatus : Option DesiredStatus
deriving DecidableEq, Repr

namespace TaskQuery

/-- The names of the fields, in writing order. -/
def fieldNames : List String :=
  ["cluster", "desiredStatus"]

/-- A query in JSON. -/
def toJson (q : TaskQuery) : Json :=
  Json.ofFields
    [("cluster", Json.ofText q.cluster),
      ("desiredStatus",
        Json.ofOption (Json.ofText ∘ DesiredStatus.name) q.desiredStatus)]

/-- Read a query from JSON. -/
def ofJson? (v : Json) : Option TaskQuery := do
  let fs ← v.fields? fieldNames
  return {
    cluster := ← fs.required "cluster" Json.text?
    desiredStatus := ← fs.optional "desiredStatus"
      (Json.choice? DesiredStatus.ofName?) }

end TaskQuery
end AgentFleet

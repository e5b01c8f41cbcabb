import AgentFleet.Settings.Basic

/-!
# Task definitions

What a container service has to know before it can run a task: the containers,
how they are connected and where they may be placed.  A registration is the body
of the call that makes a definition; the definition itself also has a name of
its own, a revision and a status.
-/

namespace AgentFleet

/-- How the containers of a task are connected. -/
inductive NetworkMode where
  | bridge
  | awsvpc
  | default
deriving DecidableEq, Repr

namespace NetworkMode

/-- The name of a network mode. -/
def name : NetworkMode → String
  | .bridge => "bridge"
  | .awsvpc => "awsvpc"
  | .default => "default"

/-- The network mode with the given name. -/
def ofName? (s : String) : Option NetworkMode :=
  if s = "bridge" then some .bridge
  else if s = "awsvpc" then some .awsvpc
  else if s = "default" then some .default
  else none

@[simp]
theorem ofName?_name (m : NetworkMode) : ofName? m.name = some m := by
  cases m <;> decide

end NetworkMode

/-- The capacity that a task runs on: instances of the cluster, or the service's
own. -/
inductive Capacity where
  | ec2
  | fargate
deriving DecidableEq, Repr

namespace Capacity

/-- The name of a kind of capacity. -/
def name : Capacity → String
  | .ec2 => "EC2"
  | .fargate => "FARGATE"

/-- The kind of capacity with the given name. -/
def ofName? (s : String) : Option Capacity :=
  if s = "EC2" then some .ec2 else if s = "FARGATE" then some .fargate else none

@[simp]
theorem ofName?_name (c : Capacity) : ofName? c.name = some c := by
  cases c <;> decide

end Capacity

/-- A volume at its place in a container. -/
structure MountPoint where
  sourceVolume : String
  containerPath : String
  readOnly : Bool
deriving DecidableEq, Repr

namespace MountPoint

/-- The names of the fields, in writing order. -/
def fieldNames : List String :=
  ["sourceVolume", "containerPath", "readOnly"]

/-- A mount point in JSON. -/
def toJson (m : MountPoint) : Json :=
  Json.ofFields
    [("sourceVolume", Json.ofText m.sourceVolume),
      ("containerPath", Json.ofText m.containerPath),
      ("readOnly", .bool m.readOnly)]

/-- Read a mount point from JSON. -/
def ofJson? (v : Json) : Option MountPoint := do
  let fs ← v.fields? fieldNames
  return {
    sourceVolume := ← fs.required "sourceVolume" Json.text?
    containerPath := ← fs.required "containerPath" Json.text?
    readOnly := ← fs.required "readOnly" Json.bool? }

end MountPoint

/-- A directory of the host that containers can mount. -/
structure Volume where
  name : String
  hostPath : Option String
deriving DecidableEq, Repr

namespace Volume

/-- The names of the fields, in writing order. -/
def fieldNames : List String :=
  ["name", "hostPath"]

/-- A volume in JSON. -/
def toJson (v : Volume) : Json :=
  Json.ofFields
    [("name", Json.ofText v.name),
      ("hostPath", Json.ofOption Json.ofText v.hostPath)]

/-- Read a volume from JSON. -/
def ofJson? (v : Json) : Option Volume := do
  let fs ← v.fields? fieldNames
  return {
    name := ← fs.required "name" Json.text?
    hostPath := ← fs.optional "hostPath" Json.text? }

end Volume

/-- One container of a task. -/
structure ContainerDefinition where
  name : String
  image : String
  command : List String := []
  environment : Std.ExtTreeMap String String := ∅
  labels : Std.ExtTreeMap String String := ∅
  /-- The hard memory limit in MiB. -/
  memory : Option UInt32 := none
  /-- The soft memory reservation in MiB. -/
  memoryReservation : Option UInt32 := none
  cpu : UInt32 := 0
  privileged : Bool := false
  essential : Bool := false
  mountPoints : List MountPoint := []
  logConfiguration : Option LogConfiguration := none
deriving DecidableEq

namespace ContainerDefinition

/-- The memory that a container takes of an instance: its hard limit, or else
its reservation. -/
def memoryDemand (c : ContainerDefinition) : UInt32 :=
  (c.memory.or c.memoryReservation).getD 0

/-- The names of the fields, in writing order. -/
def fieldNames : List String :=
  ["name", "image", "command", "environment", "dockerLabels", "memory",
    "memoryReservation", "cpu", "privileged", "essential", "mountPoints",
    "logConfiguration"]

/-- A container definition in JSON. -/
def toJson (c : ContainerDefinition) : Json :=
  Json.ofFields
    [("name", Json.ofText c.name), ("image", Json.ofText c.image),
      ("command", Json.ofList Json.ofText c.command),
      ("environment", Json.ofTexts c.environment),
      ("dockerLabels", Json.ofTexts c.labels),
      ("memory", Json.ofOption Json.ofUInt32 c.memory),
      ("memoryReservation", Json.ofOption Json.ofUInt32 c.memoryReservation),
      ("cpu", Json.ofUInt32 c.cpu), ("privileged", .bool c.privileged),
      ("essential", .bool c.essential),
      ("mountPoints", Json.ofList MountPoint.toJson c.mountPoints),
      ("logConfiguration",
        Json.ofOption LogConfiguration.toJson c.logConfiguration)]

/-- Read a container definition from JSON. -/
def ofJson? (v : Json) : Option ContainerDefinition := do
  let fs ← v.fields? fieldNames
  return {
    name := ← fs.required "name" Json.text?
    image := ← fs.required "image" Json.text?
    command := ← fs.withDefault "command" [] (Json.list? Json.text?)
    environment := ← fs.withDefault "environment" ∅ Json.texts?
    labels := ← fs.withDefault "dockerLabels" ∅ Json.texts?
    memory := ← fs.optional "memory" Json.uint32?
    memoryReservation := ← fs.optional "memoryReservation" Json.uint32?
    cpu := ← fs.withDefault "cpu" 0 Json.uint32?
    privileged := ← fs.withDefault "privileged" false Json.bool?
    essential := ← fs.withDefault "essential" false Json.bool?
    mountPoints := ← fs.withDefault "mountPoints" []
      (Json.list? MountPoint.ofJson?)
    logConfiguration := ← fs.optional "logConfiguration"
      LogConfiguration.ofJson? }

end ContainerDefinition

/-- The body of a call that registers a task definition. -/
structure Registration where
  family : String
  containers : List ContainerDefinition
  volumes : List Volume := []
  networkMode : NetworkMode
  compatibilities : List Capacity
  /-- Processor units of the whole task, as serverless tasks need them. -/
  cpu : Option String
  /-- MiB of memory of the whole task, as serverless tasks need them. -/
  memory : Option String
  taskRole : Option String
  executionRole : Option String
deriving DecidableEq

namespace Registration

/-- The names of the fields, in writing order. -/
def fieldNames : List String :=
  ["family", "containerDefinitions", "volumes", "networkMode",
    "requiresCompatibilities", "cpu", "memory", "taskRoleArn",
    "executionRoleArn"]

/-- A registration in JSON. -/
def toJson (r : Registration) : Json :=
  Json.ofFields
    [("family", Json.ofText r.family),
      ("containerDefinitions",
        Json.ofList ContainerDefinition.toJson r.containers),
      ("volumes", Json.ofList Volume.toJson r.volumes),
      ("networkMode", Json.ofText r.networkMode.name),
      ("requiresCompatibilities",
        Json.ofList (Json.ofText ∘ Capacity.name) r.compatibilities),
      ("cpu", Json.ofOption Json.ofText r.cpu),
      ("memory", Json.ofOption Json.ofText r.memory),
      ("taskRoleArn", Json.ofOption Json.ofText r.taskRole),
      ("executionRoleArn", Json.ofOption Json.ofText r.executionRole)]

/-- Read a registration from JSON. -/
def ofJson? (v : Json) : Option Registration := do
  let fs ← v.fields? fieldNames
  return {
    family := ← fs.required "family" Json.text?
    containers := ← fs.required "containerDefinitions"
      (Json.list? ContainerDefinition.ofJson?)
    volumes := ← fs.withDefault "volumes" [] (Json.list? Volume.ofJson?)
    networkMode := ← fs.required "networkMode"
      (Json.choice? NetworkMode.ofName?)
    compatibilities := ← fs.required "requiresCompatibilities"
      (Json.list? (Json.choice? Capacity.ofName?))
    cpu := ← fs.optional "cpu" Json.text?
    memory := ← fs.optional "memory" Json.text?
    taskRole := ← fs.optional "taskRoleArn" Json.text?
    executionRole := ← fs.optional "executionRoleArn" Json.text? }

end Registration

/-- Whether tasks may be started from a definition. -/
inductive DefinitionStatus where
  | active
  | inactive
  | deleteInProgress
deriving DecidableEq, Repr

namespace DefinitionStatus

/-- The name of a status. -/
def name : DefinitionStatus → String
  | .active => "ACTIVE"
  | .inactive => "INACTIVE"
  | .deleteInProgress => "DELETE_IN_PROGRESS"

/-- The status with the given name. -/
def ofName? (s : String) : Option DefinitionStatus :=
  if s = "ACTIVE" then some .active
  else if s = "INACTIVE" then some .inactive
  else if s = "DELETE_IN_PROGRESS" then some .deleteInProgress
  else none

@[simp]
theorem ofName?_name (s : DefinitionStatus) : ofName? s.name = some s := by
  cases s <;> decide

end DefinitionStatus

/-- A task definition as the service keeps it. -/
structure TaskDefinition where
  arn : String
  family : String
  revision : UInt32
  status : DefinitionStatus
  containers : List ContainerDefinition
  networkMode : NetworkMode
  compatibilities : List Capacity
  cpu : Option String
  memory : Option String
deriving DecidableEq

namespace TaskDefinition

/-- The labels of the first container, where ownership is kept. -/
def agentLabels? (d : TaskDefinition) : Option (Std.ExtTreeMap String String) :=
  d.containers.head?.map ContainerDefinition.labels

/-- The names of the fields, in writing order. -/
def fieldNames : List String :=
  ["taskDefinitionArn", "family", "revision", "status", "containerDefinitions",
    "networkMode", "requiresCompatibilities", "cpu", "memory"]

/-- A task definition in JSON. -/
def toJson (d : TaskDefinition) : Json :=
  Json.ofFields
    [("taskDefinitionArn", Json.ofText d.arn), ("family", Json.ofText d.family),
      ("revision", Json.ofUInt32 d.revision),
      ("status", Json.ofText d.status.name),
      ("containerDefinitions",
        Json.ofList ContainerDefinition.toJson d.containers),
      ("networkMode", Json.ofText d.networkMode.name),
      ("requiresCompatibilities",
        Json.ofList (Json.ofText ∘ Capacity.name) d.compatibilities),
      ("cpu", Json.ofOption Json.ofText d.cpu),
      ("memory", Json.ofOption Json.ofText d.memory)]

/-- Read a task definition from JSON. -/
def ofJson? (v : Json) : Option TaskDefinition := do
  let fs ← v.fields? fieldNames
  return {
    arn := ← fs.required "taskDefinitionArn" Json.text?
    family := ← fs.required "family" Json.text?
    revision := ← fs.required "revision" Json.uint32?
    status := ← fs.required "status" (Json.choice? DefinitionStatus.ofName?)
    containers := ← fs.required "containerDefinitions"
      (Json.list? ContainerDefinition.ofJson?)
    networkMode := ← fs.required "networkMode"
      (Json.choice? NetworkMode.ofName?)
    compatibilities := ← fs.required "requiresCompatibilities"
      (Json.list? (Json.choice? Capacity.ofName?))
    cpu := ← fs.optional "cpu" Json.text?
    memory := ← fs.optional "memory" Json.text? }

end TaskDefinition
end AgentFleet

import AgentFleet.Json.Record
import AgentFleet.Text.Basic

/-!
# Container instances

A machine of a cluster that tasks can be placed on, with what it has and what is
left of it.
-/

namespace AgentFleet

/-- A container instance. -/
structure ContainerInstance where
  arn : String
  /-- The name of the machine behind the instance. -/
  machineId : String
  status : String
  runningTasks : UInt32
  pendingTasks : UInt32
  registeredCpu : UInt32
  registeredMemory : UInt32
  remainingCpu : UInt32
  remainingMemory : UInt32
  attributes : Std.ExtTreeMap String String := ∅
deriving DecidableEq

namespace ContainerInstance

/-- The instance takes tasks. -/
def isActive (i : ContainerInstance) : Bool :=
  Text.sameCaseless i.status "ACTIVE"

/-- No task is or is about to be on the instance. -/
def isIdle (i : ContainerInstance) : Bool :=
  i.runningTasks == 0 && i.pendingTasks == 0

/-- The attribute that names the operating system. -/
def osAttribute : String := "ecs.os-type"

/-- The operating system, if the instance reports one. -/
def osType? (i : ContainerInstance) : Option String :=
  i.attributes[osAttribute]?

/-- The names of the fields, in writing order. -/
def fieldNames : List String :=
  ["containerInstanceArn", "ec2InstanceId", "status", "runningTasksCount",
    "pendingTasksCount", "registeredCpu", "registeredMemoryMib", "remainingCpu",
    "remainingMemoryMib", "attributes"]

/-- An instance in JSON. -/
def toJson (i : ContainerInstance) : Json :=
  Json.ofFields
    [("containerInstanceArn", Json.ofText i.arn),
      ("ec2InstanceId", Json.ofText i.machineId),
      ("status", Json.ofText i.status),
      ("runningTasksCount", Json.ofUInt32 i.runningTasks),
      ("pendingTasksCount", Json.ofUInt32 i.pendingTasks),
      ("registeredCpu", Json.ofUInt32 i.registeredCpu),
      ("registeredMemoryMib", Json.ofUInt32 i.registeredMemory),
      ("remainingCpu", Json.ofUInt32 i.remainingCpu),
      ("remainingMemoryMib", Json.ofUInt32 i.remainingMemory),
      ("attributes", Json.ofTexts i.attributes)]

/-- Read an instance from JSON. -/
def ofJson? (v : Json) : Option ContainerInstance := do
  let fs ← v.fields? fieldNames
  return {
    arn := ← fs.required "containerInstanceArn" Json.text?
    machineId := ← fs.required "ec2InstanceId" Json.text?
    status := ← fs.required "status" Json.text?
    runningTasks := ← fs.required "runningTasksCount" Json.uint32?
    pendingTasks := ← fs.required "pendingTasksCount" Json.uint32?
    registeredCpu := ← fs.required "registeredCpu" Json.uint32?
    registeredMemory := ← fs.required "registeredMemoryMib" Json.uint32?
    remainingCpu := ← fs.required "remainingCpu" Json.uint32?
    remainingMemory := ← fs.required "remainingMemoryMib" Json.uint32?
    attributes := ← fs.withDefault "attributes" ∅ Json.texts? }

end ContainerInstance
end AgentFleet

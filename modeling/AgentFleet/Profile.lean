import AgentFleet.Json.Parser
import AgentFleet.Json.Printer
import AgentFleet.Json.Record
import AgentFleet.Platform

/-!
# Agent profiles

A profile says what an agent needs: its image, its share of memory and
processor, where it may run and what is mounted and passed into its container.
The written form of a profile is a label of every task definition, so the names
of its fields are part of a contract with tasks that are already running.
-/

namespace AgentFleet

/-- How a task gets its compute. -/
inductive LaunchMode where
  /-- On a container instance that is found or created for it. -/
  | instanceBacked
  /-- On capacity the service manages, without an addressable instance. -/
  | serverless
deriving DecidableEq, Repr, Inhabited

namespace LaunchMode

/-- The name of a launch mode in profiles. -/
def name : LaunchMode → String
  | .instanceBacked => "instance_backed"
  | .serverless => "serverless"

/-- The launch mode with the given name. -/
def ofName? (s : String) : Option LaunchMode :=
  if s = "instance_backed" then some .instanceBacked
  else if s = "serverless" then some .serverless
  else none

@[simp]
theorem ofName?_name (m : LaunchMode) : ofName? m.name = some m := by
  cases m <;> decide

end LaunchMode

/-- The configuration of one kind of agent. -/
structure Profile where
  image : String
  platform : Platform := .linux
  launchMode : LaunchMode := .instanceBacked
  /-- The agent may run on capacity that can be taken away. -/
  spot : Bool := false
  /-- The hard memory limit in MiB. -/
  memory : UInt32
  /-- The soft memory reservation in MiB. -/
  reservedMemory : Option UInt32 := none
  /-- Processor units, 1024 to a virtual processor. -/
  cpu : UInt32 := 0
  command : List String := []
  /-- Lines `KEY=VALUE` added to the environment of the container. -/
  environment : List String := []
  privileged : Bool := false
  mountDockerSocket : Bool := false
  taskRole : Option String := none
  executionRole : Option String := none
  /-- Takes the place of the subnets in the settings, unless empty. -/
  subnets : List String := []
  /-- Takes the place of the security groups in the settings, unless empty. -/
  securityGroups : List String := []
  instanceType : Option String := none
  ami : Option String := none
deriving DecidableEq, Repr

namespace Profile

/-- The agent runs on capacity that the service manages. -/
def isServerless (p : Profile) : Bool :=
  p.launchMode == .serverless

/-- The names of the fields, in writing order. -/
def fieldNames : List String :=
  ["image", "platform", "launch_mode", "run_as_spot_instance", "memory_mib",
    "reserved_memory_mib", "cpu", "command", "environment", "privileged",
    "mount_docker_socket", "task_role_arn", "execution_role_arn", "subnet_ids",
    "security_group_ids", "instance_type", "ami_id"]

/-- A profile in JSON. -/
def toJson (p : Profile) : Json :=
  Json.ofFields
    [("image", Json.ofText p.image),
      ("platform", p.platform.toJson),
      ("launch_mode", Json.ofText p.launchMode.name),
      ("run_as_spot_instance", .bool p.spot),
      ("memory_mib", Json.ofUInt32 p.memory),
      ("reserved_memory_mib", Json.ofOption Json.ofUInt32 p.reservedMemory),
      ("cpu", Json.ofUInt32 p.cpu),
      ("command", Json.ofList Json.ofText p.command),
      ("environment", Json.ofList Json.ofText p.environment),
      ("privileged", .bool p.privileged),
      ("mount_docker_socket", .bool p.mountDockerSocket),
      ("task_role_arn", Json.ofOption Json.ofText p.taskRole),
      ("execution_role_arn", Json.ofOption Json.ofText p.executionRole),
      ("subnet_ids", Json.ofList Json.ofText p.subnets),
      ("security_group_ids", Json.ofList Json.ofText p.securityGroups),
      ("instance_type", Json.ofOption Json.ofText p.instanceType),
      ("ami_id", Json.ofOption Json.ofText p.ami)]

/-- Read a profile from JSON.  Only the image and the memory have to be given.
-/
def ofJson? (v : Json) : Option Profile := do
  let fs ← v.fields? fieldNames
  return {
    image := ← fs.required "image" Json.text?
    platform := ← fs.withDefault "platform" .linux Platform.ofJson?
    launchMode := ← fs.withDefault "launch_mode" .instanceBacked
      (Json.choice? LaunchMode.ofName?)
    spot := ← fs.withDefault "run_as_spot_instance" false Json.bool?
    memory := ← fs.required "memory_mib" Json.uint32?
    reservedMemory := ← fs.withDefault "reserved_memory_mib" none
      (Json.nullable Json.uint32?)
    cpu := ← fs.withDefault "cpu" 0 Json.uint32?
    command := ← fs.withDefault "command" [] (Json.list? Json.text?)
    environment := ← fs.withDefault "environment" [] (Json.list? Json.text?)
    privileged := ← fs.withDefault "privileged" false Json.bool?
    mountDockerSocket := ← fs.withDefault "mount_docker_socket" false Json.bool?
    taskRole := ← fs.withDefault "task_role_arn" none (Json.nullable Json.text?)
    executionRole := ← fs.withDefault "execution_role_arn" none
      (Json.nullable Json.text?)
    subnets := ← fs.withDefault "subnet_ids" [] (Json.list? Json.text?)
    securityGroups := ← fs.withDefault "security_group_ids" []
      (Json.list? Json.text?)
    instanceType := ← fs.withDefault "instance_type" none
      (Json.nullable Json.text?)
    ami := ← fs.withDefault "ami_id" none (Json.nullable Json.text?) }

/-- The written form of a profile. -/
def render (p : Profile) : String :=
  p.toJson.compact

/-- Read the written form of a profile. -/
def parse? (s : String) : Option Profile :=
  Json.parse? s >>= ofJson?

end Profile
end AgentFleet

import AgentFleet.Ownership
import AgentFleet.Service.Definition
import AgentFleet.Text.Quoted

/-!
# Task specifications

A request is turned into the definition of a task with a single container.  The
environment of the container has three layers: what the agent needs to register
itself, the environment of the settings and the lines of the profile, of which a
later layer overrides an earlier one.
-/

namespace AgentFleet

/-- What makes a request impossible to carry out. -/
inductive Specification.Error where
  | emptyImage
  | zeroMemory
  | malformedEnvironment (line : String)
  | noSubnets (task : String)
deriving DecidableEq, Repr

/-- The text of an error. -/
def Specification.Error.message : Specification.Error → String
  | .emptyImage => "profile image must not be empty"
  | .zeroMemory => "profile memory must be greater than zero"
  | .malformedEnvironment line =>
    "malformed environment line " ++ Text.quoted line ++ ", expected KEY=VALUE"
  | .noSubnets task =>
    "serverless task " ++ task ++ " has no subnets configured"

/-- Everything that is registered for one agent task. -/
structure Specification where
  /-- The name of the agent, of its container and of the family of its
  definition. -/
  name : String
  container : ContainerDefinition
  volumes : List Volume
  stopPolicy : StopPolicy
  networkMode : NetworkMode
  compatibility : Capacity
  /-- Processor units of a serverless task. -/
  taskCpu : Option String
  /-- MiB of memory of a serverless task. -/
  taskMemory : Option String
  taskRole : Option String
  executionRole : Option String
deriving DecidableEq

namespace Specification

/-! ## Environment -/

/-- What an agent needs to register itself with the server. -/
def agentEnvironment (name : String) (r : AgentRequest) (s : Settings) :
    Std.ExtTreeMap String String :=
  Std.ExtTreeMap.ofList
    [("GO_EA_SERVER_URL", s.serverUrl),
      ("GO_EA_AUTO_REGISTER_KEY", r.autoRegisterKey),
      ("GO_EA_AUTO_REGISTER_ENVIRONMENT", r.environment),
      ("GO_EA_AUTO_REGISTER_ELASTIC_AGENT_ID", name),
      ("GO_EA_AUTO_REGISTER_ELASTIC_PLUGIN_ID", s.pluginId)]

/-- The key and the value of an environment line: what stands before the first
equals sign, trimmed, and what stands behind it.  A blank line has neither. -/
def environmentEntry
    (line : String) : Except Specification.Error (Option (String × String)) :=
  let cs := Text.trimChars line.toList
  if cs = [] then .ok none
  else
    let key := Text.trimChars (cs.takeWhile (· != '='))
    match cs.dropWhile (· != '=') with
    | _ :: value =>
      if key = [] then .error (.malformedEnvironment (String.ofList cs))
      else .ok (some (String.ofList key, String.ofList value))
    | [] => .error (.malformedEnvironment (String.ofList cs))

/-- Add the entries of environment lines one after the other. -/
def addLines : List String → Std.ExtTreeMap String String →
    Except Specification.Error (Std.ExtTreeMap String String)
  | [], env => .ok env
  | line :: rest, env =>
    match environmentEntry line with
    | .error e => .error e
    | .ok none => addLines rest env
    | .ok (some (key, value)) => addLines rest (env.insert key value)

/-- The environment of the container. -/
def environmentFor (name : String) (r : AgentRequest) (s : Settings) :
    Except Specification.Error (Std.ExtTreeMap String String) :=
  addLines r.profile.environment (agentEnvironment name r s ∪ s.environment)

/-! ## Mounts and sizes -/

/-- The socket of the container runtime on the host and in the container. -/
def runtimeSocket : String := "/var/run/docker.sock"

/-- The volume that holds the socket. -/
def socketVolume : String := "docker_sock"

/-- The socket is mounted only where there is one: on Linux instances. -/
def mountsSocket (p : Profile) : Bool :=
  p.mountDockerSocket && p.platform == .linux && !p.isServerless

/-- Processor units of a serverless task whose profile asks for none. -/
def assumedCpu : UInt32 := 256

/-- The network mode of a task. -/
def networkModeFor (p : Profile) : NetworkMode :=
  if p.isServerless then .awsvpc
  else
    match p.platform with
    | .linux => .bridge
    | .windows => .default

/-- The ownership that the labels of an agent's container declare. -/
def ownership (r : AgentRequest) (server : String) : Ownership where
  serverId := server
  job := r.job
  environment := r.environment
  profile := r.profile

/-! ## Building -/

/-- The specification for a request whose container has a given environment. -/
def assemble (name : String) (r : AgentRequest) (s : Settings) (server : String)
    (environment : Std.ExtTreeMap String String) : Specification :=
  let p := r.profile
  let serverless := p.isServerless
  let socket := mountsSocket p
  { name
    container :=
      { name
        image := p.image
        command := p.command
        environment
        labels := (ownership r server).toLabels s.pluginId
        memory := some p.memory
        memoryReservation := p.reservedMemory
        cpu := p.cpu
        privileged := p.privileged && !serverless
        essential := true
        mountPoints :=
          if socket then [⟨socketVolume, runtimeSocket, false⟩] else []
        logConfiguration := s.log }
    volumes := if socket then [⟨socketVolume, some runtimeSocket⟩] else []
    stopPolicy := s.stopPolicy p.platform
    networkMode := networkModeFor p
    compatibility := if serverless then .fargate else .ec2
    taskCpu :=
      if serverless then
        some (Text.decimal (if p.cpu = 0 then assumedCpu else p.cpu).toNat)
      else none
    taskMemory :=
      if serverless then some (Text.decimal p.memory.toNat) else none
    taskRole := p.taskRole
    executionRole := p.executionRole }

/-- The specification of the agent called `name` that a request asks for. -/
def ofRequest
    (name : String) (r : AgentRequest) (s : Settings) (server : String) :
    Except Specification.Error Specification :=
  if Text.isBlankText r.profile.image then .error .emptyImage
  else if r.profile.memory = 0 then .error .zeroMemory
  else
    match environmentFor name r s with
    | .error e => .error e
    | .ok environment => .ok (assemble name r s server environment)

/-- The body of the call that registers a specification. -/
def registration (spec : Specification) : Registration where
  family := spec.name
  containers := [spec.container]
  volumes := spec.volumes
  networkMode := spec.networkMode
  compatibilities := [spec.compatibility]
  cpu := spec.taskCpu
  memory := spec.taskMemory
  taskRole := spec.taskRole
  executionRole := spec.executionRole

end Specification
end AgentFleet

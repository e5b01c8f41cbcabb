import AgentFleet.Profile
import AgentFleet.Service.State

/-!
# Bringing up instances

New instances come from a supply.  A pool makes them of one size and registers
them with the service at once; a promise hands out an instance of its own
without registering anything; an outage has no instance to hand out and gives a
reason of its own.
-/

namespace AgentFleet

/-! ## Hosts -/

/-- An instance that a task can be started on. -/
structure Host where
  instanceArn : String
  machineId : String
deriving DecidableEq, Repr

/-- The host that an instance is. -/
def Host.ofInstance (i : ContainerInstance) : Host :=
  ⟨i.arn, i.machineId⟩

/-- Why no host was found or brought up. -/
inductive Host.Error where
  | service (e : Refusal)
  | bringUp (detail : String)
  /-- The machine came up but never joined the cluster. -/
  | absent (machineId : String)
deriving DecidableEq, Repr

/-- The text of an error. -/
def Host.Error.message : Host.Error → String
  | .service e => "backend error: " ++ e.message
  | .bringUp detail => "instance provisioning failed: " ++ detail
  | .absent machineId =>
    "provisioned instance " ++ machineId ++ " never registered with the cluster"

/-! ## Supplies -/

/-- A source of instances of one size. -/
structure Pool where
  cpu : UInt32 := 4096
  /-- MiB of memory. -/
  memory : UInt32 := 8192
  /-- The number of instances made so far, counted without a bound: the count is
  taken never to pass 32 bits. -/
  made : Nat := 0
  /-- The next instance will not come up. -/
  blocked : Bool := false
deriving DecidableEq, Repr

/-- A source of instances. -/
inductive Supply where
  | pool (p : Pool)
  | promise (i : ContainerInstance)
  | outage (e : Host.Error)
deriving DecidableEq

namespace Pool

/-- The name of the `n`-th instance, which joins a cluster. -/
def instanceArn (cluster : String) (n : Nat) : String :=
  Service.arnRoot ++ ":container-instance/" ++ cluster ++ "/" ++
    Text.decimalPadded 8 n

/-- The name of the `n`-th machine. -/
def machineId (n : Nat) : String :=
  "i-" ++ Text.hexPadded 17 n

/-- The operating system of a platform, as instances report it. -/
def system : Platform → String
  | .linux => "linux"
  | .windows => "windows"

/-- The attribute that names the kind of machine. -/
def machineTypeAttribute : String := "ecs.instance-type"

/-- What an instance for a profile reports of itself. -/
def attributes (profile : Profile) : Std.ExtTreeMap String String :=
  let reported :=
    (∅ : Std.ExtTreeMap String String).insert ContainerInstance.osAttribute
      (system profile.platform)
  match profile.instanceType with
  | none => reported
  | some machineType => reported.insert machineTypeAttribute machineType

/-- The `n`-th instance. -/
def nth
    (p : Pool) (s : Settings) (profile : Profile) (n : Nat) :
    ContainerInstance where
  arn := instanceArn s.clusterName n
  machineId := machineId n
  status := "ACTIVE"
  runningTasks := 0
  pendingTasks := 0
  registeredCpu := p.cpu
  registeredMemory := p.memory
  remainingCpu := p.cpu
  remainingMemory := p.memory
  attributes := attributes profile

/-- What the console is told before an instance is made. -/
def announcement (s : Settings) (profile : Profile) : String :=
  "Creating a new " ++ profile.platform.name ++
    " container instance in cluster " ++ s.clusterName ++ "."

end Pool

namespace Supply

/-- What bringing up an instance tells the console. -/
def announcements (s : Settings) (profile : Profile) : Supply → List String
  | .pool _ => [Pool.announcement s profile]
  | .promise _ => []
  | .outage _ => []

/-- Bring up an instance for a profile. -/
def bringUp (s : Settings) (profile : Profile) (service : Service) :
    Supply → Except Host.Error ContainerInstance × Supply × Service
  | .pool p =>
    if p.blocked then
      (.error (.bringUp "instance limit exceeded"),
        .pool { p with blocked := false }, service)
    else
      let i := p.nth s profile (p.made + 1)
      (.ok i, .pool { p with made := p.made + 1 }, service.enlist i)
  | .promise i => (.ok i, .promise i, service)
  | .outage e => (.error e, .outage e, service)

/-- The number of instances brought up so far. -/
def made : Supply → Nat
  | .pool p => p.made
  | .promise _ => 0
  | .outage _ => 0

/-- The next instance will not come up; a promise is always kept, and an outage
lasts. -/
def block : Supply → Supply
  | .pool p => .pool { p with blocked := true }
  | .promise i => .promise i
  | .outage e => .outage e

end Supply
end AgentFleet

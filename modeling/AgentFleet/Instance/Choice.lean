import AgentFleet.Instance.Basic
import AgentFleet.Service.Definition

/-!
# Choosing an instance

An instance is eligible for a container if it is active, runs the right
operating system and has enough left.  Among eligible instances the fullest
comes first, so that idle instances drain and can be stopped; equally full
instances keep their order.  Which of the eligible instances will do follows
from what becomes of an instance once it is idle.
-/

namespace AgentFleet

/-- What a container needs of an instance. -/
structure Requirements where
  platform : Platform
  /-- MiB of memory. -/
  memory : UInt32
  cpu : UInt32
deriving DecidableEq, Repr

namespace Requirements

/-- The requirements of a container. -/
def ofContainer
    (c : ContainerDefinition) (platform : Platform) : Requirements where
  platform
  memory := c.memoryDemand
  cpu := c.cpu

/-- The instance runs the platform; one that reports no operating system is
taken to run Linux. -/
def matchesPlatform (r : Requirements) (i : ContainerInstance) : Bool :=
  Text.sameCaseless (i.osType?.getD "linux") r.platform.name

/-- The instance can take the container. -/
def isMetBy (r : Requirements) (i : ContainerInstance) : Bool :=
  i.isActive && r.matchesPlatform i && r.memory ≤ i.remainingMemory &&
    r.cpu ≤ i.remainingCpu

/-- MiB of memory in use once the container is on the instance. -/
def usedAfter (r : Requirements) (i : ContainerInstance) : Nat :=
  i.registeredMemory.toNat - i.remainingMemory.toNat + r.memory.toNat

/-- The percentage of the memory in use once the container is on the instance;
half, if the instance has no memory. -/
def score (r : Requirements) (i : ContainerInstance) : Float :=
  if i.registeredMemory = 0 then 50.0
  else
    let share :=
      Float.ofNat (r.usedAfter i) / Float.ofNat i.registeredMemory.toNat
    (if share < 1.0 then share else 1.0) * 100.0

/-- The first instance comes before the second or may do so. -/
def prefers (r : Requirements) (i j : ContainerInstance) : Bool :=
  !(r.score i < r.score j)

/-- The eligible instances, best first. -/
def rank
    (r : Requirements) (is : List ContainerInstance) : List ContainerInstance :=
  (is.filter r.isMetBy).mergeSort r.prefers

end Requirements

/-- Which instances will do. -/
inductive Choice where
  /-- Any with room, as instances outlive their tasks. -/
  | anyWithRoom
  /-- Only an idle one, as instances are terminated once they are idle. -/
  | idleOnly
deriving DecidableEq, Repr

namespace Choice

/-- The choice that goes with a stop policy. -/
def ofPolicy : StopPolicy → Choice
  | .stopIdle => .anyWithRoom
  | .terminateIdle => .idleOnly

/-- The best instance that will do, if there is one. -/
def pick? (c : Choice) (r : Requirements) (is : List ContainerInstance) :
    Option ContainerInstance :=
  match c with
  | .anyWithRoom => (r.rank is).head?
  | .idleOnly => (r.rank is).find? ContainerInstance.isIdle

end Choice
end AgentFleet

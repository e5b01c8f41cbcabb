import AgentFleet.Instance.Basic
import AgentFleet.Service.Launch

/-!
# Calls to the service

Everything a scheduler can ask of a container service, and what each call
answers with.  A call either answers with a value or is refused as a whole.
-/

namespace AgentFleet

/-! ## Refusals -/

/-- Why a call was refused. -/
inductive Refusal where
  /-- The call made sense but a parameter was rejected. -/
  | invalidParameter (detail : String)
  | clusterNotFound (detail : String)
  | notFound (detail : String)
  | throttled (detail : String)
  | unavailable (detail : String)
deriving DecidableEq, Repr

namespace Refusal

/-- The text of a refusal. -/
def message : Refusal → String
  | .invalidParameter detail => "invalid parameter: " ++ detail
  | .clusterNotFound detail => "cluster not found: " ++ detail
  | .notFound detail => "not found: " ++ detail
  | .throttled detail => "request throttled: " ++ detail
  | .unavailable detail => "backend unavailable: " ++ detail

/-- A parameter was rejected. -/
def isInvalidParameter : Refusal → Bool
  | .invalidParameter _ => true
  | _ => false

/-- What was asked for does not exist. -/
def isNotFound : Refusal → Bool
  | .notFound _ => true
  | _ => false

end Refusal

/-! ## Calls -/

/-- The kinds of calls. -/
inductive Method where
  | register
  | deregister
  | delete
  | describeDefinition
  | startTask
  | runTask
  | stopTask
  | listTasks
  | describeTasks
  | listInstances
  | describeInstances
deriving DecidableEq, Repr

/-- What a call of a kind answers with. -/
abbrev Method.Value : Method → Type
  | .register => TaskDefinition
  | .deregister => TaskDefinition
  | .delete => Unit
  | .describeDefinition => TaskDefinition
  | .startTask => LaunchOutcome
  | .runTask => LaunchOutcome
  | .stopTask => Task
  | .listTasks => List String
  | .describeTasks => List Task
  | .listInstances => List String
  | .describeInstances => List ContainerInstance

/-- The answer to a call of a kind. -/
abbrev Method.Answer (m : Method) : Type :=
  Except Refusal m.Value

/-- A call. -/
inductive Call where
  /-- Register a definition as the next revision of its family. -/
  | register (body : Registration)
  /-- Make a definition inactive; one that already is stays so. -/
  | deregister (arn : String)
  /-- Remove definitions that are not active. -/
  | delete (arns : List String)
  | describeDefinition (arn : String)
  /-- Start tasks on given instances. -/
  | startTask (body : StartTask)
  /-- Run a task where the service places it. -/
  | runTask (body : RunTask)
  | stopTask (cluster taskArn reason : String)
  /-- List tasks; without a status, those that are meant to run. -/
  | listTasks (query : TaskQuery)
  /-- Describe tasks, leaving out those that do not exist. -/
  | describeTasks (cluster : String) (arns : List String)
  | listInstances (cluster : String)
  /-- Describe instances, leaving out those that do not exist. -/
  | describeInstances (cluster : String) (arns : List String)
deriving DecidableEq

namespace Call

/-- The kind of a call. -/
abbrev method : Call → Method
  | .register _ => .register
  | .deregister _ => .deregister
  | .delete _ => .delete
  | .describeDefinition _ => .describeDefinition
  | .startTask _ => .startTask
  | .runTask _ => .runTask
  | .stopTask _ _ _ => .stopTask
  | .listTasks _ => .listTasks
  | .describeTasks _ _ => .describeTasks
  | .listInstances _ => .listInstances
  | .describeInstances _ _ => .describeInstances

/-- The answer to a call. -/
abbrev Answer (c : Call) : Type :=
  c.method.Answer

end Call
end AgentFleet

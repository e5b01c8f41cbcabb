import AgentFleet.Json.Record

/-!
# Platforms and stop policies

The operating system an agent runs on, and what becomes of an instance that has
no agent left.
-/

namespace AgentFleet

/-- The operating system family of an agent. -/
inductive Platform where
  | linux
  | windows
deriving DecidableEq, Repr, Inhabited

namespace Platform

/-- The name of a platform in labels, profiles and messages. -/
def name : Platform → String
  | .linux => "LINUX"
  | .windows => "WINDOWS"

/-- The platform with the given name. -/
def ofName? (s : String) : Option Platform :=
  if s = "LINUX" then some .linux
  else if s = "WINDOWS" then some .windows else none

@[simp]
theorem ofName?_name (p : Platform) : ofName? p.name = some p := by
  cases p <;> decide

/-- A platform in JSON. -/
def toJson (p : Platform) : Json :=
  Json.ofText p.name

/-- Read a platform from JSON. -/
def ofJson? : Json → Option Platform :=
  Json.choice? ofName?

end Platform

/-- What happens to an instance once it has no agent tasks left. -/
inductive StopPolicy where
  /-- It is stopped and may be started again. -/
  | stopIdle
  /-- It is terminated, so that a shortage means a new instance. -/
  | terminateIdle
deriving DecidableEq, Repr, Inhabited

namespace StopPolicy

/-- The name of a stop policy in settings and summaries. -/
def name : StopPolicy → String
  | .stopIdle => "StopIdleInstance"
  | .terminateIdle => "TerminateIdleInstance"

/-- The stop policy with the given name. -/
def ofName? (s : String) : Option StopPolicy :=
  if s = "StopIdleInstance" then some .stopIdle
  else if s = "TerminateIdleInstance" then some .terminateIdle
  else none

@[simp]
theorem ofName?_name (p : StopPolicy) : ofName? p.name = some p := by
  cases p <;> decide

end StopPolicy
end AgentFleet

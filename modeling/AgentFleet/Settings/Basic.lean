import Std.Data.ExtTreeMap
import AgentFleet.Platform
import AgentFleet.Text.Basic

/-!
# Settings

What every profile of a cluster has in common: where the server is, which
cluster the agents run in, what happens to idle instances, and what is passed
into every container.
-/

namespace AgentFleet

/-- The log driver of the containers. -/
structure LogConfiguration where
  driver : String
  options : Std.ExtTreeMap String String := ∅
deriving DecidableEq

namespace LogConfiguration

/-- The names of the fields, in writing order. -/
def fieldNames : List String :=
  ["driver", "options"]

/-- A log configuration in JSON. -/
def toJson (l : LogConfiguration) : Json :=
  Json.ofFields
    [("driver", Json.ofText l.driver), ("options", Json.ofTexts l.options)]

/-- Read a log configuration from JSON. -/
def ofJson? (v : Json) : Option LogConfiguration := do
  let fs ← v.fields? fieldNames
  return {
    driver := ← fs.required "driver" Json.text?
    options := ← fs.withDefault "options" ∅ Json.texts? }

end LogConfiguration

/-- The settings of a cluster of agents. -/
structure Settings where
  /-- The address at which agents reach the server. -/
  serverUrl : String
  clusterName : String
  /-- Names the creator in labels and in the environment of agents. -/
  pluginId : String := "elastic-agent.ecs"
  linuxStopPolicy : StopPolicy := .stopIdle
  windowsStopPolicy : StopPolicy := .stopIdle
  subnets : List String := []
  securityGroups : List String := []
  /-- Seconds between reconciliation passes. -/
  reconcileInterval : UInt64 := 60
  /-- Environment of every agent container. -/
  environment : Std.ExtTreeMap String String := ∅
  log : Option LogConfiguration := none
deriving DecidableEq

namespace Settings

/-- What may be wrong with the text or the values of settings. -/
inductive Error where
  /-- The text is not a document of settings. -/
  | parse
  /-- A value is too large to be written. -/
  | render
  /-- A required setting is blank. -/
  | missing (setting : String)
  /-- A setting has a value that makes no sense. -/
  | invalid (setting reason : String)
deriving DecidableEq, Repr

/-- The text of an error; what is wrong with an unreadable text is not told in
detail. -/
def Error.message : Error → String
  | .parse => "invalid settings"
  | .render => "failed to render settings"
  | .missing setting => "missing required setting: " ++ setting
  | .invalid setting reason => "invalid setting " ++ setting ++ ": " ++ reason

/-- The stop policy for instances of a platform. -/
def stopPolicy (s : Settings) : Platform → StopPolicy
  | .linux => s.linuxStopPolicy
  | .windows => s.windowsStopPolicy

/-- Server and cluster have to be named, and passes may not follow one another
without a pause. -/
def check (s : Settings) : Except Error Unit :=
  if Text.isBlankText s.serverUrl then .error (.missing "go_server_url")
  else if Text.isBlankText s.clusterName then .error (.missing "cluster_name")
  else if s.reconcileInterval = 0 then
    .error (.invalid "reconcile_interval_secs" "must be at least one second")
  else .ok ()

end Settings
end AgentFleet

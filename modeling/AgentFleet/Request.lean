import AgentFleet.Job
import AgentFleet.Profile

/-!
# Requests for agents

What the server asks for: one agent of a profile, for a job, that registers
itself with the server.
-/

namespace AgentFleet

/-- A request for one agent. -/
structure AgentRequest where
  job : Job
  /-- The environment of the server that the agent registers into. -/
  environment : String := ""
  profile : Profile
  /-- The key that the agent presents when it registers. -/
  autoRegisterKey : String := ""
deriving DecidableEq, Repr

namespace AgentRequest

/-- The names of the fields, in writing order. -/
def fieldNames : List String :=
  ["job_identifier", "environment", "profile", "auto_register_key"]

/-- A request in JSON. -/
def toJson (r : AgentRequest) : Json :=
  Json.ofFields
    [("job_identifier", r.job.toJson),
      ("environment", Json.ofText r.environment),
      ("profile", r.profile.toJson),
      ("auto_register_key", Json.ofText r.autoRegisterKey)]

/-- Read a request from JSON. -/
def ofJson? (v : Json) : Option AgentRequest := do
  let fs ← v.fields? fieldNames
  return {
    job := ← fs.required "job_identifier" Job.ofJson?
    environment := ← fs.withDefault "environment" "" Json.text?
    profile := ← fs.required "profile" Profile.ofJson?
    autoRegisterKey := ← fs.withDefault "auto_register_key" "" Json.text? }

/-- The written form of a request. -/
def render (r : AgentRequest) : String :=
  r.toJson.compact

/-- Read the written form of a request. -/
def parse? (s : String) : Option AgentRequest :=
  Json.parse? s >>= ofJson?

end AgentRequest
end AgentFleet

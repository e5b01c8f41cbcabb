import AgentFleet.Json.Parser
import AgentFleet.Json.Printer
import AgentFleet.Json.Record
import AgentFleet.Text.Basic

/-!
# Jobs

The identity of the build job that an agent is meant for.  Its written form is a
label of the agent's task definition.
-/

namespace AgentFleet

/-- The identity of a job: its place in a run of a stage of a pipeline. -/
structure Job where
  pipelineName : String
  pipelineCounter : UInt64
  pipelineLabel : String
  stageName : String
  stageCounter : String
  name : String
  id : UInt64
deriving DecidableEq, Repr

namespace Job

/-- The form shown to people: pipeline, its counter, stage, its counter and job,
between slashes. -/
def display (j : Job) : String :=
  "/".intercalate
    [j.pipelineName, Text.decimal j.pipelineCounter.toNat, j.stageName,
      j.stageCounter, j.name]

/-- The names of the fields, in writing order. -/
def fieldNames : List String :=
  ["pipeline_name", "pipeline_counter", "pipeline_label", "stage_name",
    "stage_counter", "job_name", "job_id"]

/-- A job in JSON. -/
def toJson (j : Job) : Json :=
  Json.ofFields
    [("pipeline_name", Json.ofText j.pipelineName),
      ("pipeline_counter", Json.ofUInt64 j.pipelineCounter),
      ("pipeline_label", Json.ofText j.pipelineLabel),
      ("stage_name", Json.ofText j.stageName),
      ("stage_counter", Json.ofText j.stageCounter),
      ("job_name", Json.ofText j.name),
      ("job_id", Json.ofUInt64 j.id)]

/-- Read a job from JSON. -/
def ofJson? (v : Json) : Option Job := do
  let fs ← v.fields? fieldNames
  return {
    pipelineName := ← fs.required "pipeline_name" Json.text?
    pipelineCounter := ← fs.required "pipeline_counter" Json.uint64?
    pipelineLabel := ← fs.required "pipeline_label" Json.text?
    stageName := ← fs.required "stage_name" Json.text?
    stageCounter := ← fs.required "stage_counter" Json.text?
    name := ← fs.required "job_name" Json.text?
    id := ← fs.required "job_id" Json.uint64? }

/-- The written form of a job. -/
def render (j : Job) : String :=
  j.toJson.compact

/-- Read the written form of a job. -/
def parse? (s : String) : Option Job :=
  Json.parse? s >>= ofJson?

end Job
end AgentFleet

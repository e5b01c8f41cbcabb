import AgentFleet.Instance.Basic
import AgentFleet.Proofs.WrittenRecords
import AgentFleet.Request
import AgentFleet.Service.Launch

/-!
# The wire format

The records that go to the service and come from it, and the requests of the
server, are written in JSON.  What is written is read back as it was, whichever
record it is and whatever stands in it, so the written form of what was read
from a text is a canonical form of the text.
-/

namespace AgentFleet

open Json

/-! ## Definitions -/

theorem NetworkMode.faithful : Faithful (ofText ∘ name) (choice? ofName?) :=
  faithful_choice ofName?_name

theorem Capacity.faithful : Faithful (ofText ∘ name) (choice? ofName?) :=
  faithful_choice ofName?_name

theorem DefinitionStatus.faithful :
    Faithful (ofText ∘ name) (choice? ofName?) :=
  faithful_choice ofName?_name

theorem DesiredStatus.faithful : Faithful (ofText ∘ name) (choice? ofName?) :=
  faithful_choice ofName?_name

theorem LogConfiguration.faithful : Faithful toJson ofJson? := by
  refine faithful_record fieldNames (by decide) (fun _ => rfl) (fun l => ?_)
    fun l => ?_
  · simp [faithful_texts.plain]
  · refine faithful_text.required rfl ?_
    exact faithful_texts.withDefault rfl rfl

theorem MountPoint.faithful : Faithful toJson ofJson? := by
  refine faithful_record fieldNames (by decide) (fun _ => rfl) (fun m => ?_)
    fun m => ?_
  · simp [Plain.bool]
  · refine faithful_text.required rfl ?_
    refine faithful_text.required rfl ?_
    exact faithful_bool.required rfl rfl

theorem Volume.faithful : Faithful toJson ofJson? := by
  refine faithful_record fieldNames (by decide) (fun _ => rfl) (fun v => ?_)
    fun v => ?_
  · simp
  · refine faithful_text.required rfl ?_
    exact faithful_text.optional rfl rfl

theorem ContainerDefinition.faithful : Faithful toJson ofJson? := by
  refine faithful_record fieldNames (by decide) (fun _ => rfl) (fun c => ?_)
    fun c => ?_
  · simp [faithful_text.list.plain, faithful_texts.plain, Plain.bool,
      MountPoint.faithful.list.plain, LogConfiguration.faithful.plain]
  · refine faithful_text.required rfl ?_
    refine faithful_text.required rfl ?_
    refine faithful_text.list.withDefault rfl ?_
    refine faithful_texts.withDefault rfl ?_
    refine faithful_texts.withDefault rfl ?_
    refine faithful_uint32.optional rfl ?_
    refine faithful_uint32.optional rfl ?_
    refine faithful_uint32.withDefault rfl ?_
    refine faithful_bool.withDefault rfl ?_
    refine faithful_bool.withDefault rfl ?_
    refine MountPoint.faithful.list.withDefault rfl ?_
    exact LogConfiguration.faithful.optional rfl rfl

theorem Registration.faithful : Faithful toJson ofJson? := by
  refine faithful_record fieldNames (by decide) (fun _ => rfl) (fun r => ?_)
    fun r => ?_
  · simp [ContainerDefinition.faithful.list.plain, Volume.faithful.list.plain,
      Capacity.faithful.list.plain]
  · refine faithful_text.required rfl ?_
    refine ContainerDefinition.faithful.list.required rfl ?_
    refine Volume.faithful.list.withDefault rfl ?_
    refine NetworkMode.faithful.required rfl ?_
    refine Capacity.faithful.list.required rfl ?_
    refine faithful_text.optional rfl ?_
    refine faithful_text.optional rfl ?_
    refine faithful_text.optional rfl ?_
    exact faithful_text.optional rfl rfl

theorem TaskDefinition.faithful : Faithful toJson ofJson? := by
  refine faithful_record fieldNames (by decide) (fun _ => rfl) (fun d => ?_)
    fun d => ?_
  · simp [ContainerDefinition.faithful.list.plain, Capacity.faithful.list.plain]
  · refine faithful_text.required rfl ?_
    refine faithful_text.required rfl ?_
    refine faithful_uint32.required rfl ?_
    refine DefinitionStatus.faithful.required rfl ?_
    refine ContainerDefinition.faithful.list.required rfl ?_
    refine NetworkMode.faithful.required rfl ?_
    refine Capacity.faithful.list.required rfl ?_
    refine faithful_text.optional rfl ?_
    exact faithful_text.optional rfl rfl

/-! ## Tasks and launches -/

theorem ProviderShare.faithful : Faithful toJson ofJson? := by
  refine faithful_record fieldNames (by decide) (fun _ => rfl) (fun s => ?_)
    fun s => ?_
  · simp
  · refine faithful_text.required rfl ?_
    refine faithful_uint32.required rfl ?_
    exact faithful_uint32.required rfl rfl

theorem VpcConfiguration.faithful : Faithful toJson ofJson? := by
  refine faithful_record fieldNames (by decide) (fun _ => rfl) (fun n => ?_)
    fun n => ?_
  · simp [Plain.bool, faithful_text.list.plain]
  · refine faithful_text.list.required rfl ?_
    refine faithful_text.list.required rfl ?_
    exact faithful_bool.required rfl rfl

theorem NetworkConfiguration.faithful : Faithful toJson ofJson? := by
  refine faithful_record fieldNames (by decide) (fun _ => rfl) (fun n => ?_)
    fun n => ?_
  · simp [VpcConfiguration.faithful.plain]
  · exact VpcConfiguration.faithful.required rfl rfl

theorem StartTask.faithful : Faithful toJson ofJson? := by
  refine faithful_record fieldNames (by decide) (fun _ => rfl) (fun r => ?_)
    fun r => ?_
  · simp [faithful_text.list.plain]
  · refine faithful_text.required rfl ?_
    refine faithful_text.required rfl ?_
    refine faithful_text.list.required rfl ?_
    exact faithful_text.optional rfl rfl

theorem RunTask.faithful : Faithful toJson ofJson? := by
  refine faithful_record fieldNames (by decide) (fun _ => rfl) (fun r => ?_)
    fun r => ?_
  · simp [ProviderShare.faithful.list.plain,
      NetworkConfiguration.faithful.plain]
  · refine faithful_text.required rfl ?_
    refine faithful_text.required rfl ?_
    refine ProviderShare.faithful.list.withDefault rfl ?_
    refine Capacity.faithful.optional rfl ?_
    refine NetworkConfiguration.faithful.optional rfl ?_
    exact faithful_text.optional rfl rfl

theorem Failure.faithful : Faithful toJson ofJson? := by
  refine faithful_record fieldNames (by decide) (fun _ => rfl) (fun f => ?_)
    fun f => ?_
  · simp
  · refine faithful_text.optional rfl ?_
    exact faithful_text.required rfl rfl

theorem Container.faithful : Faithful toJson ofJson? := by
  refine faithful_record fieldNames (by decide) (fun _ => rfl) (fun c => ?_)
    fun c => ?_
  · simp
  · refine faithful_text.required rfl ?_
    refine faithful_text.optional rfl ?_
    exact faithful_text.required rfl rfl

theorem Task.faithful : Faithful toJson ofJson? := by
  refine faithful_record fieldNames (by decide) (fun _ => rfl) (fun t => ?_)
    fun t => ?_
  · simp [Container.faithful.list.plain]
  · refine faithful_text.required rfl ?_
    refine faithful_text.required rfl ?_
    refine faithful_text.required rfl ?_
    refine faithful_text.optional rfl ?_
    refine faithful_text.required rfl ?_
    refine DesiredStatus.faithful.required rfl ?_
    refine Capacity.faithful.optional rfl ?_
    refine faithful_text.optional rfl ?_
    refine faithful_uint64.optional rfl ?_
    exact Container.faithful.list.withDefault rfl rfl

theorem LaunchOutcome.faithful : Faithful toJson ofJson? := by
  refine faithful_record fieldNames (by decide) (fun _ => rfl) (fun o => ?_)
    fun o => ?_
  · simp [Task.faithful.list.plain, Failure.faithful.list.plain]
  · refine Task.faithful.list.required rfl ?_
    exact Failure.faithful.list.required rfl rfl

theorem TaskQuery.faithful : Faithful toJson ofJson? := by
  refine faithful_record fieldNames (by decide) (fun _ => rfl) (fun q => ?_)
    fun q => ?_
  · simp
  · refine faithful_text.required rfl ?_
    exact DesiredStatus.faithful.optional rfl rfl

/-! ## Instances and requests -/

theorem ContainerInstance.faithful : Faithful toJson ofJson? := by
  refine faithful_record fieldNames (by decide) (fun _ => rfl) (fun i => ?_)
    fun i => ?_
  · simp [faithful_texts.plain]
  · refine faithful_text.required rfl ?_
    refine faithful_text.required rfl ?_
    refine faithful_text.required rfl ?_
    refine faithful_uint32.required rfl ?_
    refine faithful_uint32.required rfl ?_
    refine faithful_uint32.required rfl ?_
    refine faithful_uint32.required rfl ?_
    refine faithful_uint32.required rfl ?_
    refine faithful_uint32.required rfl ?_
    exact faithful_texts.withDefault rfl rfl

theorem AgentRequest.faithful : Faithful toJson ofJson? := by
  refine faithful_record fieldNames (by decide) (fun _ => rfl) (fun r => ?_)
    fun r => ?_
  · simp [Job.faithful.plain, Profile.faithful.plain]
  · refine Job.faithful.required rfl ?_
    refine faithful_text.withDefault rfl ?_
    refine Profile.faithful.required rfl ?_
    exact faithful_text.withDefault rfl rfl

/-! ## The wire -/

/-- The kinds of records that stand on the wire by themselves. -/
inductive WireType where
  | containerDefinition
  | registration
  | definition
  | startTask
  | runTask
  | failure
  | launchOutcome
  | task
  | taskQuery
  | containerInstance
  | profile
  | job
  | request
deriving DecidableEq, Repr

namespace WireType

/-- The records of a kind. -/
def Value : WireType → Type
  | containerDefinition => ContainerDefinition
  | registration => Registration
  | definition => TaskDefinition
  | startTask => StartTask
  | runTask => RunTask
  | failure => Failure
  | launchOutcome => LaunchOutcome
  | task => Task
  | taskQuery => TaskQuery
  | containerInstance => ContainerInstance
  | profile => Profile
  | job => Job
  | request => AgentRequest

/-- A record in JSON. -/
def toJson : (w : WireType) → w.Value → Json
  | containerDefinition => ContainerDefinition.toJson
  | registration => Registration.toJson
  | definition => TaskDefinition.toJson
  | startTask => StartTask.toJson
  | runTask => RunTask.toJson
  | failure => Failure.toJson
  | launchOutcome => LaunchOutcome.toJson
  | task => Task.toJson
  | taskQuery => TaskQuery.toJson
  | containerInstance => ContainerInstance.toJson
  | profile => Profile.toJson
  | job => Job.toJson
  | request => AgentRequest.toJson

/-- Read a record from JSON. -/
def ofJson? : (w : WireType) → Json → Option w.Value
  | containerDefinition => ContainerDefinition.ofJson?
  | registration => Registration.ofJson?
  | definition => TaskDefinition.ofJson?
  | startTask => StartTask.ofJson?
  | runTask => RunTask.ofJson?
  | failure => Failure.ofJson?
  | launchOutcome => LaunchOutcome.ofJson?
  | task => Task.ofJson?
  | taskQuery => TaskQuery.ofJson?
  | containerInstance => ContainerInstance.ofJson?
  | profile => Profile.ofJson?
  | job => Job.ofJson?
  | request => AgentRequest.ofJson?

/-- The written form of a record. -/
def render (w : WireType) (v : w.Value) : String :=
  (w.toJson v).compact

/-- Read a record from a text. -/
def parse? (w : WireType) (text : String) : Option w.Value :=
  Json.parse? text >>= w.ofJson?

/-- The written form of the record that a text stands for. -/
def canonical? (w : WireType) (text : String) : Option String :=
  (w.parse? text).map w.render

theorem faithful (w : WireType) : Faithful w.toJson w.ofJson? := by
  cases w with
  | containerDefinition => exact ContainerDefinition.faithful
  | registration => exact Registration.faithful
  | definition => exact TaskDefinition.faithful
  | startTask => exact StartTask.faithful
  | runTask => exact RunTask.faithful
  | failure => exact Failure.faithful
  | launchOutcome => exact LaunchOutcome.faithful
  | task => exact Task.faithful
  | taskQuery => exact TaskQuery.faithful
  | containerInstance => exact ContainerInstance.faithful
  | profile => exact Profile.faithful
  | job => exact Job.faithful
  | request => exact AgentRequest.faithful

theorem parse?_render
    (w : WireType) (v : w.Value) :
    w.parse? (w.render v) = some v := by
  rw [parse?, render, Json.parse?_compact (w.faithful.plain v),
    Option.bind_eq_bind, Option.bind_some, w.faithful.read?_write]

/-- A record is read back from its written form, and the written form of what a
text stands for is canonical: it stands for the same record and is its own
canonical form. -/
theorem round_trip
    (w : WireType) :
    (∀ v, w.parse? (w.render v) = some v) ∧
    ∀ text,
      (w.canonical? text).bind w.parse? = w.parse? text ∧
      (w.canonical? text).bind w.canonical? = w.canonical? text := by
  refine ⟨w.parse?_render, fun text => ?_⟩
  have hcanonical : ∀ v, w.canonical? (w.render v) = some (w.render v) := by
    intro v
    rw [canonical?, w.parse?_render, Option.map_some]
  cases hv : w.parse? text with
  | none => simp [canonical?, hv]
  | some v =>
    have htext : w.canonical? text = some (w.render v) := by
      rw [canonical?, hv, Option.map_some]
    rw [htext, Option.bind_some, Option.bind_some, w.parse?_render, hcanonical]
    exact ⟨rfl, rfl⟩

end WireType
end AgentFleet

import AgentFleet.Ownership
import AgentFleet.Proofs.JsonRecords

/-!
# Reading written records

The written forms of a profile and of a job are read back as they were, so the
labels of an ownership give the ownership back.
-/

namespace AgentFleet

open Json

/-! ## Profiles and jobs -/

theorem Platform.faithful : Faithful toJson ofJson? :=
  faithful_choice ofName?_name

theorem LaunchMode.faithful : Faithful (ofText ∘ name) (choice? ofName?) :=
  faithful_choice ofName?_name

theorem Profile.faithful : Faithful toJson ofJson? := by
  refine faithful_record fieldNames (by decide) (fun _ => rfl) (fun p => ?_)
    fun p => ?_
  · simp [Plain.bool, faithful_text.list.plain, Platform.toJson]
  · refine faithful_text.required rfl ?_
    refine Platform.faithful.withDefault rfl ?_
    refine LaunchMode.faithful.withDefault rfl ?_
    refine faithful_bool.withDefault rfl ?_
    refine faithful_uint32.required rfl ?_
    refine faithful_uint32.withDefaultNullable rfl ?_
    refine faithful_uint32.withDefault rfl ?_
    refine faithful_text.list.withDefault rfl ?_
    refine faithful_text.list.withDefault rfl ?_
    refine faithful_bool.withDefault rfl ?_
    refine faithful_bool.withDefault rfl ?_
    refine faithful_text.withDefaultNullable rfl ?_
    refine faithful_text.withDefaultNullable rfl ?_
    refine faithful_text.list.withDefault rfl ?_
    refine faithful_text.list.withDefault rfl ?_
    refine faithful_text.withDefaultNullable rfl ?_
    exact faithful_text.withDefaultNullable rfl rfl

/-- The written form of a profile is read back as the profile. -/
theorem Profile.parse?_render
    (p : Profile) :
    Profile.parse? p.render = some p := by
  rw [Profile.parse?, Profile.render, Json.parse?_compact (faithful.plain p),
    Option.bind_eq_bind, Option.bind_some, faithful.read?_write]

theorem Job.faithful : Faithful toJson ofJson? := by
  refine faithful_record fieldNames (by decide) (fun _ => rfl) (fun j => ?_)
    fun j => ?_
  · simp
  · refine faithful_text.required rfl ?_
    refine faithful_uint64.required rfl ?_
    refine faithful_text.required rfl ?_
    refine faithful_text.required rfl ?_
    refine faithful_text.required rfl ?_
    refine faithful_text.required rfl ?_
    exact faithful_uint64.required rfl rfl

/-- The written form of a job is read back as the job. -/
theorem Job.parse?_render (j : Job) : Job.parse? j.render = some j := by
  rw [Job.parse?, Job.render, Json.parse?_compact (faithful.plain j),
    Option.bind_eq_bind, Option.bind_some, faithful.read?_write]

/-! ## Ownership -/

namespace Ownership

theorem serverOr_toLabels
    (o : Ownership) (creator absent : String) :
    (o.toLabels creator).serverOr absent = o.serverId := by
  simp [Labels.serverOr, toLabels, Std.ExtTreeMap.getD_insert, Labels.serverKey,
    Labels.jobKey, Labels.environmentKey, Labels.profileKey, Labels.creatorKey]

theorem getElem?_toLabels
    (o : Ownership) (creator : String) :
    (o.toLabels creator)[Labels.profileKey]? = some o.profile.render ∧
    (o.toLabels creator)[Labels.jobKey]? = some o.job.render ∧
    (o.toLabels creator).getD Labels.environmentKey "" = o.environment := by
  simp [toLabels, Std.ExtTreeMap.getElem_insert, Std.ExtTreeMap.getD_insert,
    Labels.serverKey, Labels.jobKey, Labels.environmentKey, Labels.profileKey,
    Labels.creatorKey]

/-- The labels of an ownership are read back as the ownership. -/
theorem ofLabels_toLabels
    (o : Ownership) (creator server : String) :
    ofLabels (o.toLabels creator) server = .ok o := by
  obtain ⟨hprofile, hjob, henvironment⟩ := o.getElem?_toLabels creator
  simp only [ofLabels, hprofile, hjob, henvironment, Profile.parse?_render,
    Job.parse?_render, serverOr_toLabels]
  rfl

end Ownership
end AgentFleet

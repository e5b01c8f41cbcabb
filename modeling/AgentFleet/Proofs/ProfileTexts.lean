import Mathlib.Data.List.Nodup
import AgentFleet.Profile
import AgentFleet.Proofs.JsonTexts

/-!
# Profiles from any text

A profile may have been written by a program other than this one, so its text
may be any text of an object.  What is read of it is settled field by field: a
field is read from the member of its name, or has its default if there is none.
-/

namespace AgentFleet
namespace Profile

open Json

/-! ## Fields -/

/-- A field of profiles. -/
structure Field where
  name : String
  Value : Type
  /-- Reads the value of a member. -/
  read : Json → Option Value
  /-- The value if there is no member; a required field has none. -/
  absent : Option Value
  /-- The value in a profile. -/
  get : Profile → Value

/-- The fields of profiles. -/
def fields : List Field :=
  [⟨"image", String, text?, none, image⟩,
    ⟨"platform", Platform, Platform.ofJson?, some .linux, platform⟩,
    ⟨"launch_mode", LaunchMode, choice? LaunchMode.ofName?,
      some .instanceBacked, launchMode⟩,
    ⟨"run_as_spot_instance", Bool, bool?, some false, spot⟩,
    ⟨"memory_mib", UInt32, uint32?, none, memory⟩,
    ⟨"reserved_memory_mib", Option UInt32, nullable uint32?, some none,
      reservedMemory⟩, ⟨"cpu", UInt32, uint32?, some 0, cpu⟩,
    ⟨"command", List String, list? text?, some [], command⟩,
    ⟨"environment", List String, list? text?, some [], environment⟩,
    ⟨"privileged", Bool, bool?, some false, privileged⟩,
    ⟨"mount_docker_socket", Bool, bool?, some false, mountDockerSocket⟩,
    ⟨"task_role_arn", Option String, nullable text?, some none, taskRole⟩,
    ⟨"execution_role_arn", Option String, nullable text?, some none,
      executionRole⟩,
    ⟨"subnet_ids", List String, list? text?, some [], subnets⟩,
    ⟨"security_group_ids", List String, list? text?, some [], securityGroups⟩,
    ⟨"instance_type", Option String, nullable text?, some none, instanceType⟩,
    ⟨"ami_id", Option String, nullable text?, some none, ami⟩]

namespace Field

/-- What the members of an object say of a field: the value of its member, or
its default. -/
def Takes (f : Field) (ms : List (Option String × Json)) (a : f.Value) : Prop :=
  (∃ v, (some f.name, v) ∈ ms ∧ f.read v = some a) ∨
    (∀ v, (some f.name, v) ∉ ms) ∧ f.absent = some a

/-- The value of a field among those that were found. -/
def find? (f : Field) (fs : Fields) : Option f.Value :=
  match f.absent with
  | none => fs.required f.name f.read
  | some a => fs.withDefault f.name a f.read

end Field

theorem map_name_fields : fields.map Field.name = fieldNames := rfl

/-- Stated for a chain of reads, which is opened from its front. -/
theorem bind_eq_some_iff
    {α β : Type} {x : Option α} {f : α → Option β} {b : β} :
    (x >>= f) = some b ↔ ∃ a, x = some a ∧ f a = some b :=
  Option.bind_eq_some_iff

/-- A profile is read field by field. -/
theorem ofJson?_eq_some_iff_find?
    {v : Json} {fs : Fields} (h : v.fields? fieldNames = some fs)
    {p : Profile} :
    ofJson? v = some p ↔ ∀ f ∈ fields, f.find? fs = some (f.get p) := by
  rw [ofJson?, h, Option.bind_eq_bind, Option.bind_some]
  simp only [↓bind_eq_some_iff, Option.pure_def, Option.some_inj]
  simp only [fields, List.forall_mem_cons, Field.find?]
  constructor
  · rintro ⟨a₁, h₁, a₂, h₂, a₃, h₃, a₄, h₄, a₅, h₅, a₆, h₆, a₇, h₇, a₈, h₈, a₉,
      h₉, a₁₀, h₁₀, a₁₁, h₁₁, a₁₂, h₁₂, a₁₃, h₁₃, a₁₄, h₁₄, a₁₅, h₁₅, a₁₆, h₁₆,
      a₁₇, h₁₇, rfl⟩
    exact ⟨h₁, h₂, h₃, h₄, h₅, h₆, h₇, h₈, h₉, h₁₀, h₁₁, h₁₂, h₁₃, h₁₄, h₁₅,
      h₁₆, h₁₇, nofun⟩
  · rintro ⟨h₁, h₂, h₃, h₄, h₅, h₆, h₇, h₈, h₉, h₁₀, h₁₁, h₁₂, h₁₃, h₁₄, h₁₅,
      h₁₆, h₁₇, -⟩
    exact ⟨_, h₁, _, h₂, _, h₃, _, h₄, _, h₅, _, h₆, _, h₇, _, h₈, _, h₉, _,
      h₁₀, _, h₁₁, _, h₁₂, _, h₁₃, _, h₁₄, _, h₁₅, _, h₁₆, _, h₁₇, rfl⟩

/-- There is a profile with any values of its fields. -/
theorem exists_get
    {Q : (f : Field) → f.Value → Prop} (h : ∀ f ∈ fields, ∃ a, Q f a) :
    ∃ p : Profile, ∀ f ∈ fields, Q f (f.get p) := by
  simp only [fields, List.forall_mem_cons] at h ⊢
  obtain ⟨⟨a₁, h₁⟩, ⟨a₂, h₂⟩, ⟨a₃, h₃⟩, ⟨a₄, h₄⟩, ⟨a₅, h₅⟩, ⟨a₆, h₆⟩, ⟨a₇, h₇⟩,
    ⟨a₈, h₈⟩, ⟨a₉, h₉⟩, ⟨a₁₀, h₁₀⟩, ⟨a₁₁, h₁₁⟩, ⟨a₁₂, h₁₂⟩, ⟨a₁₃, h₁₃⟩,
    ⟨a₁₄, h₁₄⟩, ⟨a₁₅, h₁₅⟩, ⟨a₁₆, h₁₆⟩, ⟨a₁₇, h₁₇⟩, -⟩ := h
  exact ⟨⟨a₁, a₂, a₃, a₄, a₅, a₆, a₇, a₈, a₉, a₁₀, a₁₁, a₁₂, a₁₃, a₁₄, a₁₅, a₁₆,
      a₁₇⟩, h₁, h₂, h₃, h₄, h₅, h₆, h₇, h₈, h₉, h₁₀, h₁₁, h₁₂, h₁₃, h₁₄, h₁₅,
    h₁₆, h₁₇, nofun⟩

/-! ## Members -/

/-- The names of the members are texts. -/
def HaveTextNames (ms : List (Option String × Json)) : Prop :=
  ∀ m ∈ ms, m.1.isSome

/-- No field is named more than once. -/
def AreDistinct (ms : List (Option String × Json)) : Prop :=
  ∀ f ∈ fields, (ms.map Prod.fst).count (some f.name) ≤ 1

instance (ms : List (Option String × Json)) : Decidable (HaveTextNames ms) :=
  inferInstanceAs (Decidable (∀ m ∈ ms, m.1.isSome))

instance (ms : List (Option String × Json)) : Decidable (AreDistinct ms) :=
  inferInstanceAs
    (Decidable (∀ f ∈ fields, (ms.map Prod.fst).count (some f.name) ≤ 1))

/-- The name of the member is that of a field. -/
def isField (m : Option String × Json) : Bool :=
  m.1.any fieldNames.contains

variable {ms ms' : List (Option String × Json)} {f : Field} {name : String}

theorem isField_of_mem
    (hf : f ∈ fields) (v : Json) :
    isField (some f.name, v) = true := by
  rw [isField, Option.any_some, List.contains_iff_mem, ← map_name_fields]
  exact List.mem_map_of_mem hf

theorem mem_valuesOf
    {v : Json} :
    v ∈ valuesOf name ms ↔ (some name, v) ∈ ms := by
  rw [valuesOf, List.mem_filterMap]
  constructor
  · rintro ⟨⟨k, w⟩, hm, hv⟩
    split at hv
    next hk =>
      obtain rfl : w = v := Option.some.inj hv
      exact hk ▸ hm
    next => cases hv
  · exact fun hm => ⟨_, hm, by simp⟩

theorem length_valuesOf :
    (valuesOf name ms).length = (ms.map Prod.fst).count (some name) := by
  induction ms with
  | nil => rfl
  | cons m ms ih =>
    rw [valuesOf] at ih ⊢
    rw [List.filterMap_cons, List.map_cons, List.count_cons]
    by_cases hm : m.1 = some name
    · simp [hm, ih]
    · simp [hm, ih]

/-- The fields that are found among the members. -/
def found (ms : List (Option String × Json)) : Fields :=
  ⟨false, fun n => (valuesOf n ms).head?⟩

theorem fields?_object_eq_some_iff
    {fs : Fields} :
    (Json.object ms).fields? fieldNames = some fs ↔
      HaveTextNames ms ∧ AreDistinct ms ∧ fs = found ms := by
  have hguard : (ms.all (·.1.isSome) &&
      fieldNames.all fun n => (valuesOf n ms).length ≤ 1) = true ↔
      HaveTextNames ms ∧ AreDistinct ms := by
    rw [Bool.and_eq_true, List.all_eq_true, List.all_eq_true, ← map_name_fields,
      List.forall_mem_map]
    simp only [decide_eq_true_iff, length_valuesOf]
    rfl
  rw [fields?]
  split
  next h =>
    rw [Option.some_inj, ← and_assoc, eq_comm]
    exact (and_iff_right (hguard.mp h)).symm
  next h =>
    rw [← and_assoc]
    exact iff_of_false nofun fun hboth => h (hguard.mpr hboth.1)

theorem find?_eq_some_iff
    (h : (ms.map Prod.fst).count (some f.name) ≤ 1) {a : f.Value} :
    f.find? (found ms) = some a ↔ f.Takes ms a := by
  rw [← length_valuesOf] at h
  simp only [Field.Takes, ← mem_valuesOf]
  have hfind :
      f.find? (found ms) = (valuesOf f.name ms).head?.elim f.absent f.read := by
    simp only [Field.find?, Fields.required, Fields.withDefault, found]
    cases f.absent <;> cases (valuesOf f.name ms).head? <;> rfl
  rw [hfind]
  cases hvalues : valuesOf f.name ms with
  | nil => simp
  | cons v more =>
    obtain rfl : more = [] :=
      List.length_eq_zero_iff.mp (by simpa [hvalues] using h)
    simp

/-- What is read of the members of an object. -/
theorem ofJson?_object_eq_some_iff
    {p : Profile} :
    ofJson? (.object ms) = some p ↔
      HaveTextNames ms ∧
      AreDistinct ms ∧
      ∀ f ∈ fields, f.Takes ms (f.get p) := by
  constructor
  · intro h
    obtain ⟨fs, hfs, -⟩ := Option.bind_eq_some_iff.mp h
    obtain ⟨hnames, hdistinct, rfl⟩ := fields?_object_eq_some_iff.mp hfs
    refine ⟨hnames, hdistinct, fun f hf => ?_⟩
    exact (find?_eq_some_iff (hdistinct f hf)).mp
      ((ofJson?_eq_some_iff_find? hfs).mp h f hf)
  · rintro ⟨hnames, hdistinct, htakes⟩
    have hfs := fields?_object_eq_some_iff.mpr ⟨hnames, hdistinct, rfl⟩
    refine (ofJson?_eq_some_iff_find? hfs).mpr fun f hf => ?_
    exact (find?_eq_some_iff (hdistinct f hf)).mpr (htakes f hf)

/-! ## Which objects are profiles -/

theorem required_iff :
    (∀ f ∈ fields, f.absent = none → ∃ v, (some f.name, v) ∈ ms) ↔
      (∃ v, (some "image", v) ∈ ms) ∧ ∃ v, (some "memory_mib", v) ∈ ms := by
  simp [fields]

/-- The member of a field that is named once is the one that is read. -/
theorem Field.Takes.read_eq
    {a : f.Value} (h : f.Takes ms a)
    (hdistinct : (ms.map Prod.fst).count (some f.name) ≤ 1) {v : Json}
    (hv : (some f.name, v) ∈ ms) :
    f.read v = some a := by
  rcases h with ⟨w, hw, hread⟩ | ⟨hnone, -⟩
  · rw [← length_valuesOf] at hdistinct
    rw [← mem_valuesOf] at hv hw
    cases hvalues : valuesOf f.name ms with
    | nil =>
      rw [hvalues] at hv
      exact absurd hv List.not_mem_nil
    | cons u more =>
      obtain rfl : more = [] :=
        List.length_eq_zero_iff.mp (by simpa [hvalues] using hdistinct)
      rw [hvalues, List.mem_singleton] at hv hw
      exact hv ▸ hw ▸ hread
  · exact absurd hv (hnone v)

theorem exists_ofJson?_object_iff :
    (∃ p, ofJson? (.object ms) = some p) ↔
      HaveTextNames ms ∧
      (∃ v, (some "image", v) ∈ ms) ∧
      (∃ v, (some "memory_mib", v) ∈ ms) ∧
      AreDistinct ms ∧
      ∀ f ∈ fields, ∀ v, (some f.name, v) ∈ ms → (f.read v).isSome := by
  rw [← and_assoc (a := ∃ v, (some "image", v) ∈ ms), ← required_iff]
  constructor
  · rintro ⟨p, hp⟩
    obtain ⟨hnames, hdistinct, htakes⟩ := ofJson?_object_eq_some_iff.mp hp
    refine ⟨hnames, fun f hf hrequired => ?_, hdistinct, fun f hf v hv => ?_⟩
    · rcases htakes f hf with ⟨v, hv, -⟩ | ⟨-, habsent⟩
      · exact ⟨v, hv⟩
      · rw [hrequired] at habsent
        cases habsent
    · exact Option.isSome_of_eq_some ((htakes f hf).read_eq (hdistinct f hf) hv)
  · rintro ⟨hnames, hrequired, hdistinct, hreadable⟩
    have hall : ∀ f ∈ fields, ∃ a, f.Takes ms a := by
      intro f hf
      by_cases hmember : ∃ v, (some f.name, v) ∈ ms
      · obtain ⟨v, hv⟩ := hmember
        obtain ⟨a, ha⟩ := Option.isSome_iff_exists.mp (hreadable f hf v hv)
        exact ⟨a, Or.inl ⟨v, hv, ha⟩⟩
      · cases habsent : f.absent with
        | none => exact absurd (hrequired f hf habsent) hmember
        | some a => exact ⟨a, Or.inr ⟨fun v hv => hmember ⟨v, hv⟩, habsent⟩⟩
    obtain ⟨p, hp⟩ := exists_get hall
    exact ⟨p, ofJson?_object_eq_some_iff.mpr ⟨hnames, hdistinct, hp⟩⟩

/-! ## What makes no difference -/

/-- Objects are read alike if their members say the same of every field. -/
theorem ofJson?_object_congr
    (hnames : HaveTextNames ms ↔ HaveTextNames ms')
    (hdistinct : AreDistinct ms ↔ AreDistinct ms')
    (htakes : ∀ f ∈ fields, ∀ a, f.Takes ms a ↔ f.Takes ms' a) :
    ofJson? (.object ms) = ofJson? (.object ms') := by
  ext p
  rw [ofJson?_object_eq_some_iff, ofJson?_object_eq_some_iff, hnames, hdistinct]
  exact and_congr_right'
    (and_congr_right' (forall₂_congr fun f hf => htakes f hf _))

/-- Members that are not named like a field hold no value of one. -/
theorem valuesOf_filter
    (hf : f ∈ fields) :
    valuesOf f.name (ms.filter isField) = valuesOf f.name ms := by
  rw [valuesOf, valuesOf, List.filterMap_filter]
  congr 1
  funext m
  by_cases hm : m.1 = some f.name
  · obtain ⟨k, v⟩ := m
    obtain rfl : k = some f.name := hm
    rw [if_pos (isField_of_mem hf v)]
  · rw [if_neg hm, ite_self]

/-- Neither the order of the members matters nor a member that is not named like
a field. -/
theorem ofJson?_object_perm
    (hnames : HaveTextNames ms ↔ HaveTextNames ms')
    (h : (ms.filter isField).Perm (ms'.filter isField)) :
    ofJson? (.object ms) = ofJson? (.object ms') := by
  have hvalues :
      ∀ f ∈ fields, (valuesOf f.name ms).Perm (valuesOf f.name ms') := by
    intro f hf
    have hfiltered : (valuesOf f.name (ms.filter isField)).Perm
        (valuesOf f.name (ms'.filter isField)) := h.filterMap _
    rwa [valuesOf_filter hf, valuesOf_filter hf] at hfiltered
  refine ofJson?_object_congr hnames ?_ ?_
  · exact forall₂_congr fun f hf => by
      rw [← length_valuesOf, ← length_valuesOf, (hvalues f hf).length_eq]
  · intro f hf a
    simp only [Field.Takes, ← mem_valuesOf, (hvalues f hf).mem_iff]

theorem eq_of_name_eq
    {g : Field} (hf : f ∈ fields) (hg : g ∈ fields) (h : f.name = g.name) :
    f = g := by
  have hnodup : (fields.map Field.name).Nodup := by decide
  exact List.inj_on_of_nodup_map hnodup hf hg h

/-- A member whose value is the default of its field may be left out. -/
theorem ofJson?_object_default
    (hf : f ∈ fields) {v : Json} {a : f.Value} (hv : f.read v = some a)
    (habsent : f.absent = some a) (hnone : ∀ w, (some f.name, w) ∉ ms) :
    ofJson? (.object ((some f.name, v) :: ms)) = ofJson? (.object ms) := by
  have hother : ∀ g ∈ fields, g ≠ f → f.name ≠ g.name := by
    intro g hg hne heq
    exact hne (eq_of_name_eq hg hf heq.symm)
  have hcount : (ms.map Prod.fst).count (some f.name) = 0 := by
    rw [List.count_eq_zero]
    intro hmem
    obtain ⟨⟨k, w⟩, hm, rfl⟩ := List.mem_map.mp hmem
    exact hnone w hm
  refine ofJson?_object_congr ?_ ?_ ?_
  · rw [HaveTextNames, List.forall_mem_cons]
    exact and_iff_right rfl
  · refine forall₂_congr fun g hg => ?_
    rw [List.map_cons, List.count_cons]
    by_cases hgf : g = f
    · subst hgf
      simp [hcount]
    · simp [hother g hg hgf]
  · intro g hg b
    by_cases hgf : g = f
    · subst hgf
      simp [Field.Takes, hnone, hv, habsent]
    · simp [Field.Takes, (hother g hg hgf).symm]

/-! ## Texts of objects -/

/-- A text of an object is read as a profile exactly if the names of its members
are texts, an image and a memory are given, no field is named more than once and
the value of each member that is named like a field is one of the field's.  The
profile has the value of its member in each field, or the default of the field
if it has no member.  So neither the order of the members matters, nor any
member that is named otherwise, nor a member that gives the default of its
field. -/
theorem parse?_object
    {ms : List (Option String × Json)} {s : String}
    (hs : Spells (.object ms) s.toList) :
    ((∃ p, parse? s = some p) ↔
        HaveTextNames ms ∧
        (∃ v, (some "image", v) ∈ ms) ∧
        (∃ v, (some "memory_mib", v) ∈ ms) ∧
        AreDistinct ms ∧
        ∀ f ∈ fields, ∀ v, (some f.name, v) ∈ ms → (f.read v).isSome) ∧
    (∀ p, parse? s = some p → ∀ f ∈ fields, f.Takes ms (f.get p)) ∧
    (∀ ms' s',
        Spells (.object ms') s'.toList →
        (HaveTextNames ms ↔ HaveTextNames ms') →
        (ms.filter isField).Perm (ms'.filter isField) →
        parse? s = parse? s') ∧
    ∀ f ∈ fields,
      ∀ v,
        (f.read v).isSome →
        f.read v = f.absent →
        (∀ w, (some f.name, w) ∉ ms) →
        ∀ ms' s',
          Spells (.object ms') s'.toList →
          ms'.Perm ((some f.name, v) :: ms) →
          parse? s' = parse? s := by
  have hread :
      ∀ {ms s},
        Spells (.object ms) s.toList → parse? s = ofJson? (.object ms) := by
    intro ms s hs
    rw [parse?, parse?_of_spells hs]
    rfl
  rw [hread hs]
  refine ⟨exists_ofJson?_object_iff, ?_, ?_, ?_⟩
  · intro p hp
    exact (ofJson?_object_eq_some_iff.mp hp).2.2
  · intro ms' s' hs' hnames hperm
    rw [hread hs']
    exact ofJson?_object_perm hnames hperm
  · intro f hf v hv habsent hnone ms' s' hs' hperm
    obtain ⟨a, ha⟩ := Option.isSome_iff_exists.mp hv
    have hnames : HaveTextNames ms' ↔ HaveTextNames ((some f.name, v) :: ms) :=
      forall_congr' fun m => by rw [hperm.mem_iff]
    rw [hread hs', ofJson?_object_perm hnames (hperm.filter _),
      ofJson?_object_default hf ha (habsent.symm.trans ha) hnone]

/-- A member whose name has nothing to escape. -/
def plainMember (name : String) (v : Json) (value : String) : SpelledMember :=
  ⟨some name, '"' :: name.toList ++ ['"'], v, value.toList⟩

theorem spellsName_plainMember
    {name : String} {v : Json} {value : String}
    (h : name.toList.all isPlain = true) :
    SpellsName (plainMember name v value).name
      (plainMember name v value).nameChars :=
  spellsName_of_string (spellsString_of_plain h)

/-- The image of a small profile. -/
def imageMember : SpelledMember :=
  plainMember "image" (.string (some "a")) "\"a\""

/-- The memory of a small profile. -/
def memoryMember : SpelledMember :=
  plainMember "memory_mib" (.number (.natural 1)) "1"

theorem spells_imageMember : Spells imageMember.value imageMember.valueChars :=
  .string (spellsString_of_plain (by decide))

theorem spells_memoryMember :
    Spells memoryMember.value memoryMember.valueChars :=
  .number (@SpellsNumber.natural ['1'] rfl)

/-- A profile with two members that are not named like a field. -/
def strayMembers : List SpelledMember :=
  [plainMember "x" (.array []) "[ ]", memoryMember,
    plainMember "x" .null "null", imageMember]

/-- The text of `strayMembers`. -/
def strayText : String :=
  "\x7b\"x\":[ ],\"memory_mib\":1,\"x\":null,\"image\":\"a\"\x7d"

theorem spells_strayText :
    Spells (.object (strayMembers.map SpelledMember.member))
      strayText.toList := by
  refine @Spells.object strayMembers (List.cons_ne_nil _ _) ?_ ?_
  · simp only [strayMembers, List.forall_mem_cons]
    exact ⟨spellsName_plainMember (by decide),
      spellsName_plainMember (by decide), spellsName_plainMember (by decide),
      spellsName_plainMember (by decide), nofun⟩
  · simp only [strayMembers, List.forall_mem_cons]
    exact ⟨@Spells.emptyArray [' '] (by simp [IsGap]), spells_memoryMember,
      .null, spells_imageMember, nofun⟩

/-- In `strayText` the stray members are passed over, though they share a name.
-/
theorem parse?_object_strayText :
    ∃ p, parse? strayText = some p ∧ p.image = "a" ∧ p.cpu = 0 := by
  obtain ⟨hreads, htakes, -, -⟩ := parse?_object spells_strayText
  have hmembers :
      strayMembers.map SpelledMember.member =
        [(some "x", .array []), (some "memory_mib", .number (.natural 1)),
          (some "x", .null), (some "image", .string (some "a"))] := rfl
  rw [hmembers] at hreads htakes
  obtain ⟨p, hp⟩ :=
    hreads.mpr
      ⟨by decide, ⟨.string (some "a"), by simp⟩,
        ⟨.number (.natural 1), by simp⟩, by decide,
        by simp [fields, text?, uint32?, nat?, UInt32.size]⟩
  have htaken := htakes p hp
  simp only [fields, List.forall_mem_cons, Field.Takes] at htaken
  obtain ⟨himage, -, -, -, -, -, hcpu, -⟩ := htaken
  refine ⟨p, hp, ?_, ?_⟩
  · simpa [text?, eq_comm] using himage
  · simpa [eq_comm] using hcpu

/-- A profile with a member whose name has half a surrogate pair. -/
def halfNamedMembers : List SpelledMember :=
  [imageMember, memoryMember,
    ⟨none, "\"\\ud800\"".toList, .number (.natural 0), "0".toList⟩]

/-- The text of `halfNamedMembers`. -/
def halfNamedText : String :=
  "\x7b\"image\":\"a\",\"memory_mib\":1,\"\\ud800\":0\x7d"

theorem spells_halfNamedText :
    Spells (.object (halfNamedMembers.map SpelledMember.member))
      halfNamedText.toList := by
  refine @Spells.object halfNamedMembers (List.cons_ne_nil _ _) ?_ ?_
  · simp only [halfNamedMembers, List.forall_mem_cons]
    have hhalf : SpellsString none "\"\\ud800\"".toList :=
      @SpellsString.quoted [.unit 0xD800] _ (.unit rfl .nil)
    exact ⟨spellsName_plainMember (by decide),
      spellsName_plainMember (by decide), spellsName_of_string hhalf, nofun⟩
  · simp only [halfNamedMembers, List.forall_mem_cons]
    exact ⟨spells_imageMember, spells_memoryMember,
      .number (@SpellsNumber.natural ['0'] rfl), nofun⟩

/-- A name with half a surrogate pair is the name of no field, and yet no
profile is read from a text with such a name. -/
theorem parse?_halfNamedText :
    Spells (.object (halfNamedMembers.map SpelledMember.member))
      halfNamedText.toList ∧
    (∃ v, (some "image", v) ∈ halfNamedMembers.map SpelledMember.member) ∧
    (∃ v, (some "memory_mib", v) ∈ halfNamedMembers.map SpelledMember.member) ∧
    AreDistinct (halfNamedMembers.map SpelledMember.member) ∧
    (∀ f ∈ fields,
        ∀ v,
          (some f.name, v) ∈ halfNamedMembers.map SpelledMember.member →
          (f.read v).isSome) ∧
    parse? halfNamedText = none := by
  have hmembers :
      halfNamedMembers.map SpelledMember.member =
        [(some "image", .string (some "a")),
          (some "memory_mib", .number (.natural 1)),
          (none, .number (.natural 0))] := rfl
  refine ⟨spells_halfNamedText, ?_⟩
  rw [parse?, parse?_of_spells spells_halfNamedText, hmembers]
  refine ⟨⟨.string (some "a"), by simp⟩, ⟨.number (.natural 1), by simp⟩,
    by decide, ?_, rfl⟩
  simp [fields, text?, uint32?, nat?, UInt32.size]

end Profile
end AgentFleet

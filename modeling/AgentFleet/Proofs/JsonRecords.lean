import AgentFleet.Proofs.JsonValues
import AgentFleet.Proofs.Table

/-!
# Reading written fields

A writer and a reader of one kind of value are called faithful if the reader
undoes the writer.  There is one lemma for each kind of value that stands in a
field, and one for records: a record is read back if each of its fields is.  A
proof about a record follows the record's fields in their order.
-/

namespace AgentFleet
namespace Json

/-! ## Fields -/

theorem valuesOf_ofFields
    {fields : List (String × Json)} (hnodup : (fields.map Prod.fst).Nodup)
    (name : String) :
    valuesOf name (fields.map fun f => (some f.1, f.2)) =
      (fields.lookup name).toList := by
  induction fields with
  | nil => rfl
  | cons f fields ih =>
    obtain ⟨k, v⟩ := f
    rw [List.map_cons, List.nodup_cons] at hnodup
    have hrest := ih hnodup.2
    rw [valuesOf] at hrest ⊢
    rw [List.map_cons, List.filterMap_cons, hrest, List.lookup_cons]
    by_cases hk : k = name
    · subst hk
      have hnone : fields.lookup k = none := by
        rw [List.lookup_eq_none_iff]
        intro e he
        rw [bne_iff_ne]
        rintro rfl
        exact hnodup.1 (List.mem_map.mpr ⟨e, he, rfl⟩)
      simp [hnone]
    · simp [hk, beq_eq_false_iff_ne.mpr (Ne.symm hk)]

/-- A record that was written by its fields is found again by its fields. -/
theorem fields?_ofFields
    {names : List String} (hnodup : names.Nodup) {fields : List (String × Json)}
    (hnames : fields.map Prod.fst = names) :
    (ofFields fields).fields? names =
      some ⟨false, fun name => fields.lookup name⟩ := by
  have hvalues := valuesOf_ofFields (hnames ▸ hnodup)
  rw [ofFields, fields?, if_pos]
  · simp only [hvalues]
    congr 2
    funext name
    cases fields.lookup name <;> rfl
  · rw [Bool.and_eq_true, List.all_eq_true, List.all_eq_true]
    constructor
    · intro m hm
      obtain ⟨f, -, rfl⟩ := List.mem_map.mp hm
      rfl
    · intro name _
      rw [hvalues]
      cases fields.lookup name <;> rfl

/-! ## The values of fields -/

theorem text?_ofText (s : String) : text? (ofText s) = some s :=
  rfl

theorem bool?_bool (b : Bool) : bool? (.bool b) = some b :=
  rfl

theorem uint32?_ofUInt32 (n : UInt32) : uint32? (ofUInt32 n) = some n := by
  have hn : n.toNat < UInt32.size := n.toNat_lt
  simp [uint32?, ofUInt32, ofNat, nat?, hn]

theorem uint64?_ofUInt64 (n : UInt64) : uint64? (ofUInt64 n) = some n := by
  have hn : n.toNat < UInt64.size := n.toNat_lt
  simp [uint64?, ofUInt64, ofNat, nat?, hn]

/-- What was written item by item is read item by item. -/
theorem mapM_map_eq_some
    {α β : Type} {read : β → Option α} {write : α → β}
    (h : ∀ a, read (write a) = some a) (xs : List α) :
    (xs.map write).mapM read = some xs := by
  induction xs with
  | nil => rfl
  | cons x xs ih => simp [List.mapM_cons, h, ih]

theorem list?_ofList
    {α : Type} {read : Json → Option α} {write : α → Json}
    (h : ∀ a, read (write a) = some a) (xs : List α) :
    list? read (ofList write xs) = some xs :=
  mapM_map_eq_some h xs

theorem nullable_ofOption
    {α : Type} {read : Json → Option α} {write : α → Json}
    (h : ∀ a, read (write a) = some a) (hnull : ∀ a, write a ≠ .null)
    (o : Option α) :
    nullable read (ofOption write o) = some o := by
  cases o with
  | none => rfl
  | some a =>
    rw [ofOption, nullable]
    · rw [h, Option.map_some]
    · exact hnull a

/-! ## Plain values -/

@[simp]
theorem Plain.ofText (s : String) : (Json.ofText s).Plain :=
  .text s

@[simp]
theorem Plain.ofUInt32 (n : UInt32) : (Json.ofUInt32 n).Plain :=
  .natural n.toNat

@[simp]
theorem Plain.ofUInt64 (n : UInt64) : (Json.ofUInt64 n).Plain :=
  .natural n.toNat

@[simp]
theorem Plain.ofOption
    {α : Type} {write : α → Json} (h : ∀ a, (write a).Plain) (o : Option α) :
    (Json.ofOption write o).Plain := by
  cases o with
  | none => exact .null
  | some a => exact h a

theorem Plain.ofFields
    {fields : List (String × Json)} (h : ∀ f ∈ fields, f.2.Plain) :
    (Json.ofFields fields).Plain := by
  apply Plain.object
  · intro m hm
    obtain ⟨f, -, rfl⟩ := List.mem_map.mp hm
    rfl
  · intro m hm
    obtain ⟨f, hf, rfl⟩ := List.mem_map.mp hm
    exact h f hf

/-! ## Faithful values -/

/-- The values are written plainly and never as `null`, and are read back as
they were. -/
structure Faithful
    {α : Type} (write : α → Json) (read? : Json → Option α) : Prop where
  plain : ∀ a, (write a).Plain
  ne_null : ∀ a, write a ≠ .null
  read?_write : ∀ a, read? (write a) = some a

theorem faithful_text : Faithful ofText text? where
  plain := Plain.ofText
  ne_null _ := Json.noConfusion
  read?_write := text?_ofText

theorem faithful_bool : Faithful bool bool? where
  plain := Plain.bool
  ne_null _ := Json.noConfusion
  read?_write := bool?_bool

theorem faithful_uint32 : Faithful ofUInt32 uint32? where
  plain := Plain.ofUInt32
  ne_null _ := Json.noConfusion
  read?_write := uint32?_ofUInt32

theorem faithful_uint64 : Faithful ofUInt64 uint64? where
  plain := Plain.ofUInt64
  ne_null _ := Json.noConfusion
  read?_write := uint64?_ofUInt64

/-- A choice is written by its name. -/
theorem faithful_choice
    {α : Type} {name : α → String} {ofName? : String → Option α}
    (h : ∀ a, ofName? (name a) = some a) :
    Faithful (ofText ∘ name) (choice? ofName?) where
  plain a := Plain.ofText (name a)
  ne_null _ := Json.noConfusion
  read?_write := h

theorem Faithful.list
    {α : Type} {write : α → Json} {read? : Json → Option α}
    (h : Faithful write read?) :
    Faithful (ofList write) (list? read?) where
  plain xs := by
    apply Plain.array
    intro v hv
    obtain ⟨a, -, rfl⟩ := List.mem_map.mp hv
    exact h.plain a
  ne_null _ := Json.noConfusion
  read?_write := list?_ofList h.read?_write

theorem texts?_ofTexts
    (m : Std.ExtTreeMap String String) :
    texts? (ofTexts m) = some m := by
  have hentries :
      (m.toList.map fun e => (some e.1, ofText e.2)).mapM
          (fun e : Option String × Json => do return (← e.1, ← text? e.2)) =
        some m.toList := by
    apply mapM_map_eq_some
    intro e
    rfl
  rw [ofTexts, texts?, hentries, Option.bind_eq_bind, Option.bind_some,
    Table.ofList_toList]
  rfl

theorem faithful_texts : Faithful ofTexts texts? where
  plain m := by
    apply Plain.object
    · intro e he
      obtain ⟨entry, -, rfl⟩ := List.mem_map.mp he
      rfl
    · intro e he
      obtain ⟨entry, -, rfl⟩ := List.mem_map.mp he
      exact Plain.ofText entry.2
  ne_null _ := Json.noConfusion
  read?_write := texts?_ofTexts

/-! ## Faithful records -/

/-- A record is written by its fields and read from the fields that are found
again. -/
theorem faithful_record
    {α : Type} (names : List String) (hnodup : names.Nodup)
    {fields : α → List (String × Json)}
    (hnames : ∀ a, (fields a).map Prod.fst = names) {read : Fields → Option α}
    (hplain : ∀ a, ∀ f ∈ fields a, f.2.Plain)
    (hread : ∀ a, read ⟨false, fun name => (fields a).lookup name⟩ = some a) :
    Faithful (fun a => ofFields (fields a))
      (fun v => v.fields? names >>= read) where
  plain a := Plain.ofFields (hplain a)
  ne_null _ := Json.noConfusion
  read?_write a := by
    rw [fields?_ofFields hnodup (hnames a), Option.bind_eq_bind,
      Option.bind_some, hread]

namespace Faithful

variable {α β : Type} {write : α → Json} {read? : Json → Option α} {fs : Fields}
  {name : String}

/-- A required field that was written is read, and reading goes on from there.
-/
theorem required
    (h : Faithful write read?) {a : α} (hv : fs.value? name = some (write a))
    {f : α → Option β} {b : Option β} (hf : f a = b) :
    (fs.required name read? >>= f) = b := by
  have hread : fs.required name read? = some a := by
    rw [Fields.required, hv]
    exact h.read?_write a
  rw [hread, Option.bind_eq_bind, Option.bind_some, hf]

/-- A field with a default that was written is read in the same way. -/
theorem withDefault
    (h : Faithful write read?) {a : α} (hv : fs.value? name = some (write a))
    {absent : α} {f : α → Option β} {b : Option β} (hf : f a = b) :
    (fs.withDefault name absent read? >>= f) = b := by
  have hread : fs.withDefault name absent read? = some a := by
    rw [Fields.withDefault, hv]
    exact h.read?_write a
  rw [hread, Option.bind_eq_bind, Option.bind_some, hf]

/-- An absent value is written as `null`, and a field of such values may have a
default. -/
theorem withDefaultNullable
    (h : Faithful write read?) {o : Option α}
    (hv : fs.value? name = some (ofOption write o)) {absent : Option α}
    {f : Option α → Option β} {b : Option β} (hf : f o = b) :
    (fs.withDefault name absent (nullable read?) >>= f) = b := by
  have hread : fs.withDefault name absent (nullable read?) = some o := by
    rw [Fields.withDefault, hv]
    exact nullable_ofOption h.read?_write h.ne_null o
  rw [hread, Option.bind_eq_bind, Option.bind_some, hf]

/-- Reading an optional field takes `null` for absence. -/
theorem optional
    (h : Faithful write read?) {o : Option α}
    (hv : fs.value? name = some (ofOption write o)) {f : Option α → Option β}
    {b : Option β} (hf : f o = b) :
    (fs.optional name read? >>= f) = b := by
  have hread : fs.optional name read? = some o := by
    rw [Fields.optional, hv, ← nullable_ofOption h.read?_write h.ne_null o]
    cases ofOption write o <;> rfl
  rw [hread, Option.bind_eq_bind, Option.bind_some, hf]

end Faithful
end Json
end AgentFleet

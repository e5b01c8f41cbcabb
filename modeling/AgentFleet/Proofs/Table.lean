import AgentFleet.Service.State

/-!
# Tables

A service keeps its records in tables from names to records.  This module says
how the list of the records of a table changes when one of them is written or
removed, so that counts and sums over a table can follow its changes one at a
time.
-/

namespace AgentFleet
namespace Table

open Std

variable {β : Type}

/-- The records of a table are those of its entries, in the order of the names.
-/
theorem values_eq_map_snd
    (m : ExtTreeMap String β) :
    m.values = m.toList.map Prod.snd := by
  have hfold : m.values = m.foldr (fun _ v vs => v :: vs) [] := by
    obtain ⟨⟨q⟩⟩ := m
    induction q using Quotient.ind with
    | _ t => rfl
  rw [hfold, ExtTreeMap.foldr_eq_foldr_toList]
  induction m.toList with
  | nil => rfl
  | cons e es ih => rw [List.foldr_cons, ih, List.map_cons]

theorem mem_values_iff
    {m : ExtTreeMap String β} {v : β} :
    v ∈ m.values ↔ ∃ k : String, m[k]? = some v := by
  rw [values_eq_map_snd, List.mem_map]
  constructor
  · rintro ⟨⟨k, w⟩, hw, rfl⟩
    exact ⟨k, ExtTreeMap.mem_toList_iff_getElem?_eq_some.mp hw⟩
  · rintro ⟨k, hk⟩
    exact ⟨(k, v), ExtTreeMap.mem_toList_iff_getElem?_eq_some.mpr hk, rfl⟩

theorem mem_keys_iff
    {m : ExtTreeMap String β} {k : String} :
    k ∈ m.keys ↔ ∃ v, m[k]? = some v := by
  rw [ExtTreeMap.mem_keys, ExtTreeMap.mem_iff_isSome_getElem?,
    Option.isSome_iff_exists]

theorem toList_nodup (m : ExtTreeMap String β) : m.toList.Nodup := by
  apply m.distinct_keys_toList.imp
  rintro a b hab rfl
  exact hab Std.ReflCmp.compare_self

/-- Writing a record puts it in front of all records of other names. -/
theorem toList_insert_perm
    (m : ExtTreeMap String β) (k : String) (v : β) :
    (m.insert k v).toList.Perm ((k, v) :: (m.erase k).toList) := by
  rw [List.perm_ext_iff_of_nodup (toList_nodup _)]
  · rintro ⟨j, w⟩
    rw [List.mem_cons, ExtTreeMap.mem_toList_iff_getElem?_eq_some,
      ExtTreeMap.mem_toList_iff_getElem?_eq_some, ExtTreeMap.getElem?_insert,
      ExtTreeMap.getElem?_erase]
    by_cases hjk : k = j
    · subst hjk
      simp [eq_comm]
    · simp [hjk, Ne.symm hjk]
  · rw [List.nodup_cons]
    refine ⟨?_, toList_nodup _⟩
    rw [ExtTreeMap.mem_toList_iff_getElem?_eq_some,
      ExtTreeMap.getElem?_erase_self]
    exact Option.some_ne_none v ∘ Eq.symm

theorem getElem?_insert_eq_some_iff
    {m : ExtTreeMap String β} {k j : String} {v w : β} :
    (m.insert k v)[j]? = some w ↔
      (k = j ∧ v = w) ∨ (k ≠ j ∧ m[j]? = some w) := by
  rw [ExtTreeMap.getElem?_insert]
  by_cases hjk : k = j
  · simp [hjk]
  · simp [hjk]

theorem getElem?_erase_eq_some_iff
    {m : ExtTreeMap String β} {k j : String} {w : β} :
    (m.erase k)[j]? = some w ↔ k ≠ j ∧ m[j]? = some w := by
  rw [ExtTreeMap.getElem?_erase]
  by_cases hjk : k = j
  · simp [hjk]
  · simp [hjk]

theorem insert_of_getElem?
    {m : ExtTreeMap String β} {k : String} {v : β} (h : m[k]? = some v) :
    m.insert k v = m := by
  apply ExtTreeMap.ext_getElem?
  intro j
  rw [ExtTreeMap.getElem?_insert]
  by_cases hjk : k = j
  · subst hjk
    simp [h]
  · simp [hjk]

theorem erase_of_getElem?_eq_none
    {m : ExtTreeMap String β} {k : String} (h : m[k]? = none) :
    m.erase k = m := by
  apply ExtTreeMap.ext_getElem?
  intro j
  rw [ExtTreeMap.getElem?_erase]
  by_cases hjk : k = j
  · subst hjk
    simp [h]
  · simp [hjk]

theorem erase_insert
    (m : ExtTreeMap String β) (k : String) (v : β) :
    (m.insert k v).erase k = m.erase k := by
  apply ExtTreeMap.ext_getElem?
  intro j
  rw [ExtTreeMap.getElem?_erase, ExtTreeMap.getElem?_erase,
    ExtTreeMap.getElem?_insert]
  by_cases hjk : k = j
  · simp [hjk]
  · simp [hjk]

/-- Writing a record of a new name adds it to the records. -/
theorem values_insert_perm_of_new
    {m : ExtTreeMap String β} {k : String} (v : β) (h : m[k]? = none) :
    (m.insert k v).values.Perm (v :: m.values) := by
  rw [values_eq_map_snd, values_eq_map_snd]
  have hperm := (toList_insert_perm m k v).map Prod.snd
  rwa [erase_of_getElem?_eq_none h] at hperm

/-- Writing a record over another one takes the other one out of the records. -/
theorem values_insert_perm_of_old
    {m : ExtTreeMap String β} {k : String} (v : β) {old : β}
    (h : m[k]? = some old) :
    ∃ others,
      (m.insert k v).values.Perm (v :: others) ∧
      m.values.Perm (old :: others) := by
  refine ⟨(m.erase k).values, ?_, ?_⟩
  · rw [values_eq_map_snd, values_eq_map_snd]
    exact (toList_insert_perm m k v).map Prod.snd
  · rw [values_eq_map_snd, values_eq_map_snd]
    have hperm := (toList_insert_perm m k old).map Prod.snd
    rwa [insert_of_getElem? h] at hperm

/-! ## Tables by their entries -/

theorem getElem?_ofList_eq_some_iff
    {es : List (String × β)} (hnodup : (es.map Prod.fst).Nodup) {k : String}
    {v : β} :
    (ExtTreeMap.ofList es)[k]? = some v ↔ (k, v) ∈ es := by
  have hentry : ∀ w, (k, w) ∈ es → (ExtTreeMap.ofList es)[k]? = some w := by
    intro w hw
    refine ExtTreeMap.getElem?_ofList_of_mem Std.ReflCmp.compare_self ?_ hw
    rw [List.Nodup, List.pairwise_map] at hnodup
    exact hnodup.imp fun hne heq => hne (Std.LawfulEqCmp.eq_of_compare heq)
  constructor
  · intro hv
    by_cases hmem : k ∈ es.map Prod.fst
    · obtain ⟨⟨k, w⟩, hw, rfl⟩ := List.mem_map.mp hmem
      rw [hentry w hw] at hv
      rwa [← Option.some.inj hv]
    · rw [ExtTreeMap.getElem?_ofList_of_contains_eq_false (by simpa using hmem)]
        at hv
      cases hv
  · exact hentry v

/-- A table is the table of its entries. -/
theorem ofList_toList
    (m : ExtTreeMap String β) :
    ExtTreeMap.ofList m.toList = m := by
  have hnodup := m.nodup_keys
  rw [← ExtTreeMap.map_fst_toList_eq_keys] at hnodup
  apply ExtTreeMap.ext_getElem?
  intro k
  apply Option.ext
  intro v
  rw [getElem?_ofList_eq_some_iff hnodup,
    ExtTreeMap.mem_toList_iff_getElem?_eq_some]

theorem nodup_fst_of_perm
    {m : ExtTreeMap String β} {es : List (String × β)} (h : m.toList.Perm es) :
    (es.map Prod.fst).Nodup := by
  have hkeys := m.nodup_keys
  rw [← ExtTreeMap.map_fst_toList_eq_keys] at hkeys
  exact (h.map Prod.fst).nodup hkeys

theorem getElem?_of_perm
    {m : ExtTreeMap String β} {es : List (String × β)} (h : m.toList.Perm es)
    {k : String} {v : β} (hmem : (k, v) ∈ es) :
    m[k]? = some v :=
  ExtTreeMap.mem_toList_iff_getElem?_eq_some.mp (h.mem_iff.mpr hmem)

theorem mem_of_perm
    {m : ExtTreeMap String β} {es : List (String × β)} (h : m.toList.Perm es)
    {k : String} {v : β} (hv : m[k]? = some v) :
    (k, v) ∈ es :=
  h.mem_iff.mp (ExtTreeMap.mem_toList_iff_getElem?_eq_some.mpr hv)

theorem insert_perm_of_new
    {m : ExtTreeMap String β} {es : List (String × β)} (h : m.toList.Perm es)
    {k : String} (hnew : m[k]? = none) (v : β) :
    (m.insert k v).toList.Perm ((k, v) :: es) := by
  have hperm := toList_insert_perm m k v
  rw [erase_of_getElem?_eq_none hnew] at hperm
  exact hperm.trans (h.cons (k, v))

theorem erase_perm
    {m : ExtTreeMap String β} {es : List (String × β)} {k : String} {v : β}
    (h : m.toList.Perm ((k, v) :: es)) :
    (m.erase k).toList.Perm es := by
  have hv : m[k]? = some v := getElem?_of_perm h List.mem_cons_self
  have hperm := toList_insert_perm m k v
  rw [insert_of_getElem? hv] at hperm
  exact (hperm.symm.trans h).cons_inv

theorem insert_perm_of_old
    {m : ExtTreeMap String β} {es : List (String × β)} {k : String} {old : β}
    (h : m.toList.Perm ((k, old) :: es)) (v : β) :
    (m.insert k v).toList.Perm ((k, v) :: es) :=
  (toList_insert_perm m k v).trans ((erase_perm h).cons (k, v))

/-! ## Tables that gain records -/

/-- The second table is the first one and further records, each under a new name
of its own. -/
structure Adds
    (name : β → String) (m m' : ExtTreeMap String β) (vs : List β) : Prop where
  nodup : (vs.map name).Nodup
  new : ∀ v ∈ vs, m[name v]? = none
  getElem?_iff :
    ∀ (k : String) (v : β),
      m'[k]? = some v ↔ m[k]? = some v ∨ v ∈ vs ∧ name v = k

namespace Adds

variable {name : β → String} {m m₁ m₂ : ExtTreeMap String β} {vs ws : List β}

theorem nil : Adds name m m [] where
  nodup := List.nodup_nil
  new := by simp
  getElem?_iff := by simp

theorem one
    {k : String} {v : β} (hname : name v = k) (hnew : m[k]? = none) :
    Adds name m (m.insert k v) [v] where
  nodup := by simp
  new := by
    intro w hw
    rw [List.mem_singleton.mp hw, hname, hnew]
  getElem?_iff := by
    intro j w
    rw [getElem?_insert_eq_some_iff, List.mem_singleton]
    constructor
    · rintro (⟨rfl, rfl⟩ | ⟨-, hw⟩)
      · exact Or.inr ⟨rfl, hname⟩
      · exact Or.inl hw
    · rintro (hw | ⟨rfl, rfl⟩)
      · refine Or.inr ⟨?_, hw⟩
        rintro rfl
        exact absurd (hnew.symm.trans hw) (Option.some_ne_none w).symm
      · exact Or.inl ⟨hname.symm, rfl⟩

theorem getElem?_of_mem
    (h : Adds name m m₁ vs) {v : β} (hv : v ∈ vs) :
    m₁[name v]? = some v :=
  (h.getElem?_iff _ _).mpr (Or.inr ⟨hv, rfl⟩)

theorem getElem?_of_getElem?
    (h : Adds name m m₁ vs) {k : String} {v : β} (hv : m[k]? = some v) :
    m₁[k]? = some v :=
  (h.getElem?_iff _ _).mpr (Or.inl hv)

theorem append
    (h : Adds name m m₁ vs) (h' : Adds name m₁ m₂ ws) :
    Adds name m m₂ (vs ++ ws) where
  nodup := by
    rw [List.map_append, List.nodup_append]
    refine ⟨h.nodup, h'.nodup, ?_⟩
    intro j hj k hk hjk
    obtain ⟨v, hv, rfl⟩ := List.mem_map.mp hj
    obtain ⟨w, hw, rfl⟩ := List.mem_map.mp hk
    have hstored := h.getElem?_of_mem hv
    rw [hjk, h'.new w hw] at hstored
    cases hstored
  new := by
    intro v hv
    rcases List.mem_append.mp hv with hv | hv
    · exact h.new v hv
    · rw [Option.eq_none_iff_forall_ne_some]
      intro w hw
      exact absurd ((h'.new v hv).symm.trans (h.getElem?_of_getElem? hw))
        (by simp)
  getElem?_iff := by
    intro k v
    rw [h'.getElem?_iff, h.getElem?_iff, List.mem_append, or_and_right,
      or_assoc]

end Adds

/-! ## Tables whose records know their names -/

/-- Every record stands under its own name. -/
def KeyedBy (name : β → String) (m : ExtTreeMap String β) : Prop :=
  ∀ (k : String) (v : β), m[k]? = some v → name v = k

variable {name : β → String}

theorem KeyedBy.empty : KeyedBy name (∅ : ExtTreeMap String β) := by
  intro k v h
  simp at h

theorem KeyedBy.insert
    {m : ExtTreeMap String β} (hm : KeyedBy name m) {k : String} {v : β}
    (hv : name v = k) :
    KeyedBy name (m.insert k v) := by
  intro j w h
  rcases getElem?_insert_eq_some_iff.mp h with ⟨rfl, rfl⟩ | ⟨-, h⟩
  · exact hv
  · exact hm j w h

theorem KeyedBy.getElem?_of_mem
    {m : ExtTreeMap String β} (hm : KeyedBy name m) {v : β}
    (hv : v ∈ m.values) :
    m[name v]? = some v := by
  obtain ⟨k, hk⟩ := mem_values_iff.mp hv
  rwa [hm k v hk]

theorem KeyedBy.map_values
    {m : ExtTreeMap String β} (hm : KeyedBy name m) :
    m.values.map name = m.keys := by
  rw [values_eq_map_snd, List.map_map, ← ExtTreeMap.map_fst_toList_eq_keys]
  apply List.map_congr_left
  rintro ⟨k, v⟩ hkv
  exact hm k v (ExtTreeMap.mem_toList_iff_getElem?_eq_some.mp hkv)

/-- Records stand in the order of their names. -/
theorem KeyedBy.pairwise_names
    {m : ExtTreeMap String β} (hm : KeyedBy name m) :
    (m.values.map name).Pairwise (· < ·) := by
  rw [hm.map_values]
  exact m.ordered_keys.imp compareOfLessAndEq_eq_lt.mp

/-- Looking up the names of some of the records gives these records back. -/
theorem KeyedBy.filterMap_names
    {m : ExtTreeMap String β} (hm : KeyedBy name m) {vs : List β}
    (hvs : ∀ v ∈ vs, v ∈ m.values) :
    (vs.map name).filterMap (m[·]?) = vs := by
  induction vs with
  | nil => rfl
  | cons v vs ih =>
    have hv := hm.getElem?_of_mem (hvs v List.mem_cons_self)
    rw [List.map_cons, List.filterMap_cons_some hv,
      ih fun w hw => hvs w (List.mem_cons_of_mem v hw)]

/-- Records that are told apart by their names are no two of them the same. -/
theorem KeyedBy.nodup_names
    {m : ExtTreeMap String β} (hm : KeyedBy name m) (p : β → Bool) :
    ((m.values.filter p).map name).Nodup := by
  have hsub : ((m.values.filter p).map name).Sublist (m.values.map name) :=
    List.filter_sublist.map name
  rw [hm.map_values] at hsub
  exact m.nodup_keys.sublist hsub

/-- Only one of such records has a given name. -/
theorem filter_name_eq
    {vs : List β} (hnodup : (vs.map name).Nodup) {v : β} (hv : v ∈ vs) :
    vs.filter (fun w => name w = name v) = [v] := by
  induction vs with
  | nil => exact absurd hv List.not_mem_nil
  | cons w ws ih =>
    rw [List.map_cons, List.nodup_cons, List.mem_map] at hnodup
    obtain ⟨hnew, hnodup⟩ := hnodup
    rcases List.mem_cons.mp hv with rfl | hv
    · rw [List.filter_cons_of_pos (by simp), List.filter_eq_nil_iff.mpr]
      intro u hu hname
      exact hnew ⟨u, hu, of_decide_eq_true hname⟩
    · rw [List.filter_cons_of_neg, ih hnodup hv]
      intro hname
      exact hnew ⟨v, hv, (of_decide_eq_true hname).symm⟩

end Table
end AgentFleet

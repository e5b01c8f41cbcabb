import AgentFleet.Proofs.TomlStatements
import AgentFleet.Toml.Document

/-!
# Reading written TOML documents

The statements of a document are read back in their order, and each is carried
out on what has been said before.  As a header opens a new table, the table that
takes the next values is the last of its siblings, and so is each table that
leads to it.
-/

namespace AgentFleet
namespace Toml

/-! ## Texts -/

theorem Statement.exists_cons
    (s : Statement) :
    ∃ c more, s.chars = c :: more ∧ c ≠ '\ufeff' := by
  cases s with
  | assign path v =>
    obtain ⟨c, more, hchars, hc⟩ := path.exists_cons
    rw [Statement.chars, hchars]
    exact ⟨c, _, rfl, hc.ne (by decide) (by decide) (by decide)⟩
  | table path => exact ⟨_, _, rfl, by decide⟩
  | tableItem path => exact ⟨_, _, rfl, by decide⟩

/-- The text of statements is read as these statements. -/
theorem parse?_render
    {ss : List Statement} (h : ∀ s ∈ ss, s.Legible) :
    parse? (render ss) = ofStatements? ss := by
  have hread := statements?_flatMap_chars h
  rw [parse?, render, String.toList_ofList]
  split
  next cs heq =>
    cases ss with
    | nil => cases heq
    | cons s ss =>
      obtain ⟨c, more, hchars, hc⟩ := s.exists_cons
      rw [List.flatMap_cons, hchars] at heq
      exact absurd (List.cons.inj heq).1 hc
  next => rw [hread, Option.bind_eq_bind, Option.bind_some]

/-! ## Entries -/

variable {es before : Entries} {key : String} {v w : Toml}

theorem Entries.get?_eq_none_iff :
    es.get? key = none ↔ key ∉ es.map Prod.fst := by
  rw [Entries.get?, List.lookup_eq_none_iff]
  simp only [bne_iff_ne, List.mem_map, not_exists, not_and]
  exact forall₂_congr fun e _ => ne_comm

theorem Entries.get?_append_self
    (h : before.get? key = none) (v : Toml) :
    Entries.get? (before ++ [(key, v)]) key = some v := by
  rw [Entries.get?] at h ⊢
  rw [List.lookup_append, h, Option.none_or, List.lookup_cons_self]

theorem Entries.replace_append_self
    (h : before.get? key = none) (v w : Toml) :
    Entries.replace (before ++ [(key, v)]) key w = before ++ [(key, w)] := by
  have hkeep : before.replace key w = before := by
    rw [Entries.replace]
    refine (List.map_congr_left ?_).trans before.map_id
    intro e he
    refine if_neg ?_
    rintro rfl
    exact Entries.get?_eq_none_iff.mp h (List.mem_map_of_mem he)
  rw [Entries.replace] at hkeep ⊢
  rw [List.map_append, hkeep, List.map_singleton, if_pos rfl]

/-! ## Open tables -/

/-- The entries of a document in which a table is open: each table on the way to
it is the last of its siblings, which stand before its key. -/
def nest : List (Entries × String) → Entries → Entries
  | [], es => es
  | (before, key) :: frames, es =>
    before ++ [(key, .table .header (nest frames es))]

/-- No sibling of a table on the way has its key. -/
def IsOpen (frames : List (Entries × String)) : Prop :=
  ∀ f ∈ frames, f.1.get? f.2 = none

variable {frames : List (Entries × String)}

theorem isOpen_nil : IsOpen [] :=
  fun _ hf => absurd hf List.not_mem_nil

theorem IsOpen.append
    (h : IsOpen frames) (hnew : es.get? key = none) :
    IsOpen (frames ++ [(es, key)]) := by
  intro f hf
  rcases List.mem_append.mp hf with hf | hf
  · exact h f hf
  · obtain rfl := List.mem_singleton.mp hf
    exact hnew

theorem nest_append
    (frames : List (Entries × String)) (es : Entries) (key : String)
    (inner : Entries) :
    nest (frames ++ [(es, key)]) inner =
      nest frames (es ++ [(key, .table .header inner)]) := by
  induction frames with
  | nil => rfl
  | cons f frames ih => rw [List.cons_append, nest, nest, ih]

/-- What is done at the path of the open table is done to its entries. -/
theorem modifyAt?_nest
    (h : IsOpen frames) (change : Form → Entries → Option Entries)
    (es : Entries) :
    modifyAt? .implied change (frames.map Prod.snd) .header (nest frames es) =
      (change .header es).map (nest frames) := by
  induction frames with
  | nil =>
    rw [List.map_nil, modifyAt?, nest]
    cases change .header es <;> rfl
  | cons f frames ih =>
    obtain ⟨before, key⟩ := f
    have hbefore : before.get? key = none := h _ List.mem_cons_self
    have hinner := ih fun g hg => h g (List.mem_cons_of_mem _ hg)
    rw [List.map_cons, nest, modifyAt?, Entries.get?_append_self hbefore]
    simp only [hinner]
    cases change .header es with
    | none => rfl
    | some inner =>
      exact congrArg some (Entries.replace_append_self hbefore _ _)

/-! ## Carrying out statements -/

/-- A value under a new key goes to the end of the open table. -/
theorem perform?_assign
    (h : IsOpen frames) (hnew : es.get? key = none) (v : Toml) :
    Document.perform? ⟨nest frames es, frames.map Prod.snd⟩
        (.assign ⟨[], key⟩ v) =
      some ⟨nest frames (es ++ [(key, v)]), frames.map Prod.snd⟩ := by
  have hchange : assign? .header es ⟨[], key⟩ v = some (es ++ [(key, v)]) := by
    rw [assign?, modifyAt?, insertNew?, if_neg (by simp), hnew]
    rfl
  rw [Document.perform?, modifyAt?_nest h, hchange]
  rfl

/-- A header under the open table, or under one that leads to it, opens a new
table. -/
theorem perform?_table
    (h : IsOpen frames) (hnew : es.get? key = none) (header : List String) :
    Document.perform? ⟨nest frames es, header⟩
        (.table ⟨frames.map Prod.snd, key⟩) =
      some ⟨nest (frames ++ [(es, key)]) [],
        (frames ++ [(es, key)]).map Prod.snd⟩ := by
  have hchange :
      Document.openTable? key .header es =
        some (es ++ [(key, .table .header [])]) := by
    rw [Document.openTable?, hnew]
  rw [Document.perform?, modifyAt?_nest h, hchange, nest_append,
    List.map_append]
  rfl

/-- The keys differ from one another. -/
def Entries.Distinct (es : Entries) : Prop :=
  (es.map Prod.fst).Nodup

/-- The statements that give the values of keys. -/
def assignments (es : Entries) : List Statement :=
  es.map fun e => .assign ⟨[], e.1⟩ e.2

/-- The statements can be carried out one after the other, and then this has
been said. -/
def Document.Takes (ss : List Statement) (d d' : Document) : Prop :=
  ss.foldlM Document.perform? d = some d'

theorem Document.Takes.append
    {ss ss' : List Statement} {d d' d'' : Document} (h : Document.Takes ss d d')
    (h' : Document.Takes ss' d' d'') :
    Document.Takes (ss ++ ss') d d'' := by
  rw [Takes] at h
  rw [Takes, List.foldlM_append, h]
  exact h'

theorem ofStatements?_of_takes
    {ss : List Statement} {d : Document}
    (h : Document.Takes ss Document.empty d) :
    ofStatements? ss = some d.root := by
  rw [Document.Takes] at h
  rw [ofStatements?, h]
  rfl

/-- The values of new keys go to the end of the open table. -/
theorem takes_assignments
    (h : IsOpen frames) {added : Entries}
    (hdistinct : Entries.Distinct (es ++ added)) :
    Document.Takes (assignments added) ⟨nest frames es, frames.map Prod.snd⟩
      ⟨nest frames (es ++ added), frames.map Prod.snd⟩ := by
  induction added generalizing es with
  | nil =>
    rw [List.append_nil]
    rfl
  | cons e added ih =>
    obtain ⟨key, v⟩ := e
    have hnew : es.get? key = none := by
      rw [Entries.get?_eq_none_iff]
      rw [Entries.Distinct, List.map_append, List.nodup_append] at hdistinct
      exact fun hmem => hdistinct.2.2 key hmem key List.mem_cons_self rfl
    rw [List.append_cons] at hdistinct ⊢
    rw [Document.Takes, assignments, List.map_cons, List.foldlM_cons,
      perform?_assign h hnew]
    exact ih hdistinct

/-- A header and the values of its table make a new table at the end of the open
one. -/
theorem takes_table
    (h : IsOpen frames) (hnew : es.get? key = none) {inner : Entries}
    (hdistinct : inner.Distinct) (header : List String) :
    Document.Takes (.table ⟨frames.map Prod.snd, key⟩ :: assignments inner)
      ⟨nest frames es, header⟩
      ⟨nest (frames ++ [(es, key)]) inner,
        (frames ++ [(es, key)]).map Prod.snd⟩ := by
  rw [Document.Takes, List.foldlM_cons, perform?_table h hnew]
  exact takes_assignments (h.append hnew) hdistinct

end Toml
end AgentFleet

import AgentFleet.Json.Parser
import AgentFleet.Proofs.JsonTokens

/-!
# Reading written values

The compact form of a value is read back as the same value, if every number in
it is a natural one and every string a text.  Both stages are shown to undo each
other: cutting the text into tokens, and putting the tokens together to a value.
-/

namespace AgentFleet
namespace Json

/-- Every number in the value is natural, and every string and name in it is a
text. -/
inductive Plain : Json → Prop where
  | null : Plain .null
  | bool (b : Bool) : Plain (.bool b)
  | natural (n : Nat) : Plain (.number (.natural n))
  | text (s : String) : Plain (.string (some s))
  | array {items : List Json} (hitems : ∀ v ∈ items, Plain v) :
      Plain (.array items)
  | object {members : List (Option String × Json)}
      (hnames : ∀ m ∈ members, m.1.isSome)
      (hvalues : ∀ m ∈ members, Plain m.2) : Plain (.object members)

/-! ## From text to tokens -/

/-- The text of the tokens is cut into these tokens, whatever follows. -/
def ReadsBack (ts : List Token) (rest : List Char) : Prop :=
  Token.list? (ts.flatMap Token.chars ++ rest) =
    (Token.list? rest).map (ts ++ ·)

theorem ReadsBack.append
    {ts us : List Token} {rest : List Char}
    (hts : ReadsBack ts (us.flatMap Token.chars ++ rest))
    (hus : ReadsBack us rest) :
    ReadsBack (ts ++ us) rest := by
  rw [ReadsBack, List.flatMap_append]
  exact IsCut.append hts hus

/-- A token of one fixed spelling. -/
def Token.isFixed : Token → Bool
  | .number _ => false
  | .string _ => false
  | _ => true

theorem readsBack_fixed
    {t : Token} (ht : t.isFixed = true) (rest : List Char) :
    ReadsBack [t] rest := by
  rw [ReadsBack, List.flatMap_singleton]
  cases t with
  | number n => cases ht
  | string s => cases ht
  | bool b => cases b <;> exact list?_cons (by decide) rfl
  | _ => exact list?_cons (by decide) rfl

theorem readsBack_text
    (s : String) (rest : List Char) :
    ReadsBack [.string (some s)] rest := by
  rw [ReadsBack, List.flatMap_singleton]
  exact list?_string s rest

theorem endsNumber_of_fixed
    {t : Token} (ht : t.isFixed = true) (rest : List Char) :
    EndsNumber (t.chars ++ rest) := by
  intro c hc
  cases t with
  | number n => cases ht
  | string s => cases ht
  | bool b => cases b <;> (cases hc; decide)
  | _ => cases hc; decide

/-- What may follow a value inside an array or object. -/
theorem endsNumber_of_flatMap
    {t : Token} (ht : t.isFixed = true) (ts : List Token) (rest : List Char) :
    EndsNumber ((t :: ts).flatMap Token.chars ++ rest) := by
  rw [List.flatMap_cons, List.append_assoc]
  exact endsNumber_of_fixed ht _

theorem readsBack_itemTokens
    {items : List Json}
    (hitems : ∀ v ∈ items, ∀ rest, EndsNumber rest → ReadsBack (tokens v) rest)
    (rest : List Char) :
    ReadsBack (itemTokens items) rest := by
  induction items with
  | nil => exact readsBack_fixed rfl rest
  | cons v items ih =>
    have hv := hitems v List.mem_cons_self
    have hrest := ih fun w hw => hitems w (List.mem_cons_of_mem v hw)
    cases items with
    | nil =>
      rw [itemTokens]
      exact (hv _ (endsNumber_of_flatMap rfl [] rest)).append
        (readsBack_fixed rfl rest)
    | cons w more =>
      rw [itemTokens]
      have hcomma : ReadsBack ([.comma] ++ itemTokens (w :: more)) rest :=
        (readsBack_fixed rfl _).append hrest
      exact (hv _ (endsNumber_of_flatMap rfl _ rest)).append hcomma

theorem readsBack_memberTokens
    {members : List (Option String × Json)} (hnames : ∀ m ∈ members, m.1.isSome)
    (hvalues : ∀ m ∈ members,
        ∀ rest, EndsNumber rest → ReadsBack (tokens m.2) rest)
    (rest : List Char) :
    ReadsBack (memberTokens members) rest := by
  induction members with
  | nil => exact readsBack_fixed rfl rest
  | cons m members ih =>
    obtain ⟨name, v⟩ := m
    obtain ⟨k, rfl⟩ := Option.isSome_iff_exists.mp (hnames _ List.mem_cons_self)
    have hv := hvalues _ List.mem_cons_self
    have hrest := ih (fun m hm => hnames m (List.mem_cons_of_mem _ hm))
      fun m hm => hvalues m (List.mem_cons_of_mem _ hm)
    have hmember : ∀ ts, ReadsBack ts rest →
        ReadsBack ([.string (some k)] ++ [.colon] ++ ts) rest := by
      intro ts hts
      exact ((readsBack_text k _).append (readsBack_fixed rfl _)).append hts
    cases members with
    | nil =>
      rw [memberTokens]
      exact hmember _
        ((hv _ (endsNumber_of_flatMap rfl [] rest)).append
            (readsBack_fixed rfl rest))
    | cons m more =>
      rw [memberTokens]
      have hcomma : ReadsBack ([.comma] ++ memberTokens (m :: more)) rest :=
        (readsBack_fixed rfl _).append hrest
      exact hmember _ ((hv _ (endsNumber_of_flatMap rfl _ rest)).append hcomma)

theorem readsBack_tokens
    {v : Json} (hv : v.Plain) {rest : List Char} (hrest : EndsNumber rest) :
    ReadsBack (tokens v) rest := by
  induction hv generalizing rest with
  | null => exact readsBack_fixed rfl rest
  | bool b => exact readsBack_fixed rfl rest
  | natural n =>
    rw [tokens, ReadsBack, List.flatMap_singleton]
    exact list?_number n hrest
  | text s => exact readsBack_text s rest
  | array hitems ih =>
    rw [tokens]
    exact (readsBack_fixed (t := .openArray) rfl _).append
      (readsBack_itemTokens (fun v hv rest hrest => ih v hv hrest) rest)
  | object hnames hvalues ih =>
    rw [tokens]
    exact (readsBack_fixed (t := .openObject) rfl _).append
      (readsBack_memberTokens hnames (fun m hm rest hrest => ih m hm hrest)
          rest)

theorem list?_compact
    {v : Json} (hv : v.Plain) :
    Token.list? v.compact.toList = some (tokens v) := by
  have hend : EndsNumber [] :=
    fun c hc => absurd hc (Option.some_ne_none c).symm
  have hback := readsBack_tokens hv hend
  rw [ReadsBack, List.append_nil, Token.list?, Option.map_some, List.append_nil]
    at hback
  rw [compact, String.toList_ofList, hback]

/-! ## From tokens to values -/

/-- Reading the tokens where a value is wanted leaves the reader behind the
value. -/
def Completes (ts : List Token) (v : Json) : Prop :=
  ∀ r : Reader, r.expected = .value ∨ r.expected = .itemOrEnd →
    ts.foldlM Reader.step? r = some ⟨.after v, r.stack⟩

theorem step?_begin
    {r : Reader} (hr : r.expected = .value ∨ r.expected = .itemOrEnd)
    {t : Token} (ht : t ≠ .closeArray) :
    r.step? t = Reader.beginValue? r.stack t := by
  obtain ⟨e, stack⟩ := r
  rcases hr with rfl | rfl
  · rfl
  · cases t with
    | closeArray => exact absurd rfl ht
    | _ => rcases stack with _ | ⟨_ | _ | _, stack⟩ <;> rfl

theorem completes_itemTokens
    {v : Json} {items : List Json}
    (hitems : ∀ w ∈ v :: items, Completes (tokens w) w) {r : Reader}
    {before : List Json} {stack : List Frame}
    (hr : r.expected = .value ∨ r.expected = .itemOrEnd)
    (hstack : r.stack = .array before :: stack) :
    (itemTokens (v :: items)).foldlM Reader.step? r =
      some ⟨.after (.array (before.reverse ++ v :: items)), stack⟩ := by
  induction items generalizing v r before with
  | nil =>
    rw [itemTokens, List.foldlM_append, hitems v List.mem_cons_self r hr,
      hstack]
    simp [Reader.step?, Reader.afterValue?]
  | cons w more ih =>
    rw [itemTokens, List.foldlM_append, hitems v List.mem_cons_self r hr,
      hstack]
    have hmore := ih (v := w) (r := ⟨.value, .array (v :: before) :: stack⟩)
      (fun u hu => hitems u (List.mem_cons_of_mem v hu)) (Or.inl rfl) rfl
    simpa [Reader.step?, Reader.afterValue?] using hmore

/-- Reading a member up to its value. -/
theorem foldlM_member
    {r : Reader} {before : List (Option String × Json)} {stack : List Frame}
    (hr : r.expected = .name ∨ r.expected = .nameOrEnd)
    (hstack : r.stack = .object before :: stack) {m : Option String × Json}
    (hm : Completes (tokens m.2) m.2) (ts : List Token) :
    (.string m.1 :: .colon :: tokens m.2 ++ ts).foldlM Reader.step? r =
      ts.foldlM Reader.step? ⟨.after m.2, .member before m.1 :: stack⟩ := by
  have hname :
      r.step? (.string m.1) = some ⟨.colon m.1, .object before :: stack⟩ := by
    obtain ⟨e, frames⟩ := r
    subst hstack
    rcases hr with rfl | rfl <;> rfl
  have hcolon : Reader.step? ⟨.colon m.1, .object before :: stack⟩ .colon =
      some ⟨.value, .member before m.1 :: stack⟩ := rfl
  have hvalue := hm ⟨.value, .member before m.1 :: stack⟩ (Or.inl rfl)
  rw [List.cons_append, List.foldlM_cons, hname, Option.bind_eq_bind,
    Option.bind_some, List.cons_append, List.foldlM_cons, hcolon,
    Option.bind_eq_bind, Option.bind_some, List.foldlM_append, hvalue,
    Option.bind_eq_bind, Option.bind_some]

theorem completes_memberTokens
    {m : Option String × Json} {members : List (Option String × Json)}
    (hmembers : ∀ w ∈ m :: members, Completes (tokens w.2) w.2) {r : Reader}
    {before : List (Option String × Json)} {stack : List Frame}
    (hr : r.expected = .name ∨ r.expected = .nameOrEnd)
    (hstack : r.stack = .object before :: stack) :
    (memberTokens (m :: members)).foldlM Reader.step? r =
      some ⟨.after (.object (before.reverse ++ m :: members)), stack⟩ := by
  induction members generalizing m r before with
  | nil =>
    rw [memberTokens, foldlM_member hr hstack (hmembers m List.mem_cons_self)]
    simp [Reader.step?, Reader.afterValue?]
  | cons w more ih =>
    have hmore := ih (m := w) (r := ⟨.name, .object (m :: before) :: stack⟩)
      (fun u hu => hmembers u (List.mem_cons_of_mem m hu)) (Or.inl rfl) rfl
    rw [memberTokens, foldlM_member hr hstack (hmembers m List.mem_cons_self)]
    simpa [Reader.step?, Reader.afterValue?] using hmore

/-- The tokens of a value are put together to the value again. -/
theorem completes_tokens (v : Json) : Completes (tokens v) v := by
  intro r hr
  cases v with
  | null | bool | number | string =>
    simp [tokens, step?_begin hr, Reader.beginValue?]
  | array items =>
    rw [tokens, List.foldlM_cons, step?_begin hr (by simp)]
    cases items with
    | nil => rfl
    | cons v items =>
      exact completes_itemTokens (r := ⟨.itemOrEnd, .array [] :: r.stack⟩)
        (fun w hw => completes_tokens w) (Or.inr rfl) rfl
  | object members =>
    rw [tokens, List.foldlM_cons, step?_begin hr (by simp)]
    cases members with
    | nil => rfl
    | cons m members =>
      exact completes_memberTokens (r := ⟨.nameOrEnd, .object [] :: r.stack⟩)
        (fun w hw => completes_tokens w.2) (Or.inr rfl) rfl
termination_by sizeOf v
decreasing_by
  · have hsmaller := List.sizeOf_lt_of_mem hw
    simp only [Json.array.sizeOf_spec]
    omega
  · have hsmaller := List.sizeOf_lt_of_mem hw
    have hmember : sizeOf w = 1 + sizeOf w.1 + sizeOf w.2 := rfl
    simp only [Json.object.sizeOf_spec]
    omega

/-- The compact form of a value is read back as the value. -/
theorem parse?_compact
    {v : Json} (hv : v.Plain) :
    parse? v.compact = some v := by
  have hread := completes_tokens v Reader.start (Or.inl rfl)
  rw [parse?, list?_compact hv, Option.bind_eq_bind, Option.bind_some,
    ofTokens?, hread]
  rfl

end Json
end AgentFleet

import AgentFleet.Proofs.JsonValues

/-!
# The grammar of JSON

The grammar says which texts spell a value, with white space wherever it may
stand, with every escape and with every form of a number.  The reader takes each
text of the grammar for the value it spells; what it makes of a text is first
the tokens of the value and then the value.
-/

namespace AgentFleet
namespace Json

/-! ## The grammar -/

/-- White space that stands between tokens. -/
def IsGap (ws : List Char) : Prop :=
  ∀ c ∈ ws, c = ' ' ∨ c = '\t' ∨ c = '\n' ∨ c = '\r'

theorem isGap_nil : IsGap [] :=
  fun _ hc => absurd hc List.not_mem_nil

/-- The spelling of the pieces of a string, between its quotes. -/
inductive SpellsPieces : List Piece → List Char → Prop where
  | nil : SpellsPieces [] []
  | plain {c : Char} (hlow : ¬c < ' ') (hquote : c ≠ '"') (hslash : c ≠ '\\')
      {ps : List Piece} {cs : List Char} (h : SpellsPieces ps cs) :
      SpellsPieces (.char c :: ps) (c :: cs)
  | letter {e c : Char} (he : unescape? e = some c) {ps : List Piece}
      {cs : List Char} (h : SpellsPieces ps cs) :
      SpellsPieces (.char c :: ps) ('\\' :: e :: cs)
  | unit {a b c d : Char} {n : Nat} (hn : Text.hexQuad? a b c d = some n)
      {ps : List Piece} {cs : List Char} (h : SpellsPieces ps cs) :
      SpellsPieces (.unit n :: ps) ('\\' :: 'u' :: a :: b :: c :: d :: cs)

/-- The spelling of a string. -/
inductive SpellsString : Option String → List Char → Prop where
  | quoted {ps : List Piece} {cs : List Char} (h : SpellsPieces ps cs) :
      SpellsString (textOf ps) ('"' :: cs ++ ['"'])

/-- The spelling of what stands behind the whole part of a number. -/
inductive SpellsTail : List Char → Prop where
  | whole {exponent : List Char} (hexponent : isExponent exponent = true) :
      SpellsTail exponent
  | fraction {digits exponent : List Char} (hdigits : isDigits digits = true)
      (hexponent : isExponent exponent = true) :
      SpellsTail ('.' :: digits ++ exponent)

/-- The spelling of a number: a natural one is a whole part and nothing else. -/
inductive SpellsNumber : Number → List Char → Prop where
  | natural {whole : List Char} (hwhole : isWhole whole = true) :
      SpellsNumber (.natural (Nat.ofDigitChars 10 whole 0)) whole
  | other {sign whole tail : List Char} (hsign : sign = [] ∨ sign = ['-'])
      (hwhole : isWhole whole = true) (htail : SpellsTail tail)
      (hother : sign ++ tail ≠ []) :
      SpellsNumber (.other (String.ofList (sign ++ whole ++ tail)))
        (sign ++ whole ++ tail)

/-- A member of an object with the spelling of its name and of its value. -/
structure SpelledMember where
  name : Option String
  nameChars : List Char
  value : Json
  valueChars : List Char

namespace SpelledMember

/-- The member itself. -/
def member (m : SpelledMember) : Option String × Json :=
  (m.name, m.value)

/-- The spelling of the member. -/
def chars (m : SpelledMember) : List Char :=
  m.nameChars ++ ':' :: m.valueChars

end SpelledMember

/-- The spelling of a name, in white space. -/
inductive SpellsName : Option String → List Char → Prop where
  | spaced {before after : List Char} (hbefore : IsGap before)
      (hafter : IsGap after) {s : Option String} {cs : List Char}
      (h : SpellsString s cs) : SpellsName s (before ++ cs ++ after)

/-- The spelling of a value, in white space. -/
inductive Spells : Json → List Char → Prop where
  | null : Spells .null "null".toList
  | bool (b : Bool) : Spells (.bool b) (if b then "true" else "false").toList
  | number {n : Number} {cs : List Char} (h : SpellsNumber n cs) :
      Spells (.number n) cs
  | string {s : Option String} {cs : List Char} (h : SpellsString s cs) :
      Spells (.string s) cs
  | emptyArray {ws : List Char} (hws : IsGap ws) :
      Spells (.array []) ('[' :: ws ++ [']'])
  | array {items : List (Json × List Char)} (hne : items ≠ [])
      (hitems : ∀ e ∈ items, Spells e.1 e.2) :
      Spells (.array (items.map (·.1)))
        ('[' :: [','].intercalate (items.map (·.2)) ++ [']'])
  | emptyObject {ws : List Char} (hws : IsGap ws) :
      Spells (.object []) ('\x7b' :: ws ++ ['\x7d'])
  | object {members : List SpelledMember} (hne : members ≠ [])
      (hnames : ∀ m ∈ members, SpellsName m.name m.nameChars)
      (hvalues : ∀ m ∈ members, Spells m.value m.valueChars) :
      Spells (.object (members.map SpelledMember.member))
        ('\x7b' :: [','].intercalate (members.map SpelledMember.chars) ++
            ['\x7d'])
  | spaced {before after : List Char} (hbefore : IsGap before)
      (hafter : IsGap after) {v : Json} {cs : List Char} (h : Spells v cs) :
      Spells v (before ++ cs ++ after)

/-! ## Cutting a spelling into tokens -/

theorem isSpace_of_isGap
    {ws : List Char} (h : IsGap ws) {c : Char} (hc : c ∈ ws) :
    isSpace c = true := by
  rcases h c hc with rfl | rfl | rfl | rfl <;> rfl

theorem isCut_gap
    {ws : List Char} (h : IsGap ws) (rest : List Char) :
    IsCut ws [] rest := by
  induction ws with
  | nil => simp [IsCut]
  | cons c ws ih =>
    have hrest := ih fun c' hc' => h c' (List.mem_cons_of_mem c hc')
    rw [IsCut, List.cons_append, Token.list?,
      if_pos (isSpace_of_isGap h List.mem_cons_self)]
    exact hrest

theorem endsNumber_gap
    {ws : List Char} (h : IsGap ws) {rest : List Char}
    (hrest : EndsNumber rest) :
    EndsNumber (ws ++ rest) := by
  cases ws with
  | nil => exact hrest
  | cons c ws =>
    intro c' hc'
    obtain rfl : c = c' := Option.some.inj hc'
    rcases h c List.mem_cons_self with rfl | rfl | rfl | rfl <;> rfl

theorem isCut_fixed
    {t : Token} (ht : t.isFixed = true) (rest : List Char) :
    IsCut t.chars [t] rest := by
  have hread := readsBack_fixed ht rest
  rwa [ReadsBack, List.flatMap_singleton] at hread

/-- Where a name or value has white space around it. -/
theorem IsCut.spaced
    {before after : List Char} (hbefore : IsGap before) (hafter : IsGap after)
    {cs rest : List Char} {ts : List Token} (h : IsCut cs ts (after ++ rest)) :
    IsCut (before ++ cs ++ after) ts rest := by
  have hread := (isCut_gap hbefore _).append (h.append (isCut_gap hafter rest))
  rwa [List.nil_append, List.append_nil, ← List.append_assoc] at hread

/-! ## Strings -/

theorem pieces?_of_spells
    {ps : List Piece} {cs : List Char} (h : SpellsPieces ps cs)
    (rest : List Char) :
    pieces? (cs ++ '"' :: rest) = some (ps, rest) := by
  induction h with
  | nil => rfl
  | plain hlow hquote hslash h ih =>
    rw [List.cons_append, pieces?_plain hquote hslash hlow, ih]
    rfl
  | @letter e c he ps cs h ih =>
    have hu : e ≠ 'u' := by
      rintro rfl
      cases he
    rw [List.cons_append, List.cons_append, pieces?_letter he hu, ih]
    rfl
  | unit hn h ih =>
    simp only [List.cons_append]
    rw [pieces?_unit hn, ih]
    rfl

theorem isCut_string
    {s : Option String} {cs : List Char} (h : SpellsString s cs)
    (rest : List Char) :
    IsCut cs [.string s] rest := by
  cases h with
  | @quoted ps cs h =>
    have hchars : '"' :: cs ++ ['"'] ++ rest = '"' :: (cs ++ '"' :: rest) := by
      simp
    rw [IsCut, hchars]
    apply list?_cons (by decide)
    rw [Token.next?, pieces?_of_spells h, Option.map_some]

/-- A name may stand without white space. -/
theorem spellsName_of_string
    {s : Option String} {cs : List Char} (h : SpellsString s cs) :
    SpellsName s cs := by
  have hname : SpellsName s ([] ++ cs ++ []) := .spaced isGap_nil isGap_nil h
  rwa [List.nil_append, List.append_nil] at hname

theorem isCut_name
    {s : Option String} {cs : List Char} (h : SpellsName s cs)
    (rest : List Char) :
    IsCut cs [.string s] rest := by
  cases h with
  | spaced hbefore hafter h => exact (isCut_string h _).spaced hbefore hafter

/-- The character is spelled in a string as it is. -/
def isPlain (c : Char) : Bool :=
  32 ≤ c.toNat && c != '"' && c != '\\'

theorem spellsPieces_of_plain
    {cs : List Char} (h : cs.all isPlain = true) :
    SpellsPieces (cs.map pieceOf) cs := by
  induction cs with
  | nil => exact .nil
  | cons c cs ih =>
    rw [List.all_cons, Bool.and_eq_true, isPlain, Bool.and_eq_true,
      Bool.and_eq_true, decide_eq_true_iff, bne_iff_ne, bne_iff_ne] at h
    obtain ⟨⟨⟨hlow, hquote⟩, hslash⟩, hrest⟩ := h
    have hlow' : ¬c < ' ' := Nat.not_lt.mpr hlow
    rw [List.map_cons, pieceOf, if_neg fun hc => hlow' hc.1]
    exact .plain hlow' hquote hslash (ih hrest)

/-- A text without anything to escape is spelled as it is. -/
theorem spellsString_of_plain
    {s : String} (h : s.toList.all isPlain = true) :
    SpellsString (some s) ('"' :: s.toList ++ ['"']) := by
  rw [← textOf_pieces s]
  exact .quoted (spellsPieces_of_plain h)

/-! ## Numbers -/

theorem isDigit_of_isDigits
    {cs : List Char} (h : isDigits cs = true) {c : Char} (hc : c ∈ cs) :
    Text.isDigit c = true := by
  rw [isDigits, Bool.and_eq_true] at h
  exact List.all_eq_true.mp h.2 c hc

theorem isDigits_of_isWhole
    {cs : List Char} (h : isWhole cs = true) :
    isDigits cs = true := by
  rw [isWhole, Bool.and_eq_true] at h
  exact h.1

theorem isNumberChar_of_isDigit
    {c : Char} (h : Text.isDigit c = true) :
    isNumberChar c = true := by
  simp [isNumberChar, h]

/-- An exponent starts with its mark, and has only number characters. -/
theorem isExponent_cons
    {c : Char} {cs : List Char} (h : isExponent (c :: cs) = true) :
    (c = 'e' ∨ c = 'E') ∧ ∀ c' ∈ cs, isNumberChar c' = true := by
  have hmark :
      ∀ {digits : List Char},
        ((c == 'e' || c == 'E') && isDigits digits) = true →
        (c = 'e' ∨ c = 'E') ∧ ∀ c' ∈ digits, isNumberChar c' = true := by
    intro digits hboth
    rw [Bool.and_eq_true, Bool.or_eq_true, beq_iff_eq, beq_iff_eq] at hboth
    exact ⟨hboth.1,
      fun c' hc' => isNumberChar_of_isDigit (isDigit_of_isDigits hboth.2 hc')⟩
  unfold isExponent at h
  split at h
  next heq => cases heq
  next mark digits heq =>
    obtain ⟨rfl, rfl⟩ := List.cons.inj heq
    exact ⟨(hmark h).1, List.forall_mem_cons.mpr ⟨rfl, (hmark h).2⟩⟩
  next mark digits heq =>
    obtain ⟨rfl, rfl⟩ := List.cons.inj heq
    exact ⟨(hmark h).1, List.forall_mem_cons.mpr ⟨rfl, (hmark h).2⟩⟩
  next mark digits _ _ heq =>
    obtain ⟨rfl, rfl⟩ := List.cons.inj heq
    exact hmark h

/-- What stands behind the whole part is recognized, and does not prolong it. -/
theorem isTail_of_spells
    {cs : List Char} (h : SpellsTail cs) :
    isTail cs = true ∧
    (∀ c, cs.head? = some c → Text.isDigit c = false) ∧
    ∀ c ∈ cs, isNumberChar c = true := by
  have hexponent :
      ∀ {es : List Char},
        isExponent es = true →
        (∀ c, es.head? = some c → Text.isDigit c = false) ∧
        ∀ c ∈ es, isNumberChar c = true := by
    intro es hes
    cases es with
    | nil => exact ⟨nofun, nofun⟩
    | cons c es =>
      obtain ⟨hmark, hchars⟩ := isExponent_cons hes
      refine ⟨?_, List.forall_mem_cons.mpr ⟨?_, hchars⟩⟩
      · rintro c' hc'
        obtain rfl : c = c' := Option.some.inj hc'
        rcases hmark with rfl | rfl <;> rfl
      · rcases hmark with rfl | rfl <;> rfl
  cases h with
  | whole h =>
    refine ⟨?_, hexponent h⟩
    rw [isTail]
    · exact h
    · rintro rest rfl
      obtain ⟨hmark, -⟩ := isExponent_cons h
      exact absurd hmark (by decide)
  | @fraction digits es hdigits h =>
    obtain ⟨hhead, hchars⟩ := hexponent h
    have hall := fun c hc => isDigit_of_isDigits hdigits (c := c) hc
    refine ⟨?_, ?_, ?_⟩
    · rw [List.cons_append, isTail, Text.takeWhile_run hall hhead,
        Text.dropWhile_run hall hhead, hdigits, h]
      rfl
    · rintro c hc
      obtain rfl : '.' = c := Option.some.inj hc
      rfl
    · rw [List.cons_append, List.forall_mem_cons, List.forall_mem_append]
      exact ⟨rfl, fun c hc => isNumberChar_of_isDigit (hall c hc), hchars⟩

theorem ne_minus_of_isWhole
    {whole tail rest : List Char} (h : isWhole whole = true) :
    whole ++ tail ≠ '-' :: rest := by
  intro heq
  cases whole with
  | nil => exact absurd h (by decide)
  | cons c whole =>
    obtain ⟨rfl, -⟩ := List.cons.inj heq
    have hdigit :=
      isDigit_of_isDigits (isDigits_of_isWhole h) (c := '-') List.mem_cons_self
    exact absurd hdigit (by decide)

theorem number?_of_spells
    {n : Number} {cs : List Char} (h : SpellsNumber n cs) :
    number? cs = some n ∧ ∀ c ∈ cs, isNumberChar c = true := by
  cases h with
  | natural hwhole =>
    have hall :=
      fun c hc => isDigit_of_isDigits (isDigits_of_isWhole hwhole) (c := c) hc
    refine ⟨?_, fun c hc => isNumberChar_of_isDigit (hall c hc)⟩
    rw [number?]
    · rw [if_pos hwhole]
    · intro rest heq
      rw [← List.append_nil cs] at heq
      exact ne_minus_of_isWhole hwhole heq
  | @other sign whole tail hsign hwhole htail hother =>
    obtain ⟨hrecognized, hhead, hchars⟩ := isTail_of_spells htail
    have hall :=
      fun c hc => isDigit_of_isDigits (isDigits_of_isWhole hwhole) (c := c) hc
    have htake := Text.takeWhile_run hall hhead
    have hdrop := Text.dropWhile_run hall hhead
    have hrun : ∀ c ∈ whole ++ tail, isNumberChar c = true :=
      List.forall_mem_append.mpr
        ⟨fun c hc => isNumberChar_of_isDigit (hall c hc), hchars⟩
    rcases hsign with rfl | rfl
    · rw [List.nil_append]
      refine ⟨?_, hrun⟩
      rw [number?]
      · rw [htake, hdrop, hwhole, hrecognized, if_neg]
        · rfl
        intro hnatural
        obtain ⟨c, tail, rfl⟩ := List.exists_cons_of_ne_nil hother
        have hc :=
          isDigit_of_isDigits (isDigits_of_isWhole hnatural) (c := c) (by simp)
        exact absurd (hc.symm.trans (hhead c rfl)) (by decide)
      · exact fun rest => ne_minus_of_isWhole hwhole
    · rw [List.cons_append, List.nil_append, List.cons_append]
      refine ⟨?_, List.forall_mem_cons.mpr ⟨rfl, hrun⟩⟩
      rw [number?, htake, hdrop, hwhole, hrecognized]
      rfl

theorem isCut_number
    {n : Number} {cs : List Char} (h : SpellsNumber n cs) {rest : List Char}
    (hrest : EndsNumber rest) :
    IsCut cs [.number n] rest := by
  obtain ⟨hn, hchars⟩ := number?_of_spells h
  exact isCut_of_number? hchars hn hrest

/-! ## Values -/

/-- A value stands in front of punctuation, which does not prolong a number at
its end. -/
theorem IsCut.before
    {cs ds rest : List Char} {ts us : List Token}
    (hcs : ∀ rest, EndsNumber rest → IsCut cs ts rest) {t : Token}
    (ht : t.isFixed = true) (hds : IsCut ds us rest) :
    IsCut (cs ++ (t.chars ++ ds)) (ts ++ t :: us) rest := by
  have hends : EndsNumber (t.chars ++ ds ++ rest) := by
    rw [List.append_assoc]
    exact endsNumber_of_fixed ht _
  exact (hcs _ hends).append ((isCut_fixed ht _).append hds)

theorem isCut_nil (rest : List Char) : IsCut [] [] rest :=
  isCut_gap isGap_nil rest

theorem isCut_items
    {items : List (Json × List Char)} (hne : items ≠ [])
    (hitems : ∀ e ∈ items,
        ∀ rest, EndsNumber rest → IsCut e.2 (tokens e.1) rest)
    (rest : List Char) :
    IsCut ([','].intercalate (items.map (·.2)) ++ [']'])
      (itemTokens (items.map (·.1))) rest := by
  induction items with
  | nil => exact absurd rfl hne
  | cons e items ih =>
    have he := hitems e List.mem_cons_self
    cases items with
    | nil =>
      have hread := IsCut.before he (t := .closeArray) rfl (isCut_nil rest)
      simpa [itemTokens, Token.chars] using hread
    | cons e' more =>
      have hmore :=
        ih (List.cons_ne_nil _ _) fun e hin =>
          hitems e (List.mem_cons_of_mem _ hin)
      have hread := IsCut.before he (t := .comma) rfl hmore
      simpa [itemTokens, Token.chars] using hread

theorem isCut_members
    {members : List SpelledMember} (hne : members ≠ [])
    (hnames : ∀ m ∈ members, SpellsName m.name m.nameChars)
    (hvalues : ∀ m ∈ members,
        ∀ rest, EndsNumber rest → IsCut m.valueChars (tokens m.value) rest)
    (rest : List Char) :
    IsCut ([','].intercalate (members.map SpelledMember.chars) ++ ['\x7d'])
      (memberTokens (members.map SpelledMember.member)) rest := by
  induction members with
  | nil => exact absurd rfl hne
  | cons m members ih =>
    have hname :=
      fun rest (_ : EndsNumber rest) =>
        isCut_name (hnames m List.mem_cons_self) rest
    have hvalue := hvalues m List.mem_cons_self
    cases members with
    | nil =>
      have hclose :=
        IsCut.before hvalue (t := .closeObject) rfl (isCut_nil rest)
      have hread := IsCut.before hname (t := .colon) rfl hclose
      simpa [memberTokens, Token.chars, SpelledMember.chars,
        SpelledMember.member] using hread
    | cons m' more =>
      have hmore :=
        ih (List.cons_ne_nil _ _)
          (fun m hin => hnames m (List.mem_cons_of_mem _ hin)) fun m hin =>
          hvalues m (List.mem_cons_of_mem _ hin)
      have hcomma := IsCut.before hvalue (t := .comma) rfl hmore
      have hread := IsCut.before hname (t := .colon) rfl hcomma
      simpa [memberTokens, Token.chars, SpelledMember.chars,
        SpelledMember.member] using hread

/-- A spelling is cut into the tokens of its value. -/
theorem Spells.isCut
    {v : Json} {cs : List Char} (h : Spells v cs) {rest : List Char}
    (hrest : EndsNumber rest) :
    IsCut cs (tokens v) rest := by
  induction h generalizing rest with
  | null => exact isCut_fixed (t := .null) rfl rest
  | bool b =>
    cases b with
    | false => exact isCut_fixed (t := .bool false) rfl rest
    | true => exact isCut_fixed (t := .bool true) rfl rest
  | number h => exact isCut_number h hrest
  | string h => exact isCut_string h rest
  | emptyArray hws =>
    have hclose :=
      (isCut_gap hws _).append (isCut_fixed (t := .closeArray) rfl rest)
    exact (isCut_fixed (t := .openArray) rfl _).append hclose
  | array hne hitems ih =>
    exact (isCut_fixed (t := .openArray) rfl _).append
      (isCut_items hne (fun e he rest hrest => ih e he hrest) rest)
  | emptyObject hws =>
    have hclose :=
      (isCut_gap hws _).append (isCut_fixed (t := .closeObject) rfl rest)
    exact (isCut_fixed (t := .openObject) rfl _).append hclose
  | object hne hnames hvalues ih =>
    exact (isCut_fixed (t := .openObject) rfl _).append
      (isCut_members hne hnames (fun m hm rest hrest => ih m hm hrest) rest)
  | spaced hbefore hafter h ih =>
    exact (ih (endsNumber_gap hafter hrest)).spaced hbefore hafter

/-- A spelling is read as the value that it spells. -/
theorem parse?_of_spells
    {v : Json} {s : String} (h : Spells v s.toList) :
    parse? s = some v := by
  have hend : EndsNumber [] := nofun
  have hcut := h.isCut hend
  rw [IsCut, List.append_nil, Token.list?, Option.map_some, List.append_nil]
    at hcut
  have hread := completes_tokens v Reader.start (Or.inl rfl)
  rw [parse?, hcut, Option.bind_eq_bind, Option.bind_some, ofTokens?, hread]
  rfl

end Json
end AgentFleet

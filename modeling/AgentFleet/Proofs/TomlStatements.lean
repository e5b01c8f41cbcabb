import AgentFleet.Proofs.JsonTokens
import AgentFleet.Proofs.TomlStrings

/-!
# Reading written TOML statements

A statement that is written on its lines is read back from them, and with it the
statements that follow.
-/

namespace AgentFleet
namespace Toml

variable {c : Char} {cs rest : List Char} {k : String}

/-! ## Keys -/

/-- The text does not go on with what might belong to a key without quotes. -/
def EndsKey (cs : List Char) : Prop :=
  ∀ c, cs.head? = some c → isBareChar c = false

/-- A key is written bare, or as a string on one line. -/
inductive KeyWritten (cs : List Char) : List Char → Prop where
  | bare (hnil : cs ≠ []) (hbare : ∀ c ∈ cs, isBareChar c = true) :
      KeyWritten cs cs
  | basic : KeyWritten cs ('"' :: (cs.flatMap escapedInLine ++ ['"']))
  | literal (h : IsLiteral cs) : KeyWritten cs ('\'' :: (cs ++ ['\'']))

theorem keyWritten_keyChars
    (k : String) :
    KeyWritten k.toList (keyChars k) := by
  rw [keyChars]
  split
  next hbare =>
    simp only [Bool.and_eq_true, Bool.not_eq_true', List.all_eq_true] at hbare
    refine .bare ?_ hbare.2
    intro hnil
    rw [String.toList_eq_nil_iff] at hnil
    rw [hnil] at hbare
    exact absurd hbare.1 (by decide)
  next =>
    rw [Quoting.ofKey]
    split
    · exact .basic
    split
    next hliteral =>
      simp only [Bool.and_eq_true, Bool.not_eq_true', List.any_eq_false,
        Bool.or_eq_true, beq_iff_eq, not_or, Bool.not_eq_true,
        List.contains_eq_mem, decide_eq_false_iff_not] at hliteral
      obtain ⟨hcontrol, hquote⟩ := hliteral
      exact .literal
        (isLiteral_of_not_control (fun c hc => (hcontrol c hc).1) hquote
            fun hline => (hcontrol _ hline).2 rfl)
    next => exact .basic

theorem key?_of_bare
    (hnil : cs ≠ []) (hbare : ∀ c ∈ cs, isBareChar c = true)
    (hrest : EndsKey rest) :
    key? (cs ++ rest) = some (String.ofList cs, rest) := by
  obtain ⟨c, cs', rfl⟩ := List.exists_cons_of_ne_nil hnil
  have hc : isBareChar c = true := hbare c List.mem_cons_self
  rw [key?]
  · rw [Text.takeWhile_run hbare hrest, Text.dropWhile_run hbare hrest]
    rfl
  · rintro after heq
    rw [(List.cons.inj heq).1] at hc
    exact absurd hc (by decide)
  · rintro after heq
    rw [(List.cons.inj heq).1] at hc
    exact absurd hc (by decide)

theorem key?_keyChars
    (k : String) (hrest : EndsKey rest) :
    key? (keyChars k ++ rest) = some (k, rest) := by
  have hk : String.ofList k.toList = k := String.ofList_toList
  have hwritten := keyWritten_keyChars k
  generalize keyChars k = written at hwritten ⊢
  cases hwritten with
  | bare hnil hbare => rw [key?_of_bare hnil hbare hrest, hk]
  | basic =>
    simp only [List.append_assoc, List.cons_append, List.nil_append]
    rw [key?, basic?_flatMap_escapedInLine, Option.map_some, hk]
  | literal h =>
    simp only [List.append_assoc, List.cons_append, List.nil_append]
    rw [key?, literal?_of_isLiteral h, Option.map_some, hk]

/-- A character that a key may begin with. -/
def StartsKey (c : Char) : Prop :=
  isBareChar c = true ∨ c = '"' ∨ c = '\''

theorem KeyWritten.exists_cons
    {written : List Char} (h : KeyWritten cs written) :
    ∃ c more, written = c :: more ∧ StartsKey c := by
  cases h with
  | bare hnil hbare =>
    obtain ⟨c, cs', rfl⟩ := List.exists_cons_of_ne_nil hnil
    exact ⟨c, cs', rfl, Or.inl (hbare c List.mem_cons_self)⟩
  | basic => exact ⟨_, _, rfl, Or.inr (Or.inl rfl)⟩
  | literal h => exact ⟨_, _, rfl, Or.inr (Or.inr rfl)⟩

/-- A key does not begin with a character of another kind. -/
theorem StartsKey.ne
    {d : Char} (h : StartsKey c) (hbare : isBareChar d = false)
    (hdouble : d ≠ '"') (hsingle : d ≠ '\'') :
    c ≠ d := by
  rintro rfl
  rcases h with h | h | h
  · exact absurd h (Bool.eq_false_iff.mp hbare)
  · exact hdouble h
  · exact hsingle h

theorem StartsKey.not_space (h : StartsKey c) : isSpace c = false := by
  rw [isSpace, Bool.or_eq_false_iff, beq_eq_false_iff_ne, beq_eq_false_iff_ne]
  exact ⟨h.ne (by decide) (by decide) (by decide),
    h.ne (by decide) (by decide) (by decide)⟩

theorem dropWhile_keyChars
    (k : String) (rest : List Char) :
    (keyChars k ++ rest).dropWhile isSpace = keyChars k ++ rest := by
  obtain ⟨c, more, hk, hc⟩ := (keyWritten_keyChars k).exists_cons
  rw [hk, List.cons_append,
    List.dropWhile_cons_of_neg (Bool.eq_false_iff.mp hc.not_space)]

/-! ## Keys with dots -/

/-- A key before a dot is the first of several. -/
theorem keys?_dot
    (k : String) (more : List Char) :
    keys? (keyChars k ++ '.' :: more) =
      (keys? more).map fun p => (k :: p.1, p.2) := by
  have hdot : EndsKey ('.' :: more) := by
    intro c hc
    obtain rfl : '.' = c := Option.some.inj hc
    decide
  have hspace : ('.' :: more).dropWhile isSpace = '.' :: more :=
    List.dropWhile_cons_of_neg (by decide)
  rw [keys?, dropWhile_keyChars, key?_keyChars k hdot]
  simp only [Option.bind_eq_bind, Option.bind_some, hspace]
  rw [if_pos (by simp; omega)]
  cases keys? more <;> rfl

/-- A key that no dot follows is the last one. -/
theorem keys?_last
    (k : String) (hrest : EndsKey rest)
    (hdot : (rest.dropWhile isSpace).head? ≠ some '.') :
    keys? (keyChars k ++ rest) = some ([k], rest.dropWhile isSpace) := by
  rw [keys?, dropWhile_keyChars, key?_keyChars k hrest]
  simp only [Option.bind_eq_bind, Option.bind_some]
  split
  next more heq => exact absurd (congrArg List.head? heq) hdot
  next => rfl

theorem keys?_chars
    (parents : List String) (key : String) (hrest : EndsKey rest)
    (hdot : (rest.dropWhile isSpace).head? ≠ some '.') :
    keys? ((⟨parents, key⟩ : Path).chars ++ rest) =
      some (parents ++ [key], rest.dropWhile isSpace) := by
  induction parents with
  | nil => exact keys?_last key hrest hdot
  | cons k ks ih =>
    have hchars : (⟨k :: ks, key⟩ : Path).chars ++ rest =
        keyChars k ++ '.' :: ((⟨ks, key⟩ : Path).chars ++ rest) := by
      simp [Path.chars]
    rw [hchars, keys?_dot, ih]
    rfl

/-- There are not too many keys. -/
def Path.IsShort (p : Path) : Prop :=
  p.parents.length + 1 < depthLimit

theorem path?_chars
    {p : Path} (hshort : p.IsShort) (hrest : EndsKey rest)
    (hdot : (rest.dropWhile isSpace).head? ≠ some '.') :
    path? (p.chars ++ rest) = some (p, rest.dropWhile isSpace) := by
  have hkeys : Path.ofKeys? (p.parents ++ [p.key]) = some p := by
    have hlast : (p.parents ++ [p.key]).getLast? = some p.key :=
      List.getLast?_concat
    have hguard :
        (guard ((p.parents ++ [p.key]).length < depthLimit) : Option Unit) =
          some () := by
      rw [List.length_append]
      exact if_pos hshort
    rw [Path.ofKeys?]
    simp only [hlast, hguard, Option.bind_eq_bind, Option.bind_some,
      List.dropLast_concat]
    rfl
  rw [path?, keys?_chars p.parents p.key hrest hdot]
  simp only [Option.bind_eq_bind, Option.bind_some, hkeys]
  rfl

theorem Path.exists_cons
    (p : Path) :
    ∃ c more, p.chars = c :: more ∧ StartsKey c := by
  rw [Path.chars]
  cases p.parents with
  | nil => exact (keyWritten_keyChars p.key).exists_cons
  | cons k ks =>
    obtain ⟨c, more, hk, hc⟩ := (keyWritten_keyChars k).exists_cons
    rw [List.flatMap_cons, hk]
    exact ⟨c, _, rfl, hc⟩

/-! ## Values -/

/-- The text goes on with something that ends a value. -/
def EndsValue (cs : List Char) : Prop :=
  ∃ c more, cs = c :: more ∧ (c = ',' ∨ c = ']' ∨ c = '\n')

/-- No white space, line end or comment begins with the character. -/
def IsSolid (c : Char) : Prop :=
  isSpace c = false ∧ c ∉ ['#', '\n', '\r']

/-- A character that a value may begin with. -/
def StartsValue (c : Char) : Prop :=
  IsSolid c ∧ c ≠ ']'

/-- A value can be read back from what is written for it. -/
structure Legible (depth : Nat) (v : Toml) : Prop where
  start : ∃ c more, v.chars = c :: more ∧ StartsValue c
  read :
    ∀ rest, EndsValue rest → value? depth (v.chars ++ rest) = some (v, rest)

theorem EndsValue.endsString (h : EndsValue rest) : EndsString rest := by
  obtain ⟨c, more, rfl, rfl | rfl | rfl⟩ := h <;> simp [EndsString]

theorem stringChars_cons
    (s : String) :
    ∃ c more, stringChars s = c :: more ∧ (c = '"' ∨ c = '\'') := by
  rw [stringChars]
  cases Quoting.ofValue s.toList with
  | basic => exact ⟨_, _, rfl, Or.inl rfl⟩
  | literal => exact ⟨_, _, rfl, Or.inr rfl⟩
  | longBasic => exact ⟨_, _, rfl, Or.inl rfl⟩
  | longLiteral => exact ⟨_, _, rfl, Or.inr rfl⟩

/-- A value that begins with a quote is a string. -/
theorem value?_of_quote
    (hquote : c = '"' ∨ c = '\'') (depth : Nat) (cs : List Char) :
    value? depth (c :: cs) =
      (string? (c :: cs)).map fun p => (.string (String.ofList p.1), p.2) := by
  rw [value?.eq_def]
  rcases hquote with rfl | rfl
  · rfl
  · rfl

theorem legible_string
    (depth : Nat) (s : String) :
    Legible depth (.string s) where
  start := by
    obtain ⟨c, more, hchars, hquote⟩ := stringChars_cons s
    rw [chars]
    refine ⟨c, more, hchars, ?_⟩
    rcases hquote with rfl | rfl
    · exact ⟨⟨by decide, by decide⟩, by decide⟩
    · exact ⟨⟨by decide, by decide⟩, by decide⟩
  read := by
    intro rest hrest
    have hstring := string?_stringChars s hrest.endsString
    obtain ⟨c, more, hchars, hquote⟩ := stringChars_cons s
    rw [chars]
    rw [hchars, List.cons_append] at hstring ⊢
    rw [value?_of_quote hquote, hstring, Option.map_some, String.ofList_toList]

/-! ### Numbers -/

/-- All characters are digits. -/
def AreDigits (cs : List Char) : Prop :=
  ∀ c ∈ cs, Text.isDigit c = true

theorem AreDigits.not_mem
    (h : AreDigits cs) (hc : Text.isDigit c = false) :
    c ∉ cs :=
  fun hmem => absurd (h c hmem) (Bool.eq_false_iff.mp hc)

theorem areDigits_toDigits (n : Nat) : AreDigits (Nat.toDigits 10 n) :=
  fun _ hc => Json.isDigit_of_mem_toDigits hc

theorem date?_of_areDigits (h : AreDigits cs) : date? cs = none := by
  unfold date?
  split
  next => exact absurd (by simp) (h.not_mem (c := '-') (by decide))
  next => rfl

theorem time?_of_areDigits (h : AreDigits cs) : time? cs = none := by
  unfold time?
  split
  next => exact absurd (by simp) (h.not_mem (c := ':') (by decide))
  next => rfl

theorem signed_of_areDigits (h : AreDigits cs) : signed cs = (false, cs) := by
  unfold signed
  split
  next => exact absurd (by simp) (h.not_mem (c := '-') (by decide))
  next => exact absurd (by simp) (h.not_mem (c := '+') (by decide))
  next => rfl

theorem grouped?_of_areDigits
    (h : AreDigits cs) (hnil : cs ≠ []) :
    grouped? Text.isDigit cs = some cs := by
  induction cs with
  | nil => exact absurd rfl hnil
  | cons c cs ih =>
    have hc := h c List.mem_cons_self
    cases cs with
    | nil => rw [grouped?, if_pos hc]
    | cons d rest =>
      have hrest : AreDigits (d :: rest) :=
        fun e he => h e (List.mem_cons_of_mem c he)
      rw [grouped?, if_pos hc, ih hrest (List.cons_ne_nil d rest),
        Option.map_some]
      rintro e after rfl
      exact absurd (by simp) (hrest.not_mem (c := '_') (by decide))

theorem decimal?_toDigits
    (n : Nat) :
    decimal? (Nat.toDigits 10 n) = some (Nat.toDigits 10 n) := by
  have hhead : ((Nat.toDigits 10 n).length = 1 ||
      (Nat.toDigits 10 n).head? != some '0') = true := by
    by_cases hn : n = 0
    · subst hn
      decide
    · rw [Bool.or_eq_true, bne_iff_ne]
      exact Or.inr (Json.head?_toDigits hn)
  rw [decimal?,
    grouped?_of_areDigits (areDigits_toDigits n) Nat.toDigits_ne_nil,
    Option.bind_eq_bind, Option.bind_some, hhead]
  rfl

theorem bounded?_natural
    {n : Nat} (hn : n < integerBound) :
    bounded? n = some (n : Int) := by
  have hlow : -(integerBound : Int) ≤ n := by
    generalize integerBound = bound at hn
    omega
  have hhigh : (n : Int) < integerBound := Int.ofNat_lt.mpr hn
  rw [bounded?, if_pos ⟨hlow, hhigh⟩]

/-- Digits are those of a decimal integer. -/
theorem integer?_of_areDigits
    (h : AreDigits cs) :
    integer? cs =
      (decimal? (signed cs).2).bind fun ds =>
        bounded?
          (if (signed cs).1 = true then -(valueOf 10 ds : Int)
            else valueOf 10 ds) := by
  unfold integer?
  split
  next => exact absurd (by simp) (h.not_mem (c := 'x') (by decide))
  next => exact absurd (by simp) (h.not_mem (c := 'o') (by decide))
  next => exact absurd (by simp) (h.not_mem (c := 'b') (by decide))
  next => rfl

theorem integer?_toDigits
    {n : Nat} (hn : n < integerBound) :
    integer? (Nat.toDigits 10 n) = some (n : Int) := by
  have hdigits := areDigits_toDigits n
  have hvalue : valueOf 10 (Nat.toDigits 10 n) = n :=
    Text.valueOf_toDigits (by decide) (by decide) n
  rw [integer?_of_areDigits hdigits, signed_of_areDigits hdigits,
    decimal?_toDigits, Option.bind_some, hvalue]
  exact bounded?_natural hn

/-- The digits of a number are read as an integer and as nothing else. -/
theorem scalarOf?_toDigits
    {n : Nat} (hn : n < integerBound) :
    scalarOf? (Nat.toDigits 10 n) = some (.integer n) := by
  have hinteger := integer?_toDigits hn
  have hdigits := areDigits_toDigits n
  have hmoment : moment? (Nat.toDigits 10 n) = none := by
    rw [moment?, date?_of_areDigits hdigits, time?_of_areDigits hdigits]
    rfl
  have htrue : Nat.toDigits 10 n ≠ "true".toList :=
    fun heq => hdigits.not_mem (c := 't') (by decide) (heq ▸ by decide)
  have hfalse : Nat.toDigits 10 n ≠ "false".toList :=
    fun heq => hdigits.not_mem (c := 'f') (by decide) (heq ▸ by decide)
  rw [scalarOf?, if_neg htrue, if_neg hfalse, hmoment, hinteger]

theorem isScalarChar_of_isDigit
    (h : Text.isDigit c = true) :
    isScalarChar c = true := by
  have halphanum : c.isAlphanum = true := by
    rw [Char.isAlphanum, Bool.or_eq_true]
    exact Or.inr h
  rw [isScalarChar, halphanum]
  rfl

theorem ne_of_isDigit
    {d : Char} (h : Text.isDigit c = true) (hd : Text.isDigit d = false) :
    c ≠ d := by
  rintro rfl
  exact absurd h (Bool.eq_false_iff.mp hd)

theorem startsValue_of_isDigit (h : Text.isDigit c = true) : StartsValue c := by
  have hne : ∀ d, Text.isDigit d = false → c ≠ d :=
    fun d hd => ne_of_isDigit h hd
  refine ⟨⟨?_, ?_⟩, hne ']' rfl⟩
  · simp [isSpace, hne ' ' rfl, hne '\t' rfl]
  · simp [hne '#' rfl, hne '\n' rfl, hne '\r' rfl]

/-- What is neither a string nor a collection is read as a run of characters. -/
theorem value?_of_digit
    (hc : Text.isDigit c = true) (depth : Nat) (cs : List Char) :
    value? depth (c :: cs) = plain? (c :: cs) := by
  have hne : ∀ d, Text.isDigit d = false → c ≠ d :=
    fun d hd => ne_of_isDigit hc hd
  unfold value?
  split
  next heq => exact absurd (List.cons.inj heq).1 (hne _ (by decide))
  next heq => exact absurd (List.cons.inj heq).1 (hne _ (by decide))
  next heq => exact absurd (List.cons.inj heq).1 (hne _ (by decide))
  next heq => exact absurd (List.cons.inj heq).1 (hne _ (by decide))
  next => rfl

theorem EndsValue.endsScalar
    (h : EndsValue rest) :
    ∀ c, rest.head? = some c → isScalarChar c = false := by
  obtain ⟨c, more, rfl, hc⟩ := h
  intro d hd
  obtain rfl : c = d := Option.some.inj hd
  rcases hc with rfl | rfl | rfl <;> decide

theorem plain?_toDigits
    {n : Nat} (hn : n < integerBound) (hrest : EndsValue rest) :
    plain? (Nat.toDigits 10 n ++ rest) = some (.integer n, rest) := by
  have hdigits := areDigits_toDigits n
  have hscalar : ∀ c ∈ Nat.toDigits 10 n, isScalarChar c = true :=
    fun c hc => isScalarChar_of_isDigit (hdigits c hc)
  have hrun : run (Nat.toDigits 10 n ++ rest) = (Nat.toDigits 10 n, rest) := by
    rw [run, Text.takeWhile_run hscalar hrest.endsScalar,
      Text.dropWhile_run hscalar hrest.endsScalar, date?_of_areDigits hdigits]
  rw [plain?, hrun]
  exact congrArg (Option.map fun v => (v, rest)) (scalarOf?_toDigits hn)

theorem legible_natural
    (depth : Nat) {n : Nat} (hn : n < integerBound) :
    Legible depth (.integer n) where
  start := by
    obtain ⟨c, cs, hcs⟩ :=
      List.exists_cons_of_ne_nil (Nat.toDigits_ne_nil (n := n) (b := 10))
    have hc : Text.isDigit c = true :=
      areDigits_toDigits n c (hcs ▸ List.mem_cons_self)
    exact ⟨c, cs, hcs, startsValue_of_isDigit hc⟩
  read := by
    intro rest hrest
    obtain ⟨c, cs, hcs⟩ :=
      List.exists_cons_of_ne_nil (Nat.toDigits_ne_nil (n := n) (b := 10))
    have hc : Text.isDigit c = true :=
      areDigits_toDigits n c (hcs ▸ List.mem_cons_self)
    have hplain := plain?_toDigits hn hrest
    change value? depth (Nat.toDigits 10 n ++ rest) = _
    rw [hcs, List.cons_append] at hplain ⊢
    exact (value?_of_digit hc depth _).trans hplain

/-! ### Arrays -/

theorem skipBlank_of_isSolid
    (h : IsSolid c) (cs : List Char) :
    skipBlank false (c :: cs) = c :: cs := by
  obtain ⟨hspace, hmem⟩ := h
  simp only [List.mem_cons, List.not_mem_nil, or_false, not_or] at hmem
  obtain ⟨hcomment, hline, hreturn⟩ := hmem
  rw [skipBlank]
  · simp [hspace, hcomment]
  · rintro rest rfl
    exact absurd rfl hreturn
  · exact hline

theorem skipBlank_space
    (cs : List Char) :
    skipBlank false (' ' :: cs) = skipBlank false cs := by
  rw [skipBlank]
  · rfl
  · intro rest h
    exact absurd h (by decide)
  · decide

theorem skipBlank_newline
    (cs : List Char) :
    skipBlank false ('\n' :: cs) = skipBlank false cs := by
  rw [skipBlank]

variable {item? : List Char → Option (Toml × List Char)} {v : Toml}
  {more : List Char}

theorem items?_nil
    (hblank : skipBlank false cs = ']' :: rest) :
    items? item? cs = some ([], rest) := by
  rw [items?, hblank]
  rfl

/-- The last item of an array, unless a comma follows it. -/
theorem items?_last
    (hblank : skipBlank false cs = c :: more) (hc : c ≠ ']')
    (hitem : item? (c :: more) = some (v, ']' :: rest)) :
    items? item? cs = some ([v], rest) := by
  have hclosed : skipBlank false (']' :: rest) = ']' :: rest :=
    skipBlank_of_isSolid ⟨by decide, by decide⟩ rest
  rw [items?, hblank]
  split
  next heq => exact absurd (List.cons.inj heq).1 hc
  next =>
    simp only [hitem, Option.bind_eq_bind, Option.bind_some, hclosed]
    rfl

theorem items?_comma
    (hblank : skipBlank false cs = c :: more) (hc : c ≠ ']') {next : List Char}
    (hitem : item? (c :: more) = some (v, ',' :: next))
    (hshort : next.length < cs.length) :
    items? item? cs = (items? item? next).map fun p => (v :: p.1, p.2) := by
  have hcomma : skipBlank false (',' :: next) = ',' :: next :=
    skipBlank_of_isSolid ⟨by decide, by decide⟩ next
  rw [items?, hblank]
  split
  next heq => exact absurd (List.cons.inj heq).1 hc
  next =>
    simp only [hitem, Option.bind_eq_bind, Option.bind_some, hcomma,
      if_pos hshort]
    cases items? item? next <;> rfl

/-- Items that stand on lines of their own are read back up to the closing
bracket. -/
theorem items?_itemChars
    {depth : Nat} {items : List Toml} (h : ∀ v ∈ items, Legible depth v)
    (rest : List Char) :
    items? (value? depth) ('\n' :: (itemChars items ++ ']' :: rest)) =
      some (items, rest) := by
  induction items with
  | nil =>
    apply items?_nil
    rw [skipBlank_newline]
    exact skipBlank_of_isSolid ⟨by decide, by decide⟩ rest
  | cons v items ih =>
    have hv := h v List.mem_cons_self
    obtain ⟨c, more, hchars, hsolid, hbracket⟩ := hv.start
    have hread := hv.read (',' :: '\n' :: (itemChars items ++ ']' :: rest))
      ⟨_, _, rfl, Or.inl rfl⟩
    have htext : '\n' :: (itemChars (v :: items) ++ ']' :: rest) =
        '\n' :: ' ' :: ' ' :: ' ' :: ' ' ::
          (v.chars ++ ',' :: '\n' :: (itemChars items ++ ']' :: rest)) := by
      simp [itemChars]
    rw [htext]
    rw [hchars, List.cons_append] at hread ⊢
    rw [items?_comma _ hbracket hread,
      ih fun w hw => h w (List.mem_cons_of_mem v hw)]
    · rfl
    · simp only [List.length_cons, List.length_append]
      omega
    · rw [skipBlank_newline, skipBlank_space, skipBlank_space, skipBlank_space,
        skipBlank_space]
      exact skipBlank_of_isSolid hsolid _

theorem value?_bracket
    (depth : Nat) (cs : List Char) :
    value? (depth + 1) ('[' :: cs) =
      (items? (value? depth) cs).map fun p => (.array p.1, p.2) := by
  rw [value?]

/-- What is between the brackets of an array. -/
theorem exists_chars_array
    (items : List Toml) :
    ∃ inner, (Toml.array items).chars = '[' :: inner := by
  match items with
  | [] => exact ⟨[']'], rfl⟩
  | [v] => exact ⟨v.chars ++ [']'], by simp [chars]⟩
  | v :: w :: items =>
    exact ⟨'\n' :: (itemChars (v :: w :: items) ++ [']']), by simp [chars]⟩

/-- An array is written on one line if it has no more than one item. -/
theorem legible_array
    {depth : Nat} {items : List Toml} (h : ∀ v ∈ items, Legible depth v) :
    Legible (depth + 1) (.array items) where
  start := by
    obtain ⟨inner, hchars⟩ := exists_chars_array items
    exact ⟨'[', inner, hchars, ⟨by decide, by decide⟩, by decide⟩
  read := by
    intro rest hrest
    match items, h with
    | [], _ =>
      have hitems : items? (value? depth) (']' :: rest) = some ([], rest) :=
        items?_nil (skipBlank_of_isSolid ⟨by decide, by decide⟩ rest)
      rw [chars]
      exact (value?_bracket depth _).trans (congrArg (Option.map _) hitems)
    | [v], h =>
      have hv := h v List.mem_cons_self
      obtain ⟨c, more, hchars, hsolid, hbracket⟩ := hv.start
      have hread := hv.read (']' :: rest) ⟨_, _, rfl, Or.inr (Or.inl rfl)⟩
      have htext :
          (Toml.array [v]).chars ++ rest = '[' :: (v.chars ++ ']' :: rest) := by
        simp [chars]
      rw [htext, value?_bracket]
      rw [hchars, List.cons_append] at hread ⊢
      rw [items?_last (skipBlank_of_isSolid hsolid _) hbracket hread]
      rfl
    | v :: w :: items, h =>
      have htext : (Toml.array (v :: w :: items)).chars ++ rest =
          '[' :: '\n' :: (itemChars (v :: w :: items) ++ ']' :: rest) := by
        simp [chars]
      rw [htext, value?_bracket, items?_itemChars h]
      rfl

/-! ## Statements -/

/-- A statement can be read back from what is written for it. -/
def Statement.Legible : Statement → Prop
  | .assign path v => path.IsShort ∧ Toml.Legible (depthLimit - 1) v
  | .table path => path.IsShort
  | .tableItem path => path.IsShort

theorem lineEnd?_newline
    (cs : List Char) :
    lineEnd? ('\n' :: cs) = some cs := by
  rw [lineEnd?]
  rfl

theorem StartsKey.ne_bracket (h : StartsKey c) : c ≠ '[' :=
  h.ne (by decide) (by decide) (by decide)

theorem StartsKey.isSolid (h : StartsKey c) : IsSolid c := by
  refine ⟨h.not_space, ?_⟩
  simp only [List.mem_cons, List.not_mem_nil, or_false, not_or]
  exact ⟨h.ne (by decide) (by decide) (by decide),
    h.ne (by decide) (by decide) (by decide),
    h.ne (by decide) (by decide) (by decide)⟩

theorem path?_chars_bracket
    {path : Path} (hpath : path.IsShort) (rest : List Char) :
    path? (path.chars ++ ']' :: rest) = some (path, ']' :: rest) := by
  have hrest : EndsKey (']' :: rest) := by
    intro c hc
    obtain rfl : ']' = c := Option.some.inj hc
    decide
  have hspace : (']' :: rest).dropWhile isSpace = ']' :: rest :=
    List.dropWhile_cons_of_neg (by decide)
  rw [path?_chars hpath hrest (by simp [hspace]), hspace]

theorem path?_chars_equals
    {path : Path} (hpath : path.IsShort) (rest : List Char) :
    path? (path.chars ++ ' ' :: '=' :: rest) = some (path, '=' :: rest) := by
  have hrest : EndsKey (' ' :: '=' :: rest) := by
    intro c hc
    obtain rfl : ' ' = c := Option.some.inj hc
    decide
  have hspace : (' ' :: '=' :: rest).dropWhile isSpace = '=' :: rest := by
    rw [List.dropWhile_cons_of_pos (by decide),
      List.dropWhile_cons_of_neg (by decide)]
  rw [path?_chars hpath hrest (by simp [hspace]), hspace]

theorem statement?_of_key
    (hc : c ≠ '[') {path : Path} {more : List Char}
    (hpath : path? (c :: cs) = some (path, '=' :: more)) :
    statement? (c :: cs) =
      (value? (depthLimit - 1) (more.dropWhile isSpace)).bind fun p =>
        (lineEnd? p.2).bind fun rest => some (.assign path p.1, rest) := by
  unfold statement?
  split
  next heq => exact absurd (List.cons.inj heq).1 hc
  next heq => exact absurd (List.cons.inj heq).1 hc
  next =>
    simp only [hpath, Option.bind_eq_bind, Option.bind_some]
    rfl

theorem statement?_assign
    {path : Path} (hpath : path.IsShort) (hv : Legible (depthLimit - 1) v)
    (rest : List Char) :
    statement? ((Statement.assign path v).chars ++ rest) =
      some (.assign path v, rest) := by
  have hread := hv.read ('\n' :: rest) ⟨_, _, rfl, Or.inr (Or.inr rfl)⟩
  obtain ⟨d, inner, hinner, ⟨hspace, -⟩, -⟩ := hv.start
  have hvalue :
      (' ' :: (v.chars ++ '\n' :: rest)).dropWhile isSpace =
        v.chars ++ '\n' :: rest := by
    rw [List.dropWhile_cons_of_pos (by decide), hinner, List.cons_append,
      List.dropWhile_cons_of_neg (Bool.eq_false_iff.mp hspace)]
  have htext : (Statement.assign path v).chars ++ rest =
      path.chars ++ ' ' :: '=' :: ' ' :: (v.chars ++ '\n' :: rest) := by
    simp [Statement.chars]
  have hkey := path?_chars_equals hpath (' ' :: (v.chars ++ '\n' :: rest))
  obtain ⟨c, more, hchars, hc⟩ := path.exists_cons
  rw [htext]
  rw [hchars, List.cons_append] at hkey ⊢
  rw [statement?_of_key hc.ne_bracket hkey, hvalue, hread, Option.bind_some,
    lineEnd?_newline, Option.bind_some]

theorem statement?_table
    {path : Path} (hpath : path.IsShort) (rest : List Char) :
    statement? ('[' :: (path.chars ++ ']' :: '\n' :: rest)) =
      some (.table path, rest) := by
  have hkey := path?_chars_bracket hpath ('\n' :: rest)
  obtain ⟨c, more, hchars, hc⟩ := path.exists_cons
  rw [hchars, List.cons_append] at hkey ⊢
  rw [statement?]
  · simp only [hkey, Option.bind_eq_bind, Option.bind_some, lineEnd?_newline]
    rfl
  · rintro after heq
    exact hc.ne_bracket (List.cons.inj heq).1

theorem statement?_tableItem
    {path : Path} (hpath : path.IsShort) (rest : List Char) :
    statement? ('[' :: '[' :: (path.chars ++ ']' :: ']' :: '\n' :: rest)) =
      some (.tableItem path, rest) := by
  rw [statement?, path?_chars_bracket hpath]
  simp only [Option.bind_eq_bind, Option.bind_some, lineEnd?_newline]
  rfl

/-- What is skipped before a statement is the empty line before a header. -/
theorem statements?_of_statement?
    {s : Statement} (hblank : skipBlank false cs = c :: more)
    (hs : statement? (c :: more) = some (s, rest))
    (hshort : rest.length < cs.length) :
    statements? cs = (statements? rest).map (s :: ·) := by
  rw [statements?, hblank]
  simp only [hs, Option.bind_eq_bind, Option.bind_some, if_pos hshort]
  cases statements? rest <;> rfl

/-- A statement is read back, and then those that follow. -/
theorem statements?_chars
    {s : Statement} (h : s.Legible) (rest : List Char) :
    statements? (s.chars ++ rest) = (statements? rest).map (s :: ·) := by
  cases s with
  | assign path v =>
    have hread := statement?_assign h.1 h.2 rest
    obtain ⟨c, more, hchars, hc⟩ := path.exists_cons
    have htext : (Statement.assign path v).chars ++ rest =
        c :: (more ++ " = ".toList ++ v.chars ++ '\n' :: rest) := by
      simp [Statement.chars, hchars]
    rw [htext] at hread ⊢
    refine statements?_of_statement? (skipBlank_of_isSolid hc.isSolid _) hread
      ?_
    simp only [List.length_cons, List.length_append]
    omega
  | table path =>
    have hread := statement?_table h rest
    have htext : (Statement.table path).chars ++ rest =
        '\n' :: '[' :: (path.chars ++ ']' :: '\n' :: rest) := by
      simp [Statement.chars]
    rw [htext]
    refine statements?_of_statement? ?_ hread ?_
    · rw [skipBlank_newline]
      exact skipBlank_of_isSolid ⟨by decide, by decide⟩ _
    · simp only [List.length_cons, List.length_append]
      omega
  | tableItem path =>
    have hread := statement?_tableItem h rest
    have htext : (Statement.tableItem path).chars ++ rest =
        '\n' :: '[' :: '[' :: (path.chars ++ ']' :: ']' :: '\n' :: rest) := by
      simp [Statement.chars]
    rw [htext]
    refine statements?_of_statement? ?_ hread ?_
    · rw [skipBlank_newline]
      exact skipBlank_of_isSolid ⟨by decide, by decide⟩ _
    · simp only [List.length_cons, List.length_append]
      omega

theorem statements?_flatMap_chars
    {ss : List Statement} (h : ∀ s ∈ ss, s.Legible) :
    statements? (ss.flatMap Statement.chars) = some ss := by
  induction ss with
  | nil => 
    rw [List.flatMap_nil, statements?]
    rfl
  | cons s ss ih =>
    rw [List.flatMap_cons, statements?_chars (h s List.mem_cons_self),
      ih fun t ht => h t (List.mem_cons_of_mem s ht)]
    rfl

end Toml
end AgentFleet

import AgentFleet.Proofs.Numerals
import AgentFleet.Toml.Printer
import Mathlib.Data.Option.Basic

/-!
# Reading written TOML strings

Whatever is in a text, the kind of string that is chosen for it can hold it, and
the reader finds the text again, with what follows the closing quotes.  Only
another quote right behind these would be mistaken.
-/

namespace AgentFleet
namespace Toml

/-! ## Characters -/

variable {c : Char} {cs rest : List Char}

theorem isPlain_of_not_control
    (h : isControl c = false) (hline : c ≠ '\n') :
    isPlain c = true := by
  rw [isControl, Bool.or_eq_false_iff, beq_eq_false_iff_ne] at h
  obtain ⟨hlow, hdelete⟩ := h
  rw [isPlain, Bool.or_eq_true]
  by_cases htab : c = '\t'
  · exact Or.inl (beq_iff_eq.mpr htab)
  · simp [htab, hline] at hlow
    simp [hdelete, hlow]

/-- The ways in which a character stands in a basic string. -/
inductive EscapedAs (c : Char) : List Char → Prop where
  | letter {e : Char} (he : unescape? e = some c) : EscapedAs c ['\\', e]
  | digits {a b d e : Char} (hvalue : shortEscape? a b d e = some c) :
      EscapedAs c ['\\', 'u', a, b, d, e]
  | plain (hplain : isPlain c = true) (hquote : c ≠ '"') (hslash : c ≠ '\\') :
      EscapedAs c [c]

/-- A control character is written as four digits, of which the last may be a
capital letter. -/
theorem paddedDigits_control
    {n : Nat} (hn : n < 0x80) :
    ∃ a b,
      (Text.paddedDigits 16 4 n).map Char.toUpper = ['0', '0', a, b] ∧
      shortEscape? '0' '0' a b = some (Char.ofNat n) := by
  have hall :
      ∀ n : Fin 0x80,
        (Text.paddedDigits 16 4 n).map Char.toUpper =
          ['0', '0', (Nat.digitChar (n / 16)).toUpper,
            (Nat.digitChar (n % 16)).toUpper] ∧
        shortEscape? '0' '0' (Nat.digitChar (n / 16)).toUpper
            (Nat.digitChar (n % 16)).toUpper =
          some (Char.ofNat n) := by
    decide +kernel
  exact ⟨_, _, hall ⟨n, hn⟩⟩

/-- The characters that have an escape of one letter wherever they stand. -/
def lettered : List Char :=
  ['\x08', '\t', '\x0c', '\r', '\\']

theorem escapedAs_escaped
    (hquote : c ≠ '"') (hline : c ≠ '\n') :
    EscapedAs c (escaped c) := by
  by_cases hletter : c ∈ lettered
  · simp only [lettered, List.mem_cons, List.not_mem_nil, or_false] at hletter
    rcases hletter with rfl | rfl | rfl | rfl | rfl
    · exact .letter (e := 'b') rfl
    · exact .letter (e := 't') rfl
    · exact .letter (e := 'f') rfl
    · exact .letter (e := 'r') rfl
    · exact .letter (e := '\\') rfl
  obtain ⟨hb, ht, hf, hr, hslash⟩ :
      c ≠ '\x08' ∧ c ≠ '\t' ∧ c ≠ '\x0c' ∧ c ≠ '\r' ∧ c ≠ '\\' := by
    simpa [lettered] using hletter
  simp only [escaped, hb, ht, hf, hr, hslash, ↓reduceIte]
  split
  next hcontrol =>
    have hn : c.toNat < 0x80 := by
      simp only [Bool.or_eq_true, decide_eq_true_iff] at hcontrol
      rcases hcontrol with hlow | rfl
      · exact Nat.lt_trans hlow (by decide)
      · decide
    obtain ⟨a, b, hdigits, hvalue⟩ := paddedDigits_control hn
    rw [hdigits]
    rw [Char.ofNat_toNat] at hvalue
    exact .digits hvalue
  next hcontrol =>
    simp only [Bool.or_eq_true, decide_eq_true_iff, not_or, Char.not_lt]
      at hcontrol
    have hplain : isPlain c = true := by
      simp [isPlain, hcontrol]
    exact .plain hplain hquote hslash

theorem escapedAs_escapedInLine (c : Char) : EscapedAs c (escapedInLine c) := by
  by_cases hquote : c = '"'
  · subst hquote
    exact .letter (e := '"') rfl
  by_cases hline : c = '\n'
  · subst hline
    exact .letter (e := 'n') rfl
  simp only [escapedInLine, hquote, hline, ↓reduceIte]
  exact escapedAs_escaped hquote hline

theorem newline?_cons
    (hline : c ≠ '\n') (hreturn : c ≠ '\r') (cs : List Char) :
    newline? (c :: cs) = none := by
  rw [newline?]
  · intro rest h
    exact absurd (List.cons.inj h).1 hline
  · intro rest h
    exact absurd (List.cons.inj h).1 hreturn

/-- No escape of one letter is one of a line end. -/
theorem endsLine_of_letter
    {e : Char} (he : unescape? e = some c) (rest : List Char) :
    endsLine (e :: rest) = false := by
  have hspace : isSpace e = false := by
    rw [isSpace, Bool.or_eq_false_iff, beq_eq_false_iff_ne, beq_eq_false_iff_ne]
    constructor
    · rintro rfl
      cases he
    · rintro rfl
      cases he
  have hline : e ≠ '\n' := by
    rintro rfl
    cases he
  have hreturn : e ≠ '\r' := by
    rintro rfl
    cases he
  rw [endsLine, List.dropWhile_cons_of_neg (Bool.eq_false_iff.mp hspace),
    newline?_cons hline hreturn]
  rfl

theorem ne_of_letter
    {e : Char} (he : unescape? e = some c) :
    e ≠ 'u' ∧ e ≠ 'U' := by
  constructor
  · rintro rfl
    cases he
  · rintro rfl
    cases he

/-! ## Strings on one line -/

/-- A character of a basic string is read, however it stands there. -/
theorem EscapedAs.read
    (h : EscapedAs c cs) (rest : List Char) :
    basic? (cs ++ rest) = (basic? rest).map fun p => (c :: p.1, p.2) := by
  cases h with
  | @letter e he =>
    obtain ⟨hshort, hlong⟩ := ne_of_letter he
    rw [List.cons_append, List.cons_append, List.nil_append, basic?]
    · simp only [he]
      cases basic? rest <;> rfl
    · intro a b d e rest h
      exact absurd h hshort
    · intro a b d e f g h i rest h
      exact absurd h hlong
  | digits hvalue =>
    simp only [List.cons_append, List.nil_append]
    rw [basic?, hvalue]
    cases basic? rest <;> rfl
  | plain hplain hquote hslash =>
    rw [List.cons_append, List.nil_append, basic?]
    · have htaken : (isPlain c && c != '\\') = true := by
        simp [hplain, hslash]
      rw [htaken]
      cases basic? rest <;> rfl
    · exact hquote
    · intro a b d e rest h
      exact absurd h hslash
    · intro a b d e f g h i rest h
      exact absurd h hslash
    · intro e rest h
      exact absurd h hslash

theorem basic?_flatMap_escapedInLine
    (cs rest : List Char) :
    basic? (cs.flatMap escapedInLine ++ '"' :: rest) = some (cs, rest) := by
  induction cs with
  | nil => rfl
  | cons c cs ih =>
    rw [List.flatMap_cons, List.append_assoc, (escapedAs_escapedInLine c).read,
      ih]
    rfl

/-- The characters can stand between single quotes on one line. -/
def IsLiteral (cs : List Char) : Prop :=
  ∀ c ∈ cs, isPlain c = true ∧ c ≠ '\''

theorem literal?_of_isLiteral
    (h : IsLiteral cs) (rest : List Char) :
    literal? (cs ++ '\'' :: rest) = some (cs, rest) := by
  induction cs with
  | nil => rfl
  | cons c cs ih =>
    obtain ⟨hplain, hquote⟩ := h c List.mem_cons_self
    rw [List.cons_append, literal?]
    · rw [hplain, ih fun d hd => h d (List.mem_cons_of_mem c hd)]
      rfl
    · exact hquote

/-! ## Strings of several lines -/

/-- The text goes on with two quotes. -/
def TwoQuotes (quote : Char) (cs : List Char) : Prop :=
  ∃ after, cs = quote :: quote :: after

/-- A plain character belongs to the string, unless it is the first of three
quotes. -/
theorem longBasic?_plain
    (hplain : isPlain c = true) (hslash : c ≠ '\\')
    (hquote : c = '"' → ¬TwoQuotes '"' rest) :
    longBasic? false (c :: rest) =
      (longBasic? false rest).map fun p => (c :: p.1, p.2) := by
  rw [longBasic?]
  · have htaken : (isPlain c && c != '\\') = true := by
      simp [hplain, hslash]
    rw [htaken]
    cases longBasic? false rest <;> rfl
  · intro after h heq
    exact hquote h ⟨after, heq⟩
  · rintro rest rfl
    exact absurd hplain (by decide)
  · rintro rfl
    exact absurd hplain (by decide)
  · intro a b d e rest h
    exact absurd h hslash
  · intro a b d e f g h i rest h
    exact absurd h hslash
  · intro e rest h
    exact absurd h hslash

/-- A character of a basic string of several lines is read like one of a string
on one line. -/
theorem EscapedAs.read_long
    (h : EscapedAs c cs) (rest : List Char) :
    longBasic? false (cs ++ rest) =
      (longBasic? false rest).map fun p => (c :: p.1, p.2) := by
  cases h with
  | @letter e he =>
    obtain ⟨hshort, hlong⟩ := ne_of_letter he
    rw [List.cons_append, List.cons_append, List.nil_append, longBasic?]
    · simp only [he, endsLine_of_letter he]
      cases longBasic? false rest <;> rfl
    · intro a b d e rest h
      exact absurd h hshort
    · intro a b d e f g h i rest h
      exact absurd h hlong
  | digits hvalue =>
    simp only [List.cons_append, List.nil_append]
    rw [longBasic?, hvalue]
    cases longBasic? false rest <;> rfl
  | plain hplain hquote hslash =>
    exact longBasic?_plain hplain hslash fun h => absurd h hquote

/-- Up to two quotes in front of the closing ones belong to the string. -/
theorem closing?_replicate
    {quote : Char} {k : Nat} (hk : k ≤ 2) (hrest : rest.head? ≠ some quote) :
    closing? quote (List.replicate k quote ++ rest) =
      some (List.replicate k quote, rest) := by
  have hall : ∀ d ∈ List.replicate k quote, (d == quote) = true := by
    intro d hd
    rw [beq_iff_eq]
    exact List.eq_of_mem_replicate hd
  have hstop : ∀ d, rest.head? = some d → (d == quote) = false := by
    rintro d hd
    rw [beq_eq_false_iff_ne]
    rintro rfl
    exact hrest hd
  rw [closing?, Text.takeWhile_run hall hstop, Text.dropWhile_run hall hstop,
    List.length_replicate]
  exact if_pos hk

/-- Of quotes in a row, any three may be taken for the closing ones. -/
theorem replicate_append_quotes
    (quote : Char) (k : Nat) (rest : List Char) :
    List.replicate k quote ++ quote :: quote :: quote :: rest =
      quote :: quote :: quote :: (List.replicate k quote ++ rest) := by
  induction k with
  | zero => rfl
  | succ k ih =>
    rw [List.replicate_succ, List.cons_append, ih, List.cons_append]

theorem longBasic?_closing
    {k : Nat} (hk : k ≤ 2) (hrest : rest.head? ≠ some '"') :
    longBasic? false (List.replicate k '"' ++ '"' :: '"' :: '"' :: rest) =
      some (List.replicate k '"', rest) := by
  rw [replicate_append_quotes, longBasic?]
  exact closing?_replicate hk hrest

/-- No quote of a basic string on one line is written as it is. -/
theorem head?_of_escapedAs
    (h : EscapedAs c cs) (rest : List Char) :
    (cs ++ rest).head? ≠ some '"' := by
  cases h with
  | letter he => simp
  | digits hvalue => simp
  | plain hplain hquote hslash => simpa using hquote

theorem escapedInLines_cons
    (hquote : c ≠ '"') (hline : c ≠ '\n') (quotes : Nat) (cs : List Char) :
    escapedInLines quotes (c :: cs) = escaped c ++ escapedInLines 0 cs := by
  rw [escapedInLines]
  · exact hquote
  · exact hline

/-- Behind two quotes none follows that is not escaped. -/
theorem head?_escapedInLines
    {quotes : Nat}
    (h : (escapedInLines quotes (c :: cs) ++ rest).head? = some '"') :
    c = '"' ∧ quotes ≠ 2 := by
  by_cases hquote : c = '"'
  · subst hquote
    refine ⟨rfl, ?_⟩
    rintro rfl
    rw [escapedInLines, if_pos rfl] at h
    simp at h
  · by_cases hline : c = '\n'
    · subst hline
      rw [escapedInLines] at h
      simp at h
    · rw [escapedInLines_cons hquote hline, List.append_assoc] at h
      exact absurd h (head?_of_escapedAs (escapedAs_escaped hquote hline) _)

theorem escapedInLines_replicate
    {quotes k : Nat} (h : quotes + k ≤ 2) :
    escapedInLines quotes (List.replicate k '"') = List.replicate k '"' := by
  induction k generalizing quotes with
  | zero => rfl
  | succ k ih =>
    rw [List.replicate_succ, escapedInLines, if_neg (by omega), ih (by omega)]

/-- Two quotes follow one only at the end of the string, and then they are
closing ones. -/
theorem eq_replicate_of_twoQuotes
    {quotes : Nat} (hquotes : quotes < 2)
    (h : TwoQuotes '"'
        (escapedInLines (quotes + 1) cs ++ '"' :: '"' :: '"' :: rest)) :
    ∃ k, cs = List.replicate k '"' ∧ quotes + k < 2 := by
  obtain ⟨after, hafter⟩ := h
  cases cs with
  | nil => exact ⟨0, rfl, hquotes⟩
  | cons d ds =>
    obtain ⟨rfl, hfew⟩ := head?_escapedInLines (congrArg List.head? hafter)
    have hzero : quotes = 0 := by omega
    subst hzero
    rw [escapedInLines, if_neg hfew, List.cons_append] at hafter
    have hnext := congrArg List.head? (List.cons.inj hafter).2
    cases ds with
    | nil => exact ⟨1, rfl, by decide⟩
    | cons e es => exact absurd rfl (head?_escapedInLines hnext).2

/-- A basic string of several lines is read back up to its closing quotes; the
quotes right before are counted, so that three of them never stand in a row. -/
theorem longBasic?_escapedInLines
    (hrest : rest.head? ≠ some '"') (cs : List Char) {quotes : Nat}
    (hquotes : quotes ≤ 2) :
    longBasic? false (escapedInLines quotes cs ++ '"' :: '"' :: '"' :: rest) =
      some (cs, rest) := by
  induction cs generalizing quotes with
  | nil => exact longBasic?_closing (k := 0) (by decide) hrest
  | cons c cs ih =>
    by_cases hquote : c = '"'
    · subst hquote
      rw [escapedInLines]
      by_cases hfull : quotes = 2
      · have hletter : EscapedAs '"' ['\\', '"'] := .letter (e := '"') rfl
        rw [if_pos hfull, List.append_assoc, hletter.read_long, ih (by decide)]
        rfl
      · rw [if_neg hfull, List.cons_append]
        by_cases htwo : TwoQuotes '"'
            (escapedInLines (quotes + 1) cs ++ '"' :: '"' :: '"' :: rest)
        · obtain ⟨k, rfl, hk⟩ := eq_replicate_of_twoQuotes (by omega) htwo
          rw [escapedInLines_replicate (by omega)]
          exact longBasic?_closing (k := k + 1) (by omega) hrest
        · rw [longBasic?_plain (by decide) (by decide) fun _ => htwo,
            ih (by omega)]
          rfl
    · by_cases hline : c = '\n'
      · subst hline
        rw [escapedInLines, List.cons_append, longBasic?, ih (by decide)]
        rfl
      · have hescaped := escapedAs_escaped hquote hline
        rw [escapedInLines_cons hquote hline, List.append_assoc,
          hescaped.read_long, ih (by decide)]
        rfl

theorem longLiteral?_plain
    (hplain : isPlain c = true) (hquote : c = '\'' → ¬TwoQuotes '\'' rest) :
    longLiteral? (c :: rest) =
      (longLiteral? rest).map fun p => (c :: p.1, p.2) := by
  rw [longLiteral?]
  · rw [hplain]
    cases longLiteral? rest <;> rfl
  · intro after h heq
    exact hquote h ⟨after, heq⟩
  · rintro rest rfl
    exact absurd hplain (by decide)
  · rintro rfl
    exact absurd hplain (by decide)

theorem longLiteral?_closing
    {k : Nat} (hk : k ≤ 2) (hrest : rest.head? ≠ some '\'') :
    longLiteral? (List.replicate k '\'' ++ '\'' :: '\'' :: '\'' :: rest) =
      some (List.replicate k '\'', rest) := by
  rw [replicate_append_quotes, longLiteral?]
  exact closing?_replicate hk hrest

theorem le_longestRun
    (c : Char) (current : Nat) (cs : List Char) :
    current ≤ longestRun c current cs := by
  induction cs generalizing current with
  | nil => exact Nat.le_refl current
  | cons d cs ih =>
    rw [longestRun]
    split
    · exact Nat.le_of_succ_le (ih (current + 1))
    · exact Nat.le_max_left _ _

/-- Where no three quotes stand in a row, two follow one only if they are
closing ones. -/
theorem eq_replicate_of_longestRun
    {quotes : Nat} (hquotes : longestRun '\'' (quotes + 1) cs ≤ 2)
    (h : TwoQuotes '\'' (cs ++ '\'' :: '\'' :: '\'' :: rest)) :
    ∃ k, cs = List.replicate k '\'' ∧ k < 2 := by
  obtain ⟨after, hafter⟩ := h
  match cs, hquotes, hafter with
  | [], _, _ => exact ⟨0, rfl, by decide⟩
  | [d], _, hafter =>
    obtain rfl : d = '\'' := (List.cons.inj hafter).1
    exact ⟨1, rfl, by decide⟩
  | d :: e :: es, hquotes, hafter =>
    obtain ⟨rfl, htail⟩ := List.cons.inj hafter
    obtain ⟨rfl, -⟩ := List.cons.inj htail
    rw [longestRun, if_pos rfl, longestRun, if_pos rfl] at hquotes
    have hrun := le_longestRun '\'' (quotes + 1 + 1 + 1) es
    omega

/-- A literal string of several lines is read back up to its closing quotes. -/
theorem longLiteral?_of_longestRun
    (hrest : rest.head? ≠ some '\'') (cs : List Char)
    (hcontrol : ∀ c ∈ cs, isControl c = false) {quotes : Nat}
    (hquotes : longestRun '\'' quotes cs ≤ 2) :
    longLiteral? (cs ++ '\'' :: '\'' :: '\'' :: rest) = some (cs, rest) := by
  induction cs generalizing quotes with
  | nil => exact longLiteral?_closing (k := 0) (by decide) hrest
  | cons c cs ih =>
    have hcontrols : ∀ d ∈ cs, isControl d = false :=
      fun d hd => hcontrol d (List.mem_cons_of_mem c hd)
    by_cases hline : c = '\n'
    · subst hline
      rw [longestRun, if_neg (by decide)] at hquotes
      rw [List.cons_append, longLiteral?,
        ih hcontrols (Nat.le_trans (Nat.le_max_right _ _) hquotes)]
      rfl
    have hplain := isPlain_of_not_control (hcontrol c List.mem_cons_self) hline
    by_cases hquote : c = '\''
    · subst hquote
      rw [longestRun, if_pos rfl] at hquotes
      by_cases htwo : TwoQuotes '\'' (cs ++ '\'' :: '\'' :: '\'' :: rest)
      · obtain ⟨k, rfl, hk⟩ := eq_replicate_of_longestRun hquotes htwo
        exact longLiteral?_closing (k := k + 1) (by omega) hrest
      · rw [List.cons_append, longLiteral?_plain hplain fun _ => htwo,
          ih hcontrols hquotes]
        rfl
    · rw [longestRun, if_neg hquote] at hquotes
      rw [List.cons_append, longLiteral?_plain hplain fun h => absurd h hquote,
        ih hcontrols (Nat.le_trans (Nat.le_max_right _ _) hquotes)]
      rfl

/-! ## Kinds of strings -/

/-- A text can be written in a kind.  An empty one between single quotes would
be taken for the beginning of a string of several lines. -/
def Quoting.Holds (cs : List Char) : Quoting → Prop
  | .basic => True
  | .literal => cs ≠ [] ∧ IsLiteral cs
  | .longBasic => True
  | .longLiteral => (∀ c ∈ cs, isControl c = false) ∧ longestRun '\'' 0 cs ≤ 2

theorem not_mem_of_longestRun
    {quote : Char} (h : longestRun quote 0 cs = 0) :
    quote ∉ cs := by
  induction cs with
  | nil => exact List.not_mem_nil
  | cons c cs ih =>
    rw [longestRun] at h
    split at h
    · have hrun := le_longestRun quote (0 + 1) cs
      omega
    next hne =>
      rw [List.mem_cons, not_or]
      exact ⟨fun heq => hne heq.symm, ih (by omega)⟩

theorem isLiteral_of_not_control
    (hcontrol : ∀ c ∈ cs, isControl c = false) (hquote : '\'' ∉ cs)
    (hline : '\n' ∉ cs) :
    IsLiteral cs := by
  intro c hc
  refine ⟨isPlain_of_not_control (hcontrol c hc) ?_, ?_⟩
  · rintro rfl
    exact hline hc
  · rintro rfl
    exact hquote hc

/-- The kind that is chosen for a text can hold it. -/
theorem Quoting.ofValue_holds
    (cs : List Char) :
    (Quoting.ofValue cs).Holds cs := by
  rw [Quoting.ofValue]
  split
  · trivial
  next hbasic =>
  split
  next hliteral =>
    simp only [Bool.and_eq_true, Bool.not_eq_true', decide_eq_true_iff,
      List.any_eq_false, Bool.not_eq_true, List.contains_eq_mem,
      decide_eq_false_iff_not] at hliteral
    obtain ⟨⟨hcontrol, hsingles⟩, hline⟩ := hliteral
    refine ⟨?_,
      isLiteral_of_not_control hcontrol (not_mem_of_longestRun hsingles) hline⟩
    rintro rfl
    exact hbasic rfl
  split
  · trivial
  split
  next hlong =>
    simp only [Bool.and_eq_true, Bool.not_eq_true', decide_eq_true_iff,
      List.any_eq_false, Bool.not_eq_true] at hlong
    exact hlong
  split
  · trivial
  · trivial

/-! ## Strings of any kind -/

theorem dropNewline_cons
    (hline : c ≠ '\n') (hreturn : c ≠ '\r') (cs : List Char) :
    dropNewline (c :: cs) = c :: cs := by
  rw [dropNewline, newline?_cons hline hreturn]
  rfl

/-- Plain characters are not line ends. -/
theorem dropNewline_plain
    (hplain : isPlain c = true) (cs : List Char) :
    dropNewline (c :: cs) = c :: cs := by
  apply dropNewline_cons
  · rintro rfl
    exact absurd hplain (by decide)
  · rintro rfl
    exact absurd hplain (by decide)

theorem dropNewline_escapedAs
    (h : EscapedAs c cs) (rest : List Char) :
    dropNewline (cs ++ rest) = cs ++ rest := by
  cases h with
  | letter he => exact dropNewline_plain (by decide) _
  | digits hvalue => exact dropNewline_plain (by decide) _
  | plain hplain hquote hslash => exact dropNewline_plain hplain _

/-- The line end behind the opening quotes is all that is dropped there. -/
theorem dropNewline_leadingNewline
    (hcs : '\n' ∉ cs → dropNewline rest = rest) :
    dropNewline (leadingNewline cs ++ rest) = rest := by
  rw [leadingNewline]
  split
  · rfl
  next hline =>
    rw [List.contains_iff_mem] at hline
    exact hcs hline

theorem dropNewline_escapedInLines
    (hline : '\n' ∉ cs) (rest : List Char) :
    dropNewline (escapedInLines 0 cs ++ '"' :: rest) =
      escapedInLines 0 cs ++ '"' :: rest := by
  cases cs with
  | nil => exact dropNewline_plain (by decide) _
  | cons c cs =>
    have hfirst : c ≠ '\n' := by
      rintro rfl
      exact hline List.mem_cons_self
    by_cases hquote : c = '"'
    · subst hquote
      exact dropNewline_plain (by decide) _
    · rw [escapedInLines_cons hquote hfirst, List.append_assoc]
      exact dropNewline_escapedAs (escapedAs_escaped hquote hfirst) _

theorem dropNewline_of_not_control
    (hcontrol : ∀ c ∈ cs, isControl c = false) (hline : '\n' ∉ cs)
    (rest : List Char) :
    dropNewline (cs ++ '\'' :: rest) = cs ++ '\'' :: rest := by
  cases cs with
  | nil => exact dropNewline_plain (by decide) _
  | cons c cs =>
    have hfirst : c ≠ '\n' := by
      rintro rfl
      exact hline List.mem_cons_self
    exact dropNewline_plain
      (isPlain_of_not_control (hcontrol c List.mem_cons_self) hfirst) _

/-- The text does not begin with a quote, which would be taken for one of those
before it. -/
def EndsString (cs : List Char) : Prop :=
  cs.head? ≠ some '"' ∧ cs.head? ≠ some '\''

theorem string?_basic
    (hrest : rest.head? ≠ some '"') (cs : List Char) :
    string? ('"' :: (cs.flatMap escapedInLine ++ '"' :: rest)) =
      some (cs, rest) := by
  have hbasic := basic?_flatMap_escapedInLine cs rest
  rw [string?]
  · exact hbasic
  · intro after heq
    cases cs with
    | nil =>
      rw [List.flatMap_nil, List.nil_append] at heq
      rw [(List.cons.inj heq).2] at hrest
      exact hrest rfl
    | cons c cs =>
      rw [List.flatMap_cons, List.append_assoc] at heq
      exact head?_of_escapedAs (escapedAs_escapedInLine c) _
        (congrArg List.head? heq)

theorem string?_literal
    (hnil : cs ≠ []) (h : IsLiteral cs) (rest : List Char) :
    string? ('\'' :: (cs ++ '\'' :: rest)) = some (cs, rest) := by
  have hliteral := literal?_of_isLiteral h rest
  rw [string?]
  · exact hliteral
  · intro after heq
    cases cs with
    | nil => exact hnil rfl
    | cons c cs => exact (h c List.mem_cons_self).2 (List.cons.inj heq).1

/-- A string is read back from any kind that can hold it. -/
theorem string?_write
    {q : Quoting} (h : q.Holds cs) (hrest : EndsString rest) :
    string? (q.write cs ++ rest) = some (cs, rest) := by
  obtain ⟨hdouble, hsingle⟩ := hrest
  cases q with
  | basic =>
    simp only [Quoting.write, List.append_assoc, List.cons_append,
      List.nil_append]
    exact string?_basic hdouble cs
  | literal =>
    simp only [Quoting.write, List.append_assoc, List.cons_append,
      List.nil_append]
    exact string?_literal h.1 h.2 rest
  | longBasic =>
    simp only [Quoting.write, List.append_assoc, List.cons_append,
      List.nil_append]
    rw [string?,
      dropNewline_leadingNewline fun hline =>
        dropNewline_escapedInLines hline _]
    exact longBasic?_escapedInLines hdouble cs (by decide)
  | longLiteral =>
    simp only [Quoting.write, List.append_assoc, List.cons_append,
      List.nil_append]
    rw [string?,
      dropNewline_leadingNewline fun hline =>
        dropNewline_of_not_control h.1 hline _]
    exact longLiteral?_of_longestRun hsingle cs h.1 h.2

/-- Every text is read back from the string that is written for it. -/
theorem string?_stringChars
    (s : String) (hrest : EndsString rest) :
    string? (stringChars s ++ rest) = some (s.toList, rest) :=
  string?_write (Quoting.ofValue_holds s.toList) hrest

end Toml
end AgentFleet

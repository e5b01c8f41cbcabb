import AgentFleet.Json.Printer
import AgentFleet.Proofs.Numerals

/-!
# Reading written tokens

Every token that a record of this library is written with can be read back off
the front of a text.  A number is a run of characters, so it can be read back
only if what follows does not prolong the run.
-/

namespace AgentFleet
namespace Json

/-! ## Strings -/

/-- The characters below the space that have an escape of one letter. -/
def lettered : List Char :=
  ['\x08', '\x0c', '\n', '\r', '\t']

/-- The piece that a character of a string is read as. -/
def pieceOf (c : Char) : Piece :=
  if c < ' ' ∧ c ∉ lettered then .unit c.toNat else .char c

/-- A control character without a letter of its own is written as four digits.
-/
theorem paddedDigits_control
    {n : Nat} (hn : n < 32) :
    Text.paddedDigits 16 4 n =
      ['0', '0', Nat.digitChar (n / 16), Nat.digitChar (n % 16)] ∧
    Text.hexQuad? '0' '0' (Nat.digitChar (n / 16)) (Nat.digitChar (n % 16)) =
      some n := by
  have hall :
      ∀ n : Fin 32,
        Text.paddedDigits 16 4 n =
          ['0', '0', Nat.digitChar (n / 16), Nat.digitChar (n % 16)] ∧
        Text.hexQuad? '0' '0' (Nat.digitChar (n / 16))
            (Nat.digitChar (n % 16)) =
          some n.val := by
    decide
  exact hall ⟨n, hn⟩

theorem pieces?_letter
    {e c : Char} (he : unescape? e = some c) (hu : e ≠ 'u') (cs : List Char) :
    pieces? ('\\' :: e :: cs) =
      (pieces? cs).map fun p => (.char c :: p.1, p.2) := by
  rw [pieces?]
  · simp only [he]
    cases pieces? cs <;> rfl
  · intro a b c d rest hcs
    exact absurd hcs hu

theorem pieces?_unit
    {a b c d : Char} {n : Nat} (hn : Text.hexQuad? a b c d = some n)
    (cs : List Char) :
    pieces? ('\\' :: 'u' :: a :: b :: c :: d :: cs) =
      (pieces? cs).map fun p => (.unit n :: p.1, p.2) := by
  rw [pieces?]
  simp only [hn]
  cases pieces? cs <;> rfl

theorem pieces?_plain
    {c : Char} (hquote : c ≠ '"') (hslash : c ≠ '\\') (hlow : ¬ c < ' ')
    (cs : List Char) :
    pieces? (c :: cs) = (pieces? cs).map fun p => (.char c :: p.1, p.2) := by
  rw [pieces?]
  · rw [if_pos ⟨Char.not_lt.mp hlow, hslash⟩]
    cases pieces? cs <;> rfl
  · exact hquote
  · intro a b c d rest hcs
    exact absurd hcs hslash
  · intro e rest hcs
    exact absurd hcs hslash

theorem pieces?_escaped
    (c : Char) (cs : List Char) :
    pieces? (escaped c ++ cs) =
      (pieces? cs).map fun p => (pieceOf c :: p.1, p.2) := by
  by_cases hquote : c = '"'
  · subst hquote
    exact pieces?_letter (e := '"') (by decide) (by decide) cs
  by_cases hslash : c = '\\'
  · subst hslash
    exact pieces?_letter (e := '\\') (by decide) (by decide) cs
  by_cases hletter : c ∈ lettered
  · rw [pieceOf, if_neg fun h => h.2 hletter]
    simp only [lettered, List.mem_cons, List.not_mem_nil, or_false] at hletter
    rcases hletter with rfl | rfl | rfl | rfl | rfl
    · exact pieces?_letter (e := 'b') (by decide) (by decide) cs
    · exact pieces?_letter (e := 'f') (by decide) (by decide) cs
    · exact pieces?_letter (e := 'n') (by decide) (by decide) cs
    · exact pieces?_letter (e := 'r') (by decide) (by decide) cs
    · exact pieces?_letter (e := 't') (by decide) (by decide) cs
  obtain ⟨hb, hf, hn, hr, ht⟩ :
      c ≠ '\x08' ∧ c ≠ '\x0c' ∧ c ≠ '\n' ∧ c ≠ '\r' ∧ c ≠ '\t' := by
    simpa [lettered] using hletter
  simp only [escaped, hquote, hslash, hb, hf, hn, hr, ht, ↓reduceIte]
  by_cases hlow : c < ' '
  · obtain ⟨hdigits, hvalue⟩ := paddedDigits_control (n := c.toNat) hlow
    rw [if_pos hlow, pieceOf, if_pos ⟨hlow, hletter⟩, hdigits]
    exact pieces?_unit hvalue cs
  · rw [if_neg hlow, pieceOf, if_neg fun h => hlow h.1]
    exact pieces?_plain hquote hslash hlow cs

theorem pieces?_flatMap_escaped
    (cs rest : List Char) :
    pieces? (cs.flatMap escaped ++ '"' :: rest) =
      some (cs.map pieceOf, rest) := by
  induction cs with
  | nil => rfl
  | cons c cs ih =>
    rw [List.flatMap_cons, List.append_assoc, pieces?_escaped, ih]
    rfl

theorem joinPieces?_unit
    {n : Nat} (hn : n < 0xD800) (ps : List Piece) :
    joinPieces? (.unit n :: ps) = (joinPieces? ps).map (Char.ofNat n :: ·) := by
  have hhigh : isHighHalf n = false := by
    rw [isHighHalf, Bool.and_eq_false_iff]
    exact Or.inl (decide_eq_false (by omega))
  have hlow : isLowHalf n = false := by
    rw [isLowHalf, Bool.and_eq_false_iff]
    exact Or.inl (decide_eq_false (by omega))
  cases ps with
  | nil => simp [joinPieces?, hhigh, hlow]
  | cons p ps =>
    cases p with
    | char c => simp [joinPieces?, hhigh, hlow]
    | unit m => simp [joinPieces?, hhigh, hlow]

theorem joinPieces?_map_pieceOf
    (cs : List Char) :
    joinPieces? (cs.map pieceOf) = some cs := by
  induction cs with
  | nil => rfl
  | cons c cs ih =>
    rw [List.map_cons]
    by_cases hc : c < ' ' ∧ c ∉ lettered
    · have hsmall : c.toNat < 32 := hc.1
      rw [pieceOf, if_pos hc, joinPieces?_unit (by omega), ih, Option.map_some,
        Char.ofNat_toNat]
    · rw [pieceOf, if_neg hc, joinPieces?, ih, Option.map_some]

/-- A written string is read back from behind its opening quote. -/
theorem textOf_pieces
    (s : String) :
    textOf (s.toList.map pieceOf) = some s := by
  rw [textOf, joinPieces?_map_pieceOf, Option.map_some, String.ofList_toList]

/-! ## Numbers -/

theorem isDigit_of_mem_toDigits
    {n : Nat} {c : Char} (hc : c ∈ Nat.toDigits 10 n) :
    Text.isDigit c = true := by
  obtain ⟨d, hd, rfl⟩ := Text.exists_digit_of_mem_toDigits (by decide) hc
  have hall : ∀ d : Fin 10, Text.isDigit (Nat.digitChar d) = true := by decide
  exact hall ⟨d, hd⟩

theorem isNumberChar_of_mem_toDigits
    {n : Nat} {c : Char} (hc : c ∈ Nat.toDigits 10 n) :
    isNumberChar c = true := by
  simp [isNumberChar, isDigit_of_mem_toDigits hc]

theorem head?_toDigits
    {n : Nat} (hn : n ≠ 0) :
    (Nat.toDigits 10 n).head? ≠ some '0' := by
  induction n using Nat.strongRecOn with
  | _ n ih =>
    rw [Nat.toDigits_eq_if (by decide)]
    split
    next hlt =>
      have hall : ∀ d : Fin 10, d.val ≠ 0 → Nat.digitChar d ≠ '0' := by decide
      simpa using hall ⟨n, hlt⟩ hn
    next hge =>
      rw [List.head?_append,
        Option.or_of_isSome (by simp [Nat.toDigits_ne_nil])]
      exact ih (n / 10) (by omega) (by omega)

theorem isWhole_toDigits (n : Nat) : isWhole (Nat.toDigits 10 n) = true := by
  have hdigits : isDigits (Nat.toDigits 10 n) = true := by
    rw [isDigits, Bool.and_eq_true, Bool.not_eq_true',
      List.isEmpty_eq_false_iff]
    exact ⟨Nat.toDigits_ne_nil,
      List.all_eq_true.mpr fun c hc => isDigit_of_mem_toDigits hc⟩
  rw [isWhole, hdigits, Bool.true_and, Bool.or_eq_true]
  by_cases hn : n = 0
  · subst hn
    exact Or.inl (by decide)
  · exact Or.inr (bne_iff_ne.mpr (head?_toDigits hn))

theorem number?_toDigits
    (n : Nat) :
    number? (Nat.toDigits 10 n) = some (.natural n) := by
  rw [number?]
  · rw [if_pos (isWhole_toDigits n), Nat.ofDigitChars_ten_toDigits]
  · intro rest hcs
    have hminus : '-' ∈ Nat.toDigits 10 n := by
      rw [hcs]; exact List.mem_cons_self
    exact absurd (isDigit_of_mem_toDigits hminus) (by decide)

/-! ## Tokens -/

/-- The text does not prolong a number in front of it. -/
def EndsNumber (cs : List Char) : Prop :=
  ∀ c, cs.head? = some c → isNumberChar c = false

theorem next?_number
    {c : Char} (hc : isNumberChar c = true) (cs : List Char) :
    Token.next? (c :: cs) =
      (number? ((c :: cs).takeWhile isNumberChar)).map fun n =>
        (.number n, (c :: cs).dropWhile isNumberChar) := by
  unfold Token.next?
  split
  all_goals first
    | rfl
    | (next heq => exact absurd hc (by rw [(List.cons.inj heq).1]; decide))

/-- Read one token, behind white space if there is none. -/
theorem list?_cons
    {c : Char} {cs rest : List Char} {t : Token} (hc : isSpace c = false)
    (h : Token.next? (c :: cs) = some (t, rest)) :
    Token.list? (c :: cs) = (Token.list? rest).map (t :: ·) := by
  rw [Token.list?, if_neg (by simp [hc])]
  split
  next hnone => exact absurd (hnone.symm.trans h) (Option.some_ne_none _).symm
  next t' after hsome =>
    obtain ⟨rfl, rfl⟩ := Prod.mk.inj (Option.some.inj (hsome.symm.trans h))
    rfl

/-- The characters in front of the rest are cut into the tokens. -/
def IsCut (cs : List Char) (ts : List Token) (rest : List Char) : Prop :=
  Token.list? (cs ++ rest) = (Token.list? rest).map (ts ++ ·)

theorem IsCut.append
    {cs ds rest : List Char} {ts us : List Token}
    (hcs : IsCut cs ts (ds ++ rest)) (hds : IsCut ds us rest) :
    IsCut (cs ++ ds) (ts ++ us) rest := by
  rw [IsCut, List.append_assoc, hcs, hds, Option.map_map]
  congr 1
  funext vs
  exact (List.append_assoc ts us vs).symm

/-- A run of number characters is one token if it stands for a number. -/
theorem isCut_of_number?
    {n : Number} {cs : List Char} (hchars : ∀ c ∈ cs, isNumberChar c = true)
    (hn : number? cs = some n) {rest : List Char} (hrest : EndsNumber rest) :
    IsCut cs [.number n] rest := by
  cases cs with
  | nil => cases hn
  | cons c cs =>
    have hc : isNumberChar c = true := hchars c List.mem_cons_self
    have hspace : isSpace c = false := by
      rw [← Bool.not_eq_true]
      intro hspace
      simp only [isSpace, Bool.or_eq_true, beq_iff_eq] at hspace
      rcases hspace with ((rfl | rfl) | rfl) | rfl <;>
        exact absurd hc (by decide)
    have hnext := next?_number hc (cs ++ rest)
    rw [← List.cons_append, Text.takeWhile_run hchars hrest,
      Text.dropWhile_run hchars hrest, hn] at hnext
    exact list?_cons hspace hnext

theorem list?_number
    (n : Nat) {rest : List Char} (hrest : EndsNumber rest) :
    Token.list? ((Token.number (.natural n)).chars ++ rest) =
      (Token.list? rest).map (.number (.natural n) :: ·) :=
  isCut_of_number? (fun _ hc => isNumberChar_of_mem_toDigits hc)
    (number?_toDigits n) hrest

theorem list?_string
    (s : String) (rest : List Char) :
    Token.list? ((Token.string (some s)).chars ++ rest) =
      (Token.list? rest).map (.string (some s) :: ·) := by
  have hchars : (Token.string (some s)).chars ++ rest =
      '"' :: (s.toList.flatMap escaped ++ '"' :: rest) := by
    change ('"' :: s.toList.flatMap escaped ++ ['"']) ++ rest = _
    simp only [List.cons_append, List.append_assoc, List.nil_append]
  rw [hchars]
  apply list?_cons (by decide)
  rw [Token.next?, pieces?_flatMap_escaped, Option.map_some, textOf_pieces]

end Json
end AgentFleet

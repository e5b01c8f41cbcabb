import AgentFleet.Text.Basic

/-!
# Numerals

A numeral, padded or not, tells the number it was made from.  It has no
character that is not a digit, so a mark in front of it can be found again.
-/

namespace AgentFleet
namespace Text

/-! ## Runs of characters -/

section

variable {p : Char → Bool} {cs rest : List Char}

/-- A run of characters ends where the next character is none of them. -/
theorem takeWhile_run
    (hrun : ∀ c ∈ cs, p c = true)
    (hrest : ∀ c, rest.head? = some c → p c = false) :
    (cs ++ rest).takeWhile p = cs := by
  rw [List.takeWhile_append_of_pos hrun]
  cases rest with
  | nil => exact List.append_nil cs
  | cons c rest =>
    rw [List.takeWhile_cons_of_neg (by simp [hrest c rfl]), List.append_nil]

theorem dropWhile_run
    (hrun : ∀ c ∈ cs, p c = true)
    (hrest : ∀ c, rest.head? = some c → p c = false) :
    (cs ++ rest).dropWhile p = rest := by
  rw [List.dropWhile_append_of_pos hrun]
  cases rest with
  | nil => rfl
  | cons c rest => rw [List.dropWhile_cons_of_neg (by simp [hrest c rfl])]

end

/-! ## Numerals -/

/-- The number that digits stand for, where every other character counts as
zero. -/
def valueOf (base : Nat) (cs : List Char) : Nat :=
  cs.foldl (fun n c => base * n + (hexDigit? c).getD 0) 0

theorem valueOf_append_singleton
    (base : Nat) (cs : List Char) (c : Char) :
    valueOf base (cs ++ [c]) =
      base * valueOf base cs + (hexDigit? c).getD 0 := by
  simp [valueOf]

theorem hexDigit?_digitChar
    {d : Nat} (hd : d < 16) :
    hexDigit? (Nat.digitChar d) = some d := by
  have hall : ∀ d : Fin 16, hexDigit? (Nat.digitChar d) = some d.val := by
    decide
  exact hall ⟨d, hd⟩

theorem valueOf_toDigits
    {base : Nat} (hlow : 1 < base) (hhigh : base ≤ 16) (n : Nat) :
    valueOf base (Nat.toDigits base n) = n := by
  induction n using Nat.strongRecOn with
  | _ n ih =>
    rw [Nat.toDigits_eq_if hlow]
    split
    next hn =>
      have hdigit := hexDigit?_digitChar (Nat.lt_of_lt_of_le hn hhigh)
      simp [valueOf, hdigit]
    next hn =>
      have hmod : n % base < 16 :=
        Nat.lt_of_lt_of_le (Nat.mod_lt n (by omega)) hhigh
      have hdiv : n / base < n := Nat.div_lt_self (by omega) hlow
      rw [valueOf_append_singleton, ih _ hdiv, hexDigit?_digitChar hmod,
        Option.getD_some, Nat.div_add_mod]

theorem valueOf_paddedDigits
    {base : Nat} (hlow : 1 < base) (hhigh : base ≤ 16) (width n : Nat) :
    valueOf base (paddedDigits base width n) = n := by
  have hzero : (hexDigit? '0').getD 0 = 0 := by decide
  have hzeros : ∀ k, (List.replicate k '0').foldl
      (fun n c => base * n + (hexDigit? c).getD 0) 0 = 0 := by
    intro k
    induction k with
    | zero => rfl
    | succ k ih => simp [List.replicate_succ, hzero, ih]
  rw [paddedDigits, valueOf, List.foldl_append, hzeros]
  exact valueOf_toDigits hlow hhigh n

theorem exists_digit_of_mem_toDigits
    {base : Nat} (hlow : 1 < base) {n : Nat} {c : Char}
    (hc : c ∈ Nat.toDigits base n) :
    ∃ d < base, c = Nat.digitChar d := by
  induction n using Nat.strongRecOn with
  | _ n ih =>
    rw [Nat.toDigits_eq_if hlow] at hc
    split at hc
    next hn => exact ⟨n, hn, by simpa using hc⟩
    next hn =>
      rcases List.mem_append.mp hc with hc | hc
      · exact ih _ (Nat.div_lt_self (by omega) hlow) hc
      · exact ⟨n % base, Nat.mod_lt n (by omega), by simpa using hc⟩

/-- No character of a numeral is a mark of punctuation. -/
theorem not_mem_paddedDigits
    {base : Nat} (hlow : 1 < base) (hhigh : base ≤ 16) {c : Char}
    (hc : hexDigit? c = none) (width n : Nat) :
    c ∉ paddedDigits base width n := by
  intro hmem
  rcases List.mem_append.mp hmem with hmem | hmem
  · rw [List.eq_of_mem_replicate hmem] at hc
    exact absurd hc (by decide)
  · obtain ⟨d, hd, rfl⟩ := exists_digit_of_mem_toDigits hlow hmem
    rw [hexDigit?_digitChar (Nat.lt_of_lt_of_le hd hhigh)] at hc
    exact absurd hc (Option.some_ne_none d)

/-- A mark that does not come later divides a list in one way only. -/
theorem append_cons_inj
    {α : Type} {mark : α} {xs ys us vs : List α} (hys : mark ∉ ys)
    (hvs : mark ∉ vs) (h : xs ++ mark :: ys = us ++ mark :: vs) :
    xs = us ∧ ys = vs := by
  rcases List.append_eq_append_iff.mp h with ⟨as, rfl, has⟩ | ⟨as, rfl, has⟩
  · cases as with
    | nil => exact ⟨by simp, by simpa using has⟩
    | cons a as =>
      obtain ⟨-, rfl⟩ := List.cons.inj has
      exact absurd (by simp) hys
  · cases as with
    | nil => exact ⟨by simp, by simpa using has.symm⟩
    | cons a as =>
      obtain ⟨-, rfl⟩ := List.cons.inj has
      exact absurd (by simp) hvs

/-- What ends with a mark and a numeral tells the number, and what stands in
front. -/
theorem append_numeral_inj
    {base : Nat} (hlow : 1 < base) (hhigh : base ≤ 16) {mark : Char}
    (hmark : hexDigit? mark = none) {width n n' : Nat} {cs cs' : List Char}
    (h : cs ++ mark :: paddedDigits base width n =
        cs' ++ mark :: paddedDigits base width n') :
    cs = cs' ∧ n = n' := by
  obtain ⟨hfront, hdigits⟩ :=
    append_cons_inj (not_mem_paddedDigits hlow hhigh hmark width n)
      (not_mem_paddedDigits hlow hhigh hmark width n') h
  have hvalue := congrArg (valueOf base) hdigits
  rw [valueOf_paddedDigits hlow hhigh, valueOf_paddedDigits hlow hhigh]
    at hvalue
  exact ⟨hfront, hvalue⟩

end Text

end AgentFleet

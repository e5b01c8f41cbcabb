/-!
# Texts

What is read into texts in more than one place: the blanks at their ends, the
case of their letters, and the numerals in them.
-/

namespace AgentFleet
namespace Text

/-! ## Blank characters and trimming

A character is blank when it has the `White_Space` property: the ASCII controls
from tab to carriage return, the space, and the separators beyond ASCII.
Trimming removes blanks from both ends of a text and from nowhere else;
zero-width characters are not blank.
-/

/-- The `White_Space` property. -/
def isBlank (c : Char) : Bool :=
  let n := c.toNat
  (0x09 ≤ n && n ≤ 0x0D) || n == 0x20 || n == 0x85 || n == 0xA0 ||
    n == 0x1680 || (0x2000 ≤ n && n ≤ 0x200A) || n == 0x2028 || n == 0x2029 ||
    n == 0x202F || n == 0x205F || n == 0x3000

/-- Remove the blanks at both ends of a list of characters. -/
def trimChars (cs : List Char) : List Char :=
  ((cs.dropWhile isBlank).reverse.dropWhile isBlank).reverse

/-- Remove the blanks at both ends of a text. -/
def trim (s : String) : String :=
  String.ofList (trimChars s.toList)

/-- Nothing is left of the text once it is trimmed. -/
def isBlankText (s : String) : Bool :=
  s.toList.all isBlank

/-! ## Comparison up to ASCII case

Two texts agree up to case when they are equal after every ASCII letter is
lowered.  Letters beyond ASCII are compared as they are.
-/

/-- Lower the ASCII letters of a text. -/
def foldCase (s : String) : List Char :=
  s.toList.map Char.toLower

/-- Equality up to the case of ASCII letters. -/
def sameCaseless (a b : String) : Bool :=
  foldCase a == foldCase b

@[simp]
theorem sameCaseless_iff
    {a b : String} :
    sameCaseless a b = true ↔ foldCase a = foldCase b := by
  simp [sameCaseless]

/-! ## Numerals

Numbers are written in decimal without leading zeros, or in lower-case
hexadecimal, either padded with zeros on the left to a fixed width.  A numeral
wider than the width is written in full.
-/

/-- The decimal numeral of a number. -/
def decimal (n : Nat) : String :=
  String.ofList (Nat.toDigits 10 n)

/-- The digits of `n` to `base`, with zeros on the left up to `width` of them.
-/
def paddedDigits (base width n : Nat) : List Char :=
  List.replicate (width - (Nat.toDigits base n).length) '0' ++
    Nat.toDigits base n

/-- The decimal numeral of a number, at least `width` digits wide. -/
def decimalPadded (width n : Nat) : String :=
  String.ofList (paddedDigits 10 width n)

/-- The lower-case hexadecimal numeral of a number, at least `width` digits
wide. -/
def hexPadded (width n : Nat) : String :=
  String.ofList (paddedDigits 16 width n)

/-- The value of a hexadecimal digit in either case. -/
def hexDigit? (c : Char) : Option Nat :=
  if '0' ≤ c ∧ c ≤ '9' then some (c.toNat - '0'.toNat)
  else if 'a' ≤ c ∧ c ≤ 'f' then some (c.toNat - 'a'.toNat + 10)
  else if 'A' ≤ c ∧ c ≤ 'F' then some (c.toNat - 'A'.toNat + 10)
  else none

/-- The number that four hexadecimal digits stand for. -/
def hexQuad? (a b c d : Char) : Option Nat := do
  let high := 16 * (← hexDigit? a) + (← hexDigit? b)
  return 256 * high + 16 * (← hexDigit? c) + (← hexDigit? d)

/-- A decimal digit. -/
def isDigit (c : Char) : Bool :=
  '0' ≤ c && c ≤ '9'

end Text
end AgentFleet

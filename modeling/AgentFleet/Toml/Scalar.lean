import AgentFleet.Toml.Basic
import AgentFleet.Toml.Moment

/-!
# Numbers, truth values and moments

A value that is neither a string nor a collection is a run of letters, digits
and a few signs.  Digits may be grouped by single underscores between them.
Integers have 64 bits; a floating-point number may not be so large that it
rounds to infinity.
-/

namespace AgentFleet
namespace Toml

/-- Digits with single underscores between them, without the underscores. -/
def grouped? (isDigit : Char → Bool) : List Char → Option (List Char)
  | [] => none
  | [c] => if isDigit c then some [c] else none
  | c :: '_' :: d :: rest =>
    if isDigit c then (grouped? isDigit (d :: rest)).map (c :: ·) else none
  | c :: d :: rest =>
    if isDigit c then (grouped? isDigit (d :: rest)).map (c :: ·) else none

/-- The value of digits to a base. -/
def valueOf (base : Nat) (cs : List Char) : Nat :=
  cs.foldl (fun n c => base * n + (Text.hexDigit? c).getD 0) 0

/-- Digits to a base up to sixteen. -/
def isDigitOf (base : Nat) (c : Char) : Bool :=
  match Text.hexDigit? c with
  | some n => n < base
  | none => false

/-- Digits of a decimal integer: no leading zero but zero itself. -/
def decimal? (cs : List Char) : Option (List Char) := do
  let ds ← grouped? Text.isDigit cs
  guard (ds.length = 1 || ds.head? != some '0')
  return ds

/-- A sign and what follows it; the sign may be missing. -/
def signed (cs : List Char) : Bool × List Char :=
  match cs with
  | '-' :: rest => (true, rest)
  | '+' :: rest => (false, rest)
  | rest => (false, rest)

/-- The integer, if it is not too large. -/
def bounded? (i : Int) : Option Int :=
  if -(integerBound : Int) ≤ i ∧ i < integerBound then some i else none

/-- Read a whole text as an integer. -/
def integer? (cs : List Char) : Option Int :=
  match cs with
  | '0' :: 'x' :: rest =>
    (grouped? (isDigitOf 16) rest).bind fun ds => bounded? (valueOf 16 ds)
  | '0' :: 'o' :: rest =>
    (grouped? (isDigitOf 8) rest).bind fun ds => bounded? (valueOf 8 ds)
  | '0' :: 'b' :: rest =>
    (grouped? (isDigitOf 2) rest).bind fun ds => bounded? (valueOf 2 ds)
  | _ => do
    let (negative, rest) := signed cs
    let n := valueOf 10 (← decimal? rest)
    bounded? (if negative then -(n : Int) else n)

/-- The least number that rounds to infinity. -/
def overflowBound : Nat :=
  Nat.pow 2 1024 - Nat.pow 2 970

/-- Whether `mantissa · 10 ^ exponent` rounds to infinity. -/
def overflows (mantissa : Nat) (exponent : Int) : Bool :=
  if mantissa = 0 then false
  else
    let digits : Int := (Nat.toDigits 10 mantissa).length
    if digits + exponent > 310 then true
    else if digits + exponent < 300 then false
    else if 0 ≤ exponent then
      overflowBound ≤ mantissa * Nat.pow 10 exponent.toNat
    else overflowBound * Nat.pow 10 (-exponent).toNat ≤ mantissa

/-- An exponent behind its mark, or nothing. -/
def exponent? : List Char → Option Int
  | [] => some 0
  | mark :: rest => do
    guard (mark == 'e' || mark == 'E')
    let (negative, digits) := signed rest
    let n := valueOf 10 (← grouped? Text.isDigit digits)
    return if negative then -(n : Int) else n

/-- The text is that of a floating-point number. -/
def isFloat (cs : List Char) : Bool :=
  let (negative, rest) := signed cs
  if rest = "inf".toList ∨ rest = "nan".toList then true
  else
    let wholePart := rest.takeWhile fun c => !(c == '.' || c == 'e' || c == 'E')
    let tail := rest.dropWhile fun c => !(c == '.' || c == 'e' || c == 'E')
    let parts : Option (List Char × Int × List Char) := do
      let ds ← decimal? wholePart
      match tail with
      | '.' :: more =>
        let part ←
          grouped? Text.isDigit
            (more.takeWhile fun c => !(c == 'e' || c == 'E'))
        let e ← exponent? (more.dropWhile fun c => !(c == 'e' || c == 'E'))
        return (ds, e, part)
      | [] => none
      | _ => return (ds, ← exponent? tail, [])
    match parts with
    | none => false
    | some (ds, e, part) =>
      negative || !overflows (valueOf 10 (ds ++ part)) (e - (part.length : Int))

/-- A character of numbers, truth values and moments. -/
def isScalarChar (c : Char) : Bool :=
  c.isAlphanum || c == '_' || c == '+' || c == '-' || c == '.' || c == ':'

/-- The value that a run of such characters stands for. -/
def scalarOf? (cs : List Char) : Option Toml :=
  if cs = "true".toList then some (.boolean true)
  else if cs = "false".toList then some (.boolean false)
  else if let some text := moment? cs then some (.moment (String.ofList text))
  else if let some i := integer? cs then some (.integer i)
  else if isFloat cs then some (.float (String.ofList cs))
  else none

/-- The run of characters of a value, and what follows it.  A date takes a time
behind one space with it. -/
def run (cs : List Char) : List Char × List Char :=
  let first := cs.takeWhile isScalarChar
  let rest := cs.dropWhile isScalarChar
  match date? first, rest with
  | some (_, []), ' ' :: c :: more =>
    if Text.isDigit c then
      (first ++ 'T' :: (c :: more).takeWhile isScalarChar,
        (c :: more).dropWhile isScalarChar)
    else (first, rest)
  | _, _ => (first, rest)

/-- Read a value that is neither a string nor a collection. -/
def plain? (cs : List Char) : Option (Toml × List Char) :=
  let (word, rest) := run cs
  (scalarOf? word).map fun v => (v, rest)

end Toml
end AgentFleet

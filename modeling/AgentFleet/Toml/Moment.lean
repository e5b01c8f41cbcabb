import AgentFleet.Text.Basic

/-!
# Dates and times

A moment is a date, a time of day, or both with an optional offset from
universal time.  Its normal text joins date and time by `T`, writes universal
time as `Z`, and gives the fraction of a second to nine digits without trailing
zeros.
-/

namespace AgentFleet
namespace Toml

/-- The number of days of a month. -/
def daysIn (year month : Nat) : Nat :=
  if month = 2 then
    (if year % 4 = 0 ∧ (year % 100 ≠ 0 ∨ year % 400 = 0) then 29 else 28)
  else if month ∈ [4, 6, 9, 11] then 30
  else 31

/-- Read the number of a whole piece of digits. -/
def digits? (cs : List Char) : Option Nat :=
  if cs.all Text.isDigit && !cs.isEmpty then some (Nat.ofDigitChars 10 cs 0)
  else none

/-- Read a date `YYYY-MM-DD`: its normal text and what follows. -/
def date? : List Char → Option (List Char × List Char)
  | a :: b :: c :: d :: '-' :: e :: f :: '-' :: g :: h :: rest => do
    let year ← digits? [a, b, c, d]
    let month ← digits? [e, f]
    let day ← digits? [g, h]
    guard (1 ≤ month && month ≤ 12 && 1 ≤ day && day ≤ daysIn year month)
    return ([a, b, c, d, '-', e, f, '-', g, h], rest)
  | _ => none

/-- The normal text of a fraction of a second. -/
def fraction (cs : List Char) : List Char :=
  let kept := ((cs.take 9).reverse.dropWhile (· == '0')).reverse
  if kept.isEmpty then [] else '.' :: kept

/-- Read a time of day `hh:mm:ss` with an optional fraction: its normal text and
what follows. -/
def time? : List Char → Option (List Char × List Char)
  | a :: b :: ':' :: c :: d :: ':' :: e :: f :: rest => do
    let hour ← digits? [a, b]
    let minute ← digits? [c, d]
    let second ← digits? [e, f]
    guard (hour ≤ 23 && minute ≤ 59 && second ≤ 60)
    match rest with
    | '.' :: more =>
      let part := more.takeWhile Text.isDigit
      guard (!part.isEmpty)
      return ([a, b, ':', c, d, ':', e, f] ++ fraction part,
        more.dropWhile Text.isDigit)
    | _ => return ([a, b, ':', c, d, ':', e, f], rest)
  | _ => none

/-- Read an offset from universal time: its normal text. -/
def offset? : List Char → Option (List Char)
  | [] => some []
  | ['Z'] => some ['Z']
  | ['z'] => some ['Z']
  | [sign, a, b, ':', c, d] => do
    guard (sign == '+' || sign == '-')
    let hour ← digits? [a, b]
    let minute ← digits? [c, d]
    guard (hour ≤ 23 && minute ≤ 59)
    return [if hour = 0 && minute = 0 then '+' else sign, a, b, ':', c, d]
  | _ => none

/-- Read a whole text as a moment: its normal text. -/
def moment? (cs : List Char) : Option (List Char) :=
  match date? cs with
  | some (day, []) => some day
  | some (day, sep :: rest) => do
    guard (sep == 'T' || sep == 't')
    let (time, tail) ← time? rest
    return day ++ 'T' :: time ++ (← offset? tail)
  | none => do
    let (time, tail) ← time? cs
    guard tail.isEmpty
    return time

end Toml
end AgentFleet

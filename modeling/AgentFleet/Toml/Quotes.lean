import AgentFleet.Text.Basic

/-!
# Reading TOML strings

There are four kinds of strings: basic ones between double quotes, with escapes,
and literal ones between single quotes, each on one line or between triple
quotes on several.  Every function here reads from behind the opening quotes and
returns the characters of the string and what follows the closing quotes.
-/

namespace AgentFleet
namespace Toml

/-- White space within a line. -/
def isSpace (c : Char) : Bool :=
  c == ' ' || c == '\t'

/-- A character that may stand in a comment, and in a literal string but for the
quote. -/
def isPlain (c : Char) : Bool :=
  c == '\t' || (' ' ≤ c && c ≠ '\x7f')

/-- The text behind a line end, if it starts with one. -/
def newline? : List Char → Option (List Char)
  | '\n' :: rest => some rest
  | '\r' :: '\n' :: rest => some rest
  | _ => none

/-- The character a one-letter escape stands for. -/
def unescape? : Char → Option Char
  | 'b' => some '\x08'
  | 't' => some '\t'
  | 'n' => some '\n'
  | 'f' => some '\x0c'
  | 'r' => some '\r'
  | '"' => some '"'
  | '\\' => some '\\'
  | _ => none

/-- The character with a given code point. -/
def scalar? (n : Nat) : Option Char :=
  if n.isValidChar then some (Char.ofNat n) else none

/-- The character that four hexadecimal digits stand for. -/
def shortEscape? (a b c d : Char) : Option Char :=
  Text.hexQuad? a b c d >>= scalar?

/-- The character that eight hexadecimal digits stand for. -/
def longEscape? (a b c d e f g h : Char) : Option Char := do
  scalar? (65536 * (← Text.hexQuad? a b c d) + (← Text.hexQuad? e f g h))

/-- A basic string on one line. -/
def basic? : List Char → Option (List Char × List Char)
  | '"' :: rest => some ([], rest)
  | '\\' :: 'u' :: a :: b :: c :: d :: rest => do
    let x ← shortEscape? a b c d
    let (s, after) ← basic? rest
    return (x :: s, after)
  | '\\' :: 'U' :: a :: b :: c :: d :: e :: f :: g :: h :: rest => do
    let x ← longEscape? a b c d e f g h
    let (s, after) ← basic? rest
    return (x :: s, after)
  | '\\' :: e :: rest => do
    let x ← unescape? e
    let (s, after) ← basic? rest
    return (x :: s, after)
  | c :: rest => do
    guard (isPlain c && c != '\\')
    let (s, after) ← basic? rest
    return (c :: s, after)
  | [] => none

/-- A literal string on one line. -/
def literal? : List Char → Option (List Char × List Char)
  | '\'' :: rest => some ([], rest)
  | c :: rest => do
    guard (isPlain c)
    let (s, after) ← literal? rest
    return (c :: s, after)
  | [] => none

/-- The end of a string of several lines, behind three quotes: up to two more
quotes belong to the string, and more than that are an error. -/
def closing? (quote : Char) (cs : List Char) : Option (List Char × List Char) :=
  let extra := cs.takeWhile (· == quote)
  if extra.length ≤ 2 then some (extra, cs.dropWhile (· == quote)) else none

/-- The text starts with a line end once spaces are dropped. -/
def endsLine (cs : List Char) : Bool :=
  (newline? (cs.dropWhile isSpace)).isSome

/-- A basic string of several lines.  A backslash at the end of a line removes
the line end and all white space that follows it; `elide` tells that this is
going on. -/
def longBasic? (elide : Bool) : List Char → Option (List Char × List Char)
  | '"' :: '"' :: '"' :: rest => closing? '"' rest
  | '\r' :: '\n' :: rest => do
    let (s, after) ← longBasic? elide rest
    return (if elide then s else '\n' :: s, after)
  | '\n' :: rest => do
    let (s, after) ← longBasic? elide rest
    return (if elide then s else '\n' :: s, after)
  | '\\' :: 'u' :: a :: b :: c :: d :: rest => do
    let x ← shortEscape? a b c d
    let (s, after) ← longBasic? false rest
    return (x :: s, after)
  | '\\' :: 'U' :: a :: b :: c :: d :: e :: f :: g :: h :: rest => do
    let x ← longEscape? a b c d e f g h
    let (s, after) ← longBasic? false rest
    return (x :: s, after)
  | '\\' :: e :: rest =>
    if endsLine (e :: rest) then longBasic? true (e :: rest)
    else do
      let x ← unescape? e
      let (s, after) ← longBasic? false rest
      return (x :: s, after)
  | c :: rest =>
    if elide && isSpace c then longBasic? true rest
    else do
      guard (isPlain c && c != '\\')
      let (s, after) ← longBasic? false rest
      return (c :: s, after)
  | [] => none

/-- A literal string of several lines. -/
def longLiteral? : List Char → Option (List Char × List Char)
  | '\'' :: '\'' :: '\'' :: rest => closing? '\'' rest
  | '\r' :: '\n' :: rest => do
    let (s, after) ← longLiteral? rest
    return ('\n' :: s, after)
  | '\n' :: rest => do
    let (s, after) ← longLiteral? rest
    return ('\n' :: s, after)
  | c :: rest => do
    guard (isPlain c)
    let (s, after) ← longLiteral? rest
    return (c :: s, after)
  | [] => none

/-- Drop a line end right behind the opening triple quotes. -/
def dropNewline (cs : List Char) : List Char :=
  (newline? cs).getD cs

/-- Read a string of any kind, from its first quote. -/
def string? : List Char → Option (List Char × List Char)
  | '"' :: '"' :: '"' :: rest => longBasic? false (dropNewline rest)
  | '"' :: rest => basic? rest
  | '\'' :: '\'' :: '\'' :: rest => longLiteral? (dropNewline rest)
  | '\'' :: rest => literal? rest
  | _ => none

end Toml
end AgentFleet

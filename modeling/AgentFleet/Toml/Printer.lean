import AgentFleet.Toml.Statement

/-!
# Writing TOML

A string is written in the plainest of the four kinds that can hold it: a basic
string if nothing in it needs an escape, else a literal one on one line, else a
basic or literal one on several lines, and if none of these will do, a basic
string with escapes.  A key is written bare if it can be.  Arrays of two items
or more put each item on a line of its own, and an empty line stands before
every header.
-/

namespace AgentFleet
namespace Toml

/-! ## Choosing the kind of a string -/

/-- The kinds of strings. -/
inductive Quoting where
  | basic
  | literal
  | longBasic
  | longLiteral
deriving DecidableEq, Repr

/-- A control character other than tab and line feed. -/
def isControl (c : Char) : Bool :=
  (c < ' ' && c != '\t' && c != '\n') || c == '\x7f'

/-- The length of the longest run of a character; `current` counts the run that
is going on. -/
def longestRun (c : Char) (current : Nat) : List Char → Nat
  | [] => current
  | d :: rest =>
    if d = c then longestRun c (current + 1) rest
    else max current (longestRun c 0 rest)

/-- The kind in which a value is written. -/
def Quoting.ofValue (cs : List Char) : Quoting :=
  let controls := cs.any isControl
  let backslash := cs.contains '\\'
  let doubles := longestRun '"' 0 cs
  let singles := longestRun '\'' 0 cs
  let lines := cs.contains '\n'
  if !controls && !backslash && doubles = 0 && !lines then .basic
  else if !controls && singles = 0 && !lines then .literal
  else if !controls && !backslash && doubles ≤ 2 then .longBasic
  else if !controls && singles ≤ 2 then .longLiteral
  else if lines then .longBasic
  else .basic

/-! ## Strings -/

/-- One character of a basic string, but for quotes and line feeds. -/
def escaped (c : Char) : List Char :=
  if c = '\x08' then ['\\', 'b']
  else if c = '\t' then ['\\', 't']
  else if c = '\x0c' then ['\\', 'f']
  else if c = '\r' then ['\\', 'r']
  else if c = '\\' then ['\\', '\\']
  else if c < ' ' || c = '\x7f' then
    ['\\', 'u'] ++ (Text.paddedDigits 16 4 c.toNat).map Char.toUpper
  else [c]

/-- One character of a basic string on one line. -/
def escapedInLine (c : Char) : List Char :=
  if c = '"' then ['\\', '"'] else if c = '\n' then ['\\', 'n'] else escaped c

/-- The characters of a basic string of several lines, in which every third
quote of a run is escaped; `quotes` counts the quotes right before. -/
def escapedInLines (quotes : Nat) : List Char → List Char
  | [] => []
  | '"' :: rest =>
    if quotes = 2 then ['\\', '"'] ++ escapedInLines 0 rest
    else '"' :: escapedInLines (quotes + 1) rest
  | '\n' :: rest => '\n' :: escapedInLines 0 rest
  | c :: rest => escaped c ++ escapedInLines 0 rest

/-- A line end behind opening triple quotes, if the string has lines. -/
def leadingNewline (cs : List Char) : List Char :=
  if cs.contains '\n' then ['\n'] else []

/-- A string in a given kind. -/
def Quoting.write (cs : List Char) : Quoting → List Char
  | .basic => ['"'] ++ cs.flatMap escapedInLine ++ ['"']
  | .literal => ['\''] ++ cs ++ ['\'']
  | .longBasic =>
    ['"', '"', '"'] ++ leadingNewline cs ++ escapedInLines 0 cs ++
      ['"', '"', '"']
  | .longLiteral =>
    ['\'', '\'', '\''] ++ leadingNewline cs ++ cs ++ ['\'', '\'', '\'']

/-- A string value. -/
def stringChars (s : String) : List Char :=
  (Quoting.ofValue s.toList).write s.toList

/-! ## Keys -/

/-- The kind in which a key that cannot be bare is written. -/
def Quoting.ofKey (cs : List Char) : Quoting :=
  let controls := cs.any fun c => isControl c || c == '\n'
  if !controls && !cs.contains '\\' && !cs.contains '"' then .basic
  else if !controls && !cs.contains '\'' then .literal
  else .basic

/-- A key. -/
def keyChars (k : String) : List Char :=
  if !k.isEmpty && k.toList.all isBareChar then k.toList
  else (Quoting.ofKey k.toList).write k.toList

/-- A key with dots. -/
def Path.chars (p : Path) : List Char :=
  p.parents.flatMap (fun k => keyChars k ++ ['.']) ++ keyChars p.key

/-! ## Values and statements -/

/-- An integer. -/
def integerChars : Int → List Char
  | .ofNat n => Nat.toDigits 10 n
  | .negSucc n => '-' :: Nat.toDigits 10 (n + 1)

mutual

/-- A value. -/
def chars : Toml → List Char
  | .string s => stringChars s
  | .integer i => integerChars i
  | .float lexeme => lexeme.toList
  | .boolean true => "true".toList
  | .boolean false => "false".toList
  | .moment text => text.toList
  | .array [] => ['[', ']']
  | .array [v] => ['['] ++ chars v ++ [']']
  | .array items => ['[', '\n'] ++ itemChars items ++ [']']
  | .table _ [] => ['\x7b', '\x7d']
  | .table _ (e :: es) => ['\x7b', ' '] ++ entryChars (e :: es) ++ [' ', '\x7d']
  | .tables items => ['[', '\n'] ++ itemChars items ++ [']']

/-- Items, each on a line of its own with a comma. -/
def itemChars : List Toml → List Char
  | [] => []
  | v :: rest => "    ".toList ++ chars v ++ [',', '\n'] ++ itemChars rest

/-- Entries between commas. -/
def entryChars : List (String × Toml) → List Char
  | [] => []
  | [(k, v)] => keyChars k ++ " = ".toList ++ chars v
  | (k, v) :: e :: rest =>
    keyChars k ++ " = ".toList ++ chars v ++ [',', ' '] ++
      entryChars (e :: rest)

end

/-- A statement on its lines. -/
def Statement.chars : Statement → List Char
  | .assign path v => path.chars ++ " = ".toList ++ v.chars ++ ['\n']
  | .table path => ['\n', '['] ++ path.chars ++ [']', '\n']
  | .tableItem path => ['\n', '[', '['] ++ path.chars ++ [']', ']', '\n']

/-- A document. -/
def render (ss : List Statement) : String :=
  String.ofList (ss.flatMap Statement.chars)

end Toml
end AgentFleet

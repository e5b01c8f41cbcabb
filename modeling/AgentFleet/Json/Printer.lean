import AgentFleet.Json.Token

/-!
# Writing JSON

The compact form writes the tokens of a value one behind the other.  The
indented form puts every item and member on a line of its own, two spaces deeper
than its array or object, and a space behind each colon.  Quotes, backslashes
and control characters below the space are escaped, nothing else is.
-/

namespace AgentFleet
namespace Json

/-- One character inside a string. -/
def escaped (c : Char) : List Char :=
  if c = '"' then ['\\', '"']
  else if c = '\\' then ['\\', '\\']
  else if c = '\x08' then ['\\', 'b']
  else if c = '\x0c' then ['\\', 'f']
  else if c = '\n' then ['\\', 'n']
  else if c = '\r' then ['\\', 'r']
  else if c = '\t' then ['\\', 't']
  else if c < ' ' then ['\\', 'u'] ++ Text.paddedDigits 16 4 c.toNat
  else [c]

/-- A string between quotes.  One that is not a text is written as half a
surrogate pair. -/
def quotedChars : Option String → List Char
  | some s => '"' :: s.toList.flatMap escaped ++ ['"']
  | none => "\"\\ud800\"".toList

/-- The written form of a number. -/
def Number.chars : Number → List Char
  | .natural n => Nat.toDigits 10 n
  | .other lexeme => lexeme.toList

/-- The written form of a token. -/
def Token.chars : Token → List Char
  | .openArray => ['[']
  | .closeArray => [']']
  | .openObject => ['\x7b']
  | .closeObject => ['\x7d']
  | .comma => [',']
  | .colon => [':']
  | .null => "null".toList
  | .bool true => "true".toList
  | .bool false => "false".toList
  | .number n => n.chars
  | .string s => quotedChars s

mutual

/-- The tokens of a value. -/
def tokens : Json → List Token
  | .null => [.null]
  | .bool b => [.bool b]
  | .number n => [.number n]
  | .string s => [.string s]
  | .array items => .openArray :: itemTokens items
  | .object members => .openObject :: memberTokens members

/-- The tokens of the items of an array and of its end. -/
def itemTokens : List Json → List Token
  | [] => [.closeArray]
  | [v] => tokens v ++ [.closeArray]
  | v :: w :: more => tokens v ++ .comma :: itemTokens (w :: more)

/-- The tokens of the members of an object and of its end. -/
def memberTokens : List (Option String × Json) → List Token
  | [] => [.closeObject]
  | [(k, v)] => .string k :: .colon :: tokens v ++ [.closeObject]
  | (k, v) :: m :: more =>
    .string k :: .colon :: tokens v ++ .comma :: memberTokens (m :: more)

end

/-- The compact form of a value. -/
def compact (v : Json) : String :=
  String.ofList ((tokens v).flatMap Token.chars)

/-- A new line, `depth` levels deep. -/
def newLine (depth : Nat) : List Char :=
  '\n' :: List.replicate (2 * depth) ' '

mutual

/-- The indented form of a value whose first line is `depth` levels deep. -/
def indentedChars (depth : Nat) : Json → List Char
  | .null => Token.null.chars
  | .bool b => (Token.bool b).chars
  | .number n => n.chars
  | .string s => quotedChars s
  | .array items => '[' :: indentedItems depth true items
  | .object members => '\x7b' :: indentedMembers depth true members

/-- The items of an array and its end; `first` tells whether nothing has been
written yet. -/
def indentedItems (depth : Nat) (first : Bool) : List Json → List Char
  | [] => (if first then [] else newLine depth) ++ [']']
  | v :: more =>
    (if first then [] else [',']) ++ newLine (depth + 1) ++
      indentedChars (depth + 1) v ++ indentedItems depth false more

/-- The members of an object and its end; `first` tells whether nothing has been
written yet. -/
def indentedMembers
    (depth : Nat) (first : Bool) : List (Option String × Json) → List Char
  | [] => (if first then [] else newLine depth) ++ ['\x7d']
  | (k, v) :: more =>
    (if first then [] else [',']) ++ newLine (depth + 1) ++ quotedChars k ++
      [':', ' '] ++ indentedChars (depth + 1) v ++
      indentedMembers depth false more

end

/-- The indented form of a value. -/
def indented (v : Json) : String :=
  String.ofList (indentedChars 0 v)

end Json
end AgentFleet

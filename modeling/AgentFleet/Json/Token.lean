import AgentFleet.Json.Basic
import AgentFleet.Text.Basic

/-!
# The tokens of a JSON text

A JSON text is cut into punctuation, the three words, numbers and strings;
spaces, tabs and line ends between them are dropped.  Each token has one written
form of its own, `Token.chars`, and `Token.list?` reads a text back into tokens.
-/

namespace AgentFleet
namespace Json

/-- One token. -/
inductive Token where
  | openArray
  | closeArray
  | openObject
  | closeObject
  | comma
  | colon
  | null
  | bool (b : Bool)
  | number (n : Number)
  | string (s : Option String)
deriving DecidableEq, Repr

/-- The white space allowed between tokens. -/
def isSpace (c : Char) : Bool :=
  c == ' ' || c == '\t' || c == '\n' || c == '\r'

/-! ## Strings -/

/-- One piece of a string: a character, or a 16-bit unit given by a `\u` escape.
-/
inductive Piece where
  | char (c : Char)
  | unit (n : Nat)
deriving DecidableEq, Repr

/-- The character a one-letter escape stands for. -/
def unescape? : Char → Option Char
  | '"' => some '"'
  | '\\' => some '\\'
  | '/' => some '/'
  | 'b' => some '\x08'
  | 'f' => some '\x0c'
  | 'n' => some '\n'
  | 'r' => some '\r'
  | 't' => some '\t'
  | _ => none

/-- Read a string from behind its opening quote: its pieces, and what follows
the closing quote.  A control character below the space has to be escaped. -/
def pieces? : List Char → Option (List Piece × List Char)
  | '"' :: rest => some ([], rest)
  | '\\' :: 'u' :: a :: b :: c :: d :: rest => do
    let n ← Text.hexQuad? a b c d
    let (ps, after) ← pieces? rest
    return (.unit n :: ps, after)
  | '\\' :: e :: rest => do
    let c ← unescape? e
    let (ps, after) ← pieces? rest
    return (.char c :: ps, after)
  | c :: rest =>
    if ' ' ≤ c ∧ c ≠ '\\' then do
      let (ps, after) ← pieces? rest
      return (.char c :: ps, after)
    else none
  | [] => none

/-- The unit is the first half of a surrogate pair. -/
def isHighHalf (n : Nat) : Bool :=
  0xD800 ≤ n && n ≤ 0xDBFF

/-- The unit is the second half of a surrogate pair. -/
def isLowHalf (n : Nat) : Bool :=
  0xDC00 ≤ n && n ≤ 0xDFFF

/-- The characters of a string, if every half of a surrogate pair stands beside
its other half. -/
def joinPieces? : List Piece → Option (List Char)
  | [] => some []
  | .char c :: rest => (joinPieces? rest).map (c :: ·)
  | .unit n :: .unit m :: rest =>
    if isHighHalf n && isLowHalf m then
      (joinPieces? rest).map
        (Char.ofNat (0x10000 + (n - 0xD800) * 0x400 + (m - 0xDC00)) :: ·)
    else if isHighHalf n || isLowHalf n then none
    else (joinPieces? (.unit m :: rest)).map (Char.ofNat n :: ·)
  | .unit n :: rest =>
    if isHighHalf n || isLowHalf n then none
    else (joinPieces? rest).map (Char.ofNat n :: ·)

/-- The text of a string, absent if it has half a surrogate pair. -/
def textOf (ps : List Piece) : Option String :=
  (joinPieces? ps).map String.ofList

/-! ## Numbers -/

/-- The characters that occur in numbers. -/
def isNumberChar (c : Char) : Bool :=
  Text.isDigit c || c == '-' || c == '+' || c == '.' || c == 'e' || c == 'E'

/-- One digit or more and nothing else. -/
def isDigits (cs : List Char) : Bool :=
  !cs.isEmpty && cs.all Text.isDigit

/-- The written form of a whole number without sign: no leading zero but zero
itself. -/
def isWhole (cs : List Char) : Bool :=
  isDigits cs && (cs == ['0'] || cs.head? != some '0')

/-- The exponent of a number: nothing, or a mark, an optional sign and digits.
-/
def isExponent : List Char → Bool
  | [] => true
  | mark :: '+' :: digits => (mark == 'e' || mark == 'E') && isDigits digits
  | mark :: '-' :: digits => (mark == 'e' || mark == 'E') && isDigits digits
  | mark :: digits => (mark == 'e' || mark == 'E') && isDigits digits

/-- What may follow the whole part of a number: a fraction, then an exponent. -/
def isTail : List Char → Bool
  | '.' :: rest =>
    isDigits (rest.takeWhile Text.isDigit) &&
      isExponent (rest.dropWhile Text.isDigit)
  | rest => isExponent rest

/-- The number that a run of number characters stands for. -/
def number? : List Char → Option Number
  | '-' :: rest =>
    if isWhole (rest.takeWhile Text.isDigit) &&
          isTail (rest.dropWhile Text.isDigit) then
      some (.other (String.ofList ('-' :: rest)))
    else none
  | cs =>
    if isWhole cs then some (.natural (Nat.ofDigitChars 10 cs 0))
    else if isWhole (cs.takeWhile Text.isDigit) &&
          isTail (cs.dropWhile Text.isDigit) then
      some (.other (String.ofList cs))
    else none

/-! ## Reading tokens -/

namespace Token

/-- Read one token off a text that does not start with white space. -/
def next? : List Char → Option (Token × List Char)
  | '[' :: rest => some (.openArray, rest)
  | ']' :: rest => some (.closeArray, rest)
  | '\x7b' :: rest => some (.openObject, rest)
  | '\x7d' :: rest => some (.closeObject, rest)
  | ',' :: rest => some (.comma, rest)
  | ':' :: rest => some (.colon, rest)
  | 'n' :: 'u' :: 'l' :: 'l' :: rest => some (.null, rest)
  | 't' :: 'r' :: 'u' :: 'e' :: rest => some (.bool true, rest)
  | 'f' :: 'a' :: 'l' :: 's' :: 'e' :: rest => some (.bool false, rest)
  | '"' :: rest => (pieces? rest).map fun p => (.string (textOf p.1), p.2)
  | cs =>
    (number? (cs.takeWhile isNumberChar)).map fun n =>
      (.number n, cs.dropWhile isNumberChar)

end Token

theorem length_of_pieces?
    {cs : List Char} {ps : List Piece} {rest : List Char}
    (h : pieces? cs = some (ps, rest)) :
    rest.length < cs.length := by
  fun_induction pieces? cs generalizing ps rest <;>
    grind [Option.bind_eq_bind, Option.bind_eq_some_iff]

namespace Token

theorem length_of_next?
    {cs : List Char} {t : Token} {rest : List Char}
    (h : next? cs = some (t, rest)) :
    rest.length < cs.length := by
  unfold next? at h
  split at h
  case h_10 =>
    obtain ⟨⟨ps, after⟩, hp, h⟩ := Option.map_eq_some_iff.1 h
    have := length_of_pieces? hp
    grind
  case h_11 =>
    obtain ⟨n, hn, h⟩ := Option.map_eq_some_iff.1 h
    have hc : cs.takeWhile isNumberChar ≠ [] := by
      intro h0
      simp [h0, number?, isWhole, isDigits] at hn
    have :=
      congrArg List.length
        (List.takeWhile_append_dropWhile (p := isNumberChar) (l := cs))
    have := List.length_pos_iff.2 hc
    grind
  all_goals grind

/-- Read a whole text into its tokens. -/
def list? : List Char → Option (List Token)
  | [] => some []
  | c :: rest =>
    if isSpace c then list? rest
    else
      match _ : next? (c :: rest) with
      | none => none
      | some (t, after) => (list? after).map (t :: ·)
termination_by cs => cs.length
decreasing_by
  · simp
  · exact length_of_next? ‹_›

end Token

end Json
end AgentFleet

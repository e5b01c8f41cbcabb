import AgentFleet.Json.Token

/-!
# Reading JSON

Tokens are read one at a time with a stack of the arrays and objects that are
still open, so a value may be nested to any depth.  `Json.parse?` reads a text
that holds one value and nothing else.
-/

namespace AgentFleet
namespace Json

/-- An array or object that is still open, what it holds so far latest first. -/
inductive Frame where
  /-- An array that waits for its next item. -/
  | array (before : List Json)
  /-- An object that waits for its next name. -/
  | object (before : List (Option String × Json))
  /-- An object that waits for the value of `name`. -/
  | member (before : List (Option String × Json)) (name : Option String)

/-- What has to come next. -/
inductive Expected where
  /-- A value. -/
  | value
  /-- A value, or the end of an array without items. -/
  | itemOrEnd
  /-- A name. -/
  | name
  /-- A name, or the end of an object without members. -/
  | nameOrEnd
  /-- The colon behind a name. -/
  | colon (name : Option String)
  /-- What may follow the value that is now complete. -/
  | after (v : Json)

/-- The reader between two tokens. -/
structure Reader where
  expected : Expected
  stack : List Frame

namespace Reader

/-- Nothing has been read. -/
def start : Reader :=
  ⟨.value, []⟩

/-- Read the first token of a value. -/
def beginValue? (stack : List Frame) : Token → Option Reader
  | .null => some ⟨.after .null, stack⟩
  | .bool b => some ⟨.after (.bool b), stack⟩
  | .number n => some ⟨.after (.number n), stack⟩
  | .string s => some ⟨.after (.string s), stack⟩
  | .openArray => some ⟨.itemOrEnd, .array [] :: stack⟩
  | .openObject => some ⟨.nameOrEnd, .object [] :: stack⟩
  | _ => none

/-- Read the token behind a complete value. -/
def afterValue? (v : Json) : List Frame → Token → Option Reader
  | .array before :: stack, .comma =>
    some ⟨.value, .array (v :: before) :: stack⟩
  | .array before :: stack, .closeArray =>
    some ⟨.after (.array (v :: before).reverse), stack⟩
  | .member before name :: stack, .comma =>
    some ⟨.name, .object ((name, v) :: before) :: stack⟩
  | .member before name :: stack, .closeObject =>
    some ⟨.after (.object ((name, v) :: before).reverse), stack⟩
  | _, _ => none

/-- Read one token. -/
def step? (r : Reader) (t : Token) : Option Reader :=
  match r.expected, r.stack, t with
  | .value, stack, t => beginValue? stack t
  | .itemOrEnd, .array _ :: stack, .closeArray =>
    some ⟨.after (.array []), stack⟩
  | .itemOrEnd, stack, t => beginValue? stack t
  | .nameOrEnd, .object _ :: stack, .closeObject =>
    some ⟨.after (.object []), stack⟩
  | .nameOrEnd, stack, .string s => some ⟨.colon s, stack⟩
  | .name, stack, .string s => some ⟨.colon s, stack⟩
  | .colon name, .object before :: stack, .colon =>
    some ⟨.value, .member before name :: stack⟩
  | .after v, stack, t => afterValue? v stack t
  | _, _, _ => none

/-- The value, if exactly one has been read. -/
def result? : Reader → Option Json
  | ⟨.after v, []⟩ => some v
  | _ => none

end Reader

/-- The value that a list of tokens stands for. -/
def ofTokens? (ts : List Token) : Option Json := do
  (← ts.foldlM Reader.step? Reader.start).result?

/-- Read a text that holds one value. -/
def parse? (s : String) : Option Json := do
  ofTokens? (← Token.list? s.toList)

end Json
end AgentFleet

/-!
# JSON values

A value as it stands in a JSON text: members keep their order and repeated names
are kept.  The only numbers this library computes with are the natural ones, so
any other number is kept as it was written.  A string may be written with an
escape that is half of a surrogate pair; no text has such a character, and the
string is then `none`.
-/

namespace AgentFleet

namespace Json

/-- A number: a natural one by value, any other one by its written form. -/
inductive Number where
  | natural (n : Nat)
  | other (lexeme : String)
deriving DecidableEq, Repr

end Json

/-- A JSON value. -/
inductive Json where
  | null
  | bool (b : Bool)
  | number (n : Json.Number)
  | string (s : Option String)
  | array (items : List Json)
  | object (members : List (Option String × Json))
deriving Repr, Inhabited

namespace Json

/-- A text as a value. -/
def ofText (s : String) : Json :=
  .string (some s)

/-- A natural number as a value. -/
def ofNat (n : Nat) : Json :=
  .number (.natural n)

/-- A list as a value, item by item. -/
def ofList (f : α → Json) (xs : List α) : Json :=
  .array (xs.map f)

/-- An optional value, absent as `null`. -/
def ofOption (f : α → Json) : Option α → Json
  | none => .null
  | some a => f a

/-- A record as a value: its fields in order, each under its name. -/
def ofFields (fields : List (String × Json)) : Json :=
  .object (fields.map fun f => (some f.1, f.2))

end Json
end AgentFleet

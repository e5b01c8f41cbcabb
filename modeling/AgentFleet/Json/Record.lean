import Std.Data.ExtTreeMap
import AgentFleet.Json.Basic

/-!
# Records in JSON

A record is written as an object of its fields.  It may be read from an object,
whose members may come in any order and may include names the record does not
have, or from an array of the fields in their order.  A field is required,
optional (`null` stands for absence) or has a default.  In an object an optional
field may be left out; in an array only fields with defaults may be, from the
end.
-/

namespace AgentFleet
namespace Json

/-- The fields of a record found in a value, by name. -/
structure Fields where
  /-- The fields were given by position. -/
  positional : Bool
  /-- The value given for a field. -/
  value? : String → Option Json

/-- The values of the members called `name`. -/
def valuesOf
    (name : String) (members : List (Option String × Json)) : List Json :=
  members.filterMap fun m => if m.1 = some name then some m.2 else none

/-- Find the fields of a record with the given names: every name has to be a
text, and no field may be given twice. -/
def fields? (names : List String) : Json → Option Fields
  | .object members =>
    if members.all (·.1.isSome) &&
          names.all (fun n => (valuesOf n members).length ≤ 1) then
      some ⟨false, fun n => (valuesOf n members).head?⟩
    else none
  | .array items =>
    if items.length ≤ names.length then
      some ⟨true, fun n => items[names.idxOf n]?⟩
    else none
  | _ => none

namespace Fields

/-- A field that has to be there. -/
def required
    (fs : Fields) (name : String) (read : Json → Option α) : Option α := do
  read (← fs.value? name)

/-- A field that may be `null`, and that an object may leave out. -/
def optional
    (fs : Fields) (name : String) (read : Json → Option α) :
    Option (Option α) :=
  match fs.value? name with
  | none => if fs.positional then none else some none
  | some .null => some none
  | some v => (read v).map some

/-- A field that may be left out and then has the value `absent`. -/
def withDefault
    (fs : Fields) (name : String) (absent : α) (read : Json → Option α) :
    Option α :=
  match fs.value? name with
  | none => some absent
  | some v => read v

end Fields

/-! ## Reading the values of fields -/

/-- A value that may be `null`. -/
def nullable (read : Json → Option α) : Json → Option (Option α)
  | .null => some none
  | v => (read v).map some

/-- A text. -/
def text? : Json → Option String
  | .string s => s
  | _ => none

/-- A truth value. -/
def bool? : Json → Option Bool
  | .bool b => some b
  | _ => none

/-- A natural number. -/
def nat? : Json → Option Nat
  | .number (.natural n) => some n
  | _ => none

/-- A number of 32 bits. -/
def uint32? (v : Json) : Option UInt32 := do
  let n ← nat? v
  if h : n < UInt32.size then some (UInt32.ofNatLT n h) else none

/-- A number of 64 bits. -/
def uint64? (v : Json) : Option UInt64 := do
  let n ← nat? v
  if h : n < UInt64.size then some (UInt64.ofNatLT n h) else none

/-- A list, item by item. -/
def list? (read : Json → Option α) : Json → Option (List α)
  | .array items => items.mapM read
  | _ => none

/-- One of a fixed set of names, written as a text or as an object with that
single name and `null`. -/
def choice? (read : String → Option α) : Json → Option α
  | .string (some s) => read s
  | .object [(some s, .null)] => read s
  | _ => none

/-- A table of texts; of two entries with one name the later one counts. -/
def texts? : Json → Option (Std.ExtTreeMap String String)
  | .object members => do
    let entries ← members.mapM fun m => do return (← m.1, ← text? m.2)
    return Std.ExtTreeMap.ofList entries
  | _ => none

/-- A table of texts as an object, its names in order. -/
def ofTexts (m : Std.ExtTreeMap String String) : Json :=
  .object (m.toList.map fun e => (some e.1, ofText e.2))

/-- A number of 32 bits as a value. -/
def ofUInt32 (n : UInt32) : Json :=
  ofNat n.toNat

/-- A number of 64 bits as a value. -/
def ofUInt64 (n : UInt64) : Json :=
  ofNat n.toNat

end Json
end AgentFleet

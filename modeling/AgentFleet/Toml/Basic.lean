/-!
# TOML values

A document is a table of values under keys, in the order of their first
appearance.  Whether a table may still be extended depends on how it came about,
so each table carries its form.  Floating-point numbers are kept as they were
written and moments by their normal text, because no setting is one.
-/

namespace AgentFleet

namespace Toml

/-- How a table came about. -/
inductive Form where
  /-- Written between braces; complete as it stands. -/
  | inline
  /-- Opened by a header of its own. -/
  | header
  /-- Only a parent of tables that have headers. -/
  | implied
  /-- Made by the dots of a key. -/
  | dotted
deriving DecidableEq, Repr

end Toml

/-- A TOML value. -/
inductive Toml where
  | string (s : String)
  | integer (i : Int)
  | float (lexeme : String)
  | boolean (b : Bool)
  | moment (text : String)
  | array (items : List Toml)
  | table (form : Toml.Form) (entries : List (String × Toml))
  /-- Tables opened by repeated headers, in order. -/
  | tables (items : List Toml)
deriving Repr, Inhabited

namespace Toml

/-- Integers have 64 bits: they are less than this number, and not less than its
negative. -/
def integerBound : Nat := 0x8000000000000000

/-- The entries of a table. -/
abbrev Entries := List (String × Toml)

/-- The value under a key. -/
def Entries.get? (es : Entries) (key : String) : Option Toml :=
  List.lookup key es

/-- Replace the value under a key that is there, at its place. -/
def Entries.replace (es : Entries) (key : String) (v : Toml) : Entries :=
  es.map fun e => if e.1 = key then (key, v) else e

/-- Remove a key. -/
def Entries.erase (es : Entries) (key : String) : Entries :=
  es.filter fun e => e.1 ≠ key

end Toml
end AgentFleet

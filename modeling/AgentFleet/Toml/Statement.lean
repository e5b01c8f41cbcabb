import AgentFleet.Toml.Quotes
import AgentFleet.Toml.Scalar

/-!
# The statements of a TOML document

A document is a list of statements: values under keys, and headers that open the
table the next values go into.  Reading a statement settles everything but the
question whether it may stand where it does.
-/

namespace AgentFleet
namespace Toml

/-- A key with the keys of the tables that lead to it. -/
structure Path where
  parents : List String
  key : String
deriving DecidableEq, Repr

/-- A statement. -/
inductive Statement where
  /-- `path = value` -/
  | assign (path : Path) (value : Toml)
  /-- `[path]` -/
  | table (path : Path)
  /-- `[[path]]` -/
  | tableItem (path : Path)
deriving Repr

/-- The least number of keys in a path, and of collections in one another, that
is too large. -/
def depthLimit : Nat := 80

/-! ## Keys -/

/-- A character of a key that needs no quotes. -/
def isBareChar (c : Char) : Bool :=
  c.isAlphanum || c == '_' || c == '-'

/-- A key without dots. -/
def key? (cs : List Char) : Option (String × List Char) :=
  match cs with
  | '"' :: rest => (basic? rest).map fun p => (String.ofList p.1, p.2)
  | '\'' :: rest => (literal? rest).map fun p => (String.ofList p.1, p.2)
  | _ =>
    let word := cs.takeWhile isBareChar
    if word.isEmpty then none
    else some (String.ofList word, cs.dropWhile isBareChar)

/-- Keys between dots, with white space around each. -/
def keys? (cs : List Char) : Option (List String × List Char) := do
  let (k, rest) ← key? (cs.dropWhile isSpace)
  match rest.dropWhile isSpace with
  | '.' :: more =>
    if more.length < cs.length then do
      let (ks, after) ← keys? more
      return (k :: ks, after)
    else none
  | after => return ([k], after)
termination_by cs.length

/-- The path that a list of keys stands for. -/
def Path.ofKeys? (ks : List String) : Option Path := do
  let key ← ks.getLast?
  guard (ks.length < depthLimit)
  return ⟨ks.dropLast, key⟩

/-- A key with dots. -/
def path? (cs : List Char) : Option (Path × List Char) := do
  let (ks, rest) ← keys? cs
  return (← Path.ofKeys? ks, rest)

/-! ## Tables -/

/-- Find the value of a table under a path of keys and change the entries of
that table.  A missing table is made in the form `made`.  In a key with dots
(`made` is `dotted`) only tables that such keys or mere headers of other tables
have made may be entered. -/
def modifyAt? (made : Form) (change : Form → Entries → Option Entries) :
    List String → Form → Entries → Option Entries
  | [], form, es => change form es
  | k :: ks, _, es =>
    match es.get? k with
    | none => do
      let inner ← modifyAt? made change ks made []
      return es ++ [(k, .table made inner)]
    | some (.table form inner) =>
      if form = .inline ∨ (made = .dotted ∧ form = .header) then none
      else do
        let inner ← modifyAt? made change ks form inner
        return es.replace k (.table form inner)
    | some (.tables items) =>
      match items.getLast? with
      | some (.table form inner) => do
        let inner ← modifyAt? made change ks form inner
        return es.replace k (.tables (items.dropLast ++ [.table form inner]))
      | _ => none
    | some _ => none

/-- Put a value under a key that is not there yet.  A table made by dots takes
only values of keys with dots, and any other table only values of keys without.
-/
def insertNew?
    (parents : List String) (key : String) (v : Toml) (form : Form)
    (es : Entries) : Option Entries :=
  if form = .dotted ↔ parents = [] then none
  else if (es.get? key).isSome then none
  else some (es ++ [(key, v)])

/-- Put a value under a path into a table. -/
def assign?
    (form : Form) (es : Entries) (path : Path) (v : Toml) : Option Entries :=
  modifyAt? .dotted (insertNew? path.parents path.key v) path.parents form es

/-! ## Values -/

/-- Drop white space, line ends and comments; `inComment` tells that a comment
is going on. -/
def skipBlank (inComment : Bool) : List Char → List Char
  | [] => []
  | '\r' :: '\n' :: rest => skipBlank false rest
  | '\n' :: rest => skipBlank false rest
  | c :: rest =>
    if inComment then (if isPlain c then skipBlank true rest else c :: rest)
    else if isSpace c then skipBlank false rest
    else if c = '#' then skipBlank true rest
    else c :: rest

/-- The items of an array from behind its opening bracket; one more comma may
follow the last. -/
def items? (item? : List Char → Option (Toml × List Char)) (cs : List Char) :
    Option (List Toml × List Char) :=
  match skipBlank false cs with
  | ']' :: rest => some ([], rest)
  | start => do
    let (v, rest) ← item? start
    match skipBlank false rest with
    | ']' :: after => return ([v], after)
    | ',' :: more =>
      if more.length < cs.length then do
        let (vs, after) ← items? item? more
        return (v :: vs, after)
      else none
    | _ => none
termination_by cs.length

/-- The entries of a table from behind its opening brace, all on one line. -/
def pairs?
    (value? : List Char → Option (Toml × List Char)) (cs : List Char)
    (es : Entries) : Option (Entries × List Char) := do
  let (path, rest) ← path? cs
  match rest with
  | '=' :: more =>
    let (v, rest) ← value? (more.dropWhile isSpace)
    let es ← assign? .inline es path v
    match rest.dropWhile isSpace with
    | '\x7d' :: after => return (es, after)
    | ',' :: more =>
      if more.length < cs.length then pairs? value? more es else none
    | _ => none
  | _ => none
termination_by cs.length

/-- A value; `depth` tells how many collections may still be opened in one
another. -/
def value? : Nat → List Char → Option (Toml × List Char)
  | depth, cs =>
    match cs with
    | '"' :: _ => (string? cs).map fun p => (.string (String.ofList p.1), p.2)
    | '\'' :: _ => (string? cs).map fun p => (.string (String.ofList p.1), p.2)
    | '[' :: rest =>
      match depth with
      | 0 => none
      | depth + 1 => (items? (value? depth) rest).map fun p => (.array p.1, p.2)
    | '\x7b' :: rest =>
      match depth with
      | 0 => none
      | depth + 1 =>
        match rest.dropWhile isSpace with
        | '\x7d' :: after => some (.table .inline [], after)
        | _ =>
          (pairs? (value? depth) rest []).map fun p => (.table .inline p.1, p.2)
    | _ => plain? cs

/-! ## Statements -/

/-- What follows the line, if nothing more than a comment is left on it. -/
def lineEnd? (cs : List Char) : Option (List Char) :=
  match cs.dropWhile isSpace with
  | [] => some []
  | '#' :: rest =>
    match rest.dropWhile isPlain with
    | [] => some []
    | after => newline? after
  | after => newline? after

/-- A statement from its first character, and what follows its line. -/
def statement? (cs : List Char) : Option (Statement × List Char) :=
  match cs with
  | '[' :: '[' :: rest => do
    let (path, rest) ← path? rest
    match rest with
    | ']' :: ']' :: after => return (.tableItem path, ← lineEnd? after)
    | _ => none
  | '[' :: rest => do
    let (path, rest) ← path? rest
    match rest with
    | ']' :: after => return (.table path, ← lineEnd? after)
    | _ => none
  | _ => do
    let (path, rest) ← path? cs
    match rest with
    | '=' :: more =>
      let (v, rest) ← value? (depthLimit - 1) (more.dropWhile isSpace)
      return (.assign path v, ← lineEnd? rest)
    | _ => none

/-- All statements of a document. -/
def statements? (cs : List Char) : Option (List Statement) :=
  match skipBlank false cs with
  | [] => some []
  | start => do
    let (s, rest) ← statement? start
    if rest.length < cs.length then do
      let more ← statements? rest
      return s :: more
    else none
termination_by cs.length

end Toml
end AgentFleet

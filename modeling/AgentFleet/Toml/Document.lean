import AgentFleet.Toml.Statement

/-!
# TOML documents

The statements of a document fill one table.  A header opens a table once; a
table that is only the parent of tables with headers may still be opened, and
then comes last among its siblings.  A repeated header adds a table to an array
of tables.
-/

namespace AgentFleet
namespace Toml

/-- A document that is being filled. -/
structure Document where
  root : Entries
  /-- The path of the header whose table takes the next values. -/
  header : List String

namespace Document

/-- Nothing has been said. -/
def empty : Document :=
  ⟨[], []⟩

/-- Open the table `key` among the entries of its parent. -/
def openTable? (key : String) (_ : Form) (es : Entries) : Option Entries :=
  match es.get? key with
  | none => some (es ++ [(key, .table .header [])])
  | some (.table .implied inner) =>
    some (es.erase key ++ [(key, .table .header inner)])
  | some _ => none

/-- Add a table to the array of tables `key` among the entries of its parent. -/
def addTable? (key : String) (_ : Form) (es : Entries) : Option Entries :=
  match es.get? key with
  | none => some (es ++ [(key, .tables [.table .header []])])
  | some (.tables items) =>
    some (es.replace key (.tables (items ++ [.table .header []])))
  | some _ => none

/-- Carry out one statement. -/
def perform? (d : Document) : Statement → Option Document
  | .assign path v => do
    let change := fun form es => assign? form es path v
    return {
      d with root := ← modifyAt? .implied change d.header .header d.root }
  | .table path => do
    let root ←
      modifyAt? .implied (openTable? path.key) path.parents .header d.root
    return ⟨root, path.parents ++ [path.key]⟩
  | .tableItem path => do
    let root ←
      modifyAt? .implied (addTable? path.key) path.parents .header d.root
    return ⟨root, path.parents ++ [path.key]⟩

end Document

/-- The entries of the table that a list of statements describes. -/
def ofStatements? (ss : List Statement) : Option Entries := do
  return (← ss.foldlM Document.perform? Document.empty).root

/-- Read a document; a byte order mark may stand before it. -/
def parse? (s : String) : Option Entries :=
  match s.toList with
  | '\ufeff' :: cs => statements? cs >>= ofStatements?
  | cs => statements? cs >>= ofStatements?

end Toml
end AgentFleet

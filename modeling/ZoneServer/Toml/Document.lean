import ZoneServer.Toml.Marked
import ZoneServer.Toml.Statement

/-!
# Documents

A document is well-formed if its text is a sequence of statements and each statement may be made after
those before it. The document is then the table that the statements make, in which marked tables are
the dates and times that they spell; the document itself must not be marked.
-/

namespace ZoneServer.Toml

/-- The table that statements make when they are made one after another, the opened table being given by
its path. -/
def build : List Statement → List String → Entries → Option Entries
  | [], _, entries => some entries
  | .openTable path key :: rest, _, entries => do
    build rest (path ++ [key]) (← entries.openTable path key)
  | .openElement path key :: rest, _, entries => do
    build rest (path ++ [key]) (← entries.openElement path key)
  | .assign path key v :: rest, opened, entries => do
    build rest opened (← entries.insertAt opened path key v)

/-- The entries of the table that a document is, if it is well-formed. -/
def parse (document : String) : Option (List (String × Value)) := do
  let (made, _) ← statements document.toList
  let entries ← build made [] []
  match ← (Value.table (entriesToValues entries)).unmarked? with
  | .table entries => some entries
  | _ => none

end ZoneServer.Toml

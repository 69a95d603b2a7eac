import ZoneServer.Toml.Value

/-!
# Tables under construction

The entries of a table may come from several places of a document: from its own header, from headers of
tables inside it, from dotted keys. Each table remembers how it came about, because only some ways of
adding to it are allowed: a table has at most one header, dotted keys do not add to a table that has a
header, and nothing adds to a value that is complete.
-/

namespace ZoneServer.Toml

/-- How a table came about. -/
inductive Origin where
  /-- It has a header of its own, or is the whole document. -/
  | header
  /-- It was named on the way to a table inside it. -/
  | implied
  /-- It was named on the way to a value by a dotted key. -/
  | dotted
  deriving DecidableEq, Repr, Inhabited

/-- What a key stands for in a table under construction. -/
inductive Draft where
  /-- A complete value. -/
  | value (v : Value)
  /-- A table. -/
  | table (origin : Origin) (entries : List (String × Draft))
  /-- An array of tables, of which the last one may still grow. -/
  | tables (elements : List (List (String × Draft)))
  deriving Repr, Inhabited

/-- The entries of a table under construction. -/
abbrev Entries := List (String × Draft)

mutual

/-- The value that a draft has come to. -/
def Draft.toValue : Draft → Value
  | .value v => v
  | .table _ entries => .table (entriesToValues entries)
  | .tables elements => .array (elementsToValues elements)

/-- The values of the entries of a table. -/
def entriesToValues : List (String × Draft) → List (String × Value)
  | [] => []
  | (key, draft) :: rest => (key, draft.toValue) :: entriesToValues rest

/-- The values of the elements of an array of tables. -/
def elementsToValues : List (List (String × Draft)) → List Value
  | [] => []
  | entries :: rest => .table (entriesToValues entries) :: elementsToValues rest

end

namespace Entries

/-- Changes what a key stands for, or adds the key after the others. -/
def alter (key : String) (change : Option Draft → Option Draft) : Entries → Option Entries
  | [] => (change none).map fun draft => [(key, draft)]
  | (other, draft) :: rest =>
    if other = key then (change (some draft)).map fun draft => (key, draft) :: rest
    else (alter key change rest).map fun rest => (other, draft) :: rest

/-- Adds a value under a key that is not yet used. -/
def insertNew (key : String) (v : Value) (entries : Entries) : Option Entries :=
  alter key (fun old => if old.isSome then none else some (.value v)) entries

/-- Goes down a path of keys, making tables where there are none, and changes the table at its end. By
dotted keys it does not go through tables that have a header; through an array of tables it goes to the
last one. -/
def descend (dotted : Bool) (change : Origin → Entries → Option Entries) :
    List String → Origin → Entries → Option Entries
  | [], origin, entries => change origin entries
  | key :: path, _, entries =>
    let made : Origin := if dotted then .dotted else .implied
    alter key (fun old =>
      match old with
      | none => (descend dotted change path made []).map (Draft.table made)
      | some (.value _) => none
      | some (.table origin inner) =>
        if dotted && origin = .header then none
        else (descend dotted change path origin inner).map (Draft.table origin)
      | some (.tables elements) =>
        match elements.getLast? with
        | none => none
        | some last =>
          (descend dotted change path .header last).map fun last =>
            Draft.tables (elements.dropLast ++ [last])) entries

/-- Adds a value under a dotted key. The tables on the way must be made by dotted keys themselves. -/
def insert (path : List String) (key : String) (v : Value) (entries : Entries) : Option Entries :=
  descend true
    (fun origin inner =>
      if path ≠ [] ∧ origin ≠ .dotted then none else insertNew key v inner)
    path .header entries

/-- Opens the table that a header names. A table that has only been named so far comes after the others
from now on. -/
def openTable (path : List String) (key : String) (entries : Entries) : Option Entries :=
  descend false
    (fun _ inner =>
      match inner.lookup key with
      | none => some (inner ++ [(key, .table .header [])])
      | some (.table .implied found) =>
        some (inner.filter (fun entry => entry.1 ≠ key) ++ [(key, .table .header found)])
      | _ => none)
    path .header entries

/-- Opens a new element of the array of tables that a header names. -/
def openElement (path : List String) (key : String) (entries : Entries) : Option Entries :=
  descend false
    (fun _ inner =>
      alter key (fun old =>
        match old with
        | none => some (.tables [[]])
        | some (.tables elements) => some (.tables (elements ++ [[]]))
        | _ => none) inner)
    path .header entries

/-- Adds a value under a dotted key to the table that was opened last. -/
def insertAt (opened path : List String) (key : String) (v : Value) (entries : Entries) :
    Option Entries :=
  descend false (fun _ inner => insert path key v inner) opened .header entries

end Entries

end ZoneServer.Toml

import ZoneServer.Toml.DateTime

/-!
# Marked tables

A table whose first key is `$__toml_private_datetime` is no table but the date or time that the text
under this key spells. Whatever else the table holds is not looked at. Under any other key than the
first the mark means nothing.
-/

namespace ZoneServer.Toml

/-- The key that marks a table as a date or time. -/
def dateTimeMark : String := "$__toml_private_datetime"

/-- What stands under the mark in the entries of a table, if it is marked. -/
def marked? : List (String × Value) → Option Value
  | (key, v) :: _ => if key = dateTimeMark then some v else none
  | [] => none

/-- The date or time that a value spells, if it is a text that spells one. -/
def Value.spelt? : Value → Option DateTime
  | .string text => DateTime.ofText? text
  | _ => none

mutual

/-- The value without marked tables, dates and times in their place, if all of them spell one. -/
def Value.unmarked? : Value → Option Value
  | .array items => (unmarkedItems? items).map .array
  | .table entries =>
    match marked? entries with
    | some v => v.spelt?.map .dateTime
    | none => (unmarkedEntries? entries).map .table
  | v => some v

/-- The items of an array without marked tables. -/
def unmarkedItems? : List Value → Option (List Value)
  | [] => some []
  | v :: rest => do return (← v.unmarked?) :: (← unmarkedItems? rest)

/-- The entries of a table without marked tables. -/
def unmarkedEntries? : List (String × Value) → Option (List (String × Value))
  | [] => some []
  | (key, v) :: rest => do return (key, ← v.unmarked?) :: (← unmarkedEntries? rest)

end

end ZoneServer.Toml

import ZoneServer.Settings.Error
import ZoneServer.Text.LowerCase

/-!
# Reading settings

Settings are read generously. Where a text is expected, a number or a truth value is taken for its text;
where a number is expected, a text may spell it, a floating-point number is rounded, and a truth value
counts as one or zero. A word of a choice may be in upper or lower case. A structure is a table of its
fields or a list of them in order, and a field that is not given has its default if it has one.
-/

namespace ZoneServer

/-- What a setting is read as, or why it cannot be. -/
abbrev Reading (α : Type) := Except SettingsError α

/-! ## Texts, numbers and choices -/

/-- Reads a text. -/
def Setting.readText : Setting → Reading String
  | .text t => .ok t
  | .boolean b => .ok (if b then "true" else "false")
  | .integer n => .ok (toString n)
  | .float x => .ok x.text
  | s => .error (.mistyped s.shown "a string" [])

/-- The greatest number of 64 bits. -/
def maxUnsigned : Nat := 18446744073709551615

/-- The number that a text spells in decimal digits, perhaps after a plus sign. -/
def unsignedOf? (text : List Char) : Option Nat :=
  let digits := if text.head? = some '+' then text.tail else text
  let n := Nat.ofDigitChars 10 digits 0
  if digits ≠ [] ∧ digits.all Char.isDigit ∧ n ≤ maxUnsigned then some n else none

/-- The number that a text stands for: the words for yes and no are one and zero. -/
def numberOf? (text : String) : Option Nat :=
  let word := Text.lowerCase text
  if word = "true" ∨ word = "on" ∨ word = "yes" then some 1
  else if word = "false" ∨ word = "off" ∨ word = "no" then some 0
  else unsignedOf? text.toList

/-- Reads a number of at most 64 bits. -/
def Setting.readUnsigned : Setting → Reading Nat
  | .integer n =>
    if 0 ≤ n then .ok n.toNat
    else .error (.mistyped (.signed n) "an unsigned 64 bit or less integer" [])
  | .float x => .ok (x.toNatUpTo maxUnsigned)
  | .boolean b => .ok b.toNat
  | .text t =>
    match numberOf? t with
    | some n => .ok n
    | none => .error (.mistyped (.text t) "an integer" [])
  | s => .error (.mistyped s.shown "an integer" [])

/-- Reads a number of at most so many bits. -/
def Setting.readBits (bits : Nat) (s : Setting) : Reading Nat := do
  let n ← s.readUnsigned
  if n < 1 <<< bits then return n
  else
    throw (.mistyped (.unsigned n) ("an unsigned " ++ toString bits ++ " bit integer") [])

/-- Reads a number of 16 bits. -/
def Setting.readUInt16 (s : Setting) : Reading UInt16 := do return UInt16.ofNat (← s.readBits 16)

/-- Reads a number of 32 bits. -/
def Setting.readUInt32 (s : Setting) : Reading UInt32 := do return UInt32.ofNat (← s.readBits 32)

/-- The member of a choice that a word stands for. -/
def wordOf {α : Type} (choice : String) (members : List (String × α)) (word : String) : Reading α :=
  match members.find? fun m => Text.lowerCase m.1 = Text.lowerCase word with
  | some m => .ok m.2
  | none => .error (.shape (.noChoice choice word))

/-- Reads a word of a choice: a text, or a table whose only key is the word. -/
def Setting.readChoice {α : Type} (choice : String) (members : List (String × α)) :
    Setting → Reading α
  | .text word => wordOf choice members word
  | .table [(word, _)] => wordOf choice members word
  | _ => .error (.shape (.notWord choice))

/-! ## Lists and structures -/

/-- Reads the items of a list, the first of them being at a place. -/
def readItems {α : Type} (read : Setting → Reading α) (place : Nat) :
    List Setting → Reading (List α)
  | [] => .ok []
  | s :: rest => do
    let a ← (read s).mapError (·.under (.place place))
    let as ← readItems read (place + 1) rest
    return a :: as

/-- Reads a list. -/
def Setting.readList {α : Type} (read : Setting → Reading α) : Setting → Reading (List α)
  | .list items => readItems read 0 items
  | s => .error (.shape (.unexpected s.shown "a sequence"))

/-- The fields of a structure as they are given. -/
inductive Fields where
  /-- Each under its name. -/
  | named (entries : List (String × Setting))
  /-- One after another. -/
  | listed (items : List Setting)
  deriving Repr, Inhabited

/-- Reads the fields of the structure with a name. -/
def Setting.readFields (name : String) : Setting → Reading Fields
  | .table entries => .ok (.named entries)
  | .list items => .ok (.listed items)
  | s => .error (.shape (.unexpected s.shown ("struct " ++ name)))

/-- A field of a structure. -/
structure Field where
  /-- Its place among the fields. -/
  place : Nat
  /-- Its name. -/
  name : String
  deriving DecidableEq, Repr, Inhabited

namespace Fields

/-- Reads a field, if it is given. -/
def read? {α : Type} (fields : Fields) (field : Field) (read : Setting → Reading α) :
    Reading (Option α) :=
  let given : Option (PathPart × Setting) := match fields with
    | .named entries => (entries.lookup field.name).map fun s => (.key field.name, s)
    | .listed items => items[field.place]?.map fun s => (.place field.place, s)
  match given with
  | none => .ok none
  | some (part, s) => ((read s).mapError (·.under part)).map some

/-- A field that must be given in the structure with a name and a number of fields. -/
def require {α : Type} (fields : Fields) (name : String) (count : Nat) (field : Field)
    (given : Option α) : Reading α :=
  match given with
  | some a => .ok a
  | none =>
    match fields with
    | .named _ => .error (.shape (.missing field.name))
    | .listed _ =>
      .error (.shape (.tooShort field.place
        ("struct " ++ name ++ " with " ++ toString count ++ " elements")))

end Fields

end ZoneServer

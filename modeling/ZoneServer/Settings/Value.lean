import ZoneServer.Number.Shortest
import ZoneServer.Text.Quoted
import ZoneServer.Toml.Value

/-!
# Settings

A configuration is a tree of settings. The settings of a document are its values, but that dates and
times are mere texts. How a setting is shown in a message is up to `Shown`.
-/

namespace ZoneServer

/-- A setting. -/
inductive Setting where
  /-- A place that was made but not filled. -/
  | nothing
  /-- A truth value. -/
  | boolean (b : Bool)
  /-- A whole number. -/
  | integer (n : Int)
  /-- A floating-point number. -/
  | float (x : Binary64)
  /-- A text. -/
  | text (text : String)
  /-- Settings in order. -/
  | list (items : List Setting)
  /-- Settings by key. -/
  | table (entries : List (String × Setting))
  deriving Repr, Inhabited

mutual

/-- The setting that a value of a document is. -/
def Setting.ofValue : Toml.Value → Setting
  | .string t => .text t
  | .integer n => .integer n
  | .float x => .float x
  | .boolean b => .boolean b
  | .dateTime d => .text d.text
  | .array items => .list (settingsOfItems items)
  | .table entries => .table (settingsOfEntries entries)

/-- The settings that the items of an array are. -/
def settingsOfItems : List Toml.Value → List Setting
  | [] => []
  | v :: rest => Setting.ofValue v :: settingsOfItems rest

/-- The settings that the entries of a table are. -/
def settingsOfEntries : List (String × Toml.Value) → List (String × Setting)
  | [] => []
  | (key, v) :: rest => (key, Setting.ofValue v) :: settingsOfEntries rest

end

/-- What a message shows of something that does not fit. -/
inductive Shown where
  /-- A place that was not filled. -/
  | nothing
  /-- A truth value. -/
  | boolean (b : Bool)
  /-- A whole number. -/
  | integer (n : Int)
  /-- A whole number that was to be unsigned. -/
  | signed (n : Int)
  /-- A whole number that was to be smaller. -/
  | unsigned (n : Nat)
  /-- A floating-point number. -/
  | float (x : Binary64)
  /-- A text. -/
  | text (text : String)
  /-- Settings in order. -/
  | sequence
  /-- Settings by key. -/
  | map
  deriving DecidableEq, Repr, Inhabited

/-- The wording of what a message shows. -/
def Shown.message : Shown → String
  | .nothing => "unit value"
  | .boolean b => "boolean `" ++ (if b then "true" else "false") ++ "`"
  | .integer n => "integer `" ++ toString n ++ "`"
  | .signed n => "64-bit integer `" ++ toString n ++ "`"
  | .unsigned n => "64-bit unsigned integer `" ++ toString n ++ "`"
  | .float x => "floating point `" ++ x.pointedText ++ "`"
  | .text t => "string " ++ Text.quoted t.toList
  | .sequence => "sequence"
  | .map => "map"

/-- What a message shows of a setting. -/
def Setting.shown : Setting → Shown
  | .nothing => .nothing
  | .boolean b => .boolean b
  | .integer n => .integer n
  | .float x => .float x
  | .text t => .text t
  | .list _ => .sequence
  | .table _ => .map

end ZoneServer

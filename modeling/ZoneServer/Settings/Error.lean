import ZoneServer.Settings.Value

/-!
# What can be wrong with a configuration

A configuration may be missing or malformed, it may have the wrong shape, or one of its settings may be of
the wrong kind. In the last case the message names the setting by its path.
-/

namespace ZoneServer

/-- A part of the path to a setting. -/
inductive PathPart where
  /-- A key of a table. -/
  | key (key : String)
  /-- A place in a list. -/
  | place (n : Nat)
  deriving DecidableEq, Repr, Inhabited

/-- The text of a path: a dot stands between two keys and nowhere else. -/
def pathText : List PathPart → String
  | [] => ""
  | .key key :: .key next :: rest => key ++ "." ++ pathText (.key next :: rest)
  | .key key :: rest => key ++ pathText rest
  | .place n :: rest => "[" ++ toString n ++ "]" ++ pathText rest

/-- A fault of shape. -/
inductive ShapeError where
  /-- A setting that must be given is not. -/
  | missing (key : String)
  /-- A setting is not of the kind that was expected. -/
  | unexpected (found : Shown) (expected : String)
  /-- A list in place of a table is too short. -/
  | tooShort (length : Nat) (expected : String)
  /-- A word is none of a choice. -/
  | noChoice (choice word : String)
  /-- A setting can be no word of a choice. -/
  | notWord (choice : String)
  /-- A text is no address. -/
  | notAddress
  deriving DecidableEq, Repr, Inhabited

/-- The wording of a fault of shape. -/
def ShapeError.message : ShapeError → String
  | .missing key => "missing field `" ++ key ++ "`"
  | .unexpected found expected => "invalid type: " ++ found.message ++ ", expected " ++ expected
  | .tooShort length expected => "invalid length " ++ toString length ++ ", expected " ++ expected
  | .noChoice choice word => "enum " ++ choice ++ " does not have variant constructor " ++ word
  | .notWord choice =>
    "value of enum " ++ choice ++
      " should be represented by either string or table with exactly one key"
  | .notAddress => "invalid IP address syntax"

/-- Why there is no configuration. -/
inductive SettingsError where
  /-- There is no file that could be read. -/
  | unavailable
  /-- The text is no document. -/
  | malformed
  /-- The document does not have the shape of a configuration. -/
  | shape (cause : ShapeError)
  /-- A setting is of the wrong kind. -/
  | mistyped (found : Shown) (expected : String) (path : List PathPart)
  deriving DecidableEq, Repr, Inhabited

namespace SettingsError

/-- The wording of a cause. -/
def message : SettingsError → String
  | .unavailable => "no configuration file found"
  | .malformed => "malformed configuration"
  | .shape cause => cause.message
  | .mistyped found expected path =>
    "invalid type: " ++ found.message ++ ", expected " ++ expected ++
      (if path = [] then "" else " for key `" ++ pathText path ++ "`")

/-- The same cause, seen from one step further up. -/
def under (part : PathPart) : SettingsError → SettingsError
  | .mistyped found expected path => .mistyped found expected (part :: path)
  | cause => cause

end SettingsError

end ZoneServer

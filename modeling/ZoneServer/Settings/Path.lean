import ZoneServer.Settings.Value
import ZoneServer.Text.LowerCase
import ZoneServer.Toml.Parser

/-!
# Paths to settings

The keys at the top of a document are paths: words with dots between them and numbers in brackets after
them, so that one key can give a setting deep inside the tree. A key that is no such path stands for
itself.

Settings are put into the tree one after another. Keys of tables are put in lower case, tables are merged
with tables that are there already, and anything in the way of a path gives way to it.
-/

namespace ZoneServer

/-- A step of a path. -/
inductive PathStep where
  /-- To the setting under a key. -/
  | key (key : String)
  /-- To the setting at a place of a list, counted from its end if negative. -/
  | place (n : Int)
  deriving DecidableEq, Repr, Inhabited

namespace PathStep

open Toml (Parser)

/-- Whether a character may stand in a word of a path. -/
def isWordChar (c : Char) : Bool := c.isAlphanum || c = ' ' || c = '_' || c = '-'

/-- A word. -/
def word : Parser PathStep := do return .key (String.ofList (← Parser.takeWhile1 isWordChar))

/-- The numbers that may stand in brackets, those of 64 bits with a sign. -/
def isPlace (n : Int) : Bool := -9223372036854775808 ≤ n && n ≤ 9223372036854775807

/-- A number in brackets. -/
def bracketed : Parser PathStep := do
  let isBlank (c : Char) : Bool := c = ' ' || c = '\t'
  Parser.char '['
  let _ ← Parser.takeWhile isBlank
  let minus ← Parser.optional (Parser.char '-')
  let digits ← Parser.takeWhile1 Char.isDigit
  let _ ← Parser.takeWhile isBlank
  Parser.char ']'
  let magnitude : Int := Nat.ofDigitChars 10 digits 0
  let n := if minus.isSome then -magnitude else magnitude
  Parser.require (isPlace n)
  return .place n

/-- The steps of the path that a key is. -/
def path : Parser (List PathStep) := do
  let first ← word
  let rest ← Parser.many ((do Parser.char '.'; word) <|> bracketed)
  Parser.atEnd
  return first :: rest

/-- The steps that a key stands for. -/
def ofKey (key : String) : List PathStep :=
  match path key.toList with
  | some (steps, _) => steps
  | none => [.key key]

end PathStep

namespace Setting

/-- The entries of a setting, none if it is not a table. -/
def entries : Setting → List (String × Setting)
  | .table entries => entries
  | _ => []

/-- The items of a setting, none if it is not a list. -/
def items : Setting → List Setting
  | .list items => items
  | _ => []

/-- Changes the setting under a key, which is added after the others if it is not there. -/
def alterKey (key : String) (change : Setting → Setting) :
    List (String × Setting) → List (String × Setting)
  | [] => [(key, change .nothing)]
  | (other, s) :: rest =>
    if other = key then (key, change s) :: rest else (other, s) :: alterKey key change rest

mutual

/-- What comes of putting a setting where another is: a table is merged into what is there, and all else
takes its place. -/
def mergeInto (old : Setting) : Setting → Setting
  | .table [] => match old with
    | .nothing => .table []
    | _ => old
  | .table (entry :: rest) => .table (mergeEntries old.entries (entry :: rest))
  | s => s

/-- What comes of putting entries among others, with their keys in lower case. -/
def mergeEntries (old : List (String × Setting)) : List (String × Setting) → List (String × Setting)
  | [] => old
  | (key, s) :: rest =>
    mergeEntries (alterKey (Text.lowerCase key) (fun there => mergeInto there s) old) rest

end

/-- The place in a list of a length that a number stands for, if it is not before the front. -/
def placeOf (length : Nat) (n : Int) : Option Nat :=
  match n with
  | .ofNat place => some place
  | .negSucc m => if m + 1 ≤ length then some (length - (m + 1)) else none

/-- Changes the setting at a place of a list, which is extended by empty places up to it. -/
def alterPlace (place : Nat) (change : Setting → Setting) (items : List Setting) : List Setting :=
  let extended := items ++ List.replicate (place + 1 - items.length) .nothing
  extended.modify place change

/-- Puts a setting where a path leads. At a key it is merged, in a list it takes the place. -/
def put (new : Setting) : List PathStep → Setting → Setting
  | [], _ => new
  | [.key key], old =>
    .table (alterKey (Text.lowerCase key) (fun there => mergeInto there new) old.entries)
  | .key key :: steps, old => .table (alterKey (Text.lowerCase key) (put new steps) old.entries)
  | .place n :: steps, old =>
    match placeOf old.items.length n with
    | some place => .list (alterPlace place (put new steps) old.items)
    | none => old

/-- The tree of settings that the entries of a document make, put one after another. -/
def ofDocument (document : List (String × Toml.Value)) : Setting :=
  document.foldl (fun tree (key, v) => put (ofValue v) (PathStep.ofKey key) tree) (.table [])

end Setting

end ZoneServer

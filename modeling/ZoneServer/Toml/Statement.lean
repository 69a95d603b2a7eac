import ZoneServer.Toml.DateTime
import ZoneServer.Toml.Draft
import ZoneServer.Toml.Number

/-!
# The statements of a document

A document is a sequence of lines. A line may open a table, open a new element of an array of tables, or
give a value to a key; it may end in a comment. Arrays may run over several lines, inline tables may not.
-/

namespace ZoneServer.Toml

/-- The greatest depth to which values can be nested, and one more than keys can have parts. -/
def maxDepth : Nat := 80

/-! ## Keys -/

/-- Whether a character may stand in a key without quotes. -/
def isBareKeyChar (c : Char) : Bool :=
  c.isAlphanum || c = '_' || c = '-'

/-- One part of a key. -/
def simpleKey : Parser String := do
  let cs ← Parser.takeWhile1 isBareKeyChar <|> basicText <|> literalText
  return String.ofList cs

/-- A key, as the parts on the way to it and its last part. -/
def key : Parser (List String × String) := do
  let first ← simpleKey
  let rest ← Parser.many do
    blanks
    Parser.char '.'
    blanks
    simpleKey
  Parser.require (decide (rest.length + 1 < maxDepth))
  return ((first :: rest).dropLast, rest.getLast?.getD first)

/-! ## Values -/

/-- A key and its value. -/
def keyValue (value : Parser Value) : Parser (List String × String × Value) := do
  let (path, last) ← key
  blanks
  Parser.char '='
  blanks
  return (path, last, ← value)

/-- An array, whose items are separated by commas; one more comma may follow the last. -/
def array (value : Parser Value) : Parser Value := do
  Parser.char '['
  blankLines
  let items ← Parser.sepBy value do
    blankLines
    Parser.char ','
    blankLines
  blankLines
  if items ≠ [] then
    let _ ← Parser.optional (Parser.char ',')
    blankLines
  Parser.char ']'
  return .array items

/-- The table that keys and their values make. -/
def tableOf : List (List String × String × Value) → Entries → Option Entries
  | [], entries => some entries
  | (path, last, v) :: rest, entries => do tableOf rest (← entries.insert path last v)

/-- An inline table, whose entries are separated by commas. -/
def inlineTable (value : Parser Value) : Parser Value := do
  Parser.char '\x7b'
  blanks
  let pairs ← Parser.sepBy (keyValue value) do
    blanks
    Parser.char ','
    blanks
  blanks
  Parser.char '\x7d'
  return .table (entriesToValues (← Parser.ofOption (tableOf pairs [])))

/-- A value that holds no others. -/
def scalar : Parser Value :=
  (do return .string (← text))
    <|> (do Parser.literal ['t', 'r', 'u', 'e']; return .boolean true)
    <|> (do Parser.literal ['f', 'a', 'l', 's', 'e']; return .boolean false)
    <|> (do return .dateTime (← dateTime .ofValue))
    <|> (do return .float (← float))
    <|> (do return .integer (← integer))

/-- A value in which others are nested to at most the given depth. -/
def value : Nat → Parser Value
  | 0 => scalar
  | depth + 1 => scalar <|> array (value depth) <|> inlineTable (value depth)

/-! ## Statements -/

/-- What a line says. -/
inductive Statement where
  /-- Open the table with this path and key. -/
  | openTable (path : List String) (key : String)
  /-- Open a new element of the array of tables with this path and key. -/
  | openElement (path : List String) (key : String)
  /-- Give a value to the key with this path. -/
  | assign (path : List String) (key : String) (value : Value)
  deriving Repr, Inhabited

/-- The header of a table, or of an element of an array of tables, between brackets. -/
def header (opening closing : List Char) : Parser (List String × String) := do
  Parser.literal opening
  blanks
  let k ← key
  blanks
  Parser.literal closing
  return k

/-- A statement. -/
def statement : Parser Statement :=
  (do
    let (path, last) ← header ['[', '['] [']', ']']
    return .openElement path last)
    <|> (do
      let (path, last) ← header ['['] [']']
      return .openTable path last)
    <|> (do
      let (path, last, v) ← keyValue (value (maxDepth - 1))
      return .assign path last v)

/-- A line without its end: a statement or none, and perhaps a comment. -/
def line : Parser (Option Statement) := do
  blanks
  let s ← Parser.optional statement
  blanks
  let _ ← Parser.optional comment
  return s

/-- The statements of a document, which may begin with a byte order mark. -/
def statements : Parser (List Statement) := do
  let _ ← Parser.optional (Parser.char '\ufeff')
  let lines ← Parser.many do
    let s ← line
    lineEnd
    return s
  let last ← line
  Parser.atEnd
  return (lines ++ [last]).filterMap id

end ZoneServer.Toml

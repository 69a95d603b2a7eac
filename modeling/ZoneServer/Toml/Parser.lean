/-!
# Parsers over a list of characters

A parser takes characters from the front of a text and gives what they mean, or fails. Alternatives are
tried at the same place, and `many` applies a parser for as long as it succeeds.
-/

namespace ZoneServer.Toml

/-- Takes characters from the front of a text, or fails. -/
abbrev Parser := StateT (List Char) Option

namespace Parser

variable {α β : Type}

/-- A character with a property. -/
def satisfy (p : Char → Bool) : Parser Char
  | c :: rest => if p c then some (c, rest) else none
  | [] => none

/-- The given character. -/
def char (c : Char) : Parser Unit := do let _ ← satisfy (· = c)

/-- The given characters. -/
def literal (text : List Char) : Parser Unit := fun s =>
  if text.isPrefixOf s then some ((), s.drop text.length) else none

/-- As many characters with a property as there are. -/
def takeWhile (p : Char → Bool) : Parser (List Char) := fun s => some (s.takeWhile p, s.dropWhile p)

/-- One or more characters with a property. -/
def takeWhile1 (p : Char → Bool) : Parser (List Char) := do
  let first ← satisfy p
  let rest ← takeWhile p
  return first :: rest

/-- What a parser gives, if it succeeds here. -/
def optional (p : Parser α) : Parser (Option α) := fun s =>
  match p s with
  | some (a, rest) => some (some a, rest)
  | none => some (none, s)

/-- Succeeds where a parser fails, and takes nothing. -/
def notHere (p : Parser α) : Parser Unit := fun s => if (p s).isSome then none else some ((), s)

/-- Fails if a condition does not hold. -/
def require (condition : Bool) : Parser Unit := fun s => if condition then some ((), s) else none

/-- The value of an option, if there is one. -/
def ofOption (a : Option α) : Parser α := fun s => a.map fun a => (a, s)

/-- The end of the text. -/
def atEnd : Parser Unit := fun s => if s.isEmpty then some ((), s) else none

/-- What a parser gives when it is applied again and again, and what it leaves. It is applied at most as
many times as there are characters in `bound`. -/
def repeated (p : Parser α) : (bound : List Char) → List Char → List α × List Char
  | [], s => ([], s)
  | _ :: bound, s =>
    match p s with
    | some (a, rest) =>
      let (as, left) := repeated p bound rest
      (a :: as, left)
    | none => ([], s)

/-- A parser again and again, for as long as it succeeds. A parser that takes something whenever it
succeeds cannot do so more often than there are characters, so the text itself is bound enough. -/
def many (p : Parser α) : Parser (List α) := fun s => some (repeated p s s)

/-- Items with separators between them; there may be none. -/
def sepBy (item : Parser α) (separator : Parser β) : Parser (List α) := do
  match ← optional item with
  | none => return []
  | some first =>
    let rest ← many (do let _ ← separator; item)
    return first :: rest

end Parser

end ZoneServer.Toml

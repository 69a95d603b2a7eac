import ZoneServer.Toml.Parser

/-!
# Blanks, line ends and comments

Blanks are spaces and tabs, a line ends with a line feed that a carriage return may precede, and a
comment runs from a number sign to the end of its line. No control character but the tab may stand in a
comment or, as itself, in a text.
-/

namespace ZoneServer.Toml

/-- Whether a character may stand in a comment or a text: a tab, or no control character. -/
def isPlain (c : Char) : Bool := c = '\t' || (0x20 ≤ c.toNat && c ≠ '\x7f')

/-- Whether a character is a space or a tab. -/
def isBlank (c : Char) : Bool := c = ' ' || c = '\t'

/-- Any number of blanks. -/
def blanks : Parser Unit := do let _ ← Parser.takeWhile isBlank

/-- The end of a line. -/
def lineEnd : Parser Unit := Parser.literal ['\n'] <|> Parser.literal ['\r', '\n']

/-- A comment, without the end of its line. -/
def comment : Parser Unit := do
  Parser.char '#'
  let _ ← Parser.takeWhile isPlain

/-- Any number of blanks, line ends and comments that are ended by a line end. -/
def blankLines : Parser Unit := do
  let _ ← Parser.many
    ((do let _ ← Parser.takeWhile1 isBlank) <|> lineEnd <|> (do comment; lineEnd))

end ZoneServer.Toml

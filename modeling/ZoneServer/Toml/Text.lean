import ZoneServer.Text.Hex
import ZoneServer.Toml.Space

/-!
# Texts

A text stands in double quotes, inside which a backslash starts an escape, or in single quotes, inside
which every character stands for itself. With three quotes on either side it may have several lines: a
line end right after the opening quotes is left out, a backslash at the end of a line leaves out the line
end and all blanks and line ends after it, and one or two quotes may stand anywhere, also before the
closing ones.
-/

namespace ZoneServer.Toml

/-- A character given by its code point in so many hexadecimal digits. -/
def codePointOf (width : Nat) : Parser Char := fun s =>
  let digits := s.take width
  let n := Text.hexValue digits
  if digits.length = width ∧ digits.all Text.isHexDigit ∧ n.isValidChar then
    some (Char.ofNat n, s.drop width)
  else none

/-- The rest of an escape, after the backslash. -/
def escapeRest : Parser Char := do
  match ← Parser.satisfy fun _ => true with
  | 'b' => return '\x08'
  | 't' => return '\t'
  | 'n' => return '\n'
  | 'f' => return '\x0c'
  | 'r' => return '\r'
  | '"' => return '"'
  | '\\' => return '\\'
  | 'u' => codePointOf 4
  | 'U' => codePointOf 8
  | _ => failure

/-- An escape. -/
def escape : Parser Char := do
  Parser.char '\\'
  escapeRest

/-- A character of a text in double quotes that stands for itself. -/
def basicChar : Parser Char := Parser.satisfy fun c => isPlain c && c ≠ '"' && c ≠ '\\'

/-- A character of a text in single quotes. -/
def literalChar : Parser Char := Parser.satisfy fun c => isPlain c && c ≠ '\''

/-- A text on one line in double quotes. -/
def basicText : Parser (List Char) := do
  Parser.char '"'
  let text ← Parser.many (basicChar <|> escape)
  Parser.char '"'
  return text

/-- A text on one line in single quotes. -/
def literalText : Parser (List Char) := do
  Parser.char '\''
  let text ← Parser.many literalChar
  Parser.char '\''
  return text

/-- A backslash at the end of a line, with all blanks and line ends that follow. -/
def lineContinuation : Parser Unit := do
  Parser.char '\\'
  blanks
  lineEnd
  let _ ← Parser.many ((do let _ ← Parser.takeWhile1 isBlank) <|> lineEnd)

/-- One character, or none for a line continuation, of a text on several lines. -/
def multilinePiece (quote : Char) (plain : Parser (List Char)) : Parser (List Char) :=
  plain
    <|> (do lineEnd; return ['\n'])
    <|> (do
      Parser.notHere (Parser.literal [quote, quote, quote])
      Parser.char quote
      return [quote])

/-- The closing quotes of a text on several lines, and the one or two quotes before them that belong to
the text. -/
def closingQuotes (quote : Char) : Parser (List Char) := do
  Parser.literal [quote, quote, quote]
  let more ← Parser.takeWhile (· = quote)
  Parser.require (decide (more.length ≤ 2))
  return more

/-- A text on several lines, in three quotes on either side. -/
def multilineText (quote : Char) (plain : Parser (List Char)) : Parser (List Char) := do
  Parser.literal [quote, quote, quote]
  let _ ← Parser.optional lineEnd
  let pieces ← Parser.many (multilinePiece quote plain)
  let last ← closingQuotes quote
  return pieces.flatten ++ last

/-- A text on several lines in double quotes. -/
def multilineBasicText : Parser (List Char) :=
  multilineText '"' <|
    (do return [← basicChar]) <|> (do lineContinuation; return []) <|> (do return [← escape])

/-- A text on several lines in single quotes. -/
def multilineLiteralText : Parser (List Char) := multilineText '\'' (do return [← literalChar])

/-- A text in any of its four forms. -/
def text : Parser String := do
  let cs ← multilineBasicText <|> basicText <|> multilineLiteralText <|> literalText
  return String.ofList cs

end ZoneServer.Toml

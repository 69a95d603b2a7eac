import ZoneServer.Toml.Text
import ZoneServer.Toml.Value

/-!
# Numbers

Digits may be grouped by single underscores. A whole number is decimal, with a sign if need be and no
superfluous zeros, or hexadecimal, octal or binary; it must fit in 64 bits. A floating-point number has a
fraction or an exponent or both, or is an infinity or no number; it must not be too great to be finite.
-/

namespace ZoneServer.Toml

/-! ## Digits -/

/-- Whether a character is a digit from 0 to 7. -/
def isOctalDigit (c : Char) : Bool := '0' ≤ c && c ≤ '7'

/-- Whether a character is 0 or 1. -/
def isBinaryDigit (c : Char) : Bool := c = '0' || c = '1'

/-- Digits that may follow a digit, each perhaps after an underscore. -/
def moreDigits (isDigit : Char → Bool) : Parser (List Char) :=
  Parser.many (Parser.satisfy isDigit <|> (do Parser.char '_'; Parser.satisfy isDigit))

/-- One digit or more, grouped by underscores. -/
def digits (isDigit : Char → Bool) : Parser (List Char) := do
  let first ← Parser.satisfy isDigit
  let rest ← moreDigits isDigit
  return first :: rest

/-- A sign; whether it is a minus. -/
def sign : Parser Bool := do
  let c ← Parser.optional (Parser.satisfy fun c => c = '+' || c = '-')
  return c = some '-'

/-- Decimal digits without superfluous zeros. -/
def decimalDigits : Parser (List Char) := fun s =>
  match s with
  | '0' :: rest => some (['0'], rest)
  | _ => digits Char.isDigit s

/-! ## Whole numbers -/

/-- The greatest whole number. -/
def maxInteger : Int := 9223372036854775807

/-- The number that digits of some base spell, if it is not too great. -/
def natural (marker : Char) (base : Nat) (isDigit : Char → Bool) : Parser Int := do
  Parser.literal ['0', marker]
  let ds ← digits isDigit
  let n : Int := ds.foldl (fun n c => n * base + Text.hexDigitValue c) 0
  Parser.require (decide (n ≤ maxInteger))
  return n

/-- A decimal whole number. -/
def decimal : Parser Int := do
  let negative ← sign
  let ds ← decimalDigits
  let magnitude : Int := Nat.ofDigitChars 10 ds 0
  let n := if negative then -magnitude else magnitude
  Parser.require (decide (-maxInteger - 1 ≤ n ∧ n ≤ maxInteger))
  return n

/-- A whole number. -/
def integer : Parser Int :=
  natural 'x' 16 Text.isHexDigit <|> natural 'o' 8 isOctalDigit <|> natural 'b' 2 isBinaryDigit <|> decimal

/-! ## Floating-point numbers -/

/-- A point and the digits of a fraction. -/
def fractionPart : Parser (List Char) := do
  Parser.char '.'
  digits Char.isDigit

/-- An exponent. -/
def exponentPart : Parser Int := do
  let _ ← Parser.satisfy fun c => c = 'e' || c = 'E'
  let negative ← sign
  let ds ← digits Char.isDigit
  let magnitude : Int := Nat.ofDigitChars 10 ds 0
  return if negative then -magnitude else magnitude

/-- A floating-point number in decimal digits. One that is above all finite numbers is refused, and one
that is below them is taken for the negative infinity. -/
def finiteFloat : Parser Binary64 := do
  let negative ← sign
  let whole ← decimalDigits
  let fraction ← Parser.optional fractionPart
  let exponent ← Parser.optional exponentPart
  Parser.require (fraction.isSome || exponent.isSome)
  let places := fraction.getD []
  let x := Binary64.ofDecimal negative (whole ++ places) (exponent.getD 0 - places.length)
  Parser.require (x ≠ .infinite false)
  return x

/-- An infinity, or no number. -/
def specialFloat : Parser Binary64 := do
  let negative ← sign
  (do Parser.literal ['i', 'n', 'f']; return .infinite negative)
    <|> (do Parser.literal ['n', 'a', 'n']; return .nan)

/-- A floating-point number. -/
def float : Parser Binary64 := finiteFloat <|> specialFloat

end ZoneServer.Toml

import ZoneServer.Toml.Parser
import ZoneServer.Toml.Value

/-!
# Dates and times

A date has its fields from the year down, a time from the hour down, and between the two stands a `T` or
a space; after both an offset from universal time may follow. A date or time that is spelt by a text
rather than written as a value of its own has wider limits: the hour may be 24, and of an offset only
the whole is limited, to a day.
-/

namespace ZoneServer.Toml

/-- The greatest values that fields of a time may have. -/
structure TimeLimits where
  /-- Of the hour. -/
  hour : Nat
  /-- Of the hours of an offset. -/
  offsetHours : Nat
  /-- Of the minutes of an offset. -/
  offsetMinutes : Nat
  /-- Of an offset as a whole, in minutes. -/
  offset : Nat
  deriving DecidableEq, Repr, Inhabited

/-- The limits of a date or time that is a value of its own. -/
def TimeLimits.ofValue : TimeLimits := ⟨23, 23, 59, 1439⟩

/-- The limits of a date or time that is spelt by a text. -/
def TimeLimits.ofText : TimeLimits := ⟨24, 99, 99, 1440⟩

/-- A number in exactly so many digits, within limits. -/
def fixedDigits (width low high : Nat) : Parser Nat := fun s =>
  let ds := s.take width
  let n := Nat.ofDigitChars 10 ds 0
  if ds.length = width ∧ ds.all Char.isDigit ∧ low ≤ n ∧ n ≤ high then some (n, s.drop width) else none

/-- How many days a month has. -/
def daysInMonth (year month : Nat) : Nat :=
  if month = 2 then
    if (year % 4 = 0 ∧ year % 100 ≠ 0) ∨ year % 400 = 0 then 29 else 28
  else if month = 4 ∨ month = 6 ∨ month = 9 ∨ month = 11 then 30
  else 31

/-- A date. -/
def date : Parser Date := do
  let year ← fixedDigits 4 0 9999
  Parser.char '-'
  let month ← fixedDigits 2 1 12
  Parser.char '-'
  let day ← fixedDigits 2 1 31
  Parser.require (decide (day ≤ daysInMonth year month))
  return ⟨year, month, day⟩

/-- The digits of the fraction of a second that are kept. -/
def keptFraction (ds : List Char) : List Char := ((ds.take 9).reverse.dropWhile (· = '0')).reverse

/-- A time. -/
def time (limits : TimeLimits) : Parser Time := do
  let hour ← fixedDigits 2 0 limits.hour
  Parser.char ':'
  let minute ← fixedDigits 2 0 59
  Parser.char ':'
  let second ← fixedDigits 2 0 60
  let fraction ← Parser.optional do
    Parser.char '.'
    Parser.takeWhile1 Char.isDigit
  return ⟨hour, minute, second, keptFraction (fraction.getD [])⟩

/-- An offset from universal time. -/
def offset (limits : TimeLimits) : Parser Offset :=
  (do let _ ← Parser.satisfy fun c => c = 'Z' || c = 'z'
      return .universal)
    <|> (do
      let c ← Parser.satisfy fun c => c = '+' || c = '-'
      let hours ← fixedDigits 2 0 limits.offsetHours
      Parser.char ':'
      let minutes ← fixedDigits 2 0 limits.offsetMinutes
      Parser.require (decide (hours * 60 + minutes ≤ limits.offset))
      let n : Int := (hours * 60 + minutes : Nat)
      return .minutes (if c = '-' then -n else n))

/-- A date, a time, or both. -/
def dateTime (limits : TimeLimits) : Parser DateTime :=
  (do
    let d ← date
    let rest ← Parser.optional do
      let _ ← Parser.satisfy fun c => c = 'T' || c = 't' || c = ' '
      let t ← time limits
      let o ← Parser.optional (offset limits)
      return (t, o)
    match rest with
    | some (t, o) => return .both d t o
    | none => return .date d)
    <|> (do return .time (← time limits))

/-- The date or time that a text spells. -/
def DateTime.ofText? (text : String) : Option DateTime := do
  let (d, rest) ← dateTime .ofText text.toList
  if rest = [] then some d else none

end ZoneServer.Toml

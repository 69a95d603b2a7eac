import ZoneServer.Number.Binary64

/-!
# Values of a TOML document

A document is a table, and the values in it are texts, numbers, truth values, dates and times, arrays
and tables. A date or time is kept as its fields, and has one text whichever way it was written.
-/

namespace ZoneServer.Toml

/-- A day of the calendar. -/
structure Date where
  /-- The year. -/
  year : Nat
  /-- The month, from 1. -/
  month : Nat
  /-- The day of the month, from 1. -/
  day : Nat
  deriving DecidableEq, Repr, Inhabited

/-- A time of day. -/
structure Time where
  /-- The hour. -/
  hour : Nat
  /-- The minute. -/
  minute : Nat
  /-- The second, which is 60 in a leap second. -/
  second : Nat
  /-- The digits of the fraction of the second, at most nine and without trailing zeros. -/
  fraction : List Char
  deriving DecidableEq, Repr, Inhabited

/-- How far a time is from universal time. -/
inductive Offset where
  /-- Not at all. -/
  | universal
  /-- By so many minutes, eastwards if positive. -/
  | minutes (n : Int)
  deriving DecidableEq, Repr, Inhabited

/-- A date, a time, or both, the latter perhaps with an offset. -/
inductive DateTime where
  /-- A date alone. -/
  | date (date : Date)
  /-- A time alone. -/
  | time (time : Time)
  /-- A date and a time. -/
  | both (date : Date) (time : Time) (offset : Option Offset)
  deriving DecidableEq, Repr, Inhabited

/-- A number in at least so many digits. -/
def padded (width n : Nat) : List Char :=
  let digits := Nat.toDigits 10 n
  List.replicate (width - digits.length) '0' ++ digits

/-- The text of a date. -/
def Date.text (d : Date) : List Char :=
  padded 4 d.year ++ '-' :: padded 2 d.month ++ '-' :: padded 2 d.day

/-- The text of a time. -/
def Time.text (t : Time) : List Char :=
  let whole := padded 2 t.hour ++ ':' :: padded 2 t.minute ++ ':' :: padded 2 t.second
  if t.fraction = [] then whole else whole ++ '.' :: t.fraction

/-- The text of an offset. -/
def Offset.text : Offset → List Char
  | .universal => ['Z']
  | .minutes n =>
    (if n < 0 then '-' else '+') :: padded 2 (n.natAbs / 60) ++ ':' :: padded 2 (n.natAbs % 60)

/-- The text of a date or time. -/
def DateTime.text : DateTime → String
  | .date d => String.ofList d.text
  | .time t => String.ofList t.text
  | .both d t offset =>
    String.ofList (d.text ++ 'T' :: t.text ++ (offset.map Offset.text).getD [])

/-- A value. -/
inductive Value where
  /-- A text. -/
  | string (text : String)
  /-- A whole number. -/
  | integer (n : Int)
  /-- A floating-point number. -/
  | float (x : Binary64)
  /-- A truth value. -/
  | boolean (b : Bool)
  /-- A date or time. -/
  | dateTime (d : DateTime)
  /-- Values in order. -/
  | array (items : List Value)
  /-- Values by key. -/
  | table (entries : List (String × Value))
  deriving Repr, Inhabited

end ZoneServer.Toml

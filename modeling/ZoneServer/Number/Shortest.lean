import ZoneServer.Number.Binary64

/-!
# The shortest decimal text of a number

A floating-point number is written with the fewest decimal digits that are read back as the same number,
and of the decimal numbers with so few digits with the nearest, or with the greater one if two are
equally near. The digits are written out without an exponent, and without a decimal point if there is
nothing after it.

A decimal number is read back as a number if it lies between the midpoints to the number's neighbours,
the midpoints included if the mantissa is even. `Binary64.shortest` tries one digit, two digits and so
on; with 17 digits a number is always found.
-/

namespace ZoneServer.Binary64

/-- The decimal numbers that are read back as a number, as an interval of multiples of a unit: the number
itself and the two midpoints to its neighbours. -/
structure Rounding where
  /-- The number, in units. -/
  value : Nat
  /-- The midpoint to the neighbour below, in units. -/
  low : Nat
  /-- The midpoint to the neighbour above, in units. -/
  high : Nat
  /-- How many units make one. -/
  unit : Nat
  /-- Whether the midpoints are read back as the number, too. -/
  closed : Bool

/-- The interval around `mantissa * 2 ^ exponent`. The neighbour below a power of two is nearer than the
one above it, but for the least exponent. -/
def Rounding.of (mantissa : Nat) (exponent : Int) : Rounding :=
  let narrow := mantissa = 1 <<< (mantissaBits - 1) ∧ exponent ≠ minExponent
  let (scale, unit) := match exponent with
    | .ofNat e => (1 <<< e, 4)
    | .negSucc e => (1, 4 * (1 <<< (e + 1)))
  { value := 4 * mantissa * scale
    low := (if narrow then 4 * mantissa - 1 else 4 * mantissa - 2) * scale
    high := (4 * mantissa + 2) * scale
    unit
    closed := mantissa % 2 = 0 }

/-- Whether a multiple of `1 / unit` times a fraction is read back as the number. -/
def Rounding.holds (r : Rounding) (numerator denominator : Nat) : Bool :=
  let n := numerator * r.unit
  if r.closed then r.low * denominator ≤ n ∧ n ≤ r.high * denominator
  else r.low * denominator < n ∧ n < r.high * denominator

/-- A power of ten as a fraction. -/
def tenTo : Int → Nat × Nat
  | .ofNat e => (Nat.pow 10 e, 1)
  | .negSucc e => (1, Nat.pow 10 (e + 1))

/-- A quotient rounded to the nearest natural number, a half to the greater one. -/
def roundHalfUp (numerator denominator : Nat) : Nat :=
  if 2 * (numerator % denominator) < denominator then numerator / denominator
  else numerator / denominator + 1

/-- The multiple of a power of ten that is nearest to the number, of two that are equally near the
greater one, if one is read back as the number. -/
def Rounding.nearest? (r : Rounding) (power : Int) : Option Nat :=
  let (num, den) := tenTo power
  let below := r.value * den / (r.unit * num)
  let belowHolds := r.holds (below * num) den
  let aboveHolds := r.holds ((below + 1) * num) den
  let nearest := roundHalfUp (r.value * den) (r.unit * num)
  if belowHolds ∧ aboveHolds then some nearest
  else if belowHolds then some below
  else if aboveHolds then some (below + 1)
  else none

/-- The least power of ten, from an exponent down, that is not above a number of units. -/
def Rounding.leadingPower (r : Rounding) : Nat → Int → Int
  | 0, power => power
  | steps + 1, power =>
    let (num, den) := tenTo power
    if r.unit * num ≤ r.value * den then power else leadingPower r steps (power - 1)

/-- The digits and the power of ten of the shortest decimal number, tried with ever more digits. -/
def Rounding.search (r : Rounding) : Nat → Int → Nat × Int
  | 0, power => (r.value * (tenTo power).2 / (r.unit * (tenTo power).1), power)
  | steps + 1, power =>
    match r.nearest? power with
    | some digits => (digits, power)
    | none => search r steps (power - 1)

/-- The shortest decimal number that is read back as `mantissa * 2 ^ exponent`: a natural number and the
power of ten that it is multiplied by. -/
def shortest (mantissa : Nat) (exponent : Int) : Nat × Int :=
  let r := Rounding.of mantissa exponent
  r.search 17 (r.leadingPower 640 310)

/-- The digits of `digits * 10 ^ power` written out. -/
def positional (digits : Nat) (power : Int) : List Char :=
  let text := Nat.toDigits 10 digits
  match power with
  | .ofNat e => text ++ List.replicate e '0'
  | .negSucc e =>
    let places := e + 1
    let padded := List.replicate (places + 1 - text.length) '0' ++ text
    let fraction := (padded.drop (padded.length - places)).reverse.dropWhile (· = '0')
    let whole := padded.take (padded.length - places)
    if fraction = [] then whole else whole ++ '.' :: fraction.reverse

/-- The text of a number. -/
def text : Binary64 → String
  | .nan => "NaN"
  | .infinite negative => if negative then "-inf" else "inf"
  | .finite negative mantissa exponent =>
    let digits :=
      if mantissa = 0 then ['0']
      else positional (shortest mantissa exponent).1 (shortest mantissa exponent).2
    String.ofList (if negative then '-' :: digits else digits)

/-- The text of a number, with a decimal point even if there is nothing after it. -/
def pointedText (x : Binary64) : String :=
  match x with
  | .finite _ _ _ => if x.text.toList.contains '.' then x.text else x.text ++ ".0"
  | _ => x.text

end ZoneServer.Binary64

/-!
# Floating-point numbers

A floating-point number in a configuration is a binary64 number: a sign, a mantissa of at most 53 bits
and a power of two, or an infinity, or no number at all. A decimal number is rounded to the nearest of
them, and of two that are equally near to the one with the even mantissa (`Binary64.ofDecimal`). All of
it is done in exact arithmetic on natural numbers.
-/

namespace ZoneServer

/-- A binary64 number. -/
inductive Binary64 where
  /-- No number. -/
  | nan
  /-- An infinity. -/
  | infinite (negative : Bool)
  /-- The number `mantissa * 2 ^ exponent`, or its negative. The mantissa has 53 bits, or fewer if the
  exponent is the least there is. -/
  | finite (negative : Bool) (mantissa : Nat) (exponent : Int)
  deriving DecidableEq, Repr, Inhabited

namespace Binary64

/-- The bits of a mantissa. -/
def mantissaBits : Nat := 53

/-- The least exponent. -/
def minExponent : Int := -1074

/-- The greatest exponent. -/
def maxExponent : Int := 971

/-- Zero. -/
def zero (negative : Bool) : Binary64 := .finite negative 0 minExponent

/-- A quotient rounded to the nearest natural number, a half to the even one. -/
def roundHalfEven (numerator denominator : Nat) : Nat :=
  let quotient := numerator / denominator
  let rest := 2 * (numerator % denominator)
  if rest < denominator ∨ (rest = denominator ∧ quotient % 2 = 0) then quotient else quotient + 1

/-- The quotient of a fraction by a power of two, as a fraction. -/
def scaled (numerator denominator : Nat) (exponent : Int) : Nat × Nat :=
  match exponent with
  | .ofNat e => (numerator, denominator * (1 <<< e))
  | .negSucc e => (numerator * (1 <<< (e + 1)), denominator)

/-- The number with a mantissa that may have grown by one bit in rounding, or an infinity if its
exponent is too great. -/
def normalized (negative : Bool) (mantissa : Nat) (exponent : Int) : Binary64 :=
  let (mantissa, exponent) :=
    if mantissa = 1 <<< mantissaBits then (1 <<< (mantissaBits - 1), exponent + 1)
    else (mantissa, exponent)
  if exponent ≤ maxExponent then .finite negative mantissa exponent else .infinite negative

/-- The exponent with which a fraction has a mantissa of 53 bits, or the least exponent. -/
def exponentOf (numerator denominator : Nat) : Int :=
  let estimate : Int := (numerator.log2 : Int) - denominator.log2 - mantissaBits
  let (n, d) := scaled numerator denominator estimate
  let fitted := if n / d < 1 <<< mantissaBits then estimate else estimate + 1
  max fitted minExponent

/-- The number nearest to a fraction. -/
def ofFraction (negative : Bool) (numerator denominator : Nat) : Binary64 :=
  if numerator = 0 then zero negative
  else
    let exponent := exponentOf numerator denominator
    let (n, d) := scaled numerator denominator exponent
    normalized negative (roundHalfEven n d) exponent

/-- The number nearest to `digits * 10 ^ exponent`, where the digits are decimal. Numbers far outside
the range are not computed. -/
def ofDecimal (negative : Bool) (digits : List Char) (exponent : Int) : Binary64 :=
  let significant := digits.dropWhile (· = '0')
  let magnitude : Int := significant.length + exponent
  if significant = [] ∨ magnitude < -400 then zero negative
  else if 400 < magnitude then .infinite negative
  else
    let value := Nat.ofDigitChars 10 significant 0
    match exponent with
    | .ofNat e => ofFraction negative (value * Nat.pow 10 e) 1
    | .negSucc e => ofFraction negative value (Nat.pow 10 (e + 1))

/-- The nearest natural number up to a limit, a half away from zero. Numbers below zero and what is no
number give zero. -/
def toNatUpTo (limit : Nat) : Binary64 → Nat
  | .nan => 0
  | .infinite negative => if negative then 0 else limit
  | .finite true _ _ => 0
  | .finite false mantissa exponent =>
    match exponent with
    | .ofNat e => min limit (mantissa * (1 <<< e))
    | .negSucc e => min limit ((2 * mantissa + (1 <<< (e + 1))) / (1 <<< (e + 2)))

end Binary64

end ZoneServer

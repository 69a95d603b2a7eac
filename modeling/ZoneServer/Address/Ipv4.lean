import ZoneServer.Octets
import ZoneServer.Wire.Error

/-!
# IPv4 addresses

An IPv4 address is written as four decimal numbers from 0 to 255 with dots between them. The records of
a zone take such texts with any number of leading zeros (`Ipv4.parse`); the address of a server is read
strictly, without superfluous zeros (`Ipv4.ofCanonical?`). `Ipv4.text` writes the canonical text.
-/

namespace ZoneServer

/-- An IPv4 address, as its four octets. -/
structure Ipv4 where
  /-- The first octet. -/
  first : UInt8
  /-- The second octet. -/
  second : UInt8
  /-- The third octet. -/
  third : UInt8
  /-- The fourth octet. -/
  fourth : UInt8
  deriving DecidableEq, Repr, Inhabited

namespace Ipv4

/-- The octets in network order. -/
def octets (address : Ipv4) : Octets :=
  [address.first, address.second, address.third, address.fourth]

/-- The address of four octets; octets that are missing are zero. -/
def ofOctets (os : Octets) : Ipv4 := ⟨os.getD 0 0, os.getD 1 0, os.getD 2 0, os.getD 3 0⟩

/-- The canonical text: four decimal numbers without leading zeros. -/
def text (address : Ipv4) : String :=
  String.ofList (List.intercalate ['.'] (address.octets.map fun o => Nat.toDigits 10 o.toNat))

/-- The octet that a non-empty run of decimal digits spells, if it is at most 255. -/
def octet? (digits : List Char) : Option UInt8 :=
  if digits ≠ [] ∧ digits.all Char.isDigit ∧ Nat.ofDigitChars 10 digits 0 ≤ 255 then
    some (UInt8.ofNat (Nat.ofDigitChars 10 digits 0))
  else none

/-- The address that four parts spell, each read by the same rule. -/
def ofParts? (part? : List Char → Option UInt8) : List (List Char) → Option Ipv4
  | [p, q, r, s] => do
    return ⟨← part? p, ← part? q, ← part? r, ← part? s⟩
  | _ => none

/-- The address that a text spells; its numbers may have leading zeros. -/
def ofString? (text : String) : Option Ipv4 := ofParts? octet? (text.toList.splitOn '.')

/-- Reads the address that a text spells. A text that spells none is an error with the text in it. -/
def parse (text : String) : Except EncodeError Ipv4 :=
  match ofString? text with
  | some address => .ok address
  | none => .error (.invalidAddress text)

/-- An octet without superfluous zeros. -/
def canonicalOctet? (digits : List Char) : Option UInt8 :=
  if digits.length = 1 ∨ digits.head? ≠ some '0' then octet? digits else none

/-- The address that a canonical text spells. -/
def ofCanonical? (text : List Char) : Option Ipv4 := ofParts? canonicalOctet? (text.splitOn '.')

end Ipv4

end ZoneServer

import ZoneServer.Address.Ipv4
import ZoneServer.Text.Hex

/-!
# IPv6 addresses

An IPv6 address is eight groups of 16 bits, written in hexadecimal with colons between them. Two colons
stand for one group of zeros or more, at one place at most, and the last two groups may be written as an
IPv4 address. The canonical text has no superfluous zeros and puts the two colons in place of the longest
run of zeros, the first of equally long ones, if it has two groups at least; an address that stands for
an IPv4 address shows it as such.
-/

namespace ZoneServer

/-- An IPv6 address, as its eight groups. -/
structure Ipv6 where
  /-- The groups. -/
  groups : List UInt16
  /-- There are eight of them. -/
  length_groups : groups.length = 8
  deriving DecidableEq, Repr

namespace Ipv6

/-! ## Reading -/

/-- The group that one to four hexadecimal digits spell. -/
def group? (digits : List Char) : Option UInt16 :=
  if digits ≠ [] ∧ digits.length ≤ 4 ∧ digits.all Text.isHexDigit then
    some (UInt16.ofNat (Text.hexValue digits))
  else none

/-- The two groups that an IPv4 address takes. -/
def groupsOfIpv4 (address : Ipv4) : List UInt16 :=
  [UInt16.ofNat (address.first.toNat * 256 + address.second.toNat),
   UInt16.ofNat (address.third.toNat * 256 + address.fourth.toNat)]

/-- The groups that parts of a text spell, of which the last may be an IPv4 address if `mixed`. -/
def groupsOfParts (mixed : Bool) : List (List Char) → Option (List UInt16)
  | [] => some []
  | [last] =>
    match group? last with
    | some g => some [g]
    | none => if mixed then (Ipv4.ofCanonical? last).map groupsOfIpv4 else none
  | part :: rest => do
    let g ← group? part
    let gs ← groupsOfParts mixed rest
    return g :: gs

/-- The groups that a text without two colons in a row spells; the empty text spells none. -/
def groupsOf (mixed : Bool) (text : List Char) : Option (List UInt16) :=
  if text = [] then some [] else groupsOfParts mixed (text.splitOn ':')

/-- The text before the first two colons in a row and the text after them. -/
def cut : List Char → Option (List Char × List Char)
  | ':' :: ':' :: rest => some ([], rest)
  | c :: rest => (cut rest).map fun (before, after) => (c :: before, after)
  | [] => none

/-- An address of the given groups, if there are eight. -/
def ofGroups? (groups : List UInt16) : Option Ipv6 :=
  if h : groups.length = 8 then some ⟨groups, h⟩ else none

/-- The address that a text spells. -/
def ofText? (text : List Char) : Option Ipv6 :=
  match cut text with
  | none => do ofGroups? (← groupsOf true text)
  | some (before, after) => do
    let front ← groupsOf false before
    let back ← groupsOf true after
    let given := front.length + back.length
    if given ≤ 7 then ofGroups? (front ++ List.replicate (8 - given) 0 ++ back) else none

/-! ## Writing -/

/-- The IPv4 address that an address stands for, if it does. -/
def ipv4? (address : Ipv6) : Option Ipv4 :=
  match address.groups with
  | [0, 0, 0, 0, 0, 0xffff, high, low] =>
    some (Ipv4.ofOctets (Octets.ofNat 2 high.toNat ++ Octets.ofNat 2 low.toNat))
  | _ => none

/-- The length of the run of zeros at the front of some groups. -/
def zeros (groups : List UInt16) : Nat := (groups.takeWhile (· = 0)).length

/-- The place and the length of the longest run of zeros, the first of equally long ones; `place` is that
of the first of the groups. -/
def longestZeros (place : Nat) : List UInt16 → Nat × Nat
  | [] => (place, 0)
  | group :: rest =>
    let here := zeros (group :: rest)
    let later := longestZeros (place + 1) rest
    if later.2 ≤ here then (place, here) else later

/-- Groups in hexadecimal with colons between them. -/
def groupsText (groups : List UInt16) : List Char :=
  List.intercalate [':'] (groups.map fun g => Nat.toDigits 16 g.toNat)

/-- The canonical text. -/
def text (address : Ipv6) : String :=
  match address.ipv4? with
  | some ipv4 => "::ffff:" ++ ipv4.text
  | none =>
    let (place, length) := longestZeros 0 address.groups
    if 1 < length then
      String.ofList (groupsText (address.groups.take place) ++ [':', ':'] ++
        groupsText (address.groups.drop (place + length)))
    else String.ofList (groupsText address.groups)

end Ipv6

end ZoneServer

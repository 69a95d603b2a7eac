import ZoneServer.Octets
import ZoneServer.Wire.Error

/-!
# Reading from a datagram

A `Cursor` is a datagram with a place in it, and a `Decoder α` reads an `α` at that place. A decoder
that fails also leaves a cursor, the one at which it failed, because a reader may go on after a
failure. The primitive decoders take all of their octets or none: `octets_of_le` and `octets_of_lt`
say when they succeed and that a failure does not move the cursor.
-/

namespace ZoneServer

/-- A datagram and a place in it. -/
structure Cursor where
  /-- The octets that were received. -/
  datagram : Array UInt8
  /-- How many octets come before the place. -/
  position : Nat
  deriving DecidableEq, Repr, Inhabited

namespace Cursor

/-- The start of a datagram. -/
def ofOctets (datagram : Octets) : Cursor := ⟨datagram.toArray, 0⟩

/-- The start of the first `length` octets of a datagram, or of all of it if it is shorter. -/
def ofPrefix (datagram : Octets) (length : Nat) : Cursor := ofOctets (datagram.take length)

/-- How many octets come after the place. -/
def remaining (c : Cursor) : Nat := c.datagram.size - c.position

/-- Whether no octet comes after the place. -/
def isExhausted (c : Cursor) : Bool := c.datagram.size ≤ c.position

end Cursor

/-- Reads an `α` and moves on, or fails and stays where the failure was found. -/
abbrev Decoder (α : Type) := EStateM DecodeError Cursor α

namespace Decoder

/-- The current place. -/
def position : Decoder Nat := fun c => .ok c.position c

/-- Goes to a place. -/
def seek (position : Nat) : Decoder Unit := fun c => .ok () { c with position }

/-- The next `n` octets. -/
def octets (n : Nat) : Decoder Octets := fun c =>
  if c.position + n ≤ c.datagram.size then
    .ok (c.datagram.extract c.position (c.position + n)).toList { c with position := c.position + n }
  else .error .truncated c

/-- The next octet. -/
def uint8 : Decoder UInt8 := do return UInt8.ofNat (Octets.toNat (← octets 1))

/-- The next two octets, as a number. -/
def uint16 : Decoder UInt16 := do return UInt16.ofNat (Octets.toNat (← octets 2))

/-- The next four octets, as a number. -/
def uint32 : Decoder UInt32 := do return UInt32.ofNat (Octets.toNat (← octets 4))

/-- The same item `n` times. -/
def times {α : Type} (item : Decoder α) : Nat → Decoder (List α)
  | 0 => pure []
  | n + 1 => do
    let first ← item
    let rest ← times item n
    return first :: rest

/-- Enough octets are read, and the cursor moves past them. -/
theorem octets_of_le {n : Nat} {c : Cursor} (h : c.position + n ≤ c.datagram.size) :
    octets n c = .ok (c.datagram.extract c.position (c.position + n)).toList
      { c with position := c.position + n } := if_pos h

/-- Too few octets are not read at all, and the cursor does not move. -/
theorem octets_of_lt {n : Nat} {c : Cursor} (h : c.datagram.size < c.position + n) :
    octets n c = .error .truncated c := if_neg (Nat.not_le.2 h)

end Decoder

end ZoneServer

/-!
# Octets in network order

Everything that travels in a datagram is a list of octets, and every number in it is written with
its highest octet first. `Octets.toNat` reads such a number and `Octets.ofNat` writes one of a given
width. The two are inverse on numbers that fit.
-/

namespace ZoneServer

/-- A sequence of octets. -/
abbrev Octets := List UInt8

namespace Octets

/-- The number that the octets spell, highest octet first. -/
def toNat (os : Octets) : Nat := os.foldl (fun n o => n * 256 + o.toNat) 0

/-- The lowest `width` octets of a number, highest octet first. -/
def ofNat : Nat → Nat → Octets
  | 0, _ => []
  | width + 1, n => UInt8.ofNat (n >>> (8 * width)) :: ofNat width n

/-- A number takes exactly the octets it was given. -/
@[simp] theorem length_ofNat (width n : Nat) : (ofNat width n).length = width := by
  induction width with
  | zero => rfl
  | succ width ih => simp [ofNat, ih]

end Octets

end ZoneServer

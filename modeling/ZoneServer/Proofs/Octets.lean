import Mathlib.Algebra.Ring.Nat
import ZoneServer.Octets

/-!
# Numbers in octets

Octets spell a number in base 256. Writing a number and reading it give it back, cut to the octets that there
are (`Octets.toNat_ofNat`), and reading octets and writing what was read give the octets back
(`Octets.ofNat_toNat`).
-/

namespace ZoneServer.Octets

/-- The first octet is what is left of the number without the octets that follow it. -/
theorem ofNat_succ (width n : Nat) :
    ofNat (width + 1) n = UInt8.ofNat (n / 256 ^ width) :: ofNat width n := by
  rw [ofNat, Nat.shiftRight_eq_div_pow, Nat.pow_mul]

/-- Reading from a number already read shifts that number by the octets that follow. -/
theorem foldl_eq (os : Octets) (n : Nat) :
    os.foldl (fun n o => n * 256 + o.toNat) n = n * 256 ^ os.length + toNat os := by
  induction os generalizing n with
  | nil => simp [toNat]
  | cons o os ih =>
    simp only [toNat, List.foldl_cons, List.length_cons]
    rw [ih, ih (0 * 256 + o.toNat)]
    rw [Nat.zero_mul, Nat.zero_add, Nat.add_mul, Nat.pow_succ', Nat.mul_assoc, Nat.add_assoc]

/-- The first octet counts for as many powers of 256 as octets follow it. -/
theorem toNat_cons (o : UInt8) (os : Octets) :
    toNat (o :: os) = o.toNat * 256 ^ os.length + toNat os := by
  rw [toNat, List.foldl_cons, foldl_eq]
  simp

/-- Octets spell a number below the power of 256 of their count. -/
theorem toNat_lt (os : Octets) : toNat os < 256 ^ os.length := by
  induction os with
  | nil => simp [toNat]
  | cons o os ih =>
    rw [toNat_cons, List.length_cons, Nat.pow_succ']
    have h : o.toNat + 1 ≤ 256 := o.toNat_lt
    calc o.toNat * 256 ^ os.length + toNat os
        < o.toNat * 256 ^ os.length + 256 ^ os.length := by omega
      _ = (o.toNat + 1) * 256 ^ os.length := by rw [Nat.add_mul, Nat.one_mul]
      _ ≤ 256 * 256 ^ os.length := Nat.mul_le_mul_right _ h

/-- Reading what was written gives the number back, cut to the width. -/
theorem toNat_ofNat (width n : Nat) : toNat (ofNat width n) = n % 256 ^ width := by
  induction width with
  | zero => simp [toNat, ofNat, Nat.mod_one]
  | succ width ih =>
    rw [ofNat_succ, toNat_cons, length_ofNat, ih, Nat.pow_succ, Nat.mod_mul, UInt8.toNat_ofNat',
      Nat.mul_comm, Nat.add_comm]

/-- Writing what was read gives the octets back. -/
theorem ofNat_toNat (os : Octets) : ofNat os.length (toNat os) = os := by
  suffices h : ∀ n, ofNat os.length (n * 256 ^ os.length + toNat os) = os by simpa using h 0
  induction os with
  | nil => intro n; rfl
  | cons o os ih =>
    intro n
    have hpos : 0 < 256 ^ os.length := Nat.pow_pos (by decide)
    have hread : n * 256 ^ (os.length + 1) + toNat (o :: os)
        = (n * 256 + o.toNat) * 256 ^ os.length + toNat os := by
      rw [toNat_cons, Nat.pow_succ', Nat.add_mul, Nat.mul_assoc, Nat.add_assoc]
    rw [List.length_cons, hread, ofNat_succ, ih]
    congr 1
    rw [Nat.add_comm, Nat.add_mul_div_right _ _ hpos, Nat.div_eq_of_lt (toNat_lt os), Nat.zero_add,
      Nat.add_comm, UInt8.ofNat_add, UInt8.ofNat_toNat]
    have h256 : UInt8.ofNat (n * 256) = 0 := by
      apply UInt8.toNat_inj.1
      simp
    rw [h256, UInt8.add_zero]

end ZoneServer.Octets

import Mathlib.Order.Nat
import ZoneServer.Address.Ipv4

/-!
# The canonical text of an IPv4 address

The text of an address spells that address (`Ipv4.ofString?_text`), and so do its octets.
-/

namespace ZoneServer.Ipv4

theorem parse_eq_ok {text : String} {address : Ipv4} :
    parse text = .ok address ↔ ofString? text = some address := by
  unfold parse
  cases ofString? text <;> simp

theorem parse_eq_error {text : String} {cause : EncodeError} :
    parse text = .error cause ↔ ofString? text = none ∧ cause = .invalidAddress text := by
  unfold parse
  cases ofString? text <;> simp [eq_comm]

theorem octet?_toDigits (n : UInt8) : octet? (Nat.toDigits 10 n.toNat) = some n := by
  have hne : Nat.toDigits 10 n.toNat ≠ [] := Nat.toDigits_ne_nil
  have hdigits : (Nat.toDigits 10 n.toNat).all Char.isDigit = true := by
    rw [List.all_eq_true]
    exact fun c hc => Nat.isDigit_of_mem_toDigits (by decide) (by decide) hc
  have hvalue : Nat.ofDigitChars 10 (Nat.toDigits 10 n.toNat) 0 = n.toNat :=
    Nat.ofDigitChars_ten_toDigits
  have hle : n.toNat ≤ 255 := Nat.le_of_lt_succ n.toNat_lt
  rw [octet?, hvalue, if_pos ⟨hne, hdigits, hle⟩, UInt8.ofNat_toNat]

theorem dot_not_mem_toDigits (n : Nat) : '.' ∉ Nat.toDigits 10 n := by
  intro hmem
  have hdigit : Char.isDigit '.' = true :=
    Nat.isDigit_of_mem_toDigits (by decide) (by decide) hmem
  exact absurd hdigit (by decide)

/-- The text of an address spells the address. -/
theorem ofString?_text (address : Ipv4) : ofString? address.text = some address := by
  have hparts : address.text.toList.splitOn '.' =
      address.octets.map fun o => Nat.toDigits 10 o.toNat := by
    rw [text, String.toList_ofList]
    refine List.splitOn_intercalate '.' ?_ (by simp [octets])
    rintro _ hpart
    obtain ⟨o, -, rfl⟩ := List.mem_map.1 hpart
    exact dot_not_mem_toDigits o.toNat
  rw [ofString?, hparts]
  simp [octets, ofParts?, octet?_toDigits]

/-- Four octets are those of the address that they spell. -/
theorem octets_ofOctets {os : Octets} (h : os.length = 4) : (ofOctets os).octets = os := by
  match os, h with
  | [_, _, _, _], _ => rfl

end ZoneServer.Ipv4

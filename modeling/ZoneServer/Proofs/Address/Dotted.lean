import Mathlib.Data.Nat.Digits.Defs
import ZoneServer.Proofs.Address.Ipv4

/-!
# Numbers with dots between them

The texts that spell an address are just those in dotted decimal, with any number of zeros before each number
(`Ipv4.ofString?_eq_some`). The canonical text is one of them.
-/

namespace ZoneServer.Ipv4

/-- An octet in decimal: one digit or more, whose value is the octet. -/
structure Decimal (digits : List Char) (o : UInt8) : Prop where
  ne_nil : digits ≠ []
  digit : ∀ c ∈ digits, '0' ≤ c ∧ c ≤ '9'
  value : Nat.ofDigits 10 (digits.reverse.map fun c => c.toNat - '0'.toNat) = o.toNat

/-- The four octets of an address in decimal, with dots between them. -/
def Dotted (text : List Char) (address : Ipv4) : Prop :=
  ∃ p q r s, text = p ++ '.' :: q ++ '.' :: r ++ '.' :: s ∧ Decimal p address.first ∧
    Decimal q address.second ∧ Decimal r address.third ∧ Decimal s address.fourth

variable {digits : List Char} {o : UInt8} {address : Ipv4}

/-! ## One number -/

theorem isDigit_iff {c : Char} : c.isDigit = true ↔ '0' ≤ c ∧ c ≤ '9' := Char.isDigit_iff_toNat

/-- Reading digits from the left gives the number whose digits they are from the right. -/
theorem ofDigitChars_eq_ofDigits (digits : List Char) : Nat.ofDigitChars 10 digits 0 =
    Nat.ofDigits 10 (digits.reverse.map fun c => c.toNat - '0'.toNat) := by
  rw [Nat.ofDigits_eq_foldr, List.foldr_map, List.foldr_reverse, Nat.ofDigitChars_eq_foldl]
  congr 1
  funext value c
  exact Nat.add_comm _ _

theorem octet?_eq_some : octet? digits = some o ↔ Decimal digits o := by
  have hvalue := ofDigitChars_eq_ofDigits digits
  have hdigit : digits.all Char.isDigit = true ↔ ∀ c ∈ digits, '0' ≤ c ∧ c ≤ '9' := by
    simp only [List.all_eq_true, isDigit_iff]
  simp only [octet?, hdigit, hvalue]
  constructor
  · intro h
    obtain ⟨⟨hne, hall, hle⟩, ho⟩ := Option.ite_none_right_eq_some.1 h
    cases ho
    refine ⟨hne, hall, ?_⟩
    rw [UInt8.toNat_ofNat_of_lt' (Nat.lt_succ_of_le hle)]
  · rintro ⟨hne, hall, ho⟩
    have hle : o.toNat ≤ 255 := Nat.le_of_lt_succ o.toNat_lt
    rw [ho, if_pos ⟨hne, hall, hle⟩, UInt8.ofNat_toNat]

theorem Decimal.dot_not_mem (h : Decimal digits o) : '.' ∉ digits := by
  intro hmem
  exact absurd (h.digit '.' hmem) (by decide)

/-! ## Four numbers -/

theorem ofParts?_eq_some {part? : List Char → Option UInt8} {parts : List (List Char)} :
    ofParts? part? parts = some address ↔ ∃ p q r s, parts = [p, q, r, s] ∧
      part? p = some address.first ∧ part? q = some address.second ∧
      part? r = some address.third ∧ part? s = some address.fourth := by
  constructor
  · intro h
    unfold ofParts? at h
    split at h
    · rename_i p q r s
      simp only [bind, Option.bind_eq_some_iff, pure, Option.some.injEq] at h
      obtain ⟨a, hp, b, hq, c, hr, d, hs, rfl⟩ := h
      exact ⟨p, q, r, s, rfl, hp, hq, hr, hs⟩
    · cases h
  · rintro ⟨p, q, r, s, rfl, hp, hq, hr, hs⟩
    simp only [ofParts?, hp, hq, hr, hs]
    rfl

theorem intercalate_four (p q r s : List Char) :
    List.intercalate ['.'] [p, q, r, s] = p ++ '.' :: q ++ '.' :: r ++ '.' :: s := by
  simp [List.intercalate, List.intersperse]

/-- A text spells an address just if it is the address in dotted decimal. -/
theorem ofString?_eq_some {text : String} :
    ofString? text = some address ↔ Dotted text.toList address := by
  unfold ofString? Dotted
  simp only [ofParts?_eq_some, octet?_eq_some]
  constructor
  · rintro ⟨p, q, r, s, hparts, hnumbers⟩
    have hjoined : List.intercalate ['.'] (text.toList.splitOn '.') = text.toList :=
      List.intercalate_splitOn '.'
    rw [hparts, intercalate_four] at hjoined
    exact ⟨p, q, r, s, hjoined.symm, hnumbers⟩
  · rintro ⟨p, q, r, s, htext, hp, hq, hr, hs⟩
    refine ⟨p, q, r, s, ?_, hp, hq, hr, hs⟩
    rw [htext, ← intercalate_four]
    refine List.splitOn_intercalate '.' ?_ (List.cons_ne_nil p _)
    -- a number has only digits, so the dots are those between the numbers
    intro part hmem
    simp only [List.mem_cons, List.not_mem_nil, or_false] at hmem
    rcases hmem with rfl | rfl | rfl | rfl
    · exact hp.dot_not_mem
    · exact hq.dot_not_mem
    · exact hr.dot_not_mem
    · exact hs.dot_not_mem

theorem ofString?_eq_none {text : String} :
    ofString? text = none ↔ ∀ address, ¬ Dotted text.toList address := by
  simp only [Option.eq_none_iff_forall_ne_some, ne_eq, ofString?_eq_some]

end ZoneServer.Ipv4

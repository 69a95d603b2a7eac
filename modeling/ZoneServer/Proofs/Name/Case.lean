import Mathlib.Data.List.Forall2
import ZoneServer.Proofs.Name.Form

/-!
# One name in two spellings

Names that are the same up to the case of letters take the same number of octets, label by label, and
where their octets differ, a letter stands in the text of a label (`Name.Alike.differAt`). The octets of
two lists of items are compared item by item (`Octets.differAt_flatMap`), so what is known about labels
carries over to names and from names to questions.
-/

namespace ZoneServer

namespace Octets

/-! ## Where octets differ -/

/-- An octet with an ASCII letter in lower case. -/
def lowerCase (o : UInt8) : UInt8 := if 65 ≤ o ∧ o ≤ 90 then o + 32 else o

/-- At this index there are two different octets. -/
structure DifferAt (os os' : Octets) (i : Nat) (o o' : UInt8) : Prop where
  left : os[i]? = some o
  right : os'[i]? = some o'
  ne : o ≠ o'

variable {os os' rest rest' : Octets} {i : Nat} {o o' : UInt8}

theorem DifferAt.irrefl : ¬ DifferAt os os i o o' := by
  intro h
  exact h.ne (Option.some.inj (h.left.symm.trans h.right))

/-- Octets after as many others differ as they do by themselves. -/
theorem DifferAt.append (hlength : os.length = os'.length)
    (h : DifferAt (os ++ rest) (os' ++ rest') i o o') :
    (i < os.length ∧ DifferAt os os' i o o') ∨
      ∃ j, i = os.length + j ∧ DifferAt rest rest' j o o' := by
  obtain ⟨hleft, hright, hne⟩ := h
  by_cases hi : i < os.length
  · rw [List.getElem?_append_left hi] at hleft
    rw [List.getElem?_append_left (hlength ▸ hi)] at hright
    exact .inl ⟨hi, hleft, hright, hne⟩
  · have hge : os.length ≤ i := Nat.not_lt.1 hi
    rw [List.getElem?_append_right hge] at hleft
    rw [List.getElem?_append_right (hlength ▸ hge), ← hlength] at hright
    exact .inr ⟨i - os.length, (Nat.add_sub_cancel' hge).symm, hleft, hright, hne⟩

section Items

variable {α : Type} {R : α → α → Prop} {wire : α → Octets} {as bs : List α}

theorem length_flatMap_eq (h : List.Forall₂ R as bs)
    (hlength : ∀ a b, R a b → (wire a).length = (wire b).length) :
    (as.flatMap wire).length = (bs.flatMap wire).length := by
  induction h with
  | nil => rfl
  | cons hab _ ih =>
    rw [List.flatMap_cons, List.flatMap_cons, List.length_append, List.length_append, ih,
      hlength _ _ hab]

/-- The octets of items of the same lengths differ in the octets of one of them. -/
theorem differAt_flatMap (h : List.Forall₂ R as bs)
    (hlength : ∀ a b, R a b → (wire a).length = (wire b).length)
    (hdiffer : DifferAt (as.flatMap wire) (bs.flatMap wire) i o o') :
    ∃ before a after b j, as = before ++ a :: after ∧ R a b ∧
      i = (before.flatMap wire).length + j ∧ DifferAt (wire a) (wire b) j o o' := by
  induction h generalizing i with
  | nil =>
    have hnil := hdiffer.left
    cases hnil
  | @cons a b as bs hab _ ih =>
    rw [List.flatMap_cons, List.flatMap_cons] at hdiffer
    rcases hdiffer.append (hlength _ _ hab) with ⟨-, hhere⟩ | ⟨j, rfl, hrest⟩
    · exact ⟨[], a, as, b, i, rfl, hab, (Nat.zero_add i).symm, hhere⟩
    · obtain ⟨before, a', after, b', k, rfl, hab', rfl, hthere⟩ := ih hrest
      refine ⟨a :: before, a', after, b', k, rfl, hab', ?_, hthere⟩
      rw [List.flatMap_cons, List.length_append, Nat.add_assoc]

end Items

end Octets

/-! ## Labels -/

namespace Label

open Octets

theorem toLower_of_not_ascii {c : Char} (h : ¬ c.toNat < 128) : c.toLower = c := by
  have hletter : ¬ (c.val ≥ 'A'.val ∧ c.val ≤ 'Z'.val) := by
    rintro ⟨-, hle⟩
    have hnat : c.toNat ≤ 90 := UInt32.le_iff_toNat_le.1 hle
    omega
  exact dif_neg hletter

theorem toNat_toLower_lt {c : Char} (h : c.toNat < 128) : c.toLower.toNat < 128 := by
  have hall : ∀ n < 128, (Char.ofNat n).toLower.toNat < 128 := by decide
  have hc := hall c.toNat h
  rwa [Char.ofNat_toNat] at hc

theorem toNat_toLower_lt_iff {c : Char} : c.toLower.toNat < 128 ↔ c.toNat < 128 := by
  by_cases hascii : c.toNat < 128
  · exact ⟨fun _ => hascii, toNat_toLower_lt⟩
  · rw [toLower_of_not_ascii hascii]

theorem utf8Size_toLower (c : Char) : c.toLower.utf8Size = c.utf8Size := by
  by_cases hascii : c.toNat < 128
  · rw [utf8Size_eq_one hascii, utf8Size_eq_one (toNat_toLower_lt hascii)]
  · rw [toLower_of_not_ascii hascii]

theorem octetLength_folded (label : Label) : label.folded.octetLength = label.octetLength := by
  induction label with
  | nil => rfl
  | cons c label ih =>
    rw [folded, List.map_cons, octetLength_cons, octetLength_cons, utf8Size_toLower, ← ih]
    rfl

theorem isAscii_folded (label : Label) : label.folded.isAscii = label.isAscii := by
  simp only [isAscii, folded, List.all_map, Function.comp_def, toNat_toLower_lt_iff]

theorem isValid_folded (label : Label) : label.folded.isValid = label.isValid := by
  have hempty : label.folded.isEmpty = label.isEmpty := by simp [folded]
  rw [isValid, isValid, hempty, octetLength_folded, isAscii_folded]

theorem lowerCase_ofNat {c : Char} (h : c.toNat < 128) :
    lowerCase (UInt8.ofNat c.toNat) = UInt8.ofNat c.toLower.toNat := by
  have hall : ∀ n < 128, lowerCase (UInt8.ofNat (Char.ofNat n).toNat) =
      UInt8.ofNat (Char.ofNat n).toLower.toNat := by decide
  have hc := hall c.toNat h
  rwa [Char.ofNat_toNat] at hc

theorem map_lowerCase_octets {label : Label} (h : label.isAscii = true) :
    label.octets.map lowerCase = label.folded.octets := by
  induction label with
  | nil => rfl
  | cons c label ih =>
    obtain ⟨hc, hlabel⟩ := isAscii_cons.1 h
    have hrest := ih hlabel
    simp only [octets, folded, List.map_cons, lowerCase_ofNat hc] at hrest ⊢
    rw [hrest]

/-- Two valid labels are the same up to the case of letters. -/
structure Alike (label label' : Label) : Prop where
  valid : label.isValid = true
  valid' : label'.isValid = true
  folded_eq : label.folded = label'.folded

variable {label label' : Label} {i : Nat} {o o' : UInt8}

theorem Alike.isAscii (h : label.Alike label') : label.isAscii = true ∧ label'.isAscii = true :=
  ⟨(isValid_iff.1 h.valid).2.2, (isValid_iff.1 h.valid').2.2⟩

theorem Alike.octetLength_eq (h : label.Alike label') : label.octetLength = label'.octetLength := by
  rw [← octetLength_folded label, h.folded_eq, octetLength_folded]

theorem Alike.length_wire (h : label.Alike label') : label.wire.length = label'.wire.length := by
  rw [Label.length_wire h.valid, Label.length_wire h.valid', h.octetLength_eq]

/-- The octets of labels that are alike are so up to the case of letters. -/
theorem Alike.lowerCase_eq (h : label.Alike label')
    (hdiffer : DifferAt label.octets label'.octets i o o') : lowerCase o = lowerCase o' := by
  obtain ⟨hascii, hascii'⟩ := h.isAscii
  have hsame : label.octets.map lowerCase = label'.octets.map lowerCase := by
    rw [map_lowerCase_octets hascii, map_lowerCase_octets hascii', h.folded_eq]
  have hat := congrArg (·[i]?) hsame
  simp only [List.getElem?_map, hdiffer.left, hdiffer.right, Option.map_some] at hat
  exact Option.some.inj hat

theorem Alike.differAt (h : label.Alike label') (hdiffer : DifferAt label.wire label'.wire i o o') :
    ∃ k < label.octets.length, i = 1 + k ∧ lowerCase o = lowerCase o' := by
  rw [wire, wire, h.octetLength_eq, ← List.singleton_append,
    ← List.singleton_append (l := label'.octets)] at hdiffer
  rcases hdiffer.append rfl with ⟨-, hlength⟩ | ⟨k, rfl, htext⟩
  · exact absurd hlength DifferAt.irrefl
  · obtain ⟨hk, -⟩ := List.getElem?_eq_some_iff.1 htext.left
    exact ⟨k, hk, rfl, h.lowerCase_eq htext⟩

end Label

/-! ## Names -/

namespace Name

open Octets

/-- An index among the octets of a name at which the text of a label stands. -/
def InLabel (name : Name) (i : Nat) : Prop :=
  ∃ before label after k, name.labels = before ++ label :: after ∧ k < label.octets.length ∧
    i = (before.flatMap Label.wire).length + (1 + k)

/-- Two valid names are the same up to the case of letters. -/
structure Alike (name name' : Name) : Prop where
  valid : name.Valid
  valid' : name'.Valid
  folded_eq : name.folded = name'.folded

variable {name name' : Name} {i : Nat} {o o' : UInt8}

theorem forall₂_alike {labels labels' : List Label}
    (hvalid : ∀ label ∈ labels, label.isValid = true)
    (hvalid' : ∀ label ∈ labels', label.isValid = true)
    (hfolded : labels.map Label.folded = labels'.map Label.folded) :
    List.Forall₂ Label.Alike labels labels' := by
  induction labels generalizing labels' with
  | nil =>
    cases labels' with
    | nil => exact .nil
    | cons label' rest' => cases hfolded
  | cons label rest ih =>
    cases labels' with
    | nil => cases hfolded
    | cons label' rest' =>
      rw [List.forall_mem_cons] at hvalid hvalid'
      obtain ⟨hlabel, hrest⟩ := List.cons.inj hfolded
      exact .cons ⟨hvalid.1, hvalid'.1, hlabel⟩ (ih hvalid.2 hvalid'.2 hrest)

theorem Alike.labels (h : name.Alike name') : List.Forall₂ Label.Alike name.labels name'.labels :=
  forall₂_alike h.valid.labels h.valid'.labels h.folded_eq

theorem Alike.length_labels (h : name.Alike name') :
    (name.labels.flatMap Label.wire).length = (name'.labels.flatMap Label.wire).length :=
  length_flatMap_eq h.labels fun _ _ => Label.Alike.length_wire

theorem Alike.length_wire (h : name.Alike name') : name.wire.length = name'.wire.length := by
  rw [wire, wire, List.length_append, List.length_append, h.length_labels]

/-- The octets of names that are alike differ in the case of letters in their labels only. -/
theorem Alike.differAt (h : name.Alike name') (hdiffer : DifferAt name.wire name'.wire i o o') :
    name.InLabel i ∧ lowerCase o = lowerCase o' := by
  rcases hdiffer.append h.length_labels with ⟨-, hlabels⟩ | ⟨j, -, hend⟩
  · obtain ⟨before, label, after, label', j, hsplit, halike, rfl, hwire⟩ :=
      differAt_flatMap h.labels (fun _ _ => Label.Alike.length_wire) hlabels
    obtain ⟨k, hk, rfl, hcase⟩ := halike.differAt hwire
    exact ⟨⟨before, label, after, k, hsplit, hk, rfl⟩, hcase⟩
  · exact absurd hend DifferAt.irrefl

end Name

end ZoneServer

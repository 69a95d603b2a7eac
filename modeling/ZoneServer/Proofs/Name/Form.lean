import Mathlib.Algebra.Ring.Nat
import ZoneServer.Name.Wire
import ZoneServer.Proofs.Wire.Form

/-!
# What names look like in messages

A name is valid if it may be written. A valid name takes as many octets as `Name.encodedLength` says,
and a name that is not valid is refused before anything is written (`Name.writes_encode`).
-/

namespace ZoneServer

/-! ## Labels -/

namespace Label

/-- A label in a message, after its length. -/
def wire (label : Label) : Octets := UInt8.ofNat label.octetLength :: label.octets

theorem octetLength_cons (c : Char) (label : Label) :
    octetLength (c :: label) = c.utf8Size + label.octetLength := by
  rw [octetLength, String.ofList_cons, String.utf8ByteSize_append, String.utf8ByteSize_singleton, octetLength]

theorem isAscii_cons {c : Char} {label : Label} :
    isAscii (c :: label) = true ↔ c.toNat < 128 ∧ label.isAscii = true := by
  simp [isAscii]

theorem utf8Size_eq_one {c : Char} (h : c.toNat < 128) : c.utf8Size = 1 := by
  rw [Char.utf8Size_eq_one_iff, UInt32.le_iff_toNat_le]
  exact Nat.le_of_lt_succ h

/-- An ASCII label has as many octets as characters. -/
theorem octetLength_eq {label : Label} (h : label.isAscii = true) :
    label.octetLength = label.length := by
  induction label with
  | nil => rfl
  | cons c label ih =>
    obtain ⟨hc, hlabel⟩ := isAscii_cons.1 h
    rw [octetLength_cons, utf8Size_eq_one hc, ih hlabel, List.length_cons, Nat.add_comm]

theorem isValid_iff {label : Label} :
    label.isValid = true ↔ label ≠ [] ∧ label.length ≤ maxLabelLength ∧ label.isAscii = true := by
  cases h : label.isAscii with
  | true => simp [isValid, h, octetLength_eq h]
  | false => simp [isValid, h]

theorem length_wire {label : Label} (h : label.isValid = true) :
    label.wire.length = label.octetLength + 1 := by
  rw [wire, List.length_cons, octetLength_eq (isValid_iff.1 h).2.2, octets, List.length_map]

theorem toNat_ofNat_of_lt {o : UInt8} (h : o.toNat < 128) : (Char.ofNat o.toNat).toNat = o.toNat := by
  have hscalar : o.toNat.isValidChar := .inl (by omega)
  rw [Char.ofNat, dif_pos hscalar]
  rfl

theorem isAscii_ofOctets {os : Octets} (h : (os.all fun o => o.toNat < 128) = true) :
    (ofOctets os).isAscii = true := by
  rw [List.all_eq_true] at h
  rw [isAscii, ofOctets, List.all_map, List.all_eq_true]
  intro o ho
  have hsmall : o.toNat < 128 := by simpa using h o ho
  simpa [toNat_ofNat_of_lt hsmall] using hsmall

theorem octetLength_ofOctets {os : Octets} (h : (os.all fun o => o.toNat < 128) = true) :
    (ofOctets os).octetLength = os.length := by
  rw [octetLength_eq (isAscii_ofOctets h), ofOctets, List.length_map]

/-- ASCII octets, of which there is one at least and not too many, spell a valid label. -/
theorem isValid_ofOctets {os : Octets} (hne : os.length ≠ 0) (hlength : os.length ≤ maxLabelLength)
    (h : (os.all fun o => o.toNat < 128) = true) : (ofOctets os).isValid = true := by
  refine isValid_iff.2 ⟨?_, ?_, isAscii_ofOctets h⟩
  · rw [← List.length_pos_iff, ofOctets, List.length_map]
    exact Nat.pos_of_ne_zero hne
  · rwa [ofOctets, List.length_map]

end Label

/-! ## Primitive encoders -/

namespace Encoder

theorem ofNat_one (n : UInt8) : Octets.ofNat 1 n.toNat = [n] := by simp [Octets.ofNat]

theorem Writes.uint8 (n : UInt8) : Writes (uint8 n) (.ofOctets [n]) := by
  rw [Encoder.uint8, ofNat_one]
  exact Writes.octets [n]

theorem Writes.uint16 (n : UInt16) : Writes (uint16 n) (.ofOctets (Octets.ofNat 2 n.toNat)) :=
  Writes.octets _

theorem Writes.uint32 (n : UInt32) : Writes (uint32 n) (.ofOctets (Octets.ofNat 4 n.toNat)) :=
  Writes.octets _

/-- The form of a check: nothing, or its fault. -/
def checkForm : Except EncodeError Unit → WireForm
  | .ok _ => .ofOctets []
  | .error cause => .ofFault cause

theorem Writes.check (c : Except EncodeError Unit) : Writes (check c) (checkForm c) := by
  cases c with
  | ok => exact Writes.pure
  | error cause => exact Writes.throw cause

end Encoder

/-! ## Names -/

namespace Name

theorem beq_iff {a b : Name} : (a == b) = true ↔ a.folded = b.folded := by
  show (a.folded == b.folded) = true ↔ _
  rw [beq_iff_eq]

/-- A name that may be written. -/
structure Valid (name : Name) : Prop where
  labels : ∀ label ∈ name.labels, label.isValid = true
  length : name.encodedLength ≤ maxNameLength

theorem check_eq_ok {name : Name} : name.check = .ok () ↔ name.Valid := by
  unfold check
  split
  · rename_i label hfind
    have hinvalid := List.find?_some hfind
    have hmem := List.mem_of_find?_eq_some hfind
    refine ⟨fun h => (by cases h), fun h => ?_⟩
    simp [h.labels label hmem] at hinvalid
  · rename_i hfind
    have hlabels : ∀ label ∈ name.labels, label.isValid = true := by
      simpa using hfind
    split
    · rename_i hlength
      exact ⟨fun _ => ⟨hlabels, hlength⟩, fun _ => rfl⟩
    · rename_i hlength
      exact ⟨fun h => (by cases h), fun h => absurd h.length hlength⟩

/-- A name in a message: its labels, each after its length, and a zero octet. -/
def wire (name : Name) : Octets := name.labels.flatMap Label.wire ++ [0]

/-- What is done to write a name. -/
def form (name : Name) : WireForm := Encoder.checkForm name.check ++ .ofOctets name.wire

theorem encodedLength_eq_sum (name : Name) :
    name.encodedLength = (name.labels.map fun label => label.octetLength + 1).sum + 1 := by
  obtain ⟨labels⟩ := name
  induction labels with
  | nil => rfl
  | cons label labels ih =>
    rw [encodedLength] at ih
    rw [encodedLength, List.foldr_cons, ih, List.map_cons, List.sum_cons]
    exact (Nat.add_assoc _ _ _).symm

theorem length_labels {labels : List Label} (h : ∀ label ∈ labels, label.isValid = true) :
    (labels.flatMap Label.wire).length =
      (labels.map fun label => label.octetLength + 1).sum := by
  induction labels with
  | nil => rfl
  | cons label labels ih =>
    rw [List.forall_mem_cons] at h
    rw [List.flatMap_cons, List.length_append, Label.length_wire h.1, ih h.2, List.map_cons,
      List.sum_cons]

/-- A valid name takes as many octets as it is said to. -/
theorem length_wire {name : Name} (h : name.Valid) : name.wire.length = name.encodedLength := by
  rw [wire, List.length_append, length_labels h.labels, encodedLength_eq_sum]
  rfl

theorem form_of_valid {name : Name} (h : name.Valid) : name.form = .ofOctets name.wire := by
  rw [form, check_eq_ok.2 h]
  rfl

theorem fault_form {name : Name} : name.form.fault = none ↔ name.Valid := by
  rw [form, WireForm.fault_append, ← check_eq_ok]
  cases name.check with
  | ok => simp [Encoder.checkForm, WireForm.ofOctets]
  | error cause => simp [Encoder.checkForm, WireForm.ofFault]

theorem writes_labels (labels : List Label) :
    (Encoder.each Label.encode labels).Writes (.ofOctets (labels.flatMap Label.wire)) := by
  rw [← WireForm.concat_ofOctets]
  exact Encoder.Writes.each
    (fun label => (Encoder.Writes.uint8 _).bind (Encoder.Writes.octets label.octets)) labels

/-- Writing a name does what its form says. -/
theorem writes_encode (name : Name) : name.encode.Writes name.form :=
  (Encoder.Writes.check _).bind ((writes_labels _).bind (Encoder.Writes.uint8 0))

/-- A name is written exactly if it is valid. -/
theorem encode_eq_ok {name : Name} {os : Octets} :
    Encoder.encode name.encode = .ok os ↔ name.Valid ∧ os = name.wire := by
  rw [(writes_encode name).encode_eq, WireForm.outcome_eq_ok, fault_form]
  constructor
  · rintro ⟨hvalid, rfl, -⟩
    rw [form_of_valid hvalid]
    exact ⟨hvalid, rfl⟩
  · rintro ⟨hvalid, rfl⟩
    have hroom : name.wire.length ≤ maxMessageSize :=
      (length_wire hvalid).trans_le (hvalid.length.trans (by decide))
    rw [form_of_valid hvalid]
    exact ⟨hvalid, rfl, by rwa [Nat.zero_add]⟩

end Name

end ZoneServer

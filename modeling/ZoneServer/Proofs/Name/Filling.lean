import Mathlib.Data.List.Forall2
import ZoneServer.Proofs.Name.Admits
import ZoneServer.Proofs.Name.Fault

/-!
# How much of a name is written

A name is written in pieces, the length of each label and its text by themselves, and a piece is written as a
whole or not at all. So a name that does not fit is cut before the first piece that has no space
(`Encoder.each_octets_of_full`). That is all that can happen to a name that may be written, and the names
that may be written are just those that can be read (`Name.encode_admits_what_is_read`).
-/

namespace ZoneServer

/-! ## Pieces -/

namespace Encoder

variable {b : Buffer} {pieces : List Octets}

theorem each_append {α : Type} (item : α → Encoder Unit) (as as' : List α) :
    each item (as ++ as') = (do each item as; each item as') := by
  induction as with
  | nil => simp [each]
  | cons a as ih => simp [each, ih]

theorem each_flatMap {α β : Type} (item : β → Encoder Unit) (parts : α → List β) (as : List α) :
    each item (as.flatMap parts) = each (fun a => each item (parts a)) as := by
  induction as with
  | nil => rfl
  | cons a as ih => rw [List.flatMap_cons, each_append, ih, each]

theorem uint8_eq_octets (n : UInt8) : uint8 n = octets [n] := by rw [uint8, ofNat_one]

theorem each_octets_of_room (hb : b.WellFormed)
    (h : b.position + pieces.flatten.length ≤ maxMessageSize) :
    each octets pieces b = .ok () (b.append pieces.flatten) := by
  have hwrites := Writes.each Writes.octets pieces
  rw [WireForm.concat_ofOctets pieces fun os => os, List.flatMap_id'] at hwrites
  exact hwrites.ok hb (WireForm.outcome_eq_ok.2 ⟨rfl, rfl, h⟩)

/-- If there is no room for all pieces, those before the first that does not fit are written. -/
theorem each_octets_of_full (hb : b.WellFormed)
    (h : maxMessageSize < b.position + pieces.flatten.length) :
    ∃ before piece after, pieces = before ++ piece :: after ∧
      each octets pieces b = .error .bufferFull (b.append before.flatten) ∧
      b.position + before.flatten.length ≤ maxMessageSize ∧
      maxMessageSize < b.position + before.flatten.length + piece.length := by
  induction pieces generalizing b with
  | nil =>
    have hposition := hb.position_le
    simp only [List.flatten_nil, List.length_nil] at h
    omega
  | cons piece pieces ih =>
    by_cases hroom : b.position + piece.length ≤ maxMessageSize
    · rw [List.flatten_cons, List.length_append, ← Nat.add_assoc] at h
      -- the cut is among the other pieces, which are written after this one
      obtain ⟨before, last, after, rfl, hrun, hfits, hfull⟩ := ih (hb.append hroom) h
      have hfirst : octets piece b = .ok () (b.append piece) := if_pos hroom
      refine ⟨piece :: before, last, after, rfl, ?_, ?_, ?_⟩
      · rw [each, Wire.bind_of_ok hfirst, hrun, Buffer.append_append hb, List.flatten_cons]
      · rw [List.flatten_cons, List.length_append, ← Nat.add_assoc]
        exact hfits
      · rw [List.flatten_cons, List.length_append, ← Nat.add_assoc]
        exact hfull
    · have hrefused : octets piece b = .error .bufferFull b := if_neg hroom
      refine ⟨[], piece, pieces, rfl, ?_, hb.position_le, Nat.not_le.1 hroom⟩
      rw [List.flatten_nil, Buffer.append_nil]
      exact Wire.bind_eq_error.2 (.inl hrefused)

end Encoder

/-! ## Names in pieces -/

/-- What is written of a label: its length, and then its text. -/
def Label.pieces (label : Label) : List Octets := [[UInt8.ofNat label.octetLength], label.octets]

theorem Label.flatten_pieces (label : Label) : label.pieces.flatten = label.wire := by
  simp [pieces, wire]

theorem Label.encode_eq_each (label : Label) :
    label.encode = Encoder.each Encoder.octets label.pieces := by
  simp [encode, pieces, Encoder.uint8_eq_octets, Encoder.each]

theorem Label.toNat_octetLength {label : Label} (h : label.isValid = true) :
    (UInt8.ofNat label.octetLength).toNat = label.octetLength := by
  obtain ⟨-, hlength, hascii⟩ := Label.isValid_iff.1 h
  rw [← Label.octetLength_eq hascii, maxLabelLength] at hlength
  exact UInt8.toNat_ofNat_of_lt' (show label.octetLength < 256 by omega)

namespace Name

/-- What is written of a name: its labels, each in two pieces, and the terminator. -/
def pieces (name : Name) : List Octets := name.labels.flatMap Label.pieces ++ [[0]]

variable {name : Name}

theorem flatten_pieces (name : Name) : name.pieces.flatten = name.wire := by
  have hlabels : (name.labels.flatMap Label.pieces).flatten = name.labels.flatMap Label.wire := by
    rw [List.flatMap_def, List.flatten_flatten, List.map_map, ← List.flatMap_def]
    exact List.flatMap_congr fun label _ => label.flatten_pieces
  rw [pieces, List.flatten_append, hlabels, List.flatten_singleton, wire]

theorem encode_eq_each (h : name.Valid) : name.encode = Encoder.each Encoder.octets name.pieces := by
  have hcheck : Encoder.check name.check = pure () := by
    rw [check_eq_ok.2 h]
    rfl
  have hlabels : Encoder.each Label.encode name.labels =
      Encoder.each Encoder.octets (name.labels.flatMap Label.pieces) := by
    rw [Encoder.each_flatMap]
    congr 1
    funext label
    exact label.encode_eq_each
  have hend : Encoder.uint8 0 = Encoder.each Encoder.octets [[0]] := by
    simp [Encoder.uint8_eq_octets, Encoder.each]
  rw [encode, hcheck, pure_bind, hlabels, hend, ← Encoder.each_append, pieces]

/-- A valid name is written if there is room for it, and otherwise the pieces before the first that does not
fit are. -/
theorem encode_of_valid (h : name.Valid) {b : Buffer} (hb : b.WellFormed) :
    (b.position + name.encodedLength ≤ maxMessageSize →
      name.encode b = .ok () (b.append name.wire)) ∧
    (maxMessageSize < b.position + name.encodedLength →
      ∃ before piece after, name.pieces = before ++ piece :: after ∧
        name.encode b = .error .bufferFull (b.append before.flatten) ∧
        b.position + before.flatten.length ≤ maxMessageSize ∧
        maxMessageSize < b.position + before.flatten.length + piece.length) := by
  rw [encode_eq_each h, ← length_wire h, ← flatten_pieces]
  exact ⟨Encoder.each_octets_of_room hb, Encoder.each_octets_of_full hb⟩

/-- A name can be read somewhere in some datagram just if it can be written. A name that cannot be written is
at fault, in a label or in its length, and is refused for this in every buffer, with nothing written. If it
can be written, none of its lengths is changed by being put in an octet, and it is written in every buffer
that has room for it. In others, as many of its pieces are written as there is room for: the octets that are
written are then the first ones of the name, though not all of them, and they end before a length or before
the text of a label. -/
theorem encode_admits_what_is_read (name : Name) :
    ((∃ datagram place c', decode ⟨datagram, place⟩ = .ok name c') ↔
      ∃ os, Encoder.encode name.encode = .ok os) ∧
    (¬ (∃ os, Encoder.encode name.encode = .ok os) → ∃ cause, name.Fault cause) ∧
    (∀ cause, name.Fault cause → ∀ b, name.encode b = .error cause b) ∧
    (∀ os, Encoder.encode name.encode = .ok os →
      os = name.pieces.flatten ∧ os.length = name.encodedLength ∧
      (∀ label ∈ name.labels, (UInt8.ofNat label.octetLength).toNat = label.octetLength) ∧
      ∀ b : Buffer, b.WellFormed →
        (b.position + name.encodedLength ≤ 512 → name.encode b = .ok () (b.append os)) ∧
        (512 < b.position + name.encodedLength →
          ∃ before piece after, name.pieces = before ++ piece :: after ∧
            name.encode b = .error .bufferFull (b.append before.flatten) ∧
            before.flatten <+: os ∧ before.flatten ≠ os ∧
            b.position + before.flatten.length ≤ 512 ∧
            512 < b.position + before.flatten.length + piece.length)) := by
  have hwritten : (∃ os, Encoder.encode name.encode = .ok os) ↔ name.Valid := by
    simp only [encode_eq_ok, exists_and_left, exists_eq, and_true]
  refine ⟨?_, ?_, fun cause hfault b => hfault.encode_eq b, ?_⟩
  · rw [hwritten]
    constructor
    · rintro ⟨datagram, place, c', hdecode⟩
      exact admits_decode _ _ _ hdecode
    · intro hvalid
      exact ⟨_, _, _, (reads_decode hvalid).whole [] []⟩
  · rw [hwritten]
    exact name.valid_or_fault.resolve_left
  · intro os hos
    obtain ⟨hvalid, rfl⟩ := encode_eq_ok.1 hos
    refine ⟨(flatten_pieces name).symm, length_wire hvalid, ?_, ?_⟩
    · intro label hmem
      exact Label.toNat_octetLength (hvalid.labels label hmem)
    · intro b hb
      obtain ⟨hfits, hcut⟩ := encode_of_valid hvalid hb
      refine ⟨hfits, fun hfull => ?_⟩
      obtain ⟨before, piece, after, hsplit, hrun, hroom, hnext⟩ := hcut hfull
      have hwire : name.wire = before.flatten ++ (piece ++ after.flatten) := by
        rw [← flatten_pieces, hsplit, List.flatten_append, List.flatten_cons]
      refine ⟨before, piece, after, hsplit, hrun, ?_, ?_, hroom, hnext⟩
      · rw [hwire]
        exact List.prefix_append _ _
      · intro hall
        have hlength := congrArg List.length hall
        rw [length_wire hvalid] at hlength
        rw [maxMessageSize] at hroom
        omega

/-- There are three octets left for a name that takes six, so its first label is written, and then the length
of the second is not. -/
theorem encode_cut_after_label :
    (∃ datagram place c', decode ⟨datagram, place⟩ = .ok (ofString "ab.c") c') ∧
    ∃ before piece after, (ofString "ab.c").pieces = before ++ piece :: after ∧
      (ofString "ab.c").encode (Buffer.empty.skip 509) =
        .error .bufferFull ((Buffer.empty.skip 509).append before.flatten) ∧
      before.flatten <+: [2, 97, 98, 1, 99, 0] ∧ before.flatten ≠ [2, 97, 98, 1, 99, 0] ∧
      509 + before.flatten.length ≤ 512 ∧ 512 < 509 + before.flatten.length + piece.length := by
  obtain ⟨hread, -, -, hwritten⟩ := encode_admits_what_is_read (ofString "ab.c")
  have hencode : Encoder.encode (ofString "ab.c").encode = .ok [2, 97, 98, 1, 99, 0] :=
    encode_eq_ok.2 ⟨check_eq_ok.1 (by decide), by decide⟩
  obtain ⟨-, -, -, hfilling⟩ := hwritten _ hencode
  have hbuffer : (Buffer.empty.skip 509).WellFormed := Buffer.wellFormed_empty.skip (by decide)
  exact ⟨hread.2 ⟨_, hencode⟩, (hfilling _ hbuffer).2 (by decide)⟩

end Name

end ZoneServer

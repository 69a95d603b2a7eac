import ZoneServer.Proofs.Name.Case
import ZoneServer.Proofs.Name.Fault
import ZoneServer.Proofs.Name.Reads

/-!
# When names are the same

Names are the same if their labels are, in lower case. Putting the octets of a name in lower case puts its
labels in lower case and changes nothing else, because a length octet is too small to be a letter, and from
the octets of a name its labels can be read. So valid names are the same just if their octets are, in lower
case (`Name.beq_compares_wire`).

Names that are the same, valid or not, are written or refused alike: the encoders of both go abreast
(`Encoder.Abreast`).
-/

namespace ZoneServer

/-! ## Labels in lower case -/

namespace Label

variable {label label' : Label}

theorem isValid_eq (h : label.folded = label'.folded) : label.isValid = label'.isValid := by
  rw [← isValid_folded label, h, isValid_folded]

theorem length_octets_eq (h : label.folded = label'.folded) :
    label.octets.length = label'.octets.length := by
  have hlength := congrArg List.length h
  simpa [folded, octets] using hlength

/-- The length octet of a valid label is no letter. -/
theorem map_lowerCase_wire (h : label.isValid = true) :
    label.wire.map Octets.lowerCase = label.folded.wire := by
  obtain ⟨-, hlength, hascii⟩ := isValid_iff.1 h
  have hsmall : ∀ n ≤ maxLabelLength, Octets.lowerCase (UInt8.ofNat n) = UInt8.ofNat n := by decide
  rw [wire, List.map_cons, map_lowerCase_octets hascii, octetLength_eq hascii, hsmall _ hlength,
    wire, octetLength_folded, octetLength_eq hascii]

end Label

/-! ## Names in lower case -/

namespace Name

variable {name a b : Name}

theorem encodedLength_folded (name : Name) :
    encodedLength ⟨name.folded⟩ = name.encodedLength := by
  simp only [encodedLength_eq_sum, folded, List.map_map, Function.comp_def, Label.octetLength_folded]

theorem valid_folded : Valid ⟨name.folded⟩ ↔ name.Valid := by
  have hlabels : (∀ label ∈ name.folded, label.isValid = true) ↔
      ∀ label ∈ name.labels, label.isValid = true := by
    simp only [folded, List.forall_mem_map, Label.isValid_folded]
  constructor
  · intro h
    exact ⟨hlabels.1 h.labels, (encodedLength_folded name).symm.trans_le h.length⟩
  · intro h
    exact ⟨hlabels.2 h.labels, (encodedLength_folded name).trans_le h.length⟩

theorem encodedLength_eq (h : a.folded = b.folded) : a.encodedLength = b.encodedLength := by
  rw [← encodedLength_folded a, h, encodedLength_folded]

theorem map_lowerCase_wire (h : name.Valid) :
    name.wire.map Octets.lowerCase = wire ⟨name.folded⟩ := by
  have hlabels : ∀ label ∈ name.labels, label.wire.map Octets.lowerCase = label.folded.wire :=
    fun label hmem => Label.map_lowerCase_wire (h.labels label hmem)
  rw [wire, List.map_append, List.map_flatMap, List.flatMap_congr hlabels, wire, folded,
    List.flatMap_map]
  rfl

/-- The labels of a valid name can be told from its octets. -/
theorem wire_injective (ha : a.Valid) (hb : b.Valid) (h : a.wire = b.wire) : a = b := by
  have hreads := (reads_decode ha).whole [] []
  rw [h, (reads_decode hb).whole [] []] at hreads
  cases hreads
  rfl

theorem folded_eq_iff (ha : a.Valid) (hb : b.Valid) :
    a.folded = b.folded ↔ a.wire.map Octets.lowerCase = b.wire.map Octets.lowerCase := by
  rw [map_lowerCase_wire ha, map_lowerCase_wire hb]
  constructor
  · intro h
    rw [h]
  · intro h
    exact congrArg labels (wire_injective (valid_folded.2 ha) (valid_folded.2 hb) h)

end Name

/-! ## Encoders abreast -/

/-- Two names, or one name in two spellings, fail to be written for causes of the same kind. -/
inductive EncodeError.Alike : EncodeError → EncodeError → Prop where
  | bufferFull : Alike .bufferFull .bufferFull
  | invalidLabel {label label' : Label} (folded_eq : label.folded = label'.folded) :
    Alike (.invalidLabel label) (.invalidLabel label')
  | nameTooLong : Alike .nameTooLong .nameTooLong

namespace Encoder

/-- Two encoders have both succeeded, or failed for causes of the same kind, and have come equally far. -/
inductive SameOutcome :
    EStateM.Result EncodeError Buffer Unit → EStateM.Result EncodeError Buffer Unit → Prop where
  | written {b b' : Buffer} (position : b.position = b'.position) :
    SameOutcome (.ok () b) (.ok () b')
  | refused {cause cause' : EncodeError} {b b' : Buffer} (alike : cause.Alike cause')
    (position : b.position = b'.position) : SameOutcome (.error cause b) (.error cause' b')

/-- Two encoders come to the same in any two buffers that are written equally far. -/
def Abreast (e e' : Encoder Unit) : Prop :=
  ∀ b b' : Buffer, b.position = b'.position → SameOutcome (e b) (e' b')

theorem Abreast.pure : Abreast (pure ()) (pure ()) := fun _ _ hposition => .written hposition

theorem Abreast.then {e e' next next' : Encoder Unit} (h : Abreast e e') (h' : Abreast next next') :
    Abreast (e >>= fun _ => next) (e' >>= fun _ => next') := by
  intro b b' hposition
  have hfirst := h b b' hposition
  simp only [bind, EStateM.bind]
  generalize e b = result at hfirst ⊢
  generalize e' b' = result' at hfirst ⊢
  cases hfirst with
  | written hposition' => exact h' _ _ hposition'
  | refused halike hposition' => exact .refused halike hposition'

theorem Abreast.octets {os os' : Octets} (h : os.length = os'.length) :
    Abreast (octets os) (octets os') := by
  intro b b' hposition
  unfold Encoder.octets
  rw [← hposition, ← h]
  by_cases hroom : b.position + os.length ≤ maxMessageSize
  · rw [if_pos hroom, if_pos hroom]
    exact .written rfl
  · rw [if_neg hroom, if_neg hroom]
    exact .refused .bufferFull hposition

theorem Abreast.uint8 (n n' : UInt8) : Abreast (uint8 n) (uint8 n') := Abreast.octets rfl

theorem Abreast.each {α : Type} {R : α → α → Prop} {item : α → Encoder Unit} {as as' : List α}
    (h : ∀ a a', R a a' → Abreast (item a) (item a')) (hall : List.Forall₂ R as as') :
    Abreast (each item as) (each item as') := by
  induction hall with
  | nil => exact Abreast.pure
  | cons ha _ ih => exact (h _ _ ha).then ih

end Encoder

namespace Name

open Encoder

variable {a b : Name}

/-- Names that are the same are at fault alike. -/
theorem Fault.alike {cause : EncodeError} (h : a.Fault cause) (hsame : a.folded = b.folded) :
    ∃ cause', b.Fault cause' ∧ cause.Alike cause' := by
  have hlabels : a.labels.map Label.folded = b.labels.map Label.folded := hsame
  cases h with
  | @label before after label split valid invalid =>
    rw [split, List.map_append, List.map_cons] at hlabels
    obtain ⟨before', rest, hsplit, hbefore, hrest⟩ := List.map_eq_append_iff.1 hlabels.symm
    obtain ⟨label', after', rfl, hlabel, -⟩ := List.map_eq_cons_iff.1 hrest
    refine ⟨.invalidLabel label', .label hsplit ?_ ?_, .invalidLabel hlabel.symm⟩
    · intro earlier' hmem
      obtain ⟨earlier, hearlier, hfolded⟩ :=
        List.mem_map.1 (hbefore ▸ List.mem_map_of_mem (f := Label.folded) hmem)
      rw [← Label.isValid_eq hfolded]
      exact valid earlier hearlier
    · rw [Label.isValid_eq hlabel]
      exact invalid
  | length valid long =>
    refine ⟨.nameTooLong, .length ?_ ?_, .nameTooLong⟩
    · intro label' hmem
      obtain ⟨label, hlabel, hfolded⟩ :=
        List.mem_map.1 (hlabels ▸ List.mem_map_of_mem (f := Label.folded) hmem)
      rw [← Label.isValid_eq hfolded]
      exact valid label hlabel
    · rw [← encodedLength_eq hsame]
      exact long

theorem abreast_check (h : a.folded = b.folded) : Abreast (Encoder.check a.check) (Encoder.check b.check) := by
  intro w w' hposition
  rcases a.valid_or_fault with hvalid | ⟨cause, hfault⟩
  · have hvalid' : b.Valid := by
      rw [← valid_folded, ← h]
      exact valid_folded.2 hvalid
    rw [check_eq_ok.2 hvalid, check_eq_ok.2 hvalid']
    exact .written hposition
  · obtain ⟨cause', hfault', halike⟩ := hfault.alike h
    rw [hfault.check_eq, hfault'.check_eq]
    exact .refused halike hposition

theorem abreast_label {label label' : Label} (h : label.folded = label'.folded) :
    Abreast label.encode label'.encode :=
  (Abreast.uint8 _ _).then (Abreast.octets (Label.length_octets_eq h))

theorem abreast_encode (h : a.folded = b.folded) : Abreast a.encode b.encode := by
  have hlabels : List.Forall₂ (fun label label' : Label => label.folded = label'.folded)
      a.labels b.labels := by
    have hmaps : List.Forall₂ (· = ·) (a.labels.map Label.folded) (b.labels.map Label.folded) := by
      rw [List.forall₂_eq_eq_eq]
      exact h
    rwa [List.forall₂_map_left_iff, List.forall₂_map_right_iff] at hmaps
  refine (abreast_check h).then (Abreast.then ?_ (Abreast.uint8 0 0))
  exact Abreast.each (fun _ _ => abreast_label) hlabels

/-- Being the same is an equivalence of names. Two names that can be written are the same just if their
octets are, once every octet that is a capital letter is put in lower case, wherever it stands. Whether they
can be written or not, names that are the same take equally many octets, and in buffers that are written
equally far both are written, or both are refused for causes of the same kind, and come equally far. -/
theorem beq_compares_wire :
    Equivalence (fun a b : Name => (a == b) = true) ∧
    (∀ (a b : Name) (os os' : Octets), Encoder.encode a.encode = .ok os →
      Encoder.encode b.encode = .ok os' →
        ((a == b) = true ↔ os.map Octets.lowerCase = os'.map Octets.lowerCase)) ∧
    (∀ a b : Name, (a == b) = true → a.encodedLength = b.encodedLength ∧
      ∀ w w' : Buffer, w.position = w'.position → SameOutcome (a.encode w) (b.encode w')) := by
  refine ⟨⟨?_, ?_, ?_⟩, ?_, ?_⟩
  · intro a
    exact beq_iff.2 rfl
  · intro a b h
    exact beq_iff.2 (beq_iff.1 h).symm
  · intro a b c h h'
    exact beq_iff.2 ((beq_iff.1 h).trans (beq_iff.1 h'))
  · intro a b os os' ha hb
    obtain ⟨hvalid, rfl⟩ := encode_eq_ok.1 ha
    obtain ⟨hvalid', rfl⟩ := encode_eq_ok.1 hb
    rw [beq_iff]
    exact folded_eq_iff hvalid hvalid'
  · intro a b h
    exact ⟨encodedLength_eq (beq_iff.1 h), abreast_encode (beq_iff.1 h)⟩

theorem beq_twoSpellings :
    Encoder.encode (ofString "Ab.c").encode = .ok [2, 65, 98, 1, 99, 0] ∧
    Encoder.encode (ofString "aB.C").encode = .ok [2, 97, 66, 1, 67, 0] ∧
    (ofString "Ab.c" == ofString "aB.C") = true ∧
    SameOutcome ((ofString "Ab.c").encode (Buffer.empty.skip 508))
      ((ofString "aB.C").encode (Buffer.empty.append (List.replicate 508 7))) := by
  have hfirst : Encoder.encode (ofString "Ab.c").encode = .ok [2, 65, 98, 1, 99, 0] :=
    encode_eq_ok.2 ⟨check_eq_ok.1 (by decide), by decide⟩
  have hsecond : Encoder.encode (ofString "aB.C").encode = .ok [2, 97, 66, 1, 67, 0] :=
    encode_eq_ok.2 ⟨check_eq_ok.1 (by decide), by decide⟩
  obtain ⟨-, hwire, houtcome⟩ := beq_compares_wire
  have hsame := (hwire _ _ _ _ hfirst hsecond).2 (by decide)
  have hposition : (Buffer.empty.skip 508).position =
      (Buffer.empty.append (List.replicate 508 7)).position := by
    rw [Buffer.position_skip, Buffer.position_append, List.length_replicate]
  exact ⟨hfirst, hsecond, hsame, (houtcome _ _ hsame).2 _ _ hposition⟩

end Name

end ZoneServer

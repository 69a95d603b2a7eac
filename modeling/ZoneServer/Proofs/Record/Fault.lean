import ZoneServer.Proofs.Name.Fault
import ZoneServer.Proofs.Record.Form
import ZoneServer.Proofs.Wire.Tidy

/-!
# Records that are not written

A record is not written if something in it is not valid, or for want of space. What is in the way of it is
looked for in an order: the text of an address comes first and the owner second, both before anything is
written; a name in the payload is only looked at after the fields before it have been written. So the owner
is found at fault in a full buffer too, and a name in the payload is not
(`Record.encode_finds_faults_in_order`).
-/

namespace ZoneServer

/-! ## Payloads -/

namespace Payload

/-- The name in a payload, if there is one. -/
def name? : Payload → Option Name
  | .address _ => none
  | .mailExchange _ exchange => some exchange
  | .pointer target => some target
  | .canonicalName target => some target
  | .other _ _ => none

/-- How many octets of a payload come before its name. -/
def lengthBeforeName : Payload → Nat
  | .mailExchange _ _ => 2
  | _ => 0

/-- If the payload is an address, its text can be read. -/
def Readable (p : Payload) : Prop := ∀ text, p = .address text → Ipv4.ofString? text ≠ none

variable {p : Payload}

theorem fault_checkForm : p.checkForm.fault = none ↔ p.Readable := by
  cases p with
  | address text =>
    cases htext : Ipv4.ofString? text <;>
      simp [checkForm, Readable, Ipv4.parse, htext, WireForm.ofOctets, WireForm.ofFault]
  | _ => simp [checkForm, Readable, WireForm.ofOctets]

theorem readable_of_name {name : Name} (h : p.name? = some name) : p.Readable := by
  rintro text rfl
  cases h

/-- A name at fault is found after the octets before it. -/
theorem form_of_name {name : Name} {cause : EncodeError} (h : p.name? = some name)
    (hfault : name.Fault cause) :
    p.form.fault = some cause ∧ p.form.octets.length = p.lengthBeforeName := by
  have hname := Name.form_of_fault hfault.check_eq
  cases p with
  | address text => cases h
  | mailExchange preference exchange =>
    cases h
    rw [form, hname, WireForm.append_of_fault_none rfl]
    exact ⟨rfl, by simp [WireForm.ofOctets, WireForm.ofFault, lengthBeforeName]⟩
  | pointer target =>
    cases h
    rw [form, hname]
    exact ⟨rfl, rfl⟩
  | canonicalName target =>
    cases h
    rw [form, hname]
    exact ⟨rfl, rfl⟩
  | other typeCode data => cases h

/-- A payload is valid unless it is the text of no address or has a name at fault. -/
theorem valid_or_fault (p : Payload) :
    p.Valid ∨ (∃ text, p = .address text ∧ Ipv4.ofString? text = none) ∨
      ∃ name cause, p.name? = some name ∧ name.Fault cause := by
  have hnames : ∀ name, p.name? = some name → (name.Valid → p.Valid) →
      p.Valid ∨ ∃ name cause, p.name? = some name ∧ name.Fault cause := by
    intro name hname hvalid
    rcases name.valid_or_fault with h | ⟨cause, hfault⟩
    · exact .inl (hvalid h)
    · exact .inr ⟨name, cause, hname, hfault⟩
  cases p with
  | address text =>
    cases htext : Ipv4.ofString? text with
    | none => exact .inr (.inl ⟨text, rfl, htext⟩)
    | some address => exact .inl ⟨address, htext⟩
  | mailExchange preference exchange => exact (hnames exchange rfl id).imp_right .inr
  | pointer target => exact (hnames target rfl id).imp_right .inr
  | canonicalName target => exact (hnames target rfl id).imp_right .inr
  | other typeCode data => exact .inl trivial

end Payload

/-! ## Records -/

namespace Record

variable {r : Record} {b : Buffer} {cause : EncodeError}

/-- How many octets of a record come before the name in its payload. -/
def lengthBeforeName (r : Record) : Nat := r.owner.encodedLength + 10 + r.payload.lengthBeforeName

/-- The text of an address is read before anything else is done. -/
theorem encode_of_unreadable {text : String} (h : r.payload = .address text)
    (htext : Ipv4.ofString? text = none) (b : Buffer) :
    r.encode b = .error (.invalidAddress text) b := by
  unfold encode
  rw [h]
  simp only [Ipv4.parse_eq_error.2 ⟨htext, rfl⟩]
  rfl

/-- Unless the text of an address cannot be read, writing a record begins with its owner. -/
theorem encode_eq_preamble (h : r.payload.Readable) :
    ∃ rest : Encoder Unit, r.encode = (do r.encodePreamble; rest) := by
  unfold encode
  cases hpayload : r.payload with
  | address text =>
    cases htext : Ipv4.ofString? text with
    | none => exact absurd htext (h text hpayload)
    | some address =>
      simp only [Ipv4.parse_eq_ok.2 htext]
      exact ⟨_, rfl⟩
  | mailExchange preference exchange => exact ⟨_, rfl⟩
  | pointer target => exact ⟨_, rfl⟩
  | canonicalName target => exact ⟨_, rfl⟩
  | other typeCode data => exact ⟨_, rfl⟩

/-- An owner at fault is found before anything is written. -/
theorem encode_of_owner_fault (h : r.payload.Readable) (hfault : r.owner.Fault cause) (b : Buffer) :
    r.encode b = .error cause b := by
  obtain ⟨rest, hencode⟩ := encode_eq_preamble h
  have hpreamble : r.encodePreamble b = .error cause b :=
    Wire.bind_eq_error.2 (.inl (hfault.encode_eq b))
  rw [hencode]
  exact Wire.bind_eq_error.2 (.inl hpreamble)

/-- A valid record is written if there is room for it. -/
theorem encode_of_room (h : r.Valid) (hb : b.WellFormed)
    (hroom : b.position + r.wireLength ≤ maxMessageSize) : r.encode b = .ok () (b.append r.wire) := by
  refine (writes_encode r).ok hb ?_
  rw [form_of_valid h, WireForm.outcome_eq_ok]
  exact ⟨rfl, rfl, by rwa [WireForm.ofOctets, length_wire h]⟩

theorem encode_of_full (h : r.Valid) (hb : b.WellFormed)
    (hfull : maxMessageSize < b.position + r.wireLength) :
    ∃ b', r.encode b = .error .bufferFull b' := by
  have hout : r.form.outcome b.position = .error .bufferFull := by
    rw [form_of_valid h, WireForm.outcome_eq_error]
    exact .inl ⟨by rwa [WireForm.ofOctets, length_wire h], rfl⟩
  obtain ⟨b', hrun, -⟩ := (writes_encode r).error hb hout
  exact ⟨b', hrun⟩

/-- A valid record can only fail to fit. -/
theorem eq_bufferFull_of_valid {b' : Buffer} (h : r.Valid) (hb : b.WellFormed)
    (hrun : r.encode b = .error cause b') : cause = .bufferFull := by
  obtain ⟨hout, -⟩ := (writes_encode r).of_error hb hrun
  rw [form_of_valid h, WireForm.outcome_eq_error] at hout
  rcases hout with ⟨-, hcause⟩ | ⟨-, hfault⟩
  · exact hcause
  · cases hfault

/-- A name at fault in the payload is found if there is room for what comes before it. -/
theorem encode_of_name_fault {name : Name} (howner : r.owner.Valid) (hname : r.payload.name? = some name)
    (hfault : name.Fault cause) (hb : b.WellFormed) :
    (b.position + r.lengthBeforeName ≤ maxMessageSize → ∃ b', r.encode b = .error cause b') ∧
    (maxMessageSize < b.position + r.lengthBeforeName → ∃ b', r.encode b = .error .bufferFull b') := by
  obtain ⟨hpayload, hlength⟩ := Payload.form_of_name hname hfault
  have hform := form_of_owner howner (Payload.fault_checkForm.2 (Payload.readable_of_name hname))
  have hwire : r.wire.length = r.lengthBeforeName := by
    rw [length_wire_of_owner howner, hlength, lengthBeforeName]
  have hruns : ∀ fault, r.form.outcome b.position = .error fault →
      ∃ b', r.encode b = .error fault b' := by
    intro fault hout
    obtain ⟨b', hrun, -⟩ := (writes_encode r).error hb hout
    exact ⟨b', hrun⟩
  rw [← hwire]
  constructor
  · intro hroom
    apply hruns
    rw [hform, hpayload]
    exact WireForm.outcome_eq_error.2 (.inr ⟨hroom, rfl⟩)
  · intro hfull
    apply hruns
    rw [hform]
    exact WireForm.outcome_eq_error.2 (.inl ⟨hfull, rfl⟩)

/-- Whether it is written or not, a record leaves what was there before. -/
theorem take_leaves_encode (r : Record) (hb : b.WellFormed) :
    (r.encode.leaves b).cells.take b.position = b.cells.take b.position := by
  cases hrun : r.encode b with
  | ok _ b' =>
    obtain ⟨-, hroom, rfl⟩ := (writes_encode r).of_ok hb hrun
    rw [Encoder.leaves_of_ok hrun]
    exact (Buffer.extends_append hb hroom).take_cells
  | error cause b' =>
    rw [Encoder.leaves_of_error hrun]
    exact ((writes_encode r).of_error hb hrun).2.take_cells

/-- No octets are found unreserved: what is in the way of a record is one of its faults, or the space. -/
theorem encode_ne_unreservedOffset (r : Record) (hb : b.WellFormed) (offset : Nat) (b' : Buffer) :
    r.encode b ≠ .error (.unreservedOffset offset) b' := by
  intro hrun
  rcases r.payload.valid_or_fault with hvalid | ⟨text, hpayload, htext⟩ | ⟨name, cause, hname, hfault⟩
  · rcases r.owner.valid_or_fault with howner | ⟨cause, hfault⟩
    · cases eq_bufferFull_of_valid ⟨howner, hvalid⟩ hb hrun
    · have hreadable := Payload.fault_checkForm.1 (Payload.fault_forms.2 hvalid).1
      rw [encode_of_owner_fault hreadable hfault] at hrun
      cases hrun
      cases hfault
  · rw [encode_of_unreadable hpayload htext] at hrun
    cases hrun
  · rcases r.owner.valid_or_fault with howner | ⟨cause', hfault'⟩
    · obtain ⟨hfits, hfull⟩ := encode_of_name_fault howner hname hfault hb
      by_cases hroom : b.position + r.lengthBeforeName ≤ maxMessageSize
      · obtain ⟨t, ht⟩ := hfits hroom
        rw [ht] at hrun
        cases hrun
        cases hfault
      · obtain ⟨t, ht⟩ := hfull (Nat.not_le.1 hroom)
        rw [ht] at hrun
        cases hrun
    · rw [encode_of_owner_fault (Payload.readable_of_name hname) hfault'] at hrun
      cases hrun
      cases hfault'

/-- In any buffer, the text of an address that cannot be read is what a record fails for, and then an owner
that may not be written; neither writes anything, however little room there is. If nothing else is the
matter, the record is written just if it fits. A name in the payload that may not be written is found if the
fields before it fit, and otherwise they are what does not fit. What was written before stays, and no octets
are found unreserved. -/
theorem encode_finds_faults_in_order (r : Record) {b : Buffer} (hb : b.WellFormed) :
    (∀ text, r.payload = .address text → Ipv4.ofString? text = none →
      r.encode b = .error (.invalidAddress text) b) ∧
    (r.payload.Readable → ¬ r.owner.Valid →
      ∃ cause, r.owner.Fault cause ∧ r.encode b = .error cause b) ∧
    (r.Valid →
      (b.position + r.wireLength ≤ 512 → ∃ b', r.encode b = .ok () b' ∧
        b' = b.append r.wire ∧ b'.position = b.position + r.wireLength) ∧
      (512 < b.position + r.wireLength → ∃ b', r.encode b = .error .bufferFull b')) ∧
    (r.payload.Readable → r.owner.Valid → ¬ r.payload.Valid →
      ∃ name cause, r.payload.name? = some name ∧ name.Fault cause ∧
        (b.position + r.lengthBeforeName ≤ 512 → ∃ b', r.encode b = .error cause b') ∧
        (512 < b.position + r.lengthBeforeName → ∃ b', r.encode b = .error .bufferFull b')) ∧
    (r.encode.leaves b).cells.take b.position = b.cells.take b.position ∧
    ∀ offset b', r.encode b ≠ .error (.unreservedOffset offset) b' := by
  refine ⟨fun text hpayload htext => encode_of_unreadable hpayload htext b, ?_, ?_, ?_,
    take_leaves_encode r hb, fun offset b' => encode_ne_unreservedOffset r hb offset b'⟩
  · intro hreadable howner
    obtain ⟨cause, hfault⟩ := r.owner.valid_or_fault.resolve_left howner
    exact ⟨cause, hfault, encode_of_owner_fault hreadable hfault b⟩
  · intro hvalid
    refine ⟨fun hroom => ?_, fun hfull => encode_of_full hvalid hb hfull⟩
    refine ⟨_, encode_of_room hvalid hb hroom, rfl, ?_⟩
    rw [Buffer.position_append, length_wire hvalid]
  · intro hreadable howner hpayload
    rcases r.payload.valid_or_fault.resolve_left hpayload with ⟨text, haddress, htext⟩ | hname
    · exact absurd htext (hreadable text haddress)
    · obtain ⟨name, cause, hname, hfault⟩ := hname
      exact ⟨name, cause, hname, hfault, encode_of_name_fault howner hname hfault hb⟩

/-- A record for a host that takes mail, whose exchange has an empty label. -/
def faultyExchange : Record := ofPayload (Name.ofString "a") 60 (.mailExchange 10 (Name.ofString "b..c"))

theorem encode_faultyExchange :
    (Buffer.empty.skip 497).WellFormed ∧ faultyExchange.payload.Readable ∧ faultyExchange.owner.Valid ∧
    ¬ faultyExchange.payload.Valid ∧ faultyExchange.lengthBeforeName = 15 ∧
    (∃ b', faultyExchange.encode (Buffer.empty.skip 497) = .error (.invalidLabel []) b') ∧
    ∃ b', faultyExchange.encode (Buffer.empty.skip 498) = .error .bufferFull b' := by
  have hfits : (Buffer.empty.skip 497).WellFormed := Buffer.wellFormed_empty.skip (by decide)
  have hfull : (Buffer.empty.skip 498).WellFormed := Buffer.wellFormed_empty.skip (by decide)
  have hreadable : faultyExchange.payload.Readable := Payload.readable_of_name rfl
  have howner : faultyExchange.owner.Valid := Name.check_eq_ok.1 (by decide)
  have hfault : (Name.ofString "b..c").Fault (.invalidLabel []) := Name.check_eq_error.1 (by decide)
  have hlength : faultyExchange.lengthBeforeName = 15 := by decide
  obtain ⟨-, -, -, hfound, -⟩ := encode_finds_faults_in_order faultyExchange hfits
  obtain ⟨-, -, -, hmissed, -⟩ := encode_finds_faults_in_order faultyExchange hfull
  refine ⟨hfits, hreadable, howner, hfault.not_valid, hlength, ?_, ?_⟩
  · obtain ⟨name, cause, hname, hcause, hruns, -⟩ := hfound hreadable howner hfault.not_valid
    cases hname
    rw [hcause.unique hfault] at hruns
    exact hruns (by rw [hlength]; decide)
  · obtain ⟨name, cause, -, -, -, hruns⟩ := hmissed hreadable howner hfault.not_valid
    exact hruns (by rw [hlength]; decide)

end Record

end ZoneServer

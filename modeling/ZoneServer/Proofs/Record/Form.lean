import ZoneServer.Proofs.Address.Ipv4
import ZoneServer.Proofs.Name.Form
import ZoneServer.Record.Basic

/-!
# What records look like in messages

A record is valid if its owner is, if the names in its payload are, and if the text of its address is
an address. The fault of a bad address comes first of all, the fault of a name in the payload after the
fields before it. A valid record takes as many octets as `Record.wireLength` says.
-/

namespace ZoneServer

/-! ## Payloads -/

namespace Payload

/-- A payload that may be written. -/
def Valid : Payload → Prop
  | .address text => ∃ address, Ipv4.ofString? text = some address
  | .mailExchange _ exchange => exchange.Valid
  | .pointer target => target.Valid
  | .canonicalName target => target.Valid
  | .other _ _ => True

/-- How many octets a payload takes. -/
def wireLength : Payload → Nat
  | .address _ => 4
  | .mailExchange _ exchange => 2 + exchange.encodedLength
  | .pointer target => target.encodedLength
  | .canonicalName target => target.encodedLength
  | .other _ data => data.length

/-- What is done before anything of a record is written: the text of an address is read. -/
def checkForm : Payload → WireForm
  | .address text =>
    match Ipv4.parse text with
    | .ok _ => .ofOctets []
    | .error cause => .ofFault cause
  | _ => .ofOctets []

/-- What is done to write a payload without its length. -/
def form : Payload → WireForm
  | .address text => .ofOctets (((Ipv4.ofString? text).map Ipv4.octets).getD [])
  | .mailExchange preference exchange =>
    .ofOctets (Octets.ofNat 2 preference.toNat) ++ exchange.form
  | .pointer target => target.form
  | .canonicalName target => target.form
  | .other _ data => .ofOctets data

theorem fault_forms {p : Payload} : p.checkForm.fault = none ∧ p.form.fault = none ↔ p.Valid := by
  cases p with
  | address text =>
    simp only [checkForm, form, Valid, Ipv4.parse]
    cases Ipv4.ofString? text <;> simp [WireForm.ofOctets, WireForm.ofFault]
  | mailExchange preference exchange =>
    simp [checkForm, form, Valid, WireForm.fault_append, Name.fault_form, WireForm.ofOctets]
  | pointer target => simp [checkForm, form, Valid, Name.fault_form, WireForm.ofOctets]
  | canonicalName target => simp [checkForm, form, Valid, Name.fault_form, WireForm.ofOctets]
  | other typeCode data => simp [checkForm, form, Valid, WireForm.ofOctets]

theorem octets_checkForm (p : Payload) : p.checkForm.octets = [] := by
  cases p with
  | address text =>
    simp only [checkForm]
    cases Ipv4.parse text <;> rfl
  | _ => rfl

theorem length_form {p : Payload} (h : p.Valid) : p.form.octets.length = p.wireLength := by
  cases p with
  | address text =>
    obtain ⟨address, haddress⟩ := h
    simp [form, haddress, WireForm.ofOctets, Ipv4.octets, wireLength]
  | mailExchange preference exchange =>
    have hlen : exchange.wire.length = exchange.encodedLength := Name.length_wire h
    rw [form, Name.form_of_valid h, WireForm.ofOctets_append_ofOctets]
    simp [WireForm.ofOctets, hlen, wireLength]
  | pointer target => rw [form, Name.form_of_valid h]; exact Name.length_wire h
  | canonicalName target => rw [form, Name.form_of_valid h]; exact Name.length_wire h
  | other typeCode data => rfl

end Payload

/-! ## Records -/

namespace Record

/-- A record that may be written. -/
structure Valid (r : Record) : Prop where
  owner : r.owner.Valid
  payload : r.payload.Valid

/-- How many octets a record takes. -/
def wireLength (r : Record) : Nat := r.owner.encodedLength + 10 + r.payload.wireLength

/-- The octets of the fields between the owner and the length of the payload. -/
def fixedWire (r : Record) : Octets :=
  Octets.ofNat 2 r.typeCode.toNat ++ Octets.ofNat 2 r.classCode.toNat ++ Octets.ofNat 4 r.ttl.toNat

/-- What is done to write a record. -/
def form (r : Record) : WireForm :=
  r.payload.checkForm ++ (r.owner.form ++ .ofOctets r.fixedWire ++ r.payload.form.lengthPrefixed)

theorem fault_form {r : Record} : r.form.fault = none ↔ r.Valid := by
  have hpayload := Payload.fault_forms (p := r.payload)
  simp only [form, WireForm.fault_append, Name.fault_form]
  constructor
  · rintro ⟨hcheck, ⟨howner, -⟩, hform⟩
    exact ⟨howner, hpayload.1 ⟨hcheck, hform⟩⟩
  · intro h
    obtain ⟨hcheck, hform⟩ := hpayload.2 h.payload
    exact ⟨hcheck, ⟨h.owner, rfl⟩, hform⟩

/-- The octets of a record. -/
def wire (r : Record) : Octets :=
  r.owner.wire ++ r.fixedWire ++ r.payload.form.lengthPrefixed.octets

/-- After a valid owner, what is written and what is at fault depends on the payload. -/
theorem form_of_owner {r : Record} (howner : r.owner.Valid) (hcheck : r.payload.checkForm.fault = none) :
    r.form = ⟨r.wire, r.payload.form.fault⟩ := by
  rw [form, WireForm.append_of_fault_none hcheck, Payload.octets_checkForm, Name.form_of_valid howner,
    WireForm.ofOctets_append_ofOctets, WireForm.append_of_fault_none rfl]
  rfl

theorem form_of_valid {r : Record} (h : r.Valid) : r.form = .ofOctets r.wire := by
  obtain ⟨hcheck, hform⟩ := Payload.fault_forms.2 h.payload
  rw [form_of_owner h.owner hcheck, hform]
  rfl

theorem length_wire_of_owner {r : Record} (howner : r.owner.Valid) :
    r.wire.length = r.owner.encodedLength + 10 + r.payload.form.octets.length := by
  simp only [wire, fixedWire, WireForm.lengthPrefixed, List.length_append, Octets.length_ofNat,
    Name.length_wire howner]
  omega

/-- A valid record takes as many octets as it is said to. -/
theorem length_wire {r : Record} (h : r.Valid) : r.wire.length = r.wireLength := by
  rw [length_wire_of_owner h.owner, Payload.length_form h.payload, wireLength]

theorem writes_encodePreamble (r : Record) :
    r.encodePreamble.Writes (r.owner.form ++ .ofOctets r.fixedWire) := by
  have h := (Name.writes_encode r.owner).bind ((Encoder.Writes.uint16 r.typeCode).bind
    ((Encoder.Writes.uint16 r.classCode).bind (Encoder.Writes.uint32 r.ttl)))
  simp only [WireForm.ofOctets_append_ofOctets] at h
  rwa [fixedWire, List.append_assoc]

/-- Writing a record does what its form says. -/
theorem writes_encode (r : Record) : r.encode.Writes r.form := by
  have hpre := writes_encodePreamble r
  unfold encode form
  split
  · rename_i text hpayload
    rw [hpayload]
    split
    · rename_i cause herror
      simp only [Payload.checkForm, herror]
      exact Encoder.Writes.throw _
    · rename_i address hparse
      simp only [Payload.checkForm, Payload.form, hparse, Ipv4.parse_eq_ok.1 hparse]
      exact hpre.bind ((Encoder.Writes.uint16 4).bind (Encoder.Writes.octets address.octets))
  · rename_i preference exchange hpayload
    rw [hpayload]
    exact hpre.bind ((Encoder.Writes.uint16 preference).bind exchange.writes_encode).lengthPrefixed
  · rename_i target hpayload
    rw [hpayload]
    exact hpre.bind target.writes_encode.lengthPrefixed
  · rename_i target hpayload
    rw [hpayload]
    exact hpre.bind target.writes_encode.lengthPrefixed
  · rename_i typeCode data hpayload
    rw [hpayload]
    exact hpre.bind (Encoder.Writes.octets data).lengthPrefixed

end Record

end ZoneServer

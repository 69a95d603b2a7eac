import ZoneServer.Proofs.Address.Ipv4
import ZoneServer.Proofs.Name.Reads
import ZoneServer.Proofs.Record.Form

/-!
# Records that are written are read back

A valid record is read back as it was, except that the text of an address becomes the canonical one
(`Record.reads_decode`). A payload that is kept as octets must not have a type that is understood, since
it would then be read as something else.
-/

namespace ZoneServer

open Decoder

namespace Payload

/-- A payload is kept as octets only if its type is not understood. -/
def Faithful : Payload → Prop
  | .other typeCode _ => typeCode ∉
      [TypeCode.address, TypeCode.mailExchange, TypeCode.pointer, TypeCode.canonicalName]
  | _ => True

/-- The same payload with the canonical text of its address. -/
def canonical : Payload → Payload
  | .address text => .address (((Ipv4.ofString? text).map Ipv4.text).getD text)
  | p => p

theorem reads_decodePayload {p : Payload} (h : p.Valid) (hf : p.Faithful) :
    Reads (Record.decodePayload p.typeCode p.wireLength) p.form.octets p.canonical := by
  cases p with
  | address text =>
    obtain ⟨address, haddress⟩ := h
    show Reads (do return Payload.address (Ipv4.ofOctets (← octets address.octets.length)).text) _ _
    simp only [form, canonical, haddress, Option.map_some, Option.getD_some]
    exact (Reads.octets address.octets).map fun os => Payload.address (Ipv4.ofOctets os).text
  | mailExchange preference exchange =>
    show Reads (do
      let preference ← uint16
      let exchange ← Name.decode
      return Payload.mailExchange preference exchange) _ _
    rw [form, Name.form_of_valid h]
    exact (Reads.uint16 preference).bind ((Name.reads_decode h).map (Payload.mailExchange preference))
  | pointer target =>
    show Reads (do return Payload.pointer (← Name.decode)) _ _
    rw [form, Name.form_of_valid h]
    exact (Name.reads_decode h).map Payload.pointer
  | canonicalName target =>
    show Reads (do return Payload.canonicalName (← Name.decode)) _ _
    rw [form, Name.form_of_valid h]
    exact (Name.reads_decode h).map Payload.canonicalName
  | other typeCode data =>
    simp only [Faithful, List.mem_cons, List.not_mem_nil, or_false, not_or] at hf
    obtain ⟨haddress, hexchange, hpointer, hcanonical⟩ := hf
    have hdecode : Record.decodePayload typeCode data.length =
        (do return Payload.other typeCode (← octets data.length)) := by
      rw [Record.decodePayload, Record.decodePayloadWith, if_neg haddress, if_neg hexchange,
        if_neg hpointer, if_neg hcanonical]
    show Reads (Record.decodePayload typeCode data.length) data (Payload.other typeCode data)
    rw [hdecode]
    exact (Reads.octets data).map (Payload.other typeCode)

theorem canonical_valid {p : Payload} (h : p.Valid) : p.canonical.Valid := by
  cases p with
  | address text =>
    obtain ⟨address, haddress⟩ := h
    refine ⟨address, ?_⟩
    simp only [haddress, Option.map_some, Option.getD_some, Ipv4.ofString?_text]
  | _ => exact h

/-- The canonical text of an address is written as the same octets. -/
theorem form_canonical {p : Payload} (h : p.Valid) : p.canonical.form = p.form := by
  cases p with
  | address text =>
    obtain ⟨address, haddress⟩ := h
    simp only [canonical, form, haddress, Option.map_some, Option.getD_some, Ipv4.ofString?_text]
  | _ => rfl

theorem typeCode_canonical (p : Payload) : p.canonical.typeCode = p.typeCode := by
  cases p <;> rfl

theorem wireLength_canonical (p : Payload) : p.canonical.wireLength = p.wireLength := by
  cases p <;> rfl

end Payload

namespace Record

/-- The same record with the canonical text of its address. -/
def canonical (r : Record) : Record := { r with payload := r.payload.canonical }

theorem canonical_valid {r : Record} (h : r.Valid) : r.canonical.Valid :=
  ⟨h.owner, Payload.canonical_valid h.payload⟩

theorem wire_canonical {r : Record} (h : r.Valid) : r.canonical.wire = r.wire := by
  have hfixed : r.canonical.fixedWire = r.fixedWire := by
    simp only [fixedWire, typeCode, canonical, Payload.typeCode_canonical]
  rw [wire, wire, hfixed]
  simp only [canonical, Payload.form_canonical h.payload]

theorem wireLength_canonical (r : Record) : r.canonical.wireLength = r.wireLength := by
  simp only [wireLength, canonical, Payload.wireLength_canonical]

/-- A record that was written is read back with the canonical text of its address. -/
theorem reads_decode {r : Record} (h : r.Valid) (hf : r.payload.Faithful)
    (hlength : r.payload.wireLength < 65536) : Reads Record.decode r.wire r.canonical := by
  have hcount : (UInt16.ofNat r.payload.wireLength).toNat = r.payload.wireLength :=
    UInt16.toNat_ofNat_of_lt' hlength
  have hpayload := Payload.reads_decodePayload h.payload hf
  have hmeasured := hpayload.measured (Payload.length_form h.payload)
    (fun payload => (⟨r.owner, r.classCode, r.ttl, payload⟩ : Record)) .recordLength
  have hcounted := Reads.uint16 (UInt16.ofNat r.payload.wireLength)
  rw [hcount] at hcounted
  have hwire : r.wire = r.owner.wire ++ (Octets.ofNat 2 r.typeCode.toNat ++
      (Octets.ofNat 2 r.classCode.toNat ++ (Octets.ofNat 4 r.ttl.toNat ++
      (Octets.ofNat 2 r.payload.wireLength ++ r.payload.form.octets)))) := by
    simp only [wire, fixedWire, WireForm.lengthPrefixed, Payload.length_form h.payload,
      List.append_assoc]
  rw [hwire]
  refine (Name.reads_decode h.owner).bind ((Reads.uint16 _).bind ((Reads.uint16 _).bind
    ((Reads.uint32 _).bind (hcounted.bind ?_))))
  rw [hcount]
  exact hmeasured

end Record

end ZoneServer

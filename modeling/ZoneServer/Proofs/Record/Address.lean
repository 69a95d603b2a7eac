import ZoneServer.Proofs.Address.Dotted
import ZoneServer.Proofs.Record.Fault
import ZoneServer.Proofs.Zone.Entries

/-!
# The addresses of records

A record has the text of its address as it was given, and what is read of a datagram has the canonical text.
Between the two is the address itself: whatever spells it, the same octets are written, and they are read as the
canonical text, which spells it again (`Record.address_is_dotted_decimal`).
-/

namespace ZoneServer

open Decoder

/-- What is written comes after what was written before. -/
theorem Buffer.contents_append {b : Buffer} (hb : b.WellFormed) (os : Octets) :
    (b.append os).contents = b.contents ++ os := by
  have hlength : (b.cells.take b.position ++ os).length = b.position + os.length := by
    rw [List.length_append, hb.length_take]
  exact List.take_left' hlength

namespace Record

variable {r : Record} {text : String} {address : Ipv4} {b b' : Buffer}

/-- A record is read back, in its canonical form, where it was written, and is written again as it was. -/
theorem decode_of_encode (hb : b.WellFormed) (hf : r.payload.Faithful) (h : r.encode b = .ok () b') :
    (∀ after, Record.decode ⟨(b'.contents ++ after).toArray, b.position⟩ =
      .ok r.canonical ⟨(b'.contents ++ after).toArray, b'.position⟩) ∧
    r.canonical.encode b = .ok () b' := by
  obtain ⟨hfault, hroom, rfl⟩ := (writes_encode r).of_ok hb h
  have hvalid := fault_form.1 hfault
  rw [form_of_valid hvalid, WireForm.ofOctets] at hroom ⊢
  constructor
  · intro after
    have hlength : r.payload.wireLength < 65536 := by
      have hwire := length_wire hvalid
      rw [maxMessageSize, hwire, wireLength] at hroom
      omega
    have hsplit : (b.append r.wire).contents ++ after = b.contents ++ (r.wire ++ after) := by
      rw [Buffer.contents_append hb, List.append_assoc]
    have hplace : b.contents.length = b.position := hb.length_take
    have hread := (reads_decode hvalid hf hlength).inside hsplit
    rw [hplace] at hread
    exact hread
  · have hcanonical := canonical_valid hvalid
    rw [length_wire hvalid, ← wireLength_canonical] at hroom
    rw [encode_of_room hcanonical hb hroom, wire_canonical hvalid]

theorem canonical_of_address (hpayload : r.payload = .address text)
    (htext : Ipv4.ofString? text = some address) :
    r.canonical = { r with payload := .address address.text } := by
  rw [canonical, hpayload, Payload.canonical, htext]
  rfl

theorem wireLength_of_address (hpayload : r.payload = .address text) :
    r.wireLength = r.owner.encodedLength + 14 := by
  rw [wireLength, hpayload]
  rfl

/-- With a text that spells an address, only the owner can be in the way of a record, or the space. -/
theorem encode_address_iff (hb : b.WellFormed) (hpayload : r.payload = .address text)
    (htext : Ipv4.ofString? text = some address) :
    (∃ b', r.encode b = .ok () b') ↔
      r.owner.Valid ∧ b.position + (r.owner.encodedLength + 14) ≤ maxMessageSize := by
  rw [← wireLength_of_address hpayload]
  constructor
  · rintro ⟨b', hrun⟩
    obtain ⟨hfault, hroom, -⟩ := (writes_encode r).of_ok hb hrun
    have hvalid := fault_form.1 hfault
    rw [form_of_valid hvalid, WireForm.ofOctets, length_wire hvalid] at hroom
    exact ⟨hvalid.owner, hroom⟩
  · rintro ⟨howner, hroom⟩
    have hvalid : r.Valid := by
      refine ⟨howner, ?_⟩
      rw [hpayload]
      exact ⟨address, htext⟩
    exact ⟨_, encode_of_room hvalid hb hroom⟩

end Record

/-- A text spells an address just if it is the address in dotted decimal. Of any other text there is an error
that has the text in it, when it is read as an address, when a record with it is written, of which nothing is
written then, and when an entry with it is made into a record. Any four octets are read as a text that spells them. A record with a text that
spells an address is written if its owner may be written and there is room. It is then read back, where it was
written, with the canonical text of the address, and writing what was read back writes the same. -/
theorem Record.address_is_dotted_decimal (text : String) :
    (∀ address, Ipv4.parse text = .ok address ↔ Ipv4.Dotted text.toList address) ∧
    ((∀ address, ¬ Ipv4.Dotted text.toList address) → Ipv4.parse text = .error (.invalidAddress text) ∧
      (∀ (r : Record) b, r.payload = .address text → r.encode b = .error (.invalidAddress text) b) ∧
      ∀ entry : ZoneEntry, entry.kind = .a → entry.value = text →
        entry.payload = .error (.invalidAddress entry.name (.invalidAddress text))) ∧
    (∀ address : Ipv4, Ipv4.parse address.text = .ok address ∧ ∀ before after,
      decodePayload TypeCode.address 4 (.between before (address.octets ++ after)) =
        .ok (.address address.text) (.between (before ++ address.octets) after)) ∧
    ∀ address (r : Record) b, Ipv4.Dotted text.toList address → r.payload = .address text →
      b.WellFormed →
      ((∃ b', r.encode b = .ok () b') ↔
        r.owner.Valid ∧ b.position + (r.owner.encodedLength + 14) ≤ 512) ∧
      ∀ b', r.encode b = .ok () b' →
        (∀ after, Record.decode ⟨(b'.contents ++ after).toArray, b.position⟩ =
          .ok { r with payload := .address address.text }
            ⟨(b'.contents ++ after).toArray, b'.position⟩) ∧
        { r with payload := .address address.text }.encode b = .ok () b' := by
  refine ⟨fun address => Ipv4.parse_eq_ok.trans Ipv4.ofString?_eq_some, ?_, ?_, ?_⟩
  · intro hnone
    have htext := Ipv4.ofString?_eq_none.2 hnone
    refine ⟨Ipv4.parse_eq_error.2 ⟨htext, rfl⟩, fun r b hpayload => encode_of_unreadable hpayload htext b, ?_⟩
    rintro entry hkind rfl
    exact entry.payload_of_unreadable hkind htext
  · intro address
    have hcanonical := Ipv4.ofString?_text address
    have hread := Payload.reads_decodePayload (p := .address address.text) ⟨address, hcanonical⟩ trivial
    simp only [Payload.form, Payload.canonical, hcanonical, Option.map_some, Option.getD_some] at hread
    exact ⟨Ipv4.parse_eq_ok.2 hcanonical, hread.whole⟩
  · intro address r b hdotted hpayload hb
    have htext := Ipv4.ofString?_eq_some.2 hdotted
    have hfaithful : r.payload.Faithful := by
      rw [hpayload]
      trivial
    refine ⟨encode_address_iff hb hpayload htext, fun b' hrun => ?_⟩
    rw [← canonical_of_address hpayload htext]
    exact decode_of_encode hb hfaithful hrun

/-- A record for a host, with zeros before the numbers of its address. -/
def paddedAddress : Record := Record.ofPayload (Name.ofString "a") 60 (.address "0192.000.2.1")

theorem Record.address_is_paddedAddress :
    Ipv4.Dotted "0192.000.2.1".toList ⟨192, 0, 2, 1⟩ ∧
    (∀ address, ¬ Ipv4.Dotted "192.0.+2.1".toList address) ∧
    ({ paddedAddress with payload := .address "192.0.+2.1" }.encode .empty =
      .error (.invalidAddress "192.0.+2.1") .empty) ∧
    ∃ b', paddedAddress.encode .empty = .ok () b' ∧
      Record.decode ⟨b'.contents.toArray, 0⟩ =
        .ok { paddedAddress with payload := .address "192.0.2.1" } ⟨b'.contents.toArray, b'.position⟩ ∧
      { paddedAddress with payload := .address "192.0.2.1" }.encode .empty = .ok () b' := by
  obtain ⟨hspells, -, -, hrecords⟩ := Record.address_is_dotted_decimal "0192.000.2.1"
  obtain ⟨-, hrefused, -, -⟩ := Record.address_is_dotted_decimal "192.0.+2.1"
  have hdotted : Ipv4.Dotted "0192.000.2.1".toList ⟨192, 0, 2, 1⟩ := (hspells _).1 (by decide)
  have hnone : ∀ address, ¬ Ipv4.Dotted "192.0.+2.1".toList address := Ipv4.ofString?_eq_none.1 (by decide)
  have howner : paddedAddress.owner.Valid := Name.check_eq_ok.1 (by decide)
  obtain ⟨hwritten, hread⟩ := hrecords _ paddedAddress .empty hdotted rfl Buffer.wellFormed_empty
  obtain ⟨b', hrun⟩ := hwritten.2 ⟨howner, by decide⟩
  obtain ⟨hdecode, hagain⟩ := hread b' hrun
  have hwhole := hdecode []
  rw [List.append_nil] at hwhole
  exact ⟨hdotted, hnone, (hrefused hnone).2.1 _ .empty rfl, b', hrun, hwhole, hagain⟩

end ZoneServer

import ZoneServer.Proofs.Name.Inline
import ZoneServer.Record.Basic

/-!
# The frames of records

Before the payload of a record stands its length. The names in a payload may go on anywhere before, so what
is read of the datagram says nothing about this length. What counts are the octets that the payload takes
where it stands (`Payload.Takes`). A record is read only if these are just as many as the length says
(`Record.standsAt_of_decode`), and any other length is refused (`Record.Preamble.decode_of_payload`).
-/

namespace ZoneServer

open Decoder

/-! ## Numbers at a place -/

theorem append_prefix_drop {datagram os os' : Octets} {place : Nat} :
    os ++ os' <+: datagram.drop place ↔
      os <+: datagram.drop place ∧ os' <+: datagram.drop (place + os.length) := by
  rw [← List.drop_drop]
  constructor
  · rintro ⟨rest, hrest⟩
    rw [← hrest, List.append_assoc, List.drop_left]
    exact ⟨List.prefix_append _ _, List.prefix_append _ _⟩
  · rintro ⟨⟨rest, hrest⟩, hstands⟩
    rw [← hrest, List.drop_left] at hstands
    rw [← hrest]
    exact (List.prefix_append_right_inj os).2 hstands

namespace Decoder

variable {c c' : Cursor} {n : Nat}

/-- A number is read where its octets stand, if so many octets are just what it needs. -/
theorem number_eq_ok {α : Type} {ofNat : Nat → α} {toNat : α → Nat} {a : α} (hn : 0 < n)
    (hread : ∀ k < 256 ^ n, toNat (ofNat k) = k)
    (hwritten : ∀ a, toNat a < 256 ^ n ∧ ofNat (toNat a) = a) :
    (do return ofNat (Octets.toNat (← octets n)) : Decoder α) c = .ok a c' ↔
      Octets.ofNat n (toNat a) <+: c.datagram.toList.drop c.position ∧
        c' = { c with position := c.position + n } := by
  constructor
  · intro h
    obtain ⟨os, t, hos, hpure⟩ := Wire.bind_eq_ok.1 h
    obtain ⟨rfl, rfl⟩ := Wire.pure_eq_ok.1 hpure
    obtain ⟨rfl, hstarts, rfl⟩ := (octets_eq_ok hn).1 hos
    rw [hread _ (Octets.toNat_lt os), Octets.ofNat_toNat]
    exact ⟨hstarts, rfl⟩
  · rintro ⟨hstarts, rfl⟩
    have hos : octets n c = .ok (Octets.ofNat n (toNat a)) { c with position := c.position + n } :=
      (octets_eq_ok hn).2 ⟨Octets.length_ofNat n _, hstarts, rfl⟩
    refine Wire.bind_eq_ok.2 ⟨_, _, hos, Wire.pure_eq_ok.2 ⟨?_, rfl⟩⟩
    rw [Octets.toNat_ofNat, Nat.mod_eq_of_lt (hwritten a).1, (hwritten a).2]

theorem uint16_eq_ok {a : UInt16} : uint16 c = .ok a c' ↔
    Octets.ofNat 2 a.toNat <+: c.datagram.toList.drop c.position ∧
      c' = { c with position := c.position + 2 } :=
  number_eq_ok Nat.two_pos (fun _ hk => UInt16.toNat_ofNat_of_lt' hk)
    fun a => ⟨a.toNat_lt, UInt16.ofNat_toNat⟩

theorem uint32_eq_ok {a : UInt32} : uint32 c = .ok a c' ↔
    Octets.ofNat 4 a.toNat <+: c.datagram.toList.drop c.position ∧
      c' = { c with position := c.position + 4 } :=
  number_eq_ok (by decide) (fun _ hk => UInt32.toNat_ofNat_of_lt' hk)
    fun a => ⟨a.toNat_lt, UInt32.ofNat_toNat⟩

/-- Any octets that are read are as many as were asked for, none of them included. -/
theorem length_of_octets {os : Octets} (h : octets n c = .ok os c') :
    os.length = n ∧ c' = { c with position := c.position + n } := by
  rcases Nat.eq_zero_or_pos n with rfl | hn
  · by_cases hle : c.position + 0 ≤ c.datagram.size
    · rw [octets_of_le hle] at h
      cases h
      simp
    · rw [octets_of_lt (Nat.not_le.1 hle)] at h
      cases h
  · obtain ⟨hlength, -, rfl⟩ := (octets_eq_ok hn).1 h
    exact ⟨hlength, rfl⟩

end Decoder

/-! ## What a payload takes -/

/-- A payload that takes a number of octets where it stands. What its names have elsewhere does not count. -/
def Payload.Takes (datagram : Octets) (place : Nat) : Payload → Nat → Prop
  | .address _, n => n = 4
  | .mailExchange _ _, n => InlineName datagram (place + 2) (place + n)
  | .pointer _, n => InlineName datagram place (place + n)
  | .canonicalName _, n => InlineName datagram place (place + n)
  | .other _ data, n => n = data.length

theorem Payload.Takes.unique {payload : Payload} {datagram : Octets} {place m n : Nat}
    (h : payload.Takes datagram place m) (h' : payload.Takes datagram place n) : m = n := by
  cases payload with
  | address => exact h.trans h'.symm
  | other => exact h.trans h'.symm
  | mailExchange => exact Nat.add_left_cancel (InlineName.unique h h')
  | pointer => exact Nat.add_left_cancel (InlineName.unique h h')
  | canonicalName => exact Nat.add_left_cancel (InlineName.unique h h')

namespace Record

/-- A payload that was read is one of the type that was asked for, and reading goes on after the octets that
it takes. -/
theorem takes_of_decodePayload {typeCode : TypeCode} {length : Nat} {payload : Payload} {c c' : Cursor}
    (h : decodePayload typeCode length c = .ok payload c') :
    payload.typeCode = typeCode ∧ ∃ n, payload.Takes c.datagram.toList c.position n ∧
      c' = { c with position := c.position + n } := by
  unfold decodePayload decodePayloadWith at h
  -- the types are tried in this order: addresses, exchanges, pointers, canonical names, any other
  split at h
  · rename_i htype
    unfold decodeAddress at h
    split at h
    · obtain ⟨os, t, hos, hpure⟩ := Wire.bind_eq_ok.1 h
      obtain ⟨-, rfl⟩ := length_of_octets hos
      obtain ⟨rfl, rfl⟩ := Wire.pure_eq_ok.1 hpure
      exact ⟨htype.symm, 4, rfl, rfl⟩
    · cases h
  · split at h
    · rename_i htype
      obtain ⟨preference, t, hpreference, h⟩ := Wire.bind_eq_ok.1 h
      obtain ⟨-, rfl⟩ := uint16_eq_ok.1 hpreference
      obtain ⟨exchange, t, hexchange, hpure⟩ := Wire.bind_eq_ok.1 h
      obtain ⟨n, hinline, rfl⟩ := Name.inlineName_of_decode hexchange
      obtain ⟨rfl, rfl⟩ := Wire.pure_eq_ok.1 hpure
      dsimp only at hinline ⊢
      rw [Nat.add_assoc] at hinline ⊢
      exact ⟨htype.symm, 2 + n, hinline, rfl⟩
    · split at h
      · rename_i htype
        obtain ⟨target, t, htarget, hpure⟩ := Wire.bind_eq_ok.1 h
        obtain ⟨n, hinline, rfl⟩ := Name.inlineName_of_decode htarget
        obtain ⟨rfl, rfl⟩ := Wire.pure_eq_ok.1 hpure
        exact ⟨htype.symm, n, hinline, rfl⟩
      · split at h
        · rename_i htype
          obtain ⟨target, t, htarget, hpure⟩ := Wire.bind_eq_ok.1 h
          obtain ⟨n, hinline, rfl⟩ := Name.inlineName_of_decode htarget
          obtain ⟨rfl, rfl⟩ := Wire.pure_eq_ok.1 hpure
          exact ⟨htype.symm, n, hinline, rfl⟩
        · obtain ⟨data, t, hdata, hpure⟩ := Wire.bind_eq_ok.1 h
          obtain ⟨hlength, rfl⟩ := length_of_octets hdata
          obtain ⟨rfl, rfl⟩ := Wire.pure_eq_ok.1 hpure
          exact ⟨rfl, length, hlength.symm, rfl⟩

/-! ## What stands before a payload -/

/-- What comes before the payload of a record. -/
structure Preamble where
  /-- The name that the record is about. -/
  owner : Name
  /-- The type. -/
  typeCode : TypeCode
  /-- The class. -/
  classCode : UInt16
  /-- For how many seconds the record may be kept. -/
  ttl : UInt32
  /-- How many octets the payload is said to take. -/
  length : UInt16

namespace Preamble

/-- The ten octets after the owner. -/
def fields (p : Preamble) : Octets :=
  Octets.ofNat 2 p.typeCode.toNat ++ (Octets.ofNat 2 p.classCode.toNat ++
    (Octets.ofNat 4 p.ttl.toNat ++ Octets.ofNat 2 p.length.toNat))

/-- A preamble that stands at a place: its owner is read there, and the other fields stand after it. The
payload is ten octets further. -/
structure StandsAt (p : Preamble) (datagram : Octets) (place after : Nat) : Prop where
  owner : Name.decode ⟨datagram.toArray, place⟩ = .ok p.owner ⟨datagram.toArray, after⟩
  fields : p.fields <+: datagram.drop after

/-- Reads the rest of a record. -/
def decodeRest (p : Preamble) : Decoder Record := do
  let start ← Decoder.position
  let payload ← decodePayload p.typeCode p.length.toNat
  let stop ← Decoder.position
  if stop - start = p.length.toNat then return ⟨p.owner, p.classCode, p.ttl, payload⟩
  else throw .recordLength

/-- Reads what comes before the payload of a record. -/
def decode : Decoder Preamble := do
  let owner ← Name.decode
  let typeCode ← Decoder.uint16
  let classCode ← Decoder.uint16
  let ttl ← Decoder.uint32
  let length ← Decoder.uint16
  return ⟨owner, typeCode, classCode, ttl, length⟩

theorem decode_bind_decodeRest : decode >>= decodeRest = Record.decode := by
  simp only [decode, bind_assoc, pure_bind]
  rfl

variable {p : Preamble} {datagram : Octets} {place after : Nat}

theorem decode_of_standsAt (h : p.StandsAt datagram place after) :
    decode ⟨datagram.toArray, place⟩ = .ok p ⟨datagram.toArray, after + 10⟩ := by
  have hfields := h.fields
  rw [fields, append_prefix_drop, append_prefix_drop, append_prefix_drop] at hfields
  simp only [Octets.length_ofNat] at hfields
  obtain ⟨htype, hclass, httl, hlength⟩ := hfields
  refine Wire.bind_eq_ok.2 ⟨_, _, h.owner, ?_⟩
  refine Wire.bind_eq_ok.2 ⟨_, _, uint16_eq_ok.2 ⟨htype, rfl⟩, ?_⟩
  refine Wire.bind_eq_ok.2 ⟨_, _, uint16_eq_ok.2 ⟨hclass, rfl⟩, ?_⟩
  refine Wire.bind_eq_ok.2 ⟨_, _, uint32_eq_ok.2 ⟨httl, rfl⟩, ?_⟩
  exact Wire.bind_eq_ok.2 ⟨_, _, uint16_eq_ok.2 ⟨hlength, rfl⟩, rfl⟩

theorem standsAt_of_decode {c' : Cursor} (h : decode ⟨datagram.toArray, place⟩ = .ok p c') :
    ∃ after, p.StandsAt datagram place after ∧ c' = ⟨datagram.toArray, after + 10⟩ := by
  obtain ⟨owner, t, howner, h⟩ := Wire.bind_eq_ok.1 h
  obtain ⟨n, -, rfl⟩ := Name.inlineName_of_decode howner
  obtain ⟨typeCode, t, hread, h⟩ := Wire.bind_eq_ok.1 h
  obtain ⟨htype, rfl⟩ := uint16_eq_ok.1 hread
  obtain ⟨classCode, t, hread, h⟩ := Wire.bind_eq_ok.1 h
  obtain ⟨hclass, rfl⟩ := uint16_eq_ok.1 hread
  obtain ⟨ttl, t, hread, h⟩ := Wire.bind_eq_ok.1 h
  obtain ⟨httl, rfl⟩ := uint32_eq_ok.1 hread
  obtain ⟨length, t, hread, hpure⟩ := Wire.bind_eq_ok.1 h
  obtain ⟨hlength, rfl⟩ := uint16_eq_ok.1 hread
  obtain ⟨rfl, rfl⟩ := Wire.pure_eq_ok.1 hpure
  refine ⟨place + n, ⟨howner, ?_⟩, rfl⟩
  rw [fields, append_prefix_drop, append_prefix_drop, append_prefix_drop]
  simp only [Octets.length_ofNat]
  exact ⟨htype, hclass, httl, hlength⟩

theorem StandsAt.inlineName (h : p.StandsAt datagram place after) :
    InlineName datagram place after := by
  obtain ⟨n, hinline, hafter⟩ := Name.inlineName_of_decode h.owner
  obtain rfl : after = place + n := congrArg Cursor.position hafter
  exact hinline

/-- The rest of a record is a payload that takes the stated length, and nothing else. -/
theorem decodeRest_of_payload {payload : Payload} {n : Nat} (h : decodePayload p.typeCode p.length.toNat
      ⟨datagram.toArray, place⟩ = .ok payload ⟨datagram.toArray, place + n⟩) :
    p.decodeRest ⟨datagram.toArray, place⟩ =
      if n = p.length.toNat then
        .ok ⟨p.owner, p.classCode, p.ttl, payload⟩ ⟨datagram.toArray, place + n⟩
      else .error .recordLength ⟨datagram.toArray, place + n⟩ := by
  rw [decodeRest, position_bind, Wire.bind_of_ok h, position_bind, Nat.add_sub_cancel_left]
  split <;> rfl

/-- If a payload can be read after a preamble, its length decides whether the record is. -/
theorem decode_of_payload (h : p.StandsAt datagram place after) {payload : Payload} {n : Nat}
    (hpayload : decodePayload p.typeCode p.length.toNat ⟨datagram.toArray, after + 10⟩ =
      .ok payload ⟨datagram.toArray, after + 10 + n⟩) :
    Record.decode ⟨datagram.toArray, place⟩ =
      if n = p.length.toNat then
        .ok ⟨p.owner, p.classCode, p.ttl, payload⟩ ⟨datagram.toArray, after + 10 + n⟩
      else .error .recordLength ⟨datagram.toArray, after + 10 + n⟩ := by
  rw [← decode_bind_decodeRest, Wire.bind_of_ok (decode_of_standsAt h), decodeRest_of_payload hpayload]

/-- The payload of an address is not read at all if it is not said to take four octets. -/
theorem decode_of_wrongAddress (h : p.StandsAt datagram place after)
    (htype : p.typeCode = TypeCode.address) (hlength : p.length.toNat ≠ 4) :
    Record.decode ⟨datagram.toArray, place⟩ = .error .recordLength ⟨datagram.toArray, after + 10⟩ := by
  have hpayload : decodePayload p.typeCode p.length.toNat ⟨datagram.toArray, after + 10⟩ =
      .error .recordLength ⟨datagram.toArray, after + 10⟩ := by
    rw [decodePayload, decodePayloadWith, if_pos htype, decodeAddress, if_neg hlength]
    rfl
  rw [← decode_bind_decodeRest, Wire.bind_of_ok (decode_of_standsAt h), decodeRest, position_bind]
  exact Wire.bind_eq_error.2 (.inl hpayload)

end Preamble

/-! ## What a record takes -/

/-- A record that stands at a place. Before its payload stands a length, and the payload takes just as many
octets. -/
structure StandsAt (r : Record) (datagram : Octets) (place after : Nat) (length : UInt16) : Prop where
  preamble : Preamble.StandsAt ⟨r.owner, r.typeCode, r.classCode, r.ttl, length⟩ datagram place after
  takes : r.payload.Takes datagram (after + 10) length.toNat

theorem standsAt_of_decode {r : Record} {datagram : Octets} {place : Nat} {c' : Cursor}
    (h : decode ⟨datagram.toArray, place⟩ = .ok r c') :
    ∃ after length, r.StandsAt datagram place after length ∧
      c' = ⟨datagram.toArray, after + 10 + length.toNat⟩ := by
  rw [← Preamble.decode_bind_decodeRest] at h
  obtain ⟨p, t, hpreamble, hrest⟩ := Wire.bind_eq_ok.1 h
  obtain ⟨after, hstands, rfl⟩ := Preamble.standsAt_of_decode hpreamble
  obtain ⟨start, t, hstart, h⟩ := Wire.bind_eq_ok.1 hrest
  cases hstart
  obtain ⟨payload, t, hpayload, -⟩ := Wire.bind_eq_ok.1 h
  obtain ⟨htype, n, htakes, rfl⟩ := takes_of_decodePayload hpayload
  rw [Preamble.decodeRest_of_payload hpayload] at hrest
  split at hrest
  · rename_i hn
    cases hrest
    refine ⟨after, p.length, ⟨?_, by rwa [← hn]⟩, by rw [hn]⟩
    rw [typeCode, htype]
    exact hstands
  · cases hrest

end Record

end ZoneServer

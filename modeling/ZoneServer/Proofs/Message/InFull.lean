import ZoneServer.Proofs.Message.Admits
import ZoneServer.Proofs.Name.InFull

/-!
# Messages in full

A message in which no name has a pointer is packed as the octets that it was read from, but for the parts
of its header that are not kept. So nothing in such a message has two forms, and nothing of it is lost.

The decoders of messages and of their parts read names in a way that is given to them; `Name.decodeInFull` is
one that refuses pointers.
-/

namespace ZoneServer

open Decoder

/-! ## Questions and records -/

section Takes

variable {decodeName : Decoder Name}

theorem Question.takes_decodeWith
    (h : Takes decodeName fun name os => name.Valid ∧ os = name.wire) :
    Takes (decodeWith decodeName) fun q os => os = q.wire := by
  refine h.bind fun name os hname => ?_
  obtain ⟨-, rfl⟩ := hname
  refine Takes.uint16.bind fun typeCode os htype => ?_
  refine Takes.uint16.bind fun classCode os' hclass => Takes.pure ?_
  rw [wire, htype, hclass, List.append_nil]

namespace Record

theorem takes_decodeAddress (length : Nat) : Takes (decodeAddress length) fun p os =>
    p.typeCode = TypeCode.address ∧ os = p.form.octets := by
  unfold decodeAddress
  split
  · refine (Takes.octets 4).bind fun os taken htaken => Takes.pure ⟨rfl, ?_⟩
    obtain ⟨hlength, rfl⟩ := htaken
    rw [Payload.form, Ipv4.ofString?_text, Option.map_some, Option.getD_some,
      Ipv4.octets_ofOctets hlength, List.append_nil]
    rfl
  · exact Takes.throw _

theorem takes_decodePayloadWith (h : Takes decodeName fun name os => name.Valid ∧ os = name.wire)
    (typeCode : TypeCode) (length : Nat) :
    Takes (decodePayloadWith decodeName typeCode length) fun p os =>
      p.typeCode = typeCode ∧ os = p.form.octets := by
  have hform : Takes decodeName fun name os => os = name.form.octets := by
    refine h.mono ?_
    rintro name os ⟨hvalid, rfl⟩
    rw [Name.form_of_valid hvalid]
    rfl
  unfold decodePayloadWith
  split
  · rename_i htype
    rw [htype]
    exact takes_decodeAddress length
  · split
    · rename_i htype
      refine Takes.uint16.bind fun preference os hpreference => ?_
      refine hform.bind fun exchange os' hexchange => Takes.pure ⟨htype.symm, ?_⟩
      rw [List.append_nil, hpreference, hexchange, Payload.form, WireForm.append_of_fault_none rfl]
      rfl
    · split
      · rename_i htype
        refine hform.bind fun target os htarget => Takes.pure ⟨htype.symm, ?_⟩
        rw [List.append_nil, htarget, Payload.form]
      · split
        · rename_i htype
          refine hform.bind fun target os htarget => Takes.pure ⟨htype.symm, ?_⟩
          rw [List.append_nil, htarget, Payload.form]
        · refine (Takes.octets length).bind fun data os hdata => Takes.pure ⟨rfl, ?_⟩
          rw [List.append_nil, hdata.2]
          rfl

theorem takes_decodeWith (h : Takes decodeName fun name os => name.Valid ∧ os = name.wire) :
    Takes (decodeWith decodeName) fun r os => os = r.wire := by
  refine h.bind fun owner os howner => ?_
  refine Takes.uint16.bind fun typeCode os htype => ?_
  refine Takes.uint16.bind fun classCode os hclass => ?_
  refine Takes.uint32.bind fun ttl os httl => ?_
  refine Takes.uint16.bind fun length os hlength => ?_
  refine (takes_decodePayloadWith h typeCode length.toNat).measured ?_
  rintro payload os ⟨rfl, rfl⟩ hmeasured
  subst htype hclass httl hlength
  rw [howner.2, wire, fixedWire, WireForm.lengthPrefixed, hmeasured]
  simp only [List.append_assoc]
  rfl

end Record

end Takes

/-! ## Headers -/

namespace Header

/-- What is kept of an octet of a message when the message is read and packed again: of the flags two
bits, of the response code four, and nothing of the counts of the last two sections. -/
def keptOctet (index : Nat) (o : UInt8) : UInt8 :=
  if index = 2 then o &&& (authoritativeBit ||| truncatedBit)
  else if index = 3 then o &&& 15
  else if 8 ≤ index ∧ index < 12 then 0
  else o

/-- What is kept of the octets of a message. -/
def kept (message : Octets) : Octets := message.mapIdx keptOctet

/-- The flags of a header that was read are two bits of the octet that they were read from. -/
theorem flags_eq_and {h : Header} {o : UInt8}
    (hauthoritative : h.authoritative = (o &&& authoritativeBit != 0))
    (htruncated : h.truncated = (o &&& truncatedBit != 0)) :
    h.flags = o &&& (authoritativeBit ||| truncatedBit) := by
  rw [flags, hauthoritative, htruncated]
  clear hauthoritative htruncated
  cases o with
  | ofBitVec bits =>
    revert bits
    decide

theorem responseCodeOf_eq_and (o : UInt8) : responseCodeOf o = o &&& 15 := by
  cases o with
  | ofBitVec bits =>
    revert bits
    decide

theorem takes_decode : Takes Header.decode fun h os => os.length = 12 ∧
    kept os = (h.withCounts h.questionCount h.answerCount).wire := by
  refine Takes.uint16.bind fun id os hid => ?_
  refine Takes.uint8.bind fun flags os hflags => ?_
  refine Takes.uint8.bind fun code os hcode => ?_
  refine Takes.uint16.bind fun questionCount os hquestions => ?_
  refine Takes.uint16.bind fun answerCount os hanswers => ?_
  refine Takes.uint16.bind fun authorityCount os hauthorities => ?_
  refine Takes.uint16.bind fun additionalCount os hadditional => Takes.pure ?_
  subst hid hflags hcode hquestions hanswers hauthorities hadditional
  refine ⟨by simp, ?_⟩
  rw [wire, flags_eq_and rfl rfl]
  simp only [withCounts, responseCodeOf_responseCodeOf]
  rw [responseCodeOf_eq_and]
  simp only [Octets.ofNat, List.cons_append, List.nil_append, kept, List.mapIdx_cons, List.mapIdx_nil]
  rfl

/-- All that follows a header is kept. -/
theorem kept_append {os : Octets} (h : os.length = 12) (after : Octets) :
    kept (os ++ after) = kept os ++ after := by
  have hafter : after.mapIdx (fun index o => keptOctet (index + os.length) o) = after := by
    refine List.ext_getElem (by simp) fun index _ _ => ?_
    rw [List.getElem_mapIdx, keptOctet, if_neg (by omega), if_neg (by omega), if_neg (by omega)]
  rw [kept, List.mapIdx_append, hafter, kept]

theorem length_kept (message : Octets) : (kept message).length = message.length :=
  List.length_mapIdx

end Header

/-! ## Messages -/

theorem Message.takes_decodeWith {decodeName : Decoder Name}
    (h : Takes decodeName fun name os => name.Valid ∧ os = name.wire) :
    Takes (decodeWith decodeName) fun m os => ∀ after, Header.kept (os ++ after) =
      (m.header.withCounts m.header.questionCount m.header.answerCount).wire ++
        m.questions.flatMap Question.wire ++ after := by
  refine Header.takes_decode.bind fun header os hheader => ?_
  obtain ⟨hlength, hkept⟩ := hheader
  refine ((Question.takes_decodeWith h).times _).bind fun questions os' hquestions => ?_
  refine Takes.pure fun after => ?_
  rw [List.append_nil, hquestions, List.append_assoc, Header.kept_append hlength, hkept,
    List.append_assoc]

namespace Response

theorem takes_decoderWith {decodeName : Decoder Name}
    (h : Takes decodeName fun name os => name.Valid ∧ os = name.wire) :
    Takes (decoderWith decodeName) fun r os => Header.kept os =
      (r.header.withCounts r.header.questionCount r.header.answerCount).wire ++
        r.questions.flatMap Question.wire ++ r.answers.flatMap Record.wire := by
  refine (Message.takes_decodeWith h).bind fun m os hmessage => ?_
  refine ((Record.takes_decodeWith h).times _).bind fun answers os' hanswers => Takes.pure ?_
  rw [List.append_nil, hmessage, hanswers]

/-- A response that was read is written with the counts that it was read with. -/
theorem wire_of_settled {r : Response} (h : r.Settled) : r.wire =
    (r.header.withCounts r.header.questionCount r.header.answerCount).wire ++
      r.questions.flatMap Question.wire ++ r.answers.flatMap Record.wire := by
  rw [wire, Message.wire, h.counted, h.message.counted, UInt16.ofNat_toNat, UInt16.ofNat_toNat]

/-- No name that is met in reading a datagram has a pointer: it comes to the same if pointers are
refused. -/
def ReadInFull (datagram : Octets) (length : Nat) : Prop :=
  decoderWith Name.decodeInFull (.ofPrefix datagram length) =
    decoderWith Name.decode (.ofPrefix datagram length)

/-- A response that is read without meeting a pointer is packed as the octets that were taken, of which
the header has lost what is not kept; and if these were too many it does not fit. -/
theorem pack_of_readInFull {datagram : Octets} {length : Nat} {r : Response}
    (h : decode datagram length = .ok r) (hfull : ReadInFull datagram length) :
    ∃ c, decoder (.ofPrefix datagram length) = .ok r c ∧
      (c.position ≤ 512 → r.pack.1 = .ok (Header.kept (datagram.take c.position))) ∧
      (512 < c.position → r.pack.1 = .error .bufferFull) := by
  have hsettled := settled_of_decode h
  obtain ⟨c, hread⟩ := decode_eq_ok.1 h
  change decoderWith Name.decodeInFull (.ofPrefix datagram length) =
    decoder (.ofPrefix datagram length) at hfull
  rw [hread, Cursor.ofPrefix_eq] at hfull
  obtain ⟨os, rest, hsplit, hc, hkept⟩ :=
    takes_decoderWith Name.takes_decodeInFull [] (datagram.take length) r c hfull
  rw [← wire_of_settled hsettled] at hkept
  have hposition : c.position = os.length := by
    rw [hc]
    rfl
  have hprefix : os <+: datagram := by
    have htaken : os <+: datagram.take length := by
      rw [hsplit]
      exact List.prefix_append os rest
    exact htaken.trans (List.take_prefix length datagram)
  have htaken : datagram.take c.position = os := by
    rw [hposition]
    exact (List.prefix_iff_eq_take.1 hprefix).symm
  have hlength : r.wireLength = os.length := by
    rw [← length_wire hsettled.valid, ← hkept, Header.length_kept]
  have hpack := pack_of_valid hsettled.valid
  rw [hlength, ← hposition] at hpack
  refine ⟨c, hread, ?_, ?_⟩
  · intro hroom
    rw [hpack, if_pos (show c.position ≤ maxMessageSize from hroom), htaken, hkept]
  · intro hroom
    rw [hpack, if_neg (show ¬c.position ≤ maxMessageSize from Nat.not_le.2 hroom)]

/-- A response with more flags than are kept, counts of sections that it does not have, and two octets
after its answer. -/
def fullMessage : Octets :=
  [0, 7, 133, 243, 0, 1, 0, 1, 0, 2, 0, 3, 1, 97, 0, 0, 1, 0, 1,
    1, 65, 0, 0, 1, 0, 1, 0, 0, 0, 60, 0, 4, 10, 0, 0, 1, 9, 9]

/-- What is read of `fullMessage`. -/
def fullResponse : Response :=
  { header := ⟨7, true, false, 3, 1, 1, 2, 3⟩
    questions := [Question.internet ⟨["a".toList]⟩ TypeCode.address]
    answers := [Record.ofPayload ⟨["A".toList]⟩ 60 (.address "10.0.0.1")] }

/-- Any decoder of names will do, if it reads names that are written in full. -/
theorem decoderWith_fullMessage {decodeName : Decoder Name}
    (h : ∀ {name : Name}, name.Valid → Reads decodeName name.wire name) :
    decoderWith decodeName (.ofPrefix fullMessage 38) =
      .ok fullResponse ⟨fullMessage.toArray, 36⟩ := by
  have hasked : Name.Valid ⟨["a".toList]⟩ := ⟨by decide, by decide⟩
  have howner : Name.Valid ⟨["A".toList]⟩ := ⟨by decide, by decide⟩
  have hname : decodeName ⟨fullMessage.toArray, 12⟩ =
      .ok ⟨["a".toList]⟩ ⟨fullMessage.toArray, 15⟩ := by
    have hsplit : fullMessage =
        fullMessage.take 12 ++ (Name.wire ⟨["a".toList]⟩ ++ fullMessage.drop 15) := by decide
    exact (h hasked).inside hsplit
  have hname' : decodeName ⟨fullMessage.toArray, 19⟩ =
      .ok ⟨["A".toList]⟩ ⟨fullMessage.toArray, 22⟩ := by
    have hsplit : fullMessage =
        fullMessage.take 19 ++ (Name.wire ⟨["A".toList]⟩ ++ fullMessage.drop 22) := by decide
    exact (h howner).inside hsplit
  have hheader : Header.decode (.ofPrefix fullMessage 38) =
      .ok fullResponse.header ⟨fullMessage.toArray, 12⟩ := by
    rfl
  have hquestion : Question.decodeWith decodeName ⟨fullMessage.toArray, 12⟩ =
      .ok (Question.internet ⟨["a".toList]⟩ TypeCode.address) ⟨fullMessage.toArray, 19⟩ :=
    Wire.bind_eq_ok.2 ⟨_, _, hname, rfl⟩
  have hrecord : Record.decodeWith decodeName ⟨fullMessage.toArray, 19⟩ =
      .ok (Record.ofPayload ⟨["A".toList]⟩ 60 (.address "10.0.0.1")) ⟨fullMessage.toArray, 36⟩ :=
    Wire.bind_eq_ok.2 ⟨_, _, hname', rfl⟩
  have hmessage : Message.decodeWith decodeName (.ofPrefix fullMessage 38) =
      .ok fullResponse.toMessage ⟨fullMessage.toArray, 19⟩ :=
    Wire.bind_eq_ok.2 ⟨_, _, hheader, Wire.bind_eq_ok.2 ⟨_, _,
      Wire.bind_eq_ok.2 ⟨_, _, hquestion, rfl⟩, rfl⟩⟩
  exact Wire.bind_eq_ok.2 ⟨_, _, hmessage, Wire.bind_eq_ok.2 ⟨_, _,
    Wire.bind_eq_ok.2 ⟨_, _, hrecord, rfl⟩, rfl⟩⟩

theorem pack_fullMessage :
    decode fullMessage 38 = .ok fullResponse ∧ ReadInFull fullMessage 38 ∧
    fullResponse.pack.1 = .ok [0, 7, 4, 3, 0, 1, 0, 1, 0, 0, 0, 0, 1, 97, 0, 0, 1, 0, 1,
      1, 65, 0, 0, 1, 0, 1, 0, 0, 0, 60, 0, 4, 10, 0, 0, 1] := by
  have hread := decoderWith_fullMessage Name.reads_decode
  have hinFull := decoderWith_fullMessage Name.reads_decodeInFull
  have hfull : ReadInFull fullMessage 38 := hinFull.trans hread.symm
  have hdecode : decode fullMessage 38 = .ok fullResponse := decode_eq_ok.2 ⟨_, hread⟩
  obtain ⟨c, hc, hpack, -⟩ := pack_of_readInFull hdecode hfull
  cases hread.symm.trans hc
  refine ⟨hdecode, hfull, ?_⟩
  have hkept := hpack (show 36 ≤ 512 by decide)
  exact hkept

end Response

end ZoneServer

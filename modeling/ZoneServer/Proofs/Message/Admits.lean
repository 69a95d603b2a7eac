import ZoneServer.Proofs.Message.Reads
import ZoneServer.Proofs.Name.Admits
import ZoneServer.Proofs.Wire.InTurn

/-!
# Messages that are read are valid

What is read may be written again, and reading it once more changes nothing: the names in it are valid,
the texts of its addresses are canonical, and only payloads of other types are kept as octets. The counts
in the header of what was read are those of the questions and answers that were read.
-/

namespace ZoneServer

open Decoder

/-! ## Records -/

/-- A record as it is read: it may be written, and it is read back as it is. -/
structure Record.Settled (r : Record) : Prop where
  valid : r.Valid
  faithful : r.payload.Faithful
  canonical : r.canonical = r

namespace Record

theorem settled_of_payload {r : Record} (howner : r.owner.Valid) (hvalid : r.payload.Valid)
    (hfaithful : r.payload.Faithful) (hcanonical : r.payload.canonical = r.payload) : r.Settled := by
  refine ⟨⟨howner, hvalid⟩, hfaithful, ?_⟩
  rw [canonical, hcanonical]

theorem admits_decodePayload (typeCode : TypeCode) (length : Nat) :
    Admits (decodePayload typeCode length) fun p => p.Valid ∧ p.Faithful ∧ p.canonical = p := by
  unfold decodePayload decodePayloadWith
  split
  · unfold decodeAddress
    split
    · refine Admits.then fun os => Admits.pure ⟨⟨_, Ipv4.ofString?_text _⟩, trivial, ?_⟩
      simp only [Payload.canonical, Ipv4.ofString?_text, Option.map_some, Option.getD_some]
    · exact Admits.throw _
  · rename_i haddress
    split
    · exact Admits.then fun preference => Name.admits_decode.bind fun exchange hexchange =>
        Admits.pure ⟨hexchange, trivial, rfl⟩
    · rename_i hexchange
      split
      · exact Name.admits_decode.bind fun target htarget => Admits.pure ⟨htarget, trivial, rfl⟩
      · rename_i hpointer
        split
        · exact Name.admits_decode.bind fun target htarget => Admits.pure ⟨htarget, trivial, rfl⟩
        · rename_i hname
          refine Admits.then fun data => Admits.pure ⟨trivial, ?_, rfl⟩
          simp only [Payload.Faithful, List.mem_cons, List.not_mem_nil, or_false, not_or]
          exact ⟨haddress, hexchange, hpointer, hname⟩

theorem admits_decode : Admits decode Settled := by
  refine Name.admits_decode.bind fun owner howner => ?_
  refine Admits.then fun typeCode => Admits.then fun classCode => Admits.then fun ttl =>
    Admits.then fun length => Admits.then fun start => ?_
  refine (admits_decodePayload typeCode length.toNat).bind fun payload hpayload =>
    Admits.then fun stop => ?_
  obtain ⟨hvalid, hfaithful, hcanonical⟩ := hpayload
  split
  · exact Admits.pure (settled_of_payload howner hvalid hfaithful hcanonical)
  · exact Admits.throw _

end Record

/-! ## Headers and questions -/

theorem Header.admits_decode :
    Admits Header.decode fun h => responseCodeOf h.responseCode = h.responseCode := by
  refine Admits.then fun id => Admits.then fun flags => Admits.then fun code => ?_
  refine Admits.then fun questionCount => Admits.then fun answerCount => ?_
  refine Admits.then fun authorityCount => Admits.then fun additionalCount => Admits.pure ?_
  exact responseCodeOf_responseCodeOf code

theorem Question.admits_decode : Admits Question.decode fun q => q.name.Valid :=
  Name.admits_decode.bind fun _ hname =>
    Admits.then fun _ => Admits.then fun _ => Admits.pure hname

/-! ## Messages -/

/-- A header and questions as they are read. -/
structure Message.Settled (m : Message) : Prop where
  valid : m.Valid
  counted : m.questions.length = m.header.questionCount.toNat
  responseCode : Header.responseCodeOf m.header.responseCode = m.header.responseCode

namespace Message

/-- A message is a header and as many questions as it says, one after another. -/
theorem decode_eq_ok {m : Message} {c c' : Cursor} :
    decode c = .ok m c' ↔ ∃ t, Header.decode c = .ok m.header t ∧
      InTurn Question.decode t m.questions c' ∧
      m.questions.length = m.header.questionCount.toNat := by
  constructor
  · intro h
    obtain ⟨header, t, hheader, h⟩ := Wire.bind_eq_ok.1 h
    obtain ⟨questions, t', hquestions, hpure⟩ := Wire.bind_eq_ok.1 h
    obtain ⟨rfl, rfl⟩ := Wire.pure_eq_ok.1 hpure
    exact ⟨t, hheader, times_eq_ok.1 hquestions⟩
  · rintro ⟨t, hheader, hquestions⟩
    exact Wire.bind_eq_ok.2 ⟨_, _, hheader, Wire.bind_eq_ok.2 ⟨_, _, times_eq_ok.2 hquestions, rfl⟩⟩

theorem admits_decode : Admits Message.decode Settled := by
  refine Header.admits_decode.bind fun header hheader => ?_
  refine (Question.admits_decode.times _).bind fun questions hquestions => Admits.pure ?_
  exact ⟨hquestions.2, hquestions.1, hheader⟩

/-- Of a header that was read, nothing is lost but what it says on the last two sections. -/
theorem received_of_settled {m : Message} (h : m.Settled) (answerCount : UInt16) :
    m.received answerCount =
      { m with header := { m.header with answerCount, authorityCount := 0, additionalCount := 0 } } := by
  have hcount : UInt16.ofNat m.questions.length = m.header.questionCount := by
    rw [h.counted, UInt16.ofNat_toNat]
  simp only [received, Header.received, Header.withCounts, h.responseCode, hcount]

end Message

/-! ## Responses and queries -/

/-- A response as it is read. -/
structure Response.Settled (r : Response) : Prop where
  message : r.toMessage.Settled
  counted : r.answers.length = r.header.answerCount.toNat
  answers : ∀ record ∈ r.answers, record.Settled

namespace Response

/-- A response is a message and as many records as its header says, one after another. -/
theorem decoder_eq_ok {r : Response} {c c' : Cursor} :
    decoder c = .ok r c' ↔ ∃ t, Message.decode c = .ok r.toMessage t ∧
      InTurn Record.decode t r.answers c' ∧
      r.answers.length = r.header.answerCount.toNat := by
  constructor
  · intro h
    obtain ⟨m, t, hmessage, h⟩ := Wire.bind_eq_ok.1 h
    obtain ⟨answers, t', hanswers, hpure⟩ := Wire.bind_eq_ok.1 h
    obtain ⟨rfl, rfl⟩ := Wire.pure_eq_ok.1 hpure
    exact ⟨t, hmessage, times_eq_ok.1 hanswers⟩
  · rintro ⟨t, hmessage, hanswers⟩
    exact Wire.bind_eq_ok.2 ⟨_, _, hmessage, Wire.bind_eq_ok.2 ⟨_, _, times_eq_ok.2 hanswers, rfl⟩⟩

theorem admits_decoder : Admits decoder Settled := by
  refine Message.admits_decode.bind fun m hm => ?_
  refine (Record.admits_decode.times _).bind fun answers hanswers => Admits.pure ?_
  exact ⟨hm, hanswers.1, hanswers.2⟩

/-- A response is read from a datagram if its decoder succeeds there, wherever it stops. -/
theorem decode_eq_ok {datagram : Octets} {length : Nat} {r : Response} :
    decode datagram length = .ok r ↔ ∃ c, decoder (.ofPrefix datagram length) = .ok r c := by
  unfold decode
  cases hdecoder : decoder (.ofPrefix datagram length) with
  | ok r' c => simp
  | error cause c => simp

theorem decode_eq_error {datagram : Octets} {length : Nat} {cause : DecodeError} :
    decode datagram length = .error cause ↔ ∃ c, decoder (.ofPrefix datagram length) = .error cause c := by
  unfold decode
  cases hdecoder : decoder (.ofPrefix datagram length) with
  | ok r c => simp
  | error cause' c => simp

theorem settled_of_decode {datagram : Octets} {length : Nat} {r : Response}
    (h : decode datagram length = .ok r) : r.Settled := by
  obtain ⟨c, hdecoder⟩ := decode_eq_ok.1 h
  exact admits_decoder _ r c hdecoder

theorem Settled.valid {r : Response} (h : r.Settled) : r.Valid :=
  ⟨h.message.valid, fun record hrecord => (h.answers record hrecord).valid⟩

theorem Settled.faithful {r : Response} (h : r.Settled) : r.Faithful :=
  fun record hrecord => (h.answers record hrecord).faithful

/-- Of a response that was read, nothing is lost but what its header says on the last two sections. -/
theorem received_of_settled {r : Response} (h : r.Settled) :
    r.received = { r with header := { r.header with authorityCount := 0, additionalCount := 0 } } := by
  have hanswers : r.answers.map Record.canonical = r.answers := by
    rw [List.map_congr_left fun record hrecord => (h.answers record hrecord).canonical]
    exact List.map_id' r.answers
  have hcount : UInt16.ofNat r.answers.length = r.header.answerCount := by
    rw [h.counted, UInt16.ofNat_toNat]
  rw [received, Message.received_of_settled h.message, hanswers, hcount]

end Response

namespace Query

/-- A query is a message, and says how many octets come after it. -/
theorem decode_eq_ok {datagram : Octets} {length : Nat} {q : Query} :
    decode datagram length = .ok q ↔
      ∃ c, Message.decode (.ofPrefix datagram length) = .ok q.toMessage c ∧ q.trailing = c.remaining := by
  unfold decode
  cases hmessage : Message.decode (.ofPrefix datagram length) with
  | ok m c =>
    constructor
    · rintro ⟨⟩
      exact ⟨c, rfl, rfl⟩
    · rintro ⟨c', hq, htrailing⟩
      cases hq
      dsimp only
      rw [← htrailing]
  | error cause c => simp

theorem settled_of_decode {datagram : Octets} {length : Nat} {q : Query}
    (h : decode datagram length = .ok q) : q.toMessage.Settled := by
  obtain ⟨c, hmessage, -⟩ := decode_eq_ok.1 h
  exact Message.admits_decode _ _ _ hmessage

/-- A query that was written is read back from its octets, whatever comes after them. -/
theorem decode_wire_append {q : Query} (h : q.toMessage.Valid) (hroom : q.wireLength ≤ maxMessageSize)
    (after : Octets) :
    decode (q.toMessage.wire 0 ++ after) (q.toMessage.wire 0 ++ after).length =
      .ok { q.toMessage.received 0 with trailing := after.length } := by
  have hread := (Message.reads_decode h (Message.questions_length_le hroom) 0).ofPrefix after
  rw [decode, hread]
  simp only [Cursor.remaining_between]

theorem decode_wire {q : Query} (h : q.toMessage.Valid) (hroom : q.wireLength ≤ maxMessageSize) :
    decode (q.toMessage.wire 0) (q.toMessage.wire 0).length =
      .ok { q.toMessage.received 0 with trailing := 0 } := by
  have hread := decode_wire_append h hroom []
  rwa [List.append_nil] at hread

end Query

end ZoneServer

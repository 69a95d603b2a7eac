import Mathlib.Algebra.Order.BigOperators.Group.List
import Mathlib.Algebra.Order.Group.Nat
import Mathlib.Data.List.Basic
import ZoneServer.Proofs.Message.Form
import ZoneServer.Proofs.Record.Reads

/-!
# Messages that are written are read back

What is read back of a response that was written is `Response.received`: its counts are those of what it
holds, its response code has four bits, and the texts of its addresses are the canonical ones. It is
written as the same octets again.
-/

namespace ZoneServer

open Decoder

/-! ## Headers and questions -/

namespace Header

/-- What is read back of a header. -/
def received (h : Header) : Header := { h with responseCode := responseCodeOf h.responseCode }

theorem authoritative_flags (h : Header) : (h.flags &&& authoritativeBit != 0) = h.authoritative := by
  unfold flags
  cases h.authoritative <;> cases h.truncated <;> decide

theorem truncated_flags (h : Header) : (h.flags &&& truncatedBit != 0) = h.truncated := by
  unfold flags
  cases h.authoritative <;> cases h.truncated <;> decide

theorem responseCodeOf_responseCodeOf (o : UInt8) :
    responseCodeOf (responseCodeOf o) = responseCodeOf o := by
  apply UInt8.toNat_inj.1
  simp [responseCodeOf]

theorem reads_decode (h : Header) : Reads Header.decode h.wire h.received := by
  have hheader : Header.mk h.id (h.flags &&& authoritativeBit != 0) (h.flags &&& truncatedBit != 0)
      (responseCodeOf (responseCodeOf h.responseCode)) h.questionCount h.answerCount
      h.authorityCount h.additionalCount = h.received := by
    rw [authoritative_flags, truncated_flags, responseCodeOf_responseCodeOf]
    rfl
  have hwire : h.wire = Octets.ofNat 2 h.id.toNat ++ ([h.flags] ++
      ([responseCodeOf h.responseCode] ++ (Octets.ofNat 2 h.questionCount.toNat ++
      (Octets.ofNat 2 h.answerCount.toNat ++ (Octets.ofNat 2 h.authorityCount.toNat ++
      Octets.ofNat 2 h.additionalCount.toNat))))) := by
    simp only [wire, List.append_assoc, List.cons_append, List.nil_append]
  rw [hwire, ← hheader]
  exact (Reads.uint16 _).bind ((Reads.uint8 _).bind ((Reads.uint8 _).bind ((Reads.uint16 _).bind
    ((Reads.uint16 _).bind ((Reads.uint16 _).bind ((Reads.uint16 _).bind_nil (Reads.pure _)))))))

/-- The bits of a header that was read back are the ones it is written with. -/
theorem wire_withCounts_received (h : Header) (qd an qd' an' : UInt16) :
    ((h.withCounts qd an).received.withCounts qd' an').wire = (h.withCounts qd' an').wire := by
  simp only [wire, withCounts, received, responseCodeOf_responseCodeOf]
  rfl

end Header

theorem Question.reads_decode {q : Question} (h : q.name.Valid) : Reads Question.decode q.wire q :=
  (Name.reads_decode h).bind ((Reads.uint16 _).bind ((Reads.uint16 _).bind_nil (Reads.pure _)))

/-! ## Messages -/

namespace Message

/-- What is read back of a header and questions. -/
def received (m : Message) (answerCount : UInt16) : Message :=
  { m with header := (m.header.withCounts (UInt16.ofNat m.questions.length) answerCount).received }

theorem toNat_count {n : Nat} (h : n ≤ maxSectionCount) : (UInt16.ofNat n).toNat = n :=
  UInt16.toNat_ofNat_of_lt' (Nat.lt_succ_of_le h)

theorem reads_decode {m : Message} (h : m.Valid) (hcount : m.questions.length ≤ maxSectionCount)
    (answerCount : UInt16) :
    Reads Message.decode (m.wire answerCount) (m.received answerCount) := by
  have hquestions := Reads.times fun q hq => Question.reads_decode (h q hq)
  rw [List.map_id'] at hquestions
  refine (Header.reads_decode _).bind ?_
  have hlength : (UInt16.ofNat m.questions.length).toNat = m.questions.length := toNat_count hcount
  show Reads (do
    let questions ← times Question.decode (UInt16.ofNat m.questions.length).toNat
    return (⟨_, questions⟩ : Message)) _ _
  rw [hlength]
  exact hquestions.bind_nil (Reads.pure _)

theorem wire_received (m : Message) (answerCount answerCount' : UInt16) :
    (m.received answerCount).wire answerCount' = m.wire answerCount' := by
  rw [wire, wire, received, Header.wire_withCounts_received]

end Message

/-! ## Responses -/

namespace Response

/-- What is read back of a response. -/
def received (r : Response) : Response :=
  { r.toMessage.received (UInt16.ofNat r.answers.length) with
    answers := r.answers.map Record.canonical }

/-- The header of a response is read back from its octets. -/
theorem decode_sentHeader (r : Response) : ∃ c,
    Header.decode (.ofPrefix r.wire r.wire.length) = .ok r.sentHeader.received c := by
  rw [wire_eq]
  exact ⟨_, (Header.reads_decode r.sentHeader).ofPrefix _⟩

/-- Every payload that is kept as octets is of a type that is not understood. -/
def Faithful (r : Response) : Prop := ∀ record ∈ r.answers, record.payload.Faithful

theorem reads_decoder {r : Response} (h : r.Valid) (hf : r.Faithful)
    (hroom : r.wireLength ≤ maxMessageSize) : Reads decoder r.wire r.received := by
  have hpayload : ∀ record ∈ r.answers, record.payload.wireLength < 65536 := by
    intro record hrecord
    have hmem : record.wireLength ∈ r.answers.map Record.wireLength := List.mem_map_of_mem hrecord
    have hle := List.single_le_sum (fun _ _ => Nat.zero_le _) _ hmem
    simp only [Record.wireLength, wireLength, maxMessageSize] at hle hroom
    omega
  have hanswers := Reads.times fun record hrecord =>
    Record.reads_decode (h.answers record hrecord) (hf record hrecord) (hpayload record hrecord)
  refine (Message.reads_decode h.message (questions_length_le hroom) _).bind ?_
  have hlength : (UInt16.ofNat r.answers.length).toNat = r.answers.length :=
    Message.toNat_count (answers_length_le hroom)
  show Reads (do
    let answers ← times Record.decode (UInt16.ofNat r.answers.length).toNat
    return ({ r.toMessage.received (UInt16.ofNat r.answers.length) with answers } : Response)) _ _
  rw [hlength]
  exact hanswers.bind_nil (Reads.pure _)

/-- A response that was written is read back from its octets. -/
theorem decode_wire {r : Response} (h : r.Valid) (hf : r.Faithful)
    (hroom : r.wireLength ≤ maxMessageSize) : decode r.wire r.wire.length = .ok r.received := by
  have hread := (reads_decoder h hf hroom).ofPrefix []
  rw [List.append_nil] at hread
  rw [decode, hread]

/-- No first part of the octets of a response is enough. -/
theorem decode_part {r : Response} (h : r.Valid) (hf : r.Faithful)
    (hroom : r.wireLength ≤ maxMessageSize) {first rest : Octets} (hsplit : r.wire = first ++ rest)
    (hrest : rest ≠ []) : decode first first.length = .error .truncated := by
  obtain ⟨c, hc⟩ := (reads_decoder h hf hroom).ofPrefix_part hsplit hrest
  rw [decode, hc]

theorem received_valid {r : Response} (h : r.Valid) : r.received.Valid := by
  refine ⟨h.message, fun record hrecord => ?_⟩
  obtain ⟨record, hmem, rfl⟩ := List.mem_map.1 hrecord
  exact Record.canonical_valid (h.answers record hmem)

theorem wireLength_received (r : Response) : r.received.wireLength = r.wireLength := by
  have hanswers : r.received.answers.map Record.wireLength = r.answers.map Record.wireLength := by
    simp only [received, List.map_map]
    exact List.map_congr_left fun record _ => Record.wireLength_canonical record
  rw [wireLength, wireLength, hanswers]
  rfl

/-- A response that was read back is written as the same octets. -/
theorem wire_received {r : Response} (h : r.Valid) : r.received.wire = r.wire := by
  have hanswers : r.received.answers.flatMap Record.wire = r.answers.flatMap Record.wire := by
    simp only [received, List.flatMap_map]
    exact List.flatMap_congr fun record hmem => Record.wire_canonical (h.answers record hmem)
  have hcount : r.received.answers.length = r.answers.length := List.length_map _
  have hmessage := Message.wire_received r.toMessage (UInt16.ofNat r.answers.length)
    (UInt16.ofNat r.answers.length)
  rw [wire, wire, hanswers, hcount]
  exact congrArg (· ++ _) hmessage

theorem pack_received {r : Response} (h : r.Valid) (hroom : r.wireLength ≤ maxMessageSize) :
    r.received.pack.1 = .ok r.wire :=
  pack_eq_ok.2 ⟨received_valid h, (wireLength_received r).trans_le hroom, (wire_received h).symm⟩

end Response

end ZoneServer

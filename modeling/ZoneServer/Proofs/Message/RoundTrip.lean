import ZoneServer.Message.Operation
import ZoneServer.Proofs.Message.Admits
import ZoneServer.Proofs.Message.Truncation

/-!
# What was packed is read back

A response that was made from a query or read from a datagram, and to which answers were added, is read
back from its octets as what it is. Packing it, cut short or not, does not get in the way. A response code
of more than four bits would be lost in this, and so would a payload whose octets have a type that is
understood; neither can come about (`Response.Coherent`).
-/

namespace ZoneServer

/-- An operation that adds no octets as a payload of a type that is understood. -/
def Operation.Faithful : Operation → Prop
  | .add records => ∀ record ∈ records, record.payload.Faithful
  | .pack => True
  | .packTruncated => True

namespace Response

/-- The responses that can come about. -/
inductive Reachable : Response → Prop where
  | ofQuery (q : Query) : Reachable (ofQuery q)
  | decoded {datagram : Octets} {length : Nat} {r : Response} :
      decode datagram length = .ok r → Reachable r
  | step {r : Response} (op : Operation) : op.Faithful → Reachable r → Reachable (op.run r).2

/-! ## The invariant -/

/-- A response of which nothing is lost when it is packed. -/
structure Coherent (r : Response) : Prop where
  faithful : r.Faithful
  responseCode : Header.responseCodeOf r.header.responseCode = r.header.responseCode

theorem coherent_ofQuery (q : Query) : (ofQuery q).Coherent := by
  refine ⟨?_, rfl⟩
  intro record hrecord
  cases hrecord

theorem coherent_of_decode {datagram : Octets} {length : Nat} {r : Response}
    (h : decode datagram length = .ok r) : r.Coherent := by
  have hsettled := settled_of_decode h
  exact ⟨hsettled.faithful, hsettled.message.responseCode⟩

theorem Coherent.add {r : Response} {records : List Record} (h : r.Coherent)
    (hrecords : ∀ record ∈ records, record.payload.Faithful) : (r.add records).Coherent := by
  refine ⟨?_, h.responseCode⟩
  intro record hrecord
  rcases List.mem_append.1 hrecord with hbefore | hadded
  · exact h.faithful record hbefore
  · exact hrecords record hadded

theorem Coherent.truncate {r : Response} (h : r.Coherent) (count : Nat) :
    (r.truncate count).Coherent := by
  refine ⟨?_, h.responseCode⟩
  intro record hrecord
  exact h.faithful record (List.mem_of_mem_take hrecord)

theorem Coherent.pack {r : Response} (h : r.Coherent) : r.pack.2.Coherent := by
  rw [pack_eq]
  split
  · exact ⟨h.faithful, h.responseCode⟩
  · exact h

theorem Coherent.packTruncated {r : Response} (h : r.Coherent) : r.packTruncated.2.Coherent := by
  cases r.shortening with
  | packed _ hresult =>
    rw [hresult]
    exact h.pack
  | refused _ hresult =>
    rw [hresult]
    exact h.pack
  | cut _ _ _ hresult =>
    rw [hresult]
    exact (h.truncate _).pack

/-- An operation keeps a response coherent. -/
theorem Coherent.run {r : Response} {op : Operation} (h : r.Coherent) (hop : op.Faithful) :
    (op.run r).2.Coherent := by
  cases op with
  | add records => exact h.add hop
  | pack => exact h.pack
  | packTruncated => exact h.packTruncated

theorem Reachable.coherent {r : Response} (h : r.Reachable) : r.Coherent := by
  induction h with
  | ofQuery q => exact coherent_ofQuery q
  | decoded hdecode => exact coherent_of_decode hdecode
  | step op hop _ ih => exact ih.run hop

/-! ## The round trip -/

/-- One response says the same as another, with its sections counted and its addresses in canonical
form. -/
structure Restates (r' r : Response) : Prop where
  id : r'.header.id = r.header.id
  authoritative : r'.header.authoritative = r.header.authoritative
  truncated : r'.header.truncated = r.header.truncated
  responseCode : r'.header.responseCode = r.header.responseCode
  questionCount : r'.header.questionCount.toNat = r.questions.length
  answerCount : r'.header.answerCount.toNat = r.answers.length
  authorityCount : r'.header.authorityCount = 0
  additionalCount : r'.header.additionalCount = 0
  questions : r'.questions = r.questions
  answers : r'.answers = r.answers.map Record.canonical

theorem received_restates {r : Response} (h : r.Coherent) (hroom : r.wireLength ≤ maxMessageSize) :
    r.received.Restates r where
  id := rfl
  authoritative := rfl
  truncated := rfl
  responseCode := h.responseCode
  questionCount := Message.toNat_count (questions_length_le hroom)
  answerCount := Message.toNat_count (answers_length_le hroom)
  authorityCount := rfl
  additionalCount := rfl
  questions := rfl
  answers := rfl

/-- What is packed of a response is read back as the same response and packed as the same octets again,
and no first part of it can be read. -/
theorem Reachable.decode_of_pack {r : Response} {os : Octets} (h : r.Reachable)
    (hpack : r.pack.1 = .ok os) :
    ∃ r', decode os os.length = .ok r' ∧ r'.Restates r ∧ r'.pack.1 = .ok os ∧
      ∀ part, part <+: os → part ≠ os → decode part part.length = .error .truncated := by
  obtain ⟨hvalid, hroom, rfl⟩ := pack_eq_ok.1 hpack
  have hcoherent := h.coherent
  refine ⟨r.received, decode_wire hvalid hcoherent.faithful hroom, received_restates hcoherent hroom,
    pack_received hvalid hroom, ?_⟩
  rintro part ⟨rest, hsplit⟩ hne
  refine decode_part hvalid hcoherent.faithful hroom hsplit.symm ?_
  rintro rfl
  rw [List.append_nil] at hsplit
  exact hne hsplit

/-- The response to a query for an address, with the address and a record of another type. -/
def answered : Response :=
  ((Operation.add [
    Record.ofPayload ⟨["www".toList]⟩ 60 (.address "010.0.0.001"),
    Record.ofPayload ⟨["www".toList]⟩ 60 (.other 16 [1, 97])]).run
      (ofQuery (Query.ask 7 ⟨["WWW".toList]⟩ TypeCode.address))).2

theorem answered_valid : answered.Valid := by
  have hname : ∀ name ∈ [(⟨["www".toList]⟩ : Name), ⟨["WWW".toList]⟩], name.Valid := by
    intro name hname
    refine ⟨?_, ?_⟩
    · revert name
      decide
    · revert name
      decide
  have haddress : Ipv4.ofString? "010.0.0.001" = some ⟨10, 0, 0, 1⟩ := by decide
  refine ⟨?_, ?_⟩
  · intro q hq
    rw [List.mem_singleton.1 hq]
    exact hname _ (by simp [Question.internet])
  · intro record hrecord
    rcases List.mem_cons.1 hrecord with rfl | hrest
    · exact ⟨hname _ (by simp [Record.ofPayload]), _, haddress⟩
    · rw [List.mem_singleton.1 hrest]
      exact ⟨hname _ (by simp [Record.ofPayload]), trivial⟩

theorem decode_of_pack_answered :
    answered.Reachable ∧ answered.pack.1 = .ok answered.wire ∧
    ∃ r', decode answered.wire answered.wire.length = .ok r' ∧ r'.Restates answered ∧
      r'.pack.1 = .ok answered.wire ∧ ∀ part, part <+: answered.wire → part ≠ answered.wire →
        decode part part.length = .error .truncated := by
  have hreachable : answered.Reachable := by
    refine .step _ ?_ (.ofQuery _)
    intro record hrecord
    rcases List.mem_cons.1 hrecord with rfl | hrest
    · trivial
    · rw [List.mem_singleton.1 hrest]
      show (16 : TypeCode) ∉ _
      decide
  have hpack : answered.pack.1 = .ok answered.wire :=
    pack_eq_ok.2 ⟨answered_valid, by decide, rfl⟩
  exact ⟨hreachable, hpack, hreachable.decode_of_pack hpack⟩

end Response

end ZoneServer

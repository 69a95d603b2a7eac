import ZoneServer.Proofs.Message.Truncation
import ZoneServer.Server.Reply

/-!
# Responses that are packed in lockstep

Of its questions, only how many there are and how much space they take has a say in what becomes of a
response: whether it is packed, where it is cut and which fault is found. Two responses that are parallel
in this (`Response.Parallel`) are both refused, or the octets of both are the same but for the questions
that they repeat (`Response.Lockstep`).
-/

namespace ZoneServer

namespace Response

/-- Two responses have the same header and the same answers, and valid questions that are as many and
take as much space. -/
structure Parallel (r r' : Response) : Prop where
  header : r.header = r'.header
  answers : r.answers = r'.answers
  valid : r.toMessage.Valid
  valid' : r'.toMessage.Valid
  count : r.questions.length = r'.questions.length
  wireLength : r.toMessage.wireLength = r'.toMessage.wireLength

/-- Two responses with these questions are both refused for the same cause, or both are packed, each with
its questions between the same header and the same answers. -/
inductive Lockstep (questions questions' : List Question) :
    Except EncodeError Octets → Except EncodeError Octets → Prop where
  | refused (cause : EncodeError) : Lockstep questions questions' (.error cause) (.error cause)
  | sent (header : Header) (answers : Octets) : Lockstep questions questions'
      (.ok (header.wire ++ questions.flatMap Question.wire ++ answers))
      (.ok (header.wire ++ questions'.flatMap Question.wire ++ answers))

variable {r r' : Response}

theorem Lockstep.full_iff {questions questions' : List Question} {x x' : Except EncodeError Octets}
    (h : Lockstep questions questions' x x') :
    x = .error .bufferFull ↔ x' = .error .bufferFull := by
  cases h with
  | refused cause => exact Iff.rfl
  | sent header answers => simp

theorem Parallel.truncate (h : r.Parallel r') (count : Nat) :
    (r.truncate count).Parallel (r'.truncate count) where
  header := congrArg (fun header : Header => { header with truncated := true }) h.header
  answers := congrArg (List.take count) h.answers
  valid := h.valid
  valid' := h.valid'
  count := h.count
  wireLength := h.wireLength

/-! ## Packing -/

/-- With valid questions, what becomes of a response depends on the space before its answers. -/
theorem pack_of_valid_message (h : r.toMessage.Valid) :
    r.pack.1 = if r.answers.length ≤ maxSectionCount ∧ r.toMessage.wireLength ≤ maxMessageSize then
        ((answersForm r.answers).outcome r.toMessage.wireLength).map
          (r.toMessage.wire (UInt16.ofNat r.answers.length) ++ ·)
      else .error .bufferFull := by
  rw [pack_eq]
  by_cases hcount : r.answers.length ≤ maxSectionCount
  · rw [if_pos hcount]
    by_cases hroom : r.toMessage.wireLength ≤ maxMessageSize
    · rw [if_pos ⟨hcount, hroom⟩]
      have hmessage := Message.outcome_wire h hroom (UInt16.ofNat r.answers.length)
      have hlength := Message.length_wire h (UInt16.ofNat r.answers.length)
      cases hanswers : (answersForm r.answers).outcome r.toMessage.wireLength with
      | ok os =>
        refine WireForm.outcome_append_eq_ok.2 ⟨_, os, hmessage, ?_, rfl⟩
        rw [hlength, Nat.zero_add, hanswers]
      | error cause =>
        refine WireForm.outcome_append_eq_error.2 (.inr ⟨_, hmessage, ?_⟩)
        rw [hlength, Nat.zero_add, hanswers]
    · rw [if_neg (by exact fun h => hroom h.2)]
      have hfull := Message.outcome_form_of_valid h (Nat.not_le.1 hroom)
        (UInt16.ofNat r.answers.length)
      exact WireForm.outcome_append_eq_error.2 (.inl hfull)
  · rw [if_neg hcount, if_neg (by exact fun h => hcount h.1)]

theorem Parallel.pack (h : r.Parallel r') :
    Lockstep r.questions r'.questions r.pack.1 r'.pack.1 := by
  rw [pack_of_valid_message h.valid, pack_of_valid_message h.valid', ← h.answers, ← h.wireLength]
  split
  · cases (answersForm r.answers).outcome r.toMessage.wireLength with
    | ok os =>
      simp only [Except.map, Message.wire, ← h.header, ← h.count]
      exact .sent _ _
    | error cause => exact .refused cause
  · exact .refused .bufferFull

/-! ## Cutting short -/

/-- Records are written in lockstep after different octets if these are as many. -/
theorem encodeFitting_lockstep (records : List Record) {b b' : Buffer} (hb : b.WellFormed)
    (hb' : b'.WellFormed) (hposition : b.position = b'.position) :
    (∃ count c c', encodeFitting records b = .ok count c ∧ encodeFitting records b' = .ok count c') ∨
      ∃ cause c c', encodeFitting records b = .error cause c ∧
        encodeFitting records b' = .error cause c' := by
  induction records generalizing b b' with
  | nil => exact .inl ⟨0, b, b', rfl, rfl⟩
  | cons record records ih =>
    have hwrites := Record.writes_encode record
    cases hout : record.form.outcome b.position with
    | error cause =>
      obtain ⟨c, he, -⟩ := hwrites.error hb hout
      obtain ⟨c', he', -⟩ := hwrites.error hb' (hposition ▸ hout)
      simp only [encodeFitting, he, he']
      cases cause with
      | bufferFull => exact .inl ⟨0, c, c', rfl, rfl⟩
      | _ => exact .inr ⟨_, c, c', rfl, rfl⟩
    | ok os =>
      have hroom := WireForm.room_of_outcome hout
      simp only [encodeFitting, hwrites.ok hb hout, hwrites.ok hb' (hposition ▸ hout)]
      have hnext : (b.append os).position = (b'.append os).position :=
        congrArg (· + os.length) hposition
      rcases ih (hb.append hroom) (hb'.append (hposition ▸ hroom)) hnext with
        ⟨count, c, c', hrun, hrun'⟩ | ⟨cause, c, c', hrun, hrun'⟩
      · exact .inl ⟨count + 1, c, c', by rw [EStateM.map, hrun], by rw [EStateM.map, hrun']⟩
      · exact .inr ⟨cause, c, c', by rw [EStateM.map, hrun], by rw [EStateM.map, hrun']⟩

theorem Parallel.fitting (h : r.Parallel r') : r.fitting = r'.fitting := by
  by_cases hroom : r.toMessage.wireLength ≤ maxMessageSize
  · have hmessage := Message.outcome_wire h.valid hroom 0
    have hmessage' := Message.outcome_wire h.valid' (h.wireLength ▸ hroom) 0
    rw [fitting_of_message hmessage, fitting_of_message hmessage', ← h.answers]
    have hb := Buffer.wellFormed_empty.append (WireForm.room_of_outcome hmessage)
    have hb' := Buffer.wellFormed_empty.append (WireForm.room_of_outcome hmessage')
    have hlength : (r.toMessage.wire 0).length = (r'.toMessage.wire 0).length := by
      rw [Message.length_wire h.valid, Message.length_wire h.valid', h.wireLength]
    rcases encodeFitting_lockstep r.answers hb hb' (congrArg (0 + ·) hlength) with
      ⟨count, c, c', hrun, hrun'⟩ | ⟨cause, c, c', hrun, hrun'⟩
    · rw [hrun, hrun']
    · rw [hrun, hrun']
  · have hfull := Nat.not_le.1 hroom
    rw [fitting_of_message_error (Message.outcome_form_of_valid h.valid hfull 0),
      fitting_of_message_error (Message.outcome_form_of_valid h.valid' (h.wireLength ▸ hfull) 0)]

theorem Parallel.packTruncated (h : r.Parallel r') :
    Lockstep r.questions r'.questions r.packTruncated.1 r'.packTruncated.1 := by
  have hpack := h.pack
  by_cases hfull : r.pack.1 = .error .bufferFull
  · rw [packTruncated_of_full hfull, packTruncated_of_full (hpack.full_iff.1 hfull), ← h.fitting]
    cases r.fitting with
    | ok count => exact (h.truncate count).pack
    | error cause => exact .refused cause
  · rw [packTruncated_of_ne hfull, packTruncated_of_ne (fun h' => hfull (hpack.full_iff.2 h'))]
    exact hpack

theorem Parallel.pack_policy (h : r.Parallel r') (policy : OversizePolicy) :
    Lockstep r.questions r'.questions (policy.pack r).1 (policy.pack r').1 := by
  cases policy with
  | truncate => exact h.packTruncated
  | drop => exact h.pack

end Response

end ZoneServer

import Mathlib.Algebra.BigOperators.Group.List.Basic
import ZoneServer.Message.Response
import ZoneServer.Proofs.Record.Form

/-!
# What messages look like

A response is packed exactly if everything in it is valid and all of it fits (`Response.pack_eq_ok`); if
everything is valid, not fitting is all that can go wrong (`Response.pack_of_valid`). The octets are then
those of the header, of the questions and of the answers, one after another.
-/

namespace ZoneServer

/-! ## Headers -/

namespace Header

/-- The octets of a header. -/
def wire (h : Header) : Octets :=
  Octets.ofNat 2 h.id.toNat ++ [h.flags, responseCodeOf h.responseCode] ++
    Octets.ofNat 2 h.questionCount.toNat ++ Octets.ofNat 2 h.answerCount.toNat ++
    Octets.ofNat 2 h.authorityCount.toNat ++ Octets.ofNat 2 h.additionalCount.toNat

@[simp] theorem length_wire (h : Header) : h.wire.length = 12 := by simp [wire]

theorem writes_encode (h : Header) : h.encode.Writes (.ofOctets h.wire) := by
  have hw := (Encoder.Writes.uint16 h.id).bind ((Encoder.Writes.uint8 h.flags).bind
    ((Encoder.Writes.uint8 (responseCodeOf h.responseCode)).bind
    ((Encoder.Writes.uint16 h.questionCount).bind ((Encoder.Writes.uint16 h.answerCount).bind
    ((Encoder.Writes.uint16 h.authorityCount).bind (Encoder.Writes.uint16 h.additionalCount))))))
  simp only [WireForm.ofOctets_append_ofOctets] at hw
  simpa only [encode, wire, List.append_assoc, List.cons_append, List.nil_append] using hw

end Header

/-! ## Questions -/

namespace Question

/-- How many octets a question takes. -/
def wireLength (q : Question) : Nat := q.name.encodedLength + 4

/-- The octets of a question. -/
def wire (q : Question) : Octets :=
  q.name.wire ++ (Octets.ofNat 2 q.typeCode.toNat ++ Octets.ofNat 2 q.classCode.toNat)

/-- What is done to write a question. -/
def form (q : Question) : WireForm :=
  q.name.form ++ .ofOctets (Octets.ofNat 2 q.typeCode.toNat ++ Octets.ofNat 2 q.classCode.toNat)

theorem fault_form {q : Question} : q.form.fault = none ↔ q.name.Valid := by
  simp [form, WireForm.fault_append, Name.fault_form, WireForm.ofOctets]

theorem form_of_valid {q : Question} (h : q.name.Valid) : q.form = .ofOctets q.wire := by
  rw [form, Name.form_of_valid h]
  rfl

/-- A question takes as many octets as it is said to. -/
theorem length_wire {q : Question} (h : q.name.Valid) : q.wire.length = q.wireLength := by
  simp [wire, wireLength, Name.length_wire h]

theorem writes_encode (q : Question) : q.encode.Writes q.form := by
  have hw := (Name.writes_encode q.name).bind
    ((Encoder.Writes.uint16 q.typeCode).bind (Encoder.Writes.uint16 q.classCode))
  rwa [WireForm.ofOctets_append_ofOctets] at hw

end Question

/-! ## Lists of items -/

/-- Valid items take together what each of them takes. -/
theorem length_flatMap_wire {α : Type} {wire : α → Octets} {wireLength : α → Nat} {as : List α}
    (h : ∀ a ∈ as, (wire a).length = wireLength a) :
    (as.flatMap wire).length = (as.map wireLength).sum := by
  rw [List.length_flatMap, List.map_congr_left h]

/-- There are no more items than octets if every item takes one at least. -/
theorem length_le_sum_map {α : Type} {wireLength : α → Nat} (h : ∀ a, 1 ≤ wireLength a)
    (as : List α) : as.length ≤ (as.map wireLength).sum := by
  have hsum := List.length_le_sum_of_one_le (as.map wireLength) (by simpa using fun a _ => h a)
  rwa [List.length_map] at hsum

theorem Question.one_le_wireLength (q : Question) : 1 ≤ q.wireLength := by
  rw [wireLength]
  omega

theorem Record.one_le_wireLength (r : Record) : 1 ≤ r.wireLength := by
  rw [wireLength]
  omega

/-! ## Messages -/

namespace Message

/-- A header and questions that may be written. -/
def Valid (m : Message) : Prop := ∀ q ∈ m.questions, q.name.Valid

/-- How many octets a header and its questions take. -/
def wireLength (m : Message) : Nat := 12 + (m.questions.map Question.wireLength).sum

/-- The octets of a header and its questions, when so many answers follow. -/
def wire (m : Message) (answerCount : UInt16) : Octets :=
  (m.header.withCounts (UInt16.ofNat m.questions.length) answerCount).wire ++
    m.questions.flatMap Question.wire

/-- What is done to write a header and its questions, when so many answers follow. -/
def form (m : Message) (answerCount : UInt16) : WireForm :=
  if m.questions.length ≤ maxSectionCount then
    .ofOctets (m.header.withCounts (UInt16.ofNat m.questions.length) answerCount).wire ++
      .concat (m.questions.map Question.form)
  else .ofFault .bufferFull

theorem writes_encode (m : Message) (answerCount : UInt16) :
    (m.encode answerCount).Writes (m.form answerCount) := by
  unfold encode form
  split
  · exact (Header.writes_encode _).bind (Encoder.Writes.each Question.writes_encode m.questions)
  · exact Encoder.Writes.throw _

theorem length_wire {m : Message} (h : m.Valid) (answerCount : UInt16) :
    (m.wire answerCount).length = m.wireLength := by
  rw [wire, List.length_append, Header.length_wire,
    length_flatMap_wire fun q hq => Question.length_wire (h q hq)]
  rfl

theorem form_of_valid {m : Message} (h : m.Valid) (hcount : m.questions.length ≤ maxSectionCount)
    (answerCount : UInt16) : m.form answerCount = .ofOctets (m.wire answerCount) := by
  have hforms : m.questions.map Question.form =
      m.questions.map fun q => WireForm.ofOctets q.wire :=
    List.map_congr_left fun q hq => Question.form_of_valid (h q hq)
  rw [form, if_pos hcount, hforms, WireForm.concat_ofOctets]
  rfl

theorem fault_form {m : Message} {answerCount : UInt16} :
    (m.form answerCount).fault = none ↔ m.Valid ∧ m.questions.length ≤ maxSectionCount := by
  unfold form
  split
  · rename_i hcount
    simp [WireForm.fault_append, WireForm.fault_concat, Question.fault_form, Valid, hcount,
      WireForm.ofOctets]
  · rename_i hcount
    simp [WireForm.ofFault, hcount]

theorem questions_length_le {m : Message} (h : m.wireLength ≤ maxMessageSize) :
    m.questions.length ≤ maxSectionCount := by
  have hle := length_le_sum_map Question.one_le_wireLength m.questions
  simp only [wireLength, maxMessageSize, maxSectionCount] at h ⊢
  omega

/-- A header and questions can be written if they are valid and fit. -/
theorem outcome_form_eq_ok {m : Message} {answerCount : UInt16} {os : Octets} :
    (m.form answerCount).outcome 0 = .ok os ↔
      m.Valid ∧ m.wireLength ≤ maxMessageSize ∧ os = m.wire answerCount := by
  rw [WireForm.outcome_eq_ok, fault_form, Nat.zero_add]
  constructor
  · rintro ⟨⟨hvalid, hcount⟩, rfl, hroom⟩
    rw [form_of_valid hvalid hcount] at hroom ⊢
    exact ⟨hvalid, (length_wire hvalid answerCount).symm.trans_le hroom, rfl⟩
  · rintro ⟨hvalid, hroom, rfl⟩
    have hcount := questions_length_le hroom
    rw [form_of_valid hvalid hcount]
    exact ⟨⟨hvalid, hcount⟩, rfl, (length_wire hvalid answerCount).trans_le hroom⟩

theorem outcome_wire {m : Message} (h : m.Valid) (hroom : m.wireLength ≤ maxMessageSize)
    (answerCount : UInt16) : (m.form answerCount).outcome 0 = .ok (m.wire answerCount) :=
  outcome_form_eq_ok.2 ⟨h, hroom, rfl⟩

/-- Valid questions can only fail to fit. -/
theorem outcome_form_of_valid {m : Message} (h : m.Valid) (hroom : maxMessageSize < m.wireLength)
    (answerCount : UInt16) : (m.form answerCount).outcome 0 = .error .bufferFull := by
  by_cases hcount : m.questions.length ≤ maxSectionCount
  · rw [form_of_valid h hcount, WireForm.outcome_eq_error]
    refine .inl ⟨?_, rfl⟩
    rw [Nat.zero_add]
    exact hroom.trans_eq (length_wire h answerCount).symm
  · rw [form, if_neg hcount]
    rfl

end Message

/-! ## Queries -/

/-- A query is written if its questions are valid and fit. -/
theorem Query.encode_eq_ok {q : Query} {os : Octets} :
    q.encode = .ok os ↔
      q.toMessage.Valid ∧ q.wireLength ≤ maxMessageSize ∧ os = q.toMessage.wire 0 := by
  rw [encode, (Message.writes_encode _ _).encode_eq, Message.outcome_form_eq_ok]

/-- A query with valid questions can only fail to fit. -/
theorem Query.encode_of_valid {q : Query} (h : q.toMessage.Valid) :
    q.encode = if q.wireLength ≤ maxMessageSize then .ok (q.toMessage.wire 0)
      else .error .bufferFull := by
  split
  · rename_i hroom
    exact encode_eq_ok.2 ⟨h, hroom, rfl⟩
  · rename_i hroom
    rw [encode, (Message.writes_encode _ _).encode_eq,
      Message.outcome_form_of_valid h (Nat.not_le.1 hroom)]

/-! ## Responses -/

namespace Response

/-- A response that may be written. -/
structure Valid (r : Response) : Prop where
  message : r.toMessage.Valid
  answers : ∀ record ∈ r.answers, record.Valid

/-- How many octets a response takes. -/
def wireLength (r : Response) : Nat :=
  r.toMessage.wireLength + (r.answers.map Record.wireLength).sum

/-- The octets of a response. -/
def wire (r : Response) : Octets :=
  r.toMessage.wire (UInt16.ofNat r.answers.length) ++ r.answers.flatMap Record.wire

/-- The header with which a response is written. -/
def sentHeader (r : Response) : Header :=
  r.header.withCounts (UInt16.ofNat r.questions.length) (UInt16.ofNat r.answers.length)

theorem wire_eq (r : Response) : r.wire = r.sentHeader.wire ++
    (r.questions.flatMap Question.wire ++ r.answers.flatMap Record.wire) := by
  rw [wire, Message.wire, sentHeader, List.append_assoc]

theorem take_wire (r : Response) : r.wire.take 12 = r.sentHeader.wire := by
  rw [wire_eq, List.take_left' (Header.length_wire _)]

/-- What is done to write records one after another. -/
def answersForm (records : List Record) : WireForm := .concat (records.map Record.form)

/-- What is done to write a response. -/
def form (r : Response) : WireForm :=
  r.toMessage.form (UInt16.ofNat r.answers.length) ++ answersForm r.answers

theorem writes_encode (r : Response) : r.encode.Writes r.form :=
  (Message.writes_encode _ _).bind (Encoder.Writes.each Record.writes_encode r.answers)

/-- Packing does what the form of the response says. -/
theorem pack_eq (r : Response) :
    r.pack = if r.answers.length ≤ maxSectionCount then (r.form.outcome 0, r.counted)
      else (.error .bufferFull, r) := by
  rw [pack, (writes_encode r.counted).encode_eq]
  rfl

theorem answersForm_of_valid {records : List Record} (h : ∀ record ∈ records, record.Valid) :
    answersForm records = .ofOctets (records.flatMap Record.wire) := by
  have hforms : records.map Record.form = records.map fun record => WireForm.ofOctets record.wire :=
    List.map_congr_left fun record hrecord => Record.form_of_valid (h record hrecord)
  rw [answersForm, hforms, WireForm.concat_ofOctets]

theorem fault_answersForm {records : List Record} :
    (answersForm records).fault = none ↔ ∀ record ∈ records, record.Valid := by
  simp [answersForm, WireForm.fault_concat, Record.fault_form]

theorem length_answers {records : List Record} (h : ∀ record ∈ records, record.Valid) :
    (records.flatMap Record.wire).length = (records.map Record.wireLength).sum :=
  length_flatMap_wire fun record hrecord => Record.length_wire (h record hrecord)

theorem questions_length_le {r : Response} (h : r.wireLength ≤ maxMessageSize) :
    r.questions.length ≤ maxSectionCount :=
  Message.questions_length_le ((Nat.le_add_right _ _).trans h)

theorem answers_length_le {r : Response} (h : r.wireLength ≤ maxMessageSize) :
    r.answers.length ≤ maxSectionCount := by
  have hle := length_le_sum_map Record.one_le_wireLength r.answers
  simp only [wireLength, maxMessageSize, maxSectionCount] at h ⊢
  omega

theorem length_wire {r : Response} (h : r.Valid) : r.wire.length = r.wireLength := by
  rw [wire, List.length_append, Message.length_wire h.message, length_answers h.answers]
  rfl

/-- Valid answers after a header and questions that have been written can only fail to fit. -/
theorem outcome_form_eq_ok {r : Response} {os : Octets} :
    r.form.outcome 0 = .ok os ↔ r.Valid ∧ r.wireLength ≤ maxMessageSize ∧ os = r.wire := by
  rw [form, WireForm.outcome_append_eq_ok]
  simp only [Message.outcome_form_eq_ok, Nat.zero_add]
  constructor
  · rintro ⟨_, _, ⟨hvalid, hroom, rfl⟩, hanswers, rfl⟩
    obtain ⟨hfault, rfl, hroom⟩ := WireForm.outcome_eq_ok.1 hanswers
    have hrecords := fault_answersForm.1 hfault
    rw [answersForm_of_valid hrecords] at hroom ⊢
    refine ⟨⟨hvalid, hrecords⟩, ?_, rfl⟩
    rw [Message.length_wire hvalid, WireForm.ofOctets, length_answers hrecords] at hroom
    exact hroom
  · rintro ⟨hvalid, hroom, rfl⟩
    refine ⟨_, _, ⟨hvalid.message, le_trans (Nat.le_add_right _ _) hroom, rfl⟩, ?_, rfl⟩
    rw [answersForm_of_valid hvalid.answers, WireForm.outcome_eq_ok]
    refine ⟨rfl, rfl, ?_⟩
    rw [Message.length_wire hvalid.message, WireForm.ofOctets, length_answers hvalid.answers]
    exact hroom

/-- A response is packed exactly if everything in it is valid and it fits. -/
theorem pack_eq_ok {r : Response} {os : Octets} :
    r.pack.1 = .ok os ↔ r.Valid ∧ r.wireLength ≤ maxMessageSize ∧ os = r.wire := by
  rw [pack_eq]
  split
  · exact outcome_form_eq_ok
  · rename_i hcount
    constructor
    · rintro ⟨⟩
    · rintro ⟨-, hroom, -⟩
      exact absurd (answers_length_le hroom) hcount

/-- A response in which everything is valid can only fail to fit. -/
theorem pack_of_valid {r : Response} (h : r.Valid) :
    r.pack.1 = if r.wireLength ≤ maxMessageSize then .ok r.wire else .error .bufferFull := by
  split
  · rename_i hroom
    exact pack_eq_ok.2 ⟨h, hroom, rfl⟩
  · rename_i hroom
    rw [Nat.not_le, wireLength] at hroom
    rw [pack_eq]
    split
    · rw [form, WireForm.outcome_append_eq_error]
      by_cases hmessage : r.toMessage.wireLength ≤ maxMessageSize
      · refine .inr ⟨_, Message.outcome_form_eq_ok.2 ⟨h.message, hmessage, rfl⟩, ?_⟩
        rw [answersForm_of_valid h.answers, WireForm.outcome_eq_error]
        refine .inl ⟨?_, rfl⟩
        rw [Message.length_wire h.message, WireForm.ofOctets, length_answers h.answers]
        omega
      · exact .inl (Message.outcome_form_of_valid h.message (Nat.not_le.1 hmessage) _)
    · rfl

end Response

end ZoneServer

import ZoneServer.Proofs.Message.Lockstep
import ZoneServer.Proofs.Name.Case

/-!
# The same questions in two spellings

A response repeats its questions as they were spelled. The octets of two responses that are sent in
lockstep to questions that are the same up to the case of letters differ in that case and nowhere else
(`Message.respelled_of_sections`).
-/

namespace ZoneServer

open Octets

/-! ## Questions -/

namespace Question

/-- Two questions ask the same, however their names are spelled. -/
structure SameAs (question question' : Question) : Prop where
  name : (question.name == question'.name) = true
  typeCode : question.typeCode = question'.typeCode
  classCode : question.classCode = question'.classCode

/-- Two questions with valid names ask the same. -/
structure Alike (question question' : Question) : Prop where
  name : question.name.Alike question'.name
  typeCode : question.typeCode = question'.typeCode
  classCode : question.classCode = question'.classCode

variable {question question' : Question} {i : Nat} {o o' : UInt8}

theorem Alike.length_wire (h : question.Alike question') :
    question.wire.length = question'.wire.length := by
  simp only [wire, List.length_append, h.name.length_wire, h.typeCode, h.classCode]

theorem Alike.differAt (h : question.Alike question')
    (hdiffer : DifferAt question.wire question'.wire i o o') :
    question.name.InLabel i ∧ lowerCase o = lowerCase o' := by
  rw [wire, wire, h.typeCode, h.classCode] at hdiffer
  rcases hdiffer.append h.name.length_wire with ⟨-, hname⟩ | ⟨j, -, hcodes⟩
  · exact h.name.differAt hname
  · exact absurd hcodes DifferAt.irrefl

theorem forall₂_alike {questions questions' : List Question}
    (h : List.Forall₂ SameAs questions questions') (hvalid : ∀ q ∈ questions, q.name.Valid)
    (hvalid' : ∀ q ∈ questions', q.name.Valid) : List.Forall₂ Alike questions questions' := by
  induction h with
  | nil => exact .nil
  | @cons question question' rest rest' hsame _ ih =>
    rw [List.forall_mem_cons] at hvalid hvalid'
    have hname : question.name.Alike question'.name :=
      ⟨hvalid.1, hvalid'.1, Name.beq_iff.1 hsame.name⟩
    exact .cons ⟨hname, hsame.typeCode, hsame.classCode⟩ (ih hvalid.2 hvalid'.2)

theorem length_flatMap_wire_eq {questions questions' : List Question}
    (h : List.Forall₂ Alike questions questions') :
    (questions.flatMap wire).length = (questions'.flatMap wire).length :=
  length_flatMap_eq h fun _ _ => Alike.length_wire

end Question

/-! ## Messages -/

namespace Message

/-- Two messages have questions that are the same in pairs. -/
def SameQuestions (m m' : Message) : Prop :=
  List.Forall₂ Question.SameAs m.questions m'.questions

/-- An index among the octets of a message at which the text of a label of a question stands. -/
def InLabel (m : Message) (i : Nat) : Prop :=
  ∃ before question after j, m.questions = before ++ question :: after ∧ question.name.InLabel j ∧
    i = 12 + ((before.flatMap Question.wire).length + j)

/-- Octets that repeat the questions of one message and of another, and that otherwise differ in
nothing. Even these differ only in the case of letters in the labels of names. -/
structure Respelled (m m' : Message) (os os' : Octets) : Prop where
  sections : ∃ header answers, header.length = 12 ∧
    os = header ++ m.questions.flatMap Question.wire ++ answers ∧
    os' = header ++ m'.questions.flatMap Question.wire ++ answers
  length_eq : os.length = os'.length
  case_only : ∀ i o o', DifferAt os os' i o o' → m.InLabel i ∧ lowerCase o = lowerCase o'

variable {m m' : Message}

theorem SameQuestions.alike (h : m.SameQuestions m') (hvalid : m.Valid) (hvalid' : m'.Valid) :
    List.Forall₂ Question.Alike m.questions m'.questions :=
  Question.forall₂_alike h hvalid hvalid'

theorem SameQuestions.wireLength_eq (h : m.SameQuestions m') (hvalid : m.Valid) (hvalid' : m'.Valid) :
    m.wireLength = m'.wireLength := by
  have hlength := Question.length_flatMap_wire_eq (h.alike hvalid hvalid')
  rw [length_flatMap_wire fun q hq => Question.length_wire (hvalid q hq),
    length_flatMap_wire fun q hq => Question.length_wire (hvalid' q hq)] at hlength
  rw [wireLength, wireLength, hlength]

theorem respelled_of_sections (h : List.Forall₂ Question.Alike m.questions m'.questions)
    (header : Header) (answers : Octets) :
    m.Respelled m' (header.wire ++ m.questions.flatMap Question.wire ++ answers)
      (header.wire ++ m'.questions.flatMap Question.wire ++ answers) := by
  have hlength := Question.length_flatMap_wire_eq h
  refine ⟨⟨_, _, header.length_wire, rfl, rfl⟩, ?_, fun i o o' hdiffer => ?_⟩
  · simp only [List.length_append, hlength]
  · rw [List.append_assoc, List.append_assoc] at hdiffer
    rcases hdiffer.append rfl with ⟨-, hheader⟩ | ⟨j, rfl, hrest⟩
    · exact absurd hheader DifferAt.irrefl
    rcases hrest.append hlength with ⟨-, hquestions⟩ | ⟨k, -, hanswers⟩
    · obtain ⟨before, question, after, question', k, hsplit, halike, rfl, hwire⟩ :=
        differAt_flatMap h (fun _ _ => Question.Alike.length_wire) hquestions
      obtain ⟨hlabel, hcase⟩ := halike.differAt hwire
      rw [Header.length_wire]
      exact ⟨⟨before, question, after, k, hsplit, hlabel, rfl⟩, hcase⟩
    · exact absurd hanswers DifferAt.irrefl

end Message

end ZoneServer

import ZoneServer.Proofs.Message.Admits
import ZoneServer.Proofs.Name.Fault

/-!
# Asking for the name that a text spells

Any text may be given to ask for. If the name that it spells can be written, so can the query, and the query
that is read back asks for just this name, whatever comes after it in the datagram. If not, the query fails
as the name does; it never fails for want of space (`Query.encodeText_asks_for_name`).
-/

namespace ZoneServer

/-! ## Queries with one question -/

namespace Query

variable {id : UInt16} {name : Name} {typeCode : TypeCode} {cause : EncodeError}

theorem valid_ask : (ask id name typeCode).toMessage.Valid ↔ name.Valid := by
  simp [Message.Valid, ask, Question.internet]

theorem wireLength_ask (h : name.Valid) : (ask id name typeCode).wireLength ≤ maxMessageSize := by
  have hname : name.encodedLength ≤ 255 := h.length
  have hlength : (ask id name typeCode).wireLength = 12 + (name.encodedLength + 4) := rfl
  rw [hlength, maxMessageSize]
  omega

/-- There is room in a message for any one question, so the query can be written if its name can. -/
theorem encode_ask_eq_ok {os : Octets} : (ask id name typeCode).encode = .ok os ↔
    name.Valid ∧ os = (ask id name typeCode).toMessage.wire 0 := by
  rw [encode_eq_ok, valid_ask]
  constructor
  · rintro ⟨hvalid, -, hos⟩
    exact ⟨hvalid, hos⟩
  · rintro ⟨hvalid, hos⟩
    exact ⟨hvalid, wireLength_ask hvalid, hos⟩

theorem encode_ask_of_fault (h : name.check = .error cause) :
    (ask id name typeCode).encode = .error cause := by
  have hquestion : (Question.internet name typeCode).form = .ofFault cause := by
    rw [Question.form]
    exact (congrArg (· ++ _) (Name.form_of_fault h)).trans (WireForm.append_of_fault_some rfl _)
  have hquestions : WireForm.concat [(Question.internet name typeCode).form] = .ofFault cause := by
    rw [hquestion]
    exact WireForm.append_of_fault_some rfl _
  -- the header is written before the name is found to be at fault
  have hform : (ask id name typeCode).toMessage.form 0 =
      ⟨((ask id name typeCode).header.withCounts 1 0).wire, some cause⟩ := by
    have hone : (ask id name typeCode).questions.length ≤ maxSectionCount := by
      show 1 ≤ maxSectionCount
      decide
    rw [Message.form, if_pos hone]
    exact (congrArg (_ ++ ·) hquestions).trans (WireForm.append_of_fault_none rfl _)
  rw [encode, (Message.writes_encode _ _).encode_eq, hform]
  rfl

theorem encode_ask_eq_error :
    (ask id name typeCode).encode = .error cause ↔ name.check = .error cause := by
  cases hcheck : name.check with
  | ok =>
    have hok : (ask id name typeCode).encode = .ok ((ask id name typeCode).toMessage.wire 0) :=
      encode_ask_eq_ok.2 ⟨Name.check_eq_ok.1 hcheck, rfl⟩
    simp [hok]
  | error fault => simp [encode_ask_of_fault hcheck]

/-- A query with one question is read back as it was made, with the octets after it counted. -/
theorem decode_ask (h : name.Valid) (after : Octets) :
    decode ((ask id name typeCode).toMessage.wire 0 ++ after)
      ((ask id name typeCode).toMessage.wire 0 ++ after).length =
        .ok { ask id name typeCode with trailing := after.length } :=
  decode_wire_append (valid_ask.2 h) (wireLength_ask h) after

/-- Whatever the text, the query for it can be written if the name that it spells can be, and otherwise it
fails as the name does, which is never for want of space. The octets of the query ask for this name and
nothing else: with any octets after them they are read as one question for its labels, of the type that was
given and of the class of the internet, under a header in which nothing else is set, and with the octets
after it counted. The query that was read is written as the same octets. -/
theorem encodeText_asks_for_name (id : UInt16) (text : String) (typeCode : TypeCode) :
    ((∃ os, encodeText id text typeCode = .ok os) ↔
      ∃ os, Encoder.encode (Name.ofString text).encode = .ok os) ∧
    (∀ cause, encodeText id text typeCode = .error cause ↔
      Encoder.encode (Name.ofString text).encode = .error cause) ∧
    encodeText id text typeCode ≠ .error .bufferFull ∧
    ∀ os, encodeText id text typeCode = .ok os → ∀ after, ∃ q,
      decode (os ++ after) (os ++ after).length = .ok q ∧
      q.header =
        { id, authoritative := false, truncated := false, responseCode := 0, questionCount := 1,
          answerCount := 0, authorityCount := 0, additionalCount := 0 } ∧
      q.questions = [{ name := Name.ofString text, typeCode, classCode := 1 }] ∧
      q.trailing = after.length ∧
      q.encode = .ok os := by
  refine ⟨?_, fun cause => ?_, ?_, fun os hos after => ?_⟩
  · simp only [encodeText, encode_ask_eq_ok, Name.encode_eq_ok, exists_and_left, exists_eq, and_true]
  · rw [encodeText, encode_ask_eq_error, Name.encode_eq_error]
  · rw [encodeText, Ne, encode_ask_eq_error]
    exact Name.check_ne_bufferFull
  · obtain ⟨hvalid, rfl⟩ := encode_ask_eq_ok.1 hos
    exact ⟨_, decode_ask hvalid after, rfl, rfl, rfl, hos⟩

theorem encodeText_trailingDot : ∃ os, encodeText 7 "WWW.example." TypeCode.pointer = .ok os ∧
    ∃ q, decode (os ++ [0, 9, 9]) (os ++ [0, 9, 9]).length = .ok q ∧
      q.questions = [⟨⟨[['W', 'W', 'W'], ['e', 'x', 'a', 'm', 'p', 'l', 'e']]⟩, TypeCode.pointer, 1⟩] ∧
      q.trailing = 3 := by
  have hname : (Name.ofString "WWW.example.").check = .ok () := by decide
  obtain ⟨hwritten, -, -, hread⟩ := encodeText_asks_for_name 7 "WWW.example." TypeCode.pointer
  obtain ⟨os, hos⟩ := hwritten.2 ⟨_, Name.encode_eq_ok.2 ⟨Name.check_eq_ok.1 hname, rfl⟩⟩
  obtain ⟨q, hdecode, -, hquestions, htrailing, -⟩ := hread os hos [0, 9, 9]
  exact ⟨os, hos, q, hdecode, hquestions, htrailing⟩

end Query

end ZoneServer

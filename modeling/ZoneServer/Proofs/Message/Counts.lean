import ZoneServer.Proofs.Message.Admits
import ZoneServer.Proofs.Message.Advances
import ZoneServer.Proofs.Message.Inside
import ZoneServer.Proofs.Record.Framing

/-!
# Counts and octets

A header says how many questions and answers there are, and may say anything. A question takes five octets at
least and a record eleven, however short a pointer makes their names, so a message that is read has no more of
them than there are octets for (`Message.counts_fit_datagram`), and where they are announced without being
there, no more are read than would have fitted.
-/

namespace ZoneServer

open Decoder

variable {datagram : Octets} {c : Cursor}

/-! ## Counts in the octets -/

/-- The numbers of questions and answers that a header announces stand in four of its octets. -/
def Header.Announced (header : Header) (datagram : Octets) : Prop :=
  Octets.ofNat 2 header.questionCount.toNat ++ Octets.ofNat 2 header.answerCount.toNat <+: datagram.drop 4

theorem Header.announced_of_decode {header : Header} (h : decode (.ofOctets datagram) = .ok header c) :
    header.Announced datagram ∧ c = ⟨datagram.toArray, 12⟩ := by
  obtain ⟨id, t, hread, h⟩ := Wire.bind_eq_ok.1 h
  obtain ⟨-, rfl⟩ := uint16_eq_ok.1 hread
  obtain ⟨flags, t, hread, h⟩ := Wire.bind_eq_ok.1 h
  obtain ⟨-, rfl⟩ := uint8_eq_ok.1 hread
  obtain ⟨code, t, hread, h⟩ := Wire.bind_eq_ok.1 h
  obtain ⟨-, rfl⟩ := uint8_eq_ok.1 hread
  obtain ⟨questionCount, t, hread, h⟩ := Wire.bind_eq_ok.1 h
  obtain ⟨hquestions, rfl⟩ := uint16_eq_ok.1 hread
  obtain ⟨answerCount, t, hread, h⟩ := Wire.bind_eq_ok.1 h
  obtain ⟨hanswers, rfl⟩ := uint16_eq_ok.1 hread
  obtain ⟨authorityCount, t, hread, h⟩ := Wire.bind_eq_ok.1 h
  obtain ⟨-, rfl⟩ := uint16_eq_ok.1 hread
  obtain ⟨additionalCount, t, hread, hpure⟩ := Wire.bind_eq_ok.1 h
  obtain ⟨-, rfl⟩ := uint16_eq_ok.1 hread
  obtain ⟨rfl, rfl⟩ := Wire.pure_eq_ok.1 hpure
  refine ⟨append_prefix_drop.2 ?_, rfl⟩
  rw [Octets.length_ofNat]
  exact ⟨hquestions, hanswers⟩

/-- Any twelve octets are a header. -/
theorem Header.exists_decode_iff :
    (∃ header c, decode (.ofOctets datagram) = .ok header c) ↔ 12 ≤ datagram.length := by
  constructor
  · rintro ⟨header, c, h⟩
    obtain ⟨-, rfl⟩ := announced_of_decode h
    obtain ⟨stop, hstop, hc, -⟩ := inside_decode.ok (Nat.zero_le _) h
    cases hc
    exact hstop
  · intro hle
    have hroom : 0 + 12 ≤ datagram.toArray.size := hle
    obtain ⟨header, h⟩ := enough_decode (.ofOctets datagram) hroom
    exact ⟨header, _, h⟩

/-! ## What is read has room -/

/-- What is known of the place after the questions, and of the header before them. -/
structure Message.Counted (m : Message) (datagram : Octets) (c : Cursor) : Prop where
  announced : m.header.Announced datagram
  questions : m.questions.length = m.header.questionCount.toNat
  datagram_eq : c.datagram = datagram.toArray
  le_position : 12 + 5 * m.questions.length ≤ c.position
  position_le : c.position ≤ datagram.length

theorem Message.counted_of_decode {m : Message} (h : decode (.ofOctets datagram) = .ok m c) :
    m.Counted datagram c := by
  obtain ⟨t, hheader, hquestions, hcount⟩ := decode_eq_ok.1 h
  obtain ⟨hannounced, rfl⟩ := Header.announced_of_decode hheader
  obtain ⟨stop, hstop, hc, -⟩ := inside_decode.ok (Nat.zero_le _) h
  -- the twelve octets of the header are where the questions start
  refine ⟨hannounced, hcount, ?_, hquestions.position_le Question.advances_decode, ?_⟩
  · rw [hc]
  · rw [hc]
    exact hstop

theorem Response.room_of_decode {r : Response} (h : decoder (.ofOctets datagram) = .ok r c) :
    12 + 5 * r.questions.length + 11 * r.answers.length ≤ datagram.length := by
  obtain ⟨t, hmessage, hanswers, -⟩ := decoder_eq_ok.1 h
  have hcounted := Message.counted_of_decode hmessage
  have hposition : t.position ≤ t.datagram.size := by
    rw [hcounted.datagram_eq]
    exact hcounted.position_le
  have hreach := hanswers.position_le Record.advances_decode
  have hend := (hanswers.inside (fun _ => Record.inside_decode) hposition).2
  rw [hcounted.datagram_eq, List.size_toArray] at hend
  have hquestions := hcounted.le_position
  omega

/-! ## What is announced is there or is not read -/

namespace Message

/-- A response that is read has just as many questions and answers as its header announces, and there are
octets for the header, at least five for each question and at least eleven for each answer. A query that is
read has just as many questions, and there are octets for these and for those that are counted after them. Of
any datagram with twelve octets a header is read and, whether a message is read or not, no more questions than
would have fitted after the header; and once all of them are read, no more answers than would have fitted after
the questions. -/
theorem counts_fit_datagram (datagram : Octets) (length : Nat) :
    (∀ r, Response.decode datagram length = .ok r →
      r.header.Announced (datagram.take length) ∧
      r.questions.length = r.header.questionCount.toNat ∧
      r.answers.length = r.header.answerCount.toNat ∧
      12 + 5 * r.header.questionCount.toNat + 11 * r.header.answerCount.toNat ≤
        min length datagram.length) ∧
    (∀ q, Query.decode datagram length = .ok q →
      q.header.Announced (datagram.take length) ∧
      q.questions.length = q.header.questionCount.toNat ∧
      12 + 5 * q.header.questionCount.toNat + q.trailing ≤ min length datagram.length) ∧
    ((∃ header c, Header.decode (.ofPrefix datagram length) = .ok header c) ↔
      12 ≤ min length datagram.length) ∧
    (∀ header c, Header.decode (.ofPrefix datagram length) = .ok header c →
      header.Announced (datagram.take length) ∧
      ∃ questions, questions.length ≤ min header.questionCount.toNat (c.remaining / 5) ∧
        Ends Question.decode header.questionCount.toNat c (Message.mk header) questions
          (decode (.ofPrefix datagram length))) ∧
    (∀ m c, decode (.ofPrefix datagram length) = .ok m c →
      m.header.Announced (datagram.take length) ∧
      ∃ answers, answers.length ≤ min m.header.answerCount.toNat (c.remaining / 11) ∧
        Ends Record.decode m.header.answerCount.toNat c (Response.mk m) answers
          (Response.decoder (.ofPrefix datagram length))) := by
  have hsize : (datagram.take length).length = min length datagram.length := List.length_take
  refine ⟨?_, ?_, ?_, ?_, ?_⟩
  · intro r hr
    obtain ⟨c, hrun⟩ := Response.decode_eq_ok.1 hr
    obtain ⟨t, hmessage, -, hanswers⟩ := Response.decoder_eq_ok.1 hrun
    have hcounted := counted_of_decode hmessage
    have hroom := Response.room_of_decode hrun
    rw [hcounted.questions, hanswers, hsize] at hroom
    exact ⟨hcounted.announced, hcounted.questions, hanswers, hroom⟩
  · intro q hq
    obtain ⟨c, hmessage, htrailing⟩ := Query.decode_eq_ok.1 hq
    have hcounted := counted_of_decode hmessage
    have hquestions := hcounted.le_position
    have hposition := hcounted.position_le
    refine ⟨hcounted.announced, hcounted.questions, ?_⟩
    rw [htrailing, Cursor.remaining, hcounted.datagram_eq, List.size_toArray, ← hsize, ← hcounted.questions]
    omega
  · rw [← hsize]
    exact Header.exists_decode_iff
  · intro header c hheader
    obtain ⟨questions, hends⟩ := ends_times Question.decode header.questionCount.toNat c (Message.mk header)
    obtain ⟨stop, hstop, rfl, -⟩ := Header.inside_decode.ok (Nat.zero_le _) hheader
    have hroom := hends.length_le Question.advances_decode (by decide) (fun _ => Question.inside_decode) hstop
    refine ⟨(Header.announced_of_decode hheader).1, questions, hroom, ?_⟩
    rw [decode_eq, Wire.bind_of_ok hheader]
    exact hends
  · intro m c hmessage
    obtain ⟨answers, hends⟩ := ends_times Record.decode m.header.answerCount.toNat c (Response.mk m)
    obtain ⟨stop, hstop, rfl, -⟩ := inside_decode.ok (Nat.zero_le _) hmessage
    have hroom := hends.length_le Record.advances_decode (by decide) (fun _ => Record.inside_decode) hstop
    refine ⟨(counted_of_decode hmessage).announced, answers, hroom, ?_⟩
    rw [Response.decoder_eq, Wire.bind_of_ok hmessage]
    exact hends

/-- A response with one question and one answer that take as few octets as they can. -/
def leastExchange : Octets :=
  [0, 7, 4, 0, 0, 1, 0, 1, 0, 0, 0, 0] ++ ([0, 0, 1, 0, 1] ++ [0, 0, 16, 0, 1, 0, 0, 0, 60, 0, 0])

/-- The header and the question of this response. -/
def leastMessage : Message := ⟨⟨7, true, false, 0, 1, 1, 0, 0⟩, [.internet .root TypeCode.address]⟩

/-- This response, whose answer holds no octets of a type that is not understood. -/
def leastResponse : Response := ⟨leastMessage, [⟨.root, 1, 60, .other 16 []⟩]⟩

theorem leastMessage_valid : leastMessage.Valid := by
  intro question hquestion
  rw [List.mem_singleton.1 hquestion]
  exact ⟨by decide, by decide⟩

theorem decode_leastExchange {length : Nat} (hlength : length ∈ [27, 28]) :
    decode (.ofPrefix leastExchange length) = .ok leastMessage ⟨(leastExchange.take length).toArray, 17⟩ := by
  have hsplit : leastExchange.take length =
      [] ++ (leastMessage.wire 1 ++ (leastExchange.take length).drop 17) := by
    revert length
    decide
  exact (reads_decode leastMessage_valid (by decide) 1).inside hsplit

theorem decode_leastExchange_header : Header.decode (.ofPrefix leastExchange 16) =
    .ok leastMessage.header ⟨(leastExchange.take 16).toArray, 12⟩ := by
  have hsplit : leastExchange.take 16 =
      [] ++ (leastMessage.header.wire ++ (leastExchange.take 16).drop 12) := by decide
  exact (Header.reads_decode leastMessage.header).inside hsplit

theorem decode_leastResponse : Response.decode leastExchange 28 = .ok leastResponse := by
  have hvalid : leastResponse.Valid := by
    refine ⟨leastMessage_valid, fun record hrecord => ?_⟩
    rw [List.mem_singleton.1 hrecord]
    exact ⟨⟨by decide, by decide⟩, trivial⟩
  have hfaithful : leastResponse.Faithful := by
    intro record hrecord
    rw [List.mem_singleton.1 hrecord, Payload.Faithful]
    decide
  have hwire : leastResponse.wire = leastExchange := by decide
  have hread := Response.decode_wire hvalid hfaithful (by decide)
  rw [hwire] at hread
  exact hread

/-- All of it is read of its 28 octets. Of 16 or 27, the question or the answer is not. -/
theorem counts_fit_leastExchange :
    (∃ r, Response.decode leastExchange 28 = .ok r ∧ r.toMessage = leastMessage ∧
      r.questions.length = 1 ∧ r.answers.length = 1 ∧ 12 + 5 * 1 + 11 * 1 ≤ min 28 28) ∧
    (∃ q, Query.decode leastExchange 28 = .ok q ∧ q.toMessage = leastMessage ∧
      q.questions.length = 1 ∧ 12 + 5 * 1 + q.trailing ≤ min 28 28) ∧
    (∃ questions, questions.length ≤ min 1 (4 / 5) ∧
      Ends Question.decode 1 ⟨(leastExchange.take 16).toArray, 12⟩ (Message.mk leastMessage.header)
        questions (decode (.ofPrefix leastExchange 16))) ∧
    ∃ answers, answers.length ≤ min 1 (10 / 11) ∧
      Ends Record.decode 1 ⟨(leastExchange.take 27).toArray, 17⟩ (Response.mk leastMessage) answers
        (Response.decoder (.ofPrefix leastExchange 27)) := by
  obtain ⟨hresponses, hqueries, -⟩ := counts_fit_datagram leastExchange 28
  obtain ⟨-, -, -, hquestions, -⟩ := counts_fit_datagram leastExchange 16
  obtain ⟨-, -, -, -, hanswers⟩ := counts_fit_datagram leastExchange 27
  have hmessage := decode_leastExchange (show 28 ∈ [27, 28] by decide)
  refine ⟨?_, ?_, ?_, ?_⟩
  · obtain ⟨-, hcount, hcount', hroom⟩ := hresponses _ decode_leastResponse
    exact ⟨_, decode_leastResponse, rfl, hcount, hcount', hroom⟩
  · have hquery : Query.decode leastExchange 28 = .ok { leastMessage with trailing := 11 } :=
      Query.decode_eq_ok.2 ⟨_, hmessage, rfl⟩
    obtain ⟨-, hcount, hroom⟩ := hqueries _ hquery
    exact ⟨_, hquery, rfl, hcount, hroom⟩
  · exact (hquestions _ _ decode_leastExchange_header).2
  · exact (hanswers _ _ (decode_leastExchange (by decide))).2

end Message

end ZoneServer

import ZoneServer.Proofs.Message.Reads
import ZoneServer.Proofs.Message.Truncation

/-!
# Responses as joined encodings

A question and a record each have one encoding, which is written wherever there is room for it and depends
on nothing else (`Encoder.Appends`). A packed response is its header and the encodings of its questions and
answers one after another, so whether it can be packed is a matter of adding up their lengths
(`Response.pack_joins_encodings`).

With fewer answers less is written, but what is written stays the same except for the number of answers in
the header, the seventh and eighth octets.
-/

namespace ZoneServer

/-! ## Encodings that depend on nothing else -/

/-- An encoder that appends the same octets to every buffer that has room for them, if what it writes is
valid, and that otherwise fails. -/
structure Encoder.Appends (e : Encoder Unit) (valid : Prop) (length : Nat) (os : Octets) : Prop where
  length_eq : valid → os.length = length
  run_eq_ok : ∀ {b b' : Buffer}, b.WellFormed →
    (e b = .ok () b' ↔ valid ∧ b.position + length ≤ maxMessageSize ∧ b' = b.append os)

/-- An encoder whose form has no fault just if what it writes is valid appends what its form says. -/
theorem Encoder.Writes.appends {e : Encoder Unit} {w : WireForm} (h : e.Writes w) {valid : Prop}
    {length : Nat} {os : Octets} (hfault : w.fault = none ↔ valid) (hform : valid → w = .ofOctets os)
    (hlength : valid → os.length = length) : e.Appends valid length os := by
  refine ⟨hlength, fun {b b'} hb => ⟨fun hrun => ?_, ?_⟩⟩
  · obtain ⟨hnone, hroom, rfl⟩ := h.of_ok hb hrun
    have hvalid := hfault.1 hnone
    rw [hform hvalid, WireForm.ofOctets] at hroom ⊢
    exact ⟨hvalid, by rwa [← hlength hvalid], rfl⟩
  · rintro ⟨hvalid, hroom, rfl⟩
    refine h.ok hb (WireForm.outcome_eq_ok.2 ⟨hfault.2 hvalid, ?_, ?_⟩)
    · rw [hform hvalid]
      rfl
    · rwa [hform hvalid, WireForm.ofOctets, hlength hvalid]

theorem Question.appends_encode (q : Question) : q.encode.Appends q.name.Valid q.wireLength q.wire :=
  q.writes_encode.appends fault_form form_of_valid length_wire

theorem Record.appends_encode (r : Record) : r.encode.Appends r.Valid r.wireLength r.wire :=
  r.writes_encode.appends fault_form form_of_valid length_wire

/-! ## The number of answers -/

/-- The octets of a message with another number of answers in its header. -/
def Octets.recount (answerCount : Nat) (os : Octets) : Octets :=
  os.take 6 ++ Octets.ofNat 2 answerCount ++ os.drop 8

/-- The number of answers can be replaced in a header that has been written. -/
theorem Header.recount_wire (h : Header) (questionCount answerCount answerCount' : UInt16)
    (rest : Octets) :
    Octets.recount answerCount'.toNat ((h.withCounts questionCount answerCount).wire ++ rest) =
      (h.withCounts questionCount answerCount').wire ++ rest := by
  have hfront : (Octets.ofNat 2 h.id.toNat ++ [h.flags, responseCodeOf h.responseCode] ++
      Octets.ofNat 2 questionCount.toNat).length = 6 := by simp
  have hcount : (Octets.ofNat 2 h.id.toNat ++ [h.flags, responseCodeOf h.responseCode] ++
      Octets.ofNat 2 questionCount.toNat ++ Octets.ofNat 2 answerCount.toNat).length = 8 := by simp
  have hwire : ∀ count : UInt16, (h.withCounts questionCount count).wire ++ rest =
      Octets.ofNat 2 h.id.toNat ++ [h.flags, responseCodeOf h.responseCode] ++
        Octets.ofNat 2 questionCount.toNat ++ Octets.ofNat 2 count.toNat ++
        (Octets.ofNat 2 0 ++ Octets.ofNat 2 0 ++ rest) := by
    intro count
    simp only [wire, List.append_assoc]
    rfl
  rw [hwire, hwire, Octets.recount, List.drop_left' hcount]
  rw [List.append_assoc _ (Octets.ofNat 2 answerCount.toNat), List.take_left' hfront]

namespace Response

variable {r : Response} {os : Octets}

/-- The octets of a response with fewer answers are the first ones of the whole but for the number of
answers. -/
theorem wire_firstAnswers (r : Response) (count : Nat)
    (hcount : (r.answers.take count).length ≤ maxSectionCount) :
    (r.firstAnswers count).wire = Octets.recount (r.answers.take count).length
      (r.wire.take (r.firstAnswers count).wire.length) := by
  have hfirst : r.sentHeader.wire ++
      (r.questions.flatMap Question.wire ++ (r.answers.take count).flatMap Record.wire) <+: r.wire := by
    refine ⟨(r.answers.drop count).flatMap Record.wire, ?_⟩
    rw [wire_eq, List.append_assoc, List.append_assoc, ← List.flatMap_append, List.take_append_drop]
  have hlength : (r.firstAnswers count).wire.length = (r.sentHeader.wire ++
      (r.questions.flatMap Question.wire ++ (r.answers.take count).flatMap Record.wire)).length := by
    rw [wire_eq]
    simp only [List.length_append, Header.length_wire, firstAnswers]
  have hrecount := r.header.recount_wire (UInt16.ofNat r.questions.length)
    (UInt16.ofNat r.answers.length) (UInt16.ofNat (r.answers.take count).length)
    (r.questions.flatMap Question.wire ++ (r.answers.take count).flatMap Record.wire)
  rw [Message.toNat_count hcount] at hrecount
  rw [hlength, ← List.prefix_iff_eq_take.1 hfirst, sentHeader, hrecount, wire_eq]
  rfl

/-- A response that can be packed can be packed with fewer answers. -/
theorem pack_firstAnswers (h : r.pack.1 = .ok os) (count : Nat) :
    (r.firstAnswers count).pack.1 = .ok (r.firstAnswers count).wire := by
  obtain ⟨hvalid, hroom, -⟩ := pack_eq_ok.1 h
  refine pack_eq_ok.2 ⟨firstAnswers_valid hvalid count, ?_, rfl⟩
  have hsum : ((r.answers.take count).map Record.wireLength).sum ≤
      (r.answers.map Record.wireLength).sum := by
    rw [List.map_take]
    exact ((List.take_sublist _ _).sum_le_sum fun _ _ => Nat.zero_le _)
  rw [wireLength] at hroom ⊢
  exact (Nat.add_le_add_left hsum _).trans hroom

/-- A question and a record each have one encoding, of a length that can be told beforehand. A response is
packed just if everything in it is valid and the header and these lengths together come to 512 octets at
most; then its octets are the header and the encodings of the questions and of the answers, in their order.
If everything is valid, space is all that can be missing. So with its first answers alone a response that
can be packed can be packed too, and its octets are the first ones of the whole with their own number of
answers. -/
theorem pack_joins_encodings :
    (∀ q : Question, q.encode.Appends q.name.Valid (q.name.encodedLength + 4) q.wire) ∧
    (∀ record : Record, record.encode.Appends record.Valid
      (record.owner.encodedLength + 10 + record.payload.wireLength) record.wire) ∧
    ∀ r : Response,
      (∀ os, r.pack.1 = .ok os ↔ r.Valid ∧
        12 + (r.questions.map Question.wireLength).sum + (r.answers.map Record.wireLength).sum ≤ 512 ∧
        os = r.sentHeader.wire ++
          (r.questions.flatMap Question.wire ++ r.answers.flatMap Record.wire)) ∧
      r.sentHeader.wire.length = 12 ∧
      (r.Valid →
        512 < 12 + (r.questions.map Question.wireLength).sum + (r.answers.map Record.wireLength).sum →
        r.pack.1 = .error .bufferFull) ∧
      ∀ os, r.pack.1 = .ok os → ∀ count, ∃ os', (r.firstAnswers count).pack.1 = .ok os' ∧
        os' = Octets.recount (r.answers.take count).length (os.take os'.length) := by
  refine ⟨Question.appends_encode, Record.appends_encode, fun r => ⟨fun os => ?_,
    Header.length_wire _, fun hvalid hfull => ?_, fun os hos count => ?_⟩⟩
  · rw [← wire_eq]
    exact pack_eq_ok
  · rw [pack_of_valid hvalid, if_neg]
    exact Nat.not_le.2 hfull
  · have hfewer := pack_firstAnswers hos count
    have hcount : (r.answers.take count).length ≤ maxSectionCount :=
      answers_length_le (pack_eq_ok.1 hfewer).2.1
    obtain ⟨-, -, rfl⟩ := pack_eq_ok.1 hos
    exact ⟨_, hfewer, wire_firstAnswers r count hcount⟩

/-- A response with an address and a host that takes mail. -/
def twoAnswers : Response :=
  { ofQuery (Query.ask 7 (Name.ofString "a") TypeCode.address) with
    answers := [Record.ofPayload (Name.ofString "a") 60 (.address "010.0.0.1"),
      Record.ofPayload Name.root 60 (.mailExchange 10 (Name.ofString "b.c"))] }

theorem twoAnswers_valid : twoAnswers.Valid := by
  have ha : (Name.ofString "a").Valid := ⟨by decide, by decide⟩
  refine ⟨fun q hq => ?_, List.forall_mem_cons.2 ⟨⟨ha, ⟨10, 0, 0, 1⟩, by decide⟩, fun record hrecord => ?_⟩⟩
  · rw [List.mem_singleton.1 hq]
    exact ha
  · rw [List.mem_singleton.1 hrecord]
    exact ⟨⟨by decide, by decide⟩, ⟨by decide, by decide⟩⟩

theorem pack_twoAnswers :
    (∃ os os', twoAnswers.pack.1 = .ok os ∧ os.length = 54 ∧
      (twoAnswers.firstAnswers 1).pack.1 = .ok os' ∧ os' = Octets.recount 1 (os.take os'.length)) ∧
    crowded.Valid ∧ crowded.pack.1 = .error .bufferFull := by
  obtain ⟨-, -, hpacks⟩ := pack_joins_encodings
  obtain ⟨hpack, -, -, hfewer⟩ := hpacks twoAnswers
  obtain ⟨-, -, hfull, -⟩ := hpacks crowded
  refine ⟨?_, crowded_valid, hfull crowded_valid (by decide)⟩
  have hos := (hpack _).2 ⟨twoAnswers_valid, by decide, rfl⟩
  obtain ⟨os', hpack', hos'⟩ := hfewer _ hos 1
  exact ⟨_, os', hos, by decide, hpack', hos'⟩

end Response

end ZoneServer

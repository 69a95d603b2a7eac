import ZoneServer.Proofs.Message.Case
import ZoneServer.Proofs.Zone.Reply

/-!
# What a zone takes from a query

Of a query, a zone repeats the identifier and the questions and looks at nothing else, and it does not
look at the case of letters. So queries that ask the same are answered the same, up to the spelling of the
names that the reply repeats.
-/

namespace ZoneServer

/-- Questions that are the same are answered by the same records. -/
theorem Query.matching_eq {q q' : Query} (h : q.SameQuestions q'.toMessage) (records : List Record) :
    q.matching records = q'.matching records := by
  have hquestions : List.Forall₂ Question.SameAs q.questions q'.questions := h
  unfold matching
  generalize q.questions = questions at hquestions ⊢
  generalize q'.questions = questions' at hquestions ⊢
  induction hquestions with
  | nil => rfl
  | cons hsame _ ih =>
    rw [List.flatMap_cons, List.flatMap_cons, ih, hsame.typeCode, Name.beq_iff.1 hsame.name]

namespace Zone

variable {q q' : Query} {datagram datagram' : Octets}

/-- The header of a response to a query that was read says how many questions there are. -/
theorem response_header (hq : q.toMessage.Settled) : Header.response q.header =
    { Header.query q.header.id (UInt16.ofNat q.questions.length) with authoritative := true } := by
  have hcount : UInt16.ofNat q.questions.length = q.header.questionCount := by
    rw [hq.counted, UInt16.ofNat_toNat]
  rw [hcount, Header.response]

theorem respond_parallel (zone : Zone) (hq : q.toMessage.Settled) (hq' : q'.toMessage.Settled)
    (hid : q.header.id = q'.header.id) (h : q.SameQuestions q'.toMessage) :
    (zone.respond q).Parallel (zone.respond q') where
  header := by
    have hcount : q.questions.length = q'.questions.length := List.Forall₂.length_eq h
    show Header.response q.header = Header.response q'.header
    rw [response_header hq, response_header hq', hid, hcount]
  answers := by rw [respond_answers, respond_answers, Query.matching_eq h]
  valid := hq.valid
  valid' := hq'.valid
  count := List.Forall₂.length_eq h
  wireLength := h.wireLength_eq hq.valid hq'.valid

/-- Whatever its records and whatever the policy, a zone gives two queries with the same identifier and
the same questions the same reply or none. If the names in the questions are the same up to the case of
letters, there is a reply to both queries or to none, and the replies differ in that case only. -/
theorem reply_up_to_case (zone : Zone) (policy : OversizePolicy)
    (hdecode : Query.decode datagram datagram.length = .ok q)
    (hdecode' : Query.decode datagram' datagram'.length = .ok q') (hid : q.header.id = q'.header.id) :
    (q.questions = q'.questions →
      reply zone.respond policy datagram = reply zone.respond policy datagram') ∧
    (q.SameQuestions q'.toMessage →
      (reply zone.respond policy datagram = none ∧ reply zone.respond policy datagram' = none) ∨
      ∃ os os', reply zone.respond policy datagram = some os ∧
        reply zone.respond policy datagram' = some os' ∧
        q.Respelled q'.toMessage os os') := by
  have hq := Query.settled_of_decode hdecode
  have hq' := Query.settled_of_decode hdecode'
  rw [reply_of_decode hdecode, reply_of_decode hdecode']
  refine ⟨fun hquestions => ?_, fun hsame => ?_⟩
  · have hheader : Header.response q.header = Header.response q'.header := by
      rw [response_header hq, response_header hq', hid, hquestions]
    have hrespond : zone.respond q = zone.respond q' := by
      rw [respond, respond, Response.ofQuery, Response.ofQuery, hheader, hquestions]
    rw [hrespond]
  · have hlockstep := (zone.respond_parallel hq hq' hid hsame).pack_policy policy
    generalize (policy.pack (zone.respond q)).1 = packed at hlockstep ⊢
    generalize (policy.pack (zone.respond q')).1 = packed' at hlockstep ⊢
    cases hlockstep with
    | refused cause => exact .inl ⟨rfl, rfl⟩
    | sent header answers =>
      have halike := hsame.alike hq.valid hq'.valid
      exact .inr ⟨_, _, rfl, rfl, Message.respelled_of_sections halike header answers⟩

/-- The query for the address of the first host, spelled otherwise. -/
def respelledQuery : Query := Query.ask 7 ⟨["wWw".toList]⟩ TypeCode.address

theorem reply_to_respelledQuery :
    ∃ q q' os os',
      Query.decode (hostQuery.toMessage.wire 0) (hostQuery.toMessage.wire 0).length = .ok q ∧
      Query.decode (respelledQuery.toMessage.wire 0) (respelledQuery.toMessage.wire 0).length = .ok q' ∧
      reply (Zone.mk (hostEntries.map ZoneEntry.described)).respond .truncate
        (hostQuery.toMessage.wire 0) = some os ∧
      reply (Zone.mk (hostEntries.map ZoneEntry.described)).respond .truncate
        (respelledQuery.toMessage.wire 0) = some os' ∧
      q.Respelled q'.toMessage os os' ∧ os ≠ os' := by
  have hvalid : respelledQuery.toMessage.Valid := by
    intro question hquestion
    rw [List.mem_singleton.1 hquestion]
    exact ⟨by decide, by decide⟩
  have hdecode := Query.decode_wire hostQuery_valid (by decide)
  have hdecode' := Query.decode_wire hvalid (by decide)
  have hsame : (hostQuery.toMessage.received 0).SameQuestions (respelledQuery.toMessage.received 0) :=
    .cons ⟨by decide, rfl, rfl⟩ .nil
  have hsome : (reply (Zone.mk (hostEntries.map ZoneEntry.described)).respond .truncate
      (hostQuery.toMessage.wire 0)).isSome := by
    rw [reply_of_decode hdecode]
    have hrespond := respond_valid ofEntries_hostEntries (Query.settled_of_decode hdecode).valid
    obtain ⟨os, hos⟩ := (Response.packTruncated_ok_iff hrespond).2 (by decide)
    rw [OversizePolicy.pack, hos]
    rfl
  rcases (reply_up_to_case (Zone.mk (hostEntries.map ZoneEntry.described)) .truncate
    hdecode hdecode' rfl).2 hsame with ⟨hnone, -⟩ | ⟨os, os', hos, hos', hrespelled⟩
  · rw [hnone] at hsome
    cases hsome
  · refine ⟨_, _, os, os', hdecode, hdecode', hos, hos', hrespelled, ?_⟩
    rintro rfl
    obtain ⟨header, answers, -, hleft, hright⟩ := hrespelled.sections
    have hquestions := List.append_cancel_left (List.append_cancel_right (hleft.symm.trans hright))
    exact absurd hquestions (by decide)

end Zone

end ZoneServer

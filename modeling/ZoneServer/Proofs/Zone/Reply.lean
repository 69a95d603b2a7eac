import ZoneServer.Proofs.Server.Reply
import ZoneServer.Proofs.Zone.Entries

/-!
# What a zone replies

A zone replies to every query whose questions fit in a message when they are written in full. Nothing
else can stand in the way of a reply, because the records of a zone were checked when it was made and the
names of a query were checked when they were read. The reply has as many of the answers as fit.
-/

namespace ZoneServer

/-! ## Packing a valid response -/

section Packing

variable {r : Response} {os : Octets} {count : Nat}

/-- Under either policy, what is packed of a valid response has as many answers as there is room for. -/
theorem OversizePolicy.pack_of_valid {policy : OversizePolicy} (h : r.Valid)
    (hpack : (policy.pack r).1 = .ok os) :
    ∃ count, IsGreatest r.roomFor count ∧ os = (r.cut count).wire ∧
      (policy = .drop → count = r.answers.length) := by
  cases policy with
  | truncate =>
    have hroom := (Response.packTruncated_ok_iff h).1 ⟨os, hpack⟩
    obtain ⟨count, hgreatest, hcut⟩ := Response.packTruncated_of_valid h hroom
    exact ⟨count, hgreatest, Except.ok.inj (hpack.symm.trans hcut), fun hdrop => (by cases hdrop)⟩
  | drop =>
    obtain ⟨-, hroom, hos⟩ := Response.pack_eq_ok.1 hpack
    refine ⟨r.answers.length, ⟨⟨le_rfl, ?_⟩, fun count hcount => hcount.1⟩, ?_, fun _ => rfl⟩
    · rwa [Response.firstAnswers, List.take_length]
    · rwa [Response.cut_length]

/-- What is left of a response is read back. -/
theorem Response.decode_cut (h : r.Valid) (hf : r.Faithful) (hcount : count ∈ r.roomFor) :
    (r.cut count).wire.length ≤ maxMessageSize ∧
      decode (r.cut count).wire (r.cut count).wire.length = .ok (r.cut count).received := by
  have hvalid := cut_valid h count
  have hfaithful : (r.cut count).Faithful := fun record hrecord => hf record (List.mem_of_mem_take hrecord)
  have hroom : (r.cut count).wireLength ≤ maxMessageSize := hcount.2
  exact ⟨(length_wire hvalid).trans_le hroom, decode_wire hvalid hfaithful hroom⟩

end Packing

/-! ## Zones -/

/-- A response to a query with the first of the records that answer it. -/
structure Response.Replies (r : Response) (q : Query) (records : List Record) (count : Nat) : Prop where
  id : r.header.id = q.header.id
  authoritative : r.header.authoritative = true
  truncated : r.header.truncated = true ↔ count < records.length
  responseCode : r.header.responseCode = 0
  questionCount : r.header.questionCount.toNat = q.questions.length
  answerCount : r.header.answerCount.toNat = count
  authorityCount : r.header.authorityCount = 0
  additionalCount : r.header.additionalCount = 0
  questions : r.questions = q.questions
  answers : r.answers = (records.take count).map Record.canonical

namespace Zone

variable {entries : List ZoneEntry} {zone : Zone} {q : Query}

theorem respond_valid (h : ofEntries entries = .ok zone) (hq : q.toMessage.Valid) :
    (zone.respond q).Valid := by
  refine ⟨hq, ?_⟩
  intro record hrecord
  rw [respond_answers] at hrecord
  exact ((ofEntries_eq_ok h).2 record (Query.mem_of_mem_matching hrecord)).1

theorem respond_faithful (h : ofEntries entries = .ok zone) : (zone.respond q).Faithful := by
  intro record hrecord
  rw [respond_answers] at hrecord
  exact ((ofEntries_eq_ok h).2 record (Query.mem_of_mem_matching hrecord)).2

theorem wireLength_respond (zone : Zone) (q : Query) : (zone.respond q).wireLength =
    q.wireLength + ((q.matching zone.records).map Record.wireLength).sum := by
  rw [Response.wireLength, respond_answers]
  rfl

theorem roomFor_respond (zone : Zone) (q : Query) : (zone.respond q).roomFor =
    {count | count ≤ (q.matching zone.records).length ∧
      q.wireLength + (((q.matching zone.records).take count).map Record.wireLength).sum ≤ 512} := by
  ext count
  simp only [Response.roomFor, Response.firstAnswers, Response.wireLength, respond_answers]
  rfl

theorem replies_cut {count : Nat} (hcount : count ∈ (zone.respond q).roomFor) :
    ((zone.respond q).cut count).received.Replies q (q.matching zone.records) count := by
  have hroom : ((zone.respond q).cut count).wireLength ≤ maxMessageSize := hcount.2
  have hanswers : ((zone.respond q).cut count).answers.length = count := by
    rw [Response.cut, List.length_take, Nat.min_eq_left hcount.1]
  refine ⟨rfl, rfl, ?_, rfl, ?_, ?_, rfl, rfl, rfl, ?_⟩
  · rw [← respond_answers]
    exact decide_eq_true_iff
  · exact Message.toNat_count (Response.questions_length_le hroom)
  · exact (Message.toNat_count (Response.answers_length_le hroom)).trans hanswers
  · rw [← respond_answers]
    rfl

/-- A zone replies to a datagram if it is a query whose questions fit in 512 octets; a zone that drops
responses needs space for all the answers. The reply has the questions of the query and as many of the
records that answer them as fit, and it says whether any are left out. -/
theorem reply_answers_what_fits (h : ofEntries entries = .ok zone) (datagram : Octets) :
    ((reply zone.respond .truncate datagram).isSome ↔
      ∃ q, Query.decode datagram datagram.length = .ok q ∧
        12 + (q.questions.map fun question => question.name.encodedLength + 4).sum ≤ 512) ∧
    ((reply zone.respond .drop datagram).isSome ↔
      ∃ q, Query.decode datagram datagram.length = .ok q ∧
        12 + (q.questions.map fun question => question.name.encodedLength + 4).sum +
          ((q.matching (entries.map ZoneEntry.described)).map Record.wireLength).sum ≤ 512) ∧
    ∀ policy os, reply zone.respond policy datagram = some os → os.length ≤ 512 ∧
      ∃ q r count, Query.decode datagram datagram.length = .ok q ∧
        Response.decode os os.length = .ok r ∧
        r.Replies q (q.matching (entries.map ZoneEntry.described)) count ∧
        IsGreatest {count | count ≤ (q.matching (entries.map ZoneEntry.described)).length ∧
          12 + (q.questions.map fun question => question.name.encodedLength + 4).sum +
            (((q.matching (entries.map ZoneEntry.described)).take count).map
              Record.wireLength).sum ≤ 512} count ∧
        (policy = .drop → count = (q.matching (entries.map ZoneEntry.described)).length) := by
  rw [← (ofEntries_eq_ok h).1]
  refine ⟨?_, ?_, ?_⟩
  · rw [isSome_reply]
    refine exists_congr fun q => and_congr_right fun hdecode => ?_
    have hq := (Query.settled_of_decode hdecode).valid
    exact Response.packTruncated_ok_iff (respond_valid h hq)
  · rw [isSome_reply]
    refine exists_congr fun q => and_congr_right fun hdecode => ?_
    have hq := (Query.settled_of_decode hdecode).valid
    have hpack := Response.packs_of_valid (respond_valid h hq)
    rwa [wireLength_respond] at hpack
  · intro policy os hreply
    obtain ⟨q, hdecode, hpack⟩ := reply_eq_some.1 hreply
    have hvalid := respond_valid h (Query.settled_of_decode hdecode).valid
    obtain ⟨count, hgreatest, rfl, hdrop⟩ := OversizePolicy.pack_of_valid hvalid hpack
    obtain ⟨hlength, hread⟩ := Response.decode_cut hvalid (respond_faithful h) hgreatest.1
    refine ⟨hlength, q, _, count, hdecode, hread, replies_cut hgreatest.1, ?_, ?_⟩
    · rwa [roomFor_respond] at hgreatest
    · rwa [respond_answers] at hdrop

/-- The entries of two hosts. -/
def hostEntries : List ZoneEntry :=
  [⟨"www.", .a, 60, "010.0.0.1", none⟩, ⟨"mail", .a, 60, "10.0.0.2", none⟩]

/-- A query for the address of the first. -/
def hostQuery : Query := Query.ask 7 ⟨["WWW".toList]⟩ TypeCode.address

theorem hostQuery_valid : hostQuery.toMessage.Valid := by
  intro question hquestion
  rw [List.mem_singleton.1 hquestion]
  exact ⟨by decide, by decide⟩

theorem ofEntries_hostEntries :
    ofEntries hostEntries = .ok ⟨hostEntries.map ZoneEntry.described⟩ := by
  have hwww : Name.ofEntry "www." = .ok (Name.ofString "www.") :=
    Name.ofEntry_eq_ok.2 ⟨⟨by decide, by decide⟩, rfl⟩
  have hmail : Name.ofEntry "mail" = .ok (Name.ofString "mail") :=
    Name.ofEntry_eq_ok.2 ⟨⟨by decide, by decide⟩, rfl⟩
  have hfirst : Ipv4.parse "010.0.0.1" = .ok ⟨10, 0, 0, 1⟩ := by decide
  have hsecond : Ipv4.parse "10.0.0.2" = .ok ⟨10, 0, 0, 2⟩ := by decide
  simp only [ofEntries, hostEntries, recordsOf, ZoneEntry.record, ZoneEntry.payload, hwww, hmail,
    hfirst, hsecond]
  rfl

theorem reply_to_hostQuery :
    ofEntries hostEntries = .ok ⟨hostEntries.map ZoneEntry.described⟩ ∧
    ∃ os r, reply (Zone.mk (hostEntries.map ZoneEntry.described)).respond .drop
        (hostQuery.toMessage.wire 0) = some os ∧
      Response.decode os os.length = .ok r ∧ r.addresses = ["10.0.0.1"] := by
  refine ⟨ofEntries_hostEntries, ?_⟩
  have hdecode := Query.decode_wire hostQuery_valid (by decide)
  obtain ⟨-, hdrop, hreply⟩ :=
    reply_answers_what_fits ofEntries_hostEntries (hostQuery.toMessage.wire 0)
  obtain ⟨os, hos⟩ := Option.isSome_iff_exists.1 (hdrop.2 ⟨_, hdecode, by decide⟩)
  obtain ⟨-, q, r, count, hq, hr, hreplies, -, hcount⟩ := hreply .drop os hos
  obtain rfl := Except.ok.inj (hq.symm.trans hdecode)
  refine ⟨os, r, hos, hr, ?_⟩
  rw [Response.addresses, hreplies.answers, hcount rfl, List.take_length]
  decide

end Zone

end ZoneServer

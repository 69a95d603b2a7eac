import ZoneServer.Message.Operation
import ZoneServer.Proofs.Message.Admits
import ZoneServer.Proofs.Message.Truncation

/-!
# Any use of a response

A response is packed in several goes: the answers are counted in its header, packing is tried, and if it
fails the answers may be cut and counted again. No operation that fails half-way leaves a response that
anything is missing from or that a later operation could trip over. What an operation can come to is said
once (`Operation.Outcome`); what it leaves alone (`Operation.Conduct`) and what any number of operations
make of a response (`Response.Follows`) is derived from that.
-/

namespace ZoneServer

namespace Response

/-! ## What stays -/

/-- Two responses differ at most in their answers, in the number of answers in their headers and in
whether answers are missing. -/
structure SameBasis (r r' : Response) : Prop where
  questions : r'.questions = r.questions
  id : r'.header.id = r.header.id
  authoritative : r'.header.authoritative = r.header.authoritative
  responseCode : r'.header.responseCode = r.header.responseCode
  questionCount : r'.header.questionCount = r.header.questionCount
  authorityCount : r'.header.authorityCount = r.header.authorityCount
  additionalCount : r'.header.additionalCount = r.header.additionalCount

variable {r r' r'' : Response}

theorem SameBasis.refl (r : Response) : r.SameBasis r := ⟨rfl, rfl, rfl, rfl, rfl, rfl, rfl⟩

theorem SameBasis.trans (h : r.SameBasis r') (h' : r'.SameBasis r'') : r.SameBasis r'' where
  questions := h'.questions.trans h.questions
  id := h'.id.trans h.id
  authoritative := h'.authoritative.trans h.authoritative
  responseCode := h'.responseCode.trans h.responseCode
  questionCount := h'.questionCount.trans h.questionCount
  authorityCount := h'.authorityCount.trans h.authorityCount
  additionalCount := h'.additionalCount.trans h.additionalCount

theorem sameBasis_add (r : Response) (records : List Record) : r.SameBasis (r.add records) :=
  ⟨rfl, rfl, rfl, rfl, rfl, rfl, rfl⟩

theorem sameBasis_counted (r : Response) : r.SameBasis r.counted := ⟨rfl, rfl, rfl, rfl, rfl, rfl, rfl⟩

theorem sameBasis_truncate (r : Response) (count : Nat) : r.SameBasis (r.truncate count) :=
  ⟨rfl, rfl, rfl, rfl, rfl, rfl, rfl⟩

/-! ## What packing leaves -/

theorem pack_left_of_ok {os : Octets} (h : r.pack.1 = .ok os) : r.pack.2 = r.counted := by
  obtain ⟨-, hroom, -⟩ := pack_eq_ok.1 h
  rw [pack, if_pos (answers_length_le hroom)]

/-- These octets have just been packed of a response. -/
structure JustPacked (r : Response) (os : Octets) : Prop where
  room : r.wireLength ≤ maxMessageSize
  counted : r.header.answerCount = UInt16.ofNat r.answers.length
  octets : os = r.wire

theorem justPacked_counted {os : Octets} (h : r.pack.1 = .ok os) : r.counted.JustPacked os := by
  obtain ⟨-, hroom, hos⟩ := pack_eq_ok.1 h
  exact ⟨hroom, rfl, hos⟩

theorem JustPacked.answerCount {os : Octets} (h : r.JustPacked os) :
    r.header.answerCount.toNat = r.answers.length := by
  rw [h.counted, Message.toNat_count (answers_length_le h.room)]

end Response

/-- The number of answers stands in the seventh and eighth octets of a header. -/
theorem Header.answerCount_wire (h : Header) :
    (h.wire.drop 6).take 2 = Octets.ofNat 2 h.answerCount.toNat := by
  have hfront : (Octets.ofNat 2 h.id.toNat ++ [h.flags, responseCodeOf h.responseCode] ++
      Octets.ofNat 2 h.questionCount.toNat).length = 6 := by simp
  rw [wire, List.append_assoc, List.append_assoc, List.drop_left' hfront,
    List.take_left' (Octets.length_ofNat 2 _)]

theorem Response.JustPacked.octets_answerCount {r : Response} {os : Octets} (h : r.JustPacked os) :
    (os.drop 6).take 2 = Octets.ofNat 2 r.answers.length := by
  have hcount : (UInt16.ofNat r.answers.length).toNat = r.answers.length :=
    Message.toNat_count (Response.answers_length_le h.room)
  have hheader := Header.answerCount_wire r.sentHeader
  rw [← Response.take_wire, List.drop_take, List.take_take, ← h.octets] at hheader
  rw [← hcount]
  exact hheader

namespace Operation

variable {op : Operation} {r : Response}

/-! ## One operation -/

/-- The records that an operation adds. -/
def records : Operation → List Record
  | .add records => records
  | .pack => []
  | .packTruncated => []

/-- What can come of an operation. -/
inductive Outcome (op : Operation) (r : Response) : Prop where
  /-- Answers are added. -/
  | added (hrun : op.run r = (.ok none, r.add op.records))
  /-- The response cannot be packed. -/
  | failed {cause : EncodeError} {r' : Response} (hrecords : op.records = [])
      (hrun : op.run r = (.error cause, r')) (hleft : r' = r.counted ∨ r' = r)
  /-- The response is packed as it is. -/
  | packed {os : Octets} (hrecords : op.records = []) (hpack : r.pack.1 = .ok os)
      (hrun : op.run r = (.ok (some os), r.counted))
  /-- Some answers are left out and the others are packed. -/
  | cut {count : Nat} {os : Octets} (hop : op = .packTruncated) (hlt : count < r.answers.length)
      (hpack : (r.truncate count).pack.1 = .ok os)
      (hrun : op.run r = (.ok (some os), (r.truncate count).counted))

theorem outcome_of_pack (hrecords : op.records = []) (h : op.run r = (r.pack.1.map some, r.pack.2)) :
    op.Outcome r := by
  cases hpack : r.pack.1 with
  | ok os =>
    rw [hpack, Response.pack_left_of_ok hpack] at h
    exact .packed hrecords hpack h
  | error cause =>
    rw [hpack] at h
    exact .failed hrecords h (r.pack_left.imp And.right id)

theorem outcome (op : Operation) (r : Response) : op.Outcome r := by
  cases op with
  | add records => exact .added rfl
  | pack => exact outcome_of_pack rfl rfl
  | packTruncated =>
    cases r.shortening with
    | packed _ hresult => exact outcome_of_pack rfl (by rw [run, hresult])
    | @refused cause _ hresult =>
      have hrun : run .packTruncated r = (.error cause, r.pack.2) := by
        rw [run, hresult]
        rfl
      exact .failed rfl hrun (r.pack_left.imp And.right id)
    | cut _ hlt hpack hresult =>
      refine .cut rfl hlt hpack ?_
      rw [run, hresult, Response.pack_left_of_ok hpack, hpack]
      rfl

/-- An operation leaves out all but so many of the answers of a response and packs what is left. -/
structure CutsTo (op : Operation) (r : Response) (count : Nat) : Prop where
  eq_packTruncated : op = .packTruncated
  packs : ∃ os, (op.run r).1 = .ok (some os)
  lt_length : count < r.answers.length
  answers : (op.run r).2.answers = r.answers.take count

theorem sameBasis_run (op : Operation) (r : Response) : r.SameBasis (op.run r).2 := by
  cases op.outcome r with
  | added hrun =>
    rw [hrun]
    exact r.sameBasis_add _
  | failed _ hrun hleft =>
    rw [hrun]
    rcases hleft with rfl | rfl
    · exact r.sameBasis_counted
    · exact .refl _
  | packed _ _ hrun =>
    rw [hrun]
    exact r.sameBasis_counted
  | cut _ _ _ hrun =>
    rw [hrun]
    exact (r.sameBasis_truncate _).trans (Response.sameBasis_counted _)

theorem justPacked_run {os : Octets} (h : (op.run r).1 = .ok (some os)) :
    (op.run r).2.JustPacked os := by
  cases op.outcome r with
  | added hrun =>
    rw [hrun] at h
    cases h
  | failed _ hrun _ =>
    rw [hrun] at h
    cases h
  | packed _ hpack hrun =>
    rw [hrun] at h ⊢
    cases h
    exact Response.justPacked_counted hpack
  | cut _ _ hpack hrun =>
    rw [hrun] at h ⊢
    cases h
    exact Response.justPacked_counted hpack

/-- Either no answer is lost and the mark that answers are missing stays as it was, or answers are cut
and the mark is set. -/
theorem whole_or_cut (op : Operation) (r : Response) :
    ((op.run r).2.header.truncated = r.header.truncated ∧
      (op.run r).2.answers = r.answers ++ op.records) ∨
    ((op.run r).2.header.truncated = true ∧ ∃ count, op.CutsTo r count) := by
  cases op.outcome r with
  | added hrun =>
    left
    rw [hrun]
    exact ⟨rfl, rfl⟩
  | failed hrecords hrun hleft =>
    left
    rw [hrun, hrecords, List.append_nil]
    rcases hleft with rfl | rfl <;> exact ⟨rfl, rfl⟩
  | packed hrecords _ hrun =>
    left
    rw [hrun, hrecords, List.append_nil]
    exact ⟨rfl, rfl⟩
  | @cut count os hop hlt _ hrun =>
    have hanswers : (op.run r).2.answers = r.answers.take count := by
      rw [hrun]
      rfl
    right
    exact ⟨by rw [hrun]; rfl, count, hop, ⟨os, by rw [hrun]⟩, hlt, hanswers⟩

theorem CutsTo.truncated {count : Nat} (h : op.CutsTo r count) :
    (op.run r).2.header.truncated = true := by
  rcases op.whole_or_cut r with ⟨-, hwhole⟩ | ⟨hset, -⟩
  · -- the answers would be no fewer than before
    have hlength := congrArg List.length (h.answers.symm.trans hwhole)
    have hlt := h.lt_length
    rw [List.length_take, List.length_append] at hlength
    omega
  · exact hset

/-- What an operation makes of the response that it meets. -/
structure Conduct (op : Operation) (r : Response) : Prop where
  sameBasis : r.SameBasis (op.run r).2
  truncated : (op.run r).2.header.truncated = true ↔
    r.header.truncated = true ∨ ∃ count, op.CutsTo r count
  answers : (op.run r).2.answers = r.answers ++ op.records ∨ ∃ count, op.CutsTo r count
  answers_of_error : ∀ cause, (op.run r).1 = .error cause → (op.run r).2.answers = r.answers
  counted : ∀ os, (op.run r).1 = .ok (some os) →
    (op.run r).2.header.answerCount.toNat = (op.run r).2.answers.length ∧
      (os.drop 6).take 2 = Octets.ofNat 2 (op.run r).2.answers.length

theorem answers_of_error {cause : EncodeError} (h : (op.run r).1 = .error cause) :
    (op.run r).2.answers = r.answers := by
  cases op.outcome r with
  | failed _ hrun hleft =>
    rw [hrun]
    rcases hleft with rfl | rfl <;> rfl
  | added hrun =>
    rw [hrun] at h
    cases h
  | packed _ _ hrun =>
    rw [hrun] at h
    cases h
  | cut _ _ _ hrun =>
    rw [hrun] at h
    cases h

theorem conduct (op : Operation) (r : Response) : op.Conduct r where
  sameBasis := op.sameBasis_run r
  truncated := by
    constructor
    · intro h
      rcases op.whole_or_cut r with ⟨hsame, -⟩ | ⟨-, hcut⟩
      · exact .inl (hsame.symm.trans h)
      · exact .inr hcut
    · rintro (h | ⟨count, hcut⟩)
      · rcases op.whole_or_cut r with ⟨hsame, -⟩ | ⟨hset, -⟩
        · exact hsame.trans h
        · exact hset
      · exact hcut.truncated
  answers := by
    rcases op.whole_or_cut r with ⟨-, hwhole⟩ | ⟨-, hcut⟩
    · exact .inl hwhole
    · exact .inr hcut
  answers_of_error := fun _ herror => answers_of_error herror
  counted := by
    intro os hos
    have hpacked := justPacked_run hos
    exact ⟨hpacked.answerCount, hpacked.octets_answerCount⟩

/-! ## Any number of operations -/

/-- The response that operations leave. -/
def leftFrom (program : List Operation) (r : Response) : Response :=
  ((runAll program r).getLast?.map Prod.snd).getD r

theorem leftFrom_cons (op : Operation) (rest : List Operation) (r : Response) :
    leftFrom (op :: rest) r = leftFrom rest (op.run r).2 := by
  rw [leftFrom, leftFrom, runAll]
  simp only [List.getLast?_cons, Option.map_some, Option.getD_some]
  cases (runAll rest (op.run r).2).getLast? <;> rfl

end Operation

/-- What operations that add these records make of a response. -/
structure Response.Follows (r : Response) (added : List Record) (r' : Response) : Prop where
  sameBasis : r.SameBasis r'
  answers : r'.answers.Sublist (r.answers ++ added)
  truncated : r.header.truncated = true → r'.header.truncated = true
  whole : r'.header.truncated = false → r'.answers = r.answers ++ added

namespace Response

variable {r r' : Response} {added : List Record}

theorem Follows.refl (r : Response) : r.Follows [] r := by
  refine ⟨.refl r, ?_, id, fun _ => ?_⟩
  · rw [List.append_nil]
  · rw [List.append_nil]

theorem Follows.run (h : r.Follows added r') (op : Operation) :
    r.Follows (added ++ op.records) (op.run r').2 := by
  have hbasis := h.sameBasis.trans (op.sameBasis_run r')
  rcases op.whole_or_cut r' with ⟨htruncated, hwhole⟩ | ⟨htruncated, count, hcut⟩
  · refine ⟨hbasis, ?_, fun hr => ?_, fun hr => ?_⟩
    · rw [hwhole, ← List.append_assoc]
      exact h.answers.append (List.Sublist.refl _)
    · exact htruncated.trans (h.truncated hr)
    · rw [hwhole, h.whole (htruncated.symm.trans hr), List.append_assoc]
  · have hrecords : op.records = [] := by
      rw [hcut.eq_packTruncated]
      rfl
    refine ⟨hbasis, ?_, fun _ => htruncated, fun hr => ?_⟩
    · rw [hcut.answers, hrecords, List.append_nil]
      exact (List.take_sublist _ _).trans h.answers
    · rw [htruncated] at hr
      cases hr

theorem Follows.leftFrom (program : List Operation) (h : r.Follows added r') :
    r.Follows (added ++ program.flatMap Operation.records) (Operation.leftFrom program r') := by
  induction program generalizing added r' with
  | nil =>
    rw [List.flatMap_nil, List.append_nil]
    exact h
  | cons op rest ih =>
    have hrest := ih (h.run op)
    rw [Operation.leftFrom_cons, List.flatMap_cons, ← List.append_assoc]
    exact hrest

end Response

/-! ## Responses to queries -/

/-- The queries that there can be. -/
inductive Query.Obtained : Query → Prop where
  | decoded {datagram : Octets} {length : Nat} {q : Query} :
      decode datagram length = .ok q → Obtained q
  | asked (id : UInt16) (name : Name) (typeCode : TypeCode) : Obtained (ask id name typeCode)

theorem Query.Obtained.questionCount {q : Query} (h : q.Obtained) :
    q.header.questionCount = UInt16.ofNat q.questions.length := by
  cases h with
  | decoded hdecode => rw [(settled_of_decode hdecode).counted, UInt16.ofNat_toNat]
  | asked => rfl

theorem Header.withCounts_self {h : Header} (hauthority : h.authorityCount = 0)
    (hadditional : h.additionalCount = 0) : h.withCounts h.questionCount h.answerCount = h := by
  cases h
  cases hauthority
  cases hadditional
  rfl

theorem Header.encode_encode (h : Header) : Encoder.encode h.encode = .ok h.wire := by
  rw [(writes_encode h).encode_eq, WireForm.outcome_eq_ok]
  refine ⟨rfl, rfl, ?_⟩
  rw [WireForm.ofOctets, length_wire]
  decide

namespace Response

variable {r : Response} {q : Query} {os : Octets}

/-- The header of a response to a query is written as it is once the answers are counted. -/
theorem JustPacked.sentHeader_eq (h : r.JustPacked os) (hbasis : (ofQuery q).SameBasis r)
    (hq : q.Obtained) : r.sentHeader = r.header := by
  have hquestions : UInt16.ofNat r.questions.length = r.header.questionCount := by
    rw [hbasis.questions, hbasis.questionCount]
    exact hq.questionCount.symm
  rw [sentHeader, hquestions, ← h.counted]
  exact Header.withCounts_self hbasis.authorityCount hbasis.additionalCount

theorem JustPacked.encode_header (h : r.JustPacked os) (hbasis : (ofQuery q).SameBasis r)
    (hq : q.Obtained) : Encoder.encode r.header.encode = .ok (os.take 12) := by
  rw [h.octets, take_wire, h.sentHeader_eq hbasis hq, Header.encode_encode]

end Response

/-- Whatever operations have been done with a response, whether they succeeded or failed, its questions
and its header are what they were but for the mark that answers are missing and the number of answers; a
response without the mark has all the answers that were added. Each further operation does what `Conduct`
says. If the response was made for a query, the octets that are packed of it begin with its header. -/
theorem Operation.program_keeps_response (r₀ : Response) (program : List Operation) :
    r₀.Follows (program.flatMap records) (leftFrom program r₀) ∧
    (∀ op : Operation, op.Conduct (leftFrom program r₀)) ∧
    ∀ q : Query, q.Obtained → r₀ = Response.ofQuery q →
      ∀ (op : Operation) os, (op.run (leftFrom program r₀)).1 = .ok (some os) →
        Encoder.encode (op.run (leftFrom program r₀)).2.header.encode = .ok (os.take 12) := by
  have hfollows := (Response.Follows.refl r₀).leftFrom program
  rw [List.nil_append] at hfollows
  refine ⟨hfollows, fun op => op.conduct _, ?_⟩
  rintro q hq rfl op os hos
  exact (justPacked_run hos).encode_header (hfollows.run op).sameBasis hq

theorem Operation.program_keeps_crowded :
    ∃ q : Query, q.Obtained ∧ leftFrom [add Response.crowded.answers] (.ofQuery q) = .crowded ∧
    ∃ os, (packTruncated.run .crowded).1 = .ok (some os) ∧
      Encoder.encode (packTruncated.run .crowded).2.header.encode = .ok (os.take 12) := by
  have hleft : leftFrom [add Response.crowded.answers]
      (.ofQuery (.ask 7 Name.root TypeCode.address)) = .crowded := rfl
  obtain ⟨os, hos⟩ := (Response.packTruncated_ok_iff Response.crowded_valid).2 (by decide)
  have hrun : (packTruncated.run .crowded).1 = .ok (some os) := by
    rw [run, hos]
    rfl
  obtain ⟨-, -, hheader⟩ := program_keeps_response (.ofQuery (.ask 7 Name.root TypeCode.address))
    [add Response.crowded.answers]
  rw [hleft] at hheader
  exact ⟨_, .asked _ _ _, hleft, os, hrun, hheader _ (.asked _ _ _) rfl packTruncated os hrun⟩

end ZoneServer

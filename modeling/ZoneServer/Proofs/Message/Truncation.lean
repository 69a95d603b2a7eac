import Mathlib.Order.Bounds.Basic
import ZoneServer.Proofs.Message.Form

/-!
# Cutting a response short

`Response.packTruncated` writes a response twice: once to see how many answers fit, and once again with
only those. That the two agree rests on `Response.StopsAt`, which says where records that are written one
after another come to a stop: the records before that place can all be written and the one there cannot.
The place is the same in both runs, because headers of different counts take the same space.
-/

namespace ZoneServer

namespace Response

/-- A response with only its first answers. -/
def firstAnswers (r : Response) (count : Nat) : Response :=
  { r with answers := r.answers.take count }

/-- Whether a response can be packed. -/
def Packs (r : Response) : Prop := ∃ os, r.pack.1 = .ok os

/-- Records written from a position on come to a stop at the record with this index. -/
structure StopsAt (records : List Record) (position index : Nat) (cause : EncodeError) : Prop where
  lt_length : index < records.length
  before : ∃ os, (answersForm (records.take index)).outcome position = .ok os
  at_index : (answersForm (records.take (index + 1))).outcome position = .error cause

variable {records : List Record} {position index : Nat} {cause : EncodeError}

theorem stopsAt_zero {record : Record} (h : record.form.outcome position = .error cause)
    (hposition : position ≤ maxMessageSize) : StopsAt (record :: records) position 0 cause := by
  refine ⟨by simp, ⟨[], WireForm.outcome_ofOctets_nil hposition⟩, ?_⟩
  exact WireForm.outcome_append_eq_error.2 (.inl h)

theorem StopsAt.cons {record : Record} {os : Octets} (h : record.form.outcome position = .ok os)
    (hstop : StopsAt records (position + os.length) index cause) :
    StopsAt (record :: records) position (index + 1) cause := by
  obtain ⟨hlt, ⟨rest, hbefore⟩, hat⟩ := hstop
  refine ⟨by simpa using hlt, ⟨os ++ rest, ?_⟩, ?_⟩
  · exact WireForm.outcome_append_eq_ok.2 ⟨os, rest, h, hbefore, rfl⟩
  · exact WireForm.outcome_append_eq_error.2 (.inr ⟨os, h, hat⟩)

/-- The failure at the place where records stop is that of all of them together. -/
theorem StopsAt.outcome_eq (h : StopsAt records position index cause) :
    (answersForm records).outcome position = .error cause := by
  have hsplit : answersForm records = answersForm (records.take (index + 1)) ++
      answersForm (records.drop (index + 1)) := by
    rw [answersForm, answersForm, answersForm, ← WireForm.concat_append, ← List.map_append,
      List.take_append_drop]
  rw [hsplit]
  exact WireForm.outcome_append_eq_error.2 (.inl h.at_index)

/-- There is no room for more records than octets. -/
theorem StopsAt.index_le (h : StopsAt records position index cause) : index ≤ maxMessageSize := by
  obtain ⟨os, hos⟩ := h.before
  obtain ⟨hfault, -, hroom⟩ := WireForm.outcome_eq_ok.1 hos
  have hvalid := fault_answersForm.1 hfault
  have hcount := length_le_sum_map Record.one_le_wireLength (records.take index)
  have hlt := h.lt_length
  rw [answersForm_of_valid hvalid, WireForm.ofOctets, length_answers hvalid] at hroom
  rw [List.length_take, Nat.min_eq_left hlt.le] at hcount
  omega

/-! ## How many answers fit -/

/-- What comes of writing records for as long as they fit. -/
inductive Fitting (records : List Record) (b : Buffer) : Prop where
  /-- All of them fit. -/
  | all {os : Octets} {b' : Buffer}
      (houtcome : (answersForm records).outcome b.position = .ok os)
      (hrun : encodeFitting records b = .ok records.length b')
  /-- One of them does not fit. -/
  | cut {index : Nat} {b' : Buffer} (hstop : StopsAt records b.position index .bufferFull)
      (hrun : encodeFitting records b = .ok index b')
  /-- One of them has a fault. -/
  | refused {index : Nat} {cause : EncodeError} {b' : Buffer} (hcause : cause ≠ .bufferFull)
      (hstop : StopsAt records b.position index cause)
      (hrun : encodeFitting records b = .error cause b')

theorem encodeFitting_cases (records : List Record) {b : Buffer} (hb : b.WellFormed) :
    Fitting records b := by
  induction records generalizing b with
  | nil => exact .all (WireForm.outcome_ofOctets_nil hb.position_le) rfl
  | cons record records ih =>
    have hwrites := Record.writes_encode record
    cases hout : record.form.outcome b.position with
    | error cause =>
      obtain ⟨b', he, -⟩ := hwrites.error hb hout
      have hstop : StopsAt (record :: records) b.position 0 cause :=
        stopsAt_zero hout hb.position_le
      by_cases hcause : cause = .bufferFull
      · subst hcause
        exact .cut hstop (by rw [encodeFitting, he])
      · have hrefused : encodeFitting (record :: records) b = .error cause b' := by
          rw [encodeFitting, he]
          cases cause <;> first | rfl | exact absurd rfl hcause
        exact .refused hcause hstop hrefused
    | ok os =>
      have he := hwrites.ok hb hout
      obtain ⟨-, rfl, hroom⟩ := WireForm.outcome_eq_ok.1 hout
      have hnext : encodeFitting (record :: records) b =
          EStateM.map (· + 1) (encodeFitting records) (b.append record.form.octets) := by
        rw [encodeFitting, he]
      cases ih (hb.append hroom) with
      | @all _ b' houtcome hrun =>
        have hall : encodeFitting (record :: records) b = .ok (record :: records).length b' := by
          rw [hnext, EStateM.map, hrun, List.length_cons]
        exact .all (WireForm.outcome_append_eq_ok.2 ⟨_, _, hout, houtcome, rfl⟩) hall
      | @cut index b' hstop hrun =>
        have hcut : encodeFitting (record :: records) b = .ok (index + 1) b' := by
          rw [hnext, EStateM.map, hrun]
        exact .cut (hstop.cons hout) hcut
      | @refused _ cause b' hcause hstop hrun =>
        have hrefused : encodeFitting (record :: records) b = .error cause b' := by
          rw [hnext, EStateM.map, hrun]
        exact .refused hcause (hstop.cons hout) hrefused

variable {r : Response} {message : Octets}

theorem fitting_of_message_error
    (h : (r.toMessage.form 0).outcome 0 = .error cause) : r.fitting = .error cause := by
  obtain ⟨b', he, -⟩ := (Message.writes_encode r.toMessage 0).error Buffer.wellFormed_empty h
  have hrun : (do r.toMessage.encode 0; encodeFitting r.answers : Encoder Nat) Buffer.empty =
      .error cause b' := Wire.bind_eq_error.2 (.inl he)
  rw [fitting]
  simp only [hrun]

theorem fitting_of_message (h : (r.toMessage.form 0).outcome 0 = .ok message) :
    r.fitting = match encodeFitting r.answers (Buffer.empty.append message) with
      | .ok count _ => .ok count
      | .error cause _ => .error cause := by
  have he := (Message.writes_encode r.toMessage 0).ok Buffer.wellFormed_empty h
  have hrun : (do r.toMessage.encode 0; encodeFitting r.answers : Encoder Nat) Buffer.empty =
      encodeFitting r.answers (Buffer.empty.append message) := by
    simp only [bind, EStateM.bind, he]
  rw [fitting]
  cases hfitting : encodeFitting r.answers (Buffer.empty.append message) with
  | ok count b' => simp only [hrun, hfitting]
  | error cause b' => simp only [hrun, hfitting]

/-! ## Packing with fewer answers -/

theorem packs_iff : r.Packs ↔ ∃ os, r.form.outcome 0 = .ok os := by
  simp only [Packs, pack_eq_ok, outcome_form_eq_ok]

/-- The space that the header and the questions take is the same for all numbers of answers. -/
theorem outcome_message_form (h : (r.toMessage.form 0).outcome 0 = .ok message)
    (answerCount : UInt16) : ∃ os, (r.toMessage.form answerCount).outcome 0 = .ok os ∧
      os.length = message.length := by
  obtain ⟨hvalid, hroom, rfl⟩ := Message.outcome_form_eq_ok.1 h
  refine ⟨_, Message.outcome_form_eq_ok.2 ⟨hvalid, hroom, rfl⟩, ?_⟩
  rw [Message.length_wire hvalid, Message.length_wire hvalid]

theorem packs_firstAnswers_iff (h : (r.toMessage.form 0).outcome 0 = .ok message) {count : Nat} :
    (r.firstAnswers count).Packs ↔
      ∃ os, (answersForm (r.answers.take count)).outcome message.length = .ok os := by
  obtain ⟨first, hfirst, hlen⟩ := outcome_message_form h (UInt16.ofNat (r.answers.take count).length)
  rw [packs_iff]
  constructor
  · rintro ⟨_, hos⟩
    obtain ⟨first', rest, hfirst', hrest, -⟩ := WireForm.outcome_append_eq_ok.1 hos
    have hsame : first' = first := Except.ok.inj (hfirst'.symm.trans hfirst)
    rw [hsame, hlen, Nat.zero_add] at hrest
    exact ⟨rest, hrest⟩
  · rintro ⟨rest, hrest⟩
    refine ⟨_, WireForm.outcome_append_eq_ok.2 ⟨first, rest, hfirst, ?_, rfl⟩⟩
    rwa [hlen, Nat.zero_add]

theorem pack_firstAnswers_of_error (h : (r.toMessage.form 0).outcome 0 = .ok message) {count : Nat}
    (hcount : count ≤ maxSectionCount)
    (herror : (answersForm (r.answers.take count)).outcome message.length = .error cause) :
    (r.firstAnswers count).pack.1 = .error cause := by
  obtain ⟨first, hfirst, hlen⟩ := outcome_message_form h (UInt16.ofNat (r.answers.take count).length)
  have hlength : (r.firstAnswers count).answers.length ≤ maxSectionCount :=
    (List.length_take_le count r.answers).trans hcount
  rw [pack_eq, if_pos hlength]
  refine WireForm.outcome_append_eq_error.2 (.inr ⟨first, hfirst, ?_⟩)
  rwa [hlen, Nat.zero_add]

theorem outcome_take_of_le {fewer more : Nat} (hle : fewer ≤ more)
    (h : ∃ os, (answersForm (records.take more)).outcome position = .ok os) :
    ∃ os, (answersForm (records.take fewer)).outcome position = .ok os := by
  obtain ⟨os, hos⟩ := h
  have hsplit : answersForm (records.take more) = answersForm (records.take fewer) ++
      answersForm ((records.take more).drop fewer) := by
    have htake := List.take_append_drop fewer (records.take more)
    rw [List.take_take, Nat.min_eq_left hle] at htake
    rw [answersForm, answersForm, answersForm, ← WireForm.concat_append, ← List.map_append, htake]
  rw [hsplit] at hos
  obtain ⟨first, -, hfirst, -⟩ := WireForm.outcome_append_eq_ok.1 hos
  exact ⟨first, hfirst⟩

/-- The answers before the place where they come to a stop are the most that can be packed. -/
theorem StopsAt.isGreatest (h : (r.toMessage.form 0).outcome 0 = .ok message)
    (hstop : StopsAt r.answers message.length index cause) :
    IsGreatest {count | count ≤ r.answers.length ∧ (r.firstAnswers count).Packs} index := by
  refine ⟨⟨hstop.lt_length.le, (packs_firstAnswers_iff h).2 hstop.before⟩, ?_⟩
  rintro count ⟨-, hpacks⟩
  by_contra hlt
  obtain ⟨os, hos⟩ := outcome_take_of_le (by omega : index + 1 ≤ count)
    ((packs_firstAnswers_iff h).1 hpacks)
  rw [hstop.at_index] at hos
  cases hos

/-! ## What is left of a response -/

/-- Two responses have the same answers and agree on whether answers are missing. -/
def SameAnswers (r r' : Response) : Prop :=
  r'.answers = r.answers ∧ r'.header.truncated = r.header.truncated

/-- Packing counts the answers or, if they are too many, leaves the response as it was. -/
theorem pack_left (r : Response) :
    (r.answers.length ≤ maxSectionCount ∧ r.pack.2 = r.counted) ∨ r.pack.2 = r := by
  rw [pack]
  split
  · rename_i hcount
    exact .inl ⟨hcount, rfl⟩
  · exact .inr rfl

theorem sameAnswers_pack (r : Response) : r.SameAnswers r.pack.2 := by
  rw [pack]
  split <;> exact ⟨rfl, rfl⟩

/-- Packing once more gives the same octets and changes nothing. -/
theorem pack_of_pack_eq_ok {r' : Response} {os : Octets} (h : r.pack = (.ok os, r')) :
    r'.pack = (.ok os, r') := by
  rw [pack_eq] at h
  split at h
  · rename_i hcount
    obtain ⟨hform, rfl⟩ := Prod.mk.inj h
    rw [pack_eq, if_pos (by exact hcount)]
    exact congrArg (·, r.counted) hform
  · cases (Prod.mk.inj h).1

theorem packTruncated_of_ne (h : r.pack.1 ≠ .error .bufferFull) : r.packTruncated = r.pack := by
  unfold packTruncated
  split
  · rename_i hpack
    exact absurd (congrArg Prod.fst hpack) h
  · rfl

theorem packTruncated_of_full (h : r.pack.1 = .error .bufferFull) :
    r.packTruncated = match r.fitting with
      | .ok count => (r.truncate count).pack
      | .error cause => (.error cause, r.pack.2) := by
  have hpack : r.pack = (.error .bufferFull, r.pack.2) := Prod.ext h rfl
  -- the count that the first run left in the header is not looked at by the second
  have hfitting : r.pack.2.fitting = r.fitting := by
    rcases r.pack_left with ⟨-, hleft⟩ | hleft <;> rw [hleft]
    rfl
  have htruncate : ∀ count, (r.pack.2.truncate count).pack = (r.truncate count).pack := by
    intro count
    rcases r.pack_left with ⟨hcount, hleft⟩ | hleft
    · have hfewer : (r.answers.take count).length ≤ maxSectionCount :=
        (List.length_take_le' count r.answers).trans hcount
      rw [hleft, pack_eq, pack_eq, if_pos (by exact hfewer), if_pos (by exact hfewer)]
      rfl
    · rw [hleft]
  unfold packTruncated
  rw [hpack]
  cases hcount : r.fitting with
  | ok count => simp only [hfitting, hcount, htruncate]
  | error cause => simp only [hfitting, hcount]

/-- `r` is cut short to `count` answers, and `os` are the octets of what is left. -/
structure CutTo (r : Response) (count : Nat) (os : Octets) : Prop where
  /-- No more answers can be packed. -/
  isGreatest : IsGreatest {count | count ≤ r.answers.length ∧ (r.firstAnswers count).Packs} count
  lt_length : count < r.answers.length
  pack_truncate : (r.truncate count).pack.1 = .ok os
  result : r.packTruncated.1 = .ok os
  answers : r.packTruncated.2.answers = r.answers.take count
  truncated : r.packTruncated.2.header.truncated = true
  answerCount : r.packTruncated.2.header.answerCount.toNat = count

/-- `r` is not cut short because of the fault that is the first among its leading answers. -/
structure RefusedAt (r : Response) (index : Nat) (cause : EncodeError) : Prop where
  lt_length : index < r.answers.length
  before : (r.firstAnswers index).Packs
  at_index : (r.firstAnswers (index + 1)).pack.1 = .error cause
  ne_bufferFull : cause ≠ .bufferFull
  result : r.packTruncated.1 = .error cause
  sameAnswers : r.SameAnswers r.packTruncated.2

theorem packs_truncate_iff {count : Nat} : (r.truncate count).Packs ↔ (r.firstAnswers count).Packs := by
  -- the mark in the header takes no space
  simp only [packs_iff, outcome_form_eq_ok]
  constructor
  · rintro ⟨_, hvalid, hroom, -⟩
    exact ⟨_, ⟨hvalid.message, hvalid.answers⟩, hroom, rfl⟩
  · rintro ⟨_, hvalid, hroom, -⟩
    exact ⟨_, ⟨hvalid.message, hvalid.answers⟩, hroom, rfl⟩

/-- The number of answers that fit can be packed. -/
theorem packs_truncate_of_fitting {count : Nat} (h : r.fitting = .ok count) :
    (r.truncate count).Packs := by
  rw [packs_truncate_iff]
  cases hmessage : (r.toMessage.form 0).outcome 0 with
  | error cause =>
    rw [fitting_of_message_error hmessage] at h
    cases h
  | ok message =>
    have hroom := WireForm.room_of_outcome hmessage
    rw [fitting_of_message hmessage] at h
    rw [packs_firstAnswers_iff hmessage]
    have hposition : (Buffer.empty.append message).position = message.length := Nat.zero_add _
    cases encodeFitting_cases r.answers (Buffer.wellFormed_empty.append hroom) with
    | all houtcome hrun =>
      rw [hrun] at h
      cases h
      rw [List.take_length, ← hposition]
      exact ⟨_, houtcome⟩
    | cut hstop hrun =>
      rw [hrun] at h
      cases h
      rw [← hposition]
      exact hstop.before
    | refused _ _ hrun =>
      rw [hrun] at h
      cases h

/-- What is cut short is cut at the place where the answers stop for want of space. -/
theorem cutTo_of_stopsAt (hfull : r.pack.1 = .error .bufferFull)
    (hmessage : (r.toMessage.form 0).outcome 0 = .ok message)
    (hstop : StopsAt r.answers message.length index .bufferFull)
    (hfitting : r.fitting = .ok index) : ∃ os, r.CutTo index os := by
  obtain ⟨os, hos⟩ := packs_truncate_of_fitting hfitting
  have hresult : r.packTruncated = (r.truncate index).pack := by
    rw [packTruncated_of_full hfull, hfitting]
  have hlength : (r.answers.take index).length = index := by
    rw [List.length_take, Nat.min_eq_left hstop.lt_length.le]
  have hcount : (r.truncate index).answers.length ≤ maxSectionCount :=
    hlength.trans_le (hstop.index_le.trans (by decide))
  have hleft : r.packTruncated.2 = (r.truncate index).counted := by
    rw [hresult, pack_eq, if_pos hcount]
  refine ⟨os, hstop.isGreatest hmessage, hstop.lt_length, hos, ?_, ?_, ?_, ?_⟩
  · rw [hresult, hos]
  · rw [hleft]
    rfl
  · rw [hleft]
    rfl
  · rw [hleft]
    show (UInt16.ofNat (r.answers.take index).length).toNat = index
    rw [hlength, UInt16.toNat_ofNat_of_lt' (lt_of_le_of_lt hstop.index_le (by decide))]

/-- A fault among the answers that fit is returned if there are too many answers to be packed. -/
theorem refusedAt_of_stopsAt (hfull : r.pack.1 = .error .bufferFull)
    (hmessage : (r.toMessage.form 0).outcome 0 = .ok message)
    (hstop : StopsAt r.answers message.length index cause) (hcause : cause ≠ .bufferFull)
    (hfitting : r.fitting = .error cause) : r.RefusedAt index cause := by
  have hresult : r.packTruncated = (.error cause, r.pack.2) := by
    rw [packTruncated_of_full hfull, hfitting]
  have hcount : index + 1 ≤ maxSectionCount := by
    have hle := hstop.index_le
    simp only [maxMessageSize, maxSectionCount] at hle ⊢
    omega
  refine ⟨hstop.lt_length, (packs_firstAnswers_iff hmessage).2 hstop.before,
    pack_firstAnswers_of_error hmessage hcount hstop.at_index, hcause, ?_, ?_⟩
  · rw [hresult]
  · rw [hresult]
    exact sameAnswers_pack r

/-- With few answers, what comes of them all together is what comes of packing. -/
theorem outcome_answersForm_of_full (hfull : r.pack.1 = .error .bufferFull)
    (hmessage : (r.toMessage.form 0).outcome 0 = .ok message)
    (hcount : r.answers.length ≤ maxSectionCount) :
    (answersForm r.answers).outcome message.length = .error .bufferFull := by
  obtain ⟨first, hfirst, hlen⟩ := outcome_message_form hmessage (UInt16.ofNat r.answers.length)
  rw [pack_eq, if_pos hcount] at hfull
  rcases WireForm.outcome_append_eq_error.1 hfull with h | ⟨first', hfirst', hanswers⟩
  · rw [hfirst] at h
    cases h
  · have hsame : first' = first := Except.ok.inj (hfirst'.symm.trans hfirst)
    rwa [hsame, hlen, Nat.zero_add] at hanswers

/-- Nothing but the space or the number of the answers stands in the way of a response whose header and
questions can be written. -/
theorem cut_or_refused (hfull : r.pack.1 = .error .bufferFull)
    (hmessage : (r.toMessage.form 0).outcome 0 = .ok message) :
    (∃ count os, r.CutTo count os) ∨
      (maxSectionCount < r.answers.length ∧ ∃ index cause, r.RefusedAt index cause) := by
  have hroom := WireForm.room_of_outcome hmessage
  have hposition : (Buffer.empty.append message).position = message.length := Nat.zero_add _
  cases encodeFitting_cases r.answers (Buffer.wellFormed_empty.append hroom) with
  | all houtcome hrun =>
    exfalso
    rw [hposition] at houtcome
    have hpacks : (r.firstAnswers r.answers.length).Packs :=
      (packs_firstAnswers_iff hmessage).2 (by rw [List.take_length]; exact ⟨_, houtcome⟩)
    obtain ⟨os, hos⟩ := hpacks
    rw [firstAnswers, List.take_length] at hos
    exact absurd (hfull.symm.trans hos) (by simp)
  | cut hstop hrun =>
    rw [hposition] at hstop
    have hfitting := fitting_of_message hmessage
    rw [hrun] at hfitting
    obtain ⟨os, hcut⟩ := cutTo_of_stopsAt hfull hmessage hstop hfitting
    exact .inl ⟨_, os, hcut⟩
  | refused hcause hstop hrun =>
    rw [hposition] at hstop
    have hfitting := fitting_of_message hmessage
    rw [hrun] at hfitting
    refine .inr ⟨?_, _, _, refusedAt_of_stopsAt hfull hmessage hstop hcause hfitting⟩
    by_contra hcount
    have hall := outcome_answersForm_of_full hfull hmessage (Nat.not_lt.1 hcount)
    exact hcause (Except.error.inj (hstop.outcome_eq.symm.trans hall))

/-- Not all answers fit if they are too many to be packed. -/
theorem lt_length_of_fitting {count : Nat} (hfull : r.pack.1 = .error .bufferFull)
    (h : r.fitting = .ok count) : count < r.answers.length := by
  by_contra hle
  obtain ⟨os, hos⟩ := packs_truncate_iff.1 (packs_truncate_of_fitting h)
  rw [firstAnswers, List.take_of_length_le (Nat.not_lt.1 hle)] at hos
  exact absurd (hfull.symm.trans hos) (by simp)

/-- What comes of packing a response that may be cut short. -/
inductive Shortening (r : Response) : Prop where
  /-- It is packed as it is. -/
  | packed (hfull : r.pack.1 ≠ .error .bufferFull) (hresult : r.packTruncated = r.pack)
  /-- Leaving out answers does not help. -/
  | refused {cause : EncodeError} (hfull : r.pack.1 = .error .bufferFull)
      (hresult : r.packTruncated = (.error cause, r.pack.2))
  /-- Some answers are left out. -/
  | cut {count : Nat} {os : Octets} (hfull : r.pack.1 = .error .bufferFull)
      (hlt : count < r.answers.length) (hpack : (r.truncate count).pack.1 = .ok os)
      (hresult : r.packTruncated = (r.truncate count).pack)

theorem shortening (r : Response) : r.Shortening := by
  by_cases hfull : r.pack.1 = .error .bufferFull
  · have hresult := packTruncated_of_full hfull
    cases hfitting : r.fitting with
    | ok count =>
      rw [hfitting] at hresult
      obtain ⟨os, hpack⟩ := packs_truncate_of_fitting hfitting
      exact .cut hfull (lt_length_of_fitting hfull hfitting) hpack hresult
    | error cause =>
      rw [hfitting] at hresult
      exact .refused hfull hresult
  · exact .packed hfull (packTruncated_of_ne hfull)

/-- What a response packs to, cut short or not, is what it packs to from then on. -/
theorem packTruncated_of_packTruncated_eq_ok {r' : Response} {os : Octets}
    (h : r.packTruncated = (.ok os, r')) : r'.packTruncated = (.ok os, r') := by
  have hpacked : ∃ r₀ : Response, r₀.pack = (.ok os, r') := by
    cases r.shortening with
    | packed _ hresult => exact ⟨r, hresult.symm.trans h⟩
    | refused _ hresult =>
      rw [hresult] at h
      cases (Prod.mk.inj h).1
    | cut _ _ _ hresult => exact ⟨_, hresult.symm.trans h⟩
  obtain ⟨r₀, hr₀⟩ := hpacked
  have hagain := pack_of_pack_eq_ok hr₀
  rw [packTruncated_of_ne (by rw [hagain]; simp), hagain]

/-- Truncation keeps the longest prefix of the answers that can be packed. If there is no need to cut,
the response is packed as it is; if the header and the questions cannot be written, that is the error;
else the response is cut to as many answers as can be packed, unless a fault is found among more answers
than can be counted. Packing what is left never fails, and truncating again changes nothing. -/
theorem packTruncated_keeps_longest_prefix (r : Response) :
    (r.pack.1 ≠ .error .bufferFull →
      r.packTruncated.1 = r.pack.1 ∧ r.SameAnswers r.packTruncated.2) ∧
    (r.pack.1 = .error .bufferFull →
      (∀ cause, Encoder.encode (r.toMessage.encode 0) = .error cause →
        r.packTruncated.1 = .error cause ∧ r.SameAnswers r.packTruncated.2) ∧
      ((∃ os, Encoder.encode (r.toMessage.encode 0) = .ok os) →
        (r.answers.length ≤ maxSectionCount → ∃ count os, r.CutTo count os) ∧
        (maxSectionCount < r.answers.length →
          (∃ count os, r.CutTo count os) ∨ ∃ index cause, r.RefusedAt index cause))) ∧
    (∀ count, r.fitting = .ok count → (r.truncate count).Packs) ∧
    (∀ os r', r.packTruncated = (.ok os, r') → r'.packTruncated = (.ok os, r')) := by
  have hencode := (Message.writes_encode r.toMessage 0).encode_eq
  refine ⟨fun hne => ?_, fun hfull => ⟨fun cause herror => ?_, ?_⟩,
    fun count hfitting => packs_truncate_of_fitting hfitting,
    fun os r' h => packTruncated_of_packTruncated_eq_ok h⟩
  · rw [packTruncated_of_ne hne]
    exact ⟨rfl, sameAnswers_pack r⟩
  · rw [hencode] at herror
    rw [packTruncated_of_full hfull, fitting_of_message_error herror]
    exact ⟨rfl, sameAnswers_pack r⟩
  · rintro ⟨message, hmessage⟩
    rw [hencode] at hmessage
    rcases cut_or_refused hfull hmessage with hcut | ⟨hcount, hrefused⟩
    · exact ⟨fun _ => hcut, fun _ => .inl hcut⟩
    · exact ⟨fun hle => absurd hcount (Nat.not_lt.2 hle), fun _ => .inr hrefused⟩

/-- A response with more answers than fit. -/
def crowded : Response :=
  { ofQuery (Query.ask 7 Name.root TypeCode.address) with
    answers := List.replicate 60 (Record.ofPayload Name.root 60 (.other 16 [])) }

theorem crowded_valid : crowded.Valid := by
  have hroot : Name.root.Valid := ⟨by decide, by decide⟩
  refine ⟨?_, ?_⟩
  · intro q hq
    rw [List.mem_singleton.1 hq]
    exact hroot
  · intro record hrecord
    rw [List.eq_of_mem_replicate hrecord]
    exact ⟨hroot, trivial⟩

theorem packTruncated_crowded :
    crowded.pack.1 = .error .bufferFull ∧ ∃ count os, crowded.CutTo count os := by
  have hfull : crowded.pack.1 = .error .bufferFull := by
    rw [pack_of_valid crowded_valid, if_neg (by decide)]
  have hencode : Encoder.encode (crowded.toMessage.encode 0) = .ok (crowded.toMessage.wire 0) := by
    rw [(Message.writes_encode _ _).encode_eq]
    exact Message.outcome_form_eq_ok.2 ⟨crowded_valid.message, by decide, rfl⟩
  obtain ⟨-, hcut, -⟩ := packTruncated_keeps_longest_prefix crowded
  exact ⟨hfull, ((hcut hfull).2 ⟨_, hencode⟩).1 (by decide)⟩

/-! ## Valid responses -/

/-- The numbers of answers with which a response fits. -/
def roomFor (r : Response) : Set Nat :=
  {count | count ≤ r.answers.length ∧ (r.firstAnswers count).wireLength ≤ maxMessageSize}

/-- The same response with only its first answers, marked as truncated if this leaves any out. -/
def cut (r : Response) (count : Nat) : Response :=
  { r with
    header := { r.header with
      truncated := r.header.truncated || decide (count < r.answers.length) }
    answers := r.answers.take count }

theorem cut_valid (h : r.Valid) (count : Nat) : (r.cut count).Valid :=
  ⟨h.message, fun record hrecord => h.answers record (List.mem_of_mem_take hrecord)⟩

theorem firstAnswers_valid (h : r.Valid) (count : Nat) : (r.firstAnswers count).Valid :=
  ⟨h.message, fun record hrecord => h.answers record (List.mem_of_mem_take hrecord)⟩

theorem cut_length (r : Response) : r.cut r.answers.length = r := by
  simp only [cut, List.take_length, Nat.lt_irrefl, decide_false, Bool.or_false]

theorem cut_of_lt {count : Nat} (h : count < r.answers.length) : r.cut count = r.truncate count := by
  simp only [cut, truncate, h, decide_true, Bool.or_true]

theorem packs_of_valid (h : r.Valid) : r.Packs ↔ r.wireLength ≤ maxMessageSize := by
  constructor
  · rintro ⟨os, hos⟩
    exact (pack_eq_ok.1 hos).2.1
  · intro hroom
    exact ⟨_, pack_eq_ok.2 ⟨h, hroom, rfl⟩⟩

/-- No answer of a valid response has a fault of its own. -/
theorem not_refusedAt_of_valid (h : r.Valid) : ¬ r.RefusedAt index cause := by
  intro hrefused
  have hpack := pack_of_valid (firstAnswers_valid h (index + 1))
  rw [hrefused.at_index] at hpack
  split at hpack
  · cases hpack
  · exact hrefused.ne_bufferFull (Except.error.inj hpack)

/-- A valid response is cut to as many answers as there is room for. -/
theorem packTruncated_of_valid (h : r.Valid) (hroom : r.toMessage.wireLength ≤ maxMessageSize) :
    ∃ count, IsGreatest r.roomFor count ∧ r.packTruncated.1 = .ok (r.cut count).wire := by
  by_cases hall : r.wireLength ≤ maxMessageSize
  · have hpack := pack_eq_ok.2 ⟨h, hall, rfl⟩
    refine ⟨r.answers.length, ⟨⟨le_rfl, ?_⟩, fun count hcount => hcount.1⟩, ?_⟩
    · rwa [firstAnswers, List.take_length]
    · rw [packTruncated_of_ne (by rw [hpack]; simp), cut_length, hpack]
  · have hfull : r.pack.1 = .error .bufferFull := by rw [pack_of_valid h, if_neg hall]
    have hmessage := Message.outcome_wire h.message hroom 0
    rcases cut_or_refused hfull hmessage with ⟨count, os, hcut⟩ | ⟨-, index, cause, hrefused⟩
    · obtain ⟨-, -, rfl⟩ := pack_eq_ok.1 hcut.pack_truncate
      refine ⟨count, ?_, ?_⟩
      · have hgreatest := hcut.isGreatest
        simp only [packs_of_valid (firstAnswers_valid h _)] at hgreatest
        exact hgreatest
      · rw [hcut.result, cut_of_lt hcut.lt_length]
    · exact absurd hrefused (not_refusedAt_of_valid h)

/-- Questions that do not fit cannot be cut. -/
theorem packTruncated_of_lt (h : r.Valid) (hfull : maxMessageSize < r.toMessage.wireLength) :
    r.packTruncated.1 = .error .bufferFull := by
  have hall : ¬ r.wireLength ≤ maxMessageSize := by
    rw [wireLength]
    omega
  have hpack : r.pack.1 = .error .bufferFull := by rw [pack_of_valid h, if_neg hall]
  have hmessage := Message.outcome_form_of_valid h.message hfull 0
  rw [packTruncated_of_full hpack, fitting_of_message_error hmessage]

theorem packTruncated_ok_iff (h : r.Valid) :
    (∃ os, r.packTruncated.1 = .ok os) ↔ r.toMessage.wireLength ≤ maxMessageSize := by
  constructor
  · rintro ⟨os, hos⟩
    by_contra hfull
    rw [packTruncated_of_lt h (Nat.not_le.1 hfull)] at hos
    cases hos
  · intro hroom
    obtain ⟨count, -, hpack⟩ := packTruncated_of_valid h hroom
    exact ⟨_, hpack⟩

end Response

end ZoneServer

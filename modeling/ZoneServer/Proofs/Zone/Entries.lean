import ZoneServer.Proofs.Record.Reads
import ZoneServer.Zone

/-!
# What the entries of a zone describe

An entry that is accepted describes exactly one record (`ZoneEntry.described`), and that record may be
written. A zone has the records of its entries in their order, and a question is answered by those of
them that have its type and, but for the case of ASCII letters, its name.
-/

namespace ZoneServer

variable {ε α β : Type}

theorem except_bind_eq_ok {x : Except ε α} {f : α → Except ε β} {b : β} :
    (x >>= f) = .ok b ↔ ∃ a, x = .ok a ∧ f a = .ok b := by
  cases x with
  | error e =>
    constructor
    · intro h
      cases h
    · rintro ⟨a, ha, -⟩
      cases ha
  | ok a =>
    constructor
    · intro h
      exact ⟨a, rfl, h⟩
    · rintro ⟨a', ha', h⟩
      cases ha'
      exact h

/-! ## Entries -/

/-- A text is accepted as a name exactly if the name may be written. -/
theorem Name.ofEntry_eq_ok {text : String} {name : Name} :
    Name.ofEntry text = .ok name ↔ name.Valid ∧ name = Name.ofString text := by
  unfold ofEntry
  split
  · rename_i os hencode
    have hvalid := (Name.encode_eq_ok.1 hencode).1
    constructor
    · intro h
      cases h
      exact ⟨hvalid, rfl⟩
    · rintro ⟨-, rfl⟩
      rfl
  · rename_i cause hencode
    constructor
    · intro h
      cases h
    · rintro ⟨hvalid, rfl⟩
      rw [Name.encode_eq_ok.2 ⟨hvalid, rfl⟩] at hencode
      cases hencode

theorem Name.bind_ofEntry_eq_ok {text : String} {f : Name → Payload} {p : Payload}
    (h : (do let name ← Name.ofEntry text; return f name) = .ok p) :
    p = f (Name.ofString text) ∧ (Name.ofString text).Valid := by
  obtain ⟨name, hname, hp⟩ := except_bind_eq_ok.1 h
  cases hp
  obtain ⟨hvalid, rfl⟩ := Name.ofEntry_eq_ok.1 hname
  exact ⟨rfl, hvalid⟩

namespace ZoneEntry

/-- The payload that an entry describes if it describes any. -/
def describedPayload (entry : ZoneEntry) : Payload :=
  match entry.kind with
  | .a => .address entry.value
  | .mx => .mailExchange (entry.preference.getD 0) (Name.ofString entry.value)
  | .ptr => .pointer (Name.ofString entry.value)
  | .cname => .canonicalName (Name.ofString entry.value)

/-- The record that an entry describes if it describes any. -/
def described (entry : ZoneEntry) : Record :=
  Record.ofPayload (Name.ofString entry.name) entry.ttl entry.describedPayload

theorem payload_eq_ok {entry : ZoneEntry} {p : Payload} (h : entry.payload = .ok p) :
    p = entry.describedPayload ∧ p.Valid ∧ p.Faithful := by
  unfold payload at h
  unfold describedPayload
  cases hkind : entry.kind with
  | a =>
    simp only [hkind] at h
    cases haddress : Ipv4.parse entry.value with
    | error cause => rw [haddress] at h; cases h
    | ok address =>
      rw [haddress] at h
      cases h
      exact ⟨rfl, ⟨address, Ipv4.parse_eq_ok.1 haddress⟩, trivial⟩
  | mx =>
    simp only [hkind] at h
    cases hpreference : entry.preference with
    | none => rw [hpreference] at h; cases h
    | some preference =>
      rw [hpreference] at h
      obtain ⟨rfl, hvalid⟩ := Name.bind_ofEntry_eq_ok h
      exact ⟨rfl, hvalid, trivial⟩
  | ptr =>
    simp only [hkind] at h
    obtain ⟨rfl, hvalid⟩ := Name.bind_ofEntry_eq_ok h
    exact ⟨rfl, hvalid, trivial⟩
  | cname =>
    simp only [hkind] at h
    obtain ⟨rfl, hvalid⟩ := Name.bind_ofEntry_eq_ok h
    exact ⟨rfl, hvalid, trivial⟩

/-- An entry for a host is refused for the text of its address if that spells none. -/
theorem payload_of_unreadable {entry : ZoneEntry} (hkind : entry.kind = .a)
    (htext : Ipv4.ofString? entry.value = none) :
    entry.payload = .error (.invalidAddress entry.name (.invalidAddress entry.value)) := by
  rw [payload, hkind]
  simp only [Ipv4.parse_eq_error.2 ⟨htext, rfl⟩]

/-- An entry that is accepted describes a record that may be written. -/
theorem record_eq_ok {entry : ZoneEntry} {record : Record} (h : entry.record = .ok record) :
    record = entry.described ∧ record.Valid ∧ record.payload.Faithful := by
  obtain ⟨owner, howner, hrest⟩ := except_bind_eq_ok.1 h
  obtain ⟨p, hp, hrecord⟩ := except_bind_eq_ok.1 hrest
  cases hrecord
  obtain ⟨hname, rfl⟩ := Name.ofEntry_eq_ok.1 howner
  obtain ⟨rfl, hvalid, hfaithful⟩ := payload_eq_ok hp
  exact ⟨rfl, ⟨hname, hvalid⟩, hfaithful⟩

end ZoneEntry

/-! ## Zones -/

namespace Zone

theorem recordsOf_eq_ok {entries : List ZoneEntry} {records : List Record}
    (h : recordsOf entries = .ok records) :
    records = entries.map ZoneEntry.described ∧
      ∀ record ∈ records, record.Valid ∧ record.payload.Faithful := by
  induction entries generalizing records with
  | nil =>
    cases h
    exact ⟨rfl, fun record hrecord => (by cases hrecord)⟩
  | cons entry entries ih =>
    obtain ⟨first, hfirst, hbind⟩ := except_bind_eq_ok.1 h
    obtain ⟨rest, hrest, hrecords⟩ := except_bind_eq_ok.1 hbind
    cases hrecords
    obtain ⟨rfl, hvalid⟩ := ZoneEntry.record_eq_ok hfirst
    obtain ⟨rfl, hall⟩ := ih hrest
    exact ⟨rfl, List.forall_mem_cons.2 ⟨hvalid, hall⟩⟩

theorem ofEntries_eq_ok {entries : List ZoneEntry} {zone : Zone} (h : ofEntries entries = .ok zone) :
    zone.records = entries.map ZoneEntry.described ∧
      ∀ record ∈ zone.records, record.Valid ∧ record.payload.Faithful := by
  obtain ⟨records, hrecords, hzone⟩ := except_bind_eq_ok.1 h
  cases hzone
  exact recordsOf_eq_ok hrecords

end Zone

/-- The records that answer the questions of a query: for each question, those of its type whose owner
has its name, whatever the case of ASCII letters. -/
def Query.matching (q : Query) (records : List Record) : List Record :=
  q.questions.flatMap fun question => records.filter fun record =>
    record.typeCode = question.typeCode ∧ record.owner.folded = question.name.folded

theorem Query.mem_of_mem_matching {q : Query} {records : List Record} {record : Record}
    (h : record ∈ q.matching records) : record ∈ records := by
  obtain ⟨question, -, hrecord⟩ := List.mem_flatMap.1 h
  exact (List.mem_filter.1 hrecord).1

namespace Zone

theorem answers_eq (question : Question) (record : Record) :
    answers question record = decide (record.typeCode = question.typeCode ∧
      record.owner.folded = question.name.folded) := by
  rw [Bool.eq_iff_iff, answers, Bool.and_eq_true, Name.beq_iff, beq_iff_eq, decide_eq_true_iff]

/-- A zone answers a query with the records that match its questions. -/
theorem respond_answers (zone : Zone) (q : Query) :
    (zone.respond q).answers = q.matching zone.records := by
  have hlookup : zone.lookup = fun question => zone.records.filter fun record =>
      decide (record.typeCode = question.typeCode ∧ record.owner.folded = question.name.folded) := by
    funext question
    rw [lookup]
    exact List.filter_congr fun record _ => answers_eq question record
  simp only [respond, Response.add, Response.ofQuery, List.nil_append, hlookup, Query.matching]

end Zone

end ZoneServer

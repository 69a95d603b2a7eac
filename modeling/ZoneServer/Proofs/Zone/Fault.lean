import ZoneServer.Proofs.Record.Fault
import ZoneServer.Proofs.Zone.Entries

/-!
# Entries that describe no record

A zone is made of all of its entries or not at all. An entry is accepted if its texts can be written as what
they stand for and nothing is missing (`ZoneEntry.Accepted`); of an entry that is not, one fault is reported
(`ZoneEntry.FirstFault`), and of a list of entries the fault of the first that has one. Since the texts are
tried out when the zone is made, writing its records later on can only fail for want of space
(`Zone.ofEntries_reports_first_fault`).
-/

namespace ZoneServer

/-! ## Names -/

namespace Name

/-- A name that can be written into an empty buffer. -/
def Writable (name : Name) : Prop := ∃ os, Encoder.encode name.encode = .ok os

theorem writable_iff {name : Name} : name.Writable ↔ name.Valid := by
  simp [Writable, encode_eq_ok]

theorem ofEntry_of_writable {text : String} (h : (ofString text).Writable) :
    ofEntry text = .ok (ofString text) :=
  ofEntry_eq_ok.2 ⟨writable_iff.1 h, rfl⟩

theorem ofEntry_of_fault {text : String} {cause : EncodeError} (h : (ofString text).Fault cause) :
    ofEntry text = .error (.invalidName text cause) := by
  rw [ofEntry, encode_eq_error.2 h.check_eq]

theorem writable_or_fault (name : Name) : name.Writable ∨ ∃ cause, name.Fault cause :=
  name.valid_or_fault.imp_left writable_iff.2

end Name

/-! ## Entries -/

namespace ZoneEntry

/-- An entry whose texts can be written as what they stand for, with nothing missing. -/
structure Accepted (entry : ZoneEntry) : Prop where
  owner : (Name.ofString entry.name).Writable
  address : entry.kind = .a → ∃ address, Ipv4.ofString? entry.value = some address
  preference : entry.kind = .mx → ∃ preference, entry.preference = some preference
  target : entry.kind ≠ .a → (Name.ofString entry.value).Writable

/-- The fault that is reported of an entry: the owner is looked at before the preference, and the preference
before the value. -/
inductive FirstFault (entry : ZoneEntry) : ZoneError → Prop where
  /-- The owner has a fault. -/
  | owner {cause : EncodeError} (fault : (Name.ofString entry.name).Fault cause) :
    FirstFault entry (.invalidName entry.name cause)
  /-- The preference of a host that takes mail is missing. -/
  | preference (owner : (Name.ofString entry.name).Writable) (kind : entry.kind = .mx)
    (missing : entry.preference = none) : FirstFault entry (.missingPreference entry.name)
  /-- The value should be an address and is none. -/
  | address (owner : (Name.ofString entry.name).Writable) (kind : entry.kind = .a)
    (unread : Ipv4.ofString? entry.value = none) :
    FirstFault entry (.invalidAddress entry.name (.invalidAddress entry.value))
  /-- The value should be a name and has a fault. -/
  | target {cause : EncodeError} (owner : (Name.ofString entry.name).Writable) (kind : entry.kind ≠ .a)
    (preference : entry.kind = .mx → ∃ preference, entry.preference = some preference)
    (fault : (Name.ofString entry.value).Fault cause) :
    FirstFault entry (.invalidName entry.value cause)

variable {entry : ZoneEntry}

theorem accepted_or_fault (entry : ZoneEntry) :
    entry.Accepted ∨ ∃ fault, entry.FirstFault fault := by
  rcases (Name.ofString entry.name).writable_or_fault with howner | ⟨cause, hfault⟩
  · by_cases hkind : entry.kind = .a
    · cases haddress : Ipv4.ofString? entry.value with
      | none => exact .inr ⟨_, .address howner hkind haddress⟩
      | some address =>
        refine .inl ⟨howner, fun _ => ⟨address, haddress⟩, fun hmx => ?_, fun hne => absurd hkind hne⟩
        rw [hkind] at hmx
        cases hmx
    · by_cases hpreference : entry.kind = .mx → ∃ preference, entry.preference = some preference
      · rcases (Name.ofString entry.value).writable_or_fault with hvalue | ⟨cause, hfault⟩
        · exact .inl ⟨howner, fun ha => absurd ha hkind, hpreference, fun _ => hvalue⟩
        · exact .inr ⟨_, .target howner hkind hpreference hfault⟩
      · obtain ⟨hmx, hmissing⟩ := not_forall.1 hpreference
        refine .inr ⟨_, .preference howner hmx ?_⟩
        rw [← Option.not_isSome_iff_eq_none, Option.isSome_iff_exists]
        exact hmissing
  · exact .inr ⟨_, .owner hfault⟩

theorem payload_of_accepted (h : entry.Accepted) : entry.payload = .ok entry.describedPayload := by
  unfold payload describedPayload
  cases hkind : entry.kind with
  | a =>
    obtain ⟨address, haddress⟩ := h.address hkind
    simp only [Ipv4.parse_eq_ok.2 haddress]
  | mx =>
    obtain ⟨preference, hpreference⟩ := h.preference hkind
    have hvalue := Name.ofEntry_of_writable (h.target (by rw [hkind]; decide))
    simp only [hpreference, hvalue]
    rfl
  | ptr =>
    have hvalue := Name.ofEntry_of_writable (h.target (by rw [hkind]; decide))
    simp only [hvalue]
    rfl
  | cname =>
    have hvalue := Name.ofEntry_of_writable (h.target (by rw [hkind]; decide))
    simp only [hvalue]
    rfl

theorem record_of_accepted (h : entry.Accepted) : entry.record = .ok entry.described := by
  rw [record, Name.ofEntry_of_writable h.owner, payload_of_accepted h]
  rfl

theorem record_of_payload_error {fault : ZoneError} (howner : (Name.ofString entry.name).Writable)
    (h : entry.payload = .error fault) : entry.record = .error fault := by
  rw [record, Name.ofEntry_of_writable howner, h]
  rfl

theorem FirstFault.record_eq {fault : ZoneError} (h : entry.FirstFault fault) :
    entry.record = .error fault := by
  cases h with
  | owner hfault =>
    rw [record, Name.ofEntry_of_fault hfault]
    rfl
  | preference howner hkind hmissing =>
    apply record_of_payload_error howner
    rw [payload, hkind, hmissing]
  | address howner hkind hunread =>
    exact record_of_payload_error howner (payload_of_unreadable hkind hunread)
  | target howner hkind hpreference hfault =>
    apply record_of_payload_error howner
    have hvalue := Name.ofEntry_of_fault hfault
    unfold payload
    cases hmatch : entry.kind with
    | a => exact absurd hmatch hkind
    | mx =>
      obtain ⟨preference, hsome⟩ := hpreference hmatch
      simp only [hsome, hvalue]
      rfl
    | ptr =>
      simp only [hvalue]
      rfl
    | cname =>
      simp only [hvalue]
      rfl

/-- A name that is reported has a fault of its own; the buffer it was tried out in had room for it. -/
theorem FirstFault.cause_of_name {text : String} {cause : EncodeError}
    (h : entry.FirstFault (.invalidName text cause)) : ∃ name : Name, name.Fault cause := by
  cases h with
  | owner hfault => exact ⟨_, hfault⟩
  | target _ _ _ hfault => exact ⟨_, hfault⟩

end ZoneEntry

/-! ## Zones -/

namespace Zone

variable {entries : List ZoneEntry} {fault : ZoneError}

/-- Entries that are accepted are described, and the others come after them. -/
theorem recordsOf_append {before : List ZoneEntry} (h : ∀ earlier ∈ before, earlier.Accepted)
    (entries : List ZoneEntry) :
    recordsOf (before ++ entries) =
      (recordsOf entries).map (before.map ZoneEntry.described ++ ·) := by
  induction before with
  | nil => cases hrecords : recordsOf entries <;> simp [Except.map, hrecords]
  | cons entry before ih =>
    rw [List.forall_mem_cons] at h
    rw [List.cons_append, recordsOf, ZoneEntry.record_of_accepted h.1, ih h.2]
    cases recordsOf entries <;> rfl

theorem recordsOf_of_accepted (h : ∀ entry ∈ entries, entry.Accepted) :
    recordsOf entries = .ok (entries.map ZoneEntry.described) := by
  have hall := recordsOf_append h []
  rwa [List.append_nil, recordsOf, Except.map, List.append_nil] at hall

/-- Among entries there is a first that is not accepted, unless all of them are. -/
theorem accepted_or_first_fault (entries : List ZoneEntry) :
    (∀ entry ∈ entries, entry.Accepted) ∨ ∃ before entry after fault,
      entries = before ++ entry :: after ∧ (∀ earlier ∈ before, earlier.Accepted) ∧
        entry.FirstFault fault := by
  induction entries with
  | nil => exact .inl fun entry hentry => (by cases hentry)
  | cons first entries ih =>
    rcases first.accepted_or_fault with hfirst | ⟨fault, hfault⟩
    · rcases ih with hall | ⟨before, entry, after, fault, rfl, hbefore, hfault⟩
      · exact .inl (List.forall_mem_cons.2 ⟨hfirst, hall⟩)
      · exact .inr ⟨first :: before, entry, after, fault, rfl,
          List.forall_mem_cons.2 ⟨hfirst, hbefore⟩, hfault⟩
    · exact .inr ⟨[], first, entries, fault, rfl, fun entry hentry => (by cases hentry), hfault⟩

theorem recordsOf_of_first_fault {before after : List ZoneEntry} {entry : ZoneEntry}
    (hbefore : ∀ earlier ∈ before, earlier.Accepted) (hfault : entry.FirstFault fault) :
    recordsOf (before ++ entry :: after) = .error fault := by
  rw [recordsOf_append hbefore, recordsOf, hfault.record_eq]
  rfl

theorem ofEntries_eq (entries : List ZoneEntry) :
    ofEntries entries = (recordsOf entries).map Zone.mk := by
  rw [ofEntries]
  cases recordsOf entries <;> rfl

theorem ofEntries_of_accepted (h : ∀ entry ∈ entries, entry.Accepted) :
    ofEntries entries = .ok ⟨entries.map ZoneEntry.described⟩ := by
  rw [ofEntries_eq, recordsOf_of_accepted h]
  rfl

theorem ofEntries_eq_error : ofEntries entries = .error fault ↔
    ∃ before entry after, entries = before ++ entry :: after ∧
      (∀ earlier ∈ before, earlier.Accepted) ∧ entry.FirstFault fault := by
  constructor
  · intro h
    rcases accepted_or_first_fault entries with hall | ⟨before, entry, after, first, rfl, hbefore, hfirst⟩
    · rw [ofEntries_of_accepted hall] at h
      cases h
    · rw [ofEntries_eq, recordsOf_of_first_fault hbefore hfirst] at h
      cases h
      exact ⟨before, entry, after, rfl, hbefore, hfirst⟩
  · rintro ⟨before, entry, after, rfl, hbefore, hfault⟩
    rw [ofEntries_eq, recordsOf_of_first_fault hbefore hfault]
    rfl

theorem accepted_of_ofEntries {zone : Zone} (h : ofEntries entries = .ok zone) :
    ∀ entry ∈ entries, entry.Accepted := by
  rcases accepted_or_first_fault entries with hall | ⟨before, entry, after, fault, hsplit, hfirst⟩
  · exact hall
  · rw [ofEntries_eq_error.2 ⟨before, entry, after, hsplit, hfirst⟩] at h
    cases h

/-- A zone is made just if every one of its entries is accepted. It then has one record for each entry, in
their order and as they describe it, and such a record can only fail to be written for want of space, in any
buffer. Otherwise the fault that is reported is that of the first entry that has one, and of a name it is
never the space that was missing. -/
theorem ofEntries_reports_first_fault (entries : List ZoneEntry) :
    ((∃ zone, ofEntries entries = .ok zone) ↔ ∀ entry ∈ entries, entry.Accepted) ∧
    (∀ zone, ofEntries entries = .ok zone →
      zone.records = entries.map ZoneEntry.described ∧
      ∀ record ∈ zone.records, ∀ b : Buffer, b.WellFormed →
        ∀ cause b', record.encode b = .error cause b' → cause = .bufferFull) ∧
    (∀ fault, ofEntries entries = .error fault ↔
      ∃ before entry after, entries = before ++ entry :: after ∧
        (∀ earlier ∈ before, earlier.Accepted) ∧ entry.FirstFault fault) ∧
    (∀ text cause, ofEntries entries = .error (.invalidName text cause) →
      (∃ label, cause = .invalidLabel label) ∨ cause = .nameTooLong) := by
  refine ⟨⟨?_, fun hall => ⟨_, ofEntries_of_accepted hall⟩⟩, ?_, fun fault => ofEntries_eq_error, ?_⟩
  · rintro ⟨zone, hzone⟩
    exact accepted_of_ofEntries hzone
  · intro zone hzone
    obtain ⟨hrecords, hvalid⟩ := ofEntries_eq_ok hzone
    refine ⟨hrecords, fun record hrecord b hb cause b' hrun => ?_⟩
    exact Record.eq_bufferFull_of_valid (hvalid record hrecord).1 hb hrun
  · intro text cause herror
    obtain ⟨before, entry, after, -, -, hfault⟩ := ofEntries_eq_error.1 herror
    obtain ⟨name, hname⟩ := hfault.cause_of_name
    cases hname with
    | label => exact .inl ⟨_, rfl⟩
    | length => exact .inr rfl

/-- Entries of which the first is accepted and the others are not: the second has no preference and a value
that is no name, and the third has an owner that is no name. -/
def faultyEntries : List ZoneEntry :=
  [⟨"www", .a, 60, "1.2.3.4", none⟩, ⟨"mail", .mx, 60, "a..b", none⟩, ⟨"x..", .ptr, 60, "www", none⟩]

theorem ofEntries_faultyEntries :
    ofEntries faultyEntries = .error (.missingPreference "mail") ∧
    (∃ zone, ofEntries (faultyEntries.take 1) = .ok zone ∧
      zone.records = [Record.ofPayload (Name.ofString "www") 60 (.address "1.2.3.4")] ∧
      ∀ record ∈ zone.records, ∀ b', record.encode (Buffer.empty.skip 512) ≠ .error .nameTooLong b') ∧
    ofEntries (faultyEntries.drop 2) = .error (.invalidName "x.." (.invalidLabel [])) := by
  have hwww : (Name.ofString "www").Writable := Name.writable_iff.2 (Name.check_eq_ok.1 (by decide))
  have hmail : (Name.ofString "mail").Writable := Name.writable_iff.2 (Name.check_eq_ok.1 (by decide))
  have hempty : (Name.ofString "x..").Fault (.invalidLabel []) := Name.check_eq_error.1 (by decide)
  have hfirst : ∀ entry ∈ faultyEntries.take 1, entry.Accepted := by
    intro entry hentry
    rw [List.mem_singleton.1 hentry]
    exact ⟨hwww, fun _ => ⟨⟨1, 2, 3, 4⟩, by decide⟩, fun h => (by cases h), fun h => absurd rfl h⟩
  obtain ⟨-, -, hfault, -⟩ := ofEntries_reports_first_fault faultyEntries
  obtain ⟨hmade, hrecords, -, -⟩ := ofEntries_reports_first_fault (faultyEntries.take 1)
  obtain ⟨-, -, hthird, -⟩ := ofEntries_reports_first_fault (faultyEntries.drop 2)
  refine ⟨?_, ?_, ?_⟩
  · exact (hfault _).2 ⟨_, _, _, rfl, hfirst, .preference hmail rfl rfl⟩
  · obtain ⟨zone, hzone⟩ := hmade.2 hfirst
    obtain ⟨hdescribed, hwritten⟩ := hrecords zone hzone
    refine ⟨zone, hzone, hdescribed, fun record hrecord b' hrun => ?_⟩
    have hfull : (Buffer.empty.skip 512).WellFormed := Buffer.wellFormed_empty.skip (by decide)
    cases hwritten record hrecord _ hfull _ _ hrun
  · exact (hthird _).2 ⟨[], _, [], rfl, fun entry hentry => (by cases hentry), .owner hempty⟩

end Zone

end ZoneServer

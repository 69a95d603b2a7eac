import ZoneServer.Message.Response

/-!
# Zones

A zone is a fixed list of records. It answers every question of a query with its records of the type
and the name that the question asks for, in the order of the zone.

A zone is made from entries, which are texts as an administrator writes them. Every entry is checked
when the zone is made, so that a zone holds no record that cannot be written; the first entry with a
fault is reported, and in it the owner is looked at before the preference and the preference before the
value.
-/

namespace ZoneServer

/-- The kinds of records that entries can describe. -/
inductive RecordKind where
  /-- The address of a host. -/
  | a
  /-- A host that takes mail. -/
  | mx
  /-- A pointer to a name. -/
  | ptr
  /-- The canonical name of an alias. -/
  | cname
  deriving DecidableEq, Repr, Inhabited

/-- A record as it is described in a configuration. -/
structure ZoneEntry where
  /-- The text of the owner's name. -/
  name : String
  /-- The kind of record. -/
  kind : RecordKind
  /-- For how many seconds the record may be kept. -/
  ttl : UInt32
  /-- The text of the address or of the name that the record gives. -/
  value : String
  /-- The preference of a host that takes mail. -/
  preference : Option UInt16
  deriving DecidableEq, Repr, Inhabited

/-- Why an entry describes no record. -/
inductive ZoneError where
  /-- A host that takes mail has no preference. -/
  | missingPreference (owner : String)
  /-- The value is no address. -/
  | invalidAddress (owner : String) (cause : EncodeError)
  /-- The text is no name that may be written. -/
  | invalidName (text : String) (cause : EncodeError)
  deriving DecidableEq, Repr, Inhabited

/-- The wording of a fault. -/
def ZoneError.message : ZoneError → String
  | .missingPreference owner => "MX record for " ++ owner ++ " has no preference"
  | .invalidAddress owner cause => "A record for " ++ owner ++ ": " ++ cause.message
  | .invalidName text cause =>
    "invalid domain name " ++ Text.quoted text.toList ++ ": " ++ cause.message

/-- The name that a text spells, if it may be written. -/
def Name.ofEntry (text : String) : Except ZoneError Name :=
  match Encoder.encode (Name.ofString text).encode with
  | .ok _ => .ok (Name.ofString text)
  | .error cause => .error (.invalidName text cause)

/-- The payload that an entry describes. -/
def ZoneEntry.payload (entry : ZoneEntry) : Except ZoneError Payload :=
  match entry.kind with
  | .a =>
    match Ipv4.parse entry.value with
    | .ok _ => .ok (.address entry.value)
    | .error cause => .error (.invalidAddress entry.name cause)
  | .mx =>
    match entry.preference with
    | some preference => do
      let exchange ← Name.ofEntry entry.value
      return .mailExchange preference exchange
    | none => .error (.missingPreference entry.name)
  | .ptr => do
    let target ← Name.ofEntry entry.value
    return .pointer target
  | .cname => do
    let target ← Name.ofEntry entry.value
    return .canonicalName target

/-- The record that an entry describes. -/
def ZoneEntry.record (entry : ZoneEntry) : Except ZoneError Record := do
  let owner ← Name.ofEntry entry.name
  let payload ← entry.payload
  return Record.ofPayload owner entry.ttl payload

/-- A fixed list of records. -/
structure Zone where
  /-- The records, in the order of the configuration. -/
  records : List Record
  deriving BEq, Repr, Inhabited

namespace Zone

/-- The records that entries describe, unless one of them has a fault. -/
def recordsOf : List ZoneEntry → Except ZoneError (List Record)
  | [] => .ok []
  | entry :: rest => do
    let record ← entry.record
    let records ← recordsOf rest
    return record :: records

/-- The zone that entries describe. -/
def ofEntries (entries : List ZoneEntry) : Except ZoneError Zone := do
  return ⟨← recordsOf entries⟩

/-- Whether a record answers a question: it has the type and the name that are asked for. -/
def answers (q : Question) (r : Record) : Bool := r.typeCode == q.typeCode && r.owner == q.name

/-- The records of the zone that answer a question, in the order of the zone. -/
def lookup (zone : Zone) (q : Question) : List Record := zone.records.filter (answers q)

/-- The response of the zone to a query. -/
def respond (zone : Zone) (q : Query) : Response :=
  (Response.ofQuery q).add (q.questions.flatMap zone.lookup)

end Zone

end ZoneServer

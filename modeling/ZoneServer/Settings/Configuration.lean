import ZoneServer.Address.Basic
import ZoneServer.Server.Reply
import ZoneServer.Settings.Path
import ZoneServer.Settings.Reading
import ZoneServer.Toml.Document
import ZoneServer.Zone

/-!
# Configurations

A configuration says where the server listens, what it does with responses that do not fit, which entries
its zone has and how much it logs. Only the first must be given. The fields of a structure are all read
before any is found missing, and the first that is missing is reported.
-/

namespace ZoneServer

/-- Where a server listens, and its policy. -/
structure ServerSettings where
  /-- The address and the port. -/
  endpoint : Endpoint
  /-- What is done with a response that does not fit. -/
  oversize : OversizePolicy
  deriving DecidableEq, Repr

/-- A configuration of a server. -/
structure Configuration where
  /-- Where the server listens, and its policy. -/
  server : ServerSettings
  /-- The entries of the zone. -/
  entries : List ZoneEntry
  /-- How much is logged. -/
  logLevel : String
  deriving DecidableEq, Repr

/-- The log level if none is given. -/
def defaultLogLevel : String := "info"

/-- For how many seconds a record may be kept if the entry does not say. -/
def defaultTtl : UInt32 := 3600

/-- Reads an address. -/
def IpAddress.read (s : Setting) : Reading IpAddress := do
  let text ← s.readText
  match ofString? text with
  | some address => return address
  | none => throw (.shape .notAddress)

/-- Reads a policy. -/
def OversizePolicy.read : Setting → Reading OversizePolicy :=
  Setting.readChoice "OversizePolicy" [("truncate", .truncate), ("drop", .drop)]

/-- Reads a kind of record. -/
def RecordKind.read : Setting → Reading RecordKind :=
  Setting.readChoice "RecordKind" [("A", .a), ("MX", .mx), ("PTR", .ptr), ("CNAME", .cname)]

/-- Reads where a server listens, and its policy. -/
def ServerSettings.read (s : Setting) : Reading ServerSettings := do
  let name := "ServerConfiguration"
  let fields ← s.readFields name
  let address ← fields.read? ⟨0, "ip_address"⟩ IpAddress.read
  let port ← fields.read? ⟨1, "port"⟩ Setting.readUInt16
  let oversize ← fields.read? ⟨2, "oversize"⟩ OversizePolicy.read
  let address ← fields.require name 3 ⟨0, "ip_address"⟩ address
  let port ← fields.require name 3 ⟨1, "port"⟩ port
  return ⟨⟨address, port⟩, oversize.getD .truncate⟩

/-- Reads a number that may be absent. -/
def Setting.readOptional (s : Setting) : Reading (Option UInt16) :=
  match s with
  | .nothing => .ok none
  | _ => s.readUInt16.map some

/-- Reads an entry of a zone. -/
def ZoneEntry.read (s : Setting) : Reading ZoneEntry := do
  let name := "RecordConfiguration"
  let fields ← s.readFields name
  let owner ← fields.read? ⟨0, "name"⟩ Setting.readText
  let kind ← fields.read? ⟨1, "type"⟩ RecordKind.read
  let ttl ← fields.read? ⟨2, "ttl"⟩ Setting.readUInt32
  let value ← fields.read? ⟨3, "value"⟩ Setting.readText
  let preference ← fields.read? ⟨4, "preference"⟩ Setting.readOptional
  let owner ← fields.require name 5 ⟨0, "name"⟩ owner
  let kind ← fields.require name 5 ⟨1, "type"⟩ kind
  let value ← fields.require name 5 ⟨3, "value"⟩ value
  return ⟨owner, kind, ttl.getD defaultTtl, value, preference.getD none⟩

/-- Reads the entries of a zone. -/
def readZone (s : Setting) : Reading (List ZoneEntry) := do
  let fields ← s.readFields "ZoneConfiguration"
  let records ← fields.read? ⟨0, "records"⟩ (Setting.readList ZoneEntry.read)
  return records.getD []

namespace Configuration

/-- Reads a configuration. -/
def read (s : Setting) : Reading Configuration := do
  let name := "NameserverConfiguration"
  let fields ← s.readFields name
  let server ← fields.read? ⟨0, "server"⟩ ServerSettings.read
  let entries ← fields.read? ⟨1, "zone"⟩ readZone
  let logLevel ← fields.read? ⟨2, "log_level"⟩ Setting.readText
  let server ← fields.require name 3 ⟨0, "server"⟩ server
  return ⟨server, entries.getD [], logLevel.getD defaultLogLevel⟩

/-- The configuration that a document is. -/
def parse (document : String) : Reading Configuration :=
  match Toml.parse document with
  | some entries => read (Setting.ofDocument entries)
  | none => .error .malformed

end Configuration

end ZoneServer

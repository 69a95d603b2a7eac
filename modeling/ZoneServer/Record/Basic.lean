import ZoneServer.Address.Ipv4
import ZoneServer.Name.Wire
import ZoneServer.Record.TypeCode

/-!
# Resource records

A record says something about the name that owns it: its payload. Four kinds of payload are understood,
and all others are kept as octets. The address of a host is kept as the text it was given as, and
whether that text is an address is found out when the record is written.

Before its payload a record has its owner, its type, its class, the time for which it may be kept and
the length of the payload. `Record.decodeWith` checks that the payload takes exactly this length, so the
record after it starts where the length says.
-/

namespace ZoneServer

/-- What a record says about its owner. -/
inductive Payload where
  /-- The address of the host, as a text. -/
  | address (text : String)
  /-- A host that takes mail, and its preference among others: the lower, the better. -/
  | mailExchange (preference : UInt16) (exchange : Name)
  /-- Another name. -/
  | pointer (target : Name)
  /-- The name that the owner is an alias of. -/
  | canonicalName (target : Name)
  /-- A payload of another type, as it is. -/
  | other (typeCode : TypeCode) (data : Octets)
  deriving BEq, Repr, Inhabited

/-- The type of the records that have such a payload. -/
def Payload.typeCode : Payload → TypeCode
  | .address _ => TypeCode.address
  | .mailExchange _ _ => TypeCode.mailExchange
  | .pointer _ => TypeCode.pointer
  | .canonicalName _ => TypeCode.canonicalName
  | .other typeCode _ => typeCode

/-- A resource record. -/
structure Record where
  /-- The name that the record is about. -/
  owner : Name
  /-- The class. -/
  classCode : UInt16
  /-- For how many seconds the record may be kept. -/
  ttl : UInt32
  /-- What the record says. -/
  payload : Payload
  deriving BEq, Repr, Inhabited

namespace Record

/-- A record of the class of the internet. -/
def ofPayload (owner : Name) (ttl : UInt32) (payload : Payload) : Record :=
  ⟨owner, internetClass, ttl, payload⟩

/-- The type of a record. -/
def typeCode (r : Record) : TypeCode := r.payload.typeCode

/-- The text of the address, if the record has one. -/
def address? (r : Record) : Option String :=
  match r.payload with
  | .address text => some text
  | _ => none

/-! ## Writing -/

/-- Writes what comes before the length of the payload. -/
def encodePreamble (r : Record) : Encoder Unit := do
  r.owner.encode
  Encoder.uint16 r.typeCode
  Encoder.uint16 r.classCode
  Encoder.uint32 r.ttl

/-- Writes a record. The text of an address is read before anything is written. -/
def encode (r : Record) : Encoder Unit :=
  match r.payload with
  | .address text =>
    match Ipv4.parse text with
    | .error cause => throw cause
    | .ok address => do
      r.encodePreamble
      Encoder.uint16 4
      Encoder.octets address.octets
  | .mailExchange preference exchange => do
    r.encodePreamble
    Encoder.lengthPrefixed do
      Encoder.uint16 preference
      exchange.encode
  | .pointer target => do
    r.encodePreamble
    Encoder.lengthPrefixed target.encode
  | .canonicalName target => do
    r.encodePreamble
    Encoder.lengthPrefixed target.encode
  | .other _ data => do
    r.encodePreamble
    Encoder.lengthPrefixed (Encoder.octets data)

/-! ## Reading -/

/-- Reads an address, which has four octets and no other length. -/
def decodeAddress (length : Nat) : Decoder Payload :=
  if length = 4 then do
    let os ← Decoder.octets 4
    return .address (Ipv4.ofOctets os).text
  else throw .recordLength

/-- Reads the payload of a record of a type, whose stated length is given. Its names are read in a given
way. -/
def decodePayloadWith (decodeName : Decoder Name) (typeCode : TypeCode) (length : Nat) :
    Decoder Payload :=
  if typeCode = TypeCode.address then decodeAddress length
  else if typeCode = TypeCode.mailExchange then do
    let preference ← Decoder.uint16
    let exchange ← decodeName
    return .mailExchange preference exchange
  else if typeCode = TypeCode.pointer then return .pointer (← decodeName)
  else if typeCode = TypeCode.canonicalName then return .canonicalName (← decodeName)
  else return .other typeCode (← Decoder.octets length)

/-- Reads a record, whose payload must take exactly its stated length. Its names are read in a given
way. -/
def decodeWith (decodeName : Decoder Name) : Decoder Record := do
  let owner ← decodeName
  let typeCode ← Decoder.uint16
  let classCode ← Decoder.uint16
  let ttl ← Decoder.uint32
  let length ← Decoder.uint16
  let start ← Decoder.position
  let payload ← decodePayloadWith decodeName typeCode length.toNat
  let stop ← Decoder.position
  if stop - start = length.toNat then return ⟨owner, classCode, ttl, payload⟩
  else throw .recordLength

/-- Reads the payload of a record. -/
def decodePayload : TypeCode → Nat → Decoder Payload := decodePayloadWith Name.decode

/-- Reads a record. -/
def decode : Decoder Record := decodeWith Name.decode

end Record

end ZoneServer

import ZoneServer.Message.Query
import ZoneServer.Record.Basic

/-!
# Responses

A response repeats the questions of a query and adds answers. Any number of answers may be added, and
whether they fit is found out when the response is packed. `Response.pack` packs all of them or fails.
`Response.packTruncated` leaves out as many of the last answers as it must, and says so in the header.

Packing notes the number of answers in the header of the response, so both return the response that
they leave.
-/

namespace ZoneServer

/-- A response. -/
structure Response extends Message where
  /-- The answers, in order. -/
  answers : List Record
  deriving BEq, Repr, Inhabited

namespace Response

/-- The response to a query before any answer is added. -/
def ofQuery (q : Query) : Response :=
  { header := Header.response q.header, questions := q.questions, answers := [] }

/-- Adds answers after those there are. -/
def add (r : Response) (records : List Record) : Response :=
  { r with answers := r.answers ++ records }

/-- The texts of the addresses among the answers. -/
def addresses (r : Response) : List String := r.answers.filterMap Record.address?

/-! ## Reading -/

/-- Reads a header, its questions and as many answers as it announces. Names are read in a given way. -/
def decoderWith (decodeName : Decoder Name) : Decoder Response := do
  let m ← Message.decodeWith decodeName
  let answers ← Decoder.times (Record.decodeWith decodeName) m.header.answerCount.toNat
  return { m with answers }

/-- Reads a header, its questions and its answers. -/
def decoder : Decoder Response := decoderWith Name.decode

theorem decoder_eq : decoder = do
    let m ← Message.decode
    let answers ← Decoder.times Record.decode m.header.answerCount.toNat
    return { m with answers } := rfl

/-- The response in the first `length` octets of a datagram; what comes after its answers is
ignored. -/
def decode (datagram : Octets) (length : Nat) : Except DecodeError Response :=
  match decoder (Cursor.ofPrefix datagram length) with
  | .ok r _ => .ok r
  | .error cause _ => .error cause

/-! ## Writing -/

/-- Writes a response. -/
def encode (r : Response) : Encoder Unit := do
  r.toMessage.encode (UInt16.ofNat r.answers.length)
  Encoder.each Record.encode r.answers

/-- The same response with the number of its answers in its header. -/
def counted (r : Response) : Response :=
  { r with header := { r.header with answerCount := UInt16.ofNat r.answers.length } }

/-- The octets of a response, and the response with its answers counted. More answers than can be
counted do not fit in any message. -/
def pack (r : Response) : Except EncodeError Octets × Response :=
  if r.answers.length ≤ maxSectionCount then (Encoder.encode r.counted.encode, r.counted)
  else (.error .bufferFull, r)

/-- Writes records for as long as they fit, and says how many did. -/
def encodeFitting : List Record → Encoder Nat
  | [], b => .ok 0 b
  | record :: rest, b =>
    match record.encode b with
    | .ok _ b' => EStateM.map (· + 1) (encodeFitting rest) b'
    | .error .bufferFull b' => .ok 0 b'
    | .error cause b' => .error cause b'

/-- How many of the answers fit after the header and the questions. -/
def fitting (r : Response) : Except EncodeError Nat :=
  let encoder : Encoder Nat := do
    r.toMessage.encode 0
    encodeFitting r.answers
  match encoder Buffer.empty with
  | .ok count _ => .ok count
  | .error cause _ => .error cause

/-- The same response with only its first answers, marked as truncated. -/
def truncate (r : Response) (count : Nat) : Response :=
  { r with header := { r.header with truncated := true }, answers := r.answers.take count }

/-- Packs a response. If it does not fit, the answers that do not fit are dropped from it and it is
marked as truncated. -/
def packTruncated (r : Response) : Except EncodeError Octets × Response :=
  match r.pack with
  | (.error .bufferFull, r') =>
    match r'.fitting with
    | .ok count => (r'.truncate count).pack
    | .error cause => (.error cause, r')
  | packed => packed

end Response

end ZoneServer

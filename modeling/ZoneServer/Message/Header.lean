import ZoneServer.Wire.Buffer
import ZoneServer.Wire.Cursor

/-!
# Message headers

The first 12 octets of a message are an identifier, two octets of flags and the number of entries in
each of the four sections. Of the flags three are kept: whether the answer is authoritative, whether it
was cut short, and the response code; the others are dropped in reading and zero in writing.
-/

namespace ZoneServer

/-- The header of a message. -/
structure Header where
  /-- The number by which a response is matched to its query. -/
  id : UInt16
  /-- Whether the answer comes from an authority for the name. -/
  authoritative : Bool
  /-- Whether answers are missing for want of space. -/
  truncated : Bool
  /-- The response code; its lower four bits count. -/
  responseCode : UInt8
  /-- How many questions there are. -/
  questionCount : UInt16
  /-- How many answers there are. -/
  answerCount : UInt16
  /-- How many records there are on authorities. -/
  authorityCount : UInt16
  /-- How many additional records there are. -/
  additionalCount : UInt16
  deriving DecidableEq, Repr, Inhabited

namespace Header

/-- The header of a query. -/
def query (id : UInt16) (questionCount : UInt16) : Header :=
  ⟨id, false, false, 0, questionCount, 0, 0, 0⟩

/-- The header of the response to a query: of the query's header it has the identifier and the number
of questions, and it is authoritative. -/
def response (request : Header) : Header :=
  { query request.id request.questionCount with authoritative := true }

/-- The same header with other numbers of questions and answers, and nothing in the last two
sections. -/
def withCounts (h : Header) (questionCount answerCount : UInt16) : Header :=
  { h with questionCount, answerCount, authorityCount := 0, additionalCount := 0 }

/-- The bit of the first octet of flags that says that an answer is authoritative. -/
def authoritativeBit : UInt8 := 4

/-- The bit of the first octet of flags that says that answers are missing. -/
def truncatedBit : UInt8 := 2

/-- The first octet of flags. -/
def flags (h : Header) : UInt8 :=
  (if h.authoritative then authoritativeBit else 0) + (if h.truncated then truncatedBit else 0)

/-- The response code in the lower four bits of an octet. -/
def responseCodeOf (o : UInt8) : UInt8 := o % 16

/-- Writes a header. -/
def encode (h : Header) : Encoder Unit := do
  Encoder.uint16 h.id
  Encoder.uint8 h.flags
  Encoder.uint8 (responseCodeOf h.responseCode)
  Encoder.uint16 h.questionCount
  Encoder.uint16 h.answerCount
  Encoder.uint16 h.authorityCount
  Encoder.uint16 h.additionalCount

/-- Reads a header. -/
def decode : Decoder Header := do
  let id ← Decoder.uint16
  let flags ← Decoder.uint8
  let code ← Decoder.uint8
  let questionCount ← Decoder.uint16
  let answerCount ← Decoder.uint16
  let authorityCount ← Decoder.uint16
  let additionalCount ← Decoder.uint16
  return {
    id
    authoritative := flags &&& authoritativeBit != 0
    truncated := flags &&& truncatedBit != 0
    responseCode := responseCodeOf code
    questionCount
    answerCount
    authorityCount
    additionalCount }

end Header

end ZoneServer

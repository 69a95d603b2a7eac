import ZoneServer.Message.Header
import ZoneServer.Message.Question

/-!
# What every message begins with

Queries and responses both begin with a header and a section of questions.
-/

namespace ZoneServer

/-- The header and the questions of a message. -/
structure Message where
  /-- The header, as it was read or made. -/
  header : Header
  /-- The questions. -/
  questions : List Question
  deriving BEq, Repr, Inhabited

/-- The most entries a section may have, since they are counted in two octets. -/
def maxSectionCount : Nat := 65535

namespace Message

/-- Writes the header and the questions. The number of questions is that of the questions there are,
the number of answers is given, and the last two sections are empty. -/
def encode (m : Message) (answerCount : UInt16) : Encoder Unit :=
  if m.questions.length ≤ maxSectionCount then do
    (m.header.withCounts (UInt16.ofNat m.questions.length) answerCount).encode
    Encoder.each Question.encode m.questions
  else throw .bufferFull

/-- Reads a header and as many questions as it announces, whose names are read in a given way. -/
def decodeWith (decodeName : Decoder Name) : Decoder Message := do
  let header ← Header.decode
  let questions ← Decoder.times (Question.decodeWith decodeName) header.questionCount.toNat
  return ⟨header, questions⟩

/-- Reads a header and its questions. -/
def decode : Decoder Message := decodeWith Name.decode

theorem decode_eq : decode = do
    let header ← Header.decode
    let questions ← Decoder.times Question.decode header.questionCount.toNat
    return ⟨header, questions⟩ := rfl

end Message

end ZoneServer

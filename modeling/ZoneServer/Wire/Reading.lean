import ZoneServer.Record.Basic
import ZoneServer.Message.Header
import ZoneServer.Message.Question

/-!
# Reading item by item

A datagram can be read by a sequence of steps, each of which asks for one item at the place that the
step before has left. `ReadStep.runAll` goes on after a step that fails, and its answers show what each
step gave and where it left off.
-/

namespace ZoneServer

/-- What a step asks for. -/
inductive ReadStep where
  /-- A number of one octet. -/
  | uint8
  /-- A number of two octets. -/
  | uint16
  /-- A number of four octets. -/
  | uint32
  /-- So many octets. -/
  | octets (n : Nat)
  /-- A name. -/
  | name
  /-- The header of a message. -/
  | header
  /-- A question. -/
  | question
  /-- A record. -/
  | record
  deriving DecidableEq, Repr, Inhabited

/-- What a step gives. -/
inductive ReadItem where
  /-- A number, of whatever width. -/
  | number (n : Nat)
  /-- Octets. -/
  | octets (os : Octets)
  /-- A name. -/
  | name (name : Name)
  /-- The header of a message. -/
  | header (header : Header)
  /-- A question. -/
  | question (question : Question)
  /-- A record. -/
  | record (record : Record)
  deriving Repr, Inhabited

namespace ReadStep

/-- The decoder of a step. -/
def run : ReadStep → Decoder ReadItem
  | .uint8 => return .number (← Decoder.uint8).toNat
  | .uint16 => return .number (← Decoder.uint16).toNat
  | .uint32 => return .number (← Decoder.uint32).toNat
  | .octets n => return .octets (← Decoder.octets n)
  | .name => return .name (← Name.decode)
  | .header => return .header (← Header.decode)
  | .question => return .question (← Question.decode)
  | .record => return .record (← Record.decode)

/-- What each step gives, and the cursor it leaves. A step that fails is followed by the next one. -/
def runAll : List ReadStep → Cursor → List (Except DecodeError ReadItem × Cursor)
  | [], _ => []
  | step :: rest, c =>
    match step.run c with
    | .ok item c' => (.ok item, c') :: runAll rest c'
    | .error cause c' => (.error cause, c') :: runAll rest c'

end ReadStep

end ZoneServer

import ZoneServer.Record.Basic
import ZoneServer.Message.Header
import ZoneServer.Message.Question

/-!
# Writing item by item

A buffer can be written by a sequence of steps, each of which writes one item at the place that the step
before has left. A step may also be a group of steps preceded by their length; a group stops at its
first failure, but a step of it that is only attempted may fail and the group goes on.
`WriteStep.runAll` goes on after a step that fails, and its answers show what each step came to and the
buffer it left.
-/

namespace ZoneServer

/-- What a step writes. -/
inductive WriteStep where
  /-- A number in one octet. -/
  | uint8 (n : UInt8)
  /-- A number in two octets. -/
  | uint16 (n : UInt16)
  /-- A number in four octets. -/
  | uint32 (n : UInt32)
  /-- Octets. -/
  | octets (os : Octets)
  /-- Nothing yet, in so many octets. -/
  | reserve (n : Nat)
  /-- A number in place of two octets at an offset. -/
  | patch (n : UInt16) (offset : Nat)
  /-- A name. -/
  | name (name : Name)
  /-- The header of a message. -/
  | header (header : Header)
  /-- A question. -/
  | question (question : Question)
  /-- A record. -/
  | record (record : Record)
  /-- What other steps write, preceded by its length. -/
  | lengthPrefixed (payload : List WriteStep)
  /-- What another step writes, be it only in part because the step fails. -/
  | attempt (step : WriteStep)
  deriving Repr, Inhabited

namespace WriteStep

mutual

/-- The encoder of a step. Reserving octets gives the offset at which they start. -/
def run : WriteStep → Encoder (Option Nat)
  | .uint8 n => do Encoder.uint8 n; return none
  | .uint16 n => do Encoder.uint16 n; return none
  | .uint32 n => do Encoder.uint32 n; return none
  | .octets os => do Encoder.octets os; return none
  | .reserve n => return some (← Encoder.reserve n)
  | .patch n offset => do Encoder.patch n offset; return none
  | .name n => do n.encode; return none
  | .header h => do h.encode; return none
  | .question q => do q.encode; return none
  | .record r => do r.encode; return none
  | .lengthPrefixed payload => do Encoder.lengthPrefixed (runGroup payload); return none
  | .attempt step => do Encoder.attempt (run step); return none

/-- The encoder of a group of steps, up to the first that fails. -/
def runGroup : List WriteStep → Encoder Unit
  | [] => pure ()
  | step :: rest => do
    let _ ← run step
    runGroup rest

end

/-- What each step comes to, and the buffer it leaves. A step that fails is followed by the next one. -/
def runAll : List WriteStep → Buffer → List (Except EncodeError (Option Nat) × Buffer)
  | [], _ => []
  | step :: rest, b =>
    match step.run b with
    | .ok offset b' => (.ok offset, b') :: runAll rest b'
    | .error cause b' => (.error cause, b') :: runAll rest b'

end WriteStep

end ZoneServer

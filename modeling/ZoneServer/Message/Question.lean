import ZoneServer.Name.Wire
import ZoneServer.Record.TypeCode

/-!
# Questions

A question asks for the records of one type and one class that a name owns. Any type may be asked for.
-/

namespace ZoneServer

/-- A question. -/
structure Question where
  /-- The name that is asked about. -/
  name : Name
  /-- The type of records that are asked for. -/
  typeCode : TypeCode
  /-- The class of records that are asked for. -/
  classCode : UInt16
  deriving BEq, Repr, Inhabited

namespace Question

/-- A question for records of the class of the internet. -/
def internet (name : Name) (typeCode : TypeCode) : Question := ⟨name, typeCode, internetClass⟩

/-- Writes a question. -/
def encode (q : Question) : Encoder Unit := do
  q.name.encode
  Encoder.uint16 q.typeCode
  Encoder.uint16 q.classCode

/-- Reads a question whose name is read in a given way. -/
def decodeWith (decodeName : Decoder Name) : Decoder Question := do
  let name ← decodeName
  let typeCode ← Decoder.uint16
  let classCode ← Decoder.uint16
  return ⟨name, typeCode, classCode⟩

/-- Reads a question. -/
def decode : Decoder Question := decodeWith Name.decode

end Question

end ZoneServer

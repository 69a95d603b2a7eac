import ZoneServer.Message.Basic

/-!
# Queries

A query asks questions. One that was received may have more octets after its questions; they are
counted and otherwise ignored.
-/

namespace ZoneServer

/-- A query, received or made to be sent. -/
structure Query extends Message where
  /-- How many octets come after the questions. -/
  trailing : Nat
  deriving BEq, Repr, Inhabited

namespace Query

/-- A query with one question. -/
def ask (id : UInt16) (name : Name) (typeCode : TypeCode) : Query :=
  { header := Header.query id 1, questions := [Question.internet name typeCode], trailing := 0 }

/-- The query in the first `length` octets of a datagram. -/
def decode (datagram : Octets) (length : Nat) : Except DecodeError Query :=
  match Message.decode (Cursor.ofPrefix datagram length) with
  | .ok m c => .ok { m with trailing := c.remaining }
  | .error cause _ => .error cause

/-- The octets of a query. -/
def encode (q : Query) : Except EncodeError Octets := Encoder.encode (q.toMessage.encode 0)

/-- The octets of a query with one question about the name that a text spells. -/
def encodeText (id : UInt16) (text : String) (typeCode : TypeCode) : Except EncodeError Octets :=
  (ask id (Name.ofString text) typeCode).encode

end Query

end ZoneServer

import ZoneServer.Message.Response

/-!
# A response in use

Whoever answers a query adds answers to a response and packs it, perhaps more than once. An `Operation`
is one such act, and `Operation.run` says what it gives and what it makes of the response.
-/

namespace ZoneServer

/-- What can be done with a response. -/
inductive Operation where
  /-- Add records after the answers there are. -/
  | add (records : List Record)
  /-- Pack the response. -/
  | pack
  /-- Pack as much of the response as fits. -/
  | packTruncated
  deriving Repr, Inhabited

namespace Operation

/-- What an operation gives, octets if it packs, and the response it leaves. -/
def run : Operation → Response → Except EncodeError (Option Octets) × Response
  | .add records, r => (.ok none, r.add records)
  | .pack, r => ((r.pack).1.map some, (r.pack).2)
  | .packTruncated, r => ((r.packTruncated).1.map some, (r.packTruncated).2)

/-- What each operation gives, and the response it leaves for the next. -/
def runAll : List Operation → Response → List (Except EncodeError (Option Octets) × Response)
  | [], _ => []
  | op :: rest, r =>
    let (result, r') := op.run r
    (result, r') :: runAll rest r'

end Operation

end ZoneServer

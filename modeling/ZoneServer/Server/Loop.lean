import ZoneServer.Server.Reply

/-!
# The server loop

The server waits for one event after another. A datagram is received into a buffer of 512 octets, which
is never cleared, and is answered at once; errors in receiving and in sending are passed over; only a
request to shut down ends the loop. `serve` gives the replies that are sent, or tried to be sent, and to
whom.
-/

namespace ZoneServer

/-- Why a datagram could not be received or sent. -/
inductive TransportError where
  /-- The peer of an earlier datagram has gone away. -/
  | connection
  /-- Anything else. -/
  | other
  deriving DecidableEq, Repr, Inhabited

/-- What a server can meet with. -/
inductive Event (Peer : Type) where
  /-- A peer has sent a datagram; `sent` says whether a reply to it could be sent. -/
  | datagram (peer : Peer) (octets : Octets) (sent : Except TransportError Unit)
  /-- Nothing could be received. -/
  | receiveFailed (cause : TransportError)
  /-- The server is asked to shut down. -/
  | shutdown
  deriving Inhabited

/-- The buffer into which datagrams are received. -/
structure ReceiveBuffer where
  /-- The octets of the last datagram and, after them, what was there before. -/
  cells : Octets
  deriving DecidableEq, Repr, Inhabited

namespace ReceiveBuffer

/-- The buffer before anything is received. -/
def empty : ReceiveBuffer := ⟨List.replicate maxMessageSize 0⟩

/-- Receives a datagram into the front of the buffer, as much of it as there is space for, and says how
many octets that were. -/
def receive (buffer : ReceiveBuffer) (datagram : Octets) : Nat × ReceiveBuffer :=
  let received := datagram.take buffer.cells.length
  (received.length, ⟨received ++ buffer.cells.drop received.length⟩)

end ReceiveBuffer

/-- What a server has done when it stops or the events end. -/
structure Service (Peer : Type) where
  /-- The replies that were sent or tried to be sent, and to whom, in order. -/
  replies : List (Peer × Octets)
  /-- Whether the server was shut down. -/
  stopped : Bool
  deriving Inhabited

namespace Service

/-- Puts a reply, if there is one, before all others. -/
def withReply {Peer : Type} (peer : Peer) (reply : Option Octets) (s : Service Peer) :
    Service Peer :=
  { s with replies := (reply.toList.map fun os => (peer, os)) ++ s.replies }

end Service

/-- Meets events with a buffer that holds the remains of earlier datagrams. -/
def serveFrom {Peer : Type} (handler : Handler) (policy : OversizePolicy) :
    ReceiveBuffer → List (Event Peer) → Service Peer
  | _, [] => ⟨[], false⟩
  | _, .shutdown :: _ => ⟨[], true⟩
  | buffer, .receiveFailed _ :: rest => serveFrom handler policy buffer rest
  | buffer, .datagram peer octets _ :: rest =>
    let (length, buffer') := buffer.receive octets
    (serveFrom handler policy buffer' rest).withReply peer
      (reply handler policy (buffer'.cells.take length))

/-- Meets events one after another until the server is shut down. -/
def serve {Peer : Type} (handler : Handler) (policy : OversizePolicy) (events : List (Event Peer)) :
    Service Peer := serveFrom handler policy ReceiveBuffer.empty events

/-- Whether the end of waiting for a signal is a request to shut down. If the signal could not be waited
for, it is not. -/
def isShutdown (signal : Except TransportError Unit) : Bool :=
  match signal with
  | .ok _ => true
  | .error _ => false

/-- What the server meets with when the wait for a signal ends, if it meets with anything. -/
def Event.ofSignal? {Peer : Type} (signal : Except TransportError Unit) : Option (Event Peer) :=
  if isShutdown signal then some .shutdown else none

end ZoneServer

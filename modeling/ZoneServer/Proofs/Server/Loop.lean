import ZoneServer.Proofs.Server.Reply
import ZoneServer.Server.Loop

/-!
# Datagrams are answered one at a time

The loop has a buffer that it never clears, and it goes on after errors. Neither shows: what it sends is the
reply to each datagram by itself, to the peer it came from, until the server is shut down
(`serve_answers_each_datagram`). The buffer keeps its 512 cells, and of these only the ones that a datagram
has just been put into are read; that is all that the induction over the events has to know.
-/

namespace ZoneServer

variable {Peer : Type}

/-! ## What was received -/

/-- Whether an event ends the loop. -/
def Event.stops : Event Peer → Bool
  | .shutdown => true
  | .datagram _ _ _ | .receiveFailed _ => false

/-- The datagram that was received, if one was, and its peer. -/
def Event.datagram? : Event Peer → Option (Peer × Octets)
  | .datagram peer octets _ => some (peer, octets)
  | .receiveFailed _ | .shutdown => none

/-- The same event without errors. Nothing is left of a failure to receive. -/
def Event.untroubled? : Event Peer → Option (Event Peer)
  | .datagram peer octets _ => some (.datagram peer octets (.ok ()))
  | .receiveFailed _ => none
  | .shutdown => some .shutdown

/-- The datagrams that come before the server is shut down, in order, and their peers. -/
def received (events : List (Event Peer)) : List (Peer × Octets) :=
  (events.takeWhile fun event => !event.stops).filterMap Event.datagram?

/-- The replies to datagrams, each to its peer. A datagram counts as far as its first 512 octets. -/
def repliesTo (handler : Handler) (policy : OversizePolicy) (datagrams : List (Peer × Octets)) :
    List (Peer × Octets) :=
  datagrams.filterMap fun (peer, octets) =>
    (reply handler policy (octets.take maxMessageSize)).map fun os => (peer, os)

theorem stops_eq_true {event : Event Peer} : event.stops = true ↔ event = .shutdown := by
  cases event <;> simp [Event.stops]

theorem received_receiveFailed (cause : TransportError) (rest : List (Event Peer)) :
    received (.receiveFailed cause :: rest) = received rest := rfl

theorem received_datagram (peer : Peer) (octets : Octets) (sent : Except TransportError Unit)
    (rest : List (Event Peer)) :
    received (.datagram peer octets sent :: rest) = (peer, octets) :: received rest := rfl

variable {handler : Handler} {policy : OversizePolicy}

theorem repliesTo_cons (peer : Peer) (octets : Octets) (rest : List (Peer × Octets)) :
    repliesTo handler policy ((peer, octets) :: rest) =
      ((reply handler policy (octets.take maxMessageSize)).toList.map fun os => (peer, os)) ++
        repliesTo handler policy rest := by
  unfold repliesTo
  rw [List.filterMap_cons]
  cases h : reply handler policy (octets.take maxMessageSize) <;> simp [h]

/-! ## The buffer -/

namespace ReceiveBuffer

theorem length_cells_empty : empty.cells.length = maxMessageSize := List.length_replicate

/-- What is read of the buffer is the datagram that was put into it last. -/
theorem receive_spec {buffer : ReceiveBuffer} (h : buffer.cells.length = maxMessageSize)
    (datagram : Octets) :
    (buffer.receive datagram).2.cells.length = maxMessageSize ∧
    (buffer.receive datagram).2.cells.take (buffer.receive datagram).1 =
      datagram.take maxMessageSize := by
  have hle : (datagram.take maxMessageSize).length ≤ maxMessageSize := List.length_take_le _ _
  constructor
  · simp only [receive, List.length_append, List.length_drop, h]
    omega
  · simp only [receive, h, List.take_left']

end ReceiveBuffer

/-! ## The loop -/

theorem serveFrom_datagram (buffer : ReceiveBuffer) (peer : Peer) (octets : Octets)
    (sent : Except TransportError Unit) (rest : List (Event Peer)) :
    serveFrom handler policy buffer (.datagram peer octets sent :: rest) =
      (serveFrom handler policy (buffer.receive octets).2 rest).withReply peer (reply handler policy
        ((buffer.receive octets).2.cells.take (buffer.receive octets).1)) := rfl

/-- What the loop does depends on its events alone, and not on what its buffer holds. -/
theorem serveFrom_eq {buffer : ReceiveBuffer} (hbuffer : buffer.cells.length = maxMessageSize)
    (events : List (Event Peer)) :
    serveFrom handler policy buffer events =
      ⟨repliesTo handler policy (received events), events.any Event.stops⟩ := by
  induction events generalizing buffer with
  | nil => rfl
  | cons event rest ih =>
    cases event with
    | shutdown => rfl
    | receiveFailed cause =>
      rw [received_receiveFailed, serveFrom, ih hbuffer]
      rfl
    | datagram peer octets sent =>
      obtain ⟨hcells, hread⟩ := ReceiveBuffer.receive_spec hbuffer octets
      rw [received_datagram, repliesTo_cons, serveFrom_datagram, hread, ih hcells]
      rfl

theorem serve_eq (events : List (Event Peer)) : serve handler policy events =
    ⟨repliesTo handler policy (received events), events.any Event.stops⟩ :=
  serveFrom_eq ReceiveBuffer.length_cells_empty events

/-- Errors make no difference to the loop. -/
theorem serveFrom_untroubled (buffer : ReceiveBuffer) (events : List (Event Peer)) :
    serveFrom handler policy buffer (events.filterMap Event.untroubled?) =
      serveFrom handler policy buffer events := by
  induction events generalizing buffer with
  | nil => rfl
  | cons event rest ih =>
    cases event with
    | shutdown => rfl
    | receiveFailed cause => exact ih buffer
    | datagram peer octets sent =>
      have hkept : (Event.datagram peer octets sent).untroubled? =
          some (.datagram peer octets (.ok ())) := rfl
      rw [List.filterMap_cons_some hkept, serveFrom_datagram, serveFrom_datagram, ih]

namespace Service

/-- What is done in all, if more is done unless the server was shut down. -/
def followedBy (s more : Service Peer) : Service Peer :=
  if s.stopped then s else ⟨s.replies ++ more.replies, more.stopped⟩

theorem followedBy_withReply (peer : Peer) (os? : Option Octets) (s more : Service Peer) :
    (s.withReply peer os?).followedBy more = (s.followedBy more).withReply peer os? := by
  unfold followedBy withReply
  split
  · rfl
  · rw [List.append_assoc]

end Service

/-- The loop goes on with whatever comes next, unless it was shut down. -/
theorem serveFrom_append {buffer : ReceiveBuffer} (hbuffer : buffer.cells.length = maxMessageSize)
    (events more : List (Event Peer)) :
    serveFrom handler policy buffer (events ++ more) =
      (serveFrom handler policy buffer events).followedBy (serve handler policy more) := by
  induction events generalizing buffer with
  | nil =>
    rw [List.nil_append, serveFrom_eq hbuffer, ← serve_eq]
    rfl
  | cons event rest ih =>
    cases event with
    | shutdown => rfl
    | receiveFailed cause => exact ih hbuffer
    | datagram peer octets sent =>
      obtain ⟨hcells, -⟩ := ReceiveBuffer.receive_spec hbuffer octets
      rw [List.cons_append, serveFrom_datagram, serveFrom_datagram, ih hcells,
        Service.followedBy_withReply]

/-- A signal ends the loop, whatever would have come after it. To wait for one in vain is to go on as if
there were none. -/
theorem serve_signal (signal : Except TransportError Unit) (before after : List (Event Peer)) :
    serve handler policy (before ++ ((Event.ofSignal? signal).toList ++ after)) =
      if isShutdown signal then ⟨(serve handler policy before).replies, true⟩
      else serve handler policy (before ++ after) := by
  cases signal with
  | error cause => rfl
  | ok =>
    have hended : serve handler policy (.shutdown :: after) = ⟨[], true⟩ := rfl
    have hsignal : (Event.ofSignal? (.ok ()) : Option (Event Peer)).toList ++ after =
        .shutdown :: after := rfl
    rw [if_pos (show isShutdown (.ok ()) = true from rfl), hsignal, serve,
      serveFrom_append ReceiveBuffer.length_cells_empty, hended, ← serve, Service.followedBy]
    split
    · rename_i hstopped
      rw [← hstopped]
    · rw [List.append_nil]

/-! ## Every datagram is answered by itself -/

/-- Whatever happens, the replies that are sent or tried to be sent are the replies to the first 512 octets
of each datagram that came before the server was shut down, in order and each to the peer that the datagram
came from. What earlier datagrams have left in the buffer makes no difference to them, and neither do errors
in receiving and in sending. The loop ends if the server is shut down and in no other way: until then it
goes on with whatever comes next. -/
theorem serve_answers_each_datagram (handler : Handler) (policy : OversizePolicy)
    (events : List (Event Peer)) :
    (serve handler policy events).replies = repliesTo handler policy (received events) ∧
    (∀ buffer : ReceiveBuffer, buffer.cells.length = maxMessageSize →
      serveFrom handler policy buffer events = serve handler policy events) ∧
    serve handler policy (events.filterMap Event.untroubled?) = serve handler policy events ∧
    ((serve handler policy events).stopped = true ↔ Event.shutdown ∈ events) ∧
    (∀ more, serve handler policy (events ++ more) =
      (serve handler policy events).followedBy (serve handler policy more)) := by
  refine ⟨?_, fun buffer hbuffer => ?_, serveFrom_untroubled _ _, ?_,
    serveFrom_append ReceiveBuffer.length_cells_empty events⟩
  · rw [serve_eq]
  · rw [serve_eq, serveFrom_eq hbuffer]
  · simp only [serve_eq, List.any_eq_true, stops_eq_true, exists_eq_right]

/-- What a server meets with in which a long datagram comes before a short one, nothing can be received
twice, a reply cannot be sent, and a datagram comes too late. -/
def troubledEvents : List (Event Nat) :=
  [.datagram 1 (rootQuery.toMessage.wire 0 ++ List.replicate 600 255) (.ok ()),
    .receiveFailed .connection, .datagram 2 [0, 9] (.ok ()), .receiveFailed .other,
    .datagram 3 (rootQuery.toMessage.wire 0) (.error .other), .shutdown,
    .datagram 4 (rootQuery.toMessage.wire 0) (.ok ())]

theorem serve_troubledEvents :
    (serve Response.ofQuery .drop troubledEvents).replies =
      [(1, (Response.ofQuery rootQuery).wire), (3, (Response.ofQuery rootQuery).wire)] ∧
    (serve Response.ofQuery .drop troubledEvents).stopped = true := by
  obtain ⟨hreplies, -, -, hstopped, -⟩ :=
    serve_answers_each_datagram Response.ofQuery .drop troubledEvents
  refine ⟨?_, hstopped.2 (by repeat constructor)⟩
  have hvalid : rootQuery.toMessage.Valid := Response.crowded_valid.message
  have hanswered : ∀ after, reply Response.ofQuery .drop
      ((rootQuery.toMessage.wire 0 ++ after).take maxMessageSize) =
        some (Response.ofQuery rootQuery).wire := by
    intro after
    have hfits : (rootQuery.toMessage.wire 0).take maxMessageSize = rootQuery.toMessage.wire 0 := by
      decide
    have hpack := Response.pack_of_valid (r := Response.ofQuery rootQuery) ⟨hvalid, nofun⟩
    rw [if_pos (by decide)] at hpack
    rw [List.take_append, hfits, reply_of_decode (Query.decode_wire_append hvalid (by decide) _)]
    exact congrArg Except.toOption hpack
  have hshort := hanswered []
  rw [List.append_nil] at hshort
  have hmalformed : reply Response.ofQuery .drop (([0, 9] : Octets).take maxMessageSize) = none := rfl
  have hreceived : received troubledEvents = [(1, rootQuery.toMessage.wire 0 ++ List.replicate 600 255),
      (2, [0, 9]), (3, rootQuery.toMessage.wire 0)] := rfl
  rw [hreplies, hreceived, repliesTo_cons, repliesTo_cons, repliesTo_cons, hanswered, hmalformed, hshort]
  rfl

end ZoneServer

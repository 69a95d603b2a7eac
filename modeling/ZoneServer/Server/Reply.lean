import ZoneServer.Message.Response

/-!
# Replies

A server turns a datagram into a reply or leaves it unanswered. What to answer is up to a handler, a
function from queries to responses; what to do with a response that does not fit is up to a policy.
-/

namespace ZoneServer

/-- What is done with a response that does not fit in a message. -/
inductive OversizePolicy where
  /-- Send the answers that fit, and say that there are more. -/
  | truncate
  /-- Send nothing. -/
  | drop
  deriving DecidableEq, Repr, Inhabited

/-- Packs a response under a policy. -/
def OversizePolicy.pack : OversizePolicy → Response → Except EncodeError Octets × Response
  | .truncate, r => r.packTruncated
  | .drop, r => r.pack

/-- What decides the answers to a query. -/
abbrev Handler := Query → Response

/-- The reply to a datagram. There is none if the datagram is no query or its response cannot be
packed. -/
def reply (handler : Handler) (policy : OversizePolicy) (datagram : Octets) : Option Octets :=
  match Query.decode datagram datagram.length with
  | .error _ => none
  | .ok q => (policy.pack (handler q)).1.toOption

end ZoneServer

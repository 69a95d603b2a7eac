import ZoneServer.Proofs.Message.Admits
import ZoneServer.Proofs.Message.Truncation
import ZoneServer.Server.Reply

/-!
# Replies under either policy

The policies part ways only over a response that does not fit, and nothing that a handler puts into a
response makes a difference to that. Where one policy drops the response, the other may have a reply;
this reply has fewer answers than there are and says so (`policies_agree`).
-/

namespace ZoneServer

/-! ## When there is a reply -/

theorem reply_of_decode {handler : Handler} {policy : OversizePolicy} {datagram : Octets} {q : Query}
    (h : Query.decode datagram datagram.length = .ok q) :
    reply handler policy datagram = (policy.pack (handler q)).1.toOption := by
  rw [reply, h]

theorem reply_eq_some {handler : Handler} {policy : OversizePolicy} {datagram os : Octets} :
    reply handler policy datagram = some os ↔ ∃ q, Query.decode datagram datagram.length = .ok q ∧
      (policy.pack (handler q)).1 = .ok os := by
  unfold reply
  cases hdecode : Query.decode datagram datagram.length with
  | error cause => simp
  | ok q =>
    simp only [Except.ok.injEq, exists_eq_left']
    cases (policy.pack (handler q)).1 <;> simp [Except.toOption]

theorem isSome_reply {handler : Handler} {policy : OversizePolicy} {datagram : Octets} :
    (reply handler policy datagram).isSome ↔ ∃ q, Query.decode datagram datagram.length = .ok q ∧
      ∃ os, (policy.pack (handler q)).1 = .ok os := by
  simp only [Option.isSome_iff_exists, reply_eq_some]
  constructor
  · rintro ⟨os, q, hdecode, hpack⟩
    exact ⟨q, hdecode, os, hpack⟩
  · rintro ⟨q, hdecode, os, hpack⟩
    exact ⟨os, q, hdecode, hpack⟩

/-! ## What the policies make of a response -/

namespace OversizePolicy

variable {r : Response} {os : Octets}

/-- What is packed under either policy are the octets of a valid response that fits. -/
theorem exists_wire_of_pack {policy : OversizePolicy} (h : (policy.pack r).1 = .ok os) :
    ∃ r' : Response, r'.Valid ∧ r'.wireLength ≤ maxMessageSize ∧ os = r'.wire := by
  cases policy with
  | drop => exact ⟨r, Response.pack_eq_ok.1 h⟩
  | truncate =>
    have hpack : r.packTruncated.1 = .ok os := h
    cases r.shortening with
    | packed _ hresult =>
      rw [hresult] at hpack
      exact ⟨r, Response.pack_eq_ok.1 hpack⟩
    | refused _ hresult =>
      rw [hresult] at hpack
      cases hpack
    | cut _ _ _ hresult =>
      rw [hresult] at hpack
      exact ⟨_, Response.pack_eq_ok.1 hpack⟩

theorem length_of_pack {policy : OversizePolicy} (h : (policy.pack r).1 = .ok os) :
    12 ≤ os.length ∧ os.length ≤ 512 := by
  obtain ⟨r', hvalid, hroom, rfl⟩ := exists_wire_of_pack h
  rw [Response.length_wire hvalid]
  refine ⟨?_, hroom⟩
  rw [Response.wireLength, Message.wireLength]
  omega

/-- What can be packed is not cut short. -/
theorem pack_truncate_of_drop (h : (drop.pack r).1 = .ok os) : (truncate.pack r).1 = .ok os := by
  have hpack : r.pack.1 = .ok os := h
  rw [pack, Response.packTruncated_of_ne (by rw [hpack]; simp), hpack]

end OversizePolicy

/-- The octets of a message that says in its header that answers are missing, and that there are fewer
of them than so many. -/
def MarkedShort (os : Octets) (available : Nat) : Prop :=
  ∃ h c, Header.decode (.ofPrefix os os.length) = .ok h c ∧ h.truncated = true ∧
    h.answerCount.toNat < available

theorem markedShort_of_cut {r : Response} {os : Octets} {count : Nat} (hlt : count < r.answers.length)
    (hpack : (r.truncate count).pack.1 = .ok os) : MarkedShort os r.answers.length := by
  obtain ⟨hvalid, hroom, rfl⟩ := Response.pack_eq_ok.1 hpack
  obtain ⟨c, hread⟩ := Response.decode_sentHeader (r.truncate count)
  refine ⟨_, c, hread, rfl, ?_⟩
  have hcount : (UInt16.ofNat (r.truncate count).answers.length).toNat = _ :=
    Message.toNat_count (Response.answers_length_le hroom)
  have htake : (r.truncate count).answers.length ≤ count := List.length_take_le count r.answers
  exact lt_of_le_of_lt (hcount.trans_le htake) hlt

/-- A response that is packed under one policy only has been cut short. -/
theorem markedShort_of_truncate {r : Response} {os : Octets}
    (hdrop : ∀ os, (OversizePolicy.drop.pack r).1 ≠ .ok os)
    (h : (OversizePolicy.truncate.pack r).1 = .ok os) : MarkedShort os r.answers.length := by
  cases r.shortening with
  | packed _ hresult =>
    rw [OversizePolicy.pack, hresult] at h
    exact absurd h (hdrop os)
  | refused _ hresult =>
    rw [OversizePolicy.pack, hresult] at h
    cases h
  | cut _ hlt hpack hresult =>
    rw [OversizePolicy.pack, hresult] at h
    exact markedShort_of_cut hlt h

/-! ## The policies agree wherever both reply -/

/-- Whatever the handler, a reply that is sent although responses that do not fit are dropped is sent as
well when they are cut short. A reply that is sent only then says that answers are missing, and it has
fewer than the handler gave. What is not a query has no reply, and no reply is shorter than a header or
longer than a message may be. -/
theorem policies_agree (handler : Handler) (datagram : Octets) :
    (∀ os, reply handler .drop datagram = some os → reply handler .truncate datagram = some os) ∧
    (∀ os, reply handler .drop datagram = none → reply handler .truncate datagram = some os →
      ∃ q, Query.decode datagram datagram.length = .ok q ∧
        MarkedShort os (handler q).answers.length) ∧
    (∀ cause, Query.decode datagram datagram.length = .error cause →
      ∀ policy, reply handler policy datagram = none) ∧
    (∀ policy os, reply handler policy datagram = some os → 12 ≤ os.length ∧ os.length ≤ 512) := by
  refine ⟨fun os hdrop => ?_, fun os hdrop htruncate => ?_, fun cause hdecode policy => ?_,
    fun policy os hreply => ?_⟩
  · obtain ⟨q, hdecode, hpack⟩ := reply_eq_some.1 hdrop
    exact reply_eq_some.2 ⟨q, hdecode, OversizePolicy.pack_truncate_of_drop hpack⟩
  · obtain ⟨q, hdecode, hpack⟩ := reply_eq_some.1 htruncate
    refine ⟨q, hdecode, markedShort_of_truncate ?_ hpack⟩
    intro os' hos'
    rw [reply_eq_some.2 ⟨q, hdecode, hos'⟩] at hdrop
    cases hdrop
  · rw [reply, hdecode]
  · obtain ⟨q, -, hpack⟩ := reply_eq_some.1 hreply
    exact OversizePolicy.length_of_pack hpack

/-- A query that is answered with more than fits. -/
def rootQuery : Query := Query.ask 7 Name.root TypeCode.address

theorem policies_on_rootQuery :
    reply (fun _ => Response.crowded) .drop (rootQuery.toMessage.wire 0) = none ∧
    ∃ os, reply (fun _ => Response.crowded) .truncate (rootQuery.toMessage.wire 0) = some os ∧
      MarkedShort os 60 := by
  have hvalid : rootQuery.toMessage.Valid := Response.crowded_valid.message
  have hdecode := Query.decode_wire hvalid (by decide)
  have hfull : (OversizePolicy.drop.pack Response.crowded).1 = .error .bufferFull := by
    rw [OversizePolicy.pack, Response.pack_of_valid Response.crowded_valid, if_neg (by decide)]
  have hdrop : reply (fun _ => Response.crowded) .drop (rootQuery.toMessage.wire 0) = none := by
    rw [reply_of_decode hdecode, hfull]
    rfl
  obtain ⟨os, hos⟩ := (Response.packTruncated_ok_iff Response.crowded_valid).2 (by decide)
  have htruncate : reply (fun _ => Response.crowded) .truncate (rootQuery.toMessage.wire 0) =
      some os := reply_eq_some.2 ⟨_, hdecode, hos⟩
  obtain ⟨-, hshort, -, -⟩ :=
    policies_agree (fun _ => Response.crowded) (rootQuery.toMessage.wire 0)
  obtain ⟨q, -, hmarked⟩ := hshort os hdrop htruncate
  exact ⟨hdrop, os, htruncate, hmarked⟩

end ZoneServer

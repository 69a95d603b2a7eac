import ZoneServer.Proofs.Message.Admits

/-!
# What was read can be written, if it fits

A message takes more octets when its names are written in full than it took with pointers, so what was
read may not fit in a message any more. That is all that can go wrong, and what is then read of the new
octets is what was read before, apart from the counts of the sections that are left out.
-/

namespace ZoneServer

/-- What is written if it fits fails exactly if it does not. -/
theorem eq_bufferFull_iff {result : Except EncodeError Octets} {size : Nat} {os : Octets}
    (h : result = if size ≤ maxMessageSize then .ok os else .error .bufferFull) :
    result = .error .bufferFull ↔ maxMessageSize < size := by
  by_cases hroom : size ≤ maxMessageSize
  · rw [h, if_pos hroom]
    exact ⟨fun hok => (by cases hok), fun hfull => absurd hroom (Nat.not_le.2 hfull)⟩
  · rw [h, if_neg hroom]
    exact ⟨fun _ => Nat.not_le.1 hroom, fun _ => rfl⟩

namespace Response

/-- A response that was read either does not fit or is read again as it was. -/
theorem pack_of_settled {r : Response} (h : r.Settled) :
    r.pack.1 = .error .bufferFull ∨ ∃ os, r.pack.1 = .ok os ∧ decode os os.length =
      .ok { r with header := { r.header with authorityCount := 0, additionalCount := 0 } } := by
  rw [pack_of_valid h.valid]
  by_cases hroom : r.wireLength ≤ maxMessageSize
  · rw [if_pos hroom]
    refine .inr ⟨r.wire, rfl, ?_⟩
    rw [decode_wire h.valid h.faithful hroom, received_of_settled h]
  · rw [if_neg hroom]
    exact .inl rfl

end Response

namespace Query

/-- A query that was read either does not fit or is read again as it was. -/
theorem encode_of_settled {q : Query} (h : q.toMessage.Settled) :
    q.encode = .error .bufferFull ∨ ∃ os, q.encode = .ok os ∧ decode os os.length =
      .ok { q with
        header := { q.header with answerCount := 0, authorityCount := 0, additionalCount := 0 }
        trailing := 0 } := by
  rw [encode_of_valid h.valid]
  by_cases hroom : q.wireLength ≤ maxMessageSize
  · rw [if_pos hroom]
    refine .inr ⟨q.toMessage.wire 0, rfl, ?_⟩
    rw [decode_wire h.valid hroom, Message.received_of_settled h]
  · rw [if_neg hroom]
    exact .inl rfl

end Query

/-- Whatever is read from a datagram, however its names are compressed, can be written in full unless it
takes more than 512 octets, and it is then read again as what it was. The counts of the sections that are
not written are zero. -/
theorem decoded_is_encoded_if_it_fits (datagram : Octets) (length : Nat) :
    (∀ r, Response.decode datagram length = .ok r →
      (r.pack.1 = .error .bufferFull ↔
        512 < 12 + (r.questions.map fun q => q.name.encodedLength + 4).sum +
          (r.answers.map fun record =>
            record.owner.encodedLength + 10 + record.payload.wireLength).sum) ∧
      (r.pack.1 = .error .bufferFull ∨ ∃ os, r.pack.1 = .ok os ∧
        Response.decode os os.length =
          .ok { r with header := { r.header with authorityCount := 0, additionalCount := 0 } })) ∧
    (∀ q, Query.decode datagram length = .ok q →
      (q.encode = .error .bufferFull ↔
        512 < 12 + (q.questions.map fun question => question.name.encodedLength + 4).sum) ∧
      (q.encode = .error .bufferFull ∨ ∃ os, q.encode = .ok os ∧
        Query.decode os os.length =
          .ok { q with
            header := { q.header with answerCount := 0, authorityCount := 0, additionalCount := 0 }
            trailing := 0 })) := by
  refine ⟨fun r hr => ?_, fun q hq => ?_⟩
  · have hsettled := Response.settled_of_decode hr
    exact ⟨eq_bufferFull_iff (Response.pack_of_valid hsettled.valid), Response.pack_of_settled hsettled⟩
  · have hsettled := Query.settled_of_decode hq
    exact ⟨eq_bufferFull_iff (Query.encode_of_valid hsettled.valid), Query.encode_of_settled hsettled⟩

/-- A query whose second question has a pointer to the name of the first, and an octet after it. -/
def compressedQuery : Octets :=
  [0, 7, 1, 0, 0, 2, 0, 1, 0, 0, 0, 0, 1, 97, 0, 0, 1, 0, 1, 192, 12, 0, 15, 0, 1, 255]

/-- A response in whose answer the owner is a pointer to the name that was asked about, and the host that takes
mail is a label and the same pointer. -/
def compressedResponse : Octets :=
  [0, 7, 4, 0, 0, 1, 0, 1, 0, 2, 0, 0] ++ ([1, 97, 0, 0, 15, 0, 1] ++
    [192, 12, 0, 15, 0, 1, 0, 0, 0, 60, 0, 6, 0, 5, 1, 98, 192, 12])

theorem exists_eq_ok_of_toOption {ε α β : Type} {result : Except ε α} {f : α → β} {b : β}
    (h : result.toOption.map f = some b) : ∃ a, result = .ok a ∧ f a = b := by
  cases result with
  | error cause => cases h
  | ok a => exact ⟨a, rfl, Option.some.inj h⟩

theorem exists_octets_of_room {result : Except EncodeError Octets} {size : Nat} {P : Octets → Prop}
    (hsize : size ≤ 512) (hfull : result = .error .bufferFull ↔ 512 < size)
    (h : result = .error .bufferFull ∨ ∃ os, result = .ok os ∧ P os) : ∃ os, result = .ok os ∧ P os := by
  rcases h with hpack | hwritten
  · exact absurd (hfull.1 hpack) (Nat.not_lt.2 hsize)
  · exact hwritten

/-- In full the payload of the answer takes an octet more than the six that it took. -/
theorem compressed_messages_are_encoded :
    (∃ r os, Response.decode compressedResponse 37 = .ok r ∧
      (r.answers.map fun record => (record.owner.labels, record.payload.wireLength)) = [([['a']], 7)] ∧
      r.pack.1 = .ok os ∧ Response.decode os os.length =
        .ok { r with header := { r.header with authorityCount := 0, additionalCount := 0 } }) ∧
    ∃ q os, Query.decode compressedQuery 26 = .ok q ∧ q.encode = .ok os ∧
      Query.decode os os.length =
        .ok { q with
          header := { q.header with answerCount := 0, authorityCount := 0, additionalCount := 0 }
          trailing := 0 } := by
  obtain ⟨hresponses, -⟩ := decoded_is_encoded_if_it_fits compressedResponse 37
  obtain ⟨-, hqueries⟩ := decoded_is_encoded_if_it_fits compressedQuery 26
  constructor
  · have hfound : ((Response.decode compressedResponse 37).toOption.map fun r =>
        (12 + (r.questions.map fun q => q.name.encodedLength + 4).sum +
            (r.answers.map fun record =>
              record.owner.encodedLength + 10 + record.payload.wireLength).sum,
          r.answers.map fun record => (record.owner.labels, record.payload.wireLength))) =
        some (39, [([['a']], 7)]) := by
      decide +kernel
    obtain ⟨r, hdecode, hvalues⟩ := exists_eq_ok_of_toOption hfound
    obtain ⟨hsize, hanswers⟩ := Prod.mk.inj hvalues
    obtain ⟨hfull, hread⟩ := hresponses r hdecode
    rw [hsize] at hfull
    obtain ⟨os, hpack, hagain⟩ := exists_octets_of_room (by decide) hfull hread
    exact ⟨r, os, hdecode, hanswers, hpack, hagain⟩
  · have hfound : ((Query.decode compressedQuery 26).toOption.map fun q =>
        12 + (q.questions.map fun question => question.name.encodedLength + 4).sum) = some 26 := by
      decide +kernel
    obtain ⟨q, hdecode, hsize⟩ := exists_eq_ok_of_toOption hfound
    obtain ⟨hfull, hread⟩ := hqueries q hdecode
    rw [hsize] at hfull
    obtain ⟨os, hpack, hagain⟩ := exists_octets_of_room (by decide) hfull hread
    exact ⟨q, os, hdecode, hpack, hagain⟩

end ZoneServer

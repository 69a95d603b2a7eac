import ZoneServer.Proofs.Message.Admits
import ZoneServer.Proofs.Message.Inside
import ZoneServer.Proofs.Message.Stable
import ZoneServer.Server.Reply
import ZoneServer.Zone

/-!
# Datagrams that are cut short

A datagram of which only the first octets are received is not taken for another message: what is read of
its beginning, a fault included, is read of the whole of it, unless the beginning ends too soon. So a zone
replies to the beginning of a datagram as it does to all of it, or not at all.
-/

namespace ZoneServer

namespace Cursor

theorem ofPrefix_of_le (datagram : Octets) {n m : Nat} (h : n ≤ m) :
    ofPrefix datagram m = (ofPrefix datagram n).extend ((datagram.take m).drop n) := by
  have hsplit : datagram.take n ++ (datagram.take m).drop n = datagram.take m := by
    have htake : (datagram.take m).take n = datagram.take n := by
      rw [List.take_take, Nat.min_eq_left h]
    rw [← htake, List.take_append_drop]
  simp only [ofPrefix, ofOctets, extend, List.append_toArray, hsplit]

theorem remaining_extend {c : Cursor} (h : c.position ≤ c.datagram.size) (more : Octets) :
    (c.extend more).remaining = c.remaining + more.length := by
  simp only [remaining, extend, Array.size_append, List.size_toArray]
  omega

end Cursor

section Shortened

variable {datagram : Octets} {n m : Nat}

namespace Response

theorem decode_of_le (h : n ≤ m) (hdecode : decode datagram n ≠ .error .truncated) :
    decode datagram m = decode datagram n := by
  unfold decode at hdecode ⊢
  rw [Cursor.ofPrefix_of_le datagram h]
  cases hshort : decoder (.ofPrefix datagram n) with
  | ok r c => rw [stable_decoder.ok _ hshort]
  | error cause c =>
    have hcause : cause ≠ .truncated := by
      rintro rfl
      rw [hshort] at hdecode
      exact hdecode rfl
    rw [stable_decoder.error _ hshort hcause]

end Response

namespace Query

theorem decode_of_le_of_error {cause : DecodeError} (h : n ≤ m)
    (hdecode : decode datagram n = .error cause) (hcause : cause ≠ .truncated) :
    decode datagram m = .error cause := by
  unfold decode at hdecode ⊢
  rw [Cursor.ofPrefix_of_le datagram h]
  cases hshort : Message.decode (.ofPrefix datagram n) with
  | ok message c =>
    rw [hshort] at hdecode
    cases hdecode
  | error cause' c =>
    rw [hshort] at hdecode
    cases hdecode
    rw [Message.stable_decode.error _ hshort hcause]

/-- Nothing of a query changes but the number of octets after it. -/
theorem decode_of_le_of_ok {q : Query} (h : n ≤ m) (hm : m ≤ datagram.length)
    (hdecode : decode datagram n = .ok q) :
    decode datagram m = .ok { q with trailing := q.trailing + (m - n) } := by
  obtain ⟨c, hshort, htrailing⟩ := decode_eq_ok.1 hdecode
  obtain ⟨stop, hstop, rfl, -⟩ := Message.inside_decode.ok (Nat.zero_le _) hshort
  have hmore : ((datagram.take m).drop n).length = m - n := by
    rw [List.length_drop, List.length_take, Nat.min_eq_left hm]
  have hlong := Message.stable_decode.ok ((datagram.take m).drop n) hshort
  rw [← Cursor.ofPrefix_of_le datagram h] at hlong
  refine decode_eq_ok.2 ⟨_, hlong, ?_⟩
  rw [Cursor.remaining_extend hstop, hmore, htrailing]

/-- What is read as a response is read as a query too, up to its answers. -/
theorem decode_of_response {r : Response} (h : Response.decode datagram n = .ok r) :
    ∃ q, decode datagram n = .ok q ∧ q.toMessage = r.toMessage := by
  obtain ⟨stop, hdecoder⟩ := Response.decode_eq_ok.1 h
  obtain ⟨c, hmessage, -⟩ := Response.decoder_eq_ok.1 hdecoder
  exact ⟨{ r.toMessage with trailing := c.remaining }, decode_eq_ok.2 ⟨c, hmessage, rfl⟩, rfl⟩

end Query

/-- The beginning of a datagram, as a datagram of its own, is read like the datagram up to its end. -/
theorem Query.decode_take (datagram : Octets) (n : Nat) :
    decode (datagram.take n) (datagram.take n).length = decode datagram (min n datagram.length) := by
  have hsame : Cursor.ofPrefix (datagram.take n) (datagram.take n).length =
      Cursor.ofPrefix datagram (min n datagram.length) := by
    rw [Cursor.ofPrefix, Cursor.ofPrefix, List.take_length, List.take_eq_take_min]
  rw [decode, decode, hsame]

/-- A zone replies to what a query asks, whatever comes after it. -/
theorem Zone.reply_take (zone : Zone) (policy : OversizePolicy) (datagram : Octets) (n : Nat) :
    reply zone.respond policy (datagram.take n) = none ∨
      reply zone.respond policy (datagram.take n) = reply zone.respond policy datagram := by
  unfold reply
  rw [Query.decode_take]
  cases hdecode : Query.decode datagram (min n datagram.length) with
  | error cause => exact .inl rfl
  | ok q =>
    right
    rw [Query.decode_of_le_of_ok (Nat.min_le_right _ _) le_rfl hdecode]
    -- the number of octets after the questions does not enter the response
    rfl

/-- What is read of the first octets of a datagram is read of more of them too, be it a message or a
fault, unless these octets end too soon; only the octets after a query are more by as many. So a zone
gives the same reply to the beginning of a datagram as to all of it, or none. -/
theorem shortening_keeps_meaning (datagram : Octets) :
    (∀ n m, n ≤ m → m ≤ datagram.length →
      (Response.decode datagram n ≠ .error .truncated →
        Response.decode datagram m = Response.decode datagram n) ∧
      (∀ cause, Query.decode datagram n = .error cause → cause ≠ .truncated →
        Query.decode datagram m = .error cause) ∧
      (∀ q, Query.decode datagram n = .ok q →
        Query.decode datagram m = .ok { q with trailing := q.trailing + (m - n) })) ∧
    (∀ (zone : Zone) policy n,
      reply zone.respond policy (datagram.take n) = none ∨
        reply zone.respond policy (datagram.take n) = reply zone.respond policy datagram) := by
  refine ⟨fun n m h hm => ⟨?_, ?_, ?_⟩, fun zone policy n => zone.reply_take policy datagram n⟩
  · intro hdecode
    exact Response.decode_of_le h hdecode
  · intro cause hdecode hcause
    exact Query.decode_of_le_of_error h hdecode hcause
  · intro q hdecode
    exact Query.decode_of_le_of_ok h hm hdecode

/-- A query with two questions, the second of which has a pointer to the first, and three octets after
it. -/
def queryWithRemainder : Octets :=
  [0, 7, 1, 0, 0, 2, 0, 0, 0, 0, 0, 0, 0, 0, 1, 0, 1, 192, 12, 0, 15, 0, 1, 9, 9, 9]

theorem shortening_queryWithRemainder :
    ∃ r q, Response.decode queryWithRemainder 23 = .ok r ∧
      Response.decode queryWithRemainder 26 = .ok r ∧
      Query.decode queryWithRemainder 23 = .ok q ∧
      Query.decode queryWithRemainder 26 = .ok { q with trailing := q.trailing + 3 } := by
  have hok : (Response.decode queryWithRemainder 23).isOk = true := by decide +kernel
  obtain ⟨hresponse, -, hquery⟩ :=
    (shortening_keeps_meaning queryWithRemainder).1 23 26 (by decide) (by decide)
  cases hr : Response.decode queryWithRemainder 23 with
  | error cause =>
    rw [hr] at hok
    cases hok
  | ok r =>
    obtain ⟨q, hq, -⟩ := Query.decode_of_response hr
    have hlonger : Response.decode queryWithRemainder 26 = .ok r := by
      rw [hresponse (by rw [hr]; simp), hr]
    exact ⟨r, q, rfl, hlonger, hq, hquery q hq⟩

end Shortened

end ZoneServer

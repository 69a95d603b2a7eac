import ZoneServer.Message.Response
import ZoneServer.Proofs.Name.Reads
import ZoneServer.Proofs.Wire.Stable

/-!
# Messages on longer datagrams

Reading a name may lead back and forth in a datagram, but every place it comes to is given by the octets
that it has read, and the end of the datagram is met only by asking for octets beyond it. So the decoders
of names, records and messages are all stable.
-/

namespace ZoneServer

open Decoder

/-! ## Names -/

namespace Walk

theorem stable_addLabel (walk : Walk) (os : Octets) : Stable (walk.addLabel os) := by
  unfold addLabel
  split
  · exact Stable.pure _
  · exact Stable.throw _

theorem stable_jump (walk : Walk) (place target : Nat) : Stable (walk.jump place target) := by
  refine Stable.position.bind fun here => ?_
  split
  · exact (Stable.seek target).bind fun _ => Stable.pure _
  · exact Stable.throw _

theorem stable_step (walk : Walk) : Stable walk.step := by
  refine Stable.position.bind fun place => Stable.uint8.bind fun first => ?_
  -- the first octet is the terminator, the length of a label or the start of a pointer
  split
  · exact Stable.pure _
  · split
    · refine (Stable.octets _).bind fun os => ?_
      split
      · exact stable_addLabel walk os
      · exact Stable.throw _
    · split
      · exact Stable.uint8.bind fun low => stable_jump walk place _
      · exact Stable.throw _

theorem stable_finish (walk : Walk) : Stable walk.finish := by
  refine ⟨fun {c name c'} more h => ?_, fun {c cause c'} more h => ?_⟩
  · cases h
    rfl
  · cases h

/-- However far a walk leads, it leads there on a longer datagram too. -/
theorem stable_run (walk : Walk) : Stable walk.run := by
  rw [run_eq]
  refine (stable_step walk).bind_of fun c progress c' hstep => ?_
  cases progress with
  | finished => exact stable_finish walk
  | onward next => exact stable_run next
  termination_by walk.room
  decreasing_by exact room_step hstep

end Walk

theorem Name.stable_decode : Stable Name.decode := Walk.stable_run Walk.start

/-! ## Records -/

namespace Record

theorem stable_decodePayload (typeCode : TypeCode) (length : Nat) :
    Stable (decodePayload typeCode length) := by
  unfold decodePayload decodePayloadWith decodeAddress
  split
  · split
    · exact (Stable.octets 4).map _
    · exact Stable.throw _
  · split
    · exact Stable.uint16.bind fun preference => Name.stable_decode.map _
    · split
      · exact Name.stable_decode.map _
      · split
        · exact Name.stable_decode.map _
        · exact (Stable.octets length).map _

theorem stable_decode : Stable decode := by
  refine Name.stable_decode.bind fun owner => Stable.uint16.bind fun typeCode => ?_
  refine Stable.uint16.bind fun classCode => Stable.uint32.bind fun ttl => ?_
  refine Stable.uint16.bind fun length => Stable.position.bind fun start => ?_
  refine (stable_decodePayload typeCode length.toNat).bind fun payload => ?_
  refine Stable.position.bind fun stop => ?_
  split
  · exact Stable.pure _
  · exact Stable.throw _

end Record

/-! ## Messages -/

theorem Header.stable_decode : Stable Header.decode := by
  refine Stable.uint16.bind fun id => Stable.uint8.bind fun flags => Stable.uint8.bind fun code => ?_
  refine Stable.uint16.bind fun questionCount => Stable.uint16.bind fun answerCount => ?_
  exact Stable.uint16.bind fun authorityCount => Stable.uint16.map _

theorem Question.stable_decode : Stable Question.decode :=
  Name.stable_decode.bind fun _ => Stable.uint16.bind fun _ => Stable.uint16.map _

theorem Message.stable_decode : Stable Message.decode :=
  Header.stable_decode.bind fun _ => (Question.stable_decode.times _).map _

theorem Response.stable_decoder : Stable Response.decoder :=
  Message.stable_decode.bind fun _ => (Record.stable_decode.times _).map _

end ZoneServer

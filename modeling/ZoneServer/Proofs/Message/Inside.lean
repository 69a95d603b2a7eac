import ZoneServer.Message.Query
import ZoneServer.Proofs.Name.Reads
import ZoneServer.Proofs.Wire.Inside
import ZoneServer.Record.Basic

/-!
# Reading a message stays inside the datagram

A pointer leads back to a place that was passed before, so reading a name never leaves the datagram, and
after a message has been read the octets that are left can be counted.
-/

namespace ZoneServer

open Decoder

variable {datagram : Array UInt8}

namespace Walk

/-- A walk that goes on inside the datagram when it is over. -/
def Resumes (datagram : Array UInt8) (walk : Walk) : Prop :=
  ∀ place, walk.resume = some place → place ≤ datagram.size

/-- A step that does not complete the name leads to a walk that goes on inside the datagram. -/
def Progress.Resumes (datagram : Array UInt8) : Progress → Prop
  | .finished => True
  | .onward next => next.Resumes datagram

theorem inside_addLabel {walk : Walk} (h : walk.Resumes datagram) (os : Octets) :
    Inside datagram (walk.addLabel os) (Progress.Resumes datagram) := by
  unfold addLabel
  split
  · exact Inside.pure h
  · exact Inside.throw _

theorem inside_jump {walk : Walk} (h : walk.Resumes datagram) {place : Nat}
    (hplace : place ≤ datagram.size) (target : Nat) :
    Inside datagram (walk.jump place target) (Progress.Resumes datagram) := by
  refine Inside.position.bind fun here hhere => ?_
  split
  · rename_i hback
    refine (Inside.seek (hback.1.le.trans hplace)).then fun _ => Inside.pure ?_
    -- the walk goes on after its first pointer, so a later one does not change the place
    intro resume hresume
    cases hwalk : walk.resume with
    | none =>
      rw [hwalk] at hresume
      cases hresume
      exact hhere
    | some earlier =>
      rw [hwalk] at hresume
      cases hresume
      exact h _ hwalk
  · exact Inside.throw _

theorem inside_step {walk : Walk} (h : walk.Resumes datagram) :
    Inside datagram walk.step (Progress.Resumes datagram) := by
  refine Inside.position.bind fun place hplace => Inside.uint8.then fun first => ?_
  split
  · exact Inside.pure trivial
  · split
    · refine (Inside.octets _).then fun os => ?_
      split
      · exact inside_addLabel h os
      · exact Inside.throw _
    · split
      · exact Inside.uint8.then fun low => inside_jump h hplace _
      · exact Inside.throw _

theorem inside_finish {walk : Walk} (h : walk.Resumes datagram) :
    Inside datagram walk.finish fun _ => True := by
  refine ⟨fun {place name c'} hplace hfinish => ?_, fun {place cause c'} _ hfinish => ?_⟩
  · cases hfinish
    refine ⟨walk.resume.getD place, ?_, rfl, trivial⟩
    cases hresume : walk.resume with
    | none => exact hplace
    | some resume => exact h resume hresume
  · cases hfinish

theorem inside_run {walk : Walk} (h : walk.Resumes datagram) :
    Inside datagram walk.run fun _ => True := by
  rw [run_eq]
  refine (inside_step h).read.bind fun progress hprogress => ?_
  obtain ⟨hresumes, c, c', hstep⟩ := hprogress
  cases progress with
  | finished => exact inside_finish h
  | onward next => exact inside_run hresumes
  termination_by walk.room
  decreasing_by exact room_step hstep

end Walk

theorem Name.inside_decode : Inside datagram Name.decode fun _ => True := by
  refine Walk.inside_run ?_
  intro place hplace
  cases hplace

theorem Question.inside_decode : Inside datagram Question.decode fun _ => True :=
  Name.inside_decode.then fun _ => Inside.uint16.then fun _ => Inside.uint16.then fun _ =>
    Inside.pure trivial

theorem Header.inside_decode : Inside datagram Header.decode fun _ => True := by
  refine Inside.uint16.then fun id => Inside.uint8.then fun flags => Inside.uint8.then fun code => ?_
  refine Inside.uint16.then fun questionCount => Inside.uint16.then fun answerCount => ?_
  exact Inside.uint16.then fun _ => Inside.uint16.then fun _ => Inside.pure trivial

namespace Record

theorem inside_decodePayload (typeCode : TypeCode) (length : Nat) :
    Inside datagram (decodePayload typeCode length) fun _ => True := by
  unfold decodePayload decodePayloadWith
  split
  · unfold decodeAddress
    split
    · exact (Inside.octets 4).then fun _ => Inside.pure trivial
    · exact Inside.throw _
  · split
    · exact Inside.uint16.then fun _ => Name.inside_decode.then fun _ => Inside.pure trivial
    · split
      · exact Name.inside_decode.then fun _ => Inside.pure trivial
      · split
        · exact Name.inside_decode.then fun _ => Inside.pure trivial
        · exact (Inside.octets length).then fun _ => Inside.pure trivial

theorem inside_decode : Inside datagram decode fun _ => True := by
  refine Name.inside_decode.then fun owner => Inside.uint16.then fun typeCode => ?_
  refine Inside.uint16.then fun classCode => Inside.uint32.then fun ttl => ?_
  refine Inside.uint16.then fun length => Inside.position.then fun start => ?_
  refine (inside_decodePayload typeCode length.toNat).then fun payload => ?_
  refine Inside.position.then fun stop => ?_
  split
  · exact Inside.pure trivial
  · exact Inside.throw _

end Record

theorem Message.inside_decode : Inside datagram Message.decode fun _ => True :=
  Header.inside_decode.then fun _ => (Question.inside_decode.times _).then fun _ =>
    Inside.pure trivial

end ZoneServer

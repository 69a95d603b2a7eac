import ZoneServer.Proofs.Name.Resolution
import ZoneServer.Proofs.Wire.Advances

/-!
# The octets that a name takes where it stands

A name goes on wherever its pointers lead, but where it stands it takes just its labels up to the terminator,
or up to the first pointer and with it. How many octets these are can be told without following any pointer
(`InlineName`), and reading goes on after them (`Name.inlineName_of_decode`).
-/

namespace ZoneServer

open Decoder

/-- A name that takes the octets from one place up to another where it stands. -/
inductive InlineName (datagram : Octets) : Nat → Nat → Prop where
  /-- The terminator ends the name. -/
  | terminator {place : Nat} (stands : TerminatorAt datagram place) :
    InlineName datagram place (place + 1)
  /-- After a label stands more of the name. -/
  | label {place stop : Nat} {os : Octets} (stands : LabelAt datagram place os)
    (rest : InlineName datagram (place + 1 + os.length) stop) : InlineName datagram place stop
  /-- Nothing of the name stands after a pointer. -/
  | pointer {place target : Nat} (stands : PointerAt datagram place target) :
    InlineName datagram place (place + 2)

variable {datagram : Octets} {place stop : Nat}

theorem InlineName.lt (h : InlineName datagram place stop) : place < stop := by
  induction h with
  | terminator => omega
  | label _ _ ih => omega
  | pointer => omega

theorem InlineName.unique {stop' : Nat} (h : InlineName datagram place stop)
    (h' : InlineName datagram place stop') : stop = stop' := by
  induction h with
  | terminator stands =>
    cases h' with
    | terminator => rfl
    | label stands' => exact absurd stands (Onward.label stands').not_terminatorAt
    | pointer stands' => exact absurd stands (Onward.pointer stands').not_terminatorAt
  | label stands _ ih =>
    cases h' with
    | terminator stands' => exact absurd stands' (Onward.label stands).not_terminatorAt
    | label stands' rest' =>
      obtain rfl := stands.unique stands'
      exact ih rest'
    | pointer stands' => exact absurd stands' stands.not_pointerAt
  | pointer stands =>
    cases h' with
    | terminator stands' => exact absurd stands' (Onward.pointer stands).not_terminatorAt
    | label stands' => exact absurd stands stands'.not_pointerAt
    | pointer => rfl

theorem Resolves.inlineName {labels : List Octets} (h : Resolves datagram place labels stop) :
    InlineName datagram place stop := by
  induction h with
  | terminator stands => exact .terminator stands
  | label stands _ ih => exact .label stands ih
  | pointer stands => exact .pointer stands

/-- Wherever the pointers of a name lead, reading goes on after the octets that it takes where it stands. -/
theorem Name.inlineName_of_decode {name : Name} {c c' : Cursor} (h : Name.decode c = .ok name c') :
    ∃ n, InlineName c.datagram.toList c.position (c.position + n) ∧
      c' = { c with position := c.position + n } := by
  have hlength : Walk.start.encodedLength ≤ maxNameLength := by decide
  obtain ⟨labels, stop, hresolves, -, -, rfl⟩ := Walk.resolves_of_run h hlength
  have hinline := hresolves.inlineName
  obtain ⟨n, rfl⟩ := Nat.exists_eq_add_of_le hinline.lt.le
  exact ⟨n, hinline, rfl⟩

theorem Name.decode_of_resolves {labels : List Octets} (h : Resolves datagram place labels stop)
    (hroom : 1 + (labels.map fun os => os.length + 1).sum ≤ maxNameLength) :
    Name.decode ⟨datagram.toArray, place⟩ =
      .ok ⟨labels.map Label.ofOctets⟩ ⟨datagram.toArray, stop⟩ := by
  have hstart : Walk.start.ComesFrom datagram place := fun p hp => (by cases hp)
  exact Walk.run_of_resolves h hstart hroom

/-- Where no octet stands, there is no name to read. -/
theorem Name.decode_of_exhausted {c : Cursor} (h : c.datagram.size < c.position + 1) :
    Name.decode c = .error .truncated c := by
  have hstep : Walk.start.step c = .error .truncated c := by
    rw [Walk.step, position_bind]
    exact Wire.bind_eq_error.2 (.inl (AllOrNone.uint8.of_lt c h))
  rw [Name.decode, Walk.run_eq]
  exact Wire.bind_eq_error.2 (.inl hstep)

end ZoneServer

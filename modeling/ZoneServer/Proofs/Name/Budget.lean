import Mathlib.Data.List.Perm.Subperm
import ZoneServer.Proofs.Name.Resolution

/-!
# How many steps a name takes

A label moves a walk forward and a pointer moves it back, so its place does not show how far the walk has
come. What is used up does: a label takes two octets at least of those that a name may have, and a pointer
takes one of the places in the datagram that pointers can lead to and have not led to before. Every step is
one or the other but the last (`Walk.Reached.runWithin_eq`), so there is a number of steps in which every name
is read or refused (`Name.decode_ends_within_budget`).
-/

namespace ZoneServer

namespace Walk

/-- Takes steps until the name is complete or a step fails, but no more than so many. -/
def runWithin : Nat → Walk → Cursor → Option (EStateM.Result DecodeError Cursor Name)
  | 0, _, _ => none
  | budget + 1, walk, c =>
    match walk.step c with
    | .error cause c' => some (.error cause c')
    | .ok .finished c' => some (walk.finish c')
    | .ok (.onward next) c' => runWithin budget next c'

/-- How many steps have been taken: one for each label and one for each pointer. -/
def taken (walk : Walk) : Nat := walk.labels.length + walk.visited.length

/-- What a walk has used up of a datagram of some size. -/
structure Bounded (size : Nat) (walk : Walk) : Prop where
  labels : 2 * walk.labels.length + 1 ≤ walk.encodedLength
  length : walk.encodedLength ≤ maxNameLength
  nodup : walk.visited.Nodup
  visited : ∀ target ∈ walk.visited, target < size ∧ target < pointerSpace

variable {size : Nat} {walk next : Walk} {c t t' : Cursor}

theorem bounded_start (size : Nat) : Bounded size start := by
  refine ⟨le_rfl, by decide, List.nodup_nil, ?_⟩
  intro target hmem
  cases hmem

theorem Bounded.length_labels (h : Bounded size walk) : walk.labels.length ≤ 127 := by
  have hlabels := h.labels
  have hlength := h.length
  rw [maxNameLength] at hlength
  omega

/-- There are no more different places than there are. -/
theorem Bounded.length_visited (h : Bounded size walk) : walk.visited.length ≤ min size pointerSpace := by
  have hrange : walk.visited ⊆ List.range (min size pointerSpace) := by
    intro target hmem
    rw [List.mem_range]
    exact lt_min (h.visited target hmem).1 (h.visited target hmem).2
  have hle := (h.nodup.subperm hrange).length_le
  rwa [List.length_range] at hle

theorem Bounded.taken_lt (h : Bounded size walk) : walk.taken < 128 + min size pointerSpace := by
  have hlabels := h.length_labels
  have hvisited := h.length_visited
  rw [taken]
  omega

/-- A pointer leads to a place in the datagram, and to one that pointers can lead to. -/
theorem target_lt {datagram : Octets} {place target : Nat} (h : PointerAt datagram place target) :
    target < datagram.length ∧ target < pointerSpace := by
  obtain ⟨high, low, hstands, -, rfl, hback⟩ := h
  have hroom := hstands.length_le
  rw [List.length_drop, List.length_cons, List.length_singleton] at hroom
  exact ⟨by omega, pointerTarget_lt high low⟩

theorem length_labels_push (walk : Walk) (label : Label) :
    (walk.push label).labels.length = walk.labels.length + 1 := by
  rw [push, List.length_append, List.length_singleton]

/-- A step that does not complete the name adds a label or a place. -/
theorem taken_of_step (hstep : walk.step t = .ok (.onward next) t') : next.taken = walk.taken + 1 := by
  cases step_eq_ok.1 hstep with
  | label stands room =>
    rw [taken, taken, length_labels_push]
    exact Nat.add_right_comm _ _ _
  | pointer stands fresh => rfl

theorem Bounded.step (h : Bounded t.datagram.size walk) (hstep : walk.step t = .ok (.onward next) t') :
    Bounded t.datagram.size next := by
  have hlabels := h.labels
  cases step_eq_ok.1 hstep with
  | label stands room =>
    have hcount := walk.encodedLength_push stands
    have hpos := stands.length_pos
    refine ⟨?_, hcount.trans_le room, h.nodup, h.visited⟩
    rw [length_labels_push, hcount]
    omega
  | @pointer target stands fresh =>
    refine ⟨hlabels, h.length, List.nodup_cons.2 ⟨fresh, h.nodup⟩, ?_⟩
    intro place hmem
    rcases List.mem_cons.1 hmem with rfl | hbefore
    · exact target_lt stands
    · exact h.visited place hbefore

theorem Reached.bounded (h : Reached c walk t) : Bounded c.datagram.size walk := by
  induction h with
  | start => exact bounded_start _
  | step before hstep ih =>
    rw [← before.trail.datagram_eq] at ih ⊢
    exact ih.step hstep

/-- From the start to a walk on the way, each label and each pointer has taken one step of the budget. -/
theorem Reached.runWithin_eq (h : Reached c walk t) (budget : Nat) :
    runWithin (walk.taken + budget) .start c = runWithin budget walk t := by
  induction h generalizing budget with
  | start => exact congrArg (fun n => runWithin n .start c) (Nat.zero_add budget)
  | @step walk next t t' before hstep ih =>
    have hcount : next.taken + budget = walk.taken + (budget + 1) := by
      rw [taken_of_step hstep]
      omega
    rw [hcount, ih (budget + 1), runWithin, hstep]

/-- A budget that is enough for the whole way is enough for what is left of it. -/
theorem Reached.runWithin_of_enough {budget : Nat} (h : Reached c walk t)
    (henough : 128 + min c.datagram.size pointerSpace ≤ walk.taken + budget) :
    runWithin budget walk t = some (walk.run t) := by
  induction budget generalizing walk t with
  | zero =>
    -- with nothing left, more steps would have been taken than there are
    have hlt := h.bounded.taken_lt
    omega
  | succ budget ih =>
    rw [runWithin]
    cases hstep : walk.step t with
    | error cause t' =>
      have hrun : walk.run t = .error cause t' := by
        rw [run_eq]
        exact Wire.bind_eq_error.2 (.inl hstep)
      rw [hrun]
    | ok progress t' =>
      cases progress with
      | finished => rw [run_eq, Wire.bind_of_ok hstep]
      | onward next =>
        have hcount := taken_of_step hstep
        rw [run_of_onward hstep]
        exact ih (h.step hstep) (by omega)

end Walk

/-- At any place in a datagram, or after it, reading a name ends within 128 steps and one for each place that
pointers can lead to: so many steps, or more, are enough to come to the name or to an error. However far a walk
has come, it has 127 labels at most, its pointers have led to different places, all of them in the datagram and
none of them beyond 14 bits, and it has taken one step for each label and one for each pointer. -/
theorem Name.decode_ends_within_budget (datagram : Octets) (length place : Nat) :
    (∀ spare, Walk.runWithin (128 + min (min length datagram.length) 16384 + spare) .start
        ⟨(datagram.take length).toArray, place⟩ =
      some (Name.decode ⟨(datagram.take length).toArray, place⟩)) ∧
    ∀ walk t, Walk.Reached ⟨(datagram.take length).toArray, place⟩ walk t →
      walk.labels.length ≤ 127 ∧ walk.visited.Nodup ∧
      (∀ target ∈ walk.visited, target < min length datagram.length ∧ target < 16384) ∧
      ∀ budget, Walk.runWithin (walk.labels.length + walk.visited.length + budget) .start
          ⟨(datagram.take length).toArray, place⟩ = Walk.runWithin budget walk t := by
  have hsize : (datagram.take length).toArray.size = min length datagram.length := by
    rw [List.size_toArray, List.length_take]
  constructor
  · intro spare
    refine Walk.Reached.start.runWithin_of_enough ?_
    rw [hsize, pointerSpace]
    omega
  · intro walk t hreached
    have hbounded := hreached.bounded
    rw [hsize] at hbounded
    exact ⟨hbounded.length_labels, hbounded.nodup, hbounded.visited, hreached.runWithin_eq⟩

/-- Two labels and a pointer are behind the walk when it comes to the pointer again, and the fourth step is the
one that fails. -/
theorem Name.decode_ends_pointerIntoLabel :
    ∃ walk t, Walk.Reached ⟨pointerIntoLabel.toArray, 0⟩ walk t ∧
      walk.labels.length = 2 ∧ walk.visited = [1] ∧
      Walk.runWithin 3 .start ⟨pointerIntoLabel.toArray, 0⟩ = none ∧
      Walk.runWithin 4 .start ⟨pointerIntoLabel.toArray, 0⟩ =
        some (.error .invalidPointer ⟨pointerIntoLabel.toArray, 5⟩) ∧
      Walk.runWithin 133 .start ⟨pointerIntoLabel.toArray, 0⟩ =
        some (Name.decode ⟨pointerIntoLabel.toArray, 0⟩) := by
  obtain ⟨henough, hway⟩ := Name.decode_ends_within_budget pointerIntoLabel 5 0
  have hpointer : PointerAt pointerIntoLabel 3 1 := ⟨192, 1, by decide, by decide, rfl, by decide⟩
  have hlabel : LabelAt pointerIntoLabel 0 [1, 98] := ⟨by decide, by decide, by simp, by decide⟩
  have hinner : LabelAt pointerIntoLabel 1 [98] := ⟨by decide, by decide, by simp, by decide⟩
  have hstart : Walk.Reached ⟨pointerIntoLabel.toArray, 0⟩ .start ⟨pointerIntoLabel.toArray, 0⟩ := .start
  have hread := hstart.step (Walk.step_eq_ok.2 (.label hlabel (by decide)))
  have hled := hread.step (Walk.step_eq_ok.2 (.pointer hpointer (by decide)))
  have hback := hled.step (Walk.step_eq_ok.2 (.label hinner (by decide)))
  obtain ⟨-, -, -, hspent⟩ := hway _ _ hback
  refine ⟨_, _, hback, rfl, rfl, hspent 0, ?_, henough 0⟩
  refine (hspent 1).trans ?_
  rw [Walk.runWithin, Walk.step_of_visited hpointer (by decide)]
  rfl

end ZoneServer

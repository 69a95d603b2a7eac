import Mathlib.Logic.Relation
import ZoneServer.Proofs.Name.Step

/-!
# Names without a memory

Where pointers lead can be told without a memory of where they have led: `Resolves` only looks at what
stands at each place. There is one way to go on from a place at most (`Onward`), so a walk that comes to a
place again goes around forever and resolves nothing (`neverEnds_of_cycle`). That is the only case in which
a walk with a memory gives up where one without it goes on, so reading a name finds just what the name
resolves to, if it is short enough (`Name.decode_finds_resolution`).
-/

namespace ZoneServer

open Relation

/-! ## Resolution -/

/-- What a name at a place resolves to: its labels, and the place where reading goes on after the name.
That is the place after the terminator, or after the first pointer if there is one. -/
inductive Resolves (datagram : Octets) : Nat → List Octets → Nat → Prop where
  /-- The terminator ends the name. -/
  | terminator {place : Nat} (stands : TerminatorAt datagram place) :
    Resolves datagram place [] (place + 1)
  /-- A label belongs to the name, which goes on after it. -/
  | label {place stop : Nat} {os : Octets} {labels : List Octets} (stands : LabelAt datagram place os)
    (rest : Resolves datagram (place + 1 + os.length) labels stop) :
    Resolves datagram place (os :: labels) stop
  /-- The name goes on where a pointer leads. -/
  | pointer {place target stop : Nat} {labels : List Octets} (stands : PointerAt datagram place target)
    (rest : Resolves datagram target labels stop) : Resolves datagram place labels (place + 2)

/-- A name that goes on from one place to another. -/
inductive Onward (datagram : Octets) (place : Nat) : Nat → Prop where
  /-- It goes on after a label. -/
  | label {os : Octets} (stands : LabelAt datagram place os) :
    Onward datagram place (place + 1 + os.length)
  /-- It goes on where a pointer leads. -/
  | pointer {target : Nat} (stands : PointerAt datagram place target) : Onward datagram place target

/-- However far a name is followed from a place, it goes on. -/
def NeverEnds (datagram : Octets) (place : Nat) : Prop :=
  ∀ p, ReflTransGen (Onward datagram) place p → ∃ next, Onward datagram p next

variable {datagram : Octets} {place target : Nat}

/-! ## There is one way to go on at most -/

theorem head_eq_of_starts {o o' : UInt8} {os os' l : Octets} (h : o :: os <+: l)
    (h' : o' :: os' <+: l) : o = o' := by
  obtain ⟨rest, rfl⟩ := h
  exact (List.cons_prefix_cons.1 h').1.symm

theorem LabelAt.unique {os os' : Octets} (h : LabelAt datagram place os)
    (h' : LabelAt datagram place os') : os = os' := by
  have hhead := head_eq_of_starts h.stands h'.stands
  have hlength : os.length = os'.length := by rw [← h.toNat_length, hhead, h'.toNat_length]
  have hstarts := (cons_prefix_drop.1 h.stands).2
  have hstarts' := (cons_prefix_drop.1 h'.stands).2
  exact (List.prefix_of_prefix_length_le hstarts hstarts' hlength.le).eq_of_length hlength

theorem PointerAt.unique {target' : Nat} (h : PointerAt datagram place target)
    (h' : PointerAt datagram place target') : target = target' := by
  obtain ⟨high, low, hstands, -, rfl, -⟩ := h
  obtain ⟨high', low', hstands', -, rfl, -⟩ := h'
  have hsame : [high, low] = [high', low'] :=
    (List.prefix_of_prefix_length_le hstands hstands' le_rfl).eq_of_length rfl
  obtain ⟨rfl, rfl⟩ : high = high' ∧ low = low' := by simpa using hsame
  rfl

theorem LabelAt.not_pointerAt {os : Octets} (h : LabelAt datagram place os) :
    ¬ PointerAt datagram place target := by
  rintro ⟨high, low, hstands, htop, -⟩
  have hlength := h.length_le
  rw [← h.toNat_length, head_eq_of_starts h.stands hstands, maxLabelLength] at hlength
  omega

theorem Onward.not_terminatorAt {next : Nat} (h : Onward datagram place next) :
    ¬ TerminatorAt datagram place := by
  intro hzero
  cases h with
  | label stands =>
    have hpos := stands.length_pos
    rw [← stands.toNat_length, head_eq_of_starts stands.stands hzero] at hpos
    exact absurd hpos (by decide)
  | pointer stands =>
    obtain ⟨high, low, hstands, htop, -⟩ := stands
    rw [head_eq_of_starts hstands hzero] at htop
    exact absurd htop (by decide)

theorem rightUnique_onward (datagram : Octets) : Relator.RightUnique (Onward datagram) := by
  intro place next next' h h'
  cases h with
  | label stands =>
    cases h' with
    | label stands' => rw [stands.unique stands']
    | pointer stands' => exact absurd stands' stands.not_pointerAt
  | pointer stands =>
    cases h' with
    | label stands' => exact absurd stands stands'.not_pointerAt
    | pointer stands' => exact stands.unique stands'

/-- A name resolves in one way at most. -/
theorem Resolves.unique {labels labels' : List Octets} {stop stop' : Nat}
    (h : Resolves datagram place labels stop) (h' : Resolves datagram place labels' stop') :
    labels = labels' ∧ stop = stop' := by
  induction h generalizing labels' stop' with
  | terminator stands =>
    cases h' with
    | terminator stands' => exact ⟨rfl, rfl⟩
    | label stands' => exact absurd stands (Onward.label stands').not_terminatorAt
    | pointer stands' => exact absurd stands (Onward.pointer stands').not_terminatorAt
  | label stands _ ih =>
    cases h' with
    | terminator stands' => exact absurd stands' (Onward.label stands).not_terminatorAt
    | label stands' rest' =>
      obtain rfl := stands.unique stands'
      obtain ⟨rfl, rfl⟩ := ih rest'
      exact ⟨rfl, rfl⟩
    | pointer stands' => exact absurd stands' stands.not_pointerAt
  | pointer stands _ ih =>
    cases h' with
    | terminator stands' => exact absurd stands' (Onward.pointer stands).not_terminatorAt
    | label stands' => exact absurd stands stands'.not_pointerAt
    | pointer stands' rest' =>
      obtain rfl := stands.unique stands'
      exact ⟨(ih rest').1, rfl⟩

/-! ## What never ends resolves to nothing -/

theorem NeverEnds.onward {next : Nat} (h : NeverEnds datagram place)
    (hnext : Onward datagram place next) : NeverEnds datagram next := fun p hp => h p (.head hnext hp)

theorem not_resolves_of_neverEnds {labels : List Octets} {stop : Nat} (h : NeverEnds datagram place) :
    ¬ Resolves datagram place labels stop := by
  intro hresolves
  induction hresolves with
  | terminator stands =>
    obtain ⟨next, hnext⟩ := h _ .refl
    exact hnext.not_terminatorAt stands
  | label stands _ ih => exact ih (h.onward (.label stands))
  | pointer stands _ ih => exact ih (h.onward (.pointer stands))

/-- From a place to which the name comes back, it is always possible to come back again. -/
theorem comesBack {p q : Nat} (hnext : Onward datagram p target)
    (hback : ReflTransGen (Onward datagram) target p) (h : ReflTransGen (Onward datagram) p q) :
    ReflTransGen (Onward datagram) q p := by
  induction h with
  | refl => exact .refl
  | tail _ hstep ih =>
    rcases ReflTransGen.cases_head ih with rfl | ⟨r, hr, hrest⟩
    · rwa [rightUnique_onward datagram hstep hnext]
    · rwa [rightUnique_onward datagram hstep hr]

/-- A name that comes to a place from which it goes on and comes back never ends. -/
theorem neverEnds_of_cycle {p : Nat} (h : ReflTransGen (Onward datagram) place p)
    (hnext : Onward datagram p target) (hback : ReflTransGen (Onward datagram) target p) :
    NeverEnds datagram place := by
  intro q hq
  have hreturns : ReflTransGen (Onward datagram) q p := by
    rcases ReflTransGen.total_of_right_unique (rightUnique_onward datagram) h hq with hpq | hqp
    · exact comesBack hnext hback hpq
    · exact hqp
  rcases ReflTransGen.cases_head hreturns with rfl | ⟨r, hr, -⟩
  · exact ⟨target, hnext⟩
  · exact ⟨r, hr⟩

/-! ## Walks and resolution -/

namespace Walk

variable {walk : Walk} {c c' : Cursor}

theorem run_of_onward {next : Walk} (h : walk.step c = .ok (.onward next) c') :
    walk.run c = next.run c' := by rw [run_eq, Wire.bind_of_ok h]

/-- What a walk reads is what the name resolves to, after the labels that were read before. -/
theorem resolves_of_run {name : Name} (h : walk.run c = .ok name c')
    (hlength : walk.encodedLength ≤ maxNameLength) :
    ∃ labels stop, Resolves c.datagram.toList c.position labels stop ∧
      walk.encodedLength + (labels.map fun os => os.length + 1).sum ≤ maxNameLength ∧
      name = ⟨walk.labels ++ labels.map Label.ofOctets⟩ ∧
      c' = { c with position := walk.resume.getD stop } := by
  fun_induction run walk c with
  | case1 => cases h
  | case2 walk c t hstep =>
    cases h
    cases step_eq_ok.1 hstep with
    | terminator stands =>
      exact ⟨[], _, .terminator stands, hlength, by rw [List.map_nil, List.append_nil], rfl⟩
  | case3 walk c next t hstep ih =>
    cases step_eq_ok.1 hstep with
    | label stands room =>
      rename_i os
      have hcount := walk.encodedLength_push stands
      obtain ⟨labels, stop, hrest, hroom, rfl, rfl⟩ := ih h (hcount.trans_le room)
      refine ⟨os :: labels, stop, .label stands hrest, ?_, ?_, rfl⟩
      · rw [List.map_cons, List.sum_cons]
        omega
      · rw [push, List.append_assoc, List.map_cons, List.singleton_append]
    | pointer stands fresh =>
      obtain ⟨labels, stop, hrest, hroom, rfl, rfl⟩ := ih h hlength
      refine ⟨labels, _, .pointer stands hrest, hroom, rfl, ?_⟩
      rw [getD_resume_follow]

/-- The places that pointers have led to are places from which the name has come to where it is. -/
def ComesFrom (walk : Walk) (datagram : Octets) (place : Nat) : Prop :=
  ∀ p ∈ walk.visited, ReflTransGen (Onward datagram) p place

theorem ComesFrom.onward {next : Nat} (h : walk.ComesFrom datagram place)
    (hnext : Onward datagram place next) : walk.ComesFrom datagram next :=
  fun p hp => (h p hp).tail hnext

theorem ComesFrom.follow (h : walk.ComesFrom datagram place)
    (hpointer : PointerAt datagram place target) :
    (walk.follow (place + 2) target).ComesFrom datagram target := by
  intro p hp
  rcases List.mem_cons.1 hp with rfl | hp
  · exact .refl
  · exact h.onward (.pointer hpointer) p hp

/-- A pointer to where the walk has been closes a cycle. -/
theorem ComesFrom.neverEnds (h : walk.ComesFrom datagram place)
    (hpointer : PointerAt datagram place target) (hvisited : target ∈ walk.visited) :
    NeverEnds datagram place :=
  neverEnds_of_cycle .refl (.pointer hpointer) (h target hvisited)

/-- What a name resolves to is read, if there is room for its labels. -/
theorem run_of_resolves {labels : List Octets} {stop : Nat} (h : Resolves datagram place labels stop)
    (hwalk : walk.ComesFrom datagram place)
    (hroom : walk.encodedLength + (labels.map fun os => os.length + 1).sum ≤ maxNameLength) :
    walk.run ⟨datagram.toArray, place⟩ = .ok ⟨walk.labels ++ labels.map Label.ofOctets⟩
      ⟨datagram.toArray, walk.resume.getD stop⟩ := by
  induction h generalizing walk with
  | @terminator place stands =>
    have hstep : walk.step ⟨datagram.toArray, place⟩ = .ok .finished ⟨datagram.toArray, place + 1⟩ :=
      step_eq_ok.2 (.terminator stands)
    rw [run_eq, Wire.bind_of_ok hstep, List.map_nil, List.append_nil]
    rfl
  | @label place stop os labels stands _ ih =>
    rw [List.map_cons, List.sum_cons] at hroom
    have hcount := walk.encodedLength_push stands
    have hstep : walk.step ⟨datagram.toArray, place⟩ =
        .ok (.onward (walk.push (Label.ofOctets os))) ⟨datagram.toArray, place + 1 + os.length⟩ :=
      step_eq_ok.2 (.label stands (by omega))
    have hnext : (walk.push (Label.ofOctets os)).ComesFrom datagram (place + 1 + os.length) :=
      hwalk.onward (.label stands)
    rw [run_of_onward hstep, ih hnext (by omega), push, List.append_assoc, List.map_cons,
      List.singleton_append]
  | @pointer place target stop labels stands rest ih =>
    -- a target that has been visited would lead around forever, and there would be nothing to resolve
    have hfresh : target ∉ walk.visited := fun hvisited =>
      not_resolves_of_neverEnds (hwalk.neverEnds stands hvisited) (.pointer stands rest)
    have hstep : walk.step ⟨datagram.toArray, place⟩ =
        .ok (.onward (walk.follow (place + 2) target)) ⟨datagram.toArray, target⟩ :=
      step_eq_ok.2 (.pointer stands hfresh)
    rw [run_of_onward hstep, ih (hwalk.follow stands) hroom, getD_resume_follow]
    rfl

/-! ## Walks on the way -/

/-- What walks on the way to a name have come to, and where. -/
inductive Reached (c : Cursor) : Walk → Cursor → Prop where
  /-- Before anything is read. -/
  | start : Reached c .start c
  /-- One step on. -/
  | step {walk next : Walk} {t t' : Cursor} (before : Reached c walk t)
    (taken : walk.step t = .ok (.onward next) t') : Reached c next t'

/-- What every walk on the way knows of it. -/
structure Trail (c : Cursor) (walk : Walk) (t : Cursor) : Prop where
  datagram_eq : t.datagram = c.datagram
  led : ReflTransGen (Onward c.datagram.toList) c.position t.position
  comesFrom : walk.ComesFrom c.datagram.toList t.position
  run_eq : walk.run t = start.run c

theorem Reached.trail {t : Cursor} (h : Reached c walk t) : Trail c walk t := by
  induction h with
  | start => exact ⟨rfl, .refl, fun p hp => (by cases hp), rfl⟩
  | step _ taken ih =>
    have hrun := (run_of_onward taken).symm.trans ih.run_eq
    cases step_eq_ok.1 taken with
    | label stands room =>
      rw [ih.datagram_eq] at stands
      exact ⟨ih.datagram_eq, ih.led.tail (.label stands), ih.comesFrom.onward (.label stands), hrun⟩
    | pointer stands fresh =>
      rw [ih.datagram_eq] at stands
      exact ⟨ih.datagram_eq, ih.led.tail (.pointer stands), ih.comesFrom.follow stands, hrun⟩

end Walk

/-! ## What reading a name finds -/

/-- At any place in a datagram, or after it, a name is read just if it resolves and its labels are not too
long. What is read are these labels, and reading goes on after the terminator or after the first pointer.
If a pointer is refused because the walk has been where it leads, then the name never ends and resolves to
nothing. -/
theorem Name.decode_finds_resolution (datagram : Octets) (length place : Nat) :
    (∀ name c', Name.decode ⟨(datagram.take length).toArray, place⟩ = .ok name c' ↔
      ∃ labels stop, Resolves (datagram.take length) place labels stop ∧
        1 + (labels.map fun os => os.length + 1).sum ≤ 255 ∧
        name = ⟨labels.map Label.ofOctets⟩ ∧ c' = ⟨(datagram.take length).toArray, stop⟩) ∧
    (∀ labels stop labels' stop', Resolves (datagram.take length) place labels stop →
      Resolves (datagram.take length) place labels' stop' → labels = labels' ∧ stop = stop') ∧
    (∀ walk t target, Walk.Reached ⟨(datagram.take length).toArray, place⟩ walk t →
      PointerAt (datagram.take length) t.position target → target ∈ walk.visited →
        (∃ c', Name.decode ⟨(datagram.take length).toArray, place⟩ = .error .invalidPointer c') ∧
        NeverEnds (datagram.take length) place ∧
        ∀ labels stop, ¬ Resolves (datagram.take length) place labels stop) := by
  refine ⟨fun name c' => ⟨fun h => ?_, ?_⟩, fun _ _ _ _ h h' => h.unique h', ?_⟩
  · have hlength : Walk.start.encodedLength ≤ maxNameLength := by decide
    exact Walk.resolves_of_run h hlength
  · rintro ⟨labels, stop, hresolves, hroom, rfl, rfl⟩
    have hstart : Walk.start.ComesFrom (datagram.take length) place := fun p hp => (by cases hp)
    exact Walk.run_of_resolves hresolves hstart hroom
  · intro walk t target hreached hpointer hvisited
    obtain ⟨hdatagram, hled, hcomes, hrun⟩ := hreached.trail
    have hends : NeverEnds (datagram.take length) place :=
      neverEnds_of_cycle hled (.pointer hpointer) (hcomes target hvisited)
    refine ⟨?_, hends, fun labels stop => not_resolves_of_neverEnds hends⟩
    have hstands : PointerAt t.datagram.toList t.position target := by
      rw [hdatagram]
      exact hpointer
    have hrefused : walk.run t = .error .invalidPointer { t with position := t.position + 2 } := by
      rw [Walk.run_eq]
      exact Wire.bind_eq_error.2 (.inl (Walk.step_of_visited hstands hvisited))
    exact ⟨_, hrun.symm.trans hrefused⟩

/-- A datagram in which the name at place 5 goes on at place 3, and from there at place 0. -/
def pointersInARow : Octets := [1, 97, 0, 192, 0, 1, 98, 192, 3]

/-- A datagram in which the name at the start goes on at place 1, inside of its label, again and again. -/
def pointerIntoLabel : Octets := [2, 1, 98, 192, 1]

theorem Name.decode_finds_pointersInARow :
    Name.decode ⟨pointersInARow.toArray, 5⟩ =
      .ok ⟨[['b'], ['a']]⟩ ⟨pointersInARow.toArray, 9⟩ ∧
    (∃ c', Name.decode ⟨pointerIntoLabel.toArray, 0⟩ = .error .invalidPointer c') ∧
    NeverEnds pointerIntoLabel 0 := by
  obtain ⟨hreads, -, -⟩ := Name.decode_finds_resolution pointersInARow 9 5
  obtain ⟨-, -, hrefuses⟩ := Name.decode_finds_resolution pointerIntoLabel 5 0
  constructor
  · have hfirst : Resolves pointersInARow 0 [[97]] 3 :=
      .label ⟨by decide, by decide, by simp, by decide⟩ (.terminator (by rw [TerminatorAt]; decide))
    have hresolves : Resolves pointersInARow 5 [[98], [97]] 9 :=
      .label ⟨by decide, by decide, by simp, by decide⟩
        (.pointer ⟨192, 3, by decide, by decide, rfl, by decide⟩
          (.pointer ⟨192, 0, by decide, by decide, rfl, by decide⟩ hfirst))
    exact (hreads _ _).2 ⟨_, _, hresolves, by decide, rfl, rfl⟩
  · have hpointer : PointerAt pointerIntoLabel 3 1 := ⟨192, 1, by decide, by decide, rfl, by decide⟩
    have hlabel : LabelAt pointerIntoLabel 0 [1, 98] := ⟨by decide, by decide, by simp, by decide⟩
    have hinner : LabelAt pointerIntoLabel 1 [98] := ⟨by decide, by decide, by simp, by decide⟩
    have hstart : Walk.Reached ⟨pointerIntoLabel.toArray, 0⟩ .start ⟨pointerIntoLabel.toArray, 0⟩ := .start
    have hread := hstart.step (Walk.step_eq_ok.2 (.label hlabel (by decide)))
    have hled := hread.step (Walk.step_eq_ok.2 (.pointer hpointer (by decide)))
    have hback := hled.step (Walk.step_eq_ok.2 (.label hinner (by decide)))
    obtain ⟨hdecode, hends, -⟩ := hrefuses _ _ 1 hback hpointer (by decide)
    exact ⟨hdecode, hends⟩

end ZoneServer

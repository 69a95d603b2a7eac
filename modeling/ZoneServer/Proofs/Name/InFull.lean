import ZoneServer.Proofs.Name.Admits
import ZoneServer.Proofs.Wire.Takes

/-!
# Names in full

`Name.decodeInFull` reads a name like `Name.decode` but refuses a pointer. The octets that it takes are
those that the name is written as (`Name.takes_decodeInFull`), and these it does read
(`Name.reads_decodeInFull`): a name has one form without pointers.
-/

namespace ZoneServer

open Decoder

/-- The label that ASCII octets spell has these octets. -/
theorem Label.octets_ofOctets {os : Octets} (h : (os.all fun o => o.toNat < 128) = true) :
    (ofOctets os).octets = os := by
  rw [List.all_eq_true] at h
  rw [octets, ofOctets, List.map_map]
  refine (List.map_congr_left fun o ho => ?_).trans (List.map_id os)
  have hsmall : o.toNat < 128 := by simpa using h o ho
  rw [Function.comp_apply, toNat_ofNat_of_lt hsmall, UInt8.ofNat_toNat, id]

namespace Walk

/-- Passes on what a step has come to, unless it has followed a pointer. -/
def refusePointer (walk : Walk) : Progress → Decoder Progress
  | .finished => pure .finished
  | .onward next =>
    if next.visited = walk.visited then pure (.onward next) else throw .invalidPointer

/-- Reads the terminator or one label, and refuses a pointer. -/
def stepInFull (walk : Walk) : Decoder Progress := walk.step >>= walk.refusePointer

/-- What is passed on is what the step has come to. -/
theorem refusePointer_eq_ok {walk : Walk} {taken progress : Progress} {c c' : Cursor}
    (h : walk.refusePointer taken c = .ok progress c') : taken = progress ∧ c = c' := by
  cases taken with
  | finished => exact Wire.pure_eq_ok.1 h
  | onward next =>
    rw [refusePointer] at h
    split at h
    · exact Wire.pure_eq_ok.1 h
    · cases h

theorem stepInFull_eq_ok {walk : Walk} {progress : Progress} {c c' : Cursor}
    (h : walk.stepInFull c = .ok progress c') : walk.step c = .ok progress c' := by
  obtain ⟨taken, t, hstep, hrefuse⟩ := Wire.bind_eq_ok.1 h
  obtain ⟨rfl, rfl⟩ := refusePointer_eq_ok hrefuse
  exact hstep

/-- Takes steps until the name is complete or there is a pointer. -/
def runInFull (walk : Walk) : Decoder Name := fun c =>
  match _h : walk.stepInFull c with
  | .error cause c' => .error cause c'
  | .ok .finished c' => walk.finish c'
  | .ok (.onward next) c' => next.runInFull c'
  termination_by walk.room
  decreasing_by exact room_step (stepInFull_eq_ok (by assumption))

end Walk

/-- Reads a name that has no pointer in it. -/
def Name.decodeInFull : Decoder Name := Walk.start.runInFull

namespace Walk

/-- What is read in full is read in the same way when pointers are followed. -/
theorem runInFull_eq_ok {walk : Walk} {name : Name} {c c' : Cursor}
    (h : walk.runInFull c = .ok name c') : walk.run c = .ok name c' := by
  fun_induction runInFull walk c with
  | case1 => cases h
  | case2 walk c t hstep =>
    rw [run_eq]
    exact Wire.bind_eq_ok.2 ⟨_, t, stepInFull_eq_ok hstep, h⟩
  | case3 walk c next t hstep ih =>
    rw [run_eq]
    exact Wire.bind_eq_ok.2 ⟨_, t, stepInFull_eq_ok hstep, ih h⟩

theorem runInFull_eq (walk : Walk) : walk.runInFull = (do
    match ← walk.stepInFull with
    | .finished => walk.finish
    | .onward next => next.runInFull) := by
  funext c
  rw [runInFull]
  simp only [bind, EStateM.bind]
  split <;> rename_i hstep <;> simp only [hstep]

/-- The terminator and labels are read as they are when pointers are followed. -/
theorem readsBySteps_runInFull : ReadsBySteps runInFull stepInFull := by
  refine ⟨runInFull_eq, fun walk => ?_, fun {walk label} h hroom => ?_⟩
  · exact (reads_step_zero walk).bind_nil (Reads.pure Progress.finished)
  · have hpass : walk.refusePointer (.onward (walk.push label)) = pure (.onward (walk.push label)) := by
      rw [refusePointer]
      exact if_pos rfl
    refine (reads_step_label h hroom).bind_nil ?_
    rw [hpass]
    exact Reads.pure _

/-- A step that follows no pointer takes the terminator, or a label after its length. -/
theorem takes_stepInFull (walk : Walk) : Takes walk.stepInFull fun progress os =>
    (progress = .finished ∧ os = [0]) ∨
      ∃ label, progress = .onward (walk.push label) ∧ os = label.wire := by
  intro before after progress c' h
  obtain ⟨taken, t, hstep, hrefuse⟩ := Wire.bind_eq_ok.1 h
  obtain ⟨rfl, rfl⟩ := refusePointer_eq_ok hrefuse
  have hafter := Cursor.drop_between before after
  cases step_eq_ok.1 hstep with
  | terminator stands =>
    rw [TerminatorAt, hafter] at stands
    obtain ⟨rest, rfl⟩ := stands
    exact ⟨[0], rest, rfl, Cursor.between_append before [0] rest rfl, .inl ⟨rfl, rfl⟩⟩
  | @label os stands room =>
    have hwire : (Label.ofOctets os).wire = UInt8.ofNat os.length :: os := by
      rw [Label.wire, Label.octetLength_ofOctets stands.all_ascii,
        Label.octets_ofOctets stands.all_ascii]
    obtain ⟨rest, hrest⟩ := stands.stands
    rw [hafter, ← hwire] at hrest
    subst hrest
    refine ⟨_, rest, rfl, Cursor.between_append _ _ _ ?_, .inr ⟨_, rfl, rfl⟩⟩
    rw [hwire, List.length_cons, Nat.add_right_comm]
    rfl
  | pointer =>
    rw [refusePointer] at hrefuse
    split at hrefuse
    · rename_i hsame
      exact absurd hsame (List.cons_ne_self _ walk.visited)
    · cases hrefuse

theorem takes_finish {walk : Walk} (h : walk.resume = none) :
    Takes walk.finish fun name os => name = ⟨walk.labels⟩ ∧ os = [] := by
  intro before after name c' hfinish
  cases hfinish
  refine ⟨[], after, rfl, ?_, rfl, rfl⟩
  rw [h, List.append_nil]
  rfl

/-- Reading in full takes the labels that are still to come and the terminator. -/
theorem takes_runInFull {walk : Walk} (h : walk.resume = none) :
    Takes walk.runInFull fun name os => ∃ labels, name = ⟨walk.labels ++ labels⟩ ∧
      os = labels.flatMap Label.wire ++ [0] := by
  rw [runInFull_eq]
  -- that the step was taken is kept, since it is why the walk has less room afterwards
  have hsteps := (takes_stepInFull walk).and fun c progress c' hstep =>
    (⟨c, c', hstep⟩ : ∃ c c', walk.stepInFull c = .ok progress c')
  refine hsteps.bind fun progress os hprogress => ?_
  obtain ⟨⟨c, c', hstep⟩, ⟨rfl, rfl⟩ | ⟨label, rfl, rfl⟩⟩ := hprogress
  · refine (takes_finish h).mono ?_
    rintro name _ ⟨rfl, rfl⟩
    exact ⟨[], by rw [List.append_nil], rfl⟩
  · have hrest : Takes (walk.push label).runInFull _ := takes_runInFull h
    refine hrest.mono ?_
    rintro name _ ⟨labels, rfl, rfl⟩
    refine ⟨label :: labels, ?_, ?_⟩
    · rw [push, List.append_assoc, List.singleton_append]
    · rw [List.flatMap_cons, List.append_assoc]
  termination_by walk.room
  decreasing_by exact room_step (stepInFull_eq_ok hstep)

end Walk

/-- A name that is read in full is valid, and its octets are those that it is written as. -/
theorem Name.takes_decodeInFull :
    Takes Name.decodeInFull fun name os => name.Valid ∧ os = name.wire := by
  have hvalid : ∀ c name c', Name.decodeInFull c = .ok name c' → name.Valid := by
    intro c name c' h
    exact Name.admits_decode c name c' (Walk.runInFull_eq_ok h)
  refine ((Walk.takes_runInFull rfl).and hvalid).mono ?_
  rintro name os ⟨hname, labels, rfl, rfl⟩
  exact ⟨hname, rfl⟩

/-- A name that was written in full has no pointer. -/
theorem Name.reads_decodeInFull {name : Name} (h : name.Valid) :
    Reads Name.decodeInFull name.wire name := Walk.readsBySteps_runInFull.wire h

end ZoneServer

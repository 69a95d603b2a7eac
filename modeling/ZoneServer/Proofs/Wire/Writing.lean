import ZoneServer.Proofs.Wire.Tidy
import ZoneServer.Wire.Writing

/-!
# Programs of steps that write

A program is any sequence of `WriteStep`s. It is run to its end, whether its steps succeed or fail, and
every step in it, also one inside a group, meets some buffer; `WriteStep.takenAll` lists them all. What
holds of every buffer that is met (`Buffer.Tidy`) and what every step makes of the buffer that it meets
(`WriteStep.Conduct`) is put together in `WriteStep.program_keeps_buffer`.
-/

namespace ZoneServer

open Encoder

variable {untouched : Prop}

/-! ## Names, headers, questions and records -/

theorem Name.keeps_encode (name : Name) : Keeps untouched name.encode := by
  refine (Keeps.check _).then ((Keeps.each (fun label => ?_) _).then (Keeps.uint8 0))
  exact (Keeps.uint8 _).then (Keeps.octets _)

theorem Header.keeps_encode (h : Header) : Keeps untouched h.encode := by
  refine (Keeps.uint16 _).then ((Keeps.uint8 _).then ((Keeps.uint8 _).then ((Keeps.uint16 _).then ?_)))
  exact (Keeps.uint16 _).then ((Keeps.uint16 _).then (Keeps.uint16 _))

theorem Question.keeps_encode (q : Question) : Keeps untouched q.encode :=
  q.name.keeps_encode.then ((Keeps.uint16 _).then (Keeps.uint16 _))

theorem Record.keeps_encode (r : Record) : Keeps untouched r.encode := by
  have hpreamble : Keeps untouched r.encodePreamble :=
    r.owner.keeps_encode.then ((Keeps.uint16 _).then ((Keeps.uint16 _).then (Keeps.uint32 _)))
  unfold encode
  split
  · split
    · exact Keeps.throw _
    · exact hpreamble.then ((Keeps.uint16 _).then (Keeps.octets _))
  · rename_i preference exchange _
    exact hpreamble.then (Keeps.lengthPrefixed ((Keeps.uint16 _).then exchange.keeps_encode))
  · rename_i target _
    exact hpreamble.then (Keeps.lengthPrefixed target.keeps_encode)
  · rename_i target _
    exact hpreamble.then (Keeps.lengthPrefixed target.keeps_encode)
  · exact hpreamble.then (Keeps.lengthPrefixed (Keeps.octets _))

namespace WriteStep

/-! ## Steps -/

mutual

/-- A step in which nothing is patched. The lengths of groups and records do not count as patches. -/
def PatchFree : WriteStep → Prop
  | .patch _ _ => False
  | .lengthPrefixed payload => GroupPatchFree payload
  | .attempt step => PatchFree step
  | _ => True

/-- A group of steps in which nothing is patched. -/
def GroupPatchFree : List WriteStep → Prop
  | [] => True
  | step :: rest => PatchFree step ∧ GroupPatchFree rest

end

mutual

/-- A step in which nothing is patched changes nothing before its place. -/
theorem keeps_run : ∀ step : WriteStep, Keeps step.PatchFree step.run
  | .uint8 n => (Keeps.uint8 n).then (Keeps.pure _)
  | .uint16 n => (Keeps.uint16 n).then (Keeps.pure _)
  | .uint32 n => (Keeps.uint32 n).then (Keeps.pure _)
  | .octets os => (Keeps.octets os).then (Keeps.pure _)
  | .reserve n => (Keeps.reserve n).bind fun _ => Keeps.pure _
  | .patch n offset => (Keeps.patch n offset).then (Keeps.pure _)
  | .name n => n.keeps_encode.then (Keeps.pure _)
  | .header h => h.keeps_encode.then (Keeps.pure _)
  | .question q => q.keeps_encode.then (Keeps.pure _)
  | .record r => r.keeps_encode.then (Keeps.pure _)
  | .lengthPrefixed payload => (keeps_runGroup payload).lengthPrefixed.then (Keeps.pure _)
  | .attempt step => (keeps_run step).attempt.then (Keeps.pure _)

theorem keeps_runGroup : ∀ steps : List WriteStep, Keeps (GroupPatchFree steps) (runGroup steps)
  | [] => Keeps.pure ()
  | step :: rest => ((keeps_run step).mono And.left).then ((keeps_runGroup rest).mono And.right)

end

/-! ## What a step makes of a buffer -/

/-- The steps that write octets themselves or leave room for them, all or none. -/
def Primitive : WriteStep → Prop
  | .uint8 _ => True
  | .uint16 _ => True
  | .uint32 _ => True
  | .octets _ => True
  | .reserve _ => True
  | _ => False

/-- What a patch makes of the buffer that it meets. -/
structure PatchConduct (n : UInt16) (offset : Nat) (b : Buffer) : Prop where
  succeeds : (∃ result b', (patch n offset).run b = .ok result b') ↔ offset + 2 ≤ b.position
  position : ((patch n offset).run.leaves b).position = b.position
  written : offset + 2 ≤ b.position →
    (((patch n offset).run.leaves b).cells.drop offset).take 2 = Octets.ofNat 2 n.toNat
  others : ∀ i, i ≠ offset → i ≠ offset + 1 →
    ((patch n offset).run.leaves b).cells[i]? = b.cells[i]?
  refused : ¬ offset + 2 ≤ b.position → (patch n offset).run.leaves b = b

/-- What reserving octets makes of the buffer that it meets. The octets that are skipped are left as they
were, and that is zero. -/
structure ReserveConduct (n : Nat) (b : Buffer) : Prop where
  succeeds : (∃ result b', (reserve n).run b = .ok result b') ↔ b.position + n ≤ maxMessageSize
  skipped : ∀ result b', (reserve n).run b = .ok result b' →
    result = some b.position ∧ b'.position = b.position + n
  cells : ((reserve n).run.leaves b).cells = b.cells
  blank : b.position + n ≤ maxMessageSize →
    (((reserve n).run.leaves b).cells.drop b.position).take n = List.replicate n 0

/-- What a step makes of the buffer that it meets, whether it succeeds or fails. -/
structure Conduct (step : WriteStep) (b : Buffer) : Prop where
  tidy : (step.run.leaves b).Tidy
  length_contents : (step.run.leaves b).contents.length = (step.run.leaves b).position
  position_le : b.position ≤ (step.run.leaves b).position
  untouched : step.PatchFree →
    (step.run.leaves b).cells.take b.position = b.cells.take b.position
  patched : ∀ n offset, step = .patch n offset → PatchConduct n offset b
  reserved : ∀ n, step = .reserve n → ReserveConduct n b
  unchanged : step.Primitive → ∀ cause b', step.run b = .error cause b' → b' = b

theorem octets_eq_error {os : Octets} {b b' : Buffer} {cause : EncodeError}
    (h : Encoder.octets os b = .error cause b') : b' = b := by
  by_cases hroom : b.position + os.length ≤ maxMessageSize
  · rw [Encoder.octets, if_pos hroom] at h
    cases h
  · rw [Encoder.octets, if_neg hroom] at h
    cases h
    rfl

theorem reserve_eq_error {n : Nat} {b b' : Buffer} {cause : EncodeError}
    (h : Encoder.reserve n b = .error cause b') : b' = b := by
  by_cases hroom : b.position + n ≤ maxMessageSize
  · rw [Encoder.reserve, if_pos hroom] at h
    cases h
  · rw [Encoder.reserve, if_neg hroom] at h
    cases h
    rfl

/-- A step that only gives another result back fails as the encoder before it does. -/
theorem bind_pure_eq_error {α β : Type} {e : Encoder α} {f : α → β} {b b' : Buffer}
    {cause : EncodeError} (h : (e >>= fun a => pure (f a)) b = .error cause b') :
    e b = .error cause b' := by
  rcases Wire.bind_eq_error.1 h with hfirst | ⟨a, t, -, hpure⟩
  · exact hfirst
  · cases hpure

theorem unchanged_of_primitive {step : WriteStep} {b b' : Buffer} {cause : EncodeError}
    (hstep : step.Primitive) (h : step.run b = .error cause b') : b' = b := by
  cases step with
  | uint8 n => exact octets_eq_error (bind_pure_eq_error h)
  | uint16 n => exact octets_eq_error (bind_pure_eq_error h)
  | uint32 n => exact octets_eq_error (bind_pure_eq_error h)
  | octets os => exact octets_eq_error (bind_pure_eq_error h)
  | reserve n => exact reserve_eq_error (bind_pure_eq_error h)
  | _ => exact hstep.elim

theorem patchConduct (n : UInt16) (offset : Nat) {b : Buffer} (hb : b.Tidy) :
    PatchConduct n offset b := by
  by_cases hwritten : offset + 2 ≤ b.position
  · have hrun : (patch n offset).run b = .ok none (b.store offset (Octets.ofNat 2 n.toNat)) :=
      Wire.bind_eq_ok.2 ⟨_, _, if_pos hwritten, rfl⟩
    have hlength : offset ≤ b.cells.length := by
      have hposition := hb.position_le
      rw [hb.length_cells]
      omega
    have hleft := leaves_of_ok hrun
    refine ⟨⟨fun _ => hwritten, fun _ => ⟨_, _, hrun⟩⟩, by rw [hleft]; rfl, fun _ => ?_, ?_,
      fun h => absurd hwritten h⟩
    · rw [hleft, ← Octets.length_ofNat 2 n.toNat]
      exact Buffer.take_drop_store hlength
    · intro i hfirst hsecond
      rw [hleft]
      refine Buffer.getElem?_store ?_ hlength
      rw [Octets.length_ofNat]
      omega
  · have hrun : (patch n offset).run b = .error (.unreservedOffset offset) b :=
      Wire.bind_eq_error.2 (.inl (if_neg hwritten))
    have hsame := leaves_of_error hrun
    refine ⟨⟨?_, fun h => absurd h hwritten⟩, by rw [hsame], fun h => absurd h hwritten, ?_, ?_⟩
    · rintro ⟨result, b', hok⟩
      rw [hrun] at hok
      cases hok
    · intro i _ _
      rw [hsame]
    · exact fun _ => hsame

theorem reserveConduct (n : Nat) {b : Buffer} (hb : b.Tidy) : ReserveConduct n b := by
  by_cases hroom : b.position + n ≤ maxMessageSize
  · have hrun : (reserve n).run b = .ok (some b.position) (b.skip n) :=
      Wire.bind_eq_ok.2 ⟨_, _, if_pos hroom, rfl⟩
    have hcells : ((reserve n).run.leaves b).cells = b.cells := by
      rw [leaves_of_ok hrun]
      rfl
    refine ⟨⟨fun _ => hroom, fun _ => ⟨_, _, hrun⟩⟩, fun result b' hok => ?_, hcells, fun _ => ?_⟩
    · cases hrun.symm.trans hok
      exact ⟨rfl, rfl⟩
    · rw [hcells, hb.blank, List.take_replicate, Nat.min_eq_left (by omega)]
  · have hrun : (reserve n).run b = .error .bufferFull b := Wire.bind_eq_error.2 (.inl (if_neg hroom))
    refine ⟨⟨?_, fun h => absurd h hroom⟩, ?_, by rw [leaves_of_error hrun], fun h => absurd h hroom⟩
    · rintro ⟨result, b', hok⟩
      cases hrun.symm.trans hok
    · intro result b' hok
      cases hrun.symm.trans hok

theorem conduct (step : WriteStep) {b : Buffer} (hb : b.Tidy) : step.Conduct b := by
  have hgrows := step.keeps_run b hb
  refine ⟨hgrows.tidy, hgrows.tidy.length_contents, hgrows.position_le, hgrows.take_cells, ?_, ?_, ?_⟩
  · rintro n offset rfl
    exact patchConduct n offset hb
  · rintro n rfl
    exact reserveConduct n hb
  · intro hstep cause b' hrun
    exact unchanged_of_primitive hstep hrun

/-! ## The steps of a program -/

/-- A step and the buffer that it meets. -/
structure Taken where
  /-- The step. -/
  step : WriteStep
  /-- The buffer. -/
  buffer : Buffer

mutual

/-- A step and the steps inside it, as far as they are taken, each with the buffer that it meets. -/
def taken : WriteStep → Buffer → List Taken
  | .lengthPrefixed payload, b =>
    ⟨.lengthPrefixed payload, b⟩ ::
      match Encoder.reserve 2 b with
      | .ok _ b' => groupTaken payload b'
      | .error _ _ => []
  | .attempt step, b => ⟨.attempt step, b⟩ :: taken step b
  | step, b => [⟨step, b⟩]

/-- The steps of a group, up to the first that fails, each with the buffer that it meets. -/
def groupTaken : List WriteStep → Buffer → List Taken
  | [], _ => []
  | step :: rest, b =>
    taken step b ++
      match run step b with
      | .ok _ b' => groupTaken rest b'
      | .error _ _ => []

end

/-- The steps of a program, all of which are taken, each with the buffer that it meets. -/
def takenAll : List WriteStep → Buffer → List Taken
  | [], _ => []
  | step :: rest, b => step.taken b ++ takenAll rest (step.run.leaves b)

/-- The buffer that a program leaves. -/
def leftFrom (program : List WriteStep) (b : Buffer) : Buffer :=
  ((runAll program b).getLast?.map Prod.snd).getD b

theorem leftFrom_cons (step : WriteStep) (rest : List WriteStep) (b : Buffer) :
    leftFrom (step :: rest) b = leftFrom rest (step.run.leaves b) := by
  unfold leftFrom
  rw [runAll]
  cases hrun : step.run b with
  | ok result b' =>
    rw [leaves_of_ok hrun, List.getLast?_cons]
    cases (runAll rest b').getLast? <;> rfl
  | error cause b' =>
    rw [leaves_of_error hrun, List.getLast?_cons]
    cases (runAll rest b').getLast? <;> rfl

/-- Without room for the length of a group, none of its steps is taken. -/
theorem taken_lengthPrefixed_of_full (payload : List WriteStep) {b : Buffer}
    (h : maxMessageSize < b.position + 2) :
    (lengthPrefixed payload).taken b = [⟨.lengthPrefixed payload, b⟩] := by
  rw [taken, reserve_of_full h]

theorem taken_lengthPrefixed_of_le (payload : List WriteStep) {b : Buffer}
    (h : b.position + 2 ≤ maxMessageSize) : (lengthPrefixed payload).taken b =
      ⟨.lengthPrefixed payload, b⟩ :: groupTaken payload (b.skip 2) := by
  rw [taken, reserve_of_le h]

theorem mem_taken (step : WriteStep) (b : Buffer) : (⟨step, b⟩ : Taken) ∈ step.taken b := by
  cases step <;> simp [taken]

/-- Every step of a program is taken, on the buffer that the steps before it have left. -/
theorem mem_takenAll (before : List WriteStep) (step : WriteStep) (rest : List WriteStep)
    (b : Buffer) : (⟨step, leftFrom before b⟩ : Taken) ∈ takenAll (before ++ step :: rest) b := by
  induction before generalizing b with
  | nil => exact List.mem_append_left _ (mem_taken step b)
  | cons first before ih =>
    rw [leftFrom_cons]
    exact List.mem_append_right _ (ih _)

/-! ## What is met is tidy -/

mutual

theorem tidy_of_mem_taken (step : WriteStep) {b : Buffer} (hb : b.Tidy) :
    ∀ t ∈ step.taken b, t.buffer.Tidy := by
  intro t ht
  cases step with
  | lengthPrefixed payload =>
    by_cases hroom : b.position + 2 ≤ maxMessageSize
    · rw [taken_lengthPrefixed_of_le payload hroom] at ht
      have hskip : b.Grows True (b.skip 2) := Buffer.grows_reserve hb hroom
      rcases List.mem_cons.1 ht with rfl | hpayload
      · exact hb
      · exact tidy_of_mem_groupTaken payload hskip.tidy t hpayload
    · rw [taken_lengthPrefixed_of_full payload (Nat.not_le.1 hroom), List.mem_singleton] at ht
      rw [ht]
      exact hb
  | attempt step =>
    rcases List.mem_cons.1 ht with rfl | hstep
    · exact hb
    · exact tidy_of_mem_taken step hb t hstep
  | _ =>
    rw [List.mem_singleton.1 ht]
    exact hb

theorem tidy_of_mem_groupTaken : ∀ (steps : List WriteStep) {b : Buffer}, b.Tidy →
    ∀ t ∈ groupTaken steps b, t.buffer.Tidy
  | [], _, _ => by
    intro t ht
    cases ht
  | step :: rest, b, hb => by
    intro t ht
    rcases List.mem_append.1 ht with hfirst | hrest
    · exact tidy_of_mem_taken step hb t hfirst
    · cases hrun : step.run b with
      | ok result b' =>
        rw [hrun] at hrest
        have hb' := (step.keeps_run b hb).tidy
        rw [leaves_of_ok hrun] at hb'
        exact tidy_of_mem_groupTaken rest hb' t hrest
      | error cause b' =>
        rw [hrun] at hrest
        cases hrest

end

theorem tidy_of_mem_takenAll {program : List WriteStep} {b : Buffer} (hb : b.Tidy) :
    ∀ t ∈ takenAll program b, t.buffer.Tidy := by
  induction program generalizing b with
  | nil =>
    intro t ht
    cases ht
  | cons step rest ih =>
    intro t ht
    rcases List.mem_append.1 ht with hstep | hrest
    · exact tidy_of_mem_taken step hb t hstep
    · exact ih (step.keeps_run b hb).tidy t hrest

theorem tidy_leftFrom {program : List WriteStep} {b : Buffer} (hb : b.Tidy) :
    (leftFrom program b).Tidy := by
  induction program generalizing b with
  | nil => exact hb
  | cons step rest ih =>
    rw [leftFrom_cons]
    exact ih (step.keeps_run b hb).tidy

/-- Whatever program is run from the empty buffer, its steps succeeding or failing, each of its steps, at
any depth, meets a tidy buffer, in which just the octets up to the place are written, and makes of it what
`Conduct` says; and the program leaves such a buffer. Every step is taken, on the buffer that the steps
before it have left. -/
theorem program_keeps_buffer (program : List WriteStep) :
    ((leftFrom program .empty).Tidy ∧
      (leftFrom program .empty).contents.length = (leftFrom program .empty).position) ∧
    (∀ t ∈ takenAll program .empty,
      (t.buffer.Tidy ∧ t.buffer.contents.length = t.buffer.position) ∧ t.step.Conduct t.buffer) ∧
    (∀ before step rest, program = before ++ step :: rest →
      (⟨step, leftFrom before .empty⟩ : Taken) ∈ takenAll program .empty) := by
  have hleft : (leftFrom program .empty).Tidy := tidy_leftFrom Buffer.tidy_empty
  refine ⟨⟨hleft, hleft.length_contents⟩, ?_, ?_⟩
  · intro t ht
    have hmet := tidy_of_mem_takenAll Buffer.tidy_empty t ht
    exact ⟨⟨hmet, hmet.length_contents⟩, t.step.conduct hmet⟩
  · rintro before step rest rfl
    exact mem_takenAll before step rest .empty

/-- A group in which a patch fails and another one succeeds, and a patch after it. -/
def patchingProgram : List WriteStep :=
  [.reserve 2, .lengthPrefixed [.attempt (.patch 7 3), .uint16 5, .patch 9 3], .patch 258 0]

theorem program_keeps_patchingProgram :
    (leftFrom patchingProgram .empty).contents = [1, 2, 0, 2, 9, 5] ∧
    (leftFrom patchingProgram .empty).Tidy ∧ ReserveConduct 2 .empty ∧
    PatchConduct 258 0 (leftFrom (patchingProgram.take 2) .empty) := by
  obtain ⟨⟨htidy, -⟩, hconduct, htaken⟩ := program_keeps_buffer patchingProgram
  have hreserve := htaken [] (.reserve 2) (patchingProgram.drop 1) rfl
  have hpatch := htaken (patchingProgram.take 2) (.patch 258 0) [] rfl
  exact ⟨by decide, htidy, (hconduct _ hreserve).2.reserved 2 rfl,
    (hconduct _ hpatch).2.patched 258 0 rfl⟩

end WriteStep

end ZoneServer

import ZoneServer.Proofs.Message.Advances
import ZoneServer.Proofs.Message.Inside
import ZoneServer.Wire.Reading

/-!
# Programs of steps that read

A program is any sequence of `ReadStep`s. It is run to its end, whether its steps succeed or fail, and a
step that has failed leaves the place at which it failed: in the middle of a label, or where a pointer has
led. So a step may start from places at which nothing in the datagram was meant to start. What holds at
every place that is met (`Cursor.Within`) and what every step makes of the place that it meets
(`ReadStep.Conduct`) is put together in `ReadStep.program_keeps_cursor`.
-/

namespace ZoneServer

/-! ## Places -/

/-- A place in the first `length` octets of a datagram, or in all of it if it is shorter. -/
structure Cursor.Within (c : Cursor) (datagram : Octets) (length : Nat) : Prop where
  datagram_eq : c.datagram = (datagram.take length).toArray
  position_le : c.position ≤ min length datagram.length
  position_add_remaining : c.position + c.remaining = min length datagram.length
  isExhausted_iff : c.isExhausted = true ↔ c.remaining = 0

namespace Cursor

variable {c : Cursor} {datagram : Octets} {length : Nat}

theorem size_take (datagram : Octets) (length : Nat) :
    (datagram.take length).toArray.size = min length datagram.length := by
  rw [List.size_toArray, List.length_take]

theorem within_of_le (hc : c.datagram = (datagram.take length).toArray)
    (hle : c.position ≤ c.datagram.size) : c.Within datagram length := by
  have hsize : c.datagram.size = min length datagram.length := by
    rw [hc, size_take]
  refine ⟨hc, hle.trans_eq hsize, ?_, ?_⟩
  · rw [remaining, hsize]
    omega
  · rw [isExhausted, decide_eq_true_iff, remaining]
    omega

theorem Within.position_le_size (h : c.Within datagram length) : c.position ≤ c.datagram.size := by
  have hle := h.position_le
  rwa [h.datagram_eq, size_take]

end Cursor

namespace ReadStep

/-! ## Steps -/

/-- What a step gives and the cursor it leaves. -/
abbrev Result := Except DecodeError ReadItem × Cursor

/-- The cursor that steps leave. -/
def leftFrom (steps : List ReadStep) (c : Cursor) : Cursor :=
  ((runAll steps c).getLast?.map Prod.snd).getD c

/-- How many octets a step asks for, if it asks for octets and not for an item made of them. -/
def asked? : ReadStep → Option Nat
  | .uint8 => some 1
  | .uint16 => some 2
  | .uint32 => some 4
  | .octets n => some n
  | _ => none

/-- How far a step gets that succeeds. -/
def Reaches : ReadStep → Nat → Nat → Prop
  | .uint8, start, stop => stop = start + 1
  | .uint16, start, stop => stop = start + 2
  | .uint32, start, stop => stop = start + 4
  | .octets n, start, stop => stop = start + n
  | .name, start, stop => start + 1 ≤ stop
  | .header, start, stop => stop = start + 12
  | .question, start, stop => start + 5 ≤ stop
  | .record, start, stop => start + 11 ≤ stop

/-- What a step makes of the place that it meets. -/
structure Conduct (step : ReadStep) (c : Cursor) : Prop where
  fails_iff : ∀ n, step.asked? = some n →
    ((∃ cause c', step.run c = .error cause c') ↔ c.remaining < n)
  unmoved : ∀ n, step.asked? = some n → ∀ cause c', step.run c = .error cause c' → c' = c
  reaches : ∀ item c', step.run c = .ok item c' → step.Reaches c.position c'.position

theorem allOrNone_run {step : ReadStep} {n : Nat} (h : step.asked? = some n) :
    Decoder.AllOrNone step.run n := by
  cases step with
  | uint8 =>
    cases h
    exact Decoder.AllOrNone.uint8.map fun n => ReadItem.number n.toNat
  | uint16 =>
    cases h
    exact Decoder.AllOrNone.uint16.map fun n => ReadItem.number n.toNat
  | uint32 =>
    cases h
    exact Decoder.AllOrNone.uint32.map fun n => ReadItem.number n.toNat
  | octets n =>
    cases h
    exact (Decoder.AllOrNone.octets n).map ReadItem.octets
  | _ => cases h

/-- A step that only makes an item of what a decoder reads gets as far as the decoder. -/
theorem decoder_eq_ok {α : Type} {d : Decoder α} {f : α → ReadItem} {item : ReadItem} {c c' : Cursor}
    (h : (do return f (← d) : Decoder ReadItem) c = .ok item c') : ∃ a, d c = .ok a c' := by
  obtain ⟨a, t, hd, hpure⟩ := Wire.bind_eq_ok.1 h
  obtain ⟨-, rfl⟩ := Wire.pure_eq_ok.1 hpure
  exact ⟨a, hd⟩

theorem reaches_run {step : ReadStep} {item : ReadItem} {c c' : Cursor}
    (h : step.run c = .ok item c') : step.Reaches c.position c'.position := by
  cases step with
  | uint8 => exact (allOrNone_run rfl).passes _ _ _ h
  | uint16 => exact (allOrNone_run rfl).passes _ _ _ h
  | uint32 => exact (allOrNone_run rfl).passes _ _ _ h
  | octets n => exact (allOrNone_run rfl).passes _ _ _ h
  | name =>
    obtain ⟨name, hname⟩ := decoder_eq_ok h
    exact Name.advances_decode _ _ _ hname
  | header =>
    obtain ⟨header, hheader⟩ := decoder_eq_ok h
    exact Header.passes_decode _ _ _ hheader
  | question =>
    obtain ⟨question, hquestion⟩ := decoder_eq_ok h
    exact Question.advances_decode _ _ _ hquestion
  | record =>
    obtain ⟨record, hrecord⟩ := decoder_eq_ok h
    exact Record.advances_decode _ _ _ hrecord

theorem conduct (step : ReadStep) {c : Cursor} (hc : c.position ≤ c.datagram.size) :
    step.Conduct c := by
  refine ⟨fun n hn => ?_, fun n hn cause c' herror => ?_, fun item c' hok => reaches_run hok⟩
  · constructor
    · rintro ⟨cause, c', herror⟩
      exact (((allOrNone_run hn).error_iff hc).1 herror).1
    · intro hlt
      exact ⟨.truncated, c, ((allOrNone_run hn).error_iff hc).2 ⟨hlt, rfl, rfl⟩⟩
  · exact (((allOrNone_run hn).error_iff hc).1 herror).2.2

/-! ## Programs -/

theorem inside_run {datagram : Array UInt8} (step : ReadStep) :
    Decoder.Inside datagram step.run fun _ => True := by
  cases step with
  | uint8 => exact Decoder.Inside.uint8.then fun _ => Decoder.Inside.pure trivial
  | uint16 => exact Decoder.Inside.uint16.then fun _ => Decoder.Inside.pure trivial
  | uint32 => exact Decoder.Inside.uint32.then fun _ => Decoder.Inside.pure trivial
  | octets n => exact (Decoder.Inside.octets n).then fun _ => Decoder.Inside.pure trivial
  | name => exact Name.inside_decode.then fun _ => Decoder.Inside.pure trivial
  | header => exact Header.inside_decode.then fun _ => Decoder.Inside.pure trivial
  | question => exact Question.inside_decode.then fun _ => Decoder.Inside.pure trivial
  | record => exact Record.inside_decode.then fun _ => Decoder.Inside.pure trivial

variable {datagram : Octets} {length : Nat} {c : Cursor}

theorem within_of_ok {step : ReadStep} {item : ReadItem} {c' : Cursor}
    (hc : c.Within datagram length) (h : step.run c = .ok item c') : c'.Within datagram length := by
  obtain ⟨stop, hstop, rfl, -⟩ := step.inside_run.ok hc.position_le_size h
  exact Cursor.within_of_le hc.datagram_eq hstop

/-- Wherever a step has failed, the place is in the datagram. -/
theorem within_of_error {step : ReadStep} {cause : DecodeError} {c' : Cursor}
    (hc : c.Within datagram length) (h : step.run c = .error cause c') : c'.Within datagram length := by
  obtain ⟨stop, hstop, rfl⟩ := step.inside_run.error hc.position_le_size h
  exact Cursor.within_of_le hc.datagram_eq hstop

theorem within_of_mem_runAll {program : List ReadStep} (hc : c.Within datagram length) :
    ∀ result ∈ runAll program c, result.2.Within datagram length := by
  induction program generalizing c with
  | nil =>
    intro result hresult
    cases hresult
  | cons step rest ih =>
    intro result hresult
    rw [runAll] at hresult
    cases hrun : step.run c with
    | ok item c' =>
      have hc' := within_of_ok hc hrun
      rw [hrun] at hresult
      rcases List.mem_cons.1 hresult with rfl | hrest
      · exact hc'
      · exact ih hc' result hrest
    | error cause c' =>
      have hc' := within_of_error hc hrun
      rw [hrun] at hresult
      rcases List.mem_cons.1 hresult with rfl | hrest
      · exact hc'
      · exact ih hc' result hrest

theorem within_leftFrom {program : List ReadStep} (hc : c.Within datagram length) :
    (leftFrom program c).Within datagram length := by
  unfold leftFrom
  cases hlast : (runAll program c).getLast? with
  | none => exact hc
  | some result => exact within_of_mem_runAll hc result (List.mem_of_getLast? hlast)

/-- Whatever program is run on the first octets of a datagram, its steps succeeding or failing, the place
after each of them is among these octets, and so is the place that a further step meets; that step makes of
it what `Conduct` says. -/
theorem program_keeps_cursor (datagram : Octets) (length : Nat) (program : List ReadStep) :
    (∀ result ∈ runAll program (.ofPrefix datagram length), result.2.Within datagram length) ∧
    (leftFrom program (.ofPrefix datagram length)).Within datagram length ∧
    ∀ step : ReadStep, step.Conduct (leftFrom program (.ofPrefix datagram length)) := by
  have hstart : (Cursor.ofPrefix datagram length).Within datagram length :=
    Cursor.within_of_le rfl (Nat.zero_le _)
  have hleft : (leftFrom program (.ofPrefix datagram length)).Within datagram length :=
    within_leftFrom hstart
  refine ⟨within_of_mem_runAll hstart, hleft, fun step => ?_⟩
  exact step.conduct hleft.position_le_size

end ReadStep

end ZoneServer

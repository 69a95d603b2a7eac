import ZoneServer.Proofs.Name.Form
import ZoneServer.Proofs.Wire.Reads

/-!
# Names that are written in full are read back

A valid name that was written without pointers is read back label by label, character by character
(`Name.reads_decode`). While it is read, the walk never leaves its place, and the labels that are still to
come take what is left of the length that a name may have.
-/

namespace ZoneServer

open Decoder

namespace Label

theorem toNat_octet_of_ascii {c : Char} (h : c.toNat < 128) :
    (UInt8.ofNat c.toNat).toNat = c.toNat :=
  UInt8.toNat_ofNat_of_lt' (h.trans (by decide))

/-- The octets of an ASCII label spell the label. -/
theorem ofOctets_octets {label : Label} (h : label.isAscii = true) : ofOctets label.octets = label := by
  induction label with
  | nil => rfl
  | cons c label ih =>
    obtain ⟨hc, hlabel⟩ := isAscii_cons.1 h
    have hrest := ih hlabel
    rw [ofOctets, octets] at hrest ⊢
    rw [List.map_cons, List.map_cons, hrest, toNat_octet_of_ascii hc, Char.ofNat_toNat]

theorem all_octets {label : Label} (h : label.isAscii = true) :
    (label.octets.all fun o => o.toNat < 128) = true := by
  induction label with
  | nil => rfl
  | cons c label ih =>
    obtain ⟨hc, hlabel⟩ := isAscii_cons.1 h
    have hrest := ih hlabel
    rw [octets] at hrest ⊢
    rw [List.map_cons, List.all_cons, hrest, toNat_octet_of_ascii hc]
    simpa using hc

end Label

namespace Walk

/-- Gives the name that was read and goes to the place after it. -/
def finish (walk : Walk) : Decoder Name := fun c =>
  .ok ⟨walk.labels⟩ { c with position := walk.resume.getD c.position }

/-- A walk takes a step, and then it is over or goes on. -/
theorem run_eq (walk : Walk) : walk.run = (do
    match ← walk.step with
    | .finished => walk.finish
    | .onward next => next.run) := by
  funext c
  rw [run]
  simp only [bind, EStateM.bind]
  split <;> rename_i hstep <;> simp only [hstep, finish]

theorem reads_finish {walk : Walk} (h : walk.resume = none) : Reads walk.finish [] ⟨walk.labels⟩ := by
  refine ⟨fun before after => ?_, fun before first rest hsplit hrest => ?_⟩
  · simp [finish, h]
  · exact absurd (List.append_eq_nil_iff.1 hsplit.symm).2 hrest

theorem reads_step_zero (walk : Walk) : Reads walk.step [0] Progress.finished := by
  have hzero : (0 : UInt8).toNat = 0 := rfl
  refine Reads.position fun place => (Reads.uint8 0).bind_nil ?_
  rw [if_pos hzero]
  exact Reads.pure Progress.finished

/-- The walk after one more label. -/
def push (walk : Walk) (label : Label) : Walk :=
  { walk with
    labels := walk.labels ++ [label]
    encodedLength := walk.encodedLength + label.octetLength + 1 }

theorem reads_step_label {walk : Walk} {label : Label} (h : label.isValid = true)
    (hroom : walk.encodedLength + label.octetLength + 1 ≤ maxNameLength) :
    Reads walk.step label.wire (.onward (walk.push label)) := by
  obtain ⟨hne, hlen, hascii⟩ := Label.isValid_iff.1 h
  have hlength : label.octetLength = label.octets.length := by
    rw [Label.octetLength_eq hascii, Label.octets, List.length_map]
  have hpos : 0 < label.octetLength := by
    rw [Label.octetLength_eq hascii]
    exact List.length_pos_iff.2 hne
  have hmax : label.octetLength ≤ maxLabelLength := by rwa [Label.octetLength_eq hascii]
  have hfirst : (UInt8.ofNat label.octetLength).toNat = label.octetLength :=
    UInt8.toNat_ofNat_of_lt' (lt_of_le_of_lt hmax (by decide))
  have hadd : walk.addLabel label.octets = pure (.onward (walk.push label)) := by
    rw [addLabel, ← hlength, if_pos hroom, Label.ofOctets_octets hascii]
    rfl
  change Reads _ ([UInt8.ofNat label.octetLength] ++ label.octets) _
  refine Reads.position fun place => (Reads.uint8 _).bind ?_
  rw [hfirst, if_neg (by omega), if_pos hmax, hlength]
  refine (Reads.octets label.octets).bind_nil ?_
  rw [if_pos (Label.all_octets hascii), hadd]
  exact Reads.pure _

/-- A decoder of names that takes steps until the name is complete, where the steps read the terminator
and labels. -/
structure ReadsBySteps (run : Walk → Decoder Name) (step : Walk → Decoder Progress) : Prop where
  run_eq : ∀ walk, run walk = (do
    match ← step walk with
    | .finished => walk.finish
    | .onward next => run next)
  zero : ∀ walk, Reads (step walk) [0] .finished
  label : ∀ {walk : Walk} {label : Label}, label.isValid = true →
    walk.encodedLength + label.octetLength + 1 ≤ maxNameLength →
      Reads (step walk) label.wire (.onward (walk.push label))

theorem ReadsBySteps.labels {run : Walk → Decoder Name} {step : Walk → Decoder Progress}
    (hsteps : ReadsBySteps run step) {walk : Walk} {labels : List Label} (hresume : walk.resume = none)
    (h : ∀ label ∈ labels, label.isValid = true)
    (hroom : walk.encodedLength + (labels.map fun label => label.octetLength + 1).sum ≤
      maxNameLength) :
    Reads (run walk) (labels.flatMap Label.wire ++ [0]) ⟨walk.labels ++ labels⟩ := by
  -- the walk takes the labels in turn, and the sum over those to come is the room that it must have
  induction labels generalizing walk with
  | nil =>
    rw [List.append_nil, hsteps.run_eq]
    exact (hsteps.zero walk).bind_nil (reads_finish hresume)
  | cons label labels ih =>
    rw [List.forall_mem_cons] at h
    rw [List.map_cons, List.sum_cons] at hroom
    have hlabel : Reads (step walk) label.wire (.onward (walk.push label)) :=
      hsteps.label h.1 (by omega)
    have hrest : Reads (run (walk.push label)) (labels.flatMap Label.wire ++ [0])
        ⟨(walk.push label).labels ++ labels⟩ :=
      ih hresume h.2 (by simp only [push]; omega)
    rw [push, List.append_assoc, ← push] at hrest
    rw [List.flatMap_cons, List.append_assoc, hsteps.run_eq]
    exact hlabel.bind hrest

/-- Such a decoder reads a valid name. -/
theorem ReadsBySteps.wire {run : Walk → Decoder Name} {step : Walk → Decoder Progress}
    (hsteps : ReadsBySteps run step) {name : Name} (h : name.Valid) :
    Reads (run start) name.wire name := by
  have hlength := h.length
  rw [Name.encodedLength_eq_sum, Nat.add_comm] at hlength
  exact hsteps.labels rfl h.labels hlength

theorem readsBySteps_run : ReadsBySteps run step := ⟨run_eq, reads_step_zero, reads_step_label⟩

end Walk

/-- A name that was written in full is read back, label by label and character by character. -/
theorem Name.reads_decode {name : Name} (h : name.Valid) : Reads Name.decode name.wire name :=
  Walk.readsBySteps_run.wire h

end ZoneServer

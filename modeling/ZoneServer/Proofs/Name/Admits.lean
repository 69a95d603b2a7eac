import ZoneServer.Proofs.Name.Step
import ZoneServer.Proofs.Wire.Admits

/-!
# Names that are read are valid

However a name is compressed, what is read of it may be written again (`Name.admits_decode`). While it is
read, the labels so far are valid and their length is the one that is counted (`Walk.Sound`); a step
keeps this, and following a pointer changes neither.
-/

namespace ZoneServer

open Decoder

namespace Walk

/-- What has been read so far is a valid name, and its length has been counted. -/
structure Sound (walk : Walk) : Prop where
  valid : Name.Valid ⟨walk.labels⟩
  counted : walk.encodedLength = Name.encodedLength ⟨walk.labels⟩

/-- A step that does not complete the name leads to a walk that is sound. -/
def Progress.Sound : Progress → Prop
  | .finished => True
  | .onward next => next.Sound

theorem sound_start : start.Sound := by
  refine ⟨⟨by simp [start], ?_⟩, rfl⟩
  show 1 ≤ maxNameLength
  decide

theorem Sound.push {walk : Walk} {datagram os : Octets} {place : Nat} (h : walk.Sound)
    (hlabel : LabelAt datagram place os) (hroom : walk.encodedLength + os.length + 1 ≤ maxNameLength) :
    (walk.push (Label.ofOctets os)).Sound := by
  have hcounted : (walk.push (Label.ofOctets os)).encodedLength =
      Name.encodedLength ⟨walk.labels ++ [Label.ofOctets os]⟩ := by
    have hbefore := h.counted
    simp only [Name.encodedLength_eq_sum] at hbefore ⊢
    rw [walk.encodedLength_push hlabel, List.map_append, List.sum_append, List.map_singleton,
      List.sum_singleton, Label.octetLength_ofOctets hlabel.all_ascii]
    omega
  refine ⟨⟨?_, ?_⟩, hcounted⟩
  · intro label hmem
    rcases List.mem_append.1 hmem with hbefore | hlast
    · exact h.valid.labels label hbefore
    · rw [List.mem_singleton.1 hlast]
      exact Label.isValid_ofOctets hlabel.length_pos.ne' hlabel.length_le hlabel.all_ascii
  · exact hcounted.symm.trans_le ((walk.encodedLength_push hlabel).trans_le hroom)

/-- A step keeps a walk sound. -/
theorem admits_step {walk : Walk} (h : walk.Sound) : Admits walk.step Progress.Sound := by
  intro c progress c' hstep
  cases step_eq_ok.1 hstep with
  | terminator => exact trivial
  | label stands room => exact h.push stands room
  | pointer => exact ⟨h.valid, h.counted⟩

/-- A walk that is sound comes to a valid name. -/
theorem admits_run {walk : Walk} (h : walk.Sound) : Admits walk.run Name.Valid := by
  intro c name c'
  fun_induction run walk c with
  | case1 => rintro ⟨⟩
  | case2 =>
    rintro ⟨⟩
    exact h.valid
  | case3 walk c next c' hstep ih => exact ih (admits_step h c _ c' hstep)

end Walk

/-- A name that was read may be written. -/
theorem Name.admits_decode : Admits Name.decode Name.Valid := Walk.admits_run Walk.sound_start

end ZoneServer

import ZoneServer.Proofs.Name.Step
import ZoneServer.Proofs.Wire.Advances
import ZoneServer.Message.Header
import ZoneServer.Message.Question
import ZoneServer.Record.Basic

/-!
# Items take octets

However often a pointer leads back, reading goes on after the name where the name was: after its terminator,
or after the first of its pointers. So a name takes an octet at least, and so do the items that begin with
one, each with the octets of its other fields.
-/

namespace ZoneServer

open Decoder

/-! ## Names -/

namespace Walk

/-- What a step makes of the place, and of the place where reading goes on after the name. -/
def Progress.From (walk : Walk) (start stop : Nat) : Progress → Prop
  | .finished => start < stop
  | .onward next => (next.resume = walk.resume ∧ start ≤ stop) ∨
      ∃ here, start < here ∧ next.resume = (walk.resume <|> some here)

theorem from_step {walk : Walk} {progress : Progress} {c c' : Cursor}
    (h : walk.step c = .ok progress c') : progress.From walk c.position c'.position := by
  cases step_eq_ok.1 h with
  | terminator => exact Nat.lt_succ_self c.position
  | @label os =>
    have hle : c.position ≤ c.position + 1 + os.length := by omega
    exact .inl ⟨rfl, hle⟩
  | pointer => exact .inr ⟨c.position + 2, Nat.lt_add_of_pos_right Nat.two_pos, rfl⟩

/-- A walk that is over, or goes on, after the place where it started. -/
def Leaves (walk : Walk) (start position : Nat) : Prop :=
  match walk.resume with
  | none => start ≤ position
  | some resume => start < resume

/-- A step that does not complete the name keeps where reading goes on after the start. -/
theorem leaves_step {walk next : Walk} {c c' : Cursor} {start : Nat}
    (h : walk.step c = .ok (.onward next) c') (hwalk : walk.Leaves start c.position) :
    next.Leaves start c'.position := by
  unfold Leaves at hwalk ⊢
  rcases from_step h with ⟨hresume, hle⟩ | ⟨here, hlt, hresume⟩
  · rw [hresume]
    cases hfirst : walk.resume with
    | none =>
      rw [hfirst] at hwalk
      exact hwalk.trans hle
    | some resume =>
      rw [hfirst] at hwalk
      exact hwalk
  · rw [hresume]
    cases hfirst : walk.resume with
    | none =>
      rw [hfirst] at hwalk
      exact lt_of_le_of_lt hwalk hlt
    | some resume =>
      rw [hfirst] at hwalk
      exact hwalk

theorem lt_of_run {walk : Walk} {name : Name} {c c' : Cursor} {start : Nat}
    (h : walk.run c = .ok name c') (hwalk : walk.Leaves start c.position) : start < c'.position := by
  fun_induction run walk c with
  | case1 => cases h
  | case2 walk c t hstep =>
    cases h
    have hlt : c.position < t.position := from_step hstep
    unfold Leaves at hwalk
    cases hresume : walk.resume with
    | none =>
      rw [hresume] at hwalk
      exact lt_of_le_of_lt hwalk hlt
    | some resume =>
      rw [hresume] at hwalk
      exact hwalk
  | case3 walk c next t hstep ih => exact ih h (leaves_step hstep hwalk)

end Walk

/-- A name takes an octet at least, wherever its pointers lead. -/
theorem Name.advances_decode : Advances Name.decode 1 := by
  intro c name c' h
  exact Walk.lt_of_run h le_rfl

/-! ## Headers, questions and records -/

theorem Header.passes_decode : Passes Header.decode 12 := by
  refine Passes.uint16.bind (n := 10) (fun id => ?_) rfl
  refine Passes.uint8.bind (n := 9) (fun flags => ?_) rfl
  refine Passes.uint8.bind (n := 8) (fun code => ?_) rfl
  refine Passes.uint16.bind (n := 6) (fun questionCount => ?_) rfl
  refine Passes.uint16.bind (n := 4) (fun answerCount => ?_) rfl
  refine Passes.uint16.bind (n := 2) (fun authorityCount => ?_) rfl
  exact Passes.uint16.bind (fun additionalCount => Passes.pure _) rfl

theorem Header.enough_decode : Enough Header.decode 12 := by
  refine AllOrNone.uint16.enough.bind (n := 10) (fun id => ?_) rfl
  refine AllOrNone.uint8.enough.bind (n := 9) (fun flags => ?_) rfl
  refine AllOrNone.uint8.enough.bind (n := 8) (fun code => ?_) rfl
  refine AllOrNone.uint16.enough.bind (n := 6) (fun questionCount => ?_) rfl
  refine AllOrNone.uint16.enough.bind (n := 4) (fun answerCount => ?_) rfl
  refine AllOrNone.uint16.enough.bind (n := 2) (fun authorityCount => ?_) rfl
  exact AllOrNone.uint16.enough.bind (fun additionalCount => Enough.pure _) rfl

theorem Question.advances_decode : Advances Question.decode 5 := by
  refine Name.advances_decode.bind (n := 4) (fun name => ?_) le_rfl
  refine Passes.uint16.advances.bind (n := 2) (fun typeCode => ?_) le_rfl
  exact Passes.uint16.advances.bind (fun classCode => Advances.pure _) le_rfl

namespace Record

theorem advances_decodePayload (typeCode : TypeCode) (length : Nat) :
    Advances (decodePayload typeCode length) 0 := by
  have hname : Advances Name.decode 0 := Name.advances_decode.mono (Nat.zero_le 1)
  unfold decodePayload decodePayloadWith
  split
  · unfold decodeAddress
    split
    · exact (Passes.octets 4).advances.bind (fun os => Advances.pure _) (Nat.zero_le _)
    · exact Advances.throw _
  · split
    · refine Passes.uint16.advances.bind (n := 0) (fun preference => ?_) (Nat.zero_le _)
      exact hname.bind (fun exchange => Advances.pure _) le_rfl
    · split
      · exact hname.bind (fun target => Advances.pure _) le_rfl
      · split
        · exact hname.bind (fun target => Advances.pure _) le_rfl
        · exact (Passes.octets length).advances.bind (fun data => Advances.pure _) (Nat.zero_le _)

theorem advances_decode : Advances decode 11 := by
  refine Name.advances_decode.bind (n := 10) (fun owner => ?_) le_rfl
  refine Passes.uint16.advances.bind (n := 8) (fun typeCode => ?_) le_rfl
  refine Passes.uint16.advances.bind (n := 6) (fun classCode => ?_) le_rfl
  refine Passes.uint32.advances.bind (n := 2) (fun ttl => ?_) le_rfl
  refine Passes.uint16.advances.bind (n := 0) (fun length => ?_) le_rfl
  refine Advances.position.bind (n := 0) (fun start => ?_) le_rfl
  refine (advances_decodePayload typeCode length.toNat).bind (n := 0) (fun payload => ?_) le_rfl
  refine Advances.position.bind (n := 0) (fun stop => ?_) le_rfl
  split
  · exact Advances.pure _
  · exact Advances.throw _

end Record

end ZoneServer

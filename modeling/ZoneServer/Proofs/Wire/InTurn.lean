import ZoneServer.Proofs.Wire.Advances
import ZoneServer.Proofs.Wire.Inside

/-!
# Items one after another

`Decoder.times` reads a number of items, or those that come before the first that cannot be read
(`Decoder.ends_times`). Either way there are items that stand one after another, and if each takes some octets
at least, there are no more of them than the octets that are left allow (`Decoder.Ends.length_le`), whatever
number was asked for.
-/

namespace ZoneServer.Decoder

variable {α β : Type} {item : Decoder α} {as : List α} {n k : Nat} {c c' : Cursor}

/-- Items that are read one after another, from one place up to another. -/
inductive InTurn (item : Decoder α) : Cursor → List α → Cursor → Prop where
  | nil {c : Cursor} : InTurn item c [] c
  | cons {c t c' : Cursor} {a : α} {as : List α} (first : item c = .ok a t) (rest : InTurn item t as c') :
    InTurn item c (a :: as) c'

theorem times_eq_ok : times item n c = .ok as c' ↔ InTurn item c as c' ∧ as.length = n := by
  constructor
  · intro h
    induction n generalizing c as with
    | zero =>
      obtain ⟨rfl, rfl⟩ := Wire.pure_eq_ok.1 h
      exact ⟨.nil, rfl⟩
    | succ n ih =>
      obtain ⟨a, t, hfirst, h⟩ := Wire.bind_eq_ok.1 h
      obtain ⟨rest, t', hrest, hpure⟩ := Wire.bind_eq_ok.1 h
      obtain ⟨rfl, rfl⟩ := Wire.pure_eq_ok.1 hpure
      obtain ⟨hturn, rfl⟩ := ih hrest
      exact ⟨.cons hfirst hturn, rfl⟩
  · rintro ⟨hturn, rfl⟩
    induction hturn with
    | nil => rfl
    | cons hfirst _ ih => exact Wire.bind_eq_ok.2 ⟨_, _, hfirst, Wire.bind_eq_ok.2 ⟨_, _, ih, rfl⟩⟩

theorem times_eq_error {cause : DecodeError} :
    times item n c = .error cause c' ↔
      ∃ as t, InTurn item c as t ∧ as.length < n ∧ item t = .error cause c' := by
  constructor
  · intro h
    induction n generalizing c with
    | zero => cases h
    | succ n ih =>
      rcases Wire.bind_eq_error.1 h with hfirst | ⟨a, t, hfirst, h⟩
      · exact ⟨[], c, .nil, Nat.succ_pos n, hfirst⟩
      · rcases Wire.bind_eq_error.1 h with hrest | ⟨rest, t', -, hpure⟩
        · obtain ⟨as, t', hturn, hlt, hnext⟩ := ih hrest
          exact ⟨a :: as, t', .cons hfirst hturn, Nat.succ_lt_succ hlt, hnext⟩
        · cases hpure
  · rintro ⟨as, t, hturn, hlt, hnext⟩
    -- fewer items stand before the failure than are asked for, so the one that fails is asked for
    induction hturn generalizing n with
    | nil =>
      obtain ⟨n, rfl⟩ := Nat.exists_eq_succ_of_ne_zero (Nat.ne_of_gt hlt)
      exact Wire.bind_eq_error.2 (.inl hnext)
    | cons hfirst _ ih =>
      obtain ⟨n, rfl⟩ := Nat.exists_eq_succ_of_ne_zero (Nat.ne_of_gt (Nat.zero_lt_of_lt hlt))
      have hrest := ih (Nat.lt_of_succ_lt_succ hlt) hnext
      exact Wire.bind_eq_error.2 (.inr ⟨_, _, hfirst, Wire.bind_eq_error.2 (.inl hrest)⟩)

/-! ## How far they reach -/

theorem InTurn.position_le (h : Advances item k) (hturn : InTurn item c as c') :
    c.position + k * as.length ≤ c'.position := by
  induction hturn with
  | nil => exact Nat.le_refl _
  | cons hfirst _ ih =>
    have hstep := h _ _ _ hfirst
    rw [List.length_cons, Nat.mul_succ]
    omega

theorem InTurn.inside {P : α → Prop} (h : ∀ datagram, Inside datagram item P)
    (hc : c.position ≤ c.datagram.size) (hturn : InTurn item c as c') :
    c'.datagram = c.datagram ∧ c'.position ≤ c.datagram.size := by
  induction hturn with
  | nil => exact ⟨rfl, hc⟩
  | cons hfirst _ ih =>
    obtain ⟨stop, hstop, rfl, -⟩ := (h _).ok hc hfirst
    exact ih hstop

theorem InTurn.length_le {P : α → Prop} (h : Advances item k) (hk : 0 < k)
    (hinside : ∀ datagram, Inside datagram item P) (hc : c.position ≤ c.datagram.size)
    (hturn : InTurn item c as c') : as.length ≤ c.remaining / k := by
  have hreach := hturn.position_le h
  have hend := (hturn.inside hinside hc).2
  rw [Nat.le_div_iff_mul_le hk, Nat.mul_comm, Cursor.remaining]
  omega

/-! ## How reading them ends -/

/-- How reading `n` items ends, of which something is made once all are read, and which items were read when
it ended: all of them, or those before the one that could not be. -/
inductive Ends (item : Decoder α) (n : Nat) (c : Cursor) (whole : List α → β) (as : List α) :
    EStateM.Result DecodeError Cursor β → Prop where
  | all {c' : Cursor} (read : InTurn item c as c') (length_eq : as.length = n) :
    Ends item n c whole as (.ok (whole as) c')
  | part {t c' : Cursor} {cause : DecodeError} (read : InTurn item c as t) (length_lt : as.length < n)
    (fails : item t = .error cause c') : Ends item n c whole as (.error cause c')

theorem ends_times (item : Decoder α) (n : Nat) (c : Cursor) (whole : List α → β) :
    ∃ as, Ends item n c whole as ((do return whole (← times item n) : Decoder β) c) := by
  cases h : times item n c with
  | ok as c' =>
    obtain ⟨hturn, hlength⟩ := times_eq_ok.1 h
    rw [Wire.bind_of_ok h]
    exact ⟨as, .all hturn hlength⟩
  | error cause c' =>
    obtain ⟨as, t, hturn, hlt, hnext⟩ := times_eq_error.1 h
    rw [Wire.bind_eq_error.2 (.inl h)]
    exact ⟨as, .part hturn hlt hnext⟩

/-- However it ends, no more items were read than were asked for and than the octets that are left allow. -/
theorem Ends.length_le {P : α → Prop} {whole : List α → β} {outcome : EStateM.Result DecodeError Cursor β}
    (h : Advances item k) (hk : 0 < k) (hinside : ∀ datagram, Inside datagram item P)
    (hc : c.position ≤ c.datagram.size) (hends : Ends item n c whole as outcome) :
    as.length ≤ min n (c.remaining / k) := by
  cases hends with
  | all hturn hlength => exact Nat.le_min.2 ⟨Nat.le_of_eq hlength, hturn.length_le h hk hinside hc⟩
  | part hturn hlt _ => exact Nat.le_min.2 ⟨Nat.le_of_lt hlt, hturn.length_le h hk hinside hc⟩

end ZoneServer.Decoder

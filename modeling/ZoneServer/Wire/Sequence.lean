/-!
# One step after another

Decoders and encoders are run one after another on the same state and stop at the first failure. The
two statements say when such a sequence succeeds and when it fails.
-/

namespace ZoneServer.Wire

variable {ε σ α β : Type} {first : EStateM ε σ α} {next : α → EStateM ε σ β} {s s' : σ}

/-- After a first step that succeeds, a sequence is its second step. -/
theorem bind_of_ok {a : α} {t : σ} (h : first s = .ok a t) : (first >>= next) s = next a t := by
  simp only [bind, EStateM.bind, h]

/-- A sequence succeeds if both steps do, the second from where the first has led. -/
theorem bind_eq_ok {b : β} :
    (first >>= next) s = .ok b s' ↔ ∃ a t, first s = .ok a t ∧ next a t = .ok b s' := by
  simp only [bind, EStateM.bind]
  cases first s <;> simp [and_assoc]

/-- A sequence fails if the first step does, or the second from where the first has led. -/
theorem bind_eq_error {e : ε} :
    (first >>= next) s = .error e s' ↔
      first s = .error e s' ∨ ∃ a t, first s = .ok a t ∧ next a t = .error e s' := by
  simp only [bind, EStateM.bind]
  cases first s <;> simp [and_assoc]

/-- Giving a value back succeeds and changes nothing. -/
theorem pure_eq_ok {a b : α} : (pure a : EStateM ε σ α) s = .ok b s' ↔ a = b ∧ s = s' := by
  simp [pure, EStateM.pure]

end ZoneServer.Wire

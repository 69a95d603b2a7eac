import ZoneServer.Wire.Cursor
import ZoneServer.Wire.Sequence

/-!
# What a decoder admits

`Decoder.Admits d P` says that whatever `d` reads satisfies `P`, wherever it is read. What decoders one
after another admit follows from what each of them does (`Admits.bind`).
-/

namespace ZoneServer.Decoder

variable {α β : Type}

/-- Whatever a decoder reads satisfies a property. -/
def Admits (d : Decoder α) (P : α → Prop) : Prop := ∀ c a c', d c = .ok a c' → P a

theorem Admits.any (d : Decoder α) : Admits d fun _ => True := fun _ _ _ _ => trivial

theorem Admits.pure {P : α → Prop} {a : α} (h : P a) : Admits (pure a) P := by
  intro c b c' hpure
  obtain ⟨rfl, -⟩ := Wire.pure_eq_ok.1 hpure
  exact h

/-- Nothing is read, so nothing has to be shown of it. -/
theorem Admits.throw {P : α → Prop} (cause : DecodeError) : Admits (throw cause) P := by
  intro c a c' hthrow
  cases hthrow

/-- What the second of two decoders reads may depend on what the first has read. -/
theorem Admits.bind {d : Decoder α} {next : α → Decoder β} {P : α → Prop} {Q : β → Prop}
    (h : Admits d P) (h' : ∀ a, P a → Admits (next a) Q) : Admits (d >>= next) Q := by
  intro c b c' hbind
  obtain ⟨a, t, hfirst, hnext⟩ := Wire.bind_eq_ok.1 hbind
  exact h' a (h c a t hfirst) t b c' hnext

theorem Admits.then {d : Decoder α} {next : α → Decoder β} {Q : β → Prop}
    (h : ∀ a, Admits (next a) Q) : Admits (d >>= next) Q :=
  (Admits.any d).bind fun a _ => h a

/-- As many items are read as were asked for, and each of them is admitted. -/
theorem Admits.times {item : Decoder α} {P : α → Prop} (h : Admits item P) (n : Nat) :
    Admits (times item n) fun as => as.length = n ∧ ∀ a ∈ as, P a := by
  induction n with
  | zero => exact Admits.pure (by simp)
  | succ n ih =>
    refine h.bind fun first hfirst => ih.bind fun rest hrest => Admits.pure ?_
    obtain ⟨hlength, hall⟩ := hrest
    exact ⟨by rw [List.length_cons, hlength], List.forall_mem_cons.2 ⟨hfirst, hall⟩⟩

end ZoneServer.Decoder

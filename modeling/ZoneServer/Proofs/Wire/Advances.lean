import ZoneServer.Wire.Cursor
import ZoneServer.Wire.Sequence

/-!
# How far a decoder gets

`Decoder.AllOrNone d n` says that `d` takes the next `n` octets, or none of them if there are not as many, and
`Decoder.Enough d n` that it takes them if there are as many.
`Decoder.Passes d n` says that `d`, when it succeeds, leaves a place just `n` octets after the one where it
was started, and `Decoder.Advances d n` that it leaves one at least so far on. Where else in the datagram it
may have been in between does not matter.
-/

namespace ZoneServer.Decoder

variable {α β : Type} {d : Decoder α} {next : α → Decoder β} {m n k : Nat}

/-! ## All octets or none -/

/-- A decoder that takes a number of octets, or none of them if there are not as many. -/
structure AllOrNone (d : Decoder α) (n : Nat) : Prop where
  of_le : ∀ c : Cursor, c.position + n ≤ c.datagram.size →
    ∃ a, d c = .ok a { c with position := c.position + n }
  of_lt : ∀ c : Cursor, c.datagram.size < c.position + n → d c = .error .truncated c

theorem AllOrNone.octets (n : Nat) : AllOrNone (octets n) n :=
  ⟨fun _ h => ⟨_, octets_of_le h⟩, fun _ h => octets_of_lt h⟩

theorem AllOrNone.map (h : AllOrNone d n) (f : α → β) : AllOrNone (do return f (← d)) n := by
  refine ⟨fun c hle => ?_, fun c hlt => ?_⟩
  · obtain ⟨a, ha⟩ := h.of_le c hle
    exact ⟨f a, Wire.bind_eq_ok.2 ⟨a, _, ha, rfl⟩⟩
  · exact Wire.bind_eq_error.2 (.inl (h.of_lt c hlt))

theorem AllOrNone.uint8 : AllOrNone uint8 1 := (AllOrNone.octets 1).map _

theorem AllOrNone.uint16 : AllOrNone uint16 2 := (AllOrNone.octets 2).map _

theorem AllOrNone.uint32 : AllOrNone uint32 4 := (AllOrNone.octets 4).map _

/-- It fails just where there are too few octets, and a failure leaves the place as it was. -/
theorem AllOrNone.error_iff (h : AllOrNone d n) {c c' : Cursor} {cause : DecodeError}
    (hc : c.position ≤ c.datagram.size) :
    d c = .error cause c' ↔ c.remaining < n ∧ cause = .truncated ∧ c' = c := by
  rw [Cursor.remaining]
  by_cases hle : c.position + n ≤ c.datagram.size
  · obtain ⟨a, ha⟩ := h.of_le c hle
    rw [ha]
    constructor
    · intro herror
      cases herror
    · rintro ⟨hlt, -⟩
      omega
  · have hlt : c.datagram.size < c.position + n := Nat.not_le.1 hle
    rw [h.of_lt c hlt]
    constructor
    · intro herror
      cases herror
      exact ⟨by omega, rfl, rfl⟩
    · rintro ⟨-, rfl, rfl⟩
      rfl

/-! ## Enough octets -/

/-- A decoder for which so many octets are enough, whatever they are, and which takes all of them. -/
def Enough (d : Decoder α) (n : Nat) : Prop :=
  ∀ c : Cursor, c.position + n ≤ c.datagram.size →
    ∃ a, d c = .ok a { c with position := c.position + n }

theorem AllOrNone.enough (h : AllOrNone d n) : Enough d n := h.of_le

theorem Enough.pure (a : α) : Enough (pure a) 0 := fun _ _ => ⟨a, rfl⟩

theorem Enough.bind (h : Enough d m) (h' : ∀ a, Enough (next a) n) (hk : k = m + n) :
    Enough (d >>= next) k := by
  intro c hle
  have hfirst : c.position + m ≤ c.datagram.size := by omega
  have hrest : c.position + m + n ≤ c.datagram.size := by omega
  obtain ⟨a, ha⟩ := h c hfirst
  obtain ⟨b, hb⟩ := h' a { c with position := c.position + m } hrest
  refine ⟨b, Wire.bind_eq_ok.2 ⟨a, _, ha, ?_⟩⟩
  rw [hb, hk, Nat.add_assoc]

/-! ## So many octets -/

/-- A decoder that succeeds has gone forward by a number of octets. -/
def Passes (d : Decoder α) (n : Nat) : Prop :=
  ∀ c a c', d c = .ok a c' → c'.position = c.position + n

theorem AllOrNone.passes (h : AllOrNone d n) : Passes d n := by
  intro c a c' hd
  by_cases hle : c.position + n ≤ c.datagram.size
  · obtain ⟨a', ha'⟩ := h.of_le c hle
    rw [ha'] at hd
    cases hd
    rfl
  · rw [h.of_lt c (Nat.not_le.1 hle)] at hd
    cases hd

theorem Passes.pure (a : α) : Passes (pure a) 0 := by
  intro c b c' hpure
  obtain ⟨-, rfl⟩ := Wire.pure_eq_ok.1 hpure
  rfl

theorem Passes.bind (h : Passes d m) (h' : ∀ a, Passes (next a) n) (hk : k = m + n) :
    Passes (d >>= next) k := by
  intro c b c' hbind
  obtain ⟨a, t, hfirst, hnext⟩ := Wire.bind_eq_ok.1 hbind
  have hm := h c a t hfirst
  have hn := h' a t b c' hnext
  omega

theorem Passes.octets (n : Nat) : Passes (octets n) n := (AllOrNone.octets n).passes

theorem Passes.uint8 : Passes uint8 1 := AllOrNone.uint8.passes

theorem Passes.uint16 : Passes uint16 2 := AllOrNone.uint16.passes

theorem Passes.uint32 : Passes uint32 4 := AllOrNone.uint32.passes

/-! ## At least so many octets -/

/-- A decoder that succeeds has gone forward by a number of octets or more. -/
def Advances (d : Decoder α) (n : Nat) : Prop :=
  ∀ c a c', d c = .ok a c' → c.position + n ≤ c'.position

theorem Passes.advances (h : Passes d n) : Advances d n :=
  fun c a c' hd => Nat.le_of_eq (h c a c' hd).symm

theorem Advances.mono (h : Advances d n) (hle : m ≤ n) : Advances d m := by
  intro c a c' hd
  have hn := h c a c' hd
  omega

theorem Advances.pure (a : α) : Advances (pure a) 0 := (Passes.pure a).advances

/-- A decoder that cannot succeed gets as far as one likes. -/
theorem Advances.throw (cause : DecodeError) : Advances (throw cause : Decoder α) n := by
  intro c a c' hthrow
  cases hthrow

theorem Advances.bind (h : Advances d m) (h' : ∀ a, Advances (next a) n) (hk : k ≤ m + n) :
    Advances (d >>= next) k := by
  intro c b c' hbind
  obtain ⟨a, t, hfirst, hnext⟩ := Wire.bind_eq_ok.1 hbind
  have hm := h c a t hfirst
  have hn := h' a t b c' hnext
  omega

theorem Advances.position : Advances position 0 := by
  intro c a c' hposition
  cases hposition
  exact Nat.le_refl _

end ZoneServer.Decoder

import ZoneServer.Wire.Cursor
import ZoneServer.Wire.Sequence

/-!
# Decoders on longer datagrams

A decoder sees the end of a datagram only when it asks for octets that are not there, and then it fails
with `DecodeError.truncated`. `Decoder.Stable d` says that this is all it learns of the end: whatever else
comes of `d` also comes of it when the datagram goes on.
-/

namespace ZoneServer

/-- The same place in a datagram that goes on with more octets. -/
def Cursor.extend (c : Cursor) (more : Octets) : Cursor :=
  { c with datagram := c.datagram ++ more.toArray }

namespace Decoder

variable {α β : Type}

/-- What comes of a decoder comes of it on every longer datagram too, unless the end was in its way. -/
structure Stable (d : Decoder α) : Prop where
  ok : ∀ {c a c'} (more : Octets), d c = .ok a c' → d (c.extend more) = .ok a (c'.extend more)
  error : ∀ {c cause c'} (more : Octets), d c = .error cause c' → cause ≠ .truncated →
    d (c.extend more) = .error cause (c'.extend more)

theorem Stable.pure (a : α) : Stable (pure a) := by
  refine ⟨fun {c b c'} more h => ?_, fun {c cause c'} more h => ?_⟩
  · obtain ⟨rfl, rfl⟩ := Wire.pure_eq_ok.1 h
    rfl
  · cases h

theorem Stable.throw (cause : DecodeError) : Stable (throw cause : Decoder α) := by
  refine ⟨fun {c a c'} more h => ?_, fun {c cause' c'} more h _ => ?_⟩
  · cases h
  · cases h
    rfl

/-- The second of two decoders has to be stable only for what the first can read. -/
theorem Stable.bind_of {d : Decoder α} {next : α → Decoder β} (h : Stable d)
    (h' : ∀ c a c', d c = .ok a c' → Stable (next a)) : Stable (d >>= next) := by
  refine ⟨fun {c b c'} more hbind => ?_, fun {c cause c'} more hbind hcause => ?_⟩
  · obtain ⟨a, t, hfirst, hnext⟩ := Wire.bind_eq_ok.1 hbind
    exact Wire.bind_eq_ok.2 ⟨a, _, h.ok more hfirst, (h' c a t hfirst).ok more hnext⟩
  · rcases Wire.bind_eq_error.1 hbind with hfirst | ⟨a, t, hfirst, hnext⟩
    · exact Wire.bind_eq_error.2 (.inl (h.error more hfirst hcause))
    · exact Wire.bind_eq_error.2
        (.inr ⟨a, _, h.ok more hfirst, (h' c a t hfirst).error more hnext hcause⟩)

theorem Stable.bind {d : Decoder α} {next : α → Decoder β} (h : Stable d)
    (h' : ∀ a, Stable (next a)) : Stable (d >>= next) := h.bind_of fun _ a _ _ => h' a

theorem Stable.map {d : Decoder α} (h : Stable d) (f : α → β) : Stable (do return f (← d)) :=
  h.bind fun a => Stable.pure (f a)

theorem Stable.position : Stable position := by
  refine ⟨fun {c a c'} more h => ?_, fun {c cause c'} more h => ?_⟩
  · cases h
    rfl
  · cases h

theorem Stable.seek (place : Nat) : Stable (seek place) := by
  refine ⟨fun {c a c'} more h => ?_, fun {c cause c'} more h => ?_⟩
  · cases h
    rfl
  · cases h

/-- Octets that are there are the same on a longer datagram; that they are not there is the one failure
that a longer datagram can mend. -/
theorem Stable.octets (n : Nat) : Stable (octets n) := by
  refine ⟨fun {c os c'} more h => ?_, fun {c cause c'} more h hcause => ?_⟩
  · by_cases hle : c.position + n ≤ c.datagram.size
    · rw [octets_of_le hle] at h
      cases h
      have hlonger : c.position + n ≤ (c.extend more).datagram.size := by
        simp only [Cursor.extend, Array.size_append]
        omega
      have hsame : (c.extend more).datagram.extract c.position (c.position + n) =
          c.datagram.extract c.position (c.position + n) := by
        have hnone : c.position + n - c.datagram.size = 0 := by omega
        simp [Cursor.extend, Array.extract_append, hnone]
      have hread : Decoder.octets n (c.extend more) = _ := octets_of_le hlonger
      rwa [show (c.extend more).position = c.position from rfl, hsame] at hread
    · rw [octets_of_lt (Nat.not_le.1 hle)] at h
      cases h
  · by_cases hle : c.position + n ≤ c.datagram.size
    · rw [octets_of_le hle] at h
      cases h
    · rw [octets_of_lt (Nat.not_le.1 hle)] at h
      cases h
      exact absurd rfl hcause

theorem Stable.uint8 : Stable uint8 := (Stable.octets 1).map _

theorem Stable.uint16 : Stable uint16 := (Stable.octets 2).map _

theorem Stable.uint32 : Stable uint32 := (Stable.octets 4).map _

theorem Stable.times {item : Decoder α} (h : Stable item) (n : Nat) : Stable (times item n) := by
  induction n with
  | zero => exact Stable.pure []
  | succ n ih => exact h.bind fun first => ih.map fun rest => first :: rest

end Decoder

end ZoneServer

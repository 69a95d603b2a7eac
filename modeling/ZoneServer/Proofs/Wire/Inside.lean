import ZoneServer.Wire.Cursor
import ZoneServer.Wire.Sequence

/-!
# Decoders stay inside the datagram

`Decoder.Inside datagram d P` says that `d`, started at a place in a datagram, leaves a place in the same
datagram, whether it succeeds or fails, and that what it reads satisfies `P`. The place after the last
octet counts as a place in the datagram.
-/

namespace ZoneServer.Decoder

variable {α β : Type} {datagram : Array UInt8}

/-- A decoder leads from places in a datagram to places in it, and reads what satisfies a property. -/
structure Inside (datagram : Array UInt8) (d : Decoder α) (P : α → Prop) : Prop where
  ok : ∀ {place a c'}, place ≤ datagram.size → d ⟨datagram, place⟩ = .ok a c' →
    ∃ stop, stop ≤ datagram.size ∧ c' = ⟨datagram, stop⟩ ∧ P a
  error : ∀ {place cause c'}, place ≤ datagram.size → d ⟨datagram, place⟩ = .error cause c' →
    ∃ stop, stop ≤ datagram.size ∧ c' = ⟨datagram, stop⟩

theorem Inside.pure {P : α → Prop} {a : α} (h : P a) : Inside datagram (pure a) P := by
  refine ⟨fun {place b c'} hplace hpure => ?_, fun {place cause c'} _ hpure => ?_⟩
  · obtain ⟨rfl, rfl⟩ := Wire.pure_eq_ok.1 hpure
    exact ⟨place, hplace, rfl, h⟩
  · cases hpure

theorem Inside.throw {P : α → Prop} (cause : DecodeError) : Inside datagram (throw cause) P := by
  refine ⟨fun {place a c'} _ hthrow => ?_, fun {place cause' c'} hplace hthrow => ?_⟩
  · cases hthrow
  · cases hthrow
    exact ⟨place, hplace, rfl⟩

theorem Inside.bind {d : Decoder α} {next : α → Decoder β} {P : α → Prop} {Q : β → Prop}
    (h : Inside datagram d P) (h' : ∀ a, P a → Inside datagram (next a) Q) :
    Inside datagram (d >>= next) Q := by
  refine ⟨fun {place b c'} hplace hbind => ?_, fun {place cause c'} hplace hbind => ?_⟩
  · obtain ⟨a, t, hfirst, hnext⟩ := Wire.bind_eq_ok.1 hbind
    obtain ⟨middle, hmiddle, rfl, ha⟩ := h.ok hplace hfirst
    exact (h' a ha).ok hmiddle hnext
  · rcases Wire.bind_eq_error.1 hbind with hfirst | ⟨a, t, hfirst, hnext⟩
    · exact h.error hplace hfirst
    · obtain ⟨middle, hmiddle, rfl, ha⟩ := h.ok hplace hfirst
      exact (h' a ha).error hmiddle hnext

theorem Inside.then {d : Decoder α} {next : α → Decoder β} {P : α → Prop} {Q : β → Prop}
    (h : Inside datagram d P) (h' : ∀ a, Inside datagram (next a) Q) :
    Inside datagram (d >>= next) Q := h.bind fun a _ => h' a

/-- What is known of the value that was read includes that it was read. -/
theorem Inside.read {d : Decoder α} {P : α → Prop} (h : Inside datagram d P) :
    Inside datagram d fun a => P a ∧ ∃ c c', d c = .ok a c' := by
  refine ⟨fun {place a c'} hplace hread => ?_, h.error⟩
  obtain ⟨stop, hstop, rfl, ha⟩ := h.ok hplace hread
  exact ⟨stop, hstop, rfl, ha, _, _, hread⟩

theorem Inside.position : Inside datagram position fun place => place ≤ datagram.size := by
  refine ⟨fun {place a c'} hplace h => ?_, fun {place cause c'} _ h => ?_⟩
  · cases h
    exact ⟨place, hplace, rfl, hplace⟩
  · cases h

theorem Inside.seek {place : Nat} (hplace : place ≤ datagram.size) :
    Inside datagram (seek place) fun _ => True := by
  refine ⟨fun {here a c'} _ h => ?_, fun {here cause c'} _ h => ?_⟩
  · cases h
    exact ⟨place, hplace, rfl, trivial⟩
  · cases h

theorem Inside.octets (n : Nat) : Inside datagram (octets n) fun os => os.length = n := by
  refine ⟨fun {place os c'} _ h => ?_, fun {place cause c'} hplace h => ?_⟩
  · by_cases hle : place + n ≤ datagram.size
    · rw [octets_of_le hle] at h
      cases h
      refine ⟨place + n, hle, rfl, ?_⟩
      dsimp only
      rw [Array.length_toList, Array.size_extract]
      omega
    · rw [octets_of_lt (Nat.not_le.1 hle)] at h
      cases h
  · by_cases hle : place + n ≤ datagram.size
    · rw [octets_of_le hle] at h
      cases h
    · rw [octets_of_lt (Nat.not_le.1 hle)] at h
      cases h
      exact ⟨place, hplace, rfl⟩

theorem Inside.uint8 : Inside datagram uint8 fun _ => True :=
  (Inside.octets 1).then fun _ => Inside.pure trivial

theorem Inside.uint16 : Inside datagram uint16 fun _ => True :=
  (Inside.octets 2).then fun _ => Inside.pure trivial

theorem Inside.uint32 : Inside datagram uint32 fun _ => True :=
  (Inside.octets 4).then fun _ => Inside.pure trivial

theorem Inside.times {item : Decoder α} {P : α → Prop} (h : Inside datagram item P) (n : Nat) :
    Inside datagram (times item n) fun _ => True := by
  induction n with
  | zero => exact Inside.pure trivial
  | succ n ih => exact h.then fun _ => ih.then fun _ => Inside.pure trivial

end ZoneServer.Decoder

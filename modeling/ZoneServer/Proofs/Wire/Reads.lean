import Mathlib.Order.Nat
import ZoneServer.Proofs.Octets
import ZoneServer.Wire.Cursor
import ZoneServer.Wire.Sequence

/-!
# What a decoder reads

`Decoder.Reads d os a` says that `d` reads the octets `os` as `a`: it takes exactly these octets,
whatever comes before them and after them, and if only a first part of them is there, it finds that the
datagram ends too soon. Decoders one after another read octets one after another (`Reads.bind`).
-/

namespace ZoneServer

/-- The place in a datagram that has these octets before it and those after it. -/
def Cursor.between (before after : Octets) : Cursor := ⟨(before ++ after).toArray, before.length⟩

theorem Cursor.ofPrefix_eq (datagram : Octets) (length : Nat) :
    ofPrefix datagram length = between [] (datagram.take length) := rfl

theorem Cursor.remaining_between (before after : Octets) :
    (between before after).remaining = after.length := by
  simp [remaining, between]

theorem Cursor.drop_between (before after : Octets) :
    (between before after).datagram.toList.drop (between before after).position = after := List.drop_left

/-- The place after the next octets. -/
theorem Cursor.between_append (before os rest : Octets) {place : Nat}
    (h : place = before.length + os.length) :
    { between before (os ++ rest) with position := place } = between (before ++ os) rest := by
  rw [h, between, between, List.append_assoc, List.length_append]

namespace Decoder

variable {α β : Type}

/-- A decoder reads octets as a value. -/
structure Reads (d : Decoder α) (os : Octets) (a : α) : Prop where
  /-- All of the octets are taken, and no more. -/
  whole : ∀ before after,
    d (.between before (os ++ after)) = .ok a (.between (before ++ os) after)
  /-- A part of the octets is not enough. -/
  part : ∀ before first rest, os = first ++ rest → rest ≠ [] →
    ∃ c, d (.between before first) = .error .truncated c

theorem Reads.pure (a : α) : Reads (pure a) [] a := by
  refine ⟨fun before after => by simp [Pure.pure, EStateM.pure], ?_⟩
  intro before first rest hsplit hrest
  exact absurd (List.append_eq_nil_iff.1 hsplit.symm).2 hrest

/-- Decoders one after another read octets one after another. -/
theorem Reads.bind {d : Decoder α} {next : α → Decoder β} {os os' : Octets} {a : α} {b : β}
    (h : Reads d os a) (h' : Reads (next a) os' b) : Reads (d >>= next) (os ++ os') b := by
  refine ⟨fun before after => ?_, fun before first rest hsplit hrest => ?_⟩
  · refine Wire.bind_eq_ok.2 ⟨a, .between (before ++ os) (os' ++ after), ?_, ?_⟩
    · rw [List.append_assoc, h.whole]
    · rw [h'.whole, List.append_assoc]
  · rcases List.append_eq_append_iff.1 hsplit with ⟨mid, hfirst, hos'⟩ | ⟨mid, hos, hrest'⟩
    · -- the cut is among the octets of the second decoder
      obtain ⟨c, hc⟩ := h'.part (before ++ os) mid rest hos' hrest
      refine ⟨c, Wire.bind_eq_error.2 (.inr ⟨a, _, ?_, hc⟩)⟩
      rw [hfirst, h.whole]
    · -- the cut is among the octets of the first, or just after them
      by_cases hmid : mid = []
      · rw [hmid, List.nil_append] at hrest'
        rw [hmid, List.append_nil] at hos
        obtain ⟨c, hc⟩ := h'.part (before ++ os) [] os' rfl (by rwa [← hrest'])
        refine ⟨c, Wire.bind_eq_error.2 (.inr ⟨a, _, ?_, hc⟩)⟩
        have hwhole := h.whole before []
        rw [List.append_nil] at hwhole
        rwa [← hos]
      · obtain ⟨c, hc⟩ := h.part before first mid hos hmid
        exact ⟨c, Wire.bind_eq_error.2 (.inl hc)⟩

theorem Reads.bind_nil {d : Decoder α} {next : α → Decoder β} {os : Octets} {a : α} {b : β}
    (h : Reads d os a) (h' : Reads (next a) [] b) : Reads (d >>= next) os b := by
  have hbind := h.bind h'
  rwa [List.append_nil] at hbind

theorem Reads.map {d : Decoder α} {os : Octets} {a : α} (h : Reads d os a) (f : α → β) :
    Reads (do return f (← d)) os (f a) := h.bind_nil (Reads.pure (f a))

/-- Looking where one is takes no octets. -/
theorem Reads.position {next : Nat → Decoder β} {os : Octets} {b : β}
    (h : ∀ place, Reads (next place) os b) : Reads (position >>= next) os b :=
  ⟨fun before after => (h before.length).whole before after,
    fun before first rest hsplit hrest => (h before.length).part before first rest hsplit hrest⟩

/-- A decoder whose octets are counted and found to be as many as they should be. -/
theorem Reads.measured {d : Decoder α} {os : Octets} {a : α} (h : Reads d os a) {length : Nat}
    (hlength : os.length = length) (f : α → β) (cause : DecodeError) :
    Reads (do
      let start ← Decoder.position
      let value ← d
      let stop ← Decoder.position
      if stop - start = length then return f value else throw cause) os (f a) := by
  refine ⟨fun before after => ?_, fun before first rest hsplit hrest => ?_⟩
  · refine Wire.bind_eq_ok.2 ⟨before.length, _, rfl, Wire.bind_eq_ok.2 ⟨a, _, h.whole before after,
      Wire.bind_eq_ok.2 ⟨(before ++ os).length, _, rfl, ?_⟩⟩⟩
    rw [List.length_append, Nat.add_sub_cancel_left, if_pos hlength]
    rfl
  · obtain ⟨c, hc⟩ := h.part before first rest hsplit hrest
    exact ⟨c, Wire.bind_eq_error.2 (.inr ⟨before.length, _, rfl, Wire.bind_eq_error.2 (.inl hc)⟩)⟩

theorem Reads.octets (os : Octets) : Reads (octets os.length) os os := by
  refine ⟨fun before after => ?_, fun before first rest hsplit hrest => ⟨_, octets_of_lt ?_⟩⟩
  · rw [octets_of_le (by simp [Cursor.between])]
    simp [Cursor.between]
  · have hpos : 0 < rest.length := List.length_pos_iff.2 hrest
    simp only [Cursor.between, List.size_toArray, hsplit, List.length_append]
    omega

theorem Reads.uint8 (n : UInt8) : Reads uint8 [n] n := by
  have h := (Reads.octets [n]).map fun os => UInt8.ofNat (Octets.toNat os)
  have hvalue : UInt8.ofNat (Octets.toNat [n]) = n := by simp [Octets.toNat]
  rwa [hvalue] at h

theorem Reads.uint16 (n : UInt16) : Reads uint16 (Octets.ofNat 2 n.toNat) n := by
  have h := (Reads.octets (Octets.ofNat 2 n.toNat)).map fun os => UInt16.ofNat (Octets.toNat os)
  have hlt : n.toNat < 256 ^ 2 := n.toNat_lt
  have hvalue : UInt16.ofNat (Octets.toNat (Octets.ofNat 2 n.toNat)) = n := by
    rw [Octets.toNat_ofNat, Nat.mod_eq_of_lt hlt, UInt16.ofNat_toNat]
  rwa [hvalue, Octets.length_ofNat] at h

theorem Reads.uint32 (n : UInt32) : Reads uint32 (Octets.ofNat 4 n.toNat) n := by
  have h := (Reads.octets (Octets.ofNat 4 n.toNat)).map fun os => UInt32.ofNat (Octets.toNat os)
  have hlt : n.toNat < 256 ^ 4 := n.toNat_lt
  have hvalue : UInt32.ofNat (Octets.toNat (Octets.ofNat 4 n.toNat)) = n := by
    rw [Octets.toNat_ofNat, Nat.mod_eq_of_lt hlt, UInt32.ofNat_toNat]
  rwa [hvalue, Octets.length_ofNat] at h

/-- Items are read one after another. -/
theorem Reads.times {item : Decoder α} {wire : β → Octets} {value : β → α} {bs : List β}
    (h : ∀ b ∈ bs, Reads item (wire b) (value b)) :
    Reads (times item bs.length) (bs.flatMap wire) (bs.map value) := by
  induction bs with
  | nil => exact Reads.pure []
  | cons b bs ih =>
    rw [List.forall_mem_cons] at h
    exact h.1.bind ((ih h.2).map fun rest => value b :: rest)

/-- What is taken when the octets stand somewhere in a datagram. -/
theorem Reads.inside {d : Decoder α} {os : Octets} {a : α} (h : Reads d os a)
    {datagram before after : Octets} (hsplit : datagram = before ++ (os ++ after)) :
    d ⟨datagram.toArray, before.length⟩ = .ok a ⟨datagram.toArray, before.length + os.length⟩ := by
  have hwhole := h.whole before after
  rw [Cursor.between, Cursor.between, List.append_assoc, ← hsplit, List.length_append] at hwhole
  exact hwhole

/-- What is taken when the octets stand at the beginning of a datagram. -/
theorem Reads.ofPrefix {d : Decoder α} {os : Octets} {a : α} (h : Reads d os a) (after : Octets) :
    d (.ofPrefix (os ++ after) (os ++ after).length) = .ok a (.between os after) := by
  rw [Cursor.ofPrefix_eq, List.take_length]
  exact h.whole [] after

theorem Reads.ofPrefix_part {d : Decoder α} {os first rest : Octets} {a : α} (h : Reads d os a)
    (hsplit : os = first ++ rest) (hrest : rest ≠ []) :
    ∃ c, d (.ofPrefix first first.length) = .error .truncated c := by
  rw [Cursor.ofPrefix_eq, List.take_length]
  exact h.part [] first rest hsplit hrest

end Decoder

end ZoneServer

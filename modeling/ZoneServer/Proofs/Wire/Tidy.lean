import ZoneServer.Proofs.Wire.Form

/-!
# What an encoder leaves

An encoder leaves a buffer behind whether it succeeds or fails. The buffers that come from the empty one
are tidy: they have their sizes, and nothing is in them from their place on. `Encoder.Keeps` says that an
encoder leaves tidy buffers tidy and never goes back, and, under a condition, that it changes nothing
before the place at which it starts. Only patching can do that, so the condition will be that there is no
patching.
-/

namespace ZoneServer

/-! ## Buffers -/

namespace Buffer

/-- A buffer of the right sizes that has nothing in it from its place on. -/
structure Tidy (b : Buffer) : Prop extends b.WellFormed where
  blank : b.cells.drop b.position = List.replicate (maxMessageSize - b.position) 0

/-- `b'` is a tidy buffer in which no less is written than in `b` and, under a condition, what is written
in `b` is unchanged. -/
structure Grows (untouched : Prop) (b b' : Buffer) : Prop where
  tidy : b'.Tidy
  position_le : b.position ≤ b'.position
  take_cells : untouched → b'.cells.take b.position = b.cells.take b.position

variable {untouched : Prop} {b b' b'' : Buffer}

theorem tidy_empty : empty.Tidy := ⟨wellFormed_empty, rfl⟩

theorem Tidy.length_contents (h : b.Tidy) : b.contents.length = b.position := h.length_take

theorem Grows.refl (h : b.Tidy) : b.Grows untouched b := ⟨h, le_rfl, fun _ => rfl⟩

theorem Grows.trans (h : b.Grows untouched b') (h' : b'.Grows untouched b'') :
    b.Grows untouched b'' := by
  refine ⟨h'.tidy, h.position_le.trans h'.position_le, fun huntouched => ?_⟩
  have htake := congrArg (List.take b.position) (h'.take_cells huntouched)
  rwa [List.take_take, List.take_take, Nat.min_eq_left h.position_le, h.take_cells huntouched] at htake

/-! ### Replacing cells -/

variable {offset : Nat} {os : Octets}

theorem length_store (h : offset + os.length ≤ b.cells.length) :
    (b.store offset os).cells.length = b.cells.length := by
  simp only [store, List.length_append, List.length_take, List.length_drop]
  omega

theorem take_store {n : Nat} (h : n ≤ offset) (hoffset : offset ≤ b.cells.length) :
    (b.store offset os).cells.take n = b.cells.take n := by
  have hlength : n ≤ (b.cells.take offset).length := by
    rw [List.length_take, Nat.min_eq_left hoffset]
    exact h
  simp only [store, List.append_assoc]
  rw [List.take_append_of_le_length hlength, List.take_take, Nat.min_eq_left h]

theorem drop_store (hoffset : offset ≤ b.cells.length) :
    (b.store offset os).cells.drop (offset + os.length) = b.cells.drop (offset + os.length) := by
  have hlength : (b.cells.take offset ++ os).length = offset + os.length := by
    rw [List.length_append, List.length_take, Nat.min_eq_left hoffset]
  rw [store, ← hlength, List.drop_left, hlength]

theorem drop_store_of_le {n : Nat} (h : offset + os.length ≤ n) (hoffset : offset ≤ b.cells.length) :
    (b.store offset os).cells.drop n = b.cells.drop n := by
  have hsplit : n = offset + os.length + (n - (offset + os.length)) := by omega
  rw [hsplit, ← List.drop_drop, drop_store hoffset, List.drop_drop]

theorem getElem?_store {i : Nat} (hi : i < offset ∨ offset + os.length ≤ i)
    (hoffset : offset ≤ b.cells.length) : (b.store offset os).cells[i]? = b.cells[i]? := by
  rcases hi with hbefore | hafter
  · have htake : (b.store offset os).cells.take offset = b.cells.take offset :=
      take_store le_rfl hoffset
    rw [← List.getElem?_take_of_lt hbefore, htake, List.getElem?_take_of_lt hbefore]
  · have hsplit : i = offset + os.length + (i - (offset + os.length)) := by omega
    rw [hsplit, ← List.getElem?_drop, drop_store hoffset, List.getElem?_drop]

theorem take_drop_store (hoffset : offset ≤ b.cells.length) :
    ((b.store offset os).cells.drop offset).take os.length = os := by
  have hlength : (b.cells.take offset).length = offset := by
    rw [List.length_take, Nat.min_eq_left hoffset]
  simp only [store, List.append_assoc]
  rw [List.drop_left' hlength, List.take_left]

/-! ### What keeps a buffer tidy -/

/-- Whatever changes only cells before its new place keeps a buffer tidy. -/
theorem Tidy.of_drop {b b' : Buffer} (h : b.Tidy) (hlength : b'.cells.length = b.cells.length)
    (hposition : b.position ≤ b'.position) (hroom : b'.position ≤ maxMessageSize)
    (hdrop : b'.cells.drop b'.position = b.cells.drop b'.position) : b'.Tidy := by
  refine ⟨⟨hlength.trans h.length_cells, hroom⟩, ?_⟩
  have hsplit : b'.position = b.position + (b'.position - b.position) := by omega
  rw [hdrop, hsplit, ← List.drop_drop, h.blank, List.drop_replicate]
  congr 1
  omega

theorem grows_append (h : b.Tidy) (hos : b.position + os.length ≤ maxMessageSize) :
    b.Grows untouched (b.append os) := by
  have hposition : b.position ≤ b.cells.length := by
    rw [h.length_cells]
    exact h.position_le
  have hlength : b.position + os.length ≤ b.cells.length := by rwa [h.length_cells]
  refine ⟨?_, Nat.le_add_right _ _, fun _ => ?_⟩
  · exact h.of_drop (length_store hlength) (Nat.le_add_right _ _) hos (drop_store hposition)
  · exact take_store le_rfl hposition

theorem grows_reserve (h : b.Tidy) {n : Nat} (hn : b.position + n ≤ maxMessageSize) :
    b.Grows untouched (b.skip n) := by
  refine ⟨?_, Nat.le_add_right _ _, fun _ => rfl⟩
  exact h.of_drop rfl (Nat.le_add_right _ _) hn rfl

/-- Replacing octets that have been written leaves those before them as they are. -/
theorem Tidy.store (h : b.Tidy) (hwritten : offset + os.length ≤ b.position) :
    (b.store offset os).Tidy := by
  have hposition := h.position_le
  have hlength := h.length_cells
  refine h.of_drop (length_store (by omega)) le_rfl hposition ?_
  exact drop_store_of_le hwritten (by omega)

/-- Replacing octets that have been written since then changes nothing that was there before. -/
theorem Grows.store (h : b.Grows untouched b') (hwritten : b.position + os.length ≤ b'.position) :
    b.Grows untouched (b'.store b.position os) := by
  refine ⟨h.tidy.store hwritten, h.position_le, fun huntouched => ?_⟩
  have hlength := h.tidy.length_cells
  have hposition := h.tidy.position_le
  rw [take_store le_rfl (by omega), h.take_cells huntouched]

end Buffer

/-! ## Encoders -/

namespace Encoder

variable {α β : Type} {untouched : Prop}

/-- The buffer that an encoder leaves, whether it succeeds or fails. -/
def leaves (e : Encoder α) (b : Buffer) : Buffer :=
  match e b with
  | .ok _ b' => b'
  | .error _ b' => b'

/-- An encoder leaves tidy buffers tidy and does not go back, and under a condition it leaves what it
finds. -/
def Keeps (untouched : Prop) (e : Encoder α) : Prop :=
  ∀ b : Buffer, b.Tidy → b.Grows untouched (e.leaves b)

theorem leaves_of_ok {e : Encoder α} {b b' : Buffer} {a : α} (h : e b = .ok a b') :
    e.leaves b = b' := by
  rw [leaves, h]

theorem leaves_of_error {e : Encoder α} {b b' : Buffer} {cause : EncodeError}
    (h : e b = .error cause b') : e.leaves b = b' := by
  rw [leaves, h]

theorem Keeps.mono {untouched' : Prop} {e : Encoder α} (h : Keeps untouched e)
    (himp : untouched' → untouched) : Keeps untouched' e := by
  intro b hb
  have hgrows := h b hb
  exact ⟨hgrows.tidy, hgrows.position_le, fun huntouched => hgrows.take_cells (himp huntouched)⟩

theorem Keeps.pure (a : α) : Keeps untouched (pure a) := fun _ hb => .refl hb

theorem Keeps.throw (cause : EncodeError) : Keeps untouched (throw cause : Encoder α) :=
  fun _ hb => .refl hb

theorem Keeps.check (c : Except EncodeError Unit) : Keeps untouched (check c) := by
  intro b hb
  cases c with
  | ok => exact .refl hb
  | error cause => exact .refl hb

theorem Keeps.bind {e : Encoder α} {next : α → Encoder β} (h : Keeps untouched e)
    (h' : ∀ a, Keeps untouched (next a)) : Keeps untouched (e >>= next) := by
  intro b hb
  have hfirst := h b hb
  cases he : e b with
  | ok a t =>
    have hboth : (e >>= next).leaves b = (next a).leaves t := by
      simp only [leaves, Bind.bind, EStateM.bind, he]
    rw [leaves_of_ok he] at hfirst
    rw [hboth]
    exact hfirst.trans (h' a t hfirst.tidy)
  | error cause t =>
    have hfails : (e >>= next).leaves b = t := by
      simp only [leaves, Bind.bind, EStateM.bind, he]
    rwa [leaves_of_error he, ← hfails] at hfirst

theorem Keeps.then {e : Encoder α} {e' : Encoder β} (h : Keeps untouched e)
    (h' : Keeps untouched e') : Keeps untouched (e >>= fun _ => e') := h.bind fun _ => h'

theorem Keeps.reserve (n : Nat) : Keeps untouched (reserve n) := by
  intro b hb
  by_cases hroom : b.position + n ≤ maxMessageSize
  · rw [leaves_of_ok (if_pos hroom)]
    exact Buffer.grows_reserve hb hroom
  · rw [leaves_of_error (if_neg hroom)]
    exact .refl hb

theorem Keeps.octets (os : Octets) : Keeps untouched (octets os) := by
  intro b hb
  by_cases hroom : b.position + os.length ≤ maxMessageSize
  · rw [leaves_of_ok (if_pos hroom)]
    exact Buffer.grows_append hb hroom
  · rw [leaves_of_error (if_neg hroom)]
    exact .refl hb

theorem Keeps.uint8 (n : UInt8) : Keeps untouched (uint8 n) := Keeps.octets _

theorem Keeps.uint16 (n : UInt16) : Keeps untouched (uint16 n) := Keeps.octets _

theorem Keeps.uint32 (n : UInt32) : Keeps untouched (uint32 n) := Keeps.octets _

/-- Patching keeps a buffer tidy, but it may change octets before the place. -/
theorem Keeps.patch (n : UInt16) (offset : Nat) : Keeps False (patch n offset) := by
  intro b hb
  by_cases hwritten : offset + 2 ≤ b.position
  · rw [leaves_of_ok (if_pos hwritten)]
    refine ⟨hb.store ?_, le_rfl, False.elim⟩
    rwa [Octets.length_ofNat]
  · rw [leaves_of_error (if_neg hwritten)]
    exact .refl hb

theorem Keeps.attempt {e : Encoder α} (h : Keeps untouched e) : Keeps untouched (attempt e) := by
  intro b hb
  have hgrows := h b hb
  have hsame : (Encoder.attempt e).leaves b = e.leaves b := by
    unfold leaves Encoder.attempt
    cases e b <;> rfl
  rwa [hsame]

theorem Keeps.each {item : α → Encoder Unit} (h : ∀ a, Keeps untouched (item a)) (as : List α) :
    Keeps untouched (each item as) := by
  induction as with
  | nil => exact Keeps.pure ()
  | cons a as ih => exact (h a).then ih

/-- The length is put in after the place at which the encoder starts. -/
theorem Keeps.lengthPrefixed {payload : Encoder Unit} (h : Keeps untouched payload) :
    Keeps untouched (lengthPrefixed payload) := by
  intro b hb
  by_cases hroom : b.position + 2 ≤ maxMessageSize
  · have hstart : b.Grows untouched (b.skip 2) := Buffer.grows_reserve hb hroom
    have hpayload := h (b.skip 2) hstart.tidy
    cases hrun : payload (b.skip 2) with
    | ok a t =>
      rw [leaves_of_ok hrun] at hpayload
      have hwritten : b.position + 2 ≤ t.position := hpayload.position_le
      rw [leaves_of_ok (lengthPrefixed_of_ok hroom hrun hwritten)]
      exact (hstart.trans hpayload).store (by rwa [Octets.length_ofNat])
    | error cause t =>
      rw [leaves_of_error hrun] at hpayload
      rw [leaves_of_error (lengthPrefixed_of_error hroom hrun)]
      exact hstart.trans hpayload
  · rw [leaves_of_error (lengthPrefixed_of_full payload (Nat.not_le.1 hroom))]
    exact .refl hb

end Encoder

end ZoneServer

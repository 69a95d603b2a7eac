import Mathlib.Order.Nat
import ZoneServer.Wire.Buffer
import ZoneServer.Wire.Sequence

/-!
# What an encoder writes

Apart from the patching of lengths, an encoder does the same wherever it is started: it writes certain
octets and then perhaps finds a fault. Both together are its `WireForm`, and `Encoder.Writes` says that
an encoder has one. The space in the buffer enters in a single place, `WireForm.outcome`: octets that
do not fit are a failure of their own, and it comes before the fault that would have come after them.

Wire forms can be joined, and `Encoder.Writes` goes along with that, so the form of a message is put
together from the forms of its parts and the buffer is never looked into again.
-/

namespace ZoneServer

/-! ## Buffers -/

namespace Buffer

/-- The sizes that every buffer has that comes from the empty one. -/
structure WellFormed (b : Buffer) : Prop where
  length_cells : b.cells.length = maxMessageSize
  position_le : b.position ≤ maxMessageSize

/-- The buffer after some octets have been written at its place. -/
def append (b : Buffer) (os : Octets) : Buffer :=
  { b.store b.position os with position := b.position + os.length }

/-- The buffer after room has been left for some octets at its place. -/
def skip (b : Buffer) (n : Nat) : Buffer := { b with position := b.position + n }

/-- `b'` holds what `b` holds, and perhaps more after it. -/
structure Extends (b b' : Buffer) : Prop where
  wellFormed : b'.WellFormed
  position_le : b.position ≤ b'.position
  take_cells : b'.cells.take b.position = b.cells.take b.position

theorem wellFormed_empty : empty.WellFormed := ⟨by simp [empty], Nat.zero_le _⟩

@[simp] theorem position_append (b : Buffer) (os : Octets) :
    (b.append os).position = b.position + os.length := rfl

@[simp] theorem position_skip (b : Buffer) (n : Nat) : (b.skip n).position = b.position + n := rfl

theorem WellFormed.skip {b : Buffer} (hb : b.WellFormed) {n : Nat}
    (hn : b.position + n ≤ maxMessageSize) : (b.skip n).WellFormed := ⟨hb.length_cells, hn⟩

theorem Extends.refl {b : Buffer} (hb : b.WellFormed) : b.Extends b := ⟨hb, le_rfl, rfl⟩

theorem Extends.trans {b b' b'' : Buffer} (h : b.Extends b') (h' : b'.Extends b'') :
    b.Extends b'' := by
  refine ⟨h'.wellFormed, h.position_le.trans h'.position_le, ?_⟩
  have htake := congrArg (List.take b.position) h'.take_cells
  rwa [List.take_take, List.take_take, Nat.min_eq_left h.position_le, h.take_cells] at htake

theorem WellFormed.length_take {b : Buffer} (hb : b.WellFormed) :
    (b.cells.take b.position).length = b.position := by
  rw [List.length_take, hb.length_cells, Nat.min_eq_left hb.position_le]

theorem WellFormed.append {b : Buffer} (hb : b.WellFormed) {os : Octets}
    (hos : b.position + os.length ≤ maxMessageSize) : (b.append os).WellFormed := by
  refine ⟨?_, hos⟩
  have hlen := hb.length_cells
  simp only [Buffer.append, store, List.length_append, List.length_take, List.length_drop]
  omega

theorem extends_append {b : Buffer} (hb : b.WellFormed) {os : Octets}
    (hos : b.position + os.length ≤ maxMessageSize) : b.Extends (b.append os) := by
  refine ⟨hb.append hos, Nat.le_add_right _ _, ?_⟩
  simp only [Buffer.append, store, List.append_assoc]
  rw [List.take_append_of_le_length hb.length_take.ge, List.take_take, Nat.min_self]

theorem append_nil (b : Buffer) : b.append [] = b := by simp [append, store]

/-- Writing in two goes is writing at once. -/
theorem append_append {b : Buffer} (hb : b.WellFormed) (os os' : Octets) :
    (b.append os).append os' = b.append (os ++ os') := by
  have htake : (b.cells.take b.position ++ os).length = b.position + os.length := by
    rw [List.length_append, hb.length_take]
  simp only [append, store, List.length_append, Nat.add_assoc, mk.injEq, and_true]
  rw [List.take_left' htake]
  rw [← Nat.add_assoc b.position, ← List.drop_drop, List.drop_left' htake, List.drop_drop]
  simp only [List.append_assoc, Nat.add_assoc]

/-- Two octets that are left out, written after and then put in might as well be written at once. -/
theorem store_append {b : Buffer} (hb : b.WellFormed) {two : Octets} (htwo : two.length = 2)
    (hroom : b.position + 2 ≤ maxMessageSize) (os : Octets) :
    ((b.skip 2).append os).store b.position two = b.append (two ++ os) := by
  have hlen := hb.length_cells
  have htake : (b.cells.take (b.position + 2)).length = b.position + 2 := by
    rw [List.length_take, hlen, Nat.min_eq_left hroom]
  simp only [skip, append, store, htwo, List.length_append, Nat.add_assoc, mk.injEq, and_true]
  rw [List.append_assoc (b.cells.take (b.position + 2)), List.drop_left' htake]
  rw [List.take_append_of_le_length (by omega), List.take_take, Nat.min_eq_left (by omega)]
  simp only [List.append_assoc]

/-- What an empty buffer holds after some octets have been written. -/
theorem contents_append_empty (os : Octets) : (empty.append os).contents = os := by
  simp [append, store, contents, empty]

end Buffer

/-! ## Wire forms -/

/-- What an encoder does wherever it is started. -/
structure WireForm where
  /-- The octets that are written. -/
  octets : Octets
  /-- The fault that is then found, if there is one. -/
  fault : Option EncodeError

namespace WireForm

/-- Octets and no fault. -/
def ofOctets (os : Octets) : WireForm := ⟨os, none⟩

/-- A fault that is found before anything is written. -/
def ofFault (cause : EncodeError) : WireForm := ⟨[], some cause⟩

/-- Goes on with another form if the first has no fault. -/
instance : Append WireForm where
  append w w' :=
    match w.fault with
    | none => ⟨w.octets ++ w'.octets, w'.fault⟩
    | some _ => w

/-- Forms one after another, up to the first that has a fault. -/
def concat : List WireForm → WireForm
  | [] => ofOctets []
  | w :: rest => w ++ concat rest

/-- The form after the number of its octets. -/
def lengthPrefixed (w : WireForm) : WireForm :=
  ⟨Octets.ofNat 2 w.octets.length ++ w.octets, w.fault⟩

/-- What comes of a form that is started with so many octets in the buffer. -/
def outcome (w : WireForm) (position : Nat) : Except EncodeError Octets :=
  if position + w.octets.length ≤ maxMessageSize then
    match w.fault with
    | none => .ok w.octets
    | some cause => .error cause
  else .error .bufferFull

theorem append_of_fault_none {w : WireForm} (h : w.fault = none) (w' : WireForm) :
    w ++ w' = ⟨w.octets ++ w'.octets, w'.fault⟩ := by
  change (match w.fault with | none => _ | some _ => w) = _
  rw [h]

theorem append_of_fault_some {w : WireForm} {cause : EncodeError} (h : w.fault = some cause)
    (w' : WireForm) : w ++ w' = w := by
  change (match w.fault with | none => _ | some _ => w) = _
  rw [h]

@[simp] theorem ofOctets_append_ofOctets (os os' : Octets) :
    ofOctets os ++ ofOctets os' = ofOctets (os ++ os') := rfl

theorem append_assoc (w w' w'' : WireForm) : w ++ w' ++ w'' = w ++ (w' ++ w'') := by
  cases h : w.fault with
  | some cause => rw [append_of_fault_some h, append_of_fault_some h, append_of_fault_some h]
  | none =>
    cases h' : w'.fault with
    | some cause =>
      rw [append_of_fault_some h', append_of_fault_none h]
      exact append_of_fault_some (by exact h') w''
    | none =>
      rw [append_of_fault_none h, append_of_fault_none h', append_of_fault_none h,
        append_of_fault_none (by exact h'), List.append_assoc]

theorem fault_append {w w' : WireForm} :
    (w ++ w').fault = none ↔ w.fault = none ∧ w'.fault = none := by
  cases h : w.fault with
  | none => simp [append_of_fault_none h]
  | some cause => simp [append_of_fault_some h, h]

theorem octets_append {w : WireForm} (h : w.fault = none) (w' : WireForm) :
    (w ++ w').octets = w.octets ++ w'.octets := by rw [append_of_fault_none h]

theorem concat_append (ws ws' : List WireForm) : concat (ws ++ ws') = concat ws ++ concat ws' := by
  induction ws with
  | nil => rfl
  | cons w ws ih => rw [List.cons_append, concat, concat, ih, append_assoc]

theorem concat_ofOctets {α : Type} (as : List α) (os : α → Octets) :
    concat (as.map fun a => ofOctets (os a)) = ofOctets (as.flatMap os) := by
  induction as with
  | nil => rfl
  | cons a as ih => rw [List.map_cons, concat, ih, ofOctets_append_ofOctets, List.flatMap_cons]

theorem fault_concat {ws : List WireForm} :
    (concat ws).fault = none ↔ ∀ w ∈ ws, w.fault = none := by
  induction ws with
  | nil => simp [concat, ofOctets]
  | cons w ws ih => rw [concat, fault_append, ih, List.forall_mem_cons]

/-! ## Outcomes -/

theorem outcome_eq_ok {w : WireForm} {position : Nat} {os : Octets} :
    w.outcome position = .ok os ↔
      w.fault = none ∧ os = w.octets ∧ position + w.octets.length ≤ maxMessageSize := by
  unfold outcome
  split
  · rename_i hroom
    cases w.fault <;> simp [hroom, eq_comm]
  · rename_i hroom
    simp [hroom]

/-- What is written had room. -/
theorem room_of_outcome {w : WireForm} {position : Nat} {os : Octets}
    (h : w.outcome position = .ok os) : position + os.length ≤ maxMessageSize := by
  obtain ⟨-, rfl, hroom⟩ := outcome_eq_ok.1 h
  exact hroom

theorem outcome_eq_error {w : WireForm} {position : Nat} {cause : EncodeError} :
    w.outcome position = .error cause ↔
      (maxMessageSize < position + w.octets.length ∧ cause = .bufferFull) ∨
        (position + w.octets.length ≤ maxMessageSize ∧ w.fault = some cause) := by
  unfold outcome
  split
  · rename_i hroom
    cases w.fault <;> simp [hroom, Nat.not_lt.2 hroom]
  · rename_i hroom
    simp [hroom, Nat.not_le.1 hroom, eq_comm]

theorem outcome_ofOctets_nil {position : Nat} (h : position ≤ maxMessageSize) :
    (ofOctets []).outcome position = .ok [] := if_pos h

/-- Joined forms succeed if both do, the second after the first. -/
theorem outcome_append_eq_ok {w w' : WireForm} {position : Nat} {os : Octets} :
    (w ++ w').outcome position = .ok os ↔
      ∃ first rest, w.outcome position = .ok first ∧
        w'.outcome (position + first.length) = .ok rest ∧ os = first ++ rest := by
  simp only [outcome_eq_ok]
  constructor
  · rintro ⟨hfault, rfl, hroom⟩
    obtain ⟨hw, hw'⟩ := fault_append.1 hfault
    rw [octets_append hw, List.length_append] at hroom
    exact ⟨_, _, ⟨hw, rfl, by omega⟩, ⟨hw', rfl, by omega⟩, octets_append hw w'⟩
  · rintro ⟨_, _, ⟨hw, rfl, _⟩, ⟨hw', rfl, hroom⟩, rfl⟩
    rw [octets_append hw, List.length_append]
    exact ⟨fault_append.2 ⟨hw, hw'⟩, rfl, by omega⟩

/-- Joined forms fail if the first does, or if the second does after it. -/
theorem outcome_append_eq_error {w w' : WireForm} {position : Nat} {cause : EncodeError} :
    (w ++ w').outcome position = .error cause ↔
      w.outcome position = .error cause ∨
        ∃ first, w.outcome position = .ok first ∧
          w'.outcome (position + first.length) = .error cause := by
  cases hw : w.fault with
  | some c => simp [append_of_fault_some hw, outcome_eq_ok, hw]
  | none =>
    simp only [outcome_eq_error, outcome_eq_ok, append_of_fault_none hw, List.length_append, hw]
    constructor
    · rintro (⟨hroom, rfl⟩ | ⟨hroom, hfault⟩)
      · by_cases hfirst : maxMessageSize < position + w.octets.length
        · exact .inl (.inl ⟨hfirst, rfl⟩)
        · exact .inr ⟨_, ⟨trivial, rfl, by omega⟩, .inl ⟨by omega, rfl⟩⟩
      · exact .inr ⟨_, ⟨trivial, rfl, by omega⟩, .inr ⟨by omega, hfault⟩⟩
    · rintro ((⟨hroom, rfl⟩ | ⟨_, hfault⟩) | ⟨_, ⟨_, rfl, _⟩, ⟨hroom, rfl⟩ | ⟨hroom, hfault⟩⟩)
      · exact .inl ⟨by omega, rfl⟩
      · cases hfault
      · exact .inl ⟨by omega, rfl⟩
      · exact .inr ⟨by omega, hfault⟩

theorem length_lengthPrefixed (w : WireForm) :
    w.lengthPrefixed.octets.length = 2 + w.octets.length := by
  rw [lengthPrefixed, List.length_append, Octets.length_ofNat]

/-- With its length a form fails for want of space for the length or as it does by itself. -/
theorem outcome_lengthPrefixed_eq_error {w : WireForm} {position : Nat} {cause : EncodeError}
    (h : w.lengthPrefixed.outcome position = .error cause) :
    (maxMessageSize < position + 2 ∧ cause = .bufferFull) ∨
      (position + 2 ≤ maxMessageSize ∧ w.outcome (position + 2) = .error cause) := by
  rw [outcome_eq_error, length_lengthPrefixed] at h
  by_cases hroom : position + 2 ≤ maxMessageSize
  · refine .inr ⟨hroom, outcome_eq_error.2 ?_⟩
    rcases h with ⟨hfull, hcause⟩ | ⟨hfits, hfault⟩
    · exact .inl ⟨by omega, hcause⟩
    · exact .inr ⟨by omega, hfault⟩
  · rcases h with ⟨-, hcause⟩ | ⟨hfits, -⟩
    · exact .inl ⟨by omega, hcause⟩
    · omega

end WireForm

/-! ## Encoders and their forms -/

/-- An encoder does what a form says, on every buffer. When it fails, what was there before stays. -/
structure Encoder.Writes (e : Encoder Unit) (w : WireForm) : Prop where
  ok : ∀ {b os}, b.WellFormed → w.outcome b.position = .ok os → e b = .ok () (b.append os)
  error : ∀ {b cause}, b.WellFormed → w.outcome b.position = .error cause →
    ∃ b', e b = .error cause b' ∧ b.Extends b'

namespace Encoder

theorem Writes.pure : Writes (pure ()) (.ofOctets []) := by
  refine ⟨fun {b os} _ hos => ?_, fun {b cause} hb hc => ?_⟩
  · obtain ⟨-, rfl, -⟩ := WireForm.outcome_eq_ok.1 hos
    exact congrArg _ b.append_nil.symm
  · have hroom := hb.position_le
    rcases WireForm.outcome_eq_error.1 hc with ⟨hfull, -⟩ | ⟨-, hfault⟩
    · simp only [WireForm.ofOctets, List.length_nil] at hfull
      omega
    · cases hfault

theorem Writes.throw (cause : EncodeError) : Writes (throw cause) (.ofFault cause) := by
  refine ⟨fun _ hos => ?_, fun {b _} hb hc => ⟨b, ?_, .refl hb⟩⟩
  · cases (WireForm.outcome_eq_ok.1 hos).1
  · have hroom := hb.position_le
    rcases WireForm.outcome_eq_error.1 hc with ⟨hfull, -⟩ | ⟨-, hfault⟩
    · simp only [WireForm.ofFault, List.length_nil] at hfull
      omega
    · cases hfault
      rfl

theorem Writes.octets (os : Octets) : Writes (octets os) (.ofOctets os) := by
  refine ⟨fun {b os'} _ hos => ?_, fun {b cause} hb hc => ⟨b, ?_, .refl hb⟩⟩
  · obtain ⟨-, rfl, hroom⟩ := WireForm.outcome_eq_ok.1 hos
    exact if_pos hroom
  · rcases WireForm.outcome_eq_error.1 hc with ⟨hfull, rfl⟩ | ⟨-, hfault⟩
    · exact if_neg (Nat.not_le.2 hfull)
    · cases hfault

/-- Encoders one after another write what each of them writes. -/
theorem Writes.bind {e e' : Encoder Unit} {w w' : WireForm} (h : Writes e w) (h' : Writes e' w') :
    Writes (e >>= fun _ => e') (w ++ w') := by
  refine ⟨fun {b os} hb hos => ?_, fun {b cause} hb hc => ?_⟩
  · obtain ⟨first, rest, hfirst, hrest, rfl⟩ := WireForm.outcome_append_eq_ok.1 hos
    have hroom := WireForm.room_of_outcome hfirst
    refine Wire.bind_eq_ok.2 ⟨(), b.append first, h.ok hb hfirst, ?_⟩
    rw [h'.ok (hb.append hroom) hrest, Buffer.append_append hb]
  · rcases WireForm.outcome_append_eq_error.1 hc with hfirst | ⟨first, hfirst, hrest⟩
    · obtain ⟨b', he, hext⟩ := h.error hb hfirst
      exact ⟨b', Wire.bind_eq_error.2 (.inl he), hext⟩
    · have hroom := WireForm.room_of_outcome hfirst
      obtain ⟨b', he, hext⟩ := h'.error (hb.append hroom) hrest
      exact ⟨b', Wire.bind_eq_error.2 (.inr ⟨(), _, h.ok hb hfirst, he⟩),
        (Buffer.extends_append hb hroom).trans hext⟩

theorem Writes.each {α : Type} {item : α → Encoder Unit} {form : α → WireForm}
    (h : ∀ a, Writes (item a) (form a)) (as : List α) :
    Writes (each item as) (WireForm.concat (as.map form)) := by
  induction as with
  | nil => exact Writes.pure
  | cons a as ih => exact (h a).bind ih

/-! ### A payload and its length -/

section Prefixed

variable {payload : Encoder Unit} {b b' : Buffer} {cause : EncodeError}

theorem reserve_of_le {n : Nat} (h : b.position + n ≤ maxMessageSize) :
    reserve n b = .ok b.position (b.skip n) := if_pos h

theorem reserve_of_full {n : Nat} (h : maxMessageSize < b.position + n) :
    reserve n b = .error .bufferFull b := if_neg (Nat.not_le.2 h)

/-- Without room for the length nothing is done. -/
theorem lengthPrefixed_of_full (payload : Encoder Unit) (h : maxMessageSize < b.position + 2) :
    lengthPrefixed payload b = .error .bufferFull b :=
  Wire.bind_eq_error.2 (.inl (reserve_of_full h))

/-- After a payload that fails, the length is not put in. -/
theorem lengthPrefixed_of_error (hroom : b.position + 2 ≤ maxMessageSize)
    (h : payload (b.skip 2) = .error cause b') : lengthPrefixed payload b = .error cause b' :=
  Wire.bind_eq_error.2 (.inr ⟨_, _, reserve_of_le hroom, Wire.bind_eq_error.2 (.inl h)⟩)

/-- After a payload that has not gone back before its place, the length is put in. -/
theorem lengthPrefixed_of_ok (hroom : b.position + 2 ≤ maxMessageSize)
    (h : payload (b.skip 2) = .ok () b') (hle : b.position + 2 ≤ b'.position) :
    lengthPrefixed payload b = .ok () (b'.store b.position
      (Octets.ofNat 2 (UInt16.ofNat (b'.position - b.position - 2)).toNat)) :=
  Wire.bind_eq_ok.2 ⟨_, _, reserve_of_le hroom, Wire.bind_eq_ok.2 ⟨_, _, h,
    Wire.bind_eq_ok.2 ⟨b', b', rfl, if_pos hle⟩⟩⟩

end Prefixed

/-- A number of octets in a buffer can be written in two octets. -/
theorem toNat_ofNat_count {n : Nat} (h : n ≤ maxMessageSize) : (UInt16.ofNat n).toNat = n :=
  UInt16.toNat_ofNat_of_lt' (lt_of_le_of_lt h (by decide))

/-- The length that is put in afterwards is that of the payload. -/
theorem Writes.lengthPrefixed {e : Encoder Unit} {w : WireForm} (h : Writes e w) :
    Writes (lengthPrefixed e) w.lengthPrefixed := by
  refine ⟨fun {b os} hb hos => ?_, fun {b cause} hb hc => ?_⟩
  · obtain ⟨hfault, rfl, hroom⟩ := WireForm.outcome_eq_ok.1 hos
    rw [WireForm.length_lengthPrefixed] at hroom
    -- the payload is written after two octets that are still to be filled in
    have hpayload : e (b.skip 2) = .ok () ((b.skip 2).append w.octets) :=
      h.ok (hb.skip (by omega)) (WireForm.outcome_eq_ok.2 ⟨hfault, rfl, by rw [Buffer.position_skip]; omega⟩)
    have hend : ((b.skip 2).append w.octets).position = b.position + 2 + w.octets.length := rfl
    have hcount : b.position + 2 + w.octets.length - b.position - 2 = w.octets.length := by omega
    rw [lengthPrefixed_of_ok (by omega) hpayload (by omega), hend, hcount,
      toNat_ofNat_count (by omega), Buffer.store_append hb (Octets.length_ofNat _ _) (by omega)]
    rfl
  · rcases WireForm.outcome_lengthPrefixed_eq_error hc with ⟨hfull, rfl⟩ | ⟨hroom, hpayload⟩
    · exact ⟨b, lengthPrefixed_of_full e hfull, .refl hb⟩
    · obtain ⟨b', he, hext⟩ := h.error (hb.skip hroom) hpayload
      have hskip : b.Extends (b.skip 2) := ⟨hb.skip hroom, Nat.le_add_right _ _, rfl⟩
      exact ⟨b', lengthPrefixed_of_error hroom he, hskip.trans hext⟩

/-- An encoder that succeeds has written its octets and found no fault. -/
theorem Writes.of_ok {e : Encoder Unit} {w : WireForm} (h : Writes e w) {b b' : Buffer}
    (hb : b.WellFormed) (hrun : e b = .ok () b') :
    w.fault = none ∧ b.position + w.octets.length ≤ maxMessageSize ∧ b' = b.append w.octets := by
  cases hout : w.outcome b.position with
  | ok os =>
    obtain ⟨hfault, rfl, hroom⟩ := WireForm.outcome_eq_ok.1 hout
    rw [h.ok hb hout] at hrun
    cases hrun
    exact ⟨hfault, hroom, rfl⟩
  | error cause =>
    obtain ⟨t, he, -⟩ := h.error hb hout
    rw [he] at hrun
    cases hrun

/-- An encoder that fails does so as its form says, and what was there before stays. -/
theorem Writes.of_error {e : Encoder Unit} {w : WireForm} (h : Writes e w) {b b' : Buffer}
    {cause : EncodeError} (hb : b.WellFormed) (hrun : e b = .error cause b') :
    w.outcome b.position = .error cause ∧ b.Extends b' := by
  cases hout : w.outcome b.position with
  | ok os =>
    rw [h.ok hb hout] at hrun
    cases hrun
  | error fault =>
    obtain ⟨t, he, hext⟩ := h.error hb hout
    rw [he] at hrun
    cases hrun
    exact ⟨rfl, hext⟩

/-- What an encoder writes into an empty buffer. -/
theorem Writes.encode_eq {e : Encoder Unit} {w : WireForm} (h : Writes e w) :
    encode e = w.outcome 0 := by
  unfold encode
  cases hout : w.outcome 0 with
  | ok os =>
    rw [h.ok Buffer.wellFormed_empty hout]
    exact congrArg _ (Buffer.contents_append_empty os)
  | error cause =>
    obtain ⟨b', he, -⟩ := h.error Buffer.wellFormed_empty hout
    rw [he]

end Encoder

end ZoneServer

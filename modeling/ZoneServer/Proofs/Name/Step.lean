import ZoneServer.Proofs.Name.Reads

/-!
# The steps of a walk

What a step of a walk comes to depends on what stands at the place where it is taken: the terminator, a
label or a pointer that points back. `Walk.Outcome` says what each of them makes of the walk, and a step
succeeds with just these outcomes (`Walk.step_eq_ok`).
-/

namespace ZoneServer

/-! ## Octets at a place -/

namespace Decoder

variable {c c' : Cursor} {n : Nat} {o : UInt8} {os : Octets}

theorem position_bind {α : Type} (next : Nat → Decoder α) :
    (position >>= next) c = next c.position c := rfl

/-- Some octets are read if there are so many of them after the place. -/
theorem octets_eq_ok (hn : 0 < n) : octets n c = .ok os c' ↔
    os.length = n ∧ os <+: c.datagram.toList.drop c.position ∧
      c' = { c with position := c.position + n } := by
  have hextract : (c.datagram.extract c.position (c.position + n)).toList =
      (c.datagram.toList.drop c.position).take n := by
    rw [Array.toList_extract, List.extract_eq_take_drop, Nat.add_sub_cancel_left]
  have hlength : (c.datagram.toList.drop c.position).length = c.datagram.size - c.position := by
    rw [List.length_drop, Array.length_toList]
  by_cases hroom : c.position + n ≤ c.datagram.size
  · rw [octets_of_le hroom, hextract]
    constructor
    · rintro ⟨⟩
      exact ⟨by rw [List.length_take, hlength]; omega, List.take_prefix _ _, rfl⟩
    · rintro ⟨rfl, hstarts, rfl⟩
      rw [← List.prefix_iff_eq_take.1 hstarts]
  · rw [octets_of_lt (Nat.not_le.1 hroom)]
    constructor
    · rintro ⟨⟩
    · rintro ⟨rfl, hstarts, -⟩
      have hle := hstarts.length_le
      omega

theorem uint8_eq_ok : uint8 c = .ok o c' ↔
    [o] <+: c.datagram.toList.drop c.position ∧ c' = { c with position := c.position + 1 } := by
  have hvalue : ∀ o : UInt8, UInt8.ofNat (Octets.toNat [o]) = o := by
    intro o
    simp [Octets.toNat]
  rw [uint8]
  constructor
  · intro h
    obtain ⟨os, t, hos, hpure⟩ := Wire.bind_eq_ok.1 h
    obtain ⟨rfl, rfl⟩ := Wire.pure_eq_ok.1 hpure
    obtain ⟨hlength, hstarts, rfl⟩ := (octets_eq_ok Nat.one_pos).1 hos
    obtain ⟨o, rfl⟩ := List.length_eq_one_iff.1 hlength
    rw [hvalue]
    exact ⟨hstarts, rfl⟩
  · rintro ⟨hstarts, rfl⟩
    have hos : octets 1 c = .ok [o] { c with position := c.position + 1 } :=
      (octets_eq_ok Nat.one_pos).2 ⟨rfl, hstarts, rfl⟩
    exact Wire.bind_eq_ok.2 ⟨_, _, hos, Wire.pure_eq_ok.2 ⟨hvalue o, rfl⟩⟩

end Decoder

/-- Octets stand at a place if the first of them does and the others stand after it. -/
theorem cons_prefix_drop {datagram os : Octets} {place : Nat} {o : UInt8} :
    o :: os <+: datagram.drop place ↔
      [o] <+: datagram.drop place ∧ os <+: datagram.drop (place + 1) := by
  rw [← List.tail_drop]
  cases datagram.drop place with
  | nil => simp
  | cons o' rest => simp [List.cons_prefix_cons]

/-! ## What may stand at a place -/

/-- The end of a name: a zero octet. -/
def TerminatorAt (datagram : Octets) (place : Nat) : Prop := [0] <+: datagram.drop place

/-- A label: its length, which is from 1 to 63, and so many ASCII octets. -/
structure LabelAt (datagram : Octets) (place : Nat) (os : Octets) : Prop where
  ne_nil : os ≠ []
  length_le : os.length ≤ maxLabelLength
  ascii : ∀ o ∈ os, o.toNat < 128
  stands : UInt8.ofNat os.length :: os <+: datagram.drop place

/-- A pointer to a place before it: two octets of which the top bits are set and the others are the
place. -/
def PointerAt (datagram : Octets) (place target : Nat) : Prop :=
  ∃ high low : UInt8, [high, low] <+: datagram.drop place ∧ 192 ≤ high.toNat ∧
    pointerTarget high low = target ∧ target < place

namespace LabelAt

variable {datagram os : Octets} {place : Nat}

theorem length_pos (h : LabelAt datagram place os) : 0 < os.length := List.length_pos_iff.2 h.ne_nil

theorem toNat_length (h : LabelAt datagram place os) : (UInt8.ofNat os.length).toNat = os.length :=
  UInt8.toNat_ofNat_of_lt' (lt_of_le_of_lt h.length_le (by decide))

theorem all_ascii (h : LabelAt datagram place os) : (os.all fun o => o.toNat < 128) = true := by
  simpa using h.ascii

end LabelAt

theorem PointerAt.lt {datagram : Octets} {place target : Nat} (h : PointerAt datagram place target) :
    target < place := by
  obtain ⟨-, -, -, -, -, hlt⟩ := h
  exact hlt

/-! ## What a step comes to -/

namespace Walk

/-- The walk after a pointer has been followed that ends at a place. -/
def follow (walk : Walk) (after target : Nat) : Walk :=
  { walk with resume := walk.resume <|> some after, visited := target :: walk.visited }

/-- Reading goes on after the first pointer, wherever later ones stand. -/
theorem getD_resume_follow (walk : Walk) (after target stop : Nat) :
    (walk.follow after target).resume.getD stop = walk.resume.getD after := by
  cases hresume : walk.resume <;> simp [follow, hresume]

theorem encodedLength_push (walk : Walk) {datagram os : Octets} {place : Nat}
    (h : LabelAt datagram place os) :
    (walk.push (Label.ofOctets os)).encodedLength = walk.encodedLength + os.length + 1 := by
  rw [push, Label.octetLength_ofOctets h.all_ascii]

/-- What a step comes to, and the cursor that it leaves. -/
inductive Outcome (walk : Walk) (c : Cursor) : Progress → Cursor → Prop where
  /-- The name ends. -/
  | terminator (stands : TerminatorAt c.datagram.toList c.position) :
    Outcome walk c .finished { c with position := c.position + 1 }
  /-- A label is added. -/
  | label {os : Octets} (stands : LabelAt c.datagram.toList c.position os)
    (room : walk.encodedLength + os.length + 1 ≤ maxNameLength) :
    Outcome walk c (.onward (walk.push (Label.ofOctets os)))
      { c with position := c.position + 1 + os.length }
  /-- A pointer is followed. -/
  | pointer {target : Nat} (stands : PointerAt c.datagram.toList c.position target)
    (fresh : target ∉ walk.visited) :
    Outcome walk c (.onward (walk.follow (c.position + 2) target)) { c with position := target }

variable {walk : Walk} {c c' : Cursor} {progress : Progress}

theorem step_of_terminatorAt (h : TerminatorAt c.datagram.toList c.position) :
    walk.step c = .ok .finished { c with position := c.position + 1 } := by
  have hfirst : Decoder.uint8 c = .ok 0 { c with position := c.position + 1 } :=
    Decoder.uint8_eq_ok.2 ⟨h, rfl⟩
  rw [step, Decoder.position_bind, Wire.bind_of_ok hfirst, if_pos (by decide)]
  rfl

theorem step_of_labelAt {os : Octets} (h : LabelAt c.datagram.toList c.position os) :
    walk.step c = walk.addLabel os { c with position := c.position + 1 + os.length } := by
  obtain ⟨hlength, hoctets⟩ := cons_prefix_drop.1 h.stands
  have hfirst : Decoder.uint8 c = .ok (UInt8.ofNat os.length) { c with position := c.position + 1 } :=
    Decoder.uint8_eq_ok.2 ⟨hlength, rfl⟩
  have hlabel : Decoder.octets os.length { c with position := c.position + 1 } =
      .ok os { c with position := c.position + 1 + os.length } :=
    (Decoder.octets_eq_ok h.length_pos).2 ⟨rfl, hoctets, rfl⟩
  rw [step, Decoder.position_bind, Wire.bind_of_ok hfirst, h.toNat_length,
    if_neg h.length_pos.ne', if_pos h.length_le, Wire.bind_of_ok hlabel, if_pos h.all_ascii]

theorem step_of_pointerAt {target : Nat} (h : PointerAt c.datagram.toList c.position target) :
    walk.step c = walk.jump c.position target { c with position := c.position + 2 } := by
  obtain ⟨high, low, hstands, htop, rfl, -⟩ := h
  obtain ⟨hhigh, hlow⟩ := cons_prefix_drop.1 hstands
  have hfirst : Decoder.uint8 c = .ok high { c with position := c.position + 1 } :=
    Decoder.uint8_eq_ok.2 ⟨hhigh, rfl⟩
  have hsecond : Decoder.uint8 { c with position := c.position + 1 } =
      .ok low { c with position := c.position + 2 } := Decoder.uint8_eq_ok.2 ⟨hlow, rfl⟩
  have hlong : ¬ high.toNat ≤ maxLabelLength := by
    rw [maxLabelLength]
    omega
  rw [step, Decoder.position_bind, Wire.bind_of_ok hfirst, if_neg (by omega),
    if_neg hlong, if_pos htop, Wire.bind_of_ok hsecond]

/-- ASCII octets are added as a label if there is room for them. -/
theorem addLabel_eq_ok {os : Octets} (hascii : (os.all fun o => o.toNat < 128) = true) :
    walk.addLabel os c = .ok progress c' ↔ walk.encodedLength + os.length + 1 ≤ maxNameLength ∧
      progress = .onward (walk.push (Label.ofOctets os)) ∧ c' = c := by
  rw [push, Label.octetLength_ofOctets hascii]
  unfold addLabel
  split
  · rename_i hroom
    rw [Wire.pure_eq_ok]
    simp only [hroom, true_and, eq_comm]
  · rename_i hroom
    constructor
    · rintro ⟨⟩
    · rintro ⟨h, -⟩
      exact absurd h hroom

/-- A pointer is followed if it points back to where the walk has not been. -/
theorem jump_eq_ok {place target : Nat} : walk.jump place target c = .ok progress c' ↔
    (target < place ∧ target ∉ walk.visited) ∧
      progress = .onward (walk.follow c.position target) ∧ c' = { c with position := target } := by
  rw [jump, Decoder.position_bind]
  split
  · rename_i hback
    constructor
    · rintro ⟨⟩
      exact ⟨hback, rfl, rfl⟩
    · rintro ⟨-, rfl, rfl⟩
      rfl
  · rename_i hback
    constructor
    · rintro ⟨⟩
    · rintro ⟨h, -⟩
      exact absurd h hback

theorem jump_of_mem {place target : Nat} (h : target ∈ walk.visited) :
    walk.jump place target c = .error .invalidPointer c := by
  rw [jump, Decoder.position_bind, if_neg fun hback => hback.2 h]
  rfl

theorem Outcome.step_eq (h : walk.Outcome c progress c') : walk.step c = .ok progress c' := by
  cases h with
  | terminator stands => exact step_of_terminatorAt stands
  | label stands room =>
    rw [step_of_labelAt stands]
    exact (addLabel_eq_ok stands.all_ascii).2 ⟨room, rfl, rfl⟩
  | pointer stands fresh =>
    rw [step_of_pointerAt stands]
    exact jump_eq_ok.2 ⟨⟨stands.lt, fresh⟩, rfl, rfl⟩

theorem outcome_of_step (h : walk.step c = .ok progress c') : walk.Outcome c progress c' := by
  rw [step, Decoder.position_bind] at h
  obtain ⟨first, t, hfirst, h⟩ := Wire.bind_eq_ok.1 h
  obtain ⟨hhigh, rfl⟩ := Decoder.uint8_eq_ok.1 hfirst
  -- the first octet is the terminator, the length of a label or the start of a pointer
  split at h
  · rename_i hzero
    obtain ⟨rfl, rfl⟩ := Wire.pure_eq_ok.1 h
    have hterminator : first = 0 := UInt8.toNat_inj.1 hzero
    rw [hterminator] at hhigh
    exact .terminator hhigh
  · rename_i hne
    split at h
    · rename_i hlength
      obtain ⟨os, t, hos, h⟩ := Wire.bind_eq_ok.1 h
      obtain ⟨hcount, hoctets, rfl⟩ := (Decoder.octets_eq_ok (Nat.pos_of_ne_zero hne)).1 hos
      split at h
      · rename_i hascii
        obtain ⟨hroom, rfl, rfl⟩ := (addLabel_eq_ok hascii).1 h
        rw [← hcount] at hne hlength ⊢
        refine .label ⟨?_, hlength, by simpa using hascii, ?_⟩ hroom
        · exact fun hnil => hne (List.length_eq_zero_iff.2 hnil)
        · rw [hcount, UInt8.ofNat_toNat]
          exact cons_prefix_drop.2 ⟨hhigh, hoctets⟩
      · cases h
    · split at h
      · rename_i htop
        obtain ⟨low, t, hsecond, h⟩ := Wire.bind_eq_ok.1 h
        obtain ⟨hlow, rfl⟩ := Decoder.uint8_eq_ok.1 hsecond
        obtain ⟨⟨hback, hfresh⟩, rfl, rfl⟩ := jump_eq_ok.1 h
        exact .pointer ⟨first, low, cons_prefix_drop.2 ⟨hhigh, hlow⟩, htop, rfl, hback⟩ hfresh
      · cases h

/-- A step succeeds as its outcomes say, and in no other way. -/
theorem step_eq_ok : walk.step c = .ok progress c' ↔ walk.Outcome c progress c' :=
  ⟨outcome_of_step, Outcome.step_eq⟩

/-- A pointer to where the walk has been is refused. -/
theorem step_of_visited {target : Nat} (h : PointerAt c.datagram.toList c.position target)
    (hvisited : target ∈ walk.visited) :
    walk.step c = .error .invalidPointer { c with position := c.position + 2 } := by
  rw [step_of_pointerAt h]
  exact jump_of_mem hvisited

end Walk

end ZoneServer

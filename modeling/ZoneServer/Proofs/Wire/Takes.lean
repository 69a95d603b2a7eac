import ZoneServer.Proofs.Wire.Reads

/-!
# What a decoder takes

`Decoder.Takes d P` says that when `d` succeeds it has taken the next octets, one after another, and that
`P` holds of the value and of these octets. Where `P` says that the octets are those the value is written
as, two different sequences of octets are never read as the same value.

A pointer in a name leads elsewhere, so this is not true of decoders that follow pointers.
-/

namespace ZoneServer.Decoder

variable {α β : Type}

/-- Whatever a decoder reads, it takes the octets after its place, and a property relates the two. -/
def Takes (d : Decoder α) (P : α → Octets → Prop) : Prop :=
  ∀ before after a c', d (.between before after) = .ok a c' →
    ∃ os rest, after = os ++ rest ∧ c' = .between (before ++ os) rest ∧ P a os

theorem Takes.mono {d : Decoder α} {P Q : α → Octets → Prop} (h : Takes d P)
    (h' : ∀ a os, P a os → Q a os) : Takes d Q := by
  intro before after a c' hd
  obtain ⟨os, rest, hafter, hc', ha⟩ := h before after a c' hd
  exact ⟨os, rest, hafter, hc', h' a os ha⟩

theorem Takes.pure {P : α → Octets → Prop} {a : α} (h : P a []) : Takes (pure a) P := by
  intro before after b c' hpure
  obtain ⟨rfl, rfl⟩ := Wire.pure_eq_ok.1 hpure
  refine ⟨[], after, rfl, ?_, h⟩
  rw [List.append_nil]

theorem Takes.throw {P : α → Octets → Prop} (cause : DecodeError) : Takes (throw cause) P := by
  intro before after a c' hthrow
  cases hthrow

/-- The second of two decoders takes the octets after those that the first has taken. -/
theorem Takes.bind {d : Decoder α} {next : α → Decoder β} {P : α → Octets → Prop}
    {Q : β → Octets → Prop} (h : Takes d P)
    (h' : ∀ a os, P a os → Takes (next a) fun b os' => Q b (os ++ os')) : Takes (d >>= next) Q := by
  intro before after b c' hbind
  obtain ⟨a, t, hfirst, hnext⟩ := Wire.bind_eq_ok.1 hbind
  obtain ⟨os, middle, hafter, rfl, ha⟩ := h before after a t hfirst
  obtain ⟨os', rest, hmiddle, hc', hb⟩ := h' a os ha (before ++ os) middle b c' hnext
  refine ⟨os ++ os', rest, ?_, ?_, hb⟩
  · rw [hafter, hmiddle, List.append_assoc]
  · rw [hc', List.append_assoc]

/-- What is known of a value wherever it is read is known when its octets are taken. -/
theorem Takes.and {d : Decoder α} {P : α → Octets → Prop} {Q : α → Prop} (h : Takes d P)
    (h' : ∀ c a c', d c = .ok a c' → Q a) : Takes d fun a os => Q a ∧ P a os := by
  intro before after a c' hd
  obtain ⟨os, rest, hafter, hc', ha⟩ := h before after a c' hd
  exact ⟨os, rest, hafter, hc', h' _ a c' hd, ha⟩

/-- A decoder whose octets are counted takes as many as it is said to. -/
theorem Takes.measured {d : Decoder α} {P : α → Octets → Prop} {Q : β → Octets → Prop}
    (h : Takes d P) {length : Nat} {f : α → β} {cause : DecodeError}
    (h' : ∀ a os, P a os → os.length = length → Q (f a) os) :
    Takes (do
      let start ← Decoder.position
      let value ← d
      let stop ← Decoder.position
      if stop - start = length then return f value else MonadExcept.throw cause) Q := by
  intro before after b c' hall
  obtain ⟨start, _, hstart, hall⟩ := Wire.bind_eq_ok.1 hall
  cases hstart
  obtain ⟨a, t, hd, hall⟩ := Wire.bind_eq_ok.1 hall
  obtain ⟨stop, _, hstop, hall⟩ := Wire.bind_eq_ok.1 hall
  cases hstop
  obtain ⟨os, rest, hafter, rfl, ha⟩ := h before after a t hd
  split at hall
  · rename_i hlength
    have htaken : os.length = length := by
      rwa [Cursor.between, Cursor.between, List.length_append, Nat.add_sub_cancel_left] at hlength
    obtain ⟨rfl, rfl⟩ := Wire.pure_eq_ok.1 hall
    exact ⟨os, rest, hafter, rfl, h' a os ha htaken⟩
  · cases hall

theorem Takes.octets (n : Nat) : Takes (octets n) fun os taken => os.length = n ∧ taken = os := by
  intro before after os c' hoctets
  by_cases hle : before.length + n ≤ (before ++ after).length
  · rw [octets_of_le (by simpa [Cursor.between] using hle)] at hoctets
    cases hoctets
    have hn : n ≤ after.length := by
      rw [List.length_append] at hle
      omega
    have htaken : ((Cursor.between before after).datagram.extract before.length
        (before.length + n)).toList = after.take n := by
      simp [Cursor.between]
    have hlength : (after.take n).length = n := List.length_take_of_le hn
    refine ⟨after.take n, after.drop n, (List.take_append_drop n after).symm, ?_, ?_, htaken.symm⟩
    · simp [Cursor.between, hn]
    · exact (congrArg List.length htaken).trans hlength
  · rw [octets_of_lt (by simpa [Cursor.between] using hle)] at hoctets
    cases hoctets

/-- The octets that were taken are those of the number that they spell. -/
theorem Takes.number (width : Nat) : Takes (Decoder.octets width) fun os taken =>
    taken = Octets.ofNat width (Octets.toNat os) ∧ Octets.toNat os < 256 ^ width := by
  refine (Takes.octets width).mono ?_
  rintro os taken ⟨hlength, rfl⟩
  subst hlength
  exact ⟨(Octets.ofNat_toNat taken).symm, Octets.toNat_lt taken⟩

theorem Takes.uint8 : Takes uint8 fun n os => os = [n] := by
  refine (Takes.octets 1).bind fun os taken htaken => Takes.pure ?_
  obtain ⟨hlength, rfl⟩ := htaken
  obtain ⟨n, rfl⟩ := List.length_eq_one_iff.1 hlength
  simp [Octets.toNat]

theorem Takes.uint16 : Takes uint16 fun n os => os = Octets.ofNat 2 n.toNat := by
  refine (Takes.number 2).bind fun os taken htaken => Takes.pure ?_
  obtain ⟨rfl, hlt⟩ := htaken
  rw [List.append_nil, UInt16.toNat_ofNat_of_lt' hlt]

theorem Takes.uint32 : Takes uint32 fun n os => os = Octets.ofNat 4 n.toNat := by
  refine (Takes.number 4).bind fun os taken htaken => Takes.pure ?_
  obtain ⟨rfl, hlt⟩ := htaken
  rw [List.append_nil, UInt32.toNat_ofNat_of_lt' hlt]

/-- Items are taken one after another. -/
theorem Takes.times {item : Decoder α} {wire : α → Octets} (h : Takes item fun a os => os = wire a)
    (n : Nat) : Takes (times item n) fun as os => os = as.flatMap wire := by
  induction n with
  | zero => exact Takes.pure rfl
  | succ n ih =>
    refine h.bind fun first os hfirst => ih.bind fun rest os' hrest => Takes.pure ?_
    rw [List.append_nil, List.flatMap_cons, hfirst, hrest]

end ZoneServer.Decoder

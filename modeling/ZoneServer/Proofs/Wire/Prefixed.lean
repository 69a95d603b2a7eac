import ZoneServer.Proofs.Wire.Writing

/-!
# The length of a payload

A payload that is preceded by its length is written after two octets that are left out, and then the length
is put there. The payload may be any sequence of steps: it may have lengths in it again, and it may patch
the very octets that were left out. It never goes back before the place where it starts, and what is put in
last is the length, so the length is right in any case (`WriteStep.lengthPrefixed_backfills`).
-/

namespace ZoneServer

open Encoder

/-- Of three buffers, the first is as it was before a payload and its length, the second as the payload has
left it, and the third is the second with the length put in. -/
structure Buffer.Backfills (b b' b'' : Buffer) : Prop where
  position_le : b.position + 2 ≤ b'.position
  count_le : b'.position - b.position - 2 ≤ 510
  toNat_count : (UInt16.ofNat (b'.position - b.position - 2)).toNat = b'.position - b.position - 2
  position_eq : b''.position = b'.position
  count : (b''.cells.drop b.position).take 2 = Octets.ofNat 2 (b'.position - b.position - 2)
  others : ∀ i, i ≠ b.position → i ≠ b.position + 1 → b''.cells[i]? = b'.cells[i]?

/-- Whatever the payload has written, the two octets before it become its length. -/
theorem Buffer.backfills_store {b b' : Buffer} (hb' : b'.Tidy) (hle : b.position + 2 ≤ b'.position) :
    b.Backfills b' (b'.store b.position
      (Octets.ofNat 2 (UInt16.ofNat (b'.position - b.position - 2)).toNat)) := by
  have hlength : b'.cells.length = 512 := hb'.length_cells
  have hposition : b'.position ≤ 512 := hb'.position_le
  have hcount : b'.position - b.position - 2 ≤ 510 := by omega
  have hcast : (UInt16.ofNat (b'.position - b.position - 2)).toNat = b'.position - b.position - 2 :=
    toNat_ofNat_count (hcount.trans (by decide))
  have hoffset : b.position ≤ b'.cells.length := by omega
  rw [hcast]
  refine ⟨hle, hcount, hcast, rfl, ?_, ?_⟩
  · have hput : ∀ os : Octets, os.length = 2 →
        ((b'.store b.position os).cells.drop b.position).take 2 = os := by
      intro os hos
      rw [← hos]
      exact take_drop_store hoffset
    exact hput _ (Octets.length_ofNat _ _)
  · intro i hfirst hsecond
    apply getElem?_store _ hoffset
    rw [Octets.length_ofNat]
    omega

namespace WriteStep

/-- A group of steps never goes back before its place, and it leaves tidy buffers tidy. -/
theorem tidy_of_runGroup {steps : List WriteStep} {b b' : Buffer} (hb : b.Tidy)
    (h : runGroup steps b = .ok () b') : b'.Tidy ∧ b.position ≤ b'.position := by
  have hgrows := keeps_runGroup steps b hb
  rw [leaves_of_ok h] at hgrows
  exact ⟨hgrows.tidy, hgrows.position_le⟩

/-- On any buffer that writing can come to, a payload of any steps is preceded by its length. Without two
octets for the length, no step of the payload is taken and the buffer stays as it is; a payload that fails
leaves its failure and its buffer; and after a payload that succeeds the two octets before it become its
length, and no other octet changes. So no offset is found unreserved but by a step of the payload. -/
theorem lengthPrefixed_backfills (payload : List WriteStep) {b : Buffer} (hb : b.Tidy) :
    (maxMessageSize < b.position + 2 →
      Encoder.lengthPrefixed (runGroup payload) b = .error .bufferFull b ∧
      (lengthPrefixed payload).taken b = [⟨.lengthPrefixed payload, b⟩]) ∧
    (b.position + 2 ≤ maxMessageSize →
      (∀ cause b', runGroup payload (b.skip 2) = .error cause b' →
        Encoder.lengthPrefixed (runGroup payload) b = .error cause b') ∧
      (∀ b', runGroup payload (b.skip 2) = .ok () b' →
        ∃ b'', Encoder.lengthPrefixed (runGroup payload) b = .ok () b'' ∧ b.Backfills b' b'')) ∧
    (∀ offset b', Encoder.lengthPrefixed (runGroup payload) b = .error (.unreservedOffset offset) b' →
      runGroup payload (b.skip 2) = .error (.unreservedOffset offset) b') := by
  have hfilled : b.position + 2 ≤ maxMessageSize → ∀ b', runGroup payload (b.skip 2) = .ok () b' →
      ∃ b'', Encoder.lengthPrefixed (runGroup payload) b = .ok () b'' ∧ b.Backfills b' b'' := by
    intro hroom b' hrun
    have hskip : b.Grows True (b.skip 2) := Buffer.grows_reserve hb hroom
    obtain ⟨hb', hle⟩ := tidy_of_runGroup hskip.tidy hrun
    exact ⟨_, lengthPrefixed_of_ok hroom hrun hle, Buffer.backfills_store hb' hle⟩
  refine ⟨fun hfull => ⟨lengthPrefixed_of_full _ hfull, taken_lengthPrefixed_of_full payload hfull⟩,
    fun hroom => ⟨fun cause b' hrun => lengthPrefixed_of_error hroom hrun, hfilled hroom⟩, ?_⟩
  intro offset b' herror
  by_cases hroom : b.position + 2 ≤ maxMessageSize
  · cases hrun : runGroup payload (b.skip 2) with
    | ok a t =>
      obtain ⟨b'', hok, -⟩ := hfilled hroom t hrun
      rw [hok] at herror
      cases herror
    | error cause t =>
      rw [lengthPrefixed_of_error hroom hrun] at herror
      exact herror
  · rw [lengthPrefixed_of_full _ (Nat.not_le.1 hroom)] at herror
    cases herror

/-- A payload that patches the octets before it and has a length in it again. -/
def meddlingPayload : List WriteStep := [.patch 65535 1, .lengthPrefixed [.uint8 9]]

theorem lengthPrefixed_meddlingPayload :
    (leftFrom [.uint8 7] .empty).Tidy ∧ ∃ b' b'',
      runGroup meddlingPayload ((leftFrom [.uint8 7] .empty).skip 2) = .ok () b' ∧
      b'.contents = [7, 255, 255, 0, 1, 9] ∧
      Encoder.lengthPrefixed (runGroup meddlingPayload) (leftFrom [.uint8 7] .empty) = .ok () b'' ∧
      b''.contents = [7, 0, 3, 0, 1, 9] ∧ (leftFrom [.uint8 7] .empty).Backfills b' b'' := by
  have htidy : (leftFrom [.uint8 7] .empty).Tidy := tidy_leftFrom Buffer.tidy_empty
  obtain ⟨-, hroom, -⟩ := lengthPrefixed_backfills meddlingPayload htidy
  obtain ⟨b'', hprefixed, hfills⟩ := (hroom (by decide)).2 _ rfl
  refine ⟨htidy, _, b'', rfl, by decide, hprefixed, ?_, hfills⟩
  rw [← leaves_of_ok hprefixed]
  decide

end WriteStep

end ZoneServer

import ZoneServer.Proofs.Message.Reads
import ZoneServer.Proofs.Wire.Reading
import ZoneServer.Proofs.Wire.Writing

/-!
# Items that are written are read back

What a sequence of steps has written can be read by the matching steps: every item comes back as it was
written, the length of a group as the number of octets that its items take, and after each step the reader
is where the writer was. It does not matter what the items are, how groups are nested in each other and
what stands before an item, because every item is read by how many octets it takes and nothing else.
-/

namespace ZoneServer

/-! ## Reading step by step -/

namespace ReadStep

/-- Steps that all succeed, with their results and the last cursor. -/
inductive ReadsTo : List ReadStep → Cursor → List Result → Cursor → Prop where
  /-- No step. -/
  | nil (c : Cursor) : ReadsTo [] c [] c
  /-- One step and then the others. -/
  | cons {step : ReadStep} {rest : List ReadStep} {c t c' : Cursor} {item : ReadItem}
      {results : List Result} :
      step.run c = .ok item t → ReadsTo rest t results c' →
        ReadsTo (step :: rest) c ((.ok item, t) :: results) c'

theorem ReadsTo.append {first rest : List ReadStep} {c t c' : Cursor} {results results' : List Result}
    (h : ReadsTo first c results t) (h' : ReadsTo rest t results' c') :
    ReadsTo (first ++ rest) c (results ++ results') c' := by
  induction h with
  | nil c => exact h'
  | cons hstep _ ih => exact .cons hstep (ih h')

theorem ReadsTo.runAll_eq {steps : List ReadStep} {c c' : Cursor} {results : List Result}
    (h : ReadsTo steps c results c') : runAll steps c = results := by
  induction h with
  | nil c => rfl
  | cons hstep _ ih => rw [runAll, hstep, ← ih]

theorem ReadsTo.leftFrom_eq {steps : List ReadStep} {c c' : Cursor} {results : List Result}
    (h : ReadsTo steps c results c') : leftFrom steps c = c' := by
  induction h with
  | nil c => rfl
  | @cons step rest c t c' item results hstep _ ih =>
    rw [← ih, leftFrom, leftFrom, runAll, hstep, List.getLast?_cons]
    cases (runAll rest t).getLast? <;> rfl

end ReadStep

namespace WriteStep

/-! ## What can be read back -/

mutual

/-- A step that writes an item which can be read back. Only a response code of more than four bits, or a
payload kept as octets whose type is understood, would be read as something else. -/
def Readable : WriteStep → Prop
  | .header h => h.responseCode.toNat ≤ 15
  | .record r => r.payload.Faithful
  | .lengthPrefixed payload => GroupReadable payload
  | .reserve _ => False
  | .patch _ _ => False
  | .attempt _ => False
  | _ => True

/-- Steps that write items which can be read back. -/
def GroupReadable : List WriteStep → Prop
  | [] => True
  | step :: rest => Readable step ∧ GroupReadable rest

end

/-- The step that reads a single item back, and what it should give. -/
def readBack? : WriteStep → Option (ReadStep × ReadItem)
  | .uint8 n => some (.uint8, .number n.toNat)
  | .uint16 n => some (.uint16, .number n.toNat)
  | .uint32 n => some (.uint32, .number n.toNat)
  | .octets os => some (.octets os.length, .octets os)
  | .name n => some (.name, .name n)
  | .header h => some (.header, .header h)
  | .question q => some (.question, .question q)
  | .record r => some (.record, .record r.canonical)
  | _ => none

mutual

/-- The steps that read back what a step writes; a group is a number and then its items. -/
def readSteps : WriteStep → List ReadStep
  | .lengthPrefixed payload => .uint16 :: groupReadSteps payload
  | step => (step.readBack?.map Prod.fst).toList

/-- The steps that read back what steps write. -/
def groupReadSteps : List WriteStep → List ReadStep
  | [] => []
  | step :: rest => readSteps step ++ groupReadSteps rest

end

/-- What reading should give for a step that was taken: the item, or the number of octets in a group. -/
def Taken.item? (t : Taken) : Option ReadItem :=
  match t.step with
  | .lengthPrefixed _ => some (.number ((t.step.run.leaves t.buffer).position - t.buffer.position - 2))
  | step => step.readBack?.map Prod.snd

/-- Where the writer was after the item, or after it had left room for the length of a group. -/
def Taken.place (t : Taken) : Nat :=
  match t.step with
  | .lengthPrefixed _ => t.buffer.position + 2
  | step => (step.run.leaves t.buffer).position

/-- The result that reading should have for a step that was taken. -/
def Taken.readBack (written : Octets) (t : Taken) : Option ReadStep.Result :=
  t.item?.map fun item => (.ok item, ⟨written.toArray, t.place⟩)

/-! ## What steps write -/

mutual

/-- What a step that can be read back writes. -/
def form : WriteStep → WireForm
  | .uint8 n => .ofOctets [n]
  | .uint16 n => .ofOctets (Octets.ofNat 2 n.toNat)
  | .uint32 n => .ofOctets (Octets.ofNat 4 n.toNat)
  | .octets os => .ofOctets os
  | .name n => n.form
  | .header h => .ofOctets h.wire
  | .question q => q.form
  | .record r => r.form
  | .lengthPrefixed payload => (groupForm payload).lengthPrefixed
  | _ => .ofOctets []

/-- What steps that can be read back write. -/
def groupForm : List WriteStep → WireForm
  | [] => .ofOctets []
  | step :: rest => form step ++ groupForm rest

end

/-- The encoder of a step without the offset that it gives back. -/
def encoder (step : WriteStep) : Encoder Unit := do
  let _ ← step.run
  return ()

theorem runGroup_cons (step : WriteStep) (rest : List WriteStep) :
    runGroup (step :: rest) = (do step.encoder; runGroup rest) := by
  simp only [runGroup, encoder, bind_assoc, pure_bind]

theorem encoder_eq_ok {step : WriteStep} {b b' : Buffer} {result : Option Nat}
    (h : step.run b = .ok result b') : step.encoder b = .ok () b' :=
  Wire.bind_eq_ok.2 ⟨result, b', h, rfl⟩

/-- A step that gives no offset back writes what the encoder in it writes. -/
theorem writes_of_bind_pure {e : Encoder Unit} {w : WireForm} (h : e.Writes w) :
    Encoder.Writes (do
      let _ ← (do e; return none : Encoder (Option Nat))
      return ()) w := by
  simpa only [bind_assoc, pure_bind, bind_pure_unit] using h

mutual

theorem writes_encoder (step : WriteStep) (h : step.Readable) : step.encoder.Writes step.form := by
  cases step with
  | uint8 n => exact writes_of_bind_pure (Encoder.Writes.uint8 n)
  | uint16 n => exact writes_of_bind_pure (Encoder.Writes.uint16 n)
  | uint32 n => exact writes_of_bind_pure (Encoder.Writes.uint32 n)
  | octets os => exact writes_of_bind_pure (Encoder.Writes.octets os)
  | name n => exact writes_of_bind_pure n.writes_encode
  | header header => exact writes_of_bind_pure header.writes_encode
  | question q => exact writes_of_bind_pure q.writes_encode
  | record r => exact writes_of_bind_pure r.writes_encode
  | lengthPrefixed payload => exact writes_of_bind_pure (writes_runGroup payload h).lengthPrefixed
  | reserve n => exact h.elim
  | patch n offset => exact h.elim
  | attempt step => exact h.elim

theorem writes_runGroup (steps : List WriteStep) (h : GroupReadable steps) :
    (runGroup steps).Writes (groupForm steps) := by
  cases steps with
  | nil => exact Encoder.Writes.pure
  | cons step rest =>
    rw [runGroup_cons]
    exact (writes_encoder step h.1).bind (writes_runGroup rest h.2)

end

/-! ## What is read back -/

/-- A single item is read back from its octets. -/
theorem reads_of_readBack {step : WriteStep} {read : ReadStep} {item : ReadItem}
    (hback : step.readBack? = some (read, item)) (h : step.Readable) (hfault : step.form.fault = none)
    (hroom : step.form.octets.length ≤ maxMessageSize) :
    Decoder.Reads read.run step.form.octets item := by
  cases step with
  | uint8 n =>
    cases hback
    exact (Decoder.Reads.uint8 n).map fun n => ReadItem.number n.toNat
  | uint16 n =>
    cases hback
    exact (Decoder.Reads.uint16 n).map fun n => ReadItem.number n.toNat
  | uint32 n =>
    cases hback
    exact (Decoder.Reads.uint32 n).map fun n => ReadItem.number n.toNat
  | octets os =>
    cases hback
    exact (Decoder.Reads.octets os).map ReadItem.octets
  | name n =>
    cases hback
    have hvalid := Name.fault_form.1 hfault
    rw [form, Name.form_of_valid hvalid]
    exact (Name.reads_decode hvalid).map ReadItem.name
  | header header =>
    cases hback
    have hcode : Header.responseCodeOf header.responseCode = header.responseCode := by
      have hsmall : header.responseCode.toNat ≤ 15 := h
      apply UInt8.toNat_inj.1
      rw [Header.responseCodeOf, UInt8.toNat_mod]
      exact Nat.mod_eq_of_lt (Nat.lt_succ_of_le hsmall)
    have hreceived : header.received = header := by
      rw [Header.received, hcode]
    have hread := header.reads_decode.map ReadItem.header
    rw [hreceived] at hread
    exact hread
  | question q =>
    cases hback
    have hvalid := Question.fault_form.1 hfault
    rw [form, Question.form_of_valid hvalid]
    exact (Question.reads_decode hvalid).map ReadItem.question
  | record r =>
    cases hback
    have hvalid := Record.fault_form.1 hfault
    have hsmall : r.payload.wireLength < 65536 := by
      rw [form, Record.form_of_valid hvalid] at hroom
      have hlength : r.wire.length = r.wireLength := Record.length_wire hvalid
      simp only [WireForm.ofOctets, hlength, Record.wireLength, maxMessageSize] at hroom
      omega
    rw [form, Record.form_of_valid hvalid]
    exact (Record.reads_decode hvalid h hsmall).map ReadItem.record
  | lengthPrefixed payload => cases hback
  | reserve n => cases hback
  | patch n offset => cases hback
  | attempt step => cases hback

open ReadStep (ReadsTo)

/-- A step that writes a single item is taken by itself. -/
theorem readsTo_of_readBack {step : WriteStep} {read : ReadStep} {item : ReadItem} {b b' : Buffer}
    {result : Option Nat} {written before after : Octets}
    (hback : step.readBack? = some (read, item)) (h : step.Readable) (hb : b.WellFormed)
    (hrun : step.run b = .ok result b') (hbefore : before.length = b.position)
    (hwritten : written = before ++ (step.form.octets ++ after)) :
    ∃ results, ReadsTo step.readSteps ⟨written.toArray, b.position⟩ results
        ⟨written.toArray, b'.position⟩ ∧
      (step.taken b).map (Taken.readBack written) = results.map some := by
  obtain ⟨hfault, hroom, rfl⟩ := (writes_encoder step h).of_ok hb (encoder_eq_ok hrun)
  have hread := (reads_of_readBack hback h hfault (by omega)).inside hwritten
  rw [hbefore] at hread
  have hsteps : step.readSteps = [read] := by
    cases step <;> cases hback <;> rfl
  have hresults : (step.taken b).map (Taken.readBack written) =
      [some (.ok item, ⟨written.toArray, (b.append step.form.octets).position⟩)] := by
    rw [← Encoder.leaves_of_ok hrun]
    cases step <;> cases hback <;> rfl
  rw [hsteps, hresults]
  exact ⟨_, .cons hread (.nil _), rfl⟩

/-- The length of a group is read back as a number. -/
theorem reads_count {count : Nat} (h : count < 65536) :
    Decoder.Reads ReadStep.uint16.run (Octets.ofNat 2 count) (.number count) := by
  have hcount : (UInt16.ofNat count).toNat = count := UInt16.toNat_ofNat_of_lt' h
  have hread := (Decoder.Reads.uint16 (UInt16.ofNat count)).map fun n => ReadItem.number n.toNat
  rwa [hcount] at hread

mutual

theorem readsTo_run (step : WriteStep) (h : step.Readable) {b b' : Buffer} {result : Option Nat}
    {written before after : Octets} (hb : b.WellFormed) (hrun : step.run b = .ok result b')
    (hbefore : before.length = b.position)
    (hwritten : written = before ++ (step.form.octets ++ after)) :
    ∃ results, ReadsTo step.readSteps ⟨written.toArray, b.position⟩ results
        ⟨written.toArray, b'.position⟩ ∧
      (step.taken b).map (Taken.readBack written) = results.map some := by
  cases step with
  | lengthPrefixed payload =>
    obtain ⟨hfault, hroom, rfl⟩ :=
      (writes_encoder (.lengthPrefixed payload) h).of_ok hb (encoder_eq_ok hrun)
    have hlength := (groupForm payload).length_lengthPrefixed
    rw [form] at hfault hroom hwritten hrun ⊢
    rw [hlength] at hroom
    -- the items of the group are written after two octets that are still to be filled in
    have hskip : b.position + 2 ≤ maxMessageSize := by omega
    have hpayload := (writes_runGroup payload h).ok (hb.skip hskip)
      (WireForm.outcome_eq_ok.2 ⟨hfault, rfl, by rw [Buffer.position_skip]; omega⟩)
    -- the number that is read is that of the octets of the items
    have hnumber := reads_count (show (groupForm payload).octets.length < 65536 by
      simp only [maxMessageSize] at hroom; omega)
    rw [WireForm.lengthPrefixed, List.append_assoc] at hwritten
    have hread := hnumber.inside hwritten
    rw [hbefore, Octets.length_ofNat] at hread
    have hplace : (before ++ Octets.ofNat 2 (groupForm payload).octets.length).length =
        b.position + 2 := by
      rw [List.length_append, hbefore, Octets.length_ofNat]
    rw [← List.append_assoc before] at hwritten
    obtain ⟨results, hitems, hresults⟩ := readsTo_runGroup payload h (hb.skip hskip) hpayload hplace hwritten
    have hback : Taken.readBack written ⟨.lengthPrefixed payload, b⟩ =
        some (.ok (.number (groupForm payload).octets.length),
          ⟨written.toArray, b.position + 2⟩) := by
      have hleft := Encoder.leaves_of_ok hrun
      have hcount : (b.append (groupForm payload).lengthPrefixed.octets).position - b.position - 2 =
          (groupForm payload).octets.length := by
        rw [Buffer.position_append, hlength]
        omega
      simp only [Taken.readBack, Taken.item?, Taken.place, hleft, hcount, Option.map_some]
    have hend : (b.append (groupForm payload).lengthPrefixed.octets).position =
        b.position + 2 + (groupForm payload).octets.length := by
      rw [Buffer.position_append, hlength, Nat.add_assoc]
    rw [hend]
    refine ⟨_, .cons hread hitems, ?_⟩
    rw [taken_lengthPrefixed_of_le payload hskip, List.map_cons, List.map_cons, hback, hresults]
  | reserve n => exact h.elim
  | patch n offset => exact h.elim
  | attempt step => exact h.elim
  | _ => exact readsTo_of_readBack rfl h hb hrun hbefore hwritten

theorem readsTo_runGroup (steps : List WriteStep) (h : GroupReadable steps) {b b' : Buffer}
    {written before after : Octets} (hb : b.WellFormed) (hrun : runGroup steps b = .ok () b')
    (hbefore : before.length = b.position)
    (hwritten : written = before ++ ((groupForm steps).octets ++ after)) :
    ∃ results, ReadsTo (groupReadSteps steps) ⟨written.toArray, b.position⟩ results
        ⟨written.toArray, b'.position⟩ ∧
      (groupTaken steps b).map (Taken.readBack written) = results.map some := by
  cases steps with
  | nil =>
    cases hrun
    exact ⟨[], .nil _, rfl⟩
  | cons step rest =>
    obtain ⟨result, t, hstep, hrest⟩ := Wire.bind_eq_ok.1 hrun
    obtain ⟨hfault, hroom, rfl⟩ := (writes_encoder step h.1).of_ok hb (encoder_eq_ok hstep)
    have htaken : groupTaken (step :: rest) b =
        step.taken b ++ groupTaken rest (b.append step.form.octets) := by
      rw [groupTaken, hstep]
    rw [groupForm, WireForm.octets_append hfault, List.append_assoc] at hwritten
    obtain ⟨results, hfirst, hresults⟩ := readsTo_run step h.1 hb hstep hbefore hwritten
    have hplace : (before ++ step.form.octets).length = (b.append step.form.octets).position := by
      rw [List.length_append, hbefore, Buffer.position_append]
    rw [← List.append_assoc before] at hwritten
    obtain ⟨results', hothers, hresults'⟩ :=
      readsTo_runGroup rest h.2 (hb.append hroom) hrest hplace hwritten
    refine ⟨results ++ results', hfirst.append hothers, ?_⟩
    rw [htaken, List.map_append, List.map_append, hresults, hresults']

end

/-- Steps that all succeed are taken like the steps of a group. -/
theorem runGroup_of_succeed {steps : List WriteStep} {b : Buffer}
    (h : ∀ outcome ∈ runAll steps b, ∃ result, outcome.1 = .ok result) :
    runGroup steps b = .ok () (leftFrom steps b) ∧ takenAll steps b = groupTaken steps b := by
  induction steps generalizing b with
  | nil => exact ⟨rfl, rfl⟩
  | cons step rest ih =>
    cases hrun : step.run b with
    | ok result t =>
      have hleaves := Encoder.leaves_of_ok hrun
      rw [runAll, hrun, List.forall_mem_cons] at h
      obtain ⟨hgroup, htaken⟩ := ih h.2
      refine ⟨?_, ?_⟩
      · rw [leftFrom_cons, hleaves]
        exact Wire.bind_eq_ok.2 ⟨result, t, hrun, hgroup⟩
      · rw [takenAll, hleaves, htaken, groupTaken, hrun]
    | error cause t =>
      rw [runAll, hrun, List.forall_mem_cons] at h
      obtain ⟨⟨result, hresult⟩, -⟩ := h
      cases hresult

/-- If steps that write items succeed one and all, the matching steps read the items back from what was
written: each step of reading gives the item, or the number of octets in a group, and is then where the
writer was after it, and in the end nothing is left to be read. -/
theorem read_back_what_was_written {steps : List WriteStep} (h : GroupReadable steps)
    (hok : ∀ outcome ∈ runAll steps .empty, ∃ result, outcome.1 = .ok result) :
    (ReadStep.runAll (groupReadSteps steps)
        (.ofOctets (leftFrom steps .empty).contents)).map some =
      (takenAll steps .empty).map (Taken.readBack (leftFrom steps .empty).contents) ∧
    ReadStep.leftFrom (groupReadSteps steps) (.ofOctets (leftFrom steps .empty).contents) =
      ⟨(leftFrom steps .empty).contents.toArray, (leftFrom steps .empty).position⟩ ∧
    (ReadStep.leftFrom (groupReadSteps steps)
      (.ofOctets (leftFrom steps .empty).contents)).isExhausted = true := by
  obtain ⟨hgroup, htaken⟩ := runGroup_of_succeed hok
  obtain ⟨-, -, hleft⟩ := (writes_runGroup steps h).of_ok Buffer.wellFormed_empty hgroup
  have hcontents : (leftFrom steps .empty).contents = (groupForm steps).octets := by
    rw [hleft, Buffer.contents_append_empty]
  have hposition : (leftFrom steps .empty).position = (groupForm steps).octets.length := by
    rw [hleft, Buffer.position_append]
    exact Nat.zero_add _
  have hwritten : (leftFrom steps .empty).contents = [] ++ ((groupForm steps).octets ++ []) := by
    rw [hcontents, List.nil_append, List.append_nil]
  obtain ⟨results, hreads, hresults⟩ :=
    readsTo_runGroup steps h Buffer.wellFormed_empty hgroup rfl hwritten
  have hend : ReadStep.leftFrom (groupReadSteps steps) (.ofOctets (leftFrom steps .empty).contents) =
      ⟨(leftFrom steps .empty).contents.toArray, (leftFrom steps .empty).position⟩ :=
    hreads.leftFrom_eq
  refine ⟨?_, hend, ?_⟩
  · rw [htaken, hresults]
    exact congrArg _ hreads.runAll_eq
  · rw [hend, Cursor.isExhausted, hcontents, hposition]
    simp

/-- Groups in each other, with octets that look like a pointer before a name, and a record. -/
def nestedItems : List WriteStep :=
  [.octets [192, 0],
    .lengthPrefixed [.name ⟨["a".toList]⟩, .lengthPrefixed [.uint8 192, .uint32 7]],
    .record (Record.ofPayload Name.root 60 (.address "010.0.0.1"))]

theorem read_back_nestedItems :
    GroupReadable nestedItems ∧
    (∀ outcome ∈ runAll nestedItems .empty, ∃ result, outcome.1 = .ok result) ∧
    (ReadStep.runAll (groupReadSteps nestedItems)
        (.ofOctets (leftFrom nestedItems .empty).contents)).map some =
      (takenAll nestedItems .empty).map (Taken.readBack (leftFrom nestedItems .empty).contents) := by
  have hreadable : GroupReadable nestedItems := by
    refine ⟨trivial, ⟨trivial, ⟨trivial, trivial, trivial⟩, trivial⟩, trivial, trivial⟩
  have hall : (runAll nestedItems .empty).all (fun outcome => outcome.1.isOk) = true := by
    decide +kernel
  have hok : ∀ outcome ∈ runAll nestedItems .empty, ∃ result, outcome.1 = .ok result := by
    intro outcome hmem
    have hsucceeds : outcome.1.isOk = true := List.all_eq_true.1 hall outcome hmem
    cases houtcome : outcome.1 with
    | error cause =>
      rw [houtcome] at hsucceeds
      cases hsucceeds
    | ok result => exact ⟨result, rfl⟩
  exact ⟨hreadable, hok, (read_back_what_was_written hreadable hok).1⟩

end WriteStep

end ZoneServer

import ZoneServer.Proofs.Message.Admits
import ZoneServer.Proofs.Message.Inside
import ZoneServer.Proofs.Record.Framing

/-!
# The records of a response

Where the next record of a response starts is a matter of the length that stands before the payload of the
last one, and of nothing else (`Record.decode_keeps_frame`). The induction is on the records that are read, and
`Record.Framed` says where they stand.
-/

namespace ZoneServer

open Decoder

/-! ## Records one after another -/

namespace Record

/-- Records that stand one after another from one place up to another, each where the length of the one
before says. -/
inductive Framed (datagram : Octets) : Nat → List Record → Nat → Prop where
  /-- No records take no octets. -/
  | nil {place : Nat} : Framed datagram place [] place
  /-- The next record stands after as many octets as the length says. -/
  | cons {place after stop : Nat} {length : UInt16} {r : Record} {records : List Record}
    (stands : r.StandsAt datagram place after length)
    (reads : decode ⟨datagram.toArray, place⟩ =
      .ok r ⟨datagram.toArray, after + 10 + length.toNat⟩)
    (rest : Framed datagram (after + 10 + length.toNat) records stop) :
    Framed datagram place (r :: records) stop

/-- Records that are read one after another stand where the lengths say. -/
theorem framed_of_inTurn {datagram : Octets} {place : Nat} {records : List Record} {c' : Cursor}
    (h : InTurn decode ⟨datagram.toArray, place⟩ records c') :
    ∃ stop, Framed datagram place records stop ∧ c' = ⟨datagram.toArray, stop⟩ := by
  generalize hc : (⟨datagram.toArray, place⟩ : Cursor) = c at h
  induction h generalizing place with
  | nil => exact ⟨place, .nil, hc.symm⟩
  | cons hfirst _ ih =>
    obtain rfl := hc
    obtain ⟨after, length, hstands, rfl⟩ := standsAt_of_decode hfirst
    obtain ⟨stop, hframed, rfl⟩ := ih rfl
    exact ⟨stop, .cons hstands hfirst hframed, rfl⟩

end Record

namespace Response

variable {datagram : Octets} {length : Nat}

theorem framed_of_decode {response : Response} (h : decode datagram length = .ok response) :
    ∃ start stop, Message.decode (.ofPrefix datagram length) =
        .ok response.toMessage ⟨(datagram.take length).toArray, start⟩ ∧
      Record.Framed (datagram.take length) start response.answers stop := by
  obtain ⟨c', hrun⟩ := decode_eq_ok.1 h
  obtain ⟨t, hmessage, hanswers, -⟩ := decoder_eq_ok.1 hrun
  obtain ⟨start, -, rfl, -⟩ := Message.inside_decode.ok (Nat.zero_le _) hmessage
  obtain ⟨stop, hframed, -⟩ := Record.framed_of_inTurn hanswers
  exact ⟨start, stop, hmessage, hframed⟩

theorem framed_of_decode_error {m : Message} {start : Nat} {cause : DecodeError}
    (hmessage : Message.decode (.ofPrefix datagram length) =
      .ok m ⟨(datagram.take length).toArray, start⟩) (h : decode datagram length = .error cause) :
    ∃ answers stop c', Record.Framed (datagram.take length) start answers stop ∧
      answers.length < m.header.answerCount.toNat ∧
      Record.decode ⟨(datagram.take length).toArray, stop⟩ = .error cause c' := by
  obtain ⟨c', hrun⟩ := decode_eq_error.1 h
  rw [decoder_eq, Wire.bind_of_ok hmessage] at hrun
  rcases Wire.bind_eq_error.1 hrun with hanswers | ⟨answers, t, -, hpure⟩
  · obtain ⟨answers, t, hturn, hlt, hnext⟩ := times_eq_error.1 hanswers
    obtain ⟨stop, hframed, rfl⟩ := Record.framed_of_inTurn hturn
    exact ⟨answers, stop, c', hframed, hlt, hnext⟩
  · cases hpure

end Response

/-! ## The next record starts where the length says -/

/-- If a record is read at a place in a datagram, its payload takes just as many octets as the length before
it says, four if it is an address, and reading goes on after them, wherever the names in the payload have
led. If a payload is read, it takes one number of octets, reading it leaves the place after these, which is
never before the payload, and the record is read just if this number is the length; otherwise the length is
refused. So the records of a response stand one after another, each where the length of the one before
says, and so does the first one that is not read, if there is one. -/
theorem Record.decode_keeps_frame (datagram : Octets) (length place : Nat) :
    (∀ r c', decode ⟨(datagram.take length).toArray, place⟩ = .ok r c' →
      ∃ after stated, r.StandsAt (datagram.take length) place after stated ∧
        InlineName (datagram.take length) place after ∧
        c' = ⟨(datagram.take length).toArray, after + 10 + stated.toNat⟩ ∧
        ∀ text, r.payload = .address text → stated.toNat = 4) ∧
    (∀ p after, Preamble.StandsAt p (datagram.take length) place after →
      (∀ payload c', decodePayload p.typeCode p.length.toNat
          ⟨(datagram.take length).toArray, after + 10⟩ = .ok payload c' →
        ∃ n, payload.Takes (datagram.take length) (after + 10) n ∧
          (∀ m, payload.Takes (datagram.take length) (after + 10) m → m = n) ∧
          c' = ⟨(datagram.take length).toArray, after + 10 + n⟩ ∧
          decode ⟨(datagram.take length).toArray, place⟩ =
            if n = p.length.toNat then .ok ⟨p.owner, p.classCode, p.ttl, payload⟩ c'
            else .error .recordLength c') ∧
      (p.typeCode = TypeCode.address → p.length.toNat ≠ 4 →
        decode ⟨(datagram.take length).toArray, place⟩ =
          .error .recordLength ⟨(datagram.take length).toArray, after + 10⟩)) ∧
    (∀ response, Response.decode datagram length = .ok response →
      ∃ start stop, Message.decode (.ofPrefix datagram length) =
          .ok response.toMessage ⟨(datagram.take length).toArray, start⟩ ∧
        Framed (datagram.take length) start response.answers stop) ∧
    (∀ m start cause, Message.decode (.ofPrefix datagram length) =
        .ok m ⟨(datagram.take length).toArray, start⟩ → Response.decode datagram length = .error cause →
      ∃ answers stop c', Framed (datagram.take length) start answers stop ∧
        answers.length < m.header.answerCount.toNat ∧
        decode ⟨(datagram.take length).toArray, stop⟩ = .error cause c') := by
  refine ⟨fun r c' hdecode => ?_, fun p after hstands => ⟨fun payload c' hpayload => ?_, ?_⟩, ?_, ?_⟩
  · obtain ⟨after, stated, hstands, rfl⟩ := standsAt_of_decode hdecode
    refine ⟨after, stated, hstands, hstands.preamble.inlineName, rfl, fun text haddress => ?_⟩
    have htakes := hstands.takes
    rwa [haddress] at htakes
  · -- whatever number the payload is said to take, it is the one by which reading it has moved on
    obtain ⟨-, n, htakes, rfl⟩ := takes_of_decodePayload hpayload
    exact ⟨n, htakes, fun m hm => hm.unique htakes, rfl, Preamble.decode_of_payload hstands hpayload⟩
  · exact Preamble.decode_of_wrongAddress hstands
  · exact fun response hresponse => Response.framed_of_decode hresponse
  · exact fun m start cause hmessage hresponse => Response.framed_of_decode_error hmessage hresponse

/-- A response with one record, in whose payload a name goes on at the name of its owner. After it stand two
records that announce an octet too much, a pointer and an address. -/
def exchangeByPointer : Octets :=
  [0, 7, 4, 0, 0, 0, 0, 1, 0, 0, 0, 0] ++
    ([1, 97, 0, 0, 15, 0, 1, 0, 0, 0, 60, 0, 6, 0, 5, 1, 98, 192, 12] ++
      ([192, 12, 0, 12, 0, 1, 0, 0, 0, 60, 0, 3, 192, 12] ++ [0, 0, 1, 0, 1, 0, 0, 0, 60, 0, 5]))

theorem exchangeByPointer_owner : Resolves exchangeByPointer 12 [[97]] 15 :=
  .label ⟨by decide, by decide, by simp, by decide⟩ (.terminator (by rw [TerminatorAt]; decide))

theorem exchangeByPointer_atOwner {place : Nat} (hplace : place ∈ [29, 31, 43]) :
    Resolves exchangeByPointer place [[97]] (place + 2) := by
  have hpointer : PointerAt exchangeByPointer place 12 := by
    refine ⟨192, 12, ?_, by decide, rfl, ?_⟩ <;> revert place <;> decide
  exact .pointer hpointer exchangeByPointer_owner

theorem exchangeByPointer_payload : Record.decodePayload TypeCode.mailExchange 6
      ⟨exchangeByPointer.toArray, 25⟩ =
    .ok (.mailExchange 5 ⟨[['b'], ['a']]⟩) ⟨exchangeByPointer.toArray, 31⟩ := by
  have hresolves : Resolves exchangeByPointer 27 [[98], [97]] 31 :=
    .label ⟨by decide, by decide, by simp, by decide⟩ (exchangeByPointer_atOwner (by decide))
  have hpreference : Decoder.uint16 ⟨exchangeByPointer.toArray, 25⟩ =
      .ok 5 ⟨exchangeByPointer.toArray, 27⟩ := uint16_eq_ok.2 ⟨by decide, rfl⟩
  have hname : Name.decode ⟨exchangeByPointer.toArray, 27⟩ =
      .ok ⟨[['b'], ['a']]⟩ ⟨exchangeByPointer.toArray, 31⟩ := Name.decode_of_resolves hresolves (by decide)
  rw [Record.decodePayload, Record.decodePayloadWith, if_neg (by decide), if_pos rfl]
  exact Wire.bind_eq_ok.2 ⟨_, _, hpreference, Wire.bind_eq_ok.2 ⟨_, _, hname, rfl⟩⟩

theorem exchangeByPointer_overlong : Record.decodePayload TypeCode.pointer 3
      ⟨exchangeByPointer.toArray, 43⟩ =
    .ok (.pointer ⟨[['a']]⟩) ⟨exchangeByPointer.toArray, 45⟩ := by
  have hname : Name.decode ⟨exchangeByPointer.toArray, 43⟩ =
      .ok ⟨[['a']]⟩ ⟨exchangeByPointer.toArray, 45⟩ :=
    Name.decode_of_resolves (exchangeByPointer_atOwner (by decide)) (by decide)
  rw [Record.decodePayload, Record.decodePayloadWith, if_neg (by decide), if_neg (by decide), if_pos rfl]
  exact Wire.bind_eq_ok.2 ⟨_, _, hname, rfl⟩

theorem exchangeByPointer_message {length : Nat} (hlength : length ∈ [12, 56]) :
    Message.decode (.ofPrefix exchangeByPointer length) = .ok ⟨⟨7, true, false, 0, 0, 1, 0, 0⟩, []⟩
      ⟨(exchangeByPointer.take length).toArray, 12⟩ := by
  have hsplit : exchangeByPointer.take length = [] ++
      (Header.wire ⟨7, true, false, 0, 0, 1, 0, 0⟩ ++ (exchangeByPointer.take length).drop 12) := by
    revert length
    decide
  exact Wire.bind_eq_ok.2 ⟨_, _, (Header.reads_decode _).inside hsplit, rfl⟩

theorem exchangeByPointer_cut : Response.decode exchangeByPointer 12 = .error .truncated := by
  have hname : Name.decode ⟨(exchangeByPointer.take 12).toArray, 12⟩ =
      .error .truncated ⟨(exchangeByPointer.take 12).toArray, 12⟩ :=
    Name.decode_of_exhausted (by decide)
  have hanswers : Decoder.times Record.decode 1 ⟨(exchangeByPointer.take 12).toArray, 12⟩ =
      .error .truncated ⟨(exchangeByPointer.take 12).toArray, 12⟩ :=
    Wire.bind_eq_error.2 (.inl (Wire.bind_eq_error.2 (.inl hname)))
  refine Response.decode_eq_error.2 ⟨⟨(exchangeByPointer.take 12).toArray, 12⟩, ?_⟩
  rw [Response.decoder_eq, Wire.bind_of_ok (exchangeByPointer_message (by decide))]
  exact Wire.bind_eq_error.2 (.inl hanswers)

/-- The record in this response. -/
def exchangeRecord : Record := ⟨⟨[['a']]⟩, 1, 60, .mailExchange 5 ⟨[['b'], ['a']]⟩⟩

theorem Record.decode_exchangeByPointer :
    (∃ after stated, exchangeRecord.StandsAt exchangeByPointer 12 after stated ∧
      31 = after + 10 + stated.toNat) ∧
    decode ⟨exchangeByPointer.toArray, 31⟩ = .error .recordLength ⟨exchangeByPointer.toArray, 45⟩ ∧
    decode ⟨exchangeByPointer.toArray, 45⟩ = .error .recordLength ⟨exchangeByPointer.toArray, 56⟩ ∧
    (∃ response stop, Response.decode exchangeByPointer 56 = .ok response ∧
      response.answers = [exchangeRecord] ∧ Framed exchangeByPointer 12 response.answers stop) ∧
    ∃ answers stop c', Framed (exchangeByPointer.take 12) 12 answers stop ∧ answers.length < 1 ∧
      decode ⟨(exchangeByPointer.take 12).toArray, stop⟩ = .error .truncated c' := by
  obtain ⟨hreads, hexchanges, hresponses, -⟩ := decode_keeps_frame exchangeByPointer 56 12
  obtain ⟨-, hpointers, -⟩ := decode_keeps_frame exchangeByPointer 56 31
  obtain ⟨-, haddresses, -⟩ := decode_keeps_frame exchangeByPointer 56 45
  obtain ⟨-, -, -, hfails⟩ := decode_keeps_frame exchangeByPointer 12 12
  have hread : decode ⟨exchangeByPointer.toArray, 12⟩ =
      .ok exchangeRecord ⟨exchangeByPointer.toArray, 31⟩ := by
    have hstands : Preamble.StandsAt ⟨⟨[['a']]⟩, TypeCode.mailExchange, 1, 60, 6⟩
        exchangeByPointer 12 15 := ⟨Name.decode_of_resolves exchangeByPointer_owner (by decide), by decide⟩
    obtain ⟨n, -, -, hc, hdecode⟩ := (hexchanges _ _ hstands).1 _ _ exchangeByPointer_payload
    obtain rfl : n = 6 := (Nat.add_left_cancel (congrArg Cursor.position hc)).symm
    exact hdecode
  refine ⟨?_, ?_, ?_, ?_, ?_⟩
  · obtain ⟨after, stated, hstands, -, hc, -⟩ := hreads _ _ hread
    exact ⟨after, stated, hstands, congrArg Cursor.position hc⟩
  · have hstands : Preamble.StandsAt ⟨⟨[['a']]⟩, TypeCode.pointer, 1, 60, 3⟩ exchangeByPointer 31 33 :=
      ⟨Name.decode_of_resolves (exchangeByPointer_atOwner (by decide)) (by decide), by decide⟩
    obtain ⟨n, -, -, hc, hdecode⟩ := (hpointers _ _ hstands).1 _ _ exchangeByPointer_overlong
    obtain rfl : n = 2 := (Nat.add_left_cancel (congrArg Cursor.position hc)).symm
    exact hdecode
  · have hresolves : Resolves exchangeByPointer 45 [] 46 := .terminator (by rw [TerminatorAt]; decide)
    exact (haddresses ⟨Name.root, TypeCode.address, 1, 60, 5⟩ 46
      ⟨Name.decode_of_resolves hresolves (by decide), by decide⟩).2 rfl (by decide)
  · have hanswers : Decoder.times decode 1 ⟨exchangeByPointer.toArray, 12⟩ =
        .ok [exchangeRecord] ⟨exchangeByPointer.toArray, 31⟩ :=
      Wire.bind_eq_ok.2 ⟨_, _, hread, rfl⟩
    have hmessage := exchangeByPointer_message (show 56 ∈ [12, 56] by decide)
    have hresponse : Response.decode exchangeByPointer 56 =
        .ok ⟨⟨⟨7, true, false, 0, 0, 1, 0, 0⟩, []⟩, [exchangeRecord]⟩ :=
      Response.decode_eq_ok.2 ⟨_,
        Wire.bind_eq_ok.2 ⟨_, _, hmessage, Wire.bind_eq_ok.2 ⟨_, _, hanswers, rfl⟩⟩⟩
    obtain ⟨start, stop, hstart, hframed⟩ := hresponses _ hresponse
    cases hmessage.symm.trans hstart
    exact ⟨_, stop, hresponse, rfl, hframed⟩
  · exact hfails _ _ _ (exchangeByPointer_message (by decide)) exchangeByPointer_cut

end ZoneServer

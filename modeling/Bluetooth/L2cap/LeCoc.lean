import Bluetooth.Lib.ByteStream
import Bluetooth.Lib.Loop
import Bluetooth.Packet.Fragmenting

set_option linter.all false

/-!
# Legacy LE credit-based channels: segmentation and reassembly

The legacy stack sends the SDU at the head of `xmit_hold_q` one K-frame at a time, a call of
`l2c_lcc_get_next_xmit_sdu_seg` for each.  The first K-frame carries the SDU length and at most
`mps - 6` octets of the SDU, every later one at most `mps - 4`.  The SDU's `event` field tells
the first call from the others: it is `0` while the SDU waits, and `local_cid` once a frame of
it has gone out.

`l2c_lcc_proc_pdu` takes the information payload of each K-frame.  A first frame opens a buffer
of the announced length, and the SDU goes up once the buffer is full.

Over the same `mps` on both ends the two loops agree.  Every SDU up to the receiver's `mtu` is
delivered once, as it was queued, and the channel is left waiting for the next first frame
(`l2cLcc_round_trip`).  The frames after the first are the segments `fragment` cuts, and the
sender's loop is proved against that function.
-/

namespace Bluetooth.L2cap.Lcc

open ByteStream Packet

/-- `L2CAP_BASE_APPL_CID`: `l2cu_allocate_ccb` numbers the dynamic channels from here. -/
def l2capBaseApplCid : UInt16 := 0x0040

/-- The SDU at the head of `xmit_hold_q`: its `event` and the `len` octets from `offset`. -/
structure HeldSdu where
  /-- `event`: `0` until the first K-frame of the SDU is sent. -/
  event : UInt16
  /-- The octets not sent yet. -/
  data : List UInt8
  deriving DecidableEq, Repr

/-- The fields of the channel control block that `l2c_lcc_get_next_xmit_sdu_seg` reads. -/
structure LccSender where
  /-- `local_cid`. -/
  localCid : UInt16
  /-- `remote_cid`. -/
  remoteCid : UInt16
  /-- `peer_conn_cfg.mps`. -/
  peerMps : UInt16
  deriving DecidableEq, Repr

/-- A K-frame as the sender writes it: the `L2CAP_PKT_OVERHEAD` octets of payload length and
channel id, then the information payload. -/
def kFrame (remoteCid : UInt16) (payload : List UInt8) : List UInt8 :=
  le16 (UInt16.ofNat payload.length) ++ le16 remoteCid ++ payload

/-- The fields of the channel control block that `l2c_lcc_proc_pdu` reads and writes. -/
structure LccReceiver where
  /-- `local_conn_cfg.mps`. -/
  localMps : UInt16
  /-- `local_conn_cfg.mtu`. -/
  localMtu : UInt16
  /-- `is_first_seg`. -/
  isFirstSeg : Bool
  /-- `ble_sdu`: the octets gathered so far, or `NULL`. -/
  bleSdu : Option (List UInt8)
  /-- `ble_sdu_length`. -/
  bleSduLength : UInt16
  deriving DecidableEq, Repr

/-- Calls `l2c_lcc_proc_pdu` makes on the channel. -/
inductive LccCall where
  /-- `l2c_csm_execute(p_ccb, L2CEVT_L2CAP_DATA, p_data)`: the SDU goes up. -/
  | dataIndication (sdu : List UInt8)
  /-- `l2cu_disconnect_chnl`. -/
  | disconnectChnl
  deriving DecidableEq, Repr

namespace LccSender

/-- `l2c_lcc_get_next_xmit_sdu_seg`: the K-frame, `last_piece_of_sdu`, and the SDU as it is
left at the head of the queue. -/
def l2cLccGetNextXmitSduSeg (sender : LccSender) (held : HeldSdu) :
    List UInt8 × Bool × HeldSdu :=
  let maxPdu := sender.peerMps - 4
  let len := UInt16.ofNat held.data.length
  let firstPdu := held.event == 0
  let noOfBytesToSend := min len (if firstPdu then maxPdu - 2 else maxPdu)
  let lastPdu := noOfBytesToSend == len
  let payload := (if firstPdu then le16 len else []) ++ held.data.take noOfBytesToSend.toNat
  (kFrame sender.remoteCid payload, lastPdu,
    ⟨sender.localCid, held.data.drop noOfBytesToSend.toNat⟩)

/-- One turn of the link's scheduler on the channel: one more K-frame, and the loop ends with
the frame that sets `last_piece_of_sdu`. -/
def transmitStep (sender : LccSender) (state : HeldSdu × List (List UInt8)) :
    (HeldSdu × List (List UInt8)) ⊕ List (List UInt8) :=
  match sender.l2cLccGetNextXmitSduSeg state.1 with
  | (frame, true, _) => .inr (state.2 ++ [frame])
  | (frame, false, held) => .inl (held, state.2 ++ [frame])

/-- The K-frames of an SDU that `l2c_enqueue_peer_data` queued with `event = 0`, for at most
`fuel` turns. -/
def transmitSdu (sender : LccSender) (fuel : Nat) (sdu : List UInt8) :
    Option (List (List UInt8)) :=
  Loop.run sender.transmitStep fuel (⟨0, sdu⟩, [])

end LccSender

namespace LccReceiver

/-- The end of `l2c_lcc_proc_pdu`: the payload is copied after the octets gathered, and a full
buffer goes up. -/
def gather (ccb : LccReceiver) (gathered payload : List UInt8) : LccReceiver × List LccCall :=
  if (gathered ++ payload).length = ccb.bleSduLength.toNat then
    ({ ccb with isFirstSeg := true, bleSdu := none, bleSduLength := 0 },
      [.dataIndication (gathered ++ payload)])
  else if (gathered ++ payload).length < ccb.bleSduLength.toNat then
    ({ ccb with isFirstSeg := false, bleSdu := some (gathered ++ payload) }, [])
  else ({ ccb with bleSdu := some (gathered ++ payload) }, [])

/-- `l2c_lcc_proc_pdu` on the information payload of a K-frame.  `osi_malloc` does not return
`NULL`, so the first frame always gets its buffer. -/
def l2cLccProcPdu (ccb : LccReceiver) (pdu : List UInt8) : LccReceiver × List LccCall :=
  if ccb.localMps.toNat < pdu.length then (ccb, [.disconnectChnl])
  else if ccb.isFirstSeg then
    if pdu.length < 2 then (ccb, [])
    else if ccb.localMtu.toNat < field16 pdu 0 then (ccb, [.disconnectChnl])
    else if field16 pdu 0 < (pdu.drop 2).length then (ccb, [])
    else
      { ccb with bleSdu := some [], bleSduLength := UInt16.ofNat (field16 pdu 0) }.gather []
        (pdu.drop 2)
  else
    match ccb.bleSdu with
    | none => (ccb, [])
    | some gathered =>
        if (ccb.bleSduLength.toNat : Int) - gathered.length < pdu.length then
          ({ ccb with isFirstSeg := true, bleSdu := none, bleSduLength := 0 }, [.disconnectChnl])
        else ccb.gather gathered pdu

/-- `l2c_lcc_proc_pdu` on each payload in turn, with all the calls in order. -/
def receive (ccb : LccReceiver) : List (List UInt8) → LccReceiver × List LccCall
  | [] => (ccb, [])
  | pdu :: pdus =>
      (((ccb.l2cLccProcPdu pdu).1.receive pdus).1,
        (ccb.l2cLccProcPdu pdu).2 ++ ((ccb.l2cLccProcPdu pdu).1.receive pdus).2)

end LccReceiver

/-! ## The sender -/

/-- The information payloads of an SDU's K-frames: the SDU length and the first `mps - 6`
octets, then the rest in segments of `mps - 4`. -/
def sduPayloads (mps : Nat) (sdu : List UInt8) : List (List UInt8) :=
  (le16 (UInt16.ofNat sdu.length) ++ sdu.take (mps - 6)) :: fragment (mps - 4) (sdu.drop (mps - 6))

/-- Every payload fits in `mps - 4` octets, the room `l2c_lcc_get_next_xmit_sdu_seg` leaves for
the basic header. -/
theorem length_mem_sduPayloads {mps : Nat} (mps_large : 6 < mps) (sdu : List UInt8) :
    ∀ payload ∈ sduPayloads mps sdu, payload.length ≤ mps - 4 := by
  intro payload member
  rcases List.mem_cons.1 member with rfl | later
  · simp only [List.length_append, length_le16, List.length_take]
    omega
  · exact (length_mem_fragment (by omega) _ payload later).2

@[simp] theorem drop_kFrame (remoteCid : UInt16) (payload : List UInt8) :
    (kFrame remoteCid payload).drop 4 = payload := by
  simp [kFrame, le16]

/-- The header of a K-frame announces its payload, as `l2c_rcv_acl_data` checks. -/
theorem field16_kFrame (remoteCid : UInt16) {payload : List UInt8}
    (short : payload.length < 2 ^ 16) :
    field16 (kFrame remoteCid payload) 0 + 4 = (kFrame remoteCid payload).length := by
  have read := field16_append_le16 [] (UInt16.ofNat payload.length) (le16 remoteCid ++ payload)
  simp only [List.nil_append, List.length_nil, UInt16.toNat_ofNat', Nat.mod_eq_of_lt short,
    ← List.append_assoc] at read
  simp only [kFrame, read, List.length_append, length_le16]
  omega

namespace LccSender

variable {sender : LccSender}

theorem toNat_maxPdu (mps_large : 4 ≤ sender.peerMps.toNat) :
    (sender.peerMps - 4).toNat = sender.peerMps.toNat - 4 := by
  rw [UInt16.toNat_sub_of_le _ _ (by rw [UInt16.le_iff_toNat_le]; simpa using mps_large)]
  rfl

/-- How many octets a call takes: `std::min` of what is left and the room in the frame, and
the frame is the last one when it takes them all. -/
theorem noOfBytesToSend_of_room {data : List UInt8} (short : data.length < 2 ^ 16)
    (room : UInt16) :
    (min (UInt16.ofNat data.length) room).toNat = min data.length room.toNat ∧
      (min (UInt16.ofNat data.length) room == UInt16.ofNat data.length) =
        decide (data.length ≤ room.toNat) := by
  have len : (UInt16.ofNat data.length).toNat = data.length := by
    simp only [UInt16.toNat_ofNat', Nat.mod_eq_of_lt short]
  have count : (min (UInt16.ofNat data.length) room).toNat = min data.length room.toNat := by
    rw [UInt16.toNat_min, len]
  refine ⟨count, ?_⟩
  rw [Bool.eq_iff_iff, beq_iff_eq, ← UInt16.toNat_inj, count, len, decide_eq_true_iff]
  omega

/-- The first call on an SDU: the SDU length and the first `mps - 6` octets. -/
theorem l2cLccGetNextXmitSduSeg_first (mps_large : 6 < sender.peerMps.toNat)
    {data : List UInt8} (short : data.length < 2 ^ 16) :
    sender.l2cLccGetNextXmitSduSeg ⟨0, data⟩ =
      (kFrame sender.remoteCid
          (le16 (UInt16.ofNat data.length) ++ data.take (sender.peerMps.toNat - 6)),
        decide (data.length ≤ sender.peerMps.toNat - 6),
        ⟨sender.localCid, data.drop (sender.peerMps.toNat - 6)⟩) := by
  have room : (sender.peerMps - 4 - 2).toNat = sender.peerMps.toNat - 6 := by
    have four : (sender.peerMps - 4).toNat = sender.peerMps.toNat - 4 := toNat_maxPdu (by omega)
    rw [UInt16.toNat_sub_of_le _ _ (by rw [UInt16.le_iff_toNat_le, four]; simp; omega), four]
    simp
    omega
  obtain ⟨count, last⟩ := noOfBytesToSend_of_room short (sender.peerMps - 4 - 2)
  simp only [l2cLccGetNextXmitSduSeg, beq_self_eq_true, if_true, count, last, room,
    Nat.min_comm data.length, ← List.take_eq_take_min, ← List.drop_eq_drop_min]

/-- A later call: the next `mps - 4` octets. -/
theorem l2cLccGetNextXmitSduSeg_later (mps_large : 4 ≤ sender.peerMps.toNat)
    {event : UInt16} (sent : event ≠ 0) {data : List UInt8} (short : data.length < 2 ^ 16) :
    sender.l2cLccGetNextXmitSduSeg ⟨event, data⟩ =
      (kFrame sender.remoteCid (data.take (sender.peerMps.toNat - 4)),
        decide (data.length ≤ sender.peerMps.toNat - 4),
        ⟨sender.localCid, data.drop (sender.peerMps.toNat - 4)⟩) := by
  obtain ⟨count, last⟩ := noOfBytesToSend_of_room short (sender.peerMps - 4)
  simp only [l2cLccGetNextXmitSduSeg, beq_eq_false_iff_ne.mpr sent, Bool.false_eq_true, if_false,
    count, last, toNat_maxPdu mps_large, List.nil_append, Nat.min_comm data.length,
    ← List.take_eq_take_min, ← List.drop_eq_drop_min]

/-- From the second call on, the loop sends the rest of the SDU in the segments `fragment`
cuts, one K-frame each, and stops with the last of them. -/
theorem run_transmitStep_later (mps_large : 4 < sender.peerMps.toNat)
    (allocated : sender.localCid ≠ 0) (fuel : Nat) {event : UInt16} (sent_before : event ≠ 0)
    {data : List UInt8} (nonempty : data ≠ []) (enough : data.length < fuel)
    (short : data.length < 2 ^ 16) (sent : List (List UInt8)) :
    Loop.run sender.transmitStep fuel (⟨event, data⟩, sent) =
      some (sent ++ (fragment (sender.peerMps.toNat - 4) data).map (kFrame sender.remoteCid)) := by
  induction fuel generalizing event data sent with
  | zero => omega
  | succ fuel induction =>
      have positive : 0 < sender.peerMps.toNat - 4 := by omega
      have call := l2cLccGetNextXmitSduSeg_later mps_large.le sent_before short
      rw [fragment_eq_cons positive nonempty]
      by_cases last : data.length ≤ sender.peerMps.toNat - 4
      · have step : sender.transmitStep (⟨event, data⟩, sent) =
            .inr (sent ++ [kFrame sender.remoteCid data]) := by
          simp [transmitStep, call, last, List.take_of_length_le last]
        rw [Loop.run_succ_of_inr step, List.drop_of_length_le last, fragment_nil,
          List.take_of_length_le last]
        simp
      · have step : sender.transmitStep (⟨event, data⟩, sent) =
            .inl (⟨sender.localCid, data.drop (sender.peerMps.toNat - 4)⟩,
              sent ++ [kFrame sender.remoteCid (data.take (sender.peerMps.toNat - 4))]) := by
          simp [transmitStep, call, last]
        have rest : data.drop (sender.peerMps.toNat - 4) ≠ [] := by
          simp only [ne_eq, List.drop_eq_nil_iff]
          omega
        rw [Loop.run_succ_of_inl step, induction allocated rest (by simp; omega) (by simp; omega)]
        simp

/-- The loop over an SDU queued with `event = 0` stops within `len + 1` turns, with the K-frames
of `sduPayloads`. -/
theorem transmitSdu_eq (mps_large : 6 < sender.peerMps.toNat) (allocated : sender.localCid ≠ 0)
    {sdu : List UInt8} (short : sdu.length < 2 ^ 16) {fuel : Nat} (enough : sdu.length < fuel) :
    sender.transmitSdu fuel sdu =
      some ((sduPayloads sender.peerMps.toNat sdu).map (kFrame sender.remoteCid)) := by
  obtain ⟨fuel, rfl⟩ : ∃ rest, fuel = rest + 1 := ⟨fuel - 1, by omega⟩
  have call := l2cLccGetNextXmitSduSeg_first mps_large short
  by_cases last : sdu.length ≤ sender.peerMps.toNat - 6
  · have step : sender.transmitStep (⟨0, sdu⟩, []) =
        .inr [kFrame sender.remoteCid (le16 (UInt16.ofNat sdu.length) ++
          sdu.take (sender.peerMps.toNat - 6))] := by
      simp [transmitStep, call, last]
    rw [transmitSdu, Loop.run_succ_of_inr step, sduPayloads, List.drop_of_length_le last,
      fragment_nil]
    rfl
  · have step : sender.transmitStep (⟨0, sdu⟩, []) =
        .inl (⟨sender.localCid, sdu.drop (sender.peerMps.toNat - 6)⟩,
          [kFrame sender.remoteCid (le16 (UInt16.ofNat sdu.length) ++
            sdu.take (sender.peerMps.toNat - 6))]) := by
      simp [transmitStep, call, last]
    have rest : sdu.drop (sender.peerMps.toNat - 6) ≠ [] := by
      simp only [ne_eq, List.drop_eq_nil_iff]
      omega
    rw [transmitSdu, Loop.run_succ_of_inl step,
      run_transmitStep_later (by omega) allocated fuel allocated rest (by simp; omega)
        (by simp; omega)]
    rfl

end LccSender

/-! ## The receiver -/

namespace LccReceiver

variable {ccb : LccReceiver}

@[simp] theorem receive_nil : ccb.receive [] = (ccb, []) := rfl

theorem receive_cons (pdu : List UInt8) (pdus : List (List UInt8)) :
    ccb.receive (pdu :: pdus) =
      (((ccb.l2cLccProcPdu pdu).1.receive pdus).1,
        (ccb.l2cLccProcPdu pdu).2 ++ ((ccb.l2cLccProcPdu pdu).1.receive pdus).2) := rfl

/-- A buffer that is full goes up, and the channel waits for a first frame again. -/
theorem gather_of_full {gathered payload : List UInt8}
    (full : (gathered ++ payload).length = ccb.bleSduLength.toNat) :
    ccb.gather gathered payload =
      ({ ccb with isFirstSeg := true, bleSdu := none, bleSduLength := 0 },
        [.dataIndication (gathered ++ payload)]) := by
  simp only [gather, full, if_true]

/-- A buffer that is not full yet waits for continuation frames. -/
theorem gather_of_lt {gathered payload : List UInt8}
    (short : (gathered ++ payload).length < ccb.bleSduLength.toNat) :
    ccb.gather gathered payload =
      ({ ccb with isFirstSeg := false, bleSdu := some (gathered ++ payload) }, []) := by
  simp only [gather, short.ne, short, if_true, if_false]

/-- A first frame within `mps`, announcing an SDU within `mtu` and carrying no more than it,
opens a buffer of the announced length. -/
theorem l2cLccProcPdu_first (first : ccb.isFirstSeg = true) {sduLength : UInt16}
    {part : List UInt8} (within_mps : part.length + 2 ≤ ccb.localMps.toNat)
    (within_mtu : sduLength.toNat ≤ ccb.localMtu.toNat)
    (within_sdu : part.length ≤ sduLength.toNat) :
    ccb.l2cLccProcPdu (le16 sduLength ++ part) =
      { ccb with bleSdu := some [], bleSduLength := sduLength }.gather [] part := by
  have read : field16 (le16 sduLength ++ part) 0 = sduLength.toNat := by
    simpa using field16_append_le16 [] sduLength part
  have not_long : ¬ ccb.localMps.toNat < (le16 sduLength ++ part).length := by
    simp only [List.length_append, length_le16]
    omega
  have not_short : ¬ (le16 sduLength ++ part).length < 2 := by
    simp only [List.length_append, length_le16]
    omega
  simp only [l2cLccProcPdu, not_long, first, not_short, read, UInt16.ofNat_toNat, if_false,
    if_true, Nat.not_lt.mpr within_mtu, List.drop_left' (length_le16 sduLength),
    Nat.not_lt.mpr within_sdu]

/-- A continuation frame within `mps` and within the room left in the buffer is gathered. -/
theorem l2cLccProcPdu_later (later : ccb.isFirstSeg = false) {gathered : List UInt8}
    (held : ccb.bleSdu = some gathered) {pdu : List UInt8}
    (within_mps : pdu.length ≤ ccb.localMps.toNat)
    (within_sdu : gathered.length + pdu.length ≤ ccb.bleSduLength.toNat) :
    ccb.l2cLccProcPdu pdu = ccb.gather gathered pdu := by
  have room : ¬ (ccb.bleSduLength.toNat : Int) - gathered.length < pdu.length := by omega
  simp only [l2cLccProcPdu, Nat.not_lt.mpr within_mps, later, held, room, if_false,
    Bool.false_eq_true]

/-- Continuation frames that fill the buffer exactly deliver what was gathered and them, once,
and leave the channel waiting for a first frame.  The induction is on the frames, with the
octets gathered before them growing. -/
theorem receive_continuations (later : ccb.isFirstSeg = false) {gathered : List UInt8}
    (held : ccb.bleSdu = some gathered) {segments : List (List UInt8)} (nonempty : segments ≠ [])
    (sizes : ∀ segment ∈ segments, 0 < segment.length ∧ segment.length ≤ ccb.localMps.toNat)
    (fills : (gathered ++ segments.flatten).length = ccb.bleSduLength.toNat) :
    ccb.receive segments =
      ({ ccb with isFirstSeg := true, bleSdu := none, bleSduLength := 0 },
        [.dataIndication (gathered ++ segments.flatten)]) := by
  induction segments generalizing ccb gathered with
  | nil => exact absurd rfl nonempty
  | cons segment rest induction =>
      have size := sizes segment List.mem_cons_self
      have proc : ccb.l2cLccProcPdu segment = ccb.gather gathered segment := by
        apply l2cLccProcPdu_later later held size.2
        rw [← fills]
        simp
      cases rest with
      | nil =>
          have full : (gathered ++ segment).length = ccb.bleSduLength.toNat := by simpa using fills
          simp [receive, proc, gather_of_full full]
      | cons next more =>
          have next_size := sizes next (List.mem_cons_of_mem _ List.mem_cons_self)
          have short : (gathered ++ segment).length < ccb.bleSduLength.toNat := by
            rw [← fills]
            simp only [List.flatten_cons, List.length_append]
            omega
          have continued := @induction
            { ccb with isFirstSeg := false, bleSdu := some (gathered ++ segment) } rfl
            (gathered ++ segment) rfl (List.cons_ne_nil next more)
            (fun other member => sizes other (List.mem_cons_of_mem _ member))
            (by rw [← fills]; simp)
          rw [receive_cons, proc, gather_of_lt short, continued]
          simp

/-- The receiver takes the payloads of `sduPayloads` over its own `mps` and delivers the SDU
once. -/
theorem receive_sduPayloads (first : ccb.isFirstSeg = true) {sdu : List UInt8}
    (mps_large : 6 < ccb.localMps.toNat) (fits : sdu.length ≤ ccb.localMtu.toNat) :
    ccb.receive (sduPayloads ccb.localMps.toNat sdu) =
      ({ ccb with isFirstSeg := true, bleSdu := none, bleSduLength := 0 },
        [.dataIndication sdu]) := by
  have len : (UInt16.ofNat sdu.length).toNat = sdu.length := by
    have short := ccb.localMtu.toNat_lt
    simp only [UInt16.toNat_ofNat']
    omega
  have opened : ccb.l2cLccProcPdu
      (le16 (UInt16.ofNat sdu.length) ++ sdu.take (ccb.localMps.toNat - 6)) =
        { ccb with bleSdu := some [], bleSduLength := UInt16.ofNat sdu.length }.gather []
          (sdu.take (ccb.localMps.toNat - 6)) :=
    l2cLccProcPdu_first first (by simp; omega) (by rw [len]; exact fits) (by simp [len])
  by_cases last : sdu.length ≤ ccb.localMps.toNat - 6
  · have full : ([] ++ sdu.take (ccb.localMps.toNat - 6)).length =
        (UInt16.ofNat sdu.length).toNat := by
      simp [len]
      omega
    rw [sduPayloads, List.drop_of_length_le last, fragment_nil, receive_cons, opened,
      gather_of_full full]
    simp [List.take_of_length_le last]
  · have short : ([] ++ sdu.take (ccb.localMps.toNat - 6)).length <
        (UInt16.ofNat sdu.length).toNat := by
      simp [len]
      omega
    have positive : 0 < ccb.localMps.toNat - 4 := by omega
    have rest : sdu.drop (ccb.localMps.toNat - 6) ≠ [] := by
      simp only [ne_eq, List.drop_eq_nil_iff]
      omega
    have continued := @receive_continuations
      ⟨ccb.localMps, ccb.localMtu, false, some ([] ++ sdu.take (ccb.localMps.toNat - 6)),
        UInt16.ofNat sdu.length⟩ rfl _ rfl
      (fragment (ccb.localMps.toNat - 4) (sdu.drop (ccb.localMps.toNat - 6)))
      (fragment_ne_nil positive rest)
      (fun segment member => by
        have size := length_mem_fragment positive _ segment member
        exact ⟨size.1, by simp; omega⟩)
      (by simp [flatten_fragment positive, len])
    rw [sduPayloads, receive_cons, opened, gather_of_lt short]
    dsimp only
    rw [continued]
    simp [flatten_fragment positive]

end LccReceiver

/-- Segmentation and reassembly agree over the same `mps` on both ends.  The sender's loop stops
within `len + 1` turns; each K-frame's header announces its payload, which fits in the `mps`;
and the receiver, from a channel waiting for a first frame, delivers the SDU once, as it was
queued, and disconnects nowhere. -/
theorem l2cLcc_round_trip (sender : LccSender) (ccb : LccReceiver) (sdu : List UInt8)
    (allocated : l2capBaseApplCid ≤ sender.localCid) (mps_large : 6 < sender.peerMps.toNat)
    (same_mps : ccb.localMps = sender.peerMps) (fits : sdu.length ≤ ccb.localMtu.toNat)
    (first : ccb.isFirstSeg = true) :
    ∃ frames, (∀ fuel, sdu.length < fuel → sender.transmitSdu fuel sdu = some frames) ∧
      (∀ frame ∈ frames, (frame.drop 4).length ≤ sender.peerMps.toNat ∧
        field16 frame 0 + 4 = frame.length) ∧
      ccb.receive (frames.map (List.drop 4)) =
        ({ ccb with isFirstSeg := true, bleSdu := none, bleSduLength := 0 },
          [.dataIndication sdu]) := by
  have short : sdu.length < 2 ^ 16 := Nat.lt_of_le_of_lt fits ccb.localMtu.toNat_lt
  have dynamic : sender.localCid ≠ 0 := by
    rintro zero
    rw [zero] at allocated
    exact absurd allocated (by decide)
  refine ⟨(sduPayloads sender.peerMps.toNat sdu).map (kFrame sender.remoteCid),
    fun fuel enough => LccSender.transmitSdu_eq mps_large dynamic short enough, ?_, ?_⟩
  · intro frame member
    obtain ⟨payload, listed, rfl⟩ := List.mem_map.1 member
    have size := length_mem_sduPayloads mps_large sdu payload listed
    have bounded := sender.peerMps.toNat_lt
    rw [drop_kFrame, field16_kFrame _ (by omega)]
    exact ⟨by omega, rfl⟩
  · have payloads : ((sduPayloads sender.peerMps.toNat sdu).map (kFrame sender.remoteCid)).map
        (List.drop 4) = sduPayloads ccb.localMps.toNat sdu := by
      rw [List.map_map, same_mps]
      simp [Function.comp_def]
    rw [payloads]
    exact LccReceiver.receive_sduPayloads first (by rw [same_mps]; exact mps_large) fits

/-- An SDU of forty octets over an `mps` of 23: a first frame and two continuations. -/
theorem l2cLcc_round_trip_at_mps_23 :
    l2capBaseApplCid ≤ (⟨0x40, 0x41, 23⟩ : LccSender).localCid ∧
      6 < (⟨0x40, 0x41, 23⟩ : LccSender).peerMps.toNat ∧
      (⟨23, 100, true, none, 0⟩ : LccReceiver).localMps = (⟨0x40, 0x41, 23⟩ : LccSender).peerMps ∧
      (List.replicate 40 (7 : UInt8)).length ≤ (⟨23, 100, true, none, 0⟩ : LccReceiver).localMtu.toNat ∧
      (⟨23, 100, true, none, 0⟩ : LccReceiver).isFirstSeg = true ∧
      ∃ frames, (∀ fuel, (List.replicate 40 (7 : UInt8)).length < fuel →
          (⟨0x40, 0x41, 23⟩ : LccSender).transmitSdu fuel (List.replicate 40 7) = some frames) ∧
        (∀ frame ∈ frames, (frame.drop 4).length ≤ (⟨0x40, 0x41, 23⟩ : LccSender).peerMps.toNat ∧
          field16 frame 0 + 4 = frame.length) ∧
        (⟨23, 100, true, none, 0⟩ : LccReceiver).receive (frames.map (List.drop 4)) =
          (⟨23, 100, true, none, 0⟩, [.dataIndication (List.replicate 40 7)]) :=
  ⟨by decide, by decide, rfl, by decide, rfl,
    l2cLcc_round_trip ⟨0x40, 0x41, 23⟩ ⟨23, 100, true, none, 0⟩ (List.replicate 40 7)
      (by decide) (by decide) rfl (by decide) rfl⟩

end Bluetooth.L2cap.Lcc

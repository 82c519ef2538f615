import Bluetooth.Packet.Fragmenting
import Bluetooth.L2cap.LeCreditBased

set_option linter.all false

/-!
# Enhanced retransmission mode: state, conditions and actions

The gd `ErtmController` and its `impl`, following the state machine of Core Vol 3 Part A
§8.6.5.  A controller is one flat record: the configuration the signalling manager sets, the
transmitter and receiver variables of the `impl`, its two alarms as flags, the queues it
hands frames to, and the reassembly stage.  Each member function is a function on that
record; the events that call each other (`pass_to_tx`, `data_indication`) are in
`Bluetooth.L2cap.Ertm.Events`.

Sequence numbers are the source's `uint8_t`, always reduced modulo `kMaxTxWin = 64` where the
source reduces them.  `unacked_list_` is a finite map from `uint8_t`, here a function to
`Option`, and `retry_i_frames_` is the `std::map<uint8_t, int>` read through `operator[]`, so a
missing key reads as `0`.  Frames are kept as the fields their builders write and their views
read back, which is all that crosses the link.
-/

namespace Bluetooth.L2cap.Ertm

/-- `SegmentationAndReassembly`. -/
inductive SegmentationAndReassembly where
  | unsegmented
  | start
  | «end»
  | continuation
  deriving DecidableEq, Repr

/-- `Poll`. -/
inductive Poll where
  | notSet
  | poll
  deriving DecidableEq, Repr

/-- `Final`. -/
inductive Final where
  | notSet
  | pollResponse
  deriving DecidableEq, Repr

/-- `SupervisoryFunction`. -/
inductive SupervisoryFunction where
  | receiverReady
  | reject
  | receiverNotReady
  | selectReject
  deriving DecidableEq, Repr

/-- `TxState` of the `impl`. -/
inductive TxState where
  | xmit
  | waitF
  deriving DecidableEq, Repr

/-- `RxState` of the `impl`. -/
inductive RxState where
  | recv
  | rejSent
  | srejSent
  deriving DecidableEq, Repr

/-- An enhanced-control frame, as its builder writes it and its view reads it back. -/
inductive ErtmFrame where
  /-- An I-frame; `sduSize` is only carried by a `START` frame and reads as `0` otherwise. -/
  | information (txSeq : UInt8) (f : Final) (reqSeq : UInt8) (sar : SegmentationAndReassembly)
      (sduSize : UInt16) (payload : List UInt8)
  /-- An S-frame. -/
  | supervisory (s : SupervisoryFunction) (p : Poll) (f : Final) (reqSeq : UInt8)
  deriving DecidableEq, Repr

/-- One entry of `unacked_list_` or `pending_frames_`: SAR, SDU size for `START`, payload. -/
structure StoredFrame where
  /-- Segmentation role of the segment. -/
  sar : SegmentationAndReassembly
  /-- SDU size, meaningful for a `START` segment. -/
  sduSize : UInt16
  /-- The segment itself. -/
  payload : List UInt8
  deriving DecidableEq, Repr

/-- `kMaxTxWin`: the modulus of the sequence numbers. -/
def kMaxTxWin : Nat := 64

/-- Conversion of an `int` argument to a `uint8_t` parameter. -/
def toUInt8 (value : Int) : UInt8 := UInt8.ofNat (value % 256).toNat

/-- An `ErtmController` with its `impl`. -/
structure ErtmController where
  /-- `fcs_enabled_`. -/
  fcsEnabled : Bool
  /-- `local_tx_window_`. -/
  localTxWindow : UInt16
  /-- `local_max_transmit_`. -/
  localMaxTransmit : UInt16
  /-- `remote_tx_window_`. -/
  remoteTxWindow : UInt16
  /-- `remote_mps_`. -/
  remoteMps : UInt16
  /-- `tx_state_`. -/
  txState : TxState
  /-- `rx_state_`. -/
  rxState : RxState
  /-- `next_tx_seq_`. -/
  nextTxSeq : UInt8
  /-- `expected_ack_seq_`. -/
  expectedAckSeq : UInt8
  /-- `expected_tx_seq_`. -/
  expectedTxSeq : UInt8
  /-- `buffer_seq_`. -/
  bufferSeq : UInt8
  /-- `remote_busy_`. -/
  remoteBusy : Bool
  /-- `local_busy_`. -/
  localBusy : Bool
  /-- `unacked_frames_`. -/
  unackedFrames : Int
  /-- `unacked_list_`. -/
  unackedList : UInt8 → Option StoredFrame
  /-- `pending_frames_`, front first. -/
  pendingFrames : List StoredFrame
  /-- `retry_count_`. -/
  retryCount : Int
  /-- `retry_i_frames_`. -/
  retryIFrames : UInt8 → Int
  /-- `rnr_sent_`. -/
  rnrSent : Bool
  /-- `rej_actioned_`. -/
  rejActioned : Bool
  /-- `srej_actioned_`. -/
  srejActioned : Bool
  /-- `srej_save_req_seq_`. -/
  srejSaveReqSeq : UInt16
  /-- `frames_sent_`. -/
  framesSent : Int
  /-- `retrans_timer_` is scheduled. -/
  retransTimer : Bool
  /-- `monitor_timer_` is scheduled. -/
  monitorTimer : Bool
  /-- `pdu_queue_`: frames handed to the scheduler, front first. -/
  pduQueue : List ErtmFrame
  /-- Disconnection requests sent through `close_channel`. -/
  disconnectionRequests : Nat
  /-- `sar_state_`. -/
  sarState : SegmentationAndReassembly
  /-- `reassembly_stage_`. -/
  reassemblyStage : List UInt8
  /-- `remaining_sdu_continuation_packet_size_`. -/
  remainingSduContinuationPacketSize : UInt16
  /-- `enqueue_buffer_`: SDUs not yet moved to the channel queue, front first. -/
  enqueueBuffer : List (List UInt8)
  /-- `callback_on_empty_` of the enqueue buffer is set. -/
  callbackOnEmpty : Bool
  /-- Every SDU ever passed to `enqueue_buffer_.Enqueue`, in order. -/
  delivered : List (List UInt8)
  /-- An `ASSERT` failed or the behaviour is undefined; nothing runs afterwards. -/
  faulted : Bool

namespace ErtmController

/-- The constructor, with every member default of the header and the `impl`. -/
def create : ErtmController where
  fcsEnabled := false
  localTxWindow := 10
  localMaxTransmit := 20
  remoteTxWindow := 10
  remoteMps := 1010
  txState := .xmit
  rxState := .recv
  nextTxSeq := 0
  expectedAckSeq := 0
  expectedTxSeq := 0
  bufferSeq := 0
  remoteBusy := false
  localBusy := false
  unackedFrames := 0
  unackedList := fun _ => none
  pendingFrames := []
  retryCount := 0
  retryIFrames := fun _ => 0
  rnrSent := false
  rejActioned := false
  srejActioned := false
  srejSaveReqSeq := 0
  framesSent := 0
  retransTimer := false
  monitorTimer := false
  pduQueue := []
  disconnectionRequests := 0
  sarState := .«end»
  reassemblyStage := []
  remainingSduContinuationPacketSize := 0
  enqueueBuffer := []
  callbackOnEmpty := false
  delivered := []
  faulted := false

variable (controller : ErtmController)

/-! ## Conditions (§8.6.5.5) -/

/-- `rem_window_not_full`. -/
def remWindowNotFull : Bool := controller.unackedFrames < controller.remoteTxWindow.toNat

/-- `rem_window_full`. -/
def remWindowFull : Bool := controller.unackedFrames == controller.remoteTxWindow.toNat

/-- `retry_i_frames_less_than_max_transmit`. -/
def retryIFramesLessThanMaxTransmit (reqSeq : UInt8) : Bool :=
  controller.retryIFrames reqSeq < controller.localMaxTransmit.toNat

/-- `retry_count_less_than_max_transmit`. -/
def retryCountLessThanMaxTransmit : Bool :=
  controller.retryCount < controller.localMaxTransmit.toNat

/-- `sequence_less_than`, assuming wrap-around by at most `local_tx_window_`. -/
def sequenceLessThan (x y : UInt8) : Bool :=
  x < y || (kMaxTxWin : Int) - ((x.toNat : Int) - y.toNat) < controller.localTxWindow.toNat

/-- `sequence_less_than_or_equal`. -/
def sequenceLessThanOrEqual (x y : UInt8) : Bool :=
  x ≤ y || (kMaxTxWin : Int) - ((x.toNat : Int) - y.toNat) ≤ controller.localTxWindow.toNat

/-- `with_expected_tx_seq`. -/
def withExpectedTxSeq (txSeq : UInt8) : Bool := txSeq == controller.expectedTxSeq

/-- `with_valid_req_seq`, and `with_valid_req_seq_retrans`, which has the same body. -/
def withValidReqSeq (reqSeq : UInt8) : Bool :=
  controller.sequenceLessThanOrEqual controller.expectedAckSeq reqSeq &&
    controller.sequenceLessThanOrEqual reqSeq controller.nextTxSeq

/-- `with_valid_f_bit`: `f == Final::NOT_SET ^ tx_state_ == TxState::WAIT_F`. -/
def withValidFBit (f : Final) : Bool := (f == .notSet) ^^ (controller.txState == .waitF)

/-- `with_unexpected_tx_seq`. -/
def withUnexpectedTxSeq (txSeq : UInt8) : Bool :=
  controller.sequenceLessThan controller.expectedTxSeq txSeq &&
    controller.sequenceLessThanOrEqual txSeq
      (toUInt8 (controller.expectedTxSeq.toNat + controller.localTxWindow.toNat))

/-- `with_duplicate_tx_seq`. -/
def withDuplicateTxSeq (txSeq : UInt8) : Bool :=
  controller.sequenceLessThan txSeq controller.expectedTxSeq &&
    controller.sequenceLessThanOrEqual
      (toUInt8 ((controller.expectedTxSeq.toNat : Int) - controller.localTxWindow.toNat)) txSeq

/-- `with_invalid_tx_seq`. -/
def withInvalidTxSeq (txSeq : UInt8) : Bool :=
  controller.sequenceLessThan txSeq
      (toUInt8 ((controller.expectedTxSeq.toNat : Int) - controller.localTxWindow.toNat)) ||
    controller.sequenceLessThan
      (toUInt8 (controller.expectedTxSeq.toNat + controller.localTxWindow.toNat)) txSeq

/-- `with_invalid_req_seq`, and `with_invalid_req_seq_retrans`, which has the same body. -/
def withInvalidReqSeq (reqSeq : UInt8) : Bool :=
  controller.sequenceLessThan reqSeq controller.expectedAckSeq ||
    controller.sequenceLessThan controller.nextTxSeq reqSeq

/-- `not_with_expected_tx_seq`. -/
def notWithExpectedTxSeq (txSeq : UInt8) : Bool :=
  !controller.withInvalidTxSeq txSeq && !controller.withExpectedTxSeq txSeq

/-- `p_bit_outstanding`. -/
def pBitOutstanding : Bool := controller.txState == .waitF

/-! ## Actions (§8.6.5.6) -/

/-- `ErtmController::send_pdu`: queue a frame for the scheduler. -/
def sendPdu (frame : ErtmFrame) : ErtmController :=
  { controller with pduQueue := controller.pduQueue ++ [frame] }

/-- `close_channel`: ask the link to disconnect. -/
def closeChannel : ErtmController :=
  { controller with disconnectionRequests := controller.disconnectionRequests + 1 }

/-- `_send_i_frame`; only a `START` builder writes the SDU size. -/
def sendIFrame (sar : SegmentationAndReassembly) (segment : List UInt8) (reqSeq txSeq : UInt8)
    (sduSize : UInt16) (f : Final) : ErtmController :=
  controller.sendPdu
    (.information txSeq f reqSeq sar (if sar = .start then sduSize else 0) segment)

/-- `_send_s_frame`. -/
def sendSFrame (s : SupervisoryFunction) (reqSeq : UInt8) (p : Poll) (f : Final) :
    ErtmController :=
  controller.sendPdu (.supervisory s p f reqSeq)

/-- `start_retrans_timer`: (re)schedule the retransmission alarm. -/
def startRetransTimer : ErtmController := { controller with retransTimer := true }

/-- `start_monitor_timer`. -/
def startMonitorTimer : ErtmController := { controller with monitorTimer := true }

/-- `stop_retrans_timer`. -/
def stopRetransTimer : ErtmController := { controller with retransTimer := false }

/-- `stop_monitor_timer`. -/
def stopMonitorTimer : ErtmController := { controller with monitorTimer := false }

/-- `send_rr(Poll p)`. -/
def sendRrPoll (p : Poll) : ErtmController :=
  controller.sendSFrame .receiverReady controller.expectedTxSeq p .notSet

/-- `send_rr(Final f)`. -/
def sendRrFinal (f : Final) : ErtmController :=
  controller.sendSFrame .receiverReady controller.expectedTxSeq .notSet f

/-- `send_rnr(Final f)`, which also records `rnr_sent_`. -/
def sendRnrFinal (f : Final) : ErtmController :=
  { controller.sendSFrame .receiverNotReady controller.expectedTxSeq .notSet f with
    rnrSent := true }

/-- `send_rej`. -/
def sendRej (p : Poll) (f : Final) : ErtmController :=
  controller.sendSFrame .reject controller.expectedTxSeq p f

/-- `send_rr_or_rnr`, which acknowledges with `buffer_seq_`. -/
def sendRrOrRnr (p : Poll) (f : Final) : ErtmController :=
  if controller.localBusy then controller.sendSFrame .receiverNotReady controller.bufferSeq p f
  else controller.sendSFrame .receiverReady controller.bufferSeq p f

/-- `send_data`: store the segment under `next_tx_seq_` and send what the map then holds. -/
def sendData (sar : SegmentationAndReassembly) (sduSize : UInt16) (segment : List UInt8)
    (f : Final) : ErtmController :=
  let key := controller.nextTxSeq
  -- `std::map::emplace` leaves an existing entry in place
  let entry := (controller.unackedList key).getD ⟨sar, sduSize, segment⟩
  let stored := { controller with
    unackedList := Function.update controller.unackedList key (some entry) }
  let sent := stored.sendIFrame sar entry.payload controller.bufferSeq key sduSize f
  { sent with
    unackedFrames := controller.unackedFrames + 1
    framesSent := controller.framesSent + 1
    retryIFrames := Function.update controller.retryIFrames key 1
    nextTxSeq := UInt8.ofNat ((key.toNat + 1) % kMaxTxWin)
    retransTimer := true }

/-- `pend_data`. -/
def pendData (sar : SegmentationAndReassembly) (sduSize : UInt16) (data : List UInt8) :
    ErtmController :=
  { controller with pendingFrames := controller.pendingFrames ++ [⟨sar, sduSize, data⟩] }

/-- One iteration of the loop of `process_req_seq`: `unacked_list_.erase(i)` and
`retry_i_frames_[i] = 0`. -/
def eraseKey (i : Nat) : ErtmController :=
  { controller with
    unackedList := Function.update controller.unackedList (UInt8.ofNat i) none
    retryIFrames := Function.update controller.retryIFrames (UInt8.ofNat i) 0 }

/-- The loop of `process_req_seq`, `for (int i = expected_ack_seq_; i < req_seq; i++)`: when
`req_seq` is below `expected_ack_seq_` it runs no iteration. -/
def eraseAcknowledged (reqSeq : UInt8) : ErtmController :=
  (List.range' controller.expectedAckSeq.toNat
      (reqSeq.toNat - controller.expectedAckSeq.toNat)).foldl eraseKey controller

/-- `process_req_seq`. -/
def processReqSeq (reqSeq : UInt8) : ErtmController :=
  let erased := controller.eraseAcknowledged reqSeq
  let acknowledged : Int :=
    Int.tmod (((reqSeq.toNat : Int) - controller.expectedAckSeq.toNat) + kMaxTxWin) kMaxTxWin
  let updated := { erased with
    unackedFrames := controller.unackedFrames - acknowledged
    expectedAckSeq := reqSeq }
  if updated.unackedFrames = 0 then updated.stopRetransTimer else updated

/-- The loop of `send_pending_i_frames`, over the frames still pending: only the first frame
sent carries the caller's F-bit. -/
def sendPendingFrames : Final → List StoredFrame → ErtmController → ErtmController
  | _, [], current => current
  | f, frame :: rest, current =>
      if current.remWindowNotFull then
        sendPendingFrames .notSet rest
          { current.sendData frame.sar frame.sduSize frame.payload f with pendingFrames := rest }
      else
        current

/-- `send_pending_i_frames`. -/
def sendPendingIFrames (f : Final) : ErtmController :=
  if controller.pBitOutstanding then controller
  else sendPendingFrames f controller.pendingFrames controller

/-- The loop of `retransmit_i_frames` from `i` while `unacked_list_` holds `i`, with the
`uint8_t` counter.  It returns `none` where the source closes the channel and returns.
Keys are below `kMaxTxWin`, so 256 iterations are never all used. -/
def retransmitFrom : Nat → UInt8 → Final → ErtmController → ErtmController × Option UInt8
  | 0, i, _, current => (current, some i)
  | fuel + 1, i, f, current =>
      match current.unackedList i with
      | none => (current, some i)
      | some entry =>
          if current.retryIFrames i = current.localMaxTransmit.toNat then
            (current.closeChannel, none)
          else
            let sent := current.sendIFrame entry.sar entry.payload current.bufferSeq i
              entry.sduSize f
            retransmitFrom fuel (i + 1) .notSet
              { sent with
                retryIFrames := Function.update current.retryIFrames i (current.retryIFrames i + 1)
                framesSent := current.framesSent + 1 }

/-- `retransmit_i_frames`. -/
def retransmitIFrames (reqSeq : UInt8) (p : Poll) : ErtmController :=
  let f : Final := if p = .notSet then .notSet else .pollResponse
  match retransmitFrom 256 reqSeq f controller with
  | (closed, none) => closed
  | (sent, some i) => if i ≠ reqSeq then sent.startRetransTimer else sent

/-- `retransmit_requested_i_frame`. -/
def retransmitRequestedIFrame (reqSeq : UInt8) (p : Poll) : ErtmController :=
  let f : Final := if p = .poll then .pollResponse else .notSet
  match controller.unackedList reqSeq with
  | none => controller
  | some entry =>
      let sent := controller.sendIFrame entry.sar entry.payload controller.bufferSeq reqSeq
        entry.sduSize f
      { sent with
        retryIFrames := Function.update controller.retryIFrames reqSeq
          (controller.retryIFrames reqSeq + 1)
        retransTimer := true }

/-- `send_ack`. -/
def sendAck (f : Final) : ErtmController :=
  if controller.localBusy then controller.sendRnrFinal f
  else if !controller.remoteBusy && !controller.pendingFrames.isEmpty &&
      controller.remWindowNotFull then
    controller.sendPendingIFrames f
  else controller.sendRrFinal f

/-- `send_i_or_rr_or_rnr`; its local `frames_sent` is never incremented. -/
def sendIOrRrOrRnr (f : Final) : ErtmController :=
  let afterRnr := if controller.localBusy then controller.sendRnrFinal .pollResponse
    else controller
  let afterTimer := if afterRnr.remoteBusy && 0 < afterRnr.unackedFrames then
    afterRnr.startRetransTimer else afterRnr
  let sent := { afterTimer with remoteBusy := false }.sendPendingIFrames f
  if !sent.localBusy then sent.sendRrFinal .pollResponse else sent

end ErtmController

end Bluetooth.L2cap.Ertm

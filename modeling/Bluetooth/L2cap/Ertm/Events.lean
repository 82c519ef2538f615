import Bluetooth.L2cap.Ertm.Basic

set_option linter.all false

/-!
# Enhanced retransmission mode: events

The events of the `impl` (§8.6.5.4) and the controller entry points `OnSdu`, `OnPdu` and
`stage_for_reassembly`, each a function on `ErtmController`.  The receiver's `pass_to_tx`
runs the transmitter's `recv_req_seq_and_f_bit`, so a received frame acknowledges before the
receiver acts on its payload.

`step` is the controller as its environment drives it: an SDU from the upper layer, a frame
from the link, an alarm that fires, the reactor moving an SDU out of the enqueue buffer, or
the scheduler taking a frame.
-/

namespace Bluetooth.L2cap.Ertm

open Packet

namespace ErtmController

variable (controller : ErtmController)

/-- `data_request`: send at once when the window is open, otherwise queue. -/
def dataRequest (sar : SegmentationAndReassembly) (pdu : List UInt8) (sduSize : UInt16) :
    ErtmController :=
  if controller.txState = .xmit && !controller.remoteBusy && controller.remWindowNotFull then
    controller.sendData sar sduSize pdu .notSet
  else if controller.txState = .xmit && (controller.remoteBusy || controller.remWindowFull) then
    controller.pendData sar sduSize pdu
  else if controller.txState = .waitF then
    controller.pendData sar sduSize pdu
  else
    controller

/-- `local_busy_detected`. -/
def localBusyDetected : ErtmController := { controller with localBusy := true }

/-- `local_busy_clear`. -/
def localBusyClear : ErtmController :=
  if controller.txState = .xmit && controller.rnrSent then
    { { controller with localBusy := false, rnrSent := false }.sendRrPoll .poll with
        retryCount := 1, retransTimer := false, monitorTimer := true }
  else if controller.txState = .xmit then
    { controller with localBusy := false, rnrSent := false }
  else
    controller

/-- `recv_req_seq_and_f_bit`, the transmitter's half of every received frame. -/
def recvReqSeqAndFBit (reqSeq : UInt8) (f : Final) : ErtmController :=
  if controller.txState = .xmit then
    controller.processReqSeq reqSeq
  else if f = .pollResponse then
    let acknowledged := (controller.processReqSeq reqSeq).stopMonitorTimer
    let timed := if 0 < acknowledged.unackedFrames then acknowledged.startRetransTimer
      else acknowledged
    { timed with txState := .xmit }
  else
    controller.processReqSeq reqSeq

/-- `recv_f_bit`. -/
def recvFBit (f : Final) : ErtmController :=
  if controller.txState = .waitF && f = .pollResponse then
    let stopped := controller.stopMonitorTimer
    let timed := if 0 < stopped.unackedFrames then stopped.startRetransTimer else stopped
    { timed with txState := .xmit }
  else
    controller

/-- `retrans_timer_expires`, run by the alarm once it fires. -/
def retransTimerExpires : ErtmController :=
  if controller.txState = .xmit then
    { controller.sendRrOrRnr .poll .notSet with
      retryCount := 1, monitorTimer := true, txState := .waitF }
  else
    controller

/-- `monitor_timer_expires`. -/
def monitorTimerExpires : ErtmController :=
  if controller.txState = .waitF && controller.retryCountLessThanMaxTransmit then
    { { controller with retryCount := controller.retryCount + 1 }.sendRrOrRnr .poll .notSet with
      monitorTimer := true }
  else if controller.txState = .waitF then
    controller.closeChannel
  else
    controller

/-- `EnqueueBuffer::Enqueue` followed by the busy check of `stage_for_reassembly`: at
`kEnqueueBufferBusyThreshold = 3` buffered SDUs the receiver turns locally busy and asks to be
told when the buffer empties, which `NotifyOnEmpty` allows only once at a time. -/
def enqueueUpward (sdu : List UInt8) : ErtmController :=
  let queued := { controller with
    enqueueBuffer := controller.enqueueBuffer ++ [sdu]
    delivered := controller.delivered ++ [sdu] }
  if queued.enqueueBuffer.length = 3 then
    let busy := queued.localBusyDetected
    if busy.callbackOnEmpty then { busy with faulted := true }
    else { busy with callbackOnEmpty := true }
  else
    queued

/-- `stage_for_reassembly`. -/
def stageForReassembly (sar : SegmentationAndReassembly) (sduSize : UInt16)
    (payload : List UInt8) : ErtmController :=
  match sar with
  | .unsegmented =>
      if controller.sarState ≠ .«end» then controller.closeChannel
      else controller.enqueueUpward payload
  | .start =>
      if controller.sarState ≠ .«end» then controller.closeChannel
      else
        { controller with
          sarState := .start
          reassemblyStage := payload
          remainingSduContinuationPacketSize := sduSize - UInt16.ofNat payload.length }
  | .continuation =>
      if controller.sarState = .«end» then controller.closeChannel
      else
        { controller with
          reassemblyStage := controller.reassemblyStage ++ payload
          remainingSduContinuationPacketSize :=
            controller.remainingSduContinuationPacketSize - UInt16.ofNat payload.length }
  | .«end» =>
      if controller.sarState = .«end» then controller.closeChannel
      else
        let remaining :=
          controller.remainingSduContinuationPacketSize - UInt16.ofNat payload.length
        if remaining ≠ 0 then
          { controller with
            sarState := .«end»
            reassemblyStage := []
            remainingSduContinuationPacketSize := 0 }.closeChannel
        else
          { controller with
            sarState := .«end»
            reassemblyStage := controller.reassemblyStage ++ payload
            remainingSduContinuationPacketSize := 0 }.enqueueUpward
            (controller.reassemblyStage ++ payload)

/-- `data_indication`. -/
def dataIndication (sar : SegmentationAndReassembly) (sduSize : UInt16) (segment : List UInt8) :
    ErtmController :=
  let staged := controller.stageForReassembly sar sduSize segment
  { staged with bufferSeq := UInt8.ofNat ((staged.bufferSeq.toNat + 1) % kMaxTxWin) }

/-- `increment_expected_tx_seq`. -/
def incrementExpectedTxSeq : ErtmController :=
  { controller with
    expectedTxSeq := UInt8.ofNat ((controller.expectedTxSeq.toNat + 1) % kMaxTxWin) }

/-- The common tail of an in-sequence I-frame with the F-bit set: retransmit and send unless
a REJ has already been actioned. -/
def afterPollResponse (reqSeq : UInt8) : ErtmController :=
  if !controller.rejActioned then
    (controller.retransmitIFrames reqSeq .notSet).sendPendingIFrames .notSet
  else
    { controller with rejActioned := false }

/-- `recv_i_frame`. -/
def recvIFrame (f : Final) (txSeq reqSeq : UInt8) (sar : SegmentationAndReassembly)
    (sduSize : UInt16) (payload : List UInt8) : ErtmController :=
  match controller.rxState with
  | .recv =>
      if f = .notSet && controller.withExpectedTxSeq txSeq && controller.withValidReqSeq reqSeq &&
          controller.withValidFBit f && !controller.localBusy then
        ((controller.incrementExpectedTxSeq.recvReqSeqAndFBit reqSeq f).dataIndication sar
          sduSize payload).sendAck .notSet
      else if f = .pollResponse && controller.withExpectedTxSeq txSeq &&
          controller.withValidReqSeq reqSeq && controller.withValidFBit f &&
          !controller.localBusy then
        (((controller.incrementExpectedTxSeq.recvReqSeqAndFBit reqSeq f).dataIndication sar
          sduSize payload).afterPollResponse reqSeq).sendAck .notSet
      else if controller.withDuplicateTxSeq txSeq && controller.withValidReqSeq reqSeq &&
          controller.withValidFBit f && !controller.localBusy then
        controller.recvReqSeqAndFBit reqSeq f
      else if controller.withUnexpectedTxSeq txSeq && controller.withValidReqSeq reqSeq &&
          controller.withValidFBit f && !controller.localBusy then
        { (controller.recvReqSeqAndFBit reqSeq f).sendRej .notSet .notSet with
          rxState := .rejSent }
      else if controller.withExpectedTxSeq txSeq && controller.withValidReqSeq reqSeq &&
          controller.withValidFBit f && controller.localBusy then
        controller.recvReqSeqAndFBit reqSeq f
      else if controller.withValidReqSeq reqSeq && controller.notWithExpectedTxSeq txSeq &&
          controller.withValidFBit f && controller.localBusy then
        controller.recvReqSeqAndFBit reqSeq f
      else if (controller.withInvalidTxSeq txSeq && kMaxTxWin / 2 < controller.localTxWindow.toNat) ||
          controller.withInvalidReqSeq reqSeq then
        controller.closeChannel
      else
        controller
  | .rejSent =>
      if f = .notSet && controller.withExpectedTxSeq txSeq && controller.withValidReqSeq reqSeq &&
          controller.withValidFBit f then
        { ((controller.incrementExpectedTxSeq.recvReqSeqAndFBit reqSeq f).dataIndication sar
            sduSize payload).sendAck .notSet with rxState := .recv }
      else if f = .pollResponse && controller.withExpectedTxSeq txSeq &&
          controller.withValidReqSeq reqSeq && controller.withValidFBit f then
        { (((controller.incrementExpectedTxSeq.recvReqSeqAndFBit reqSeq f).dataIndication sar
            sduSize payload).afterPollResponse reqSeq).sendAck .notSet with rxState := .recv }
      else if controller.withUnexpectedTxSeq txSeq && controller.withValidReqSeq reqSeq &&
          controller.withValidFBit f then
        controller.recvReqSeqAndFBit reqSeq f
      else
        controller
  | .srejSent => controller

/-- The common part of an RR, REJ or SREJ that carries the F-bit: retransmit unless a REJ
was already actioned, then send pending frames. -/
def retransmitOnFinal (reqSeq : UInt8) (p : Poll) : ErtmController :=
  let retransmitted :=
    if !controller.rejActioned then controller.retransmitIFrames reqSeq p
    else { controller with rejActioned := false }
  retransmitted.sendPendingIFrames .notSet

/-- Restart the retransmission alarm if the remote was busy with frames outstanding, then
mark the remote ready. -/
def remoteReady : ErtmController :=
  let timed := if controller.remoteBusy && 0 < controller.unackedFrames then
    controller.startRetransTimer else controller
  { timed with remoteBusy := false }

/-- `recv_rr`. -/
def recvRr (reqSeq : UInt8) (p : Poll) (f : Final) : ErtmController :=
  match controller.rxState with
  | .recv =>
      if p = .notSet && f = .notSet && controller.withValidReqSeq reqSeq &&
          controller.withValidFBit f then
        ((controller.recvReqSeqAndFBit reqSeq f).remoteReady).sendPendingIFrames .notSet
      else if f = .pollResponse && controller.withValidReqSeq reqSeq &&
          controller.withValidFBit f then
        ({ controller with remoteBusy := false }.recvReqSeqAndFBit reqSeq f).retransmitOnFinal
          reqSeq p
      else if p = .poll && controller.withValidReqSeq reqSeq && controller.withValidFBit f then
        (controller.recvReqSeqAndFBit reqSeq f).sendIOrRrOrRnr .pollResponse
      else if controller.withInvalidReqSeq reqSeq then
        controller.closeChannel
      else
        controller
  | .rejSent =>
      if f = .pollResponse && controller.withValidReqSeq reqSeq &&
          controller.withValidFBit f then
        ({ controller with remoteBusy := false }.recvReqSeqAndFBit reqSeq f).retransmitOnFinal
          reqSeq p
      else if p = .notSet && f = .notSet && controller.withValidReqSeq reqSeq &&
          controller.withValidFBit f then
        ((controller.recvReqSeqAndFBit reqSeq f).remoteReady).sendAck .notSet
      else if p = .poll && controller.withValidReqSeq reqSeq && controller.withValidFBit f then
        ((controller.recvReqSeqAndFBit reqSeq f).remoteReady).sendRrFinal .pollResponse
      else if controller.withInvalidReqSeq reqSeq then
        controller.closeChannel
      else
        controller
  | .srejSent => controller

/-- The REJ actions shared by both receiver states. -/
def recvRejActions (reqSeq : UInt8) (p : Poll) (f : Final) : ErtmController :=
  if f = .notSet && controller.withValidReqSeq reqSeq &&
      controller.retryIFramesLessThanMaxTransmit reqSeq && controller.withValidFBit f then
    let sent := (({ controller with remoteBusy := false }.recvReqSeqAndFBit reqSeq f).retransmitIFrames
      reqSeq p).sendPendingIFrames .notSet
    if sent.pBitOutstanding then { sent with rejActioned := true } else sent
  else if f = .pollResponse && controller.withValidReqSeq reqSeq &&
      controller.retryIFramesLessThanMaxTransmit reqSeq && controller.withValidFBit f then
    ({ controller with remoteBusy := false }.recvReqSeqAndFBit reqSeq f).retransmitOnFinal reqSeq p
  else if controller.withValidReqSeq reqSeq &&
      !controller.retryIFramesLessThanMaxTransmit reqSeq then
    controller.closeChannel
  else if controller.withInvalidReqSeq reqSeq then
    controller.closeChannel
  else
    controller

/-- `recv_rej`: both receiver states run the same actions. -/
def recvRej (reqSeq : UInt8) (p : Poll) (f : Final) : ErtmController :=
  match controller.rxState with
  | .recv => controller.recvRejActions reqSeq p f
  | .rejSent => controller.recvRejActions reqSeq p f
  | .srejSent => controller

/-- `recv_rnr`. -/
def recvRnr (reqSeq : UInt8) (p : Poll) (f : Final) : ErtmController :=
  match controller.rxState with
  | .recv =>
      if p = .notSet && controller.withValidReqSeq reqSeq && controller.withValidFBit f then
        ({ controller with remoteBusy := true }.recvReqSeqAndFBit reqSeq f).stopRetransTimer
      else if p = .poll && controller.withValidReqSeq reqSeq && controller.withValidFBit f then
        (({ controller with remoteBusy := true }.recvReqSeqAndFBit reqSeq f).stopRetransTimer).sendRrOrRnr
          .notSet .pollResponse
      else if controller.withInvalidReqSeq reqSeq then
        controller.closeChannel
      else
        controller
  | .rejSent =>
      if p = .notSet && controller.withValidReqSeq reqSeq && controller.withValidFBit f then
        ({ controller with remoteBusy := true }.recvReqSeqAndFBit reqSeq f).sendRrFinal
          .pollResponse
      else if p = .poll && controller.withValidReqSeq reqSeq && controller.withValidFBit f then
        ({ controller with remoteBusy := true }.recvReqSeqAndFBit reqSeq f).sendRrFinal .notSet
      else if controller.withInvalidReqSeq reqSeq then
        controller.closeChannel
      else
        controller
  | .srejSent => controller

/-- Record a selective reject to be ignored at the poll response, while a P-bit is out. -/
def saveSrej (reqSeq : UInt8) : ErtmController :=
  if controller.pBitOutstanding then
    { controller with srejActioned := true, srejSaveReqSeq := reqSeq.toUInt16 }
  else controller

/-- The SREJ actions shared by both receiver states. -/
def recvSrejActions (reqSeq : UInt8) (p : Poll) (f : Final) : ErtmController :=
  if p = .notSet && f = .notSet && controller.withValidReqSeq reqSeq &&
      controller.retryIFramesLessThanMaxTransmit reqSeq && controller.withValidFBit f then
    (({ controller with remoteBusy := false }.recvFBit f).retransmitRequestedIFrame reqSeq p).saveSrej
      reqSeq
  else if f = .pollResponse && controller.withValidReqSeq reqSeq &&
      controller.retryIFramesLessThanMaxTransmit reqSeq && controller.withValidFBit f then
    let ready := { controller with remoteBusy := false }.recvFBit f
    if ready.srejActioned && ready.srejSaveReqSeq = reqSeq.toUInt16 then
      { ready with srejActioned := false }
    else
      ready.retransmitRequestedIFrame reqSeq p
  else if p = .poll && controller.withValidReqSeq reqSeq &&
      controller.retryIFramesLessThanMaxTransmit reqSeq && controller.withValidFBit f then
    ((({ controller with remoteBusy := false }.recvReqSeqAndFBit reqSeq f).retransmitRequestedIFrame
      reqSeq p).sendPendingIFrames .notSet).saveSrej reqSeq
  else if controller.withValidReqSeq reqSeq &&
      !controller.retryIFramesLessThanMaxTransmit reqSeq then
    controller.closeChannel
  else if controller.withInvalidReqSeq reqSeq then
    controller.closeChannel
  else
    controller

/-- `recv_srej`: both receiver states run the same actions. -/
def recvSrej (reqSeq : UInt8) (p : Poll) (f : Final) : ErtmController :=
  match controller.rxState with
  | .recv => controller.recvSrejActions reqSeq p f
  | .rejSent => controller.recvSrejActions reqSeq p f
  | .srejSent => controller

/-- The payload size `OnSdu` cuts SDUs to: the MPS less the basic header, the SDU length
field, the enhanced control field and the FCS. -/
def sizeEachPacket : Nat :=
  sizeT ((controller.remoteMps.toNat : Int) - 4 - 2 - 2 - (if controller.fcsEnabled then 2 else 0))

/-- `OnSdu`: segment, then one `data_request` per segment.  An empty SDU yields no segment,
and reading `segments[0]` is then undefined. -/
def onSdu (sdu : List UInt8) : ErtmController :=
  match fragment controller.sizeEachPacket sdu with
  | [] => { controller with faulted := true }
  | [only] => controller.dataRequest .unsegmented only 0
  | first :: rest =>
      let started := controller.dataRequest .start first (UInt16.ofNat sdu.length)
      let middle := rest.dropLast.foldl (fun current segment =>
        current.dataRequest .continuation segment 0) started
      middle.dataRequest .«end» (rest.getLast?.getD []) 0

/-- A 6-bit sequence field as the frame view reads it. -/
def sixBits (value : UInt8) : UInt8 := UInt8.ofNat (value.toNat % 64)

/-- `OnPdu` on a frame that passed the view's validity checks. -/
def onPdu : ErtmFrame → ErtmController
  | .information txSeq f reqSeq sar sduSize payload =>
      controller.recvIFrame f (sixBits txSeq) (sixBits reqSeq) sar
        (if sar = .start then sduSize else 0) payload
  | .supervisory .receiverReady p f reqSeq => controller.recvRr (sixBits reqSeq) p f
  | .supervisory .receiverNotReady p f reqSeq => controller.recvRnr (sixBits reqSeq) p f
  | .supervisory .reject p f reqSeq => controller.recvRej (sixBits reqSeq) p f
  | .supervisory .selectReject p f reqSeq => controller.recvSrej (sixBits reqSeq) p f

/-- `EnqueueBuffer::enqueue_callback`, run by the reactor: one SDU moves to the channel
queue, and emptying the buffer runs the `NotifyOnEmpty` callback, `local_busy_clear`. -/
def drainEnqueueBuffer : ErtmController :=
  match controller.enqueueBuffer with
  | [] => controller
  | _ :: rest =>
      let drained := { controller with enqueueBuffer := rest }
      if rest.isEmpty && drained.callbackOnEmpty then
        { drained with callbackOnEmpty := false }.localBusyClear
      else
        drained

end ErtmController

/-- What the environment of one controller can do. -/
inductive ErtmEvent where
  /-- The upper layer sends an SDU. -/
  | onSdu (sdu : List UInt8)
  /-- A frame arrives from the link. -/
  | onPdu (frame : ErtmFrame)
  /-- The retransmission alarm fires. -/
  | retransTimerExpires
  /-- The monitor alarm fires. -/
  | monitorTimerExpires
  /-- The reactor moves the oldest buffered SDU to the channel queue. -/
  | drainEnqueueBuffer
  /-- The scheduler takes the oldest queued frame (`GetNextPacket`). -/
  | getNextPacket
  deriving DecidableEq, Repr

namespace ErtmController

/-- One event, or `none` when the environment cannot produce it in this state. -/
def step (controller : ErtmController) : ErtmEvent → Option ErtmController
  | .onSdu sdu => if controller.faulted then none else some (controller.onSdu sdu)
  | .onPdu frame => if controller.faulted then none else some (controller.onPdu frame)
  | .retransTimerExpires =>
      if controller.faulted || !controller.retransTimer then none
      else some { controller with retransTimer := false }.retransTimerExpires
  | .monitorTimerExpires =>
      if controller.faulted || !controller.monitorTimer then none
      else some { controller with monitorTimer := false }.monitorTimerExpires
  | .drainEnqueueBuffer =>
      if controller.faulted || controller.enqueueBuffer.isEmpty then none
      else some controller.drainEnqueueBuffer
  | .getNextPacket =>
      match controller.pduQueue with
      | [] => none
      | _ :: rest => if controller.faulted then none else some { controller with pduQueue := rest }

end ErtmController

end Bluetooth.L2cap.Ertm

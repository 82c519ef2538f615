import Bluetooth.Lib.Loop
import Bluetooth.Packet.Fragmenting

set_option linter.all false

/-!
# AVDTP signalling messages: fragmentation and reassembly

`avdt_msg_send` sends the current signalling message of a CCB: as one SINGLE packet when it fits
in the peer's MTU, and otherwise as a START packet, CONTINUE packets and an END packet.  The loop
keeps its place in the message buffer itself: the offset moves past each fragment sent, and an
offset beyond `AVDT_MSG_OFFSET` marks a message being fragmented.  Congestion ends the loop, and a
later call with no new message carries on from that place.

`avdt_msg_asmbl` rebuilds a message from the peer's packets.  A START packet is copied to a
`BT_DEFAULT_BUFFER_SIZE` buffer with its NOSP octet overwritten by the header octet, so that the
message reads header, signal id, parameters as a SINGLE packet does; CONTINUE and END packets
append their payload, and the END packet hands the message up.  `avct_lcb_msg_asmbl` is the same
code with AVCTP's header lengths, so the reassembly here takes the table of header lengths as a
parameter.

A packet is modelled by its octets and a received buffer by its offset and octets.  The timers
that `avdt_msg_send` starts once a command is sent are not modelled.
-/

namespace Bluetooth.Avdt

open Packet

/-- `L2CAP_MIN_OFFSET`. -/
def l2capMinOffset : Nat := 13

/-- `BT_DEFAULT_BUFFER_SIZE`. -/
def btDefaultBufferSize : Nat := 4096 + 16

/-- `sizeof(BT_HDR)`: four `uint16_t` fields before the data. -/
def btHdrSize : Nat := 8

/-- `AVDT_NUM_SEPS`. -/
def avdtNumSeps : Nat := 12

/-- `AVDT_PKT_TYPE_SINGLE`. -/
def avdtPktTypeSingle : UInt8 := 0

/-- `AVDT_PKT_TYPE_START`. -/
def avdtPktTypeStart : UInt8 := 1

/-- `AVDT_PKT_TYPE_CONT`. -/
def avdtPktTypeCont : UInt8 := 2

/-- `AVDT_PKT_TYPE_END`. -/
def avdtPktTypeEnd : UInt8 := 3

/-- `AVDT_LEN_TYPE_SINGLE`: header octet and signal id. -/
def avdtLenTypeSingle : Nat := 2

/-- `AVDT_LEN_TYPE_START`: header octet, NOSP and signal id. -/
def avdtLenTypeStart : Nat := 3

/-- `AVDT_LEN_TYPE_CONT`. -/
def avdtLenTypeCont : Nat := 1

/-- `AVDT_LEN_TYPE_END`. -/
def avdtLenTypeEnd : Nat := 1

/-- `AVDT_MSG_OFFSET`: where a message starts in its buffer before it is fragmented. -/
def avdtMsgOffset : Nat := l2capMinOffset + avdtNumSeps + avdtLenTypeStart

/-- `avdt_msg_pkt_type_len`, indexed by the two packet-type bits. -/
def avdtMsgPktTypeLen (pktType : UInt8) : Nat :=
  [avdtLenTypeSingle, avdtLenTypeStart, avdtLenTypeCont, avdtLenTypeEnd].getD pktType.toNat 0

/-- `AVDT_MSG_BLD_HDR`: label, packet type and message type in one octet. -/
def avdtMsgBldHdr (label pktType msg : UInt8) : UInt8 := (label <<< 4) ||| (pktType <<< 2) ||| msg

/-- `AVDT_MSG_PRS_PKT_TYPE`. -/
def avdtMsgPrsPktType (header : UInt8) : UInt8 := (header >>> 2) &&& 3

/-- `AVDT_LAYERSPEC_LABEL`. -/
def avdtLayerspecLabel (layerSpecific : UInt16) : UInt8 := (layerSpecific >>> 4).toUInt8

/-- `AVDT_LAYERSPEC_MSG`. -/
def avdtLayerspecMsg (layerSpecific : UInt16) : UInt8 := (layerSpecific &&& 0x000F).toUInt8

/-! ## Sending -/

/-- A signalling message in its `BT_HDR`: `data` is the `len` octets from `offset` on, the label
and message type are in `layer_specific`, and the signal id is in `event`. -/
structure SigMsg where
  /-- `offset`. -/
  offset : Nat
  /-- The `len` octets at `offset`. -/
  data : List UInt8
  /-- `layer_specific`. -/
  layerSpecific : UInt16
  /-- `event`. -/
  event : UInt16
  deriving DecidableEq, Repr

/-- The part of `AvdtpCcb` that `avdt_msg_send` reads and writes. -/
structure AvdtpCcb where
  /-- `cong`. -/
  cong : Bool
  /-- `p_curr_msg`. -/
  pCurrMsg : Option SigMsg
  deriving DecidableEq, Repr

/-- The header octet of a packet of `msg`. -/
def SigMsg.header (msg : SigMsg) (pktType : UInt8) : UInt8 :=
  avdtMsgBldHdr (avdtLayerspecLabel msg.layerSpecific) pktType (avdtLayerspecMsg msg.layerSpecific)

/-- `(uint8_t)p_curr_msg->event`, the signal id. -/
def SigMsg.sig (msg : SigMsg) : UInt8 := msg.event.toUInt8

/-- The NOSP that `avdt_msg_send` writes into the START packet of a `len`-octet message. -/
def avdtNosp (peerMtu len : Nat) : UInt8 :=
  UInt8.ofNat ((len + avdtLenTypeStart - peerMtu) / (peerMtu - 1) + 2)

/-- The packet type `avdt_msg_send` picks for the current message. -/
def sendPktType (peerMtu : Nat) (msg : SigMsg) : UInt8 :=
  if msg.offset = avdtMsgOffset ∧ msg.data.length ≤ peerMtu - avdtLenTypeSingle then
    avdtPktTypeSingle
  else if msg.offset = avdtMsgOffset ∧ peerMtu - avdtLenTypeSingle < msg.data.length then
    avdtPktTypeStart
  else if avdtMsgOffset < msg.offset ∧ peerMtu - avdtLenTypeCont < msg.data.length then
    avdtPktTypeCont
  else avdtPktTypeEnd

/-- `p_buf->len`: a START or CONTINUE packet gets a new buffer filled to the MTU, a SINGLE or END
packet is the message's own buffer. -/
def sendBufLen (peerMtu : Nat) (msg : SigMsg) (pktType : UInt8) : Nat :=
  if pktType = avdtPktTypeStart ∨ pktType = avdtPktTypeCont then
    peerMtu - avdtMsgPktTypeLen pktType
  else msg.data.length

/-- The header `avdt_msg_send` builds: NOSP after the header octet of a START packet, then the
signal id in SINGLE and START packets. -/
def sendHeader (peerMtu : Nat) (msg : SigMsg) (pktType : UInt8) : List UInt8 :=
  msg.header pktType ::
    ((if pktType = avdtPktTypeStart then [avdtNosp peerMtu msg.data.length] else []) ++
      (if pktType = avdtPktTypeStart ∨ pktType = avdtPktTypeSingle then [msg.sig] else []))

/-- One pass of the loop of `avdt_msg_send` with `curr_msg_len = currMsgLen`: the packet written,
the new `curr_msg_len`, and the current message after it, `none` once all of it is sent. -/
def sendOne (peerMtu currMsgLen : Nat) (msg : SigMsg) : List UInt8 × Nat × Option SigMsg :=
  let pktType := sendPktType peerMtu msg
  let bufLen := sendBufLen peerMtu msg pktType
  (sendHeader peerMtu msg pktType ++ msg.data.take bufLen, currMsgLen - bufLen,
    if currMsgLen - bufLen = 0 then none
    else some { msg with offset := msg.offset + bufLen, data := msg.data.drop bufLen })

/-- The CCB and the locals of the loop of `avdt_msg_send`, with the packets written so far. -/
structure SendLoop where
  /-- The CCB. -/
  ccb : AvdtpCcb
  /-- `curr_msg_len`. -/
  currMsgLen : Nat
  /-- How many packets this call has written. -/
  writes : Nat
  /-- The packets passed to `avdt_ad_write_req`, in order. -/
  sent : List (List UInt8)

/-- The loop of `avdt_msg_send`.  `congests i` is whether the channel reports congestion while
the `i`-th packet of the call is written, which sets `cong`. -/
def sendLoopBody (peerMtu : Nat) (congests : Nat → Bool) (loop : SendLoop) :
    SendLoop ⊕ AvdtpCcb × List (List UInt8) :=
  match loop.ccb.cong, loop.ccb.pCurrMsg with
  | false, some msg =>
    .inl ⟨⟨congests loop.writes, (sendOne peerMtu loop.currMsgLen msg).2.2⟩,
      (sendOne peerMtu loop.currMsgLen msg).2.1, loop.writes + 1,
      loop.sent ++ [(sendOne peerMtu loop.currMsgLen msg).1]⟩
  | _, _ => .inr (loop.ccb, loop.sent)

/-- `p_curr_msg->len`; the code reads it with no check, and no message reads as `0` here. -/
def currLen (pCurrMsg : Option SigMsg) : Nat := (pCurrMsg.map fun msg => msg.data.length).getD 0

/-- The CCB as `avdt_msg_send` starts: a new message `p_msg` becomes the current one. -/
def AvdtpCcb.withMsg (ccb : AvdtpCcb) : Option SigMsg → AvdtpCcb
  | some msg => { ccb with pCurrMsg := some msg }
  | none => ccb

/-- `avdt_msg_send(p_ccb, p_msg)`, run for at most `fuel` packets: the CCB after it and the
packets it wrote. -/
def avdtMsgSend (peerMtu : Nat) (congests : Nat → Bool) (fuel : Nat) (ccb : AvdtpCcb)
    (pMsg : Option SigMsg) : Option (AvdtpCcb × List (List UInt8)) :=
  Loop.run (sendLoopBody peerMtu congests) fuel
    ⟨ccb.withMsg pMsg, currLen (ccb.withMsg pMsg).pCurrMsg, 0, []⟩

/-! ## Receiving -/

/-- A received buffer: its offset and its `len` octets. -/
structure RxBuf where
  /-- `offset`. -/
  offset : Nat
  /-- The `len` octets at `offset`. -/
  data : List UInt8
  deriving DecidableEq, Repr

/-- `p_rx_msg` while a message is reassembled: `offset` is where the next fragment goes and `data`
the `len` octets of message before it. -/
structure RxMsg where
  /-- `offset`. -/
  offset : Nat
  /-- The `len` octets that end at `offset`. -/
  data : List UInt8
  deriving DecidableEq, Repr

/-- `avdt_msg_asmbl` with the header lengths `pktTypeLen`: the reassembly state after `pBuf`, and
the message it returns. -/
def msgAsmbl (pktTypeLen : UInt8 → Nat) (pRxMsg : Option RxMsg) (pBuf : RxBuf) :
    Option RxMsg × Option RxBuf :=
  match pBuf.data with
  | [] => (pRxMsg, none)
  | header :: rest =>
    if pBuf.data.length < pktTypeLen (avdtMsgPrsPktType header) then (pRxMsg, none)
    else if avdtMsgPrsPktType header = avdtPktTypeSingle then (none, some pBuf)
    else if avdtMsgPrsPktType header = avdtPktTypeStart then
      if btDefaultBufferSize < btHdrSize + pBuf.offset + pBuf.data.length then (none, none)
      -- the header octet is copied over NOSP, and the message starts there
      else (some ⟨pBuf.offset + pBuf.data.length, header :: rest.drop 1⟩, none)
    else
      match pRxMsg with
      | none => (none, none)
      | some rxMsg =>
        if btDefaultBufferSize - btHdrSize < rxMsg.offset + rest.length then (none, none)
        else if avdtMsgPrsPktType header = avdtPktTypeEnd then
          (none, some ⟨rxMsg.offset - rxMsg.data.length, rxMsg.data ++ rest⟩)
        else (some ⟨rxMsg.offset + rest.length, rxMsg.data ++ rest⟩, none)

/-- `avdt_msg_asmbl`. -/
def avdtMsgAsmbl (pRxMsg : Option RxMsg) (pBuf : RxBuf) : Option RxMsg × Option RxBuf :=
  msgAsmbl avdtMsgPktTypeLen pRxMsg pBuf

theorem avdtMsgAsmbl_eq : avdtMsgAsmbl = msgAsmbl avdtMsgPktTypeLen := rfl

/-- A reassembly function called on each of `bufs` in turn: the last state, and what each call
returned. -/
def asmblAll (asmbl : Option RxMsg → RxBuf → Option RxMsg × Option RxBuf) :
    Option RxMsg → List RxBuf → Option RxMsg × List (Option RxBuf)
  | pRxMsg, [] => (pRxMsg, [])
  | pRxMsg, buf :: bufs =>
    ((asmblAll asmbl (asmbl pRxMsg buf).1 bufs).1,
      (asmbl pRxMsg buf).2 :: (asmblAll asmbl (asmbl pRxMsg buf).1 bufs).2)

/-! ## The packets of a message -/

/-- CONTINUE packets for every chunk but the last, and an END packet for the last. -/
def contEndPackets (cont last : UInt8) : List (List UInt8) → List (List UInt8)
  | [] => []
  | [chunk] => [last :: chunk]
  | chunk :: next :: chunks => (cont :: chunk) :: contEndPackets cont last (next :: chunks)

/-- The packets that carry what is left of a message, framed as AVDTP frames a signalling
message: one SINGLE packet when it fits in the MTU, or else a START packet with the first
`peerMtu - 3` octets, then CONTINUE packets of `peerMtu - 1` octets, the last of them an END
packet.  A message being fragmented has only CONTINUE and END packets left.  The START packet
carries the NOSP that `avdt_msg_send` computes. -/
def pendingPackets (peerMtu : Nat) (msg : SigMsg) : List (List UInt8) :=
  if msg.offset = avdtMsgOffset then
    if msg.data.length ≤ peerMtu - avdtLenTypeSingle then
      [msg.header avdtPktTypeSingle :: msg.sig :: msg.data]
    else
      (msg.header avdtPktTypeStart :: avdtNosp peerMtu msg.data.length :: msg.sig ::
          msg.data.take (peerMtu - avdtLenTypeStart)) ::
        contEndPackets (msg.header avdtPktTypeCont) (msg.header avdtPktTypeEnd)
          (fragment (peerMtu - avdtLenTypeCont) (msg.data.drop (peerMtu - avdtLenTypeStart)))
  else
    contEndPackets (msg.header avdtPktTypeCont) (msg.header avdtPktTypeEnd)
      (fragment (peerMtu - avdtLenTypeCont) msg.data)

/-- The packets still to send for the current message; none without one. -/
def pendingOf (peerMtu : Nat) : Option SigMsg → List (List UInt8)
  | none => []
  | some msg => pendingPackets peerMtu msg

/-- A current message as `avdt_msg_send` leaves it: at `AVDT_MSG_OFFSET` until its first packet
is sent, and past it with octets left while it is fragmented. -/
def Sendable (msg : SigMsg) : Prop :=
  msg.offset = avdtMsgOffset ∨ (avdtMsgOffset < msg.offset ∧ msg.data ≠ [])

/-! ## CONTINUE and END packets -/

section ContEnd

variable {cont last : UInt8} {size : Nat}

theorem contEndPackets_cons (cont last : UInt8) (chunk : List UInt8) {chunks : List (List UInt8)}
    (more : chunks ≠ []) :
    contEndPackets cont last (chunk :: chunks) = (cont :: chunk) :: contEndPackets cont last chunks := by
  obtain ⟨next, chunks, rfl⟩ := List.exists_cons_of_ne_nil more
  rfl

@[simp] theorem length_contEndPackets (cont last : UInt8) (chunks : List (List UInt8)) :
    (contEndPackets cont last chunks).length = chunks.length := by
  fun_induction contEndPackets cont last chunks <;> simp [*]

theorem exists_of_mem_contEndPackets {cont last : UInt8} {chunks : List (List UInt8)}
    {packet : List UInt8} (member : packet ∈ contEndPackets cont last chunks) :
    ∃ header chunk, chunk ∈ chunks ∧ packet = header :: chunk := by
  fun_induction contEndPackets cont last chunks with
  | case1 => cases member
  | case2 chunk =>
    obtain rfl := List.mem_singleton.mp member
    exact ⟨last, chunk, by simp, rfl⟩
  | case3 chunk next chunks induction =>
    rcases List.mem_cons.mp member with rfl | later
    · exact ⟨cont, chunk, by simp, rfl⟩
    · obtain ⟨header, piece, inside, rfl⟩ := induction later
      exact ⟨header, piece, List.mem_cons_of_mem _ inside, rfl⟩

/-- A remainder longer than a chunk is a CONTINUE packet ahead of the packets of the rest. -/
theorem contEndPackets_fragment_of_long (positive : 0 < size) {data : List UInt8}
    (long : size < data.length) :
    contEndPackets cont last (fragment size data) =
      (cont :: data.take size) :: contEndPackets cont last (fragment size (data.drop size)) := by
  have rest : data.drop size ≠ [] := by
    simpa [← List.length_pos_iff] using long
  rw [fragment_eq_cons positive (List.ne_nil_of_length_pos (by omega)),
    contEndPackets_cons _ _ _ (fragment_ne_nil positive rest)]

/-- A remainder that fits in a chunk is the END packet. -/
theorem contEndPackets_fragment_of_short (positive : 0 < size) {data : List UInt8}
    (nonempty : data ≠ []) (short : data.length ≤ size) :
    contEndPackets cont last (fragment size data) = [last :: data] := by
  rw [fragment_eq_cons positive nonempty, List.take_of_length_le short,
    List.drop_of_length_le short, fragment_nil]
  rfl

/-- Every CONTINUE and END packet is a header octet and at most a chunk. -/
theorem length_le_of_mem_contEndPackets_fragment (positive : 0 < size) {data packet : List UInt8}
    (member : packet ∈ contEndPackets cont last (fragment size data)) :
    packet.length ≤ size + 1 := by
  obtain ⟨header, chunk, inside, rfl⟩ := exists_of_mem_contEndPackets member
  have short := (length_mem_fragment positive data chunk inside).2
  simp only [List.length_cons]
  omega

end ContEnd

/-! ## One packet -/

section Send

variable {peerMtu : Nat} {msg : SigMsg}

theorem sendOne_single (initial : msg.offset = avdtMsgOffset)
    (fits : msg.data.length ≤ peerMtu - avdtLenTypeSingle) :
    sendOne peerMtu msg.data.length msg =
      (msg.header avdtPktTypeSingle :: msg.sig :: msg.data, 0, none) := by
  have single : sendPktType peerMtu msg = avdtPktTypeSingle := by
    simp [sendPktType, initial, fits]
  simp [sendOne, single, sendBufLen, sendHeader, avdtPktTypeSingle, avdtPktTypeStart,
    avdtPktTypeCont]

theorem sendOne_start (initial : msg.offset = avdtMsgOffset)
    (long : peerMtu - avdtLenTypeSingle < msg.data.length) :
    sendOne peerMtu msg.data.length msg =
      (msg.header avdtPktTypeStart :: avdtNosp peerMtu msg.data.length :: msg.sig ::
          msg.data.take (peerMtu - avdtLenTypeStart),
        msg.data.length - (peerMtu - avdtLenTypeStart),
        some { msg with
          offset := msg.offset + (peerMtu - avdtLenTypeStart)
          data := msg.data.drop (peerMtu - avdtLenTypeStart) }) := by
  have start : sendPktType peerMtu msg = avdtPktTypeStart := by
    simp [sendPktType, initial, long, Nat.not_le.mpr long]
  have left : msg.data.length - (peerMtu - avdtLenTypeStart) ≠ 0 := by
    unfold avdtLenTypeSingle at long
    unfold avdtLenTypeStart
    omega
  simp [sendOne, start, sendBufLen, sendHeader, left, avdtMsgPktTypeLen, avdtPktTypeStart,
    avdtPktTypeSingle]

theorem sendOne_cont (fragmenting : avdtMsgOffset < msg.offset)
    (long : peerMtu - avdtLenTypeCont < msg.data.length) :
    sendOne peerMtu msg.data.length msg =
      (msg.header avdtPktTypeCont :: msg.data.take (peerMtu - avdtLenTypeCont),
        msg.data.length - (peerMtu - avdtLenTypeCont),
        some { msg with
          offset := msg.offset + (peerMtu - avdtLenTypeCont)
          data := msg.data.drop (peerMtu - avdtLenTypeCont) }) := by
  have cont : sendPktType peerMtu msg = avdtPktTypeCont := by
    simp [sendPktType, fragmenting, long, Nat.ne_of_gt fragmenting]
  have left : msg.data.length - (peerMtu - avdtLenTypeCont) ≠ 0 := by
    unfold avdtLenTypeCont at long ⊢
    omega
  simp [sendOne, cont, sendBufLen, sendHeader, left, avdtMsgPktTypeLen, avdtPktTypeStart,
    avdtPktTypeSingle, avdtPktTypeCont]

theorem sendOne_end (fragmenting : avdtMsgOffset < msg.offset)
    (short : msg.data.length ≤ peerMtu - avdtLenTypeCont) :
    sendOne peerMtu msg.data.length msg = (msg.header avdtPktTypeEnd :: msg.data, 0, none) := by
  have last : sendPktType peerMtu msg = avdtPktTypeEnd := by
    simp [sendPktType, Nat.ne_of_gt fragmenting, Nat.not_lt.mpr short]
  simp [sendOne, last, sendBufLen, sendHeader, avdtPktTypeEnd, avdtPktTypeStart,
    avdtPktTypeCont, avdtPktTypeSingle]

theorem pendingPackets_single (initial : msg.offset = avdtMsgOffset)
    (fits : msg.data.length ≤ peerMtu - avdtLenTypeSingle) :
    pendingPackets peerMtu msg = [msg.header avdtPktTypeSingle :: msg.sig :: msg.data] := by
  simp [pendingPackets, initial, fits]

theorem pendingPackets_start (initial : msg.offset = avdtMsgOffset)
    (long : peerMtu - avdtLenTypeSingle < msg.data.length) :
    pendingPackets peerMtu msg =
      (msg.header avdtPktTypeStart :: avdtNosp peerMtu msg.data.length :: msg.sig ::
          msg.data.take (peerMtu - avdtLenTypeStart)) ::
        contEndPackets (msg.header avdtPktTypeCont) (msg.header avdtPktTypeEnd)
          (fragment (peerMtu - avdtLenTypeCont) (msg.data.drop (peerMtu - avdtLenTypeStart))) := by
  simp [pendingPackets, initial, Nat.not_le.mpr long]

theorem pendingPackets_of_fragmenting (fragmenting : avdtMsgOffset < msg.offset) :
    pendingPackets peerMtu msg =
      contEndPackets (msg.header avdtPktTypeCont) (msg.header avdtPktTypeEnd)
        (fragment (peerMtu - avdtLenTypeCont) msg.data) := by
  simp [pendingPackets, Nat.ne_of_gt fragmenting]

/-- While fragmenting, a long remainder is a CONTINUE packet of `peerMtu - 1` octets ahead of the
packets of the rest. -/
theorem pendingPackets_cont (large : 4 ≤ peerMtu) (fragmenting : avdtMsgOffset < msg.offset)
    (long : peerMtu - avdtLenTypeCont < msg.data.length) :
    pendingPackets peerMtu msg =
      (msg.header avdtPktTypeCont :: msg.data.take (peerMtu - avdtLenTypeCont)) ::
        pendingPackets peerMtu { msg with
          offset := msg.offset + (peerMtu - avdtLenTypeCont)
          data := msg.data.drop (peerMtu - avdtLenTypeCont) } := by
  have positive : 0 < peerMtu - avdtLenTypeCont := by
    unfold avdtLenTypeCont
    omega
  rw [pendingPackets_of_fragmenting fragmenting,
    pendingPackets_of_fragmenting (show avdtMsgOffset < msg.offset + _ by omega),
    contEndPackets_fragment_of_long positive long]
  rfl

/-- While fragmenting, a remainder that fits is the END packet. -/
theorem pendingPackets_end (large : 4 ≤ peerMtu) (fragmenting : avdtMsgOffset < msg.offset)
    (nonempty : msg.data ≠ []) (short : msg.data.length ≤ peerMtu - avdtLenTypeCont) :
    pendingPackets peerMtu msg = [msg.header avdtPktTypeEnd :: msg.data] := by
  have positive : 0 < peerMtu - avdtLenTypeCont := by
    unfold avdtLenTypeCont
    omega
  rw [pendingPackets_of_fragmenting fragmenting,
    contEndPackets_fragment_of_short positive nonempty short]

/-- One pass of the loop writes the first of the packets left, and leaves the rest of them, with
`curr_msg_len` the length of what remains and less of the message left. -/
theorem sendOne_spec (large : 4 ≤ peerMtu) (sendable : Sendable msg) {packet : List UInt8}
    {currMsgLen : Nat} {next : Option SigMsg}
    (sent : sendOne peerMtu msg.data.length msg = (packet, currMsgLen, next)) :
    packet :: pendingOf peerMtu next = pendingPackets peerMtu msg ∧ currMsgLen = currLen next ∧
      ∀ rest, next = some rest → Sendable rest ∧ rest.data.length < msg.data.length := by
  rcases sendable with initial | ⟨fragmenting, nonempty⟩
  · by_cases fits : msg.data.length ≤ peerMtu - avdtLenTypeSingle
    · rw [sendOne_single initial fits] at sent
      simp only [Prod.mk.injEq] at sent
      obtain ⟨rfl, rfl, rfl⟩ := sent
      simp [pendingOf, currLen, pendingPackets_single initial fits]
    · have long : peerMtu - avdtLenTypeSingle < msg.data.length := Nat.lt_of_not_le fits
      have beyond : avdtMsgOffset < msg.offset + (peerMtu - avdtLenTypeStart) := by
        unfold avdtLenTypeStart
        omega
      have shrinks : 0 < peerMtu - avdtLenTypeStart ∧
          peerMtu - avdtLenTypeStart < msg.data.length := by
        unfold avdtLenTypeSingle avdtLenTypeStart at *
        omega
      rw [sendOne_start initial long] at sent
      simp only [Prod.mk.injEq] at sent
      obtain ⟨rfl, rfl, rfl⟩ := sent
      refine ⟨?_, by simp [currLen], ?_⟩
      · rw [pendingPackets_start initial long]
        simp only [pendingOf]
        rw [pendingPackets_of_fragmenting beyond]
        rfl
      · rintro rest ⟨⟩
        refine ⟨Or.inr ⟨beyond, ?_⟩, ?_⟩
        · simpa [← List.length_pos_iff] using shrinks.2
        · simp only [List.length_drop]
          omega
  · by_cases long : peerMtu - avdtLenTypeCont < msg.data.length
    · have shrinks : 0 < peerMtu - avdtLenTypeCont := by
        unfold avdtLenTypeCont
        omega
      rw [sendOne_cont fragmenting long] at sent
      simp only [Prod.mk.injEq] at sent
      obtain ⟨rfl, rfl, rfl⟩ := sent
      refine ⟨(pendingPackets_cont large fragmenting long).symm, by simp [currLen], ?_⟩
      rintro rest ⟨⟩
      refine ⟨Or.inr ⟨show avdtMsgOffset < msg.offset + _ by omega, ?_⟩, ?_⟩
      · simpa [← List.length_pos_iff] using long
      · simp only [List.length_drop]
        omega
    · have short := Nat.le_of_not_lt long
      rw [sendOne_end fragmenting short] at sent
      simp only [Prod.mk.injEq] at sent
      obtain ⟨rfl, rfl, rfl⟩ := sent
      simp [pendingOf, currLen, pendingPackets_end large fragmenting nonempty short]

end Send

/-! ## Whole calls -/

section Loop

variable {peerMtu : Nat} {congests : Nat → Bool}

/-- What the loop of `avdt_msg_send` keeps: the packets written and those left make up `whole`,
`curr_msg_len` is the length of the current message, and the current message is one that
`avdt_msg_send` can carry on with. -/
structure SendLoop.Keeps (peerMtu : Nat) (whole : List (List UInt8)) (loop : SendLoop) :
    Prop where
  packets : loop.sent ++ pendingOf peerMtu loop.ccb.pCurrMsg = whole
  length : loop.currMsgLen = currLen loop.ccb.pCurrMsg
  sendable : ∀ msg, loop.ccb.pCurrMsg = some msg → Sendable msg

/-- How much of the current message is left, counting the message itself. -/
def SendLoop.left (loop : SendLoop) : Nat :=
  match loop.ccb.pCurrMsg with
  | none => 0
  | some msg => msg.data.length + 1

theorem sendLoopBody_eq_inl {loop next : SendLoop}
    (continues : sendLoopBody peerMtu congests loop = .inl next) :
    ∃ msg, loop.ccb.cong = false ∧ loop.ccb.pCurrMsg = some msg ∧
      next = ⟨⟨congests loop.writes, (sendOne peerMtu loop.currMsgLen msg).2.2⟩,
        (sendOne peerMtu loop.currMsgLen msg).2.1, loop.writes + 1,
        loop.sent ++ [(sendOne peerMtu loop.currMsgLen msg).1]⟩ := by
  unfold sendLoopBody at continues
  split at continues
  · next msg cong current => exact ⟨msg, cong, current, by cases continues; rfl⟩
  · cases continues

theorem sendLoopBody_eq_inr {loop : SendLoop} {result : AvdtpCcb × List (List UInt8)}
    (leaves : sendLoopBody peerMtu congests loop = .inr result) :
    result = (loop.ccb, loop.sent) ∧ (loop.ccb.cong = true ∨ loop.ccb.pCurrMsg = none) := by
  unfold sendLoopBody at leaves
  split at leaves
  · cases leaves
  · next stops =>
    cases leaves
    refine ⟨rfl, ?_⟩
    cases cong : loop.ccb.cong
    · cases current : loop.ccb.pCurrMsg
      · exact .inr rfl
      · exact (stops _ cong current).elim
    · exact .inl rfl

theorem keeps_sendLoopBody (large : 4 ≤ peerMtu) {whole : List (List UInt8)}
    {loop next : SendLoop} (keeps : loop.Keeps peerMtu whole)
    (continues : sendLoopBody peerMtu congests loop = .inl next) :
    next.Keeps peerMtu whole ∧ next.left < loop.left := by
  obtain ⟨msg, -, current, rfl⟩ := sendLoopBody_eq_inl continues
  have length : loop.currMsgLen = msg.data.length := by
    simpa [current, currLen] using keeps.length
  rw [length]
  rcases sent : sendOne peerMtu msg.data.length msg with ⟨packet, currMsgLen, next⟩
  obtain ⟨packets, lengths, rest⟩ := sendOne_spec large (keeps.sendable msg current) sent
  refine ⟨⟨?_, lengths, fun next sent => (rest next sent).1⟩, ?_⟩
  · rw [← keeps.packets, current, List.append_assoc, List.singleton_append]
    exact congrArg _ packets
  · simp only [SendLoop.left, current]
    cases next with
    | none => simp
    | some next => simpa using (rest next rfl).2

/-- A call of `avdt_msg_send` returns whatever the channel's congestion, and what it writes is
the beginning of the packets left for the current message: it leaves the rest of them, and stops
only when the channel is congested or the message is all sent.  So a call interrupted by
congestion and a later `avdt_msg_send(p_ccb, NULL)` write the packets one uninterrupted call
would. -/
theorem avdtMsgSend_spec (large : 4 ≤ peerMtu) (congests : Nat → Bool) (ccb : AvdtpCcb)
    (pMsg : Option SigMsg) (sendable : ∀ msg, pMsg.or ccb.pCurrMsg = some msg → Sendable msg)
    (fuel : Nat) (enough : currLen (pMsg.or ccb.pCurrMsg) + 1 < fuel) :
    ∃ ccb' sent, avdtMsgSend peerMtu congests fuel ccb pMsg = some (ccb', sent) ∧
      sent ++ pendingOf peerMtu ccb'.pCurrMsg = pendingOf peerMtu (pMsg.or ccb.pCurrMsg) ∧
      (ccb'.cong = true ∨ ccb'.pCurrMsg = none) ∧
      ∀ msg, ccb'.pCurrMsg = some msg → Sendable msg := by
  have current : (ccb.withMsg pMsg).pCurrMsg = pMsg.or ccb.pCurrMsg := by
    cases pMsg <;> rfl
  have initial : SendLoop.Keeps peerMtu (pendingOf peerMtu (pMsg.or ccb.pCurrMsg))
      ⟨ccb.withMsg pMsg, currLen (ccb.withMsg pMsg).pCurrMsg, 0, []⟩ :=
    ⟨by simp [current], rfl, by rw [current]; exact sendable⟩
  have keeps : ∀ loop next, loop.Keeps peerMtu (pendingOf peerMtu (pMsg.or ccb.pCurrMsg)) →
      sendLoopBody peerMtu congests loop = .inl next →
        next.Keeps peerMtu (pendingOf peerMtu (pMsg.or ccb.pCurrMsg)) :=
    fun loop next holds continues => (keeps_sendLoopBody large holds continues).1
  have runs := Loop.isSome_run_of_measure (SendLoop.Keeps peerMtu _) SendLoop.left keeps
    (fun loop next holds continues => (keeps_sendLoopBody large holds continues).2) fuel _ initial
    (by
      simp only [SendLoop.left, current]
      cases first : pMsg.or ccb.pCurrMsg <;> simp [first, currLen] at enough ⊢ <;> omega)
  obtain ⟨⟨ccb', sent⟩, ran⟩ := Option.isSome_iff_exists.mp runs
  refine ⟨ccb', sent, ran, ?_⟩
  refine Loop.run_invariant _ (fun result : AvdtpCcb × List (List UInt8) =>
      result.2 ++ pendingOf peerMtu result.1.pCurrMsg = pendingOf peerMtu (pMsg.or ccb.pCurrMsg) ∧
        (result.1.cong = true ∨ result.1.pCurrMsg = none) ∧
        ∀ msg, result.1.pCurrMsg = some msg → Sendable msg)
    keeps (fun loop result holds leaves => ?_) fuel _ _ initial ran
  obtain ⟨rfl, stops⟩ := sendLoopBody_eq_inr leaves
  exact ⟨holds.packets, stops, holds.sendable⟩

/-- With a channel that never congests, `avdt_msg_send` on a new message writes all of its
packets and leaves no current message. -/
theorem avdtMsgSend_uncongested (large : 4 ≤ peerMtu) (ccb : AvdtpCcb) (free : ccb.cong = false)
    {msg : SigMsg} (sendable : Sendable msg) (fuel : Nat) (enough : msg.data.length + 1 < fuel) :
    avdtMsgSend peerMtu (fun _ => false) fuel ccb (some msg) =
      some (⟨false, none⟩, pendingPackets peerMtu msg) := by
  obtain ⟨ccb', sent, ran, packets, stops, -⟩ := avdtMsgSend_spec large (fun _ => false) ccb
    (some msg) (by rintro _ ⟨⟩; exact sendable) fuel (by simpa [currLen] using enough)
  have clear : ccb'.cong = false := by
    refine Loop.run_invariant (fun loop : SendLoop => loop.ccb.cong = false)
      (fun result : AvdtpCcb × List (List UInt8) => result.1.cong = false) ?_ ?_ fuel _ _ free ran
    · intro loop next _ continues
      obtain ⟨_, _, _, rfl⟩ := sendLoopBody_eq_inl continues
      rfl
    · intro loop result holds leaves
      rw [(sendLoopBody_eq_inr leaves).1]
      exact holds
  have done : ccb'.pCurrMsg = none := by
    simpa [clear] using stops
  rw [done] at packets
  simp only [pendingOf, List.append_nil] at packets
  rw [ran, packets]
  congr
  cases ccb'
  simp_all

end Loop

/-! ## Sizes, count and NOSP -/

section Packets

variable {peerMtu : Nat} {msg : SigMsg}

/-- No packet is longer than the peer's MTU. -/
theorem length_le_of_mem_pendingPackets (large : 4 ≤ peerMtu) {packet : List UInt8}
    (member : packet ∈ pendingPackets peerMtu msg) : packet.length ≤ peerMtu := by
  have positive : 0 < peerMtu - avdtLenTypeCont := by
    unfold avdtLenTypeCont
    omega
  have chunked : ∀ (cont last : UInt8) (data : List UInt8),
      ∀ packet ∈ contEndPackets cont last (fragment (peerMtu - avdtLenTypeCont) data),
        packet.length ≤ peerMtu := by
    intro cont last data packet member
    have short := length_le_of_mem_contEndPackets_fragment positive member
    unfold avdtLenTypeCont at short
    omega
  unfold pendingPackets at member
  split_ifs at member with initial fits
  · obtain rfl := List.mem_singleton.mp member
    unfold avdtLenTypeSingle at fits
    simp only [List.length_cons]
    omega
  · rcases List.mem_cons.mp member with rfl | later
    · simp only [List.length_cons, List.length_take, avdtLenTypeStart]
      omega
    · exact chunked _ _ _ packet later
  · exact chunked _ _ _ packet member

/-- A new message goes as one SINGLE packet exactly when it fits in `peerMtu - 2` octets. -/
theorem pendingPackets_length_eq_one_iff (large : 4 ≤ peerMtu)
    (initial : msg.offset = avdtMsgOffset) :
    (pendingPackets peerMtu msg).length = 1 ↔ msg.data.length ≤ peerMtu - avdtLenTypeSingle := by
  by_cases fits : msg.data.length ≤ peerMtu - avdtLenTypeSingle
  · simp [pendingPackets_single initial fits, fits]
  · have long := Nat.lt_of_not_le fits
    have rest : msg.data.drop (peerMtu - avdtLenTypeStart) ≠ [] := by
      unfold avdtLenTypeSingle at long
      simpa [← List.length_pos_iff, avdtLenTypeStart] using (by omega : peerMtu - 3 < msg.data.length)
    have more := fragment_ne_nil (show 0 < peerMtu - avdtLenTypeCont by unfold avdtLenTypeCont; omega) rest
    simp [pendingPackets_start initial long, fits, List.length_pos_iff.mpr more |>.ne']

/-- A new message too long for one packet takes a START packet and then one packet for every
`peerMtu - 1` octets of the rest, rounded up. -/
theorem length_pendingPackets_of_long (large : 4 ≤ peerMtu) (initial : msg.offset = avdtMsgOffset)
    (long : peerMtu - avdtLenTypeSingle < msg.data.length) :
    (pendingPackets peerMtu msg).length =
      1 + (msg.data.length + avdtLenTypeStart - peerMtu + (peerMtu - avdtLenTypeCont) - 1) /
        (peerMtu - avdtLenTypeCont) := by
  have positive : 0 < peerMtu - avdtLenTypeCont := by
    unfold avdtLenTypeCont
    omega
  have rest : (msg.data.drop (peerMtu - avdtLenTypeStart)).length =
      msg.data.length + avdtLenTypeStart - peerMtu := by
    unfold avdtLenTypeSingle at long
    simp only [List.length_drop, avdtLenTypeStart]
    omega
  rw [pendingPackets_start initial long, List.length_cons, length_contEndPackets,
    length_fragment positive, rest, Nat.add_comm]

/-- The NOSP of the START packet counts one packet too many exactly when `peerMtu - 1` divides
what follows the START packet, `len + 3 - peerMtu` octets. -/
theorem avdtNosp_eq (large : 4 ≤ peerMtu) (initial : msg.offset = avdtMsgOffset)
    (long : peerMtu - avdtLenTypeSingle < msg.data.length) :
    avdtNosp peerMtu msg.data.length =
      UInt8.ofNat ((pendingPackets peerMtu msg).length +
        if peerMtu - 1 ∣ msg.data.length + 3 - peerMtu then 1 else 0) := by
  rw [length_pendingPackets_of_long large initial long, avdtNosp]
  unfold avdtLenTypeSingle at long
  unfold avdtLenTypeStart avdtLenTypeCont
  obtain ⟨rest, after⟩ : ∃ rest, msg.data.length + 3 - peerMtu = rest + 1 :=
    ⟨msg.data.length + 2 - peerMtu, by omega⟩
  rw [after]
  have ceiling : (rest + 1 + (peerMtu - 1) - 1) / (peerMtu - 1) = rest / (peerMtu - 1) + 1 := by
    rw [show rest + 1 + (peerMtu - 1) - 1 = rest + (peerMtu - 1) by omega,
      Nat.add_div_right _ (by omega)]
  rw [ceiling, Nat.succ_div]
  split <;> congr 1 <;> omega

end Packets

/-! ## Reassembly -/

/-- The packet type reads back from a header octet whose message type takes two bits. -/
theorem avdtMsgPrsPktType_avdtMsgBldHdr (label : UInt8) {pktType msg : UInt8}
    (isType : pktType < 4) (small : msg < 4) :
    avdtMsgPrsPktType (avdtMsgBldHdr label pktType msg) = pktType := by
  have octets : ∀ l < 256, ∀ p < 4, ∀ t < 4, avdtMsgPrsPktType
      (avdtMsgBldHdr (UInt8.ofNat l) (UInt8.ofNat p) (UInt8.ofNat t)) = UInt8.ofNat p := by
    decide +kernel
  have fields := octets label.toNat label.toNat_lt pktType.toNat isType msg.toNat small
  simpa only [UInt8.ofNat_toNat] using fields

section Receive

variable {pktTypeLen : UInt8 → Nat}

theorem msgAsmbl_single {header : UInt8} (isSingle : avdtMsgPrsPktType header = avdtPktTypeSingle)
    (pRxMsg : Option RxMsg) (offset : Nat) {rest : List UInt8}
    (long : pktTypeLen avdtPktTypeSingle ≤ rest.length + 1) :
    msgAsmbl pktTypeLen pRxMsg ⟨offset, header :: rest⟩ = (none, some ⟨offset, header :: rest⟩) := by
  simp [msgAsmbl, isSingle, Nat.not_lt.mpr long]

/-- A START packet that fits a `BT_DEFAULT_BUFFER_SIZE` buffer begins a new message, its header
octet in place of NOSP. -/
theorem msgAsmbl_start {header : UInt8} (isStart : avdtMsgPrsPktType header = avdtPktTypeStart)
    (pRxMsg : Option RxMsg) (offset : Nat) {rest : List UInt8}
    (long : pktTypeLen avdtPktTypeStart ≤ rest.length + 1)
    (fits : btHdrSize + offset + (rest.length + 1) ≤ btDefaultBufferSize) :
    msgAsmbl pktTypeLen pRxMsg ⟨offset, header :: rest⟩ =
      (some ⟨offset + (rest.length + 1), header :: rest.drop 1⟩, none) := by
  have other : avdtPktTypeStart ≠ avdtPktTypeSingle := by decide
  simp [msgAsmbl, isStart, Nat.not_lt.mpr long, Nat.not_lt.mpr fits, other]

theorem msgAsmbl_cont {header : UInt8} (isCont : avdtMsgPrsPktType header = avdtPktTypeCont)
    (contLen : pktTypeLen avdtPktTypeCont ≤ 1) (rxMsg : RxMsg) (offset : Nat) {chunk : List UInt8}
    (fits : rxMsg.offset + chunk.length ≤ btDefaultBufferSize - btHdrSize) :
    msgAsmbl pktTypeLen (some rxMsg) ⟨offset, header :: chunk⟩ =
      (some ⟨rxMsg.offset + chunk.length, rxMsg.data ++ chunk⟩, none) := by
  have long : ¬ (chunk.length + 1 < pktTypeLen avdtPktTypeCont) := by omega
  have other : avdtPktTypeCont ≠ avdtPktTypeSingle ∧ avdtPktTypeCont ≠ avdtPktTypeStart ∧
      avdtPktTypeCont ≠ avdtPktTypeEnd := by decide
  simp [msgAsmbl, isCont, long, Nat.not_lt.mpr fits, other]

theorem msgAsmbl_end {header : UInt8} (isEnd : avdtMsgPrsPktType header = avdtPktTypeEnd)
    (endLen : pktTypeLen avdtPktTypeEnd ≤ 1) (rxMsg : RxMsg) (offset : Nat) {chunk : List UInt8}
    (fits : rxMsg.offset + chunk.length ≤ btDefaultBufferSize - btHdrSize) :
    msgAsmbl pktTypeLen (some rxMsg) ⟨offset, header :: chunk⟩ =
      (none, some ⟨rxMsg.offset - rxMsg.data.length, rxMsg.data ++ chunk⟩) := by
  have long : ¬ (chunk.length + 1 < pktTypeLen avdtPktTypeEnd) := by omega
  have other : avdtPktTypeEnd ≠ avdtPktTypeSingle ∧ avdtPktTypeEnd ≠ avdtPktTypeStart := by decide
  simp [msgAsmbl, isEnd, long, Nat.not_lt.mpr fits, other]

theorem asmblAll_congr {asmbl asmbl' : Option RxMsg → RxBuf → Option RxMsg × Option RxBuf} :
    ∀ {bufs : List RxBuf}, (∀ pRxMsg, ∀ buf ∈ bufs, asmbl pRxMsg buf = asmbl' pRxMsg buf) →
      ∀ pRxMsg, asmblAll asmbl pRxMsg bufs = asmblAll asmbl' pRxMsg bufs
  | [], _, _ => rfl
  | buf :: bufs, same, pRxMsg => by
    have later := asmblAll_congr
      (fun pRxMsg buf (inside : buf ∈ bufs) => same pRxMsg buf (List.mem_cons_of_mem _ inside))
    simp only [asmblAll, same pRxMsg buf List.mem_cons_self, later]

/-- The CONTINUE and END packets of `chunks` complete the message being reassembled: the END
packet returns it with every chunk appended, and the packets before it return nothing. -/
theorem asmblAll_contEndPackets (contLen : pktTypeLen avdtPktTypeCont ≤ 1)
    (endLen : pktTypeLen avdtPktTypeEnd ≤ 1) {cont last : UInt8}
    (isCont : avdtMsgPrsPktType cont = avdtPktTypeCont)
    (isEnd : avdtMsgPrsPktType last = avdtPktTypeEnd) :
    ∀ (chunks : List (List UInt8)) (bufs : List RxBuf) (rxMsg : RxMsg), chunks ≠ [] →
      bufs.map RxBuf.data = contEndPackets cont last chunks →
      rxMsg.data.length ≤ rxMsg.offset →
      rxMsg.offset + chunks.flatten.length ≤ btDefaultBufferSize - btHdrSize →
      asmblAll (msgAsmbl pktTypeLen) (some rxMsg) bufs =
        (none, List.replicate (chunks.length - 1) none ++
          [some ⟨rxMsg.offset - rxMsg.data.length, rxMsg.data ++ chunks.flatten⟩])
  | [], _, _, nonempty, _, _, _ => absurd rfl nonempty
  | [chunk], bufs, rxMsg, _, delivered, _, fits => by
    rcases bufs with _ | ⟨⟨offset, data⟩, _ | ⟨_, _⟩⟩
    · cases delivered
    · obtain rfl : data = last :: chunk := by simpa [contEndPackets] using delivered
      simp only [List.flatten_cons, List.flatten_nil, List.append_nil] at fits
      simp [asmblAll, msgAsmbl_end isEnd endLen rxMsg offset fits]
    · simp [contEndPackets] at delivered
  | chunk :: next :: chunks, bufs, rxMsg, _, delivered, below, fits => by
    rcases bufs with _ | ⟨⟨offset, data⟩, bufs⟩
    · cases delivered
    simp only [List.map_cons, contEndPackets, List.cons.injEq] at delivered
    obtain ⟨rfl, rest⟩ := delivered
    simp only [List.flatten_cons, List.length_append] at fits
    have step := msgAsmbl_cont isCont contLen rxMsg offset
      (by omega : rxMsg.offset + chunk.length ≤ btDefaultBufferSize - btHdrSize)
    have later := asmblAll_contEndPackets contLen endLen isCont isEnd (next :: chunks) bufs
      ⟨rxMsg.offset + chunk.length, rxMsg.data ++ chunk⟩ (List.cons_ne_nil _ _) rest
      (by simp; omega) (by simp only [List.flatten_cons, List.length_append] at fits ⊢; omega)
    simp only [asmblAll, step, later, List.length_cons, List.length_append] at *
    simp [List.replicate_succ, List.flatten_cons, List.append_assoc]
    omega

/-- A START packet and then the CONTINUE and END packets of `chunks`, from no reassembly in
progress: the END packet returns the START packet without its NOSP octet, followed by every
chunk, provided that fits a `BT_DEFAULT_BUFFER_SIZE` buffer at the offset of the START packet.
The packets before it return nothing. -/
theorem asmblAll_start (contLen : pktTypeLen avdtPktTypeCont ≤ 1)
    (endLen : pktTypeLen avdtPktTypeEnd ≤ 1) {header nosp cont last : UInt8}
    (isStart : avdtMsgPrsPktType header = avdtPktTypeStart)
    (isCont : avdtMsgPrsPktType cont = avdtPktTypeCont)
    (isEnd : avdtMsgPrsPktType last = avdtPktTypeEnd) {front : List UInt8}
    (startLen : pktTypeLen avdtPktTypeStart ≤ front.length + 2) {chunks : List (List UInt8)}
    (nonempty : chunks ≠ []) (offset : Nat) {bufs : List RxBuf}
    (delivered : bufs.map RxBuf.data = contEndPackets cont last chunks)
    (fits : btHdrSize + offset + 1 + (front.length + 1 + chunks.flatten.length) ≤
      btDefaultBufferSize) :
    asmblAll (msgAsmbl pktTypeLen) none (⟨offset, header :: nosp :: front⟩ :: bufs) =
      (none, List.replicate chunks.length none ++
        [some ⟨offset + 1, header :: (front ++ chunks.flatten)⟩]) := by
  have begun : msgAsmbl pktTypeLen none ⟨offset, header :: nosp :: front⟩ =
      (some ⟨offset + (front.length + 2), header :: front⟩, none) := by
    rw [msgAsmbl_start isStart none offset (by simpa using startLen) (by simp; omega)]
    simp
  have completed := asmblAll_contEndPackets contLen endLen isCont isEnd chunks bufs
    ⟨offset + (front.length + 2), header :: front⟩ nonempty delivered (by simp; omega)
    (by simp only; omega)
  obtain ⟨more, count⟩ := Nat.exists_eq_add_one.mpr (List.length_pos_iff.mpr nonempty)
  rw [asmblAll, begun]
  simp only [completed, count, List.length_cons]
  rw [show offset + (front.length + 2) - (front.length + 1) = offset + 1 by omega]
  simp [List.replicate_succ]

end Receive

/-- The peer rebuilds a message from its packets: `avdt_msg_asmbl` on each packet in turn, from no
reassembly in progress, returns nothing for every packet but the last, and for the last the
header octet of the first packet (with the message's label and message type), the signal id and
the message, provided the message fits a `BT_DEFAULT_BUFFER_SIZE` buffer at the offset of the
first packet. -/
theorem avdtMsgAsmbl_pendingPackets {peerMtu : Nat} {msg : SigMsg} (large : 4 ≤ peerMtu)
    (initial : msg.offset = avdtMsgOffset) (msgType : avdtLayerspecMsg msg.layerSpecific < 4)
    (bufs : List RxBuf) (delivered : bufs.map RxBuf.data = pendingPackets peerMtu msg)
    (fits : btHdrSize + (bufs.headD ⟨0, []⟩).offset + 1 + (msg.data.length + 2) ≤
      btDefaultBufferSize) :
    ∃ offset, asmblAll avdtMsgAsmbl none bufs =
      (none, List.replicate (bufs.length - 1) none ++
        [some ⟨offset, msg.header (sendPktType peerMtu msg) :: msg.sig :: msg.data⟩]) := by
  have parses : ∀ pktType : UInt8, pktType < 4 →
      avdtMsgPrsPktType (msg.header pktType) = pktType := fun pktType isType =>
    avdtMsgPrsPktType_avdtMsgBldHdr _ isType msgType
  rw [avdtMsgAsmbl_eq]
  by_cases short : msg.data.length ≤ peerMtu - avdtLenTypeSingle
  · have single : sendPktType peerMtu msg = avdtPktTypeSingle := by
      simp [sendPktType, initial, short]
    rw [pendingPackets_single initial short] at delivered
    rcases bufs with _ | ⟨⟨offset, data⟩, _ | ⟨_, _⟩⟩
    · cases delivered
    · obtain rfl : data = msg.header avdtPktTypeSingle :: msg.sig :: msg.data := by
        simpa using delivered
      have whole : avdtMsgPktTypeLen avdtPktTypeSingle ≤ (msg.sig :: msg.data).length + 1 := by
        simp [avdtMsgPktTypeLen, avdtPktTypeSingle, avdtLenTypeSingle]
      refine ⟨offset, ?_⟩
      simp [asmblAll, single,
        @msgAsmbl_single avdtMsgPktTypeLen _ (parses _ (by decide)) none offset _ whole]
    · simp at delivered
  · have long := Nat.lt_of_not_le short
    have start : sendPktType peerMtu msg = avdtPktTypeStart := by
      simp [sendPktType, initial, long, short]
    have positive : 0 < peerMtu - avdtLenTypeCont := by
      unfold avdtLenTypeCont
      omega
    unfold avdtLenTypeSingle at long
    have first : (msg.data.take (peerMtu - avdtLenTypeStart)).length = peerMtu - 3 := by
      simp only [List.length_take, avdtLenTypeStart]
      omega
    have rest : msg.data.drop (peerMtu - avdtLenTypeStart) ≠ [] := by
      simpa [← List.length_pos_iff, avdtLenTypeStart] using (by omega : peerMtu - 3 < msg.data.length)
    rw [pendingPackets_start initial long] at delivered
    rcases bufs with _ | ⟨⟨offset, data⟩, bufs⟩
    · cases delivered
    simp only [List.map_cons, List.cons.injEq] at delivered
    obtain ⟨rfl, later⟩ := delivered
    simp only [List.headD_cons] at fits
    have count : bufs.length = (fragment (peerMtu - avdtLenTypeCont)
        (msg.data.drop (peerMtu - avdtLenTypeStart))).length := by
      simpa using congrArg List.length later
    refine ⟨offset + 1, ?_⟩
    rw [asmblAll_start (by decide) (by decide) (parses _ (by decide)) (parses _ (by decide))
      (parses _ (by decide))
      (by simp [avdtMsgPktTypeLen, avdtPktTypeStart, avdtLenTypeStart])
      (fragment_ne_nil positive rest) offset later
      (by
        rw [List.length_cons, first, flatten_fragment positive, List.length_drop]
        unfold avdtLenTypeStart
        omega)]
    simp [count, start, flatten_fragment positive]

/-- `avdt_msg_send` on a message too long for one packet, with a channel that never congests: the
NOSP octet of the START packet it writes is the number of packets it writes, plus one when
`peerMtu - 1` divides the `len + 3 - peerMtu` octets that follow the START packet. -/
theorem avdtMsgSend_nosp_overcounts {peerMtu : Nat} (large : 48 ≤ peerMtu) (msg : SigMsg)
    (initial : msg.offset = avdtMsgOffset) (long : peerMtu - avdtLenTypeSingle < msg.data.length) :
    ∃ start rest, (∀ fuel, msg.data.length + 1 < fuel →
        avdtMsgSend peerMtu (fun _ => false) fuel ⟨false, none⟩ (some msg) =
          some (⟨false, none⟩, start :: rest)) ∧
      start.getD 1 0 = UInt8.ofNat ((start :: rest).length +
        if peerMtu - 1 ∣ msg.data.length + 3 - peerMtu then 1 else 0) := by
  have large' : 4 ≤ peerMtu := by omega
  obtain ⟨start, rest, packets, nosp⟩ : ∃ start rest, pendingPackets peerMtu msg = start :: rest ∧
      start.getD 1 0 = avdtNosp peerMtu msg.data.length :=
    ⟨_, _, pendingPackets_start initial long, rfl⟩
  refine ⟨start, rest, fun fuel enough => ?_, ?_⟩
  · rw [avdtMsgSend_uncongested large' _ rfl (.inl initial) fuel enough, packets]
  · rw [nosp, avdtNosp_eq large' initial long, packets]

theorem avdtMsgSend_nosp_overcounts_at_92 :
    48 ≤ 48 ∧ avdtMsgOffset = avdtMsgOffset ∧ 48 - avdtLenTypeSingle < (List.replicate 92 0).length ∧
      ∃ start rest, (∀ fuel, (List.replicate 92 0).length + 1 < fuel →
          avdtMsgSend 48 (fun _ => false) fuel ⟨false, none⟩
              (some ⟨avdtMsgOffset, List.replicate 92 0, 0x0010, 1⟩) =
            some (⟨false, none⟩, start :: rest)) ∧
        start.getD 1 0 = UInt8.ofNat ((start :: rest).length +
          if 48 - 1 ∣ (List.replicate 92 0).length + 3 - 48 then 1 else 0) :=
  ⟨by decide, rfl, by decide,
    avdtMsgSend_nosp_overcounts (by decide) ⟨avdtMsgOffset, List.replicate 92 0, 0x0010, 1⟩ rfl
      (by decide)⟩

end Bluetooth.Avdt

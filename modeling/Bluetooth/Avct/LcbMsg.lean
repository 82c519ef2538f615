import Bluetooth.Avdt.Msg

set_option linter.all false

/-!
# AVCTP messages: fragmentation and reassembly

`avct_lcb_send_msg` frames an AVCTP message as AVDTP frames a signalling message, with AVCTP's
headers: the header octet, NOSP in a START packet, and the PID in SINGLE and START packets.  It
counts the packets with a division rounded up and passes them all on in one call, queueing them
on `tx_q` once the channel is congested.  `avct_lcb_msg_asmbl` is the reassembly of
`avdt_msg_asmbl` with AVCTP's header lengths and one check more, which drops any buffer that
would not fit `BT_DEFAULT_BUFFER_SIZE`.
-/

namespace Bluetooth.Avct

open Avdt Packet

/-- `AVCT_PKT_TYPE_SINGLE`. -/
def avctPktTypeSingle : UInt8 := 0

/-- `AVCT_PKT_TYPE_START`. -/
def avctPktTypeStart : UInt8 := 1

/-- `AVCT_PKT_TYPE_CONT`. -/
def avctPktTypeCont : UInt8 := 2

/-- `AVCT_PKT_TYPE_END`. -/
def avctPktTypeEnd : UInt8 := 3

/-- `AVCT_HDR_LEN_SINGLE`: header octet and PID. -/
def avctHdrLenSingle : Nat := 3

/-- `AVCT_HDR_LEN_START`: header octet, NOSP and PID. -/
def avctHdrLenStart : Nat := 4

/-- `AVCT_HDR_LEN_CONT`. -/
def avctHdrLenCont : Nat := 1

/-- `AVCT_HDR_LEN_END`. -/
def avctHdrLenEnd : Nat := 1

/-- `avct_lcb_pkt_type_len`, indexed by the two packet-type bits. -/
def avctLcbPktTypeLen (pktType : UInt8) : Nat :=
  [avctHdrLenSingle, avctHdrLenStart, avctHdrLenCont, avctHdrLenEnd].getD pktType.toNat 0

@[simp] theorem avctLcbPktTypeLen_single : avctLcbPktTypeLen avctPktTypeSingle = avctHdrLenSingle :=
  rfl

@[simp] theorem avctLcbPktTypeLen_start : avctLcbPktTypeLen avctPktTypeStart = avctHdrLenStart :=
  rfl

@[simp] theorem avctLcbPktTypeLen_cont : avctLcbPktTypeLen avctPktTypeCont = avctHdrLenCont := rfl

@[simp] theorem avctLcbPktTypeLen_end : avctLcbPktTypeLen avctPktTypeEnd = avctHdrLenEnd := rfl

/-- `AVCT_BUILD_HDR`: label, packet type and the C/R and IPID bits in one octet. -/
def avctBuildHdr (label pktType crIpid : UInt8) : UInt8 :=
  (label <<< 4) ||| (pktType <<< 2) ||| crIpid

/-- `AVCT_PKT_TYPE`. -/
def avctPktType (header : UInt8) : UInt8 := (header >>> 2) &&& 3

/-- `UINT16_TO_BE_STREAM`. -/
def uint16ToBeStream (value : UInt16) : List UInt8 := [(value >>> 8).toUInt8, value.toUInt8]

/-! ## Sending -/

/-- `tAVCT_UL_MSG`: the `len` octets of its buffer, its label, its C/R and IPID bits, and the
PID of its connection. -/
structure UlMsg where
  /-- The `len` octets of `p_buf`. -/
  data : List UInt8
  /-- `label`. -/
  label : UInt8
  /-- `cr`. -/
  cr : UInt8
  /-- `p_ccb->cc.pid`. -/
  pid : UInt16
  deriving DecidableEq, Repr

/-- The part of `tAVCT_LCB` that `avct_lcb_send_msg` uses. -/
structure AvctLcb where
  /-- `peer_mtu`. -/
  peerMtu : Nat
  /-- `cong`. -/
  cong : Bool
  /-- `tx_q`. -/
  txQ : List (List UInt8)
  deriving DecidableEq, Repr

/-- The header octets of a packet of `msg`: NOSP after a START header octet, the PID after a
SINGLE or START one. -/
def UlMsg.header (msg : UlMsg) (nosp pktType : UInt8) : List UInt8 :=
  avctBuildHdr msg.label pktType msg.cr ::
    ((if pktType = avctPktTypeStart then [nosp] else []) ++
      (if pktType = avctPktTypeStart ∨ pktType = avctPktTypeSingle then uint16ToBeStream msg.pid
        else []))

@[simp] theorem UlMsg.header_single (msg : UlMsg) (nosp : UInt8) :
    msg.header nosp avctPktTypeSingle =
      avctBuildHdr msg.label avctPktTypeSingle msg.cr :: uint16ToBeStream msg.pid := rfl

@[simp] theorem UlMsg.header_start (msg : UlMsg) (nosp : UInt8) :
    msg.header nosp avctPktTypeStart =
      avctBuildHdr msg.label avctPktTypeStart msg.cr :: nosp :: uint16ToBeStream msg.pid := rfl

@[simp] theorem UlMsg.header_cont (msg : UlMsg) (nosp : UInt8) :
    msg.header nosp avctPktTypeCont = [avctBuildHdr msg.label avctPktTypeCont msg.cr] := rfl

@[simp] theorem UlMsg.header_end (msg : UlMsg) (nosp : UInt8) :
    msg.header nosp avctPktTypeEnd = [avctBuildHdr msg.label avctPktTypeEnd msg.cr] := rfl

/-- The NOSP that `avct_lcb_send_msg` computes for a `len`-octet message. -/
def avctNosp (peerMtu len : Nat) : UInt8 :=
  UInt8.ofNat ((len + avctHdrLenStart - peerMtu) / (peerMtu - 1) + 1 +
    if (len + avctHdrLenStart - peerMtu) % (peerMtu - 1) ≠ 0 then 1 else 0)

/-- The locals of the loop of `avct_lcb_send_msg` and the LCB, with the packets passed on. -/
structure SendLoop where
  /-- The LCB. -/
  lcb : AvctLcb
  /-- What `p_data->ul_msg.p_buf` holds. -/
  rest : List UInt8
  /-- `curr_msg_len`. -/
  currMsgLen : Nat
  /-- `pkt_type`. -/
  pktType : UInt8
  /-- How many packets this call has passed to `L2CA_DataWrite`. -/
  writes : Nat
  /-- The packets passed to `L2CA_DataWrite`, in order. -/
  written : List (List UInt8)
  /-- Every packet of the call, written or queued, in order. -/
  sent : List (List UInt8)

/-- The loop of `avct_lcb_send_msg`.  `congests i` is whether `L2CA_DataWrite` answers congested
to the `i`-th packet of the call it writes. -/
def sendLoopBody (msg : UlMsg) (nosp : UInt8) (congests : Nat → Bool) (loop : SendLoop) :
    SendLoop ⊕ AvctLcb × List (List UInt8) :=
  if loop.currMsgLen = 0 then .inr (loop.lcb, loop.written)
  else
    let room := loop.lcb.peerMtu - avctLcbPktTypeLen loop.pktType
    -- a remainder longer than the room is cut; the last part is the message's own buffer
    let buf := if room < loop.rest.length then loop.rest.take room else loop.rest
    let rest := if room < loop.rest.length then loop.rest.drop room else loop.rest
    let currMsgLen := loop.currMsgLen - buf.length
    let packet := msg.header nosp loop.pktType ++ buf
    .inl
      { lcb := if loop.lcb.cong then { loop.lcb with txQ := loop.lcb.txQ ++ [packet] }
          else { loop.lcb with cong := congests loop.writes }
        rest := rest
        currMsgLen := currMsgLen
        pktType := if loop.lcb.peerMtu - avctHdrLenEnd < currMsgLen then avctPktTypeCont
          else avctPktTypeEnd
        writes := if loop.lcb.cong then loop.writes else loop.writes + 1
        written := if loop.lcb.cong then loop.written else loop.written ++ [packet]
        sent := loop.sent ++ [packet] }

/-- The packet type and NOSP that `avct_lcb_send_msg` starts with. -/
def startPktType (peerMtu : Nat) (msg : UlMsg) : UInt8 × UInt8 :=
  if msg.data.length ≤ peerMtu - avctHdrLenSingle then (avctPktTypeSingle, 0)
  else (avctPktTypeStart, avctNosp peerMtu msg.data.length)

/-- The loop of `avct_lcb_send_msg(p_lcb, msg)` as it starts. -/
def SendLoop.init (lcb : AvctLcb) (msg : UlMsg) : SendLoop :=
  ⟨lcb, msg.data, msg.data.length, (startPktType lcb.peerMtu msg).1, 0, [], []⟩

/-- `avct_lcb_send_msg(p_lcb, msg)`, run for at most `fuel` packets: the LCB after it and the
packets it passed to `L2CA_DataWrite`; the others are on `tx_q`. -/
def avctLcbSendMsg (congests : Nat → Bool) (fuel : Nat) (lcb : AvctLcb) (msg : UlMsg) :
    Option (AvctLcb × List (List UInt8)) :=
  Loop.run (sendLoopBody msg (startPktType lcb.peerMtu msg).2 congests) fuel (SendLoop.init lcb msg)

/-! ## The packets of a message -/

/-- The packets still to send when `p_buf` holds `rest` and the next packet is of type
`pktType`: one SINGLE packet; or a START packet with the first `peerMtu - 4` octets, then
CONTINUE packets of `peerMtu - 1` octets, the last of them an END packet; or only those. -/
def pendingPackets (peerMtu : Nat) (msg : UlMsg) (nosp pktType : UInt8) (rest : List UInt8) :
    List (List UInt8) :=
  if pktType = avctPktTypeSingle then [msg.header nosp avctPktTypeSingle ++ rest]
  else if pktType = avctPktTypeStart then
    (msg.header nosp avctPktTypeStart ++ rest.take (peerMtu - avctHdrLenStart)) ::
      contEndPackets (avctBuildHdr msg.label avctPktTypeCont msg.cr)
        (avctBuildHdr msg.label avctPktTypeEnd msg.cr)
        (fragment (peerMtu - avctHdrLenCont) (rest.drop (peerMtu - avctHdrLenStart)))
  else
    contEndPackets (avctBuildHdr msg.label avctPktTypeCont msg.cr)
      (avctBuildHdr msg.label avctPktTypeEnd msg.cr) (fragment (peerMtu - avctHdrLenCont) rest)

/-- The packets of an AVCTP message, framed as AVCTP frames a message. -/
def avctPackets (peerMtu : Nat) (msg : UlMsg) : List (List UInt8) :=
  pendingPackets peerMtu msg (startPktType peerMtu msg).2 (startPktType peerMtu msg).1 msg.data

/-- A packet type that agrees with what is left of the message: SINGLE or START as it fits in
one packet or not, CONTINUE or END as it fits after one header octet or not. -/
def Agrees (peerMtu : Nat) (pktType : UInt8) (rest : List UInt8) : Prop :=
  rest ≠ [] ∧
    (pktType = avctPktTypeSingle ∧ rest.length ≤ peerMtu - avctHdrLenSingle ∨
      pktType = avctPktTypeStart ∧ peerMtu - avctHdrLenSingle < rest.length ∨
      pktType = avctPktTypeCont ∧ peerMtu - avctHdrLenEnd < rest.length ∨
      pktType = avctPktTypeEnd ∧ rest.length ≤ peerMtu - avctHdrLenEnd)

/-! ## Whole calls -/

section Loop

variable {msg : UlMsg} {nosp : UInt8} {congests : Nat → Bool}

/-- What the loop of `avct_lcb_send_msg` keeps: the packets passed on and those left make up
`whole`; `curr_msg_len` is the length of what is left, which the packet type agrees with; and
the packets passed on are those written and, once the channel is congested, those queued on
`tx_q`. -/
structure SendLoop.Keeps (msg : UlMsg) (nosp : UInt8) (lcb : AvctLcb)
    (whole : List (List UInt8)) (loop : SendLoop) : Prop where
  mtu : loop.lcb.peerMtu = lcb.peerMtu
  packets : loop.sent ++ (if loop.currMsgLen = 0 then []
    else pendingPackets lcb.peerMtu msg nosp loop.pktType loop.rest) = whole
  left : loop.currMsgLen = 0 ∨
    loop.currMsgLen = loop.rest.length ∧ Agrees lcb.peerMtu loop.pktType loop.rest
  queue : ∃ queued, loop.lcb.txQ = lcb.txQ ++ queued ∧ loop.written ++ queued = loop.sent ∧
    (loop.lcb.cong = false → queued = [])

theorem sendLoopBody_of_done {loop : SendLoop} (done : loop.currMsgLen = 0) :
    sendLoopBody msg nosp congests loop = .inr (loop.lcb, loop.written) := by
  simp [sendLoopBody, done]

/-- The next state of the loop passes the packet `packet` on and leaves `rest` with
`currMsgLen` octets of the message: written while the channel is not congested, queued once it
is. -/
def SendLoop.next (loop : SendLoop) (congests : Nat → Bool) (packet rest : List UInt8)
    (currMsgLen : Nat) : SendLoop :=
  { lcb := if loop.lcb.cong then { loop.lcb with txQ := loop.lcb.txQ ++ [packet] }
      else { loop.lcb with cong := congests loop.writes }
    rest := rest
    currMsgLen := currMsgLen
    pktType := if loop.lcb.peerMtu - avctHdrLenEnd < currMsgLen then avctPktTypeCont
      else avctPktTypeEnd
    writes := if loop.lcb.cong then loop.writes else loop.writes + 1
    written := if loop.lcb.cong then loop.written else loop.written ++ [packet]
    sent := loop.sent ++ [packet] }

@[simp] theorem rest_next (loop : SendLoop) (congests : Nat → Bool) (packet rest : List UInt8)
    (currMsgLen : Nat) : (loop.next congests packet rest currMsgLen).rest = rest := rfl

@[simp] theorem currMsgLen_next (loop : SendLoop) (congests : Nat → Bool)
    (packet rest : List UInt8) (currMsgLen : Nat) :
    (loop.next congests packet rest currMsgLen).currMsgLen = currMsgLen := rfl

theorem sendLoopBody_of_cut {loop : SendLoop} (running : loop.currMsgLen ≠ 0)
    (cut : loop.lcb.peerMtu - avctLcbPktTypeLen loop.pktType < loop.rest.length) :
    sendLoopBody msg nosp congests loop = .inl (loop.next congests
      (msg.header nosp loop.pktType ++
        loop.rest.take (loop.lcb.peerMtu - avctLcbPktTypeLen loop.pktType))
      (loop.rest.drop (loop.lcb.peerMtu - avctLcbPktTypeLen loop.pktType))
      (loop.currMsgLen - (loop.lcb.peerMtu - avctLcbPktTypeLen loop.pktType))) := by
  simp only [sendLoopBody, running, if_false, if_pos cut, List.length_take,
    Nat.min_eq_left cut.le]
  rfl

theorem sendLoopBody_of_whole {loop : SendLoop} (running : loop.currMsgLen ≠ 0)
    (whole : loop.rest.length ≤ loop.lcb.peerMtu - avctLcbPktTypeLen loop.pktType) :
    sendLoopBody msg nosp congests loop = .inl (loop.next congests
      (msg.header nosp loop.pktType ++ loop.rest) loop.rest
      (loop.currMsgLen - loop.rest.length)) := by
  simp only [sendLoopBody, running, if_false, if_neg (Nat.not_lt.mpr whole)]
  rfl

/-- The packet type chosen for what is left after a packet agrees with it. -/
theorem agrees_next (peerMtu : Nat) {rest : List UInt8} (nonempty : rest ≠ []) :
    Agrees peerMtu (if peerMtu - avctHdrLenEnd < rest.length then avctPktTypeCont
      else avctPktTypeEnd) rest := by
  refine ⟨nonempty, ?_⟩
  split
  · next long => exact .inr (.inr (.inl ⟨rfl, long⟩))
  · next short => exact .inr (.inr (.inr ⟨rfl, Nat.le_of_not_lt short⟩))

theorem pendingPackets_of_contEnd {peerMtu : Nat} {nosp pktType : UInt8} (rest : List UInt8)
    (later : pktType = avctPktTypeCont ∨ pktType = avctPktTypeEnd) :
    pendingPackets peerMtu msg nosp pktType rest =
      contEndPackets (avctBuildHdr msg.label avctPktTypeCont msg.cr)
        (avctBuildHdr msg.label avctPktTypeEnd msg.cr)
        (fragment (peerMtu - avctHdrLenCont) rest) := by
  rcases later with rfl | rfl <;> rfl

/-- Passing on the first of the packets left keeps the loop's invariant. -/
theorem keeps_next {lcb : AvctLcb} {whole : List (List UInt8)} {loop : SendLoop}
    (keeps : loop.Keeps msg nosp lcb whole) {packet rest : List UInt8} {currMsgLen : Nat}
    (first : packet :: (if currMsgLen = 0 then [] else pendingPackets lcb.peerMtu msg nosp
        (if lcb.peerMtu - avctHdrLenEnd < currMsgLen then avctPktTypeCont else avctPktTypeEnd)
        rest) =
      pendingPackets lcb.peerMtu msg nosp loop.pktType loop.rest)
    (running : loop.currMsgLen ≠ 0)
    (left : currMsgLen = 0 ∨ currMsgLen = rest.length ∧ Agrees lcb.peerMtu
      (if lcb.peerMtu - avctHdrLenEnd < currMsgLen then avctPktTypeCont else avctPktTypeEnd)
      rest) :
    (loop.next congests packet rest currMsgLen).Keeps msg nosp lcb whole := by
  obtain ⟨queued, txQ, split, quiet⟩ := keeps.queue
  have mtu : (loop.next congests packet rest currMsgLen).lcb.peerMtu = lcb.peerMtu := by
    unfold SendLoop.next
    split <;> exact keeps.mtu
  refine ⟨mtu, ?_, ?_, ?_⟩
  · rw [← keeps.packets, if_neg running, ← first]
    simp [SendLoop.next, keeps.mtu]
  · simpa [SendLoop.next, keeps.mtu] using left
  · unfold SendLoop.next
    cases congested : loop.lcb.cong
    · obtain rfl := quiet congested
      exact ⟨[], by simpa using txQ, by simp [← split], fun _ => rfl⟩
    · refine ⟨queued ++ [packet], by simp [txQ], by simp [← split], ?_⟩
      simp [congested]

/-- One pass of the loop passes on the first of the packets left and shortens what is left. -/
theorem keeps_sendLoopBody {lcb : AvctLcb} (large : 5 ≤ lcb.peerMtu)
    {whole : List (List UInt8)} {loop next : SendLoop} (keeps : loop.Keeps msg nosp lcb whole)
    (continues : sendLoopBody msg nosp congests loop = .inl next) :
    next.Keeps msg nosp lcb whole ∧ next.currMsgLen < loop.currMsgLen := by
  have running : loop.currMsgLen ≠ 0 := by
    intro done
    rw [sendLoopBody_of_done done] at continues
    cases continues
  obtain ⟨length, nonempty, agrees⟩ := keeps.left.resolve_left running
  have mtu := keeps.mtu
  have positive : 0 < lcb.peerMtu - avctHdrLenCont := by
    unfold avctHdrLenCont
    omega
  rcases agrees with ⟨single, fits⟩ | ⟨start, long⟩ | ⟨cont, long⟩ | ⟨last, short⟩
  · have room : loop.rest.length ≤ loop.lcb.peerMtu - avctLcbPktTypeLen loop.pktType := by
      rw [single, mtu]
      exact fits
    rw [sendLoopBody_of_whole running room] at continues
    cases continues
    refine ⟨keeps_next keeps ?_ running (.inl (by omega)), by simp; omega⟩
    simp [pendingPackets, single, length]
  · have room : loop.lcb.peerMtu - avctLcbPktTypeLen loop.pktType < loop.rest.length := by
      rw [start, mtu, avctLcbPktTypeLen_start]
      unfold avctHdrLenSingle at long
      unfold avctHdrLenStart
      omega
    rw [sendLoopBody_of_cut running room] at continues
    cases continues
    rw [start, mtu, avctLcbPktTypeLen_start] at room ⊢
    have after : loop.currMsgLen - (lcb.peerMtu - avctHdrLenStart) =
        (loop.rest.drop (lcb.peerMtu - avctHdrLenStart)).length := by
      simp [length]
    have rest : loop.rest.drop (lcb.peerMtu - avctHdrLenStart) ≠ [] := by
      simpa [← List.length_pos_iff] using room
    refine ⟨keeps_next keeps ?_ running (.inr ⟨after, by rw [after]; exact agrees_next _ rest⟩),
      by simp only [currMsgLen_next]; unfold avctHdrLenStart; omega⟩
    rw [if_neg (by rw [after]; exact List.length_pos_iff.mpr rest |>.ne'), after,
      pendingPackets_of_contEnd _ (by split <;> simp)]
    simp only [pendingPackets, start]
    rfl
  · have room : loop.lcb.peerMtu - avctLcbPktTypeLen loop.pktType < loop.rest.length := by
      rw [cont, mtu, avctLcbPktTypeLen_cont]
      exact long
    rw [sendLoopBody_of_cut running room] at continues
    cases continues
    rw [cont, mtu, avctLcbPktTypeLen_cont] at room ⊢
    have after : loop.currMsgLen - (lcb.peerMtu - avctHdrLenCont) =
        (loop.rest.drop (lcb.peerMtu - avctHdrLenCont)).length := by
      simp [length]
    have rest : loop.rest.drop (lcb.peerMtu - avctHdrLenCont) ≠ [] := by
      simpa [← List.length_pos_iff] using room
    refine ⟨keeps_next keeps ?_ running (.inr ⟨after, by rw [after]; exact agrees_next _ rest⟩),
      by simp only [currMsgLen_next]; unfold avctHdrLenCont; omega⟩
    rw [if_neg (by rw [after]; exact List.length_pos_iff.mpr rest |>.ne'), after,
      pendingPackets_of_contEnd _ (by split <;> simp), pendingPackets_of_contEnd _ (.inl cont),
      contEndPackets_fragment_of_long positive room]
    simp
  · have room : loop.rest.length ≤ loop.lcb.peerMtu - avctLcbPktTypeLen loop.pktType := by
      rw [last, mtu, avctLcbPktTypeLen_end]
      exact short
    rw [sendLoopBody_of_whole running room] at continues
    cases continues
    refine ⟨keeps_next keeps ?_ running (.inl (by omega)), by simp; omega⟩
    rw [if_pos (by omega), pendingPackets_of_contEnd _ (.inr last),
      contEndPackets_fragment_of_short positive nonempty short]
    simp [last]

theorem sendLoopBody_eq_inr {loop : SendLoop} {result : AvctLcb × List (List UInt8)}
    (leaves : sendLoopBody msg nosp congests loop = .inr result) :
    loop.currMsgLen = 0 ∧ result = (loop.lcb, loop.written) := by
  by_cases done : loop.currMsgLen = 0
  · rw [sendLoopBody_of_done done] at leaves
    cases leaves
    exact ⟨done, rfl⟩
  · simp [sendLoopBody, done] at leaves

/-- `avct_lcb_send_msg` on a message that is not empty returns, whatever the channel's
congestion, having passed on all of its packets in order: those it wrote, and after them those
it queued on `tx_q`. -/
theorem avctLcbSendMsg_spec {lcb : AvctLcb} (large : 5 ≤ lcb.peerMtu) (congests : Nat → Bool)
    {msg : UlMsg} (nonempty : msg.data ≠ []) (fuel : Nat) (enough : msg.data.length < fuel) :
    ∃ lcb' written, avctLcbSendMsg congests fuel lcb msg = some (lcb', written) ∧
      lcb'.peerMtu = lcb.peerMtu ∧
      ∃ queued, lcb'.txQ = lcb.txQ ++ queued ∧ written ++ queued = avctPackets lcb.peerMtu msg := by
  have agrees : Agrees lcb.peerMtu (startPktType lcb.peerMtu msg).1 msg.data := by
    refine ⟨nonempty, ?_⟩
    unfold startPktType
    split
    · next fits => exact .inl ⟨rfl, fits⟩
    · next long => exact .inr (.inl ⟨rfl, Nat.lt_of_not_le long⟩)
  have initial : (SendLoop.init lcb msg).Keeps msg (startPktType lcb.peerMtu msg).2 lcb
      (avctPackets lcb.peerMtu msg) := by
    refine ⟨rfl, ?_, .inr ⟨rfl, agrees⟩, ⟨[], by simp [SendLoop.init], rfl, fun _ => rfl⟩⟩
    simp [SendLoop.init, avctPackets, List.length_pos_iff.mpr nonempty |>.ne']
  have keeps : ∀ loop next, loop.Keeps msg (startPktType lcb.peerMtu msg).2 lcb
      (avctPackets lcb.peerMtu msg) →
      sendLoopBody msg (startPktType lcb.peerMtu msg).2 congests loop = .inl next →
        next.Keeps msg (startPktType lcb.peerMtu msg).2 lcb (avctPackets lcb.peerMtu msg) :=
    fun loop next holds continues => (keeps_sendLoopBody large holds continues).1
  have runs := Loop.isSome_run_of_measure _ SendLoop.currMsgLen keeps
    (fun loop next holds continues => (keeps_sendLoopBody large holds continues).2) fuel _
    initial enough
  obtain ⟨⟨lcb', written⟩, ran⟩ := Option.isSome_iff_exists.mp runs
  refine ⟨lcb', written, ran, ?_⟩
  refine Loop.run_invariant _ (fun result : AvctLcb × List (List UInt8) =>
      result.1.peerMtu = lcb.peerMtu ∧ ∃ queued, result.1.txQ = lcb.txQ ++ queued ∧
        result.2 ++ queued = avctPackets lcb.peerMtu msg)
    keeps (fun loop result holds leaves => ?_) fuel _ _ initial ran
  obtain ⟨done, rfl⟩ := sendLoopBody_eq_inr leaves
  obtain ⟨queued, txQ, split, -⟩ := holds.queue
  refine ⟨holds.mtu, queued, txQ, ?_⟩
  rw [split, ← holds.packets, if_pos done, List.append_nil]

/-- An empty message leaves `avct_lcb_send_msg` at once: no packet at all is sent, not even a
SINGLE packet with the header and PID. -/
theorem avctLcbSendMsg_of_empty (congests : Nat → Bool) (fuel : Nat) (lcb : AvctLcb) {msg : UlMsg}
    (empty : msg.data = []) :
    avctLcbSendMsg congests (fuel + 1) lcb msg = some (lcb, []) := by
  unfold avctLcbSendMsg
  rw [Loop.run_succ_of_inr (sendLoopBody_of_done (by simp [SendLoop.init, empty]))]
  rfl

end Loop

/-! ## Receiving -/


/-- `avct_lcb_msg_asmbl`.  Unlike `avdt_msg_asmbl`, it first drops any buffer that would not fit
`BT_DEFAULT_BUFFER_SIZE`, of every packet type. -/
def avctLcbMsgAsmbl (pRxMsg : Option RxMsg) (pBuf : RxBuf) : Option RxMsg × Option RxBuf :=
  match pBuf.data with
  | [] => (pRxMsg, none)
  | header :: rest =>
    if pBuf.data.length < avctLcbPktTypeLen (avctPktType header) ∨
        btDefaultBufferSize < btHdrSize + pBuf.offset + pBuf.data.length then (pRxMsg, none)
    else if avctPktType header = avctPktTypeSingle then (none, some pBuf)
    else if avctPktType header = avctPktTypeStart then
      if btDefaultBufferSize < btHdrSize + pBuf.offset + pBuf.data.length then (none, none)
      else (some ⟨pBuf.offset + pBuf.data.length, header :: rest.drop 1⟩, none)
    else
      match pRxMsg with
      | none => (none, none)
      | some rxMsg =>
        if btDefaultBufferSize - btHdrSize < rxMsg.offset + rest.length then (none, none)
        else if avctPktType header = avctPktTypeEnd then
          (none, some ⟨rxMsg.offset - rxMsg.data.length, rxMsg.data ++ rest⟩)
        else (some ⟨rxMsg.offset + rest.length, rxMsg.data ++ rest⟩, none)

/-- On a buffer that fits `BT_DEFAULT_BUFFER_SIZE`, `avct_lcb_msg_asmbl` is the reassembly of
`avdt_msg_asmbl` with AVCTP's header lengths. -/
theorem avctLcbMsgAsmbl_of_fits (pRxMsg : Option RxMsg) {pBuf : RxBuf}
    (fits : btHdrSize + pBuf.offset + pBuf.data.length ≤ btDefaultBufferSize) :
    avctLcbMsgAsmbl pRxMsg pBuf = msgAsmbl avctLcbPktTypeLen pRxMsg pBuf := by
  obtain ⟨offset, data⟩ := pBuf
  cases data with
  | nil => rfl
  | cons header rest =>
    simp only [avctLcbMsgAsmbl, msgAsmbl, Nat.not_lt.mpr fits, or_false]
    rfl

/-- A buffer too big for `BT_DEFAULT_BUFFER_SIZE` is dropped and leaves the reassembly as it
was, where `avdt_msg_asmbl` would take a CONTINUE or END packet of it. -/
theorem avctLcbMsgAsmbl_of_too_big (pRxMsg : Option RxMsg) {pBuf : RxBuf}
    (tooBig : btDefaultBufferSize < btHdrSize + pBuf.offset + pBuf.data.length) :
    avctLcbMsgAsmbl pRxMsg pBuf = (pRxMsg, none) := by
  obtain ⟨offset, data⟩ := pBuf
  cases data with
  | nil => rfl
  | cons header rest =>
    simp only [avctLcbMsgAsmbl]
    rw [if_pos (Or.inr tooBig)]

/-! ## Sizes, count and NOSP -/

section Packets

variable {peerMtu : Nat} {msg : UlMsg}

theorem avctPackets_single (fits : msg.data.length ≤ peerMtu - avctHdrLenSingle) :
    avctPackets peerMtu msg = [msg.header 0 avctPktTypeSingle ++ msg.data] := by
  simp [avctPackets, startPktType, fits, pendingPackets]

theorem avctPackets_start (long : peerMtu - avctHdrLenSingle < msg.data.length) :
    avctPackets peerMtu msg =
      (msg.header (avctNosp peerMtu msg.data.length) avctPktTypeStart ++
          msg.data.take (peerMtu - avctHdrLenStart)) ::
        contEndPackets (avctBuildHdr msg.label avctPktTypeCont msg.cr)
          (avctBuildHdr msg.label avctPktTypeEnd msg.cr)
          (fragment (peerMtu - avctHdrLenCont) (msg.data.drop (peerMtu - avctHdrLenStart))) := by
  have start : avctPktTypeStart ≠ avctPktTypeSingle := by decide
  simp [avctPackets, startPktType, Nat.not_le.mpr long, pendingPackets, start]

/-- No packet is longer than the peer's MTU. -/
theorem length_le_of_mem_avctPackets (large : 5 ≤ peerMtu) {packet : List UInt8}
    (member : packet ∈ avctPackets peerMtu msg) : packet.length ≤ peerMtu := by
  have positive : 0 < peerMtu - avctHdrLenCont := by
    unfold avctHdrLenCont
    omega
  by_cases fits : msg.data.length ≤ peerMtu - avctHdrLenSingle
  · rw [avctPackets_single fits] at member
    obtain rfl := List.mem_singleton.mp member
    unfold avctHdrLenSingle at fits
    simp [UlMsg.header, uint16ToBeStream, avctPktTypeSingle, avctPktTypeStart]
    omega
  · rw [avctPackets_start (Nat.lt_of_not_le fits)] at member
    rcases List.mem_cons.mp member with rfl | later
    · simp [UlMsg.header, uint16ToBeStream, avctPktTypeSingle, avctPktTypeStart, avctHdrLenStart]
      omega
    · have short := length_le_of_mem_contEndPackets_fragment positive later
      unfold avctHdrLenCont at short
      omega

/-- A message goes as one SINGLE packet exactly when it fits in `peerMtu - 3` octets. -/
theorem avctPackets_length_eq_one_iff (large : 5 ≤ peerMtu) :
    (avctPackets peerMtu msg).length = 1 ↔ msg.data.length ≤ peerMtu - avctHdrLenSingle := by
  by_cases fits : msg.data.length ≤ peerMtu - avctHdrLenSingle
  · simp [avctPackets_single fits, fits]
  · have long := Nat.lt_of_not_le fits
    have rest : msg.data.drop (peerMtu - avctHdrLenStart) ≠ [] := by
      unfold avctHdrLenSingle at long
      simpa [← List.length_pos_iff, avctHdrLenStart] using
        (by omega : peerMtu - 4 < msg.data.length)
    have more := fragment_ne_nil
      (show 0 < peerMtu - avctHdrLenCont by unfold avctHdrLenCont; omega) rest
    simp [avctPackets_start long, fits, List.length_pos_iff.mpr more |>.ne']

/-- The NOSP of the START packet is the number of packets: `avct_lcb_send_msg` rounds the
division up. -/
theorem avctNosp_eq (large : 5 ≤ peerMtu) (long : peerMtu - avctHdrLenSingle < msg.data.length) :
    avctNosp peerMtu msg.data.length = UInt8.ofNat (avctPackets peerMtu msg).length := by
  have positive : 0 < peerMtu - avctHdrLenCont := by
    unfold avctHdrLenCont
    omega
  have rest : (msg.data.drop (peerMtu - avctHdrLenStart)).length =
      msg.data.length + avctHdrLenStart - peerMtu := by
    unfold avctHdrLenSingle at long
    simp only [List.length_drop, avctHdrLenStart]
    omega
  rw [avctPackets_start long, List.length_cons, length_contEndPackets, length_fragment positive,
    rest, avctNosp]
  unfold avctHdrLenSingle at long
  unfold avctHdrLenStart avctHdrLenCont
  obtain ⟨after, split⟩ : ∃ after, msg.data.length + 4 - peerMtu = after + 1 :=
    ⟨msg.data.length + 3 - peerMtu, by omega⟩
  have ceiling : (after + 1 + (peerMtu - 1) - 1) / (peerMtu - 1) = after / (peerMtu - 1) + 1 := by
    rw [show after + 1 + (peerMtu - 1) - 1 = after + (peerMtu - 1) by omega,
      Nat.add_div_right _ (by omega)]
  rw [split, ceiling, Nat.succ_div]
  simp only [ne_eq, ← Nat.dvd_iff_mod_eq_zero]
  by_cases divides : peerMtu - 1 ∣ after + 1 <;> simp [divides]

end Packets

/-- The peer rebuilds a message from its packets: `avct_lcb_msg_asmbl` on each packet in turn,
from no reassembly in progress, returns nothing for every packet but the last, and for the last
the header octet of the first packet (with the message's label and C/R and IPID bits), the PID
and the message, provided every buffer and the message fit `BT_DEFAULT_BUFFER_SIZE`. -/
theorem avctLcbMsgAsmbl_avctPackets {peerMtu : Nat} {msg : UlMsg} (large : 5 ≤ peerMtu)
    (crIpid : msg.cr < 4) (bufs : List RxBuf) (delivered : bufs.map RxBuf.data = avctPackets peerMtu msg)
    (each : ∀ buf ∈ bufs, btHdrSize + buf.offset + buf.data.length ≤ btDefaultBufferSize)
    (fits : btHdrSize + (bufs.headD ⟨0, []⟩).offset + 1 + (msg.data.length + 3) ≤
      btDefaultBufferSize) :
    ∃ offset, asmblAll avctLcbMsgAsmbl none bufs =
      (none, List.replicate (bufs.length - 1) none ++
        [some ⟨offset, avctBuildHdr msg.label (startPktType peerMtu msg).1 msg.cr ::
          (uint16ToBeStream msg.pid ++ msg.data)⟩]) := by
  have parses : ∀ pktType : UInt8, pktType < 4 →
      avdtMsgPrsPktType (avctBuildHdr msg.label pktType msg.cr) = pktType := fun pktType isType =>
    avdtMsgPrsPktType_avdtMsgBldHdr msg.label isType crIpid
  rw [asmblAll_congr (fun pRxMsg buf inside => avctLcbMsgAsmbl_of_fits pRxMsg (each buf inside))]
  by_cases short : msg.data.length ≤ peerMtu - avctHdrLenSingle
  · have single : (startPktType peerMtu msg).1 = avctPktTypeSingle := by
      simp [startPktType, short]
    rw [avctPackets_single short] at delivered
    rcases bufs with _ | ⟨⟨offset, data⟩, _ | ⟨_, _⟩⟩
    · cases delivered
    · obtain rfl : data = msg.header 0 avctPktTypeSingle ++ msg.data := by
        simpa using delivered
      have whole : avctLcbPktTypeLen avdtPktTypeSingle ≤
          (uint16ToBeStream msg.pid ++ msg.data).length + 1 := by
        simp [uint16ToBeStream, avdtPktTypeSingle, avctLcbPktTypeLen, avctHdrLenSingle]
      refine ⟨offset, ?_⟩
      rw [single, UlMsg.header_single, List.cons_append]
      simp [asmblAll, @msgAsmbl_single avctLcbPktTypeLen _
        (parses avctPktTypeSingle (by decide)) none offset _ whole]
    · simp at delivered
  · have long := Nat.lt_of_not_le short
    have start : (startPktType peerMtu msg).1 = avctPktTypeStart := by
      simp [startPktType, short]
    have positive : 0 < peerMtu - avctHdrLenCont := by
      unfold avctHdrLenCont
      omega
    unfold avctHdrLenSingle at long
    have first : (msg.data.take (peerMtu - avctHdrLenStart)).length = peerMtu - 4 := by
      simp only [List.length_take, avctHdrLenStart]
      omega
    have rest : msg.data.drop (peerMtu - avctHdrLenStart) ≠ [] := by
      simpa [← List.length_pos_iff, avctHdrLenStart] using (by omega : peerMtu - 4 < msg.data.length)
    rw [avctPackets_start (by unfold avctHdrLenSingle; omega)] at delivered
    rcases bufs with _ | ⟨⟨offset, data⟩, bufs⟩
    · cases delivered
    simp only [List.map_cons, List.cons.injEq] at delivered
    obtain ⟨rfl, later⟩ := delivered
    simp only [List.headD_cons] at fits
    have count : bufs.length = (fragment (peerMtu - avctHdrLenCont)
        (msg.data.drop (peerMtu - avctHdrLenStart))).length := by
      simpa using congrArg List.length later
    have packet : msg.header (avctNosp peerMtu msg.data.length) avctPktTypeStart ++
        msg.data.take (peerMtu - avctHdrLenStart) =
          avctBuildHdr msg.label avctPktTypeStart msg.cr :: avctNosp peerMtu msg.data.length ::
            (uint16ToBeStream msg.pid ++ msg.data.take (peerMtu - avctHdrLenStart)) := by
      simp
    refine ⟨offset + 1, ?_⟩
    rw [packet, asmblAll_start (by decide) (by decide) (parses avctPktTypeStart (by decide))
      (parses avctPktTypeCont (by decide)) (parses avctPktTypeEnd (by decide))
      (by simp [uint16ToBeStream, avdtPktTypeStart, avctLcbPktTypeLen, avctHdrLenStart])
      (fragment_ne_nil positive rest) offset later
      (by
        rw [List.length_append, first, flatten_fragment positive, List.length_drop]
        simp only [uint16ToBeStream, List.length_cons, List.length_nil, avctHdrLenStart]
        omega)]
    simp [count, start, flatten_fragment positive]

end Bluetooth.Avct

import Bluetooth.Lib.ByteStream

set_option linter.all false

/-!
# The BNEP receive path

`bnep_data_ind` takes an L2CAP payload: a type octet with the extension bit, the header of that
frame type, extension headers, and the data.  Control frames and filter-control extension
headers are handed to `bnep_process_control_packet`, which reads one control message and
calls the filter and setup handlers.  Every read goes through `ByteStream`, so a run that
returns read only octets of the payload.

The BNEP specification frames an extension header as a type octet, a length octet and that many
octets.  `bnep_process_control_packet` consumes the control message inside an extension by the
message's own layout; it uses the length octet only for a control type it does not know.  When
the two disagree, the octets left over in the extension header are handed up as data
(`bnepDataInd_misframes_extension`).

The setup handlers `bnep_process_setup_conn_req` and `bnep_process_setup_conn_responce` reach
the security manager and the profile.  They are parameters here, given the octets they read.
-/

namespace Bluetooth.Bnep

open ByteStream

/-- `bnep_frame_hdr_sizes`: the header octets after the type octet, by frame type. -/
def bnepFrameHdrSizes : List Nat := [14, 1, 2, 8, 8]

/-- `BNEP_MTU_SIZE`, which is `L2CAP_MTU_SIZE`. -/
def bnepMtuSize : Nat := 1691

/-- `BNEP_FRAME_GENERAL_ETHERNET`. -/
def bnepFrameGeneralEthernet : UInt8 := 0x00
/-- `BNEP_FRAME_CONTROL`. -/
def bnepFrameControl : UInt8 := 0x01
/-- `BNEP_FRAME_COMPRESSED_ETHERNET`. -/
def bnepFrameCompressedEthernet : UInt8 := 0x02
/-- `BNEP_FRAME_COMPRESSED_ETHERNET_SRC_ONLY`. -/
def bnepFrameCompressedEthernetSrcOnly : UInt8 := 0x03
/-- `BNEP_FRAME_COMPRESSED_ETHERNET_DEST_ONLY`. -/
def bnepFrameCompressedEthernetDestOnly : UInt8 := 0x04

/-- `BNEP_CONTROL_COMMAND_NOT_UNDERSTOOD`. -/
def bnepControlCommandNotUnderstood : UInt8 := 0x00
/-- `BNEP_SETUP_CONNECTION_REQUEST_MSG`. -/
def bnepSetupConnectionRequestMsg : UInt8 := 0x01
/-- `BNEP_SETUP_CONNECTION_RESPONSE_MSG`. -/
def bnepSetupConnectionResponseMsg : UInt8 := 0x02
/-- `BNEP_FILTER_NET_TYPE_SET_MSG`. -/
def bnepFilterNetTypeSetMsg : UInt8 := 0x03
/-- `BNEP_FILTER_NET_TYPE_RESPONSE_MSG`. -/
def bnepFilterNetTypeResponseMsg : UInt8 := 0x04
/-- `BNEP_FILTER_MULTI_ADDR_SET_MSG`. -/
def bnepFilterMultiAddrSetMsg : UInt8 := 0x05
/-- `BNEP_FILTER_MULTI_ADDR_RESPONSE_MSG`. -/
def bnepFilterMultiAddrResponseMsg : UInt8 := 0x06

/-- `BNEP_EXTENSION_FILTER_CONTROL`. -/
def bnepExtensionFilterControl : UInt8 := 0x00

/-- `BNEP_FILTER_CRL_OK`. -/
def bnepFilterCrlOk : UInt16 := 0x0000
/-- `BNEP_FILTER_CRL_BAD_RANGE`. -/
def bnepFilterCrlBadRange : UInt16 := 0x0002
/-- `BNEP_FILTER_CRL_MAX_REACHED`. -/
def bnepFilterCrlMaxReached : UInt16 := 0x0003

/-- `BNEP_SUCCESS`. -/
def bnepSuccess : UInt8 := 0
/-- `BNEP_SET_FILTER_FAIL`. -/
def bnepSetFilterFail : UInt8 := 12

/-- `BNEP_STATE_CONNECTED`. -/
def bnepStateConnected : UInt8 := 6
/-- `BNEP_FLAGS_FILTER_RESP_PEND`. -/
def bnepFlagsFilterRespPend : UInt8 := 0x10
/-- `BNEP_FLAGS_MULTI_RESP_PEND`. -/
def bnepFlagsMultiRespPend : UInt8 := 0x20
/-- `BNEP_FLAGS_CONN_COMPLETED`. -/
def bnepFlagsConnCompleted : UInt8 := 0x80

/-- `BNEP_MAX_PROT_FILTERS`. -/
def bnepMaxProtFilters : Nat := 5
/-- `BNEP_MAX_MULTI_FILTERS`. -/
def bnepMaxMultiFilters : Nat := 5
/-- `BD_ADDR_LEN`. -/
def bdAddrLen : Nat := 6

/-- The fields of `tBNEP_CONN` that the receive path reads or writes.  A `RawAddress` is its
six octets. -/
structure BnepConn where
  conState : UInt8
  conFlags : UInt8
  pendingData : Option (List UInt8)
  rcvdNumFilters : UInt16
  rcvdProtFilterStart : Vector UInt16 bnepMaxProtFilters
  rcvdProtFilterEnd : Vector UInt16 bnepMaxProtFilters
  rcvdMcastFilters : UInt16
  rcvdMcastFilterStart : Vector (List UInt8) bnepMaxMultiFilters
  rcvdMcastFilterEnd : Vector (List UInt8) bnepMaxMultiFilters
deriving DecidableEq, Repr

/-- The test the filter handlers make before they act: connected, or a connection completed
before a role change. -/
def BnepConn.connectedOrCompleted (bcb : BnepConn) : Bool :=
  bcb.conState = bnepStateConnected || bcb.conFlags &&& bnepFlagsConnCompleted ≠ 0

/-- What the receive path asks of the rest of the stack.  A pointer into the payload is its
offset, and `none` stands for `NULL` or for the address `bnep_data_ind` supplies itself. -/
inductive BnepAction where
  /-- `bnep_send_command_not_understood`. -/
  | sendCommandNotUnderstood (cmdCode : UInt8)
  /-- `bnepu_send_peer_filter_rsp`. -/
  | sendPeerFilterRsp (responseCode : UInt16)
  /-- `bnepu_send_peer_multicast_filter_rsp`. -/
  | sendPeerMulticastFilterRsp (responseCode : UInt16)
  /-- `p_filter_ind_cb(handle, indication, result, num_filters, p_filters)`. -/
  | filterInd (indication : Bool) (result : UInt8) (numFilters : Nat) (filters : Option Nat)
  /-- `p_mfilter_ind_cb(handle, indication, result, num_mfilters, p_mfilters)`. -/
  | mfilterInd (indication : Bool) (result : UInt8) (numFilters : Nat) (filters : Option Nat)
  /-- `bnep_process_setup_conn_req(p_bcb, p, len)`, with the two UUIDs it may read. -/
  | setupConnReq (len : Nat) (uuids : List UInt8)
  /-- `bnep_process_setup_conn_responce(p_bcb, p)`, with the response code it reads. -/
  | setupConnResponce (response : List UInt8)
  /-- `p_data_buf_cb` with `p_buf` at `offset` for `len` octets, or `p_data_ind_cb` with `p`
  and `rem_len`, and the source and destination addresses. -/
  | dataInd (source destination : Option Nat) (protocol : UInt16) (offset len : Nat)
      (p : Option Nat) (fwExtPresent : Bool)
deriving DecidableEq, Repr

section Handlers

variable (payload : List UInt8)

/-- `bnepu_process_peer_filter_rsp` with `p_data` at `p`. -/
def bnepuProcessPeerFilterRsp (bcb : BnepConn) (p : Nat) :
    Except Nat (BnepConn × List BnepAction) :=
  if !bcb.connectedOrCompleted then pure (bcb, [])
  else if bcb.conFlags &&& bnepFlagsFilterRespPend = 0 then pure (bcb, [])
  else do
    let respCode ← be16 payload p
    let result := if respCode ≠ bnepFilterCrlOk then bnepSetFilterFail else bnepSuccess
    pure ({ bcb with conFlags := bcb.conFlags &&& ~~~bnepFlagsFilterRespPend },
      [.filterInd false result 0 none])

/-- `bnepu_process_multicast_filter_rsp` with `p_data` at `p`. -/
def bnepuProcessMulticastFilterRsp (bcb : BnepConn) (p : Nat) :
    Except Nat (BnepConn × List BnepAction) :=
  if !bcb.connectedOrCompleted then pure (bcb, [])
  else if bcb.conFlags &&& bnepFlagsMultiRespPend = 0 then pure (bcb, [])
  else do
    let respCode ← be16 payload p
    let result := if respCode ≠ bnepFilterCrlOk then bnepSetFilterFail else bnepSuccess
    pure ({ bcb with conFlags := bcb.conFlags &&& ~~~bnepFlagsMultiRespPend },
      [.mfilterInd false result 0 none])

/-- The validation loop of `bnepu_process_peer_filter_set` over `count` ranges from `p`: the
first range whose start is above its end gives `BNEP_FILTER_CRL_BAD_RANGE`. -/
def validateProtFilters : Nat → Nat → Except Nat UInt16
  | _, 0 => pure bnepFilterCrlOk
  | p, count + 1 => do
    let start ← be16 payload p
    let stop ← be16 payload (p + 2)
    if start > stop then pure bnepFilterCrlBadRange else validateProtFilters (p + 4) count

/-- The storing loop of `bnepu_process_peer_filter_set`: range `xx` from `p`, and the
`count` after it. -/
def storeProtFilters : Nat → Nat → Nat → BnepConn → Except Nat BnepConn
  | _, _, 0, bcb => pure bcb
  | p, xx, count + 1, bcb => do
    let start ← be16 payload p
    let stop ← be16 payload (p + 2)
    storeProtFilters (p + 4) (xx + 1) count
      { bcb with
        rcvdProtFilterStart := bcb.rcvdProtFilterStart.setIfInBounds xx start
        rcvdProtFilterEnd := bcb.rcvdProtFilterEnd.setIfInBounds xx stop }

/-- `bnepu_process_peer_filter_set` with `p_filters` at `p` and `len` octets of filters. -/
def bnepuProcessPeerFilterSet (bcb : BnepConn) (p len : Nat) :
    Except Nat (BnepConn × List BnepAction) :=
  if !bcb.connectedOrCompleted then pure (bcb, [])
  else if len % 4 ≠ 0 then pure (bcb, [.sendPeerFilterRsp bnepFilterCrlBadRange])
  else do
    let numFilters := len / 4
    let respCode ← if numFilters ≤ bnepMaxProtFilters then validateProtFilters payload p numFilters
      else pure bnepFilterCrlMaxReached
    if respCode ≠ bnepFilterCrlOk then pure (bcb, [.sendPeerFilterRsp respCode])
    else do
      let bcb ← storeProtFilters payload p 0 numFilters
        { bcb with rcvdNumFilters := numFilters.toUInt16 }
      pure (bcb, [.filterInd true 0 len (some p), .sendPeerFilterRsp respCode])

/-- `memcmp(a, b, BD_ADDR_LEN) > 0` on two addresses. -/
def memcmpGt (a b : List UInt8) : Bool := decide (b < a)

/-- The validation loop of `bnepu_process_peer_multicast_filter_set`: whether each of the
`count` ranges from `p` starts at or below its end. -/
def validateMcastFilters : Nat → Nat → Except Nat Bool
  | _, 0 => pure true
  | p, count + 1 => do
    let start ← octets payload p bdAddrLen
    let stop ← octets payload (p + bdAddrLen) bdAddrLen
    if memcmpGt start stop then pure false
    else validateMcastFilters (p + 2 * bdAddrLen) count

/-- The storing loop of `bnepu_process_peer_multicast_filter_set`: range `xx` from `p` and the
`count` after it.  A range of two zero addresses blocks everything (`0xFFFF`) and ends the
loop.  Returns where `p_filters` is left. -/
def storeMcastFilters : Nat → Nat → Nat → BnepConn → Except Nat (BnepConn × Nat)
  | p, _, 0, bcb => pure (bcb, p)
  | p, xx, count + 1, bcb => do
    let start ← octets payload p bdAddrLen
    let stop ← octets payload (p + bdAddrLen) bdAddrLen
    let bcb := { bcb with
      rcvdMcastFilterStart := bcb.rcvdMcastFilterStart.setIfInBounds xx start
      rcvdMcastFilterEnd := bcb.rcvdMcastFilterEnd.setIfInBounds xx stop }
    if start = List.replicate bdAddrLen 0 ∧ stop = List.replicate bdAddrLen 0 then
      pure ({ bcb with rcvdMcastFilters := 0xFFFF }, p + 2 * bdAddrLen)
    else storeMcastFilters (p + 2 * bdAddrLen) (xx + 1) count bcb

/-- `bnepu_process_peer_multicast_filter_set` with `p_filters` at `p` and `len` octets of
filters.  The indication is given `p_filters` as the storing loop leaves it. -/
def bnepuProcessPeerMulticastFilterSet (bcb : BnepConn) (p len : Nat) :
    Except Nat (BnepConn × List BnepAction) :=
  if !bcb.connectedOrCompleted then pure (bcb, [])
  else if len % 12 ≠ 0 then pure (bcb, [.sendPeerMulticastFilterRsp bnepFilterCrlBadRange])
  else if len > bnepMaxMultiFilters * 2 * bdAddrLen then
    pure (bcb, [.sendPeerMulticastFilterRsp bnepFilterCrlMaxReached])
  else do
    let numFilters := len / 12
    let ordered ← if numFilters ≤ bnepMaxMultiFilters then validateMcastFilters payload p numFilters
      else pure true
    if !ordered then pure (bcb, [.sendPeerMulticastFilterRsp bnepFilterCrlBadRange])
    else do
      let (bcb, after) ← storeMcastFilters payload p 0 numFilters
        { bcb with rcvdMcastFilters := numFilters.toUInt16 }
      pure (bcb, [.sendPeerMulticastFilterRsp bnepFilterCrlOk, .mfilterInd true 0 len (some after)])

end Handlers

/-- What `bnep_process_control_packet` returns: the BCB, the actions taken, where the packet
goes on (`none` after a bad length) and the octets left in `rem_len`. -/
abbrev ControlResult := BnepConn × List BnepAction × Option Nat × Nat

section Control

variable (setupConnReq : BnepConn → Nat → List UInt8 → BnepConn)
  (setupConnResponce : BnepConn → List UInt8 → BnepConn) (payload : List UInt8)

/-- The `bad_packet_length` exit: no packet left. -/
def badPacketLength (bcb : BnepConn) (actions : List BnepAction) : Except Nat ControlResult :=
  pure (bcb, actions, none, 0)

/-- The switch of `bnep_process_control_packet` on the control type, with the message's body
at `p` and `remLen` octets left; `extLen` is the length octet of an extension header. -/
def processControlMessage (bcb : BnepConn) (controlType : UInt8) (extLen p remLen : Nat)
    (isExt : Bool) : Except Nat ControlResult :=
  if controlType = bnepControlCommandNotUnderstood then
    if remLen < 1 then badPacketLength bcb []
    else do
      let _ ← u8 payload p
      pure (bcb, [], some (p + 1), remLen - 1)
  else if controlType = bnepSetupConnectionRequestMsg then
    if remLen < 1 then badPacketLength bcb []
    else do
      let len ← u8 payload p
      if remLen < 2 * len.toNat + 1 then badPacketLength bcb []
      else if !isExt then do
        let uuids ← octets payload (p + 1) (2 * len.toNat)
        pure (setupConnReq bcb len.toNat uuids, [.setupConnReq len.toNat uuids],
          some (p + 1 + 2 * len.toNat), remLen - 2 * len.toNat - 1)
      else pure (bcb, [], some (p + 1 + 2 * len.toNat), remLen - 2 * len.toNat - 1)
  else if controlType = bnepSetupConnectionResponseMsg then
    if remLen < 2 then badPacketLength bcb []
    else if !isExt then do
      let response ← octets payload p 2
      pure (setupConnResponce bcb response, [.setupConnResponce response], some (p + 2),
        remLen - 2)
    else pure (bcb, [], some (p + 2), remLen - 2)
  else if controlType = bnepFilterNetTypeSetMsg then
    if remLen < 2 then badPacketLength bcb []
    else do
      let len ← be16 payload p
      if remLen < len.toNat + 2 then badPacketLength bcb []
      else do
        let (bcb, actions) ← bnepuProcessPeerFilterSet payload bcb (p + 2) len.toNat
        pure (bcb, actions, some (p + 2 + len.toNat), remLen - len.toNat - 2)
  else if controlType = bnepFilterNetTypeResponseMsg then
    if remLen < 2 then badPacketLength bcb []
    else do
      let (bcb, actions) ← bnepuProcessPeerFilterRsp payload bcb p
      pure (bcb, actions, some (p + 2), remLen - 2)
  else if controlType = bnepFilterMultiAddrSetMsg then
    if remLen < 2 then badPacketLength bcb []
    else do
      let len ← be16 payload p
      if remLen < len.toNat + 2 then badPacketLength bcb []
      else do
        let (bcb, actions) ← bnepuProcessPeerMulticastFilterSet payload bcb (p + 2) len.toNat
        pure (bcb, actions, some (p + 2 + len.toNat), remLen - len.toNat - 2)
  else if controlType = bnepFilterMultiAddrResponseMsg then
    if remLen < 2 then badPacketLength bcb []
    else do
      let (bcb, actions) ← bnepuProcessMulticastFilterRsp payload bcb p
      pure (bcb, actions, some (p + 2), remLen - 2)
  else
    if isExt ∧ 0 < extLen then
      if remLen < extLen - 1 then badPacketLength bcb [.sendCommandNotUnderstood controlType]
      else
        pure (bcb, [.sendCommandNotUnderstood controlType], some (p + (extLen - 1)),
          remLen - (extLen - 1))
    else pure (bcb, [.sendCommandNotUnderstood controlType], some p, remLen)

/-- The part of `bnep_process_control_packet` after the length octet of an extension header:
the control type at `p`, then the message. -/
def controlPacketBody (bcb : BnepConn) (extLen p remLen : Nat) (isExt : Bool) :
    Except Nat ControlResult :=
  if remLen < 1 then badPacketLength bcb []
  else
    (u8 payload p).bind fun controlType =>
      processControlMessage setupConnReq setupConnResponce payload bcb controlType extLen (p + 1)
        (remLen - 1) isExt

/-- `bnep_process_control_packet` at `p` with `remLen` octets left: the length octet of an
extension header, then the control type, then the message. -/
def bnepProcessControlPacket (bcb : BnepConn) (p remLen : Nat) (isExt : Bool) :
    Except Nat ControlResult :=
  if isExt then
    if remLen < 1 then badPacketLength bcb []
    else
      (u8 payload p).bind fun extLen =>
        controlPacketBody setupConnReq setupConnResponce payload bcb extLen.toNat (p + 1)
          (remLen - 1) true
  else controlPacketBody setupConnReq setupConnResponce payload bcb 0 p remLen false

end Control

/-- How a control result moved on from `p` with `remLen` octets left: the packet pointer went
forward by as many octets as `rem_len` went down, or the packet was dropped with nothing left. -/
def Advances (p remLen : Nat) (r : ControlResult) : Prop :=
  (r.2.2.1 = none ∧ r.2.2.2 = 0) ∨ ∃ q, r.2.2.1 = some q ∧ p ≤ q ∧ q + r.2.2.2 = p + remLen

/-- Every result of `run` advances from `p` with `remLen` left. -/
def AdvancesOn (p remLen : Nat) (run : Except Nat ControlResult) : Prop :=
  ∀ r, run = .ok r → Advances p remLen r

section Advances

variable {p remLen : Nat}

theorem Advances.remLen_le {r : ControlResult} (advances : Advances p remLen r) :
    r.2.2.2 ≤ remLen := by
  rcases advances with ⟨-, dropped⟩ | ⟨q, -, moved, sync⟩
  · rw [dropped]
    exact Nat.zero_le _
  · omega

theorem advancesOn_bind {α : Type} {x : Except Nat α} {f : α → Except Nat ControlResult}
    (next : ∀ a, AdvancesOn p remLen (f a)) : AdvancesOn p remLen (x >>= f) := by
  intro r run
  obtain ⟨a, -, run⟩ := bind_eq_ok.1 run
  exact next a r run

theorem advancesOn_bad (bcb : BnepConn) (actions : List BnepAction) :
    AdvancesOn p remLen (badPacketLength bcb actions) := by
  rintro _ ⟨⟩
  exact .inl ⟨rfl, rfl⟩

theorem advancesOn_some {q left : Nat} (bcb : BnepConn) (actions : List BnepAction)
    (moved : p ≤ q) (sync : q + left = p + remLen) :
    AdvancesOn p remLen (pure (bcb, actions, some q, left)) := by
  rintro _ ⟨⟩
  exact .inr ⟨q, rfl, moved, sync⟩

/-- A run that advances from a later point, with the octets skipped to reach it counted off,
advances from the earlier one. -/
theorem AdvancesOn.shift {p' remLen' : Nat} {run : Except Nat ControlResult}
    (advances : AdvancesOn p' remLen' run) (moved : p ≤ p') (sync : p' + remLen' = p + remLen) :
    AdvancesOn p remLen run := by
  intro r ran
  rcases advances r ran with dropped | ⟨q, next, later, synced⟩
  · exact .inl dropped
  · exact .inr ⟨q, next, by omega, by omega⟩

end Advances

section Control

variable (setupConnReq : BnepConn → Nat → List UInt8 → BnepConn)
  (setupConnResponce : BnepConn → List UInt8 → BnepConn) (payload : List UInt8)

/-- Every control message is consumed by the octets it moves over. -/
theorem processControlMessage_advances (bcb : BnepConn) (controlType : UInt8)
    (extLen p remLen : Nat) (isExt : Bool) :
    AdvancesOn p remLen (processControlMessage setupConnReq setupConnResponce payload bcb
      controlType extLen p remLen isExt) := by
  unfold processControlMessage
  split_ifs
  -- each branch checks its length, then reads, then moves `p` and `rem_len` together
  all_goals
    repeat
      first
        | exact advancesOn_bad _ _
        | exact advancesOn_some _ _ (by omega) (by omega)
        | (apply advancesOn_bind; intro _)
        | split

theorem controlPacketBody_advances (bcb : BnepConn) (extLen p remLen : Nat) (isExt : Bool) :
    AdvancesOn p remLen (controlPacketBody setupConnReq setupConnResponce payload bcb extLen p
      remLen isExt) := by
  unfold controlPacketBody
  split_ifs with empty
  · exact advancesOn_bad _ _
  · apply advancesOn_bind
    intro controlType
    exact (processControlMessage_advances setupConnReq setupConnResponce payload _ _ _ _ _
      _).shift (by omega) (by omega)

theorem bnepProcessControlPacket_advances (bcb : BnepConn) (p remLen : Nat) (isExt : Bool) :
    AdvancesOn p remLen (bnepProcessControlPacket setupConnReq setupConnResponce payload bcb p
      remLen isExt) := by
  unfold bnepProcessControlPacket
  split_ifs with empty
  · exact advancesOn_bad _ _
  · apply advancesOn_bind
    intro extLen
    exact (controlPacketBody_advances setupConnReq setupConnResponce payload _ _ _ _
      _).shift (by omega) (by omega)
  · exact controlPacketBody_advances setupConnReq setupConnResponce payload _ _ _ _ _

theorem remLen_le_of_bnepProcessControlPacket {bcb : BnepConn} {p remLen : Nat} {isExt : Bool}
    {r : ControlResult}
    (processed : bnepProcessControlPacket setupConnReq setupConnResponce payload bcb p remLen isExt
      = .ok r) : r.2.2.2 ≤ remLen :=
  (bnepProcessControlPacket_advances setupConnReq setupConnResponce payload bcb p remLen isExt r
    processed).remLen_le

/-- Inside an extension header a setup message is read past and not handed to the setup
handlers. -/
theorem processControlMessage_ext_handlers
    (setupConnReq' : BnepConn → Nat → List UInt8 → BnepConn)
    (setupConnResponce' : BnepConn → List UInt8 → BnepConn) (bcb : BnepConn)
    (controlType : UInt8) (extLen p remLen : Nat) :
    processControlMessage setupConnReq setupConnResponce payload bcb controlType extLen p remLen
        true =
      processControlMessage setupConnReq' setupConnResponce' payload bcb controlType extLen p
        remLen true := by
  rfl

theorem bnepProcessControlPacket_ext_handlers
    (setupConnReq' : BnepConn → Nat → List UInt8 → BnepConn)
    (setupConnResponce' : BnepConn → List UInt8 → BnepConn) (bcb : BnepConn) (p remLen : Nat) :
    bnepProcessControlPacket setupConnReq setupConnResponce payload bcb p remLen true =
      bnepProcessControlPacket setupConnReq' setupConnResponce' payload bcb p remLen true := by
  unfold bnepProcessControlPacket controlPacketBody
  simp only [processControlMessage_ext_handlers setupConnReq setupConnResponce payload
    setupConnReq' setupConnResponce', if_true]

/-- The loop of `bnep_data_ind` over the extension headers that follow a control frame.  It
consumes an extension's type octet before it checks the type, and a header of another type ends
the loop. -/
def controlExtensions (bcb : BnepConn) (extensionPresent : Bool) (p : Option Nat)
    (remLen : Nat) : Except Nat (BnepConn × List BnepAction) :=
  match p with
  | none => pure (bcb, [])
  | some p =>
    if _stop : !extensionPresent ∨ remLen = 0 then pure (bcb, [])
    else
      (u8 payload p).bind fun extType =>
        if extType &&& 0x7F ≠ bnepExtensionFilterControl then pure (bcb, [])
        else
          match _processed : bnepProcessControlPacket setupConnReq setupConnResponce payload bcb
            (p + 1) (remLen - 1) true with
          | .error fault => .error fault
          | .ok (bcb, actions, next, left) =>
            (controlExtensions bcb (extType >>> 7 = 1) next left).map fun (bcb, more) =>
              (bcb, actions ++ more)
termination_by remLen
decreasing_by
  have bounded := remLen_le_of_bnepProcessControlPacket setupConnReq setupConnResponce payload
    _processed
  simp only [Bool.not_eq_true', not_or] at _stop
  dsimp only at bounded
  omega

/-- The loop of `bnep_data_ind` over the extension headers of a data frame.  A header whose
type is not filter control is left unread in the data and ends the loop.  Returns the BCB, the
actions, the last extension type read, where the data starts and its length. -/
def dataExtensions (bcb : BnepConn) (extensionPresent : Bool) (extType : UInt8)
    (p : Option Nat) (remLen : Nat) :
    Except Nat (BnepConn × List BnepAction × UInt8 × Option Nat × Nat) :=
  match p with
  | none => pure (bcb, [], extType, none, remLen)
  | some p =>
    if _stop : !extensionPresent ∨ remLen = 0 then pure (bcb, [], extType, some p, remLen)
    else
      (u8 payload p).bind fun header =>
        if header &&& 0x7F ≠ 0 then pure (bcb, [], header &&& 0x7F, some p, remLen)
        else
          match _processed : bnepProcessControlPacket setupConnReq setupConnResponce payload bcb
            (p + 1) (remLen - 1) true with
          | .error fault => .error fault
          | .ok (bcb, actions, next, left) =>
            (dataExtensions bcb (header >>> 7 = 1) (header &&& 0x7F) next left).map
              fun (bcb, more, extType, next, left) => (bcb, actions ++ more, extType, next, left)
termination_by remLen
decreasing_by
  have bounded := remLen_le_of_bnepProcessControlPacket setupConnReq setupConnResponce payload
    _processed
  simp only [Bool.not_eq_true', not_or] at _stop
  dsimp only at bounded
  omega

/-- The extension headers of a data frame never reach the setup handlers. -/
theorem dataExtensions_handlers (setupConnReq' : BnepConn → Nat → List UInt8 → BnepConn)
    (setupConnResponce' : BnepConn → List UInt8 → BnepConn) (bcb : BnepConn)
    (extensionPresent : Bool) (extType : UInt8) (p : Option Nat) (remLen : Nat) :
    dataExtensions setupConnReq setupConnResponce payload bcb extensionPresent extType p remLen =
      dataExtensions setupConnReq' setupConnResponce' payload bcb extensionPresent extType p
        remLen := by
  induction remLen using Nat.strongRecOn generalizing bcb extensionPresent extType p with
  | _ remLen ih =>
    rcases p with _ | p
    · rw [dataExtensions, dataExtensions]
    · rw [dataExtensions, dataExtensions]
      split_ifs with stop
      · rfl
      · congr 1
        funext header
        split_ifs
        · rfl
        · -- the two matches are on the same control packet, and the loop goes on below it
          have same := bnepProcessControlPacket_ext_handlers setupConnReq setupConnResponce payload
            setupConnReq' setupConnResponce' bcb (p + 1) (remLen - 1)
          split <;> split
          · rename_i fault failed fault' failed'
            rw [same, failed'] at failed
            cases failed
            rfl
          · rename_i fault failed _ _ _ _ processed'
            rw [same, processed'] at failed
            cases failed
          · rename_i _ _ _ _ processed fault' failed'
            rw [same, failed'] at processed
            cases processed
          · rename_i bcb actions next left processed _ _ _ _ processed'
            rw [same, processed'] at processed
            obtain ⟨⟩ := processed
            have running : remLen ≠ 0 := fun empty => stop (.inr empty)
            have fewer := remLen_le_of_bnepProcessControlPacket setupConnReq' setupConnResponce'
              payload processed'
            dsimp only at fewer
            rw [ih left (by omega)]

end Control

/-- The loop of `bnep_data_ind` over extension headers before the connection is up, from `p`
with `orgLen` octets: it frames each header by its length octet and answers a filter-control
message of an unknown type with Command Not Understood. -/
def unconnectedExtensions (payload : List UInt8) (p orgLen : Nat) :
    Except Nat (List BnepAction) :=
  if orgLen < 2 then pure []
  else do
    let ext ← u8 payload p
    let length ← u8 payload (p + 1)
    if short : length.toNat + 2 > orgLen then pure []
    else if ext &&& 0x7F = bnepExtensionFilterControl ∧ length = 0 then pure []
    else do
      let actions ← if ext &&& 0x7F = bnepExtensionFilterControl then do
          let controlType ← u8 payload (p + 2)
          pure (if controlType > bnepFilterMultiAddrResponseMsg then
            [BnepAction.sendCommandNotUnderstood controlType] else [])
        else pure []
      if ext &&& 0x80 ≠ 0 then
        (actions ++ ·) <$>
          unconnectedExtensions payload (p + (length.toNat + 2)) (orgLen - (length.toNat + 2))
      else pure actions
termination_by orgLen
decreasing_by omega

/-- The header of a data frame of type `type` from `p`, with `remLen` octets left: where the
source and destination addresses are (`none` for those the frame leaves out), the protocol,
where the frame goes on and the octets left. -/
def dataFrameHeader (payload : List UInt8) (type : UInt8) (p remLen : Nat) :
    Except Nat (Option Nat × Option Nat × UInt16 × Nat × Nat) :=
  if type = bnepFrameGeneralEthernet then do
    let protocol ← be16 payload (p + 2 * bdAddrLen)
    pure (some (p + bdAddrLen), some p, protocol, p + 2 * bdAddrLen + 2, remLen - 14)
  else if type = bnepFrameCompressedEthernet then do
    let protocol ← be16 payload p
    pure (none, none, protocol, p + 2, remLen - 2)
  else if type = bnepFrameCompressedEthernetSrcOnly then do
    let protocol ← be16 payload (p + bdAddrLen)
    pure (some p, none, protocol, p + bdAddrLen + 2, remLen - 8)
  else do
    let protocol ← be16 payload (p + bdAddrLen)
    pure (none, some p, protocol, p + bdAddrLen + 2, remLen - 8)

section DataInd

variable (setupConnReq : BnepConn → Nat → List UInt8 → BnepConn)
  (setupConnResponce : BnepConn → List UInt8 → BnepConn)

/-- The `BNEP_FRAME_CONTROL` case of `bnep_data_ind`, from octet 1 with `remLen` octets left:
the control message, then the rest kept as the pending data of a setup request that came before
the connection is up, or else the extension headers. -/
def controlFrameInd (bcb : BnepConn) (payload : List UInt8) (extensionPresent : Bool)
    (remLen : Nat) : Except Nat (BnepConn × List BnepAction) := do
  let ctrlType ← u8 payload 1
  let (bcb, actions, p, remLen) ←
    bnepProcessControlPacket setupConnReq setupConnResponce payload bcb 1 remLen false
  if ctrlType = bnepSetupConnectionRequestMsg ∧ bcb.conState ≠ bnepStateConnected ∧
      extensionPresent ∧ p.isSome ∧ remLen ≠ 0 then do
    let pending ← octets payload (p.getD 0) remLen
    pure ({ bcb with pendingData := some pending }, actions)
  else do
    let (bcb, more) ← controlExtensions setupConnReq setupConnResponce payload bcb
      extensionPresent p remLen
    pure (bcb, actions ++ more)

/-- The data frame cases of `bnep_data_ind` for a frame of type `type`, from octet 1 with
`remLen` octets left: the header, the extension headers, and the data handed up from where they
end. -/
def dataFrameInd (bcb : BnepConn) (payload : List UInt8) (type : UInt8)
    (extensionPresent : Bool) (remLen : Nat) : Except Nat (BnepConn × List BnepAction) := do
  let (source, destination, protocol, p, remLen) ← dataFrameHeader payload type 1 remLen
  let (bcb, actions, extType, p, remLen) ← dataExtensions setupConnReq setupConnResponce
    payload bcb extensionPresent 0 (some p) remLen
  pure (bcb, actions ++ [.dataInd source destination protocol (payload.length - remLen)
    remLen p (extType ≠ 0)])

theorem dataFrameInd_handlers (setupConnReq' : BnepConn → Nat → List UInt8 → BnepConn)
    (setupConnResponce' : BnepConn → List UInt8 → BnepConn) (bcb : BnepConn)
    (payload : List UInt8) (type : UInt8) (extensionPresent : Bool) (remLen : Nat) :
    dataFrameInd setupConnReq setupConnResponce bcb payload type extensionPresent remLen =
      dataFrameInd setupConnReq' setupConnResponce' bcb payload type extensionPresent remLen := by
  unfold dataFrameInd
  simp only [dataExtensions_handlers setupConnReq setupConnResponce payload setupConnReq'
    setupConnResponce']

/-- `bnep_data_ind` for a BCB found by its channel and a received payload. -/
def bnepDataInd (bcb : BnepConn) (payload : List UInt8) :
    Except Nat (BnepConn × List BnepAction) :=
  if payload.length = 0 then pure (bcb, [])
  else do
    let typeByte ← u8 payload 0
    let extensionPresent := typeByte >>> 7 = 1
    let type := typeByte &&& 0x7f
    if bnepFrameHdrSizes.length ≤ type.toNat then pure (bcb, [])
    else if payload.length ≤ bnepFrameHdrSizes.getD type.toNat 0 ∨ bnepMtuSize < payload.length
    then pure (bcb, [])
    else
      let remLen := payload.length - 1
      if bcb.conState ≠ bnepStateConnected ∧ bcb.conFlags &&& bnepFlagsConnCompleted = 0 ∧
          type ≠ bnepFrameControl then
        if extensionPresent then do
          let actions ← unconnectedExtensions payload 1 remLen
          pure (bcb, actions)
        else pure (bcb, [])
      else if type > bnepFrameCompressedEthernetDestOnly then pure (bcb, [])
      else if type = bnepFrameControl then
        controlFrameInd setupConnReq setupConnResponce bcb payload extensionPresent remLen
      else dataFrameInd setupConnReq setupConnResponce bcb payload type extensionPresent remLen

/-- Where the extension headers from `p` end when each is its type octet, its length octet and
that many octets, as the BNEP specification frames them.  A header whose type is not filter
control is data, and the bit `0x80` of a header's type says whether another follows.  `fuel`
bounds the headers read. -/
def framedExtensionsEnd (payload : List UInt8) : Nat → Bool → Nat → Nat
  | 0, _, p => p
  | fuel + 1, extensionPresent, p =>
    match extensionPresent, payload[p]?, payload[p + 1]? with
    | true, some header, some length =>
      if header &&& 0x7F = bnepExtensionFilterControl then
        framedExtensionsEnd payload fuel (header >>> 7 = 1) (p + 2 + length.toNat)
      else p
    | _, _, _ => p

/-- Where the data of a frame starts as the BNEP specification frames it: after the type octet,
the header of the frame's type and the filter-control extension headers.  Each header takes two
octets at least, so as many headers as octets is enough fuel. -/
def framedDataStart (payload : List UInt8) : Nat :=
  match payload with
  | [] => 0
  | typeByte :: _ =>
    framedExtensionsEnd payload payload.length (typeByte >>> 7 = 1)
      (1 + bnepFrameHdrSizes.getD (typeByte &&& 0x7F).toNat 0)

/-- A connected BCB with no filters. -/
def connectedConn : BnepConn where
  conState := bnepStateConnected
  conFlags := 0
  pendingData := none
  rcvdNumFilters := 0
  rcvdProtFilterStart := .replicate _ 0
  rcvdProtFilterEnd := .replicate _ 0
  rcvdMcastFilters := 0
  rcvdMcastFilterStart := .replicate _ []
  rcvdMcastFilterEnd := .replicate _ []

/-- A compressed Ethernet frame of protocol `0x0800` with one filter-control extension header.
Its length octet counts three octets, and the Command Not Understood message in it takes two. -/
def misframedPayload : List UInt8 := [0x82, 0x08, 0x00, 0x00, 0x03, 0x00, 0x01, 0xAA, 0x45, 0x00]

/-- The data is handed up from octet 7, where the control message inside the extension ended,
and not from octet 8, where the extension's length octet ends it. -/
theorem bnepDataInd_misframes_extension :
    bnepDataInd setupConnReq setupConnResponce connectedConn misframedPayload =
        .ok (connectedConn, [.dataInd none none 0x0800 7 3 (some 7) false]) ∧
      framedDataStart misframedPayload = 8 := by
  have dataFrame : bnepDataInd setupConnReq setupConnResponce connectedConn misframedPayload =
      dataFrameInd setupConnReq setupConnResponce connectedConn misframedPayload 2 true 9 := rfl
  rw [dataFrame, dataFrameInd_handlers setupConnReq setupConnResponce (fun bcb _ _ => bcb)
    (fun bcb _ => bcb)]
  exact ⟨by decide +kernel, by decide⟩

end DataInd

end Bluetooth.Bnep

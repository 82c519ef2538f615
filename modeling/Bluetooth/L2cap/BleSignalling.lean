import Bluetooth.Lib.ByteStream

set_option linter.all false

/-!
# The LE signalling channel

`l2cble_process_sig_cmd` handles one command received on the LE signalling channel.  It
reads a four-octet header, checks that the command fits in the packet, and dispatches on the
command code; each case checks the packet end before it reads its fields, and what it does
next depends on the link's channels and registrations.

The model reads the packet through `ByteStream`, so a read outside the packet is a fault of
the run; the link is the `LeLinkView` the handler looks things up in; and the handler returns
the signalling actions it takes, each with the values it decoded.  The changes the handler
and the channel state machine make to the link are left to the view.

A Command Reject is the one case that reads its field with no check at all: a packet that is
only the header of a Command Reject with `cmd_len = 0` makes the handler read the reason
past the end of the packet (`l2cbleProcessSigCmd_reads_past_reject`).
-/

namespace Bluetooth.L2cap

open ByteStream

/-- What `l2cble_process_sig_cmd` looks up in the link. -/
structure LeLinkView where
  /-- `p_lcb->pending_ecoc_conn_cnt`. -/
  pendingEcocConnCnt : UInt8
  /-- `p_lcb->IsLinkRoleCentral()`. -/
  isCentral : Bool
  /-- `l2cu_find_ble_rcb_by_psm`: none, or whether the registration has the connect callback
  the case needs. -/
  rcbByPsm : UInt16 → Option Bool
  /-- Whether `l2cu_allocate_ccb` finds a free channel. -/
  canAllocateCcb : Bool
  /-- Whether a channel on the link has `local_id` equal to the command's identifier. -/
  ccbWithLocalId : UInt8 → Bool
  /-- `l2cu_find_ccb_by_remote_cid`, with the channel's peer MTU and MPS. -/
  ccbByRemoteCid : UInt16 → Option (UInt16 × UInt16)
  /-- `l2cu_find_ccb_by_cid`, with the channel's remote CID. -/
  ccbByCid : UInt16 → Option UInt16

/-- What the handler does with a command. -/
inductive LeSigAction where
  /-- `l2cble_handle_connect_rsp_neg` or a negative connect response to the state machine. -/
  | connectRspNeg (result : UInt16)
  /-- `l2cu_send_peer_cmd_reject`. -/
  | cmdReject (reason : UInt16) (id : UInt8)
  /-- A connection parameter update request from the peripheral. -/
  | connParamUpdate (id : UInt8) (minInterval maxInterval latency timeout : UInt16)
  /-- `l2cu_reject_credit_based_conn_req`. -/
  | rejectCreditBasedConnReq (id : UInt8) (channels : UInt8) (result : UInt16)
  /-- A credit based connection request handed to the state machine. -/
  | creditBasedConnReq (id : UInt8) (psm mtu mps credits : UInt16) (cids : List UInt16)
  /-- A credit based connection response handed to the state machine. -/
  | creditBasedConnRsp (mtu mps credits result : UInt16) (cids : List UInt16)
  /-- `l2cu_send_ble_reconfig_rsp`. -/
  | reconfigRsp (id : UInt8) (result : UInt16)
  /-- A reconfiguration of the channels `cids` handed to the state machine. -/
  | reconfigReq (mtu mps : UInt16) (cids : List UInt16)
  /-- A reconfiguration response handed to the channels being reconfigured. -/
  | reconfigRes (result : UInt16)
  /-- `l2cu_reject_ble_coc_connection` or `l2cu_reject_ble_connection`. -/
  | rejectBleConnection (id : UInt8) (result : UInt16)
  /-- An LE credit based connection request handed to the state machine. -/
  | connectReq (id : UInt8) (psm rcid mtu mps credits : UInt16)
  /-- An LE credit based connection response handed to the state machine. -/
  | connectRsp (remoteCid mtu mps credits result : UInt16)
  /-- Credits for the channel `lcid`. -/
  | flowCtrlCredit (lcid credit : UInt16)
  /-- A disconnection request for a channel. -/
  | disconnectReq (id : UInt8) (lcid rcid : UInt16)
  /-- A disconnection response for a channel. -/
  | disconnectRsp (lcid rcid : UInt16)
  deriving DecidableEq, Repr

/-- `L2CAP_CMD_REJ_NOT_UNDERSTOOD`. -/
def cmdRejNotUnderstood : UInt16 := 0
/-- `L2CAP_CMD_REJ_INVALID_CID`. -/
def cmdRejInvalidCid : UInt16 := 2
/-- `L2CAP_CREDIT_BASED_MAX_CIDS`. -/
def creditBasedMaxCids : UInt8 := 5

/-- The parameter check of the credit based connection and reconfiguration cases:
`L2CAP_CREDIT_BASED_MIN_MTU`, `L2CAP_CREDIT_BASED_MIN_MPS` and `L2CAP_LE_MAX_MPS`. -/
def creditBasedParamsValid (mtu mps : UInt16) : Bool :=
  !(mtu < 64 || mps < 64 || mps > 65533)

/-- The parameter check of the LE credit based connection cases: `L2CAP_LE_MIN_MTU`,
`L2CAP_LE_MIN_MPS` and `L2CAP_LE_MAX_MPS`. -/
def leParamsValid (mtu mps : UInt16) : Bool :=
  !(mtu < 23 || mps < 23 || mps > 65533)

/-- The results of a credit based connection response that reject every channel. -/
def rejectsAllChannels (result : UInt16) : Bool :=
  result == 2 || result == 5 || result == 8 || result == 6 || result == 0x0B || result == 0x0C

/-- `count` CIDs of two octets from `offset`. -/
def readCids (packet : List UInt8) (offset : Nat) : Nat → Except Nat (List UInt16)
  | 0 => pure []
  | count + 1 => do
      let cid ← u16 packet offset
      let rest ← readCids packet (offset + 2) count
      pure (cid :: rest)

/-- `num_of_channels = (p_pkt_end - p) / sizeof(uint16_t)`, stored in a `uint8_t`. -/
def channelsLeft (packet : List UInt8) (offset : Nat) : UInt8 :=
  UInt8.ofNat ((packet.length - offset) / 2)

/-- The `L2CAP_CMD_CREDIT_BASED_CONN_REQ` case, from the octet after the header. -/
def creditBasedConnReq (view : LeLinkView) (packet : List UInt8) (id : UInt8) :
    Except Nat (List LeSigAction) := do
  if 4 + 10 > packet.length then return []
  let psm ← u16 packet 4
  let mtu ← u16 packet 6
  let mps ← u16 packet 8
  let credits ← u16 packet 10
  let channels := channelsLeft packet 12
  if channels > creditBasedMaxCids then
    return [.rejectCreditBasedConnReq id creditBasedMaxCids 0x0C]
  match view.rcbByPsm psm with
  | none => return [.rejectCreditBasedConnReq id channels 2]
  | some hasCallback =>
      if view.pendingEcocConnCnt > 0 then return [.rejectCreditBasedConnReq id channels 4]
      if !hasCallback then return [.rejectCreditBasedConnReq id channels 2]
      if !creditBasedParamsValid mtu mps then
        return [.rejectCreditBasedConnReq id channels 0x0C]
      let cids ← readCids packet 12 channels.toNat
      return [.creditBasedConnReq id psm mtu mps credits cids]

/-- The `L2CAP_CMD_CREDIT_BASED_CONN_RES` case.  It checks for two octets and reads eight. -/
def creditBasedConnRes (view : LeLinkView) (packet : List UInt8) (id : UInt8) :
    Except Nat (List LeSigAction) := do
  if 4 + 2 > packet.length then return []
  if !view.ccbWithLocalId id then return [.connectRspNeg 9]
  let mtu ← u16 packet 4
  let mps ← u16 packet 6
  let credits ← u16 packet 8
  let result ← u16 packet 10
  if rejectsAllChannels result then return [.connectRspNeg result]
  if !creditBasedParamsValid mtu mps then return [.connectRspNeg 0x0C]
  let channels := channelsLeft packet 12
  if channels ≠ view.pendingEcocConnCnt then return []
  let cids ← readCids packet 12 channels.toNat
  return [.creditBasedConnRsp mtu mps credits result cids]

/-- The check of each channel the `L2CAP_CMD_CREDIT_BASED_RECONFIG_REQ` case makes before it
changes any: the reconfiguration response it sends for the first that fails. -/
def reconfigCheck (view : LeLinkView) (id : UInt8) (mtu mps : UInt16) (channels : UInt8) :
    List UInt16 → Option LeSigAction
  | [] => none
  | rcid :: rest =>
      match view.ccbByRemoteCid rcid with
      | none => some (.reconfigRsp id 3)
      | some (peerMtu, peerMps) =>
          if peerMtu > mtu then some (.reconfigRsp id 1)
          else if peerMps > mps && channels > 1 then some (.reconfigRsp id 2)
          else reconfigCheck view id mtu mps channels rest

/-- The `L2CAP_CMD_CREDIT_BASED_RECONFIG_REQ` case. -/
def creditBasedReconfigReq (view : LeLinkView) (packet : List UInt8) (id : UInt8) :
    Except Nat (List LeSigAction) := do
  if 4 + 6 > packet.length then return [.reconfigRsp id 4]
  let mtu ← u16 packet 4
  let mps ← u16 packet 6
  if !creditBasedParamsValid mtu mps then return [.reconfigRsp id 4]
  let channels := channelsLeft packet 8
  let cids ← readCids packet 8 channels.toNat
  match reconfigCheck view id mtu mps channels cids with
  | some rejection => return [rejection]
  | none => return [.reconfigReq mtu mps cids, .reconfigRsp id 0]

/-- The `L2CAP_CMD_BLE_CREDIT_BASED_CONN_REQ` case. -/
def bleCreditBasedConnReq (view : LeLinkView) (packet : List UInt8) (id : UInt8) :
    Except Nat (List LeSigAction) := do
  if 4 + 10 > packet.length then return []
  let psm ← u16 packet 4
  let rcid ← u16 packet 6
  let mtu ← u16 packet 8
  let mps ← u16 packet 10
  let credits ← u16 packet 12
  if (view.ccbByRemoteCid rcid).isSome then return [.rejectBleConnection id 0x0A]
  match view.rcbByPsm psm with
  | none => return [.rejectBleConnection id 2]
  | some hasCallback =>
      if !hasCallback then return [.rejectBleConnection id 2]
      -- `L2CAP_CONN_NO_RESOURCES`, sent through `l2cu_reject_ble_connection`
      if !view.canAllocateCcb then return [.rejectBleConnection id 4]
      if !leParamsValid mtu mps then return [.rejectBleConnection id 4]
      return [.connectReq id psm rcid mtu mps credits]

/-- The `L2CAP_CMD_BLE_CREDIT_BASED_CONN_RES` case. -/
def bleCreditBasedConnRes (view : LeLinkView) (packet : List UInt8) (id : UInt8) :
    Except Nat (List LeSigAction) := do
  if !view.ccbWithLocalId id then return [.connectRspNeg 9]
  if 4 + 10 > packet.length then return []
  let remoteCid ← u16 packet 4
  let mtu ← u16 packet 6
  let mps ← u16 packet 8
  let credits ← u16 packet 10
  let result ← u16 packet 12
  if !leParamsValid mtu mps then return [.connectRspNeg 4]
  if result == 0 then return [.connectRsp remoteCid mtu mps credits result]
  return [.connectRspNeg result]

/-- `l2cble_process_sig_cmd(p_lcb, packet, packet.length)`. -/
def l2cbleProcessSigCmd (view : LeLinkView) (packet : List UInt8) :
    Except Nat (List LeSigAction) := do
  if 4 > packet.length then return []
  let cmdCode ← u8 packet 0
  let id ← u8 packet 1
  let cmdLen ← u16 packet 2
  -- the command must fit in the packet
  if 4 + cmdLen.toNat > packet.length then return []
  match cmdCode with
  | 0x01 =>
      -- `L2CAP_CMD_REJECT` reads the reason without a check
      let reason ← u16 packet 4
      if reason == cmdRejNotUnderstood && view.pendingEcocConnCnt > 0 then
        return [.connectRspNeg 2]
      return []
  | 0x08 | 0x09 | 0x0B | 0x0A => return [.cmdReject cmdRejNotUnderstood id]
  | 0x12 =>
      if 4 + 8 > packet.length then return []
      let minInterval ← u16 packet 4
      let maxInterval ← u16 packet 6
      let latency ← u16 packet 8
      let timeout ← u16 packet 10
      if view.isCentral then return [.connParamUpdate id minInterval maxInterval latency timeout]
      return [.cmdReject cmdRejNotUnderstood id]
  | 0x13 => return []
  | 0x17 => creditBasedConnReq view packet id
  | 0x18 => creditBasedConnRes view packet id
  | 0x19 => creditBasedReconfigReq view packet id
  | 0x1A =>
      if 4 + 2 > packet.length then return []
      let result ← u16 packet 4
      return [.reconfigRes result]
  | 0x14 => bleCreditBasedConnReq view packet id
  | 0x15 => bleCreditBasedConnRes view packet id
  | 0x16 =>
      if 4 + 4 > packet.length then return []
      let lcid ← u16 packet 4
      if (view.ccbByRemoteCid lcid).isNone then return []
      let credit ← u16 packet 6
      return [.flowCtrlCredit lcid credit]
  | 0x06 =>
      if 4 + 4 > packet.length then return []
      let lcid ← u16 packet 4
      let rcid ← u16 packet 6
      match view.ccbByCid lcid with
      | some remoteCid => return if remoteCid = rcid then [.disconnectReq id lcid rcid] else []
      | none => return [.cmdReject cmdRejInvalidCid id]
  | 0x07 =>
      if 4 + 4 > packet.length then return []
      let rcid ← u16 packet 4
      let lcid ← u16 packet 6
      return if (view.ccbByCid lcid).isSome then [.disconnectRsp lcid rcid] else []
  | _ => return [.cmdReject cmdRejNotUnderstood id]

/-- A Command Reject that is only its four-octet header, with `cmd_len = 0`, passes both length
checks, and the handler reads the reason from octets 4 and 5 of a packet of four, whatever the
state of the link. -/
theorem l2cbleProcessSigCmd_reads_past_reject (view : LeLinkView) :
    l2cbleProcessSigCmd view [0x01, 0x01, 0x00, 0x00] = .error 4 := by
  rfl

/-- A credit based connection response checks for two octets after the header but reads
eight, once a channel waits for the response's identifier. -/
theorem creditBasedConnRes_reads_past_check (view : LeLinkView)
    (waiting : view.ccbWithLocalId 0x01 = true) :
    l2cbleProcessSigCmd view [0x18, 0x01, 0x02, 0x00, 0x00, 0x00] = .error 6 := by
  simp [l2cbleProcessSigCmd, creditBasedConnRes, waiting, u8, u16]

end Bluetooth.L2cap

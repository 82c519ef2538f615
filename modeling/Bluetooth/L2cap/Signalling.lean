import Bluetooth.L2cap.BleSignalling

set_option linter.all false

/-!
# The BR/EDR signalling channel

`process_l2cap_cmd` walks the commands of one packet received on the BR/EDR signalling
channel.  Each command is a four-octet header and `cmd_len` octets; the case of its code checks
the end of the command before it reads its fields.  A Configure Request is parsed by an option
loop that collects the options and sums the length of the options it does not know, and when
there are any, `l2cu_send_peer_config_rej` walks the options a second time to copy those into
a Configure Response.

The packet is read through `ByteStream`, so a read outside the packet is a fault of the run.
The command loop and the option loops recur on the octets left, and their termination proofs
are the source's progress: a command advances by its header and its length, an option by its
type and length octets and its value.  What the handler looks up in the link is a
`LinkView` that may change from one command to the next with the actions taken so far, since
the channel state machine runs between two commands of a packet; the handler returns the
actions it takes, each with the values it decoded.
-/

namespace Bluetooth.L2cap

open ByteStream

/-- The quality of service option, `tHCI_QOS` as the option carries it. -/
structure QosOption where
  qosFlags : UInt8
  serviceType : UInt8
  tokenRate : UInt32
  tokenBucketSize : UInt32
  peakBandwidth : UInt32
  latency : UInt32
  delayVariation : UInt32
  deriving DecidableEq, Repr, Inhabited

/-- The retransmission and flow control option, `tL2CAP_FCR_OPTS`. -/
structure FcrOption where
  mode : UInt8
  txWinSz : UInt8
  maxTransmit : UInt8
  rtransTout : UInt16
  monTout : UInt16
  mps : UInt16
  deriving DecidableEq, Repr, Inhabited

/-- The extended flow specification option, `tHCI_EXT_FLOW_SPEC`. -/
structure ExtFlowOption where
  id : UInt8
  stype : UInt8
  maxSduSize : UInt16
  sduInterTime : UInt32
  accessLatency : UInt32
  flushTimeout : UInt32
  deriving DecidableEq, Repr, Inhabited

/-- `tL2CAP_CFG_INFO`; `default` is the zeroed record `process_l2cap_cmd` starts from. -/
structure CfgInfo where
  result : UInt16
  mtuPresent : Bool
  mtu : UInt16
  qosPresent : Bool
  qos : QosOption
  flushToPresent : Bool
  flushTo : UInt16
  fcrPresent : Bool
  fcr : FcrOption
  fcsPresent : Bool
  fcs : UInt8
  extFlowSpecPresent : Bool
  extFlowSpec : ExtFlowOption
  flags : UInt16
  deriving DecidableEq, Repr, Inhabited

/-- A channel of the link, as `l2cu_find_ccb_by_cid` finds it. -/
structure Ccb where
  /-- `local_id`, the identifier of the last request the channel sent. -/
  localId : UInt8
  /-- `remote_cid`. -/
  remoteCid : UInt16
  deriving DecidableEq, Repr

/-- What `process_l2cap_cmd` looks up in the link when it handles a command. -/
structure LinkView where
  /-- `p_lcb->transport == BT_TRANSPORT_LE`. -/
  isLe : Bool
  /-- `p_lcb->w4_info_rsp`. -/
  w4InfoRsp : Bool
  /-- `p_lcb->Handle()`. -/
  handle : UInt16
  /-- `controller->supports_non_flushable_pb()`. -/
  nonFlushable : Bool
  /-- `l2cu_find_ccb_by_cid`. -/
  ccbByCid : UInt16 → Option Ccb
  /-- `l2cu_find_rcb_by_psm`: none, or whether the registration has `pL2CA_ConnectInd_Cb`. -/
  rcbByPsm : UInt16 → Option Bool
  /-- Whether `l2cu_allocate_ccb` finds a free channel. -/
  canAllocateCcb : Bool
  /-- `p_lcb->cur_echo_id`. -/
  curEchoId : UInt8
  /-- The largest echo payload `l2cu_send_peer_echo_rsp` returns, from the controller's
  ACL sizes. -/
  echoMaxLen : Nat

/-- What the handler does with a command. -/
inductive SigAction where
  /-- `l2cu_send_peer_cmd_reject`. -/
  | cmdReject (reason : UInt16) (id : UInt8) (p1 p2 : UInt16)
  /-- `L2CEVT_LP_DISCONNECT_IND` to the channel `lcid`. -/
  | lpDisconnectInd (lcid : UInt16)
  /-- `L2CEVT_L2CAP_INFO_RSP` to every channel of the link. -/
  | infoRspToChannels
  /-- `l2cu_reject_connection`. -/
  | rejectConnection (rcid : UInt16) (id : UInt8) (result : UInt16)
  /-- A connection request handed to a new channel's state machine. -/
  | connectReq (id : UInt8) (psm rcid : UInt16)
  /-- A connection response handed to the channel `lcid`. -/
  | connectRsp (lcid remoteCid result status : UInt16)
  /-- A configuration request handed to the channel `lcid`. -/
  | configReq (lcid : UInt16) (info : CfgInfo)
  /-- `l2cu_send_peer_config_rej` for the options `request`, with the packet it builds. -/
  | configRej (request packet : List UInt8)
  /-- A configuration response handed to the channel `lcid`. -/
  | configRsp (lcid : UInt16) (info : CfgInfo)
  /-- A disconnection request handed to the channel `lcid`. -/
  | disconnectReq (lcid : UInt16)
  /-- `l2cu_send_peer_disc_rsp` for a channel the link does not have. -/
  | peerDiscRsp (id : UInt8) (lcid rcid : UInt16)
  /-- A disconnection response handed to the channel `lcid`. -/
  | disconnectRsp (lcid : UInt16)
  /-- `l2cu_send_peer_echo_rsp` with the data it returns. -/
  | echoRsp (id : UInt8) (data : List UInt8)
  /-- `l2cu_send_peer_info_rsp`. -/
  | infoRsp (id : UInt8) (infoType : UInt16)
  /-- `p_lcb->peer_ext_fea` is set. -/
  | peerExtFeatures (features : UInt32)
  /-- `l2cu_send_peer_info_req(p_lcb, L2CAP_FIXED_CHANNELS_INFO_TYPE)`. -/
  | infoReqFixedChannels
  /-- `l2cu_process_fixed_chnl_resp`, after `peer_chnl_mask` is copied when there is one. -/
  | fixedChnlRsp (mask : Option (List UInt8))
  deriving DecidableEq, Repr

/-- What a case of the command loop leaves to the loop. -/
inductive CaseOutcome where
  /-- The case returns from `process_l2cap_cmd` after these actions. -/
  | stop (actions : List SigAction)
  /-- The case breaks out of the switch after these actions, with `cfg_info` as it left it. -/
  | next (actions : List SigAction) (info : CfgInfo)

/-- `L2CAP_CFG_TYPE_MTU` to `L2CAP_CFG_TYPE_EXT_FLOW`, the option types the stack knows. -/
def knownOption (code : UInt8) : Bool :=
  code &&& 0x7F == 0x01 || code &&& 0x7F == 0x02 || code &&& 0x7F == 0x03 ||
    code &&& 0x7F == 0x04 || code &&& 0x7F == 0x05 || code &&& 0x7F == 0x06

/-- The quality of service option at `p`. -/
def readQos (packet : List UInt8) (p : Nat) : Except Nat QosOption := do
  return ⟨← u8 packet p, ← u8 packet (p + 1), ← u32 packet (p + 2), ← u32 packet (p + 6),
    ← u32 packet (p + 10), ← u32 packet (p + 14), ← u32 packet (p + 18)⟩

/-- The retransmission and flow control option at `p`. -/
def readFcr (packet : List UInt8) (p : Nat) : Except Nat FcrOption := do
  return ⟨← u8 packet p, ← u8 packet (p + 1), ← u8 packet (p + 2), ← u16 packet (p + 3),
    ← u16 packet (p + 5), ← u16 packet (p + 7)⟩

/-- The extended flow specification option at `p`. -/
def readExtFlow (packet : List UInt8) (p : Nat) : Except Nat ExtFlowOption := do
  return ⟨← u8 packet p, ← u8 packet (p + 1), ← u16 packet (p + 2), ← u32 packet (p + 4),
    ← u32 packet (p + 8), ← u32 packet (p + 12)⟩

section Readers

variable {packet : List UInt8} {p : Nat}

theorem readQos_of_le (inside : p + 22 ≤ packet.length) : ∃ qos, readQos packet p = .ok qos := by
  simp (disch := omega) [readQos, u8_of_lt, u32_of_le]

theorem readFcr_of_le (inside : p + 9 ≤ packet.length) : ∃ fcr, readFcr packet p = .ok fcr := by
  simp (disch := omega) [readFcr, u8_of_lt, u16_of_le]

theorem readExtFlow_of_le (inside : p + 16 ≤ packet.length) :
    ∃ extFlow, readExtFlow packet p = .ok extFlow := by
  simp (disch := omega) [readExtFlow, u8_of_lt, u16_of_le, u32_of_le]

end Readers

/-- The option loop of the `L2CAP_CMD_CONFIG_REQ` case from `p` to `p_cfg_end`, which is the
end of the command: `cfg_info`, `cfg_rej` and `cfg_rej_len` at its end, or `none` where the
handler returns.  An option it knows must have its exact length and fit in the command; one it
does not know is skipped, and counted for the reject unless it is a hint, when its length is
at most `cmd_len`, and ends the loop otherwise. -/
def configReqOptions (packet : List UInt8) (cmdLen pCfgEnd : Nat) (p : Nat) (info : CfgInfo)
    (rej : Bool) (rejLen : UInt16) : Except Nat (Option (CfgInfo × Bool × UInt16)) :=
  if inside : p < pCfgEnd then do
    if p + 2 > pCfgEnd then return none
    let cfgCode ← u8 packet p
    let cfgLen ← u8 packet (p + 1)
    let value := p + 2
    match cfgCode &&& 0x7F with
    | 0x01 =>
        let info := { info with mtuPresent := true }
        if cfgLen ≠ 2 then return none
        if value + cfgLen.toNat > pCfgEnd then return none
        let mtu ← u16 packet value
        configReqOptions packet cmdLen pCfgEnd (value + 2) { info with mtu } rej rejLen
    | 0x02 =>
        let info := { info with flushToPresent := true }
        if cfgLen ≠ 2 then return none
        if value + cfgLen.toNat > pCfgEnd then return none
        let flushTo ← u16 packet value
        configReqOptions packet cmdLen pCfgEnd (value + 2) { info with flushTo } rej rejLen
    | 0x03 =>
        let info := { info with qosPresent := true }
        if cfgLen ≠ 22 then return none
        if value + cfgLen.toNat > pCfgEnd then return none
        let qos ← readQos packet value
        configReqOptions packet cmdLen pCfgEnd (value + 22) { info with qos } rej rejLen
    | 0x04 =>
        let info := { info with fcrPresent := true }
        if cfgLen ≠ 9 then return none
        if value + cfgLen.toNat > pCfgEnd then return none
        let fcr ← readFcr packet value
        configReqOptions packet cmdLen pCfgEnd (value + 9) { info with fcr } rej rejLen
    | 0x05 =>
        let info := { info with fcsPresent := true }
        if cfgLen ≠ 1 then return none
        if value + cfgLen.toNat > pCfgEnd then return none
        let fcs ← u8 packet value
        configReqOptions packet cmdLen pCfgEnd (value + 1) { info with fcs } rej rejLen
    | 0x06 =>
        let info := { info with extFlowSpecPresent := true }
        if cfgLen ≠ 16 then return none
        if value + cfgLen.toNat > pCfgEnd then return none
        let extFlowSpec ← readExtFlow packet value
        configReqOptions packet cmdLen pCfgEnd (value + 16) { info with extFlowSpec } rej rejLen
    | _ =>
        if cfgLen.toNat + 2 ≤ cmdLen then
          if value + cfgLen.toNat > pCfgEnd then return none
          if cfgCode &&& 0x80 = 0 then
            configReqOptions packet cmdLen pCfgEnd (value + cfgLen.toNat) info true
              (rejLen + cfgLen.toUInt16 + 2)
          else
            configReqOptions packet cmdLen pCfgEnd (value + cfgLen.toNat) info rej rejLen
        else
          -- bad length: `p = p_cfg_end` ends the loop
          return some (info, true, rejLen)
  else return some (info, rej, rejLen)
termination_by pCfgEnd - p

/-- The option loop of `l2cu_send_peer_config_rej` from `p_data` to `p_data_end`, with
`buf_space` octets left in the response: the octets it has copied.  It skips the options the
stack knows, copies the others that are not hints, and stops at an option longer than the
whole option area or one that does not fit in the space left. -/
def configRejOptions (packet : List UInt8) (dataLen pDataEnd : Nat) (pData : Nat)
    (bufSpace : UInt16) (written : List UInt8) : Except Nat (List UInt8) :=
  if pData < pDataEnd then do
    let cfgCode ← u8 packet pData
    let cfgLen ← u8 packet (pData + 1)
    let size := cfgLen.toNat + 2
    if knownOption cfgCode then
      configRejOptions packet dataLen pDataEnd (pData + size) bufSpace written
    else if size ≤ dataLen then
      if cfgCode &&& 0x80 = 0 then
        if bufSpace.toNat ≥ size then
          let option ← octets packet pData size
          configRejOptions packet dataLen pDataEnd (pData + size) (bufSpace - UInt16.ofNat size)
            (written ++ option)
        else return written
      else configRejOptions packet dataLen pDataEnd (pData + size) bufSpace written
    else return written
  else return written
termination_by pDataEnd - pData

/-- `L2CAP_PKT_START_NON_FLUSHABLE` or `L2CAP_PKT_START`, shifted into the handle. -/
def packetBoundary (view : LinkView) : UInt16 :=
  if view.nonFlushable then view.handle ||| ((0 : UInt16) <<< 12)
  else view.handle ||| ((2 : UInt16) <<< 12)

/-- `l2cu_send_peer_config_rej(p_ccb, p_data, data_len, rej_len)` on a channel of the link
with the given `remote_id` and `remote_cid`: the packet it sends, or `none` when `rej_len` is
over the buffer limit.  The HCI length is written last, from the octets written after it. -/
def l2cuSendPeerConfigRej (view : LinkView) (remoteId : UInt8) (remoteCid : UInt16)
    (packet : List UInt8) (pData : Nat) (dataLen rejLen : UInt16) :
    Except Nat (Option (List UInt8)) := do
  -- `BT_HDR_SIZE + HCI_DATA_PREAMBLE_SIZE + L2CAP_PKT_OVERHEAD + L2CAP_CMD_OVERHEAD +
  -- L2CAP_CONFIG_RSP_LEN`
  let len : UInt16 := 8 + 4 + 4 + 4 + 6
  if rejLen > 0xFFFF - len then return none
  let options ← configRejOptions packet dataLen.toNat (pData + dataLen.toNat) pData rejLen []
  let afterHciLen : List UInt8 :=
    le16 (4 + 6 + rejLen) ++ le16 1 ++ [0x05, remoteId] ++ le16 (6 + rejLen) ++
      le16 remoteCid ++ le16 0 ++ le16 3 ++ options
  return some (le16 (packetBoundary view) ++ le16 (UInt16.ofNat afterHciLen.length) ++
    afterHciLen)

/-- The `L2CAP_CMD_CONFIG_REQ` case, from `p` after the header to `p_next_cmd`. -/
def configReqCase (view : LinkView) (packet : List UInt8) (id : UInt8) (cmdLen p pNextCmd : Nat)
    (info : CfgInfo) : Except Nat CaseOutcome := do
  if p + 4 > pNextCmd then return .stop []
  let lcid ← u16 packet p
  let flags ← u16 packet (p + 2)
  let pCfgStart := p + 4
  let info := { info with
    flags, flushToPresent := false, mtuPresent := false, qosPresent := false,
    fcrPresent := false, fcsPresent := false }
  match ← configReqOptions packet cmdLen pNextCmd pCfgStart info false 0 with
  | none => return .stop []
  | some (info, rej, rejLen) =>
      match view.ccbByCid lcid with
      | some ccb =>
          if rej then
            -- `p_ccb->remote_id = id` before the reject is built
            let request := (packet.drop pCfgStart).take (cmdLen - 4)
            match ← l2cuSendPeerConfigRej view id ccb.remoteCid packet pCfgStart
                (UInt16.ofNat (cmdLen - 4)) rejLen with
            | some built => return .next [.configRej request built] info
            | none => return .next [] info
          else return .next [.configReq lcid info] info
      | none => return .next [.cmdReject cmdRejInvalidCid id 0 0] info

/-- The option loop of the `L2CAP_CMD_CONFIG_RSP` case.  Each option it knows is read at its
fixed size whatever its length octet says, and an option it does not know is passed over by
its two header octets only. -/
def configRspOptions (packet : List UInt8) (pCfgEnd : Nat) (p : Nat) (info : CfgInfo) :
    Except Nat (Option CfgInfo) :=
  if p < pCfgEnd then do
    if p + 2 > pCfgEnd then return none
    let cfgCode ← u8 packet p
    let value := p + 2
    match cfgCode &&& 0x7F with
    | 0x01 =>
        if value + 2 > pCfgEnd then return none
        let mtu ← u16 packet value
        configRspOptions packet pCfgEnd (value + 2) { info with mtuPresent := true, mtu }
    | 0x02 =>
        if value + 2 > pCfgEnd then return none
        let flushTo ← u16 packet value
        configRspOptions packet pCfgEnd (value + 2)
          { info with flushToPresent := true, flushTo }
    | 0x03 =>
        if value + 22 > pCfgEnd then return none
        let qos ← readQos packet value
        configRspOptions packet pCfgEnd (value + 22) { info with qosPresent := true, qos }
    | 0x04 =>
        if value + 9 > pCfgEnd then return none
        let fcr ← readFcr packet value
        configRspOptions packet pCfgEnd (value + 9) { info with fcrPresent := true, fcr }
    | 0x05 =>
        if value + 1 > pCfgEnd then return none
        let fcs ← u8 packet value
        configRspOptions packet pCfgEnd (value + 1) { info with fcsPresent := true, fcs }
    | 0x06 =>
        if value + 16 > pCfgEnd then return none
        let extFlowSpec ← readExtFlow packet value
        configRspOptions packet pCfgEnd (value + 16)
          { info with extFlowSpecPresent := true, extFlowSpec }
    | _ => configRspOptions packet pCfgEnd value info
  else return some info
termination_by pCfgEnd - p

/-- The `L2CAP_CMD_CONFIG_RSP` case. -/
def configRspCase (view : LinkView) (packet : List UInt8) (id : UInt8) (p pNextCmd : Nat)
    (info : CfgInfo) : Except Nat CaseOutcome := do
  if p + 6 > pNextCmd then return .stop []
  let lcid ← u16 packet p
  let flags ← u16 packet (p + 2)
  let result ← u16 packet (p + 4)
  let info := { info with
    flags, result, flushToPresent := false, mtuPresent := false, qosPresent := false,
    fcrPresent := false, fcsPresent := false }
  match ← configRspOptions packet pNextCmd (p + 6) info with
  | none => return .stop []
  | some info =>
      match view.ccbByCid lcid with
      | some ccb =>
          if ccb.localId ≠ id then return .next [] info
          return .next [.configRsp lcid info] info
      | none => return .next [] info

/-- The `L2CAP_CMD_REJECT` case. -/
def rejectCase (view : LinkView) (packet : List UInt8) (p pNextCmd : Nat) (info : CfgInfo) :
    Except Nat CaseOutcome := do
  if p + 2 > pNextCmd then return .stop []
  let rejReason ← u16 packet p
  let p := p + 2
  if rejReason = 1 then
    -- `L2CAP_CMD_REJ_MTU_EXCEEDED`: the MTU is read and ignored
    if p + 2 > pNextCmd then return .stop []
    let _rejMtu ← u16 packet p
    return .next [] info
  if rejReason = cmdRejInvalidCid then
    if p + 4 > pNextCmd then return .stop []
    let rcid ← u16 packet p
    let lcid ← u16 packet (p + 2)
    match view.ccbByCid lcid with
    | some ccb => return .next (if ccb.remoteCid = rcid then [.lpDisconnectInd lcid] else []) info
    | none => return .next [] info
  if rejReason = cmdRejNotUnderstood && view.w4InfoRsp then
    return .next [.infoRspToChannels] info
  return .next [] info

/-- The `L2CAP_CMD_INFO_RSP` case. -/
def infoRspCase (packet : List UInt8) (p pNextCmd : Nat) (info : CfgInfo) :
    Except Nat CaseOutcome := do
  if p + 4 > pNextCmd then return .stop []
  let infoType ← u16 packet p
  let result ← u16 packet (p + 2)
  let p := p + 4
  -- `L2CAP_EXTENDED_FEATURES_INFO_TYPE` with `L2CAP_INFO_RESP_RESULT_SUCCESS`
  let features ← if infoType = 0x0002 && result = 0 then do
      if p + 4 > pNextCmd then return .stop []
      let fea ← u32 packet p
      -- `L2CAP_EXTFEA_FIXED_CHNLS`: ask for the fixed channels and leave the switch
      if fea &&& 0x80 ≠ 0 then return .next [.peerExtFeatures fea, .infoReqFixedChannels] info
      pure [.peerExtFeatures fea, .fixedChnlRsp none]
    else pure []
  let p := if infoType = 0x0002 && result = 0 then p + 4 else p
  -- `L2CAP_FIXED_CHANNELS_INFO_TYPE`
  let fixed ← if infoType = 0x0003 then do
      if result = 0 then
        if p + 8 > pNextCmd then return .stop features
        let mask ← octets packet p 8
        pure [.fixedChnlRsp (some mask)]
      else pure [.fixedChnlRsp none]
    else pure []
  return .next (features ++ fixed ++ [.infoRspToChannels]) info

/-- One command of `process_l2cap_cmd`: the case of `cmd_code`, from `p` after the header to
`p_next_cmd`. -/
def processCommand (view : LinkView) (packet : List UInt8) (cmdCode id : UInt8)
    (cmdLen p pNextCmd : Nat) (info : CfgInfo) : Except Nat CaseOutcome :=
  match cmdCode with
  | 0x01 => rejectCase view packet p pNextCmd info
  | 0x02 => do
      if p + 4 > pNextCmd then return .stop []
      let psm ← u16 packet p
      let rcid ← u16 packet (p + 2)
      match view.rcbByPsm psm with
      -- `L2CAP_CONN_NO_PSM`
      | none => return .next [.rejectConnection rcid id 2] info
      | some false => return .next [.rejectConnection rcid id 2] info
      | some true =>
          -- `L2CAP_CONN_NO_RESOURCES`
          if !view.canAllocateCcb then return .next [.rejectConnection rcid id 4] info
          return .next [.connectReq id psm rcid] info
  | 0x03 => do
      if p + 8 > pNextCmd then return .stop []
      let remoteCid ← u16 packet p
      let lcid ← u16 packet (p + 2)
      let result ← u16 packet (p + 4)
      let status ← u16 packet (p + 6)
      match view.ccbByCid lcid with
      | some ccb =>
          if ccb.localId ≠ id then return .next [] info
          return .next [.connectRsp lcid remoteCid result status] info
      | none => return .next [] info
  | 0x04 => configReqCase view packet id cmdLen p pNextCmd info
  | 0x05 => configRspCase view packet id p pNextCmd info
  | 0x06 => do
      if p + 4 > pNextCmd then return .stop []
      let lcid ← u16 packet p
      let rcid ← u16 packet (p + 2)
      match view.ccbByCid lcid with
      | some ccb =>
          return .next (if ccb.remoteCid = rcid then [.disconnectReq lcid] else []) info
      | none => return .next [.peerDiscRsp id lcid rcid] info
  | 0x07 => do
      if p + 4 > pNextCmd then return .stop []
      let rcid ← u16 packet p
      let lcid ← u16 packet (p + 2)
      match view.ccbByCid lcid with
      | some ccb =>
          return .next
            (if ccb.remoteCid = rcid ∧ ccb.localId = id then [.disconnectRsp lcid] else []) info
      | none => return .next [] info
  | 0x08 => do
      -- `l2cu_send_peer_echo_rsp(p_lcb, id, p, cmd_len)`
      if id = 0 ∨ id = view.curEchoId then return .next [] info
      let dataLen := if cmdLen > view.echoMaxLen then 0 else cmdLen
      let data ← octets packet p dataLen
      return .next [.echoRsp id data] info
  | 0x0A => do
      if p + 2 > pNextCmd then return .stop []
      let infoType ← u16 packet p
      return .next [.infoRsp id infoType] info
  | 0x0B => infoRspCase packet p pNextCmd info
  | _ => return .stop [.cmdReject cmdRejNotUnderstood id 0 0]

/-- `l2c_is_cmd_rejected`: the request codes, which a packet over the signalling MTU has
rejected. -/
def isCmdRejected (cmdCode : UInt8) : Bool :=
  cmdCode == 0x02 || cmdCode == 0x04 || cmdCode == 0x06 || cmdCode == 0x08 ||
    cmdCode == 0x0A || cmdCode == 0x0C || cmdCode == 0x0E || cmdCode == 0x12

/-- The command loop of `process_l2cap_cmd` from the command at `pos`, with the actions taken
so far.  `link` gives the view of the link after those actions. -/
def processL2capCmdLoop (link : List SigAction → LinkView) (packet : List UInt8)
    (pktSizeRej : Bool) (pos : Nat) (info : CfgInfo) (done : List SigAction) :
    Except Nat (List SigAction) :=
  -- `p > p_pkt_end - 4`: fewer than four octets left
  if room : pos + 4 > packet.length then return done
  else do
    let cmdCode ← u8 packet pos
    let id ← u8 packet (pos + 1)
    let cmdLen ← u16 packet (pos + 2)
    -- `BT_SMALL_BUFFER_SIZE`, rejected with `L2CAP_CMD_REJ_MTU_EXCEEDED`
    if cmdLen.toNat > 660 then return done ++ [.cmdReject 1 id 0 0]
    let pNextCmd := pos + 4 + cmdLen.toNat
    if pNextCmd > packet.length then return done
    if pktSizeRej then
      -- `L2CAP_DEFAULT_MTU` is reported with the reject
      if isCmdRejected cmdCode then return done ++ [.cmdReject 1 id 672 0]
      processL2capCmdLoop link packet pktSizeRej pNextCmd info done
    else
      let outcome ← processCommand (link done) packet cmdCode id cmdLen.toNat (pos + 4) pNextCmd
        info
      match outcome with
      | .stop actions => return done ++ actions
      | .next actions info =>
          processL2capCmdLoop link packet pktSizeRej pNextCmd info (done ++ actions)
termination_by packet.length - pos

/-- `process_l2cap_cmd(p_lcb, packet, packet.length)`. -/
def processL2capCmd (link : List SigAction → LinkView) (packet : List UInt8) :
    Except Nat (List SigAction) :=
  if (link []).isLe then return []
  else processL2capCmdLoop link packet (packet.length > 672) 0 default []

end Bluetooth.L2cap

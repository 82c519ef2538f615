import Bluetooth.Lib.ByteStream

set_option linter.all false

/-!
# The AVRCP target's parser of vendor-dependent commands

`avrc_pars_vendor_cmd` reads a metadata command: the PDU id, a reserved octet, a two-octet
parameter length that must make up the rest of the message, and the parameters of the PDU.  It
fills `tAVRC_COMMAND`, whose arrays have fixed sizes, and for Set Player Application Setting
Value it writes the settings into the caller's scratch buffer `p_buf` of `buf_len` octets.

The model reads the message through `ByteStream`, so a read outside it is an error value.  Two
cases leave the buffers: Get Capabilities with no parameters reads its capability id past the
end of the message, and Set Player Application Setting Value checks `buf_len` against the size of
one setting on every iteration without counting what it wrote, so it writes every setting into
`p_buf` once `buf_len` exceeds two octets (`avrcParsVendorCmd_leaves_buffers`).
-/

namespace Bluetooth.Avrc

open ByteStream

/-! ## Constants -/

/-- `AVRC_STS_BAD_CMD`. -/
def avrcStsBadCmd : UInt8 := 0x00

/-- `AVRC_STS_BAD_PARAM`. -/
def avrcStsBadParam : UInt8 := 0x01

/-- `AVRC_STS_NOT_FOUND`. -/
def avrcStsNotFound : UInt8 := 0x02

/-- `AVRC_STS_INTERNAL_ERR`. -/
def avrcStsInternalErr : UInt8 := 0x03

/-- `AVRC_STS_NO_ERROR`. -/
def avrcStsNoError : UInt8 := 0x04

/-- `AVRC_STS_BAD_SCOPE`. -/
def avrcStsBadScope : UInt8 := 0x0a

/-- `AVRC_CMD_CTRL`. -/
def avrcCmdCtrl : UInt8 := 0

/-- `AVRC_CMD_STATUS`. -/
def avrcCmdStatus : UInt8 := 1

/-- `AVRC_CMD_NOTIF`. -/
def avrcCmdNotif : UInt8 := 3

/-- `AVRC_RSP_NOT_IMPL`. -/
def avrcRspNotImpl : UInt8 := 8

/-- `AVRC_RSP_INTERIM`. -/
def avrcRspInterim : UInt8 := 15

/-- `AVRC_PDU_GET_CAPABILITIES`. -/
def avrcPduGetCapabilities : UInt8 := 0x10

/-- `AVRC_PDU_LIST_PLAYER_APP_ATTR`. -/
def avrcPduListPlayerAppAttr : UInt8 := 0x11

/-- `AVRC_PDU_LIST_PLAYER_APP_VALUES`. -/
def avrcPduListPlayerAppValues : UInt8 := 0x12

/-- `AVRC_PDU_GET_CUR_PLAYER_APP_VALUE`. -/
def avrcPduGetCurPlayerAppValue : UInt8 := 0x13

/-- `AVRC_PDU_SET_PLAYER_APP_VALUE`. -/
def avrcPduSetPlayerAppValue : UInt8 := 0x14

/-- `AVRC_PDU_GET_PLAYER_APP_ATTR_TEXT`. -/
def avrcPduGetPlayerAppAttrText : UInt8 := 0x15

/-- `AVRC_PDU_GET_PLAYER_APP_VALUE_TEXT`. -/
def avrcPduGetPlayerAppValueText : UInt8 := 0x16

/-- `AVRC_PDU_INFORM_DISPLAY_CHARSET`. -/
def avrcPduInformDisplayCharset : UInt8 := 0x17

/-- `AVRC_PDU_INFORM_BATTERY_STAT_OF_CT`. -/
def avrcPduInformBatteryStatOfCt : UInt8 := 0x18

/-- `AVRC_PDU_GET_ELEMENT_ATTR`. -/
def avrcPduGetElementAttr : UInt8 := 0x20

/-- `AVRC_PDU_GET_PLAY_STATUS`. -/
def avrcPduGetPlayStatus : UInt8 := 0x30

/-- `AVRC_PDU_REGISTER_NOTIFICATION`. -/
def avrcPduRegisterNotification : UInt8 := 0x31

/-- `AVRC_PDU_REQUEST_CONTINUATION_RSP`. -/
def avrcPduRequestContinuationRsp : UInt8 := 0x40

/-- `AVRC_PDU_ABORT_CONTINUATION_RSP`. -/
def avrcPduAbortContinuationRsp : UInt8 := 0x41

/-- `AVRC_PDU_SET_ABSOLUTE_VOLUME`. -/
def avrcPduSetAbsoluteVolume : UInt8 := 0x50

/-- `AVRC_PDU_SET_ADDRESSED_PLAYER`. -/
def avrcPduSetAddressedPlayer : UInt8 := 0x60

/-- `AVRC_PDU_GET_FOLDER_ITEMS`. -/
def avrcPduGetFolderItems : UInt8 := 0x71

/-- `AVRC_PDU_PLAY_ITEM`. -/
def avrcPduPlayItem : UInt8 := 0x74

/-- `AVRC_PDU_ADD_TO_NOW_PLAYING`. -/
def avrcPduAddToNowPlaying : UInt8 := 0x90

/-- `AVRC_MAX_APP_ATTR_SIZE`. -/
def avrcMaxAppAttrSize : Nat := 16

/-- `AVRC_MAX_CHARSET_SIZE`. -/
def avrcMaxCharsetSize : Nat := 16

/-- `AVRC_MAX_ELEM_ATTR_SIZE`. -/
def avrcMaxElemAttrSize : Nat := 8

/-- `AVRC_UID_SIZE`. -/
def avrcUidSize : Nat := 8

/-- `AVRC_SCOPE_NOW_PLAYING`. -/
def avrcScopeNowPlaying : UInt8 := 0x03

/-- `sizeof(tAVRC_APP_SETTING)`. -/
def appSettingSize : Nat := 2

/-! ## Validity checks -/

/-- `AVRC_IsValidAvcType`: the command type each PDU comes with, or a response type. -/
def avrcIsValidAvcType (pduId avcType : UInt8) : Bool :=
  if avcType < avrcRspNotImpl then
    if pduId ∈ [avrcPduGetCapabilities, avrcPduListPlayerAppAttr, avrcPduListPlayerAppValues,
        avrcPduGetCurPlayerAppValue, avrcPduGetPlayerAppAttrText, avrcPduGetPlayerAppValueText,
        avrcPduGetElementAttr, avrcPduGetPlayStatus] then avcType = avrcCmdStatus
    else if pduId ∈ [avrcPduSetPlayerAppValue, avrcPduInformDisplayCharset,
        avrcPduInformBatteryStatOfCt, avrcPduRequestContinuationRsp,
        avrcPduAbortContinuationRsp] then avcType = avrcCmdCtrl
    else if pduId = avrcPduGetFolderItems then true
    else if pduId ∈ [avrcPduSetAbsoluteVolume, avrcPduSetAddressedPlayer, avrcPduPlayItem,
        avrcPduAddToNowPlaying] then avcType = avrcCmdCtrl
    else if pduId = avrcPduRegisterNotification then avcType = avrcCmdNotif
    else false
  else avrcRspNotImpl ≤ avcType && avcType ≤ avrcRspInterim

/-- `AVRC_IS_VALID_CAP_ID`: `AVRC_CAP_COMPANY_ID` or `AVRC_CAP_EVENTS_SUPPORTED`. -/
def avrcIsValidCapId (capId : UInt8) : Bool := capId = 0x02 || capId = 0x03

/-- `AVRC_IS_VALID_EVENT_ID`: from `AVRC_EVT_PLAY_STATUS_CHANGE` to `AVRC_EVT_VOLUME_CHANGE`. -/
def avrcIsValidEventId (eventId : UInt8) : Bool := 0x01 ≤ eventId && eventId ≤ 0x0d

/-- `AVRC_IS_VALID_ATTRIBUTE`: a player setting up to `AVRC_PLAYER_SETTING_SCAN`, or a menu
extension. -/
def avrcIsValidAttribute (attr : UInt8) : Bool := (0 < attr && attr ≤ 0x04) || 0x80 ≤ attr

/-- `AVRC_IS_VALID_BATTERY_STATUS`. -/
def avrcIsValidBatteryStatus (status : UInt8) : Bool := status ≤ 0x04

/-- `AVRC_IsValidPlayerAttr`. -/
def avrcIsValidPlayerAttr (attr : UInt8) : Bool := (0x01 ≤ attr && attr ≤ 0x04) || 0x80 ≤ attr

/-- `avrc_is_valid_player_attrib_value`: the values each player setting takes; any value of a
menu extension. -/
def avrcIsValidPlayerAttribValue (attrib value : UInt8) : Bool :=
  (if attrib = 0x01 then 0 < value && value ≤ 0x02
  else if attrib = 0x02 then 0 < value && value ≤ 0x04
  else if attrib = 0x03 ∨ attrib = 0x04 then 0 < value && value ≤ 0x03
  else false) || 0x80 ≤ attrib

/-! ## The parsed command -/

/-- `tAVRC_APP_SETTING`. -/
structure AppSetting where
  /-- The player setting. -/
  attrId : UInt8
  /-- Its value. -/
  attrVal : UInt8
  deriving DecidableEq, Repr

/-- The member of `tAVRC_COMMAND` that a PDU fills.  The arrays hold the entries written; a
field that the parser does not reach is 0. -/
inductive Command where
  | none
  | getCaps (capabilityId : UInt8)
  | listAppValues (attrId : UInt8)
  | getCurAppVal (numAttr : UInt8) (attrs : List UInt8)
  | setAppVal (numVal : UInt8) (pVals : List AppSetting)
  | getAppValTxt (attrId numVal : UInt8) (vals : List UInt8)
  | informCharset (numId : UInt8) (charsets : List UInt16)
  | informBatteryStatus (batteryStatus : UInt8)
  | getElemAttrs (numAttr : UInt8) (attrs : List UInt32)
  | regNotif (eventId : UInt8) (param : UInt32)
  | volume (volume : UInt8)
  | continu (targetPdu : UInt8)
  | abort (targetPdu : UInt8)
  | addrPlayer (playerId : UInt16)
  | playItem (scope : UInt8) (uid : List UInt8) (uidCounter : UInt16)
  deriving DecidableEq, Repr

/-- What `avrc_pars_vendor_cmd` returns and leaves in `p_result`. -/
structure Parsed where
  /-- The returned status. -/
  status : UInt8
  /-- `p_result->pdu`, once it is read. -/
  pdu : Option UInt8
  /-- The member of `p_result` filled. -/
  command : Command
  deriving DecidableEq, Repr

/-! ## The PDUs with a list of parameters -/

/-- Get Current Player Application Setting Value and Get Player Application Setting Attribute
Text: the `num_attr` attribute ids from `pos`, keeping the valid ones. -/
def validAttrs (data : List UInt8) (pos : Nat) : Nat → Except Nat (List UInt8)
  | 0 => .ok []
  | count + 1 => do
    let attr ← u8 data pos
    let rest ← validAttrs data (pos + 1) count
    return if avrcIsValidPlayerAttr attr then attr :: rest else rest

/-- The loop of Set Player Application Setting Value: while `xx < num_val` and `buf_len` exceeds
one setting, read a setting into `p_buf[xx]`.  `buf_len` is never lowered. -/
def setAppValLoop (data : List UInt8) (bufLen : Nat) (pos : Nat) (status : UInt8) :
    Nat → Except Nat (List AppSetting × UInt8)
  | 0 => .ok ([], status)
  | remaining + 1 =>
    if bufLen > appSettingSize then do
      let attrId ← u8 data pos
      let attrVal ← u8 data (pos + 1)
      let status :=
        if avrcIsValidPlayerAttribValue attrId attrVal then status else avrcStsBadParam
      let (rest, status) ← setAppValLoop data bufLen (pos + 2) status remaining
      return (⟨attrId, attrVal⟩ :: rest, status)
    else .ok ([], status)

/-- The loop of Get Player Application Setting Value Text: the values from `pos`, stopping
after the first that is not a value of the attribute. -/
def appValTxtLoop (data : List UInt8) (attrId : UInt8) (pos : Nat) :
    Nat → Except Nat (List UInt8 × UInt8)
  | 0 => .ok ([], avrcStsNoError)
  | count + 1 => do
    let value ← u8 data pos
    if avrcIsValidPlayerAttribValue attrId value then do
      let (rest, status) ← appValTxtLoop data attrId (pos + 1) count
      return (value :: rest, status)
    else return ([value], avrcStsBadParam)

/-- `count` big-endian two-octet values from `pos`. -/
def be16s (data : List UInt8) (pos : Nat) : Nat → Except Nat (List UInt16)
  | 0 => .ok []
  | count + 1 => do
    let value ← be16 data pos
    let rest ← be16s data (pos + 2) count
    return value :: rest

/-- `count` big-endian four-octet values from `pos`. -/
def be32s (data : List UInt8) (pos : Nat) : Nat → Except Nat (List UInt32)
  | 0 => .ok []
  | count + 1 => do
    let value ← be32 data pos
    let rest ← be32s data (pos + 4) count
    return value :: rest

/-! ## One case of the switch per PDU -/

/-- Get Capabilities: the capability id, read before the length is checked. -/
def parseGetCapabilities (data : List UInt8) (len : Nat) : Except Nat (UInt8 × Command) := do
  let capabilityId ← u8 data 4
  return (if !avrcIsValidCapId capabilityId then avrcStsBadParam
    else if len ≠ 1 then avrcStsInternalErr else avrcStsNoError, .getCaps capabilityId)

/-- List Player Application Setting Values: one attribute id. -/
def parseListAppValues (data : List UInt8) (len : Nat) : Except Nat (UInt8 × Command) :=
  if len = 0 then .ok (avrcStsInternalErr, .none)
  else do
    let attrId ← u8 data 4
    return (if !avrcIsValidAttribute attrId then avrcStsBadParam
      else if len ≠ 1 then avrcStsInternalErr else avrcStsNoError, .listAppValues attrId)

/-- Get Current Player Application Setting Value, and Get Player Application Setting Attribute
Text, which has the same layout: `num_attr` attribute ids, of which the valid ones are kept. -/
def parseGetCurAppVal (data : List UInt8) (len : Nat) : Except Nat (UInt8 × Command) :=
  if len = 0 then .ok (avrcStsInternalErr, .none)
  else do
    let numAttr ← u8 data 4
    if len ≠ numAttr.toNat + 1 then return (avrcStsInternalErr, .getCurAppVal numAttr [])
    else do
      let attrs ← validAttrs data 5 (min numAttr.toNat avrcMaxAppAttrSize)
      return (if attrs.length = 0 then avrcStsBadParam else avrcStsNoError,
        .getCurAppVal (UInt8.ofNat attrs.length) attrs)

/-- Set Player Application Setting Value: `num_val` settings, which must make up the
parameters, written into `p_buf`. -/
def parseSetAppVal (data : List UInt8) (len : Nat) (pBuf : Bool) (bufLen : Nat) :
    Except Nat (UInt8 × Command) :=
  if len = 0 then .ok (avrcStsInternalErr, .none)
  else do
    let numVal ← u8 data 4
    if pBuf ∧ len = numVal.toNat * 2 + 1 then do
      let (pVals, status) ← setAppValLoop data bufLen 5 avrcStsNoError numVal.toNat
      -- `if (xx != num_val) num_val = xx`
      return (status, .setAppVal (UInt8.ofNat pVals.length) pVals)
    else return (avrcStsInternalErr, .setAppVal numVal [])

/-- Get Player Application Setting Value Text: an attribute and `num_val` of its values. -/
def parseGetAppValTxt (data : List UInt8) (len : Nat) : Except Nat (UInt8 × Command) :=
  if len < 3 then .ok (avrcStsInternalErr, .none)
  else do
    let attrId ← u8 data 4
    if !avrcIsValidAttribute attrId then return (avrcStsBadParam, .getAppValTxt attrId 0 [])
    else do
      let numVal ← u8 data 5
      if len - 2 ≠ numVal.toNat then return (avrcStsInternalErr, .getAppValTxt attrId numVal [])
      else do
        let numVal := min numVal.toNat avrcMaxAppAttrSize
        let (vals, status) ← appValTxtLoop data attrId 6 numVal
        return (status, .getAppValTxt attrId (UInt8.ofNat numVal) vals)

/-- Inform Displayable Character Set: `num_id` two-octet character sets. -/
def parseInformCharset (data : List UInt8) (len : Nat) : Except Nat (UInt8 × Command) :=
  if len < 3 then .ok (avrcStsInternalErr, .none)
  else do
    let numId ← u8 data 4
    if len - 1 ≠ numId.toNat * 2 then return (avrcStsInternalErr, .informCharset numId [])
    else do
      let numId := min numId.toNat avrcMaxCharsetSize
      let charsets ← be16s data 5 numId
      return (avrcStsNoError, .informCharset (UInt8.ofNat numId) charsets)

/-- Inform Battery Status of CT: one status octet. -/
def parseInformBatteryStatus (data : List UInt8) (len : Nat) : Except Nat (UInt8 × Command) :=
  if len ≠ 1 then .ok (avrcStsInternalErr, .none)
  else do
    let batteryStatus ← u8 data 4
    return (if avrcIsValidBatteryStatus batteryStatus then avrcStsNoError else avrcStsBadParam,
      .informBatteryStatus batteryStatus)

/-- Get Element Attributes: the identifier of the playing element, which must be 0, and
`num_attr` four-octet attribute ids. -/
def parseGetElementAttr (data : List UInt8) (len : Nat) : Except Nat (UInt8 × Command) :=
  if len < 9 then .ok (avrcStsInternalErr, .none)
  else do
    let uidHigh ← be32 data 4
    let uidLow ← be32 data 8
    if uidHigh = 0 ∧ uidLow = 0 then do
      let numAttr ← u8 data 12
      if len - 9 ≠ numAttr.toNat * 4 then return (avrcStsInternalErr, .getElemAttrs numAttr [])
      else do
        let numAttr := min numAttr.toNat avrcMaxElemAttrSize
        let attrs ← be32s data 13 numAttr
        return (avrcStsNoError, .getElemAttrs (UInt8.ofNat numAttr) attrs)
    else return (avrcStsNotFound, .none)

/-- Register Notification: an event id and a four-octet parameter. -/
def parseRegisterNotification (data : List UInt8) (len : Nat) : Except Nat (UInt8 × Command) :=
  if len ≠ 5 then .ok (avrcStsInternalErr, .none)
  else do
    let eventId ← u8 data 4
    if !avrcIsValidEventId eventId then return (avrcStsBadParam, .regNotif eventId 0)
    else do
      let param ← be32 data 5
      return (avrcStsNoError, .regNotif eventId param)

/-- Set Absolute Volume, Request Continuing Response and Abort Continuing Response: one octet,
stored in the member `field` of the command. -/
def parseOneOctet (field : UInt8 → Command) (data : List UInt8) (len : Nat) :
    Except Nat (UInt8 × Command) :=
  if len ≠ 1 then .ok (avrcStsInternalErr, .none)
  else do
    let value ← u8 data 4
    return (avrcStsNoError, field value)

/-- Set Addressed Player: a two-octet player id. -/
def parseSetAddressedPlayer (data : List UInt8) (len : Nat) : Except Nat (UInt8 × Command) :=
  if len ≠ 2 then .ok (avrcStsInternalErr, .none)
  else do
    let playerId ← be16 data 4
    return (avrcStsNoError, .addrPlayer playerId)

/-- Play Item and Add To Now Playing: a scope, a UID and the UID counter. -/
def parsePlayItem (data : List UInt8) (len : Nat) : Except Nat (UInt8 × Command) :=
  if len ≠ avrcUidSize + 3 then .ok (avrcStsInternalErr, .none)
  else do
    let scope ← u8 data 4
    let uid ← octets data 5 avrcUidSize
    let uidCounter ← be16 data 13
    return (if scope > avrcScopeNowPlaying then avrcStsBadScope else avrcStsNoError,
      .playItem scope uid uidCounter)

/-- The `switch` on the PDU id: the status and the member of `p_result` filled. -/
def parsePdu (pdu : UInt8) (data : List UInt8) (len : Nat) (pBuf : Bool) (bufLen : Nat) :
    Except Nat (UInt8 × Command) :=
  if pdu = avrcPduGetCapabilities then parseGetCapabilities data len
  else if pdu = avrcPduListPlayerAppAttr then
    .ok (if len ≠ 0 then avrcStsInternalErr else avrcStsNoError, .none)
  else if pdu = avrcPduListPlayerAppValues then parseListAppValues data len
  else if pdu = avrcPduGetCurPlayerAppValue ∨ pdu = avrcPduGetPlayerAppAttrText then
    parseGetCurAppVal data len
  else if pdu = avrcPduSetPlayerAppValue then parseSetAppVal data len pBuf bufLen
  else if pdu = avrcPduGetPlayerAppValueText then parseGetAppValTxt data len
  else if pdu = avrcPduInformDisplayCharset then parseInformCharset data len
  else if pdu = avrcPduInformBatteryStatOfCt then parseInformBatteryStatus data len
  else if pdu = avrcPduGetElementAttr then parseGetElementAttr data len
  else if pdu = avrcPduGetPlayStatus then
    .ok (if len ≠ 0 then avrcStsInternalErr else avrcStsNoError, .none)
  else if pdu = avrcPduRegisterNotification then parseRegisterNotification data len
  else if pdu = avrcPduSetAbsoluteVolume then parseOneOctet .volume data len
  else if pdu = avrcPduRequestContinuationRsp then parseOneOctet .continu data len
  else if pdu = avrcPduAbortContinuationRsp then parseOneOctet .abort data len
  else if pdu = avrcPduSetAddressedPlayer then parseSetAddressedPlayer data len
  else if pdu = avrcPduPlayItem ∨ pdu = avrcPduAddToNowPlaying then parsePlayItem data len
  else .ok (avrcStsBadCmd, .none)

/-- `avrc_pars_vendor_cmd` on the `vendor_len` octets `data` of a message of command type
`ctype`, with the scratch buffer `p_buf` present or not and `buf_len` octets long, or the offset
of a read outside the message. -/
def avrcParsVendorCmd (ctype : UInt8) (data : List UInt8) (pBuf : Bool) (bufLen : Nat) :
    Except Nat Parsed :=
  if data.length = 0 then .ok ⟨avrcStsNoError, none, .none⟩
  else if data.length < 4 then .ok ⟨avrcStsInternalErr, none, .none⟩
  else do
    let pdu ← u8 data 0
    let len ← be16 data 2
    let status := if avrcIsValidAvcType pdu ctype then avrcStsNoError else avrcStsBadCmd
    let status := if len.toNat + 4 ≠ data.length then avrcStsInternalErr else status
    if status ≠ avrcStsNoError then return ⟨status, some pdu, .none⟩
    else do
      let (status, command) ← parsePdu pdu data len.toNat pBuf bufLen
      return ⟨status, some pdu, command⟩

/-! ## What the parser fills -/

/-- `tAVRC_APP_SETTING` as it stands in the message. -/
def AppSetting.encode (setting : AppSetting) : List UInt8 := [setting.attrId, setting.attrVal]

/-- Whether every setting is a value of its attribute. -/
def settingsValid (settings : List AppSetting) : Bool :=
  settings.all fun setting => avrcIsValidPlayerAttribValue setting.attrId setting.attrVal

@[simp] theorem settingsValid_cons (setting : AppSetting) (rest : List AppSetting) :
    settingsValid (setting :: rest) =
      (avrcIsValidPlayerAttribValue setting.attrId setting.attrVal && settingsValid rest) := rfl

theorem length_flatMap_encode (settings : List AppSetting) :
    (settings.flatMap AppSetting.encode).length = 2 * settings.length := by
  induction settings with
  | nil => rfl
  | cons setting rest induction =>
    simp only [List.flatMap_cons, List.length_append, induction, List.length_cons]
    simp [AppSetting.encode]
    omega

/-- The octets the parser writes into `p_buf`. -/
def Command.written : Command → Nat
  | .setAppVal _ pVals => appSettingSize * pVals.length
  | _ => 0

/-- Every fixed array of `tAVRC_COMMAND` holds at most its declared size. -/
def Command.Fits : Command → Prop
  | .getCurAppVal _ attrs => attrs.length ≤ avrcMaxAppAttrSize
  | .getAppValTxt _ _ vals => vals.length ≤ avrcMaxAppAttrSize
  | .informCharset _ charsets => charsets.length ≤ avrcMaxCharsetSize
  | .getElemAttrs _ attrs => attrs.length ≤ avrcMaxElemAttrSize
  | .playItem _ uid _ => uid.length = avrcUidSize
  | _ => True

/-- Every count field is the number of entries of the array it describes. -/
def Command.Counted : Command → Prop
  | .getCurAppVal numAttr attrs => numAttr.toNat = attrs.length
  | .setAppVal numVal pVals => numVal.toNat = pVals.length
  | .getAppValTxt _ numVal vals => numVal.toNat = vals.length
  | .informCharset numId charsets => numId.toNat = charsets.length
  | .getElemAttrs numAttr attrs => numAttr.toNat = attrs.length
  | _ => True

/-- What one case of the switch leaves is sound: its arrays fit, and with `AVRC_STS_NO_ERROR`
its counts are those of the arrays. -/
def Sound (result : UInt8 × Command) : Prop :=
  result.2.Fits ∧ (result.1 = avrcStsNoError → result.2.Counted)

/-- A command with no array is sound whatever its status. -/
theorem sound_of_counted {status : UInt8} {command : Command} (fits : command.Fits)
    (counted : command.Counted) : Sound (status, command) :=
  ⟨fits, fun _ => counted⟩

/-- A count of at most one octet's range reads back as the count. -/
theorem toNat_ofNat_count {count : Nat} (small : count < 256) :
    (UInt8.ofNat count).toNat = count := by
  simp [Nat.mod_eq_of_lt small]

/-! ## The loops -/

section Loops

variable {data : List UInt8}

theorem validAttrs_ok {pos : Nat} (count : Nat) (inside : pos + count ≤ data.length) :
    ∃ attrs, validAttrs data pos count = .ok attrs := by
  induction count generalizing pos with
  | zero => exact ⟨[], rfl⟩
  | succ count induction =>
    rw [validAttrs]
    refine exists_ok_bind ⟨_, u8_of_lt (show pos < data.length by omega)⟩ fun attr => ?_
    exact exists_ok_bind (@induction (pos + 1) (by omega)) fun _ => ⟨_, rfl⟩

theorem validAttrs_short (pos count : Nat) :
    Ensures (validAttrs data pos count) fun attrs => attrs.length ≤ count := by
  induction count generalizing pos with
  | zero => exact ensures_pure (Nat.le_refl _)
  | succ count induction =>
    rw [validAttrs]
    refine ensures_bind (ensures_any _) fun attr _ => ?_
    refine ensures_bind (induction (pos + 1)) fun rest short => ensures_pure ?_
    split
    · simp only [List.length_cons]
      omega
    · omega

theorem setAppValLoop_of_le {bufLen pos : Nat} {status : UInt8} (full : bufLen ≤ appSettingSize)
    (count : Nat) : setAppValLoop data bufLen pos status count = .ok ([], status) := by
  cases count with
  | zero => rfl
  | succ count => simp [setAppValLoop, Nat.not_lt.mpr full]

theorem setAppValLoop_ok {bufLen pos : Nat} {status : UInt8} (count : Nat)
    (inside : pos + 2 * count ≤ data.length) :
    ∃ result, setAppValLoop data bufLen pos status count = .ok result := by
  induction count generalizing pos status with
  | zero => exact ⟨_, rfl⟩
  | succ count induction =>
    rw [setAppValLoop]
    split
    · refine exists_ok_bind ⟨_, u8_of_lt (show pos < data.length by omega)⟩ fun attrId => ?_
      refine exists_ok_bind ⟨_, u8_of_lt (show pos + 1 < data.length by omega)⟩ fun attrVal => ?_
      exact exists_ok_bind (@induction (pos + 2) _ (by omega)) fun _ => ⟨_, rfl⟩
    · exact ⟨_, rfl⟩

theorem setAppValLoop_short (bufLen pos : Nat) (status : UInt8) (count : Nat) :
    Ensures (setAppValLoop data bufLen pos status count) fun result => result.1.length ≤ count := by
  induction count generalizing pos status with
  | zero => exact ensures_pure (Nat.le_refl _)
  | succ count induction =>
    rw [setAppValLoop]
    split
    · refine ensures_bind (ensures_any _) fun attrId _ => ?_
      refine ensures_bind (ensures_any _) fun attrVal _ => ?_
      refine ensures_bind (induction _ _) fun ⟨rest, last⟩ short => ensures_pure ?_
      simp only [List.length_cons] at short ⊢
      omega
    · exact ensures_pure (Nat.zero_le _)

/-- Once `buf_len` exceeds one setting, the loop reads every setting of the message, whatever
`buf_len` is. -/
theorem setAppValLoop_encode {bufLen : Nat} (room : appSettingSize < bufLen)
    (settings : List AppSetting) :
    ∀ (front back : List UInt8) (status : UInt8),
      setAppValLoop (front ++ settings.flatMap AppSetting.encode ++ back) bufLen front.length
        status settings.length =
      .ok (settings, if settingsValid settings then status else avrcStsBadParam) := by
  induction settings with
  | nil => intro front back status; simp [setAppValLoop, settingsValid]
  | cons setting rest induction =>
    intro front back status
    have shape : front ++ (setting :: rest).flatMap AppSetting.encode ++ back =
        (front ++ setting.encode) ++ rest.flatMap AppSetting.encode ++ back := by
      simp [AppSetting.encode]
    have attrId : u8 ((front ++ setting.encode) ++ rest.flatMap AppSetting.encode ++ back)
        front.length = .ok setting.attrId := by
      rw [u8_of_lt (by simp [AppSetting.encode])]
      simp [AppSetting.encode]
    have attrVal : u8 ((front ++ setting.encode) ++ rest.flatMap AppSetting.encode ++ back)
        (front.length + 1) = .ok setting.attrVal := by
      rw [u8_of_lt (by simp [AppSetting.encode])]
      simp [AppSetting.encode]
    have later := induction (front ++ setting.encode) back
      (if avrcIsValidPlayerAttribValue setting.attrId setting.attrVal then status
        else avrcStsBadParam)
    rw [show (front ++ setting.encode).length = front.length + 2 by simp [AppSetting.encode]]
      at later
    rw [shape, List.length_cons]
    simp only [setAppValLoop, if_pos room, attrId, attrVal, ok_bind, later, pure_eq_ok]
    cases first : avrcIsValidPlayerAttribValue setting.attrId setting.attrVal <;>
      cases valid : settingsValid rest <;> simp [first, valid]

theorem appValTxtLoop_ok {attrId : UInt8} {pos : Nat} (count : Nat)
    (inside : pos + count ≤ data.length) :
    ∃ result, appValTxtLoop data attrId pos count = .ok result := by
  induction count generalizing pos with
  | zero => exact ⟨_, rfl⟩
  | succ count induction =>
    rw [appValTxtLoop]
    refine exists_ok_bind ⟨_, u8_of_lt (show pos < data.length by omega)⟩ fun value => ?_
    split
    · exact exists_ok_bind (@induction (pos + 1) (by omega)) fun _ => ⟨_, rfl⟩
    · exact ⟨_, rfl⟩

/-- The loop stops early only at a value that is not one of the attribute, and then reports it. -/
theorem appValTxtLoop_short (attrId : UInt8) (pos count : Nat) :
    Ensures (appValTxtLoop data attrId pos count) fun result =>
      result.1.length ≤ count ∧ (result.2 = avrcStsNoError → result.1.length = count) := by
  induction count generalizing pos with
  | zero => exact ensures_pure ⟨Nat.le_refl _, fun _ => rfl⟩
  | succ count induction =>
    rw [appValTxtLoop]
    refine ensures_bind (ensures_any _) fun value _ => ?_
    split
    · refine ensures_bind (induction (pos + 1)) fun ⟨rest, last⟩ ⟨short, full⟩ => ?_
      refine ensures_pure ⟨by simpa using short, fun noError => by simp [full noError]⟩
    · exact ensures_pure ⟨by simp, fun bad => by simp [avrcStsBadParam, avrcStsNoError] at bad⟩

theorem be16s_ok {pos : Nat} (count : Nat) (inside : pos + 2 * count ≤ data.length) :
    ∃ values, be16s data pos count = .ok values := by
  induction count generalizing pos with
  | zero => exact ⟨[], rfl⟩
  | succ count induction =>
    rw [be16s]
    refine exists_ok_bind ⟨_, be16_of_le (show pos + 2 ≤ data.length by omega)⟩ fun value => ?_
    exact exists_ok_bind (@induction (pos + 2) (by omega)) fun _ => ⟨_, rfl⟩

theorem be16s_length (pos count : Nat) :
    Ensures (be16s data pos count) fun values => values.length = count := by
  induction count generalizing pos with
  | zero => exact ensures_pure rfl
  | succ count induction =>
    rw [be16s]
    refine ensures_bind (ensures_any _) fun value _ => ?_
    exact ensures_bind (induction (pos + 2)) fun rest length => ensures_pure (by simp [length])

theorem be32_ok {pos : Nat} (inside : pos + 4 ≤ data.length) :
    ∃ value, be32 data pos = .ok value := by
  simp [be32, be16_of_le (show pos + 2 ≤ data.length by omega),
    be16_of_le (show pos + 2 + 2 ≤ data.length by omega)]

theorem be32s_ok {pos : Nat} (count : Nat) (inside : pos + 4 * count ≤ data.length) :
    ∃ values, be32s data pos count = .ok values := by
  induction count generalizing pos with
  | zero => exact ⟨[], rfl⟩
  | succ count induction =>
    rw [be32s]
    refine exists_ok_bind (@be32_ok data pos (by omega)) fun value => ?_
    exact exists_ok_bind (@induction (pos + 4) (by omega)) fun _ => ⟨_, rfl⟩

theorem be32s_length (pos count : Nat) :
    Ensures (be32s data pos count) fun values => values.length = count := by
  induction count generalizing pos with
  | zero => exact ensures_pure rfl
  | succ count induction =>
    rw [be32s]
    refine ensures_bind (ensures_any _) fun value _ => ?_
    exact ensures_bind (induction (pos + 4)) fun rest length => ensures_pure (by simp [length])

theorem octets_length (pos count : Nat) :
    Ensures (octets data pos count) fun bytes => bytes.length = count := by
  unfold octets
  split
  · exact ensures_pure (by simp; omega)
  · intro _ failed
    cases failed

end Loops

/-! ## Every case of the switch -/

section Cases

variable {data : List UInt8} {len : Nat}

theorem parseGetCapabilities_sound : Ensures (parseGetCapabilities data len) Sound :=
  ensures_bind (ensures_any _) fun _ _ => ensures_pure (sound_of_counted trivial trivial)

theorem parseListAppValues_sound : Ensures (parseListAppValues data len) Sound := by
  unfold parseListAppValues
  split
  · exact ensures_pure (sound_of_counted trivial trivial)
  · exact ensures_bind (ensures_any _) fun _ _ => ensures_pure (sound_of_counted trivial trivial)

theorem parseGetCurAppVal_sound : Ensures (parseGetCurAppVal data len) Sound := by
  unfold parseGetCurAppVal
  split
  · exact ensures_pure (sound_of_counted trivial trivial)
  · refine ensures_bind (ensures_any _) fun numAttr _ => ?_
    split
    · exact ensures_pure ⟨by simp [Command.Fits], fun wrong => by
        simp [avrcStsInternalErr, avrcStsNoError] at wrong⟩
    · refine ensures_bind (validAttrs_short _ _) fun attrs short => ensures_pure ?_
      have fits : attrs.length ≤ avrcMaxAppAttrSize := by
        simp only [avrcMaxAppAttrSize] at short ⊢
        omega
      refine sound_of_counted fits ?_
      simp only [Command.Counted]
      exact toNat_ofNat_count (by simp only [avrcMaxAppAttrSize] at fits; omega)

theorem parseSetAppVal_sound {pBuf : Bool} {bufLen : Nat} :
    Ensures (parseSetAppVal data len pBuf bufLen) Sound := by
  unfold parseSetAppVal
  split
  · exact ensures_pure (sound_of_counted trivial trivial)
  · refine ensures_bind (ensures_any _) fun numVal _ => ?_
    split
    · refine ensures_bind (setAppValLoop_short _ _ _ _) fun ⟨pVals, status⟩ short => ?_
      refine ensures_pure (sound_of_counted trivial ?_)
      have small := numVal.toNat_lt
      simp only [Command.Counted]
      exact toNat_ofNat_count (by simp only at short; omega)
    · exact ensures_pure ⟨trivial, fun wrong => by
        simp [avrcStsInternalErr, avrcStsNoError] at wrong⟩

theorem parseGetAppValTxt_sound : Ensures (parseGetAppValTxt data len) Sound := by
  unfold parseGetAppValTxt
  split
  · exact ensures_pure (sound_of_counted trivial trivial)
  · refine ensures_bind (ensures_any _) fun attrId _ => ?_
    split
    · exact ensures_pure (sound_of_counted (by simp [Command.Fits]) (by simp [Command.Counted]))
    · refine ensures_bind (ensures_any _) fun numVal _ => ?_
      split
      · exact ensures_pure ⟨by simp [Command.Fits], fun wrong => by
          simp [avrcStsInternalErr, avrcStsNoError] at wrong⟩
      · refine ensures_bind (appValTxtLoop_short _ _ _) fun ⟨vals, status⟩ ⟨short, full⟩ => ?_
        have clamped : min numVal.toNat avrcMaxAppAttrSize ≤ avrcMaxAppAttrSize :=
          Nat.min_le_right _ _
        refine ensures_pure ⟨by simp only [Command.Fits] at short ⊢; omega, fun noError => ?_⟩
        simp only [Command.Counted]
        rw [toNat_ofNat_count (by simp only [avrcMaxAppAttrSize] at clamped ⊢; omega)]
        exact (full noError).symm

theorem parseInformCharset_sound : Ensures (parseInformCharset data len) Sound := by
  unfold parseInformCharset
  split
  · exact ensures_pure (sound_of_counted trivial trivial)
  · refine ensures_bind (ensures_any _) fun numId _ => ?_
    split
    · exact ensures_pure ⟨by simp [Command.Fits], fun wrong => by
        simp [avrcStsInternalErr, avrcStsNoError] at wrong⟩
    · refine ensures_bind (be16s_length _ _) fun charsets length => ensures_pure ?_
      have clamped : min numId.toNat avrcMaxCharsetSize ≤ avrcMaxCharsetSize :=
        Nat.min_le_right _ _
      refine sound_of_counted (by simp only [Command.Fits]; omega) ?_
      simp only [Command.Counted]
      rw [toNat_ofNat_count (by simp only [avrcMaxCharsetSize] at clamped ⊢; omega), length]

theorem parseInformBatteryStatus_sound : Ensures (parseInformBatteryStatus data len) Sound := by
  unfold parseInformBatteryStatus
  split
  · exact ensures_pure (sound_of_counted trivial trivial)
  · exact ensures_bind (ensures_any _) fun _ _ => ensures_pure (sound_of_counted trivial trivial)

theorem parseGetElementAttr_sound : Ensures (parseGetElementAttr data len) Sound := by
  unfold parseGetElementAttr
  split
  · exact ensures_pure (sound_of_counted trivial trivial)
  · refine ensures_bind (ensures_any _) fun uidHigh _ => ?_
    refine ensures_bind (ensures_any _) fun uidLow _ => ?_
    split
    · refine ensures_bind (ensures_any _) fun numAttr _ => ?_
      split
      · exact ensures_pure ⟨by simp [Command.Fits], fun wrong => by
          simp [avrcStsInternalErr, avrcStsNoError] at wrong⟩
      · refine ensures_bind (be32s_length _ _) fun attrs length => ensures_pure ?_
        have clamped : min numAttr.toNat avrcMaxElemAttrSize ≤ avrcMaxElemAttrSize :=
          Nat.min_le_right _ _
        refine sound_of_counted (by simp only [Command.Fits]; omega) ?_
        simp only [Command.Counted]
        rw [toNat_ofNat_count (by simp only [avrcMaxElemAttrSize] at clamped ⊢; omega), length]
    · exact ensures_pure (sound_of_counted trivial trivial)

theorem parseRegisterNotification_sound : Ensures (parseRegisterNotification data len) Sound := by
  unfold parseRegisterNotification
  split
  · exact ensures_pure (sound_of_counted trivial trivial)
  · refine ensures_bind (ensures_any _) fun eventId _ => ?_
    split
    · exact ensures_pure (sound_of_counted trivial trivial)
    · exact ensures_bind (ensures_any _) fun _ _ => ensures_pure (sound_of_counted trivial trivial)

/-- The one-octet PDUs fill a member with no array. -/
theorem parseOneOctet_sound {field : UInt8 → Command} (plain : ∀ value, (field value).Fits ∧
    (field value).Counted) : Ensures (parseOneOctet field data len) Sound := by
  unfold parseOneOctet
  split
  · exact ensures_pure (sound_of_counted trivial trivial)
  · exact ensures_bind (ensures_any _) fun value _ =>
      ensures_pure (sound_of_counted (plain value).1 (plain value).2)

theorem parseSetAddressedPlayer_sound : Ensures (parseSetAddressedPlayer data len) Sound := by
  unfold parseSetAddressedPlayer
  split
  · exact ensures_pure (sound_of_counted trivial trivial)
  · exact ensures_bind (ensures_any _) fun _ _ => ensures_pure (sound_of_counted trivial trivial)

theorem parsePlayItem_sound : Ensures (parsePlayItem data len) Sound := by
  unfold parsePlayItem
  split
  · exact ensures_pure (sound_of_counted trivial trivial)
  · refine ensures_bind (ensures_any _) fun scope _ => ?_
    refine ensures_bind (octets_length _ _) fun uid length => ?_
    exact ensures_bind (ensures_any _) fun _ _ => ensures_pure (sound_of_counted length trivial)

section Reads

variable (whole : len + 4 = data.length)
include whole

theorem parseListAppValues_ok : ∃ result, parseListAppValues data len = .ok result := by
  unfold parseListAppValues
  refine exists_ok_ite (fun _ => ⟨_, rfl⟩) fun nonempty => ?_
  exact exists_ok_bind ⟨_, u8_of_lt (by omega)⟩ fun _ => ⟨_, rfl⟩

theorem parseGetCurAppVal_ok : ∃ result, parseGetCurAppVal data len = .ok result := by
  unfold parseGetCurAppVal
  refine exists_ok_ite (fun _ => ⟨_, rfl⟩) fun nonempty => ?_
  refine exists_ok_bind ⟨_, u8_of_lt (by omega)⟩ fun numAttr => ?_
  refine exists_ok_ite (fun _ => ⟨_, rfl⟩) fun counted => ?_
  exact exists_ok_bind (validAttrs_ok _ (by omega)) fun _ => ⟨_, rfl⟩

theorem parseSetAppVal_ok {pBuf : Bool} {bufLen : Nat} :
    ∃ result, parseSetAppVal data len pBuf bufLen = .ok result := by
  unfold parseSetAppVal
  refine exists_ok_ite (fun _ => ⟨_, rfl⟩) fun nonempty => ?_
  refine exists_ok_bind ⟨_, u8_of_lt (by omega)⟩ fun numVal => ?_
  refine exists_ok_ite (fun counted => ?_) fun _ => ⟨_, rfl⟩
  exact exists_ok_bind (setAppValLoop_ok _ (by omega)) fun _ => ⟨_, rfl⟩

theorem parseGetAppValTxt_ok : ∃ result, parseGetAppValTxt data len = .ok result := by
  unfold parseGetAppValTxt
  refine exists_ok_ite (fun _ => ⟨_, rfl⟩) fun long => ?_
  refine exists_ok_bind ⟨_, u8_of_lt (by omega)⟩ fun attrId => ?_
  refine exists_ok_ite (fun _ => ⟨_, rfl⟩) fun _ => ?_
  refine exists_ok_bind ⟨_, u8_of_lt (by omega)⟩ fun numVal => ?_
  refine exists_ok_ite (fun _ => ⟨_, rfl⟩) fun counted => ?_
  exact exists_ok_bind (appValTxtLoop_ok _ (by omega)) fun _ => ⟨_, rfl⟩

theorem parseInformCharset_ok : ∃ result, parseInformCharset data len = .ok result := by
  unfold parseInformCharset
  refine exists_ok_ite (fun _ => ⟨_, rfl⟩) fun long => ?_
  refine exists_ok_bind ⟨_, u8_of_lt (by omega)⟩ fun numId => ?_
  refine exists_ok_ite (fun _ => ⟨_, rfl⟩) fun counted => ?_
  exact exists_ok_bind (be16s_ok _ (by omega)) fun _ => ⟨_, rfl⟩

theorem parseInformBatteryStatus_ok : ∃ result, parseInformBatteryStatus data len = .ok result := by
  unfold parseInformBatteryStatus
  refine exists_ok_ite (fun _ => ⟨_, rfl⟩) fun one => ?_
  exact exists_ok_bind ⟨_, u8_of_lt (by omega)⟩ fun _ => ⟨_, rfl⟩

theorem parseGetElementAttr_ok : ∃ result, parseGetElementAttr data len = .ok result := by
  unfold parseGetElementAttr
  refine exists_ok_ite (fun _ => ⟨_, rfl⟩) fun long => ?_
  refine exists_ok_bind (be32_ok (by omega)) fun uidHigh => ?_
  refine exists_ok_bind (be32_ok (by omega)) fun uidLow => ?_
  refine exists_ok_ite (fun _ => ?_) fun _ => ⟨_, rfl⟩
  refine exists_ok_bind ⟨_, u8_of_lt (by omega)⟩ fun numAttr => ?_
  refine exists_ok_ite (fun _ => ⟨_, rfl⟩) fun counted => ?_
  exact exists_ok_bind (be32s_ok _ (by omega)) fun _ => ⟨_, rfl⟩

theorem parseRegisterNotification_ok : ∃ result, parseRegisterNotification data len = .ok result := by
  unfold parseRegisterNotification
  refine exists_ok_ite (fun _ => ⟨_, rfl⟩) fun five => ?_
  refine exists_ok_bind ⟨_, u8_of_lt (by omega)⟩ fun eventId => ?_
  refine exists_ok_ite (fun _ => ⟨_, rfl⟩) fun _ => ?_
  exact exists_ok_bind (be32_ok (by omega)) fun _ => ⟨_, rfl⟩

theorem parseOneOctet_ok {field : UInt8 → Command} :
    ∃ result, parseOneOctet field data len = .ok result := by
  unfold parseOneOctet
  refine exists_ok_ite (fun _ => ⟨_, rfl⟩) fun one => ?_
  exact exists_ok_bind ⟨_, u8_of_lt (by omega)⟩ fun _ => ⟨_, rfl⟩

theorem parseSetAddressedPlayer_ok : ∃ result, parseSetAddressedPlayer data len = .ok result := by
  unfold parseSetAddressedPlayer
  refine exists_ok_ite (fun _ => ⟨_, rfl⟩) fun two => ?_
  exact exists_ok_bind ⟨_, be16_of_le (by omega)⟩ fun _ => ⟨_, rfl⟩

theorem parsePlayItem_ok : ∃ result, parsePlayItem data len = .ok result := by
  unfold parsePlayItem
  refine exists_ok_ite (fun _ => ⟨_, rfl⟩) fun eleven => ?_
  refine exists_ok_bind ⟨_, u8_of_lt (by simp only [avrcUidSize] at eleven; omega)⟩ fun _ => ?_
  refine exists_ok_bind ⟨_, octets_of_le (by simp only [avrcUidSize] at eleven ⊢; omega)⟩
    fun _ => ?_
  exact exists_ok_bind ⟨_, be16_of_le (by simp only [avrcUidSize] at eleven; omega)⟩
    fun _ => ⟨_, rfl⟩

end Reads

end Cases

/-- Every case of the switch is sound. -/
theorem parsePdu_sound (pdu : UInt8) (data : List UInt8) (len : Nat) (pBuf : Bool) (bufLen : Nat) :
    Ensures (parsePdu pdu data len pBuf bufLen) Sound := by
  unfold parsePdu
  refine ensures_ite (fun _ => parseGetCapabilities_sound) fun _ => ?_
  refine ensures_ite (fun _ => ensures_pure (sound_of_counted trivial trivial)) fun _ => ?_
  refine ensures_ite (fun _ => parseListAppValues_sound) fun _ => ?_
  refine ensures_ite (fun _ => parseGetCurAppVal_sound) fun _ => ?_
  refine ensures_ite (fun _ => parseSetAppVal_sound) fun _ => ?_
  refine ensures_ite (fun _ => parseGetAppValTxt_sound) fun _ => ?_
  refine ensures_ite (fun _ => parseInformCharset_sound) fun _ => ?_
  refine ensures_ite (fun _ => parseInformBatteryStatus_sound) fun _ => ?_
  refine ensures_ite (fun _ => parseGetElementAttr_sound) fun _ => ?_
  refine ensures_ite (fun _ => ensures_pure (sound_of_counted trivial trivial)) fun _ => ?_
  refine ensures_ite (fun _ => parseRegisterNotification_sound) fun _ => ?_
  refine ensures_ite (fun _ => parseOneOctet_sound fun _ => ⟨trivial, trivial⟩) fun _ => ?_
  refine ensures_ite (fun _ => parseOneOctet_sound fun _ => ⟨trivial, trivial⟩) fun _ => ?_
  refine ensures_ite (fun _ => parseOneOctet_sound fun _ => ⟨trivial, trivial⟩) fun _ => ?_
  refine ensures_ite (fun _ => parseSetAddressedPlayer_sound) fun _ => ?_
  refine ensures_ite (fun _ => parsePlayItem_sound) fun _ => ?_
  exact ensures_pure (sound_of_counted trivial trivial)

/-- Every case of the switch reads inside a message whose parameter length is right, except Get
Capabilities with no parameters. -/
theorem parsePdu_ok {pdu : UInt8} {data : List UInt8} {len : Nat} {pBuf : Bool} {bufLen : Nat}
    (whole : len + 4 = data.length) (params : pdu = avrcPduGetCapabilities → 0 < len) :
    ∃ result, parsePdu pdu data len pBuf bufLen = .ok result := by
  unfold parsePdu
  refine exists_ok_ite (fun caps => ?_) fun _ => ?_
  · exact exists_ok_bind ⟨_, u8_of_lt (by have := params caps; omega)⟩ fun _ => ⟨_, rfl⟩
  refine exists_ok_ite (fun _ => ⟨_, rfl⟩) fun _ => ?_
  refine exists_ok_ite (fun _ => parseListAppValues_ok whole) fun _ => ?_
  refine exists_ok_ite (fun _ => parseGetCurAppVal_ok whole) fun _ => ?_
  refine exists_ok_ite (fun _ => parseSetAppVal_ok whole) fun _ => ?_
  refine exists_ok_ite (fun _ => parseGetAppValTxt_ok whole) fun _ => ?_
  refine exists_ok_ite (fun _ => parseInformCharset_ok whole) fun _ => ?_
  refine exists_ok_ite (fun _ => parseInformBatteryStatus_ok whole) fun _ => ?_
  refine exists_ok_ite (fun _ => parseGetElementAttr_ok whole) fun _ => ?_
  refine exists_ok_ite (fun _ => ⟨_, rfl⟩) fun _ => ?_
  refine exists_ok_ite (fun _ => parseRegisterNotification_ok whole) fun _ => ?_
  refine exists_ok_ite (fun _ => parseOneOctet_ok whole) fun _ => ?_
  refine exists_ok_ite (fun _ => parseOneOctet_ok whole) fun _ => ?_
  refine exists_ok_ite (fun _ => parseOneOctet_ok whole) fun _ => ?_
  refine exists_ok_ite (fun _ => parseSetAddressedPlayer_ok whole) fun _ => ?_
  refine exists_ok_ite (fun _ => parsePlayItem_ok whole) fun _ => ?_
  exact ⟨_, rfl⟩

/-! ## The whole parser -/

/-- The header check passes only on a message whose parameter length makes up the rest of it. -/
theorem whole_of_noError {valid : Bool} {len total : Nat}
    (passed : ¬(if len + 4 ≠ total then avrcStsInternalErr
      else if valid then avrcStsNoError else avrcStsBadCmd) ≠ avrcStsNoError) :
    len + 4 = total := by
  by_contra wrong
  simp [wrong, avrcStsInternalErr, avrcStsNoError] at passed

/-- What the parser fills is sound: the fixed arrays of `tAVRC_COMMAND` hold at most their
sizes, and with `AVRC_STS_NO_ERROR` every count is the number of entries written. -/
theorem avrcParsVendorCmd_sound (ctype : UInt8) (data : List UInt8) (pBuf : Bool) (bufLen : Nat) :
    Ensures (avrcParsVendorCmd ctype data pBuf bufLen) fun parsed =>
      Sound (parsed.status, parsed.command) := by
  unfold avrcParsVendorCmd
  refine ensures_ite (fun _ => ensures_pure (sound_of_counted trivial trivial)) fun _ => ?_
  refine ensures_ite (fun _ => ensures_pure (sound_of_counted trivial trivial)) fun _ => ?_
  refine ensures_bind (ensures_any _) fun pdu _ => ?_
  refine ensures_bind (ensures_any _) fun len _ => ?_
  refine ensures_ite (fun _ => ensures_pure (sound_of_counted trivial trivial)) fun _ => ?_
  exact ensures_bind (parsePdu_sound _ _ _ _ _) fun ⟨_, _⟩ sound => ensures_pure sound

/-- The parser reads only inside the message, except on Get Capabilities with no parameters, whose
capability id it reads past the end. -/
theorem avrcParsVendorCmd_ok (ctype : UInt8) (data : List UInt8) (pBuf : Bool) (bufLen : Nat)
    (params : data.head? = some avrcPduGetCapabilities → data.length ≠ 4) :
    ∃ parsed, avrcParsVendorCmd ctype data pBuf bufLen = .ok parsed := by
  unfold avrcParsVendorCmd
  refine exists_ok_ite (fun _ => ⟨_, rfl⟩) fun nonempty => ?_
  refine exists_ok_ite (fun _ => ⟨_, rfl⟩) fun long => ?_
  have inside : 0 < data.length := by omega
  rw [u8_of_lt inside, ok_bind, be16_of_le (by omega), ok_bind]
  refine exists_ok_ite (fun _ => ⟨_, rfl⟩) fun passed => ?_
  have whole := whole_of_noError passed
  refine exists_ok_bind (parsePdu_ok whole fun caps => ?_) fun ⟨_, _⟩ => ⟨_, rfl⟩
  have first : data.head? = some avrcPduGetCapabilities := by
    rw [List.head?_eq_getElem?, List.getElem?_eq_getElem inside, caps]
  have := params first
  omega

/-- A vendor-dependent message: the PDU id, the reserved octet, the parameter length most
significant octet first, and the parameters. -/
def vendorMessage (pdu reserved : UInt8) (params : List UInt8) : List UInt8 :=
  pdu :: reserved :: UInt8.ofNat (params.length / 256) :: UInt8.ofNat params.length :: params

/-- Get Capabilities with no parameters passes the header check and reads its capability id at
offset 4, past the four octets of the message. -/
theorem avrcParsVendorCmd_getCapabilities_empty (reserved : UInt8) (pBuf : Bool) (bufLen : Nat) :
    avrcParsVendorCmd avrcCmdStatus (vendorMessage avrcPduGetCapabilities reserved []) pBuf bufLen =
      .error 4 := by
  simp [avrcParsVendorCmd, vendorMessage, u8, be16, avrcIsValidAvcType, parsePdu,
    parseGetCapabilities, avrcPduGetCapabilities, avrcCmdStatus, avrcRspNotImpl]

/-- The parameter length of a vendor-dependent message reads back as the number of parameters. -/
theorem be16_vendorMessage (pdu reserved : UInt8) {params : List UInt8}
    (short : params.length < 65536) :
    ∃ len : UInt16, be16 (vendorMessage pdu reserved params) 2 = .ok len ∧
      len.toNat = params.length := by
  refine ⟨_, be16_of_le (by simp [vendorMessage]), ?_⟩
  simp [vendorMessage, UInt16.toNat_add, UInt16.toNat_shiftLeft]
  omega

/-- Once `buf_len` exceeds one setting, Set Player Application Setting Value stores every setting
of the message in `p_buf`, however short `p_buf` is. -/
theorem avrcParsVendorCmd_setAppVal (reserved : UInt8) (settings : List AppSetting) (bufLen : Nat)
    (count : settings.length < 256) (room : appSettingSize < bufLen) :
    avrcParsVendorCmd avrcCmdCtrl (vendorMessage avrcPduSetPlayerAppValue reserved
      (UInt8.ofNat settings.length :: settings.flatMap AppSetting.encode)) true bufLen =
    .ok ⟨if settingsValid settings then avrcStsNoError else avrcStsBadParam,
      some avrcPduSetPlayerAppValue, .setAppVal (UInt8.ofNat settings.length) settings⟩ := by
  obtain ⟨len, read, length⟩ := @be16_vendorMessage avrcPduSetPlayerAppValue reserved
    (UInt8.ofNat settings.length :: settings.flatMap AppSetting.encode)
    (by simp only [List.length_cons, length_flatMap_encode]; omega)
  simp only [List.length_cons, length_flatMap_encode] at length
  have loop := setAppValLoop_encode room settings
    [avrcPduSetPlayerAppValue, reserved, UInt8.ofNat ((2 * settings.length + 1) / 256),
      UInt8.ofNat (2 * settings.length + 1), UInt8.ofNat settings.length] [] avrcStsNoError
  have total : (vendorMessage avrcPduSetPlayerAppValue reserved
      (UInt8.ofNat settings.length :: settings.flatMap AppSetting.encode)).length =
      2 * settings.length + 5 := by
    simp only [vendorMessage, List.length_cons, length_flatMap_encode]
  have pduRead : u8 (vendorMessage avrcPduSetPlayerAppValue reserved
      (UInt8.ofNat settings.length :: settings.flatMap AppSetting.encode)) 0 =
      .ok avrcPduSetPlayerAppValue := rfl
  have numVal : u8 (vendorMessage avrcPduSetPlayerAppValue reserved
      (UInt8.ofNat settings.length :: settings.flatMap AppSetting.encode)) 4 =
      .ok (UInt8.ofNat settings.length) := rfl
  rw [avrcParsVendorCmd, if_neg (by omega), if_neg (by omega), pduRead, ok_bind, read, ok_bind]
  have header : ¬(if len.toNat + 4 ≠ (vendorMessage avrcPduSetPlayerAppValue reserved
      (UInt8.ofNat settings.length :: settings.flatMap AppSetting.encode)).length
      then avrcStsInternalErr
      else if avrcIsValidAvcType avrcPduSetPlayerAppValue avrcCmdCtrl then avrcStsNoError
      else avrcStsBadCmd) ≠ avrcStsNoError := by
    rw [total, length, if_neg (by omega), if_pos (by decide)]
    exact not_not_intro rfl
  have shape : vendorMessage avrcPduSetPlayerAppValue reserved
      (UInt8.ofNat settings.length :: settings.flatMap AppSetting.encode) =
      [avrcPduSetPlayerAppValue, reserved, UInt8.ofNat ((2 * settings.length + 1) / 256),
        UInt8.ofNat (2 * settings.length + 1), UInt8.ofNat settings.length] ++
        settings.flatMap AppSetting.encode ++ [] := by
    simp only [vendorMessage, List.length_cons, length_flatMap_encode, List.append_nil,
      List.cons_append, List.nil_append]
  have counted : (UInt8.ofNat settings.length).toNat = settings.length := toNat_ofNat_count count
  rw [if_neg header, length]
  simp only [List.length_cons, List.length_nil] at loop
  rw [show parsePdu avrcPduSetPlayerAppValue = parseSetAppVal from rfl, parseSetAppVal,
    if_neg (by omega), numVal, ok_bind, counted, if_pos ⟨rfl, by omega⟩, shape, loop]
  rfl
/-- The parser leaves its buffers: on Get Capabilities with no parameters it reads the capability
id at offset 4 of a four-octet message, and on Set Player Application Setting Value it writes
every setting into `p_buf` once `buf_len` exceeds one setting, past the end of a `p_buf` shorter
than the settings. -/
theorem avrcParsVendorCmd_leaves_buffers :
    (∀ (reserved : UInt8) (pBuf : Bool) (bufLen : Nat),
      avrcParsVendorCmd avrcCmdStatus (vendorMessage avrcPduGetCapabilities reserved []) pBuf
        bufLen = .error 4) ∧
    (∀ (reserved : UInt8) (settings : List AppSetting) (bufLen : Nat),
      settings.length < 256 → appSettingSize < bufLen → bufLen < appSettingSize * settings.length →
      ∃ parsed, avrcParsVendorCmd avrcCmdCtrl (vendorMessage avrcPduSetPlayerAppValue reserved
          (UInt8.ofNat settings.length :: settings.flatMap AppSetting.encode)) true bufLen =
          .ok parsed ∧
        parsed.command = .setAppVal (UInt8.ofNat settings.length) settings ∧
        bufLen < parsed.command.written) := by
  refine ⟨avrcParsVendorCmd_getCapabilities_empty, ?_⟩
  intro reserved settings bufLen count room short
  exact ⟨_, avrcParsVendorCmd_setAppVal reserved settings bufLen count room, rfl, short⟩

theorem avrcParsVendorCmd_leaves_buffers_at_three_octets :
    avrcParsVendorCmd avrcCmdStatus (vendorMessage avrcPduGetCapabilities 0 []) false 0 =
      .error 4 ∧
    ([⟨1, 1⟩, ⟨2, 1⟩] : List AppSetting).length < 256 ∧ appSettingSize < 3 ∧
    3 < appSettingSize * ([⟨1, 1⟩, ⟨2, 1⟩] : List AppSetting).length ∧
    ∃ parsed, avrcParsVendorCmd avrcCmdCtrl (vendorMessage avrcPduSetPlayerAppValue 0
        (UInt8.ofNat ([⟨1, 1⟩, ⟨2, 1⟩] : List AppSetting).length ::
          ([⟨1, 1⟩, ⟨2, 1⟩] : List AppSetting).flatMap AppSetting.encode)) true 3 = .ok parsed ∧
      parsed.command = .setAppVal (UInt8.ofNat ([⟨1, 1⟩, ⟨2, 1⟩] : List AppSetting).length)
        [⟨1, 1⟩, ⟨2, 1⟩] ∧
      3 < parsed.command.written :=
  ⟨avrcParsVendorCmd_leaves_buffers.1 0 false 0, by decide, by decide, by decide,
    avrcParsVendorCmd_leaves_buffers.2 0 [⟨1, 1⟩, ⟨2, 1⟩] 3 (by decide) (by decide) (by decide)⟩

end Bluetooth.Avrc

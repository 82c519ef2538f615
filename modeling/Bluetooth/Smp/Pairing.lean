import Bluetooth.Smp.Tables

set_option linter.all false

/-!
# LE legacy pairing in the Security Manager

The control block `tSMP_CB` of one LE pairing, the action functions of `smp_act.cc` and
`smp_keys.cc` that legacy pairing runs, and `smp_sm_event`.  The actions call `smp_sm_event`
again, and the event they raise is handled before the next action of the outer row runs.  The
model makes that call stack explicit: a machine holds the control block, a stack of work (events
to dispatch, actions to run with their data, and the rest of an action that resumes after a
nested event), and the log of what the stack reported.  One `smpStep` does one item; `smpRun`
runs until the stack is empty.

An input is one call into the Security Manager from outside: a PDU from the peer through
`smp_data_received`, an application call (`SMP_SecurityGrant`, `SMP_PasskeyReply`), or a
controller event (`smp_proc_ltk_request`, `smp_link_encrypted`, the completions of the random
numbers the pairing asks the controller for).

The functions `c1` and `s1` are uninterpreted (`LegacyCrypto`); the pairing request, response
and addresses of the one pairing are fixed, so `c1` takes the temporary key and the random.
The actions of Secure Connections, of key distribution and of `smp_proc_sec_req` are not
translated: `smpAction` takes them as a parameter, so what is proved about a run that does not
reach them holds whatever they do.
-/

namespace Bluetooth.Smp

/-- An `Octet16`. -/
structure Octet16 where
  bytes : List UInt8
  length_bytes : bytes.length = 16
  deriving DecidableEq

namespace Octet16

/-- `Octet16{0}`, and what `memset` leaves. -/
def zero : Octet16 := ⟨List.replicate 16 0, by simp⟩

/-- `STREAM_TO_ARRAY(key, p, OCTET16_LEN)`.  Every caller reads only after the length of the
command has been checked, so the octets are there; past the end the model reads zeros. -/
def ofStream (bytes : List UInt8) : Octet16 :=
  ⟨(bytes ++ List.replicate 16 0).take 16, by simp⟩

@[simp] theorem ofStream_bytes (key : Octet16) : ofStream key.bytes = key := by
  obtain ⟨bytes, length⟩ := key
  simp only [ofStream, mk.injEq]
  rw [← length, List.take_left]

/-- `smp_mask_enc_key`: the octets from `size` on are cleared. -/
def mask (size : Nat) (key : Octet16) : Octet16 :=
  ⟨key.bytes.take size ++ List.replicate (16 - size) 0, by
    have := key.length_bytes
    simp only [List.length_append, List.length_take, List.length_replicate]
    omega⟩

/-- `UINT32_TO_STREAM` at the start of a key: its first four octets take the value, least
significant first. -/
def writeU32 (key : Octet16) (value : Nat) : Octet16 :=
  ⟨[(value % 256).toUInt8, (value / 256 % 256).toUInt8, (value / 65536 % 256).toUInt8,
      (value / 16777216 % 256).toUInt8] ++ key.bytes.drop 4, by
    have := key.length_bytes
    simp only [List.length_append, List.length_drop, List.length_cons, List.length_nil]
    omega⟩

end Octet16

/-- `tSMP_ASSO_MODEL`. -/
inductive AssoModel where
  | encryptionOnly
  | passkey
  | oob
  | keyNotif
  | secConnJustworks
  | secConnNumComp
  | secConnPasskeyEnt
  | secConnPasskeyDisp
  | secConnOob
  | outOfRange
  deriving DecidableEq, Repr

/-- The key types of `tSMP_KEY`. -/
inductive SmpKeyType where
  | tk
  | cfm
  | cmp
  | peerDhkChck
  | stk
  | ltk
  deriving DecidableEq, Repr

/-- `tSMP_INT_DATA`, the data of an event: a union, of which the event's raiser fills one
member. -/
inductive IntData where
  /-- A `NULL` pointer. -/
  | none
  /-- `p_data`: the octets of a received command after its opcode. -/
  | pdu (bytes : List UInt8)
  | key (keyType : SmpKeyType) (value : Octet16)
  | status (status : Nat)
  | passkey (passkey : Nat)
  | reqOobType (reqOobType : Nat)

/-- The answer the application gives in its callback to `SMP_IO_CAP_REQ_EVT`, `io_req`. -/
structure IoReq where
  authReq : UInt8
  oobData : UInt8
  ioCap : UInt8
  maxKeySize : UInt8
  initKeys : UInt8
  respKeys : UInt8
  deriving DecidableEq, Repr

/-- What the Security Manager learns from the rest of the stack when it asks. -/
structure SmpEnv where
  /-- `L2CA_GetBleConnRole` of the peer. -/
  connRole : Role
  /-- Whether `smp_send_msg_to_L2CAP` sends. -/
  sendOk : Bool
  /-- `btif_storage_get_local_io_caps_ble()`. -/
  localIoCapsBle : UInt8
  /-- The application's callback for `SMP_IO_CAP_REQ_EVT`: it gets `io_req` filled in and
  answers it. -/
  ioCapAnswer : IoReq → IoReq
  /-- Whether that callback returns `BTM_SUCCESS`. -/
  ioCapAnswerOk : Bool
  /-- `btm_cb.security_mode == BTM_SEC_MODE_SC`. -/
  securityModeSc : Bool
  /-- `is_atv_device()`. -/
  atvDevice : Bool
  /-- Whether `btm_ble_start_encrypt` returns `BTM_CMD_STARTED` or `BTM_BUSY`. -/
  encryptStarted : Bool
  /-- The octet `p_data->status` reads when the data is a pointer to a received command. -/
  pduStatusAlias : Nat

/-- The cryptographic functions of legacy pairing, uninterpreted. -/
structure LegacyCrypto where
  /-- `smp_calculate_comfirm`: the confirm value of a random under a temporary key. -/
  c1 : Octet16 → Octet16 → Octet16
  /-- The short term key `s1(TK, Srand, Mrand)` of `smp_calculate_legacy_short_term_key`. -/
  s1 : Octet16 → Octet16 → Octet16 → Octet16

/-- `tSMP_CB`: the fields of the control block that the translated actions use.  The flags
of `p_cb->flags` that they test are fields of their own. -/
structure SmpCb where
  role : Role
  state : SmpState
  /-- `pairing_bda`; `0` is the empty address. -/
  pairingBda : Nat
  /-- `SMP_PAIR_FLAGS_WE_STARTED_DD`. -/
  weStartedDd : Bool
  /-- `SMP_PAIR_FLAGS_CMD_CONFIRM`: the peer's confirm has been received. -/
  cmdConfirm : Bool
  /-- `SMP_PAIR_FLAG_ENC_AFTER_PAIR`. -/
  encAfterPair : Bool
  cbEvt : Nat
  discardSecReq : Bool
  peerIoCaps : UInt8
  peerOobFlag : UInt8
  peerAuthReq : UInt8
  peerEncSize : UInt8
  peerIKey : UInt8
  peerRKey : UInt8
  locAuthReq : UInt8
  localIoCapability : UInt8
  locOobFlag : UInt8
  locEncSize : UInt8
  localIKey : UInt8
  localRKey : UInt8
  reqOobType : Nat
  selectedAssociationModel : AssoModel
  leSecureConnectionsModeIsUsed : Bool
  secureConnectionsOnlyModeRequired : Bool
  keyDerivationH7Used : Bool
  secLevel : Nat
  status : Nat
  failure : Nat
  waitForAuthorizationComplete : Bool
  rcvdCmdCode : Nat
  rcvdCmdLen : Nat
  /-- Set by `smp_process_keypress_notification`, an action left out. -/
  peerKeypressNotification : Nat
  tk : Octet16
  rand : Octet16
  rrand : Octet16
  confirm : Octet16
  rconfirm : Octet16
  ltk : Octet16

/-- The control block as `smp_cb_cleanup` leaves it, which is also how the stack starts:
everything zero, so the role is `HCI_ROLE_CENTRAL` and the state `SMP_STATE_IDLE`. -/
def SmpCb.cleared : SmpCb where
  role := .central
  state := .idle
  pairingBda := 0
  weStartedDd := false
  cmdConfirm := false
  encAfterPair := false
  cbEvt := 0
  discardSecReq := false
  peerIoCaps := 0
  peerOobFlag := 0
  peerAuthReq := 0
  peerEncSize := 0
  peerIKey := 0
  peerRKey := 0
  locAuthReq := 0
  localIoCapability := 0
  locOobFlag := 0
  locEncSize := 0
  localIKey := 0
  localRKey := 0
  reqOobType := 0
  selectedAssociationModel := .encryptionOnly
  leSecureConnectionsModeIsUsed := false
  secureConnectionsOnlyModeRequired := false
  keyDerivationH7Used := false
  secLevel := 0
  status := 0
  failure := 0
  waitForAuthorizationComplete := false
  rcvdCmdCode := 0
  rcvdCmdLen := 0
  peerKeypressNotification := 0
  tk := .zero
  rand := .zero
  rrand := .zero
  confirm := .zero
  rconfirm := .zero
  ltk := .zero

/-- What the Security Manager reports to the rest of the stack. -/
inductive SmpOutput where
  /-- The action function ran. -/
  | action (action : SmpAction)
  /-- `smp_send_cmd` sent a command with this opcode to the peer. -/
  | send (cmdCode : Nat)
  /-- `p_callback(cb_evt, ...)`. -/
  | appCallback (evt : Nat)
  /-- `btm_ble_ltk_request_reply(pairing_bda, true, stk)`. -/
  | ltkReply (stk : Octet16)
  /-- `btm_ble_start_encrypt`, with the key it was given. -/
  | startEncrypt (key : Option Octet16)
  /-- `btsnd_hcic_ble_rand`. -/
  | hciRand
  /-- The `SMP_COMPLT_EVT` of `smp_proc_pairing_cmpl`, with its reason and security level. -/
  | pairingComplete (reason : Nat) (secLevel : Nat)
  /-- `smp_reject_unexpected_pairing_command`. -/
  | rejectPairingCommand
  deriving DecidableEq

/-- An item of the call stack of the Security Manager. -/
inductive Work where
  /-- A call of `smp_sm_event`. -/
  | event (event : SmpEvent) (data : IntData)
  /-- An action of the row being run, with the data of the row's event. -/
  | action (action : SmpAction) (data : IntData)
  /-- The rest of an action after its nested `smp_sm_event` returned: it may change the control
  block and raise one more event. -/
  | resume (rest : SmpCb → SmpCb × Option (SmpEvent × IntData))

/-- What an action function does before it returns or makes its next nested call: the control
block it leaves, what it reports, and the work it pushes. -/
structure Effect where
  cb : SmpCb
  out : List SmpOutput
  work : List Work

section Constants

/-- Opcodes of `smp_api_types.h`. -/
def smpOpcodePairingReq : Nat := 0x01
def smpOpcodePairingRsp : Nat := 0x02
def smpOpcodeConfirm : Nat := 0x03
def smpOpcodeRand : Nat := 0x04
def smpOpcodePairingFailed : Nat := 0x05
def smpOpcodeSecReq : Nat := 0x0B
def smpOpcodePairKeyprNotif : Nat := 0x0E
def smpOpcodePairCommitm : Nat := 0x0F
def smpOpcodeMin : Nat := 0x01
def smpOpcodeMax : Nat := 0x0E

/-- `tSMP_STATUS` values. -/
def smpSuccess : Nat := 0
def smpPasskeyEntryFail : Nat := 0x01
def smpPairAuthFail : Nat := 0x03
def smpConfirmValueErr : Nat := 0x04
def smpInvalidParameters : Nat := 0x0A
def smpNumericComparFail : Nat := 0x0C
def smpMaxFailRsnPerSpec : Nat := 0x0E
def smpPairInternalErr : Nat := 0x0F
def smpUnknownIoCap : Nat := 0x10
def smpEncFail : Nat := 0x14
def smpFail : Nat := 0x18
def smpConnTout : Nat := 0x19

/-- `tSMP_EVT` values of the application callback. -/
def smpEvtNone : Nat := 0
def smpIoCapReqEvt : Nat := 1
def smpSecRequestEvt : Nat := 2
def smpPasskeyNotifEvt : Nat := 3
def smpPasskeyReqEvt : Nat := 4
def smpOobReqEvt : Nat := 5
def smpCompltEvt : Nat := 7
def smpScOobReqEvt : Nat := 9
def smpConsentReqEvt : Nat := 14

/-- Bits of `auth_req` and of the key masks. -/
def smpAuthBond : UInt8 := 0x01
def smpAuthYnBit : UInt8 := 0x04
def smpScSupportBit : UInt8 := 0x08
def smpH7SupportBit : UInt8 := 0x20
def smpSecKeyTypeEnc : UInt8 := 0x01
def smpSecKeyTypeId : UInt8 := 0x02
def smpSecKeyTypeCsrk : UInt8 := 0x04
def smpSecKeyTypeLk : UInt8 := 0x08

/-- Security levels, IO capabilities and OOB flags. -/
def smpSecNone : Nat := 0
def smpSecUnauthenticate : Nat := 1
def smpSecAuthenticated : Nat := 2
def smpIoCapIo : UInt8 := 1
def smpIoCapKbdisp : UInt8 := 4
def smpIoCapMax : UInt8 := 5
def smpOobNone : UInt8 := 0
def smpOobPresent : UInt8 := 1
def smpOobUnknown : UInt8 := 2
def smpMaxEncKeySize : UInt8 := 16
def btmMaxPasskeyVal : Nat := 999999
def smpScKeyOutOfRange : Nat := 5

end Constants

/-- `smp_cmd_size_per_spec`, indexed by opcode. -/
def smpCmdSizePerSpec : List Nat :=
  [0, 7, 7, 17, 17, 2, 17, 11, 17, 8, 17, 2, 65, 17, 2, 17]

/-- `smp_association_table[role]`, indexed by the initiator's IO capability row for the central
(`[peer][local]`) and by the responder's for the peripheral (`[local][peer]`). -/
def smpAssociationTable : Role → List (List AssoModel)
  | .central =>
    [ [.encryptionOnly, .encryptionOnly, .passkey, .encryptionOnly, .passkey],
      [.encryptionOnly, .encryptionOnly, .passkey, .encryptionOnly, .passkey],
      [.keyNotif, .keyNotif, .passkey, .encryptionOnly, .keyNotif],
      [.encryptionOnly, .encryptionOnly, .encryptionOnly, .encryptionOnly, .encryptionOnly],
      [.keyNotif, .keyNotif, .passkey, .encryptionOnly, .keyNotif] ]
  | _ =>
    [ [.encryptionOnly, .encryptionOnly, .keyNotif, .encryptionOnly, .keyNotif],
      [.encryptionOnly, .encryptionOnly, .keyNotif, .encryptionOnly, .keyNotif],
      [.passkey, .passkey, .passkey, .encryptionOnly, .passkey],
      [.encryptionOnly, .encryptionOnly, .encryptionOnly, .encryptionOnly, .encryptionOnly],
      [.passkey, .passkey, .keyNotif, .encryptionOnly, .passkey] ]

/-- `smp_association_table_sc[role]`, indexed as `smpAssociationTable`. -/
def smpAssociationTableSc : Role → List (List AssoModel)
  | .central =>
    [ [.secConnJustworks, .secConnJustworks, .secConnPasskeyEnt, .secConnJustworks,
        .secConnPasskeyEnt],
      [.secConnJustworks, .secConnNumComp, .secConnPasskeyEnt, .secConnJustworks,
        .secConnNumComp],
      [.secConnPasskeyDisp, .secConnPasskeyDisp, .secConnPasskeyEnt, .secConnJustworks,
        .secConnPasskeyDisp],
      [.secConnJustworks, .secConnJustworks, .secConnJustworks, .secConnJustworks,
        .secConnJustworks],
      [.secConnPasskeyDisp, .secConnNumComp, .secConnPasskeyEnt, .secConnJustworks,
        .secConnNumComp] ]
  | _ =>
    [ [.secConnJustworks, .secConnJustworks, .secConnPasskeyDisp, .secConnJustworks,
        .secConnPasskeyDisp],
      [.secConnJustworks, .secConnNumComp, .secConnPasskeyDisp, .secConnJustworks,
        .secConnNumComp],
      [.secConnPasskeyEnt, .secConnPasskeyEnt, .secConnPasskeyEnt, .secConnJustworks,
        .secConnPasskeyEnt],
      [.secConnJustworks, .secConnJustworks, .secConnJustworks, .secConnJustworks,
        .secConnJustworks],
      [.secConnPasskeyEnt, .secConnNumComp, .secConnPasskeyDisp, .secConnJustworks,
        .secConnNumComp] ]

namespace IntData

/-- `p_data->status`: the member itself, or the octet of another member it aliases. -/
def statusOf (env : SmpEnv) : IntData → Nat
  | .status value => value
  | .key keyType _ => keyType.ctorIdx
  | .passkey value => value % 256
  | .reqOobType value => value
  | .pdu _ => env.pduStatusAlias
  -- never read: every raiser of an event whose actions read a status passes one
  | .none => 0

/-- The octets `p_data->p_data` points to. -/
def stream : IntData → List UInt8
  | .pdu bytes => bytes
  | _ => []

/-- The key `p_data->key.p_data` points to; only `KEY_READY` rows read it. -/
def keyValue : IntData → Octet16
  | .key _ value => value
  | _ => .zero

end IntData

namespace Effect

/-- The action returns. -/
def done (cb : SmpCb) : Effect := ⟨cb, [], []⟩

/-- The action ends with `smp_sm_event(p_cb, event, data)`. -/
def raise (cb : SmpCb) (event : SmpEvent) (data : IntData) : Effect :=
  ⟨cb, [], [.event event data]⟩

end Effect

section Utils

variable (env : SmpEnv)

/-- `smp_command_has_valid_fixed_length`. -/
def smpCommandHasValidFixedLength (cb : SmpCb) : Bool :=
  cb.rcvdCmdLen == smpCmdSizePerSpec.getD cb.rcvdCmdCode 0

/-- `smp_command_has_invalid_length`. -/
def smpCommandHasInvalidLength (cb : SmpCb) : Bool :=
  cb.rcvdCmdCode > smpOpcodeMax + 1 || cb.rcvdCmdCode < smpOpcodeMin ||
    !smpCommandHasValidFixedLength cb

/-- `smp_pairing_request_response_parameters_are_valid`. -/
def smpPairingRequestResponseParametersAreValid (cb : SmpCb) : Bool :=
  cb.peerIoCaps < smpIoCapMax &&
    (cb.peerOobFlag == smpOobNone || cb.peerOobFlag == smpOobPresent) &&
    (cb.peerAuthReq &&& 0x03) ≤ 1 && 7 ≤ cb.peerEncSize && cb.peerEncSize ≤ smpMaxEncKeySize

/-- `smp_command_has_invalid_parameters`: the length check, then the ranges of a pairing
request or response and of a keypress notification. -/
def smpCommandHasInvalidParameters (cb : SmpCb) : Bool :=
  smpCommandHasInvalidLength cb ||
    ((cb.rcvdCmdCode == smpOpcodePairingReq || cb.rcvdCmdCode == smpOpcodePairingRsp) &&
      !smpPairingRequestResponseParametersAreValid cb) ||
    (cb.rcvdCmdCode == smpOpcodePairKeyprNotif &&
      cb.peerKeypressNotification ≥ smpScKeyOutOfRange)

/-- `SMP_NO_MITM_REQUIRED`. -/
def smpNoMitmRequired (authReq : UInt8) : Bool := authReq &&& smpAuthYnBit == 0

/-- `smp_association_table[role][row][column]`, and `SMP_MODEL_OUT_OF_RANGE` past its end. -/
def associationCell (table : List (List AssoModel)) (row column : UInt8) : AssoModel :=
  (table.getD row.toNat []).getD column.toNat .outOfRange

/-- `smp_select_legacy_association_model`. -/
def smpSelectLegacyAssociationModel (cb : SmpCb) : AssoModel :=
  if cb.peerOobFlag == smpOobPresent && cb.locOobFlag == smpOobPresent then .oob
  else if smpNoMitmRequired cb.peerAuthReq && smpNoMitmRequired cb.locAuthReq then .encryptionOnly
  else if cb.peerIoCaps < smpIoCapMax && cb.localIoCapability < smpIoCapMax then
    if cb.role == .central then
      associationCell (smpAssociationTable cb.role) cb.peerIoCaps cb.localIoCapability
    else associationCell (smpAssociationTable cb.role) cb.localIoCapability cb.peerIoCaps
  else .outOfRange

/-- `smp_select_association_model_secure_connections`. -/
def smpSelectAssociationModelSecureConnections (cb : SmpCb) : AssoModel :=
  if cb.peerOobFlag == smpOobPresent || cb.locOobFlag == smpOobPresent then .secConnOob
  else if smpNoMitmRequired cb.peerAuthReq && smpNoMitmRequired cb.locAuthReq then
    .secConnJustworks
  else if cb.peerIoCaps < smpIoCapMax && cb.localIoCapability < smpIoCapMax then
    if cb.role == .central then
      associationCell (smpAssociationTableSc cb.role) cb.peerIoCaps cb.localIoCapability
    else associationCell (smpAssociationTableSc cb.role) cb.localIoCapability cb.peerIoCaps
  else .outOfRange

/-- `smp_select_association_model`: it also records whether Secure Connections and `h7` are
used. -/
def smpSelectAssociationModel (cb : SmpCb) : SmpCb × AssoModel :=
  let sc := cb.peerAuthReq &&& smpScSupportBit != 0 && cb.locAuthReq &&& smpScSupportBit != 0
  let h7 := cb.peerAuthReq &&& smpH7SupportBit != 0 && cb.locAuthReq &&& smpH7SupportBit != 0
  let cb := { cb with leSecureConnectionsModeIsUsed := sc,
                      keyDerivationH7Used := h7 || cb.keyDerivationH7Used }
  (cb, if sc then smpSelectAssociationModelSecureConnections cb
    else smpSelectLegacyAssociationModel cb)

/-- `smp_send_cmd`: the command is sent, or its failure raises `SMP_AUTH_CMPL_EVT`; the flag
says whether it was sent. -/
def smpSendCmd (cmdCode : Nat) (cb : SmpCb) : Effect × Bool :=
  if env.sendOk then (⟨cb, [.send cmdCode], []⟩, true)
  else (.raise cb .authCmpl (.status smpPairInternalErr), false)

/-- `smp_request_oob_data`: it raises `SMP_TK_REQ_EVT` when one side has OOB data. -/
def smpRequestOobData (cb : SmpCb) : Option Effect :=
  let reqOobType :=
    if cb.peerOobFlag == smpOobPresent && cb.locOobFlag == smpOobPresent then 3
    else if cb.peerOobFlag == smpOobPresent then 2
    else if cb.locOobFlag == smpOobPresent then 1
    else 0
  if reqOobType == 0 then none
  else some (.raise { cb with reqOobType := reqOobType, cbEvt := smpScOobReqEvt } .tkReq
    (.reqOobType reqOobType))

/-- `smp_proc_pairing_cmpl`: the completion callback, then `smp_reset_control_value`, whose
`smp_cb_cleanup` clears the control block. -/
def smpProcPairingCmpl (cb : SmpCb) : Effect :=
  ⟨.cleared,
    [.pairingComplete cb.status (if cb.status == smpSuccess then cb.secLevel else smpSecNone)],
    []⟩

end Utils

section Actions

variable (env : SmpEnv) (crypto : LegacyCrypto)

/-- `smp_send_pair_req`. -/
def smpSendPairReq (cb : SmpCb) : Effect :=
  (smpSendCmd env smpOpcodePairingReq cb).1

/-- `smp_send_confirm`. -/
def smpSendConfirm (cb : SmpCb) : Effect :=
  (smpSendCmd env smpOpcodeConfirm cb).1

/-- `smp_send_rand`. -/
def smpSendRand (cb : SmpCb) : Effect :=
  (smpSendCmd env smpOpcodeRand cb).1

/-- `smp_send_pair_fail`: the failure is sent to the peer if it is one of the specification's
reasons. -/
def smpSendPairFail (cb : SmpCb) (data : IntData) : Effect :=
  let status := data.statusOf env
  let cb := { cb with status := status, failure := status }
  if status ≤ smpMaxFailRsnPerSpec && status != smpSuccess then
    let (sent, _) := smpSendCmd env smpOpcodePairingFailed cb
    { sent with cb := { sent.cb with waitForAuthorizationComplete := true } }
  else .done cb

/-- `smp_send_ltk_reply`. -/
def smpSendLtkReply (cb : SmpCb) (data : IntData) : Effect :=
  ⟨cb, [.ltkReply data.keyValue], []⟩

/-- `smp_proc_pair_fail`. -/
def smpProcPairFail (cb : SmpCb) (data : IntData) : Effect :=
  .done { cb with status := if cb.rcvdCmdLen < 2 then smpInvalidParameters else data.statusOf env }

/-- `smp_proc_confirm`: the peer's confirm is saved for the comparison. -/
def smpProcConfirm (cb : SmpCb) (data : IntData) : Effect :=
  if smpCommandHasInvalidParameters cb then .raise cb .authCmpl (.status smpInvalidParameters)
  else
    let cb := match data with
      | .pdu bytes => { cb with rconfirm := .ofStream bytes }
      | _ => cb
    .done { cb with cmdConfirm := true }

/-- `smp_proc_rand`: the peer's random is saved for the comparison. -/
def smpProcRand (cb : SmpCb) (data : IntData) : Effect :=
  if smpCommandHasInvalidParameters cb then .raise cb .authCmpl (.status smpInvalidParameters)
  else .done { cb with rrand := .ofStream data.stream }

/-- `smp_proc_sec_grant`. -/
def smpProcSecGrant (cb : SmpCb) (data : IntData) : Effect :=
  if data.statusOf env != smpSuccess then .raise cb .authCmpl data
  else .done { cb with cbEvt := smpIoCapReqEvt }

/-- `smp_generate_srand_mrand_confirm`: it asks the controller for the two halves of the local
random; their completion is the input `confirmRand`. -/
def smpGenerateSrandMrandConfirm (cb : SmpCb) : Effect :=
  ⟨cb, [.hciRand], []⟩

/-- `smp_proc_sl_key`. -/
def smpProcSlKey (cb : SmpCb) (data : IntData) : Effect :=
  match data with
  | .key .tk _ => smpGenerateSrandMrandConfirm cb
  | .key .cfm _ =>
    let cb := { cb with state := .waitConfirm }
    if cb.cmdConfirm then .raise cb .confirm .none else .done cb
  | _ => .done cb

/-- `smp_proc_compare`: the confirm value computed from the peer's random against the one the
peer sent. -/
def smpProcCompare (cb : SmpCb) (data : IntData) : Effect :=
  if cb.rconfirm = data.keyValue then
    let cb := if cb.peerEncSize < cb.locEncSize then { cb with locEncSize := cb.peerEncSize }
      else cb
    if cb.role == .peripheral then .raise cb .rand .none
    else .raise { cb with localIKey := cb.peerIKey, localRKey := cb.peerRKey } .encReq .none
  else .raise { cb with failure := smpConfirmValueErr } .authCmpl (.status smpConfirmValueErr)

/-- `smp_generate_compare`: the confirm value of the peer's random. -/
def smpGenerateCompare (cb : SmpCb) : Effect :=
  .raise cb .keyReady (.key .cmp (crypto.c1 cb.tk cb.rrand))

/-- `smp_generate_stk` and `smp_process_stk`: the short term key, or in Secure Connections
the long term key, cut to the key size. -/
def smpGenerateStk (cb : SmpCb) : Effect :=
  let output :=
    if cb.leSecureConnectionsModeIsUsed then cb.ltk
    else if cb.role == .central then crypto.s1 cb.tk cb.rrand cb.rand
    else crypto.s1 cb.tk cb.rand cb.rrand
  .raise cb .keyReady (.key .stk (output.mask cb.locEncSize.toNat))

/-- `smp_start_enc`. -/
def smpStartEnc (cb : SmpCb) (data : IntData) : Effect :=
  let key := match data with
    | .none => Option.none
    | data => some data.keyValue
  if env.encryptStarted then ⟨cb, [.startEncrypt key], []⟩
  else ⟨cb, [.startEncrypt key], [.event .authCmpl (.status smpEncFail)]⟩

/-- `smp_pairing_cmpl`: `total_tx_unacked` is never raised, so the completion is processed at
once. -/
def smpPairingCmpl (cb : SmpCb) : Effect :=
  smpProcPairingCmpl cb

/-- `smp_generate_passkey`: it asks the controller for a random; its completion is the input
`passkeyRand`. -/
def smpGeneratePasskey (cb : SmpCb) : Effect :=
  ⟨cb, [.hciRand], []⟩

/-- `smp_decide_association_model`. -/
def smpDecideAssociationModel (cb : SmpCb) : Effect :=
  match cb.selectedAssociationModel with
  | .encryptionOnly =>
    if cb.role == .central && cb.peerAuthReq &&& smpAuthYnBit != 0 &&
        cb.locAuthReq &&& smpAuthYnBit == 0 then
      .raise cb .authCmpl (.status smpPairAuthFail)
    else if !env.atvDevice &&
        (cb.localIoCapability == smpIoCapIo || cb.localIoCapability == smpIoCapKbdisp) then
      -- the consent dialog: `SMP_SecurityGrant` goes on
      .raise { cb with cbEvt := smpConsentReqEvt, state := .waitNonce } .scDsplNc .none
    else
      -- the key handed on is `p_cb->tk`, which is cleared before the event
      .raise { cb with secLevel := smpSecUnauthenticate, tk := .zero } .keyReady (.key .tk .zero)
  | .passkey =>
    .raise { cb with secLevel := smpSecAuthenticated, cbEvt := smpPasskeyReqEvt } .tkReq .none
  | .oob =>
    .raise { cb with secLevel := smpSecAuthenticated, cbEvt := smpOobReqEvt } .tkReq .none
  | .keyNotif => smpGeneratePasskey { cb with secLevel := smpSecAuthenticated }
  | .secConnJustworks | .secConnNumComp | .secConnPasskeyEnt | .secConnPasskeyDisp
  | .secConnOob => .raise cb .publKeyExchReq .none
  | .outOfRange => .raise cb .authCmpl (.status smpUnknownIoCap)

/-- `smp_send_pair_rsp`; in the Secure Connections OOB model it goes on with
`smp_use_oob_private_key`, an action left to `useOobPrivateKey`. -/
def smpSendPairRsp (useOobPrivateKey : SmpCb → Effect) (cb : SmpCb) : Effect :=
  let cb := { cb with localIKey := cb.localIKey &&& cb.peerIKey,
                      localRKey := cb.localRKey &&& cb.peerRKey }
  match smpSendCmd env smpOpcodePairingRsp cb with
  | (sent, true) =>
    let next := if cb.selectedAssociationModel == .secConnOob then useOobPrivateKey sent.cb
      else smpDecideAssociationModel env sent.cb
    { next with out := sent.out ++ next.out }
  | (failed, false) => failed

/-- The check of Secure-Connections-only mode that `smp_proc_pair_cmd` and
`smp_process_io_response` make after selecting the model. -/
def scOnlyRefused (cb : SmpCb) : Bool :=
  cb.secureConnectionsOnlyModeRequired &&
    (!cb.leSecureConnectionsModeIsUsed || cb.selectedAssociationModel == .secConnJustworks)

/-- `smp_proc_pair_cmd`: a pairing request received by the peripheral or a pairing response
received by the central.  PTS failure injection (`cert_failure`) is off. -/
def smpProcPairCmd (useOobPrivateKey : SmpCb → Effect) (cb : SmpCb) (data : IntData) :
    Effect :=
  let cb := { cb with encAfterPair := true }
  if smpCommandHasInvalidLength cb then .raise cb .authCmpl (.status smpInvalidParameters)
  else
    let cb := match data.stream with
      | ioCaps :: oobFlag :: authReq :: encSize :: iKey :: rKey :: _ =>
        { cb with peerIoCaps := ioCaps, peerOobFlag := oobFlag, peerAuthReq := authReq,
                  peerEncSize := encSize, peerIKey := iKey, peerRKey := rKey }
      | _ => cb
    if smpCommandHasInvalidParameters cb then .raise cb .authCmpl (.status smpInvalidParameters)
    else if cb.role == .peripheral then
      if !cb.weStartedDd then
        .done { cb with localIKey := cb.peerIKey, localRKey := cb.peerRKey,
                        cbEvt := smpSecRequestEvt }
      else
        let cb := { cb with localIKey := cb.localIKey &&& cb.peerIKey,
                            localRKey := cb.localRKey &&& cb.peerRKey }
        let (cb, model) := smpSelectAssociationModel cb
        let cb := { cb with selectedAssociationModel := model }
        if scOnlyRefused cb then .raise cb .authCmpl (.status smpPairAuthFail)
        else if model == .secConnOob then (smpRequestOobData cb).getD (.done cb)
        else smpSendPairRsp env useOobPrivateKey cb
    else
      let (cb, model) := smpSelectAssociationModel cb
      let cb := { cb with selectedAssociationModel := model }
      if scOnlyRefused cb then .raise cb .authCmpl (.status smpPairAuthFail)
      else if model == .secConnOob then (smpRequestOobData cb).getD (.done cb)
      else smpDecideAssociationModel env cb

/-- `smp_process_io_response`: the peripheral's answer to the application's IO capabilities. -/
def smpProcessIoResponse (useOobPrivateKey : SmpCb → Effect) (cb : SmpCb) : Effect :=
  if cb.weStartedDd then
    -- pairing started by our own security request
    let cb := { cb with state := .secReqPending }
    (smpSendCmd env smpOpcodeSecReq cb).1
  else
    let (cb, model) := smpSelectAssociationModel cb
    let cb := { cb with selectedAssociationModel := model }
    if scOnlyRefused cb then .raise cb .authCmpl (.status smpPairAuthFail)
    else if model == .secConnOob then
      -- `SMP_OOB_NONE` breaks out of the switch into the final `smp_send_pair_rsp`, so the
      -- response goes out twice, the second call after the nested events of the first
      if cb.locOobFlag == smpOobNone then
        ⟨cb, [], [.action .sendPairRsp .none, .action .sendPairRsp .none]⟩
      else if cb.locOobFlag == smpOobPresent then
        match smpRequestOobData cb with
        | some requested => requested
        | none => smpSendPairRsp env useOobPrivateKey cb
      else if cb.locOobFlag == smpOobUnknown then smpSendPairFail env cb (.status smpPairAuthFail)
      else smpSendPairRsp env useOobPrivateKey cb
    else smpSendPairRsp env useOobPrivateKey cb

/-- `smp_send_app_cback`: the application callback for `cb_evt`.  Its answer to an IO
capabilities request is taken at once and raises `SMP_IO_RSP_EVT`; after that nested event the
function still looks at `discard_sec_req`. -/
def smpSendAppCback (cb : SmpCb) : Effect :=
  let afterwards : Work := .resume fun cb =>
    if cb.cbEvt == smpEvtNone && cb.discardSecReq then
      ({ cb with discardSecReq := false }, some (.discardSecReq, .none))
    else (cb, none)
  if cb.cbEvt == smpEvtNone then ⟨cb, [], [afterwards]⟩
  else if cb.cbEvt == smpIoCapReqEvt then
    let asked : IoReq := ⟨cb.peerAuthReq, smpOobNone, env.localIoCapsBle, smpMaxEncKeySize,
      cb.localIKey, cb.localRKey⟩
    let answer := env.ioCapAnswer asked
    if env.ioCapAnswerOk then
      let bonding := answer.authReq &&& smpAuthBond != 0
      let scOnly := env.securityModeSc
      let cb := { cb with locAuthReq := if scOnly then answer.authReq ||| smpScSupportBit
                            else answer.authReq,
                          localIoCapability := answer.ioCap, locOobFlag := answer.oobData,
                          locEncSize := answer.maxKeySize,
                          localIKey := if bonding then answer.initKeys else 0,
                          localRKey := if bonding then answer.respKeys else 0,
                          secureConnectionsOnlyModeRequired := scOnly }
      ⟨cb, [.appCallback smpIoCapReqEvt], [.event .ioRsp .none, afterwards]⟩
    else ⟨cb, [.appCallback smpIoCapReqEvt], [afterwards]⟩
  else ⟨cb, [.appCallback cb.cbEvt], [afterwards]⟩

/-- `smp_check_auth_req`: after encryption, key distribution or the end of the pairing. -/
def smpCheckAuthReq (cb : SmpCb) (data : IntData) : Effect :=
  let encEnable := data.statusOf env
  if encEnable == 1 then
    let cb :=
      if cb.leSecureConnectionsModeIsUsed then
        -- the long term key is derived on both sides, and the link key only if both ask
        let iKey := cb.localIKey ||| smpSecKeyTypeEnc
        let rKey := cb.localRKey ||| smpSecKeyTypeEnc
        let both := iKey &&& smpSecKeyTypeLk != 0 && rKey &&& smpSecKeyTypeLk != 0
        let iKey := if both then iKey else iKey &&& ~~~smpSecKeyTypeLk
        let rKey := if both then rKey else rKey &&& ~~~smpSecKeyTypeLk
        let rKey :=
          if cb.role == .central then rKey &&& (smpSecKeyTypeId ||| smpSecKeyTypeCsrk) else rKey
        { cb with localIKey := iKey, localRKey := rKey }
      else
        { cb with localIKey := cb.localIKey &&& ~~~smpSecKeyTypeLk,
                  localRKey := cb.localRKey &&& ~~~smpSecKeyTypeLk }
    if cb.localIKey != 0 || cb.localRKey != 0 then .raise cb .bondReq .none
    else .raise cb .authCmpl (.status smpSuccess)
  else if encEnable == 0 then
    if cb.encAfterPair || cb.role == .central then .raise cb .authCmpl (.status smpEncFail)
    else .done cb
  else .done cb

/-- `smp_pair_terminate`. -/
def smpPairTerminate (cb : SmpCb) : Effect :=
  smpProcPairingCmpl { cb with status := smpConnTout }

/-- `smp_idle_terminate`. -/
def smpIdleTerminate (cb : SmpCb) : Effect :=
  if cb.weStartedDd then smpProcPairingCmpl { cb with status := smpFail } else .done cb

/-- `smp_enc_cmpl`. -/
def smpEncCmpl (cb : SmpCb) (data : IntData) : Effect :=
  .raise cb .authCmpl (.status (if data.statusOf env != 0 then smpSuccess else smpEncFail))

/-- The action functions that the model leaves out: those of Secure Connections, of key
distribution and `smp_proc_sec_req`. -/
abbrev OtherActions := SmpAction → SmpCb → IntData → Effect

/-- `smp_sm_action[action](p_cb, p_data)`. -/
def smpAction (others : OtherActions) (action : SmpAction) (cb : SmpCb) (data : IntData) :
    Effect :=
  let useOobPrivateKey := fun cb => others .useOobPrivateKey cb .none
  match action with
  | .sendPairReq => smpSendPairReq env cb
  | .sendPairRsp => smpSendPairRsp env useOobPrivateKey cb
  | .sendConfirm => smpSendConfirm env cb
  | .sendPairFail => smpSendPairFail env cb data
  | .sendRand => smpSendRand env cb
  | .sendLtkReply => smpSendLtkReply cb data
  | .procPairCmd => smpProcPairCmd env useOobPrivateKey cb data
  | .procPairFail => smpProcPairFail env cb data
  | .procConfirm => smpProcConfirm cb data
  | .procRand => smpProcRand cb data
  | .procSecGrant => smpProcSecGrant env cb data
  | .procSlKey => smpProcSlKey cb data
  | .procCompare => smpProcCompare cb data
  | .procIoRsp => smpProcessIoResponse env useOobPrivateKey cb
  | .generateCompare => smpGenerateCompare crypto cb
  | .generateConfirm => smpGenerateSrandMrandConfirm cb
  | .generateStk => smpGenerateStk crypto cb
  | .startEnc => smpStartEnc env cb data
  | .pairingCmpl => smpPairingCmpl cb
  | .decideAssoModel => smpDecideAssociationModel env cb
  | .sendAppCback => smpSendAppCback env cb
  | .checkAuthReq => smpCheckAuthReq env cb data
  | .pairTerminate => smpPairTerminate cb
  | .encCmpl => smpEncCmpl env cb data
  | .idleTerminate => smpIdleTerminate cb
  | action => others action cb data

end Actions

/-- The Security Manager with the call stack it is working through. -/
structure SmpMachine where
  cb : SmpCb
  work : List Work
  log : List SmpOutput

/-- The row `smp_sm_event` runs: none for a control block of unknown role or an ignored
event. -/
def smpSmDispatch (cb : SmpCb) (event : SmpEvent) : Option SmpRow :=
  if cb.role = .unknown then none else smpSmRow cb.role cb.state event

section Machine

variable (env : SmpEnv) (crypto : LegacyCrypto) (others : OtherActions)

/-- One item of the call stack.  An event is `smp_sm_event`: it sets the row's next state and
pushes the row's actions with the event's data.  An action runs up to its return or its next
nested call. -/
def smpStep (machine : SmpMachine) : SmpMachine :=
  match machine.work with
  | [] => machine
  | .event event data :: rest =>
    match smpSmDispatch machine.cb event with
    | none => { machine with work := rest }
    | some row =>
      { machine with cb := { machine.cb with state := row.next },
                     work := row.actions.map (fun action => Work.action action data) ++ rest }
  | .action action data :: rest =>
    let effect := smpAction env crypto others action machine.cb data
    { cb := effect.cb, work := effect.work ++ rest,
      log := machine.log ++ SmpOutput.action action :: effect.out }
  | .resume finish :: rest =>
    let (cb, raised) := finish machine.cb
    { machine with cb := cb,
                   work := (raised.map fun r => Work.event r.1 r.2).toList ++ rest }

/-- Steps until the call stack is empty, for at most `fuel` steps. -/
def smpRun : Nat → SmpMachine → SmpMachine
  | 0, machine => machine
  | fuel + 1, machine =>
    match machine.work with
    | [] => machine
    | _ :: _ => smpRun fuel (smpStep env crypto others machine)

/-- With the call stack empty the machine stays as it is. -/
@[simp] theorem smpRun_nil (fuel : Nat) (cb : SmpCb) (log : List SmpOutput) :
    smpRun env crypto others fuel ⟨cb, [], log⟩ = ⟨cb, [], log⟩ := by
  cases fuel <;> rfl

/-- An event is dispatched: with a row it sets the row's next state and pushes its actions,
without one it is dropped. -/
theorem smpRun_event (fuel : Nat) (cb : SmpCb) (event : SmpEvent) (data : IntData)
    (rest : List Work) (log : List SmpOutput) :
    smpRun env crypto others (fuel + 1) ⟨cb, .event event data :: rest, log⟩ =
      smpRun env crypto others fuel (match smpSmDispatch cb event with
        | none => ⟨cb, rest, log⟩
        | some row => ⟨{ cb with state := row.next },
            row.actions.map (fun action => Work.action action data) ++ rest, log⟩) := by
  simp only [smpRun, smpStep]

/-- An action leaves its effect: its nested calls go on top of the stack, its outputs after
the action in the log. -/
theorem smpRun_action (fuel : Nat) (cb : SmpCb) (action : SmpAction) (data : IntData)
    (rest : List Work) (log : List SmpOutput) :
    smpRun env crypto others (fuel + 1) ⟨cb, .action action data :: rest, log⟩ =
      smpRun env crypto others fuel ⟨(smpAction env crypto others action cb data).cb,
        (smpAction env crypto others action cb data).work ++ rest,
        log ++ .action action :: (smpAction env crypto others action cb data).out⟩ :=
  rfl

/-- A continuation finishes its action and pushes the event it raises, if any. -/
theorem smpRun_resume (fuel : Nat) (cb : SmpCb)
    (finish : SmpCb → SmpCb × Option (SmpEvent × IntData)) (rest : List Work)
    (log : List SmpOutput) :
    smpRun env crypto others (fuel + 1) ⟨cb, .resume finish :: rest, log⟩ =
      smpRun env crypto others fuel ⟨(finish cb).1,
        ((finish cb).2.map fun r => Work.event r.1 r.2).toList ++ rest, log⟩ :=
  rfl

/-- A step that does not depend on the cryptographic functions or the untranslated actions
may be taken with any others. -/
theorem smpRun_succ_as (crypto' : LegacyCrypto) (others' : OtherActions)
    {machine : SmpMachine} (busy : machine.work ≠ [])
    (same : smpStep env crypto others machine = smpStep env crypto' others' machine)
    (fuel : Nat) :
    smpRun env crypto others (fuel + 1) machine =
      smpRun env crypto others fuel (smpStep env crypto' others' machine) := by
  obtain ⟨cb, work, log⟩ := machine
  cases work with
  | nil => exact absurd rfl busy
  | cons item rest => rw [← same]; rfl

end Machine

/-- A call into the Security Manager from outside. -/
inductive SmpInput where
  /-- `smp_data_received`: a command on the LE SMP channel from `bdAddr`. -/
  | dataReceived (bdAddr : Nat) (bytes : List UInt8)
  /-- `SMP_SecurityGrant(bd_addr, res)`. -/
  | securityGrant (bdAddr : Nat) (res : Nat)
  /-- `SMP_PasskeyReply(bd_addr, res, passkey)`. -/
  | passkeyReply (bdAddr : Nat) (res : Nat) (passkey : Nat)
  /-- `smp_proc_ltk_request(bda)`: the controller asks for the key of the link. -/
  | ltkRequest (bdAddr : Nat)
  /-- `smp_link_encrypted(bda, encr_enable)`. -/
  | linkEncrypted (bdAddr : Nat) (encrEnable : Nat)
  /-- Both random numbers of `smp_generate_srand_mrand_confirm` have come back. -/
  | confirmRand (rand : Octet16)
  /-- The random number of `smp_generate_passkey` has come back: `smp_proc_passkey`. -/
  | passkeyRand (rand : Nat)

section Inputs

variable (env : SmpEnv) (crypto : LegacyCrypto)

/-- `smp_data_received`.  A pairing or security request from a new peer starts a pairing with
it, one from another peer than the one pairing is rejected, and a command from the peer of the
pairing becomes the event of its opcode; a confirm becomes a commitment when both sides support
Secure Connections.  SMP over BR/EDR is not modelled, so its state is idle. -/
def smpDataReceived (cb : SmpCb) (bdAddr : Nat) (bytes : List UInt8) : Effect :=
  match bytes with
  | [] => .done cb
  | cmd :: params =>
    let cmd := cmd.toNat
    if smpOpcodeMax < cmd || cmd < smpOpcodeMin then .done cb
    else
      let started : Option SmpCb :=
        if cmd == smpOpcodePairingReq || cmd == smpOpcodeSecReq then
          if cb.state == .idle && !cb.weStartedDd then
            some { cb with role := env.connRole, pairingBda := bdAddr }
          else if bdAddr != cb.pairingBda then none
          else some cb
        else some cb
      match started with
      | none => ⟨cb, [.rejectPairingCommand], []⟩
      | some cb =>
        if bdAddr == cb.pairingBda then
          let cmd := if cmd == smpOpcodeConfirm && cb.peerAuthReq &&& smpScSupportBit != 0 &&
              cb.locAuthReq &&& smpScSupportBit != 0 then smpOpcodePairCommitm else cmd
          let cb := { cb with rcvdCmdCode := cmd, rcvdCmdLen := bytes.length % 256 }
          match SmpEvent.ofOpcode cmd with
          | some event => .raise cb event (.pdu params)
          | none => .done cb
        else .done cb

/-- `SMP_SecurityGrant` over LE: the answer to a consent dialog, or the grant of a pairing the
peer asked for. -/
def smpSecurityGrant (cb : SmpCb) (bdAddr : Nat) (res : Nat) : Effect :=
  if cb.cbEvt == smpConsentReqEvt then
    if cb.selectedAssociationModel == .secConnJustworks then
      if res == smpSuccess then .raise cb .scNcOk .none
      else .raise cb .authCmpl (.status smpNumericComparFail)
    else if cb.selectedAssociationModel == .encryptionOnly then
      if res == smpSuccess then
        .raise { cb with secLevel := smpSecUnauthenticate, tk := .zero } .keyReady
          (.key .tk .zero)
      else .raise cb .authCmpl (.status smpNumericComparFail)
    else .done cb
  else if cb.state != .waitAppRsp || cb.cbEvt != smpSecRequestEvt || cb.pairingBda != bdAddr then
    .done cb
  else .raise { cb with cbEvt := smpEvtNone } .secGrant (.status res)

/-- `SMP_PasskeyReply`: in legacy pairing the passkey becomes the temporary key. -/
def smpPasskeyReply (cb : SmpCb) (bdAddr : Nat) (res : Nat) (passkey : Nat) : Effect :=
  if cb.cbEvt != smpPasskeyReqEvt || bdAddr != cb.pairingBda then .done cb
  else if passkey > btmMaxPasskeyVal || res != smpSuccess then
    .raise cb .authCmpl (.status smpPasskeyEntryFail)
  else if cb.selectedAssociationModel == .secConnPasskeyEnt then
    .raise cb .scKeyReady (.passkey passkey)
  else
    -- smp_convert_string_to_tk
    let tk := cb.tk.writeU32 passkey
    .raise { cb with tk := tk } .keyReady (.key .tk tk)

/-- `smp_proc_ltk_request`. -/
def smpProcLtkRequest (cb : SmpCb) (bdAddr : Nat) : Effect :=
  if bdAddr == cb.pairingBda && cb.state == .encryptionPending then .raise cb .encReq .none
  else .done cb

/-- `smp_link_encrypted`. -/
def smpLinkEncrypted (cb : SmpCb) (bdAddr : Nat) (encrEnable : Nat) : Effect :=
  if cb.pairingBda == bdAddr then .raise cb .encrypted (.status encrEnable) else .done cb

/-- The completion of `smp_generate_srand_mrand_confirm`: `smp_generate_confirm`. -/
def smpGenerateConfirm (cb : SmpCb) (rand : Octet16) : Effect :=
  let confirm := crypto.c1 cb.tk rand
  .raise { cb with rand := rand, confirm := confirm } .keyReady (.key .cfm confirm)

/-- `while (passkey > BTM_MAX_PASSKEY_VAL) passkey >>= 1;`, for at most `bits` rounds. -/
def truncatePasskey : Nat → Nat → Nat
  | 0, passkey => passkey
  | bits + 1, passkey =>
    if passkey > btmMaxPasskeyVal then truncatePasskey bits (passkey / 2) else passkey

/-- `smp_proc_passkey`: the passkey drawn from the controller's random, with the bits of
`SMP_PASSKEY_MASK` cleared, shown to the user and made the temporary key.  The masked value has
twenty bits, so twenty rounds finish the loop. -/
def smpProcPasskey (cb : SmpCb) (rand : Nat) : Effect :=
  let passkey := truncatePasskey 20 (rand % 4294967296 % 1048576)
  let tk := Octet16.zero.writeU32 passkey
  let cb := { cb with tk := tk }
  if cb.selectedAssociationModel == .secConnPasskeyDisp then
    ⟨cb, [.appCallback smpPasskeyNotifEvt], [.event .keyReady (.passkey passkey)]⟩
  else ⟨cb, [.appCallback smpPasskeyNotifEvt], [.event .keyReady (.key .tk tk)]⟩

/-- What an input does before the call stack is run. -/
def smpInputEffect (cb : SmpCb) : SmpInput → Effect
  | .dataReceived bdAddr bytes => smpDataReceived env cb bdAddr bytes
  | .securityGrant bdAddr res => smpSecurityGrant cb bdAddr res
  | .passkeyReply bdAddr res passkey => smpPasskeyReply cb bdAddr res passkey
  | .ltkRequest bdAddr => smpProcLtkRequest cb bdAddr
  | .linkEncrypted bdAddr encrEnable => smpLinkEncrypted cb bdAddr encrEnable
  | .confirmRand rand => smpGenerateConfirm crypto cb rand
  | .passkeyRand rand => smpProcPasskey cb rand

variable (others : OtherActions)

/-- One input, with the call stack it starts run for at most `fuel` steps. -/
def smpProcess (fuel : Nat) (machine : SmpMachine) (input : SmpInput) : SmpMachine :=
  let effect := smpInputEffect env crypto machine.cb input
  smpRun env crypto others fuel
    { cb := effect.cb, work := effect.work ++ machine.work, log := machine.log ++ effect.out }

/-- The inputs one after another, each given `fuel` steps. -/
def smpProcessAll (fuel : Nat) (machine : SmpMachine) (inputs : List SmpInput) : SmpMachine :=
  inputs.foldl (smpProcess env crypto others fuel) machine

end Inputs

/-- The Security Manager before anything happened. -/
def SmpMachine.initial : SmpMachine := ⟨.cleared, [], []⟩

end Bluetooth.Smp

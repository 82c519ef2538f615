import Bluetooth.Smp.Pairing

set_option linter.all false

/-!
# A legacy peripheral that compares before it has a temporary key

The peripheral's `SMP_STATE_WAIT_APP_RSP` row for `SMP_CONFIRM_EVT` stores the peer's confirm
and moves to `SMP_STATE_CONFIRM` whether or not the user has answered the passkey request, and
there `SMP_RAND_EVT` runs `smp_proc_rand` and `smp_generate_compare` at once.  The comparison
then uses the temporary key as the control block holds it, which before `SMP_PasskeyReply` is
the zero key `smp_cb_cleanup` left.  A peer that sends `c1(0, Mrand)` and `Mrand` passes the
check, gets the peripheral's random, and its encryption request is answered with the short
term key of the zero key; the pairing then completes with `SMP_SUCCESS` at
`SMP_SEC_AUTHENTICATED`.

The first part gives the actions on this path their specification for any control block;
the second runs the inputs of the peer one after another from any control block in the
state they need; the last starts from a keyboard-only peripheral before any pairing.
-/

namespace Bluetooth.Smp

theorem SmpEvent.ofOpcode_range {opcode : Nat} {event : SmpEvent}
    (known : SmpEvent.ofOpcode opcode = some event) :
    smpOpcodeMin ≤ opcode ∧ opcode ≤ smpOpcodeMax + 1 := by
  unfold SmpEvent.ofOpcode at known
  split at known <;> simp_all [smpOpcodeMin, smpOpcodeMax]

/-- A control block of a known role is dispatched by the tables of its role. -/
theorem smpSmDispatch_of_role {cb : SmpCb} {role : Role} (has : cb.role = role)
    (known : role ≠ .unknown) (event : SmpEvent) :
    smpSmDispatch cb event = smpSmRow role cb.state event := by
  simp [smpSmDispatch, has, known]

/-- A command that is neither a pairing request or response nor a keypress notification is
valid exactly when it has its fixed length. -/
theorem smpCommandHasInvalidParameters_of_fixed {cb : SmpCb} (code : Nat)
    (received : cb.rcvdCmdCode = code) (length : cb.rcvdCmdLen = smpCmdSizePerSpec.getD code 0)
    (range : smpOpcodeMin ≤ code ∧ code ≤ smpOpcodeMax + 1)
    (plain : code ≠ smpOpcodePairingReq ∧ code ≠ smpOpcodePairingRsp ∧
      code ≠ smpOpcodePairKeyprNotif) :
    smpCommandHasInvalidParameters cb = false := by
  obtain ⟨low, high⟩ := range
  obtain ⟨notReq, notRsp, notKeypress⟩ := plain
  simp only [smpCommandHasInvalidParameters, smpCommandHasInvalidLength,
    smpCommandHasValidFixedLength, received, length]
  simp [notReq, notRsp, notKeypress, Nat.not_lt.mpr low, Nat.not_lt.mpr high]

section Actions

variable (env : SmpEnv) (crypto : LegacyCrypto)

/-- `smp_data_received` for a command of the pairing in progress that does not start one: the
command is recorded and raised with its parameters. -/
theorem smpDataReceived_of_command (cb : SmpCb) (bdAddr : Nat) (cmd : UInt8)
    (params : List UInt8) {event : SmpEvent}
    (inRange : smpOpcodeMin ≤ cmd.toNat ∧ cmd.toNat ≤ smpOpcodeMax)
    (known : SmpEvent.ofOpcode cmd.toNat = some event)
    (noStart : cmd.toNat ≠ smpOpcodePairingReq ∧ cmd.toNat ≠ smpOpcodeSecReq)
    (legacy : cmd.toNat = smpOpcodeConfirm →
      cb.peerAuthReq &&& smpScSupportBit = 0 ∨ cb.locAuthReq &&& smpScSupportBit = 0)
    (peer : cb.pairingBda = bdAddr) :
    smpDataReceived env cb bdAddr (cmd :: params) =
      .raise { cb with rcvdCmdCode := cmd.toNat, rcvdCmdLen := (params.length + 1) % 256 }
        event (.pdu params) := by
  obtain ⟨low, high⟩ := inRange
  -- the translation of a confirm into a commitment does not apply
  have kept : ¬(cmd.toNat = smpOpcodeConfirm ∧ ¬cb.peerAuthReq &&& smpScSupportBit = 0 ∧
      ¬cb.locAuthReq &&& smpScSupportBit = 0) := by
    tauto
  simp [smpDataReceived, Nat.not_lt.mpr low, Nat.not_lt.mpr high, noStart.1, noStart.2, peer,
    and_assoc, kept, known, Effect.raise]

/-- `smp_proc_confirm` of a valid command saves the peer's confirm. -/
theorem smpProcConfirm_of_valid {cb : SmpCb} (valid : smpCommandHasInvalidParameters cb = false)
    (bytes : List UInt8) :
    smpProcConfirm cb (.pdu bytes) = .done { cb with rconfirm := .ofStream bytes,
                                                     cmdConfirm := true } := by
  simp [smpProcConfirm, valid]

/-- `smp_proc_rand` of a valid command saves the peer's random. -/
theorem smpProcRand_of_valid {cb : SmpCb} (valid : smpCommandHasInvalidParameters cb = false)
    (data : IntData) :
    smpProcRand cb data = .done { cb with rrand := .ofStream data.stream } := by
  simp [smpProcRand, valid]

/-- `smp_proc_compare` on the peripheral, when the peer's confirm is the computed one and the
key size needs no cut: it raises `SMP_RAND_EVT`. -/
theorem smpProcCompare_of_agrees {cb : SmpCb} {data : IntData}
    (agrees : cb.rconfirm = data.keyValue) (peripheral : cb.role = .peripheral)
    (sizes : cb.locEncSize ≤ cb.peerEncSize) :
    smpProcCompare cb data = .raise cb .rand .none := by
  simp [smpProcCompare, agrees, peripheral, UInt8.not_lt.mpr sizes]

/-- `smp_generate_stk` on a legacy peripheral: `s1(TK, Srand, Mrand)` cut to the key size. -/
theorem smpGenerateStk_legacy_peripheral {cb : SmpCb}
    (legacy : cb.leSecureConnectionsModeIsUsed = false) (peripheral : cb.role = .peripheral) :
    smpGenerateStk crypto cb = .raise cb .keyReady
      (.key .stk ((crypto.s1 cb.tk cb.rand cb.rrand).mask cb.locEncSize.toNat)) := by
  simp [smpGenerateStk, legacy, peripheral]

/-- `smp_check_auth_req` after a successful encryption of a legacy pairing with nothing to
distribute: the pairing is complete. -/
theorem smpCheckAuthReq_of_nothing_to_distribute {cb : SmpCb}
    (legacy : cb.leSecureConnectionsModeIsUsed = false)
    (noKeys : cb.localIKey = 0 ∧ cb.localRKey = 0) :
    smpCheckAuthReq env cb (.status 1) =
      .raise { cb with localIKey := 0, localRKey := 0 } .authCmpl (.status smpSuccess) := by
  simp [smpCheckAuthReq, IntData.statusOf, legacy, noKeys.1, noKeys.2]

/-- `smp_send_pair_fail` with `SMP_SUCCESS` sends nothing. -/
theorem smpSendPairFail_success (cb : SmpCb) :
    smpSendPairFail env cb (.status smpSuccess) =
      .done { cb with status := smpSuccess, failure := smpSuccess } := by
  simp [smpSendPairFail, IntData.statusOf, smpSuccess]

end Actions

section Inputs

variable (env : SmpEnv) (crypto : LegacyCrypto) (others : OtherActions)

/-- The peer's confirm while the peripheral waits for its user: it is saved and the state
moves to `SMP_STATE_CONFIRM`. -/
theorem smpProcess_confirm_while_waiting (cb : SmpCb) (log : List SmpOutput) (bdAddr : Nat)
    (conf : Octet16) (fuel : Nat) (enough : 2 ≤ fuel) (peer : cb.pairingBda = bdAddr)
    (peripheral : cb.role = .peripheral) (waiting : cb.state = .waitAppRsp)
    (legacy : cb.peerAuthReq &&& smpScSupportBit = 0 ∨ cb.locAuthReq &&& smpScSupportBit = 0) :
    smpProcess env crypto others fuel ⟨cb, [], log⟩ (.dataReceived bdAddr (0x03 :: conf.bytes)) =
      ⟨{ cb with state := .confirm, rcvdCmdCode := smpOpcodeConfirm, rcvdCmdLen := 17,
                 rconfirm := conf, cmdConfirm := true }, [], log ++ [.action .procConfirm]⟩ := by
  obtain ⟨fuel, rfl⟩ : ∃ rest, fuel = rest + 2 := ⟨fuel - 2, by omega⟩
  subst peer
  have size : (conf.bytes.length + 1) % 256 = 17 := by simp [conf.length_bytes]
  simp only [smpProcess, smpInputEffect]
  rw [smpDataReceived_of_command env cb cb.pairingBda 0x03 conf.bytes (by decide) rfl
    ⟨by decide, by decide⟩ (fun _ => legacy) rfl]
  simp only [Effect.raise, List.append_nil, size]
  have row : smpSmRow .peripheral .waitAppRsp .confirm = some ⟨[.procConfirm], .confirm⟩ := rfl
  rw [smpRun_event]
  simp only [smpSmDispatch, peripheral, waiting, row, reduceCtorEq, if_false, List.map_cons,
    List.map_nil, List.cons_append, List.nil_append]
  rw [smpRun_action]
  simp only [smpAction]
  rw [smpProcConfirm_of_valid]
  case valid =>
    exact smpCommandHasInvalidParameters_of_fixed smpOpcodeConfirm rfl rfl (by decide) (by decide)
  simp [Effect.done, smpOpcodeConfirm]

/-- The peer's random in `SMP_STATE_CONFIRM`: when the saved confirm is `c1` of the control
block's temporary key and that random, the peripheral sends its own random and waits for the
encryption. -/
theorem smpProcess_rand_after_confirm (cb : SmpCb) (log : List SmpOutput) (bdAddr : Nat)
    (mrand : Octet16) (fuel : Nat) (enough : 7 ≤ fuel) (peer : cb.pairingBda = bdAddr)
    (sends : env.sendOk = true) (peripheral : cb.role = .peripheral)
    (confirming : cb.state = .confirm) (agrees : cb.rconfirm = crypto.c1 cb.tk mrand)
    (sizes : cb.locEncSize ≤ cb.peerEncSize) :
    smpProcess env crypto others fuel ⟨cb, [], log⟩ (.dataReceived bdAddr (0x04 :: mrand.bytes)) =
      ⟨{ cb with state := .encryptionPending, rcvdCmdCode := smpOpcodeRand, rcvdCmdLen := 17,
                 rrand := mrand }, [],
        log ++ [.action .procRand, .action .generateCompare, .action .procCompare,
          .action .sendRand, .send smpOpcodeRand]⟩ := by
  obtain ⟨fuel, rfl⟩ : ∃ rest, fuel = rest + 7 := ⟨fuel - 7, by omega⟩
  subst peer
  have size : (mrand.bytes.length + 1) % 256 = 17 := by simp [mrand.length_bytes]
  have rowRand : smpSmRow .peripheral .confirm .rand =
      some ⟨[.procRand, .generateCompare], .rand⟩ := rfl
  have rowKey : smpSmRow .peripheral .rand .keyReady = some ⟨[.procCompare], .rand⟩ := rfl
  have rowSend : smpSmRow .peripheral .rand .rand = some ⟨[.sendRand], .encryptionPending⟩ := rfl
  simp only [smpProcess, smpInputEffect]
  rw [smpDataReceived_of_command env cb cb.pairingBda 0x04 mrand.bytes (by decide) rfl
    ⟨by decide, by decide⟩ (fun isConfirm => absurd isConfirm (by decide)) rfl]
  simp only [Effect.raise, List.append_nil, size]
  rw [smpRun_event]
  simp only [smpSmDispatch, peripheral, confirming, rowRand, reduceCtorEq, if_false,
    List.map_cons, List.map_nil, List.cons_append, List.nil_append]
  -- `smp_proc_rand` saves the random
  rw [smpRun_action]
  simp only [smpAction]
  rw [smpProcRand_of_valid]
  case valid =>
    exact smpCommandHasInvalidParameters_of_fixed smpOpcodeRand rfl rfl (by decide) (by decide)
  simp only [Effect.done, IntData.stream, Octet16.ofStream_bytes, List.nil_append]
  -- `smp_generate_compare` computes `c1(TK, Mrand)` with the key the control block holds
  rw [smpRun_action]
  simp only [smpAction, smpGenerateCompare, Effect.raise, List.append_nil]
  rw [smpRun_event]
  simp only [smpSmDispatch, reduceCtorEq, if_false, rowKey, List.map_cons, List.map_nil,
    List.cons_append, List.nil_append]
  -- `smp_proc_compare` finds the confirm equal and raises `SMP_RAND_EVT`
  rw [smpRun_action]
  simp only [smpAction]
  rw [smpProcCompare_of_agrees]
  case agrees => exact agrees
  case peripheral => rfl
  case sizes => exact sizes
  simp only [Effect.raise, List.append_nil]
  rw [smpRun_event]
  simp only [smpSmDispatch, reduceCtorEq, if_false, rowSend, List.map_cons, List.map_nil,
    List.cons_append, List.nil_append]
  -- `smp_send_rand`
  rw [smpRun_action]
  simp [smpAction, smpSendRand, smpSendCmd, sends, smpOpcodeRand]

/-- The controller's LTK request while the encryption is pending: the short term key of the
control block's keys is handed to the controller. -/
theorem smpProcess_ltkRequest_pending (cb : SmpCb) (log : List SmpOutput) (bdAddr : Nat)
    (fuel : Nat) (enough : 4 ≤ fuel) (peer : cb.pairingBda = bdAddr)
    (peripheral : cb.role = .peripheral) (pending : cb.state = .encryptionPending)
    (legacy : cb.leSecureConnectionsModeIsUsed = false) :
    smpProcess env crypto others fuel ⟨cb, [], log⟩ (.ltkRequest bdAddr) =
      ⟨cb, [], log ++ [.action .generateStk, .action .sendLtkReply,
        .ltkReply ((crypto.s1 cb.tk cb.rand cb.rrand).mask cb.locEncSize.toNat)]⟩ := by
  obtain ⟨fuel, rfl⟩ : ∃ rest, fuel = rest + 4 := ⟨fuel - 4, by omega⟩
  subst peer
  have rowEnc : smpSmRow .peripheral .encryptionPending .encReq =
      some ⟨[.generateStk], .encryptionPending⟩ := rfl
  have rowKey : smpSmRow .peripheral .encryptionPending .keyReady =
      some ⟨[.sendLtkReply], .encryptionPending⟩ := rfl
  simp only [smpProcess, smpInputEffect, smpProcLtkRequest, pending]
  simp only [beq_self_eq_true, Bool.and_self, if_true, Effect.raise, List.append_nil]
  rw [smpRun_event]
  simp only [smpSmDispatch, peripheral, pending, rowEnc, reduceCtorEq, if_false, List.map_cons,
    List.map_nil, List.cons_append, List.nil_append]
  -- `smp_generate_stk` and the key it raises
  rw [smpRun_action]
  simp only [smpAction]
  rw [smpGenerateStk_legacy_peripheral]
  case legacy => exact legacy
  case peripheral => rfl
  simp only [Effect.raise, List.append_nil]
  rw [smpRun_event]
  simp only [smpSmDispatch, rowKey, reduceCtorEq, if_false, List.map_cons,
    List.map_nil, List.cons_append, List.nil_append]
  -- `smp_send_ltk_reply`
  rw [smpRun_action]
  simp only [smpAction, smpSendLtkReply, IntData.keyValue, List.nil_append, List.append_assoc,
    List.cons_append, smpRun_nil]
  -- the rows keep the role and the state the control block had
  rw [← peripheral, ← pending]

/-- The encryption change of the link while the encryption is pending, with nothing to
distribute: the pairing completes with `SMP_SUCCESS` at the control block's security level, and
the control block is cleared. -/
theorem smpProcess_linkEncrypted_complete (cb : SmpCb) (log : List SmpOutput) (bdAddr : Nat)
    (fuel : Nat) (enough : 5 ≤ fuel) (peer : cb.pairingBda = bdAddr)
    (peripheral : cb.role = .peripheral) (pending : cb.state = .encryptionPending)
    (legacy : cb.leSecureConnectionsModeIsUsed = false)
    (noKeys : cb.localIKey = 0 ∧ cb.localRKey = 0) :
    smpProcess env crypto others fuel ⟨cb, [], log⟩ (.linkEncrypted bdAddr 1) =
      ⟨.cleared, [], log ++ [.action .checkAuthReq, .action .sendPairFail, .action .pairingCmpl,
        .pairingComplete smpSuccess cb.secLevel]⟩ := by
  obtain ⟨fuel, rfl⟩ : ∃ rest, fuel = rest + 5 := ⟨fuel - 5, by omega⟩
  subst peer
  have rowEncrypted : smpSmRow .peripheral .encryptionPending .encrypted =
      some ⟨[.checkAuthReq], .encryptionPending⟩ := rfl
  have rowCmpl : smpSmRow .peripheral .encryptionPending .authCmpl =
      some ⟨[.sendPairFail, .pairingCmpl], .idle⟩ := rfl
  simp only [smpProcess, smpInputEffect, smpLinkEncrypted, beq_self_eq_true, if_true,
    Effect.raise, List.append_nil]
  rw [smpRun_event]
  simp only [smpSmDispatch, peripheral, pending, rowEncrypted, reduceCtorEq, if_false,
    List.map_cons, List.map_nil, List.cons_append, List.nil_append]
  -- `smp_check_auth_req` finds nothing to distribute
  rw [smpRun_action]
  simp only [smpAction]
  rw [smpCheckAuthReq_of_nothing_to_distribute]
  case legacy => exact legacy
  case noKeys => exact noKeys
  simp only [Effect.raise, List.append_nil]
  rw [smpRun_event]
  simp only [smpSmDispatch, rowCmpl, reduceCtorEq, if_false, List.map_cons,
    List.map_nil, List.cons_append, List.nil_append]
  -- `smp_send_pair_fail` with success, then `smp_pairing_cmpl`
  rw [smpRun_action]
  simp only [smpAction]
  rw [smpSendPairFail_success]
  simp only [Effect.done, List.nil_append]
  rw [smpRun_action]
  simp [smpAction, smpPairingCmpl, smpProcPairingCmpl]

end Inputs

section Keyboard

/-- A keyboard-only peripheral whose user grants the pairing; the application answers the IO
capabilities request with bonding and MITM protection and keeps the rest of what it is asked. -/
def keyboardPeripheral : SmpEnv where
  connRole := .peripheral
  sendOk := true
  localIoCapsBle := 2
  ioCapAnswer := fun asked => { asked with authReq := 0x05 }
  ioCapAnswerOk := true
  securityModeSc := false
  atvDevice := false
  encryptStarted := true
  pduStatusAlias := 0

/-- The pairing request of a display-only central: no OOB data, MITM protection without
bonding, keys of sixteen octets, nothing to distribute. -/
def displayOnlyPairingRequest : List UInt8 := [0x01, 0x00, 0x00, 0x04, 16, 0, 0]

/-- The peripheral after the pairing request, asking its user to grant the pairing. -/
def grantRequested : SmpCb :=
  { SmpCb.cleared with role := .peripheral, state := .waitAppRsp, pairingBda := 1,
                       encAfterPair := true, cbEvt := smpSecRequestEvt, peerAuthReq := 4,
                       peerEncSize := 16, rcvdCmdCode := smpOpcodePairingReq, rcvdCmdLen := 7 }

/-- The peripheral after the grant, asking its user for the passkey in legacy passkey entry. -/
def passkeyRequested : SmpCb :=
  { grantRequested with cbEvt := smpPasskeyReqEvt, locAuthReq := 5, localIoCapability := 2,
                        locEncSize := 16, selectedAssociationModel := .passkey,
                        secLevel := smpSecAuthenticated }

/-- What the peripheral reports up to the passkey request. -/
def passkeyRequestLog : List SmpOutput :=
  [.action .procPairCmd, .action .sendAppCback, .appCallback smpSecRequestEvt,
   .action .procSecGrant, .action .sendAppCback, .appCallback smpIoCapReqEvt,
   .action .procIoRsp, .send smpOpcodePairingRsp, .action .sendAppCback,
   .appCallback smpPasskeyReqEvt]

variable (crypto : LegacyCrypto) (others : OtherActions)

/-- The pairing request and the user's grant bring the peripheral to the passkey request.
Neither runs a cryptographic function or an untranslated action, so every step is the one of a
fixed choice of them, which evaluates. -/
theorem keyboardPeripheral_requests_passkey :
    smpProcessAll keyboardPeripheral crypto others 64 .initial
        [.dataReceived 1 displayOnlyPairingRequest, .securityGrant 1 smpSuccess] =
      ⟨passkeyRequested, [], passkeyRequestLog⟩ := by
  have request : smpProcess keyboardPeripheral crypto others 64 .initial
      (.dataReceived 1 displayOnlyPairingRequest) =
        ⟨grantRequested, [], passkeyRequestLog.take 3⟩ := by
    simp only [smpProcess, smpInputEffect]
    iterate 4
      rw [smpRun_succ_as _ _ _ ⟨fun tk _ => tk, fun tk _ _ => tk⟩ (fun _ cb _ => .done cb)]
      case busy => exact List.cons_ne_nil _ _
      case same => rfl
    rfl
  have grant : smpProcess keyboardPeripheral crypto others 64 ⟨grantRequested, [], passkeyRequestLog.take 3⟩
      (.securityGrant 1 smpSuccess) = ⟨passkeyRequested, [], passkeyRequestLog⟩ := by
    simp only [smpProcess, smpInputEffect]
    iterate 9
      rw [smpRun_succ_as _ _ _ ⟨fun tk _ => tk, fun tk _ _ => tk⟩ (fun _ cb _ => .done cb)]
      case busy => exact List.cons_ne_nil _ _
      case same => rfl
    rfl
  simp only [smpProcessAll, List.foldl, request, grant]

/-- The inputs of a peer that never learns the passkey: its pairing request and the user's
grant, then `c1(0, 0)` as its confirm and the zero random, then the controller's LTK request
and the encryption change of the link. -/
def zeroKeyPairing (crypto : LegacyCrypto) : List SmpInput :=
  [.dataReceived 1 displayOnlyPairingRequest, .securityGrant 1 smpSuccess,
   .dataReceived 1 (0x03 :: (crypto.c1 .zero .zero).bytes),
   .dataReceived 1 (0x04 :: Octet16.zero.bytes), .ltkRequest 1, .linkEncrypted 1 1]

theorem zeroKeyPairing_authenticates_without_passkey :
    (∀ input ∈ zeroKeyPairing crypto, ∀ bdAddr res passkey,
      input ≠ .passkeyReply bdAddr res passkey) ∧
    smpProcessAll keyboardPeripheral crypto others 64 .initial (zeroKeyPairing crypto) =
      ⟨.cleared, [], passkeyRequestLog ++
        [.action .procConfirm, .action .procRand, .action .generateCompare, .action .procCompare,
         .action .sendRand, .send smpOpcodeRand, .action .generateStk, .action .sendLtkReply,
         .ltkReply ((crypto.s1 .zero .zero .zero).mask 16), .action .checkAuthReq,
         .action .sendPairFail, .action .pairingCmpl,
         .pairingComplete smpSuccess smpSecAuthenticated]⟩ := by
  refine ⟨by simp [zeroKeyPairing], ?_⟩
  have requested := keyboardPeripheral_requests_passkey crypto others
  simp only [smpProcessAll, zeroKeyPairing, List.foldl] at requested ⊢
  rw [requested]
  -- the confirm arrives while the user has not answered, and the random right after it
  rw [smpProcess_confirm_while_waiting keyboardPeripheral crypto others passkeyRequested
    passkeyRequestLog 1 (crypto.c1 .zero .zero) 64 (by decide) rfl rfl rfl (by decide)]
  rw [smpProcess_rand_after_confirm keyboardPeripheral crypto others _ _ 1 Octet16.zero 64
    (by decide) rfl rfl rfl rfl rfl (by show (16 : UInt8) ≤ 16; decide)]
  -- the key the controller gets is the one of the zero temporary key
  rw [smpProcess_ltkRequest_pending keyboardPeripheral crypto others _ _ 1 64 (by decide) rfl rfl
    rfl rfl]
  rw [smpProcess_linkEncrypted_complete keyboardPeripheral crypto others _ _ 1 64 (by decide) rfl
    rfl rfl rfl ⟨rfl, rfl⟩]
  simp [passkeyRequested, grantRequested, SmpCb.cleared]

end Keyboard

end Bluetooth.Smp

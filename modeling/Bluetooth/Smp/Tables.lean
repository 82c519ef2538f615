import Mathlib

set_option linter.all false

/-!
# The state tables of the LE Security Manager

`smp_sm_event` is table driven.  For the role of the control block, an entry map gives, for
each event and state, either `SMP_SM_IGNORE` or the one-based index of a row, in the state's own
table or, with the bit `SMP_ALL_TBL_MASK`, in `smp_all_table`.  A row names at most two actions,
run in order with the event's data, and the state the machine moves to before they run.

This file holds the enumerations and the tables of `smp_main.cc` as they stand there: the
events in the order of `tSMP_EVENT` (the opcode of a received PDU is its event), the states in
the order of their enumeration, the actions in the order of `smp_sm_action`.  `smpSmRow` is the
lookup `smp_sm_event` makes.  The tables are consistent: every entry that is not
`SMP_SM_IGNORE` names an existing row (`smpSmRow_isSome`), so the dispatcher never reads past
the end of a table.
-/

namespace Bluetooth.Smp

/-- `p_cb->role`: the HCI role of the link, or the value `L2CA_GetBleConnRole` returns for a
link it does not know, which `smp_sm_event` refuses. -/
inductive Role where
  | central
  | peripheral
  | unknown
  deriving DecidableEq, Repr

/-- The states of the LE pairing state machine. -/
inductive SmpState where
  | idle
  | waitAppRsp
  | secReqPending
  | pairReqRsp
  | waitConfirm
  | confirm
  | rand
  | publicKeyExch
  | secConnPhs1Start
  | waitCommitment
  | waitNonce
  | secConnPhs2Start
  | waitDhkCheck
  | dhkCheck
  | encryptionPending
  | bondPending
  | createLocalSecConnOobData
  deriving DecidableEq, Repr

/-- The events of the state machine, `tSMP_EVENT`, from 1 to `SMP_MAX_EVT`; the first fifteen
are the opcodes of the PDUs. -/
inductive SmpEvent where
  | pairReq
  | pairRsp
  | confirm
  | rand
  | pairFail
  | encInfo
  | centralId
  | idInfo
  | idAddr
  | signInfo
  | secReq
  | pairPublicKey
  | pairDhkeyChck
  | pairKeyprNotif
  | pairCommitm
  | keyReady
  | encrypted
  | l2cConn
  | l2cDisc
  | ioRsp
  | secGrant
  | tkReq
  | authCmpl
  | encReq
  | bondReq
  | discardSecReq
  | publKeyExchReq
  | locPublKeyCrtd
  | bothPublKeysRcvd
  | scDhkeyCmplt
  | haveLocNonce
  | scPhase1Cmplt
  | scCalcNc
  | scDsplNc
  | scNcOk
  | sc2DhckChksPres
  | scKeyReady
  | keyprNotif
  | scOobData
  | crLocScOobData
  deriving DecidableEq, Repr

/-- The event a received PDU raises, `static_cast<tSMP_EVENT>(cmd)`, for the opcodes from
`SMP_OPCODE_PAIRING_REQ` to `SMP_OPCODE_PAIR_COMMITM`. -/
def SmpEvent.ofOpcode : Nat → Option SmpEvent
  | 0x01 => some .pairReq
  | 0x02 => some .pairRsp
  | 0x03 => some .confirm
  | 0x04 => some .rand
  | 0x05 => some .pairFail
  | 0x06 => some .encInfo
  | 0x07 => some .centralId
  | 0x08 => some .idInfo
  | 0x09 => some .idAddr
  | 0x0A => some .signInfo
  | 0x0B => some .secReq
  | 0x0C => some .pairPublicKey
  | 0x0D => some .pairDhkeyChck
  | 0x0E => some .pairKeyprNotif
  | 0x0F => some .pairCommitm
  | _ => none

/-- The action functions of `smp_sm_action`, in its order. -/
inductive SmpAction where
  | procSecReq
  | sendPairReq
  | sendPairRsp
  | sendConfirm
  | sendPairFail
  | sendRand
  | sendEncInfo
  | sendIdInfo
  | sendLtkReply
  | procPairCmd
  | procPairFail
  | procConfirm
  | procRand
  | procEncInfo
  | procCentralId
  | procIdInfo
  | procIdAddr
  | procSrkInfo
  | procSecGrant
  | procSlKey
  | procCompare
  | procIoRsp
  | generateCompare
  | generateConfirm
  | generateStk
  | keyDistribute
  | startEnc
  | pairingCmpl
  | decideAssoModel
  | sendAppCback
  | checkAuthReq
  | pairTerminate
  | encCmpl
  | procDiscard
  | createPrivateKey
  | useOobPrivateKey
  | sendPairPublicKey
  | processPairPublicKey
  | haveBothPublicKeys
  | startSecConnPhase1
  | processLocalNonce
  | sendCommitment
  | processPairingCommitment
  | processPeerNonce
  | calculateLocalDhkeyCheck
  | sendDhkeyCheck
  | processDhkeyCheck
  | calculatePeerDhkeyCheck
  | matchDhkeyChecks
  | calculateNumericComparisonDisplayNumber
  | moveToSecConnPhase2
  | ph2DhkeyChecksArePresent
  | waitForBothPublicKeys
  | startPasskeyVerification
  | sendKeypressNotification
  | processKeypressNotification
  | processSecureConnectionOobData
  | setLocalOobKeys
  | setLocalOobRandCommitment
  | idleTerminate
  deriving DecidableEq, Repr

/-- A row of a state table: its actions up to the first `SMP_SM_NO_ACTION`, and the next
state. -/
structure SmpRow where
  actions : List SmpAction
  next : SmpState
  deriving DecidableEq, Repr

/-- `smp_all_table`: the rows for the events every state but idle handles alike. -/
def smpAllTable : List SmpRow :=
  [ -- PAIR_FAIL
    ⟨[.procPairFail, .pairingCmpl], .idle⟩,
    -- AUTH_CMPL
    ⟨[.sendPairFail, .pairingCmpl], .idle⟩,
    -- L2C_DISC
    ⟨[.pairTerminate], .idle⟩ ]

/-- `smp_central_entry_map`: a row per event, a column per state. -/
def smpCentralEntryMap : List (List Nat) :=
  [ -- PAIR_REQ
    [0, 0, 0, 0, 0, 0, 0, 0, 0, 0, 0, 0, 0, 0, 0, 0, 0],
    -- PAIR_RSP
    [0, 0, 0, 1, 0, 0, 0, 0, 0, 0, 0, 0, 0, 0, 0, 0, 0],
    -- CONFIRM
    [0, 0, 0, 0, 0, 1, 0, 0, 0, 0, 0, 0, 0, 0, 0, 0, 0],
    -- RAND
    [0, 0, 0, 0, 0, 0, 1, 0, 0, 0, 1, 0, 0, 0, 0, 0, 0],
    -- PAIR_FAIL
    [0, 0x81, 0, 0x81, 0x81, 0x81, 0x81, 0x81, 0x81, 0x81, 0x81, 0x81, 0x81,
     0x81, 0, 0x81, 0],
    -- ENC_INFO
    [0, 0, 0, 0, 0, 0, 0, 0, 0, 0, 0, 0, 0, 0, 0, 1, 0],
    -- CENTRAL_ID
    [0, 0, 0, 0, 0, 0, 0, 0, 0, 0, 0, 0, 0, 0, 0, 4, 0],
    -- ID_INFO
    [0, 0, 0, 0, 0, 0, 0, 0, 0, 0, 0, 0, 0, 0, 0, 2, 0],
    -- ID_ADDR
    [0, 0, 0, 0, 0, 0, 0, 0, 0, 0, 0, 0, 0, 0, 0, 5, 0],
    -- SIGN_INFO
    [0, 0, 0, 0, 0, 0, 0, 0, 0, 0, 0, 0, 0, 0, 0, 3, 0],
    -- SEC_REQ
    [2, 0, 0, 0, 0, 0, 0, 0, 0, 0, 0, 0, 0, 0, 0, 0, 0],
    -- PAIR_PUBLIC_KEY
    [0, 0, 0, 0, 0, 0, 0, 2, 0, 0, 0, 0, 0, 0, 0, 0, 0],
    -- PAIR_DHKEY_CHCK
    [0, 0, 0, 0, 0, 0, 0, 0, 0, 0, 0, 0, 1, 0, 0, 0, 0],
    -- PAIR_KEYPR_NOTIF
    [0, 8, 0, 0, 0, 0, 0, 0, 5, 2, 0, 0, 0, 0, 0, 0, 0],
    -- PAIR_COMMITM
    [0, 0, 0, 0, 0, 0, 0, 0, 6, 1, 0, 0, 0, 0, 0, 0, 0],
    -- KEY_READY
    [0, 3, 0, 3, 1, 0, 2, 0, 4, 0, 0, 0, 0, 0, 1, 6, 0],
    -- ENC_CMPL
    [0, 0, 0, 0, 0, 0, 0, 0, 0, 0, 0, 0, 0, 0, 2, 0, 0],
    -- L2C_CONN
    [1, 0, 0, 0, 0, 0, 0, 0, 0, 0, 0, 0, 0, 0, 0, 0, 0],
    -- L2C_DISC
    [3, 0x83, 0, 0x83, 0x83, 0x83, 0x83, 0x83, 0x83, 0x83, 0x83, 0x83, 0x83,
     0x83, 0x83, 0x83, 0],
    -- IO_RSP
    [0, 2, 0, 0, 0, 0, 0, 0, 0, 0, 0, 0, 0, 0, 0, 0, 0],
    -- SEC_GRANT
    [0, 1, 0, 0, 0, 0, 0, 0, 0, 0, 0, 0, 0, 0, 0, 0, 0],
    -- TK_REQ
    [0, 0, 0, 2, 0, 0, 0, 0, 3, 0, 0, 0, 0, 0, 0, 0, 0],
    -- AUTH_CMPL
    [4, 0x82, 0, 0x82, 0x82, 0x82, 0x82, 0x82, 0x82, 0x82, 0x82, 0x82, 0x82,
     0x82, 0x82, 0x82, 0],
    -- ENC_REQ
    [0, 4, 0, 0, 0, 0, 3, 0, 0, 0, 0, 0, 0, 2, 0, 0, 0],
    -- BOND_REQ
    [0, 0, 0, 0, 0, 0, 0, 0, 0, 0, 0, 0, 0, 0, 3, 0, 0],
    -- DISCARD_SEC_REQ
    [0, 5, 0, 0, 0, 0, 0, 0, 0, 0, 0, 0, 0, 0, 3, 0, 0],
    -- PUBL_KEY_EXCH_REQ
    [0, 0, 0, 4, 0, 0, 0, 0, 0, 0, 0, 0, 0, 0, 0, 0, 0],
    -- LOC_PUBL_KEY_CRTD
    [0, 0, 0, 0, 0, 0, 0, 1, 0, 0, 0, 0, 0, 0, 0, 0, 1],
    -- BOTH_PUBL_KEYS_RCVD
    [0, 0, 0, 0, 0, 0, 0, 3, 0, 0, 0, 0, 0, 0, 0, 0, 0],
    -- SC_DHKEY_CMPLT
    [0, 0, 0, 0, 0, 0, 0, 0, 1, 0, 0, 0, 0, 0, 0, 0, 0],
    -- HAVE_LOC_NONCE
    [0, 0, 0, 0, 0, 0, 0, 0, 2, 0, 0, 0, 0, 0, 0, 0, 2],
    -- SC_PHASE1_CMPLT
    [0, 0, 0, 0, 0, 0, 0, 0, 0, 0, 0, 1, 0, 0, 0, 0, 0],
    -- SC_CALC_NC
    [0, 0, 0, 0, 0, 0, 0, 0, 0, 0, 2, 0, 0, 0, 0, 0, 0],
    -- SC_DSPL_NC
    [0, 0, 0, 0, 0, 0, 0, 0, 0, 0, 3, 0, 0, 0, 0, 0, 0],
    -- SC_NC_OK
    [0, 6, 0, 0, 0, 0, 0, 0, 0, 0, 0, 0, 0, 0, 0, 0, 0],
    -- SC_2_DHCK_CHKS_PRES
    [0, 0, 0, 0, 0, 0, 0, 0, 0, 0, 0, 0, 0, 0, 0, 0, 0],
    -- SC_KEY_READY
    [0, 7, 0, 0, 0, 0, 0, 0, 0, 0, 0, 0, 0, 1, 0, 0, 0],
    -- KEYPR_NOTIF
    [0, 9, 0, 0, 0, 0, 0, 0, 0, 0, 0, 0, 0, 0, 0, 0, 0],
    -- SC_OOB_DATA
    [0, 10, 0, 0, 0, 0, 0, 0, 0, 0, 0, 0, 0, 0, 0, 0, 0],
    -- CR_LOC_SC_OOB_DATA
    [5, 0, 0, 0, 0, 0, 0, 0, 0, 0, 0, 0, 0, 0, 0, 0, 0] ]

/-- `smp_peripheral_entry_map`: a row per event, a column per state. -/
def smpPeripheralEntryMap : List (List Nat) :=
  [ -- PAIR_REQ
    [2, 0, 1, 0, 0, 0, 0, 0, 0, 0, 0, 0, 0, 0, 0, 0, 0],
    -- PAIR_RSP
    [0, 0, 0, 0, 0, 0, 0, 0, 0, 0, 0, 0, 0, 0, 0, 0, 0],
    -- CONFIRM
    [0, 4, 0, 1, 1, 0, 0, 0, 0, 0, 0, 0, 0, 0, 0, 0, 0],
    -- RAND
    [0, 0, 0, 0, 0, 1, 2, 0, 0, 0, 1, 0, 0, 0, 0, 0, 0],
    -- PAIR_FAIL
    [0, 0x81, 0x81, 0x81, 0x81, 0x81, 0x81, 0x81, 0x81, 0x81, 0x81, 0x81, 0x81,
     0x81, 0x81, 0, 0],
    -- ENC_INFO
    [0, 0, 0, 0, 0, 0, 0, 0, 0, 0, 0, 0, 0, 0, 0, 3, 0],
    -- CENTRAL_ID
    [0, 0, 0, 0, 0, 0, 0, 0, 0, 0, 0, 0, 0, 0, 0, 5, 0],
    -- ID_INFO
    [0, 0, 0, 0, 0, 0, 0, 0, 0, 0, 0, 0, 0, 0, 0, 4, 0],
    -- ID_ADDR
    [0, 0, 0, 0, 0, 0, 0, 0, 0, 0, 0, 0, 0, 0, 0, 6, 0],
    -- SIGN_INFO
    [0, 0, 0, 0, 0, 0, 0, 0, 0, 0, 0, 0, 0, 0, 0, 2, 0],
    -- SEC_REQ
    [0, 0, 0, 0, 0, 0, 0, 0, 0, 0, 0, 0, 0, 0, 0, 0, 0],
    -- PAIR_PUBLIC_KEY
    [0, 0, 0, 5, 0, 0, 0, 2, 0, 0, 0, 0, 0, 0, 0, 0, 0],
    -- PAIR_DHKEY_CHCK
    [0, 5, 0, 0, 0, 0, 0, 0, 0, 0, 0, 2, 1, 2, 0, 0, 0],
    -- PAIR_KEYPR_NOTIF
    [0, 9, 0, 0, 0, 0, 0, 0, 5, 2, 0, 0, 0, 0, 0, 0, 0],
    -- PAIR_COMMITM
    [0, 8, 0, 0, 0, 0, 0, 0, 6, 1, 0, 0, 0, 0, 0, 0, 0],
    -- KEY_READY
    [0, 3, 0, 3, 2, 2, 1, 0, 4, 0, 0, 0, 0, 0, 2, 1, 0],
    -- ENC_CMPL
    [0, 0, 2, 0, 0, 0, 0, 0, 0, 0, 0, 0, 0, 0, 3, 0, 0],
    -- L2C_CONN
    [1, 0, 0, 0, 0, 0, 0, 0, 0, 0, 0, 0, 0, 0, 0, 0, 0],
    -- L2C_DISC
    [0, 0x83, 0x83, 0x83, 0x83, 0x83, 0x83, 0x83, 0x83, 0x83, 0x83, 0x83, 0x83,
     0x83, 0x83, 0x83, 0],
    -- IO_RSP
    [0, 1, 0, 0, 0, 0, 0, 0, 0, 0, 0, 0, 0, 0, 0, 0, 0],
    -- SEC_GRANT
    [0, 2, 0, 0, 0, 0, 0, 0, 0, 0, 0, 0, 0, 0, 0, 0, 0],
    -- TK_REQ
    [0, 0, 0, 2, 0, 0, 0, 0, 3, 0, 0, 0, 0, 0, 0, 0, 0],
    -- AUTH_CMPL
    [0, 0x82, 0x82, 0x82, 0x82, 0x82, 0x82, 0x82, 0x82, 0x82, 0x82, 0x82, 0x82,
     0x82, 0x82, 0x82, 0],
    -- ENC_REQ
    [0, 0, 0, 0, 0, 0, 0, 0, 0, 0, 0, 0, 0, 0, 1, 0, 0],
    -- BOND_REQ
    [0, 0, 0, 0, 0, 0, 0, 0, 0, 0, 0, 0, 0, 0, 4, 0, 0],
    -- DISCARD_SEC_REQ
    [0, 0, 0, 0, 0, 0, 0, 0, 0, 0, 0, 0, 0, 0, 0, 0, 0],
    -- PUBL_KEY_EXCH_REQ
    [0, 0, 0, 4, 0, 0, 0, 0, 0, 0, 0, 0, 0, 0, 0, 0, 0],
    -- LOC_PUBL_KEY_CRTD
    [0, 0, 0, 0, 0, 0, 0, 1, 0, 0, 0, 0, 0, 0, 0, 0, 1],
    -- BOTH_PUBL_KEYS_RCVD
    [0, 0, 0, 0, 0, 0, 0, 3, 0, 0, 0, 0, 0, 0, 0, 0, 0],
    -- SC_DHKEY_CMPLT
    [0, 0, 0, 0, 0, 0, 0, 0, 1, 0, 0, 0, 0, 0, 0, 0, 0],
    -- HAVE_LOC_NONCE
    [0, 0, 0, 0, 0, 0, 0, 0, 2, 0, 0, 0, 0, 0, 0, 0, 2],
    -- SC_PHASE1_CMPLT
    [0, 0, 0, 0, 0, 0, 0, 0, 0, 0, 0, 1, 0, 0, 0, 0, 0],
    -- SC_CALC_NC
    [0, 0, 0, 0, 0, 0, 0, 0, 0, 0, 2, 0, 0, 0, 0, 0, 0],
    -- SC_DSPL_NC
    [0, 0, 0, 0, 0, 0, 0, 0, 0, 0, 3, 0, 0, 0, 0, 0, 0],
    -- SC_NC_OK
    [0, 6, 0, 0, 0, 0, 0, 0, 0, 0, 0, 0, 0, 0, 0, 0, 0],
    -- SC_2_DHCK_CHKS_PRES
    [0, 0, 0, 0, 0, 0, 0, 0, 0, 0, 0, 0, 2, 0, 0, 0, 0],
    -- SC_KEY_READY
    [0, 7, 0, 0, 0, 0, 0, 0, 0, 0, 0, 0, 0, 1, 0, 0, 0],
    -- KEYPR_NOTIF
    [0, 10, 0, 0, 0, 0, 0, 0, 0, 0, 0, 0, 0, 0, 0, 0, 0],
    -- SC_OOB_DATA
    [0, 11, 0, 0, 0, 0, 0, 0, 0, 0, 0, 0, 0, 0, 0, 0, 0],
    -- CR_LOC_SC_OOB_DATA
    [3, 0, 0, 0, 0, 0, 0, 0, 0, 0, 0, 0, 0, 0, 0, 0, 0] ]

section CentralTables

/-- `smp_central_idle_table`. -/
def smpCentralIdleTable : List SmpRow :=
  [ ⟨[.sendAppCback], .waitAppRsp⟩,          -- L2C_CONN
    ⟨[.procSecReq, .sendAppCback], .waitAppRsp⟩, -- SEC_REQ
    ⟨[.idleTerminate], .idle⟩,               -- L2C_DISC
    ⟨[.pairingCmpl], .idle⟩,                 -- AUTH_CMPL
    ⟨[.createPrivateKey], .createLocalSecConnOobData⟩ ] -- CR_LOC_SC_OOB_DATA

/-- `smp_central_wait_for_app_response_table`. -/
def smpCentralWaitForAppResponseTable : List SmpRow :=
  [ ⟨[.procSecGrant, .sendAppCback], .waitAppRsp⟩,         -- SEC_GRANT
    ⟨[.sendPairReq], .pairReqRsp⟩,                        -- IO_RSP
    ⟨[.generateConfirm], .waitConfirm⟩,                   -- KEY_READY
    ⟨[.startEnc], .encryptionPending⟩,                    -- ENC_REQ
    ⟨[.procDiscard], .idle⟩,                              -- DISCARD_SEC_REQ
    ⟨[.moveToSecConnPhase2], .secConnPhs2Start⟩,          -- SC_NC_OK
    ⟨[.startPasskeyVerification], .secConnPhs1Start⟩,     -- SC_KEY_READY
    ⟨[.processKeypressNotification, .sendAppCback], .waitAppRsp⟩, -- PAIR_KEYPR_NOTIF
    ⟨[.sendKeypressNotification], .waitAppRsp⟩,           -- KEYPR_NOTIF
    ⟨[.useOobPrivateKey], .publicKeyExch⟩ ]               -- SC_OOB_DATA

/-- `smp_central_pair_request_response_table`. -/
def smpCentralPairRequestResponseTable : List SmpRow :=
  [ ⟨[.procPairCmd], .pairReqRsp⟩,          -- PAIR_RSP
    ⟨[.sendAppCback], .waitAppRsp⟩,         -- TK_REQ
    ⟨[.generateConfirm], .waitConfirm⟩,     -- KEY_READY
    ⟨[.createPrivateKey], .publicKeyExch⟩ ] -- PUBL_KEY_EXCH_REQ

/-- `smp_central_wait_for_confirm_table`. -/
def smpCentralWaitForConfirmTable : List SmpRow :=
  [ ⟨[.sendConfirm], .confirm⟩ ] -- KEY_READY

/-- `smp_central_confirm_table`. -/
def smpCentralConfirmTable : List SmpRow :=
  [ ⟨[.procConfirm, .sendRand], .rand⟩ ] -- CONFIRM

/-- `smp_central_rand_table`. -/
def smpCentralRandTable : List SmpRow :=
  [ ⟨[.procRand, .generateCompare], .rand⟩, -- RAND
    ⟨[.procCompare], .rand⟩,                -- KEY_READY
    ⟨[.generateStk], .encryptionPending⟩ ]  -- ENC_REQ

/-- `smp_central_public_key_exchange_table`. -/
def smpCentralPublicKeyExchangeTable : List SmpRow :=
  [ ⟨[.sendPairPublicKey], .publicKeyExch⟩,    -- LOC_PUBL_KEY_CRTD
    ⟨[.processPairPublicKey], .publicKeyExch⟩, -- PAIR_PUBLIC_KEY
    ⟨[.haveBothPublicKeys], .secConnPhs1Start⟩ ] -- BOTH_PUBL_KEYS_RCVD

/-- `smp_central_sec_conn_phs1_start_table`. -/
def smpCentralSecConnPhs1StartTable : List SmpRow :=
  [ ⟨[.startSecConnPhase1], .secConnPhs1Start⟩,         -- SC_DHKEY_CMPLT
    ⟨[.processLocalNonce], .waitCommitment⟩,             -- HAVE_LOC_NONCE
    ⟨[.sendAppCback], .waitAppRsp⟩,                      -- TK_REQ
    ⟨[.startPasskeyVerification], .secConnPhs1Start⟩,    -- KEY_READY
    ⟨[.processKeypressNotification, .sendAppCback], .secConnPhs1Start⟩, -- PAIR_KEYPR_NOTIF
    ⟨[.processPairingCommitment], .secConnPhs1Start⟩ ]   -- PAIR_COMMITM

/-- `smp_central_wait_commitment_table`. -/
def smpCentralWaitCommitmentTable : List SmpRow :=
  [ ⟨[.processPairingCommitment, .sendRand], .waitNonce⟩,            -- PAIR_COMMITM
    ⟨[.processKeypressNotification, .sendAppCback], .waitCommitment⟩ ] -- PAIR_KEYPR_NOTIF

/-- `smp_central_wait_nonce_table`. -/
def smpCentralWaitNonceTable : List SmpRow :=
  [ ⟨[.procRand, .processPeerNonce], .secConnPhs2Start⟩,       -- RAND
    ⟨[.calculateNumericComparisonDisplayNumber], .waitNonce⟩, -- SC_CALC_NC
    ⟨[.sendAppCback], .waitAppRsp⟩ ]                           -- SC_DSPL_NC

/-- `smp_central_sec_conn_phs2_start_table`. -/
def smpCentralSecConnPhs2StartTable : List SmpRow :=
  [ ⟨[.calculateLocalDhkeyCheck, .sendDhkeyCheck], .waitDhkCheck⟩ ] -- SC_PHASE1_CMPLT

/-- `smp_central_wait_dhk_check_table`. -/
def smpCentralWaitDhkCheckTable : List SmpRow :=
  [ ⟨[.processDhkeyCheck, .calculatePeerDhkeyCheck], .dhkCheck⟩ ] -- PAIR_DHKEY_CHCK

/-- `smp_central_dhk_check_table`. -/
def smpCentralDhkCheckTable : List SmpRow :=
  [ ⟨[.matchDhkeyChecks], .dhkCheck⟩,      -- SC_KEY_READY
    ⟨[.generateStk], .encryptionPending⟩ ] -- ENC_REQ

/-- `smp_central_enc_pending_table`. -/
def smpCentralEncPendingTable : List SmpRow :=
  [ ⟨[.startEnc], .encryptionPending⟩,     -- KEY_READY
    ⟨[.checkAuthReq], .encryptionPending⟩, -- ENCRYPTED
    ⟨[.keyDistribute], .bondPending⟩ ]     -- BOND_REQ

/-- `smp_central_bond_pending_table`. -/
def smpCentralBondPendingTable : List SmpRow :=
  [ ⟨[.procEncInfo], .bondPending⟩,   -- ENC_INFO
    ⟨[.procIdInfo], .bondPending⟩,    -- ID_INFO
    ⟨[.procSrkInfo], .bondPending⟩,   -- SIGN_INFO
    ⟨[.procCentralId], .bondPending⟩, -- CENTRAL_ID
    ⟨[.procIdAddr], .bondPending⟩,    -- ID_ADDR
    ⟨[.sendEncInfo], .bondPending⟩ ]  -- KEY_READY

/-- `smp_central_create_local_sec_conn_oob_data`. -/
def smpCentralCreateLocalSecConnOobData : List SmpRow :=
  [ ⟨[.setLocalOobKeys], .createLocalSecConnOobData⟩, -- LOC_PUBL_KEY_CRTD
    ⟨[.setLocalOobRandCommitment], .idle⟩ ]           -- HAVE_LOC_NONCE

end CentralTables

section PeripheralTables

/-- `smp_peripheral_idle_table`. -/
def smpPeripheralIdleTable : List SmpRow :=
  [ ⟨[.sendAppCback], .waitAppRsp⟩,                   -- L2C_CONN
    ⟨[.procPairCmd, .sendAppCback], .waitAppRsp⟩,     -- PAIR_REQ
    ⟨[.createPrivateKey], .createLocalSecConnOobData⟩ ] -- CR_LOC_SC_OOB_DATA

/-- `smp_peripheral_wait_for_app_response_table`. -/
def smpPeripheralWaitForAppResponseTable : List SmpRow :=
  [ ⟨[.procIoRsp], .pairReqRsp⟩,                          -- IO_RSP
    ⟨[.procSecGrant, .sendAppCback], .waitAppRsp⟩,        -- SEC_GRANT
    ⟨[.procSlKey], .waitAppRsp⟩,                          -- KEY_READY
    ⟨[.procConfirm], .confirm⟩,                           -- CONFIRM
    ⟨[.processDhkeyCheck], .waitAppRsp⟩,                  -- PAIR_DHKEY_CHCK
    ⟨[.moveToSecConnPhase2], .secConnPhs2Start⟩,          -- SC_NC_OK
    ⟨[.startPasskeyVerification], .secConnPhs1Start⟩,     -- SC_KEY_READY
    ⟨[.processPairingCommitment], .waitAppRsp⟩,           -- PAIR_COMMITM
    ⟨[.processKeypressNotification, .sendAppCback], .waitAppRsp⟩, -- PAIR_KEYPR_NOTIF
    ⟨[.sendKeypressNotification], .waitAppRsp⟩,           -- KEYPR_NOTIF
    ⟨[.sendPairRsp], .pairReqRsp⟩ ]                       -- SC_OOB_DATA

/-- `smp_peripheral_sec_request_table`. -/
def smpPeripheralSecRequestTable : List SmpRow :=
  [ ⟨[.procPairCmd], .pairReqRsp⟩, -- PAIR_REQ
    ⟨[.encCmpl], .pairReqRsp⟩ ]    -- ENCRYPTED

/-- `smp_peripheral_pair_request_response_table`. -/
def smpPeripheralPairRequestResponseTable : List SmpRow :=
  [ ⟨[.procConfirm], .confirm⟩,               -- CONFIRM
    ⟨[.sendAppCback], .waitAppRsp⟩,           -- TK_REQ
    ⟨[.procSlKey], .pairReqRsp⟩,              -- KEY_READY
    ⟨[.createPrivateKey], .publicKeyExch⟩,    -- PUBL_KEY_EXCH_REQ
    ⟨[.processPairPublicKey], .pairReqRsp⟩ ]  -- PAIR_PUBLIC_KEY

/-- `smp_peripheral_wait_confirm_table`. -/
def smpPeripheralWaitConfirmTable : List SmpRow :=
  [ ⟨[.procConfirm, .sendConfirm], .confirm⟩, -- CONFIRM
    ⟨[.procSlKey], .waitConfirm⟩ ]            -- KEY_READY

/-- `smp_peripheral_confirm_table`. -/
def smpPeripheralConfirmTable : List SmpRow :=
  [ ⟨[.procRand, .generateCompare], .rand⟩, -- RAND
    ⟨[.procSlKey], .confirm⟩ ]              -- KEY_READY

/-- `smp_peripheral_rand_table`. -/
def smpPeripheralRandTable : List SmpRow :=
  [ ⟨[.procCompare], .rand⟩,             -- KEY_READY
    ⟨[.sendRand], .encryptionPending⟩ ]  -- RAND

/-- `smp_peripheral_public_key_exch_table`. -/
def smpPeripheralPublicKeyExchTable : List SmpRow :=
  [ ⟨[.waitForBothPublicKeys], .publicKeyExch⟩, -- LOC_PUBL_KEY_CRTD
    ⟨[.processPairPublicKey], .publicKeyExch⟩,  -- PAIR_PUBLIC_KEY
    ⟨[.haveBothPublicKeys], .secConnPhs1Start⟩ ] -- BOTH_PUBL_KEYS_RCVD

/-- `smp_peripheral_sec_conn_phs1_start_table`. -/
def smpPeripheralSecConnPhs1StartTable : List SmpRow :=
  [ ⟨[.startSecConnPhase1], .secConnPhs1Start⟩,      -- SC_DHKEY_CMPLT
    ⟨[.processLocalNonce], .waitCommitment⟩,          -- HAVE_LOC_NONCE
    ⟨[.sendAppCback], .waitAppRsp⟩,                   -- TK_REQ
    ⟨[.startPasskeyVerification], .secConnPhs1Start⟩, -- KEY_READY
    ⟨[.processKeypressNotification, .sendAppCback], .secConnPhs1Start⟩, -- PAIR_KEYPR_NOTIF
    ⟨[.processPairingCommitment], .secConnPhs1Start⟩ ] -- PAIR_COMMITM

/-- `smp_peripheral_wait_commitment_table`. -/
def smpPeripheralWaitCommitmentTable : List SmpRow :=
  [ ⟨[.processPairingCommitment, .sendCommitment], .waitNonce⟩,         -- PAIR_COMMITM
    ⟨[.processKeypressNotification, .sendAppCback], .waitCommitment⟩ ]  -- PAIR_KEYPR_NOTIF

/-- `smp_peripheral_wait_nonce_table`. -/
def smpPeripheralWaitNonceTable : List SmpRow :=
  [ ⟨[.procRand, .processPeerNonce], .secConnPhs2Start⟩,       -- RAND
    ⟨[.calculateNumericComparisonDisplayNumber], .waitNonce⟩, -- SC_CALC_NC
    ⟨[.sendAppCback], .waitAppRsp⟩ ]                           -- SC_DSPL_NC

/-- `smp_peripheral_sec_conn_phs2_start_table`. -/
def smpPeripheralSecConnPhs2StartTable : List SmpRow :=
  [ ⟨[.calculateLocalDhkeyCheck, .ph2DhkeyChecksArePresent], .waitDhkCheck⟩, -- SC_PHASE1_CMPLT
    ⟨[.processDhkeyCheck], .secConnPhs2Start⟩ ]                             -- PAIR_DHKEY_CHCK

/-- `smp_peripheral_wait_dhk_check_table`. -/
def smpPeripheralWaitDhkCheckTable : List SmpRow :=
  [ ⟨[.processDhkeyCheck, .calculatePeerDhkeyCheck], .dhkCheck⟩, -- PAIR_DHKEY_CHCK
    ⟨[.calculatePeerDhkeyCheck], .dhkCheck⟩ ]                    -- SC_2_DHCK_CHKS_PRES

/-- `smp_peripheral_dhk_check_table`. -/
def smpPeripheralDhkCheckTable : List SmpRow :=
  [ ⟨[.matchDhkeyChecks], .dhkCheck⟩,         -- SC_KEY_READY
    ⟨[.sendDhkeyCheck], .encryptionPending⟩ ] -- PAIR_DHKEY_CHCK

/-- `smp_peripheral_enc_pending_table`. -/
def smpPeripheralEncPendingTable : List SmpRow :=
  [ ⟨[.generateStk], .encryptionPending⟩,  -- ENC_REQ
    ⟨[.sendLtkReply], .encryptionPending⟩, -- KEY_READY
    ⟨[.checkAuthReq], .encryptionPending⟩, -- ENCRYPTED
    ⟨[.keyDistribute], .bondPending⟩ ]     -- BOND_REQ

/-- `smp_peripheral_bond_pending_table`. -/
def smpPeripheralBondPendingTable : List SmpRow :=
  [ ⟨[.sendEncInfo], .bondPending⟩,   -- KEY_READY
    ⟨[.procSrkInfo], .bondPending⟩,   -- SIGN_INFO
    ⟨[.procEncInfo], .bondPending⟩,   -- ENC_INFO
    ⟨[.procIdInfo], .bondPending⟩,    -- ID_INFO
    ⟨[.procCentralId], .bondPending⟩, -- CENTRAL_ID
    ⟨[.procIdAddr], .bondPending⟩ ]   -- ID_ADDR

/-- `smp_peripheral_create_local_sec_conn_oob_data`. -/
def smpPeripheralCreateLocalSecConnOobData : List SmpRow :=
  [ ⟨[.setLocalOobKeys], .createLocalSecConnOobData⟩, -- LOC_PUBL_KEY_CRTD
    ⟨[.setLocalOobRandCommitment], .idle⟩ ]           -- HAVE_LOC_NONCE

end PeripheralTables

/-- `smp_state_table[state][role]`; the central has no table in `SEC_REQ_PENDING`, whose column
of its entry map is empty. -/
def smpStateTable : SmpState → Role → List SmpRow
  | .idle, .central => smpCentralIdleTable
  | .idle, _ => smpPeripheralIdleTable
  | .waitAppRsp, .central => smpCentralWaitForAppResponseTable
  | .waitAppRsp, _ => smpPeripheralWaitForAppResponseTable
  | .secReqPending, .central => []
  | .secReqPending, _ => smpPeripheralSecRequestTable
  | .pairReqRsp, .central => smpCentralPairRequestResponseTable
  | .pairReqRsp, _ => smpPeripheralPairRequestResponseTable
  | .waitConfirm, .central => smpCentralWaitForConfirmTable
  | .waitConfirm, _ => smpPeripheralWaitConfirmTable
  | .confirm, .central => smpCentralConfirmTable
  | .confirm, _ => smpPeripheralConfirmTable
  | .rand, .central => smpCentralRandTable
  | .rand, _ => smpPeripheralRandTable
  | .publicKeyExch, .central => smpCentralPublicKeyExchangeTable
  | .publicKeyExch, _ => smpPeripheralPublicKeyExchTable
  | .secConnPhs1Start, .central => smpCentralSecConnPhs1StartTable
  | .secConnPhs1Start, _ => smpPeripheralSecConnPhs1StartTable
  | .waitCommitment, .central => smpCentralWaitCommitmentTable
  | .waitCommitment, _ => smpPeripheralWaitCommitmentTable
  | .waitNonce, .central => smpCentralWaitNonceTable
  | .waitNonce, _ => smpPeripheralWaitNonceTable
  | .secConnPhs2Start, .central => smpCentralSecConnPhs2StartTable
  | .secConnPhs2Start, _ => smpPeripheralSecConnPhs2StartTable
  | .waitDhkCheck, .central => smpCentralWaitDhkCheckTable
  | .waitDhkCheck, _ => smpPeripheralWaitDhkCheckTable
  | .dhkCheck, .central => smpCentralDhkCheckTable
  | .dhkCheck, _ => smpPeripheralDhkCheckTable
  | .encryptionPending, .central => smpCentralEncPendingTable
  | .encryptionPending, _ => smpPeripheralEncPendingTable
  | .bondPending, .central => smpCentralBondPendingTable
  | .bondPending, _ => smpPeripheralBondPendingTable
  | .createLocalSecConnOobData, .central => smpCentralCreateLocalSecConnOobData
  | .createLocalSecConnOobData, _ => smpPeripheralCreateLocalSecConnOobData

/-- `smp_entry_table[role]`. -/
def smpEntryTable : Role → List (List Nat)
  | .central => smpCentralEntryMap
  | _ => smpPeripheralEntryMap

/-- `SMP_ALL_TBL_MASK`. -/
def smpAllTblMask : Nat := 0x80

/-- The entry of the entry map for `event` in `state`: `entry_table[event - 1][curr_state]`. -/
def smpEntry (role : Role) (state : SmpState) (event : SmpEvent) : Nat :=
  ((smpEntryTable role).getD event.ctorIdx []).getD state.ctorIdx 0

/-- The row `smp_sm_event` runs for `event` in `state`, or `none` where the entry is
`SMP_SM_IGNORE`: an entry with `SMP_ALL_TBL_MASK` indexes `smp_all_table`, any other the state's
own table, both from one. -/
def smpSmRow (role : Role) (state : SmpState) (event : SmpEvent) : Option SmpRow :=
  let entry := smpEntry role state event
  if entry = 0 then none
  else if entry &&& smpAllTblMask ≠ 0 then smpAllTable[entry - smpAllTblMask - 1]?
  else (smpStateTable state role)[entry - 1]?

/-- Every entry of both entry maps that is not `SMP_SM_IGNORE` names a row of the table it
indexes. -/
theorem smpSmRow_isSome {role : Role} (known : role ≠ .unknown) (state : SmpState)
    (event : SmpEvent) (handled : smpEntry role state event ≠ 0) :
    (smpSmRow role state event).isSome := by
  cases role with
  | unknown => exact absurd rfl known
  | central =>
    cases state <;> cases event <;> first | exact absurd rfl handled | rfl
  | peripheral =>
    cases state <;> cases event <;> first | exact absurd rfl handled | rfl

/-- The only rows that run `SMP_GENERATE_STK` are those of `ENC_REQ` in the central's `RAND` and
`DHK_CHECK` states and in the peripheral's `ENCRYPTION_PENDING`. -/
theorem generateStk_rows {role : Role} {state : SmpState} {event : SmpEvent} {row : SmpRow}
    (found : smpSmRow role state event = some row) (runs : SmpAction.generateStk ∈ row.actions) :
    event = .encReq ∧
      (role = .central ∧ (state = .rand ∨ state = .dhkCheck) ∨
        role ≠ .central ∧ state = .encryptionPending) := by
  -- the statement about the row found is decided for each of the table's cells
  have decided : ∀ role state event,
      ((smpSmRow role state event).any fun row => row.actions.contains .generateStk) = true →
        event = .encReq ∧
          (role = .central ∧ (state = .rand ∨ state = .dhkCheck) ∨
            role ≠ .central ∧ state = .encryptionPending) := by
    intro role state event
    cases role <;> cases state <;> cases event <;> decide
  exact decided role state event (by simp [found, runs])

end Bluetooth.Smp

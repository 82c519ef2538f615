import Bluetooth.L2cap.ConfigReject

set_option linter.all false

/-!
# `process_l2cap_cmd` reads only the packet and its rejects are exact

Every read of the signalling handler goes through `ByteStream`, which fails with the offset
of a read outside the packet, and every loop of the handler is a recursion on the octets left.
So that the handler returns a list of actions on every packet says both that it never reads
outside the packet and that it terminates (`processL2capCmd_safe_and_rejects_exactly`).

The proof goes case by case: each case of a command reads its fields only after checking that
they end before the next command, and the two option loops read a value only after its
length is found to fit (`configReqOptions_ok`, `configRspOptions_ok`).  A case is `CaseSafe`
when it returns and every Configure Response it builds to reject options is exact; the command
loop keeps that of all the actions taken so far.
-/

namespace Bluetooth.L2cap

open ByteStream

section OptionLoops

variable {packet : List UInt8} {cmdLen pEnd : Nat}

theorem configReqOptions_ok (within : pEnd ≤ packet.length) {p : Nat} (info : CfgInfo)
    (rej : Bool) (rejLen : UInt16) :
    ∃ r, configReqOptions packet cmdLen pEnd p info rej rejLen = .ok r := by
  rw [configReqOptions]
  by_cases inside : p < pEnd
  case neg => exact ⟨_, by rw [dif_neg inside]; rfl⟩
  rw [dif_pos inside]
  by_cases overruns : p + 2 > pEnd
  case pos => exact ⟨_, by rw [if_pos overruns]; rfl⟩
  rw [if_neg overruns, u8_of_lt (by omega), u8_of_lt (by omega)]
  simp only [ok_bind]
  split
  case h_7 =>
    -- an option of a type the stack does not know is passed over unread
    split_ifs <;> first | exact ⟨_, rfl⟩ | exact configReqOptions_ok within _ _ _
  all_goals
    -- a known type: its value is read only after its exact length is found to fit
    split_ifs with wrongLength overrunsValue
    · exact ⟨_, rfl⟩
    · exact ⟨_, rfl⟩
    rw [not_not.mp wrongLength] at overrunsValue
    simp only [UInt8.reduceToNat, gt_iff_lt, Nat.not_lt] at overrunsValue
    refine exists_ok_bind ?_ fun _ => configReqOptions_ok within _ _ _
    first
      | exact ⟨_, u8_of_lt (by omega)⟩
      | exact ⟨_, u16_of_le (by omega)⟩
      | exact readQos_of_le (by omega)
      | exact readFcr_of_le (by omega)
      | exact readExtFlow_of_le (by omega)
termination_by pEnd - p

theorem configRspOptions_ok (within : pEnd ≤ packet.length) {p : Nat} (info : CfgInfo) :
    ∃ r, configRspOptions packet pEnd p info = .ok r := by
  rw [configRspOptions]
  by_cases inside : p < pEnd
  case neg => exact ⟨_, by rw [if_neg inside]; rfl⟩
  rw [if_pos inside]
  by_cases overruns : p + 2 > pEnd
  case pos => exact ⟨_, by rw [if_pos overruns]; rfl⟩
  rw [if_neg overruns, u8_of_lt (by omega)]
  simp only [ok_bind]
  split
  case h_7 => exact configRspOptions_ok within _
  all_goals
    -- a known type is read at its own size, after that size is found to fit
    split_ifs with overrunsValue
    · exact ⟨_, rfl⟩
    refine exists_ok_bind ?_ fun _ => configRspOptions_ok within _
    first
      | exact ⟨_, u8_of_lt (by omega)⟩
      | exact ⟨_, u16_of_le (by omega)⟩
      | exact readQos_of_le (by omega)
      | exact readFcr_of_le (by omega)
      | exact readExtFlow_of_le (by omega)
termination_by pEnd - p

end OptionLoops

/-- Every configuration reject among `actions` lists options of `packet` and is exact. -/
def RejectsExactly (packet : List UInt8) (actions : List SigAction) : Prop :=
  ∀ request reply, SigAction.configRej request reply ∈ actions →
    request <:+: packet ∧ ConfigRejExact request reply

/-- The actions a case takes. -/
def CaseOutcome.actions : CaseOutcome → List SigAction
  | .stop actions => actions
  | .next actions _ => actions

/-- A case of the command loop returns without reading outside the packet, and every reject
it builds is exact. -/
def CaseSafe (packet : List UInt8) (run : Except Nat CaseOutcome) : Prop :=
  ∃ outcome, run = .ok outcome ∧ RejectsExactly packet outcome.actions

section Cases

variable {packet : List UInt8}

@[simp] theorem rejectsExactly_nil : RejectsExactly packet [] := by
  simp [RejectsExactly]

@[simp] theorem rejectsExactly_cons {action : SigAction} {actions : List SigAction} :
    RejectsExactly packet (action :: actions) ↔
      (∀ request reply, action = .configRej request reply →
        request <:+: packet ∧ ConfigRejExact request reply) ∧ RejectsExactly packet actions := by
  simp only [RejectsExactly, List.mem_cons]
  grind

@[simp] theorem rejectsExactly_ite {condition : Prop} [Decidable condition]
    {actions other : List SigAction} :
    RejectsExactly packet (if condition then actions else other) ↔
      if condition then RejectsExactly packet actions else RejectsExactly packet other := by
  split <;> rfl

theorem rejectsExactly_append {actions more : List SigAction} :
    RejectsExactly packet (actions ++ more) ↔
      RejectsExactly packet actions ∧ RejectsExactly packet more := by
  simp only [RejectsExactly, List.mem_append]
  grind

@[simp] theorem caseSafe_ok {outcome : CaseOutcome} :
    CaseSafe packet (.ok outcome) ↔ RejectsExactly packet outcome.actions := by
  simp [CaseSafe]

@[simp] theorem caseSafe_pure {outcome : CaseOutcome} :
    CaseSafe packet (pure outcome) ↔ RejectsExactly packet outcome.actions :=
  caseSafe_ok

@[simp] theorem caseSafe_ite {condition : Prop} [Decidable condition]
    {run other : Except Nat CaseOutcome} :
    CaseSafe packet (if condition then run else other) ↔
      if condition then CaseSafe packet run else CaseSafe packet other := by
  split <;> rfl

/-- A case that runs a computation that succeeds, and is safe from every value it returns, is
safe. -/
theorem caseSafe_bind {α : Type} {x : Except Nat α} {f : α → Except Nat CaseOutcome}
    (first : ∃ a, x = .ok a) (rest : ∀ a, x = .ok a → CaseSafe packet (f a)) :
    CaseSafe packet (x >>= f) := by
  obtain ⟨a, read⟩ := first
  rw [read, ok_bind]
  exact rest a read

variable {view : LinkView} {id : UInt8} {cmdLen p pNextCmd : Nat} {info : CfgInfo}

theorem rejectCase_safe (within : pNextCmd ≤ packet.length) :
    CaseSafe packet (rejectCase view packet p pNextCmd info) := by
  unfold rejectCase
  by_cases short : p + 2 > pNextCmd
  case pos => simp [short, CaseOutcome.actions]
  rw [if_neg short, u16_of_le (by omega), ok_bind]
  dsimp only
  split_ifs
  all_goals simp (disch := omega) [u16_of_le, CaseOutcome.actions]
  -- `L2CAP_CMD_REJ_INVALID_CID` looks the channel up
  split <;> simp [CaseOutcome.actions]

theorem configRspCase_safe (within : pNextCmd ≤ packet.length) :
    CaseSafe packet (configRspCase view packet id p pNextCmd info) := by
  unfold configRspCase
  by_cases short : p + 6 > pNextCmd
  case pos => simp [short, CaseOutcome.actions]
  rw [if_neg short, u16_of_le (by omega), ok_bind, u16_of_le (by omega), ok_bind,
    u16_of_le (by omega), ok_bind]
  refine caseSafe_bind (configRspOptions_ok within _) fun parsed _ => ?_
  rcases parsed with _ | parsed <;> dsimp only
  · simp [CaseOutcome.actions]
  · split
    · split_ifs <;> simp [CaseOutcome.actions]
    · simp [CaseOutcome.actions]

theorem configReqCase_safe (within : pNextCmd ≤ packet.length) (command : p + cmdLen = pNextCmd)
    (small : cmdLen ≤ 660) :
    CaseSafe packet (configReqCase view packet id cmdLen p pNextCmd info) := by
  unfold configReqCase
  by_cases short : p + 4 > pNextCmd
  case pos => simp [short, CaseOutcome.actions]
  rw [if_neg short, u16_of_le (by omega), ok_bind, u16_of_le (by omega), ok_bind]
  refine caseSafe_bind (configReqOptions_ok within _ _ _) fun parsed accepted => ?_
  rcases parsed with _ | ⟨parsedInfo, rej, rejLen⟩ <;> dsimp only
  · simp [CaseOutcome.actions]
  split
  case h_2 => simp [CaseOutcome.actions]
  rename_i ccb _
  by_cases rejected : rej = true
  case neg => simp [rejected, CaseOutcome.actions]
  obtain ⟨reply, built, exact⟩ := l2cuSendPeerConfigRej_of_configReqOptions view id
    ccb.remoteCid (show p + 4 + (cmdLen - 4) = pNextCmd by omega) within (by omega) (by omega)
    accepted
  have request : (packet.drop (p + 4)).take (cmdLen - 4) = slice packet (p + 4) pNextCmd := by
    rw [slice, show pNextCmd - (p + 4) = cmdLen - 4 by omega]
  simp only [rejected, if_true]
  rw [built, ok_bind]
  simp only [caseSafe_pure, CaseOutcome.actions, rejectsExactly_cons, SigAction.configRej.injEq,
    rejectsExactly_nil, and_true, request]
  rintro _ _ ⟨rfl, rfl⟩
  exact ⟨slice_contiguous, exact⟩

theorem infoRspCase_safe (within : pNextCmd ≤ packet.length) :
    CaseSafe packet (infoRspCase packet p pNextCmd info) := by
  unfold infoRspCase
  by_cases short : p + 4 > pNextCmd
  case pos => simp [short, CaseOutcome.actions]
  rw [if_neg short, u16_of_le (by omega), ok_bind, u16_of_le (by omega), ok_bind]
  dsimp only
  -- the extended features are read after their four octets are checked, the fixed channel
  -- mask after its eight
  split_ifs <;> simp (disch := omega) [u32_of_le, octets_of_le, CaseOutcome.actions]

theorem processCommand_safe (view : LinkView) (cmdCode id : UInt8) (info : CfgInfo)
    (within : pNextCmd ≤ packet.length)
    (command : p + cmdLen = pNextCmd) (small : cmdLen ≤ 660) :
    CaseSafe packet (processCommand view packet cmdCode id cmdLen p pNextCmd info) := by
  unfold processCommand
  split
  case h_1 => exact rejectCase_safe within
  case h_4 => exact configReqCase_safe within command small
  case h_5 => exact configRspCase_safe within
  case h_10 => exact infoRspCase_safe within
  case h_11 => simp [CaseOutcome.actions]
  -- the other cases read fixed fields after checking that they fit, and the echo its data
  all_goals split_ifs <;> simp (disch := omega) [u16_of_le, octets_of_le, CaseOutcome.actions]
  -- what is left is the lookup of a registration or a channel
  all_goals split <;> simp [CaseOutcome.actions]

end Cases

theorem processL2capCmdLoop_safe (link : List SigAction → LinkView) (packet : List UInt8)
    (pktSizeRej : Bool) (pos : Nat) (info : CfgInfo) {done : List SigAction}
    (exact : RejectsExactly packet done) :
    ∃ actions, processL2capCmdLoop link packet pktSizeRej pos info done = .ok actions ∧
      RejectsExactly packet actions := by
  rw [processL2capCmdLoop]
  by_cases room : pos + 4 > packet.length
  case pos => exact ⟨done, by rw [dif_pos room]; rfl, exact⟩
  rw [dif_neg room, u8_of_lt (by omega), ok_bind, u8_of_lt (by omega), ok_bind,
    u16_of_le (by omega), ok_bind]
  dsimp only
  generalize packet[pos + 2].toUInt16 + packet[pos + 2 + 1].toUInt16 <<< 8 = cmdLen
  split_ifs with tooLong overruns sizeRejected rejected
  · exact ⟨_, rfl, rejectsExactly_append.mpr ⟨exact, by simp⟩⟩
  · exact ⟨_, rfl, exact⟩
  · exact ⟨_, rfl, rejectsExactly_append.mpr ⟨exact, by simp⟩⟩
  · exact processL2capCmdLoop_safe link packet pktSizeRej _ info exact
  · obtain ⟨outcome, run, exactOutcome⟩ := processCommand_safe (link done) packet[pos]
      packet[pos + 1] info (show pos + 4 + cmdLen.toNat ≤ packet.length by omega) rfl (by omega)
    rw [run, ok_bind]
    cases outcome with
    | stop actions => exact ⟨_, rfl, rejectsExactly_append.mpr ⟨exact, exactOutcome⟩⟩
    | next actions info =>
        exact processL2capCmdLoop_safe link packet pktSizeRej _ info
          (rejectsExactly_append.mpr ⟨exact, exactOutcome⟩)
termination_by packet.length - pos

theorem processL2capCmd_safe_and_rejects_exactly (link : List SigAction → LinkView)
    (packet : List UInt8) :
    ∃ actions, processL2capCmd link packet = .ok actions ∧
      ∀ request reply, SigAction.configRej request reply ∈ actions →
        request <:+: packet ∧ ConfigRejExact request reply := by
  unfold processL2capCmd
  split_ifs
  · exact ⟨[], rfl, rejectsExactly_nil⟩
  · exact processL2capCmdLoop_safe link packet _ 0 default rejectsExactly_nil

end Bluetooth.L2cap

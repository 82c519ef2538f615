import Bluetooth.Lib.Transition
import Bluetooth.L2cap.Ertm.Events

set_option linter.all false

/-!
# Transmitter bookkeeping of the enhanced retransmission mode

The transmitter keeps three views of the frames in flight: the count `unacked_frames_`, the
keys of `unacked_list_`, and the distance from `expected_ack_seq_` to `next_tx_seq_` modulo
64.  `process_req_seq` updates the count modulo 64, but erases the acknowledged keys with a
loop `for (int i = expected_ack_seq_; i < req_seq; i++)` that does not wrap.  An
acknowledgement whose `req_seq` has wrapped past 63 therefore takes the frames off the count
and leaves every one of them in `unacked_list_` (`processReqSeq_of_wrap`).

The first time the sequence numbers wrap, a run of one-byte SDUs acknowledged in windows of
ten reaches such a state: the count is zero and four stale frames remain.
-/

namespace Bluetooth.L2cap.Ertm

namespace ErtmController

/-- The transmitter bookkeeping the claim states: the count, the number of keys, the
sequence distance and the window agree, and the keys are the frames in flight. -/
def TransmitterConsistent (controller : ErtmController) : Prop :=
  controller.unackedFrames =
      ((List.range 256).filter fun key => (controller.unackedList (UInt8.ofNat key)).isSome).length ∧
    controller.unackedFrames =
      ((controller.nextTxSeq.toNat + kMaxTxWin - controller.expectedAckSeq.toNat) % kMaxTxWin : Nat) ∧
    (∀ key : UInt8, (controller.unackedList key).isSome ↔
      ∃ k : Nat, k < controller.unackedFrames ∧
        key.toNat = (controller.expectedAckSeq.toNat + k) % kMaxTxWin) ∧
    0 ≤ controller.unackedFrames ∧ controller.unackedFrames ≤ controller.remoteTxWindow.toNat

variable {controller : ErtmController}

theorem unackedList_foldl_eraseKey (indices : List Nat) (start : ErtmController) (key : UInt8) :
    (indices.foldl eraseKey start).unackedList key =
      if ∃ i ∈ indices, UInt8.ofNat i = key then none else start.unackedList key := by
  induction indices generalizing start with
  | nil => simp
  | cons index indices induction =>
      rw [List.foldl_cons, induction]
      by_cases erased : UInt8.ofNat index = key
      · simp [erased, eraseKey]
      · simp [eraseKey, Function.update, Ne.symm erased, erased]

/-- `process_req_seq` erases exactly the keys from `expected_ack_seq_` up to, not including,
`req_seq`, read as plain numbers. -/
theorem unackedList_processReqSeq (reqSeq key : UInt8) :
    (controller.processReqSeq reqSeq).unackedList key =
      if controller.expectedAckSeq.toNat ≤ key.toNat ∧ key.toNat < reqSeq.toNat then none
      else controller.unackedList key := by
  have erased : (controller.processReqSeq reqSeq).unackedList key =
      (controller.eraseAcknowledged reqSeq).unackedList key := by
    dsimp only [processReqSeq]
    split <;> rfl
  rw [erased, eraseAcknowledged, unackedList_foldl_eraseKey]
  congr 1
  apply propext
  constructor
  · rintro ⟨i, member, rfl⟩
    rw [List.mem_range'_1] at member
    have small : i < 256 := by
      have := reqSeq.toNat_lt
      omega
    rw [UInt8.toNat_ofNat', Nat.mod_eq_of_lt small]
    omega
  · rintro ⟨above, below⟩
    refine ⟨key.toNat, ?_, UInt8.ofNat_toNat⟩
    rw [List.mem_range'_1]
    omega

/-- `process_req_seq` takes `(req_seq - expected_ack_seq_ + 64) mod 64` frames off the count. -/
theorem unackedFrames_processReqSeq (reqSeq : UInt8) :
    (controller.processReqSeq reqSeq).unackedFrames =
      controller.unackedFrames -
        Int.tmod (((reqSeq.toNat : Int) - controller.expectedAckSeq.toNat) + kMaxTxWin)
          kMaxTxWin := by
  dsimp only [processReqSeq]
  split
  · rfl
  · rfl

/-- An acknowledgement whose `req_seq` has wrapped below `expected_ack_seq_` leaves every key in
`unacked_list_` while it takes `64 - (expected_ack_seq_ - req_seq)` frames off the count. -/
theorem processReqSeq_of_wrap {reqSeq : UInt8} (wrapped : reqSeq < controller.expectedAckSeq)
    (in_range : controller.expectedAckSeq.toNat < kMaxTxWin) :
    (controller.processReqSeq reqSeq).unackedList = controller.unackedList ∧
      (controller.processReqSeq reqSeq).unackedFrames =
        controller.unackedFrames -
          (kMaxTxWin - (controller.expectedAckSeq.toNat - reqSeq.toNat) : Nat) := by
  rw [UInt8.lt_iff_toNat_lt] at wrapped
  constructor
  · funext key
    rw [unackedList_processReqSeq, if_neg (by omega)]
  · rw [unackedFrames_processReqSeq]
    congr 1
    have positive : 0 ≤ ((reqSeq.toNat : Int) - controller.expectedAckSeq.toNat) + kMaxTxWin := by
      unfold kMaxTxWin at in_range ⊢
      omega
    rw [Int.tmod_eq_emod_of_nonneg positive, Int.emod_eq_of_lt positive (by unfold kMaxTxWin at *; omega)]
    unfold kMaxTxWin at in_range ⊢
    omega

/-- An RR with neither bit set, as the peer's receiver sends for every in-sequence I-frame. -/
def receiverReady (reqSeq : UInt8) : ErtmEvent :=
  .onPdu (.supervisory .receiverReady .notSet .notSet reqSeq)

/-- Sixty one-byte SDUs acknowledged ten at a time, four more, and one RR for those four, whose
`ReqSeq` has wrapped to 0. -/
def wrappingAcknowledgement : List ErtmEvent :=
  (List.range 6).flatMap (fun round =>
      List.replicate 10 (.onSdu [0]) ++ [receiverReady (UInt8.ofNat (10 * (round + 1)))]) ++
    List.replicate 4 (.onSdu [0]) ++ [receiverReady 0]

/-- After `wrappingAcknowledgement` the count is zero, every acknowledgement was accepted, and
the frames 60 to 63 are still in `unacked_list_`. -/
theorem replay_wrappingAcknowledgement :
    (Transition.run step create wrappingAcknowledgement).map
        (fun controller => (controller.unackedFrames, controller.expectedAckSeq,
          controller.disconnectionRequests, (controller.unackedList 60).isSome)) =
      some (0, 0, 0, true) := by
  decide

/-- A reachable transmitter whose `unacked_list_` disagrees with `unacked_frames_`. -/
theorem transmitterConsistent_fails_after_wrap :
    ∃ controller, Transition.Reachable step create controller ∧
      ¬ controller.TransmitterConsistent := by
  have replay := replay_wrappingAcknowledgement
  cases replayed : Transition.run step create wrappingAcknowledgement with
  | none => simp [replayed] at replay
  | some final =>
      simp only [replayed, Option.map_some, Option.some.injEq, Prod.mk.injEq] at replay
      obtain ⟨no_frames, -, -, stale⟩ := replay
      refine ⟨final, Transition.reachable_of_run replayed, ?_⟩
      rintro ⟨-, -, keys, -⟩
      obtain ⟨k, counted, -⟩ := (keys 60).mp stale
      omega

/-! ## Retransmission across the wrap

`retransmit_i_frames` walks `unacked_list_` from `req_seq` with a `uint8_t` counter that it
increments without reducing it modulo 64.  When the frames in flight straddle the wrap, the
counter passes from 63 to 64, finds no entry there, and stops: the frames numbered from 0 on are
not sent again.
-/

/-- The TxSeq of an I-frame. -/
def ErtmFrame.txSeq? : ErtmFrame → Option UInt8
  | .information txSeq _ _ _ _ _ => some txSeq
  | .supervisory _ _ _ _ => none

/-- Sixty-two one-byte SDUs acknowledged in windows of ten and a last window of two, then four
more SDUs, so that the frames in flight are 62, 63, 0 and 1. -/
def straddlingWindow : List ErtmEvent :=
  (List.range 6).flatMap (fun round =>
      List.replicate 10 (.onSdu [0]) ++ [receiverReady (UInt8.ofNat (10 * (round + 1)))]) ++
    List.replicate 2 (.onSdu [0]) ++ [receiverReady 62] ++ List.replicate 4 (.onSdu [0])

set_option synthInstance.maxSize 256 in
/-- After `straddlingWindow`, a REJ's `req_seq = 62` is valid and frames 0 and 1 are still
waiting for an acknowledgement, but retransmission sends only frames 62 and 63. -/
theorem replay_straddlingWindow :
    (Transition.run step create straddlingWindow).map (fun controller =>
        (controller.withValidReqSeq 62, (controller.expectedAckSeq, controller.nextTxSeq),
          ((controller.unackedList 0).isSome, (controller.unackedList 1).isSome),
          ((controller.retransmitIFrames 62 .notSet).pduQueue.drop
            controller.pduQueue.length).map ErtmFrame.txSeq?,
          (controller.retransmitIFrames 62 .notSet).disconnectionRequests ==
            controller.disconnectionRequests)) =
      some (true, (62, 2), (true, true), [some 62, some 63], true) := by
  decide +kernel

/-- A reachable controller and a valid `req_seq` for which `retransmit_i_frames` sends only part
of the window `req_seq, …, next_tx_seq_ - 1` modulo 64 and does not close the channel. -/
theorem retransmitIFrames_stops_at_wrap :
    ∃ controller, Transition.Reachable step create controller ∧
      controller.withValidReqSeq 62 = true ∧ controller.expectedAckSeq = 62 ∧
      controller.nextTxSeq = 2 ∧
      (controller.unackedList 0).isSome ∧ (controller.unackedList 1).isSome ∧
      ((controller.retransmitIFrames 62 .notSet).pduQueue.drop
          controller.pduQueue.length).map ErtmFrame.txSeq? = [some 62, some 63] ∧
      (controller.retransmitIFrames 62 .notSet).disconnectionRequests =
        controller.disconnectionRequests := by
  have replay := replay_straddlingWindow
  cases replayed : Transition.run step create straddlingWindow with
  | none => simp [replayed] at replay
  | some final =>
      simp only [replayed, Option.map_some, Option.some.injEq, Prod.mk.injEq] at replay
      obtain ⟨valid, ⟨acknowledged, next⟩, ⟨zero, one⟩, sent, not_closed⟩ := replay
      exact ⟨final, Transition.reachable_of_run replayed, valid, acknowledged, next, zero, one,
        sent, by simpa using not_closed⟩

end ErtmController

end Bluetooth.L2cap.Ertm

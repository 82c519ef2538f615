import Bluetooth.Packet.Fragmenting

set_option linter.all false

/-!
# LE credit-based data controller

`l2cap::internal::LeCreditBasedDataController` cuts each outgoing SDU into K-frames of at most
`mps_ - 2` bytes, queues them in `pdu_queue_`, and announces to the scheduler only as many as
the peer has granted credits for; the others wait in `pending_frames_count_` until `OnCredit`.

The counters are `uint16_t`, so they are `UInt16` here.  `OnSdu` keeps the ledger
`credits_ + announced = granted` and `pending_frames_count_ + announced = queued` exactly.
`OnCredit` does so too, except in its branch that releases every pending frame: that branch
clears `pending_frames_count_` before subtracting it from `credits_`, so the released frames
are never charged.  `CreditLedger.Balanced` states the books the code actually keeps, with
those frames counted in `leaked`.
-/

namespace Bluetooth.L2cap

open Packet

/-- Conversion of an `int` to `size_t` on a 64-bit target. -/
def sizeT (value : Int) : Nat := (value % 2 ^ 64).toNat

theorem sizeT_of_lt {value : Int} (nonneg : 0 ≤ value) (small : value < 2 ^ 64) :
    sizeT value = value.toNat := by
  rw [sizeT, Int.emod_eq_of_lt nonneg small]

/-- A K-frame in `pdu_queue_`. -/
inductive LeFrame where
  /-- `FirstLeInformationFrameBuilder`: the first K-frame of an SDU, with the SDU length. -/
  | firstLeInformation (remoteCid : UInt16) (sduLength : UInt16) (payload : List UInt8)
  /-- `BasicFrameBuilder`: every later K-frame of the SDU. -/
  | basic (remoteCid : UInt16) (payload : List UInt8)
  deriving DecidableEq, Repr

/-- Calls a data controller makes on its scheduler and link. -/
inductive ControllerCall where
  /-- `Scheduler::OnPacketsReady(cid, number_packets)`. -/
  | packetsReady (cid : UInt16) (count : Nat)
  /-- `ILink::SendDisconnectionRequest(local_cid, remote_cid)`. -/
  | disconnectionRequest (cid remoteCid : UInt16)
  deriving DecidableEq, Repr

/-- The packets a list of calls announces to the scheduler. -/
def announcedBy : List ControllerCall → Nat
  | [] => 0
  | .packetsReady _ count :: calls => count + announcedBy calls
  | .disconnectionRequest _ _ :: calls => announcedBy calls

@[simp] theorem announcedBy_nil : announcedBy [] = 0 := rfl

@[simp] theorem announcedBy_append (left right : List ControllerCall) :
    announcedBy (left ++ right) = announcedBy left + announcedBy right := by
  induction left with
  | nil => simp
  | cons call calls induction =>
      cases call <;> simp [announcedBy, induction, Nat.add_assoc]

@[simp] theorem announcedBy_packetsReady (cid : UInt16) (count : Nat) :
    announcedBy [.packetsReady cid count] = count := rfl

@[simp] theorem announcedBy_disconnectionRequest (cid remoteCid : UInt16) :
    announcedBy [.disconnectionRequest cid remoteCid] = 0 := rfl

/-- The sending half of `LeCreditBasedDataController`. -/
structure LeCreditBasedDataController where
  /-- `cid_`. -/
  cid : UInt16
  /-- `remote_cid_`. -/
  remoteCid : UInt16
  /-- `mtu_`. -/
  mtu : UInt16
  /-- `mps_`. -/
  mps : UInt16
  /-- `credits_`: frames the peer still accepts. -/
  credits : UInt16
  /-- `pending_frames_count_`: queued frames not yet announced. -/
  pendingFramesCount : UInt16
  /-- `pdu_queue_`. -/
  pduQueue : List LeFrame
  deriving DecidableEq, Repr

namespace LeCreditBasedDataController

/-- The constructor, with the member defaults `mtu_ = 512`, `mps_ = 251` and no credits. -/
def create (cid remoteCid : UInt16) : LeCreditBasedDataController :=
  ⟨cid, remoteCid, 512, 251, 0, 0, []⟩

/-- The segments `FragmentingInserter(mps_ - 2)` cuts an SDU into. -/
def segments (controller : LeCreditBasedDataController) (sdu : List UInt8) : List (List UInt8) :=
  fragment (sizeT (controller.mps.toNat - 2)) sdu

/-- The K-frames of one SDU: the first carries the SDU length, truncated to `uint16_t`. -/
def kFrames (remoteCid : UInt16) (sduSize : Nat) : List (List UInt8) → List LeFrame
  | [] => []
  | first :: rest =>
      .firstLeInformation remoteCid (UInt16.ofNat sduSize) first :: rest.map (.basic remoteCid)

@[simp] theorem length_kFrames (remoteCid : UInt16) (sduSize : Nat) (segments : List (List UInt8)) :
    (kFrames remoteCid sduSize segments).length = segments.length := by
  cases segments <;> simp [kFrames]

/-- `OnSdu`: queue the K-frames, then announce as many as there are credits. -/
def onSdu (controller : LeCreditBasedDataController) (sdu : List UInt8) :
    LeCreditBasedDataController × List ControllerCall :=
  if sdu.length = 0 then
    (controller, [])
  else
    let segments := controller.segments sdu
    let queued := { controller with
      pduQueue := controller.pduQueue ++ kFrames controller.remoteCid sdu.length segments }
    if segments.length ≤ controller.credits.toNat then
      ({ queued with credits := controller.credits - UInt16.ofNat segments.length },
        [.packetsReady controller.cid segments.length])
    else if 0 < controller.credits then
      ({ queued with
          pendingFramesCount := controller.pendingFramesCount +
            UInt16.ofNat (segments.length - controller.credits.toNat)
          credits := 0 },
        [.packetsReady controller.cid controller.credits.toNat])
    else
      ({ queued with
          pendingFramesCount := controller.pendingFramesCount + UInt16.ofNat segments.length }, [])

/-- `OnCredit`: add the credits, then release pending frames.  As in the source, the branch
that releases every pending frame zeroes `pending_frames_count_` before subtracting it. -/
def onCredit (controller : LeCreditBasedDataController) (credits : UInt16) :
    LeCreditBasedDataController × List ControllerCall :=
  let totalCredits := controller.credits.toNat + credits.toNat
  let disconnect : List ControllerCall :=
    if 0xffff < totalCredits then [.disconnectionRequest controller.cid controller.remoteCid]
    else []
  let granted := { controller with credits := UInt16.ofNat totalCredits }
  if 0 < granted.pendingFramesCount ∧ granted.pendingFramesCount ≤ granted.credits then
    let released := { granted with pendingFramesCount := 0 }
    ({ released with credits := released.credits - released.pendingFramesCount },
      disconnect ++ [.packetsReady controller.cid granted.pendingFramesCount.toNat])
  else if 0 < granted.pendingFramesCount then
    ({ granted with
        pendingFramesCount := granted.pendingFramesCount - granted.credits
        credits := 0 },
      disconnect ++ [.packetsReady controller.cid granted.credits.toNat])
  else
    (granted, disconnect)

/-- The frames an `OnCredit` call released by clearing `pending_frames_count_`. -/
def clearedFrames (before after : LeCreditBasedDataController) : Nat :=
  if after.pendingFramesCount = 0 then before.pendingFramesCount.toNat else 0

variable {controller : LeCreditBasedDataController}

/-- `OnSdu` on a non-empty SDU, with its three branches on the available credits. -/
theorem onSdu_of_nonempty {sdu : List UInt8} (nonempty : sdu ≠ []) :
    controller.onSdu sdu =
      if (controller.segments sdu).length ≤ controller.credits.toNat then
        ({ controller with
            pduQueue := controller.pduQueue ++
              kFrames controller.remoteCid sdu.length (controller.segments sdu)
            credits := controller.credits - UInt16.ofNat (controller.segments sdu).length },
          [.packetsReady controller.cid (controller.segments sdu).length])
      else if 0 < controller.credits then
        ({ controller with
            pduQueue := controller.pduQueue ++
              kFrames controller.remoteCid sdu.length (controller.segments sdu)
            pendingFramesCount := controller.pendingFramesCount +
              UInt16.ofNat ((controller.segments sdu).length - controller.credits.toNat)
            credits := 0 },
          [.packetsReady controller.cid controller.credits.toNat])
      else
        ({ controller with
            pduQueue := controller.pduQueue ++
              kFrames controller.remoteCid sdu.length (controller.segments sdu)
            pendingFramesCount := controller.pendingFramesCount +
              UInt16.ofNat (controller.segments sdu).length },
          []) := by
  have length_ne : sdu.length ≠ 0 := by simpa using nonempty
  simp only [onSdu, length_ne, if_false]

theorem pduQueue_onSdu {sdu : List UInt8} (nonempty : sdu ≠ []) :
    (controller.onSdu sdu).1.pduQueue =
      controller.pduQueue ++ kFrames controller.remoteCid sdu.length (controller.segments sdu) := by
  rw [onSdu_of_nonempty nonempty]
  split
  · rfl
  · split <;> rfl

/-- `OnSdu` moves the announced frames out of `credits_` and the others into
`pending_frames_count_`, as long as that counter does not wrap. -/
theorem onSdu_balance {sdu : List UInt8} (nonempty : sdu ≠ [])
    (room : controller.pendingFramesCount.toNat + (controller.segments sdu).length ≤ 0xffff) :
    (controller.onSdu sdu).1.credits.toNat + announcedBy (controller.onSdu sdu).2 =
        controller.credits.toNat ∧
      (controller.onSdu sdu).1.pendingFramesCount.toNat + announcedBy (controller.onSdu sdu).2 =
        controller.pendingFramesCount.toNat + (controller.segments sdu).length := by
  rw [onSdu_of_nonempty nonempty]
  generalize (controller.segments sdu).length = frames at room ⊢
  have credits_bound := controller.credits.toNat_lt
  split
  · next enough =>
      have charged : (controller.credits - UInt16.ofNat frames).toNat =
          controller.credits.toNat - frames := by
        rw [UInt16.toNat_sub_of_le _ _ (by rw [UInt16.le_iff_toNat_le, UInt16.toNat_ofNat']; omega),
          UInt16.toNat_ofNat', Nat.mod_eq_of_lt (by omega)]
      simp only [charged, announcedBy_packetsReady, and_true]
      omega
  · next short =>
      split
      · next some_credits =>
          have pending : (controller.pendingFramesCount +
              UInt16.ofNat (frames - controller.credits.toNat)).toNat =
              controller.pendingFramesCount.toNat + (frames - controller.credits.toNat) := by
            rw [UInt16.toNat_add, UInt16.toNat_ofNat', Nat.mod_eq_of_lt (show frames - controller.credits.toNat < 2 ^ 16 by omega),
              Nat.mod_eq_of_lt (by omega)]
          simp only [pending, announcedBy_packetsReady, UInt16.toNat_zero]
          omega
      · next no_credits =>
          have zero : controller.credits.toNat = 0 := by
            simpa [UInt16.lt_iff_toNat_lt] using no_credits
          have pending : (controller.pendingFramesCount + UInt16.ofNat frames).toNat =
              controller.pendingFramesCount.toNat + frames := by
            rw [UInt16.toNat_add, UInt16.toNat_ofNat', Nat.mod_eq_of_lt (show frames < 2 ^ 16 by omega),
              Nat.mod_eq_of_lt (by omega)]
          simp [pending, zero]

/-- `OnCredit` when the grant does not overflow `credits_`, with its three branches on the
pending frames.  In the branch that releases every pending frame `credits_` keeps the whole
total. -/
theorem onCredit_of_fits (credits : UInt16)
    (fits : controller.credits.toNat + credits.toNat ≤ 0xffff) :
    controller.onCredit credits =
      if 0 < controller.pendingFramesCount ∧
          controller.pendingFramesCount ≤ controller.credits + credits then
        ({ controller with credits := controller.credits + credits, pendingFramesCount := 0 },
          [.packetsReady controller.cid controller.pendingFramesCount.toNat])
      else if 0 < controller.pendingFramesCount then
        ({ controller with
            credits := 0
            pendingFramesCount := controller.pendingFramesCount - (controller.credits + credits) },
          [.packetsReady controller.cid (controller.credits + credits).toNat])
      else
        ({ controller with credits := controller.credits + credits }, []) := by
  have no_disconnect : ¬ 0xffff < controller.credits.toNat + credits.toNat := by omega
  have total : UInt16.ofNat (controller.credits.toNat + credits.toNat) =
      controller.credits + credits := by
    apply UInt16.toNat_inj.mp
    rw [UInt16.toNat_ofNat', UInt16.toNat_add]
  simp only [onCredit, no_disconnect, if_false, List.nil_append, total, UInt16.sub_zero]

theorem pduQueue_onCredit (credits : UInt16) :
    (controller.onCredit credits).1.pduQueue = controller.pduQueue := by
  dsimp only [onCredit]
  split
  · rfl
  · split <;> rfl

/-- `OnCredit` adds the grant to `credits_` and moves frames from `pending_frames_count_` to
the scheduler; the frames it releases by clearing the pending count stay in `credits_`. -/
theorem onCredit_balance (credits : UInt16)
    (fits : controller.credits.toNat + credits.toNat ≤ 0xffff) :
    (controller.onCredit credits).1.credits.toNat + announcedBy (controller.onCredit credits).2 =
        controller.credits.toNat + credits.toNat +
          clearedFrames controller (controller.onCredit credits).1 ∧
      (controller.onCredit credits).1.pendingFramesCount.toNat +
          announcedBy (controller.onCredit credits).2 =
        controller.pendingFramesCount.toNat := by
  have total : (controller.credits + credits).toNat = controller.credits.toNat + credits.toNat := by
    rw [UInt16.toNat_add, Nat.mod_eq_of_lt (by omega)]
  rw [onCredit_of_fits credits fits]
  unfold clearedFrames
  split
  · simp [total]
  · next not_released =>
      split
      · next pending =>
          have short : controller.credits + credits < controller.pendingFramesCount := by
            simpa [pending] using not_released
          rw [UInt16.lt_iff_toNat_lt, total] at short
          have remaining : (controller.pendingFramesCount - (controller.credits + credits)).toNat =
              controller.pendingFramesCount.toNat - (controller.credits.toNat + credits.toNat) := by
            rw [UInt16.toNat_sub_of_le _ _ (by rw [UInt16.le_iff_toNat_le, total]; omega), total]
          have nonzero : controller.pendingFramesCount - (controller.credits + credits) ≠ 0 := by
            intro zero
            have := congrArg UInt16.toNat zero
            rw [remaining, UInt16.toNat_zero] at this
            omega
          simp only [remaining, nonzero, if_false, total, announcedBy_packetsReady,
            UInt16.toNat_zero]
          omega
      · next none_pending =>
          have zero : controller.pendingFramesCount = 0 :=
            UInt16.toNat_inj.mp (by simpa [UInt16.lt_iff_toNat_lt] using none_pending)
          simp [zero, total]

/-- The branch of `OnCredit` that releases every pending frame announces them all and
leaves `credits_` at the full total. -/
theorem onCredit_of_release (credits : UInt16)
    (fits : controller.credits.toNat + credits.toNat ≤ 0xffff)
    (pending : 0 < controller.pendingFramesCount.toNat)
    (release : controller.pendingFramesCount.toNat ≤ controller.credits.toNat + credits.toNat) :
    (controller.onCredit credits).1.credits.toNat = controller.credits.toNat + credits.toNat ∧
      announcedBy (controller.onCredit credits).2 = controller.pendingFramesCount.toNat := by
  have total : (controller.credits + credits).toNat = controller.credits.toNat + credits.toNat := by
    rw [UInt16.toNat_add, Nat.mod_eq_of_lt (by omega)]
  have taken : 0 < controller.pendingFramesCount ∧
      controller.pendingFramesCount ≤ controller.credits + credits := by
    rw [UInt16.lt_iff_toNat_lt, UInt16.le_iff_toNat_le, total]
    exact ⟨pending, release⟩
  rw [onCredit_of_fits credits fits, if_pos taken]
  exact ⟨total, rfl⟩

end LeCreditBasedDataController

/-! ## The credit ledger over a run -/

/-- The calls the upper layer and the signalling manager make on the controller. -/
inductive CreditEvent where
  /-- `OnSdu(sdu)`. -/
  | onSdu (sdu : List UInt8)
  /-- `OnCredit(credits)`, for an LE Flow Control Credit from the peer. -/
  | onCredit (credits : UInt16)
  deriving DecidableEq, Repr

/-- A controller together with the totals of its run so far. -/
structure CreditLedger where
  /-- The controller itself. -/
  controller : LeCreditBasedDataController
  /-- Credits granted by the peer. -/
  granted : Nat
  /-- Frames announced through `OnPacketsReady`. -/
  announced : Nat
  /-- Frames released by an `OnCredit` that cleared `pending_frames_count_`. -/
  leaked : Nat
  deriving DecidableEq, Repr

namespace CreditLedger

open LeCreditBasedDataController

/-- A fresh controller with empty totals. -/
def start (cid remoteCid : UInt16) : CreditLedger := ⟨create cid remoteCid, 0, 0, 0⟩

/-- Process one event and add its calls to the totals. -/
def step (ledger : CreditLedger) : CreditEvent → CreditLedger
  | .onSdu sdu =>
      let result := ledger.controller.onSdu sdu
      { ledger with controller := result.1, announced := ledger.announced + announcedBy result.2 }
  | .onCredit credits =>
      let result := ledger.controller.onCredit credits
      { controller := result.1
        granted := ledger.granted + credits.toNat
        announced := ledger.announced + announcedBy result.2
        leaked := ledger.leaked + clearedFrames ledger.controller result.1 }

/-- Process a list of events in order. -/
def run (ledger : CreditLedger) (events : List CreditEvent) : CreditLedger :=
  events.foldl step ledger

/-- The events the claim ranges over: non-empty SDUs, and grants that keep the running credit
total within `0xffff`.  An SDU must also leave `pending_frames_count_` within its `uint16_t`. -/
def Admits (ledger : CreditLedger) : CreditEvent → Prop
  | .onSdu sdu =>
      sdu ≠ [] ∧
        ledger.controller.pendingFramesCount.toNat + (ledger.controller.segments sdu).length ≤ 0xffff
  | .onCredit credits => ledger.controller.credits.toNat + credits.toNat ≤ 0xffff

instance : (ledger : CreditLedger) → (event : CreditEvent) → Decidable (ledger.Admits event)
  | _, .onSdu _ => inferInstanceAs (Decidable (_ ∧ _))
  | _, .onCredit _ => inferInstanceAs (Decidable (_ ≤ _))

/-- Every event of the list is admitted in the state it is applied to. -/
def Admissible : CreditLedger → List CreditEvent → Prop
  | _, [] => True
  | ledger, event :: events => ledger.Admits event ∧ (ledger.step event).Admissible events

instance decidableAdmissible :
    (ledger : CreditLedger) → (events : List CreditEvent) → Decidable (ledger.Admissible events)
  | _, [] => isTrue trivial
  | ledger, event :: events =>
      haveI := decidableAdmissible (ledger.step event) events
      inferInstanceAs (Decidable (ledger.Admits event ∧ (ledger.step event).Admissible events))

/-- The bookkeeping of the claim: announcements never outrun the grants, `credits_` is what
remains of them, and `pending_frames_count_` is what remains of the queued frames. -/
def Conserves (ledger : CreditLedger) : Prop :=
  ledger.announced ≤ ledger.granted ∧
    ledger.controller.credits.toNat = ledger.granted - ledger.announced ∧
    ledger.controller.pendingFramesCount.toNat =
      ledger.controller.pduQueue.length - ledger.announced

instance (ledger : CreditLedger) : Decidable ledger.Conserves :=
  inferInstanceAs (Decidable (_ ∧ _ ∧ _))

/-- The bookkeeping the code keeps: the frames released by clearing the pending count are
announced without being charged to `credits_`. -/
def Balanced (ledger : CreditLedger) : Prop :=
  ledger.controller.credits.toNat + ledger.announced = ledger.granted + ledger.leaked ∧
    ledger.controller.pendingFramesCount.toNat + ledger.announced =
      ledger.controller.pduQueue.length

theorem balanced_start (cid remoteCid : UInt16) : (start cid remoteCid).Balanced := by
  simp [Balanced, start, create]

theorem balanced_step {ledger : CreditLedger} {event : CreditEvent} (balanced : ledger.Balanced)
    (admits : ledger.Admits event) : (ledger.step event).Balanced := by
  obtain ⟨credit_books, frame_books⟩ := balanced
  cases event with
  | onSdu sdu =>
      obtain ⟨nonempty, room⟩ := admits
      obtain ⟨credits_moved, frames_moved⟩ := onSdu_balance nonempty room
      have queue : (ledger.controller.onSdu sdu).1.pduQueue = _ := pduQueue_onSdu nonempty
      simp only [step, Balanced, queue, List.length_append, length_kFrames]
      constructor <;> omega
  | onCredit credits =>
      obtain ⟨credits_moved, frames_moved⟩ := onCredit_balance credits admits
      simp only [step, Balanced, pduQueue_onCredit]
      constructor <;> omega

/-- Every admissible run keeps the code's books. -/
theorem balanced_run {ledger : CreditLedger} {events : List CreditEvent}
    (balanced : ledger.Balanced) (admissible : ledger.Admissible events) :
    (ledger.run events).Balanced := by
  induction events generalizing ledger with
  | nil => exact balanced
  | cons event events induction =>
      exact induction (balanced_step balanced admissible.1) admissible.2

/-- The claim's bookkeeping is exactly the code's books with nothing leaked. -/
theorem conserves_of_balanced {ledger : CreditLedger} (balanced : ledger.Balanced)
    (no_leak : ledger.leaked = 0) : ledger.Conserves := by
  obtain ⟨credit_books, frame_books⟩ := balanced
  refine ⟨?_, ?_, ?_⟩ <;> omega

/-- An `OnCredit` that releases pending frames leaks all of them. -/
theorem leaked_step_of_release {ledger : CreditLedger} {credits : UInt16}
    (fits : ledger.controller.credits.toNat + credits.toNat ≤ 0xffff)
    (pending : 0 < ledger.controller.pendingFramesCount.toNat)
    (release : ledger.controller.pendingFramesCount.toNat ≤
      ledger.controller.credits.toNat + credits.toNat) :
    (ledger.step (.onCredit credits)).leaked =
      ledger.leaked + ledger.controller.pendingFramesCount.toNat := by
  have books := (onCredit_balance credits fits).2
  have released := onCredit_of_release credits fits pending release
  have cleared : (ledger.controller.onCredit credits).1.pendingFramesCount = 0 :=
    UInt16.toNat_inj.mp (by rw [UInt16.toNat_zero]; omega)
  simp [step, clearedFrames, cleared]

/-- One SDU, one credit, one SDU: the credit releases the first SDU's frame without charging
it, and the second SDU is announced on the same credit. -/
theorem onCredit_leaks_released_frames :
    (start 0x40 0x41).Admissible [.onSdu [0], .onCredit 1, .onSdu [0]] ∧
      ((start 0x40 0x41).run [.onSdu [0], .onCredit 1]).controller.credits = 1 ∧
      ((start 0x40 0x41).run [.onSdu [0], .onCredit 1, .onSdu [0]]).granted = 1 ∧
      ((start 0x40 0x41).run [.onSdu [0], .onCredit 1, .onSdu [0]]).announced = 2 := by
  decide

end CreditLedger

end Bluetooth.L2cap

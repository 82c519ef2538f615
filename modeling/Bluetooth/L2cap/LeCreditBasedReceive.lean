import Bluetooth.Lib.ByteStream
import Bluetooth.L2cap.LeCreditBased

set_option linter.all false

/-!
# LE credit-based data controller: receiving

`LeCreditBasedDataController::OnPdu` takes each K-frame the receiver hands it, as the octets of
a basic frame.  A frame longer than `mps_` is dropped.  While no SDU is in progress
(`remaining_sdu_continuation_packet_size_ == 0`) the frame is read as a
`FirstLeInformationFrame`, whose SDU length starts the count; every other frame is appended to
the reassembly stage and counted down.  A count that reaches zero enqueues the stage.

The count is a `uint16_t`, so the test `remaining_sdu_continuation_packet_size_ < 0` that
should catch a frame running past the announced length never holds: the count wraps instead,
and only the `mtu_` test can still reset the stage (`onPdu_misses_overlong_sdu`).

The check against `mps_` measures the whole basic frame, header included, while `OnSdu` cuts
payloads of `mps_ - 2` octets.  Every first frame of an SDU of at least `mps_ - 5` octets is
therefore dropped by a peer with the same `mps_`, and that SDU is never delivered
(`receive_never_delivers_long_sdu`).  Shorter SDUs go through whole (`receive_onSdu_of_short`).
-/

namespace Bluetooth.L2cap

open ByteStream Packet

/-- The octets `BasicFrameBuilder` and `FirstLeInformationFrameBuilder` write for a K-frame:
the payload size, the channel id, then the SDU length of a first frame and the payload. -/
def LeFrame.serialize : LeFrame → List UInt8
  | .firstLeInformation remoteCid sduLength payload =>
      le16 (UInt16.ofNat (payload.length + 2)) ++ le16 remoteCid ++ le16 sduLength ++ payload
  | .basic remoteCid payload => le16 (UInt16.ofNat payload.length) ++ le16 remoteCid ++ payload

/-- `BasicFrameView::IsValid`: the four header octets are there, and so is the payload their
size field announces. -/
def basicFrameIsValid (pdu : List UInt8) : Bool :=
  4 ≤ pdu.length && 4 + field16 pdu 0 ≤ pdu.length

/-- `BasicFrameView::GetPayload`: the octets the size field announces. -/
def basicFramePayload (pdu : List UInt8) : List UInt8 := slice pdu 4 (4 + field16 pdu 0)

/-- `FirstLeInformationFrameView::IsValid`: a valid basic frame whose view holds the two octets
of the SDU length after the header. -/
def firstLeInformationFrameIsValid (pdu : List UInt8) : Bool :=
  basicFrameIsValid pdu && 6 ≤ pdu.length

/-- `FirstLeInformationFrameView::GetL2capSduLength`. -/
def l2capSduLength (pdu : List UInt8) : UInt16 := UInt16.ofNat (field16 pdu 4)

/-- `FirstLeInformationFrameView::GetPayload`: a child payload without a size field of its own
runs to the end of the view. -/
def firstLeInformationPayload (pdu : List UInt8) : List UInt8 := pdu.drop 6

/-- Calls `OnPdu` makes on the enqueue buffer and the link. -/
inductive ReceiverCall where
  /-- `enqueue_buffer_.Enqueue(sdu)`: the SDU goes to the upper layer. -/
  | enqueue (sdu : List UInt8)
  /-- `ILink::SendDisconnectionRequest(local_cid, remote_cid)`. -/
  | disconnectionRequest (cid remoteCid : UInt16)
  /-- `ILink::SendLeCredit(local_cid, credits)`. -/
  | leCredit (cid credits : UInt16)
  deriving DecidableEq, Repr

/-- The receiving half of `LeCreditBasedDataController`. -/
structure LeCreditBasedReceiver where
  /-- `cid_`. -/
  cid : UInt16
  /-- `remote_cid_`. -/
  remoteCid : UInt16
  /-- `mtu_`. -/
  mtu : UInt16
  /-- `mps_`. -/
  mps : UInt16
  /-- `reassembly_stage_`. -/
  reassemblyStage : List UInt8
  /-- `remaining_sdu_continuation_packet_size_`. -/
  remainingSduContinuationPacketSize : UInt16
  deriving DecidableEq, Repr

namespace LeCreditBasedReceiver

/-- The constructor, with `mtu_ = 512`, `mps_ = 251` and an empty stage. -/
def create (cid remoteCid : UInt16) : LeCreditBasedReceiver := ⟨cid, remoteCid, 512, 251, [], 0⟩

/-- `SetMtu`. -/
def setMtu (receiver : LeCreditBasedReceiver) (mtu : UInt16) : LeCreditBasedReceiver :=
  { receiver with mtu := mtu }

/-- `SetMps`. -/
def setMps (receiver : LeCreditBasedReceiver) (mps : UInt16) : LeCreditBasedReceiver :=
  { receiver with mps := mps }

/-- The reassembly step of `OnPdu`, on a frame that passed the size checks; `none` where a
frame that should start an SDU is not a valid first frame and `OnPdu` returns. -/
def stage (receiver : LeCreditBasedReceiver) (pdu : List UInt8) :
    Option LeCreditBasedReceiver :=
  if receiver.remainingSduContinuationPacketSize = 0 then
    if firstLeInformationFrameIsValid pdu then
      some { receiver with
        remainingSduContinuationPacketSize :=
          l2capSduLength pdu - UInt16.ofNat (firstLeInformationPayload pdu).length
        reassemblyStage := firstLeInformationPayload pdu }
    else none
  else
    some { receiver with
      remainingSduContinuationPacketSize :=
        receiver.remainingSduContinuationPacketSize - UInt16.ofNat (basicFramePayload pdu).length
      reassemblyStage := receiver.reassemblyStage ++ basicFramePayload pdu }

/-- `OnPdu`.  The test `remaining_sdu_continuation_packet_size_ < 0` is kept as the source
writes it; on a `uint16_t` it is always false. -/
def onPdu (receiver : LeCreditBasedReceiver) (pdu : List UInt8) :
    LeCreditBasedReceiver × List ReceiverCall :=
  if !basicFrameIsValid pdu then (receiver, [])
  else if receiver.mps.toNat < pdu.length then (receiver, [])
  else
    match receiver.stage pdu with
    | none => (receiver, [])
    | some staged =>
        if staged.remainingSduContinuationPacketSize = 0 then
          (staged, [.enqueue staged.reassemblyStage, .leCredit receiver.cid 1])
        else if staged.remainingSduContinuationPacketSize.toNat < 0 ∨
            receiver.mtu.toNat < staged.reassemblyStage.length then
          ({ staged with reassemblyStage := [], remainingSduContinuationPacketSize := 0 },
            [.disconnectionRequest receiver.cid receiver.remoteCid, .leCredit receiver.cid 1])
        else
          (staged, [.leCredit receiver.cid 1])

/-- `OnPdu` on each frame in turn, with all the calls in order. -/
def receive (receiver : LeCreditBasedReceiver) : List (List UInt8) →
    LeCreditBasedReceiver × List ReceiverCall
  | [] => (receiver, [])
  | pdu :: pdus =>
      (((receiver.onPdu pdu).1.receive pdus).1,
        (receiver.onPdu pdu).2 ++ ((receiver.onPdu pdu).1.receive pdus).2)

/-! ## The frames a sender writes -/

section Frames

variable {remoteCid sduLength : UInt16} {payload : List UInt8}

@[simp] theorem length_serialize_firstLeInformation :
    (LeFrame.firstLeInformation remoteCid sduLength payload).serialize.length =
      payload.length + 6 := by
  simp [LeFrame.serialize]
  omega

@[simp] theorem length_serialize_basic :
    (LeFrame.basic remoteCid payload).serialize.length = payload.length + 4 := by
  simp [LeFrame.serialize]
  omega

/-- What `OnPdu` reads of a first frame whose size field does not wrap. -/
theorem read_serialize_firstLeInformation (fits : payload.length + 2 < 2 ^ 16) :
    basicFrameIsValid (LeFrame.firstLeInformation remoteCid sduLength payload).serialize ∧
      firstLeInformationFrameIsValid (LeFrame.firstLeInformation remoteCid sduLength payload).serialize ∧
      l2capSduLength (LeFrame.firstLeInformation remoteCid sduLength payload).serialize = sduLength ∧
      firstLeInformationPayload (LeFrame.firstLeInformation remoteCid sduLength payload).serialize =
        payload := by
  have size : field16 (LeFrame.firstLeInformation remoteCid sduLength payload).serialize 0 =
      payload.length + 2 := by
    have read := field16_append_le16 [] (UInt16.ofNat (payload.length + 2))
      (le16 remoteCid ++ le16 sduLength ++ payload)
    simp only [List.nil_append, List.length_nil, UInt16.toNat_ofNat', Nat.mod_eq_of_lt fits]
      at read
    simpa [LeFrame.serialize, List.append_assoc] using read
  have length : field16 (LeFrame.firstLeInformation remoteCid sduLength payload).serialize 4 =
      sduLength.toNat := by
    simpa [LeFrame.serialize, List.append_assoc] using
      field16_append_le16 (le16 (UInt16.ofNat (payload.length + 2)) ++ le16 remoteCid) sduLength
        payload
  refine ⟨?_, ?_, ?_, ?_⟩
  · simp [basicFrameIsValid, size]
    omega
  · simp [firstLeInformationFrameIsValid, basicFrameIsValid, size]
    omega
  · simp [l2capSduLength, length]
  · simp [firstLeInformationPayload, LeFrame.serialize, le16]

/-- What `OnPdu` reads of a later frame whose size field does not wrap. -/
theorem read_serialize_basic (fits : payload.length < 2 ^ 16) :
    basicFrameIsValid (LeFrame.basic remoteCid payload).serialize ∧
      basicFramePayload (LeFrame.basic remoteCid payload).serialize = payload := by
  have size : field16 (LeFrame.basic remoteCid payload).serialize 0 = payload.length := by
    have read := field16_append_le16 [] (UInt16.ofNat payload.length) (le16 remoteCid ++ payload)
    simp only [List.nil_append, List.length_nil, UInt16.toNat_ofNat', Nat.mod_eq_of_lt fits]
      at read
    simpa [LeFrame.serialize, List.append_assoc] using read
  refine ⟨by simp [basicFrameIsValid, size]; omega, ?_⟩
  rw [basicFramePayload, size]
  simp [slice, LeFrame.serialize, le16]

end Frames

/-! ## One frame -/

section OnPdu

variable {receiver : LeCreditBasedReceiver} {pdu : List UInt8}

theorem onPdu_of_invalid (invalid : basicFrameIsValid pdu = false) :
    receiver.onPdu pdu = (receiver, []) := by
  simp [onPdu, invalid]

theorem onPdu_of_long (long : receiver.mps.toNat < pdu.length) :
    receiver.onPdu pdu = (receiver, []) := by
  simp [onPdu, long]

theorem onPdu_of_stage_none (none_staged : receiver.stage pdu = none) :
    receiver.onPdu pdu = (receiver, []) := by
  simp [onPdu, none_staged]

/-- An accepted frame, by what the reassembly step made of it; the `< 0` test is gone. -/
theorem onPdu_of_stage (valid : basicFrameIsValid pdu) (fits : pdu.length ≤ receiver.mps.toNat)
    {staged : LeCreditBasedReceiver} (staging : receiver.stage pdu = some staged) :
    receiver.onPdu pdu =
      if staged.remainingSduContinuationPacketSize = 0 then
        (staged, [.enqueue staged.reassemblyStage, .leCredit receiver.cid 1])
      else if receiver.mtu.toNat < staged.reassemblyStage.length then
        ({ staged with reassemblyStage := [], remainingSduContinuationPacketSize := 0 },
          [.disconnectionRequest receiver.cid receiver.remoteCid, .leCredit receiver.cid 1])
      else
        (staged, [.leCredit receiver.cid 1]) := by
  simp [onPdu, valid, Nat.not_lt.mpr fits, staging]

/-- While no SDU is in progress, a valid first frame starts one. -/
theorem stage_of_idle (idle : receiver.remainingSduContinuationPacketSize = 0)
    (valid : firstLeInformationFrameIsValid pdu) :
    receiver.stage pdu = some { receiver with
      remainingSduContinuationPacketSize :=
        l2capSduLength pdu - UInt16.ofNat (firstLeInformationPayload pdu).length
      reassemblyStage := firstLeInformationPayload pdu } := by
  simp [stage, idle, valid]

/-- The reassembly step adds at most the octets after the basic header. -/
theorem length_stage_le {staged : LeCreditBasedReceiver}
    (staging : receiver.stage pdu = some staged) :
    staged.reassemblyStage.length ≤ receiver.reassemblyStage.length + (pdu.length - 4) := by
  unfold stage at staging
  split at staging
  · split at staging
    · cases staging
      simp only [firstLeInformationPayload, List.length_drop]
      omega
    · cases staging
  · cases staging
    simp only [List.length_append, basicFramePayload, slice, List.length_take, List.length_drop]
    omega

/-- One frame adds at most its payload octets to the stage, and enqueues no more than that. -/
theorem onPdu_bounded (receiver : LeCreditBasedReceiver) (pdu : List UInt8) :
    (receiver.onPdu pdu).1.reassemblyStage.length ≤
        receiver.reassemblyStage.length + (pdu.length - 4) ∧
      ∀ sdu, ReceiverCall.enqueue sdu ∈ (receiver.onPdu pdu).2 →
        sdu.length ≤ receiver.reassemblyStage.length + (pdu.length - 4) := by
  cases valid : basicFrameIsValid pdu
  · rw [onPdu_of_invalid valid]
    simp
  · by_cases long : receiver.mps.toNat < pdu.length
    · rw [onPdu_of_long long]
      simp
    · cases staging : receiver.stage pdu with
      | none =>
          rw [onPdu_of_stage_none staging]
          simp
      | some staged =>
          have grown := length_stage_le staging
          rw [onPdu_of_stage valid (by omega) staging]
          split
          · simp only [List.mem_cons, ReceiverCall.enqueue.injEq, reduceCtorEq, List.mem_nil_iff,
              or_false]
            exact ⟨grown, fun sdu enqueued => enqueued ▸ grown⟩
          · split <;> simp [grown]

end OnPdu

/-- A run enqueues nothing longer than the stage it started from and the payload octets of
its frames together. -/
theorem receive_bounded (receiver : LeCreditBasedReceiver) (pdus : List (List UInt8)) :
    ∀ sdu, ReceiverCall.enqueue sdu ∈ (receiver.receive pdus).2 →
      sdu.length ≤ receiver.reassemblyStage.length + (pdus.map (·.length - 4)).sum := by
  induction pdus generalizing receiver with
  | nil => simp [receive]
  | cons pdu pdus induction =>
      intro sdu member
      obtain ⟨grown, enqueued⟩ := onPdu_bounded receiver pdu
      simp only [receive, List.mem_append] at member
      simp only [List.map_cons, List.sum_cons]
      rcases member with now | later
      · have := enqueued sdu now
        omega
      · have := induction _ sdu later
        omega

/-! ## The first frame of an SDU -/

section FirstFrame

variable {receiver : LeCreditBasedReceiver} {remoteCid sduLength : UInt16} {payload : List UInt8}

/-- A first frame as a sender writes it, on a receiver with no SDU in progress that accepts
its size: the count starts at the announced length less the payload. -/
theorem onPdu_serialize_firstLeInformation
    (idle : receiver.remainingSduContinuationPacketSize = 0)
    (fits : payload.length + 6 ≤ receiver.mps.toNat) :
    receiver.onPdu (LeFrame.firstLeInformation remoteCid sduLength payload).serialize =
      if sduLength - UInt16.ofNat payload.length = 0 then
        ({ receiver with reassemblyStage := payload, remainingSduContinuationPacketSize := 0 },
          [.enqueue payload, .leCredit receiver.cid 1])
      else if receiver.mtu.toNat < payload.length then
        ({ receiver with reassemblyStage := [], remainingSduContinuationPacketSize := 0 },
          [.disconnectionRequest receiver.cid receiver.remoteCid, .leCredit receiver.cid 1])
      else
        ({ receiver with
            reassemblyStage := payload
            remainingSduContinuationPacketSize := sduLength - UInt16.ofNat payload.length },
          [.leCredit receiver.cid 1]) := by
  have small : payload.length + 2 < 2 ^ 16 := by
    have := receiver.mps.toNat_lt
    omega
  obtain ⟨valid, first_valid, announced, first_payload⟩ :=
    @read_serialize_firstLeInformation remoteCid sduLength payload small
  rw [onPdu_of_stage valid (by simp; omega) (stage_of_idle idle first_valid), announced,
    first_payload]
  by_cases complete : sduLength - UInt16.ofNat payload.length = 0
  · simp [complete]
  · simp [complete]

/-- The reassembly is not length safe.  A first frame whose payload is longer than the SDU
length it announces wraps the `uint16_t` count: the stage keeps the payload and no
disconnection is requested.  A first frame that announces its own payload as a whole SDU is
enqueued even when that SDU is longer than `mtu_`. -/
theorem onPdu_misses_overlong_sdu :
    (∀ (receiver : LeCreditBasedReceiver) (remoteCid sduLength : UInt16) (payload : List UInt8),
      receiver.remainingSduContinuationPacketSize = 0 →
      payload.length + 6 ≤ receiver.mps.toNat → payload.length ≤ receiver.mtu.toNat →
      sduLength.toNat < payload.length →
      receiver.onPdu (LeFrame.firstLeInformation remoteCid sduLength payload).serialize =
        ({ receiver with
            reassemblyStage := payload
            remainingSduContinuationPacketSize := sduLength - UInt16.ofNat payload.length },
          [.leCredit receiver.cid 1])) ∧
    (∀ (receiver : LeCreditBasedReceiver) (remoteCid : UInt16) (payload : List UInt8),
      receiver.remainingSduContinuationPacketSize = 0 →
      payload.length + 6 ≤ receiver.mps.toNat → receiver.mtu.toNat < payload.length →
      receiver.onPdu
          (LeFrame.firstLeInformation remoteCid (UInt16.ofNat payload.length) payload).serialize =
        ({ receiver with reassemblyStage := payload, remainingSduContinuationPacketSize := 0 },
          [.enqueue payload, .leCredit receiver.cid 1])) := by
  constructor
  · intro receiver remoteCid sduLength payload idle fits within overlong
    have small : payload.length < 2 ^ 16 := by
      have := receiver.mps.toNat_lt
      omega
    -- the count wraps to `2^16 - (payload - announced)`, which is not zero
    have wrapped : sduLength - UInt16.ofNat payload.length ≠ 0 := by
      intro zero
      have := congrArg UInt16.toNat zero
      rw [UInt16.toNat_sub, UInt16.toNat_ofNat', Nat.mod_eq_of_lt small, UInt16.toNat_zero] at this
      omega
    rw [onPdu_serialize_firstLeInformation idle fits, if_neg wrapped, if_neg (by omega)]
  · intro receiver remoteCid payload idle fits beyond
    rw [onPdu_serialize_firstLeInformation idle fits, if_pos (UInt16.sub_self _)]

theorem onPdu_misses_overlong_sdu_at_default :
    (LeCreditBasedReceiver.create 0x40 0x41).onPdu
        (LeFrame.firstLeInformation 0x41 1 [0xAA, 0xBB]).serialize =
      ({ LeCreditBasedReceiver.create 0x40 0x41 with
          reassemblyStage := [0xAA, 0xBB], remainingSduContinuationPacketSize := 0xFFFF },
        [.leCredit 0x40 1]) ∧
    ((LeCreditBasedReceiver.create 0x40 0x41).setMtu 1).onPdu
        (LeFrame.firstLeInformation 0x41 2 [0xAA, 0xBB]).serialize =
      ({ (LeCreditBasedReceiver.create 0x40 0x41).setMtu 1 with
          reassemblyStage := [0xAA, 0xBB], remainingSduContinuationPacketSize := 0 },
        [.enqueue [0xAA, 0xBB], .leCredit 0x40 1]) :=
  ⟨onPdu_misses_overlong_sdu.1 _ 0x41 1 [0xAA, 0xBB] rfl (by decide) (by decide) (by decide),
    onPdu_misses_overlong_sdu.2 _ 0x41 [0xAA, 0xBB] rfl (by decide) (by decide)⟩

end FirstFrame

/-! ## The frames of `OnSdu` at a peer with the same `mps_` -/

/-- The K-frames `OnSdu` queues for a non-empty SDU: the first `mps_ - 2` octets behind the SDU
length, then the segments of the rest. -/
theorem kFrames_segments (sender : LeCreditBasedDataController) (sdu : List UInt8)
    (mps_ge : 3 ≤ sender.mps.toNat) (nonempty : sdu ≠ []) :
    LeCreditBasedDataController.kFrames sender.remoteCid sdu.length (sender.segments sdu) =
      LeFrame.firstLeInformation sender.remoteCid (UInt16.ofNat sdu.length)
          (sdu.take (sender.mps.toNat - 2)) ::
        (fragment (sender.mps.toNat - 2) (sdu.drop (sender.mps.toNat - 2))).map
          (LeFrame.basic sender.remoteCid) := by
  have bounded := sender.mps.toNat_lt
  have size : sizeT (sender.mps.toNat - 2) = sender.mps.toNat - 2 := by
    rw [sizeT_of_lt (by omega) (by omega)]
    omega
  rw [LeCreditBasedDataController.segments, size, fragment_eq_cons (by omega) nonempty]
  rfl

/-- The frames a call of `OnSdu` appends to `pdu_queue_`. -/
theorem frames_of_queued {sender : LeCreditBasedDataController} {sdu : List UInt8}
    {frames : List LeFrame} (queued : (sender.onSdu sdu).1.pduQueue = sender.pduQueue ++ frames)
    (nonempty : sdu ≠ []) :
    frames = LeCreditBasedDataController.kFrames sender.remoteCid sdu.length
      (sender.segments sdu) := by
  have appended := @LeCreditBasedDataController.pduQueue_onSdu sender sdu nonempty
  rw [queued] at appended
  exact List.append_cancel_left appended

/-- The frames after the first carry the SDU's octets beyond the first `mps_ - 2`. -/
theorem sum_length_later_frames (remoteCid : UInt16) {segment : Nat} (positive : 0 < segment)
    (rest : List UInt8) :
    (((fragment segment rest).map (LeFrame.basic remoteCid)).map LeFrame.serialize |>.map
        (·.length - 4)).sum = rest.length := by
  have flatten := flatten_fragment positive rest
  simp only [List.map_map]
  have lengths : ((fun pdu : List UInt8 => pdu.length - 4) ∘ LeFrame.serialize ∘
      LeFrame.basic remoteCid) = List.length := by
    funext segment
    simp
  rw [lengths, ← List.length_flatten, flatten]

/-- An SDU of at most `mps_ - 6` octets travels in one first frame that a fresh peer with the
same `mps_` accepts: it is enqueued whole, with no disconnection. -/
theorem receive_onSdu_of_short (sender : LeCreditBasedDataController) (sdu : List UInt8)
    (frames : List LeFrame) (queued : (sender.onSdu sdu).1.pduQueue = sender.pduQueue ++ frames)
    (nonempty : sdu ≠ []) (short : sdu.length + 6 ≤ sender.mps.toNat)
    (cid remoteCid mtu : UInt16) :
    ((((LeCreditBasedReceiver.create cid remoteCid).setMps sender.mps).setMtu mtu).receive
        (frames.map LeFrame.serialize)).2 = [.enqueue sdu, .leCredit cid 1] := by
  have whole : sdu.take (sender.mps.toNat - 2) = sdu := List.take_of_length_le (by omega)
  have nothing_left : sdu.drop (sender.mps.toNat - 2) = [] := List.drop_of_length_le (by omega)
  rw [frames_of_queued queued nonempty, kFrames_segments sender sdu (by omega) nonempty, whole,
    nothing_left, fragment_nil]
  simp only [List.map_nil, List.map_cons, receive, List.append_nil]
  rw [onPdu_serialize_firstLeInformation rfl (by simpa [setMtu, setMps] using short),
    if_pos (UInt16.sub_self _)]
  rfl

/-- Segmentation and reassembly do not agree.  The first frame of every SDU of at least
`mps_ - 5` octets is longer than `mps_` and is dropped by a fresh peer with the same `mps_`,
whatever its `mtu_`, so the SDU is never enqueued. -/
theorem receive_never_delivers_long_sdu (sender : LeCreditBasedDataController)
    (sdu : List UInt8) (frames : List LeFrame)
    (queued : (sender.onSdu sdu).1.pduQueue = sender.pduQueue ++ frames)
    (mps_ge : 3 ≤ sender.mps.toNat) (nonempty : sdu ≠ [])
    (long : sender.mps.toNat < sdu.length + 6) (cid remoteCid mtu : UInt16) :
    ReceiverCall.enqueue sdu ∉
      ((((LeCreditBasedReceiver.create cid remoteCid).setMps sender.mps).setMtu mtu).receive
        (frames.map LeFrame.serialize)).2 := by
  have positive_length : 0 < sdu.length := List.length_pos_iff.mpr nonempty
  rw [frames_of_queued queued nonempty, kFrames_segments sender sdu mps_ge nonempty]
  intro delivered
  -- the first frame is longer than `mps_`, and the rest cannot make up the whole SDU
  have dropped := @onPdu_of_long (((LeCreditBasedReceiver.create cid remoteCid).setMps
      sender.mps).setMtu mtu) (LeFrame.firstLeInformation sender.remoteCid
        (UInt16.ofNat sdu.length) (sdu.take (sender.mps.toNat - 2))).serialize (by
    simp only [length_serialize_firstLeInformation, List.length_take, setMtu, setMps]
    omega)
  simp only [List.map_cons, receive, dropped, List.nil_append] at delivered
  have bound := receive_bounded _ _ sdu delivered
  rw [sum_length_later_frames _ (by omega)] at bound
  simp only [setMtu, setMps, create, List.length_nil, List.length_drop] at bound
  omega

theorem receive_never_delivers_long_sdu_at_mps_three :
    ReceiverCall.enqueue [0] ∉
      ((((LeCreditBasedReceiver.create 0x41 0x40).setMps 3).setMtu 512).receive
        ([LeFrame.firstLeInformation 0x41 1 [0]].map LeFrame.serialize)).2 :=
  receive_never_delivers_long_sdu { LeCreditBasedDataController.create 0x40 0x41 with mps := 3 }
    [0] [.firstLeInformation 0x41 1 [0]] (by decide) (by decide) (by decide) (by decide)
    0x41 0x40 512

end LeCreditBasedReceiver

end Bluetooth.L2cap

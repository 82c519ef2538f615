import Bluetooth.L2cap.Ertm.Events

set_option linter.all false

/-!
# Enhanced retransmission mode: segmentation and reassembly

`ErtmController::OnSdu` cuts an SDU with a `FragmentingInserter` of `remote_mps_` less the
frame overhead and hands the segments to `data_request`.  A single segment goes as
`UNSEGMENTED`.  Otherwise the segments go as a `START` segment with the SDU size, then
`CONTINUATION` segments, then an `END` segment.  `stage_for_reassembly` on the peer undoes
this.

For every non-empty SDU and every `remote_mps_` above the overhead the two agree: the peer
enqueues the SDU once, ends in `sar_state_ == END` and never closes the channel
(`reassemble_dataRequests`).  An empty SDU has no segment, and `OnSdu` then reads `segments[0]`
of the empty vector.
-/

namespace Bluetooth.L2cap.Ertm

open Packet

/-- A call `data_request(sar, segment, sdu_size)`. -/
structure DataRequest where
  /-- The segment's role in its SDU. -/
  sar : SegmentationAndReassembly
  /-- The SDU size, which only a `START` call passes; the others take the default `0`. -/
  sduSize : UInt16
  /-- The segment. -/
  segment : List UInt8
  deriving DecidableEq, Repr

/-- The calls `OnSdu` makes for the segments of an SDU of `sduSize` octets. -/
def labelSegments (sduSize : UInt16) : List (List UInt8) → List DataRequest
  | [] => []
  | [only] => [⟨.unsegmented, 0, only⟩]
  | first :: rest =>
      ⟨.start, sduSize, first⟩ :: rest.dropLast.map (⟨.continuation, 0, ·⟩) ++
        [⟨.«end», 0, rest.getLast?.getD []⟩]

/-- The labels carry the segments, in order. -/
theorem map_segment_labelSegments (sduSize : UInt16) (segments : List (List UInt8)) :
    (labelSegments sduSize segments).map DataRequest.segment = segments := by
  match segments with
  | [] => rfl
  | [only] => rfl
  | first :: second :: more =>
      have last := List.dropLast_append_getLast (List.cons_ne_nil second more)
      simp only [labelSegments, List.map_cons, List.map_append, List.map_map, Function.comp_def,
        List.map_id', List.map_nil]
      rw [List.getLast?_eq_some_getLast (List.cons_ne_nil second more), Option.getD_some,
        List.cons_append, last]

namespace ErtmController

/-- The `data_request` calls of `OnSdu`. -/
def dataRequests (controller : ErtmController) (sdu : List UInt8) : List DataRequest :=
  labelSegments (UInt16.ofNat sdu.length) (fragment controller.sizeEachPacket sdu)

/-- `data_request` for each call in turn. -/
def requestData (controller : ErtmController) (requests : List DataRequest) : ErtmController :=
  requests.foldl (fun current request =>
    current.dataRequest request.sar request.segment request.sduSize) controller

/-- `stage_for_reassembly` for each call in turn, as the peer meets the frames in order. -/
def reassemble (controller : ErtmController) (requests : List DataRequest) : ErtmController :=
  requests.foldl (fun current request =>
    current.stageForReassembly request.sar request.sduSize request.segment) controller

variable {controller : ErtmController}

/-- `OnSdu` is `data_request` for each of its calls, whenever there is a segment. -/
theorem onSdu_eq_requestData {sdu : List UInt8}
    (segmented : fragment controller.sizeEachPacket sdu ≠ []) :
    controller.onSdu sdu = controller.requestData (controller.dataRequests sdu) := by
  unfold onSdu dataRequests
  generalize fragment controller.sizeEachPacket sdu = segments at segmented ⊢
  match segments with
  | [only] => rfl
  | first :: second :: more =>
      simp only [labelSegments, requestData, List.foldl_cons, List.cons_append, List.foldl_append,
        List.foldl_map, List.foldl_nil]

/-- The segment size of `OnSdu` when `remote_mps_` exceeds the overhead. -/
theorem sizeEachPacket_of_overhead
    (overhead : 8 + (if controller.fcsEnabled then 2 else 0) < controller.remoteMps.toNat) :
    controller.sizeEachPacket =
      controller.remoteMps.toNat - 8 - (if controller.fcsEnabled then 2 else 0) := by
  have bounded := controller.remoteMps.toNat_lt
  unfold sizeEachPacket
  split <;> split at overhead <;> rw [sizeT_of_lt (by omega) (by omega)] <;> omega

/-! ### The peer's side -/

@[simp] theorem delivered_enqueueUpward (sdu : List UInt8) :
    (controller.enqueueUpward sdu).delivered = controller.delivered ++ [sdu] := by
  simp only [enqueueUpward]
  split
  · split <;> rfl
  · rfl

@[simp] theorem sarState_enqueueUpward (sdu : List UInt8) :
    (controller.enqueueUpward sdu).sarState = controller.sarState := by
  simp only [enqueueUpward]
  split
  · split <;> rfl
  · rfl

@[simp] theorem disconnectionRequests_enqueueUpward (sdu : List UInt8) :
    (controller.enqueueUpward sdu).disconnectionRequests = controller.disconnectionRequests := by
  simp only [enqueueUpward]
  split
  · split <;> rfl
  · rfl

@[simp] theorem reassemble_nil : controller.reassemble [] = controller := rfl

@[simp] theorem reassemble_cons (request : DataRequest) (requests : List DataRequest) :
    controller.reassemble (request :: requests) =
      (controller.stageForReassembly request.sar request.sduSize request.segment).reassemble
        requests := rfl

@[simp] theorem reassemble_append (first second : List DataRequest) :
    controller.reassemble (first ++ second) = (controller.reassemble first).reassemble second := by
  simp [reassemble, List.foldl_append]

/-- Continuation segments grow the stage and count down the remaining size. -/
theorem reassemble_continuations (started : controller.sarState = .start)
    (segments : List (List UInt8)) :
    controller.reassemble (segments.map (⟨.continuation, 0, ·⟩)) =
      { controller with
        reassemblyStage := controller.reassemblyStage ++ segments.flatten
        remainingSduContinuationPacketSize := controller.remainingSduContinuationPacketSize -
          UInt16.ofNat segments.flatten.length } := by
  induction segments generalizing controller with
  | nil => simp
  | cons segment segments induction =>
      have continued : controller.stageForReassembly .continuation 0 segment =
          { controller with
            reassemblyStage := controller.reassemblyStage ++ segment
            remainingSduContinuationPacketSize :=
              controller.remainingSduContinuationPacketSize - UInt16.ofNat segment.length } := by
        simp [stageForReassembly, started]
      rw [List.map_cons, reassemble_cons, continued, induction]
      · simp only [List.flatten_cons, List.append_assoc, List.length_append, UInt16.ofNat_add]
        congr 1
        grind
      · exact started

theorem stageForReassembly_start (idle : controller.sarState = .«end») (sduSize : UInt16)
    (payload : List UInt8) :
    controller.stageForReassembly .start sduSize payload =
      { controller with
        sarState := .start
        reassemblyStage := payload
        remainingSduContinuationPacketSize := sduSize - UInt16.ofNat payload.length } := by
  simp [stageForReassembly, idle]

/-- An `END` segment that brings the count to zero enqueues the stage with it. -/
theorem stageForReassembly_end_of_complete (started : controller.sarState = .start)
    {payload : List UInt8}
    (complete : controller.remainingSduContinuationPacketSize - UInt16.ofNat payload.length = 0)
    (sduSize : UInt16) :
    controller.stageForReassembly .«end» sduSize payload =
      { controller with
        sarState := .«end»
        reassemblyStage := controller.reassemblyStage ++ payload
        remainingSduContinuationPacketSize := 0 }.enqueueUpward
        (controller.reassemblyStage ++ payload) := by
  simp [stageForReassembly, started, complete]

/-- A `START` segment, continuations and an `END` segment that complete the announced size are
enqueued together, and the stage returns to `END`. -/
theorem reassemble_started (idle : controller.sarState = .«end») (first : List UInt8)
    (middle : List (List UInt8)) (last : List UInt8) :
    controller.reassemble
        (⟨.start, UInt16.ofNat (first ++ middle.flatten ++ last).length, first⟩ ::
          (middle.map (⟨.continuation, 0, ·⟩) ++ [⟨.«end», 0, last⟩])) =
      { controller with
        sarState := .«end»
        reassemblyStage := first ++ middle.flatten ++ last
        remainingSduContinuationPacketSize := 0 }.enqueueUpward (first ++ middle.flatten ++ last) := by
  -- the count starts at the whole length and each segment takes its own length off
  have complete : UInt16.ofNat (first ++ middle.flatten ++ last).length -
      UInt16.ofNat first.length - UInt16.ofNat middle.flatten.length -
      UInt16.ofNat last.length = 0 := by
    simp only [List.length_append, UInt16.ofNat_add]
    grind
  rw [reassemble_cons, stageForReassembly_start idle, reassemble_append,
    reassemble_continuations rfl, reassemble_cons, reassemble_nil,
    stageForReassembly_end_of_complete rfl complete]

/-- The peer reassembles the calls of `OnSdu` for any non-empty list of segments: it enqueues
their concatenation once, ends in `END` and never closes the channel. -/
theorem reassemble_labelSegments (idle : controller.sarState = .«end»)
    {segments : List (List UInt8)} (nonempty : segments ≠ []) :
    (controller.reassemble (labelSegments (UInt16.ofNat segments.flatten.length) segments)).delivered =
        controller.delivered ++ [segments.flatten] ∧
      (controller.reassemble
          (labelSegments (UInt16.ofNat segments.flatten.length) segments)).sarState = .«end» ∧
      (controller.reassemble
          (labelSegments (UInt16.ofNat segments.flatten.length) segments)).disconnectionRequests =
        controller.disconnectionRequests := by
  match segments with
  | [only] =>
      simp [labelSegments, stageForReassembly, idle]
  | first :: second :: more =>
      have flattened : (first :: second :: more).flatten = first ++
          (second :: more).dropLast.flatten ++ (second :: more).getLast (List.cons_ne_nil _ _) := by
        conv_lhs => rw [List.flatten_cons, ← List.dropLast_append_getLast (List.cons_ne_nil _ _)]
        simp
      have labelled : labelSegments (UInt16.ofNat (first :: second :: more).flatten.length)
          (first :: second :: more) =
          ⟨.start, UInt16.ofNat (first ++ (second :: more).dropLast.flatten ++
              (second :: more).getLast (List.cons_ne_nil _ _)).length, first⟩ ::
            ((second :: more).dropLast.map (⟨.continuation, 0, ·⟩) ++
              [⟨.«end», 0, (second :: more).getLast (List.cons_ne_nil _ _)⟩]) := by
        rw [flattened]
        rfl
      rw [labelled, reassemble_started idle, flattened]
      simp

/-- Segmentation and reassembly agree on every non-empty SDU.  `OnSdu` makes the calls of
`dataRequests`, each segment fits in `remote_mps_` less the overhead, and a peer in `END`
enqueues the SDU once, ends in `END` and closes nothing.  An empty SDU has no segment, and
`OnSdu` then reads `segments[0]` of the empty vector. -/
theorem onSdu_round_trip_except_empty (controller receiver : ErtmController)
    (overhead : 8 + (if controller.fcsEnabled then 2 else 0) < controller.remoteMps.toNat)
    (idle : receiver.sarState = .«end») :
    (controller.onSdu []).faulted = true ∧
      ∀ sdu : List UInt8, sdu ≠ [] →
        controller.onSdu sdu = controller.requestData (controller.dataRequests sdu) ∧
        (∀ request ∈ controller.dataRequests sdu,
          request.segment.length ≤
            controller.remoteMps.toNat - 8 - (if controller.fcsEnabled then 2 else 0)) ∧
        (receiver.reassemble (controller.dataRequests sdu)).delivered =
          receiver.delivered ++ [sdu] ∧
        (receiver.reassemble (controller.dataRequests sdu)).sarState = .«end» ∧
        (receiver.reassemble (controller.dataRequests sdu)).disconnectionRequests =
          receiver.disconnectionRequests := by
  have size := sizeEachPacket_of_overhead overhead
  have positive : 0 < controller.sizeEachPacket := by
    rw [size]
    by_cases fcs : controller.fcsEnabled = true <;> simp [fcs] at overhead ⊢ <;> omega
  refine ⟨by simp [onSdu], fun sdu nonempty => ?_⟩
  have segmented := fragment_ne_nil positive nonempty
  refine ⟨onSdu_eq_requestData segmented, fun request member => ?_, ?_⟩
  · -- every call carries one of the segments
    have carried : request.segment ∈ fragment controller.sizeEachPacket sdu := by
      rw [← map_segment_labelSegments (UInt16.ofNat sdu.length)
        (fragment controller.sizeEachPacket sdu)]
      exact List.mem_map_of_mem member
    rw [← size]
    exact (length_mem_fragment positive sdu _ carried).2
  · have reassembled := reassemble_labelSegments idle segmented
    rw [flatten_fragment positive sdu] at reassembled
    exact reassembled

theorem onSdu_round_trip_except_empty_at_default :
    (ErtmController.create.onSdu []).faulted = true ∧
      (ErtmController.create.reassemble (ErtmController.create.dataRequests [1, 2, 3])).delivered =
        ErtmController.create.delivered ++ [[1, 2, 3]] :=
  ⟨(onSdu_round_trip_except_empty .create .create (by decide) rfl).1,
    ((onSdu_round_trip_except_empty .create .create (by decide) rfl).2 [1, 2, 3]
      (by decide)).2.2.1⟩

end ErtmController


end Bluetooth.L2cap.Ertm

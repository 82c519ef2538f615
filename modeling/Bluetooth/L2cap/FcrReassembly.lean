import Mathlib
import Bluetooth.Lib.ByteStream

set_option linter.all false

/-!
# Legacy enhanced retransmission mode: SAR reassembly

`do_sar_reassembly` takes the in-sequence I-frames of a channel one at a time.  The state of
the reassembly is whether `p_rx_sdu` holds a buffer, and `rx_sdu_len`, the length a START frame
announced.  An UNSEGMENTED frame goes up at once; a START frame opens the buffer, CONTINUATION
frames fill it, and an END frame that completes it hands the SDU up.  Every check that fails
makes the call return `false`, and `process_i_frame` then disconnects the channel, so the run
ends there.

The grammar of the frames is stated apart from the code (`SduFrames`, `Accepted`): whole SDUs
one after another, then possibly the beginning of one more.  A run from a channel with no SDU
in progress stays connected exactly on the frames of that grammar, and hands up their SDUs in
order (`reassembleFrames_accepts_exactly`).  Every other run ends at the first frame outside
it, having handed up only the SDUs before that frame.
-/

namespace Bluetooth.L2cap.Fcr

open ByteStream

/-- The SAR field of an I-frame, `ctrl_word & L2CAP_FCR_SEG_BITS`. -/
inductive SarType where
  /-- `L2CAP_FCR_UNSEG_SDU`. -/
  | unsegSdu
  /-- `L2CAP_FCR_START_SDU`. -/
  | startSdu
  /-- `L2CAP_FCR_END_SDU`. -/
  | endSdu
  /-- `L2CAP_FCR_CONT_SDU`. -/
  | contSdu
  deriving DecidableEq, Repr

/-- `L2CAP_FCR_SEG_BITS`. -/
def l2capFcrSegBits : UInt16 := 0xC000

/-- `L2CAP_SDU_LEN_OVERHEAD`: the SDU length field of a START frame. -/
def l2capSduLenOverhead : Nat := 2

/-- The SAR type of a control word: the values `0x0000`, `0x4000` and `0x8000` of
`ctrl_word & L2CAP_FCR_SEG_BITS` are tested, and `0xC000` is the one left. -/
def SarType.ofCtrlWord (ctrlWord : UInt16) : SarType :=
  if ctrlWord &&& l2capFcrSegBits = 0x0000 then .unsegSdu
  else if ctrlWord &&& l2capFcrSegBits = 0x4000 then .startSdu
  else if ctrlWord &&& l2capFcrSegBits = 0x8000 then .endSdu
  else .contSdu

/-- An I-frame as `process_i_frame` hands it on: its control word and information payload. -/
structure IFrame where
  /-- `ctrl_word`. -/
  ctrlWord : UInt16
  /-- The octets from `p_buf->offset`, `p_buf->len` of them. -/
  payload : List UInt8
  deriving DecidableEq, Repr

/-- `sar_type`. -/
def IFrame.sarType (frame : IFrame) : SarType := SarType.ofCtrlWord frame.ctrlWord

/-- The reassembly fields of `tL2C_FCRB`: `p_rx_sdu`, with the octets gathered in it, and
`rx_sdu_len`. -/
structure Fcrb where
  /-- `p_rx_sdu`, or `NULL`. -/
  pRxSdu : Option (List UInt8)
  /-- `rx_sdu_len`. -/
  rxSduLen : UInt16
  deriving DecidableEq, Repr

/-- What a call of `do_sar_reassembly` leaves: the control block, `packet_ok`, and the SDU it
hands up, if any. -/
structure SarOutcome where
  /-- The reassembly fields after the call. -/
  fcrb : Fcrb
  /-- `packet_ok`, the value returned. -/
  packetOk : Bool
  /-- The buffer given to the fixed channel's callback or to `l2c_csm_execute`. -/
  delivered : Option (List UInt8)
  deriving DecidableEq, Repr

/-- The copy at the end of `do_sar_reassembly`, with `p_rx_sdu` holding `gathered`.  A frame
that would overrun `rx_sdu_len` fails, and so does an END frame short of it; an END frame that
completes the SDU hands it up. -/
def gatherSegment (fcrb : Fcrb) (sarType : SarType) (gathered payload : List UInt8) :
    SarOutcome :=
  if fcrb.rxSduLen.toNat < gathered.length + payload.length then ⟨fcrb, false, none⟩
  else if sarType = .endSdu ∧ gathered.length + payload.length ≠ fcrb.rxSduLen.toNat then
    ⟨fcrb, false, none⟩
  else if sarType = .endSdu then ⟨{ fcrb with pRxSdu := none }, true, some (gathered ++ payload)⟩
  else ⟨{ fcrb with pRxSdu := some (gathered ++ payload) }, true, none⟩

/-- `do_sar_reassembly`.  A failed START frame has already stored the length it read in
`rx_sdu_len`, and one that overruns its own length leaves the empty buffer allocated. -/
def doSarReassembly (maxRxMtu : UInt16) (fcrb : Fcrb) (frame : IFrame) : SarOutcome :=
  match frame.sarType with
  | .unsegSdu =>
      if fcrb.pRxSdu.isSome then ⟨fcrb, false, none⟩ else ⟨fcrb, true, some frame.payload⟩
  | .startSdu =>
      if fcrb.pRxSdu.isSome ∨ frame.payload.length < l2capSduLenOverhead then
        ⟨fcrb, false, none⟩
      else if maxRxMtu < UInt16.ofNat (field16 frame.payload 0) then
        ⟨{ fcrb with rxSduLen := UInt16.ofNat (field16 frame.payload 0) }, false, none⟩
      else
        gatherSegment ⟨some [], UInt16.ofNat (field16 frame.payload 0)⟩ .startSdu []
          (frame.payload.drop 2)
  | .endSdu =>
      match fcrb.pRxSdu with
      | none => ⟨fcrb, false, none⟩
      | some gathered => gatherSegment fcrb .endSdu gathered frame.payload
  | .contSdu =>
      match fcrb.pRxSdu with
      | none => ⟨fcrb, false, none⟩
      | some gathered => gatherSegment fcrb .contSdu gathered frame.payload

/-- A run of `process_i_frame` over in-sequence I-frames: the reassembly fields, the SDUs
handed up in order, and whether the channel is still connected. -/
structure SarRun where
  /-- The reassembly fields. -/
  fcrb : Fcrb
  /-- The SDUs handed up so far. -/
  delivered : List (List UInt8)
  /-- `false` once a call returned `false`: `l2cu_disconnect_chnl` releases the channel. -/
  connected : Bool
  deriving DecidableEq, Repr

/-- The next I-frame of a run; a disconnected channel reassembles nothing more. -/
def SarRun.next (maxRxMtu : UInt16) (run : SarRun) (frame : IFrame) : SarRun :=
  if run.connected then
    ⟨(doSarReassembly maxRxMtu run.fcrb frame).fcrb,
      run.delivered ++ (doSarReassembly maxRxMtu run.fcrb frame).delivered.toList,
      (doSarReassembly maxRxMtu run.fcrb frame).packetOk⟩
  else run

/-- `do_sar_reassembly` on each I-frame in turn, from the reassembly fields `fcrb`. -/
def reassembleFrames (maxRxMtu : UInt16) (fcrb : Fcrb) (frames : List IFrame) : SarRun :=
  frames.foldl (SarRun.next maxRxMtu) ⟨fcrb, [], true⟩

/-! ## The grammar of SDU frames -/

/-- The beginning of a segmented SDU: a START frame holding the two octets of the SDU length,
a length within `max_rx_mtu`, and CONTINUATION frames that do not overrun it.  `gathered` are
the octets of the SDU so far. -/
def SduBegun (maxRxMtu : Nat) (frames : List IFrame) (announced : Nat) (gathered : List UInt8) :
    Prop :=
  ∃ start middle, frames = start :: middle ∧ start.sarType = .startSdu ∧
    (∀ frame ∈ middle, frame.sarType = .contSdu) ∧ 2 ≤ start.payload.length ∧
    announced = field16 start.payload 0 ∧ announced ≤ maxRxMtu ∧
    gathered = start.payload.drop 2 ++ (middle.map IFrame.payload).flatten ∧
    gathered.length ≤ announced

/-- The frames of one SDU, and the SDU: one UNSEGMENTED frame, or a begun SDU and an END frame
whose payloads make up exactly the announced length. -/
inductive SduFrames (maxRxMtu : Nat) : List IFrame → List UInt8 → Prop where
  | unsegmented {frame : IFrame} (unsegmented : frame.sarType = .unsegSdu) :
      SduFrames maxRxMtu [frame] frame.payload
  | segmented {frames : List IFrame} {announced : Nat} {gathered : List UInt8} {last : IFrame}
      (begun : SduBegun maxRxMtu frames announced gathered) (ended : last.sarType = .endSdu)
      (complete : (gathered ++ last.payload).length = announced) :
      SduFrames maxRxMtu (frames ++ [last]) (gathered ++ last.payload)

/-- Frames that reassemble, with the SDUs they make: whole SDUs one after another, and the
beginning of one more or nothing. -/
def Accepted (maxRxMtu : Nat) (frames : List IFrame) (sdus : List (List UInt8)) : Prop :=
  ∃ groups : List (List IFrame × List UInt8), ∃ pending : List IFrame,
    frames = (groups.map Prod.fst).flatten ++ pending ∧
    (∀ group ∈ groups, SduFrames maxRxMtu group.1 group.2) ∧ sdus = groups.map Prod.snd ∧
    (pending = [] ∨ ∃ announced gathered, SduBegun maxRxMtu pending announced gathered)

/-! ## One call -/

section Steps

variable {maxRxMtu : UInt16} {fcrb : Fcrb} {frame : IFrame}

theorem toNat_ofNat_field16 (bytes : List UInt8) (offset : Nat) :
    (UInt16.ofNat (field16 bytes offset)).toNat = field16 bytes offset := by
  rw [UInt16.toNat_ofNat', Nat.mod_eq_of_lt (field16_lt bytes offset)]

theorem doSarReassembly_unsegmented (idle : fcrb.pRxSdu = none)
    (unsegmented : frame.sarType = .unsegSdu) :
    doSarReassembly maxRxMtu fcrb frame = ⟨fcrb, true, some frame.payload⟩ := by
  simp [doSarReassembly, unsegmented, idle]

/-- A START frame on an idle channel opens the buffer with the octets after the SDU length. -/
theorem doSarReassembly_start (idle : fcrb.pRxSdu = none) (started : frame.sarType = .startSdu)
    (long_enough : 2 ≤ frame.payload.length)
    (within_mtu : field16 frame.payload 0 ≤ maxRxMtu.toNat)
    (within_sdu : (frame.payload.drop 2).length ≤ field16 frame.payload 0) :
    doSarReassembly maxRxMtu fcrb frame =
      ⟨⟨some (frame.payload.drop 2), UInt16.ofNat (field16 frame.payload 0)⟩, true, none⟩ := by
  have fits : ¬ maxRxMtu < UInt16.ofNat (field16 frame.payload 0) := by
    rw [UInt16.lt_iff_toNat_lt, toNat_ofNat_field16]
    omega
  have not_short : ¬ frame.payload.length < l2capSduLenOverhead := by
    unfold l2capSduLenOverhead
    omega
  have room : frame.payload.length ≤ field16 frame.payload 0 % 65536 + 2 := by
    have below : field16 frame.payload 0 < 65536 := field16_lt _ _
    simp only [List.length_drop] at within_sdu
    omega
  simp [doSarReassembly, started, idle, not_short, fits, gatherSegment, room]

/-- A CONTINUATION frame within the announced length is gathered. -/
theorem doSarReassembly_cont {gathered : List UInt8} (held : fcrb.pRxSdu = some gathered)
    (continued : frame.sarType = .contSdu)
    (within_sdu : gathered.length + frame.payload.length ≤ fcrb.rxSduLen.toNat) :
    doSarReassembly maxRxMtu fcrb frame =
      ⟨{ fcrb with pRxSdu := some (gathered ++ frame.payload) }, true, none⟩ := by
  simp [doSarReassembly, continued, held, gatherSegment, Nat.not_lt.mpr within_sdu]

/-- An END frame that completes the announced length hands the SDU up. -/
theorem doSarReassembly_end {gathered : List UInt8} (held : fcrb.pRxSdu = some gathered)
    (ended : frame.sarType = .endSdu)
    (complete : gathered.length + frame.payload.length = fcrb.rxSduLen.toNat) :
    doSarReassembly maxRxMtu fcrb frame =
      ⟨{ fcrb with pRxSdu := none }, true, some (gathered ++ frame.payload)⟩ := by
  simp [doSarReassembly, ended, held, gatherSegment, complete]

/-- What a call that succeeds on an idle channel did: an UNSEGMENTED frame went up, or a START
frame within the limits opened the buffer. -/
theorem doSarReassembly_of_idle (idle : fcrb.pRxSdu = none)
    (ok : (doSarReassembly maxRxMtu fcrb frame).packetOk = true) :
    frame.sarType = .unsegSdu ∨
      (frame.sarType = .startSdu ∧ 2 ≤ frame.payload.length ∧
        field16 frame.payload 0 ≤ maxRxMtu.toNat ∧
        (frame.payload.drop 2).length ≤ field16 frame.payload 0) := by
  cases sar : frame.sarType with
  | unsegSdu => exact .inl rfl
  | startSdu =>
      refine .inr ⟨rfl, ?_⟩
      simp only [doSarReassembly, sar, idle, Option.isSome_none, Bool.false_eq_true, false_or,
        l2capSduLenOverhead] at ok
      split at ok
      · cases ok
      · split at ok
        · cases ok
        · rename_i not_short fits
          rw [UInt16.lt_iff_toNat_lt, toNat_ofNat_field16] at fits
          simp only [gatherSegment, toNat_ofNat_field16, List.length_nil, Nat.zero_add] at ok
          split at ok
          · cases ok
          · rename_i within_sdu
            exact ⟨by omega, by omega, by omega⟩
  | endSdu => simp [doSarReassembly, sar, idle] at ok
  | contSdu => simp [doSarReassembly, sar, idle] at ok

/-- What a call that succeeds with a buffer held did: a CONTINUATION frame within the
announced length was gathered, or an END frame completed it. -/
theorem doSarReassembly_of_held {gathered : List UInt8} (held : fcrb.pRxSdu = some gathered)
    (ok : (doSarReassembly maxRxMtu fcrb frame).packetOk = true) :
    (frame.sarType = .contSdu ∧ gathered.length + frame.payload.length ≤ fcrb.rxSduLen.toNat) ∨
      (frame.sarType = .endSdu ∧
        gathered.length + frame.payload.length = fcrb.rxSduLen.toNat) := by
  cases sar : frame.sarType with
  | unsegSdu => simp [doSarReassembly, sar, held] at ok
  | startSdu => simp [doSarReassembly, sar, held] at ok
  | endSdu =>
      simp only [doSarReassembly, sar, held, gatherSegment] at ok
      refine .inr ⟨rfl, ?_⟩
      split at ok
      · cases ok
      · split at ok
        · cases ok
        · rename_i within complete
          simp only [true_and, Decidable.not_not] at complete
          exact complete
  | contSdu =>
      simp only [doSarReassembly, sar, held, gatherSegment] at ok
      refine .inl ⟨rfl, ?_⟩
      split at ok
      · cases ok
      · omega

theorem delivered_gatherSegment_of_failed {current : Fcrb} {sar : SarType}
    {gathered payload : List UInt8}
    (failed : (gatherSegment current sar gathered payload).packetOk = false) :
    (gatherSegment current sar gathered payload).delivered = none := by
  unfold gatherSegment at failed ⊢
  -- the branches that succeed are closed by `split_ifs` itself
  split_ifs at failed ⊢
  · rfl
  · rfl

/-- A call that fails hands nothing up. -/
theorem delivered_of_failed (failed : (doSarReassembly maxRxMtu fcrb frame).packetOk = false) :
    (doSarReassembly maxRxMtu fcrb frame).delivered = none := by
  unfold doSarReassembly at failed ⊢
  split at failed
  · split_ifs at failed ⊢
    rfl
  · split_ifs at failed ⊢
    · rfl
    · rfl
    · exact delivered_gatherSegment_of_failed failed
  · split at failed
    · rfl
    · exact delivered_gatherSegment_of_failed failed
  · split at failed
    · rfl
    · exact delivered_gatherSegment_of_failed failed

end Steps

/-! ## Runs -/

section Runs

variable {maxRxMtu : UInt16}

theorem next_of_connected {run : SarRun} (connected : run.connected = true) (frame : IFrame)
    {outcome : SarOutcome} (call : doSarReassembly maxRxMtu run.fcrb frame = outcome) :
    run.next maxRxMtu frame = ⟨outcome.fcrb, run.delivered ++ outcome.delivered.toList,
      outcome.packetOk⟩ := by
  simp [SarRun.next, connected, call]

theorem next_of_disconnected {run : SarRun} (disconnected : run.connected = false)
    (frame : IFrame) : run.next maxRxMtu frame = run := by
  simp [SarRun.next, disconnected]

/-- A run that is connected after a frame was connected before it, and the call succeeded. -/
theorem connected_of_next {run : SarRun} {frame : IFrame}
    (connected : (run.next maxRxMtu frame).connected = true) :
    run.connected = true ∧ (doSarReassembly maxRxMtu run.fcrb frame).packetOk = true := by
  cases before : run.connected with
  | false => simp [next_of_disconnected before, before] at connected
  | true => exact ⟨rfl, by simpa [next_of_connected before frame rfl] using connected⟩

theorem reassembleFrames_append_singleton (fcrb : Fcrb) (frames : List IFrame)
    (frame : IFrame) :
    reassembleFrames maxRxMtu fcrb (frames ++ [frame]) =
      (reassembleFrames maxRxMtu fcrb frames).next maxRxMtu frame := by
  simp [reassembleFrames, List.foldl_append]

/-- What a connected run has read after its whole SDUs: nothing, with no buffer held, or the
beginning of an SDU, whose octets the buffer holds. -/
def Pending (maxRxMtu : Nat) (fcrb : Fcrb) (pending : List IFrame) : Prop :=
  (pending = [] ∧ fcrb.pRxSdu = none) ∨
    ∃ announced gathered, SduBegun maxRxMtu pending announced gathered ∧
      fcrb.pRxSdu = some gathered ∧ fcrb.rxSduLen.toNat = announced

/-- A CONTINUATION frame within the announced length extends a begun SDU. -/
theorem SduBegun.cont {mtu announced : Nat} {pending : List IFrame} {gathered : List UInt8}
    (begun : SduBegun mtu pending announced gathered) {frame : IFrame}
    (continued : frame.sarType = .contSdu)
    (within_sdu : gathered.length + frame.payload.length ≤ announced) :
    SduBegun mtu (pending ++ [frame]) announced (gathered ++ frame.payload) := by
  obtain ⟨start, middle, rfl, started, middle_cont, long_enough, announced_eq, within_mtu,
    rfl, -⟩ := begun
  refine ⟨start, middle ++ [frame], rfl, started, ?_, long_enough, announced_eq, within_mtu,
    by simp, ?_⟩
  · intro other member
    rcases List.mem_append.1 member with earlier | last
    · exact middle_cont other earlier
    · rw [List.mem_singleton.1 last]
      exact continued
  · simp at within_sdu ⊢
    omega

/-- A START frame within the limits begins an SDU. -/
theorem sduBegun_start {mtu : Nat} {frame : IFrame} (started : frame.sarType = .startSdu)
    (long_enough : 2 ≤ frame.payload.length) (within_mtu : field16 frame.payload 0 ≤ mtu)
    (within_sdu : (frame.payload.drop 2).length ≤ field16 frame.payload 0) :
    SduBegun mtu [frame] (field16 frame.payload 0) (frame.payload.drop 2) :=
  ⟨frame, [], rfl, started, by simp, long_enough, rfl, within_mtu, by simp, within_sdu⟩

/-- Soundness: a run from an idle channel that is still connected has read whole SDUs of the
grammar, whose SDUs it handed up in order, and then the beginning of one more, which the buffer
holds.  The induction adds one frame at the end, and the step lemmas say what the call did. -/
theorem parse_of_connected {fcrb : Fcrb} (idle : fcrb.pRxSdu = none) (frames : List IFrame)
    (connected : (reassembleFrames maxRxMtu fcrb frames).connected = true) :
    ∃ groups : List (List IFrame × List UInt8), ∃ pending : List IFrame,
      frames = (groups.map Prod.fst).flatten ++ pending ∧
      (∀ group ∈ groups, SduFrames maxRxMtu.toNat group.1 group.2) ∧
      (reassembleFrames maxRxMtu fcrb frames).delivered = groups.map Prod.snd ∧
      Pending maxRxMtu.toNat (reassembleFrames maxRxMtu fcrb frames).fcrb pending := by
  induction frames using List.reverseRecOn with
  | nil => exact ⟨[], [], rfl, by simp, rfl, .inl ⟨rfl, idle⟩⟩
  | append_singleton frames frame induction =>
      rw [reassembleFrames_append_singleton] at connected ⊢
      obtain ⟨before, ok⟩ := connected_of_next connected
      obtain ⟨groups, pending, rfl, whole, delivered, state⟩ := induction before
      rcases state with ⟨rfl, held⟩ | ⟨announced, gathered, begun, held, length⟩
      · rcases doSarReassembly_of_idle held ok with unsegmented | ⟨started, long_enough,
          within_mtu, within_sdu⟩
        · rw [next_of_connected before frame (doSarReassembly_unsegmented held unsegmented)]
          refine ⟨groups ++ [([frame], frame.payload)], [], by simp, ?_, by rw [delivered]; simp,
            .inl ⟨rfl, held⟩⟩
          intro group member
          rcases List.mem_append.1 member with earlier | last
          · exact whole group earlier
          · rw [List.mem_singleton.1 last]
            exact .unsegmented unsegmented
        · rw [next_of_connected before frame
            (doSarReassembly_start held started long_enough within_mtu within_sdu)]
          exact ⟨groups, [frame], by simp, whole, by simpa using delivered,
            .inr ⟨_, _, sduBegun_start started long_enough within_mtu within_sdu, rfl,
              toNat_ofNat_field16 _ _⟩⟩
      · rcases doSarReassembly_of_held held ok with ⟨continued, within_sdu⟩ | ⟨ended, complete⟩
        · rw [next_of_connected before frame (doSarReassembly_cont held continued within_sdu)]
          exact ⟨groups, pending ++ [frame], by simp, whole, by simpa using delivered,
            .inr ⟨announced, gathered ++ frame.payload,
              begun.cont continued (by omega), rfl, length⟩⟩
        · rw [next_of_connected before frame (doSarReassembly_end held ended complete)]
          refine ⟨groups ++ [(pending ++ [frame], gathered ++ frame.payload)], [], by simp, ?_,
            by rw [delivered]; simp, .inl ⟨rfl, rfl⟩⟩
          intro group member
          rcases List.mem_append.1 member with earlier | last
          · exact whole group earlier
          · rw [List.mem_singleton.1 last]
            exact .segmented begun ended (by simp; omega)

/-- A run that is connected has read a string of the grammar, with the SDUs it handed up. -/
theorem accepted_of_connected {fcrb : Fcrb} (idle : fcrb.pRxSdu = none) {frames : List IFrame}
    (connected : (reassembleFrames maxRxMtu fcrb frames).connected = true) :
    Accepted maxRxMtu.toNat frames (reassembleFrames maxRxMtu fcrb frames).delivered := by
  obtain ⟨groups, pending, split, whole, delivered, state⟩ :=
    parse_of_connected idle frames connected
  refine ⟨groups, pending, split, whole, delivered, ?_⟩
  rcases state with ⟨empty, -⟩ | ⟨announced, gathered, begun, -, -⟩
  · exact .inl empty
  · exact .inr ⟨announced, gathered, begun⟩

/-- CONTINUATION frames within the announced length are gathered one after another. -/
theorem foldl_continuations {run : SarRun} (connected : run.connected = true)
    {gathered : List UInt8} (held : run.fcrb.pRxSdu = some gathered) {middle : List IFrame}
    (continued : ∀ frame ∈ middle, frame.sarType = .contSdu)
    (within_sdu : (gathered ++ (middle.map IFrame.payload).flatten).length ≤
      run.fcrb.rxSduLen.toNat) :
    middle.foldl (SarRun.next maxRxMtu) run =
      ⟨⟨some (gathered ++ (middle.map IFrame.payload).flatten), run.fcrb.rxSduLen⟩,
        run.delivered, true⟩ := by
  induction middle generalizing run gathered with
  | nil =>
      obtain ⟨⟨buffer, length⟩, delivered, connection⟩ := run
      simp only at connected held
      simp [connected, held]
  | cons frame rest induction =>
      have within : gathered.length + frame.payload.length ≤ run.fcrb.rxSduLen.toNat := by
        simp at within_sdu
        omega
      have step : run.next maxRxMtu frame =
          ⟨⟨some (gathered ++ frame.payload), run.fcrb.rxSduLen⟩, run.delivered, true⟩ := by
        rw [next_of_connected connected frame
          (doSarReassembly_cont held (continued frame List.mem_cons_self) within)]
        simp
      rw [List.foldl_cons, step, @induction
        ⟨⟨some (gathered ++ frame.payload), run.fcrb.rxSduLen⟩, run.delivered, true⟩ rfl
        (gathered ++ frame.payload) rfl (fun other member => continued other
          (List.mem_cons_of_mem _ member)) (by simpa using within_sdu)]
      simp

/-- The frames of a begun SDU leave its octets in the buffer. -/
theorem foldl_sduBegun {run : SarRun} (connected : run.connected = true)
    (idle : run.fcrb.pRxSdu = none) {frames : List IFrame} {announced : Nat}
    {gathered : List UInt8} (begun : SduBegun maxRxMtu.toNat frames announced gathered) :
    frames.foldl (SarRun.next maxRxMtu) run =
      ⟨⟨some gathered, UInt16.ofNat announced⟩, run.delivered, true⟩ := by
  obtain ⟨start, middle, rfl, started, continued, long_enough, rfl, within_mtu, rfl,
    within_sdu⟩ := begun
  have opened : run.next maxRxMtu start = ⟨⟨some (start.payload.drop 2),
      UInt16.ofNat (field16 start.payload 0)⟩, run.delivered, true⟩ := by
    rw [next_of_connected connected start (doSarReassembly_start idle started long_enough
      within_mtu (by simp at within_sdu ⊢; omega))]
    simp
  rw [List.foldl_cons, opened, foldl_continuations rfl rfl continued
    (by rw [toNat_ofNat_field16]; simpa using within_sdu)]

/-- The frames of one SDU hand it up and leave no buffer held. -/
theorem foldl_sduFrames {run : SarRun} (connected : run.connected = true)
    (idle : run.fcrb.pRxSdu = none) {frames : List IFrame} {sdu : List UInt8}
    (whole : SduFrames maxRxMtu.toNat frames sdu) :
    ∃ fcrb, frames.foldl (SarRun.next maxRxMtu) run = ⟨fcrb, run.delivered ++ [sdu], true⟩ ∧
      fcrb.pRxSdu = none := by
  cases whole with
  | unsegmented unsegmented =>
      refine ⟨run.fcrb, ?_, idle⟩
      rw [List.foldl_cons, List.foldl_nil,
        next_of_connected connected _ (doSarReassembly_unsegmented idle unsegmented)]
      rfl
  | @segmented frames announced gathered last begun ended complete =>
      have small : announced < 2 ^ 16 := by
        obtain ⟨-, -, -, -, -, -, -, within_mtu, -, -⟩ := begun
        have := maxRxMtu.toNat_lt
        omega
      have length : (UInt16.ofNat announced).toNat = announced := by
        rw [UInt16.toNat_ofNat', Nat.mod_eq_of_lt small]
      refine ⟨⟨none, UInt16.ofNat announced⟩, ?_, rfl⟩
      rw [List.foldl_append, foldl_sduBegun connected idle begun, List.foldl_cons,
        List.foldl_nil, next_of_connected rfl _ (doSarReassembly_end rfl ended
          (by rw [length, ← complete, List.length_append]))]
      rfl

/-- Whole SDUs one after another hand them up in order, and leave no buffer held. -/
theorem foldl_groups (run : SarRun) (connected : run.connected = true)
    (idle : run.fcrb.pRxSdu = none) (groups : List (List IFrame × List UInt8))
    (whole : ∀ group ∈ groups, SduFrames maxRxMtu.toNat group.1 group.2) :
    ∃ fcrb, (groups.map Prod.fst).flatten.foldl (SarRun.next maxRxMtu) run =
      ⟨fcrb, run.delivered ++ groups.map Prod.snd, true⟩ ∧ fcrb.pRxSdu = none := by
  induction groups generalizing run with
  | nil =>
      obtain ⟨fcrb, delivered, connection⟩ := run
      simp only at connected idle
      exact ⟨fcrb, by simp [connected], idle⟩
  | cons group groups induction =>
      obtain ⟨after, first, after_idle⟩ :=
        foldl_sduFrames connected idle (whole group List.mem_cons_self)
      obtain ⟨final, rest, final_idle⟩ := induction ⟨after, run.delivered ++ [group.2], true⟩
        rfl after_idle (fun other member => whole other (List.mem_cons_of_mem _ member))
      refine ⟨final, ?_, final_idle⟩
      rw [List.map_cons, List.flatten_cons, List.foldl_append, first, rest]
      simp

/-- Completeness: from an idle channel, frames of the grammar keep the channel connected and
hand up their SDUs in order. -/
theorem reassembleFrames_of_accepted {fcrb : Fcrb} (idle : fcrb.pRxSdu = none)
    {frames : List IFrame} {sdus : List (List UInt8)}
    (accepted : Accepted maxRxMtu.toNat frames sdus) :
    (reassembleFrames maxRxMtu fcrb frames).connected = true ∧
      (reassembleFrames maxRxMtu fcrb frames).delivered = sdus := by
  obtain ⟨groups, pending, rfl, whole, rfl, rest⟩ := accepted
  obtain ⟨after, run, after_idle⟩ := foldl_groups ⟨fcrb, [], true⟩ rfl idle groups whole
  rw [reassembleFrames, List.foldl_append, run]
  rcases rest with rfl | ⟨announced, gathered, begun⟩
  · simp
  · rw [foldl_sduBegun rfl after_idle begun]
    simp

end Runs

/-- Reassembly accepts exactly the frames of the grammar.  From a channel with no SDU in
progress, a run stays connected and hands up `sdus` exactly when its frames are whole SDUs
followed by the beginning of one, and `sdus` are theirs.  A run that disconnects stopped at a
frame after which no string of the grammar begins: the call on it returned `false`, handed
nothing up, and the SDUs handed up are those of the frames before it. -/
theorem reassembleFrames_accepts_exactly (maxRxMtu rxSduLen : UInt16) :
    (∀ frames sdus, ((reassembleFrames maxRxMtu ⟨none, rxSduLen⟩ frames).connected = true ∧
        (reassembleFrames maxRxMtu ⟨none, rxSduLen⟩ frames).delivered = sdus) ↔
      Accepted maxRxMtu.toNat frames sdus) ∧
    ∀ frames, (reassembleFrames maxRxMtu ⟨none, rxSduLen⟩ frames).connected = false →
      ∃ accepted bad rest, frames = accepted ++ bad :: rest ∧
        Accepted maxRxMtu.toNat accepted
          (reassembleFrames maxRxMtu ⟨none, rxSduLen⟩ frames).delivered ∧
        (¬ ∃ sdus, Accepted maxRxMtu.toNat (accepted ++ [bad]) sdus) ∧
        (doSarReassembly maxRxMtu (reassembleFrames maxRxMtu ⟨none, rxSduLen⟩ accepted).fcrb
            bad).packetOk = false ∧
        (doSarReassembly maxRxMtu (reassembleFrames maxRxMtu ⟨none, rxSduLen⟩ accepted).fcrb
            bad).delivered = none := by
  have idle : (⟨none, rxSduLen⟩ : Fcrb).pRxSdu = none := rfl
  refine ⟨fun frames sdus => ⟨?_, reassembleFrames_of_accepted idle⟩, ?_⟩
  · rintro ⟨connected, rfl⟩
    exact accepted_of_connected idle connected
  · intro frames disconnected
    induction frames using List.reverseRecOn with
    | nil => simp [reassembleFrames] at disconnected
    | append_singleton frames frame induction =>
        rw [reassembleFrames_append_singleton] at disconnected ⊢
        cases before : (reassembleFrames maxRxMtu ⟨none, rxSduLen⟩ frames).connected with
        | false =>
            obtain ⟨accepted, bad, rest, rfl, good, never, failed, nothing⟩ := induction before
            rw [next_of_disconnected before]
            exact ⟨accepted, bad, rest ++ [frame], by simp, good, never, failed, nothing⟩
        | true =>
            have failed : (doSarReassembly maxRxMtu
                (reassembleFrames maxRxMtu ⟨none, rxSduLen⟩ frames).fcrb frame).packetOk = false := by
              simpa [next_of_connected before frame rfl] using disconnected
            refine ⟨frames, frame, [], rfl, ?_, ?_, failed, delivered_of_failed failed⟩
            · rw [next_of_connected before frame rfl, delivered_of_failed failed]
              simpa using accepted_of_connected idle before
            · rintro ⟨sdus, accepted⟩
              have connected := (reassembleFrames_of_accepted idle accepted).1
              rw [reassembleFrames_append_singleton, next_of_connected before frame rfl,
                failed] at connected
              cases connected

end Bluetooth.L2cap.Fcr

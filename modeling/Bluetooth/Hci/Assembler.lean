import Mathlib
import Bluetooth.Lib.Transition

set_option linter.all false

/-!
# Recombination of incoming ACL data in the gd ACL manager

`assembler::on_incoming_packet` rebuilds L2CAP PDUs from the ACL packets of one connection.  A
starting packet announces the length of its PDU in its first two octets; the assembler keeps the
octets still expected in `remaining_sdu_continuation_packet_size_`, a `size_t`, and stages the
fragments in `recombination_stage_`, a `PacketView` made of the payload views, until the count
reaches zero.  A complete PDU goes to `incoming_queue_`.

The payload of an empty ACL packet is a view with no fragment, and a starting packet of fewer
than four octets announces the size 0, from which the count subtracts the payload size less
four: for an empty starting packet the count wraps to 4, and the empty view is staged.
`PacketView::Append` then finds no fragment to insert after, and its `ASSERT` fails on the next
continuing fragment (`onIncomingPacket_asserts_after_empty_start`).  A starting packet longer
than its announced PDU wraps the count the other way, to nearly `2 ^ 64`, and every continuing
fragment after it is staged (`stage_grows_after_overlong_start`).
-/

namespace Bluetooth.Hci

/-- `kMaxQueuedPacketsPerConnection`. -/
def kMaxQueuedPacketsPerConnection : Nat := 10

/-- `kL2capBasicFrameHeaderSize`. -/
def kL2capBasicFrameHeaderSize : Nat := 4

/-- The `size_t` the code keeps of an integer. -/
def wrap64 (value : Int) : Nat := (value % 2 ^ 64).toNat

/-- `packet::PacketView`: its fragments, each the octets of a view.  Its `length_` is their
total, which every constructor and `Append` keep. -/
abbrev PacketView := List (List UInt8)

namespace PacketView

/-- `size()`. -/
def size (view : PacketView) : Nat := (view.map List.length).sum

/-- The view made from a new empty vector: one empty fragment. -/
def empty : PacketView := [[]]

/-- The loop of `Append` that walks to its insertion point: the fragment at which the octets up
to it make `remaining`, `none` when it walks to `end()`.  As the length is the fragments' total,
`remaining` never drops below the size of the fragment it meets. -/
def insertionPoint : PacketView → Nat → Option Nat
  | [], _ => none
  | fragment :: rest, remaining =>
    if remaining = 0 then some 0
    else if remaining - fragment.length > 0 then
      (insertionPoint rest (remaining - fragment.length)).map (· + 1)
    else some 0

/-- `Append`: the fragments of `toAdd` after the insertion point, or `none` where
`ASSERT(insertion_point != fragments_.end())` fails. -/
def append (view toAdd : PacketView) : Option PacketView :=
  (insertionPoint view view.size).map fun point =>
    view.take (point + 1) ++ toAdd ++ view.drop (point + 1)

@[simp] theorem size_nil : size [] = 0 := rfl

@[simp] theorem size_cons (fragment : List UInt8) (view : PacketView) :
    size (fragment :: view) = fragment.length + size view := rfl

@[simp] theorem append_nil (toAdd : PacketView) : append [] toAdd = none := rfl

/-- In a view of nonempty fragments, `Append` inserts after the last one. -/
theorem insertionPoint_of_nonempty : ∀ (view : PacketView), view ≠ [] → (∀ f ∈ view, f ≠ []) →
    insertionPoint view view.size = some (view.length - 1)
  | [], absent, _ => absurd rfl absent
  | [fragment], _, nonempty => by
    have : fragment.length ≠ 0 := by simpa using nonempty fragment (by simp)
    simp [insertionPoint, this]
  | fragment :: next :: rest, _, nonempty => by
    have later : 0 < size (next :: rest) := by
      have : next.length ≠ 0 := by simpa using nonempty next (by simp)
      simp only [size_cons]
      omega
    have tail := insertionPoint_of_nonempty (next :: rest) (List.cons_ne_nil _ _)
      (fun f member => nonempty f (List.mem_cons_of_mem _ member))
    simp only [size_cons] at later tail ⊢
    rw [insertionPoint, if_neg (by omega), if_pos (by omega), Nat.add_sub_cancel_left, tail]
    simp

theorem append_of_nonempty {view : PacketView} (toAdd : PacketView) (present : view ≠ [])
    (nonempty : ∀ f ∈ view, f ≠ []) : view.append toAdd = some (view ++ toAdd) := by
  have last : view.length - 1 + 1 = view.length := by
    have := List.length_pos_of_ne_nil present
    omega
  simp [append, insertionPoint_of_nonempty view present nonempty, last]

end PacketView

/-- `PacketBoundaryFlag`, a two-bit field; `reserved` is the value 3, which it does not name. -/
inductive PacketBoundaryFlag where
  | firstNonAutomaticallyFlushable
  | continuingFragment
  | firstAutomaticallyFlushable
  | reserved
deriving DecidableEq, Repr

/-- `BroadcastFlag`, a two-bit field. -/
inductive BroadcastFlag where
  | pointToPoint
  | activePeripheralBroadcast
  | reserved2
  | reserved3
deriving DecidableEq, Repr

/-- An `AclView` of one connection: its flags and the octets of its payload. -/
structure AclView where
  packetBoundaryFlag : PacketBoundaryFlag
  broadcastFlag : BroadcastFlag
  data : List UInt8
deriving DecidableEq, Repr

/-- `GetPayload()` of a packet received in one buffer: one view of the payload octets, and no
view at all when there are none, since `GetSubviewList` keeps no view of a fragment that it
starts at the end of. -/
def AclView.getPayload (packet : AclView) : PacketView :=
  if packet.data = [] then [] else [packet.data]

/-- `GetL2capPduSize`: the announced length of a starting packet, 0 when it has fewer than four
octets. -/
def getL2capPduSize (packet : AclView) : Nat :=
  if packet.getPayload.size < kL2capBasicFrameHeaderSize then 0
  else (packet.data.getD 1 0).toNat * 256 + (packet.data.getD 0 0).toNat

/-- The state of an `assembler`. -/
structure Assembler where
  recombinationStage : PacketView
  remainingSduContinuationPacketSize : Nat
  incomingQueue : List PacketView
  enqueueRegistered : Bool
deriving DecidableEq, Repr

namespace Assembler

/-- A new assembler. -/
def initial : Assembler := ⟨PacketView.empty, 0, [], false⟩

/-- The end of `on_incoming_packet`: a PDU is queued unless the queue is congested, and the
enqueue end is registered. -/
def push (assembler : Assembler) (payload : PacketView) : Assembler :=
  if kMaxQueuedPacketsPerConnection < assembler.incomingQueue.length then assembler
  else
    { assembler with
      incomingQueue := assembler.incomingQueue ++ [payload], enqueueRegistered := true }

/-- `on_incoming_packet`; `none` when an `ASSERT` fails. -/
def onIncomingPacket (assembler : Assembler) (packet : AclView) : Option Assembler :=
  let payload := packet.getPayload
  let payloadSize := payload.size
  match packet.broadcastFlag, packet.packetBoundaryFlag with
  | .activePeripheralBroadcast, _ => some assembler
  | _, .firstNonAutomaticallyFlushable => some assembler
  | _, .continuingFragment =>
    if assembler.remainingSduContinuationPacketSize < payloadSize then
      some { assembler with
        recombinationStage := PacketView.empty, remainingSduContinuationPacketSize := 0 }
    else
      let remaining := assembler.remainingSduContinuationPacketSize - payloadSize
      match assembler.recombinationStage.append payload with
      | none => none
      | some stage =>
        if remaining ≠ 0 then
          some { assembler with
            recombinationStage := stage, remainingSduContinuationPacketSize := remaining }
        else
          some ({ assembler with
            recombinationStage := PacketView.empty,
            remainingSduContinuationPacketSize := remaining }.push stage)
  | _, .firstAutomaticallyFlushable =>
    let remaining := wrap64 ((getL2capPduSize packet : Int) -
      (wrap64 ((payloadSize : Int) - kL2capBasicFrameHeaderSize) : Int))
    if remaining > 0 then
      some { assembler with
        recombinationStage := payload, remainingSduContinuationPacketSize := remaining }
    else some ({ assembler with remainingSduContinuationPacketSize := remaining }.push payload)
  | _, .reserved => some (assembler.push payload)

/-- `on_le_incoming_data_ready`, which the queue calls only while the enqueue end is
registered: the front PDU, and the enqueue end unregistered once the queue is empty. -/
def onLeIncomingDataReady (assembler : Assembler) : Option (Assembler × PacketView) :=
  match assembler.incomingQueue with
  | [] => none
  | payload :: rest =>
    some ({ assembler with
      incomingQueue := rest, enqueueRegistered := assembler.enqueueRegistered && !rest.isEmpty },
      payload)

end Assembler

/-- What happens to an assembler: an ACL packet arrives, or the upper layer takes a PDU. -/
inductive AssemblerEvent where
  | incoming (packet : AclView)
  | dataReady
deriving DecidableEq, Repr

/-- One event; `none` when it fails an `ASSERT` or finds nothing to take. -/
def assemblerStep (assembler : Assembler) : AssemblerEvent → Option Assembler
  | .incoming packet => assembler.onIncomingPacket packet
  | .dataReady => assembler.onLeIncomingDataReady.map Prod.fst

/-- A continuing fragment that the count leaves room for is staged after the fragments before it. -/
theorem onIncomingPacket_continuing {assembler : Assembler} {fragment : List UInt8}
    (present : fragment ≠ []) (staged : assembler.recombinationStage ≠ [])
    (stagedNonempty : ∀ f ∈ assembler.recombinationStage, f ≠ [])
    (room : fragment.length < assembler.remainingSduContinuationPacketSize) :
    assembler.onIncomingPacket ⟨.continuingFragment, .pointToPoint, fragment⟩ =
      some { assembler with
        recombinationStage := assembler.recombinationStage ++ [fragment]
        remainingSduContinuationPacketSize :=
          assembler.remainingSduContinuationPacketSize - fragment.length } := by
  have fits : ¬ assembler.remainingSduContinuationPacketSize < fragment.length := by omega
  have left : assembler.remainingSduContinuationPacketSize - fragment.length ≠ 0 := by omega
  simp [Assembler.onIncomingPacket, AclView.getPayload, present,
    PacketView.append_of_nonempty _ staged stagedNonempty, fits, left]

/-- Continuing fragments that the count leaves room for are all staged, and nothing is
queued. -/
theorem run_continuing (assembler : Assembler) (fragments : List (List UInt8))
    (staged : assembler.recombinationStage ≠ [])
    (stagedNonempty : ∀ f ∈ assembler.recombinationStage, f ≠ [])
    (nonempty : ∀ f ∈ fragments, f ≠ [])
    (room : PacketView.size fragments < assembler.remainingSduContinuationPacketSize) :
    Transition.run assemblerStep assembler
        (fragments.map fun f => .incoming ⟨.continuingFragment, .pointToPoint, f⟩) =
      some { assembler with
        recombinationStage := assembler.recombinationStage ++ fragments
        remainingSduContinuationPacketSize :=
          assembler.remainingSduContinuationPacketSize - PacketView.size fragments } := by
  induction fragments generalizing assembler with
  | nil => simp
  | cons fragment rest induction =>
    simp only [PacketView.size_cons] at room
    have present : fragment ≠ [] := nonempty fragment (by simp)
    rw [List.map_cons, Transition.run_cons, assemblerStep,
      onIncomingPacket_continuing present staged stagedNonempty (by omega), Option.bind_some,
      induction]
    · simp only [List.append_assoc, List.singleton_append, PacketView.size_cons]
      congr 2
      omega
    · simp
    · intro f member
      rcases List.mem_append.1 member with old | new
      · exact stagedNonempty f old
      · simp only [List.mem_singleton] at new
        rw [new]
        exact present
    · exact fun f member => nonempty f (List.mem_cons_of_mem _ member)
    · simp only
      omega

/-- After an empty starting packet, a continuing fragment of at most four octets fails the
`ASSERT` of `PacketView::Append`, whatever the assembler held before. -/
theorem onIncomingPacket_asserts_after_empty_start (assembler : Assembler) (next : List UInt8)
    (short : next.length ≤ 4) :
    Transition.run assemblerStep assembler
      [.incoming ⟨.firstAutomaticallyFlushable, .pointToPoint, []⟩,
        .incoming ⟨.continuingFragment, .pointToPoint, next⟩] = none := by
  have start : assembler.onIncomingPacket ⟨.firstAutomaticallyFlushable, .pointToPoint, []⟩ =
      some { assembler with recombinationStage := [], remainingSduContinuationPacketSize := 4 } :=
    rfl
  have fits : ¬ 4 < (AclView.getPayload ⟨.continuingFragment, .pointToPoint, next⟩).size := by
    unfold AclView.getPayload
    split
    · simp
    · simp only [PacketView.size_cons, PacketView.size_nil]
      omega
  rw [Transition.run_cons, assemblerStep, start, Option.bind_some, Transition.run_cons,
    assemblerStep]
  simp [Assembler.onIncomingPacket, fits]

theorem onIncomingPacket_asserts_after_empty_start_initial :
    Transition.run assemblerStep Assembler.initial
      [.incoming ⟨.firstAutomaticallyFlushable, .pointToPoint, []⟩,
        .incoming ⟨.continuingFragment, .pointToPoint, [0x01]⟩] = none :=
  onIncomingPacket_asserts_after_empty_start Assembler.initial [0x01] (by decide)

theorem wrap64_sub {small large : Nat} (below : small < large) (bounded : large - small < 2 ^ 64) :
    wrap64 ((small : Int) - large) = 2 ^ 64 - (large - small) := by
  unfold wrap64
  omega

/-- A starting packet that carries more than the PDU it announces wraps the count to nearly
`2 ^ 64`, and every continuing fragment after it is staged, past any size a PDU can have. -/
theorem stage_grows_after_overlong_start (assembler : Assembler) (start : List UInt8)
    (fragments : List (List UInt8)) (header : kL2capBasicFrameHeaderSize ≤ start.length)
    (short : start.length ≤ 65535)
    (overlong : getL2capPduSize ⟨.firstAutomaticallyFlushable, .pointToPoint, start⟩ +
      kL2capBasicFrameHeaderSize < start.length)
    (nonempty : ∀ f ∈ fragments, f ≠ []) (bounded : PacketView.size fragments < 2 ^ 63) :
    ∃ final, Transition.run assemblerStep assembler
        (.incoming ⟨.firstAutomaticallyFlushable, .pointToPoint, start⟩ ::
          fragments.map fun f => .incoming ⟨.continuingFragment, .pointToPoint, f⟩) = some final ∧
      final.recombinationStage.size = start.length + PacketView.size fragments ∧
      final.incomingQueue = assembler.incomingQueue := by
  have present : start ≠ [] := by
    intro empty
    simp [empty, kL2capBasicFrameHeaderSize] at header
  have payload : AclView.getPayload ⟨.firstAutomaticallyFlushable, .pointToPoint, start⟩ =
      [start] := by
    simp [AclView.getPayload, present]
  have carried : wrap64 ((start.length : Int) - kL2capBasicFrameHeaderSize) =
      start.length - kL2capBasicFrameHeaderSize := by
    unfold wrap64
    omega
  have wrapped : wrap64
      ((getL2capPduSize ⟨.firstAutomaticallyFlushable, .pointToPoint, start⟩ : Int) -
        ((start.length - kL2capBasicFrameHeaderSize : Nat) : Int)) =
      2 ^ 64 - (start.length - kL2capBasicFrameHeaderSize -
        getL2capPduSize ⟨.firstAutomaticallyFlushable, .pointToPoint, start⟩) :=
    wrap64_sub (by omega) (by omega)
  have started : assembler.onIncomingPacket ⟨.firstAutomaticallyFlushable, .pointToPoint, start⟩ =
      some { assembler with
        recombinationStage := [start]
        remainingSduContinuationPacketSize :=
          2 ^ 64 - (start.length - kL2capBasicFrameHeaderSize -
            getL2capPduSize ⟨.firstAutomaticallyFlushable, .pointToPoint, start⟩) } := by
    simp only [Assembler.onIncomingPacket, payload, PacketView.size_cons, PacketView.size_nil,
      Nat.add_zero, carried, wrapped]
    rw [if_pos (by omega)]
  have continued := run_continuing
    { assembler with
      recombinationStage := [start]
      remainingSduContinuationPacketSize :=
        2 ^ 64 - (start.length - kL2capBasicFrameHeaderSize -
          getL2capPduSize ⟨.firstAutomaticallyFlushable, .pointToPoint, start⟩) }
    fragments (List.cons_ne_nil _ _) (by simp [present]) nonempty (by simp only; omega)
  rw [Transition.run_cons, assemblerStep, started, Option.bind_some, continued]
  exact ⟨_, rfl, by simp, rfl⟩

end Bluetooth.Hci

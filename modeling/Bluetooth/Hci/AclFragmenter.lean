import Bluetooth.Hci.Assembler
import Bluetooth.Hci.RoundRobinScheduler

set_option linter.all false

/-!
# The ACL fragments of a packet

`RoundRobinScheduler::buffer_packet` wraps the packet a connection hands over in `AclBuilder`s
and pushes them to `fragments_to_send_`.  A packet of at most the transport's `mtu` octets is
wrapped whole; a longer one is cut by `AclFragmenter`, which serializes it through a
`FragmentingInserter(mtu)`.  The first builder carries the boundary flag that `IsFlushable()`
selects and every later one `CONTINUING_FRAGMENT`.

The scheduler of `Bluetooth.Hci.RoundRobinScheduler` keeps of each fragment only its transport
and handle.  Here the queue holds the builders themselves; `bufferPacket_refines` shows that
the scheduler's queue is this one with the headers and payloads forgotten.
-/

namespace Bluetooth.Hci

/-- An `AclBuilder`: the header fields and the octets of the payload it wraps. -/
structure AclBuilder where
  handle : UInt16
  packetBoundaryFlag : PacketBoundaryFlag
  broadcastFlag : BroadcastFlag
  payload : List UInt8
  deriving DecidableEq, Repr

/-- A `packet::BasePacketBuilder`: the octets `Serialize` writes and `IsFlushable()`. -/
structure BasePacketBuilder where
  serialized : List UInt8
  isFlushable : Bool
  deriving DecidableEq, Repr

/-- `size()`: the number of octets the packet serializes to. -/
def BasePacketBuilder.size (packet : BasePacketBuilder) : Nat := packet.serialized.length

/-- `AclFragmenter::GetFragments`: the packet is serialized through a
`FragmentingInserter(mtu)`, which is then finalized. -/
def AclFragmenter.getFragments (mtu : Nat) (packet : BasePacketBuilder) : List (List UInt8) :=
  Packet.fragment mtu packet.serialized

/-- The fragment `fragments_to_send_` keeps of an `AclBuilder` in the scheduler's model. -/
def Fragment.ofBuilder (entry : ConnectionType × AclBuilder) : Fragment :=
  ⟨entry.1, entry.2.handle⟩

namespace MultiPriorityQueue

variable {α β : Type}

/-- Items appended, in order, to the queue of one priority. -/
def pushAll (queue : MultiPriorityQueue α) (items : List α) (high : Bool) :
    MultiPriorityQueue α :=
  if high then { queue with high := queue.high ++ items }
  else { queue with low := queue.low ++ items }

/-- The queue with every item mapped. -/
def map (f : α → β) (queue : MultiPriorityQueue α) : MultiPriorityQueue β :=
  ⟨queue.low.map f, queue.high.map f⟩

/-- Pushing items one after another appends them together to the queue of their priority. -/
theorem foldl_push (queue : MultiPriorityQueue α) (items : List α) (high : Bool) :
    items.foldl (fun queue item => queue.push item high) queue = queue.pushAll items high := by
  induction items generalizing queue with
  | nil => cases high <;> simp [pushAll]
  | cons item items induction =>
    rw [List.foldl_cons, induction]
    cases high <;> simp [push, pushAll]

theorem map_pushAll (f : α → β) (queue : MultiPriorityQueue α) (items : List α) (high : Bool) :
    (queue.pushAll items high).map f = (queue.map f).pushAll (items.map f) high := by
  cases high <;> simp [pushAll, map]

end MultiPriorityQueue

namespace RoundRobinScheduler

/-- The `mtu` of a transport in `buffer_packet`. -/
def mtu (scheduler : RoundRobinScheduler) : ConnectionType → Nat
  | .classic => scheduler.hciMtu
  | .le => scheduler.leHciMtu

/-- The loop of `buffer_packet` over the fragments: each is wrapped with the current boundary
flag, which is `CONTINUING_FRAGMENT` from the second on. -/
def wrapFragments (handle : UInt16) (broadcastFlag : BroadcastFlag) :
    PacketBoundaryFlag → List (List UInt8) → List AclBuilder
  | _, [] => []
  | packetBoundaryFlag, fragment :: fragments =>
    ⟨handle, packetBoundaryFlag, broadcastFlag, fragment⟩ ::
      wrapFragments handle broadcastFlag .continuingFragment fragments

/-- The `AclBuilder`s `buffer_packet` creates for a packet, in the order it pushes them. -/
def aclBuilders (handle : UInt16) (mtu : Nat) (packet : BasePacketBuilder) : List AclBuilder :=
  let broadcastFlag := BroadcastFlag.pointToPoint
  let packetBoundaryFlag := if packet.isFlushable then PacketBoundaryFlag.firstAutomaticallyFlushable
    else PacketBoundaryFlag.firstNonAutomaticallyFlushable
  if packet.size ≤ mtu then [⟨handle, packetBoundaryFlag, broadcastFlag, packet.serialized⟩]
  else wrapFragments handle broadcastFlag packetBoundaryFlag (AclFragmenter.getFragments mtu packet)

/-- `fragments_to_send_` after `buffer_packet` of the connection `handle` pushed the builders of
`packet`, each with the connection's transport and at its priority. -/
def bufferFragments (scheduler : RoundRobinScheduler)
    (queue : MultiPriorityQueue (ConnectionType × AclBuilder)) (handle : UInt16)
    (handler : AclQueueHandler) (packet : BasePacketBuilder) :
    MultiPriorityQueue (ConnectionType × AclBuilder) :=
  (aclBuilders handle (scheduler.mtu handler.connectionType) packet).foldl
    (fun queue builder => queue.push (handler.connectionType, builder) handler.highPriority) queue

section WrapFragments

variable (handle : UInt16) (broadcastFlag : BroadcastFlag)

@[simp] theorem length_wrapFragments (packetBoundaryFlag : PacketBoundaryFlag)
    (fragments : List (List UInt8)) :
    (wrapFragments handle broadcastFlag packetBoundaryFlag fragments).length =
      fragments.length := by
  induction fragments generalizing packetBoundaryFlag with
  | nil => rfl
  | cons fragment fragments induction => simp [wrapFragments, induction]

@[simp] theorem map_payload_wrapFragments (packetBoundaryFlag : PacketBoundaryFlag)
    (fragments : List (List UInt8)) :
    (wrapFragments handle broadcastFlag packetBoundaryFlag fragments).map AclBuilder.payload =
      fragments := by
  induction fragments generalizing packetBoundaryFlag with
  | nil => rfl
  | cons fragment fragments induction => simp [wrapFragments, induction]

/-- Every wrapped fragment carries the handle and broadcast flag, and one of the payloads. -/
theorem mem_wrapFragments {packetBoundaryFlag : PacketBoundaryFlag}
    {fragments : List (List UInt8)} {builder : AclBuilder}
    (member : builder ∈ wrapFragments handle broadcastFlag packetBoundaryFlag fragments) :
    builder.handle = handle ∧ builder.broadcastFlag = broadcastFlag ∧
      builder.payload ∈ fragments := by
  induction fragments generalizing packetBoundaryFlag with
  | nil => cases member
  | cons fragment fragments induction =>
    rcases List.mem_cons.1 member with rfl | later
    · exact ⟨rfl, rfl, List.mem_cons_self⟩
    · obtain ⟨same_handle, same_flag, payload⟩ := induction later
      exact ⟨same_handle, same_flag, List.mem_cons_of_mem _ payload⟩

/-- From the second fragment on every boundary flag is `CONTINUING_FRAGMENT`. -/
theorem flag_of_mem_wrapFragments {fragments : List (List UInt8)} {builder : AclBuilder}
    (member : builder ∈ wrapFragments handle broadcastFlag .continuingFragment fragments) :
    builder.packetBoundaryFlag = .continuingFragment := by
  induction fragments with
  | nil => cases member
  | cons fragment fragments induction =>
    rcases List.mem_cons.1 member with rfl | later
    · rfl
    · exact induction later

theorem tail_wrapFragments (packetBoundaryFlag : PacketBoundaryFlag)
    (fragments : List (List UInt8)) :
    (wrapFragments handle broadcastFlag packetBoundaryFlag fragments).tail =
      wrapFragments handle broadcastFlag .continuingFragment fragments.tail := by
  cases fragments <;> rfl

theorem head?_wrapFragments (packetBoundaryFlag : PacketBoundaryFlag) {fragment : List UInt8}
    {fragments : List (List UInt8)} :
    (wrapFragments handle broadcastFlag packetBoundaryFlag (fragment :: fragments)).head? =
      some ⟨handle, packetBoundaryFlag, broadcastFlag, fragment⟩ := rfl

end WrapFragments

section AclBuilders

variable (handle : UInt16) {mtu : Nat} (packet : BasePacketBuilder)

/-- The boundary flag `buffer_packet` gives the first fragment of a packet. -/
def firstFlag (packet : BasePacketBuilder) : PacketBoundaryFlag :=
  if packet.isFlushable then .firstAutomaticallyFlushable else .firstNonAutomaticallyFlushable

theorem aclBuilders_of_le (short : packet.size ≤ mtu) :
    aclBuilders handle mtu packet = [⟨handle, firstFlag packet, .pointToPoint, packet.serialized⟩] :=
  if_pos short

theorem aclBuilders_of_lt (long : mtu < packet.size) :
    aclBuilders handle mtu packet =
      wrapFragments handle .pointToPoint (firstFlag packet) (AclFragmenter.getFragments mtu packet) :=
  if_neg (Nat.not_le.2 long)

/-- A packet longer than a positive `mtu` is cut into at least one fragment. -/
theorem getFragments_eq_cons (positive : 0 < mtu) (long : mtu < packet.size) :
    ∃ fragment fragments, AclFragmenter.getFragments mtu packet = fragment :: fragments := by
  have nonempty : packet.serialized ≠ [] := by
    intro empty
    simp [BasePacketBuilder.size, empty] at long
  exact List.exists_cons_of_ne_nil (Packet.fragment_ne_nil positive nonempty)

/-- Every builder carries the connection's handle, is sent point to point, and holds at most
`mtu` octets. -/
theorem mem_aclBuilders (positive : 0 < mtu) {builder : AclBuilder}
    (member : builder ∈ aclBuilders handle mtu packet) :
    builder.handle = handle ∧ builder.broadcastFlag = .pointToPoint ∧
      builder.payload.length ≤ mtu := by
  by_cases short : packet.size ≤ mtu
  · rw [aclBuilders_of_le handle packet short, List.mem_singleton] at member
    subst member
    exact ⟨rfl, rfl, short⟩
  · rw [aclBuilders_of_lt handle packet (Nat.lt_of_not_le short)] at member
    obtain ⟨same_handle, same_flag, payload⟩ := mem_wrapFragments handle _ member
    exact ⟨same_handle, same_flag, (Packet.length_mem_fragment positive _ _ payload).2⟩

/-- The payloads concatenate back to the serialized packet. -/
theorem flatten_aclBuilders (positive : 0 < mtu) :
    ((aclBuilders handle mtu packet).map AclBuilder.payload).flatten = packet.serialized := by
  by_cases short : packet.size ≤ mtu
  · simp [aclBuilders_of_le handle packet short]
  · rw [aclBuilders_of_lt handle packet (Nat.lt_of_not_le short), map_payload_wrapFragments]
    exact Packet.flatten_fragment positive packet.serialized

/-- A packet of twice the `mtu` gives two fragments: `finalize` pushes no empty third one. -/
example : (aclBuilders 1 2 ⟨[1, 2, 3, 4], false⟩).map AclBuilder.payload = [[1, 2], [3, 4]] := by
  decide

/-- One builder for a packet that fits, `⌈n / mtu⌉` for a longer one. -/
theorem length_aclBuilders (positive : 0 < mtu) :
    (aclBuilders handle mtu packet).length = max 1 ((packet.size + mtu - 1) / mtu) := by
  by_cases short : packet.size ≤ mtu
  · have at_most_one : (packet.size + mtu - 1) / mtu ≤ 1 :=
      (Nat.div_le_iff_le_mul_add_pred positive).2 (by omega)
    rw [aclBuilders_of_le handle packet short, List.length_singleton]
    omega
  · have at_least_two : 2 ≤ (packet.size + mtu - 1) / mtu :=
      (Nat.le_div_iff_mul_le positive).2 (by omega)
    rw [aclBuilders_of_lt handle packet (Nat.lt_of_not_le short), length_wrapFragments]
    have at_least_one : 1 ≤ (packet.size + mtu - 1) / mtu := by omega
    rw [AclFragmenter.getFragments, Packet.length_fragment positive]
    exact (max_eq_right at_least_one).symm

/-- The first builder carries the flag `IsFlushable()` selects. -/
theorem head?_aclBuilders (positive : 0 < mtu) :
    ((aclBuilders handle mtu packet).head?.map AclBuilder.packetBoundaryFlag) =
      some (firstFlag packet) := by
  by_cases short : packet.size ≤ mtu
  · rw [aclBuilders_of_le handle packet short]
    rfl
  · have long := Nat.lt_of_not_le short
    obtain ⟨fragment, fragments, cut⟩ := getFragments_eq_cons packet positive long
    rw [aclBuilders_of_lt handle packet long, cut, head?_wrapFragments]
    rfl

/-- Every builder after the first is a `CONTINUING_FRAGMENT`. -/
theorem flag_of_mem_tail_aclBuilders {builder : AclBuilder}
    (member : builder ∈ (aclBuilders handle mtu packet).tail) :
    builder.packetBoundaryFlag = .continuingFragment := by
  by_cases short : packet.size ≤ mtu
  · rw [aclBuilders_of_le handle packet short] at member
    cases member
  · rw [aclBuilders_of_lt handle packet (Nat.lt_of_not_le short), tail_wrapFragments] at member
    exact flag_of_mem_wrapFragments handle _ member

end AclBuilders

/-- `buffer_packet` appends the builders of the packet together, in order, to the queue of the
connection's priority. -/
theorem bufferFragments_eq_pushAll (scheduler : RoundRobinScheduler)
    (queue : MultiPriorityQueue (ConnectionType × AclBuilder)) (handle : UInt16)
    (handler : AclQueueHandler) (packet : BasePacketBuilder) :
    scheduler.bufferFragments queue handle handler packet =
      queue.pushAll ((aclBuilders handle (scheduler.mtu handler.connectionType) packet).map
        fun builder => (handler.connectionType, builder)) handler.highPriority := by
  rw [bufferFragments, ← MultiPriorityQueue.foldl_push, List.foldl_map]

theorem bufferFragments_lossless (scheduler : RoundRobinScheduler)
    (queue : MultiPriorityQueue (ConnectionType × AclBuilder)) (handle : UInt16)
    (handler : AclQueueHandler) (packet : BasePacketBuilder)
    (positive : 1 ≤ scheduler.mtu handler.connectionType) :
    ∃ builders : List AclBuilder,
      scheduler.bufferFragments queue handle handler packet =
        queue.pushAll (builders.map fun builder => (handler.connectionType, builder))
          handler.highPriority ∧
      (∀ builder ∈ builders, builder.handle = handle ∧
        builder.payload.length ≤ scheduler.mtu handler.connectionType) ∧
      builders.head?.map AclBuilder.packetBoundaryFlag =
        some (if packet.isFlushable then .firstAutomaticallyFlushable
          else .firstNonAutomaticallyFlushable) ∧
      (∀ builder ∈ builders.tail, builder.packetBoundaryFlag = .continuingFragment) ∧
      builders.length = max 1 ((packet.size + scheduler.mtu handler.connectionType - 1) /
        scheduler.mtu handler.connectionType) ∧
      (builders.map AclBuilder.payload).flatten = packet.serialized := by
  refine ⟨aclBuilders handle (scheduler.mtu handler.connectionType) packet,
    bufferFragments_eq_pushAll scheduler queue handle handler packet, ?_, ?_, ?_, ?_, ?_⟩
  · intro builder member
    obtain ⟨same_handle, -, fits⟩ := mem_aclBuilders handle packet positive member
    exact ⟨same_handle, fits⟩
  · exact head?_aclBuilders handle packet positive
  · intro builder member
    exact flag_of_mem_tail_aclBuilders handle packet member
  · exact length_aclBuilders handle packet positive
  · exact flatten_aclBuilders handle packet positive

/-- A classic link of two-octet buffers: five octets go out in three fragments. -/
theorem bufferFragments_lossless_at_five_octets :
    1 ≤ (initial 8 8 2 2).mtu .classic ∧
      ∃ builders : List AclBuilder,
        (initial 8 8 2 2).bufferFragments .empty 1 ⟨.classic, true, 0, false⟩
            ⟨[1, 2, 3, 4, 5], true⟩ =
          MultiPriorityQueue.empty.pushAll (builders.map fun builder => (.classic, builder))
            false ∧
        (∀ builder ∈ builders, builder.handle = 1 ∧
          builder.payload.length ≤ (initial 8 8 2 2).mtu .classic) ∧
        builders.head?.map AclBuilder.packetBoundaryFlag =
          some (if true then .firstAutomaticallyFlushable
            else .firstNonAutomaticallyFlushable) ∧
        (∀ builder ∈ builders.tail, builder.packetBoundaryFlag = .continuingFragment) ∧
        builders.length = max 1 ((BasePacketBuilder.size ⟨[1, 2, 3, 4, 5], true⟩ +
          (initial 8 8 2 2).mtu .classic - 1) / (initial 8 8 2 2).mtu .classic) ∧
        (builders.map AclBuilder.payload).flatten = [1, 2, 3, 4, 5] :=
  ⟨by decide, bufferFragments_lossless (initial 8 8 2 2) .empty 1 ⟨.classic, true, 0, false⟩
    ⟨[1, 2, 3, 4, 5], true⟩ (by decide)⟩

/-- The fragments of the scheduler's model are those of the builders, one per builder. -/
theorem map_ofBuilder_aclBuilders (connectionType : ConnectionType) (handle : UInt16)
    {mtu : Nat} (positive : 0 < mtu) (packet : BasePacketBuilder) :
    ((aclBuilders handle mtu packet).map fun builder => (connectionType, builder)).map
        Fragment.ofBuilder =
      List.replicate (fragmentCount mtu packet.serialized) ⟨connectionType, handle⟩ := by
  have same_count : (aclBuilders handle mtu packet).length =
      fragmentCount mtu packet.serialized := by
    unfold fragmentCount
    by_cases short : packet.size ≤ mtu
    · rw [aclBuilders_of_le handle packet short, if_pos (show packet.serialized.length ≤ mtu from short)]
      rfl
    · rw [aclBuilders_of_lt handle packet (Nat.lt_of_not_le short),
        if_neg (show ¬packet.serialized.length ≤ mtu from short), length_wrapFragments]
      rfl
  rw [List.map_map, List.eq_replicate_iff]
  refine ⟨by rw [List.length_map, same_count], ?_⟩
  intro fragment member
  obtain ⟨builder, belongs, rfl⟩ := List.mem_map.1 member
  simp [Fragment.ofBuilder, (mem_aclBuilders handle packet positive belongs).1]

/-- What the scheduler's `buffer_packet` leaves in `fragments_to_send_`. -/
theorem fragmentsToSend_bufferPacket {scheduler next : RoundRobinScheduler} {handle : UInt16}
    {handler : AclQueueHandler} {packet : List UInt8}
    (buffered : scheduler.bufferPacket handle handler packet = some next) :
    next.fragmentsToSend =
      (List.replicate (fragmentCount (scheduler.mtu handler.connectionType) packet)
          ⟨handler.connectionType, handle⟩).foldl
        (fun queue fragment => queue.push fragment handler.highPriority) scheduler.fragmentsToSend := by
  unfold bufferPacket at buffered
  -- `buffer_packet` first takes the `mtu` of the transport, then fails on an empty queue only
  split at buffered
  all_goals
    next transport =>
    dsimp only at buffered
    split at buffered
    · cases buffered
    · cases buffered
      rw [transport]
      rfl

/-- The scheduler's `buffer_packet` is this one with each builder's header and payload
forgotten: from queues that agree, the queues after the packet agree. -/
theorem bufferPacket_refines (scheduler : RoundRobinScheduler)
    (queue : MultiPriorityQueue (ConnectionType × AclBuilder)) (handle : UInt16)
    (handler : AclQueueHandler) (packet : BasePacketBuilder)
    (positive : 0 < scheduler.mtu handler.connectionType)
    (agree : queue.map Fragment.ofBuilder = scheduler.fragmentsToSend)
    {next : RoundRobinScheduler}
    (buffered : scheduler.bufferPacket handle handler packet.serialized = some next) :
    next.fragmentsToSend =
      (scheduler.bufferFragments queue handle handler packet).map Fragment.ofBuilder := by
  rw [bufferFragments_eq_pushAll, MultiPriorityQueue.map_pushAll, agree,
    map_ofBuilder_aclBuilders _ _ positive, ← MultiPriorityQueue.foldl_push]
  exact fragmentsToSend_bufferPacket buffered

end RoundRobinScheduler

end Bluetooth.Hci

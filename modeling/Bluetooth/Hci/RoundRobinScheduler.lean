import Bluetooth.Lib.Transition
import Bluetooth.Packet.Fragmenting

set_option linter.all false

/-!
# The ACL round-robin scheduler of the gd stack

`RoundRobinScheduler` takes one packet at a time from the queues of the ACL connections,
cuts it into fragments of the controller's buffer size and hands them to the HCI queue while
the controller has buffers of the fragment's transport.  It counts the controller's free
buffers of each transport in `acl_packet_credits_` and `le_acl_packet_credits_`, and for each
connection the fragments it has charged to it in `number_of_sent_packets_`.

Everything runs on the scheduler's handler, so a step is one callback: a connection registered
or unregistered, a connection's queue handing over a packet (`buffer_packet`), the HCI queue
taking a fragment (`handle_enqueue_next_fragment`), the controller's Number of Completed
Packets (`incoming_acl_credits`), or the `start_round_robin` that `handle_enqueue_next_fragment`
posts.  A callback can only run while it is registered; an `ASSERT` that fails stops the model.

A fragment is charged to its connection when it is buffered, before the HCI queue takes it.
`Unregister` gives back every fragment charged to the connection, also those still waiting in
`fragments_to_send_`, which are sent later all the same: after a packet is buffered and its
connection unregistered before the fragment goes out, the classic credits exceed the
controller's buffer count (`unregister_overfills_credits`).
-/

namespace Bluetooth.Hci

/-- `RoundRobinScheduler::ConnectionType`. -/
inductive ConnectionType where
  | classic
  | le
  deriving DecidableEq, Repr

/-- `RoundRobinScheduler::acl_queue_handler`, without the queue it reads from. -/
structure AclQueueHandler where
  connectionType : ConnectionType
  dequeueIsRegistered : Bool
  numberOfSentPackets : UInt16
  highPriority : Bool
  deriving DecidableEq, Repr

/-- A fragment in `fragments_to_send_`: its transport and the handle its `AclBuilder` carries. -/
structure Fragment where
  connectionType : ConnectionType
  handle : UInt16
  deriving DecidableEq, Repr

/-- `common::MultiPriorityQueue<T, 2>`: one queue per priority; the front is the front of the
higher priority that holds an item. -/
structure MultiPriorityQueue (α : Type) where
  low : List α
  high : List α
  deriving DecidableEq, Repr

namespace MultiPriorityQueue

variable {α : Type}

/-- An empty queue. -/
def empty : MultiPriorityQueue α := ⟨[], []⟩

/-- `size()`. -/
def size (queue : MultiPriorityQueue α) : Nat := queue.low.length + queue.high.length

/-- `front()`, or none for an empty queue. -/
def front? (queue : MultiPriorityQueue α) : Option α :=
  match queue.high with
  | item :: _ => some item
  | [] => queue.low.head?

/-- `push(item, priority)` with priority `1` when `high`. -/
def push (queue : MultiPriorityQueue α) (item : α) (high : Bool) : MultiPriorityQueue α :=
  if high then { queue with high := queue.high ++ [item] }
  else { queue with low := queue.low ++ [item] }

/-- `pop()`. -/
def pop (queue : MultiPriorityQueue α) : MultiPriorityQueue α :=
  match queue.high with
  | _ :: rest => { queue with high := rest }
  | [] => { queue with low := queue.low.tail }

/-- The items in the queue, whatever their priority. -/
def items (queue : MultiPriorityQueue α) : List α := queue.high ++ queue.low

end MultiPriorityQueue

/-- The state of a `RoundRobinScheduler`.  `acl_queue_handlers_` is a map by handle; the
iterator `starting_point_` only orders the registrations of one round, which do not depend on
each other, and is left out. -/
structure RoundRobinScheduler where
  aclQueueHandlers : List (UInt16 × AclQueueHandler)
  fragmentsToSend : MultiPriorityQueue Fragment
  maxAclPacketCredits : UInt16
  aclPacketCredits : UInt16
  leMaxAclPacketCredits : UInt16
  leAclPacketCredits : UInt16
  hciMtu : Nat
  leHciMtu : Nat
  enqueueRegistered : Bool
  /-- `start_round_robin` tasks posted to the handler that have not run yet. -/
  postedStarts : Nat
  deriving DecidableEq, Repr

namespace RoundRobinScheduler

/-- The constructor, with the controller's buffer counts and sizes. -/
def initial (numAclPacketBuffers totalNumLePackets : UInt16) (aclPacketLength leDataPacketLength : Nat) :
    RoundRobinScheduler where
  aclQueueHandlers := []
  fragmentsToSend := .empty
  maxAclPacketCredits := numAclPacketBuffers
  aclPacketCredits := numAclPacketBuffers
  leMaxAclPacketCredits := totalNumLePackets
  leAclPacketCredits := totalNumLePackets
  hciMtu := aclPacketLength
  leHciMtu := leDataPacketLength
  enqueueRegistered := false
  postedStarts := 0

/-- `acl_queue_handlers_.find(handle)`. -/
def find? (scheduler : RoundRobinScheduler) (handle : UInt16) : Option AclQueueHandler :=
  scheduler.aclQueueHandlers.lookup handle

/-- A write through the iterator of `handle`. -/
def modifyHandler (scheduler : RoundRobinScheduler) (handle : UInt16)
    (update : AclQueueHandler → AclQueueHandler) : RoundRobinScheduler :=
  { scheduler with aclQueueHandlers := scheduler.aclQueueHandlers.map fun entry =>
      if entry.1 = handle then (entry.1, update entry.2) else entry }

/-- The credits of a transport. -/
def credits (scheduler : RoundRobinScheduler) : ConnectionType → UInt16
  | .classic => scheduler.aclPacketCredits
  | .le => scheduler.leAclPacketCredits

/-- The controller's buffer count of a transport. -/
def maxCredits (scheduler : RoundRobinScheduler) : ConnectionType → UInt16
  | .classic => scheduler.maxAclPacketCredits
  | .le => scheduler.leMaxAclPacketCredits

/-- `classic_buffer_full || le_buffer_full` for a connection or a fragment of the transport. -/
def bufferFull (scheduler : RoundRobinScheduler) (connectionType : ConnectionType) : Bool :=
  (scheduler.aclPacketCredits == 0 && connectionType == .classic) ||
    (scheduler.leAclPacketCredits == 0 && connectionType == .le)

/-- `send_next_fragment`: the enqueue callback is registered, once. -/
def sendNextFragment (scheduler : RoundRobinScheduler) : RoundRobinScheduler :=
  { scheduler with enqueueRegistered := true }

/-- `start_round_robin`: the front fragment goes on if its transport has credits; with no
fragment, the dequeue of every connection whose transport has credits is registered. -/
def startRoundRobin (scheduler : RoundRobinScheduler) : RoundRobinScheduler :=
  if scheduler.aclPacketCredits == 0 && scheduler.leAclPacketCredits == 0 then scheduler
  else
    match scheduler.fragmentsToSend.front? with
    | some fragment =>
      if scheduler.bufferFull fragment.connectionType then scheduler
      else scheduler.sendNextFragment
    | none =>
      { scheduler with aclQueueHandlers := scheduler.aclQueueHandlers.map fun entry =>
          if !entry.2.dequeueIsRegistered && !scheduler.bufferFull entry.2.connectionType then
            (entry.1, { entry.2 with dequeueIsRegistered := true })
          else entry }

/-- `Register`: `std::map::insert` leaves an existing entry alone. -/
def register (scheduler : RoundRobinScheduler) (connectionType : ConnectionType)
    (handle : UInt16) : RoundRobinScheduler :=
  let scheduler := match scheduler.find? handle with
    | some _ => scheduler
    | none => { scheduler with aclQueueHandlers :=
        scheduler.aclQueueHandlers ++ [(handle, ⟨connectionType, false, 0, false⟩)] }
  if scheduler.fragmentsToSend.size == 0 then scheduler.startRoundRobin else scheduler

/-- `Unregister`: the fragments charged to the connection are given back to its transport. -/
def unregister (scheduler : RoundRobinScheduler) (handle : UInt16) :
    Option RoundRobinScheduler :=
  match scheduler.find? handle with
  | none => none
  | some handler =>
    let scheduler := match handler.connectionType with
      | .classic => { scheduler with aclPacketCredits :=
          scheduler.aclPacketCredits + handler.numberOfSentPackets }
      | .le => { scheduler with leAclPacketCredits :=
          scheduler.leAclPacketCredits + handler.numberOfSentPackets }
    some { scheduler with aclQueueHandlers :=
      scheduler.aclQueueHandlers.filter fun entry => entry.1 ≠ handle }

/-- `unregister_all_connections`. -/
def unregisterAllConnections (scheduler : RoundRobinScheduler) : RoundRobinScheduler :=
  { scheduler with aclQueueHandlers := scheduler.aclQueueHandlers.map fun entry =>
      (entry.1, { entry.2 with dequeueIsRegistered := false }) }

/-- The number of fragments `buffer_packet` makes of a packet. -/
def fragmentCount (mtu : Nat) (packet : List UInt8) : Nat :=
  if packet.length ≤ mtu then 1 else (Packet.fragment mtu packet).length

/-- `buffer_packet` for the connection `handle`, whose queue hands over `packet`: its fragments
are pushed, the connection is charged with the size of `fragments_to_send_`, and the enqueue
callback is registered. -/
def bufferPacket (scheduler : RoundRobinScheduler) (handle : UInt16)
    (handler : AclQueueHandler) (packet : List UInt8) : Option RoundRobinScheduler :=
  let mtu := match handler.connectionType with
    | .classic => scheduler.hciMtu
    | .le => scheduler.leHciMtu
  let fragments := (List.replicate (fragmentCount mtu packet) ⟨handler.connectionType, handle⟩).foldl
    (fun queue fragment => queue.push fragment handler.highPriority) scheduler.fragmentsToSend
  if fragments.size = 0 then none
  else
    let scheduler := { scheduler with fragmentsToSend := fragments }.unregisterAllConnections
    some (scheduler.modifyHandler handle fun handler =>
      { handler with numberOfSentPackets :=
          handler.numberOfSentPackets + fragments.size.toUInt16 }).sendNextFragment

/-- `handle_enqueue_next_fragment`: the front fragment takes a credit of its transport and is
handed over; with no fragment left a `start_round_robin` is posted, and the enqueue callback is
unregistered when the queue is empty or the next fragment has no credit. -/
def handleEnqueueNextFragment (scheduler : RoundRobinScheduler) :
    Option RoundRobinScheduler := do
  let fragment ← scheduler.fragmentsToSend.front?
  let scheduler ← match fragment.connectionType with
    | .classic =>
      if scheduler.aclPacketCredits > 0 then
        some { scheduler with aclPacketCredits := scheduler.aclPacketCredits - 1 }
      else none
    | .le =>
      if scheduler.leAclPacketCredits > 0 then
        some { scheduler with leAclPacketCredits := scheduler.leAclPacketCredits - 1 }
      else none
  let scheduler := { scheduler with fragmentsToSend := scheduler.fragmentsToSend.pop }
  match scheduler.fragmentsToSend.front? with
  | none => some { scheduler with enqueueRegistered := false,
                                  postedStarts := scheduler.postedStarts + 1 }
  | some next =>
    if scheduler.bufferFull next.connectionType then
      some { scheduler with enqueueRegistered := false }
    else some scheduler

/-- `incoming_acl_credits`: the completed packets are taken off the connection's count and
given back to its transport, up to the controller's buffer count. -/
def incomingAclCredits (scheduler : RoundRobinScheduler) (handle : UInt16) (credits : UInt16) :
    RoundRobinScheduler :=
  match scheduler.find? handle with
  | none => scheduler
  | some handler =>
    let scheduler := scheduler.modifyHandler handle fun handler =>
      { handler with numberOfSentPackets :=
          if handler.numberOfSentPackets ≥ credits then handler.numberOfSentPackets - credits
          else 0 }
    let (scheduler, creditWasZero) := match handler.connectionType with
      | .classic =>
        let total := scheduler.aclPacketCredits + credits
        ({ scheduler with aclPacketCredits :=
            if total > scheduler.maxAclPacketCredits then scheduler.maxAclPacketCredits
            else total }, scheduler.aclPacketCredits == 0)
      | .le =>
        let total := scheduler.leAclPacketCredits + credits
        ({ scheduler with leAclPacketCredits :=
            if total > scheduler.leMaxAclPacketCredits then scheduler.leMaxAclPacketCredits
            else total }, scheduler.leAclPacketCredits == 0)
    if creditWasZero then scheduler.startRoundRobin else scheduler

end RoundRobinScheduler

/-- What the handler runs next. -/
inductive SchedulerEvent where
  | register (connectionType : ConnectionType) (handle : UInt16)
  | unregister (handle : UInt16)
  | setLinkPriority (handle : UInt16) (highPriority : Bool)
  /-- The dequeue callback of `handle`'s queue, `buffer_packet`, with the packet it takes. -/
  | dequeueReady (handle : UInt16) (packet : List UInt8)
  /-- The enqueue callback of the HCI queue, `handle_enqueue_next_fragment`. -/
  | enqueueReady
  /-- Number of Completed Packets for `handle`. -/
  | completedPackets (handle : UInt16) (credits : UInt16)
  /-- A posted `start_round_robin`. -/
  | postedStart
  deriving DecidableEq, Repr

open RoundRobinScheduler in
/-- One callback of the handler; none when the callback is not registered or an `ASSERT`
fails. -/
def schedulerStep (scheduler : RoundRobinScheduler) : SchedulerEvent → Option RoundRobinScheduler
  | .register connectionType handle => some (scheduler.register connectionType handle)
  | .unregister handle => scheduler.unregister handle
  | .setLinkPriority handle highPriority =>
    some (scheduler.modifyHandler handle fun handler => { handler with highPriority })
  | .dequeueReady handle packet =>
    match scheduler.find? handle with
    | some handler =>
      if handler.dequeueIsRegistered then scheduler.bufferPacket handle handler packet else none
    | none => none
  | .enqueueReady =>
    if scheduler.enqueueRegistered then scheduler.handleEnqueueNextFragment else none
  | .completedPackets handle credits => some (scheduler.incomingAclCredits handle credits)
  | .postedStart =>
    if scheduler.postedStarts > 0 then
      some { scheduler with postedStarts := scheduler.postedStarts - 1 }.startRoundRobin
    else none

namespace RoundRobinScheduler

/-- Whether `handle` has an entry in `acl_queue_handlers_`. -/
def Registered (scheduler : RoundRobinScheduler) (handle : UInt16) : Prop :=
  (scheduler.find? handle).isSome

/-- The fragments charged to the registered connections of a transport. -/
def sentPackets (scheduler : RoundRobinScheduler) (connectionType : ConnectionType) : Nat :=
  ((scheduler.aclQueueHandlers.filter fun entry => entry.2.connectionType = connectionType).map
    fun entry => entry.2.numberOfSentPackets.toNat).sum

/-- The fragments of a transport still waiting in `fragments_to_send_` for a registered
connection. -/
def queuedFragments (scheduler : RoundRobinScheduler) (connectionType : ConnectionType) : Nat :=
  (scheduler.fragmentsToSend.items.filter fun fragment =>
    fragment.connectionType = connectionType ∧ (scheduler.find? fragment.handle).isSome).length

/-- The ledger of a transport balances: its credits and the fragments charged to its
registered connections, less those of them still queued, are the controller's buffer count. -/
def Conserved (scheduler : RoundRobinScheduler) (connectionType : ConnectionType) : Prop :=
  (scheduler.credits connectionType).toNat + scheduler.sentPackets connectionType =
    (scheduler.maxCredits connectionType).toNat + scheduler.queuedFragments connectionType

end RoundRobinScheduler

open RoundRobinScheduler in
theorem unregister_overfills_credits (buffers leBuffers : UInt16) (mtu leMtu : Nat)
    (positive : 0 < buffers) (room : buffers < 65535) (fits : 1 ≤ mtu) :
    ∃ scheduler, Transition.run schedulerStep (initial buffers leBuffers mtu leMtu)
        [.register .classic 1, .dequeueReady 1 [0], .unregister 1] = some scheduler ∧
      scheduler.aclPacketCredits = buffers + 1 ∧
      scheduler.maxAclPacketCredits < scheduler.aclPacketCredits ∧
      ¬ scheduler.Conserved .classic := by
  have successor : (buffers + 1).toNat = buffers.toNat + 1 := by
    rw [UInt16.toNat_add, UInt16.toNat_one]
    have : buffers.toNat < 65535 := by simpa [UInt16.lt_iff_toNat_lt] using room
    omega
  have nonzero : buffers ≠ 0 := by
    intro zero
    simp [zero] at positive
  refine ⟨⟨[], ⟨[⟨.classic, 1⟩], []⟩, buffers, buffers + 1, leBuffers, leBuffers, mtu, leMtu,
    true, 0⟩, ?_, rfl, ?_, ?_⟩
  · simp [Transition.run, schedulerStep, register, initial, find?, startRoundRobin, bufferFull,
      MultiPriorityQueue.size, MultiPriorityQueue.front?, MultiPriorityQueue.empty, nonzero,
      bufferPacket, fragmentCount, fits, MultiPriorityQueue.push, unregisterAllConnections,
      modifyHandler, sendNextFragment, unregister]
  · simp [UInt16.lt_iff_toNat_lt, successor]
  · simp [Conserved, credits, maxCredits, sentPackets, queuedFragments, find?,
      MultiPriorityQueue.items, successor]

open RoundRobinScheduler in
/-- A controller with eight classic buffers of 1021 octets and eight LE buffers of 251. -/
theorem unregister_overfills_credits_eight :
    (0 : UInt16) < 8 ∧ (8 : UInt16) < 65535 ∧ 1 ≤ 1021 ∧
      ∃ scheduler, Transition.run schedulerStep (initial 8 8 1021 251)
          [.register .classic 1, .dequeueReady 1 [0], .unregister 1] = some scheduler ∧
        scheduler.aclPacketCredits = 8 + 1 ∧
        scheduler.maxAclPacketCredits < scheduler.aclPacketCredits ∧
        ¬ scheduler.Conserved .classic :=
  ⟨by decide, by decide, by decide,
    unregister_overfills_credits 8 8 1021 251 (by decide) (by decide) (by decide)⟩

end Bluetooth.Hci

import Bluetooth.Hci.AclFragmenter
import Bluetooth.Common.ListMap
import Bluetooth.Lib.KeyedSum

set_option linter.all false

/-!
# Credit books of the round-robin scheduler

The scheduler keeps one credit count per transport and, per connection, the fragments
`buffer_packet` charged to it.  A fragment is charged when it is queued, takes a credit when
`handle_enqueue_next_fragment` hands it over, and gives the credit back when the controller
reports it completed.  So the credits of a transport and the fragments of its connections that
are at the controller always make up the controller's buffer count (`Ledger`).

Which events come is up to the controller and the layers above.  On the runs where they keep to
what `admits` says (no connection is unregistered with fragments still queued, as
`Unregister` would give back the credits of fragments never sent; the controller completes only
fragments it holds; a packet's fragments fit a sixteen-bit count), every step keeps the books
and the registrations the callbacks' `ASSERT`s need (`CreditSafe`), so the credits never exceed
the buffer count, `Conserved` holds, and the enqueue callback always finds a credit.
-/

namespace Bluetooth.Hci

namespace RoundRobinScheduler

/-- What the books read of a connection: its handle, its transport and
`number_of_sent_packets_`. -/
structure Account where
  handle : UInt16
  connectionType : ConnectionType
  sent : Nat
  deriving DecidableEq, Repr

/-- The account of each connection of `acl_queue_handlers_`. -/
def accounts (scheduler : RoundRobinScheduler) : List Account :=
  scheduler.aclQueueHandlers.map fun entry =>
    ⟨entry.1, entry.2.connectionType, entry.2.numberOfSentPackets.toNat⟩

/-- The fragments of the connection `handle` still waiting in `fragments_to_send_`. -/
def queuedOf (scheduler : RoundRobinScheduler) (handle : UInt16) : Nat :=
  scheduler.fragmentsToSend.items.countP (·.handle = handle)

/-- The fragments of a connection handed to the controller and not yet reported completed. -/
def outstanding (scheduler : RoundRobinScheduler) (account : Account) : Nat :=
  account.sent - scheduler.queuedOf account.handle

/-- The fragments of a transport at the controller, over all its connections. -/
def outstandingOf (scheduler : RoundRobinScheduler) (connectionType : ConnectionType) : Nat :=
  (scheduler.accounts.map fun account =>
    if account.connectionType = connectionType then scheduler.outstanding account else 0).sum

/-- All the credit books read: the accounts, the queue, the credits and the buffer counts. -/
def books (scheduler : RoundRobinScheduler) :
    List Account × MultiPriorityQueue Fragment × UInt16 × UInt16 × UInt16 × UInt16 :=
  (scheduler.accounts, scheduler.fragmentsToSend, scheduler.aclPacketCredits,
    scheduler.leAclPacketCredits, scheduler.maxAclPacketCredits, scheduler.leMaxAclPacketCredits)

/-- The state with the credits of one transport set to `value`. -/
def withCredits (scheduler : RoundRobinScheduler) (connectionType : ConnectionType)
    (value : UInt16) : RoundRobinScheduler :=
  { scheduler with
    aclPacketCredits := if connectionType = .classic then value else scheduler.aclPacketCredits
    leAclPacketCredits := if connectionType = .le then value else scheduler.leAclPacketCredits }

/-- The credit books: every queued fragment belongs to a registered connection of its
transport, a connection is charged for the fragments it has queued, and the credits of a
transport and its fragments at the controller make up the controller's buffer count. -/
structure Ledger (scheduler : RoundRobinScheduler) : Prop where
  /-- `acl_queue_handlers_` is a map. -/
  nodup : (scheduler.accounts.map Account.handle).Nodup
  owned : ∀ fragment ∈ scheduler.fragmentsToSend.items, ∃ account ∈ scheduler.accounts,
    account.handle = fragment.handle ∧ account.connectionType = fragment.connectionType
  charged : ∀ account ∈ scheduler.accounts, scheduler.queuedOf account.handle ≤ account.sent
  balanced : ∀ connectionType, (scheduler.credits connectionType).toNat +
    scheduler.outstandingOf connectionType = (scheduler.maxCredits connectionType).toNat

/-- The books, and the registrations that keep the `ASSERT`s of the callbacks: the enqueue
callback waits only on a front fragment whose transport has a credit, and a connection's
dequeue only with nothing queued and a credit of its transport. -/
structure CreditSafe (scheduler : RoundRobinScheduler) : Prop extends scheduler.Ledger where
  enqueue : scheduler.enqueueRegistered = true → ∃ fragment,
    scheduler.fragmentsToSend.front? = some fragment ∧ scheduler.credits fragment.connectionType ≠ 0
  dequeue : ∀ entry ∈ scheduler.aclQueueHandlers, entry.2.dequeueIsRegistered = true →
    scheduler.fragmentsToSend.items = [] ∧ scheduler.credits entry.2.connectionType ≠ 0

section Books

variable {scheduler next : RoundRobinScheduler}

theorem map_handle_accounts (scheduler : RoundRobinScheduler) :
    scheduler.accounts.map Account.handle = scheduler.aclQueueHandlers.map Prod.fst := by
  simp [accounts]

theorem credits_congr (same : next.books = scheduler.books) (connectionType : ConnectionType) :
    next.credits connectionType = scheduler.credits connectionType ∧
      next.maxCredits connectionType = scheduler.maxCredits connectionType := by
  simp only [books, Prod.mk.injEq] at same
  cases connectionType <;> simp [credits, maxCredits, same]

theorem queuedOf_congr (same : next.fragmentsToSend = scheduler.fragmentsToSend) :
    next.queuedOf = scheduler.queuedOf := by
  funext handle
  simp [queuedOf, same]

/-- The books are all the ledger reads. -/
theorem Ledger.congr (ledger : scheduler.Ledger) (same : next.books = scheduler.books) :
    next.Ledger := by
  have parts := same
  simp only [books, Prod.mk.injEq] at parts
  obtain ⟨accounts, queue, -⟩ := parts
  have queued := queuedOf_congr queue
  have outstanding : next.outstandingOf = scheduler.outstandingOf := by
    funext connectionType
    simp [outstandingOf, outstanding, accounts, queued]
  refine ⟨accounts ▸ ledger.nodup, ?_, ?_, fun connectionType => ?_⟩
  · rw [queue, accounts]
    exact ledger.owned
  · rw [accounts, queued]
    exact ledger.charged
  · rw [(credits_congr same connectionType).1, (credits_congr same connectionType).2, outstanding]
    exact ledger.balanced connectionType

theorem books_startRoundRobin (scheduler : RoundRobinScheduler) :
    scheduler.startRoundRobin.books = scheduler.books := by
  unfold startRoundRobin
  split
  · rfl
  · split
    · split <;> rfl
    · simp only [books, accounts, List.map_map, Prod.mk.injEq, and_true]
      refine List.map_congr_left fun entry _ => ?_
      simp only [Function.comp_apply]
      split <;> rfl

theorem books_unregisterAllConnections (scheduler : RoundRobinScheduler) :
    scheduler.unregisterAllConnections.books = scheduler.books := by
  simp [books, accounts, unregisterAllConnections]

theorem books_sendNextFragment (scheduler : RoundRobinScheduler) :
    scheduler.sendNextFragment.books = scheduler.books := rfl

theorem books_setLinkPriority (scheduler : RoundRobinScheduler) (handle : UInt16)
    (highPriority : Bool) :
    (scheduler.modifyHandler handle fun handler => { handler with highPriority }).books =
      scheduler.books := by
  simp only [books, accounts, modifyHandler, List.map_map, Prod.mk.injEq, and_true]
  refine List.map_congr_left fun entry _ => ?_
  simp only [Function.comp_apply]
  split <;> rfl

end Books

section Registrations

variable {scheduler next : RoundRobinScheduler}

theorem front?_eq_head?_items {α : Type} (queue : MultiPriorityQueue α) :
    queue.front? = queue.items.head? := by
  unfold MultiPriorityQueue.front? MultiPriorityQueue.items
  split <;> simp_all

theorem items_pop {α : Type} (queue : MultiPriorityQueue α) :
    queue.pop.items = queue.items.tail := by
  unfold MultiPriorityQueue.pop MultiPriorityQueue.items
  split <;> simp_all

theorem bufferFull_eq_false_iff (scheduler : RoundRobinScheduler) (connectionType : ConnectionType) :
    scheduler.bufferFull connectionType = false ↔ scheduler.credits connectionType ≠ 0 := by
  cases connectionType <;> simp [bufferFull, credits]

/-- `start_round_robin` leaves the state as it is, registers the enqueue callback for a front
fragment with a credit, or registers the dequeues of the connections with a credit when nothing
is queued. -/
theorem startRoundRobin_cases (scheduler : RoundRobinScheduler) :
    scheduler.startRoundRobin = scheduler ∨
    (∃ fragment, scheduler.fragmentsToSend.front? = some fragment ∧
      scheduler.credits fragment.connectionType ≠ 0 ∧
      scheduler.startRoundRobin = scheduler.sendNextFragment) ∨
    (scheduler.fragmentsToSend.front? = none ∧
      scheduler.startRoundRobin =
        { scheduler with
          aclQueueHandlers := scheduler.aclQueueHandlers.map fun entry =>
            if !entry.2.dequeueIsRegistered && !scheduler.bufferFull entry.2.connectionType then
              (entry.1, { entry.2 with dequeueIsRegistered := true })
            else entry }) := by
  unfold startRoundRobin
  split
  · exact .inl rfl
  · split
    · next fragment front =>
      split
      · exact .inl rfl
      · next notFull =>
        exact .inr (.inl ⟨fragment, front, (bufferFull_eq_false_iff _ _).1 (by simpa using notFull),
          rfl⟩)
    · next empty => exact .inr (.inr ⟨empty, rfl⟩)

theorem creditSafe_startRoundRobin (safe : scheduler.CreditSafe) :
    scheduler.startRoundRobin.CreditSafe := by
  have ledger := safe.toLedger.congr (books_startRoundRobin scheduler)
  rcases startRoundRobin_cases scheduler with same | ⟨fragment, front, credit, sends⟩ |
    ⟨empty, registers⟩
  · rw [same]
    exact safe
  · rw [sends] at ledger ⊢
    exact { ledger with enqueue := fun _ => ⟨fragment, front, credit⟩, dequeue := safe.dequeue }
  · rw [registers] at ledger ⊢
    refine { ledger with enqueue := fun registered => ?_, dequeue := fun entry member => ?_ }
    · obtain ⟨fragment, front, -⟩ := safe.enqueue registered
      rw [empty] at front
      cases front
    · have nothing : scheduler.fragmentsToSend.items = [] := by
        rw [front?_eq_head?_items, List.head?_eq_none_iff] at empty
        exact empty
      obtain ⟨old, oldMember, rfl⟩ := List.mem_map.1 member
      -- a dequeue registered now was registered before or is registered with a credit
      split
      · next fresh =>
        intro _
        simp only [Bool.and_eq_true, Bool.not_eq_true', bufferFull_eq_false_iff] at fresh
        exact ⟨nothing, fresh.2⟩
      · exact safe.dequeue old oldMember

end Registrations


section WithCredits

variable (scheduler : RoundRobinScheduler) (connectionType : ConnectionType) (value : UInt16)

@[simp] theorem credits_withCredits (other : ConnectionType) :
    (scheduler.withCredits connectionType value).credits other =
      if other = connectionType then value else scheduler.credits other := by
  cases connectionType <;> cases other <;> rfl

@[simp] theorem maxCredits_withCredits (other : ConnectionType) :
    (scheduler.withCredits connectionType value).maxCredits other = scheduler.maxCredits other := by
  cases connectionType <;> cases other <;> rfl

@[simp] theorem aclQueueHandlers_withCredits :
    (scheduler.withCredits connectionType value).aclQueueHandlers = scheduler.aclQueueHandlers := by
  cases connectionType <;> rfl

@[simp] theorem fragmentsToSend_withCredits :
    (scheduler.withCredits connectionType value).fragmentsToSend = scheduler.fragmentsToSend := by
  cases connectionType <;> rfl

@[simp] theorem enqueueRegistered_withCredits :
    (scheduler.withCredits connectionType value).enqueueRegistered =
      scheduler.enqueueRegistered := by
  cases connectionType <;> rfl

@[simp] theorem credits_update_handlers (entries : List (UInt16 × AclQueueHandler))
    (other : ConnectionType) :
    ({ scheduler with aclQueueHandlers := entries } : RoundRobinScheduler).credits other =
      scheduler.credits other := by
  cases other <;> rfl

@[simp] theorem maxCredits_update_handlers (entries : List (UInt16 × AclQueueHandler))
    (other : ConnectionType) :
    ({ scheduler with aclQueueHandlers := entries } : RoundRobinScheduler).maxCredits other =
      scheduler.maxCredits other := by
  cases other <;> rfl

end WithCredits

/-- `Unregister` gives the connection's count back to its transport and drops its entry. -/
theorem unregister_eq (scheduler : RoundRobinScheduler) (handle : UInt16) :
    scheduler.unregister handle = (scheduler.find? handle).map fun handler =>
      RoundRobinScheduler.withCredits
        { scheduler with
          aclQueueHandlers := scheduler.aclQueueHandlers.filter fun entry => entry.1 ≠ handle }
        handler.connectionType
        (scheduler.credits handler.connectionType + handler.numberOfSentPackets) := by
  unfold unregister
  split
  · next absent => rw [absent]; rfl
  · next handler found =>
    rw [found, Option.map_some]
    rcases handler with ⟨_ | _, _, _, _⟩ <;> rfl

section Events

variable {scheduler next : RoundRobinScheduler}

theorem find?_eq_none_iff {handle : UInt16} :
    scheduler.find? handle = none ↔ handle ∉ scheduler.accounts.map Account.handle := by
  rw [find?, Common.lookup_eq_none_iff_not_mem, map_handle_accounts]

theorem mem_of_find? (ledger : scheduler.Ledger) {handle : UInt16} {handler : AclQueueHandler}
    (found : scheduler.find? handle = some handler) :
    (handle, handler) ∈ scheduler.aclQueueHandlers := by
  have nodup := ledger.nodup
  rw [map_handle_accounts] at nodup
  exact (Common.lookup_eq_some_iff nodup).1 found

theorem mem_accounts_of_find? (ledger : scheduler.Ledger) {handle : UInt16}
    {handler : AclQueueHandler} (found : scheduler.find? handle = some handler) :
    ⟨handle, handler.connectionType, handler.numberOfSentPackets.toNat⟩ ∈ scheduler.accounts :=
  List.mem_map_of_mem (mem_of_find? ledger found)

/-- A connection that is not registered has nothing queued. -/
theorem queuedOf_eq_zero (ledger : scheduler.Ledger) {handle : UInt16}
    (absent : handle ∉ scheduler.accounts.map Account.handle) : scheduler.queuedOf handle = 0 := by
  refine List.countP_eq_zero.2 fun fragment member same => absent ?_
  obtain ⟨account, belongs, owner, -⟩ := ledger.owned fragment member
  rw [← of_decide_eq_true same, ← owner]
  exact List.mem_map_of_mem belongs

/-- A fragment at the controller is counted in the outstanding fragments of its transport. -/
theorem outstanding_le_outstandingOf (ledger : scheduler.Ledger) {account : Account}
    (member : account ∈ scheduler.accounts) :
    scheduler.outstanding account ≤ scheduler.outstandingOf account.connectionType := by
  have split := KeyedSum.sum_filter_key_ne_add Account.handle ledger.nodup member
    fun other => if other.connectionType = account.connectionType then
      scheduler.outstanding other else 0
  unfold outstandingOf
  rw [← split, if_pos rfl]
  exact Nat.le_add_left _ _

/-- Two accounts of one handle are the same account. -/
theorem eq_of_mem_accounts (ledger : scheduler.Ledger) {account other : Account}
    (member : account ∈ scheduler.accounts) (belongs : other ∈ scheduler.accounts)
    (same : account.handle = other.handle) : account = other :=
  List.inj_on_of_nodup_map ledger.nodup member belongs same

/-- Replacing the account of one connection by one of the same transport changes the fragments
at the controller of that transport by the difference of the two alone. -/
theorem outstandingOf_replace (ledger : scheduler.Ledger) {account : Account}
    (member : account ∈ scheduler.accounts) (replaced : Account)
    (sameType : replaced.connectionType = account.connectionType)
    (accounts : next.accounts = scheduler.accounts.map fun other =>
      if other.handle = account.handle then replaced else other)
    (queued : ∀ other ∈ scheduler.accounts, other.handle ≠ account.handle →
      next.queuedOf other.handle = scheduler.queuedOf other.handle)
    (connectionType : ConnectionType) :
    next.outstandingOf connectionType +
        (if account.connectionType = connectionType then scheduler.outstanding account else 0) =
      scheduler.outstandingOf connectionType +
        (if account.connectionType = connectionType then next.outstanding replaced else 0) := by
  have update := KeyedSum.sum_map_update_key Account.handle ledger.nodup member
    (fun other => if other.connectionType = connectionType then scheduler.outstanding other else 0)
    ((fun other => if other.connectionType = connectionType then next.outstanding other else 0) ∘
      fun other => if other.handle = account.handle then replaced else other)
    fun other belongs differs => by
      simp only [Function.comp_apply, if_neg differs, outstanding, queued other belongs differs]
  unfold outstandingOf
  rw [accounts, List.map_map]
  simpa only [Function.comp_apply, if_true, sameType] using update

/-- A connection added to `acl_queue_handlers_` starts with nothing charged. -/
theorem creditSafe_addHandler (safe : scheduler.CreditSafe) {handle : UInt16}
    (absent : scheduler.find? handle = none) (connectionType : ConnectionType) :
    ({ scheduler with
      aclQueueHandlers := scheduler.aclQueueHandlers ++
        [(handle, (⟨connectionType, false, 0, false⟩ : AclQueueHandler))] } :
        RoundRobinScheduler).CreditSafe := by
  rw [find?_eq_none_iff] at absent
  have nothing := queuedOf_eq_zero safe.toLedger absent
  have grown : ({ scheduler with
      aclQueueHandlers := scheduler.aclQueueHandlers ++
        [(handle, (⟨connectionType, false, 0, false⟩ : AclQueueHandler))] } :
        RoundRobinScheduler).accounts = scheduler.accounts ++ [⟨handle, connectionType, 0⟩] := by
    simp [accounts]
  refine ⟨⟨?_, ?_, ?_, fun type => ?_⟩, safe.enqueue, fun entry member => ?_⟩
  · rw [grown, List.map_append, List.nodup_append_comm]
    exact List.nodup_cons.2 ⟨absent, safe.nodup⟩
  · intro fragment member
    obtain ⟨account, belongs, owner⟩ := safe.owned fragment member
    exact ⟨account, grown ▸ List.mem_append_left _ belongs, owner⟩
  · rw [grown]
    intro account member
    rcases List.mem_append.1 member with old | fresh
    · exact safe.charged account old
    · rw [List.mem_singleton.1 fresh]
      exact nothing.le
  · have balanced := safe.balanced type
    unfold outstandingOf at balanced ⊢
    rw [grown, List.map_append, List.sum_append]
    cases type <;> simpa [outstanding, credits, maxCredits, queuedOf] using balanced
  · rcases List.mem_append.1 member with old | fresh
    · exact safe.dequeue entry old
    · rw [List.mem_singleton.1 fresh]
      intro registered
      cases registered

theorem creditSafe_register (safe : scheduler.CreditSafe) (connectionType : ConnectionType)
    (handle : UInt16) : (scheduler.register connectionType handle).CreditSafe := by
  unfold register
  -- `std::map::insert` adds an entry only for a handle not yet registered
  cases found : scheduler.find? handle with
  | some _ =>
    dsimp only
    split_ifs
    · exact creditSafe_startRoundRobin safe
    · exact safe
  | none =>
    have added := creditSafe_addHandler safe found connectionType
    dsimp only
    split_ifs
    · exact creditSafe_startRoundRobin added
    · exact added

/-- What `Unregister` changes: the entry of the connection goes, and its count is added to the
credits of its transport. -/
theorem unregister_spec {handle : UInt16} (unregistered : scheduler.unregister handle = some next) :
    ∃ handler, scheduler.find? handle = some handler ∧
      next.aclQueueHandlers = scheduler.aclQueueHandlers.filter (fun entry => entry.1 ≠ handle) ∧
      next.fragmentsToSend = scheduler.fragmentsToSend ∧
      next.enqueueRegistered = scheduler.enqueueRegistered ∧
      (∀ type, next.credits type = if type = handler.connectionType then
        scheduler.credits type + handler.numberOfSentPackets else scheduler.credits type) ∧
      ∀ type, next.maxCredits type = scheduler.maxCredits type := by
  rw [unregister_eq, Option.map_eq_some_iff] at unregistered
  obtain ⟨handler, found, rfl⟩ := unregistered
  refine ⟨handler, found, rfl, rfl, rfl, fun type => ?_, fun type => ?_⟩
  · rw [credits_withCredits, credits_update_handlers]
    split_ifs with same
    · rw [same]
    · rfl
  · rw [maxCredits_withCredits, maxCredits_update_handlers]

theorem creditSafe_unregister (safe : scheduler.CreditSafe) {handle : UInt16}
    (idle : scheduler.queuedOf handle = 0) (unregistered : scheduler.unregister handle = some next) :
    next.CreditSafe := by
  obtain ⟨handler, found, entries, queue, enqueue, credits, maxCredits⟩ := unregister_spec unregistered
  have member := mem_accounts_of_find? safe.toLedger found
  have atController := outstanding_le_outstandingOf safe.toLedger member
  simp only [outstanding, idle, Nat.sub_zero] at atController
  -- the count the connection gives back fits below the buffer count, so the sum does not wrap
  have reclaimed : (scheduler.credits handler.connectionType +
      handler.numberOfSentPackets).toNat = (scheduler.credits handler.connectionType).toNat +
        handler.numberOfSentPackets.toNat := by
    have balanced := safe.balanced handler.connectionType
    have below := (scheduler.maxCredits handler.connectionType).toNat_lt
    rw [UInt16.toNat_add, Nat.mod_eq_of_lt (by omega)]
  -- credits only grow
  have kept_credit : ∀ type, scheduler.credits type ≠ 0 → next.credits type ≠ 0 := by
    intro type credit
    rw [credits type]
    split_ifs with same
    · subst same
      intro zero
      rw [← UInt16.toNat_inj, reclaimed, UInt16.toNat_zero] at zero
      exact credit (UInt16.toNat_inj.1 (by simp only [UInt16.toNat_zero]; omega))
    · exact credit
  have kept : next.accounts = scheduler.accounts.filter fun account => account.handle ≠ handle := by
    simp [accounts, entries, List.filter_map, Function.comp_def]
  have queued := queuedOf_congr queue
  refine ⟨⟨?_, ?_, ?_, fun type => ?_⟩, fun registered => ?_, fun entry member => ?_⟩
  · rw [kept]
    exact safe.nodup.sublist (List.filter_sublist.map _)
  · intro fragment waiting
    rw [queue] at waiting
    obtain ⟨account, belongs, owner, sameType⟩ := safe.owned fragment waiting
    have other : account.handle ≠ handle := by
      intro same
      have none := List.countP_eq_zero.1 idle fragment waiting
      simp [← owner, same] at none
    exact ⟨account, kept ▸ List.mem_filter.2 ⟨belongs, by simpa using other⟩, owner, sameType⟩
  · rw [kept, queued]
    intro account belongs
    exact safe.charged account (List.mem_filter.1 belongs).1
  · have split := KeyedSum.sum_filter_key_ne_add Account.handle safe.nodup member
      fun other => if other.connectionType = type then scheduler.outstanding other else 0
    have balanced := safe.balanced type
    unfold outstandingOf at balanced ⊢
    unfold outstanding at split balanced ⊢
    rw [kept, queued, credits, maxCredits]
    simp only [idle, Nat.sub_zero] at split
    by_cases same : type = handler.connectionType
    · subst same
      rw [if_pos rfl, reclaimed]
      rw [if_pos rfl] at split
      omega
    · rw [if_neg same]
      simp only [if_neg (Ne.symm same), Nat.add_zero] at split
      omega
  · rw [enqueue] at registered
    obtain ⟨fragment, front, credit⟩ := safe.enqueue registered
    exact ⟨fragment, queue ▸ front, kept_credit _ credit⟩
  · rw [entries] at member
    intro registered
    obtain ⟨nothing, credit⟩ := safe.dequeue entry (List.mem_filter.1 member).1 registered
    exact ⟨queue ▸ nothing, kept_credit _ credit⟩

theorem creditSafe_setLinkPriority (safe : scheduler.CreditSafe) (handle : UInt16)
    (highPriority : Bool) :
    (scheduler.modifyHandler handle fun handler => { handler with highPriority }).CreditSafe := by
  refine ⟨safe.toLedger.congr (books_setLinkPriority scheduler handle highPriority), safe.enqueue,
    fun entry member => ?_⟩
  obtain ⟨old, oldMember, rfl⟩ := List.mem_map.1 member
  have flags := safe.dequeue old oldMember
  split <;> exact flags

theorem creditSafe_postedStarts (safe : scheduler.CreditSafe) (postedStarts : Nat) :
    ({ scheduler with postedStarts } : RoundRobinScheduler).CreditSafe :=
  ⟨safe.toLedger.congr rfl, safe.enqueue, safe.dequeue⟩

/-- The one entry of a registered handle. -/
theorem eq_of_find? (ledger : scheduler.Ledger) {handle : UInt16} {handler : AclQueueHandler}
    (found : scheduler.find? handle = some handler) {entry : UInt16 × AclQueueHandler}
    (member : entry ∈ scheduler.aclQueueHandlers) (same : entry.1 = handle) :
    entry = (handle, handler) := by
  have nodup := ledger.nodup
  rw [map_handle_accounts] at nodup
  exact List.inj_on_of_nodup_map nodup member (mem_of_find? ledger found) same

theorem size_eq_length_items {α : Type} (queue : MultiPriorityQueue α) :
    queue.size = queue.items.length := by
  simp [MultiPriorityQueue.size, MultiPriorityQueue.items, Nat.add_comm]

/-- Items pushed to an empty queue are all it holds. -/
theorem items_pushAll_of_empty {α : Type} {queue : MultiPriorityQueue α}
    (empty : queue.items = []) (items : List α) (high : Bool) :
    (queue.pushAll items high).items = items := by
  simp only [MultiPriorityQueue.items, List.append_eq_nil_iff] at empty
  cases high <;> simp [MultiPriorityQueue.pushAll, MultiPriorityQueue.items, empty]

/-- What `buffer_packet` changes besides the queue: every dequeue is unregistered, the
connection is charged with the size of the queue, and the enqueue callback is registered. -/
theorem bufferPacket_spec {handle : UInt16} {handler : AclQueueHandler} {packet : List UInt8}
    (buffered : scheduler.bufferPacket handle handler packet = some next) :
    next.fragmentsToSend.size ≠ 0 ∧
      next.aclQueueHandlers = (scheduler.aclQueueHandlers.map fun entry =>
        (entry.1, { entry.2 with dequeueIsRegistered := false })).map (fun entry =>
          if entry.1 = handle then
            (entry.1, { entry.2 with
              numberOfSentPackets :=
                entry.2.numberOfSentPackets + next.fragmentsToSend.size.toUInt16 })
          else entry) ∧
      next.enqueueRegistered = true ∧
      (∀ type, next.credits type = scheduler.credits type) ∧
      ∀ type, next.maxCredits type = scheduler.maxCredits type := by
  unfold bufferPacket at buffered
  split at buffered
  all_goals
    dsimp only at buffered
    split at buffered
    · cases buffered
    · next nonempty =>
      cases buffered
      exact ⟨nonempty, rfl, rfl, fun type => by cases type <;> rfl,
        fun type => by cases type <;> rfl⟩

theorem creditSafe_bufferPacket (safe : scheduler.CreditSafe) {handle : UInt16}
    {handler : AclQueueHandler} {packet : List UInt8} (found : scheduler.find? handle = some handler)
    (registered : handler.dequeueIsRegistered = true)
    (fits : (scheduler.maxCredits handler.connectionType).toNat +
      fragmentCount (scheduler.mtu handler.connectionType) packet < 65536)
    (buffered : scheduler.bufferPacket handle handler packet = some next) :
    next.CreditSafe := by
  obtain ⟨nothing, credit⟩ := safe.dequeue (handle, handler) (mem_of_find? safe.toLedger found)
    registered
  obtain ⟨nonempty, entries, enqueue, credits, maxCredits⟩ := bufferPacket_spec buffered
  set count := fragmentCount (scheduler.mtu handler.connectionType) packet
  set fragment : Fragment := ⟨handler.connectionType, handle⟩
  -- the queue was empty, so it now holds exactly the fragments of the packet
  have queue : next.fragmentsToSend.items = List.replicate count fragment := by
    rw [fragmentsToSend_bufferPacket buffered, MultiPriorityQueue.foldl_push,
      items_pushAll_of_empty nothing]
  have size : next.fragmentsToSend.size = count := by
    rw [size_eq_length_items, queue, List.length_replicate]
  have queued : ∀ other, next.queuedOf other = if handle = other then count else 0 := by
    intro other
    unfold queuedOf
    rw [queue, List.countP_replicate]
    simp [fragment]
  have idle : ∀ other, scheduler.queuedOf other = 0 := by
    intro other
    simp [queuedOf, nothing]
  -- the connection's count was at most the buffer count, so adding the packet does not wrap
  have member := mem_accounts_of_find? safe.toLedger found
  have atController := outstanding_le_outstandingOf safe.toLedger member
  have balanced := safe.balanced handler.connectionType
  simp only [outstanding, idle, Nat.sub_zero] at atController
  have charged : (handler.numberOfSentPackets + count.toUInt16).toNat =
      handler.numberOfSentPackets.toNat + count := by
    rw [UInt16.toNat_add, Nat.toUInt16_eq, UInt16.toNat_ofNat', Nat.mod_eq_of_lt (by omega),
      Nat.mod_eq_of_lt (by omega)]
  have bumped : next.accounts = scheduler.accounts.map fun account =>
      if account.handle = handle then { account with sent := account.sent + count } else account := by
    unfold accounts
    rw [entries, List.map_map, List.map_map, List.map_map]
    refine List.map_congr_left fun entry member => ?_
    simp only [Function.comp_apply, size]
    split_ifs with same
    · obtain rfl := eq_of_find? safe.toLedger found member same
      simp [charged]
    · rfl
  refine ⟨⟨?_, ?_, ?_, fun type => ?_⟩, fun _ => ?_, fun entry member => ?_⟩
  · rw [bumped, List.map_map]
    convert safe.nodup using 1
    refine List.map_congr_left fun account _ => ?_
    simp only [Function.comp_apply]
    split_ifs <;> rfl
  · intro waiting inQueue
    rw [queue, List.mem_replicate] at inQueue
    refine ⟨⟨handle, handler.connectionType, handler.numberOfSentPackets.toNat + count⟩, ?_,
      by simp [inQueue.2, fragment], by simp [inQueue.2, fragment]⟩
    rw [bumped]
    exact List.mem_map.2 ⟨_, member, by simp⟩
  · rw [bumped]
    intro account member
    obtain ⟨old, _, rfl⟩ := List.mem_map.1 member
    split_ifs with same
    · simp [queued, same]
    · simp [queued, Ne.symm same]
  · -- each connection has as many fragments at the controller as before
    have sameTerm : ∀ account : Account,
        (if account.handle = handle then { account with sent := account.sent + count }
          else account).connectionType = account.connectionType ∧
        next.outstanding (if account.handle = handle then
          { account with sent := account.sent + count } else account) =
          scheduler.outstanding account := by
      intro account
      by_cases same : account.handle = handle
      · simp [same, outstanding, queued, idle]
      · simp [same, outstanding, queued, idle, Ne.symm same]
    rw [credits, maxCredits, ← safe.balanced type]
    congr 1
    unfold outstandingOf
    rw [bumped, List.map_map]
    refine congrArg List.sum (List.map_congr_left fun account _ => ?_)
    simp only [Function.comp_apply, (sameTerm account).1, (sameTerm account).2]
  · refine ⟨fragment, ?_, by rw [credits]; exact credit⟩
    have positive : count ≠ 0 := by rwa [size] at nonempty
    rw [front?_eq_head?_items, queue, List.head?_replicate, if_neg positive]
  · rw [entries] at member
    obtain ⟨flagged, flaggedMember, rfl⟩ := List.mem_map.1 member
    obtain ⟨old, _, rfl⟩ := List.mem_map.1 flaggedMember
    intro registered
    split_ifs at registered

/-- What `handle_enqueue_next_fragment` changes: the front fragment, which has a credit of its
transport, takes it and leaves the queue, and the enqueue callback stays registered only for a
next fragment with a credit. -/
theorem handleEnqueueNextFragment_spec (enqueued : scheduler.handleEnqueueNextFragment = some next) :
    ∃ fragment, scheduler.fragmentsToSend.front? = some fragment ∧
      scheduler.credits fragment.connectionType ≠ 0 ∧
      next.aclQueueHandlers = scheduler.aclQueueHandlers ∧
      next.fragmentsToSend = scheduler.fragmentsToSend.pop ∧
      (∀ type, next.credits type = if type = fragment.connectionType then
        scheduler.credits type - 1 else scheduler.credits type) ∧
      (∀ type, next.maxCredits type = scheduler.maxCredits type) ∧
      (next.enqueueRegistered = true → ∃ following, next.fragmentsToSend.front? = some following ∧
        next.credits following.connectionType ≠ 0) := by
  unfold handleEnqueueNextFragment at enqueued
  cases front : scheduler.fragmentsToSend.front? with
  | none => simp [front] at enqueued
  | some fragment =>
    simp only [front, Option.bind_eq_bind, Option.bind_some] at enqueued
    refine ⟨fragment, rfl, ?_⟩
    cases type : fragment.connectionType
    all_goals
      simp only [type] at enqueued
      split at enqueued
      swap
      · simp at enqueued
      next credit =>
      refine ⟨by simpa [credits, UInt16.pos_iff_ne_zero] using credit, ?_⟩
      split at enqueued
      · next empty =>
        cases enqueued
        refine ⟨rfl, rfl, fun other => by cases other <;> rfl, fun other => by cases other <;> rfl,
          fun registered => by cases registered⟩
      · next following after =>
        split at enqueued <;> cases enqueued
        · exact ⟨rfl, rfl, fun other => by cases other <;> rfl, fun other => by cases other <;> rfl,
            fun registered => by cases registered⟩
        · next notFull =>
          refine ⟨rfl, rfl, fun other => by cases other <;> rfl, fun other => by cases other <;> rfl,
            fun _ => ⟨following, after, ?_⟩⟩
          simpa [bufferFull_eq_false_iff] using notFull

theorem toNat_sub_one {credit : UInt16} (positive : credit ≠ 0) :
    (credit - 1).toNat = credit.toNat - 1 := by
  have nonzero : credit.toNat ≠ 0 := fun zero => positive (UInt16.toNat_inj.1 (by simpa using zero))
  rw [UInt16.toNat_sub_of_le _ _ (UInt16.le_iff_toNat_le.2 (by simp; omega)), UInt16.toNat_one]

theorem creditSafe_handleEnqueueNextFragment (safe : scheduler.CreditSafe)
    (enqueued : scheduler.handleEnqueueNextFragment = some next) : next.CreditSafe := by
  obtain ⟨fragment, front, credit, entries, queue, credits, maxCredits, enqueue⟩ :=
    handleEnqueueNextFragment_spec enqueued
  obtain ⟨rest, items⟩ : ∃ rest, scheduler.fragmentsToSend.items = fragment :: rest := by
    rw [front?_eq_head?_items] at front
    exact ⟨_, List.eq_cons_of_mem_head? front⟩
  have popped : next.fragmentsToSend.items = rest := by
    rw [queue, items_pop, items, List.tail_cons]
  have sameAccounts : next.accounts = scheduler.accounts := by
    simp [accounts, entries]
  -- the fragment handed over leaves the count of its connection only
  have queued : ∀ handle, next.queuedOf handle + (if fragment.handle = handle then 1 else 0) =
      scheduler.queuedOf handle := by
    intro handle
    simp only [queuedOf, popped, items, List.countP_cons, decide_eq_true_eq]
  obtain ⟨account, member, owner, sameType⟩ :=
    safe.owned fragment (by rw [items]; exact List.mem_cons_self)
  refine ⟨⟨?_, ?_, ?_, fun type => ?_⟩, enqueue, fun entry member registered => ?_⟩
  · rw [sameAccounts]
    exact safe.nodup
  · intro waiting inQueue
    rw [popped] at inQueue
    rw [sameAccounts]
    exact safe.owned waiting (by rw [items]; exact List.mem_cons_of_mem _ inQueue)
  · rw [sameAccounts]
    intro other belongs
    have fewer := queued other.handle
    have charged := safe.charged other belongs
    omega
  · have update := KeyedSum.sum_map_update_key Account.handle safe.nodup member
      (fun other => if other.connectionType = type then scheduler.outstanding other else 0)
      (fun other => if other.connectionType = type then next.outstanding other else 0)
      fun other _ differs => by
        have fewer := queued other.handle
        rw [if_neg (fun same => differs (owner.trans same).symm)] at fewer
        simp only [outstanding, Nat.add_zero] at fewer ⊢
        rw [fewer]
    -- the connection of the fragment has one more at the controller
    have fewer := queued account.handle
    rw [if_pos owner.symm] at fewer
    have charged := safe.charged account member
    have before : scheduler.outstanding account = account.sent - scheduler.queuedOf account.handle :=
      rfl
    have after : next.outstanding account = account.sent - next.queuedOf account.handle := rfl
    have balanced := safe.balanced type
    unfold outstandingOf at balanced ⊢
    rw [sameAccounts, credits, maxCredits]
    by_cases same : type = fragment.connectionType
    · rw [if_pos same, toNat_sub_one (same ▸ credit)]
      simp only [if_pos (sameType.trans same.symm)] at update
      have nonzero : (scheduler.credits type).toNat ≠ 0 := fun zero =>
        (same ▸ credit) (UInt16.toNat_inj.1 (by simpa using zero))
      omega
    · rw [if_neg same]
      have differ : ¬account.connectionType = type := fun other => same (other.symm.trans sameType)
      simp only [if_neg differ] at update
      omega
  · rw [entries] at member
    have nothing := (safe.dequeue entry member registered).1
    rw [items] at nothing
    cases nothing

/-- What `incoming_acl_credits` changes for a registered connection when the credits it gives
back fit the buffer count: the connection's count goes down, the credits of its transport go up,
and `start_round_robin` may run. -/
theorem incomingAclCredits_spec {handle : UInt16} {handler : AclQueueHandler} {completed : UInt16}
    (found : scheduler.find? handle = some handler)
    (room : (scheduler.credits handler.connectionType).toNat + completed.toNat ≤
      (scheduler.maxCredits handler.connectionType).toNat) :
    ∃ middle : RoundRobinScheduler, (scheduler.incomingAclCredits handle completed = middle ∨
        scheduler.incomingAclCredits handle completed = middle.startRoundRobin) ∧
      middle.aclQueueHandlers = scheduler.aclQueueHandlers.map (fun entry =>
        if entry.1 = handle then
          (entry.1, { entry.2 with
            numberOfSentPackets := if entry.2.numberOfSentPackets ≥ completed then
              entry.2.numberOfSentPackets - completed else 0 })
        else entry) ∧
      middle.fragmentsToSend = scheduler.fragmentsToSend ∧
      middle.enqueueRegistered = scheduler.enqueueRegistered ∧
      (∀ type, middle.credits type = if type = handler.connectionType then
        scheduler.credits type + completed else scheduler.credits type) ∧
      ∀ type, middle.maxCredits type = scheduler.maxCredits type := by
  -- the credits given back do not wrap, and stay at most the buffer count
  have sum : (scheduler.credits handler.connectionType + completed).toNat =
      (scheduler.credits handler.connectionType).toNat + completed.toNat := by
    have below := (scheduler.maxCredits handler.connectionType).toNat_lt
    rw [UInt16.toNat_add, Nat.mod_eq_of_lt (by omega)]
  have uncapped : ¬scheduler.credits handler.connectionType + completed >
      scheduler.maxCredits handler.connectionType := by
    rw [gt_iff_lt, UInt16.lt_iff_toNat_lt, sum]
    omega
  unfold incomingAclCredits
  rw [found]
  dsimp only [modifyHandler]
  rcases handler with ⟨_ | _, dequeueIsRegistered, numberOfSentPackets, highPriority⟩
  all_goals
    dsimp only
    simp only [RoundRobinScheduler.credits, maxCredits] at uncapped
    rw [if_neg uncapped]
    split
    · exact ⟨_, .inr rfl, rfl, rfl, rfl, fun type => by cases type <;> rfl,
        fun type => by cases type <;> rfl⟩
    · exact ⟨_, .inl rfl, rfl, rfl, rfl, fun type => by cases type <;> rfl,
        fun type => by cases type <;> rfl⟩

theorem creditSafe_incomingAclCredits (safe : scheduler.CreditSafe) {handle completed : UInt16}
    (honest : ∀ handler, scheduler.find? handle = some handler →
      completed.toNat + scheduler.queuedOf handle ≤ handler.numberOfSentPackets.toNat) :
    (scheduler.incomingAclCredits handle completed).CreditSafe := by
  cases found : scheduler.find? handle with
  | none =>
    unfold incomingAclCredits
    rw [found]
    exact safe
  | some handler =>
    have enough := honest handler found
    set account : Account := ⟨handle, handler.connectionType, handler.numberOfSentPackets.toNat⟩
    set replaced : Account :=
      ⟨handle, handler.connectionType, handler.numberOfSentPackets.toNat - completed.toNat⟩
    have member : account ∈ scheduler.accounts := mem_accounts_of_find? safe.toLedger found
    have atController : handler.numberOfSentPackets.toNat - scheduler.queuedOf handle ≤
        scheduler.outstandingOf handler.connectionType :=
      outstanding_le_outstandingOf safe.toLedger member
    have balanced := safe.balanced handler.connectionType
    -- the completed fragments were at the controller, so the credits they give back fit
    have room : (scheduler.credits handler.connectionType).toNat + completed.toNat ≤
        (scheduler.maxCredits handler.connectionType).toNat := by
      omega
    obtain ⟨middle, result, entries, queue, enqueue, credits, maxCredits⟩ :=
      incomingAclCredits_spec found room
    have grown : (scheduler.credits handler.connectionType + completed).toNat =
        (scheduler.credits handler.connectionType).toNat + completed.toNat := by
      have below := (scheduler.maxCredits handler.connectionType).toNat_lt
      rw [UInt16.toNat_add, Nat.mod_eq_of_lt (by omega)]
    have keptCredit : ∀ type, scheduler.credits type ≠ 0 → middle.credits type ≠ 0 := by
      intro type credit
      rw [credits type]
      split_ifs with same
      · subst same
        intro zero
        rw [← UInt16.toNat_inj, grown, UInt16.toNat_zero] at zero
        exact credit (UInt16.toNat_inj.1 (by simp only [UInt16.toNat_zero]; omega))
      · exact credit
    have reduced : middle.accounts = scheduler.accounts.map fun other =>
        if other.handle = account.handle then replaced else other := by
      unfold accounts
      rw [entries, List.map_map, List.map_map]
      refine List.map_congr_left fun entry belongs => ?_
      simp only [Function.comp_apply]
      by_cases same : entry.1 = handle
      · obtain rfl := eq_of_find? safe.toLedger found belongs same
        have covers : completed ≤ handler.numberOfSentPackets :=
          UInt16.le_iff_toNat_le.2 (by omega)
        simp [account, replaced, covers, UInt16.toNat_sub_of_le _ _ covers]
      · simp only [account, if_neg same]
    have queued := queuedOf_congr queue
    have middleSafe : middle.CreditSafe := by
      refine ⟨⟨?_, ?_, ?_, fun type => ?_⟩, fun registered => ?_, fun entry belongs => ?_⟩
      · rw [reduced, List.map_map]
        convert safe.nodup using 1
        refine List.map_congr_left fun other _ => ?_
        simp only [Function.comp_apply]
        split_ifs with same
        · exact same.symm
        · rfl
      · intro fragment waiting
        rw [queue] at waiting
        obtain ⟨owner, belongs, sameHandle, sameType⟩ := safe.owned fragment waiting
        refine ⟨if owner.handle = account.handle then replaced else owner,
          by rw [reduced]; exact List.mem_map_of_mem belongs, ?_⟩
        split_ifs with same
        · exact ⟨same.symm.trans sameHandle, (congrArg Account.connectionType
            (eq_of_mem_accounts safe.toLedger member belongs same.symm)).trans sameType⟩
        · exact ⟨sameHandle, sameType⟩
      · rw [reduced, queued]
        intro other belongs
        obtain ⟨old, oldMember, rfl⟩ := List.mem_map.1 belongs
        split_ifs
        · simp only [replaced]
          omega
        · exact safe.charged old oldMember
      · have replace := outstandingOf_replace safe.toLedger member replaced rfl reduced
          (fun other _ _ => by rw [queued]) type
        have before := safe.balanced type
        simp only [outstanding, queued, replaced, account] at replace
        rw [credits, maxCredits]
        by_cases same : handler.connectionType = type
        · subst same
          rw [if_pos rfl, if_pos rfl] at replace
          rw [if_pos rfl, grown]
          omega
        · rw [if_neg same, if_neg same] at replace
          rw [if_neg (Ne.symm same)]
          omega
      · obtain ⟨fragment, front, credit⟩ := safe.enqueue (enqueue ▸ registered)
        exact ⟨fragment, queue ▸ front, keptCredit _ credit⟩
      · rw [entries] at belongs
        obtain ⟨old, oldMember, rfl⟩ := List.mem_map.1 belongs
        intro registered
        have kept : old.2.dequeueIsRegistered = true ∧
            (if old.1 = handle then ((old.1, { old.2 with
              numberOfSentPackets := if old.2.numberOfSentPackets ≥ completed then
                old.2.numberOfSentPackets - completed else 0 }) : UInt16 × AclQueueHandler)
              else old).2.connectionType = old.2.connectionType := by
          split_ifs at registered ⊢ <;> exact ⟨registered, rfl⟩
        obtain ⟨nothing, credit⟩ := safe.dequeue old oldMember kept.1
        exact ⟨queue ▸ nothing, kept.2 ▸ keptCredit _ credit⟩
    rcases result with same | started
    · rw [same]
      exact middleSafe
    · rw [started]
      exact creditSafe_startRoundRobin middleSafe

end Events

section Conservation

variable {scheduler : RoundRobinScheduler}

/-- A queued fragment has the transport of the connection it belongs to. -/
theorem connectionType_of_owned (ledger : scheduler.Ledger) {account : Account}
    (member : account ∈ scheduler.accounts) {fragment : Fragment}
    (waiting : fragment ∈ scheduler.fragmentsToSend.items) (same : fragment.handle = account.handle) :
    fragment.connectionType = account.connectionType := by
  obtain ⟨owner, belongs, owns, sameType⟩ := ledger.owned fragment waiting
  rw [← sameType, eq_of_mem_accounts ledger member belongs (same.symm.trans owns.symm)]

/-- Counted connection by connection, the queued fragments of a transport are all its queued
fragments. -/
theorem sum_queuedOf (ledger : scheduler.Ledger) (connectionType : ConnectionType) :
    (scheduler.accounts.map fun account =>
      if account.connectionType = connectionType then scheduler.queuedOf account.handle else 0).sum =
      scheduler.fragmentsToSend.items.countP (·.connectionType = connectionType) := by
  have byHandle := KeyedSum.sum_countP_key Account.handle Fragment.handle
    (scheduler.fragmentsToSend.items.filter (·.connectionType = connectionType)) ledger.nodup
  have perAccount : ∀ account ∈ scheduler.accounts,
      (if account.connectionType = connectionType then scheduler.queuedOf account.handle else 0) =
        (scheduler.fragmentsToSend.items.filter (·.connectionType = connectionType)).countP
          (·.handle = account.handle) := by
    intro account member
    rw [List.countP_filter, queuedOf]
    split_ifs with same
    · refine List.countP_congr fun fragment waiting => ?_
      have sameType := connectionType_of_owned ledger member waiting
      simp only [Bool.and_eq_true, decide_eq_true_eq, iff_self_and]
      exact fun owns => (sameType owns).trans same
    · refine (List.countP_eq_zero.2 fun fragment waiting both => ?_).symm
      simp only [Bool.and_eq_true, decide_eq_true_eq] at both
      exact same ((connectionType_of_owned ledger member waiting both.1).symm.trans both.2)
  rw [List.map_congr_left perAccount, byHandle, List.countP_filter]
  refine List.countP_congr fun fragment waiting => ?_
  obtain ⟨owner, belongs, owns, -⟩ := ledger.owned fragment waiting
  simp only [Bool.and_eq_true, decide_eq_true_eq, and_iff_right_iff_imp]
  exact fun _ => List.mem_map.2 ⟨owner, belongs, owns⟩

/-- The fragments charged to a transport's connections are those at the controller and those
queued. -/
theorem sentPackets_eq (ledger : scheduler.Ledger) (connectionType : ConnectionType) :
    scheduler.sentPackets connectionType = scheduler.outstandingOf connectionType +
      scheduler.fragmentsToSend.items.countP (·.connectionType = connectionType) := by
  rw [← sum_queuedOf ledger, outstandingOf, ← List.sum_map_add, sentPackets,
    KeyedSum.sum_map_filter]
  unfold accounts
  rw [List.map_map]
  refine congrArg List.sum (List.map_congr_left fun entry member => ?_)
  have charged : scheduler.queuedOf entry.1 ≤ entry.2.numberOfSentPackets.toNat :=
    ledger.charged ⟨entry.1, entry.2.connectionType, entry.2.numberOfSentPackets.toNat⟩
      (List.mem_map_of_mem member)
  simp only [Function.comp_apply, outstanding]
  split_ifs <;> omega

/-- The ledger of every transport balances. -/
theorem Ledger.conserved (ledger : scheduler.Ledger) (connectionType : ConnectionType) :
    scheduler.Conserved connectionType := by
  -- every queued fragment belongs to a registered connection
  have queued : scheduler.queuedFragments connectionType =
      scheduler.fragmentsToSend.items.countP (·.connectionType = connectionType) := by
    rw [queuedFragments, ← List.countP_eq_length_filter]
    refine List.countP_congr fun fragment waiting => ?_
    obtain ⟨owner, belongs, owns, -⟩ := ledger.owned fragment waiting
    have registered : (scheduler.find? fragment.handle).isSome := by
      rw [Option.isSome_iff_ne_none, Ne, find?_eq_none_iff, not_not, ← owns]
      exact List.mem_map_of_mem belongs
    simp [registered]
  rw [Conserved, queued, sentPackets_eq ledger, ← ledger.balanced connectionType]
  omega

/-- A transport never has more credits than the controller has buffers. -/
theorem Ledger.credits_le (ledger : scheduler.Ledger) (connectionType : ConnectionType) :
    scheduler.credits connectionType ≤ scheduler.maxCredits connectionType := by
  have balanced := ledger.balanced connectionType
  exact UInt16.le_iff_toNat_le.2 (by omega)

end Conservation

theorem creditSafe_initial (numAclPacketBuffers totalNumLePackets : UInt16)
    (aclPacketLength leDataPacketLength : Nat) :
    (initial numAclPacketBuffers totalNumLePackets aclPacketLength leDataPacketLength).CreditSafe := by
  refine ⟨⟨List.nodup_nil, ?_, ?_, fun connectionType => ?_⟩, ?_, ?_⟩
  · simp [initial, MultiPriorityQueue.items, MultiPriorityQueue.empty]
  · simp [initial, accounts]
  · cases connectionType <;> simp [initial, outstandingOf, accounts, credits, maxCredits]
  · simp [initial]
  · simp [initial]

end RoundRobinScheduler

/-- What the controller and the layers above keep to: a connection is unregistered only once its
queued fragments are sent, the controller reports no more completed fragments of a connection
than it holds, and the fragments of a packet fit the sixteen-bit count of its connection. -/
def RoundRobinScheduler.admits (scheduler : RoundRobinScheduler) : SchedulerEvent → Bool
  | .unregister handle => scheduler.queuedOf handle = 0
  | .dequeueReady handle packet =>
    match scheduler.find? handle with
    | some handler => (scheduler.maxCredits handler.connectionType).toNat +
        RoundRobinScheduler.fragmentCount (scheduler.mtu handler.connectionType) packet < 65536
    | none => true
  | .completedPackets handle completed =>
    match scheduler.find? handle with
    | some handler => completed.toNat + scheduler.queuedOf handle ≤ handler.numberOfSentPackets.toNat
    | none => true
  | _ => true

/-- The events of the scheduler that the controller and the layers above admit. -/
def honestStep (scheduler : RoundRobinScheduler) (event : SchedulerEvent) :
    Option RoundRobinScheduler :=
  if scheduler.admits event then schedulerStep scheduler event else none

namespace RoundRobinScheduler

variable {scheduler next : RoundRobinScheduler}

/-- Every admitted event keeps the books and the registrations. -/
theorem creditSafe_honestStep (safe : scheduler.CreditSafe) {event : SchedulerEvent}
    (stepped : honestStep scheduler event = some next) : next.CreditSafe := by
  unfold honestStep at stepped
  split at stepped
  swap
  · cases stepped
  next admitted =>
  cases event with
  | register connectionType handle =>
    cases stepped
    exact creditSafe_register safe connectionType handle
  | unregister handle =>
    exact creditSafe_unregister safe (by simpa [admits] using admitted) stepped
  | setLinkPriority handle highPriority =>
    cases stepped
    exact creditSafe_setLinkPriority safe handle highPriority
  | dequeueReady handle packet =>
    simp only [schedulerStep] at stepped
    cases found : scheduler.find? handle with
    | none => simp [found] at stepped
    | some handler =>
      simp only [found] at stepped admitted
      split at stepped
      · next registered =>
        exact creditSafe_bufferPacket safe found registered (by simpa [admits, found] using admitted)
          stepped
      · cases stepped
  | enqueueReady =>
    simp only [schedulerStep] at stepped
    split at stepped
    · exact creditSafe_handleEnqueueNextFragment safe stepped
    · cases stepped
  | completedPackets handle completed =>
    cases stepped
    refine creditSafe_incomingAclCredits safe fun handler found => ?_
    simpa [admits, found] using admitted
  | postedStart =>
    simp only [schedulerStep] at stepped
    split at stepped
    · cases stepped
      exact creditSafe_startRoundRobin (creditSafe_postedStarts safe _)
    · cases stepped

theorem creditSafe_of_reachable {numAclPacketBuffers totalNumLePackets : UInt16}
    {aclPacketLength leDataPacketLength : Nat}
    (reachable : Transition.Reachable honestStep
      (initial numAclPacketBuffers totalNumLePackets aclPacketLength leDataPacketLength) scheduler) :
    scheduler.CreditSafe :=
  reachable.invariant (creditSafe_initial _ _ _ _) fun _ _ _ safe stepped =>
    creditSafe_honestStep safe stepped

/-- With a front fragment whose transport has a credit, `handle_enqueue_next_fragment` passes its
`ASSERT`. -/
theorem isSome_handleEnqueueNextFragment {fragment : Fragment}
    (front : scheduler.fragmentsToSend.front? = some fragment)
    (credit : scheduler.credits fragment.connectionType ≠ 0) :
    scheduler.handleEnqueueNextFragment.isSome := by
  unfold handleEnqueueNextFragment
  simp only [front, Option.bind_eq_bind, Option.bind_some]
  cases type : fragment.connectionType
  all_goals
    rw [type] at credit
    simp only [credits] at credit
    simp only [UInt16.pos_iff_ne_zero, credit, ne_eq, not_false_eq_true, if_true]
    split
    · rfl
    · split <;> rfl

/-- On every run that the controller and the layers above keep to, no transport ever has more
credits than the controller has buffers, the ledger of each transport balances, and the enqueue
callback never fails the `ASSERT` on the credits of the front fragment's transport. -/
theorem honest_runs_keep_credit_books {numAclPacketBuffers totalNumLePackets : UInt16}
    {aclPacketLength leDataPacketLength : Nat}
    (reachable : Transition.Reachable honestStep
      (initial numAclPacketBuffers totalNumLePackets aclPacketLength leDataPacketLength) scheduler) :
    (∀ connectionType, scheduler.credits connectionType ≤ scheduler.maxCredits connectionType ∧
      scheduler.Conserved connectionType) ∧
    (scheduler.enqueueRegistered = true → scheduler.handleEnqueueNextFragment.isSome) := by
  have safe := creditSafe_of_reachable reachable
  refine ⟨fun connectionType => ⟨safe.credits_le connectionType, safe.conserved connectionType⟩,
    fun registered => ?_⟩
  obtain ⟨fragment, front, credit⟩ := safe.enqueue registered
  exact isSome_handleEnqueueNextFragment front credit

/-- A classic connection hands over one packet, whose fragment is sent and completed. -/
theorem honest_runs_keep_credit_books_after_one_packet :
    ∃ scheduler, Transition.run honestStep (initial 8 8 1021 251)
        [.register .classic 1, .dequeueReady 1 [0, 1, 2], .enqueueReady, .completedPackets 1 1] =
          some scheduler ∧
      (∀ connectionType, scheduler.credits connectionType ≤ scheduler.maxCredits connectionType ∧
        scheduler.Conserved connectionType) ∧
      (scheduler.enqueueRegistered = true → scheduler.handleEnqueueNextFragment.isSome) := by
  obtain ⟨scheduler, ran⟩ : ∃ scheduler, Transition.run honestStep (initial 8 8 1021 251)
      [.register .classic 1, .dequeueReady 1 [0, 1, 2], .enqueueReady, .completedPackets 1 1] =
        some scheduler := ⟨_, rfl⟩
  exact ⟨scheduler, ran, honest_runs_keep_credit_books (Transition.reachable_of_run ran)⟩

end RoundRobinScheduler

end Bluetooth.Hci

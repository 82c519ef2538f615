import Mathlib
import Bluetooth.Lib.Transition

set_option linter.all false

/-!
# The enqueue end of a gd `os::Queue` under every interleaving

An `EnqueueBuffer` holds the items its producers give it and registers the enqueue end of a
`Queue` while it has any; the reactor thread of the handler then runs `enqueue_callback`,
which moves the front item of the buffer into the queue through
`Queue::EnqueueCallbackInternal`.  `EnqueueBuffer::Clear` drops the buffer and unregisters the
enqueue end.  When it is called on another thread than the reactor's, `UnregisterEnqueue`
waits, for at most 1000 ms, for a callback of the reactable that is running on the reactor
thread to finish.

The state is the data the code shares and the place of every thread in the code.  A step is
one region of code between two points where the thread may block: the parts of a function
that run under `Queue::mutex_` only are one step each, while `Clear` holds the buffer's
`mutex_` across `UnregisterEnqueue` and `WaitForUnregisteredReactable`, which are steps of
their own.  The timeout of the wait is a step the waiting thread may take whenever the
callback it waits for has not finished.

The counts of the two reactive semaphores stay those of the queue over every run
(`Balanced.reachable`).  But a `Clear` that starts while the reactor thread is about to run
`enqueue_callback` holds `mutex_` through its wait; the callback cannot take `mutex_`, so the
wait times out, `Clear` empties the buffer, and the callback then runs `front()` and `pop()` on
the empty `buffer_` (`enqueueCallback_fronts_empty_buffer`).
-/

namespace Bluetooth.Os

/-- A thread: the thread of the handler's reactor, which runs the queue's callbacks, or another
thread. -/
inductive Thread where
  | reactor
  | other (id : Nat)
  deriving DecidableEq, Repr

/-- Where a thread is in the code of the queue. -/
inductive Pc (α : Type) where
  /-- Outside the code of the queue. -/
  | idle
  /-- In `EnqueueBuffer::Clear`, holding `mutex_` with `enqueue_registered_` found set, about to
  call `Queue::UnregisterEnqueue`. -/
  | clearUnregisterEnqueue
  /-- In `Queue::UnregisterEnqueue`, about to call `Reactor::Unregister(reactable)`; `wait` is
  `wait_for_unregister`. -/
  | clearUnregister (reactable : Nat) (wait : Bool)
  /-- About to call `Reactor::WaitForUnregisteredReactable`. -/
  | clearWait
  /-- In `WaitForUnregisteredReactable`, holding the reactor's `mutex_`, waiting on
  `executing_reactable_finished_`. -/
  | clearWaiting
  /-- Back in `Clear`, about to empty `buffer_` and release `mutex_`. -/
  | clearSwap
  /-- The reactor thread has set `is_executing_` of `reactable` and is about to run its
  `on_read_ready_`, `EnqueueCallbackInternal`, which calls `enqueue_callback` first. -/
  | dispatched (reactable : Nat)
  /-- `enqueue_callback` returned `data`; `EnqueueCallbackInternal` is about to push it. -/
  | callbackReturned (reactable : Nat) (data : α)
  /-- `EnqueueCallbackInternal` returned; the reactor is about to clear `is_executing_`. -/
  | callbackDone (reactable : Nat)
  /-- `enqueue_callback` called `front()` and `pop()` on an empty `buffer_`. -/
  | frontOfEmpty
  /-- An `ASSERT` of `RegisterEnqueue` or `UnregisterEnqueue` failed. -/
  | assertFailed
  deriving DecidableEq, Repr

/-- Whether the reactor thread is between the dispatch of the enqueue reactable and the push of
its item, where it has taken a slot of the enqueue semaphore. -/
def Pc.holdsSlot {α : Type} : Pc α → Bool
  | .dispatched _ => true
  | .callbackReturned _ _ => true
  | .idle | .clearUnregisterEnqueue | .clearUnregister _ _ | .clearWait | .clearWaiting
  | .clearSwap | .callbackDone _ | .frontOfEmpty | .assertFailed => false

/-- One `Queue` with one `EnqueueBuffer` on it and the reactor of the handler. -/
structure QueueSystem (α : Type) where
  /-- The thread that holds `EnqueueBuffer::mutex_`. -/
  bufferOwner : Option Thread
  /-- `EnqueueBuffer::enqueue_registered_`. -/
  enqueueRegistered : Bool
  /-- `EnqueueBuffer::buffer_`, front first. -/
  buffer : List α
  /-- `Queue::queue_`, front first. -/
  queue : List α
  /-- The count of `enqueue_.reactive_semaphore_`. -/
  enqueueCount : Nat
  /-- The count of `dequeue_.reactive_semaphore_`. -/
  dequeueCount : Nat
  /-- `enqueue_.reactable_`. -/
  enqueueReactable : Option Nat
  /-- The thread that holds `Reactor::mutex_` across `WaitForUnregisteredReactable`. -/
  reactorOwner : Option Thread
  /-- The reactables in the reactor's epoll set. -/
  polled : List Nat
  /-- `Reactor::invalidation_list_`. -/
  invalidation : List Nat
  /-- The reactable whose `is_executing_` is set. -/
  executing : Option Nat
  /-- `executing_reactable_finished_`: the reactable whose callback it waits for. -/
  finished : Option Nat
  /-- The number the next reactable gets. -/
  nextReactable : Nat
  /-- Where each thread is. -/
  pc : Thread → Pc α

/-- What a step of the system does. -/
inductive QueueEvent (α : Type) where
  /-- `EnqueueBuffer::Enqueue(item, handler)` on `thread`. -/
  | enqueue (thread : Thread) (item : α)
  /-- `EnqueueBuffer::Clear` on `thread` takes `mutex_` and exchanges `enqueue_registered_`. -/
  | clear (thread : Thread)
  /-- The part of `UnregisterEnqueue` under `Queue::mutex_`. -/
  | clearUnregisterEnqueue (thread : Thread)
  /-- `Reactor::Unregister`. -/
  | clearUnregister (thread : Thread)
  /-- `WaitForUnregisteredReactable` takes the reactor's `mutex_`. -/
  | clearWait (thread : Thread)
  /-- The wait ends because the callback it waits for finished. -/
  | clearWaitReady (thread : Thread)
  /-- The wait times out after 1000 ms. -/
  | clearWaitTimeout (thread : Thread)
  /-- `Clear` swaps `buffer_` with an empty queue and releases `mutex_`. -/
  | clearSwap (thread : Thread)
  /-- `Reactor::Run` clears `invalidation_list_` before `epoll_wait`. -/
  | reactorPoll
  /-- `Reactor::Run` dispatches the enqueue reactable `reactable`. -/
  | reactorDispatch (reactable : Nat)
  /-- `enqueue_callback` runs under `mutex_`. -/
  | enqueueCallback
  /-- `EnqueueCallbackInternal` pushes the item under `Queue::mutex_`. -/
  | enqueueCallbackPush
  /-- `Reactor::Run` clears `is_executing_` after the callback. -/
  | reactorFinish
  /-- `Queue::TryDequeue` on `thread`. -/
  | tryDequeue (thread : Thread)

namespace QueueSystem

variable {α : Type}

/-- A queue of `capacity` items with nothing registered: `Queue(capacity)` and a new
`EnqueueBuffer` on it. -/
def start (capacity : Nat) : QueueSystem α where
  bufferOwner := none
  enqueueRegistered := false
  buffer := []
  queue := []
  enqueueCount := capacity
  dequeueCount := 0
  enqueueReactable := none
  reactorOwner := none
  polled := []
  invalidation := []
  executing := none
  finished := none
  nextReactable := 0
  pc := fun _ => .idle

/-- Move `thread` to `pc`. -/
def moveTo (system : QueueSystem α) (thread : Thread) (pc : Pc α) : QueueSystem α :=
  { system with pc := Function.update system.pc thread pc }

/-- `Reactor::Unregister(reactable)`: it is invalidated and leaves the epoll set, and when its
callback is running, `executing_reactable_finished_` waits for that callback. -/
def unregister (system : QueueSystem α) (reactable : Nat) : QueueSystem α :=
  { system with
    invalidation := system.invalidation ++ [reactable]
    polled := system.polled.erase reactable
    finished := if system.executing = some reactable then some reactable else system.finished }

/-- `RegisterEnqueue` on the handler of the reactor, past its `ASSERT`s: a new reactable for the
enqueue semaphore. -/
def registerEnqueue (system : QueueSystem α) : QueueSystem α :=
  { system with
    enqueueReactable := some system.nextReactable
    polled := system.polled ++ [system.nextReactable]
    nextReactable := system.nextReactable + 1 }

/-- Whether the callback that `executing_reactable_finished_` waits for has finished. -/
def waitReady (system : QueueSystem α) : Bool :=
  match system.finished with
  | none => true
  | some reactable => system.executing != some reactable

section Frame

variable {system : QueueSystem α}

@[simp] theorem enqueueCount_moveTo (thread : Thread) (pc : Pc α) :
    (system.moveTo thread pc).enqueueCount = system.enqueueCount := rfl

@[simp] theorem queue_moveTo (thread : Thread) (pc : Pc α) :
    (system.moveTo thread pc).queue = system.queue := rfl

@[simp] theorem dequeueCount_moveTo (thread : Thread) (pc : Pc α) :
    (system.moveTo thread pc).dequeueCount = system.dequeueCount := rfl

@[simp] theorem pc_moveTo (thread : Thread) (pc : Pc α) :
    (system.moveTo thread pc).pc = Function.update system.pc thread pc := rfl

@[simp] theorem enqueueCount_unregister (reactable : Nat) :
    (system.unregister reactable).enqueueCount = system.enqueueCount := rfl

@[simp] theorem queue_unregister (reactable : Nat) :
    (system.unregister reactable).queue = system.queue := rfl

@[simp] theorem dequeueCount_unregister (reactable : Nat) :
    (system.unregister reactable).dequeueCount = system.dequeueCount := rfl

@[simp] theorem pc_unregister (reactable : Nat) :
    (system.unregister reactable).pc = system.pc := rfl

@[simp] theorem enqueueCount_registerEnqueue :
    system.registerEnqueue.enqueueCount = system.enqueueCount := rfl

@[simp] theorem queue_registerEnqueue : system.registerEnqueue.queue = system.queue := rfl

@[simp] theorem dequeueCount_registerEnqueue :
    system.registerEnqueue.dequeueCount = system.dequeueCount := rfl

@[simp] theorem pc_registerEnqueue : system.registerEnqueue.pc = system.pc := rfl

end Frame

variable [DecidableEq α]

/-- One step of the system, or `none` when the thread cannot take it: it is elsewhere in the
code, or blocked on a mutex another thread holds. -/
def step (system : QueueSystem α) : QueueEvent α → Option (QueueSystem α)
  | .enqueue thread item =>
      if system.pc thread = .idle ∧ system.bufferOwner = none then
        let system := { system with buffer := system.buffer ++ [item] }
        if system.enqueueRegistered then some system
        else
          -- the `ASSERT`s of `RegisterEnqueue`
          match system.enqueueReactable with
          | some _ => some ({ system with enqueueRegistered := true }.moveTo thread .assertFailed)
          | none => some { system with enqueueRegistered := true }.registerEnqueue
      else none
  | .clear thread =>
      if system.pc thread = .idle ∧ system.bufferOwner = none then
        if system.enqueueRegistered then
          some ({ system with bufferOwner := some thread, enqueueRegistered := false }.moveTo
            thread .clearUnregisterEnqueue)
        else some system
      else none
  | .clearUnregisterEnqueue thread =>
      if system.pc thread = .clearUnregisterEnqueue then
        match system.enqueueReactable with
        | none => some (system.moveTo thread .assertFailed)
        | some reactable =>
            -- `wait_for_unregister` is whether `thread` is not the reactor's
            some ({ system with enqueueReactable := none }.moveTo thread
              (.clearUnregister reactable (thread != Thread.reactor)))
      else none
  | .clearUnregister thread =>
      match system.pc thread with
      | .clearUnregister reactable wait =>
          if system.reactorOwner = none then
            some ((system.unregister reactable).moveTo thread (if wait then .clearWait else .clearSwap))
          else none
      | _ => none
  | .clearWait thread =>
      if system.pc thread = .clearWait ∧ system.reactorOwner = none then
        if system.finished = none then some (system.moveTo thread .clearSwap)
        else some ({ system with reactorOwner := some thread }.moveTo thread .clearWaiting)
      else none
  | .clearWaitReady thread =>
      if system.pc thread = .clearWaiting ∧ system.waitReady then
        some ({ system with reactorOwner := none }.moveTo thread .clearSwap)
      else none
  | .clearWaitTimeout thread =>
      if system.pc thread = .clearWaiting ∧ !system.waitReady then
        some ({ system with reactorOwner := none }.moveTo thread .clearSwap)
      else none
  | .clearSwap thread =>
      if system.pc thread = .clearSwap then
        some ({ system with buffer := [], bufferOwner := none }.moveTo thread .idle)
      else none
  | .reactorPoll =>
      if system.pc .reactor = .idle then some { system with invalidation := [] } else none
  | .reactorDispatch reactable =>
      if system.pc .reactor = .idle ∧ system.reactorOwner = none ∧ reactable ∈ system.polled ∧
          reactable ∉ system.invalidation ∧ 0 < system.enqueueCount then
        some ({ system with executing := some reactable, finished := none }.moveTo .reactor
          (.dispatched reactable))
      else none
  | .enqueueCallback =>
      match system.pc .reactor with
      | .dispatched reactable =>
          if system.bufferOwner = none then
            match system.buffer with
            | [] => some (system.moveTo .reactor .frontOfEmpty)
            | data :: rest =>
                if rest = [] ∧ system.enqueueRegistered then
                  -- `UnregisterEnqueue` on the reactor thread, which does not wait
                  match system.enqueueReactable with
                  | none => some (system.moveTo .reactor .assertFailed)
                  | some registered =>
                      if system.reactorOwner = none then
                        some (({ system with
                          buffer := rest, enqueueRegistered := false,
                          enqueueReactable := none }.unregister registered).moveTo .reactor
                            (.callbackReturned reactable data))
                      else none
                else
                  some ({ system with buffer := rest }.moveTo .reactor
                    (.callbackReturned reactable data))
          else none
      | _ => none
  | .enqueueCallbackPush =>
      match system.pc .reactor with
      | .callbackReturned reactable data =>
          some ({ system with
            enqueueCount := system.enqueueCount - 1
            queue := system.queue ++ [data]
            dequeueCount := system.dequeueCount + 1 }.moveTo .reactor (.callbackDone reactable))
      | _ => none
  | .reactorFinish =>
      match system.pc .reactor with
      | .callbackDone _ => some ({ system with executing := none }.moveTo .reactor .idle)
      | _ => none
  | .tryDequeue thread =>
      if system.pc thread = .idle then
        match system.queue with
        | [] => some system
        | _ :: rest =>
            some { system with
              queue := rest
              dequeueCount := system.dequeueCount - 1
              enqueueCount := system.enqueueCount + 1 }
      else none

section Counts

variable {system next : QueueSystem α}

/-- A step that leaves the queue and both counts as they were. -/
def SameCounts (system next : QueueSystem α) : Prop :=
  next.enqueueCount = system.enqueueCount ∧ next.queue = system.queue ∧
    next.dequeueCount = system.dequeueCount

/-- What a step can do to the queue and the two counts: leave them, with the reactor thread
taking a slot only when the enqueue semaphore has one; push the item of the callback, which
had its slot; or pop the front item in `TryDequeue`. -/
theorem step_effect {event : QueueEvent α} (stepped : system.step event = some next) :
    (SameCounts system next ∧
      ((next.pc .reactor).holdsSlot → (system.pc .reactor).holdsSlot ∨ 0 < system.enqueueCount)) ∨
    (∃ data, next.enqueueCount = system.enqueueCount - 1 ∧ next.queue = system.queue ++ [data] ∧
      next.dequeueCount = system.dequeueCount + 1 ∧ (system.pc .reactor).holdsSlot ∧
      (next.pc .reactor).holdsSlot = false) ∨
    (∃ item, system.queue = item :: next.queue ∧ next.dequeueCount = system.dequeueCount - 1 ∧
      next.enqueueCount = system.enqueueCount + 1 ∧ next.pc = system.pc) := by
  cases event <;> simp only [step] at stepped
  all_goals repeat' split at stepped
  all_goals simp only [reduceCtorEq, Option.some.injEq] at stepped
  all_goals subst stepped
  all_goals simp only [SameCounts, enqueueCount_moveTo, queue_moveTo, dequeueCount_moveTo,
    pc_moveTo, enqueueCount_unregister, queue_unregister, dequeueCount_unregister, pc_unregister,
    enqueueCount_registerEnqueue, queue_registerEnqueue, dequeueCount_registerEnqueue,
    pc_registerEnqueue, Function.update_apply]
  all_goals grind [Pc.holdsSlot]

/-- The reactive semaphores count the queue: the enqueue semaphore its free places and the
dequeue semaphore its items, and while the reactor thread runs the enqueue callback, the place
that callback will fill is still counted free. -/
structure Balanced (capacity : Nat) (system : QueueSystem α) : Prop where
  free : system.enqueueCount + system.queue.length = capacity
  ready : system.dequeueCount = system.queue.length
  slot : (system.pc .reactor).holdsSlot → 0 < system.enqueueCount

omit [DecidableEq α] in
theorem balanced_start (capacity : Nat) : Balanced capacity (start capacity : QueueSystem α) :=
  ⟨rfl, rfl, fun holds => by simp [start, Pc.holdsSlot] at holds⟩

theorem Balanced.step {capacity : Nat} {event : QueueEvent α}
    (balanced : Balanced capacity system) (stepped : system.step event = some next) :
    Balanced capacity next := by
  obtain ⟨free, ready, slot⟩ := balanced
  rcases step_effect stepped with
    ⟨⟨count, queue, dequeue⟩, taken⟩ | ⟨data, count, queue, dequeue, held, released⟩ |
      ⟨item, popped, dequeue, count, pcs⟩
  · refine ⟨by rw [count, queue]; exact free, by rw [dequeue, queue]; exact ready,
      fun holds => ?_⟩
    rw [count]
    exact (taken holds).elim slot id
  · -- the push of `EnqueueCallbackInternal` fills the place its dispatch found free
    have positive := slot held
    refine ⟨?_, ?_, fun holds => by rw [released] at holds; cases holds⟩
    · rw [count, queue, List.length_append, List.length_singleton]
      omega
    · rw [dequeue, queue, List.length_append, List.length_singleton, ready]
  · rw [popped, List.length_cons] at free ready
    refine ⟨by omega, by omega, fun holds => by omega⟩

/-- In every reachable state the semaphores count the queue, which holds at most `capacity`
items. -/
theorem Balanced.reachable {capacity : Nat}
    (reachable : Transition.Reachable QueueSystem.step (start capacity) system) :
    Balanced capacity system :=
  reachable.invariant (balanced_start capacity) fun _ _ _ balanced stepped =>
    balanced.step stepped

end Counts

/-- A producer enqueues `item` and later clears the buffer while the reactor thread is about to
run the callback that moves `item`: the wait of `Clear` for that callback times out. -/
def clearDuringCallback (item : α) : List (QueueEvent α) :=
  [.enqueue (.other 0) item, .reactorPoll, .reactorDispatch 0, .clear (.other 0),
    .clearUnregisterEnqueue (.other 0), .clearUnregister (.other 0), .clearWait (.other 0),
    .clearWaitTimeout (.other 0), .clearSwap (.other 0), .enqueueCallback]

theorem run_clearDuringCallback {capacity : Nat} (positive : 0 < capacity) (item : α) :
    (Transition.run step (start capacity) (clearDuringCallback item)).map (fun system =>
      system.pc .reactor) = some .frontOfEmpty := by
  simp [clearDuringCallback, Transition.run, step, start, moveTo, registerEnqueue, unregister,
    waitReady, positive]

/-- For every capacity and item, a run of the queue reaches a state in which
`enqueue_callback` has called `front()` and `pop()` on the empty `buffer_`. -/
theorem enqueueCallback_fronts_empty_buffer {capacity : Nat} (positive : 0 < capacity)
    (item : α) :
    ∃ system, Transition.Reachable step (start capacity : QueueSystem α) system ∧
      system.pc .reactor = .frontOfEmpty := by
  have replay := run_clearDuringCallback positive item
  cases replayed : Transition.run step (start capacity) (clearDuringCallback item) with
  | none => simp [replayed] at replay
  | some final =>
      simp only [replayed, Option.map_some, Option.some.injEq] at replay
      exact ⟨final, Transition.reachable_of_run replayed, replay⟩

theorem enqueueCallback_fronts_empty_buffer_of_one :
    0 < 1 ∧ ∃ system, Transition.Reachable step (start 1 : QueueSystem Nat) system ∧
      system.pc .reactor = .frontOfEmpty :=
  ⟨by decide, enqueueCallback_fronts_empty_buffer (by decide) 0⟩

end QueueSystem

end Bluetooth.Os

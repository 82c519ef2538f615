import Mathlib
import Bluetooth.Lib.Transition

set_option linter.all false

/-!
# osi alarms across the dispatcher, the callback queue and the message loop

`alarm_set` and `alarm_set_on_mloop` (osi/src/alarm.cc) put an alarm in the global list
`alarms`, sorted by deadline.  When the timer expires, the dispatcher thread takes the front
alarm off the list and hands it on: to the default callback queue, whose thread runs
`alarm_queue_ready`, or, for an alarm set on the message loop, as a cancelable closure posted to
the main thread, which runs `alarm_ready_mloop`.  Both end in `alarm_ready_generic`, which runs
the callback stored in the alarm; `alarm_cancel` and a new `alarm_set*` remove a pending
instance with `remove_pending_alarm`.

The state is the alarm records, the list, the callback queue, the closures posted to the main
thread and the callbacks run so far.  Each event is one region of code under `alarms_mutex`:
`alarm_set*`, the part of `alarm_cancel` under the mutex, one turn of `callback_dispatch`, and
the dequeue of either thread up to the callback, which is recorded as it is called.  A posted
closure runs only while the alarm's closure has not been reset or cancelled since, which the
closure's generation tracks.  Time moves on by an event of its own; the POSIX timers that wake
the dispatcher are not modelled, the dispatcher being free to run at any time as a spurious
wake-up allows.  A failed `CHECK` or `LOG(FATAL)` ends the run.

`alarm_set_internal` stores the new `queue` and `for_msg_loop` before `schedule_next_instance`
calls `remove_pending_alarm`, which then looks for a pending instance where the new mode puts
one.  An instance pending in the other mode survives and runs the new callback at once, before
its deadline (`setOnMloop_runs_queued_instance_early`); a one-shot alarm is then cleared while
still listed, and its due instance finds no callback (`fatalNext`).  The list keeps each alarm
at most once over every run (`nodup_of_reachable`).
-/

namespace Bluetooth.Osi

/-- An `alarm_t*`. -/
abbrev AlarmId := Nat

/-- An `alarm_callback_t`, by the function it points to. -/
abbrev Callback := Nat

/-- The `void*` data of a callback, by its value; 0 is NULL. -/
abbrev Data := Nat

/-- The fields of `alarm_t` that scheduling reads or writes. -/
structure Alarm where
  periodMs : Nat
  creationTimeMs : Nat
  deadlineMs : Nat
  prevDeadlineMs : Nat
  isPeriodic : Bool
  /-- Whether `queue` is the default callback queue rather than NULL. -/
  queue : Bool
  /-- `callback`, none for NULL. -/
  callback : Option Callback
  data : Data
  forMsgLoop : Bool
  /-- The generation of `closure`: `Reset` and `Cancel` start a new one, and a closure posted
  earlier then does nothing. -/
  closure : Nat
  deriving DecidableEq, Repr

/-- `ms_into_period` of `schedule_next_instance`: how far a periodic alarm is into its period. -/
def Alarm.msIntoPeriod (a : Alarm) (nowMs : Nat) : Nat :=
  if a.isPeriodic ∧ a.periodMs ≠ 0 then (nowMs - a.creationTimeMs) % a.periodMs else 0

/-- The deadline `schedule_next_instance` gives: the rest of the period from now. -/
def Alarm.nextDeadlineMs (a : Alarm) (nowMs : Nat) : Nat :=
  nowMs + (a.periodMs - a.msIntoPeriod nowMs)

/-- A deadline scheduled at the creation time is one whole period away. -/
theorem Alarm.nextDeadlineMs_of_created {a : Alarm} {nowMs : Nat}
    (created : a.creationTimeMs = nowMs) : a.nextDeadlineMs nowMs = nowMs + a.periodMs := by
  simp [Alarm.nextDeadlineMs, Alarm.msIntoPeriod, created]

/-- A callback as `alarm_ready_generic` calls it: the alarm, the callback, its data, and the
time. -/
structure Firing where
  alarm : AlarmId
  callback : Callback
  data : Data
  timeMs : Nat
  deriving DecidableEq, Repr

/-- The alarm module: the records, `alarms`, `default_callback_queue`, the closures posted to the
main thread with their generation, and the callbacks called so far. -/
structure AlarmSystem where
  nowMs : Nat
  alarm : AlarmId → Alarm
  /-- `alarms`, front first. -/
  alarms : List AlarmId
  /-- `default_callback_queue`, front first. -/
  callbackQueue : List AlarmId
  /-- The tasks posted to the main thread, oldest first. -/
  mainLoop : List (AlarmId × Nat)
  fired : List Firing

/-- What may happen: a call of the interface, time passing, one turn of the dispatcher, or the
callback queue's thread or the main thread taking its next task. -/
inductive AlarmEvent where
  | set (alarm : AlarmId) (intervalMs : Nat) (callback : Callback) (data : Data)
  | setOnMloop (alarm : AlarmId) (intervalMs : Nat) (callback : Callback) (data : Data)
  | cancel (alarm : AlarmId)
  | advance (ms : Nat)
  | dispatch
  | queueReady
  | mainLoopRuns
  deriving DecidableEq, Repr

namespace AlarmSystem

/-- The module before any alarm is set; `periodic` tells the alarms made by
`alarm_new_periodic`. -/
def initial (periodic : AlarmId → Bool) : AlarmSystem where
  nowMs := 0
  alarm := fun id => ⟨0, 0, 0, 0, periodic id, false, none, 0, false, 0⟩
  alarms := []
  callbackQueue := []
  mainLoop := []
  fired := []

/-- The system with the record of `id` changed by `f`. -/
def modifyAlarm (s : AlarmSystem) (id : AlarmId) (f : Alarm → Alarm) : AlarmSystem :=
  { s with alarm := Function.update s.alarm id (f (s.alarm id)) }

/-- `remove_pending_alarm`: off the list, and its closure cancelled or its instances taken out of
its queue, whichever its present mode says. -/
def removePendingAlarm (s : AlarmSystem) (id : AlarmId) : AlarmSystem :=
  let s := { s with alarms := s.alarms.erase id }
  if (s.alarm id).forMsgLoop then s.modifyAlarm id fun a => { a with closure := a.closure + 1 }
  else if (s.alarm id).queue then { s with callbackQueue := s.callbackQueue.filter (· ≠ id) }
  else s

/-- The list with `id` put before the first alarm whose deadline is later than `deadline`. -/
def insertByDeadline (deadlineOf : AlarmId → Nat) (id : AlarmId) (deadline : Nat) :
    List AlarmId → List AlarmId
  | [] => [id]
  | other :: rest =>
    if deadlineOf other > deadline then id :: other :: rest
    else other :: insertByDeadline deadlineOf id deadline rest

/-- `schedule_next_instance`: the next deadline, counted in whole periods from the creation
time for a periodic alarm, and the alarm in the list by it. -/
def scheduleNextInstance (s : AlarmSystem) (id : AlarmId) : AlarmSystem :=
  let s := if (s.alarm id).callback.isSome then s.removePendingAlarm id else s
  let deadline := (s.alarm id).nextDeadlineMs s.nowMs
  let s := s.modifyAlarm id fun a => { a with deadlineMs := deadline }
  { s with alarms := insertByDeadline (fun other => (s.alarm other).deadlineMs) id deadline s.alarms }

/-- `alarm_set_internal`: the new period, queue, callback, data and mode are stored, then the
next instance is scheduled. -/
def alarmSetInternal (s : AlarmSystem) (id : AlarmId) (periodMs : Nat) (callback : Callback)
    (data : Data) (queue forMsgLoop : Bool) : AlarmSystem :=
  let s := s.modifyAlarm id fun a =>
    { a with
      creationTimeMs := s.nowMs
      periodMs := periodMs
      queue := queue
      callback := some callback
      data := data
      forMsgLoop := forMsgLoop }
  s.scheduleNextInstance id

/-- The part of `alarm_cancel` under `alarms_mutex`, `alarm_cancel_internal`. -/
def alarmCancelInternal (s : AlarmSystem) (id : AlarmId) : AlarmSystem :=
  (s.removePendingAlarm id).modifyAlarm id fun a =>
    { a with deadlineMs := 0, prevDeadlineMs := 0, callback := none, data := 0, queue := false }

/-- `alarm_ready_generic`: the stored callback is called with its data; a one-shot alarm is
cleared first.  No callback is `LOG(FATAL)`. -/
def alarmReadyGeneric (s : AlarmSystem) (id : AlarmId) : Option AlarmSystem :=
  match (s.alarm id).callback with
  | none => none
  | some callback =>
    let a := s.alarm id
    let s := if a.isPeriodic then s
      else s.modifyAlarm id fun a =>
        { a with deadlineMs := 0, callback := none, data := 0, queue := false }
    some { s with fired := s.fired ++ [⟨id, callback, a.data, s.nowMs⟩] }

/-- The hand-over at the end of a turn of `callback_dispatch`: a closure posted to the main
thread, or the alarm enqueued on its queue.  Enqueueing on a NULL queue fails a `CHECK`. -/
def handOver (s : AlarmSystem) (id : AlarmId) : Option AlarmSystem :=
  if (s.alarm id).forMsgLoop then
    let s := s.modifyAlarm id fun a => { a with closure := a.closure + 1 }
    some { s with mainLoop := s.mainLoop ++ [(id, (s.alarm id).closure)] }
  else if (s.alarm id).queue then some { s with callbackQueue := s.callbackQueue ++ [id] }
  else none

/-- One turn of `callback_dispatch`: the front alarm, once due, is taken off the list, a periodic
one scheduled again, and handed over. -/
def callbackDispatch (s : AlarmSystem) : Option AlarmSystem :=
  match s.alarms with
  | [] => some s
  | id :: _ =>
    if (s.alarm id).deadlineMs > s.nowMs then some s
    else
      let s := { s with alarms := s.alarms.erase id }
      let s := if (s.alarm id).isPeriodic then
          (s.modifyAlarm id fun a => { a with prevDeadlineMs := a.deadlineMs }).scheduleNextInstance id
        else s
      s.handOver id

/-- `alarm_queue_ready` on the default callback thread; an empty queue gives no alarm. -/
def alarmQueueReady (s : AlarmSystem) : Option AlarmSystem :=
  match s.callbackQueue with
  | [] => some s
  | id :: rest => alarmReadyGeneric { s with callbackQueue := rest } id

/-- The main thread runs its next task: `alarm_ready_mloop`, unless its closure was cancelled. -/
def mainLoopRuns (s : AlarmSystem) : Option AlarmSystem :=
  match s.mainLoop with
  | [] => some s
  | (id, generation) :: rest =>
    let s := { s with mainLoop := rest }
    if (s.alarm id).closure = generation then alarmReadyGeneric s id else some s

/-- One event. -/
def step (s : AlarmSystem) : AlarmEvent → Option AlarmSystem
  | .set id intervalMs callback data => some (s.alarmSetInternal id intervalMs callback data true false)
  | .setOnMloop id intervalMs callback data =>
    some (s.alarmSetInternal id intervalMs callback data false true)
  | .cancel id => some (s.alarmCancelInternal id)
  | .advance ms => some { s with nowMs := s.nowMs + ms }
  | .dispatch => s.callbackDispatch
  | .queueReady => s.alarmQueueReady
  | .mainLoopRuns => s.mainLoopRuns

/-- The main thread's next task is live and finds its alarm without a callback:
`alarm_ready_generic` is about to reach its `LOG(FATAL)`. -/
def fatalNext (s : AlarmSystem) : Bool :=
  match s.mainLoop with
  | [] => false
  | (id, generation) :: _ => (s.alarm id).closure == generation && (s.alarm id).callback.isNone

/-! ## What each operation does to the state -/

section Spec

variable (s : AlarmSystem) (id : AlarmId)

@[simp] theorem modifyAlarm_alarm_self (f : Alarm → Alarm) :
    (s.modifyAlarm id f).alarm id = f (s.alarm id) :=
  Function.update_self ..

@[simp] theorem modifyAlarm_alarm_of_ne {other : AlarmId} (f : Alarm → Alarm) (differs : other ≠ id) :
    (s.modifyAlarm id f).alarm other = s.alarm other :=
  Function.update_of_ne differs ..

@[simp] theorem modifyAlarm_nowMs (f : Alarm → Alarm) : (s.modifyAlarm id f).nowMs = s.nowMs := rfl

@[simp] theorem modifyAlarm_alarms (f : Alarm → Alarm) : (s.modifyAlarm id f).alarms = s.alarms := rfl

@[simp] theorem modifyAlarm_callbackQueue (f : Alarm → Alarm) :
    (s.modifyAlarm id f).callbackQueue = s.callbackQueue := rfl

@[simp] theorem modifyAlarm_mainLoop (f : Alarm → Alarm) :
    (s.modifyAlarm id f).mainLoop = s.mainLoop := rfl

@[simp] theorem modifyAlarm_fired (f : Alarm → Alarm) : (s.modifyAlarm id f).fired = s.fired := rfl

@[simp] theorem removePendingAlarm_nowMs : (s.removePendingAlarm id).nowMs = s.nowMs := by
  dsimp only [removePendingAlarm]
  split_ifs <;> rfl

@[simp] theorem removePendingAlarm_alarms : (s.removePendingAlarm id).alarms = s.alarms.erase id := by
  dsimp only [removePendingAlarm]
  split_ifs <;> rfl

@[simp] theorem removePendingAlarm_mainLoop : (s.removePendingAlarm id).mainLoop = s.mainLoop := by
  dsimp only [removePendingAlarm]
  split_ifs <;> rfl

@[simp] theorem removePendingAlarm_fired : (s.removePendingAlarm id).fired = s.fired := by
  dsimp only [removePendingAlarm]
  split_ifs <;> rfl

theorem removePendingAlarm_callbackQueue :
    (s.removePendingAlarm id).callbackQueue =
      if !(s.alarm id).forMsgLoop && (s.alarm id).queue then s.callbackQueue.filter (· ≠ id)
      else s.callbackQueue := by
  dsimp only [removePendingAlarm]
  split_ifs <;> simp_all

/-- `remove_pending_alarm` moves only the closure of an alarm on the message loop on. -/
@[simp] theorem removePendingAlarm_alarm_self :
    (s.removePendingAlarm id).alarm id =
      { s.alarm id with closure := (s.alarm id).closure + if (s.alarm id).forMsgLoop then 1 else 0 } := by
  dsimp only [removePendingAlarm]
  split_ifs
  · simp
  · rfl
  · rfl

@[simp] theorem removePendingAlarm_alarm_of_ne {other : AlarmId} (differs : other ≠ id) :
    (s.removePendingAlarm id).alarm other = s.alarm other := by
  dsimp only [removePendingAlarm]
  split_ifs <;> simp [differs]

@[simp] theorem scheduleNextInstance_nowMs : (s.scheduleNextInstance id).nowMs = s.nowMs := by
  dsimp only [scheduleNextInstance]
  split_ifs <;> simp

@[simp] theorem scheduleNextInstance_fired : (s.scheduleNextInstance id).fired = s.fired := by
  dsimp only [scheduleNextInstance]
  split_ifs <;> simp

@[simp] theorem scheduleNextInstance_mainLoop : (s.scheduleNextInstance id).mainLoop = s.mainLoop := by
  dsimp only [scheduleNextInstance]
  split_ifs <;> simp

theorem scheduleNextInstance_callbackQueue :
    (s.scheduleNextInstance id).callbackQueue =
      if (s.alarm id).callback.isSome then (s.removePendingAlarm id).callbackQueue
      else s.callbackQueue := by
  dsimp only [scheduleNextInstance]
  split_ifs <;> simp

@[simp] theorem scheduleNextInstance_alarm_self :
    (s.scheduleNextInstance id).alarm id =
      { s.alarm id with
        deadlineMs := (s.alarm id).nextDeadlineMs s.nowMs
        closure := (s.alarm id).closure +
          if (s.alarm id).callback.isSome && (s.alarm id).forMsgLoop then 1 else 0 } := by
  dsimp only [scheduleNextInstance]
  by_cases armed : (s.alarm id).callback.isSome
  · cases onLoop : (s.alarm id).forMsgLoop <;>
      simp [armed, onLoop, Alarm.nextDeadlineMs, Alarm.msIntoPeriod]
  · simp [armed]

@[simp] theorem scheduleNextInstance_alarm_of_ne {other : AlarmId} (differs : other ≠ id) :
    (s.scheduleNextInstance id).alarm other = s.alarm other := by
  dsimp only [scheduleNextInstance]
  split_ifs <;> simp [differs]

/-- `alarm_set_on_mloop` does not look in the callback queue. -/
theorem alarmSetInternal_callbackQueue_of_loop (periodMs : Nat) (callback : Callback) (data : Data)
    (queue : Bool) :
    (s.alarmSetInternal id periodMs callback data queue true).callbackQueue = s.callbackQueue := by
  simp [alarmSetInternal, scheduleNextInstance_callbackQueue, removePendingAlarm_callbackQueue]

theorem alarmSetInternal_alarm_self (periodMs : Nat) (callback : Callback) (data : Data)
    (queue forMsgLoop : Bool) :
    (s.alarmSetInternal id periodMs callback data queue forMsgLoop).alarm id =
      { s.alarm id with
        creationTimeMs := s.nowMs
        periodMs := periodMs
        queue := queue
        callback := some callback
        data := data
        forMsgLoop := forMsgLoop
        deadlineMs := s.nowMs + periodMs
        closure := (s.alarm id).closure + if forMsgLoop then 1 else 0 } := by
  simp [alarmSetInternal, Alarm.nextDeadlineMs_of_created]

theorem alarms_alarmReadyGeneric {next : AlarmSystem} (ran : s.alarmReadyGeneric id = some next) :
    next.alarms = s.alarms := by
  unfold alarmReadyGeneric at ran
  split at ran
  · cases ran
  · rw [← Option.some.inj ran]
    split_ifs <;> rfl

theorem alarms_handOver {next : AlarmSystem} (handed : s.handOver id = some next) :
    next.alarms = s.alarms := by
  unfold handOver at handed
  split_ifs at handed
  · rw [← Option.some.inj handed]
    rfl
  · rw [← Option.some.inj handed]

/-- `alarm_ready_generic` reaches its `LOG(FATAL)` exactly when the callback is NULL. -/
theorem alarmReadyGeneric_eq_none_iff : s.alarmReadyGeneric id = none ↔ (s.alarm id).callback = none := by
  cases armed : (s.alarm id).callback <;> simp [alarmReadyGeneric, armed]

end Spec

/-- The main thread fails exactly when its next task is live and finds no callback. -/
theorem mainLoopRuns_eq_none_iff (s : AlarmSystem) : s.mainLoopRuns = none ↔ s.fatalNext = true := by
  unfold mainLoopRuns fatalNext
  split
  · simp
  · dsimp only
    split_ifs with live
    · simp [alarmReadyGeneric_eq_none_iff, live]
    · simp [live]

/-- `alarm_queue_ready` runs the callback the front alarm of the queue holds now, with its data. -/
theorem alarmQueueReady_of_front (s : AlarmSystem) {id : AlarmId} {rest : List AlarmId}
    {callback : Callback} (queued : s.callbackQueue = id :: rest)
    (armed : (s.alarm id).callback = some callback) :
    ∃ next, s.alarmQueueReady = some next ∧
      next.fired = s.fired ++ [⟨id, callback, (s.alarm id).data, s.nowMs⟩] := by
  simp only [alarmQueueReady, queued, alarmReadyGeneric, armed]
  split_ifs <;> simp

/-- `alarm_set_on_mloop` leaves an instance of the alarm waiting in the callback queue there, and
the queue's thread runs it with the new callback and data at once. -/
theorem setOnMloop_then_queueReady (s : AlarmSystem) {id : AlarmId} {rest : List AlarmId}
    (queued : s.callbackQueue = id :: rest) (periodMs : Nat) (callback : Callback) (data : Data) :
    ∃ next, (s.alarmSetInternal id periodMs callback data false true).alarmQueueReady = some next ∧
      next.fired = s.fired ++ [⟨id, callback, data, s.nowMs⟩] := by
  have kept := alarmSetInternal_callbackQueue_of_loop s id periodMs callback data false
  have armed := alarmSetInternal_alarm_self s id periodMs callback data false true
  obtain ⟨next, ran, fired⟩ := alarmQueueReady_of_front _ (kept.trans queued) (by rw [armed])
  refine ⟨next, ran, ?_⟩
  rw [fired, armed]
  simp [alarmSetInternal]

/-- `alarm_set` of `a`, its expiry, and the dispatcher handing it to the callback queue. -/
def queuedInstance (a : AlarmId) (callback : Callback) (data : Data) (periodMs : Nat) :
    List AlarmEvent :=
  [.set a periodMs callback data, .advance periodMs, .dispatch]

theorem run_queuedInstance (periodic : AlarmId → Bool) (a : AlarmId) (callback : Callback)
    (data : Data) (periodMs : Nat) :
    (Transition.run step (initial periodic) (queuedInstance a callback data periodMs)).map
      callbackQueue = some [a] := by
  cases periodicity : periodic a <;>
    simp [queuedInstance, Transition.run, step, initial, alarmSetInternal, scheduleNextInstance,
      callbackDispatch, handOver, insertByDeadline, Alarm.nextDeadlineMs, Alarm.msIntoPeriod,
      removePendingAlarm_callbackQueue, periodicity]

/-- Once the instance has run the new callback, a one-shot alarm is cleared but still listed:
its due instance is posted to the main thread, which finds no callback. -/
theorem run_queuedInstance_fatal {periodic : AlarmId → Bool} {a : AlarmId} (oneShot : periodic a = false)
    (first : Callback) (firstData : Data) (firstMs : Nat) (second : Callback) (secondData : Data)
    (secondMs : Nat) :
    (Transition.run step (initial periodic) (queuedInstance a first firstData firstMs ++
      [.setOnMloop a secondMs second secondData, .queueReady, .dispatch])).map
      mainLoopRuns = some none := by
  simp [queuedInstance, Transition.run, step, initial, alarmSetInternal, scheduleNextInstance,
    callbackDispatch, handOver, insertByDeadline, Alarm.nextDeadlineMs, Alarm.msIntoPeriod,
    removePendingAlarm_callbackQueue, alarmQueueReady, alarmReadyGeneric, mainLoopRuns, oneShot]

/-! ## Each alarm is listed at most once

`alarm_set_internal` stores the callback before `schedule_next_instance` tests it, so every
insertion into `alarms` follows a removal of the same alarm. -/

theorem insertByDeadline_perm (deadlineOf : AlarmId → Nat) (id : AlarmId) (deadline : Nat)
    (list : List AlarmId) : (insertByDeadline deadlineOf id deadline list).Perm (id :: list) := by
  induction list with
  | nil => rfl
  | cons other rest induction =>
      unfold insertByDeadline
      split_ifs
      · rfl
      · exact (induction.cons other).trans (List.Perm.swap id other rest)

theorem scheduleNextInstance_alarms_perm (s : AlarmSystem) (id : AlarmId) :
    (s.scheduleNextInstance id).alarms.Perm
      (id :: if (s.alarm id).callback.isSome then s.alarms.erase id else s.alarms) := by
  dsimp only [scheduleNextInstance]
  split_ifs <;> simpa using insertByDeadline_perm _ id _ _

theorem nodup_scheduleNextInstance {s : AlarmSystem} {id : AlarmId} (nodup : s.alarms.Nodup)
    (absent : id ∉ s.alarms ∨ (s.alarm id).callback.isSome) :
    (s.scheduleNextInstance id).alarms.Nodup := by
  rw [(scheduleNextInstance_alarms_perm s id).nodup_iff, List.nodup_cons]
  split_ifs with armed
  · exact ⟨nodup.not_mem_erase, nodup.erase id⟩
  · exact ⟨absent.resolve_right armed, nodup⟩

theorem nodup_alarmSetInternal {s : AlarmSystem} (nodup : s.alarms.Nodup) (id : AlarmId)
    (periodMs : Nat) (callback : Callback) (data : Data) (queue forMsgLoop : Bool) :
    (s.alarmSetInternal id periodMs callback data queue forMsgLoop).alarms.Nodup :=
  nodup_scheduleNextInstance nodup (.inr (by simp))

theorem nodup_callbackDispatch {s next : AlarmSystem} (nodup : s.alarms.Nodup)
    (dispatched : s.callbackDispatch = some next) : next.alarms.Nodup := by
  unfold callbackDispatch at dispatched
  split at dispatched
  · rw [← Option.some.inj dispatched]
    exact nodup
  · rename_i id rest listed
    split_ifs at dispatched with early
    · rw [← Option.some.inj dispatched]
      exact nodup
    · rw [alarms_handOver _ _ dispatched]
      have taken : (s.alarms.erase id).Nodup := nodup.erase id
      split_ifs
      · exact nodup_scheduleNextInstance taken (.inl nodup.not_mem_erase)
      · exact taken

/-- One event keeps every alarm listed at most once. -/
theorem nodup_step {s next : AlarmSystem} (nodup : s.alarms.Nodup) {event : AlarmEvent}
    (stepped : step s event = some next) : next.alarms.Nodup := by
  cases event with
  | set id intervalMs callback data =>
      rw [← Option.some.inj stepped]
      exact nodup_alarmSetInternal nodup id intervalMs callback data true false
  | setOnMloop id intervalMs callback data =>
      rw [← Option.some.inj stepped]
      exact nodup_alarmSetInternal nodup id intervalMs callback data false true
  | cancel id =>
      rw [← Option.some.inj stepped]
      simpa [alarmCancelInternal] using nodup.erase id
  | advance ms =>
      rw [← Option.some.inj stepped]
      exact nodup
  | dispatch => exact nodup_callbackDispatch nodup stepped
  | queueReady =>
      simp only [step, alarmQueueReady] at stepped
      split at stepped
      · rw [← Option.some.inj stepped]
        exact nodup
      · rw [alarms_alarmReadyGeneric _ _ stepped]
        exact nodup
  | mainLoopRuns =>
      simp only [step, mainLoopRuns] at stepped
      split at stepped
      · rw [← Option.some.inj stepped]
        exact nodup
      · split_ifs at stepped
        · rw [alarms_alarmReadyGeneric _ _ stepped]
          exact nodup
        · rw [← Option.some.inj stepped]
          exact nodup

/-- `alarms` holds each alarm at most once in every state the module reaches. -/
theorem nodup_of_reachable {periodic : AlarmId → Bool} {s : AlarmSystem}
    (reachable : Transition.Reachable step (initial periodic) s) : s.alarms.Nodup :=
  reachable.invariant List.nodup_nil fun _ _ _ nodup stepped => nodup_step nodup stepped

/-- After `alarm_set` of `a` has expired into the callback queue, `alarm_set_on_mloop` of `a`
leaves that instance there: the queue's thread runs the new callback with the new data before
the new deadline, and for a one-shot alarm the main thread then reaches `LOG(FATAL)`. -/
theorem setOnMloop_runs_queued_instance_early (periodic : AlarmId → Bool) (a : AlarmId)
    (first second : Callback) (firstData secondData : Data) (firstMs secondMs : Nat)
    (positive : 0 < secondMs) :
    (∃ before after, Transition.Reachable step (initial periodic) before ∧
      (before.alarm a).callback = some second ∧ before.nowMs < (before.alarm a).deadlineMs ∧
      step before .queueReady = some after ∧
      after.fired = before.fired ++ [⟨a, second, secondData, before.nowMs⟩]) ∧
    (periodic a = false → ∃ crashed, Transition.Reachable step (initial periodic) crashed ∧
      crashed.mainLoopRuns = none) := by
  obtain ⟨queued, reached, waiting⟩ :=
    Transition.exists_reachable_of_run (run_queuedInstance periodic a first firstData firstMs)
  refine ⟨?_, fun oneShot => Transition.exists_reachable_of_run
    (run_queuedInstance_fatal oneShot first firstData firstMs second secondData secondMs)⟩
  have armed := alarmSetInternal_alarm_self queued a secondMs second secondData false true
  obtain ⟨after, ran, fired⟩ :=
    setOnMloop_then_queueReady queued waiting secondMs second secondData
  refine ⟨_, after, reached.tail ⟨.setOnMloop a secondMs second secondData, rfl⟩, ?_, ?_, ran, ?_⟩
  · simp [armed]
  · have unchanged : (queued.alarmSetInternal a secondMs second secondData false true).nowMs =
        queued.nowMs := by simp [alarmSetInternal]
    rw [armed, unchanged]
    dsimp only
    omega
  · rw [fired]
    simp [alarmSetInternal]

theorem setOnMloop_runs_queued_instance_early_at_one :
    0 < 1 ∧
      ((∃ before after, Transition.Reachable step (initial fun _ => false) before ∧
        (before.alarm 0).callback = some 2 ∧ before.nowMs < (before.alarm 0).deadlineMs ∧
        step before .queueReady = some after ∧
        after.fired = before.fired ++ [⟨0, 2, 3, before.nowMs⟩]) ∧
      (false = false → ∃ crashed, Transition.Reachable step (initial fun _ => false) crashed ∧
        crashed.mainLoopRuns = none)) :=
  ⟨by decide, setOnMloop_runs_queued_instance_early (fun _ => false) 0 1 2 0 3 5 1 (by decide)⟩

end AlarmSystem

end Bluetooth.Osi

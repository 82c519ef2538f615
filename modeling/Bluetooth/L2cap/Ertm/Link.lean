import Bluetooth.L2cap.Ertm.Transmitter

set_option linter.all false

/-!
# Two controllers over a lossy link

A sender `a` and a receiver `b`, each an `ErtmController`, joined by a link that carries the
frames each scheduler takes from its controller in order, and may lose any of them but never
reorders or alters one.  The upper layer gives SDUs to `a`; `sent` records them, and `b`
records in `delivered` every SDU it enqueues upward.

Because `unacked_list_.emplace` does not replace an entry, a stale entry that an acknowledgement
across the wrap left behind (`processReqSeq_of_wrap`) is what `send_data` sends the next time
its sequence number comes round.  With one-byte SDUs sent and acknowledged one at a time, the
128th SDU goes out with the payload of the 64th, and `b` delivers it.
-/

namespace Bluetooth.L2cap.Ertm

/-- The two ends of the link. -/
inductive Side where
  | a
  | b
  deriving DecidableEq, Repr

/-- Events that stay inside one controller: its alarms and its reactor. -/
inductive LocalEvent where
  | retransTimerExpires
  | monitorTimerExpires
  | drainEnqueueBuffer
  deriving DecidableEq, Repr

/-- The other side. -/
def Side.peer : Side → Side
  | .a => .b
  | .b => .a

/-- The controller event behind a local event. -/
def LocalEvent.toErtmEvent : LocalEvent → ErtmEvent
  | .retransTimerExpires => .retransTimerExpires
  | .monitorTimerExpires => .monitorTimerExpires
  | .drainEnqueueBuffer => .drainEnqueueBuffer

/-- The events of the two controllers and the link. -/
inductive LinkEvent where
  /-- The upper layer gives an SDU to `a`. -/
  | sdu (sdu : List UInt8)
  /-- The scheduler of one side takes its next frame onto the link. -/
  | transmit (side : Side)
  /-- The oldest frame in flight towards a side arrives there. -/
  | deliver (side : Side)
  /-- The oldest frame in flight towards a side is lost. -/
  | drop (side : Side)
  /-- An alarm or the reactor of one side runs. -/
  | local (side : Side) (event : LocalEvent)
  deriving DecidableEq, Repr

/-- The two controllers, the frames in flight each way, and the SDUs given to `a`. -/
structure ErtmLink where
  /-- The sending controller. -/
  a : ErtmController
  /-- The receiving controller. -/
  b : ErtmController
  /-- Frames on their way to `a`, oldest first. -/
  towardsA : List ErtmFrame
  /-- Frames on their way to `b`, oldest first. -/
  towardsB : List ErtmFrame
  /-- Every SDU given to `a.OnSdu`, in order. -/
  sent : List (List UInt8)

namespace ErtmLink

/-- Two fresh controllers with their default configuration, which has
`a.remote_tx_window_ = b.local_tx_window_ = 10` and `a.remote_mps_ = 1010`. -/
def start : ErtmLink := ⟨.create, .create, [], [], []⟩

/-- The controller of a side. -/
def controller (link : ErtmLink) : Side → ErtmController
  | .a => link.a
  | .b => link.b

/-- Replace the controller of a side. -/
def withController (link : ErtmLink) : Side → ErtmController → ErtmLink
  | .a, controller => { link with a := controller }
  | .b, controller => { link with b := controller }

/-- The frames in flight towards a side. -/
def towards (link : ErtmLink) : Side → List ErtmFrame
  | .a => link.towardsA
  | .b => link.towardsB

/-- Replace the frames in flight towards a side. -/
def withTowards (link : ErtmLink) : Side → List ErtmFrame → ErtmLink
  | .a, frames => { link with towardsA := frames }
  | .b, frames => { link with towardsB := frames }

/-- One event of the system, or `none` when it is not enabled. -/
def step (link : ErtmLink) : LinkEvent → Option ErtmLink
  | .sdu sdu =>
      (link.a.step (.onSdu sdu)).map fun a => { link with a := a, sent := link.sent ++ [sdu] }
  | .transmit side =>
      match (link.controller side).pduQueue with
      | [] => none
      | frame :: _ =>
          ((link.controller side).step .getNextPacket).map fun controller =>
            (link.withController side controller).withTowards side.peer
              (link.towards side.peer ++ [frame])
  | .deliver side =>
      match link.towards side with
      | [] => none
      | frame :: rest =>
          ((link.controller side).step (.onPdu frame)).map fun controller =>
            (link.withController side controller).withTowards side rest
  | .drop side =>
      match link.towards side with
      | [] => none
      | _ :: rest => some (link.withTowards side rest)
  | .local side event =>
      ((link.controller side).step event.toErtmEvent).map (link.withController side)

/-- One SDU carried in lock step: `a` sends it, `b` receives it, hands it up and acknowledges
it, and `a` receives the acknowledgement. -/
def lockStep (sdu : List UInt8) : List LinkEvent :=
  [.sdu sdu, .transmit .a, .deliver .b, .local .b .drainEnqueueBuffer, .transmit .b, .deliver .a]

/-- The SDUs `[0], [1], …, [127]`, each carried in lock step. -/
def lockStepRun : List LinkEvent :=
  (List.range 128).flatMap fun index => lockStep [UInt8.ofNat index]

/-- After `lockStepRun` the receiver has delivered 128 SDUs, but its last is `[63]` where
`a` was given `[127]`. -/
theorem replay_lockStepRun :
    (Transition.run step start lockStepRun).map
        (fun link => (link.b.delivered.length, link.b.delivered.getLast?, link.sent.getLast?,
          link.b.delivered.isPrefixOf link.sent)) =
      some (128, some [63], some [127], false) := by
  decide +kernel

/-- A reachable state of the two controllers in which the receiver has delivered an SDU that
is not the one at its position among those given to the sender. -/
theorem delivered_not_prefix_after_wrap :
    ∃ link, Transition.Reachable step start link ∧ ¬ link.b.delivered <+: link.sent := by
  have replay := replay_lockStepRun
  cases replayed : Transition.run step start lockStepRun with
  | none => simp [replayed] at replay
  | some final =>
      simp only [replayed, Option.map_some, Option.some.injEq, Prod.mk.injEq] at replay
      obtain ⟨-, -, -, not_prefix⟩ := replay
      refine ⟨final, Transition.reachable_of_run replayed, fun isPrefix => ?_⟩
      rw [← List.isPrefixOf_iff_prefix, not_prefix] at isPrefix
      exact Bool.false_ne_true isPrefix

end ErtmLink

end Bluetooth.L2cap.Ertm

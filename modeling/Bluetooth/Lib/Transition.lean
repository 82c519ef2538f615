import Mathlib

set_option linter.all false

/-!
# Transition systems driven by events

A system is a partial step function: an event is either enabled in a state, giving the next
state, or not.  `run` replays a finite list of events and `Reachable` is the reflexive-transitive
closure of one enabled step.  A replayed trace is a witness of reachability, and an invariant
that the initial state has and every enabled step keeps holds in every reachable state.
-/

namespace Transition

variable {State Event : Type*} (step : State → Event → Option State)

/-- Replay the events in order, failing at the first one that is not enabled. -/
def run : State → List Event → Option State
  | state, [] => some state
  | state, event :: events => (step state event).bind fun next => run next events

/-- One enabled step of some event. -/
def Next (state next : State) : Prop := ∃ event, step state event = some next

/-- The states that enabled events lead to from `initial`. -/
def Reachable (initial : State) : State → Prop := Relation.ReflTransGen (Next step) initial

variable {step}

@[simp] theorem run_nil (state : State) : run step state [] = some state := rfl

theorem run_cons (state : State) (event : Event) (events : List Event) :
    run step state (event :: events) = (step state event).bind fun next => run step next events :=
  rfl

theorem run_append (state : State) (first second : List Event) :
    run step state (first ++ second) = (run step state first).bind fun middle =>
      run step middle second := by
  induction first generalizing state with
  | nil => rfl
  | cons event events induction =>
      simp only [List.cons_append, run_cons]
      cases step state event with
      | none => rfl
      | some next => exact induction next

/-- A trace that replays from a reachable state ends in a reachable state. -/
theorem Reachable.run {initial state final : State} (reachable : Reachable step initial state)
    {events : List Event} (replayed : run step state events = some final) :
    Reachable step initial final := by
  induction events generalizing state with
  | nil =>
      cases replayed
      exact reachable
  | cons event events induction =>
      rw [run_cons] at replayed
      cases enabled : step state event with
      | none => simp [enabled] at replayed
      | some next =>
          rw [enabled, Option.bind_some] at replayed
          exact induction (reachable.tail ⟨event, enabled⟩) replayed

theorem reachable_of_run {initial final : State} {events : List Event}
    (replayed : run step initial events = some final) : Reachable step initial final :=
  Reachable.run Relation.ReflTransGen.refl replayed

/-- A replayed trace whose last state has a property gives a reachable state that has it. -/
theorem exists_reachable_of_run {β : Type*} {initial : State} {events : List Event}
    {observe : State → β} {value : β} (replay : (run step initial events).map observe = some value) :
    ∃ final, Reachable step initial final ∧ observe final = value := by
  cases replayed : run step initial events with
  | none => simp [replayed] at replay
  | some final =>
      simp only [replayed, Option.map_some, Option.some.injEq] at replay
      exact ⟨final, reachable_of_run replayed, replay⟩

/-- An invariant of the initial state that every enabled step keeps holds everywhere
reachable. -/
theorem Reachable.invariant {initial state : State} {Invariant : State → Prop}
    (reachable : Reachable step initial state) (initially : Invariant initial)
    (preserved : ∀ current event next, Invariant current → step current event = some next →
      Invariant next) :
    Invariant state := by
  induction reachable with
  | refl => exact initially
  | tail _ enabled holds =>
      obtain ⟨event, enabled⟩ := enabled
      exact preserved _ event _ holds enabled

end Transition

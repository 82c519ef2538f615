import Mathlib

set_option linter.all false

/-!
# Loops run for a bounded number of iterations

A loop is given by its body: from a state, the body either goes on to a next state or leaves the
loop with a result.  `run` iterates the body at most `fuel` times and gives `none` when the fuel
runs out first.  A loop terminates from a state when some fuel gives a result, and it diverges
when no fuel does.

Three rules settle this.  A measure that every iteration lowers bounds the fuel a run needs.  A
set of states that the body never leaves with a result, and never leaves for a state outside it,
makes the loop diverge.  A property that every iteration keeps, and that gives a property of the
result where the body leaves, holds of every result.

A loop whose every iteration lowers a measure needs no fuel: `runMeasured` runs a body that may
fail until it leaves or fails, and has the same invariant rule and a rule for never failing.
-/

namespace Loop

variable {State Result : Type*} (body : State → State ⊕ Result)

/-- Iterate `body` from `state` for at most `fuel` iterations. -/
def run : Nat → State → Option Result
  | 0, _ => none
  | fuel + 1, state =>
    match body state with
    | .inl next => run fuel next
    | .inr result => some result

variable {body}

@[simp] theorem run_zero (state : State) : run body 0 state = none := rfl

theorem run_succ_of_inl {state next : State} (continues : body state = .inl next) (fuel : Nat) :
    run body (fuel + 1) state = run body fuel next := by
  simp [run, continues]

theorem run_succ_of_inr {state : State} {result : Result} (leaves : body state = .inr result)
    (fuel : Nat) : run body (fuel + 1) state = some result := by
  simp [run, leaves]

/-- More fuel does not change a result. -/
theorem run_mono {fuel more : Nat} {state : State} {result : Result}
    (ran : run body fuel state = some result) (enough : fuel ≤ more) :
    run body more state = some result := by
  induction fuel generalizing state more with
  | zero => cases ran
  | succ fuel induction =>
    obtain ⟨more, rfl⟩ : ∃ rest, more = rest + 1 := ⟨more - 1, by omega⟩
    cases leaves : body state with
    | inl next =>
      rw [run_succ_of_inl leaves] at ran ⊢
      exact induction ran (by omega)
    | inr left =>
      rw [run_succ_of_inr leaves] at ran ⊢
      exact ran

/-- Two runs that both give a result give the same one. -/
theorem run_determ {fuel fuel' : Nat} {state : State} {result result' : Result}
    (ran : run body fuel state = some result) (ran' : run body fuel' state = some result') :
    result = result' := by
  have both := run_mono ran (Nat.le_max_left fuel fuel')
  rw [run_mono ran' (Nat.le_max_right fuel fuel')] at both
  exact (Option.some_inj.1 both).symm

section Rules

variable (Invariant : State → Prop)

/-- A measure that lowers on every iteration from a state of the invariant: more fuel than the
measure gives a result. -/
theorem isSome_run_of_measure (measure : State → Nat)
    (keeps : ∀ state next, Invariant state → body state = .inl next → Invariant next)
    (lowers : ∀ state next, Invariant state → body state = .inl next →
      measure next < measure state) :
    ∀ fuel state, Invariant state → measure state < fuel → (run body fuel state).isSome := by
  intro fuel
  induction fuel with
  | zero => intro _ _ short; omega
  | succ fuel induction =>
    intro state holds short
    cases leaves : body state with
    | inl next =>
      rw [run_succ_of_inl leaves]
      have lower := lowers state next holds leaves
      exact induction next (keeps state next holds leaves) (by omega)
    | inr result =>
      rw [run_succ_of_inr leaves]
      rfl

/-- States that the body never leaves from, and never leaves for a state outside them: no fuel
gives a result. -/
theorem run_eq_none_of_closed
    (closed : ∀ state, Invariant state → ∃ next, body state = .inl next ∧ Invariant next) :
    ∀ fuel state, Invariant state → run body fuel state = none := by
  intro fuel
  induction fuel with
  | zero => intro _ _; rfl
  | succ fuel induction =>
    intro state holds
    obtain ⟨next, continues, stays⟩ := closed state holds
    rw [run_succ_of_inl continues]
    exact induction next stays

/-- A property that every iteration keeps, and that gives `Post` where the body leaves, holds of
every result. -/
theorem run_invariant (Post : Result → Prop)
    (keeps : ∀ state next, Invariant state → body state = .inl next → Invariant next)
    (leaves : ∀ state result, Invariant state → body state = .inr result → Post result) :
    ∀ fuel state result, Invariant state → run body fuel state = some result → Post result := by
  intro fuel
  induction fuel with
  | zero => intro _ _ _ ran; cases ran
  | succ fuel induction =>
    intro state result holds ran
    cases stepped : body state with
    | inl next =>
      rw [run_succ_of_inl stepped] at ran
      exact induction next result (keeps state next holds stepped) ran
    | inr left =>
      rw [run_succ_of_inr stepped] at ran
      cases ran
      exact leaves state _ holds stepped

end Rules

section Measured

/-- Iterate a body that may fail, and whose every iteration that goes on lowers `measure`, until
it leaves with a result or fails.  No fuel is needed: the measure bounds the iterations. -/
def runMeasured {ε : Type*} (step : State → Except ε (State ⊕ Result)) (measure : State → Nat)
    (lowers : ∀ state next, step state = .ok (.inl next) → measure next < measure state)
    (state : State) : Except ε Result :=
  match _continues : step state with
  | .ok (.inl next) => runMeasured step measure lowers next
  | .ok (.inr result) => .ok result
  | .error fault => .error fault
termination_by measure state
decreasing_by exact lowers state next _continues

variable {ε : Type*} {step : State → Except ε (State ⊕ Result)} {measure : State → Nat}
  {lowers : ∀ state next, step state = .ok (.inl next) → measure next < measure state}

theorem runMeasured_of_inl {state next : State} (continues : step state = .ok (.inl next)) :
    runMeasured step measure lowers state = runMeasured step measure lowers next := by
  rw [runMeasured]
  split <;> simp_all

theorem runMeasured_of_inr {state : State} {result : Result}
    (leaves : step state = .ok (.inr result)) :
    runMeasured step measure lowers state = .ok result := by
  rw [runMeasured]
  split <;> simp_all

theorem runMeasured_of_error {state : State} {fault : ε} (fails : step state = .error fault) :
    runMeasured step measure lowers state = .error fault := by
  rw [runMeasured]
  split <;> simp_all

variable (Invariant : State → Prop)

/-- A property that every iteration keeps, and that gives `Post` where the body leaves, holds of
the result. -/
theorem runMeasured_invariant (Post : Result → Prop)
    (keeps : ∀ state next, Invariant state → step state = .ok (.inl next) → Invariant next)
    (leaves : ∀ state result, Invariant state → step state = .ok (.inr result) → Post result) :
    ∀ state result, Invariant state → runMeasured step measure lowers state = .ok result →
      Post result := by
  intro state
  induction state using runMeasured.induct step measure lowers with
  | case1 state next continues induction =>
    intro result holds ran
    rw [runMeasured_of_inl continues] at ran
    exact induction result (keeps state next holds continues) ran
  | case2 state left stops =>
    intro result holds ran
    rw [runMeasured_of_inr stops] at ran
    cases ran
    exact leaves state left holds stops
  | case3 state fault fails =>
    intro result _ ran
    rw [runMeasured_of_error fails] at ran
    cases ran

/-- From states of an invariant that every iteration keeps, and where the body never fails, the
loop gives a result. -/
theorem runMeasured_ok
    (keeps : ∀ state next, Invariant state → step state = .ok (.inl next) → Invariant next)
    (safe : ∀ state, Invariant state → ∃ outcome, step state = .ok outcome) :
    ∀ state, Invariant state → ∃ result, runMeasured step measure lowers state = .ok result := by
  intro state
  induction state using runMeasured.induct step measure lowers with
  | case1 state next continues induction =>
    intro holds
    rw [runMeasured_of_inl continues]
    exact induction (keeps state next holds continues)
  | case2 state left stops =>
    intro _
    exact ⟨left, runMeasured_of_inr stops⟩
  | case3 state fault fails =>
    intro holds
    obtain ⟨outcome, stepped⟩ := safe state holds
    rw [stepped] at fails
    cases fails

end Measured

end Loop

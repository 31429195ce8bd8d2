import Mathlib.Algebra.Order.Field.Rat
import AegisRag.Semantics.Transitions

/-!
# The circuit breaker

`CircuitBreaker.call` of `packages/common/circuit_breaker.py` for any number of callers whose
calls interleave. A call runs in two parts around the await of the protected function: one that
may open the half-open phase or refuse the call, and one that notes how the function ended.
`half_open_max_calls` is read by neither part.
-/

namespace AegisRag.Common

open Semantics

inductive CircuitState where
  | closed
  | opened
  | halfOpen
deriving DecidableEq

/-- `CircuitBreakerConfig`, with the bounds its fields are checked against. -/
structure CircuitBreakerConfig where
  failureThreshold : ℕ := 5
  successThreshold : ℕ := 2
  timeoutSeconds : ℚ := 30
  halfOpenMaxCalls : ℕ := 1
  one_le_failureThreshold : 1 ≤ failureThreshold := by decide
  one_le_successThreshold : 1 ≤ successThreshold := by decide
  timeoutSeconds_pos : 0 < timeoutSeconds := by decide +kernel
  one_le_halfOpenMaxCalls : 1 ≤ halfOpenMaxCalls := by decide

structure CircuitBreaker where
  state : CircuitState := .closed
  failureCount : ℕ := 0
  successCount : ℕ := 0
  openedAt : ℚ := 0
deriving DecidableEq

namespace CircuitBreaker

variable (config : CircuitBreakerConfig) (breaker : CircuitBreaker)

/-- `_transition_if_ready`. -/
def transitionIfReady (now : ℚ) : CircuitBreaker :=
  if breaker.state = .opened ∧ now - breaker.openedAt ≥ config.timeoutSeconds then
    { breaker with state := .halfOpen, successCount := 0 }
  else breaker

/-- `_on_failure`. -/
def onFailure (now : ℚ) : CircuitBreaker :=
  let failed := { breaker with failureCount := breaker.failureCount + 1 }
  if breaker.state = .closed ∧ failed.failureCount ≥ config.failureThreshold ∨
      breaker.state = .halfOpen ∧ failed.failureCount ≥ 1 then
    { failed with state := .opened, openedAt := now, successCount := 0 }
  else failed

/-- `_on_success`. -/
def onSuccess : CircuitBreaker :=
  if breaker.state = .halfOpen then
    if breaker.successCount + 1 ≥ config.successThreshold then
      { breaker with successCount := breaker.successCount + 1, state := .closed, failureCount := 0 }
    else { breaker with successCount := breaker.successCount + 1 }
  else breaker

end CircuitBreaker

/-- How the protected function ends; a cancellation is neither a success nor a failure. -/
inductive CallEnd where
  | success
  | failure
  | cancelled
deriving DecidableEq

/-- A caller calls, or its protected function ends. -/
inductive BreakerMove where
  | call (caller : ℕ) (now : ℚ)
  | finish (caller : ℕ) (ended : CallEnd) (now : ℚ)

def BreakerMove.now : BreakerMove → ℚ
  | .call _ now | .finish _ _ now => now

/-- The breaker, the callers inside the protected function and how many calls have reached it. -/
structure Guarded where
  breaker : CircuitBreaker := {}
  inside : List ℕ := []
  reached : ℕ := 0
deriving DecidableEq

namespace Guarded

variable (config : CircuitBreakerConfig)

/-- One part of a call; a caller that is inside cannot call again. -/
def step (state : Guarded) : BreakerMove → Option Guarded
  | .call caller now =>
    let breaker := state.breaker.transitionIfReady config now
    if caller ∈ state.inside then none
    else if breaker.state = .opened then some { state with breaker }
    else some ⟨breaker, caller :: state.inside, state.reached + 1⟩
  | .finish caller ended now =>
    if caller ∈ state.inside then
      some { state with
        inside := state.inside.erase caller
        breaker := match ended with
          | .success => state.breaker.onSuccess config
          | .failure => state.breaker.onFailure config now
          | .cancelled => state.breaker }
    else none

def run (moves : List BreakerMove) (state : Guarded) : Option Guarded :=
  moves.foldlM (step config) state

variable {config} {state next : Guarded} {move : BreakerMove}

/-- An open breaker whose timeout has not passed stays as it is and lets no call through. -/
theorem step_opened (opened : state.breaker.state = .opened)
    (early : move.now - state.breaker.openedAt < config.timeoutSeconds)
    (stepped : state.step config move = some next) :
    next.breaker.state = .opened ∧ next.breaker.openedAt = state.breaker.openedAt ∧
      next.reached = state.reached := by
  cases move with
  | call caller now =>
    have waits : state.breaker.transitionIfReady config now = state.breaker :=
      if_neg fun ready => absurd ready.2 (not_le.mpr early)
    simp only [step, waits, opened, if_true, Option.ite_none_left_eq_some, Option.some.injEq]
      at stepped
    obtain ⟨_, rfl⟩ := stepped
    exact ⟨opened, rfl, rfl⟩
  | finish caller ended now =>
    simp only [step, Option.ite_none_right_eq_some, Option.some.injEq] at stepped
    obtain ⟨_, rfl⟩ := stepped
    cases ended <;> simp [CircuitBreaker.onSuccess, CircuitBreaker.onFailure, opened]

theorem run_opened (moves : List BreakerMove) : ∀ state : Guarded,
    state.breaker.state = .opened →
    (∀ move ∈ moves, move.now - state.breaker.openedAt < config.timeoutSeconds) →
    run config moves state = some next → next.reached = state.reached := by
  induction moves with
  | nil =>
    rintro state _ _ ⟨⟩
    rfl
  | cons move rest induction =>
    intro state opened early ran
    obtain ⟨first, later⟩ := List.forall_mem_cons.mp early
    obtain ⟨middle, stepped, ran⟩ := Option.bind_eq_some_iff.mp ran
    obtain ⟨isOpen, since, same⟩ := step_opened opened first stepped
    rw [← same]
    exact induction middle isOpen (since ▸ later) ran

/-- A half-open breaker has at most `half_open_max_calls` calls inside. -/
def WithinHalfOpen (config : CircuitBreakerConfig) (state : Guarded) : Prop :=
  state.breaker.state = .halfOpen → state.inside.length ≤ config.halfOpenMaxCalls

/-- A new call that finds the breaker half-open, or makes it so, finds room inside. -/
def FindsRoom (config : CircuitBreakerConfig) (state : Guarded) : BreakerMove → Prop
  | .call caller now => caller ∉ state.inside →
    (state.breaker.transitionIfReady config now).state = .halfOpen →
    state.inside.length < config.halfOpenMaxCalls
  | .finish .. => True

/-- The end of a call never makes the breaker half-open. -/
theorem halfOpen_of_finish (stepped : state.step config (.finish caller ended now) = some next)
    (halfOpen : next.breaker.state = .halfOpen) :
    state.breaker.state = .halfOpen ∧ next.inside = state.inside.erase caller := by
  simp only [step, Option.ite_none_right_eq_some, Option.some.injEq] at stepped
  obtain ⟨_, rfl⟩ := stepped
  refine ⟨?_, rfl⟩
  cases ended with
  | cancelled => exact halfOpen
  | success =>
    by_contra other
    simp [CircuitBreaker.onSuccess, other] at halfOpen
  | failure =>
    simp only [CircuitBreaker.onFailure] at halfOpen
    split at halfOpen
    · cases halfOpen
    · exact halfOpen

/-- One step keeps the bound when its call finds room. -/
theorem WithinHalfOpen.step (within : state.WithinHalfOpen config)
    (room : state.FindsRoom config move) (stepped : state.step config move = some next) :
    next.WithinHalfOpen config := by
  intro halfOpen
  cases move with
  | call caller now =>
    simp only [Guarded.step, Option.ite_none_left_eq_some] at stepped
    obtain ⟨outside, stepped⟩ := stepped
    split at stepped <;> cases stepped
    · rename_i refused
      cases refused.symm.trans halfOpen
    · exact room outside halfOpen
  | finish caller ended now =>
    obtain ⟨halfOpen, isErased⟩ := halfOpen_of_finish stepped halfOpen
    rw [isErased]
    exact List.length_erase_le.trans (within halfOpen)

/-- A call after which the bound holds has found room. -/
theorem findsRoom_of_within
    (within : ∀ next ∈ state.step config move, next.WithinHalfOpen config) :
    state.FindsRoom config move := by
  cases move with
  | finish => trivial
  | call caller now =>
    intro outside halfOpen
    refine within ⟨state.breaker.transitionIfReady config now, caller :: state.inside,
      state.reached + 1⟩ ?_ halfOpen
    simp [step, outside, halfOpen]

end Guarded

/-- Once open, the breaker lets no call reach the protected function until its timeout has
passed. A half-open breaker always has at most `half_open_max_calls` calls inside exactly when
every call of the run that is made in the half-open phase finds room. -/
theorem circuit_breaker_limits_calls (config : CircuitBreakerConfig) (moves : List BreakerMove) :
    (∀ (state next : Guarded) later, state.breaker.state = .opened →
      (∀ move ∈ later, move.now - state.breaker.openedAt < config.timeoutSeconds) →
      Guarded.run config later state = some next → next.reached = state.reached) ∧
    (Throughout (Guarded.step config) (Guarded.WithinHalfOpen config) {} moves ↔
      EachStep (Guarded.step config) (Guarded.FindsRoom config) {} moves) := by
  constructor
  · intro state next later opened early ran
    exact Guarded.run_opened later state opened early ran
  · exact throughout_iff Guarded.WithinHalfOpen.step Guarded.findsRoom_of_within nofun

/-- The moves that open a breaker and let its timeout pass. -/
def trip : List BreakerMove := [.call 0 0, .finish 0 .failure 0, .call 0 30]

/-- Two callers are inside a half-open breaker that is meant to admit one. -/
theorem half_open_admits_every_call :
    Guarded.run { failureThreshold := 1 } (trip ++ [.call 1 30]) {} =
      some ⟨⟨.halfOpen, 1, 0, 0⟩, [1, 0], 3⟩ := by
  decide +kernel

end AegisRag.Common

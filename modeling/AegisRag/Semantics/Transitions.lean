import Mathlib.Data.List.Basic

/-!
# Runs of a transition system

A system that takes one move after the other, each of which may be impossible where it stands.
`Throughout` speaks of every state a run passes, `EachStep` of every move and the state before
it; a move that is impossible ends the run.
-/

namespace AegisRag.Semantics

variable {σ μ : Type} (step : σ → μ → Option σ)

/-- A property of every state that a run passes. -/
def Throughout (good : σ → Prop) (state : σ) : List μ → Prop
  | [] => good state
  | move :: moves => good state ∧ ∀ next ∈ step state move, Throughout good next moves

/-- A condition on every move of a run and on the state before it. -/
def EachStep (fits : σ → μ → Prop) (state : σ) : List μ → Prop
  | [] => True
  | move :: moves => fits state move ∧ ∀ next ∈ step state move, EachStep fits next moves

variable {step} {good : σ → Prop} {fits : σ → μ → Prop} {state : σ} {moves : List μ}

instance decidableEachStep [∀ state move, Decidable (fits state move)] (state : σ) :
    (moves : List μ) → Decidable (EachStep step fits state moves)
  | [] => inferInstanceAs (Decidable True)
  | move :: moves =>
    have (next : σ) : Decidable (EachStep step fits next moves) := decidableEachStep next moves
    inferInstanceAs (Decidable (fits state move ∧ ∀ next ∈ step state move, _))

theorem Throughout.first (through : Throughout step good state moves) : good state := by
  cases moves with
  | nil => exact through
  | cons move moves => exact through.1

theorem Throughout.mono (through : Throughout step good state moves)
    (implies : ∀ {state}, good state → better state) : Throughout step better state moves := by
  induction moves generalizing state with
  | nil => exact implies through
  | cons move moves ih => exact ⟨implies through.1, fun next isNext => ih (through.2 next isNext)⟩

theorem eachStep_true : EachStep step (fun _ _ => True) state moves := by
  induction moves generalizing state with
  | nil => trivial
  | cons move moves ih => exact ⟨trivial, fun _ _ => ih⟩

/-- What every step that fits keeps holds all along a run of such steps. -/
theorem EachStep.keeps
    (one : ∀ {state next move}, good state → fits state move → step state move = some next →
      good next) (initial : good state) (each : EachStep step fits state moves) :
    Throughout step good state moves := by
  induction moves generalizing state with
  | nil => exact initial
  | cons move moves ih =>
    refine ⟨initial, fun next isNext => ih (one initial each.1 isNext) (each.2 next isNext)⟩

/-- A condition that decides whether a step keeps a property decides whether a run does. -/
theorem throughout_iff (keeps : ∀ {state next move}, good state → fits state move →
      step state move = some next → good next)
    (decides : ∀ {state move}, (∀ next ∈ step state move, good next) → fits state move)
    (initial : good state) :
    Throughout step good state moves ↔ EachStep step fits state moves := by
  refine ⟨fun through => ?_, fun each => each.keeps keeps initial⟩
  clear initial
  induction moves generalizing state with
  | nil => trivial
  | cons move moves ih =>
    exact ⟨decides fun next isNext => (through.2 next isNext).first,
      fun next isNext => ih (through.2 next isNext)⟩

end AegisRag.Semantics

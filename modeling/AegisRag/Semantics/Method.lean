import Mathlib.Logic.Basic

/-!
# Method bodies

A `Method` works on a state and returns a value or raises. What it did to the state before
it raised stays done, as with an exception, and a handler goes on from there.
-/

namespace AegisRag.Semantics

/-- A computation over a state `σ` that returns an `α` or raises an `ε`. -/
def Method (σ ε α : Type) : Type := σ → Except ε α × σ

namespace Method

variable {σ ε α β : Type}

instance : Monad (Method σ ε) where
  pure value := fun state => (.ok value, state)
  bind method after := fun state =>
    match method state with
    | (.ok value, next) => after value next
    | (.error failure, next) => (.error failure, next)

instance : MonadExceptOf ε (Method σ ε) where
  throw failure := fun state => (.error failure, state)
  tryCatch method handler := fun state =>
    match method state with
    | (.ok value, next) => (.ok value, next)
    | (.error failure, next) => handler failure next

instance : MonadStateOf σ (Method σ ε) where
  get := fun state => (.ok state, state)
  set next := fun _ => (.ok (), next)
  modifyGet update := fun state => (.ok (update state).1, (update state).2)

/-- Return a value, or raise the failure found in its place. -/
def ofExcept : Except ε α → Method σ ε α
  | .ok value => pure value
  | .error failure => throw failure

variable {method : Method σ ε α} {state next : σ} {value : α} {failure : ε}

/-- A method that returns goes on with its value. -/
theorem bind_of_ok (returned : method state = (.ok value, next)) :
    (method >>= after) state = after value next := by
  show (match method state with
    | (.ok value, next) => after value next
    | (.error failure, next) => (.error failure, next)) = _
  rw [returned]

/-- A method that raises ends the sequence. -/
theorem bind_of_error (raised : method state = (.error failure, next)) :
    (method >>= after) state = (.error failure, next) := by
  show (match method state with
    | (.ok value, next) => after value next
    | (.error failure, next) => (.error failure, next)) = _
  rw [raised]

/-- A handler is not entered when the body returns. -/
theorem tryCatch_of_ok (returned : method state = (.ok value, next)) :
    (tryCatch method handler) state = (.ok value, next) := by
  show (match method state with
    | (Except.ok value, next) => (Except.ok value, next)
    | (.error failure, next) => handler failure next) = _
  rw [returned]

/-- A handler gets the failure and the assignments before it. -/
theorem tryCatch_of_error (raised : method state = (.error failure, next)) :
    (tryCatch method handler) state = handler failure next := by
  show (match method state with
    | (Except.ok value, next) => (Except.ok value, next)
    | (.error failure, next) => handler failure next) = _
  rw [raised]

/-- A pure value is passed on. -/
@[simp] theorem ofExcept_ok_bind : (ofExcept (.ok value) >>= after) = after value := rfl

/-- A property of states that a method keeps, however it ends. -/
def Keeps (property : σ → Prop) (method : Method σ ε α) : Prop :=
  ∀ state, property state → property (method state).2

/-- Returning keeps every property. -/
theorem keeps_pure : Keeps property (pure value : Method σ ε α) := fun _ holds => holds

/-- Raising keeps every property. -/
theorem keeps_throw : Keeps property (throw failure : Method σ ε α) := fun _ holds => holds

/-- A sequence keeps what its parts keep. -/
theorem keeps_bind (first : Keeps property method) (rest : ∀ value, Keeps property (after value)) :
    Keeps property (method >>= after) := by
  intro state holds
  have kept := first state holds
  rcases ended : method state with ⟨value | value, next⟩
  · rw [bind_of_error ended]
    rwa [ended] at kept
  · rw [bind_of_ok ended]
    apply rest value next
    rwa [ended] at kept

/-! ## Outcomes -/

/-- What a method returns or raises from a state, with the state it leaves, is as stated. -/
def wp (method : Method σ ε α) (ok : α → σ → Prop) (raised : ε → σ → Prop) (state : σ) : Prop :=
  match method state with
  | (.ok value, next) => ok value next
  | (.error failure, next) => raised failure next

/-- Rule of returning. -/
@[simp] theorem wp_pure : wp (pure value) ok raised state ↔ ok value state := Iff.rfl

/-- Rule of raising. -/
@[simp] theorem wp_throw : wp (throw failure) ok raised state ↔ raised failure state := Iff.rfl

/-- Rule of sequencing: a failure skips the rest. -/
@[simp] theorem wp_bind :
    wp (method >>= after) done raised state ↔
      wp method (fun value => wp (after value) done raised) raised state := by
  unfold wp
  rcases ended : method state with ⟨_ | value, _⟩
  · rw [bind_of_error ended]
  · rw [bind_of_ok ended]

/-- Rule of reading the state. -/
@[simp] theorem wp_get {ok : σ → σ → Prop} :
    wp (get : Method σ ε σ) ok raised state ↔ ok state state := Iff.rfl

/-- Rule of assigning the state. -/
@[simp] theorem wp_set {ok : Unit → σ → Prop} :
    wp (set next : Method σ ε Unit) ok raised state ↔ ok () next := Iff.rfl

/-- Rule of updating the state. -/
@[simp] theorem wp_modify {ok : Unit → σ → Prop} :
    wp (modify update : Method σ ε Unit) ok raised state ↔ ok () (update state) := Iff.rfl

/-- Rule of handling: the handler starts in the state of the failure. -/
@[simp] theorem wp_tryCatch : wp (tryCatch method handler) ok raised state ↔
    wp method ok (fun failure => wp (handler failure) ok raised) state := by
  unfold wp
  rcases ended : method state with ⟨failure | _, _⟩
  · rw [tryCatch_of_error ended]
  · rw [tryCatch_of_ok ended]

/-- Rule of consequence. -/
theorem wp_mono (holds : wp method ok raised state)
    (returns : ∀ value next, ok value next → weaker value next)
    (raises : ∀ failure next, raised failure next → weakerRaised failure next) :
    wp method weaker weakerRaised state := by
  unfold wp at holds ⊢
  split at holds
  · exact returns _ _ holds
  · exact raises _ _ holds

end Method

end AegisRag.Semantics

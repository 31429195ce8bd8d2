import AegisRag.Semantics.Task

/-!
# Cooperative cancellation

A task of an event loop is interrupted only where it waits. Then any number of
cancellation requests may arrive and any of the timeouts around it may expire; each counts
as a request, and the wait may end by raising. Leaving a timeout takes its own request
back and turns the cancellation it caused into a timeout.
-/

namespace AegisRag.Semantics

/-- A timeout that a task is inside of: the requests counted when it was entered, and
whether it has expired since. -/
structure Timer where
  baseline : ℕ
  expired : Bool
deriving DecidableEq

/-- What arrives while a task waits: cancellation requests, and which of its timeouts
expire, the innermost first. -/
structure Interruption where
  cancels : ℕ
  expires : List Bool
deriving DecidableEq

/-- The state of a task that can be cancelled, around a state of its own. -/
structure Cancellable (τ : Type) where
  requests : ℕ
  timers : List Timer
  own : τ

namespace Cancellable

variable {τ : Type}

/-- A task that nobody has asked to stop. -/
def fresh (own : τ) : Cancellable τ := ⟨0, [], own⟩

/-- The timers after some of them have expired. -/
def expire : List Timer → List Bool → List Timer
  | [], _ => []
  | timer :: rest, expires =>
    { timer with expired := timer.expired || expires.headD false } :: expire rest expires.tail

/-- How many timers expire that had not before. -/
def newlyExpired : List Timer → List Bool → ℕ
  | [], _ => 0
  | timer :: rest, expires =>
    (if !timer.expired && expires.headD false then 1 else 0) + newlyExpired rest expires.tail

/-- The state after a wait. -/
def interrupted (state : Cancellable τ) (interruption : Interruption) : Cancellable τ :=
  { state with
    requests := state.requests + interruption.cancels +
      newlyExpired state.timers interruption.expires
    timers := expire state.timers interruption.expires }

/-- Whether a wait brought a request. -/
def isInterruptedBy (state : Cancellable τ) (interruption : Interruption) : Bool :=
  state.requests < (state.interrupted interruption).requests

/-- The state inside a new timeout. -/
def entered (state : Cancellable τ) : Cancellable τ :=
  { state with timers := ⟨state.requests, false⟩ :: state.timers }

/-- Whether the timeout at a depth has expired, 0 being the innermost. -/
def expiredAt (state : Cancellable τ) (depth : ℕ) : Bool :=
  (state.timers[depth]?).any (·.expired)

/-- The state after the innermost timeout is left. -/
def exited (state : Cancellable τ) : Cancellable τ :=
  { state with
    requests := if state.expiredAt 0 then state.requests - 1 else state.requests
    timers := state.timers.tail }

/-- Whether the requests left after the innermost timeout are those it was entered with. -/
def isOnlyTimeout (state : Cancellable τ) : Bool :=
  state.expiredAt 0 && (state.timers[0]?).any (state.exited.requests ≤ ·.baseline)

@[simp] theorem interrupted_own (state : Cancellable τ) (interruption : Interruption) :
    (state.interrupted interruption).own = state.own := rfl

end Cancellable

namespace Task

variable {sig : Signature} {τ ε α : Type}

/-- End a wait: note what arrived, and return or raise what was waited for. -/
def settle (interruption : Interruption) (result : Except ε α) :
    Task sig (Cancellable τ) ε α := do
  modify (·.interrupted interruption)
  ofExcept result

/-- End a bare yield, which raises a cancellation exactly if one was requested. -/
def settleYield (cancelled : ε) (interruption : Interruption) : Task sig (Cancellable τ) ε Unit :=
  fun state =>
    .done (if state.isInterruptedBy interruption then .error cancelled else .ok (),
      state.interrupted interruption)

/-- Run a body inside a timeout; it returns whether the timeout has expired. -/
def withTimeout [DecidableEq ε] (cancelled timeout : ε) (body : Task sig (Cancellable τ) ε α) :
    Task sig (Cancellable τ) ε (α × Bool) :=
  fun state => (body state.entered).bind fun
    | (.ok value, next) => .done (.ok (value, next.expiredAt 0), next.exited)
    | (.error failure, next) =>
      .done (.error (if failure = cancelled ∧ next.isOnlyTimeout then timeout else failure),
        next.exited)

variable {actor : Actor m} {fail : ε → Cancellable τ → m.World → Prop}

theorem wp_settle {ok : α → Cancellable τ → m.World → Prop}
    (returns : ∀ value, result = .ok value → ok value (state.interrupted interruption) world)
    (raises : ∀ failure, result = .error failure →
      fail failure (state.interrupted interruption) world) :
    wp d actor (settle interruption result) ok fail state world := by
  unfold settle
  exact wp_bind (wp_modify (wp_ofExcept returns raises))

theorem wp_settleYield (returns : ok () (state.interrupted interruption) world)
    (raises : fail cancelled (state.interrupted interruption) world) :
    wp d actor (settleYield cancelled interruption) ok fail state world := by
  unfold wp settleYield
  cases state.isInterruptedBy interruption with
  | true => exact raises
  | false => exact returns

/-- A body inside a timeout raises what it raised, or the timeout. -/
theorem wp_withTimeout [DecidableEq ε] {ok : α × Bool → Cancellable τ → m.World → Prop}
    (holds : wp d actor body
      (fun value next world => ok (value, next.expiredAt 0) next.exited world)
      (fun failure next world =>
        fail failure next.exited world ∧ fail timeout next.exited world) state.entered world) :
    wp d actor (withTimeout cancelled timeout body) ok fail state world := by
  apply Discipline.wp_bind
  apply Discipline.wp_mono holds
  rintro ⟨result, next⟩ current established
  cases result with
  | ok value => exact established
  | error failure =>
    show fail (if failure = cancelled ∧ next.isOnlyTimeout then timeout else failure) next.exited
      current
    split
    · exact established.2
    · exact established.1

end Task

end AegisRag.Semantics

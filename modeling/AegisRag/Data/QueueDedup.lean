import Mathlib.Logic.Function.Basic
import Mathlib.Data.Nat.Notation
import Mathlib.Data.List.Basic

/-!
# Deduplication of enqueued jobs

`_enqueue_idempotently` of `packages/data/queue/adapters.py`, for any number of producers of one
job id whose Redis commands interleave. Only a recovering producer looks again after it took the
lock. The lock's token is the producer itself, and the lock may expire at any time.
-/

namespace AegisRag.Data.Queue.Dedup

/-- Where a producer stands; a job is named by the producer that enqueued it. -/
inductive Producer where
  | ready
  | checked
  | refused
  | holding
  | rechecked
  | releasing
  | returned (job : ℕ)
  | raised
deriving DecidableEq

/-- The lock, the job record, the enqueues that the queue received and the producers. -/
structure State where
  lock : Option ℕ := none
  record : Option ℕ := none
  enqueued : List ℕ := []
  producers : ℕ → Producer := fun _ => .ready

/-- How an enqueue ends; a lost one takes effect and raises. -/
inductive Enqueue where
  | done
  | failed
  | lost
deriving DecidableEq

/-- One command of a producer, or the expiry of the lock; `raise` is a look for the job that
raises. -/
inductive Move where
  | check (producer : ℕ)
  | acquire (producer : ℕ)
  | fetchAgain (producer : ℕ)
  | recheck (producer : ℕ)
  | raise (producer : ℕ)
  | enqueue (producer : ℕ) (outcome : Enqueue)
  | release (producer : ℕ)
  | expire
deriving DecidableEq

/-- Whether a move can free the lock. -/
def Move.frees : Move → Bool
  | .release _ | .expire => true
  | _ => false

namespace State

def put (state : State) (producer : ℕ) (place : Producer) : State :=
  { state with producers := Function.update state.producers producer place }

/-- The queue has received an enqueue. -/
def published (state : State) (producer : ℕ) : State :=
  { state with record := some producer, enqueued := producer :: state.enqueued }

/-- Return the job of the record, or go on. -/
def found (state : State) (producer : ℕ) (otherwise : Producer) : State :=
  state.put producer (state.record.elim otherwise .returned)

/-- Whether a producer may enqueue next; `recovers` says which one passes `fetch_existing`. -/
def CanEnqueue (recovers : ℕ → Bool) (state : State) (producer : ℕ) : Prop :=
  state.producers producer = .rechecked ∨
    state.producers producer = .holding ∧ recovers producer = false

instance (recovers : ℕ → Bool) (state : State) (producer : ℕ) :
    Decidable (state.CanEnqueue recovers producer) :=
  inferInstanceAs (Decidable (_ ∨ _))

def step (recovers : ℕ → Bool) (state : State) : Move → Option State
  | .check producer =>
    if state.producers producer = .ready then some (state.found producer .checked) else none
  | .acquire producer =>
    if state.producers producer = .checked then
      match state.lock with
      | none => some ({ state with lock := some producer }.put producer .holding)
      | some _ => some (state.put producer .refused)
    else none
  | .fetchAgain producer =>
    if state.producers producer = .refused then some (state.found producer .raised) else none
  | .recheck producer =>
    if state.producers producer = .holding ∧ recovers producer = true then
      some (state.found producer .rechecked)
    else none
  | .raise producer =>
    match state.producers producer with
    | .ready | .refused => some (state.put producer .raised)
    | .holding => if recovers producer then some (state.put producer .releasing) else none
    | _ => none
  | .enqueue producer outcome =>
    if state.CanEnqueue recovers producer then
      match outcome with
      | .done => some ((state.published producer).put producer (.returned producer))
      | .failed => some (state.put producer .releasing)
      | .lost => some ((state.published producer).put producer .releasing)
    else none
  | .release producer =>
    if state.producers producer = .releasing then
      let lock := if state.lock = some producer then none else state.lock
      some ({ state with lock := lock }.put producer .raised)
    else none
  | .expire => some { state with lock := none }

def run (recovers : ℕ → Bool) : List Move → State → Option State
  | [], state => some state
  | move :: moves, state => do run recovers moves (← state.step recovers move)

/-- The lock may go: it does not expire under a holder that has yet to enqueue, and once the
record exists no producer that will not look again is still about to ask for the lock. -/
structure Settled (recovers : ℕ → Bool) (state : State) (move : Move) : Prop where
  notHeld : move = .expire → ∀ producer, state.producers producer ≠ .holding ∧
    state.producers producer ≠ .rechecked
  noneLate : state.record ≠ none → ∀ producer, state.producers producer = .checked →
    recovers producer = true

/-- Moves in which the lock only goes when it may. -/
inductive Reachable (recovers : ℕ → Bool) : State → Prop where
  | start : Reachable recovers {}
  | step {state next : State} (reachable : Reachable recovers state) (move : Move)
      (moves : state.step recovers move = some next)
      (settled : move.frees = true → Settled recovers state move) : Reachable recovers next

/-- At most one enqueue, and the means by which the lock achieves it. -/
structure Invariant (recovers : ℕ → Bool) (state : State) : Prop where
  once : state.enqueued = state.record.toList
  returned : ∀ producer job, state.producers producer = .returned job → state.record = some job
  holds : ∀ producer, state.producers producer = .holding ∨
    state.producers producer = .rechecked → state.lock = some producer
  closed : state.record ≠ none → ∀ producer, ¬ state.CanEnqueue recovers producer
  noneLate : state.record ≠ none → state.lock = none → ∀ producer,
    state.producers producer = .checked → recovers producer = true

variable {recovers : ℕ → Bool} {state : State}

variable {producer : ℕ} {place : Producer}

@[simp] theorem put_producers (producer other : ℕ) (place : Producer) :
    (state.put producer place).producers other =
      if other = producer then place else state.producers other := by
  simp [State.put, Function.update_apply]

section

variable (invariant : Invariant recovers state)

include invariant

theorem Invariant.put (returned : ∀ job, place = .returned job → state.record = some job)
    (holds : place = .holding ∨ place = .rechecked → state.lock = some producer)
    (closed : state.record ≠ none →
      ¬ (place = .rechecked ∨ place = .holding ∧ recovers producer = false))
    (noneLate : state.record ≠ none → state.lock = none → place = .checked →
      recovers producer = true) :
    Invariant recovers (state.put producer place) := by
  constructor
  case once => exact invariant.once
  case returned =>
    intro other job
    rw [put_producers]
    split
    · exact returned job
    · exact invariant.returned other job
  case holds =>
    intro other
    rw [put_producers]
    split
    · rename_i isSame
      rw [isSame]
      exact holds
    · exact invariant.holds other
  case closed =>
    intro isSome other
    unfold CanEnqueue
    rw [put_producers]
    split
    · rename_i isSame
      rw [isSame]
      exact closed isSome
    · exact invariant.closed isSome other
  case noneLate =>
    intro isSome isFree other
    rw [put_producers]
    split
    · rename_i isSame
      rw [isSame]
      exact noneLate isSome isFree
    · exact invariant.noneLate isSome isFree other

/-- A producer that gives up, or is about to. -/
theorem Invariant.leave (leaves : place ∈ [Producer.refused, .releasing, .raised]) :
    Invariant recovers (state.put producer place) := by
  simp only [List.mem_cons, List.not_mem_nil, or_false] at leaves
  apply invariant.put
  all_goals obtain rfl | rfl | rfl := leaves <;> simp

/-- A producer that looks for the record. -/
theorem Invariant.found {otherwise : Producer}
    (notReturned : ∀ job, otherwise ≠ .returned job)
    (holds : otherwise = .holding ∨ otherwise = .rechecked → state.lock = some producer) :
    Invariant recovers (state.found producer otherwise) := by
  unfold State.found
  cases isRecord : state.record with
  | none =>
    apply invariant.put _ holds
    · exact fun isSome => absurd isRecord isSome
    · exact fun isSome => absurd isRecord isSome
    · exact fun job isReturned => absurd isReturned (notReturned job)
  | some job =>
    apply invariant.put
    · rintro _ ⟨rfl⟩
      exact isRecord
    · rintro (isHolding | isRechecked) <;> contradiction
    · rintro - (isRechecked | ⟨isHolding, -⟩) <;> contradiction
    · nofun

/-- Taking a free lock: once the record exists, only a producer that looks again gets it. -/
theorem Invariant.acquire
    (isChecked : state.producers producer = .checked) (isFree : state.lock = none) :
    Invariant recovers ({ state with lock := some producer }.put producer .holding) := by
  have taken : Invariant recovers { state with lock := some producer } := by
    constructor
    · exact invariant.once
    · exact invariant.returned
    · intro other isHolder
      have isHeld := invariant.holds other isHolder
      rw [isFree] at isHeld
      cases isHeld
    · exact invariant.closed
    · nofun
  refine taken.put nofun (fun _ => rfl) ?_ nofun
  · rintro isSome (isRechecked | ⟨-, notRecovers⟩)
    · cases isRechecked
    · exact nomatch notRecovers.symm.trans (invariant.noneLate isSome isFree producer isChecked)

/-- The enqueue of the one producer that can. -/
theorem Invariant.enqueue (canEnqueue : state.CanEnqueue recovers producer)
    (isPlace : place = .returned producer ∨ place = .releasing) :
    Invariant recovers ((state.published producer).put producer place) := by
  have isNone : state.record = none := by
    by_contra isSome
    exact invariant.closed isSome producer canEnqueue
  have isHeld : state.lock = some producer := invariant.holds producer
    (canEnqueue.elim .inr fun holding => .inl holding.1)
  have isAlone : ∀ other, other ≠ producer → ¬ state.CanEnqueue recovers other := by
    intro other isOther canEnqueue
    have isHolder := invariant.holds other (canEnqueue.elim .inr fun holding => .inl holding.1)
    exact isOther (Option.some.inj (isHolder.symm.trans isHeld))
  have notPlace : place ≠ .rechecked ∧ place ≠ .holding := by
    obtain rfl | rfl := isPlace <;> exact ⟨nofun, nofun⟩
  constructor
  case once =>
    show producer :: state.enqueued = _
    rw [invariant.once, isNone]
    rfl
  case returned =>
    intro other job
    rw [put_producers]
    split
    · obtain rfl | rfl := isPlace
      · rintro ⟨rfl⟩
        rfl
      · nofun
    · intro isReturned
      have isSome := invariant.returned other job isReturned
      rw [isNone] at isSome
      cases isSome
  case holds =>
    intro other
    rw [put_producers]
    split
    · rintro (isHolding | isRechecked)
      · exact absurd isHolding notPlace.2
      · exact absurd isRechecked notPlace.1
    · exact invariant.holds other
  case closed =>
    intro _ other
    unfold CanEnqueue
    rw [put_producers]
    split
    · rintro (isRechecked | ⟨isHolding, -⟩)
      · exact notPlace.1 isRechecked
      · exact notPlace.2 isHolding
    · rename_i isOther
      exact isAlone other isOther
  case noneLate =>
    intro _ isFree
    exact nomatch isHeld.symm.trans isFree

theorem Invariant.step {move : Move} {next : State}
    (moves : state.step recovers move = some next)
    (settled : move.frees = true → Settled recovers state move) : Invariant recovers next := by
  cases move with
  | check | fetchAgain =>
    simp only [State.step, Option.ite_none_right_eq_some, Option.some.injEq] at moves
    obtain ⟨-, rfl⟩ := moves
    exact invariant.found nofun (by rintro (isHolding | isRechecked) <;> contradiction)
  | recheck producer =>
    simp only [State.step, Option.ite_none_right_eq_some, Option.some.injEq] at moves
    obtain ⟨isHolding, rfl⟩ := moves
    exact invariant.found nofun fun _ => invariant.holds producer (.inl isHolding.1)
  | acquire producer =>
    simp only [State.step, Option.ite_none_right_eq_some] at moves
    obtain ⟨isChecked, moves⟩ := moves
    cases isLock : state.lock with
    | none =>
      rw [isLock] at moves
      cases moves
      exact invariant.acquire isChecked isLock
    | some holder =>
      rw [isLock] at moves
      cases moves
      exact invariant.leave (by decide)
  | raise producer =>
    simp only [State.step] at moves
    split at moves
    · cases moves
      exact invariant.leave (by decide)
    · cases moves
      exact invariant.leave (by decide)
    · cases (Option.ite_none_right_eq_some.mp moves).2
      exact invariant.leave (by decide)
    · cases moves
  | enqueue producer outcome =>
    simp only [State.step, Option.ite_none_right_eq_some] at moves
    obtain ⟨canEnqueue, moves⟩ := moves
    cases outcome with
    | done | lost =>
      cases moves
      exact invariant.enqueue canEnqueue (by simp)
    | failed =>
      cases moves
      exact invariant.leave (by decide)
  | release producer =>
    simp only [State.step, Option.ite_none_right_eq_some, Option.some.injEq] at moves
    obtain ⟨isReleasing, rfl⟩ := moves
    have freed : Invariant recovers
        { state with lock := if state.lock = some producer then none else state.lock } := by
      split
      · rename_i isHeld
        refine ⟨invariant.once, invariant.returned, ?_, invariant.closed,
          fun isSome _ => (settled rfl).noneLate isSome⟩
        intro other isHolder
        have isSame := Option.some.inj (isHeld.symm.trans (invariant.holds other isHolder))
        rw [← isSame, isReleasing] at isHolder
        obtain isHolding | isRechecked := isHolder <;> contradiction
      · exact invariant
    exact freed.leave (by decide)
  | expire =>
    cases moves
    obtain ⟨notHeld, noneLate⟩ := settled rfl
    refine ⟨invariant.once, invariant.returned, ?_, invariant.closed,
      fun isSome _ => noneLate isSome⟩
    rintro producer (isHolding | isRechecked)
    · exact absurd isHolding (notHeld rfl producer).1
    · exact absurd isRechecked (notHeld rfl producer).2

end

end State

/-- While the lock only goes when it may, the queue receives at most one enqueue, and every
producer that returns does so with its job. -/
theorem enqueues_once {recovers : ℕ → Bool} {state : State}
    (reachable : State.Reachable recovers state) :
    state.enqueued.length ≤ 1 ∧
      ∀ producer job, state.producers producer = .returned job → state.enqueued = [job] := by
  have invariant : State.Invariant recovers state := by
    induction reachable with
    | start => exact ⟨rfl, nofun, by simp, nofun, nofun⟩
    | step _ move moves settled ih => exact ih.step moves settled
  rw [invariant.once]
  constructor
  · cases state.record <;> simp
  · intro producer job isReturned
    rw [invariant.returned producer job isReturned]
    rfl

/-- The first producer fails and frees the lock, the second one enqueues, and the third one
looks again after the lock of the second has expired. -/
def freedTwice : List Move :=
  [.check 0, .acquire 0, .enqueue 0 .failed, .release 0, .check 1, .check 2, .acquire 1,
    .enqueue 1 .done, .expire, .acquire 2, .recheck 2]

theorem enqueues_once_freedTwice : ∃ state, State.run (· = 2) freedTwice {} = some state ∧
    state.producers 2 = .returned 1 ∧ state.enqueued.length ≤ 1 ∧
    ∀ producer job, state.producers producer = .returned job → state.enqueued = [job] := by
  have initial : State.Reachable (· = 2) {} := .start
  have failed := ((initial.step (.check 0) rfl nofun).step (.acquire 0) rfl nofun).step
    (.enqueue 0 .failed) rfl nofun
  have released := failed.step (.release 0) rfl fun _ => ⟨nofun, fun isSome => absurd rfl isSome⟩
  have published := (((released.step (.check 1) rfl nofun).step (.check 2) rfl nofun).step
    (.acquire 1) rfl nofun).step (.enqueue 1 .done) rfl nofun
  have expired := published.step .expire rfl fun _ => by
    constructor
    · rintro - (_ | _ | _ | producer) <;> simp [State.put, State.found, State.published]
    · rintro - (_ | _ | _ | producer) isChecked <;>
        simp [State.put, State.found, State.published] at isChecked ⊢
  have reachable := (expired.step (.acquire 2) rfl nofun).step (.recheck 2) rfl nofun
  exact ⟨_, rfl, rfl, enqueues_once reachable⟩

/-- A producer that looked before the first one enqueued asks for the lock after it expired:
the job is enqueued twice, and the two producers return different jobs. -/
theorem late_producer_enqueues_again :
    (State.run (fun _ => false) [.check 1, .check 0, .acquire 0, .enqueue 0 .done, .expire,
        .acquire 1, .enqueue 1 .done] {}).map
      (fun state => (state.enqueued, state.record, state.producers 0, state.producers 1)) =
    some ([1, 0], some 1, .returned 0, .returned 1) := by
  decide

end AegisRag.Data.Queue.Dedup

import AegisRag.Semantics.Program

/-!
# Failing computations with private state

`Task` adds to a `Program` what a method body has: a private state it may
assign, and failures it may raise and catch. A failure keeps the assignments
made before it, as an exception does. The `wp` rules mirror the constructs one
by one, with one postcondition for a return and one for a failure.
-/

namespace AegisRag.Semantics

/-- A computation over private state `σ` that returns an `α` or fails with an `ε`. -/
def Task (sig : Signature) (σ ε α : Type) : Type :=
  σ → Program sig (Except ε α × σ)

namespace Task

variable {sig : Signature} {σ τ ε α β : Type}

instance : Monad (Task sig σ ε) where
  pure value := fun state => .done (.ok value, state)
  bind task after := fun state => (task state).bind fun
    | (.ok value, next) => after value next
    | (.error failure, next) => .done (.error failure, next)

instance : MonadExceptOf ε (Task sig σ ε) where
  throw failure := fun state => .done (.error failure, state)
  tryCatch task handler := fun state => (task state).bind fun
    | (.ok value, next) => .done (.ok value, next)
    | (.error failure, next) => handler failure next

instance : MonadStateOf σ (Task sig σ ε) where
  get := fun state => .done (.ok state, state)
  set next := fun _ => .done (.ok (), next)
  modifyGet update := fun state => .done (.ok (update state).1, (update state).2)

def perform (op : sig.Op) : Task sig σ ε (sig.Reply op) :=
  fun state => .call op fun reply => .done (.ok reply, state)

/-- Start another task and go on. -/
def start (code : sig.Code) : Task sig σ ε Unit :=
  fun state => .fork code (.done (.ok (), state))

/-- Return a value, or raise the failure found in its place. -/
def ofExcept : Except ε α → Task sig σ ε α
  | .ok value => pure value
  | .error failure => throw failure

/-- Run a task to its result, failure included. -/
def attempt (task : Task sig σ ε α) : Task sig σ ε (Except ε α) :=
  fun state => (task state).bind fun (result, next) => .done (.ok result, next)

/-- Repeat a body until it returns a value; after `fuel` rounds do `exhausted`. -/
def iterate (body : Task sig σ ε (Option α)) (exhausted : Task sig σ ε α) :
    Nat → Task sig σ ε α
  | 0 => exhausted
  | fuel + 1 => do
    match ← body with
    | some value => pure value
    | none => iterate body exhausted fuel

/-! What follows a conditional stands in both of its branches. -/

theorem bind_ite [Decidable condition] {first second : Task sig σ ε α}
    {after : α → Task sig σ ε β} :
    (if condition then first >>= after else second >>= after) =
      (if condition then first else second) >>= after := by
  split <;> rfl

theorem bind_when [Decidable condition] {task : Task sig σ ε Unit} {after : Unit → Task sig σ ε α} :
    (if condition then task >>= after else after ()) =
      (if condition then task else pure ()) >>= after := by
  split <;> rfl

variable {m : Machine} {d : Discipline m} {actor : Actor m}

/-- Verification condition of a task: `ok` at a return, `fail` at a failure. -/
def wp (d : Discipline m) (actor : Actor m) (task : Task m.sig σ ε α)
    (ok : α → σ → m.World → Prop) (fail : ε → σ → m.World → Prop)
    (state : σ) (world : m.World) : Prop :=
  d.wp actor (task state)
    (fun result world => match result with
      | (.ok value, next) => ok value next world
      | (.error failure, next) => fail failure next world) world

variable {ok : α → σ → m.World → Prop} {fail : ε → σ → m.World → Prop}

/-- A verified task establishes what both of its postconditions imply. -/
theorem wp_elim (holds : wp d actor task ok fail state world)
    (returns : ∀ value next world, ok value next world → post (.ok value, next) world)
    (raises : ∀ failure next world, fail failure next world → post (.error failure, next) world) :
    d.wp actor (task state) post world := by
  refine Discipline.wp_mono holds ?_
  rintro ⟨result, next⟩ current established
  cases result with
  | ok value => exact returns value next current established
  | error failure => exact raises failure next current established

theorem wp_pure {value : α} (holds : ok value state world) :
    wp d actor (pure value) ok fail state world := holds

theorem wp_throw {failure : ε} (holds : fail failure state world) :
    wp d actor (throw failure : Task m.sig σ ε α) ok fail state world := holds

theorem wp_get {ok : σ → σ → m.World → Prop} (holds : ok state state world) :
    wp d actor (get : Task m.sig σ ε σ) ok fail state world := holds

theorem wp_set {ok : Unit → σ → m.World → Prop} (holds : ok () next world) :
    wp d actor (set next : Task m.sig σ ε Unit) ok fail state world := holds

theorem wp_modify {ok : Unit → σ → m.World → Prop} (holds : ok () (update state) world) :
    wp d actor (modify update : Task m.sig σ ε Unit) ok fail state world := holds

theorem wp_ofExcept (returns : ∀ value, result = .ok value →
      ok value state world) (raises : ∀ failure, result = .error failure →
      fail failure state world) :
    wp d actor (ofExcept result) ok fail state world := by
  cases result with
  | ok value => exact returns value rfl
  | error failure => exact raises failure rfl

theorem wp_bind {after : α → Task m.sig σ ε β} {ok : β → σ → m.World → Prop}
    (holds : wp d actor task (fun value state world => wp d actor (after value) ok fail state world)
      fail state world) :
    wp d actor (task >>= after) ok fail state world :=
  Discipline.wp_bind (wp_elim holds (fun _ _ _ returned => returned) fun _ _ _ raised => raised)

theorem wp_ite {condition : Prop} [Decidable condition] {first second : Task m.sig σ ε α}
    (isTrue : condition → wp d actor first ok fail state world)
    (isFalse : ¬ condition → wp d actor second ok fail state world) :
    wp d actor (if condition then first else second) ok fail state world := by
  split
  · exact isTrue (by assumption)
  · exact isFalse (by assumption)

/-- A check that raises where its condition holds. -/
theorem wp_guard [Decidable condition] {failure : ε} (raises : condition → fail failure state world)
    (holds : ¬ condition → wp d actor (after ()) ok fail state world) :
    wp d actor (if condition then throw failure >>= after else after ()) ok fail state world :=
  wp_ite raises holds

theorem wp_tryCatch (holds : wp d actor task ok (fun failure state world =>
      wp d actor (handler failure) ok fail state world) state world) :
    wp d actor (tryCatch task handler) ok fail state world :=
  Discipline.wp_bind (wp_elim holds (fun _ _ _ returned => returned) fun _ _ _ raised => raised)

theorem wp_perform {ok : m.sig.Reply op → σ → m.World → Prop}
    (holds : ∀ current, d.Rely actor world current → d.Inv current →
      ∀ answer reply after, m.execute actor.index op answer current = some (reply, after) →
        d.Guar actor current after ∧ ok reply state after) :
    wp d actor (perform op : Task m.sig σ ε (m.sig.Reply op)) ok fail state world := holds

/-- One call, from what interference leaves of the precondition. -/
theorem wp_call {ok : m.sig.Reply op → σ → m.World → Prop} (stable : d.Stable actor pre)
    (holds : pre world) (step : ∀ current, d.Inv current → pre current →
      ∀ answer reply after, m.execute actor.index op answer current = some (reply, after) →
        d.Guar actor current after ∧ ok reply state after) :
    wp d actor (perform op : Task m.sig σ ε (m.sig.Reply op)) ok fail state world :=
  wp_perform fun current rely inv => step current inv (stable.rely rely holds)

theorem wp_start {ok : Unit → σ → m.World → Prop}
    (holds : ∀ current, d.Rely actor world current → d.Inv current →
      d.Pre code current ∧ ok () state current) :
    wp d actor (start code : Task m.sig σ ε Unit) ok fail state world := holds

theorem wp_attempt {ok : Except ε α → σ → m.World → Prop}
    (holds : wp d actor task (fun value => ok (.ok value)) (fun failure => ok (.error failure))
      state world) :
    wp d actor (attempt task) ok fail state world :=
  Discipline.wp_bind (wp_elim holds (fun _ _ _ returned => returned) fun _ _ _ raised => raised)

theorem wp_mono {okStrong : α → σ → m.World → Prop} {failStrong : ε → σ → m.World → Prop}
    (holds : wp d actor task okStrong failStrong state world)
    (returns : ∀ value state world, okStrong value state world → ok value state world)
    (raises : ∀ failure state world, failStrong failure state world → fail failure state world) :
    wp d actor task ok fail state world :=
  wp_elim holds returns raises

theorem wp_keeps (persistent : d.Persistent property) (holds : property world)
    (run : wp d actor task ok fail state world) :
    wp d actor task (fun value state world => ok value state world ∧ property world)
      (fun failure state world => fail failure state world ∧ property world) state world := by
  refine Discipline.wp_mono (Discipline.wp_keeps persistent holds run) ?_
  rintro ⟨result, _⟩ _ established
  cases result with
  | ok value => exact established
  | error failure => exact established

/-- A task that never catches anything of its own: verify it once and continue. -/
theorem wp_seq {after : α → Task m.sig σ ε β} {ok : β → σ → m.World → Prop}
    {middle : α → σ → m.World → Prop} (first : wp d actor task middle fail state world)
    (rest : ∀ value state world, middle value state world →
      wp d actor (after value) ok fail state world) :
    wp d actor (task >>= after) ok fail state world :=
  wp_bind (wp_mono first rest fun _ _ _ raised => raised)

theorem wp_iterate {invariant : σ → m.World → Prop} (round : ∀ state world, invariant state world →
      wp d actor body (fun result state world => match result with
        | some value => ok value state world
        | none => invariant state world) fail state world)
    (last : ∀ state world, invariant state world → wp d actor exhausted ok fail state world)
    (fuel : Nat) (holds : invariant state world) :
    wp d actor (iterate body exhausted fuel) ok fail state world := by
  induction fuel generalizing state world with
  | zero => exact last state world holds
  | succ fuel ih =>
    refine wp_seq (round state world holds) ?_
    intro result next current established
    cases result with
    | some value => exact wp_pure established
    | none => exact ih established

end Task

end AegisRag.Semantics

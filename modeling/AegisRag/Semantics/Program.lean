import Mathlib.Logic.Relation
import Mathlib.Data.List.Basic

/-!
# Interleaved programs over a shared world

A `Program` is a tree of calls into a shared world, with forks of further tasks. A
`Machine` gives the operations their meaning and a `Pool` interleaves the tasks, one
call at a time; a task may also stop for good between two calls. Every source of
nondeterminism is an explicit `Answer`, so `Pool.run` executes a schedule. Under a
`Discipline` a task proves only that its own calls keep a guarantee, under any
interference of tasks that keep theirs.
-/

namespace AegisRag.Semantics

open Relation

/-- The calls a program may make, the reply each returns, and what it may fork. -/
structure Signature where
  Op : Type
  Reply : Op → Type
  Code : Type

/-- A program that calls operations, forks tasks and finally returns a value. -/
inductive Program (sig : Signature) (α : Type) : Type where
  | done (value : α)
  | call (op : sig.Op) (next : sig.Reply op → Program sig α)
  | fork (code : sig.Code) (next : Program sig α)

namespace Program

variable {sig : Signature} {α β γ : Type}

/-- Sequencing grafts the continuation onto every return. -/
def bind : Program sig α → (α → Program sig β) → Program sig β
  | .done value, after => after value
  | .call op next, after => .call op fun reply => (next reply).bind after
  | .fork code next, after => .fork code (next.bind after)

end Program

/-- The meaning of a signature: a shared world, the answers its environment can
give to a call, and the program behind each code. -/
structure Machine where
  sig : Signature
  Outcome : Type
  World : Type
  Answer : Type
  initial : World
  body : sig.Code → Program sig Outcome
  /-- The codes the environment may start on its own. -/
  request : sig.Code → Bool
  /-- One call by the task of the given index; `none` when the answer does not fit. -/
  execute : Nat → (op : sig.Op) → Answer → World → Option (sig.Reply op × World)

/-- A started task and what is left of it; `none` once it has crashed. -/
structure Thread (m : Machine) where
  code : m.sig.Code
  program : Option (Program m.sig m.Outcome)

/-- A shared world and the tasks started so far, in starting order. -/
structure Pool (m : Machine) where
  world : m.World
  threads : List (Thread m)

/-- One scheduling decision. -/
inductive Move (m : Machine) where
  | arrive (code : m.sig.Code)
  | run (index : Nat) (answer : m.Answer)
  | crash (index : Nat)

namespace Pool

variable {m : Machine}

def initial (m : Machine) : Pool m := ⟨m.initial, []⟩

def move (pool : Pool m) : Move m → Option (Pool m)
  | .arrive code =>
    if m.request code then
      some ⟨pool.world, pool.threads ++ [⟨code, some (m.body code)⟩]⟩
    else none
  | .run index answer =>
    match pool.threads[index]? with
    | some ⟨code, some (.call op next)⟩ =>
      match m.execute index op answer pool.world with
      | some (reply, world) =>
        some ⟨world, pool.threads.set index ⟨code, some (next reply)⟩⟩
      | none => none
    | some ⟨code, some (.fork child next)⟩ =>
      some ⟨pool.world,
        pool.threads.set index ⟨code, some next⟩ ++ [⟨child, some (m.body child)⟩]⟩
    | _ => none
  | .crash index =>
    match pool.threads[index]? with
    | some thread => some ⟨pool.world, pool.threads.set index ⟨thread.code, none⟩⟩
    | none => none

def run : List (Move m) → Pool m → Option (Pool m)
  | [], pool => some pool
  | move :: rest, pool => (pool.move move).bind (run rest)

/-- A pool some schedule produces. -/
def Reachable (pool : Pool m) : Prop := ∃ moves, run moves (initial m) = some pool

/-- What every move keeps is kept by a schedule. -/
theorem run_induction (property : Pool m → Prop)
    (step : ∀ pool move next, property pool → pool.move move = some next → property next)
    (holds : property pool) (performed : run moves pool = some later) : property later := by
  induction moves generalizing pool with
  | nil =>
    cases performed
    exact holds
  | cons move rest ih =>
    obtain ⟨middle, moved, performed⟩ := Option.bind_eq_some_iff.mp performed
    exact ih (step _ _ _ holds moved) performed

/-- Properties that hold initially and that every move keeps hold of every
reachable pool. -/
theorem Reachable.induction {property : Pool m → Prop} (start : property (initial m))
    (step : ∀ pool move next, property pool → pool.move move = some next → property next)
    (reachable : pool.Reachable) : property pool := by
  obtain ⟨moves, performed⟩ := reachable
  exact run_induction property step start performed

/-- What a move that is possible does. -/
inductive Moved (pool : Pool m) : Move m → Pool m → Prop
  | arrived (allowed : m.request code = true) :
    Moved pool (.arrive code) ⟨pool.world, pool.threads ++ [⟨code, some (m.body code)⟩]⟩
  | called (found : pool.threads[index]? = some ⟨code, some (.call op continuation)⟩)
      (executed : m.execute index op answer pool.world = some (reply, after)) :
    Moved pool (.run index answer)
      ⟨after, pool.threads.set index ⟨code, some (continuation reply)⟩⟩
  | forked (found : pool.threads[index]? = some ⟨code, some (.fork child continuation)⟩) :
    Moved pool (.run index answer) ⟨pool.world,
      pool.threads.set index ⟨code, some continuation⟩ ++ [⟨child, some (m.body child)⟩]⟩
  | crashed (found : pool.threads[index]? = some thread) :
    Moved pool (.crash index) ⟨pool.world, pool.threads.set index ⟨thread.code, none⟩⟩

theorem moved_of_move {pool next : Pool m} {move : Move m} (moved : pool.move move = some next) :
    Moved pool move next := by
  cases move with
  | arrive code =>
    obtain ⟨allowed, same⟩ := Option.ite_none_right_eq_some.mp moved
    cases same
    exact .arrived allowed
  | crash index =>
    simp only [Pool.move] at moved
    split at moved <;> cases moved
    exact .crashed ‹_›
  | run index answer =>
    simp only [Pool.move] at moved
    split at moved
    · split at moved <;> cases moved
      exact .called ‹_› ‹_›
    · cases moved
      exact .forked ‹_›
    · cases moved

/-- A schedule that can be performed and leads where a test says. -/
theorem exists_of_run (property : Pool m → Prop) [DecidablePred property] (moves : List (Move m))
    (passes : (run moves (initial m)).any (fun pool => decide (property pool)) = true) :
    ∃ pool, run moves (initial m) = some pool ∧ property pool := by
  cases performed : run moves (initial m) with
  | none =>
    rw [performed] at passes
    cases passes
  | some pool =>
    rw [performed] at passes
    exact ⟨pool, rfl, of_decide_eq_true passes⟩

end Pool

/-- An element of a list with one replaced is the new one or an old one. -/
theorem getElem?_of_set {items : List α} (found : (items.set index item)[other]? = some value) :
    (other = index ∧ value = item) ∨ (other ≠ index ∧ items[other]? = some value) := by
  rw [List.getElem?_set] at found
  split at found
  · rename_i same
    split at found
    · exact .inl ⟨same.symm, (Option.some.inj found).symm⟩
    · cases found
  · rename_i differs
    exact .inr ⟨Ne.symm differs, found⟩

/-- An element of a list with one added is an old one or the one at the end. -/
theorem getElem?_of_append {items : List α} (found : (items ++ [item])[other]? = some value) :
    items[other]? = some value ∨ (items.length ≤ other ∧ value = item) := by
  rw [List.getElem?_append] at found
  split at found
  · exact .inl found
  · rename_i outside
    exact .inr ⟨Nat.le_of_not_lt outside, List.mem_singleton.mp (List.mem_of_getElem? found)⟩

/-- A task by its position in the pool and the code it runs. -/
structure Actor (m : Machine) where
  index : Nat
  code : m.sig.Code

/-- What a verification of a machine fixes: an invariant of the world, what each
task guarantees to the others, and what each code needs and returns. -/
structure Discipline (m : Machine) where
  Inv : m.World → Prop
  Guar : Actor m → m.World → m.World → Prop
  Pre : m.sig.Code → m.World → Prop
  Post : Actor m → m.Outcome → m.World → Prop
  initial : Inv m.initial
  preserved : ∀ {actor world next}, Inv world → Guar actor world next → Inv next

namespace Discipline

variable {m : Machine} (d : Discipline m)

/-- What the tasks other than `actor` may do to the world. -/
def Rely (actor : Actor m) : m.World → m.World → Prop :=
  ReflTransGen fun world next => ∃ other : Actor m, other.index ≠ actor.index ∧
    d.Inv world ∧ d.Guar other world next

/-- A property of the world that the tasks other than `actor` keep. -/
def Stable (actor : Actor m) (property : m.World → Prop) : Prop :=
  ∀ (other : Actor m) world next, other.index ≠ actor.index → d.Inv world →
    d.Guar other world next → property world → property next

/-- A property of the world that every task keeps. -/
def Persistent (property : m.World → Prop) : Prop :=
  ∀ (other : Actor m) world next, d.Inv world → d.Guar other world next →
    property world → property next

/-- A program run by `actor` keeps its guarantee at every call, forks only codes
whose needs are met, and returns in a world that satisfies `post`. -/
def wp (actor : Actor m) {α : Type} :
    Program m.sig α → (α → m.World → Prop) → m.World → Prop
  | .done value, post, world => post value world
  | .call op next, post, world =>
    ∀ current, d.Rely actor world current → d.Inv current →
      ∀ answer reply after, m.execute actor.index op answer current = some (reply, after) →
        d.Guar actor current after ∧ wp actor (next reply) post after
  | .fork code next, post, world =>
    ∀ current, d.Rely actor world current → d.Inv current →
      d.Pre code current ∧ wp actor next post current

variable {d} {actor : Actor m}

theorem wp_mono (holds : d.wp actor program stronger world)
    (weaker : ∀ value world, stronger value world → post value world) :
    d.wp actor program post world := by
  induction program generalizing world with
  | done value => exact weaker value world holds
  | call op next ih =>
    intro current rely inv answer reply after executed
    obtain ⟨guar, rest⟩ := holds current rely inv answer reply after executed
    exact ⟨guar, ih reply rest⟩
  | fork code next ih =>
    intro current rely inv
    obtain ⟨pre, rest⟩ := holds current rely inv
    exact ⟨pre, ih rest⟩

/-- Sequencing: the continuation is verified in the worlds the first part ends in. -/
theorem wp_bind
    (holds : d.wp actor program (fun value world => d.wp actor (after value) post world) world) :
    d.wp actor (program.bind after) post world := by
  induction program generalizing world with
  | done value => exact holds
  | call op next ih =>
    intro current rely inv answer reply afterWorld executed
    obtain ⟨guar, rest⟩ := holds current rely inv answer reply afterWorld executed
    exact ⟨guar, ih reply rest⟩
  | fork code next ih =>
    intro current rely inv
    obtain ⟨pre, rest⟩ := holds current rely inv
    exact ⟨pre, ih rest⟩

/-- What a task has established survives the interference of the others. -/
theorem wp_stable (stable : ∀ value, post value world → post value next)
    (rely : d.Rely actor world next) (holds : d.wp actor program post world) :
    d.wp actor program post next := by
  cases program with
  | done value => exact stable value holds
  | call op continuation =>
    intro current later inv
    exact holds current (rely.trans later) inv
  | fork code continuation =>
    intro current later inv
    exact holds current (rely.trans later) inv

theorem Rely.of_guar (differs : other.index ≠ actor.index) (inv : d.Inv world)
    (guar : d.Guar other world next) : d.Rely actor world next :=
  ReflTransGen.single ⟨other, differs, inv, guar⟩

/-- What the steps of the other tasks keep survives interference. -/
theorem Stable.rely (stable : d.Stable actor property) (rely : d.Rely actor world next)
    (holds : property world) :
    property next := by
  induction rely with
  | refl => exact holds
  | tail _ step ih =>
    obtain ⟨other, differs, inv, guar⟩ := step
    exact stable other _ _ differs inv guar ih

theorem Stable.and (first : d.Stable actor left) (second : d.Stable actor right) :
    d.Stable actor fun world => left world ∧ right world := by
  intro other world next differs inv guar holds
  exact ⟨first other world next differs inv guar holds.1,
    second other world next differs inv guar holds.2⟩

theorem Stable.const (fact : Prop) : d.Stable actor fun _ => fact :=
  fun _ _ _ _ _ _ holds => holds

theorem Stable.or (first : d.Stable actor left) (second : d.Stable actor right) :
    d.Stable actor fun world => left world ∨ right world := by
  intro other world next differs inv guar holds
  rcases holds with isLeft | isRight
  · exact Or.inl (first other world next differs inv guar isLeft)
  · exact Or.inr (second other world next differs inv guar isRight)

theorem Persistent.stable (persistent : d.Persistent property) : d.Stable actor property :=
  fun other world next _ inv guar holds => persistent other world next inv guar holds

theorem Persistent.and (first : d.Persistent left) (second : d.Persistent right) :
    d.Persistent fun world => left world ∧ right world :=
  fun other world next inv guar holds =>
    ⟨first other world next inv guar holds.1, second other world next inv guar holds.2⟩

/-- What every task keeps is kept by a whole program. -/
theorem wp_keeps (persistent : d.Persistent property) (holds : property world)
    (run : d.wp actor program post world) :
    d.wp actor program (fun value world => post value world ∧ property world) world := by
  induction program generalizing world with
  | done value => exact ⟨run, holds⟩
  | call op next ih =>
    intro current rely inv answer reply after executed
    obtain ⟨guar, rest⟩ := run current rely inv answer reply after executed
    have kept := persistent actor _ _ inv guar (persistent.stable.rely rely holds)
    exact ⟨guar, ih reply kept rest⟩
  | fork code next ih =>
    intro current rely inv
    obtain ⟨pre, rest⟩ := run current rely inv
    exact ⟨pre, ih (persistent.stable.rely rely holds) rest⟩

variable (d)

/-- The local obligations from which every reachable pool is safe. -/
structure Sound : Prop where
  arrivals : ∀ code world, d.Inv world → m.request code = true → d.Pre code world
  bodies : ∀ (actor : Actor m) world, d.Inv world → d.Pre actor.code world →
    d.wp actor (m.body actor.code) (d.Post actor) world
  postStable : ∀ (actor other : Actor m) outcome world next, other.index ≠ actor.index →
    d.Inv world → d.Guar other world next → d.Post actor outcome world →
    d.Post actor outcome next

/-- What holds of a pool whose tasks all keep the discipline. -/
structure Holds (pool : Pool m) : Prop where
  inv : d.Inv pool.world
  threads : ∀ index thread program, pool.threads[index]? = some thread →
    thread.program = some program →
    d.wp ⟨index, thread.code⟩ program (d.Post ⟨index, thread.code⟩) pool.world

variable {d}

/-- What one move of a pool does: it calls one operation within the guarantee of
the task that calls it, or leaves the world alone; no task changes its code. -/
theorem Holds.move {pool next : Pool m} {move : Move m} (sound : d.Sound)
    (holds : d.Holds pool) (moved : pool.move move = some next) :
    d.Holds next ∧ pool.threads.length ≤ next.threads.length ∧
      (∀ (index : Nat) (thread : Thread m), next.threads[index]? = some thread →
        pool.threads.length ≤ index ∨
          ∃ before, pool.threads[index]? = some before ∧ before.code = thread.code) ∧
      (next.world = pool.world ∨ ∃ (index : Nat) (thread : Thread m),
        pool.threads[index]? = some thread ∧
          d.Guar ⟨index, thread.code⟩ pool.world next.world) := by
  -- Replacing the program of one thread keeps every code.
  have replaced {index : Nat} {thread : Thread m} {program : Option (Program m.sig m.Outcome)}
      (atIndex : pool.threads[index]? = some thread) {other : Nat} {found : Thread m}
      (atOther : (pool.threads.set index ⟨thread.code, program⟩)[other]? = some found) :
      ∃ before, pool.threads[other]? = some before ∧ before.code = found.code := by
    rcases getElem?_of_set atOther with ⟨rfl, rfl⟩ | ⟨_, old⟩
    · exact ⟨thread, atIndex, rfl⟩
    · exact ⟨found, old, rfl⟩
  cases Pool.moved_of_move moved with
  | arrived allowed =>
    refine ⟨⟨holds.inv, ?_⟩, by simp, ?_, Or.inl rfl⟩
    · intro index thread program found isProgram
      rcases getElem?_of_append found with old | ⟨_, rfl⟩
      · exact holds.threads index thread program old isProgram
      · cases isProgram
        exact sound.bodies ⟨index, _⟩ _ holds.inv (sound.arrivals _ _ holds.inv allowed)
    · intro index thread found
      rcases getElem?_of_append found with old | ⟨isNew, _⟩
      · exact Or.inr ⟨thread, old, rfl⟩
      · exact Or.inl isNew
  | crashed found =>
    refine ⟨⟨holds.inv, ?_⟩, by simp, fun _ _ atOther => Or.inr (replaced found atOther),
      Or.inl rfl⟩
    intro other thread program atOther isProgram
    rcases getElem?_of_set atOther with ⟨_, rfl⟩ | ⟨_, old⟩
    · cases isProgram
    · exact holds.threads other thread program old isProgram
  | called found executed =>
    obtain ⟨guar, rest⟩ := holds.threads _ _ _ found rfl pool.world .refl holds.inv _ _ _ executed
    refine ⟨⟨d.preserved holds.inv guar, ?_⟩, by simp,
      fun _ _ atOther => Or.inr (replaced found atOther), Or.inr ⟨_, _, found, guar⟩⟩
    intro other thread program atOther isProgram
    rcases getElem?_of_set atOther with ⟨rfl, rfl⟩ | ⟨differs, old⟩
    · cases isProgram
      exact rest
    · refine wp_stable ?_ (Rely.of_guar (Ne.symm differs) holds.inv guar)
        (holds.threads other thread program old isProgram)
      intro value established
      exact sound.postStable _ _ value _ _ (Ne.symm differs) holds.inv guar established
  | forked found =>
    obtain ⟨pre, rest⟩ := holds.threads _ _ _ found rfl pool.world .refl holds.inv
    refine ⟨⟨holds.inv, ?_⟩, by simp, ?_, Or.inl rfl⟩
    · intro other thread program atOther isProgram
      rcases getElem?_of_append atOther with atOther | ⟨_, rfl⟩
      · rcases getElem?_of_set atOther with ⟨rfl, rfl⟩ | ⟨_, old⟩
        · cases isProgram
          exact rest
        · exact holds.threads other thread program old isProgram
      · cases isProgram
        exact sound.bodies ⟨other, _⟩ _ holds.inv pre
    · intro other thread atOther
      rcases getElem?_of_append atOther with atOther | ⟨isNew, _⟩
      · exact Or.inr (replaced found atOther)
      · exact Or.inl (by simpa using isNew)

/-- Local proofs about each code give the invariant and every task's own facts in
every reachable pool. -/
theorem Sound.reachable (sound : d.Sound) {pool : Pool m} (reachable : pool.Reachable) :
    d.Holds pool := by
  refine reachable.induction ⟨d.initial, by simp [Pool.initial]⟩ ?_
  intro pool move next holds moved
  exact (holds.move sound moved).1

/-- One move from a reachable pool is a step of one of its tasks, or none. -/
theorem Sound.move (sound : d.Sound) {pool next : Pool m} (reachable : pool.Reachable)
    {move : Move m} (moved : pool.move move = some next) :
    next.world = pool.world ∨ ∃ (index : Nat) (thread : Thread m),
      pool.threads[index]? = some thread ∧
        d.Guar ⟨index, thread.code⟩ pool.world next.world :=
  ((sound.reachable reachable).move sound moved).2.2.2

/-- What every task keeps holds in every pool that a verified one leads to. -/
theorem Holds.keeps (held : d.Holds pool) (sound : d.Sound) (persistent : d.Persistent property)
    (holds : property pool.world) (performed : Pool.run moves pool = some later) :
    property later.world := by
  refine (Pool.run_induction (fun pool => d.Holds pool ∧ property pool.world) ?_ ⟨held, holds⟩
    performed).2
  intro pool move next before moved
  obtain ⟨heldNext, _, _, same | ⟨_, _, _, guar⟩⟩ := before.1.move sound moved
  · exact ⟨heldNext, same ▸ before.2⟩
  · exact ⟨heldNext, persistent _ _ _ before.1.inv guar before.2⟩

/-- What every task keeps holds in every pool that a reachable one leads to. -/
theorem Sound.keeps (sound : d.Sound) (persistent : d.Persistent property)
    (reachable : pool.Reachable) (holds : property pool.world)
    (performed : Pool.run moves pool = some later) : property later.world :=
  (sound.reachable reachable).keeps sound persistent holds performed

/-- What is recorded about the tasks of a pool: nothing of those not yet started,
and each task's own fact. -/
private structure Attributed (d : Discipline m) (Unused : Nat → m.World → Prop)
    (Own : Actor m → m.World → Prop) (pool : Pool m) : Prop where
  holds : d.Holds pool
  idle : ∀ index, pool.threads.length ≤ index → Unused index pool.world
  own : ∀ (index : Nat) (thread : Thread m), pool.threads[index]? = some thread →
    Own ⟨index, thread.code⟩ pool.world

/-- A fact about what a task has done, which holds of a task that has done nothing and
which all guarantees keep, holds of every task of every reachable pool. -/
theorem Sound.attributed (sound : d.Sound) (Unused : Nat → m.World → Prop)
    (Own : Actor m → m.World → Prop) (start : ∀ index, Unused index m.initial)
    (begins : ∀ (actor : Actor m) world, Unused actor.index world → Own actor world)
    (unused : ∀ index (other : Actor m) world next, d.Inv world → d.Guar other world next →
      other.index ≠ index → Unused index world → Unused index next)
    (kept : ∀ (actor other : Actor m) world next, d.Inv world → d.Guar other world next →
      (other.index = actor.index → other = actor) → Own actor world → Own actor next)
    {pool : Pool m} (reachable : pool.Reachable) (found : pool.threads[index]? = some thread) :
    Own ⟨index, thread.code⟩ pool.world := by
  have attributed : Attributed d Unused Own pool := by
    have initially : Attributed d Unused Own (Pool.initial m) :=
      ⟨⟨d.initial, by simp [Pool.initial]⟩, fun index _ => start index, by simp [Pool.initial]⟩
    refine reachable.induction initially ?_
    intro pool move next before moved
    obtain ⟨held, longer, codes, stepped⟩ := before.holds.move sound moved
    have idle : ∀ index, pool.threads.length ≤ index → Unused index next.world := by
      intro index outside
      rcases stepped with same | ⟨other, thread, atOther, guar⟩
      · rw [same]
        exact before.idle index outside
      · refine unused index _ _ _ before.holds.inv guar ?_ (before.idle index outside)
        have inside := (List.getElem?_eq_some_iff.mp atOther).1
        exact Nat.ne_of_lt (Nat.lt_of_lt_of_le inside outside)
    refine ⟨held, fun index outside => idle index (Nat.le_trans longer outside), ?_⟩
    intro index thread atIndex
    rcases codes index thread atIndex with isNew | ⟨earlier, atEarlier, code⟩
    · exact begins _ _ (idle index isNew)
    · rw [← code]
      rcases stepped with same | ⟨other, _, atOther, guar⟩
      · rw [same]
        exact before.own index earlier atEarlier
      · refine kept _ _ _ _ before.holds.inv guar ?_ (before.own index earlier atEarlier)
        rintro rfl
        rw [atEarlier] at atOther
        cases atOther
        rfl
  exact attributed.own index thread found

end Discipline

end AegisRag.Semantics

import Mathlib.Logic.Function.Basic
import Mathlib.Data.Nat.Notation
import Mathlib.Data.List.Basic

/-!
# Deletion of a document during its embedding

`EmbeddingJobService.embed_job` (`packages/embeddings/service.py`) against
`DocumentLifecycleService.delete` (`packages/data/lifecycle.py`). Each transaction and each
call of the vector store is one move, any number of worker runs interleave with the deletion,
and a run may end at any point. Whether a claim is granted is left to the environment.
-/

namespace AegisRag.Data.Deletion

/-- A run of the embedding worker with the chunks it has read. -/
inductive Worker where
  | ready
  | claimed (version : ℕ) (chunks : List ℕ)
  | confirmed (version : ℕ) (chunks : List ℕ)
  | indexed (version : ℕ)
  | ended
deriving DecidableEq

/-- How far the deletion is. -/
inductive Stage where
  | idle
  | marked
  | removed
  | committed
  | rolledBack
deriving DecidableEq

inductive VectorStatus where
  | absent
  | active
  | deleted
deriving DecidableEq

/-- The chunks of each version, the vector of each chunk, the deletion and the workers. -/
structure State where
  chunks : ℕ → List ℕ
  vectors : ℕ → VectorStatus := fun _ => .absent
  deletion : Stage := .idle
  workers : ℕ → Worker := fun _ => .ready

inductive Move where
  | claim (worker version : ℕ)
  | confirm (worker : ℕ)
  | upsert (worker : ℕ)
  | finish (worker : ℕ)
  | giveUp (worker : ℕ)
  | mark
  | remove
  | commit
  | rollback
deriving DecidableEq

namespace State

def put (state : State) (worker : ℕ) (place : Worker) : State :=
  { state with workers := Function.update state.workers worker place }

@[simp] theorem put_workers (state : State) (worker other : ℕ) (place : Worker) :
    (state.put worker place).workers other =
      if other = worker then place else state.workers other := by
  simp [put, Function.update_apply]

/-- `list_chunks_for_version` for active chunks: a deletion is seen once it is committed. -/
def activeChunks (state : State) (version : ℕ) : List ℕ :=
  if state.deletion = .committed then [] else state.chunks version

/-- `upsert` makes the records of the chunks active, also those that were removed. -/
def upsert (state : State) (chunks : List ℕ) : State :=
  { state with vectors := fun chunk => if chunk ∈ chunks then .active else state.vectors chunk }

/-- `delete_by_document`. -/
def removeVectors (state : State) : State :=
  { state with
    vectors := fun chunk =>
      if state.vectors chunk = .active then .deleted else state.vectors chunk
    deletion := .removed }

def step (state : State) : Move → Option State
  | .claim worker version =>
    if state.workers worker = .ready ∧ state.deletion ≠ .committed then
      match state.activeChunks version with
      | [] => some (state.put worker .ended)
      | chunk :: rest => some (state.put worker (.claimed version (chunk :: rest)))
    else none
  | .confirm worker =>
    match state.workers worker with
    | .claimed version chunks =>
      if state.activeChunks version = chunks then
        some (state.put worker (.confirmed version chunks))
      else some (state.put worker .ended)
    | _ => none
  | .upsert worker =>
    match state.workers worker with
    | .confirmed version chunks => some ((state.upsert chunks).put worker (.indexed version))
    | _ => none
  | .finish worker =>
    match state.workers worker with
    | .indexed _ => some (state.put worker .ended)
    | _ => none
  | .giveUp worker => some (state.put worker .ended)
  | .mark => if state.deletion = .idle then some { state with deletion := .marked } else none
  | .remove => if state.deletion = .marked then some state.removeVectors else none
  | .commit =>
    if state.deletion = .removed then some { state with deletion := .committed } else none
  | .rollback =>
    if state.deletion = .marked ∨ state.deletion = .removed then
      some { state with deletion := .rolledBack }
    else none

def run : List Move → State → Option State
  | [], state => some state
  | move :: moves, state => do run moves (← state.step move)

/-- No worker stands between its second look at the chunks and its write when the vectors are
removed, or looks between the removal and the commit. -/
structure Apart (state : State) (move : Move) : Prop where
  notConfirmed : move = .remove → ∀ worker version chunks,
    state.workers worker ≠ .confirmed version chunks
  notBetween : ∀ worker, move = .confirm worker → state.deletion ≠ .removed

/-- Moves that keep the deletion and the writes of the workers apart. -/
inductive Reachable (chunks : ℕ → List ℕ) : State → Prop where
  | start : Reachable chunks { chunks := chunks }
  | step {state next : State} (reachable : Reachable chunks state) (move : Move)
      (moves : state.step move = some next) (isApart : state.Apart move) : Reachable chunks next

/-- From the removal on nobody is about to write and no vector is active. -/
structure Invariant (state : State) : Prop where
  notEmpty : ∀ worker version, state.workers worker ≠ .claimed version []
  noWriter : state.deletion = .removed ∨ state.deletion = .committed →
    ∀ worker version chunks, state.workers worker ≠ .confirmed version chunks
  noneActive : state.deletion = .removed ∨ state.deletion = .committed →
    ∀ chunk, state.vectors chunk ≠ .active

variable {state next : State}

theorem Invariant.put {worker : ℕ} {place : Worker} (invariant : Invariant state)
    (notEmpty : ∀ version, place ≠ .claimed version [])
    (noWriter : state.deletion = .removed ∨ state.deletion = .committed →
      ∀ version chunks, place ≠ .confirmed version chunks) :
    Invariant (state.put worker place) := by
  constructor
  · intro other version
    rw [put_workers]
    split
    · exact notEmpty version
    · exact invariant.notEmpty other version
  · intro isRemoved other version chunks
    rw [put_workers]
    split
    · exact noWriter isRemoved version chunks
    · exact invariant.noWriter isRemoved other version chunks
  · exact invariant.noneActive

theorem Invariant.step {move : Move} (invariant : Invariant state)
    (moves : state.step move = some next) (isApart : state.Apart move) : Invariant next := by
  cases move with
  | claim worker version =>
    simp only [State.step, Option.ite_none_right_eq_some] at moves
    obtain ⟨-, moves⟩ := moves
    split at moves <;> cases moves
    all_goals exact invariant.put nofun fun _ => nofun
  | confirm worker =>
    unfold State.step at moves
    dsimp only at moves
    split at moves
    · rename_i version chunks isClaimed
      split at moves
      · rename_i isSame
        cases moves
        refine invariant.put nofun fun isRemoved => absurd isRemoved ?_
        rintro (isRemoved | isCommitted)
        · exact isApart.notBetween worker rfl isRemoved
        · -- after the commit the second look finds no chunk
          rw [activeChunks, if_pos isCommitted] at isSame
          exact invariant.notEmpty worker version (isSame ▸ isClaimed)
      · cases moves
        exact invariant.put nofun fun _ => nofun
    · cases moves
  | upsert worker =>
    unfold State.step at moves
    dsimp only at moves
    split at moves
    · rename_i version chunks isConfirmed
      cases moves
      have notRemoved : ¬ (state.deletion = .removed ∨ state.deletion = .committed) :=
        fun isRemoved => invariant.noWriter isRemoved worker version chunks isConfirmed
      have written : Invariant (state.upsert chunks) :=
        ⟨invariant.notEmpty, fun isRemoved => absurd isRemoved notRemoved,
          fun isRemoved => absurd isRemoved notRemoved⟩
      exact written.put nofun fun _ => nofun
    · cases moves
  | finish worker =>
    unfold State.step at moves
    dsimp only at moves
    split at moves
    · cases moves
      exact invariant.put nofun fun _ => nofun
    · cases moves
  | giveUp worker =>
    cases moves
    exact invariant.put nofun fun _ => nofun
  | mark | rollback =>
    simp only [State.step, Option.ite_none_right_eq_some, Option.some.injEq] at moves
    obtain ⟨-, rfl⟩ := moves
    exact ⟨invariant.notEmpty, by simp, by simp⟩
  | remove =>
    simp only [State.step, Option.ite_none_right_eq_some, Option.some.injEq] at moves
    obtain ⟨-, rfl⟩ := moves
    refine ⟨invariant.notEmpty, fun _ => isApart.notConfirmed rfl, fun _ chunk => ?_⟩
    unfold removeVectors
    dsimp only
    split
    · nofun
    · assumption
  | commit =>
    simp only [State.step, Option.ite_none_right_eq_some, Option.some.injEq] at moves
    obtain ⟨isRemoved, rfl⟩ := moves
    exact ⟨invariant.notEmpty, fun _ => invariant.noWriter (.inl isRemoved),
      fun _ => invariant.noneActive (.inl isRemoved)⟩

end State

/-- If the deletion and the writes of the workers are kept apart, no active vector of the
document is left once the deletion is committed, whatever the workers still do. -/
theorem no_active_vector_after_deletion {chunks : ℕ → List ℕ} {state : State}
    (reachable : State.Reachable chunks state) (isDeleted : state.deletion = .committed) :
    ∀ chunk, state.vectors chunk ≠ .active := by
  have invariant : state.Invariant := by
    clear isDeleted
    induction reachable with
    | start => exact ⟨nofun, by simp, by simp⟩
    | step _ move moves isApart ih => exact ih.step moves isApart
  exact invariant.noneActive (.inr isDeleted)

/-- A worker that wrote its vectors before the deletion removed them. -/
theorem no_active_vector_after_deletion_of_indexed : ∃ state,
    State.run [.claim 0 1, .confirm 0, .upsert 0, .mark, .remove, .commit, .finish 0]
      { chunks := fun _ => [7] } = some state ∧ state.deletion = .committed ∧
    ∀ chunk, state.vectors chunk ≠ .active := by
  have initial : State.Reachable (fun _ => [7]) { chunks := fun _ => [7] } := .start
  have claimed := initial.step (.claim 0 1) rfl ⟨nofun, nofun⟩
  have indexed := (claimed.step (.confirm 0) rfl ⟨nofun, fun _ _ => nofun⟩).step (.upsert 0) rfl
    ⟨nofun, nofun⟩
  have marked := indexed.step .mark rfl ⟨nofun, nofun⟩
  have removed := marked.step .remove rfl ⟨fun _ worker => by
    match worker with
    | 0 => nofun
    | worker + 1 => nofun, nofun⟩
  have reachable := (removed.step .commit rfl ⟨nofun, nofun⟩).step (.finish 0) rfl ⟨nofun, nofun⟩
  exact ⟨_, rfl, rfl, no_active_vector_after_deletion reachable rfl⟩

/-- The whole deletion falls between a worker's second look and its write: the document is
deleted, the worker has ended, and a vector is active. -/
theorem late_upsert_survives_deletion :
    (State.run [.claim 0 1, .confirm 0, .mark, .remove, .commit, .upsert 0, .finish 0]
      { chunks := fun _ => [7] }).map
        (fun state => (state.deletion, state.workers 0, state.vectors 7)) =
      some (.committed, .ended, .active) := by
  decide

end AegisRag.Data.Deletion

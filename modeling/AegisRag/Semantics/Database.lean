import Mathlib.Data.List.AList
import Mathlib.Data.List.Induction
import Mathlib.Algebra.BigOperators.Group.List.Basic
import Mathlib.Tactic.Abel

/-!
# Read-committed transactions with row locks

A `Transaction` is a tree of statements over keyed rows. Its writes stay pending until it
commits and lock the rows they touch; a statement on a locked row waits. A plain `select`,
and a statement that finds no row to change, lock nothing. `Transaction.Safe` follows one
transaction alone, and `Database.Reachable.holds` turns such proofs into an invariant of
every interleaving.
-/

namespace AegisRag.Semantics

/-- A tree of statements that ends by committing or by rolling back. -/
inductive Transaction {κ : Type} (ρ : κ → Type) (α : Type) : Type where
  | commit (result : α)
  | rollback (result : α)
  /-- Read a row without locking it. -/
  | select (key : κ) (next : Option (ρ key) → Transaction ρ α)
  /-- Change the row of a key where `change` accepts it, and return the new row. -/
  | update (key : κ) (change : ρ key → Option (ρ key)) (next : Option (ρ key) → Transaction ρ α)
  /-- Add a row, or learn that the key is taken. -/
  | insert (key : κ) (row : ρ key) (next : Bool → Transaction ρ α)

/-- The transactions that may run against one database. -/
structure Schema where
  Key : Type
  Row : Key → Type
  Code : Type
  Result : Type
  decKey : DecidableEq Key
  body : Code → Transaction Row Result
  /-- The check constraints of a row. -/
  check : (key : Key) → Row key → Bool

namespace Schema

variable (schema : Schema)

instance : DecidableEq schema.Key := schema.decKey

/-- What is left of a session, or how it ended. -/
inductive Phase where
  | active (rest : Transaction schema.Row schema.Result)
      (pending : AList schema.Row)
  | committed (result : schema.Result)
  | rolledBack (result : schema.Result)
  | aborted

/-- One transaction and how far it has come. -/
structure Session where
  code : schema.Code
  phase : schema.Phase

/-- The rows a session has written and not yet committed; they are locked. -/
def Session.pending {schema : Schema} (session : schema.Session) : AList schema.Row :=
  match session.phase with
  | .active _ pending => pending
  | _ => ∅

/-- The committed rows and every session started so far. -/
structure Database where
  rows : AList schema.Row
  sessions : List schema.Session

/-- One scheduling decision; a session may be aborted at any time. -/
inductive Move where
  | start (code : schema.Code)
  | step (index : Nat)
  | abort (index : Nat)

namespace Database

variable {schema}

def initial (schema : Schema) : schema.Database := ⟨∅, []⟩

/-- Some session other than `index` has written the row of a key. -/
def locked (database : schema.Database) (index : Nat) (key : schema.Key) : Bool :=
  database.sessions.zipIdx.any fun (session, other) => other ≠ index ∧ key ∈ session.pending

/-- Replace what is left of one session. -/
def enter (database : schema.Database) (index : Nat) (code : schema.Code)
    (phase : schema.Phase) : schema.Database :=
  { database with sessions := database.sessions.set index ⟨code, phase⟩ }

/-- Write one row in a session, unless the row must be waited for; a violated
constraint ends the session. -/
def write (database : schema.Database) (index : Nat) (code : schema.Code)
    (pending : AList schema.Row) (key : schema.Key) (row : schema.Row key)
    (rest : Transaction schema.Row schema.Result) : Option schema.Database :=
  if database.locked index key then none
  else if schema.check key row then
    some (database.enter index code (.active rest (pending.insert key row)))
  else
    some (database.enter index code .aborted)

/-- The next statement of a session. -/
def statement (database : schema.Database) (index : Nat) (code : schema.Code)
    (pending : AList schema.Row) :
    Transaction schema.Row schema.Result → Option schema.Database
  | .commit result =>
    some { database.enter index code (.committed result) with rows := pending ∪ database.rows }
  | .rollback result => some (database.enter index code (.rolledBack result))
  | .select key next =>
    some (database.enter index code
      (.active (next ((pending ∪ database.rows).lookup key)) pending))
  | .update key change next =>
    match ((pending ∪ database.rows).lookup key).bind change with
    | some row => database.write index code pending key row (next (some row))
    | none => some (database.enter index code (.active (next none) pending))
  | .insert key row next =>
    if key ∈ pending ∪ database.rows then
      some (database.enter index code (.active (next false) pending))
    else database.write index code pending key row (next true)

def move (database : schema.Database) : schema.Move → Option schema.Database
  | .start code =>
    some { database with
      sessions := database.sessions ++ [⟨code, .active (schema.body code) ∅⟩] }
  | .step index =>
    match database.sessions[index]? with
    | some ⟨code, .active rest pending⟩ => database.statement index code pending rest
    | _ => none
  | .abort index =>
    match database.sessions[index]? with
    | some ⟨code, .active _ _⟩ => some (database.enter index code .aborted)
    | _ => none

def run : List schema.Move → schema.Database → Option schema.Database
  | [], database => some database
  | move :: rest, database => (database.move move).bind (run rest)

variable {left right : AList ρ} {session : schema.Session} {phase : schema.Phase}
  {result : schema.Result}

theorem run_append (runs : run (earlier ++ [decision]) first = some last) :
    ∃ middle, run earlier first = some middle ∧ middle.move decision = some last := by
  induction earlier generalizing first with
  | nil =>
    obtain ⟨next, moved, ended⟩ := Option.bind_eq_some_iff.mp runs
    cases ended
    exact ⟨first, rfl, moved⟩
  | cons move rest ih =>
    obtain ⟨next, moved, runs⟩ := Option.bind_eq_some_iff.mp runs
    obtain ⟨middle, ran, last⟩ := ih runs
    exact ⟨middle, Option.bind_eq_some_iff.mpr ⟨next, moved, ran⟩, last⟩

/-- A database some schedule produces. -/
def Reachable (database : schema.Database) : Prop :=
  ∃ moves, run moves (initial schema) = some database

end Database

end Schema

/-! ## Sums over the stored rows -/

section

variable {κ : Type} {ρ : κ → Type} {M : Type} [AddCommMonoid M]

/-- What the stored rows weigh together. -/
def total (weight : (key : κ) → ρ key → M) (rows : AList ρ) : M :=
  (rows.entries.map fun entry => weight entry.1 entry.2).sum

@[simp] theorem total_empty (weight : (key : κ) → ρ key → M) : total weight ∅ = 0 := rfl

variable [DecidableEq κ] (weight : (key : κ) → ρ key → M) {rows : AList ρ} {key : κ}

theorem total_insert_of_absent (row : ρ key) (absent : key ∉ rows) :
    total weight (rows.insert key row) = weight key row + total weight rows := by
  rw [total, AList.entries_insert_of_notMem absent, List.map_cons, List.sum_cons, total]

theorem total_insert_of_lookup (new : ρ key) (stored : rows.lookup key = some old) :
    total weight (rows.insert key new) + weight key old = weight key new + total weight rows := by
  have isIn : key ∈ rows.entries.keys :=
    AList.mem_keys.mp (AList.lookup_isSome.mp (by rw [stored]; rfl))
  obtain ⟨row, _, _, -, entries, erased⟩ := List.exists_of_kerase isIn
  have same : row = old := by
    have isRow : row ∈ rows.lookup key := AList.mem_lookup_iff.mpr (by rw [entries]; simp)
    rw [stored] at isRow
    exact (Option.some.inj isRow).symm
  subst same
  rw [total, total, AList.entries_insert, erased, entries]
  simp only [List.map_cons, List.map_append, List.sum_cons, List.sum_append]
  abel

end

/-! ## Verifying one transaction alone -/

section

variable {κ : Type} {ρ : κ → Type} {α : Type} [DecidableEq κ]

/-- Two databases that store the same rows under the keys a session has written. -/
def SameOn (pending left right : AList ρ) : Prop :=
  ∀ key ∈ pending, left.lookup key = right.lookup key

theorem SameOn.trans {pending middle : AList ρ} (first : SameOn pending left middle)
    (second : SameOn pending middle right) : SameOn pending left right :=
  fun key isIn => (first key isIn).trans (second key isIn)

theorem SameOn.of_insert {row : ρ key} (same : SameOn (pending.insert key row) left right) :
    SameOn pending left right :=
  fun other isIn => same other ((AList.mem_insert _).mpr (.inr isIn))

/-- A session sees the same row under each key it is about to write. -/
theorem SameOn.lookup_union {row : ρ key} (same : SameOn (pending.insert key row) left right) :
    (pending ∪ left).lookup key = (pending ∪ right).lookup key := by
  by_cases isIn : key ∈ pending
  · rw [AList.lookup_union_left isIn, AList.lookup_union_left isIn]
  · rw [AList.lookup_union_right isIn, AList.lookup_union_right isIn]
    exact same key ((AList.mem_insert _).mpr (.inl rfl))

/-- Rows written under other keys are not seen. -/
theorem SameOn.of_disjoint {pending written rows : AList ρ}
    (disjoint : ∀ key ∈ pending, key ∉ written) : SameOn pending rows (written ∪ rows) :=
  fun key isIn => (AList.lookup_union_right (disjoint key isIn)).symm

namespace Transaction

/-- Whatever the others commit, this transaction establishes `post` when it commits over
`rows`; what it only looked at stood in earlier rows with the same locked part. -/
def Safe (invariant : AList ρ → Prop) (check : (key : κ) → ρ key → Bool) (rows : AList ρ)
    (post : α → AList ρ → Prop) : Transaction ρ α → AList ρ → Prop
  | .commit result, pending => post result (pending ∪ rows)
  | .rollback _, _ => True
  | .select key next, pending =>
    ∀ earlier, invariant earlier → SameOn pending earlier rows →
      (next ((pending ∪ earlier).lookup key)).Safe invariant check rows post pending
  | .update key change next, pending =>
    (∀ old new, (pending ∪ rows).lookup key = some old → change old = some new →
      check key new = true →
        (next (some new)).Safe invariant check rows post (pending.insert key new)) ∧
    ∀ earlier, invariant earlier → SameOn pending earlier rows →
      ((pending ∪ earlier).lookup key).bind change = none →
        (next none).Safe invariant check rows post pending
  | .insert key row next, pending =>
    (key ∉ pending ∪ rows → check key row = true →
      (next true).Safe invariant check rows post (pending.insert key row)) ∧
    ∀ earlier, invariant earlier → SameOn pending earlier rows → key ∈ pending ∪ earlier →
      (next false).Safe invariant check rows post pending

end Transaction

end

/-! ## Every interleaving -/

namespace Schema

/-- What a verification of a schema fixes: an invariant of the committed rows and
what each commit does to them. -/
structure Contract (schema : Schema) where
  Inv : AList schema.Row → Prop
  Commits : schema.Code → schema.Result → AList schema.Row →
    AList schema.Row → Prop
  initial : Inv ∅
  preserved : ∀ {code result rows next}, Inv rows → Commits code result rows next → Inv next
  safe : ∀ code rows, Inv rows →
    (schema.body code).Safe Inv schema.check rows (fun result => Commits code result rows) ∅

namespace Database

variable {schema : Schema} (contract : schema.Contract)

/-- A session that keeps the contract over whatever rows it will commit to. -/
def Keeps (rows : AList schema.Row) (session : schema.Session) : Prop :=
  ∀ rest pending, session.phase = .active rest pending →
    ∀ later, contract.Inv later → SameOn pending rows later →
      rest.Safe contract.Inv schema.check later
        (fun result => contract.Commits session.code result later) pending

/-- What holds between any two statements. -/
structure Consistent (database : schema.Database) : Prop where
  inv : contract.Inv database.rows
  /-- No two sessions have written the same row. -/
  apart : ∀ {first second : Nat} {left right : schema.Session},
    database.sessions[first]? = some left →
    database.sessions[second]? = some right → first ≠ second →
      ∀ key ∈ left.pending, key ∉ right.pending
  keeps : ∀ {index : Nat} {session : schema.Session},
    database.sessions[index]? = some session → Keeps contract database.rows session

variable {contract} {database next : schema.Database} {index : Nat} {code : schema.Code}
  {rest : Transaction schema.Row schema.Result} {pending : AList schema.Row}

theorem not_mem_of_locked_eq_false (free : database.locked index key = false)
    (isThere : database.sessions[other]? = some session) (isOther : other ≠ index) :
    key ∉ session.pending := by
  intro isIn
  have isIndexed : (session, other) ∈ database.sessions.zipIdx :=
    List.mk_mem_zipIdx_iff_getElem?.mpr isThere
  have passes := List.any_eq_false.mp free _ isIndexed
  exact passes (by simp [isOther, isIn])

/-- After `enter`, the session of that index is the new one and the others are the old. -/
theorem session_of_enter
    (isThere : (database.enter index code phase).sessions[other]? = some session) :
    (other = index ∧ session = ⟨code, phase⟩) ∨
      (other ≠ index ∧ database.sessions[other]? = some session) := by
  rw [Database.enter, List.getElem?_set] at isThere
  split at isThere
  · rename_i same
    split at isThere
    · exact .inl ⟨same.symm, (Option.some.inj isThere).symm⟩
    · cases isThere
  · rename_i differ
    exact .inr ⟨Ne.symm differ, isThere⟩

/-- A session may go on as long as it writes only what nobody else has written. -/
theorem Consistent.enter (consistent : Consistent contract database)
    (isThere : database.sessions[index]? = some session)
    (free : ∀ key ∈ Session.pending ⟨code, phase⟩,
      key ∈ session.pending ∨ database.locked index key = false)
    (keeps : Keeps contract database.rows ⟨code, phase⟩) :
    Consistent contract (database.enter index code phase) := by
  have away : ∀ {other : Nat} {right : schema.Session}, other ≠ index →
      database.sessions[other]? = some right →
        ∀ key ∈ Session.pending ⟨code, phase⟩, key ∉ right.pending := by
    intro other right isOther isRight key isIn
    rcases free key isIn with wasIn | isFree
    · exact consistent.apart isThere isRight (Ne.symm isOther) key wasIn
    · exact not_mem_of_locked_eq_false isFree isRight isOther
  constructor
  · exact consistent.inv
  · intro first second left right isLeft isRight differ key isIn isInRight
    rcases session_of_enter isLeft with ⟨rfl, rfl⟩ | ⟨isFirst, wasLeft⟩
    · rcases session_of_enter isRight with ⟨rfl, rfl⟩ | ⟨isSecond, wasRight⟩
      · exact differ rfl
      · exact away isSecond wasRight key isIn isInRight
    · rcases session_of_enter isRight with ⟨rfl, rfl⟩ | ⟨isSecond, wasRight⟩
      · exact away isFirst wasLeft key isInRight isIn
      · exact consistent.apart wasLeft wasRight differ key isIn isInRight
  · intro other found isFound
    rcases session_of_enter isFound with ⟨rfl, rfl⟩ | ⟨-, isFound⟩
    · exact keeps
    · exact consistent.keeps isFound

/-- A session that has ended has nothing left to keep and no row written. -/
theorem Consistent.finish (consistent : Consistent contract database)
    (isThere : database.sessions[index]? = some session)
    (ended : ∀ rest pending, phase ≠ .active rest pending) :
    Consistent contract (database.enter index code phase) := by
  apply consistent.enter isThere
  · intro key isIn
    cases phase with
    | active rest pending => exact absurd rfl (ended rest pending)
    | committed => cases isIn
    | rolledBack => cases isIn
    | aborted => cases isIn
  · intro rest pending isActive
    exact absurd isActive (ended rest pending)

/-- Committed rows may be replaced by what one session wrote, once it has ended. -/
theorem Consistent.publish (consistent : Consistent contract database)
    {written : AList schema.Row} (inv : contract.Inv (written ∪ database.rows))
    (apart : ∀ {other : Nat} {session : schema.Session},
      database.sessions[other]? = some session → ∀ key ∈ session.pending, key ∉ written) :
    Consistent contract { database with rows := written ∪ database.rows } where
  inv := inv
  apart := consistent.apart
  keeps := by
    intro other session isThere rest pending isActive later isLater same
    apply consistent.keeps isThere rest pending isActive later isLater
    have unseen : SameOn pending database.rows (written ∪ database.rows) := by
      apply SameOn.of_disjoint
      intro key isIn
      apply apart isThere key
      rw [Session.pending, isActive]
      exact isIn
    exact unseen.trans same

theorem pending_active : Session.pending ⟨code, .active rest pending⟩ = pending := rfl

section

variable (consistent : Consistent contract database)

include consistent

theorem Consistent.proceed (isThere : database.sessions[index]? = some ⟨code, .active rest pending⟩)
    (safe : ∀ later, contract.Inv later → SameOn pending database.rows later →
      after.Safe contract.Inv schema.check later
        (fun result => contract.Commits code result later) pending) :
    Consistent contract (database.enter index code (.active after pending)) := by
  apply consistent.enter isThere
  · intro key isIn
    exact .inl isIn
  · intro rest pending isActive later isLater same
    cases isActive
    exact safe later isLater same

theorem Consistent.write (isThere : database.sessions[index]? = some ⟨code, .active rest pending⟩)
    (safe : ∀ later, contract.Inv later → SameOn (pending.insert key row) database.rows later →
      schema.check key row = true → after.Safe contract.Inv schema.check later
        (fun result => contract.Commits code result later) (pending.insert key row))
    (wrote : database.write index code pending key row after = some next) :
    Consistent contract next := by
  rw [Database.write] at wrote
  split at wrote
  · cases wrote
  · rename_i isFree
    split at wrote
    · rename_i passes
      cases wrote
      apply consistent.enter isThere
      · intro other isIn
        rw [pending_active, AList.mem_insert] at isIn
        rcases isIn with rfl | wasIn
        · exact .inr (Bool.eq_false_iff.mpr isFree)
        · exact .inl wasIn
      · intro rest pending isActive later isLater same
        cases isActive
        exact safe later isLater same passes
    · cases wrote
      exact consistent.finish isThere (by intros; simp)

/-- What a session at its commit does to the rows. -/
theorem Consistent.commits
    (isThere : database.sessions[index]? = some ⟨code, .active (.commit result) pending⟩) :
    contract.Commits code result database.rows (pending ∪ database.rows) :=
  consistent.keeps isThere _ _ rfl database.rows consistent.inv fun _ _ => rfl

theorem Consistent.statement
    (isThere : database.sessions[index]? = some ⟨code, .active rest pending⟩)
    (ran : database.statement index code pending rest = some next) : Consistent contract next := by
  have keeps := consistent.keeps isThere _ _ rfl
  cases rest with
  | commit result =>
    cases ran
    have ended : Consistent contract (database.enter index code (.committed result)) :=
      consistent.finish isThere (by intros; simp)
    apply ended.publish
    · exact contract.preserved consistent.inv (consistent.commits isThere)
    · intro other session isFound key isIn
      rcases session_of_enter isFound with ⟨rfl, rfl⟩ | ⟨isOther, wasFound⟩
      · cases isIn
      · exact consistent.apart wasFound isThere isOther key isIn
  | rollback result =>
    cases ran
    exact consistent.finish isThere (by intros; simp)
  | select key after =>
    cases ran
    apply consistent.proceed isThere
    intro later isLater same
    exact keeps later isLater same database.rows consistent.inv same
  | update key change after =>
    rw [Database.statement] at ran
    split at ran
    · rename_i row matched
      obtain ⟨old, isOld, changed⟩ := Option.bind_eq_some_iff.mp matched
      apply consistent.write isThere _ ran
      intro later isLater same passes
      apply (keeps later isLater same.of_insert).1 old row _ changed passes
      rw [← same.lookup_union, isOld]
    · rename_i unmatched
      cases ran
      apply consistent.proceed isThere
      intro later isLater same
      exact (keeps later isLater same).2 database.rows consistent.inv same unmatched
  | insert key row after =>
    rw [Database.statement] at ran
    split at ran
    · rename_i taken
      cases ran
      apply consistent.proceed isThere
      intro later isLater same
      exact (keeps later isLater same).2 database.rows consistent.inv same taken
    · rename_i absent
      apply consistent.write isThere _ ran
      intro later isLater same passes
      apply (keeps later isLater same.of_insert).1 _ passes
      rwa [← AList.lookup_eq_none, ← same.lookup_union, AList.lookup_eq_none]

end

/-- What one scheduling decision can do. -/
inductive Moved (database : schema.Database) : schema.Database → Prop where
  | started (code : schema.Code) :
      Moved database { database with
        sessions := database.sessions ++ [⟨code, .active (schema.body code) ∅⟩] }
  | committed {index : Nat} {code : schema.Code} {result : schema.Result}
      {pending : AList schema.Row}
      (isThere : database.sessions[index]? = some ⟨code, .active (.commit result) pending⟩) :
      Moved database { database.enter index code (.committed result) with
        rows := pending ∪ database.rows }
  | entered {index : Nat} {code : schema.Code} {rest : Transaction schema.Row schema.Result}
      {pending : AList schema.Row}
      (isThere : database.sessions[index]? = some ⟨code, .active rest pending⟩)
      {phase : schema.Phase} (notCommitted : ∀ result, phase ≠ .committed result) :
      Moved database (database.enter index code phase)

/-- A statement commits what the session has written, or leaves the rows as they are. -/
theorem statement_cases (ran : database.statement index code pending rest = some next) :
    (∃ result, rest = .commit result ∧
      next = { database.enter index code (.committed result) with
        rows := pending ∪ database.rows }) ∨
    ∃ phase : schema.Phase, (∀ result, phase ≠ .committed result) ∧
      next = database.enter index code phase := by
  have wrote : ∀ {key : schema.Key} {row : schema.Row key}
      {after : Transaction schema.Row schema.Result},
      database.write index code pending key row after = some next →
        ∃ phase : schema.Phase, (∀ result, phase ≠ .committed result) ∧
          next = database.enter index code phase := by
    intro key row after wrote
    rw [Database.write] at wrote
    split at wrote
    · cases wrote
    · split at wrote <;> exact ⟨_, by simp, (Option.some.inj wrote).symm⟩
  cases rest with
  | commit result => exact .inl ⟨result, rfl, (Option.some.inj ran).symm⟩
  | rollback | select => exact .inr ⟨_, by simp, (Option.some.inj ran).symm⟩
  | update key change after =>
    rw [Database.statement] at ran
    split at ran
    · exact .inr (wrote ran)
    · exact .inr ⟨_, by simp, (Option.some.inj ran).symm⟩
  | insert key row after =>
    rw [Database.statement] at ran
    split at ran
    · exact .inr ⟨_, by simp, (Option.some.inj ran).symm⟩
    · exact .inr (wrote ran)

theorem moved_of_move (moved : database.move decision = some next) : Moved database next := by
  cases decision with
  | start code =>
    cases moved
    exact .started code
  | step index =>
    rw [Database.move] at moved
    split at moved
    · rename_i code rest pending isThere
      rcases statement_cases moved with ⟨_, rfl, rfl⟩ | ⟨_, notCommitted, rfl⟩
      · exact .committed isThere
      · exact .entered isThere notCommitted
    · cases moved
  | abort index =>
    rw [Database.move] at moved
    split at moved
    · rename_i code rest pending isThere
      cases moved
      exact .entered isThere (by simp)
    · cases moved

/-- A session that has committed did so before, or just now with what it had written,
while the others stayed where they were. -/
theorem Moved.committed_session (moved : Moved database next)
    (isThere : next.sessions[index]? = some ⟨code, .committed result⟩) :
    database.sessions[index]? = some ⟨code, .committed result⟩ ∨
      ∃ pending, database.sessions[index]? = some ⟨code, .active (.commit result) pending⟩ ∧
        next.rows = pending ∪ database.rows ∧
        ∀ other ≠ index, next.sessions[other]? = database.sessions[other]? := by
  cases moved with
  | started code =>
    rw [List.getElem?_append] at isThere
    split at isThere
    · exact .inl isThere
    · cases List.mem_singleton.mp (List.mem_of_getElem? isThere)
  | committed wasThere =>
    rcases session_of_enter isThere with ⟨rfl, same⟩ | ⟨-, stays⟩
    · cases same
      refine .inr ⟨_, wasThere, rfl, ?_⟩
      intro other differs
      exact List.getElem?_set_ne (Ne.symm differs)
    · exact .inl stays
  | entered wasThere notCommitted =>
    rcases session_of_enter isThere with ⟨rfl, same⟩ | ⟨-, stays⟩
    · cases same
      exact absurd rfl (notCommitted result)
    · exact .inl stays

/-- The committed rows change only by what a session at its commit has written. -/
theorem Moved.rows (moved : Moved database next) :
    next.rows = database.rows ∨
      ∃ (index : Nat) (code : schema.Code) (result : schema.Result) (pending : AList schema.Row),
      database.sessions[index]? = some ⟨code, .active (.commit result) pending⟩ ∧
        next.rows = pending ∪ database.rows := by
  cases moved with
  | started code => exact .inl rfl
  | committed isThere => exact .inr ⟨_, _, _, _, isThere, rfl⟩
  | entered isThere notCommitted => exact .inl rfl

theorem Consistent.move (consistent : Consistent contract database)
    (moved : database.move decision = some next) : Consistent contract next := by
  cases decision with
  | start code =>
    cases moved
    have pendingNew : ∀ {index : Nat} {session : schema.Session},
        (database.sessions ++ [⟨code, .active (schema.body code) ∅⟩])[index]? = some session →
          database.sessions[index]? = some session ∨
            session = ⟨code, .active (schema.body code) ∅⟩ := by
      intro index session isThere
      rw [List.getElem?_append] at isThere
      split at isThere
      · exact .inl isThere
      · exact .inr (List.mem_singleton.mp (List.mem_of_getElem? isThere))
    constructor
    · exact consistent.inv
    · intro first second left right isLeft isRight differ key isIn isInRight
      rcases pendingNew isLeft with wasLeft | rfl
      · rcases pendingNew isRight with wasRight | rfl
        · exact consistent.apart wasLeft wasRight differ key isIn isInRight
        · cases isInRight
      · cases isIn
    · intro index session isThere
      rcases pendingNew isThere with wasThere | rfl
      · exact consistent.keeps wasThere
      · intro rest pending isActive later isLater same
        cases isActive
        exact contract.safe code later isLater
  | step index =>
    rw [Database.move] at moved
    split at moved
    · rename_i code rest pending isThere
      exact consistent.statement isThere moved
    · cases moved
  | abort index =>
    rw [Database.move] at moved
    split at moved
    · rename_i code rest pending isThere
      cases moved
      exact consistent.finish isThere (by intros; simp)
    · cases moved

/-- A schedule that can be performed and leads where a test says. -/
theorem exists_of_run (property : schema.Database → Prop) [DecidablePred property]
    (moves : List schema.Move)
    (passes : (run moves (initial schema)).any
      (fun database => decide (property database)) = true) :
    ∃ database : schema.Database, database.Reachable ∧ property database := by
  cases performed : run moves (initial schema) with
  | none =>
    rw [performed] at passes
    cases passes
  | some database =>
    rw [performed] at passes
    exact ⟨database, ⟨moves, performed⟩, of_decide_eq_true passes⟩

/-- What holds initially and is kept by every decision holds of every reachable database. -/
theorem Reachable.induction {property : schema.Database → Prop} (start : property (initial schema))
    (step : ∀ {database next : schema.Database} {decision : schema.Move}, database.Reachable →
      property database → database.move decision = some next → property next)
    (reachable : database.Reachable) : property database := by
  obtain ⟨moves, runs⟩ := reachable
  -- the schedule performed so far grows from the back, so that each prefix is reachable
  induction moves using List.reverseRecOn generalizing database with
  | nil =>
    cases runs
    exact start
  | append_singleton earlier decision ih =>
    obtain ⟨_, ran, moved⟩ := run_append runs
    exact step ⟨earlier, ran⟩ (ih ran) moved

/-- A contract that every transaction keeps on its own holds in every interleaving. -/
theorem Reachable.consistent (contract : schema.Contract) (reachable : database.Reachable) :
    Consistent contract database := by
  apply reachable.induction
  · constructor
    · exact contract.initial
    · intro first second left right isLeft
      cases isLeft
    · intro index session isThere
      cases isThere
  · intro database next decision _ consistent moved
    exact consistent.move moved

/-- The invariant holds of the committed rows, whatever is still pending. -/
theorem Reachable.holds (contract : schema.Contract) (reachable : database.Reachable) :
    contract.Inv database.rows :=
  (reachable.consistent contract).inv

/-- What a commit does to the rows that stand when it happens. -/
theorem Reachable.commits (contract : schema.Contract) (reachable : database.Reachable)
    (isThere : database.sessions[index]? = some ⟨code, .active (.commit result) pending⟩) :
    contract.Commits code result database.rows (pending ∪ database.rows) :=
  (reachable.consistent contract).commits isThere

end Database

end Schema

end AegisRag.Semantics

import AegisRag.Semantics.Database

/-!
# Transactions that never overlap

What a read-committed transaction has merely read may be gone when it commits. Where
transactions that are open at the same time touch different rows, every commit is what
the transaction does alone on the rows that stand when it commits.
-/

namespace AegisRag.Semantics

namespace Transaction

variable {κ : Type} {ρ : κ → Type} {α : Type} [DecidableEq κ] {check : (key : κ) → ρ key → Bool}

/-- What a transaction returns and has written when nothing else happens; none if it rolls
back or violates a constraint. -/
def alone (check : (key : κ) → ρ key → Bool) (rows : AList ρ) :
    Transaction ρ α → AList ρ → Option (α × AList ρ)
  | .commit result, pending => some (result, pending)
  | .rollback _, _ => none
  | .select key next, pending => (next ((pending ∪ rows).lookup key)).alone check rows pending
  | .update key change next, pending =>
    match ((pending ∪ rows).lookup key).bind change with
    | some row =>
      if check key row then (next (some row)).alone check rows (pending.insert key row)
      else none
    | none => (next none).alone check rows pending
  | .insert key row next, pending =>
    if key ∈ pending ∪ rows then (next false).alone check rows pending
    else if check key row then (next true).alone check rows (pending.insert key row)
    else none

/-- Every statement is about a key of the footprint. -/
def Touches (footprint : κ → Prop) : Transaction ρ α → Prop
  | .commit _ => True
  | .rollback _ => True
  | .select key next => footprint key ∧ ∀ answer, (next answer).Touches footprint
  | .update key _ next => footprint key ∧ ∀ answer, (next answer).Touches footprint
  | .insert key _ next => footprint key ∧ ∀ answer, (next answer).Touches footprint

theorem lookup_union_congr {pending left right : AList ρ}
    (same : left.lookup key = right.lookup key) :
    (pending ∪ left).lookup key = (pending ∪ right).lookup key := by
  by_cases isIn : key ∈ pending
  · rw [AList.lookup_union_left isIn, AList.lookup_union_left isIn]
  · rw [AList.lookup_union_right isIn, AList.lookup_union_right isIn, same]

/-- A transaction depends only on the rows of its footprint. -/
theorem alone_congr {footprint : κ → Prop}
    (same : ∀ key, footprint key → left.lookup key = right.lookup key)
    {transaction : Transaction ρ α} (touches : transaction.Touches footprint) (pending : AList ρ) :
    transaction.alone check left pending = transaction.alone check right pending := by
  induction transaction generalizing pending with
  | commit result => rfl
  | rollback result => rfl
  | select key next ih =>
    rw [alone, alone, lookup_union_congr (same key touches.1)]
    exact ih _ (touches.2 _) pending
  | update key change next ih =>
    rw [alone, alone, lookup_union_congr (same key touches.1)]
    split
    · split
      · exact ih _ (touches.2 _) _
      · rfl
    · exact ih _ (touches.2 _) pending
  | insert key row next ih =>
    have seen : key ∈ pending ∪ left ↔ key ∈ pending ∪ right := by
      rw [← AList.lookup_isSome, ← AList.lookup_isSome, lookup_union_congr (same key touches.1)]
    rw [alone, alone]
    simp only [seen]
    split
    · exact ih _ (touches.2 _) pending
    · split
      · exact ih _ (touches.2 _) _
      · rfl

end Transaction

namespace Schema.Database

variable {schema : Schema} {footprint : schema.Code → schema.Key → Prop}
  {database next : schema.Database} {index : Nat} {code : schema.Code}
  {rest : Transaction schema.Row schema.Result} {pending : AList schema.Row}

/-- The session has begun and not ended. -/
def Open (database : schema.Database) (index : Nat) (code : schema.Code) : Prop :=
  ∃ rest pending, database.sessions[index]? = some ⟨code, .active rest pending⟩

/-- Sessions that are open at the same time touch different rows. -/
def Exclusive (footprint : schema.Code → schema.Key → Prop) (database : schema.Database) : Prop :=
  ∀ first second left right, database.Open first left → database.Open second right →
    first ≠ second → ∀ key, footprint left key → ¬ footprint right key

/-- A database reached without overlap. -/
inductive ExclusiveRun (footprint : schema.Code → schema.Key → Prop) :
    schema.Database → Prop where
  | initial : ExclusiveRun footprint (initial schema)
  | move {database next : schema.Database} {decision : schema.Move}
      (run : ExclusiveRun footprint database) (moved : database.move decision = some next)
      (exclusive : Exclusive footprint next) : ExclusiveRun footprint next

/-- An open session stands where it would stand if it had run alone on the present rows. -/
structure AsAlone (footprint : schema.Code → schema.Key → Prop)
    (rows : AList schema.Row) (code : schema.Code)
    (rest : Transaction schema.Row schema.Result) (pending : AList schema.Row) : Prop where
  same : (schema.body code).alone schema.check rows ∅ = rest.alone schema.check rows pending
  touches : rest.Touches (footprint code)
  written : ∀ key ∈ pending, footprint code key

theorem ExclusiveRun.exclusive (run : ExclusiveRun footprint database) :
    Exclusive footprint database := by
  cases run with
  | initial =>
    rintro first second left right ⟨_, _, isThere⟩
    cases isThere
  | move run moved exclusive => exact exclusive

/-- What a statement leaves of a session that goes on stands as if it had run alone. -/
theorem AsAlone.statement (asAlone : AsAlone footprint database.rows code rest pending)
    (ran : database.statement index code pending rest = some next) {same : schema.Code}
    {written : AList schema.Row}
    (isThere : next.sessions[index]? = some ⟨same, .active after written⟩) :
    AsAlone footprint next.rows same after written := by
  have entered : ∀ {phase : schema.Phase}, next = database.enter index code phase →
      same = code ∧ phase = .active after written ∧ next.rows = database.rows := by
    rintro phase rfl
    rcases session_of_enter isThere with ⟨-, isNew⟩ | ⟨differs, -⟩
    · cases isNew
      exact ⟨rfl, rfl, rfl⟩
    · exact absurd rfl differs
  obtain ⟨alike, touches, inside⟩ := asAlone
  have wrote : ∀ {key : schema.Key} {row : schema.Row key}
      {go : Transaction schema.Row schema.Result},
      database.write index code pending key row go = some next → footprint code key →
        go.Touches (footprint code) →
        (schema.body code).alone schema.check database.rows ∅ =
          (if schema.check key row then
            go.alone schema.check database.rows (pending.insert key row) else none) →
        AsAlone footprint next.rows same after written := by
    intro key row go wrote mine goes alike
    rw [Database.write] at wrote
    split at wrote
    · cases wrote
    · split at wrote
      · rename_i passes
        obtain ⟨rfl, isNew, sameRows⟩ := entered (Option.some.inj wrote).symm
        cases isNew
        rw [if_pos passes] at alike
        rw [sameRows]
        refine ⟨alike, goes, ?_⟩
        intro other isIn
        rcases (AList.mem_insert _).mp isIn with rfl | wasIn
        · exact mine
        · exact inside other wasIn
      · cases (entered (Option.some.inj wrote).symm).2.1
  cases rest with
  | commit result =>
    cases ran
    rcases session_of_enter isThere with ⟨-, isNew⟩ | ⟨differs, -⟩
    · cases isNew
    · exact absurd rfl differs
  | rollback result => cases (entered (Option.some.inj ran).symm).2.1
  | select key go =>
    obtain ⟨rfl, isNew, sameRows⟩ := entered (Option.some.inj ran).symm
    cases isNew
    rw [sameRows]
    exact ⟨alike, touches.2 _, inside⟩
  | update key change go =>
    rw [Transaction.alone] at alike
    rw [Database.statement] at ran
    split at ran
    · rename_i row matched
      rw [matched] at alike
      exact wrote ran touches.1 (touches.2 _) alike
    · rename_i unmatched
      rw [unmatched] at alike
      obtain ⟨rfl, isNew, sameRows⟩ := entered (Option.some.inj ran).symm
      cases isNew
      rw [sameRows]
      exact ⟨alike, touches.2 _, inside⟩
  | insert key row go =>
    rw [Transaction.alone] at alike
    rw [Database.statement] at ran
    split at ran
    · rename_i taken
      rw [if_pos taken] at alike
      obtain ⟨rfl, isNew, sameRows⟩ := entered (Option.some.inj ran).symm
      cases isNew
      rw [sameRows]
      exact ⟨alike, touches.2 _, inside⟩
    · rename_i absent
      rw [if_neg absent] at alike
      exact wrote ran touches.1 (touches.2 _) alike

/-- Rows outside its footprint do not concern a session. -/
theorem AsAlone.publish {rows written : AList schema.Row}
    (asAlone : AsAlone footprint rows code rest pending)
    (touches : (schema.body code).Touches (footprint code))
    (apart : ∀ key ∈ written, ¬ footprint code key) :
    AsAlone footprint (written ∪ rows) code rest pending := by
  have unseen : ∀ key, footprint code key →
      rows.lookup key = (written ∪ rows).lookup key := by
    intro key mine
    rw [AList.lookup_union_right]
    intro isIn
    exact apart key isIn mine
  refine ⟨?_, asAlone.touches, asAlone.written⟩
  rw [← Transaction.alone_congr unseen touches, ← Transaction.alone_congr unseen asAlone.touches]
  exact asAlone.same

theorem ExclusiveRun.asAlone (touches : ∀ code, (schema.body code).Touches (footprint code))
    (run : ExclusiveRun footprint database)
    (isThere : database.sessions[index]? = some ⟨code, .active rest pending⟩) :
    AsAlone footprint database.rows code rest pending := by
  induction run generalizing index code rest pending with
  | initial => cases isThere
  | @move database next decision run moved exclusive ih =>
    cases decision with
    | start newCode =>
      cases moved
      rw [List.getElem?_append] at isThere
      split at isThere
      · exact ih isThere
      · cases List.mem_singleton.mp (List.mem_of_getElem? isThere)
        exact ⟨rfl, touches _, fun key isIn => absurd isIn (AList.notMem_empty key)⟩
    | abort other =>
      rw [Database.move] at moved
      split at moved
      · cases moved
        rcases session_of_enter isThere with ⟨-, isNew⟩ | ⟨-, stays⟩
        · cases isNew
        · exact ih stays
      · cases moved
    | step other =>
      rw [Database.move] at moved
      split at moved
      · rename_i stepCode stepRest stepPending stepThere
        have stepper := ih stepThere
        by_cases mine : index = other
        · subst mine
          exact stepper.statement moved isThere
        · rcases statement_cases moved with ⟨_, -, rfl⟩ | ⟨_, -, rfl⟩
          · rcases session_of_enter isThere with ⟨same, -⟩ | ⟨-, stays⟩
            · exact absurd same mine
            · apply (ih stays).publish (touches code)
              intro key isIn
              exact run.exclusive other index stepCode code ⟨_, _, stepThere⟩ ⟨_, _, stays⟩
                (Ne.symm mine) key (stepper.written key isIn)
          · rcases session_of_enter isThere with ⟨same, -⟩ | ⟨-, stays⟩
            · exact absurd same mine
            · exact ih stays
      · cases moved

/-- In a run without overlap every commit is the whole transaction at that moment. -/
theorem ExclusiveRun.commits (touches : ∀ code, (schema.body code).Touches (footprint code))
    (run : ExclusiveRun footprint database)
    (isThere : database.sessions[index]? = some ⟨code, .active (.commit result) pending⟩) :
    (schema.body code).alone schema.check database.rows ∅ = some (result, pending) :=
  (run.asAlone touches isThere).same

/-- The session has not ended. -/
def isOpen (session : schema.Session) : Bool :=
  match session.phase with
  | .active .. => true
  | _ => false

/-- Where at most one session is open there is no overlap. -/
theorem exclusive_of_countP_le_one (alone : database.sessions.countP isOpen ≤ 1) :
    Exclusive footprint database := by
  rintro first second left right ⟨firstRest, firstPending, isFirst⟩
    ⟨secondRest, secondPending, isSecond⟩ differs
  have twice : ∀ {sessions : List schema.Session} {low high : Nat} {one other : schema.Session},
      low < high → sessions[low]? = some one → sessions[high]? = some other → isOpen one = true →
        isOpen other = true → 2 ≤ sessions.countP isOpen := by
    intro sessions low high one other below isOne isOther oneOpen otherOpen
    have split := List.take_append_drop high sessions
    have early : one ∈ sessions.take high :=
      List.mem_of_getElem? ((List.getElem?_take_of_lt below).trans isOne)
    have late : other ∈ sessions.drop high := by
      apply List.mem_of_getElem? (i := 0)
      rw [List.getElem?_drop, Nat.add_zero, isOther]
    have countEarly := List.countP_pos_iff.mpr ⟨one, early, oneOpen⟩
    have countLate := List.countP_pos_iff.mpr ⟨other, late, otherOpen⟩
    rw [← split, List.countP_append]
    omega
  rcases Nat.lt_or_gt_of_ne differs with below | above
  · have := twice below isFirst isSecond rfl rfl
    omega
  · have := twice above isSecond isFirst rfl rfl
    omega

/-- Perform a schedule as long as at most one session is open. -/
def runOneByOne : List schema.Move → schema.Database → Option schema.Database
  | [], database => some database
  | move :: rest, database =>
    match database.move move with
    | some next => if next.sessions.countP isOpen ≤ 1 then runOneByOne rest next else none
    | none => none

/-- A schedule that opens one session at a time and leads where a test says. -/
theorem exists_of_runOneByOne (property : schema.Database → Prop) [DecidablePred property]
    (moves : List schema.Move) (passes : (runOneByOne moves (Database.initial schema)).any
      (fun database => decide (property database)) = true) :
    ∃ database : schema.Database, ExclusiveRun footprint database ∧ property database := by
  have general : ∀ (moves : List schema.Move) (first : schema.Database),
      ExclusiveRun footprint first →
        (runOneByOne moves first).any (fun database => decide (property database)) = true →
          ∃ database : schema.Database, ExclusiveRun footprint database ∧ property database := by
    intro moves
    induction moves with
    | nil =>
      intro first run passes
      exact ⟨first, run, of_decide_eq_true passes⟩
    | cons move rest ih =>
      intro first run passes
      rw [runOneByOne] at passes
      split at passes
      · rename_i next moved
        split at passes
        · rename_i alone
          exact ih next (.move run moved (exclusive_of_countP_le_one alone)) passes
        · cases passes
      · cases passes
  exact general moves _ .initial passes

end Schema.Database

end AegisRag.Semantics

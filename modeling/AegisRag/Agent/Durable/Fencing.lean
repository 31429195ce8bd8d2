import AegisRag.Agent.Durable.Store

/-!
# Fencing of one durable run

A `Chronicle` is a run cell with every snapshot its private row ever stored,
newest first. Workers issue any transaction at any time with any clock reading,
against a snapshot the store handed out. A stale owner is fenced by its token,
and by the revision where a claim moves it; both rest on `Chronicle.Fenced`: the
committed snapshots form a chain by revision whose head is the stored row.
-/

namespace AegisRag.Agent.Durable

open Semantics RunCell

/-- The store transactions on one run, by the arguments a worker supplies. -/
inductive Operation where
  | create (snapshot : DurableSnapshot)
  | createKeyed (snapshot : DurableSnapshot) (token : String) (now leaseSeconds : Seconds)
  | acquire (snapshot : DurableSnapshot) (token : String) (now leaseSeconds : Seconds)
      (activateBudget : Bool)
  | renew (snapshot : DurableSnapshot) (token : String) (now leaseSeconds : Seconds)
  | release (snapshot : DurableSnapshot) (token : String)
  | save (previous snapshot : DurableSnapshot) (token : String) (now : Seconds)
      (entry : Option ToolLedgerEntry)
  | cancel (previous : DurableSnapshot) (now : Seconds) (ownership : Option String)
      (allowUnclaimed : Bool)
  | graphPut (snapshot : DurableSnapshot) (token : String) (now : Seconds)
      (checkpointId : String) (checkpoint metadata : Json) (parentId : Option String)
  | graphWrites (snapshot : DurableSnapshot) (token : String) (now : Seconds)
      (checkpointId : String) (writes : List GraphWrite)
  | purge (tenantId : String) (now : Seconds)

namespace Operation

/-- The stored snapshot an operation is issued against. -/
def subject : Operation → Option DurableSnapshot
  | .create _ | .createKeyed .. | .purge .. => none
  | .acquire snapshot .. | .renew snapshot .. | .release snapshot .. => some snapshot
  | .save previous .. | .cancel previous .. => some previous
  | .graphPut snapshot .. | .graphWrites snapshot .. => some snapshot

def inserted : Operation → Option DurableSnapshot
  | .create snapshot | .createKeyed snapshot .. => some snapshot
  | _ => none

def insertToken : Operation → Option String
  | .createKeyed _ token .. => some token
  | _ => none

def insertedLease : Operation → Option Seconds
  | .createKeyed _ _ now leaseSeconds => some (now + leaseSeconds)
  | _ => none

def claimToken : Operation → Option String
  | .acquire _ token .. => some token
  | _ => none

/-- The operations that move the revision: every save and cancel, and the claim
of a run with an active budget. -/
def advances : Operation → Bool
  | .save .. | .cancel .. => true
  | .acquire snapshot .. => snapshot.activeBudget.isSome
  | _ => false

/-- The operations that may leave every row of the run as it is. -/
def keeps : Operation → Bool
  | .createKeyed .. | .graphPut .. | .graphWrites .. | .purge .. => true
  | _ => false

/-- The token a save or a graph write must hold. -/
def writer : Operation → Option String
  | .save _ _ token .. | .graphPut _ token .. | .graphWrites _ token .. => some token
  | _ => none

/-- The token on whose behalf a release or an ownership-checked cancel acts. -/
def relinquisher : Operation → Option String
  | .release _ token => some token
  | .cancel _ _ ownership _ => ownership
  | _ => none

end Operation

/-- A run cell and the snapshots its private row has stored, newest first. -/
structure Chronicle where
  cell : RunCell
  committed : List DurableSnapshot

namespace Chronicle

def initial : Chronicle := ⟨.empty, []⟩

/-- One committed transaction and the snapshot it returns. -/
def perform (codec : Codec) (chronicle : Chronicle) :
    Operation → Except Failure (Option DurableSnapshot × Chronicle)
  | .create snapshot => do
    let cell ← chronicle.cell.create codec snapshot
    return (some snapshot, ⟨cell, snapshot :: chronicle.committed⟩)
  | .createKeyed snapshot token now leaseSeconds => do
    let (inserted, cell) ← chronicle.cell.insertKeyed codec snapshot token now leaseSeconds
    if inserted then return (some snapshot, ⟨cell, snapshot :: chronicle.committed⟩)
    else return (none, ⟨cell, chronicle.committed⟩)
  | .acquire snapshot token now leaseSeconds activateBudget => do
    let (saved, cell) ←
      chronicle.cell.acquire codec snapshot token now leaseSeconds activateBudget
    if snapshot.activeBudget.isSome then
      return (some saved, ⟨cell, saved :: chronicle.committed⟩)
    else return (some saved, ⟨cell, chronicle.committed⟩)
  | .renew snapshot token now leaseSeconds => do
    let cell ← chronicle.cell.renew snapshot token now leaseSeconds
    return (none, { chronicle with cell })
  | .release snapshot token =>
    return (none, { chronicle with cell := chronicle.cell.release snapshot token })
  | .save previous snapshot token now entry => do
    let (saved, cell) ← chronicle.cell.save codec previous snapshot token now entry
    return (some saved, ⟨cell, saved :: chronicle.committed⟩)
  | .cancel previous now ownership allowUnclaimed => do
    let (saved, cell) ← chronicle.cell.cancel codec previous now ownership allowUnclaimed
    return (some saved, ⟨cell, saved :: chronicle.committed⟩)
  | .graphPut snapshot token now checkpointId checkpoint metadata parentId => do
    let cell ←
      chronicle.cell.graphPut snapshot token now checkpointId checkpoint metadata parentId
    return (none, { chronicle with cell })
  | .graphWrites snapshot token now checkpointId writes => do
    let cell ← chronicle.cell.graphWrites snapshot token now checkpointId writes
    return (none, { chronicle with cell })
  | .purge tenantId now =>
    if chronicle.cell.purgeable tenantId now then
      return (none, { chronicle with cell := chronicle.cell.purge tenantId })
    else return (none, chronicle)

/-- What each transaction does when it commits. -/
inductive Performed (codec : Codec) (chronicle : Chronicle) :
    Operation → Option DurableSnapshot → Chronicle → Prop
  | inserted {operation : Operation} (inserts : operation.inserted = some snapshot)
      (added : chronicle.cell.addNew codec snapshot operation.insertToken operation.insertedLease =
        .ok (some after)) :
      Performed codec chronicle operation (some snapshot) ⟨after, snapshot :: chronicle.committed⟩
  | acquired {next : Chronicle} (acquired : chronicle.cell.acquire codec snapshot token now
        leaseSeconds activateBudget = .ok (saved, next.cell))
      (committed : next.committed = if snapshot.activeBudget.isSome then
        saved :: chronicle.committed else chronicle.committed) :
      Performed codec chronicle (.acquire snapshot token now leaseSeconds activateBudget)
        (some saved) next
  | renewed (renewed : chronicle.cell.renew snapshot token now leaseSeconds = .ok after) :
      Performed codec chronicle (.renew snapshot token now leaseSeconds) none
        { chronicle with cell := after }
  | released : Performed codec chronicle (.release snapshot token) none
      { chronicle with cell := chronicle.cell.release snapshot token }
  | saved (committed : chronicle.cell.save codec previous snapshot token now entry =
        .ok (saved, after)) :
      Performed codec chronicle (.save previous snapshot token now entry) (some saved)
        ⟨after, saved :: chronicle.committed⟩
  | cancelled (committed : chronicle.cell.cancel codec previous now ownership allowUnclaimed =
        .ok (saved, after)) :
      Performed codec chronicle (.cancel previous now ownership allowUnclaimed) (some saved)
        ⟨after, saved :: chronicle.committed⟩
  | purged (expired : chronicle.cell.purgeable tenantId now = true) :
      Performed codec chronicle (.purge tenantId now) none
        { chronicle with cell := chronicle.cell.purge tenantId }
  | kept {operation : Operation} {checkpoints : List GraphCheckpoint}
      (keeps : operation.keeps = true) :
      Performed codec chronicle operation none
        { chronicle with cell := { chronicle.cell with checkpoints } }

variable {codec : Codec} {chronicle next : Chronicle} {snapshot : DurableSnapshot} {row : RunRow}
  {cell : RunCell} {operation : Operation}

theorem perform_acquire
    (performed : chronicle.perform codec (.acquire snapshot token now leaseSeconds activateBudget) =
      .ok (returned, next)) :
    ∃ saved, chronicle.cell.acquire codec snapshot token now leaseSeconds activateBudget =
      .ok (saved, next.cell) ∧ returned = some saved ∧
      next.committed = if snapshot.activeBudget.isSome then saved :: chronicle.committed
        else chronicle.committed := by
  obtain ⟨⟨saved, cell⟩, acquired, rest⟩ := bind_ok.mp performed
  by_cases active : snapshot.activeBudget.isSome = true
  · simp only [active, if_true, pure_ok] at rest
    obtain ⟨rfl, rfl⟩ := rest
    exact ⟨saved, acquired, rfl, by simp [active]⟩
  · simp only [active, if_false, pure_ok,
      Bool.false_eq_true] at rest
    obtain ⟨rfl, rfl⟩ := rest
    exact ⟨saved, acquired, rfl, by simp [active]⟩

theorem perform_save
    (performed : chronicle.perform codec (.save previous snapshot token now entry) =
      .ok (returned, next)) :
    ∃ saved, chronicle.cell.save codec previous snapshot token now entry =
      .ok (saved, next.cell) ∧ returned = some saved ∧
      next.committed = saved :: chronicle.committed := by
  obtain ⟨⟨saved, cell⟩, committed, rest⟩ := bind_ok.mp performed
  cases rest
  exact ⟨saved, committed, rfl, rfl⟩

theorem perform_cancel
    (performed : chronicle.perform codec (.cancel previous now ownership allowUnclaimed) =
      .ok (returned, next)) :
    ∃ saved, chronicle.cell.cancel codec previous now ownership allowUnclaimed =
      .ok (saved, next.cell) ∧ returned = some saved ∧
      next.committed = saved :: chronicle.committed := by
  obtain ⟨⟨saved, cell⟩, committed, rest⟩ := bind_ok.mp performed
  cases rest
  exact ⟨saved, committed, rfl, rfl⟩

theorem perform_ok (performed : chronicle.perform codec operation = .ok (returned, next)) :
    Performed codec chronicle operation returned next := by
  cases operation with
  | create snapshot =>
    obtain ⟨cell, created, rest⟩ := bind_ok.mp performed
    cases rest
    exact .inserted rfl (create_ok created)
  | createKeyed snapshot token now leaseSeconds =>
    obtain ⟨⟨_, cell⟩, answered, rest⟩ := bind_ok.mp performed
    obtain ⟨_, ⟨rfl, added⟩ | ⟨rfl, rfl⟩⟩ := insertKeyed_ok answered
    · cases rest
      exact .inserted rfl added
    · cases rest
      exact .kept rfl
  | acquire snapshot token now leaseSeconds activateBudget =>
    obtain ⟨saved, acquired, rfl, committed⟩ := perform_acquire performed
    exact .acquired acquired committed
  | renew snapshot token now leaseSeconds =>
    obtain ⟨cell, renewed, rest⟩ := bind_ok.mp performed
    cases rest
    exact .renewed renewed
  | release snapshot token =>
    cases performed
    exact .released
  | save previous snapshot token now entry =>
    obtain ⟨⟨saved, cell⟩, committed, rest⟩ := bind_ok.mp performed
    cases rest
    exact .saved committed
  | cancel previous now ownership allowUnclaimed =>
    obtain ⟨⟨saved, cell⟩, committed, rest⟩ := bind_ok.mp performed
    cases rest
    exact .cancelled committed
  | graphPut snapshot token now checkpointId checkpoint metadata parentId =>
    obtain ⟨cell, put, rest⟩ := bind_ok.mp performed
    cases rest
    obtain ⟨⟨checkpoints, rfl⟩, _⟩ := graphPut_ok put
    exact .kept rfl
  | graphWrites snapshot token now checkpointId writes =>
    obtain ⟨cell, written, rest⟩ := bind_ok.mp performed
    cases rest
    obtain ⟨⟨checkpoints, rfl⟩, _⟩ := graphWrites_ok written
    exact .kept rfl
  | purge tenantId now =>
    simp only [perform] at performed
    split at performed <;> cases performed
    · exact .purged (by assumption)
    · exact .kept rfl

/-- A transaction that raises leaves the tables alone. -/
def step (codec : Codec) (chronicle : Chronicle) (operation : Operation) : Chronicle :=
  match chronicle.perform codec operation with
  | .ok (_, next) => next
  | .error _ => chronicle

/-- The snapshot an operation is issued against was handed out by the store. -/
def Knows (chronicle : Chronicle) (operation : Operation) : Prop :=
  ∀ snapshot ∈ operation.subject, snapshot ∈ chronicle.committed

/-- The states some interleaving of workers' transactions leads to. -/
inductive Reachable (codec : Codec) : Chronicle → Prop
  | initial : Reachable codec .initial
  | step {chronicle : Chronicle} {operation : Operation} (reachable : Reachable codec chronicle)
      (known : chronicle.Knows operation) : Reachable codec (chronicle.step codec operation)

/-- Committed snapshots step down by one revision, and the stored row is the newest. -/
structure Fenced (chronicle : Chronicle) : Prop where
  chain : chronicle.committed.IsChain fun newer older => newer.revision = older.revision + 1
  stored : ∀ row, chronicle.cell.run = some row →
    chronicle.committed.head? = some row.snapshot ∧ row.revision = row.snapshot.revision ∧
      row.status = row.snapshot.status
  /-- The legacy primary key outlives the private row. -/
  tombstone : chronicle.committed ≠ [] → chronicle.cell.legacy.isSome

/-! ## The chain -/

theorem revisions_descend {committed : List DurableSnapshot}
    (chain : committed.IsChain fun newer older => newer.revision = older.revision + 1) :
    committed.Pairwise fun newer older => older.revision < newer.revision := by
  have descending : committed.IsChain fun newer older => older.revision < newer.revision := by
    refine chain.imp ?_
    intro newer older next
    omega
  exact List.isChain_iff_pairwise.mp descending

theorem eq_of_revision {committed : List DurableSnapshot}
    (chain : committed.IsChain fun newer older => newer.revision = older.revision + 1)
    (hasFirst : first ∈ committed) (hasSecond : second ∈ committed)
    (same : first.revision = second.revision) : first = second := by
  have descend := revisions_descend chain
  induction committed with
  | nil => simp at hasFirst
  | cons head tail ih =>
    rw [List.pairwise_cons] at descend
    rcases List.mem_cons.mp hasFirst with rfl | inTail <;>
      rcases List.mem_cons.mp hasSecond with rfl | alsoInTail
    · rfl
    · have below := descend.1 second alsoInTail
      omega
    · have below := descend.1 first inTail
      omega
    · exact ih chain.tail inTail alsoInTail descend.2

/-- A known snapshot at the stored revision is the stored snapshot. -/
theorem Fenced.current (fenced : chronicle.Fenced) (found : chronicle.cell.run = some row)
    (known : snapshot ∈ chronicle.committed) (revision : row.revision = snapshot.revision) :
    row.snapshot = snapshot := by
  obtain ⟨head, column, _⟩ := fenced.stored row found
  exact eq_of_revision fenced.chain (List.mem_of_head? head) known (by omega)

/-- Where the primary key is free, nothing was ever stored. -/
theorem Fenced.fresh (fenced : chronicle.Fenced) (absent : chronicle.cell.legacy = none) :
    chronicle.committed = [] := by
  by_contra nonempty
  have tombstone := fenced.tombstone nonempty
  simp [absent] at tombstone

/-- Committing above the stored snapshot extends the chain. -/
theorem Fenced.extend (fenced : chronicle.Fenced) (found : chronicle.cell.run = some row)
    (next : saved.revision = row.revision + 1) (stored : ∀ row, cell.run = some row →
      row.snapshot = saved ∧ row.revision = saved.revision ∧ row.status = saved.status)
    (tombstone : cell.legacy.isSome = chronicle.cell.legacy.isSome) :
    Fenced ⟨cell, saved :: chronicle.committed⟩ := by
  obtain ⟨head, column, _⟩ := fenced.stored row found
  have nonempty : chronicle.committed ≠ [] := by
    intro isEmpty
    simp [isEmpty] at head
  refine ⟨?_, ?_, ?_⟩
  · rw [List.isChain_cons]
    refine ⟨?_, fenced.chain⟩
    intro older isHead
    rw [head, Option.mem_some_iff] at isHead
    subst isHead
    omega
  · intro current currentFound
    obtain ⟨same, revision, status⟩ := stored current currentFound
    exact ⟨by rw [same]; rfl, by rw [same, revision], by rw [same, status]⟩
  · intro _
    simp only [tombstone]
    exact fenced.tombstone nonempty

theorem Fenced.frame (fenced : chronicle.Fenced)
    (columns : ∀ row, cell.run = some row → ∃ old, chronicle.cell.run = some old ∧
      row.snapshot = old.snapshot ∧ row.revision = old.revision ∧ row.status = old.status)
    (tombstone : cell.legacy.isSome = chronicle.cell.legacy.isSome) :
    Fenced { chronicle with cell } := by
  refine ⟨fenced.chain, ?_, ?_⟩
  · intro row found
    obtain ⟨old, oldFound, snapshot, revision, status⟩ := columns row found
    obtain ⟨head, column, oldStatus⟩ := fenced.stored old oldFound
    exact ⟨by rw [snapshot]; exact head, by rw [snapshot, revision]; exact column,
      by rw [snapshot, status]; exact oldStatus⟩
  · intro nonempty
    simp only [tombstone]
    exact fenced.tombstone nonempty

/-! ## What one transaction does -/

/-- The step of a committed save, cancel or active-budget claim: it was issued
against exactly the stored snapshot and stored the next revision. -/
structure Advanced (chronicle : Chronicle) (operation : Operation) (next : Chronicle) : Prop where
  holds : ∃ row saved current, chronicle.cell.run = some row ∧
    operation.subject = some row.snapshot ∧ saved.revision = row.revision + 1 ∧
    next.committed = saved :: chronicle.committed ∧ next.cell.run = some current ∧
    current.snapshot = saved ∧ current.revision = saved.revision ∧
    current.status = saved.status
  tombstone : next.cell.legacy.isSome = chronicle.cell.legacy.isSome

/-- The step of every other committed transaction on an existing run: no
snapshot column of the row changes, though a purge may drop the row. -/
structure Kept (chronicle next : Chronicle) : Prop where
  committed : next.committed = chronicle.committed
  columns : ∀ row, next.cell.run = some row → ∃ old, chronicle.cell.run = some old ∧
    row.snapshot = old.snapshot ∧ row.revision = old.revision ∧ row.status = old.status
  tombstone : next.cell.legacy.isSome = chronicle.cell.legacy.isSome

/-- The step of a committed insert: no run was ever stored under this id. -/
structure Created (chronicle next : Chronicle) : Prop where
  absent : chronicle.cell.legacy = none ∧ chronicle.cell.run = none
  holds : ∃ snapshot current, next.committed = snapshot :: chronicle.committed ∧
    next.cell.run = some current ∧ current.snapshot = snapshot ∧
    current.revision = snapshot.revision ∧ current.status = snapshot.status
  tombstone : next.cell.legacy.isSome

theorem Kept.of_run (run : cell.run = chronicle.cell.run)
    (legacy : cell.legacy.isSome = chronicle.cell.legacy.isSome) :
    Kept chronicle { chronicle with cell } := by
  refine ⟨rfl, ?_, legacy⟩
  intro row found
  exact ⟨row, by rw [← run]; exact found, rfl, rfl, rfl⟩

theorem Created.of_addNew {token : Option String} {leaseUntil : Option Seconds}
    (inserted : chronicle.cell.addNew codec snapshot token leaseUntil = .ok (some cell)) :
    Created chronicle ⟨cell, snapshot :: chronicle.committed⟩ := by
  obtain ⟨legacyAbsent, runAbsent, _, _, ⟨_, stored, _⟩, run⟩ := addNew_some inserted
  exact ⟨⟨legacyAbsent, runAbsent⟩, ⟨snapshot, _, rfl, run, rfl, rfl, rfl⟩, by simp [stored]⟩

theorem perform_cases (fenced : chronicle.Fenced) (known : chronicle.Knows operation)
    (performed : chronicle.perform codec operation = .ok (returned, next)) :
    if operation.advances then Advanced chronicle operation next
    else Kept chronicle next ∨ Created chronicle next := by
  cases perform_ok performed with
  | inserted inserts added =>
    rw [if_neg (by cases operation <;> simp [Operation.inserted, Operation.advances] at inserts ⊢)]
    exact Or.inr (Created.of_addNew added)
  | @acquired snapshot token now leaseSeconds activateBudget saved next acquired committed =>
    obtain ⟨row, found, claimable, cell, outcome⟩ := acquire_ok acquired
    simp only [RunCell.claimable, Bool.and_eq_true, beq_iff_eq, Bool.not_eq_true',
      decide_eq_true_eq] at claimable
    have current : row.snapshot = snapshot :=
      fenced.current found (known snapshot rfl) claimable.1.1.1.2
    have columns := (fenced.stored row found).2
    rcases outcome with ⟨wallClock, rfl⟩ | ⟨_, active, _, rfl⟩
    · simp only [Operation.advances, wallClock, Option.isSome_none, Bool.false_eq_true, if_false]
        at committed ⊢
      refine Or.inl ⟨committed, ?_, by rw [cell]⟩
      rw [cell]
      rintro _ ⟨⟩
      exact ⟨row, found, by simp [claimRow, wallClock],
        by simp [claimRow, wallClock], by simp [claimRow, wallClock]⟩
    · simp only [Operation.advances, active, Option.isSome_some, if_true] at committed ⊢
      refine ⟨⟨row, _, _, found, by rw [current]; rfl, ?_, committed, by rw [cell], ?_⟩,
        by rw [cell]⟩
      · simp [DurableSnapshot.claimed, claimable.1.1.1.2]
      · have status : row.status = snapshot.status := by rw [columns.2, current]
        simp [claimRow, active, DurableSnapshot.claimed, status]
  | renewed renewed =>
    obtain ⟨row, found, _, _, _, rfl⟩ := renew_ok renewed
    refine Or.inl ⟨rfl, ?_, rfl⟩
    rintro _ ⟨⟩
    exact ⟨row, found, rfl, rfl, rfl⟩
  | @released snapshot token =>
    rcases release_cases snapshot token chronicle.cell with
      unchanged | ⟨row, found, _, _, changed⟩
    · rw [unchanged]
      exact Or.inl (Kept.of_run rfl rfl)
    · rw [changed]
      refine Or.inl ⟨rfl, ?_, rfl⟩
      rintro _ ⟨⟩
      exact ⟨row, found, rfl, rfl, rfl⟩
  | saved committed =>
    obtain ⟨row, _, found, savable, settled, _, rfl⟩ := save_ok committed
    simp only [RunCell.savable, Bool.and_eq_true, beq_iff_eq] at savable
    have current := fenced.current found (known _ rfl) savable.1.1.2
    refine ⟨⟨row, _, _, found, by rw [current]; rfl, ?_, rfl, rfl, rfl, rfl, rfl⟩, by simp⟩
    rw [savedSnapshot_frame settled, savable.1.1.2]
  | cancelled committed =>
    obtain ⟨row, found, cancellable, settled, rfl⟩ := cancel_ok committed
    simp only [RunCell.cancellable, Bool.and_eq_true, beq_iff_eq] at cancellable
    have current := fenced.current found (known _ rfl) cancellable.1.2
    refine ⟨⟨row, _, _, found, by rw [current]; rfl, ?_, rfl, rfl, rfl, rfl, ?_⟩, by simp⟩
    · rw [cancelledSnapshot_frame settled, cancellable.1.2]
    · rw [cancelledSnapshot_frame settled]
  | purged expired =>
    refine Or.inl ⟨rfl, ?_, rfl⟩
    intro row found
    simp [RunCell.purge] at found
  | kept keeps =>
    rw [if_neg (by cases operation <;> simp [Operation.keeps, Operation.advances] at keeps ⊢)]
    exact Or.inl (Kept.of_run rfl rfl)

theorem Fenced.step (fenced : chronicle.Fenced) (known : chronicle.Knows operation) :
    (chronicle.step codec operation).Fenced := by
  unfold Chronicle.step
  split
  · rename_i returned next performed
    have effect := perform_cases fenced known performed
    split at effect
    · obtain ⟨row, saved, current, found, _, revision, committed, run, snapshot, column, status⟩ :=
        effect.holds
      have stored : ∀ other, next.cell.run = some other → other.snapshot = saved ∧
          other.revision = saved.revision ∧ other.status = saved.status := by
        intro other otherFound
        obtain rfl : current = other := by
          rw [run] at otherFound
          exact Option.some.inj otherFound
        exact ⟨snapshot, column, status⟩
      have extended := fenced.extend found revision stored effect.tombstone
      rw [← committed] at extended
      exact extended
    · rcases effect with kept | created
      · have framed := fenced.frame kept.columns kept.tombstone
        rw [← kept.committed] at framed
        exact framed
      · obtain ⟨snapshot, current, committed, run, same, revision, status⟩ := created.holds
        have fresh := fenced.fresh created.absent.1
        refine ⟨?_, ?_, fun _ => created.tombstone⟩
        · simp [committed, fresh]
        · intro row found
          obtain rfl : current = row := by
            rw [run] at found
            exact Option.some.inj found
          exact ⟨by rw [committed, same]; rfl, by rw [same, revision], by rw [same, status]⟩
  · exact fenced

theorem Fenced.initial : Fenced .initial := by
  refine ⟨List.IsChain.nil, ?_, ?_⟩
  · intro row found
    simp [Chronicle.initial, RunCell.empty] at found
  · intro nonempty
    simp [Chronicle.initial] at nonempty

theorem Reachable.fenced (reachable : Reachable codec chronicle) : chronicle.Fenced := by
  induction reachable with
  | initial => exact Fenced.initial
  | step _ known ih => exact ih.step known

/-! ## Tokens -/

/-- A save or a graph write commits only under the caller's own current token. -/
theorem perform_writer (performed : chronicle.perform codec operation = .ok (returned, next))
    (writes : operation.writer = some token) :
    ∃ row, chronicle.cell.run = some row ∧ row.leaseToken = some token := by
  have ownToken {row : RunRow} {now : Seconds} (held : row.heldBy token now = true) :
      row.leaseToken = some token := by
    simp only [RunRow.heldBy, Bool.and_eq_true, beq_iff_eq] at held
    exact held.1
  cases operation with
  | save previous snapshot writer now entry =>
    obtain rfl : writer = token := Option.some.inj writes
    obtain ⟨⟨_, cell⟩, committed, _⟩ := bind_ok.mp performed
    obtain ⟨row, _, found, savable, _⟩ := save_ok committed
    simp only [RunCell.savable, Bool.and_eq_true] at savable
    exact ⟨row, found, ownToken savable.1.2⟩
  | graphPut snapshot writer now checkpointId checkpoint metadata parentId =>
    obtain rfl : writer = token := Option.some.inj writes
    obtain ⟨cell, put, _⟩ := bind_ok.mp performed
    obtain ⟨_, row, found, _, held⟩ := graphPut_ok put
    exact ⟨row, found, ownToken held⟩
  | graphWrites snapshot writer now checkpointId writes =>
    obtain rfl : writer = token := Option.some.inj writes
    obtain ⟨cell, written, _⟩ := bind_ok.mp performed
    obtain ⟨_, row, found, _, held⟩ := graphWrites_ok written
    exact ⟨row, found, ownToken held⟩
  | create | createKeyed | acquire | renew | release | cancel | purge =>
    simp [Operation.writer] at writes

/-- A release or ownership-checked cancel leaves another worker's row alone. -/
theorem step_relinquisher (acts : operation.relinquisher = some token)
    (found : chronicle.cell.run = some row) (owner : row.leaseToken = some other)
    (differs : other ≠ token) :
    (chronicle.step codec operation).cell.run = some row := by
  cases operation with
  | release snapshot releaser =>
    obtain rfl : releaser = token := Option.some.inj acts
    rcases release_cases snapshot releaser chronicle.cell with
      unchanged | ⟨own, ownFound, _, holds, _⟩
    · simp [Chronicle.step, perform, unchanged, found]
    · obtain rfl : row = own := by
        rw [found] at ownFound
        exact Option.some.inj ownFound
      rw [owner] at holds
      exact absurd (Option.some.inj holds) differs
  | cancel previous now ownership allowUnclaimed =>
    obtain rfl : ownership = some token := acts
    unfold Chronicle.step
    split
    · rename_i returned next performed
      obtain ⟨⟨_, cell⟩, committed, _⟩ := bind_ok.mp performed
      obtain ⟨own, ownFound, cancellable, _⟩ := cancel_ok committed
      obtain rfl : row = own := by
        rw [found] at ownFound
        exact Option.some.inj ownFound
      simp [RunCell.cancellable, RunCell.ownershipGuard, RunCell.ownedBy, owner, differs]
        at cancellable
    · exact found
  | create | createKeyed | acquire | renew | save | graphPut | graphWrites | purge =>
    simp [Operation.relinquisher] at acts

/-- In every interleaving, committed snapshots form one chain by revision, writes
need the current token, and no worker gives up another worker's claim. -/
theorem committed_snapshots_chain (codec : Codec) {chronicle : Chronicle}
    (reachable : Reachable codec chronicle) :
    (chronicle.committed.IsChain fun newer older => newer.revision = older.revision + 1) ∧
    (chronicle.committed.map (·.revision)).Nodup ∧
    (∀ row, chronicle.cell.run = some row →
      chronicle.committed.head? = some row.snapshot ∧ row.revision = row.snapshot.revision) ∧
    ∀ operation, chronicle.Knows operation →
      (∀ returned next, chronicle.perform codec operation = .ok (returned, next) →
        (operation.advances = true → Advanced chronicle operation next) ∧
        (operation.advances = false → Kept chronicle next ∨
          chronicle.committed = [] ∧ Created chronicle next) ∧
        ∀ token, operation.writer = some token →
          ∃ row, chronicle.cell.run = some row ∧ row.leaseToken = some token) ∧
      ∀ token other row, operation.relinquisher = some token →
        chronicle.cell.run = some row → row.leaseToken = some other → other ≠ token →
        (chronicle.step codec operation).cell.run = some row := by
  have fenced := reachable.fenced
  refine ⟨fenced.chain, ?_, ?_, ?_⟩
  · have descend := revisions_descend fenced.chain
    rw [List.Nodup, List.pairwise_map]
    refine descend.imp ?_
    intro newer older below same
    omega
  · intro row found
    have columns := fenced.stored row found
    exact ⟨columns.1, columns.2.1⟩
  · intro operation known
    constructor
    · intro returned next performed
      have effect := perform_cases fenced known performed
      refine ⟨?_, ?_, ?_⟩
      · intro advances
        simpa [advances] using effect
      · intro keeps
        simp only [keeps, Bool.false_eq_true, if_false] at effect
        rcases effect with kept | created
        · exact Or.inl kept
        · exact Or.inr ⟨fenced.fresh created.absent.1, created⟩
      · intro token writes
        exact perform_writer performed writes
    · intro token other row acts found owner differs
      exact step_relinquisher acts found owner differs

/-- A codec that keeps nothing of what it encodes. -/
def plainCodec : Codec where
  sha256 _ := ""
  uuid5 _ := ""
  uuidVersion _ := 5
  uuid5_version _ := rfl
  snapshotBytes _ := 0
  jsonBytes _ := 0

/-- An inline run with an active budget, as `start` builds it at time 0. -/
def activeRun : DurableSnapshot :=
  DurableAgentService.newSnapshot {} ⟨"request", "trace", ⟨"tenant", "user", ["agent:run"]⟩⟩
    { input := "question", budgetMode := .active } "run" none 0

/-- The newest snapshot the store has handed out. -/
def latest (chronicle : Chronicle) : DurableSnapshot := chronicle.committed.headD activeRun

theorem latest_mem (stored : chronicle.committed.isEmpty = false) :
    chronicle.latest ∈ chronicle.committed := by
  unfold latest
  cases committed : chronicle.committed with
  | nil => simp [committed] at stored
  | cons head tail => exact List.mem_cons_self

/-- The run after its creation and a first claim. -/
def claimedRun : Chronicle :=
  (initial.step plainCodec (.create activeRun)).step plainCodec
    (.acquire activeRun "worker" 1 30 true)

/-- Another worker claims the run once that lease is over. -/
def reclaimedRun : Chronicle :=
  claimedRun.step plainCodec (.acquire claimedRun.latest "rival" 40 30 true)

theorem committed_snapshots_chain_reclaimed :
    (reclaimedRun.committed.map (·.revision) = [2, 1, 0] ∧
      (reclaimedRun.committed.map (·.revision)).Nodup) ∧
    ∃ row, reclaimedRun.cell.run = some row ∧ row.leaseToken = some "rival" ∧
      (reclaimedRun.step plainCodec (.release reclaimedRun.latest "worker")).cell.run =
        some row := by
  have created : Reachable plainCodec (initial.step plainCodec (.create activeRun)) :=
    .step .initial (by intro snapshot issued; cases issued)
  have claimed : Reachable plainCodec claimedRun := by
    refine .step created ?_
    rintro snapshot ⟨⟩
    exact List.mem_singleton.mpr rfl
  have reclaimed : Reachable plainCodec reclaimedRun := by
    refine .step claimed ?_
    rintro snapshot ⟨⟩
    exact latest_mem (by decide +kernel)
  have known : reclaimedRun.Knows (.release reclaimedRun.latest "worker") := by
    rintro snapshot ⟨⟩
    exact latest_mem (by decide +kernel)
  have chain := committed_snapshots_chain plainCodec reclaimed
  have leased : reclaimedRun.cell.run.bind (·.leaseToken) = some "rival" := by decide +kernel
  obtain ⟨row, found, owner⟩ := Option.bind_eq_some_iff.mp leased
  exact ⟨⟨by decide +kernel, chain.2.1⟩, row, found, owner,
    (chain.2.2.2 _ known).2 "worker" "rival" row rfl found owner (by decide)⟩

end Chronicle

end AegisRag.Agent.Durable

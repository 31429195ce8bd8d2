import AegisRag.Agent.Durable.Dto

/-!
# Transactional CAS/lease storage

`packages/agent/storage/durable.py`, one transaction at a time. A `RunCell` is
what the tables hold under one run id: the legacy row, the private row with its
lease, the tool ledger and the graph checkpoints. A transaction either raises and
leaves the cell alone, or returns the new cell.
-/

namespace AegisRag.Agent.Durable

open Semantics

/-- `SNAPSHOT_VERSION`. -/
def snapshotVersion : Nat := 1

/-- A row of `durable_agent_runs`; its id is the key of its cell. -/
structure RunRow where
  tenantId : String
  userId : String
  schemaVersion : Nat
  status : DurableStatus
  revision : Nat
  snapshot : DurableSnapshot
  expiresAt : Seconds
  leaseToken : Option String
  leaseUntil : Option Seconds

/-- A row of the legacy audit table, the tombstone of a purged run. -/
structure LegacyRow where
  tenantId : String
  userId : String
  keyedStart : Bool
  status : DurableStatus
  stepsUsed : Nat
  toolCallsUsed : Nat
  errorCode : Option String
  terminationReason : Option String
  latencyMs : Option Seconds

/-- A row of `durable_tool_ledger`; the call id and status columns mirror the entry. -/
structure LedgerRow where
  tenantId : String
  userId : String
  entry : ToolLedgerEntry

/-- One pending write of a graph checkpoint, keyed by task and index. -/
structure GraphWrite where
  taskId : String
  index : Int
  value : Json

/-- A row of `durable_graph_checkpoints`. -/
structure GraphCheckpoint where
  tenantId : String
  userId : String
  checkpointId : String
  checkpoint : Json
  metadata : Json
  parentId : Option String
  writes : List GraphWrite

/-- What the tables hold under one run id. -/
structure RunCell where
  legacy : Option LegacyRow
  run : Option RunRow
  ledger : List LedgerRow
  checkpoints : List GraphCheckpoint

def RunCell.empty : RunCell := ⟨none, none, [], []⟩

/-- `_scope`, for a row found under the snapshot's run id. -/
def RunRow.inScope (row : RunRow) (snapshot : DurableSnapshot) : Bool :=
  row.schemaVersion == snapshotVersion && row.tenantId == snapshot.tenantId &&
    row.userId == snapshot.userId

/-- Whether a lease is absent or over at `now`. -/
def RunRow.leaseFree (row : RunRow) (now : Seconds) : Bool :=
  row.leaseUntil.all (· ≤ now)

/-- Whether `token` holds a lease that is unexpired at `now`. -/
def RunRow.heldBy (row : RunRow) (token : String) (now : Seconds) : Bool :=
  row.leaseToken == some token && row.leaseUntil.any (now < ·)

variable {codec : Codec} {snapshot : DurableSnapshot} {cell after : RunCell} {token : String}
  {now leaseSeconds : Seconds} {tenantId userId runId : String}
  {value previous saved : DurableSnapshot}

theorem Codec.persisted_ok (fits : codec.persisted snapshot = .ok payload) :
    payload = snapshot := by
  unfold Codec.persisted at fits
  split at fits
  · simp at fits
  · simpa using fits.symm

@[simp] theorem pure_eq (value : α) : (pure value : Except Failure α) = .ok value := rfl

theorem pure_ok {first second : α × β} : (pure first : Except Failure (α × β)) = .ok second ↔
    first.1 = second.1 ∧ first.2 = second.2 := by
  rw [pure_eq, Except.ok.injEq, Prod.ext_iff]

theorem bind_ok {β : Type} {rest : α → Except Failure β} {result : β} :
    (first >>= rest) = .ok result ↔ ∃ value, first = .ok value ∧ rest value = .ok result := by
  cases first with
  | error raised => simp [bind, Except.bind]
  | ok value => simp [bind, Except.bind]

namespace RunCell

/-- An `UPDATE ... WHERE` that must touch exactly one row. -/
def guardedUpdate (guard : RunRow → Bool) (change : RunRow → RunRow) (failure : Failure)
    (cell : RunCell) : Except Failure RunCell :=
  match cell.run with
  | none => .error failure
  | some row =>
    if guard row then .ok { cell with run := some (change row) } else .error failure

theorem guardedUpdate_ok {guard : RunRow → Bool} {failure : Failure} :
    guardedUpdate guard change failure cell = .ok after ↔
      ∃ row, cell.run = some row ∧ guard row = true ∧
        after = { cell with run := some (change row) } := by
  unfold guardedUpdate
  cases found : cell.run with
  | none => simp
  | some row =>
    by_cases holds : guard row = true
    · simp only [holds, if_true, Except.ok.injEq, Option.some.injEq, exists_eq_left',
        true_and]
      exact eq_comm
    · simp [holds]

theorem guardedUpdate_error {guard : RunRow → Bool} {failure raised : Failure}
    (refused : guardedUpdate guard change failure cell = .error raised) :
    raised = failure := by
  unfold guardedUpdate at refused
  split at refused
  · simpa using refused.symm
  · split at refused
    · simp at refused
    · simpa using refused.symm

/-! ## Creation -/

/-- `_add_new` in its own transaction; `none` is a violated primary key. -/
def addNew (codec : Codec) (snapshot : DurableSnapshot) (token : Option String)
    (leaseUntil : Option Seconds) (cell : RunCell) : Except Failure (Option RunCell) := do
  let payload ← codec.persisted snapshot
  if cell.legacy.isSome || cell.run.isSome then
    return none
  return some { cell with
    legacy := some {
      tenantId := snapshot.tenantId
      userId := snapshot.userId
      keyedStart := snapshot.startup.isSome
      status := .running
      stepsUsed := 0
      toolCallsUsed := 0
      errorCode := none
      terminationReason := none
      latencyMs := none }
    run := some {
      tenantId := snapshot.tenantId
      userId := snapshot.userId
      schemaVersion := snapshotVersion
      status := snapshot.status
      revision := snapshot.revision
      snapshot := payload
      expiresAt := snapshot.expiresAt
      leaseToken := token
      leaseUntil := leaseUntil } }

/-- The cell an insert leaves: both rows are new, the other tables untouched. -/
theorem addNew_some {token : Option String}
    (inserted : cell.addNew codec snapshot token leaseUntil = .ok (some after)) :
    cell.legacy = none ∧ cell.run = none ∧ after.ledger = cell.ledger ∧
      after.checkpoints = cell.checkpoints ∧
      (∃ legacy, after.legacy = some legacy ∧ legacy.tenantId = snapshot.tenantId ∧
        legacy.userId = snapshot.userId ∧ legacy.keyedStart = snapshot.startup.isSome ∧
        legacy.status = .running) ∧
      after.run = some {
        tenantId := snapshot.tenantId
        userId := snapshot.userId
        schemaVersion := snapshotVersion
        status := snapshot.status
        revision := snapshot.revision
        snapshot := snapshot
        expiresAt := snapshot.expiresAt
        leaseToken := token
        leaseUntil := leaseUntil } := by
  unfold addNew at inserted
  obtain ⟨_, fits, written⟩ := bind_ok.mp inserted
  obtain rfl := Codec.persisted_ok fits
  cases legacyFound : cell.legacy with
  | some legacy => simp [legacyFound] at written
  | none =>
    cases runFound : cell.run with
    | some row => simp [legacyFound, runFound] at written
    | none =>
      simp only [legacyFound, runFound, Option.isSome_none, Bool.or_self, pure_eq,
        Except.ok.injEq, Option.some.injEq, Bool.false_eq_true, if_false] at written
      subst written
      exact ⟨rfl, rfl, rfl, rfl, ⟨_, rfl, rfl, rfl, rfl, rfl⟩, rfl⟩

/-- `create`: an unkeyed insert reports a violated key as unavailable storage. -/
def create (codec : Codec) (snapshot : DurableSnapshot) (cell : RunCell) :
    Except Failure RunCell := do
  match ← cell.addNew codec snapshot none none with
  | some after => return after
  | none => throw .storageUnavailable

theorem create_ok (created : cell.create codec snapshot = .ok after) :
    cell.addNew codec snapshot none none = .ok (some after) := by
  unfold create at created
  obtain ⟨inserted, found, rest⟩ := bind_ok.mp created
  cases inserted with
  | none => simp at rest
  | some value =>
    simp only [pure_eq, Except.ok.injEq] at rest
    rw [found, rest]

/-- The insert of `create_keyed`; a violated key is answered by a fresh lookup. -/
def insertKeyed (codec : Codec) (snapshot : DurableSnapshot) (token : String)
    (now leaseSeconds : Seconds) (cell : RunCell) : Except Failure (Bool × RunCell) :=
  if snapshot.startup.isNone then .error (.durable "DURABLE_START_PROTOCOL_INVALID")
  else do
    match ← cell.addNew codec snapshot (some token) (some (now + leaseSeconds)) with
    | some after => return (true, after)
    | none => return (false, cell)

/-- A keyed insert writes the new rows, or finds its key used and writes nothing. -/
theorem insertKeyed_ok {inserted : Bool}
    (answered : cell.insertKeyed codec snapshot token now leaseSeconds = .ok (inserted, after)) :
    snapshot.startup.isSome ∧
      (inserted = true ∧ cell.addNew codec snapshot (some token) (some (now + leaseSeconds)) =
          .ok (some after) ∨
        inserted = false ∧ after = cell) := by
  unfold insertKeyed at answered
  cases startup : snapshot.startup with
  | none => simp [startup] at answered
  | some value =>
    simp only [startup, Option.isNone_some, Bool.false_eq_true, if_false] at answered
    obtain ⟨outcome, found, rest⟩ := bind_ok.mp answered
    cases outcome with
    | none =>
      simp only [pure_ok] at rest
      exact ⟨rfl, Or.inr ⟨rest.1.symm, rest.2.symm⟩⟩
    | some value =>
      simp only [pure_ok] at rest
      exact ⟨rfl, Or.inl ⟨rest.1.symm, by rw [found, rest.2]⟩⟩

/-! ## Reads -/

/-- `_validated_snapshot`. -/
def validatedSnapshot (row : RunRow) (tenantId userId runId : String) :
    Except Failure DurableSnapshot :=
  if row.schemaVersion ≠ snapshotVersion then
    .error (.durable "DURABLE_SCHEMA_UNSUPPORTED")
  else if !row.snapshot.accepted then
    .error (.durable "DURABLE_SNAPSHOT_INVALID")
  else if row.snapshot.revision = row.revision ∧ row.snapshot.status = row.status ∧
      row.snapshot.runId = runId ∧ row.snapshot.tenantId = tenantId ∧
      row.snapshot.userId = userId then
    .ok row.snapshot
  else .error (.durable "DURABLE_SNAPSHOT_INVALID")

theorem validatedSnapshot_ok :
    validatedSnapshot row tenantId userId runId = .ok value ↔
      row.schemaVersion = snapshotVersion ∧ row.snapshot.accepted = true ∧
        (row.snapshot.revision = row.revision ∧ row.snapshot.status = row.status ∧
          row.snapshot.runId = runId ∧ row.snapshot.tenantId = tenantId ∧
          row.snapshot.userId = userId) ∧ value = row.snapshot := by
  unfold validatedSnapshot
  by_cases version : row.schemaVersion = snapshotVersion
  · by_cases accepted : row.snapshot.accepted = true
    · simp only [version, accepted, ne_eq, not_true_eq_false, if_false, Bool.not_true,
        Bool.false_eq_true, true_and]
      split
      · rename_i columns
        simp [columns, eq_comm]
      · rename_i columns
        simp [columns]
    · simp [version, accepted]
  · simp [version]

/-- `lookup_keyed`: the private row or its tombstone, in one statement. -/
def lookupKeyed (tenantId userId runId : String) (cell : RunCell) :
    Except Failure (Option DurableSnapshot) :=
  match cell.legacy with
  | none => .ok none
  | some legacy =>
    if legacy.tenantId ≠ tenantId ∨ legacy.userId ≠ userId then .ok none
    else if !legacy.keyedStart then .error (.durable "DURABLE_START_KEY_COLLISION")
    else
      match cell.run with
      | none => .error (.domain ⟨"DURABLE_RUN_EXPIRED", 410⟩)
      | some row =>
        -- The outer join drops a private row of another owner.
        if row.tenantId ≠ tenantId ∨ row.userId ≠ userId then
          .error (.domain ⟨"DURABLE_RUN_EXPIRED", 410⟩)
        else
          match validatedSnapshot row tenantId userId runId with
          | .error failure => .error failure
          | .ok value =>
            if value.startup.isNone then
              .error (.durable "DURABLE_START_PROTOCOL_INVALID")
            else .ok (some value)

theorem lookupKeyed_some (found : cell.lookupKeyed tenantId userId runId = .ok (some value)) :
    value.startup.isSome ∧ ∃ row, cell.run = some row ∧
      validatedSnapshot row tenantId userId runId = .ok value := by
  unfold lookupKeyed at found
  cases legacyFound : cell.legacy with
  | none => simp [legacyFound] at found
  | some legacy =>
    cases runFound : cell.run with
    | none =>
      simp only [legacyFound, runFound] at found
      split at found
      · simp at found
      · split at found <;> simp at found
    | some row =>
      simp only [legacyFound, runFound] at found
      split at found
      · simp at found
      split at found
      · simp at found
      split at found
      · simp at found
      split at found
      · simp at found
      · rename_i snapshot validated
        split at found
        · simp at found
        · rename_i keyed
          obtain rfl : snapshot = value := by simpa using found
          refine ⟨?_, row, rfl, validated⟩
          cases startup : snapshot.startup with
          | none => simp [startup] at keyed
          | some startup => rfl

/-- The legacy half of `load`, reached when no private row is in scope. -/
def loadMissing (tenantId userId : String) (cell : RunCell) : Failure :=
  if cell.legacy.any fun legacy =>
      legacy.tenantId == tenantId && legacy.userId == userId && legacy.keyedStart then
    .domain ⟨"DURABLE_RUN_EXPIRED", 410⟩
  else .domain ⟨"DURABLE_RUN_NOT_FOUND", 404⟩

/-- `load`. -/
def load (tenantId userId runId : String) (cell : RunCell) : Except Failure DurableSnapshot :=
  match cell.run with
  | none => .error (cell.loadMissing tenantId userId)
  | some row =>
    if row.tenantId = tenantId ∧ row.userId = userId then
      validatedSnapshot row tenantId userId runId
    else .error (cell.loadMissing tenantId userId)

theorem load_ok (loaded : cell.load tenantId userId runId = .ok value) :
    ∃ row, cell.run = some row ∧
      validatedSnapshot row tenantId userId runId = .ok value := by
  unfold load at loaded
  split at loaded
  · simp at loaded
  · rename_i row found
    split at loaded
    · exact ⟨row, found, loaded⟩
    · simp at loaded

/-- The owner-scoped row of `owns`: held by `token`, or unclaimed where that is allowed. -/
def ownedBy (token : String) (allowUnclaimed : Bool) (row : RunRow) : Bool :=
  row.leaseToken == some token || (allowUnclaimed && row.leaseToken.isNone && row.revision == 0)

/-- `owns`. -/
def owns (snapshot : DurableSnapshot) (token : String) (allowUnclaimed : Bool)
    (cell : RunCell) : Bool :=
  cell.run.any fun row => row.inScope snapshot && ownedBy token allowUnclaimed row

/-- Whether a ledger row is the one `call_id` names for the snapshot's owner. -/
def ledgerKey (snapshot : DurableSnapshot) (callId : String) (row : LedgerRow) : Bool :=
  row.entry.callId == callId && row.tenantId == snapshot.tenantId &&
    row.userId == snapshot.userId

/-- `ledger`. Stored observations are validated again, as the entry is parsed. -/
def ledgerEntry (snapshot : DurableSnapshot) (callId : String) (cell : RunCell) :
    Except Failure ToolLedgerEntry :=
  match cell.ledger.find? (ledgerKey snapshot callId) with
  | none => .error (.durable "DURABLE_LEDGER_MISSING")
  | some row =>
    if row.entry.observation.all AgentObservationSummary.accepted then .ok row.entry
    else .error (.durable "DURABLE_LEDGER_INVALID")

/-! ## Active time -/

end RunCell

/-- Python's `value or fallback` on an optional float: zero is falsy. -/
def orFallback (value : Option Seconds) (fallback : Seconds) : Seconds :=
  match value with
  | none => fallback
  | some instant => if instant = 0 then fallback else instant

/-- The share of an open window that `acquire` charges to a predecessor, through
the lease end the row still holds. -/
def DurableActiveBudget.crashCharge (budget : DurableActiveBudget) (leaseUntil : Option Seconds)
    (lastObservedAt now : Seconds) : Seconds :=
  match budget.activeSinceAt with
  | none => 0
  | some since => max (min now (orFallback leaseUntil lastObservedAt) - since) 0

/-- The share of an open window that `_settle_active` charges. -/
def DurableActiveBudget.settleCharge (budget : DurableActiveBudget) (now : Seconds) : Seconds :=
  match budget.activeSinceAt with
  | none => 0
  | some since => max (now - since) 0

/-- `_remaining` at clock `t`. -/
def DurableSnapshot.remaining (snapshot : DurableSnapshot) (t : Seconds) : Seconds :=
  match snapshot.activeBudget with
  | none => max (snapshot.deadlineAt - t) 0
  | some budget =>
    let elapsed := match budget.activeSinceAt with
      | some since => max (t - since) 0
      | none => 0
    max (min (snapshot.config.timeoutSeconds - budget.secondsUsed - elapsed)
      (snapshot.expiresAt - t)) 0

/-- The snapshot an active-budget `acquire` writes. -/
def DurableSnapshot.claimed (snapshot : DurableSnapshot) (budget : DurableActiveBudget)
    (leaseUntil : Option Seconds) (now : Seconds) (activateBudget : Bool) : DurableSnapshot :=
  let charged := budget.crashCharge leaseUntil snapshot.lastObservedAt now
  let used := min (budget.secondsUsed + charged) snapshot.config.timeoutSeconds
  { snapshot with
    revision := snapshot.revision + 1
    lastObservedAt := now
    deadlineAt := min (now + snapshot.config.timeoutSeconds - used) snapshot.expiresAt
    activeBudget := some { budget with
      secondsUsed := used
      activeSinceAt := if activateBudget && snapshot.status == .running then some now else none } }

/-- `_settle_active`. The missing budget its assertion rules out raises. -/
def settleActive (previous snapshot : DurableSnapshot) (now : Seconds) :
    Except Failure DurableSnapshot :=
  match previous.activeBudget with
  | none => .ok snapshot
  | some budget =>
    match snapshot.activeBudget with
    | none => .error .other
    | some current =>
      let used := min (budget.secondsUsed + budget.settleCharge now)
        snapshot.config.timeoutSeconds
      let active := snapshot.status == .running && current.activeSinceAt.isSome
      .ok { snapshot with
        deadlineAt := min (now + snapshot.config.timeoutSeconds - used) snapshot.expiresAt
        activeBudget := some { budget with
          secondsUsed := used
          activeSinceAt := if active then some now else none } }

theorem settleActive_budget (active : previous.activeBudget = some budget)
    (settled : settleActive previous snapshot now = .ok saved) :
    ∃ reopen : Bool, (reopen = true → snapshot.status = .running) ∧
      saved.activeBudget = some { budget with
        secondsUsed := min (budget.secondsUsed + budget.settleCharge now)
          snapshot.config.timeoutSeconds
        activeSinceAt := if reopen then some now else none } ∧
      saved.deadlineAt = min (now + snapshot.config.timeoutSeconds -
        min (budget.secondsUsed + budget.settleCharge now) snapshot.config.timeoutSeconds)
          snapshot.expiresAt := by
  unfold settleActive at settled
  rw [active] at settled
  cases current : snapshot.activeBudget with
  | none => simp [current] at settled
  | some value =>
    simp only [current, Except.ok.injEq] at settled
    subst settled
    refine ⟨snapshot.status == .running && value.activeSinceAt.isSome, ?_, rfl, rfl⟩
    intro reopened
    simp only [Bool.and_eq_true, beq_iff_eq] at reopened
    exact reopened.1

theorem settleActive_wallClock (wallClock : previous.activeBudget = none)
    (settled : settleActive previous snapshot now = .ok saved) : saved = snapshot := by
  simp only [settleActive, wallClock, Except.ok.injEq] at settled
  exact settled.symm

theorem settleActive_frame (settled : settleActive previous snapshot now = .ok saved) :
    saved = { snapshot with
      deadlineAt := saved.deadlineAt, activeBudget := saved.activeBudget } := by
  unfold settleActive at settled
  split at settled
  · cases settled
    rfl
  · split at settled
    · simp at settled
    · cases settled
      rfl

namespace RunCell

/-! ## Leases -/

/-- What an active-budget `acquire` computes under the row lock; a wall-clock
claim keeps the snapshot. -/
def claimSnapshot (codec : Codec) (snapshot : DurableSnapshot) (now : Seconds)
    (activateBudget : Bool) (cell : RunCell) : Except Failure DurableSnapshot :=
  match snapshot.activeBudget with
  | none => .ok snapshot
  | some budget =>
    match cell.run with
    | none => .error (.durable "DURABLE_RESUME_CONFLICT")
    | some row =>
      if !row.inScope snapshot || row.revision ≠ snapshot.revision then
        .error (.durable "DURABLE_RESUME_CONFLICT")
      else if now < snapshot.lastObservedAt then
        .error (.durable "DURABLE_CLOCK_REGRESSION")
      else codec.persisted (snapshot.claimed budget row.leaseUntil now activateBudget)

theorem claimSnapshot_ok
    (claimed : cell.claimSnapshot codec snapshot now activateBudget = .ok saved) :
    snapshot.activeBudget = none ∧ saved = snapshot ∨
      ∃ budget row, snapshot.activeBudget = some budget ∧ cell.run = some row ∧
        row.revision = snapshot.revision ∧ snapshot.lastObservedAt ≤ now ∧
        saved = snapshot.claimed budget row.leaseUntil now activateBudget := by
  unfold claimSnapshot at claimed
  cases budgetFound : snapshot.activeBudget with
  | none =>
    simp only [budgetFound, Except.ok.injEq] at claimed
    exact Or.inl ⟨rfl, claimed.symm⟩
  | some budget =>
    cases runFound : cell.run with
    | none => simp [budgetFound, runFound] at claimed
    | some row =>
      simp only [budgetFound, runFound] at claimed
      split at claimed
      · simp at claimed
      · rename_i current
        split at claimed
        · simp at claimed
        · rename_i forward
          have revision : row.revision = snapshot.revision := by
            simp only [Bool.or_eq_true, Bool.not_eq_true', decide_eq_true_eq, not_or,
              not_not] at current
            exact current.2
          exact Or.inr ⟨budget, row, rfl, rfl, revision, not_lt.mp forward,
            Codec.persisted_ok claimed⟩

/-- The row an `acquire` may claim. -/
def claimable (snapshot : DurableSnapshot) (now : Seconds) (row : RunRow) : Bool :=
  row.inScope snapshot && row.revision == snapshot.revision && !row.status.terminal &&
    decide (now < row.expiresAt) && row.leaseFree now

/-- The row a claim leaves; only an active budget rewrites the snapshot. -/
def claimRow (snapshot saved : DurableSnapshot) (token : String) (leaseUntil : Seconds)
    (row : RunRow) : RunRow :=
  if snapshot.activeBudget.isSome then
    { row with
      leaseToken := some token, leaseUntil := some leaseUntil
      snapshot := saved, revision := saved.revision }
  else { row with leaseToken := some token, leaseUntil := some leaseUntil }

/-- `acquire`. -/
def acquire (codec : Codec) (snapshot : DurableSnapshot) (token : String)
    (now leaseSeconds : Seconds) (activateBudget : Bool) (cell : RunCell) :
    Except Failure (DurableSnapshot × RunCell) := do
  let saved ← cell.claimSnapshot codec snapshot now activateBudget
  let after ← cell.guardedUpdate (claimable snapshot now)
    (claimRow snapshot saved token (now + leaseSeconds)) (.durable "DURABLE_RESUME_CONFLICT")
  return (saved, after)

/-- A committed claim found a claimable row; an active budget also moved its snapshot. -/
theorem acquire_ok {activateBudget : Bool}
    (acquired : cell.acquire codec snapshot token now leaseSeconds activateBudget =
      .ok (saved, after)) :
    ∃ row, cell.run = some row ∧ claimable snapshot now row = true ∧
      after = { cell with
        run := some (claimRow snapshot saved token (now + leaseSeconds) row) } ∧
      (snapshot.activeBudget = none ∧ saved = snapshot ∨
        ∃ budget, snapshot.activeBudget = some budget ∧ snapshot.lastObservedAt ≤ now ∧
          saved = snapshot.claimed budget row.leaseUntil now activateBudget) := by
  unfold acquire at acquired
  obtain ⟨_, claimed, acquired⟩ := bind_ok.mp acquired
  obtain ⟨_, committed, returned⟩ := bind_ok.mp acquired
  cases returned
  obtain ⟨row, found, guard, rfl⟩ := guardedUpdate_ok.mp committed
  refine ⟨row, found, guard, rfl, ?_⟩
  rcases claimSnapshot_ok claimed with
    wallClock | ⟨budget, locked, isActive, sameRow, _, forward, moved⟩
  · exact Or.inl wallClock
  · obtain rfl : row = locked := by
      rw [found] at sameRow
      exact Option.some.inj sameRow
    exact Or.inr ⟨budget, isActive, forward, moved⟩

/-- `renew`. -/
def renew (snapshot : DurableSnapshot) (token : String) (now leaseSeconds : Seconds)
    (cell : RunCell) : Except Failure RunCell :=
  cell.guardedUpdate
    (fun row => row.inScope snapshot && row.heldBy token now && !row.status.terminal)
    (fun row => { row with leaseUntil := some (now + leaseSeconds) })
    (.durable "DURABLE_LEASE_LOST")

theorem renew_ok (renewed : cell.renew snapshot token now leaseSeconds = .ok after) :
    ∃ row, cell.run = some row ∧ row.inScope snapshot = true ∧ row.heldBy token now = true ∧
      row.status.terminal = false ∧
      after = { cell with run := some { row with leaseUntil := some (now + leaseSeconds) } } := by
  obtain ⟨row, found, guard, rfl⟩ := guardedUpdate_ok.mp renewed
  simp only [Bool.and_eq_true, Bool.not_eq_true'] at guard
  exact ⟨row, found, guard.1.1, guard.1.2, guard.2, rfl⟩

/-- `release`: an update that may match no row. -/
def release (snapshot : DurableSnapshot) (token : String) (cell : RunCell) : RunCell :=
  match cell.run with
  | none => cell
  | some row =>
    if row.inScope snapshot && row.leaseToken == some token then
      { cell with run := some { row with leaseToken := none, leaseUntil := none } }
    else cell

/-- A release ends the caller's own lease or changes nothing. -/
theorem release_cases (snapshot : DurableSnapshot) (token : String) (cell : RunCell) :
    cell.release snapshot token = cell ∨
      ∃ row, cell.run = some row ∧ row.inScope snapshot = true ∧
        row.leaseToken = some token ∧
        cell.release snapshot token =
          { cell with run := some { row with leaseToken := none, leaseUntil := none } } := by
  unfold release
  cases found : cell.run with
  | none => exact Or.inl rfl
  | some row =>
    by_cases own : (row.inScope snapshot && row.leaseToken == some token) = true
    · simp only [Bool.and_eq_true, beq_iff_eq] at own
      exact Or.inr ⟨row, rfl, own.1, own.2, by simp [own]⟩
    · exact Or.inl (by simp only [own, if_false, Bool.false_eq_true])

/-! ## Committed snapshots -/

/-- The legacy status a snapshot is shown as. -/
def legacyStatus : DurableStatus → DurableStatus
  | .awaitingApproval => .running
  | .cancelled | .interventionRequired => .stopped
  | status => status

/-- `_legacy_update`. -/
def legacyUpdate (snapshot : DurableSnapshot) (cell : RunCell) : RunCell :=
  { cell with
    legacy := cell.legacy.map fun legacy =>
      if legacy.tenantId = snapshot.tenantId ∧ legacy.userId = snapshot.userId then
        { legacy with
          keyedStart := snapshot.startup.isSome
          status := legacyStatus snapshot.status
          stepsUsed := snapshot.stepsUsed
          toolCallsUsed := snapshot.toolCallsUsed
          -- `or` passes over an empty text as well.
          errorCode := snapshot.errorCode.filter (· ≠ "") <|> snapshot.result.bind (·.errorCode)
          terminationReason :=
            match snapshot.result with
            | some result => some result.terminationReason.value
            | none => snapshot.errorCode
          latencyMs := snapshot.result.map (·.latencyMs) }
      else legacy }

@[simp] theorem legacyUpdate_run (snapshot : DurableSnapshot) (cell : RunCell) :
    (cell.legacyUpdate snapshot).run = cell.run := rfl

@[simp] theorem legacyUpdate_ledger (snapshot : DurableSnapshot) (cell : RunCell) :
    (cell.legacyUpdate snapshot).ledger = cell.ledger := rfl

@[simp] theorem legacyUpdate_isSome (snapshot : DurableSnapshot) (cell : RunCell) :
    (cell.legacyUpdate snapshot).legacy.isSome = cell.legacy.isSome := by
  simp [legacyUpdate]

/-- The ledger transition inside `save`. -/
def ledgerTransition (saved : DurableSnapshot) (entry : ToolLedgerEntry)
    (ledger : List LedgerRow) : Except Failure (List LedgerRow) :=
  match ledger.find? (ledgerKey saved entry.callId) with
  | none => .ok (ledger ++ [⟨saved.tenantId, saved.userId, entry⟩])
  | some existing =>
    if existing.entry.status = .completed then .error (.durable "DURABLE_LEDGER_IMMUTABLE")
    else .ok (ledger.map fun row =>
      if ledgerKey saved entry.callId row then { row with entry } else row)

/-- The ledger part of a `save`, which many saves leave out. -/
def recordLedger (saved : DurableSnapshot) (entry : Option ToolLedgerEntry)
    (ledger : List LedgerRow) : Except Failure (List LedgerRow) :=
  match entry with
  | none => .ok ledger
  | some entry => ledgerTransition saved entry ledger

/-- The row a `save` may replace. -/
def savable (previous : DurableSnapshot) (token : String) (now : Seconds) (row : RunRow) : Bool :=
  row.inScope previous && row.revision == previous.revision && row.heldBy token now &&
    !row.status.terminal

/-- The snapshot a `save` commits. -/
def savedSnapshot (previous snapshot : DurableSnapshot) (now : Seconds) :
    Except Failure DurableSnapshot :=
  settleActive previous
    { snapshot with revision := previous.revision + 1, lastObservedAt := now } now

theorem savedSnapshot_frame (settled : savedSnapshot previous snapshot now = .ok saved) :
    saved = { snapshot with
      revision := previous.revision + 1, lastObservedAt := now
      deadlineAt := saved.deadlineAt, activeBudget := saved.activeBudget } :=
  settleActive_frame settled

/-- `save`. -/
def save (codec : Codec) (previous snapshot : DurableSnapshot) (token : String) (now : Seconds)
    (entry : Option ToolLedgerEntry) (cell : RunCell) :
    Except Failure (DurableSnapshot × RunCell) := do
  let saved ← savedSnapshot previous snapshot now
  let payload ← codec.persisted saved
  let after ← cell.guardedUpdate (savable previous token now)
    (fun row =>
      { row with snapshot := payload, revision := saved.revision, status := saved.status })
    (.durable "DURABLE_LEASE_LOST")
  let ledger ← recordLedger saved entry after.ledger
  return (saved, { after with ledger }.legacyUpdate saved)

/-- A committed save replaced the revision it was given, under the caller's live
lease, together with its ledger transition. -/
theorem save_ok {entry : Option ToolLedgerEntry}
    (committed : cell.save codec previous snapshot token now entry = .ok (saved, after)) :
    ∃ row ledger, cell.run = some row ∧ savable previous token now row = true ∧
      savedSnapshot previous snapshot now = .ok saved ∧
      recordLedger saved entry cell.ledger = .ok ledger ∧
      after = { cell with
        run := some { row with
          snapshot := saved, revision := saved.revision, status := saved.status }
        ledger }.legacyUpdate saved := by
  unfold save at committed
  obtain ⟨_, settledTo, committed⟩ := bind_ok.mp committed
  obtain ⟨_, fits, committed⟩ := bind_ok.mp committed
  obtain ⟨_, replaced, committed⟩ := bind_ok.mp committed
  obtain ⟨ledger, recorded, returned⟩ := bind_ok.mp committed
  obtain rfl := Codec.persisted_ok fits
  obtain ⟨row, found, guard, rfl⟩ := guardedUpdate_ok.mp replaced
  cases returned
  exact ⟨row, ledger, found, guard, settledTo, recorded, rfl⟩

/-- The snapshot a `cancel` commits. -/
def cancelledSnapshot (previous : DurableSnapshot) (now : Seconds) :
    Except Failure DurableSnapshot :=
  settleActive previous
    { previous with
      revision := previous.revision + 1
      status := .cancelled
      phase := .done
      approval := none
      result := none
      errorCode := some "DURABLE_CANCELLED"
      lastObservedAt := now } now

theorem cancelledSnapshot_frame (settled : cancelledSnapshot previous now = .ok saved) :
    saved = { previous with
      revision := previous.revision + 1
      status := .cancelled
      phase := .done
      approval := none
      result := none
      errorCode := some "DURABLE_CANCELLED"
      lastObservedAt := now
      deadlineAt := saved.deadlineAt, activeBudget := saved.activeBudget } :=
  settleActive_frame settled

/-- Who may cancel: anyone in scope, or only the named owner. -/
def ownershipGuard (ownership : Option String) (allowUnclaimed : Bool) (row : RunRow) : Bool :=
  match ownership with
  | none => true
  | some token => ownedBy token allowUnclaimed row

/-- The row a `cancel` may end. -/
def cancellable (previous : DurableSnapshot) (ownership : Option String) (allowUnclaimed : Bool)
    (row : RunRow) : Bool :=
  row.inScope previous && ownershipGuard ownership allowUnclaimed row &&
    row.revision == previous.revision && !row.status.terminal

/-- `cancel`. -/
def cancel (codec : Codec) (previous : DurableSnapshot) (now : Seconds)
    (ownership : Option String) (allowUnclaimed : Bool) (cell : RunCell) :
    Except Failure (DurableSnapshot × RunCell) := do
  let saved ← cancelledSnapshot previous now
  let payload ← codec.persisted saved
  let after ← cell.guardedUpdate (cancellable previous ownership allowUnclaimed)
    (fun row => { row with
      snapshot := payload, revision := saved.revision, status := .cancelled
      leaseToken := none, leaseUntil := none })
    (.durable "DURABLE_RESUME_CONFLICT")
  return (saved, after.legacyUpdate saved)

/-- A committed cancel ended the revision it was given and cleared the lease. -/
theorem cancel_ok {ownership : Option String}
    (committed : cell.cancel codec previous now ownership allowUnclaimed = .ok (saved, after)) :
    ∃ row, cell.run = some row ∧ cancellable previous ownership allowUnclaimed row = true ∧
      cancelledSnapshot previous now = .ok saved ∧
      after = { cell with
        run := some { row with
          snapshot := saved, revision := saved.revision, status := .cancelled
          leaseToken := none, leaseUntil := none } }.legacyUpdate saved := by
  unfold cancel at committed
  obtain ⟨_, settledTo, committed⟩ := bind_ok.mp committed
  obtain ⟨_, fits, committed⟩ := bind_ok.mp committed
  obtain ⟨_, replaced, returned⟩ := bind_ok.mp committed
  obtain rfl := Codec.persisted_ok fits
  obtain ⟨row, found, guard, rfl⟩ := guardedUpdate_ok.mp replaced
  cases returned
  exact ⟨row, found, guard, settledTo, rfl⟩

/-! ## Graph checkpoints -/

/-- `_graph_fence`: a no-op update under a live lease, terminal rows included. -/
def graphFence (snapshot : DurableSnapshot) (token : String) (now : Seconds) (cell : RunCell) :
    Except Failure RunCell :=
  cell.guardedUpdate (fun row => row.inScope snapshot && row.heldBy token now)
    (fun row => { row with leaseToken := some token }) (.durable "DURABLE_LEASE_LOST")

/-- The fence passes only under the caller's live lease and changes nothing. -/
theorem graphFence_ok (fenced : cell.graphFence snapshot token now = .ok after) :
    after = cell ∧ ∃ row, cell.run = some row ∧ row.inScope snapshot = true ∧
      row.heldBy token now = true := by
  obtain ⟨row, found, guard, rfl⟩ := guardedUpdate_ok.mp fenced
  simp only [Bool.and_eq_true] at guard
  have own : row.leaseToken = some token := by
    have held := guard.2
    simp only [RunRow.heldBy, Bool.and_eq_true, beq_iff_eq] at held
    exact held.1
  refine ⟨?_, row, found, guard.1, guard.2⟩
  rw [← own, ← found]

/-- `graph_put`. A reused checkpoint id violates its unique column. -/
def graphPut (snapshot : DurableSnapshot) (token : String) (now : Seconds)
    (checkpointId : String) (checkpoint metadata : Json) (parentId : Option String)
    (cell : RunCell) : Except Failure RunCell := do
  let after ← cell.graphFence snapshot token now
  if after.checkpoints.any (·.checkpointId == checkpointId) then .error .storageUnavailable
  else return { after with
    checkpoints := after.checkpoints ++ [
      ⟨snapshot.tenantId, snapshot.userId, checkpointId, checkpoint, metadata, parentId, []⟩] }

/-- One assignment `indexed[key] = write`; a new key is appended. -/
def indexWrite (write : GraphWrite) : List GraphWrite → List GraphWrite
  | [] => [write]
  | other :: rest =>
    if other.taskId = write.taskId ∧ other.index = write.index then write :: rest
    else other :: indexWrite write rest

/-- Whether a checkpoint row is the one an id names for the snapshot's owner. -/
def checkpointKey (snapshot : DurableSnapshot) (checkpointId : String)
    (row : GraphCheckpoint) : Bool :=
  row.checkpointId == checkpointId && row.tenantId == snapshot.tenantId &&
    row.userId == snapshot.userId

/-- `graph_writes`. -/
def graphWrites (snapshot : DurableSnapshot) (token : String) (now : Seconds)
    (checkpointId : String) (writes : List GraphWrite) (cell : RunCell) :
    Except Failure RunCell := do
  let after ← cell.graphFence snapshot token now
  if !after.checkpoints.any (checkpointKey snapshot checkpointId) then
    .error (.durable "DURABLE_GRAPH_CHECKPOINT_MISSING")
  else return { after with
    checkpoints := after.checkpoints.map fun row =>
      if checkpointKey snapshot checkpointId row then
        { row with writes := writes.foldl (flip indexWrite) row.writes }
      else row }

/-- A graph checkpoint is written under the fence and touches only its own table. -/
theorem graphPut_ok {checkpointId : String} {parentId : Option String}
    (put : cell.graphPut snapshot token now checkpointId checkpoint metadata parentId =
      .ok after) :
    (∃ checkpoints, after = { cell with checkpoints }) ∧
      ∃ row, cell.run = some row ∧ row.inScope snapshot = true ∧ row.heldBy token now = true := by
  unfold graphPut at put
  obtain ⟨_, passed, inserted⟩ := bind_ok.mp put
  obtain ⟨rfl, owner⟩ := graphFence_ok passed
  split at inserted
  · simp at inserted
  · simp only [pure_eq, Except.ok.injEq] at inserted
    exact ⟨⟨_, inserted.symm⟩, owner⟩

/-- Pending graph writes are recorded under the same fence. -/
theorem graphWrites_ok {checkpointId : String}
    (written : cell.graphWrites snapshot token now checkpointId writes = .ok after) :
    (∃ checkpoints, after = { cell with checkpoints }) ∧
      ∃ row, cell.run = some row ∧ row.inScope snapshot = true ∧ row.heldBy token now = true := by
  unfold graphWrites at written
  obtain ⟨_, passed, indexed⟩ := bind_ok.mp written
  obtain ⟨rfl, owner⟩ := graphFence_ok passed
  split at indexed
  · simp at indexed
  · simp only [pure_eq, Except.ok.injEq] at indexed
    exact ⟨⟨_, indexed.symm⟩, owner⟩

/-! ## Retention -/

/-- Whether `purge_expired` may select the private row. -/
def purgeable (tenantId : String) (now : Seconds) (cell : RunCell) : Bool :=
  cell.run.any fun row => row.tenantId == tenantId && decide (row.expiresAt ≤ now)

/-- What `purge_expired` leaves of a selected run: only the legacy row. -/
def purge (tenantId : String) (cell : RunCell) : RunCell :=
  { cell with
    run := none
    ledger := cell.ledger.filter (·.tenantId != tenantId)
    checkpoints := cell.checkpoints.filter (·.tenantId != tenantId) }

end RunCell

end AegisRag.Agent.Durable

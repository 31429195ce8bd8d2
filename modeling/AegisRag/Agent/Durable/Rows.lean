import AegisRag.Agent.Durable.Log

/-!
# The rows behind a run

`CellMove` names the transaction behind each event, so an invariant of the rows
has one case for each transaction: the private row belongs to the owner its
snapshot names, the legacy row mirrors its status, and its lease token was
written by an insert or a claim of the log.
-/

namespace AegisRag.Agent.Durable

open Semantics
open RunCell hiding ledger

variable {codec : Codec} {Origin : DurableSnapshot → Prop}

/-! ## Transactions and their events -/

/-- The transaction behind an event, and the cell it leaves. -/
inductive CellMove (codec : Codec) (Origin : DurableSnapshot → Prop) (cell : RunCell) :
    Event → RunCell → Prop
  | inserted {task : Nat} {token : Option String} {leaseUntil : Option Seconds}
      {snapshot : DurableSnapshot} {after : RunCell} (origin : Origin snapshot)
      (added : cell.addNew codec snapshot token leaseUntil = .ok (some after)) :
      CellMove codec Origin cell (.created task token snapshot) after
  | claimed {task : Nat} {snapshot saved : DurableSnapshot} {token : String}
      {now leaseSeconds : Seconds} {activateBudget : Bool} {after : RunCell}
      (acquired : cell.acquire codec snapshot token now leaseSeconds activateBudget =
        .ok (saved, after)) :
      CellMove codec Origin cell
        (.leased task (.acquire snapshot token now leaseSeconds activateBudget)) after
  | renewed {task : Nat} {snapshot : DurableSnapshot} {token : String}
      {now leaseSeconds : Seconds} {after : RunCell}
      (renewed : cell.renew snapshot token now leaseSeconds = .ok after) :
      CellMove codec Origin cell (.leased task (.renew snapshot token now leaseSeconds)) after
  | released {task : Nat} {snapshot : DurableSnapshot} {token : String} :
      CellMove codec Origin cell (.leased task (.release snapshot token))
        (cell.release snapshot token)
  | checkpointed {task : Nat} {operation : Operation} {checkpoints : List GraphCheckpoint} :
      CellMove codec Origin cell (.leased task operation) { cell with checkpoints }
  | cancelled {task : Nat} {previous saved : DurableSnapshot} {now : Seconds}
      {ownership : Option String} {allowUnclaimed : Bool} {after : RunCell}
      (committed : cell.cancel codec previous now ownership allowUnclaimed = .ok (saved, after)) :
      CellMove codec Origin cell (.cancelled task now previous saved) after
  | saved {task : Nat} {site : Site} {previous snapshot saved : DurableSnapshot} {token : String}
      {now : Seconds} {entry : Option ToolLedgerEntry} {after : RunCell}
      (same : SameRun saved previous)
      (committed : cell.save codec previous snapshot token now entry = .ok (saved, after)) :
      CellMove codec Origin cell (.saved task site previous saved) after
  | purged {task : Nat} {tenantId : String} :
      CellMove codec Origin cell (.purged task) (cell.purge tenantId)
  | noted {event : Event} (isNote : event.isNote = true) : CellMove codec Origin cell event cell

variable {task : Nat} {state : RunState} {previous : DurableSnapshot} {cell after : RunCell}
  {event : Event}

/-- Every step of a run is the transaction its event names. -/
theorem RunStep.cellMove {next : RunState} (step : RunStep codec Origin task state next) :
    ∃ event, next.log = event :: state.log ∧
      CellMove codec Origin state.chronicle.cell event next.chronicle.cell := by
  cases step with
  | insert inserts origin performed =>
    refine ⟨_, rfl, ?_⟩
    cases Chronicle.perform_ok performed with
    | inserted same added =>
      cases inserts.symm.trans same
      exact .inserted origin added
    | acquired | saved | cancelled => cases inserts
  | lease leases _ performed =>
    refine ⟨_, rfl, ?_⟩
    cases Chronicle.perform_ok performed with
    | inserted inserts => cases inserts.symm.trans (Operation.inserted_of_leases leases)
    | acquired acquired => exact .claimed acquired
    | renewed renewed => exact .renewed renewed
    | released => exact .released
    | kept => exact .checkpointed
    | saved | cancelled | purged => cases leases
  | cancel known performed =>
    obtain ⟨saved, committed, returned, _⟩ := Chronicle.perform_cancel performed
    cases returned
    exact ⟨_, rfl, .cancelled committed⟩
  | purge expired => exact ⟨_, rfl, .purged⟩
  | save known admissible forward performed =>
    obtain ⟨saved, committed, returned, _⟩ := Chronicle.perform_save performed
    cases returned
    obtain ⟨_, _, _, _, settled, _⟩ := save_ok committed
    exact ⟨_, rfl, .saved ((savedSnapshot_sameRun settled).trans admissible.sameRun) committed⟩
  | note noted =>
    refine ⟨_, rfl, .noted ?_⟩
    cases noted <;> rfl

/-- Properties of the rows that hold of none and that every transaction keeps. -/
theorem RunReachable.rows {property : RunCell → List Event → Prop} (start : property .empty [])
    (keeps : ∀ cell log event after, property cell log → CellMove codec Origin cell event after →
      property after (event :: log)) (reachable : RunReachable codec Origin state) :
    property state.chronicle.cell state.log := by
  induction reachable with
  | initial => exact start
  | step _ step ih =>
    obtain ⟨event, logged, move⟩ := step.cellMove
    rw [logged]
    exact keeps _ _ event _ ih move

/-! ## Owners -/

/-- The private row belongs to the owner its snapshot names. -/
def RowOwned (cell : RunCell) : Prop :=
  ∀ row, cell.run = some row → row.inScope row.snapshot = true

theorem inScope_congr {row other : RunRow} (scope : row.inScope previous = true)
    (version : other.schemaVersion = row.schemaVersion) (tenantId : other.tenantId = row.tenantId)
    (userId : other.userId = row.userId) (same : SameRun snapshot previous) :
    other.inScope snapshot = true := by
  simp only [RunRow.inScope, version, tenantId, userId, same.tenantId, same.userId] at scope ⊢
  exact scope

theorem cancelledSnapshot_sameRun (settled : RunCell.cancelledSnapshot previous now = .ok saved) :
    SameRun saved previous := by
  rw [cancelledSnapshot_frame settled]
  exact ⟨rfl, rfl, rfl, rfl, rfl, rfl, rfl⟩

theorem CellMove.rowOwned (owned : RowOwned cell) (move : CellMove codec Origin cell event after) :
    RowOwned after := by
  intro changed isChanged
  cases move with
  | inserted _ added =>
    obtain ⟨_, _, _, _, _, run⟩ := addNew_some added
    cases run.symm.trans isChanged
    simp [RunRow.inScope]
  | claimed acquired =>
    obtain ⟨row, found, claimable, rfl, outcome⟩ := acquire_ok acquired
    simp only [RunCell.claimable, Bool.and_eq_true] at claimable
    cases isChanged
    rcases outcome with ⟨wallClock, rfl⟩ | ⟨_, active, _, rfl⟩
    · simp only [claimRow, wallClock, Option.isSome_none, Bool.false_eq_true, if_false]
      exact owned row found
    · simp only [claimRow, active, Option.isSome_some, if_true]
      exact inScope_congr claimable.1.1.1.1 rfl rfl rfl ⟨rfl, rfl, rfl, rfl, rfl, rfl, rfl⟩
  | renewed renewed =>
    obtain ⟨row, found, _, _, _, rfl⟩ := renew_ok renewed
    cases isChanged
    exact owned row found
  | @released _ snapshot token =>
    rcases release_cases snapshot token cell with
      unchanged | ⟨row, found, _, _, released⟩
    · rw [unchanged] at isChanged
      exact owned changed isChanged
    · rw [released, Option.some.injEq] at isChanged
      subst isChanged
      exact owned row found
  | checkpointed => exact owned changed isChanged
  | cancelled committed =>
    obtain ⟨row, found, cancellable, settled, rfl⟩ := cancel_ok committed
    simp only [RunCell.cancellable, Bool.and_eq_true] at cancellable
    simp only [legacyUpdate_run, Option.some.injEq] at isChanged
    subst isChanged
    exact inScope_congr cancellable.1.1.1 rfl rfl rfl (cancelledSnapshot_sameRun settled)
  | saved same committed =>
    obtain ⟨row, _, found, savable, _, _, rfl⟩ := save_ok committed
    simp only [RunCell.savable, Bool.and_eq_true] at savable
    simp only [legacyUpdate_run, Option.some.injEq] at isChanged
    subst isChanged
    exact inScope_congr savable.1.1.1 rfl rfl rfl same
  | purged => simp [RunCell.purge] at isChanged
  | noted => exact owned changed isChanged

theorem RunReachable.rowOwned (reachable : RunReachable codec Origin state) :
    RowOwned state.chronicle.cell :=
  reachable.rows (fun row found => by simp [RunCell.empty] at found)
    fun _ _ _ _ owned move => move.rowOwned owned

/-! ## The legacy row -/

/-- The legacy row belongs to the same owner and shows the image of the status. -/
def Mirrors (cell : RunCell) : Prop :=
  ∀ row, cell.run = some row → ∃ legacy, cell.legacy = some legacy ∧
    legacy.tenantId = row.tenantId ∧ legacy.userId = row.userId ∧
    legacy.status = RunCell.legacyStatus row.status

/-- A transaction that leaves the legacy row and the columns it mirrors alone. -/
theorem Mirrors.frame (mirrors : Mirrors cell) (legacy : after.legacy = cell.legacy)
    (columns : ∀ row, after.run = some row → ∃ old, cell.run = some old ∧
      row.tenantId = old.tenantId ∧ row.userId = old.userId ∧ row.status = old.status) :
    Mirrors after := by
  intro row found
  obtain ⟨old, foundOld, tenantId, userId, status⟩ := columns row found
  obtain ⟨mirror, isMirror, same⟩ := mirrors old foundOld
  refine ⟨mirror, legacy.trans isMirror, ?_⟩
  rw [tenantId, userId, status]
  exact same

/-- A committed snapshot is shown in the legacy row of its own run. -/
theorem Mirrors.update (mirrors : Mirrors cell) (found : cell.run = some row)
    (scope : row.inScope previous = true) (same : SameRun saved previous)
    (tenantId : changed.tenantId = row.tenantId) (userId : changed.userId = row.userId)
    (status : changed.status = saved.status) :
    Mirrors ({ cell with run := some changed, ledger }.legacyUpdate saved) := by
  intro other isOther
  simp only [legacyUpdate_run, Option.some.injEq] at isOther
  subst isOther
  obtain ⟨mirror, isMirror, isTenant, isUser, _⟩ := mirrors row found
  simp only [RunRow.inScope, Bool.and_eq_true, beq_iff_eq] at scope
  have owner : mirror.tenantId = saved.tenantId ∧ mirror.userId = saved.userId := by
    rw [isTenant, isUser, same.tenantId, same.userId]
    exact ⟨scope.1.2, scope.2⟩
  simp only [RunCell.legacyUpdate, isMirror, Option.map_some, if_pos owner, Option.some.injEq]
  refine ⟨_, rfl, ?_, ?_, ?_⟩
  · exact isTenant.trans tenantId.symm
  · exact isUser.trans userId.symm
  · rw [status]

theorem CellMove.mirrors (fresh : Origin ≤ Fresh)
    (mirrors : Mirrors cell) (move : CellMove codec Origin cell event after) : Mirrors after := by
  cases move with
  | inserted origin added =>
    intro row found
    obtain ⟨_, _, _, _, ⟨legacy, isLegacy, tenantId, userId, _, status⟩, run⟩ :=
      addNew_some added
    cases run.symm.trans found
    refine ⟨legacy, isLegacy, tenantId, userId, ?_⟩
    rw [status, (fresh _ origin).running]
    rfl
  | claimed acquired =>
    obtain ⟨row, found, _, rfl, _⟩ := acquire_ok acquired
    refine mirrors.frame rfl ?_
    intro changed isChanged
    cases isChanged
    refine ⟨row, found, ?_⟩
    unfold claimRow
    split <;> exact ⟨rfl, rfl, rfl⟩
  | renewed renewed =>
    obtain ⟨row, found, _, _, _, rfl⟩ := renew_ok renewed
    refine mirrors.frame rfl ?_
    intro changed isChanged
    cases isChanged
    exact ⟨row, found, rfl, rfl, rfl⟩
  | @released _ snapshot token =>
    rcases release_cases snapshot token cell with
      unchanged | ⟨row, found, _, _, released⟩
    · rw [unchanged]
      exact mirrors
    · rw [released]
      refine mirrors.frame rfl ?_
      intro changed isChanged
      cases isChanged
      exact ⟨row, found, rfl, rfl, rfl⟩
  | checkpointed => exact mirrors
  | cancelled committed =>
    obtain ⟨row, found, cancellable, settled, rfl⟩ := cancel_ok committed
    simp only [RunCell.cancellable, Bool.and_eq_true] at cancellable
    refine mirrors.update found cancellable.1.1.1 (cancelledSnapshot_sameRun settled) rfl rfl ?_
    rw [cancelledSnapshot_frame settled]
  | saved same committed =>
    obtain ⟨row, _, found, savable, _, _, rfl⟩ := save_ok committed
    simp only [RunCell.savable, Bool.and_eq_true] at savable
    exact mirrors.update found savable.1.1.1 same rfl rfl rfl
  | purged =>
    intro row found
    simp [RunCell.purge] at found
  | noted => exact mirrors

theorem RunReachable.mirrors (fresh : Origin ≤ Fresh)
    (reachable : RunReachable codec Origin state) :
    Mirrors state.chronicle.cell :=
  reachable.rows (fun row found => by simp [RunCell.empty] at found)
    fun _ _ _ _ mirrors move => move.mirrors fresh mirrors

/-- The legacy row of a keyed run carries its owner and its mark, was inserted with the run
and outlives the private row only after a purge. -/
def Marked (tenantId userId : String) (cell : RunCell) (log : List Event) : Prop :=
  ∀ legacy, cell.legacy = some legacy →
    (legacy.tenantId = tenantId ∧ legacy.userId = userId ∧ legacy.keyedStart = true) ∧
      (∃ event ∈ log, event.places = true) ∧ (cell.run.isSome ∨ ∃ task, .purged task ∈ log)

/-- A transaction that leaves the legacy row alone and keeps the private one. -/
theorem Marked.frame (marked : Marked tenantId userId cell log)
    (legacy : after.legacy = cell.legacy) (run : cell.run.isSome → after.run.isSome) :
    Marked tenantId userId after (event :: log) := by
  intro mirror isMirror
  obtain ⟨owner, ⟨placing, isIn, places⟩, kept⟩ := marked mirror (legacy ▸ isMirror)
  refine ⟨owner, ⟨placing, List.mem_cons_of_mem _ isIn, places⟩, kept.imp run ?_⟩
  exact fun ⟨task, purged⟩ => ⟨task, List.mem_cons_of_mem _ purged⟩

/-- Showing a snapshot of the run in the legacy row keeps its mark. -/
theorem Marked.update (marked : Marked tenantId userId cell log) (keyed : saved.startup.isSome)
    (run : cell.run.isSome) : Marked tenantId userId (cell.legacyUpdate saved) log := by
  intro mirror isMirror
  simp only [RunCell.legacyUpdate] at isMirror
  obtain ⟨legacy, isLegacy, rfl⟩ := Option.map_eq_some_iff.mp isMirror
  obtain ⟨owner, placed, _⟩ := marked legacy isLegacy
  refine ⟨?_, placed, Or.inl run⟩
  split
  · exact ⟨owner.1, owner.2.1, keyed⟩
  · exact owner

theorem CellMove.marked (keyed : ∀ snapshot, Origin snapshot →
      snapshot.tenantId = tenantId ∧ snapshot.userId = userId ∧ snapshot.startup.isSome)
    (stored : ∀ row, after.run = some row → row.snapshot.startup.isSome)
    (marked : Marked tenantId userId cell log) (move : CellMove codec Origin cell event after) :
    Marked tenantId userId after (event :: log) := by
  cases move with
  | inserted origin added =>
    intro mirror isMirror
    obtain ⟨_, _, _, _, ⟨legacy, isLegacy, isTenant, isUser, isKeyed, _⟩, run⟩ := addNew_some added
    cases isLegacy.symm.trans isMirror
    obtain ⟨tenant, user, startup⟩ := keyed _ origin
    exact ⟨⟨isTenant.trans tenant, isUser.trans user, isKeyed.trans startup⟩,
      ⟨_, List.mem_cons_self, rfl⟩, Or.inl (by rw [run]; rfl)⟩
  | claimed acquired =>
    obtain ⟨_, _, _, rfl, _⟩ := acquire_ok acquired
    exact marked.frame rfl fun _ => rfl
  | renewed renewed =>
    obtain ⟨_, _, _, _, _, rfl⟩ := renew_ok renewed
    exact marked.frame rfl fun _ => rfl
  | @released _ snapshot token =>
    rcases release_cases snapshot token cell with unchanged | ⟨_, _, _, _, released⟩
    · rw [unchanged]
      exact marked.frame rfl id
    · rw [released]
      exact marked.frame rfl fun _ => rfl
  | checkpointed => exact marked.frame rfl id
  | cancelled committed =>
    obtain ⟨_, _, _, _, rfl⟩ := cancel_ok committed
    refine Marked.update ?_ (stored _ rfl) rfl
    exact marked.frame rfl fun _ => rfl
  | saved _ committed =>
    obtain ⟨_, _, _, _, _, _, rfl⟩ := save_ok committed
    refine Marked.update ?_ (stored _ rfl) rfl
    exact marked.frame rfl fun _ => rfl
  | @purged task =>
    intro mirror isMirror
    obtain ⟨owner, _⟩ := marked mirror isMirror
    exact ⟨owner, ⟨_, List.mem_cons_self, rfl⟩, Or.inr ⟨task, List.mem_cons_self⟩⟩
  | noted => exact marked.frame rfl id

/-- A run whose inserts all have one owner and a key is marked so throughout. -/
theorem RunReachable.marked (keyed : ∀ snapshot, Origin snapshot →
      snapshot.tenantId = tenantId ∧ snapshot.userId = userId ∧ snapshot.startup.isSome)
    (reachable : RunReachable codec Origin state) :
    Marked tenantId userId state.chronicle.cell state.log := by
  induction reachable with
  | initial => simp [Marked, RunState.initial, Chronicle.initial, RunCell.empty]
  | @step task state next reached step ih =>
    obtain ⟨event, logged, move⟩ := step.cellMove
    have after := reached.step step
    have startups : ∀ snapshot ∈ next.committed, snapshot.startup.isSome :=
      after.everyCommitted (fun snapshot => snapshot.startup.isSome)
        (fun snapshot origin => (keyed snapshot origin).2.2)
        fun _ _ _ _ _ _ isSome successor => by rwa [successor.sameRun.startup]
    rw [logged]
    refine move.marked keyed (fun row found => startups _ ?_) ih
    exact List.mem_of_head? (after.fenced.stored row found).1

/-! ## Lease tokens -/

/-- The event writes the token to the row. -/
def Event.leasesTo (token : String) : Event → Prop
  | .created _ given _ => given = some token
  | .leased _ operation => operation.claimToken = some token
  | _ => False

/-- A token on the row was written by some event. -/
def LeaseWritten (cell : RunCell) (log : List Event) : Prop :=
  ∀ row token, cell.run = some row → row.leaseToken = some token →
    ∃ event ∈ log, event.leasesTo token

theorem LeaseWritten.frame (event : Event) (written : LeaseWritten cell log)
    (column : ∀ row, after.run = some row → row.leaseToken = none ∨
      ∃ old, cell.run = some old ∧ row.leaseToken = old.leaseToken) :
    LeaseWritten after (event :: log) := by
  intro row token found leased
  rcases column row found with free | ⟨old, foundOld, same⟩
  · rw [free] at leased
    cases leased
  · obtain ⟨writer, isIn, writes⟩ := written old token foundOld (same.symm.trans leased)
    exact ⟨writer, List.mem_cons_of_mem _ isIn, writes⟩

theorem CellMove.leaseWritten (written : LeaseWritten cell log)
    (move : CellMove codec Origin cell event after) :
    LeaseWritten after (event :: log) := by
  cases move with
  | inserted _ added =>
    intro row token found leased
    obtain ⟨_, _, _, _, _, run⟩ := addNew_some added
    cases run.symm.trans found
    exact ⟨_, List.mem_cons_self, leased⟩
  | claimed acquired =>
    obtain ⟨row, found, _, rfl, _⟩ := acquire_ok acquired
    intro changed token isChanged leased
    cases isChanged
    refine ⟨_, List.mem_cons_self, ?_⟩
    unfold claimRow at leased
    split at leased <;> exact leased
  | renewed renewed =>
    obtain ⟨row, found, _, _, _, rfl⟩ := renew_ok renewed
    refine written.frame _ ?_
    intro changed isChanged
    cases isChanged
    exact Or.inr ⟨row, found, rfl⟩
  | @released _ snapshot token =>
    refine written.frame _ ?_
    intro changed isChanged
    rcases release_cases snapshot token cell with unchanged | ⟨row, _, _, _, released⟩
    · rw [unchanged] at isChanged
      exact Or.inr ⟨changed, isChanged, rfl⟩
    · rw [released, Option.some.injEq] at isChanged
      subst isChanged
      exact Or.inl rfl
  | checkpointed | noted =>
    exact written.frame _ fun row found => Or.inr ⟨row, found, rfl⟩
  | cancelled committed =>
    obtain ⟨row, _, _, _, rfl⟩ := cancel_ok committed
    refine written.frame _ ?_
    intro changed isChanged
    simp only [legacyUpdate_run, Option.some.injEq] at isChanged
    subst isChanged
    exact Or.inl rfl
  | saved _ committed =>
    obtain ⟨row, _, found, _, _, _, rfl⟩ := save_ok committed
    refine written.frame _ ?_
    intro changed isChanged
    simp only [legacyUpdate_run, Option.some.injEq] at isChanged
    subst isChanged
    exact Or.inr ⟨row, found, rfl⟩
  | purged =>
    refine written.frame _ ?_
    intro changed isChanged
    simp [RunCell.purge] at isChanged

theorem RunReachable.leaseWritten (reachable : RunReachable codec Origin state) :
    LeaseWritten state.chronicle.cell state.log :=
  reachable.rows (fun row _ found => by simp [RunCell.empty] at found)
    fun _ _ _ _ written move => move.leaseWritten written

end AegisRag.Agent.Durable

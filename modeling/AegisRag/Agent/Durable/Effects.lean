import AegisRag.Agent.Durable.Journal

/-!
# What a step does to a run

The invariants of a run look only at the stored snapshot, the ledger, the
committed snapshots and the log. `Effect` says once what each kind of step does
to these four, with the lease columns and the checkpoint table left out, and
`RunStep.effect` reads it off the store's transactions.
-/

namespace AegisRag.Agent.Durable

open RunCell

namespace RunState

/-- The snapshot of the private row, if there is one. -/
def stored (state : RunState) : Option DurableSnapshot :=
  state.chronicle.cell.run.map (·.snapshot)

/-- The tool ledger of the run. -/
def ledger (state : RunState) : List LedgerRow := state.chronicle.cell.ledger

/-- Every snapshot the row ever stored, newest first. -/
def committed (state : RunState) : List DurableSnapshot := state.chronicle.committed

variable {snapshot : DurableSnapshot} {operation : Operation} {now : Seconds}

/-- The current snapshot is the stored one. -/
theorem current_iff {state : RunState} : state.Current snapshot ↔ state.stored = some snapshot := by
  simp [Current, stored]

/-- What is stored was committed. -/
theorem stored_committed {state : RunState} (fenced : state.chronicle.Fenced)
    (stored : state.stored = some snapshot) :
    snapshot ∈ state.committed := by
  obtain ⟨row, found, rfl⟩ := current_iff.mpr stored
  exact List.mem_of_head? (fenced.stored row found).1

end RunState

/-- The four parts of a run state that its invariants speak about. -/
structure Leaves (next : RunState) (stored : Option DurableSnapshot) (ledger : List LedgerRow)
    (committed : List DurableSnapshot) (log : List Event) : Prop where
  stored : next.stored = stored
  ledger : next.ledger = ledger
  committed : next.committed = committed
  log : next.log = log

/-- A step writes one event. -/
theorem Leaves.event_eq (leaves : Leaves next row entries history (event :: older))
    (logged : next.log = other :: older) : event = other :=
  (List.cons.inj (leaves.log.symm.trans logged)).1

/-- What one step does to a run. -/
inductive Effect (codec : Codec) (Origin : DurableSnapshot → Prop) (task : Nat)
    (state next : RunState) : Prop
  | created {token : Option String} {snapshot : DurableSnapshot} (origin : Origin snapshot)
      (unborn : state.committed = [])
      (leaves : Leaves next (some snapshot) state.ledger [snapshot]
        (.created task token snapshot :: state.log))
  | claimed {operation : Operation} {previous : DurableSnapshot} {budget : DurableActiveBudget}
      {leaseUntil : Option Seconds} {now : Seconds} {activateBudget : Bool}
      (stored : state.stored = some previous) (live : previous.status.terminal = false)
      (active : previous.activeBudget = some budget) (forward : previous.lastObservedAt ≤ now)
      (leaves : Leaves next (some (previous.claimed budget leaseUntil now activateBudget))
        state.ledger (previous.claimed budget leaseUntil now activateBudget :: state.committed)
        (.leased task operation :: state.log))
  | leased {operation : Operation}
      (leaves : Leaves next state.stored state.ledger state.committed
        (.leased task operation :: state.log))
  | cancelled {previous saved : DurableSnapshot} {now : Seconds}
      (stored : state.stored = some previous) (live : previous.status.terminal = false)
      (settled : RunCell.cancelledSnapshot previous now = .ok saved)
      (leaves : Leaves next (some saved) state.ledger (saved :: state.committed)
        (.cancelled task now previous saved :: state.log))
  | purged {kept : LedgerRow → Bool}
      (leaves : Leaves next none (state.ledger.filter kept) state.committed
        (.purged task :: state.log))
  | saved {site : Site} {previous snapshot saved : DurableSnapshot} {now : Seconds}
      {entry : Option ToolLedgerEntry} {ledger : List LedgerRow}
      (stored : state.stored = some previous) (live : previous.status.terminal = false)
      (admissible : Admissible codec task state site previous snapshot entry)
      (forward : previous.lastObservedAt ≤ now)
      (settled : savedSnapshot previous snapshot now = .ok saved)
      (recorded : recordLedger saved entry state.ledger = .ok ledger)
      (leaves : Leaves next (some saved) ledger (saved :: state.committed)
        (.saved task site previous saved :: state.log))
  | noted {event : Event} (noted : Noted codec task state event)
      (leaves : Leaves next state.stored state.ledger state.committed (event :: state.log))

/-- An insert finds a run that never was and creates it. -/
theorem insert_effect (fenced : state.chronicle.Fenced) (origin : Origin snapshot)
    (inserts : operation.inserted = some snapshot)
    (performed : state.chronicle.perform codec operation = .ok (some inserted, next)) :
    Effect codec Origin task state
      ⟨next, .created task operation.insertToken snapshot :: state.log⟩ := by
  cases Chronicle.perform_ok performed with
  | inserted same added =>
    cases inserts.symm.trans same
    obtain ⟨absent, _, ledger, _, _, run⟩ := addNew_some added
    have unborn := fenced.fresh absent
    refine .created origin unborn ⟨?_, ledger, ?_, rfl⟩
    · simp [RunState.stored, run]
    · simp [RunState.committed, unborn]
  | acquired | saved | cancelled => cases inserts

/-- A transaction that moves neither snapshot nor ledger only leases. -/
theorem Effect.of_kept (stored : cell.run.map (·.snapshot) = state.stored)
    (ledger : cell.ledger = state.ledger) :
    Effect codec Origin task state
      ⟨{ state.chronicle with cell }, .leased task operation :: state.log⟩ :=
  .leased ⟨stored, ledger, rfl, rfl⟩

/-- A claim moves the snapshot exactly where there is an active budget. -/
theorem acquire_effect (fenced : state.chronicle.Fenced)
    (known : snapshot ∈ state.chronicle.committed)
    (acquired : state.chronicle.cell.acquire codec snapshot token now leaseSeconds activateBudget =
      .ok (saved, next.cell))
    (committed : next.committed = if snapshot.activeBudget.isSome then
      saved :: state.chronicle.committed else state.chronicle.committed) :
    Effect codec Origin task state ⟨next, .leased task operation :: state.log⟩ := by
  obtain ⟨row, found, claimable, cell, outcome⟩ := acquire_ok acquired
  simp only [RunCell.claimable, Bool.and_eq_true, beq_iff_eq, Bool.not_eq_true',
    decide_eq_true_eq] at claimable
  have current : row.snapshot = snapshot := fenced.current found known claimable.1.1.1.2
  rcases outcome with ⟨wallClock, rfl⟩ | ⟨budget, active, forward, rfl⟩
  · refine .leased ⟨?_, ?_, ?_, rfl⟩
    · simp [RunState.stored, cell, claimRow, wallClock, found]
    · simp [RunState.ledger, cell]
    · simpa [RunState.committed, wallClock] using committed
  · have leaves : Leaves ⟨next, .leased task operation :: state.log⟩
        (some (snapshot.claimed budget row.leaseUntil now activateBudget)) state.ledger
        (snapshot.claimed budget row.leaseUntil now activateBudget :: state.committed)
        (.leased task operation :: state.log) := by
      refine ⟨?_, ?_, ?_, rfl⟩
      · simp [RunState.stored, cell, claimRow, active]
      · simp [RunState.ledger, cell]
      · simpa [RunState.committed, active] using committed
    refine .claimed ?_ ?_ active forward leaves
    · simp [RunState.stored, found, current]
    · rw [← current, ← (fenced.stored row found).2.2]
      exact claimable.1.1.2

/-- A lease operation claims the run or moves nothing. -/
theorem lease_effect (fenced : state.chronicle.Fenced) (leases : operation.leases = true)
    (known : state.chronicle.Knows operation)
    (performed : state.chronicle.perform codec operation = .ok (returned, next)) :
    Effect codec Origin task state ⟨next, .leased task operation :: state.log⟩ := by
  cases Chronicle.perform_ok performed with
  | inserted inserts => cases inserts.symm.trans (Operation.inserted_of_leases leases)
  | acquired acquired committed => exact acquire_effect fenced (known _ rfl) acquired committed
  | renewed renewed =>
    obtain ⟨row, found, _, _, _, rfl⟩ := renew_ok renewed
    exact .of_kept (by simp [RunState.stored, found]) rfl
  | @released snapshot token =>
    rcases release_cases snapshot token state.chronicle.cell with
      unchanged | ⟨row, found, _, _, changed⟩
    · rw [unchanged]
      exact .of_kept rfl rfl
    · rw [changed]
      exact .of_kept (by simp [RunState.stored, found]) rfl
  | kept => exact .of_kept rfl rfl
  | saved | cancelled | purged => cases leases

/-- A cancel settles and ends an unfinished run. -/
theorem cancel_effect (fenced : state.chronicle.Fenced)
    (known : previous ∈ state.chronicle.committed) (performed : state.chronicle.perform codec
      (.cancel previous now ownership allowUnclaimed) = .ok (some saved, next)) :
    Effect codec Origin task state ⟨next, .cancelled task now previous saved :: state.log⟩ := by
  obtain ⟨⟨_, _⟩, committed, rest⟩ := bind_ok.mp performed
  cases rest
  obtain ⟨row, found, cancellable, settled, rfl⟩ := cancel_ok committed
  simp only [RunCell.cancellable, Bool.and_eq_true, beq_iff_eq, Bool.not_eq_true'] at cancellable
  have current : row.snapshot = previous := fenced.current found known cancellable.1.2
  refine .cancelled ?_ ?_ settled ⟨?_, rfl, rfl, rfl⟩
  · simp [RunState.stored, found, current]
  · rw [← current, ← (fenced.stored row found).2.2]
    exact cancellable.2
  · simp [RunState.stored]

/-- A save settles an admissible snapshot and records its ledger entry. -/
theorem save_effect (fenced : state.chronicle.Fenced) (known : previous ∈ state.chronicle.committed)
    (admissible : Admissible codec task state site previous snapshot entry)
    (forward : previous.lastObservedAt ≤ now)
    (performed : state.chronicle.perform codec (.save previous snapshot token now entry) =
      .ok (some saved, next)) :
    Effect codec Origin task state ⟨next, .saved task site previous saved :: state.log⟩ := by
  obtain ⟨⟨_, _⟩, committed, rest⟩ := bind_ok.mp performed
  cases rest
  obtain ⟨row, ledger, found, savable, settled, recorded, rfl⟩ := save_ok committed
  simp only [RunCell.savable, Bool.and_eq_true, beq_iff_eq, Bool.not_eq_true'] at savable
  have current : row.snapshot = previous := fenced.current found known savable.1.1.2
  refine .saved ?_ ?_ admissible forward settled recorded ⟨?_, ?_, rfl, rfl⟩
  · simp [RunState.stored, found, current]
  · rw [← current, ← (fenced.stored row found).2.2]
    exact savable.2
  · simp [RunState.stored]
  · simp [RunState.ledger]

/-- Every step of a run has the effect of its kind. -/
theorem RunStep.effect (fenced : state.chronicle.Fenced)
    (step : RunStep codec Origin task state next) : Effect codec Origin task state next := by
  cases step with
  | insert inserted origin performed => exact insert_effect fenced origin inserted performed
  | lease leases known performed => exact lease_effect fenced leases known performed
  | cancel known performed => exact cancel_effect fenced known performed
  | purge expired => exact .purged ⟨rfl, rfl, rfl, rfl⟩
  | save known admissible forward performed =>
    exact save_effect fenced known admissible forward performed
  | note noted => exact .noted noted ⟨rfl, rfl, rfl, rfl⟩

end AegisRag.Agent.Durable

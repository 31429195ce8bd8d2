import AegisRag.Agent.Durable.Rows

/-!
# Runs that are over

`Final` describes every cell a finished run can still have: the private row as it
was when the run ended, its lease columns apart, with the ledger and the legacy
row, or after a purge the legacy row alone. Every transaction leaves it final.
-/

namespace AegisRag.Agent.Durable

open Semantics

/-- What is left of a run that ended with this row, ledger and legacy row. -/
structure Final (row : RunRow) (ledger : List LedgerRow) (legacy : LegacyRow) (cell : RunCell) :
    Prop where
  legacy : cell.legacy = some legacy
  rows : cell.run = none ∨ cell.ledger = ledger ∧
    ∃ leaseToken leaseUntil, cell.run = some { row with leaseToken, leaseUntil }

section

variable {legacy : LegacyRow}

variable {snapshot saved : DurableSnapshot}

section

variable (ended : row.status.terminal = true) (final : Final row ledger legacy cell)

include ended final

/-- The row of a finished run is terminal for as long as there is one. -/
theorem Final.terminal
    {found : RunRow} (isFound : cell.run = some found) : found.status.terminal = true := by
  rcases final.rows with gone | ⟨_, _, _, kept⟩
  · rw [gone] at isFound
    cases isFound
  · cases kept.symm.trans isFound
    exact ended

theorem Final.not_acquire {leaseSeconds : Seconds} {activateBudget : Bool} :
    cell.acquire codec snapshot token now leaseSeconds activateBudget ≠ .ok (saved, after) := by
  intro acquired
  obtain ⟨_, isFound, claimable, _⟩ := RunCell.acquire_ok acquired
  simp [RunCell.claimable, final.terminal ended isFound] at claimable

theorem Final.not_renew
    {leaseSeconds : Seconds} : cell.renew snapshot token now leaseSeconds ≠ .ok after := by
  intro renewed
  obtain ⟨_, isFound, _, _, live, _⟩ := RunCell.renew_ok renewed
  rw [final.terminal ended isFound] at live
  cases live

theorem Final.not_save {previous : DurableSnapshot} {entry : Option ToolLedgerEntry} :
    cell.save codec previous snapshot token now entry ≠ .ok (saved, after) := by
  intro committed
  obtain ⟨_, _, isFound, savable, _⟩ := RunCell.save_ok committed
  simp [RunCell.savable, final.terminal ended isFound] at savable

theorem Final.not_cancel
    {previous : DurableSnapshot} {ownership : Option String} {allowUnclaimed : Bool} :
    cell.cancel codec previous now ownership allowUnclaimed ≠ .ok (saved, after) := by
  intro committed
  obtain ⟨_, isFound, cancellable, _⟩ := RunCell.cancel_ok committed
  simp [RunCell.cancellable, final.terminal ended isFound] at cancellable

end

section

variable (final : Final row ledger legacy cell)

include final

/-- The legacy row takes the primary key, so nothing is inserted again. -/
theorem Final.not_insert {token : Option String}
    {leaseUntil : Option Seconds} :
    cell.addNew codec snapshot token leaseUntil ≠ .ok (some after) := by
  intro added
  have absent := (RunCell.addNew_some added).1
  rw [final.legacy] at absent
  cases absent

theorem Final.release (snapshot : DurableSnapshot)
    (token : String) : Final row ledger legacy (cell.release snapshot token) := by
  rcases RunCell.release_cases snapshot token cell with same | ⟨_, isFound, _, _, released⟩
  · rw [same]
    exact final
  · rw [released]
    refine ⟨final.legacy, ?_⟩
    rcases final.rows with gone | ⟨same, _, _, kept⟩
    · rw [gone] at isFound
      cases isFound
    · cases kept.symm.trans isFound
      exact Or.inr ⟨same, none, none, rfl⟩

theorem Final.checkpoints
    (checkpoints : List GraphCheckpoint) : Final row ledger legacy { cell with checkpoints } :=
  ⟨final.legacy, final.rows⟩

theorem Final.purge (tenantId : String) : Final row ledger legacy (cell.purge tenantId) :=
  ⟨final.legacy, Or.inl rfl⟩

end

end

/-! ## Any transaction -/

section

variable {row : RunRow} {ledger : List LedgerRow} {legacy : LegacyRow} {chronicle next : Chronicle}

/-- The transactions that need an unfinished run. -/
def Operation.moves : Operation → Bool
  | .acquire .. | .renew .. | .save .. | .cancel .. => true
  | _ => false

section

variable (ended : row.status.terminal = true) (final : Final row ledger legacy chronicle.cell)

include ended final

/-- A finished run refuses them all, and commits no snapshot any more. -/
theorem Final.perform (performed : chronicle.perform codec operation = .ok (returned, next)) :
    Final row ledger legacy next.cell ∧ next.committed = chronicle.committed ∧
      returned = none ∧ operation.moves = false := by
  cases Chronicle.perform_ok performed with
  | inserted _ added => exact absurd added final.not_insert
  | acquired acquired => exact absurd acquired (final.not_acquire ended)
  | renewed renewed => exact absurd renewed (final.not_renew ended)
  | released => exact ⟨final.release _ _, rfl, rfl, rfl⟩
  | saved committed => exact absurd committed (final.not_save ended)
  | cancelled committed => exact absurd committed (final.not_cancel ended)
  | purged => exact ⟨final.purge _, rfl, rfl, rfl⟩
  | kept keeps =>
    refine ⟨final.checkpoints _, rfl, rfl, ?_⟩
    cases operation <;> simp [Operation.keeps, Operation.moves] at keeps ⊢

theorem Final.step (operation : Operation) :
    Final row ledger legacy (chronicle.step codec operation).cell := by
  unfold Chronicle.step
  split
  · rename_i performed
    exact (final.perform ended performed).1
  · exact final

/-- Whatever transactions follow, a finished run stays as it is. -/
theorem Final.run (operations : List Operation) :
    Final row ledger legacy (operations.foldl (Chronicle.step codec) chronicle).cell := by
  induction operations generalizing chronicle with
  | nil => exact final
  | cons operation rest ih =>
    exact ih (final.step ended operation)

end

end

/-! ## Any step of a worker -/

def Event.commits : Event → Bool
  | .created .. | .saved .. | .cancelled .. => true
  | _ => false

/-- A worker's step on a finished run commits nothing. -/
theorem RunStep.final {Origin : DurableSnapshot → Prop} {task : Nat} {state next : RunState}
    {row : RunRow} {ledger : List LedgerRow} {legacy : LegacyRow}
    (ended : row.status.terminal = true) (final : Final row ledger legacy state.chronicle.cell)
    (step : RunStep codec Origin task state next) :
    Final row ledger legacy next.chronicle.cell ∧
      next.chronicle.committed = state.chronicle.committed ∧
      ∃ event, next.log = event :: state.log ∧ event.commits = false := by
  cases step with
  | insert _ _ performed | cancel _ performed | save _ _ _ performed =>
    have answer := (final.perform ended performed).2.2.1
    cases answer
  | lease _ _ performed =>
    obtain ⟨kept, committed, _, _⟩ := final.perform ended performed
    exact ⟨kept, committed, _, rfl, rfl⟩
  | purge _ => exact ⟨final.purge _, rfl, _, rfl, rfl⟩
  | note noted =>
    refine ⟨final, rfl, _, rfl, ?_⟩
    cases noted <;> rfl

end AegisRag.Agent.Durable

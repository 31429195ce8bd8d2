import AegisRag.Agent.Durable.Readback
import AegisRag.Agent.Durable.Terminal
import AegisRag.Agent.Durable.Service.Guarantees

/-!
# What the service guarantees about stored runs

The rows of a run in every pool that a schedule can reach: that they can be read
back, by their owner only, that the ledger agrees with the snapshot, and that a run
which is over never changes again.
-/

namespace AegisRag.Agent.Durable.Service

open Semantics Deployment

/-! ## Runs on the deployment -/

namespace Deployment

/-- A background run with an active budget is inserted at reading 1000. -/
def queued : List (Move (machine codec)) :=
  request (.start { backgroundEnabled := true } member
      { input := "hello", budgetMode := .active, executionMode := .background }) ::
    (steps 0 1 (answer 1000 false "run") ++ steps 0 7 (answer 1000 false ""))

/-- The run is cancelled ten seconds later. -/
def cancelledForward : List (Move (machine codec)) :=
  queued ++ (request (.cancel {} member "run" (some 0)) :: steps 1 5 (answer 1010 false ""))

/-- The clock goes back to 500 before the run is cancelled. -/
def cancelledBackwards : List (Move (machine codec)) :=
  queued ++ (request (.cancel {} member "run" (some 0)) :: steps 1 5 (answer 500 false ""))

/-- The business task of a start decides and is held up before its next look at the
run. Its lease ends, and a second worker dispatches the call. -/
def heldUp : List (Move (machine codec)) :=
  started false ++ steps 2 31 (answer 1 false "") ++
    (request (.resume {} member "run" ⟨2, none, none, noApproval⟩) ::
      (steps 3 3 (answer 40 false "") ++ steps 3 1 (answer 40 false "takeover") ++
        steps 3 7 (answer 40 false "") ++ steps 5 36 (answer 40 false "")))

/-- The first worker loads the run with the call pending, the second one completes the
call, and the first one looks the call up. -/
def staleLookup : List (Move (machine codec)) :=
  heldUp ++ steps 2 14 (answer 40 false "") ++ steps 5 6 (answer 40 false "") ++
    steps 2 2 (answer 40 false "")

end Deployment

section

variable {codec : Codec} {pool : Pool (machine codec)} {runId : String}

/-! ## Rows that can be read back -/

/-- A new run has room for every tool call its budget allows. -/
theorem Origin.readable {snapshot : DurableSnapshot} (origin : Origin codec runId snapshot) :
    Readable snapshot := by
  obtain ⟨_, _, _, _, _, rfl, accepted, _⟩ := origin
  refine ⟨accepted, fun _ => ?_⟩
  have room := (accepted_iff.mp accepted).1.maxToolCalls
  constructor
  · exact le_refl _
  · simpa [DurableAgentService.newSnapshot] using room
  · simpa [DurableAgentService.newSnapshot] using room

theorem committed_runId (reachable : pool.Reachable) {snapshot : DurableSnapshot}
    (known : snapshot ∈ (pool.world.runs runId).committed) : snapshot.runId = runId := by
  refine (pool_refines reachable runId).everyCommitted (fun snapshot => snapshot.runId = runId)
    (fun _ origin => origin.runId) ?_ snapshot known
  intro state previous saved _ _ _ isRun successor
  exact successor.sameRun.runId.trans isRun

/-- Where every cancellation of an active budget reaches the start of the run, the stored
row passes `_validated_snapshot` and `load` answers with it. -/
theorem stored_rows_read_back :
    (∀ (Origin : DurableSnapshot → Prop) (state : RunState),
      (∀ snapshot, Origin snapshot → Readable snapshot) → RunReachable codec Origin state →
      Along CancelForward state.log → ∀ row, state.chronicle.cell.run = some row →
      RunCell.validatedSnapshot row row.tenantId row.userId row.snapshot.runId =
        .ok row.snapshot) ∧
    ∀ (pool : Pool (machine codec)) (runId : String), pool.Reachable →
      Along CancelForward (pool.world.runs runId).log →
      ∀ row, (pool.world.runs runId).chronicle.cell.run = some row →
      (pool.world.runs runId).chronicle.cell.load row.tenantId row.userId runId =
        .ok row.snapshot := by
  constructor
  · intro Origin state readable reachable forward row found
    exact reachable.validates readable forward found
  · intro pool runId reachable forward row found
    have run := pool_refines reachable runId
    have validated := run.validates (fun _ origin => origin.readable) forward found
    have known := List.mem_of_head? (run.fenced.stored row found).1
    rw [committed_runId reachable known] at validated
    rw [RunCell.load, found]
    simpa using validated

/-- The row of a run that was cancelled in time is read back. -/
theorem stored_rows_read_back_cancelled :
    ∃ pool row, Pool.run cancelledForward (Pool.initial _) = some pool ∧
      (pool.world.runs "run").chronicle.cell.run = some row ∧
      (row.status = .cancelled ∧ row.snapshot.activeBudget.isSome = true) ∧
      (pool.world.runs "run").chronicle.cell.load row.tenantId row.userId "run" =
        .ok row.snapshot := by
  obtain ⟨pool, performed, forward, isStored⟩ := Pool.exists_of_run
    (fun pool : Pool (machine Deployment.codec) =>
      (pool.world.runs "run").log.all (fun event => !event.cancelsBackwards) = true ∧
        (pool.world.runs "run").chronicle.cell.run.map (fun row =>
          (row.status, row.snapshot.activeBudget.isSome)) = some (.cancelled, true))
    cancelledForward (by decide +kernel)
  obtain ⟨row, found, isCancelled⟩ := Option.map_eq_some_iff.mp isStored
  exact ⟨pool, row, performed, found, Prod.mk.inj isCancelled,
    stored_rows_read_back.2 pool "run" ⟨_, performed⟩ (cancelForward_of_check forward) row found⟩

/-- A cancellation on a clock that went back leaves a deadline before the start, and the
row can no longer be read. -/
theorem cancelled_row_is_invalid :
    ∃ pool, Pool.run cancelledBackwards (Pool.initial _) = some pool ∧
      (pool.world.runs "run").chronicle.cell.run.map (fun row =>
        (row.status, row.snapshot.startedAt, row.snapshot.deadlineAt)) =
          some (.cancelled, 1000, 620) ∧
      ((pool.world.runs "run").chronicle.cell.load "tenant" "user" "run").map (fun _ => ()) =
        .error (.durable "DURABLE_SNAPSHOT_INVALID") :=
  Pool.exists_of_run (m := machine Deployment.codec) _ _ (by decide +kernel)

/-! ## Ledger and snapshot -/

/-- What every reachable run keeps, a step of the service keeps. -/
theorem run_persistent (property : RunState → Prop)
    (kept : ∀ task state next, RunReachable codec (Origin codec runId) state →
      RunStep codec (Origin codec runId) task state next → property state → property next) :
    (discipline codec).Persistent fun world => property (world.runs runId) := by
  intro actor world next safe step holds
  rcases step.runs runId with same | ⟨stepped, _⟩
  · rw [same]
    exact holds
  · exact kept actor.index _ _ (safe.runs runId) stepped holds

/-- The started entry of an unfinished run is its pending call; no two dispatches share a
call id; completed entries stay; and the error branches over ledger and phase are taken
only by a worker whose snapshot is no longer the stored one, two of them by nobody. -/
theorem ledger_agrees_with_snapshot (reachable : pool.Reachable) (runId : String) :
    (∀ snapshot, (pool.world.runs runId).stored = some snapshot →
      snapshot.status.terminal = false →
      (∀ row ∈ (pool.world.runs runId).ledger,
        (row.entry.status = .started ↔ snapshot.pendingCallId = some row.entry.callId) ∧
        (row.entry.status = .started → ∃ decision, snapshot.decision = some decision ∧
          row.entry.actionDigest = codec.decisionDigest decision)) ∧
      ∀ callId, snapshot.pendingCallId = some callId →
        ∃ row ∈ (pool.world.runs runId).ledger, row.entry.callId = callId) ∧
    ((pool.world.runs runId).log.filterMap Event.dispatched).Nodup ∧
    (∀ row ∈ (pool.world.runs runId).ledger, row.entry.status = .completed →
      ∀ moves later, Pool.run moves pool = some later →
        row ∈ (later.world.runs runId).ledger ∨ (later.world.runs runId).stored = none) ∧
    ∀ move next task code snapshot, pool.move move = some next →
      (next.world.runs runId).log = .raised task code snapshot :: (pool.world.runs runId).log →
      (code = "DURABLE_LEDGER_INVALID" ∨ code = "DURABLE_LEDGER_MISSING") ∧
        (pool.world.runs runId).stored ≠ some snapshot := by
  have run := pool_refines reachable runId
  have agreement := run.ledgerAgrees origin_fresh
  refine ⟨?_, run.dispatched_nodup, ?_, ?_⟩
  · intro snapshot stored live
    have agrees := agreement.2 snapshot stored
    constructor
    · intro row isIn
      have pendingRow : ∀ callId, snapshot.pendingCallId = some callId →
          row.entry.callId = callId → row.entry.status = .started ∧ ∃ decision,
            snapshot.decision = some decision ∧
              row.entry.actionDigest = codec.decisionDigest decision := by
        intro callId pending named
        obtain ⟨_, hasOther, otherNamed, started, digest⟩ := agrees.pending callId pending
        obtain rfl := agrees.unique isIn hasOther (named.trans otherNamed.symm)
        exact ⟨started, digest⟩
      constructor
      · constructor
        · exact agrees.started live row isIn
        · intro pending
          exact (pendingRow _ pending rfl).1
      · intro started
        exact (pendingRow _ (agrees.started live row isIn started) rfl).2
    · intro callId pending
      obtain ⟨row, isIn, named, _⟩ := agrees.pending callId pending
      exact ⟨row, isIn, named⟩
  · intro row isIn completed moves later performed
    have kept : EntryKept row (pool.world.runs runId) := by
      refine ⟨fun unborn => ?_, Or.inl isIn⟩
      rw [agreement.1 unborn] at isIn
      cases isIn
    have persistent : (discipline codec).Persistent fun world =>
        EntryKept row (world.runs runId) :=
      run_persistent (EntryKept row) fun task state next reached step =>
        (step.effect reached.fenced).entryKept origin_fresh reached completed
    exact ((discipline_sound codec).keeps persistent reachable kept performed).2
  · intro move next task code snapshot moved logged
    rcases (discipline_sound codec).move reachable moved with same | ⟨_, _, _, step⟩
    · rw [same] at logged
      exact absurd logged.symm (List.cons_ne_self _ _)
    · rcases step.runs runId with same | ⟨stepped, _⟩
      · rw [same] at logged
        exact absurd logged.symm (List.cons_ne_self _ _)
      · have noted := (stepped.effect run.fenced).noted_of_log logged rfl
        exact run.raised_stale origin_fresh noted

/-- The entry of a dispatched call is the pending one while its handler runs. -/
theorem ledger_agrees_with_snapshot_entered :
    ∃ pool snapshot, Pool.run handlerEntered (Pool.initial _) = some pool ∧
      (pool.world.runs "run").stored = some snapshot ∧
      snapshot.pendingCallId = some "run-step-1-tool-1" ∧
      ∃ row ∈ (pool.world.runs "run").ledger, row.entry.callId = "run-step-1-tool-1" := by
  obtain ⟨pool, performed, isStored⟩ := Pool.exists_of_run
    (fun pool : Pool (machine Deployment.codec) =>
      (pool.world.runs "run").stored.map (fun snapshot =>
        (snapshot.status.terminal, snapshot.pendingCallId)) =
          some (false, some "run-step-1-tool-1"))
    handlerEntered (by decide +kernel)
  obtain ⟨snapshot, stored, facts⟩ := Option.map_eq_some_iff.mp isStored
  simp only [Prod.mk.injEq] at facts
  exact ⟨pool, snapshot, performed, stored, facts.2,
    ((ledger_agrees_with_snapshot ⟨_, performed⟩ "run").1 snapshot stored facts.1).2 _ facts.2⟩

/-- The code of an error branch that the event records. -/
def raisedCode : Event → Option String
  | .raised _ code _ => some code
  | _ => none

/-- A worker whose lease has ended reads the ledger for a snapshot that is replaced
meanwhile, and finds the entry of its pending call completed. -/
theorem stale_worker_raises_ledger_invalid :
    ∃ pool, Pool.run staleLookup (Pool.initial _) = some pool ∧
      (pool.world.runs "run").log.filterMap raisedCode = ["DURABLE_LEDGER_INVALID"] ∧
      (pool.world.runs "run").ledger.map (fun row => (row.entry.callId, row.entry.status)) =
        [("run-step-1-tool-1", .completed)] ∧
      (pool.world.runs "run").stored.map (fun snapshot =>
        (snapshot.revision, snapshot.status, snapshot.pendingCallId)) =
          some (4, .running, none) :=
  Pool.exists_of_run (m := machine Deployment.codec) _ _ (by decide +kernel)

/-! ## Runs that are over -/

/-- What a finished run still writes down commits nothing. -/
def OnlyAdds (log : List Event) (state : RunState) : Prop :=
  ∃ newer, state.log = newer ++ log ∧ ∀ event ∈ newer, event.commits = false

/-- The legacy row shows the durable status, and a run that is over stays as it is under
whatever transactions and schedules follow: it cannot be claimed, saved or cancelled. -/
theorem terminal_runs_are_final (reachable : pool.Reachable) (runId : String) :
    ∀ row, (pool.world.runs runId).chronicle.cell.run = some row →
      ∃ legacy, (pool.world.runs runId).chronicle.cell.legacy = some legacy ∧
        legacy.status = RunCell.legacyStatus row.snapshot.status ∧
        (row.snapshot.status.terminal = true →
          (∀ operations : List Operation, Final row (pool.world.runs runId).ledger legacy
            (operations.foldl (Chronicle.step codec) (pool.world.runs runId).chronicle).cell) ∧
          (∀ (operations : List Operation) (operation : Operation), operation.moves = true →
            ∃ failure,
            (operations.foldl (Chronicle.step codec) (pool.world.runs runId).chronicle).perform
              codec operation = .error failure) ∧
          ∀ moves later, Pool.run moves pool = some later →
            Final row (pool.world.runs runId).ledger legacy
              (later.world.runs runId).chronicle.cell ∧
            OnlyAdds (pool.world.runs runId).log (later.world.runs runId)) := by
  have run := pool_refines reachable runId
  intro row found
  obtain ⟨legacy, isLegacy, _, _, status⟩ := run.mirrors origin_fresh row found
  have columns := (run.fenced.stored row found).2.2
  refine ⟨legacy, isLegacy, by rw [status, columns], ?_⟩
  rw [← columns]
  intro ended
  have final : Final row (pool.world.runs runId).ledger legacy
      (pool.world.runs runId).chronicle.cell :=
    ⟨isLegacy, Or.inr ⟨rfl, row.leaseToken, row.leaseUntil, found⟩⟩
  refine ⟨final.run ended, ?_, ?_⟩
  · intro operations operation moves
    cases performed : (operations.foldl (Chronicle.step codec)
        (pool.world.runs runId).chronicle).perform codec operation with
    | error failure => exact ⟨failure, rfl⟩
    | ok answer =>
      have refused := ((final.run ended operations).perform ended performed).2.2.2
      rw [moves] at refused
      cases refused
  · intro moves later performed
    have persistent : (discipline codec).Persistent fun world =>
        Final row (pool.world.runs runId).ledger legacy (world.runs runId).chronicle.cell ∧
          OnlyAdds (pool.world.runs runId).log (world.runs runId) := by
      refine run_persistent (fun state =>
        Final row (pool.world.runs runId).ledger legacy state.chronicle.cell ∧
          OnlyAdds (pool.world.runs runId).log state) ?_
      rintro task state next _ step ⟨final, newer, log, quiet⟩
      obtain ⟨kept, _, event, logged, commitsNothing⟩ := step.final ended final
      refine ⟨kept, event :: newer, by rw [logged, log]; rfl, ?_⟩
      intro other isIn
      rcases List.mem_cons.mp isIn with rfl | older
      · exact commitsNothing
      · exact quiet other older
    exact (discipline_sound codec).keeps persistent reachable ⟨final, [], rfl, by simp⟩ performed

/-- The run a takeover ended shows `stopped` in its legacy row and stays as it is. -/
theorem terminal_runs_are_final_takenOver :
    ∃ pool row legacy, Pool.run (takenOver member ++ steps 5 29 (answer 40 false ""))
        (Pool.initial _) = some pool ∧
      (pool.world.runs "run").chronicle.cell.run = some row ∧
      row.snapshot.status = .interventionRequired ∧ legacy.status = .stopped ∧
      ∀ operations : List Operation, Final row (pool.world.runs "run").ledger legacy
        (operations.foldl (Chronicle.step Deployment.codec)
          (pool.world.runs "run").chronicle).cell := by
  obtain ⟨pool, performed, isStored⟩ := Pool.exists_of_run
    (fun pool : Pool (machine Deployment.codec) =>
      (pool.world.runs "run").chronicle.cell.run.map (·.snapshot.status) =
        some .interventionRequired)
    (takenOver member ++ steps 5 29 (answer 40 false "")) (by decide +kernel)
  obtain ⟨row, found, status⟩ := Option.map_eq_some_iff.mp isStored
  obtain ⟨legacy, _, mirrors, final⟩ := terminal_runs_are_final ⟨_, performed⟩ "run" row found
  rw [status] at mirrors final
  exact ⟨pool, row, legacy, performed, found, status, mirrors, (final rfl).1⟩

/-! ## Owners, stages and dispatches -/

/-- Every snapshot and ledger entry of a stored run names the owner of its row, and anybody
else is told that there is no such run. -/
theorem runs_are_isolated (reachable : pool.Reachable) (runId : String) :
    let cell := (pool.world.runs runId).chronicle.cell
    ∀ row, cell.run = some row →
      (∀ snapshot ∈ (pool.world.runs runId).committed, SameRun snapshot row.snapshot ∧
        snapshot.tenantId = row.tenantId ∧ snapshot.userId = row.userId) ∧
      (∀ entry ∈ cell.ledger, entry.tenantId = row.tenantId ∧ entry.userId = row.userId) ∧
      ∀ tenantId userId, ¬ (tenantId = row.tenantId ∧ userId = row.userId) →
        cell.load tenantId userId runId = .error (.domain ⟨"DURABLE_RUN_NOT_FOUND", 404⟩) := by
  intro cell row found
  have run := pool_refines reachable runId
  have newest := List.mem_of_head? (run.fenced.stored row found).1
  have owned := run.rowOwned row found
  simp only [RunRow.inScope, Bool.and_eq_true, beq_iff_eq] at owned
  refine ⟨?_, ?_, ?_⟩
  · intro snapshot known
    have same : SameRun snapshot row.snapshot :=
      run.sameRun.forall_of_forall (fun _ _ => .refl _) known newest
    rw [owned.1.2, owned.2]
    exact ⟨same, same.tenantId, same.userId⟩
  · rw [owned.1.2, owned.2]
    exact ((run.ledgerAgrees origin_fresh).2 _ (by rw [RunState.stored, found]; rfl)).owned
  · intro tenantId userId other
    obtain ⟨legacy, isLegacy, isTenant, isUser, _⟩ := run.mirrors origin_fresh row found
    grind [RunCell.load, RunCell.loadMissing]

/-- Another user of the tenant does not find a queued run. -/
theorem runs_are_isolated_queued :
    ∃ pool, Pool.run queued (Pool.initial _) = some pool ∧
      (pool.world.runs "run").chronicle.cell.load "tenant" "other" "run" =
        .error (.domain ⟨"DURABLE_RUN_NOT_FOUND", 404⟩) := by
  obtain ⟨pool, performed, owner⟩ := Pool.exists_of_run
    (fun pool : Pool (machine Deployment.codec) =>
      (pool.world.runs "run").chronicle.cell.run.map (·.userId) = some "user") queued
    (by decide +kernel)
  obtain ⟨row, found, isUser⟩ := Option.map_eq_some_iff.mp owner
  have isolated := (runs_are_isolated ⟨_, performed⟩ "run" row found).2.2
  exact ⟨pool, performed, isolated "tenant" "other" (by simp [isUser])⟩

/-- Every committed snapshot is within its budgets, and until the run is over it has a
pending call, a grant or an approval only while the tool of its decision is due. -/
theorem committed_snapshots_are_staged (reachable : pool.Reachable) (runId : String) :
    ∀ snapshot ∈ (pool.world.runs runId).committed, WithinBudget snapshot ∧
      (snapshot.status.terminal = false → Staged snapshot) := by
  intro snapshot known
  have run := pool_refines reachable runId
  exact ⟨run.withinBudget origin_fresh snapshot known, run.staged origin_fresh snapshot known⟩

/-- A run that waits for an approval has no call pending. -/
theorem committed_snapshots_are_staged_waiting :
    ∃ pool, Pool.run approvalRequested (Pool.initial _) = some pool ∧
      ∃ snapshot ∈ (pool.world.runs "run").committed,
        snapshot.status = .awaitingApproval ∧ Staged snapshot := by
  obtain ⟨pool, performed, snapshot, known, waits⟩ := Pool.exists_of_run
    (fun pool : Pool (machine Deployment.codec) => ∃ snapshot ∈ (pool.world.runs "run").committed,
      snapshot.status = .awaitingApproval) approvalRequested (by decide +kernel)
  have staged := (committed_snapshots_are_staged ⟨_, performed⟩ "run" snapshot known).2
  exact ⟨pool, performed, snapshot, known, waits, staged (by rw [waits]; rfl)⟩

/-- The ledger of a stored run has one entry for each dispatch in its log and no other, with
the replay policy the tool was dispatched with, and no more than its budget of calls. -/
theorem ledger_records_every_dispatch (reachable : pool.Reachable) (runId : String) :
    ∀ snapshot, (pool.world.runs runId).stored = some snapshot →
      ((pool.world.runs runId).ledger.map (·.entry.callId)).Perm
        ((pool.world.runs runId).log.filterMap Event.dispatched) ∧
      (∀ row ∈ (pool.world.runs runId).ledger, Sourced (pool.world.runs runId).log row) ∧
      (pool.world.runs runId).ledger.length ≤ snapshot.config.maxToolCalls := by
  intro snapshot stored
  have run := pool_refines reachable runId
  have sourced := run.sourced origin_fresh
  have permutes : ((pool.world.runs runId).ledger.map (·.entry.callId)).Perm
      ((pool.world.runs runId).log.filterMap Event.dispatched) := by
    have distinct := ((run.ledgerAgrees origin_fresh).2 snapshot stored).distinct
    rw [List.perm_ext_iff_of_nodup distinct run.dispatched_nodup]
    intro callId
    constructor
    · intro isIn
      obtain ⟨row, isRow, rfl⟩ := List.mem_map.mp isIn
      obtain ⟨_, _, _, _, isIn, pending, _⟩ := sourced row isRow
      exact List.mem_filterMap.mpr ⟨_, isIn, pending⟩
    · intro isIn
      exact List.mem_map.mpr (run.dispatch_listed origin_fresh snapshot stored callId isIn)
  refine ⟨permutes, sourced, ?_⟩
  have budget := (run.budgets origin_fresh (RunState.stored_committed run.fenced stored)).2
  rwa [← permutes.length_eq, List.length_map] at budget

/-- The one call that was dispatched when its handler was entered. -/
theorem ledger_records_every_dispatch_entered :
    ∃ pool, Pool.run handlerEntered (Pool.initial _) = some pool ∧
      ((pool.world.runs "run").ledger.map (·.entry.callId)).Perm ["run-step-1-tool-1"] := by
  obtain ⟨pool, performed, isStored, dispatched⟩ := Pool.exists_of_run
    (fun pool : Pool (machine Deployment.codec) => (pool.world.runs "run").stored.isSome = true ∧
      (pool.world.runs "run").log.filterMap Event.dispatched = ["run-step-1-tool-1"])
    handlerEntered (by decide +kernel)
  obtain ⟨snapshot, stored⟩ := Option.isSome_iff_exists.mp isStored
  have recorded := (ledger_records_every_dispatch ⟨_, performed⟩ "run" snapshot stored).1
  exact ⟨pool, performed, dispatched ▸ recorded⟩

end

end AegisRag.Agent.Durable.Service

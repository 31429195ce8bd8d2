import AegisRag.Agent.Durable.Dispatch

/-!
# The ledger against its error branches

A stored, unfinished snapshot and its ledger agree. The branches that raise
`DURABLE_LEDGER_INVALID` and `DURABLE_LEDGER_MISSING` can be taken only for a
snapshot that is no longer the stored one, since the read is no part of the
transaction that checks the revision.
-/

namespace AegisRag.Agent.Durable

open RunCell

variable {state next : RunState} {callId : String} {row : LedgerRow} {cell : RunCell}
  {ledger after : List LedgerRow} {entry : Option ToolLedgerEntry}

theorem bind_error {rest : α → Except Failure β} {failure : Failure} :
    (first >>= rest) = .error failure ↔
      first = .error failure ∨ ∃ value, first = .ok value ∧ rest value = .error failure := by
  cases first with
  | error raised => simp [bind, Except.bind]
  | ok value => simp [bind, Except.bind]

/-- A save refused over its ledger entry had passed the lease check. -/
theorem RunCell.save_immutable (refused : cell.save codec previous snapshot token now entry =
      .error (.durable "DURABLE_LEDGER_IMMUTABLE")) :
    ∃ row saved, cell.run = some row ∧ savable previous token now row = true ∧
      savedSnapshot previous snapshot now = .ok saved ∧
      recordLedger saved entry cell.ledger = .error (.durable "DURABLE_LEDGER_IMMUTABLE") := by
  unfold save at refused
  rcases bind_error.mp refused with unsettled | ⟨saved, settled, atPayload⟩
  · unfold savedSnapshot settleActive at unsettled
    split at unsettled
    · simp at unsettled
    · split at unsettled
      · simp [Failure.durable] at unsettled
      · simp at unsettled
  rcases bind_error.mp atPayload with tooLarge | ⟨_, _, atUpdate⟩
  · unfold Codec.persisted at tooLarge
    split at tooLarge
    · simp [Failure.durable, durableError] at tooLarge
    · simp at tooLarge
  rcases bind_error.mp atUpdate with unmatched | ⟨_, updated, atLedger⟩
  · have lost := guardedUpdate_error unmatched
    simp [Failure.durable, durableError] at lost
  obtain ⟨row, found, guard, rfl⟩ := guardedUpdate_ok.mp updated
  rcases bind_error.mp atLedger with unrecorded | ⟨ledger, _, returned⟩
  · exact ⟨row, saved, found, guard, settled, unrecorded⟩
  · simp at returned

/-- The ledger accepts the entry of every save that `_DurableExecution` issues. -/
theorem Admissible.recordable
    (admissible : Admissible codec task state site previous snapshot entry)
    (agrees : LedgerAgrees codec previous state.ledger) (current : state.Current previous)
    (settled : savedSnapshot previous snapshot now = .ok saved) (failure : Failure) :
    recordLedger saved entry state.ledger ≠ .error failure := by
  have same := (savedSnapshot_sameRun settled).trans admissible.sameRun
  -- The entry that closes the pending call replaces a started one.
  have replaceable : ∀ {callId found closing}, previous.pendingCallId = some callId →
      state.LedgerSeen previous callId found → closing.callId = found.callId →
      recordLedger saved (some closing) state.ledger ≠ .error failure := by
    intro callId found closing pending seen sameCall
    obtain ⟨_, _, _, named, _⟩ := ledgerEntry_ok (seen current)
    obtain ⟨row, hasRow, rowId, started, _⟩ := agrees.pending callId pending
    have located := agrees.find same hasRow
    rw [rowId, ← named, ← sameCall] at located
    simp [recordLedger, ledgerTransition, located, started]
  cases admissible with
  | markUnknown _ _ pending seen | afterDispatch _ _ pending seen
  | finishRejected _ _ pending seen => exact replaceable pending seen rfl
  | beforeDispatch =>
    intro refused
    simp only [recordLedger, ledgerTransition] at refused
    split at refused
    · simp at refused
    · -- The call number is new, so no row can be in the way.
      rename_i existing found
      have key := List.find?_some found
      simp only [ledgerKey, Bool.and_eq_true, beq_iff_eq] at key
      obtain ⟨step, number, named, _, bound⟩ :=
        agrees.numbered existing (List.mem_of_find?_eq_some found)
      rw [named] at key
      have numbers := toolCallEventId_number key.1.1
      omega
  | _ => simp [recordLedger]

section

/-- The calls a ledger has rows for. -/
def Listed (ledger : List LedgerRow) (callId : String) : Prop :=
  ∃ row ∈ ledger, row.entry.callId = callId

theorem LedgerChange.listed
    (change : LedgerChange previous saved ledger site after) (listed : Listed ledger callId) :
    Listed after callId := by
  obtain ⟨row, isIn, named⟩ := listed
  cases change with
  | untouched => exact ⟨row, isIn, named⟩
  | @closed _ entry =>
    have kept : callId ∈ (replaceEntry entry ledger).map (·.entry.callId) := by
      rw [replaceEntry_callIds]
      exact List.mem_map.mpr ⟨row, isIn, named⟩
    obtain ⟨replaced, isReplaced, sameId⟩ := List.mem_map.mp kept
    exact ⟨replaced, isReplaced, sameId⟩
  | opened => exact ⟨row, List.mem_append_left _ isIn, named⟩

/-- While a run is stored, its ledger lists every call that was dispatched. -/
theorem RunReachable.dispatch_listed (fresh : Origin ≤ Fresh)
    (reachable : RunReachable codec Origin state) :
    ∀ snapshot, state.stored = some snapshot →
      ∀ callId ∈ state.log.filterMap Event.dispatched, Listed state.ledger callId := by
  refine reachable.invariant (fun state => ∀ snapshot, state.stored = some snapshot →
    ∀ callId ∈ state.log.filterMap Event.dispatched, Listed state.ledger callId) ?_ ?_
  · simp [RunState.initial]
  · intro task state next reached listed effect snapshot isStored callId isIn
    cases effect with
    | created _ unborn leaves =>
      rw [leaves.log, List.filterMap_cons_none rfl, reached.numbered.unborn unborn] at isIn
      simp at isIn
    | claimed stored _ _ _ leaves | cancelled stored _ _ leaves =>
      rw [leaves.log, List.filterMap_cons_none rfl] at isIn
      rw [leaves.ledger]
      exact listed _ stored callId isIn
    | leased leaves =>
      rw [leaves.log, List.filterMap_cons_none rfl] at isIn
      rw [leaves.stored] at isStored
      rw [leaves.ledger]
      exact listed _ isStored callId isIn
    | purged leaves => simp [leaves.stored] at isStored
    | saved stored _ admissible _ settled recorded leaves =>
      have change := admissible.ledgerChange ((reached.ledgerAgrees fresh).2 _ stored)
        (RunState.current_iff.mpr stored) settled recorded
      rw [leaves.ledger]
      rw [leaves.log, List.mem_filterMap] at isIn
      obtain ⟨event, fromLog, dispatches⟩ := isIn
      rcases List.mem_cons.mp fromLog with rfl | older
      · obtain ⟨_, _, _, _, isEvent, pending⟩ := Event.dispatched_some dispatches
        cases isEvent
        obtain ⟨_, _, rfl⟩ := savedSnapshot_eq settled
        cases admissible with
        | beforeDispatch =>
          obtain ⟨row, hasRow, isEntry⟩ := recordLedger_mem recorded
          exact ⟨row, hasRow, by rw [isEntry]; exact Option.some.inj pending⟩
      · exact change.listed
          (listed _ stored callId (List.mem_filterMap.mpr ⟨event, older, dispatches⟩))
    | noted noted leaves =>
      have undispatched : ∀ event, Noted codec task state event → event.dispatched = none := by
        intro event noted
        cases noted <;> rfl
      rw [leaves.log, List.filterMap_cons_none (undispatched _ noted)] at isIn
      rw [leaves.stored] at isStored
      rw [leaves.ledger]
      exact listed _ isStored callId isIn

theorem LedgerAgrees.read (agrees : LedgerAgrees codec snapshot cell.ledger)
    (isIn : row ∈ cell.ledger) (named : row.entry.callId = callId) :
    cell.ledgerEntry snapshot callId = .ok row.entry := by
  have found := agrees.find ⟨rfl, rfl, rfl, rfl, rfl, rfl, rfl⟩ isIn
  rw [named] at found
  have accepted := agrees.readable row isIn
  simp only [ledgerEntry, found, accepted, if_true]

section

variable (fresh : Origin ≤ Fresh) (reachable : RunReachable codec Origin state)

include fresh reachable

theorem RunReachable.pending_read (stored : state.stored = some snapshot)
    (pending : snapshot.pendingCallId = some callId) :
    ∃ entry decision, state.chronicle.cell.ledgerEntry snapshot callId = .ok entry ∧
      entry.status = .started ∧ snapshot.decision = some decision ∧
      entry.actionDigest = codec.decisionDigest decision := by
  have agrees := (reachable.ledgerAgrees fresh).2 snapshot stored
  obtain ⟨row, hasRow, rowId, started, decision, decided, digest⟩ :=
    agrees.pending callId pending
  refine ⟨row.entry, decision, ?_, started, decided, digest⟩
  exact agrees.read hasRow rowId

/-- A read for the stored snapshot answers for every call a worker looks up. -/
theorem RunReachable.recorded_read (stored : state.stored = some snapshot)
    (recorded : state.Recorded task snapshot callId) :
    ∃ entry, state.chronicle.cell.ledgerEntry snapshot callId = .ok entry := by
  have agrees := (reachable.ledgerAgrees fresh).2 snapshot stored
  rcases recorded with pending | ⟨_, _, _, isIn, pending⟩
  · obtain ⟨entry, _, read, _⟩ := reachable.pending_read fresh stored pending
    exact ⟨entry, read⟩
  · obtain ⟨row, hasRow, named⟩ := reachable.dispatch_listed fresh snapshot stored callId
      (List.mem_filterMap.mpr ⟨_, isIn, pending⟩)
    exact ⟨row.entry, agrees.read hasRow named⟩

/-- An error branch over ledger or phase is taken only for a snapshot that is no
longer stored, and only for a ledger that was read. -/
theorem RunReachable.raised_stale (noted : Noted codec task state (.raised owner code snapshot)) :
    (code = "DURABLE_LEDGER_INVALID" ∨ code = "DURABLE_LEDGER_MISSING") ∧
      state.stored ≠ some snapshot := by
  cases noted with
  | @unreadable _ _ callId known recorded refused =>
    constructor
    · unfold ledgerEntry at refused
      split at refused
      · simp only [Except.error.injEq, Failure.durable, Failure.domain.injEq, durableError,
          DomainError.mk.injEq, and_true] at refused
        exact Or.inr refused.symm
      · split at refused
        · simp at refused
        · simp only [Except.error.injEq, Failure.durable, Failure.domain.injEq, durableError,
            DomainError.mk.injEq, and_true] at refused
          exact Or.inl refused.symm
    · intro stored
      obtain ⟨entry, read⟩ := reachable.recorded_read fresh stored recorded
      rw [read] at refused
      simp at refused
  | mismatch known pending decided seen differs =>
    refine ⟨Or.inl rfl, ?_⟩
    intro stored
    obtain ⟨entry, _, read, started, isDecision, digest⟩ :=
      reachable.pending_read fresh stored pending
    have seenNow := seen (RunState.current_iff.mpr stored)
    rw [read] at seenNow
    cases seenNow
    rw [decided, Option.some.injEq] at isDecision
    rcases differs with other | completed
    · exact other (by rw [digest, isDecision])
    · rw [started] at completed
      cases completed
  | phaseInvalid known running phase =>
    have staged := reachable.staged fresh snapshot known (by rw [running]; rfl)
    exact absurd phase staged.unfinished
  | immutable known admissible refused =>
    obtain ⟨row, _, found, savable, settled, unrecorded⟩ := RunCell.save_immutable refused
    simp only [RunCell.savable, Bool.and_eq_true, beq_iff_eq, Bool.not_eq_true'] at savable
    have current : row.snapshot = snapshot :=
      reachable.fenced.current found known savable.1.1.2
    have stored : state.stored = some snapshot := by simp [RunState.stored, found, current]
    exact absurd unrecorded (admissible.recordable
      ((reachable.ledgerAgrees fresh).2 snapshot stored) (RunState.current_iff.mpr stored)
      settled _)

end

end

/-! ## Completed entries -/

theorem LedgerChange.completed_kept (change : LedgerChange previous saved ledger site after)
    (agrees : LedgerAgrees codec previous ledger) (isIn : row ∈ ledger)
    (completed : row.entry.status = .completed) : row ∈ after := by
  cases change with
  | untouched => exact isIn
  | @closed _ entry pending closed policy =>
    refine List.mem_map.mpr ⟨row, isIn, ?_⟩
    rw [if_neg]
    intro named
    obtain ⟨open_, hasOpen, openId, started, _⟩ := agrees.pending _ pending
    have same : row = open_ := agrees.unique isIn hasOpen (by rw [named, openId])
    rw [same, started] at completed
    cases completed
  | opened => exact List.mem_append_left _ isIn

section

variable (fresh : Origin ≤ Fresh) (reached : RunReachable codec Origin state)
  (effect : Effect codec Origin task state next)

include fresh reached effect

/-- A completed entry stays as it is for as long as the run is stored. -/
theorem Effect.completed_kept
    (isIn : row ∈ state.ledger) (completed : row.entry.status = .completed) :
    row ∈ next.ledger ∨ next.stored = none := by
  cases effect with
  | created _ _ leaves | claimed _ _ _ _ leaves | leased leaves | cancelled _ _ _ leaves
  | noted _ leaves =>
    rw [leaves.ledger]
    exact Or.inl isIn
  | purged leaves => exact Or.inr leaves.stored
  | saved stored _ admissible _ settled recorded leaves =>
    rw [leaves.ledger]
    have agrees := (reached.ledgerAgrees fresh).2 _ stored
    have change := admissible.ledgerChange agrees (RunState.current_iff.mpr stored) settled
      recorded
    exact Or.inl (change.completed_kept agrees isIn completed)

/-- The entry stands in the ledger of a run, or the run was purged. -/
def EntryKept (row : LedgerRow) (state : RunState) : Prop :=
  state.committed ≠ [] ∧ (row ∈ state.ledger ∨ state.stored = none)

/-- Whatever follows, a completed entry is kept until its run is purged. -/
theorem Effect.entryKept (completed : row.entry.status = .completed) (kept : EntryKept row state) :
    EntryKept row next := by
  obtain ⟨born, isKept⟩ := kept
  constructor
  · obtain ⟨_, isIn⟩ := List.exists_mem_of_ne_nil _ born
    exact List.ne_nil_of_mem (effect.committed_kept isIn)
  rcases isKept with isIn | gone
  · exact effect.completed_kept fresh reached isIn completed
  -- Nothing is inserted again where a run once was, and nothing else moves an absent row.
  · cases effect with
    | created _ unborn _ => exact absurd unborn born
    | claimed stored _ _ _ _ | cancelled stored _ _ _ | saved stored _ _ _ _ _ _ =>
      rw [gone] at stored
      cases stored
    | leased leaves | noted _ leaves => exact Or.inr (leaves.stored.trans gone)
    | purged leaves => exact Or.inr leaves.stored

end

end AegisRag.Agent.Durable

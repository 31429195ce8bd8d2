import AegisRag.Agent.Durable.Effects

/-!
# Invariants of a run

What holds of the stored snapshot and the tool ledger after any steps of any
workers: an unfinished snapshot carries a pending call, a grant or an approval
only in the phase that made it, and the ledger has a started entry exactly for
the pending call.
-/

namespace AegisRag.Agent.Durable

open RunCell

/-! ## Call identifiers -/

private theorem digits_before_dash {first second : List Char} {left right : Nat}
    (same : first ++ '-' :: Nat.toDigits 10 left = second ++ '-' :: Nat.toDigits 10 right) :
    Nat.toDigits 10 left = Nat.toDigits 10 right := by
  -- Read from the right, the digits are what stands before the first dash.
  have tail : ∀ (start : List Char) (number : Nat),
      (start ++ '-' :: Nat.toDigits 10 number).reverse.takeWhile (· != '-') =
        (Nat.toDigits 10 number).reverse := by
    intro start number
    have digits : ∀ char ∈ (Nat.toDigits 10 number).reverse, (char != '-') = true := by
      intro char isIn
      have isDigit := Nat.isDigit_of_mem_toDigits (by omega) (by omega) (List.mem_reverse.mp isIn)
      rw [bne_iff_ne]
      rintro rfl
      simp [Char.isDigit] at isDigit
    rw [List.reverse_append, List.reverse_cons, List.append_assoc,
      List.takeWhile_append_of_pos digits]
    simp
  have reversed := congrArg (fun chars => chars.reverse.takeWhile (· != '-')) same
  simp only [tail] at reversed
  exact List.reverse_injective reversed

variable {codec : Codec} {task : Nat} {state next : RunState}
  {previous snapshot saved first second : DurableSnapshot} {now : Seconds} {site : Site}
  {entry : ToolLedgerEntry} {callId : String} {ledger after : List LedgerRow}

/-- The call id of a run determines the number of the tool call. -/
theorem toolCallEventId_number
    (same : toolCallEventId runId step number = toolCallEventId runId otherStep otherNumber) :
    max number 1 = max otherNumber 1 := by
  have chars := congrArg String.toList same
  simp only [toolCallEventId, String.toList_append] at chars
  have dash : "-tool-".toList = ['-', 't', 'o', 'o', 'l'] ++ ['-'] := by decide
  rw [dash] at chars
  simp only [← List.append_assoc] at chars
  rw [List.append_assoc _ ['-'], List.append_assoc _ ['-']] at chars
  have digits : ∀ value : Nat, (toString value).toList = Nat.toDigits 10 value := by
    intro value
    simp [toString, Nat.repr]
  rw [digits (max number 1), digits (max otherNumber 1)] at chars
  have equal := digits_before_dash chars
  refine Nat.repr_inj.mp ?_
  rw [Nat.repr, Nat.repr, equal]

/-! ## Fencing -/

theorem RunStep.fenced (fenced : state.chronicle.Fenced)
    (step : RunStep codec Origin task state next) : next.chronicle.Fenced := by
  have transaction : ∀ {operation returned after}, state.chronicle.Knows operation →
      state.chronicle.perform codec operation = .ok (returned, after) → after.Fenced := by
    intro operation returned after known performed
    have stepped : (state.chronicle.step codec operation).Fenced := fenced.step known
    rw [Chronicle.step, performed] at stepped
    exact stepped
  cases step with
  | @insert operation snapshot _ _ inserted _ performed =>
    refine transaction ?_ performed
    cases operation <;> simp_all [Operation.inserted, Chronicle.Knows, Operation.subject]
  | lease _ known performed => exact transaction known performed
  | cancel known performed | save known _ _ performed =>
    refine transaction ?_ performed
    intro snapshot subject
    cases subject
    exact known
  | @purge tenantId now expired =>
    have known : state.chronicle.Knows (.purge tenantId now) := by
      intro snapshot subject
      simp [Operation.subject] at subject
    have performed : state.chronicle.perform codec (.purge tenantId now) =
        .ok (none, { state.chronicle with cell := state.chronicle.cell.purge tenantId }) := by
      simp [Chronicle.perform, expired]
    exact transaction known performed
  | note _ => exact fenced

theorem RunReachable.fenced (reachable : RunReachable codec Origin state) :
    state.chronicle.Fenced := by
  induction reachable with
  | initial => exact Chronicle.Fenced.initial
  | step _ step ih => exact step.fenced ih

/-- A property that the effects keep holds of every reachable run. -/
theorem RunReachable.invariant (property : RunState → Prop) (start : property .initial)
    (kept : ∀ task state next, RunReachable codec Origin state → property state →
      Effect codec Origin task state next → property next)
    (reachable : RunReachable codec Origin state) : property state := by
  induction reachable with
  | initial => exact start
  | step reachable step ih =>
    exact kept _ _ _ reachable ih (step.effect reachable.fenced)

/-- One snapshot committed directly above another. -/
inductive Successor (codec : Codec) (state : RunState) (previous : DurableSnapshot) :
    DurableSnapshot → Prop
  | claimed {budget : DurableActiveBudget} {leaseUntil : Option Seconds} {now : Seconds}
      {activateBudget : Bool} (active : previous.activeBudget = some budget)
      (forward : previous.lastObservedAt ≤ now) :
      Successor codec state previous (previous.claimed budget leaseUntil now activateBudget)
  | cancelled {saved : DurableSnapshot} {now : Seconds}
      (settled : RunCell.cancelledSnapshot previous now = .ok saved) :
      Successor codec state previous saved
  | saved {task : Nat} {site : Site} {snapshot saved : DurableSnapshot} {now : Seconds}
      {entry : Option ToolLedgerEntry}
      (admissible : Admissible codec task state site previous snapshot entry)
      (forward : previous.lastObservedAt ≤ now)
      (settled : savedSnapshot previous snapshot now = .ok saved) :
      Successor codec state previous saved

/-- What a step commits: nothing, the first snapshot, or a successor of the stored one. -/
theorem Effect.commits (effect : Effect codec Origin task state next) :
    next.committed = state.committed ∨
      (∃ snapshot, Origin snapshot ∧ next.committed = [snapshot]) ∨
      ∃ previous saved, state.stored = some previous ∧ previous.status.terminal = false ∧
        Successor codec state previous saved ∧ next.committed = saved :: state.committed := by
  cases effect with
  | created origin _ leaves => exact Or.inr (Or.inl ⟨_, origin, leaves.committed⟩)
  | claimed stored live active forward leaves =>
    exact Or.inr (Or.inr ⟨_, _, stored, live, .claimed active forward, leaves.committed⟩)
  | leased leaves | purged leaves | noted _ leaves => exact Or.inl leaves.committed
  | cancelled stored live settled leaves =>
    exact Or.inr (Or.inr ⟨_, _, stored, live, .cancelled settled, leaves.committed⟩)
  | saved stored live admissible forward settled _ leaves =>
    exact Or.inr (Or.inr ⟨_, _, stored, live, .saved admissible forward settled,
      leaves.committed⟩)

/-- A property of snapshots that holds of new runs and passes to successors holds
of every committed snapshot. -/
theorem RunReachable.everyCommitted (property : DurableSnapshot → Prop)
    (start : ∀ snapshot, Origin snapshot → property snapshot)
    (kept : ∀ state previous saved, RunReachable codec Origin state →
      state.stored = some previous → previous.status.terminal = false → property previous →
      Successor codec state previous saved → property saved)
    (reachable : RunReachable codec Origin state) :
    ∀ snapshot ∈ state.committed, property snapshot := by
  refine reachable.invariant (fun state => ∀ snapshot ∈ state.committed, property snapshot) ?_ ?_
  · simp [RunState.committed, RunState.initial, Chronicle.initial]
  · intro task state next reached holds effect
    rcases effect.commits with same | ⟨snapshot, origin, first⟩ |
      ⟨previous, saved, stored, live, successor, extended⟩
    · rw [same]
      exact holds
    · rw [first]
      simpa using start snapshot origin
    · have previously := holds previous (RunState.stored_committed reached.fenced stored)
      rw [extended]
      intro snapshot isIn
      rcases List.mem_cons.mp isIn with rfl | older
      · exact kept state previous _ reached stored live previously successor
      · exact holds snapshot older

/-- A transitive relation that holds from each snapshot to its successor links the whole
history. -/
theorem RunReachable.committedPairwise {relation : DurableSnapshot → DurableSnapshot → Prop}
    (transitive : IsTrans DurableSnapshot relation)
    (linked : ∀ {state previous saved},
      Successor codec state previous saved → relation saved previous)
    (reachable : RunReachable codec Origin state) : state.committed.Pairwise relation := by
  rw [← List.isChain_iff_pairwise]
  refine reachable.invariant (fun state => state.committed.IsChain relation) ?_ ?_
  · exact List.IsChain.nil
  · intro task state next reached holds effect
    rcases effect.commits with same | ⟨snapshot, _, first⟩ |
      ⟨previous, saved, stored, _, successor, extended⟩
    · rw [same]
      exact holds
    · rw [first]
      exact List.IsChain.singleton snapshot
    · obtain ⟨row, found, rfl⟩ := RunState.current_iff.mpr stored
      have head := (reached.fenced.stored row found).1
      rw [extended, List.isChain_cons]
      refine ⟨?_, holds⟩
      intro older isHead
      obtain rfl : row.snapshot = older := by
        rw [RunState.committed, head, Option.mem_some_iff] at isHead
        exact isHead
      exact linked successor

/-! ## The stored snapshot -/

/-- What the columns of a new run hold. -/
structure Fresh (snapshot : DurableSnapshot) : Prop where
  running : snapshot.status = .running
  deciding : snapshot.phase = .decision
  idle : snapshot.pendingCallId = none
  ungranted : snapshot.approvedActionDigest = none
  steps : snapshot.stepsUsed = 0
  toolCalls : snapshot.toolCallsUsed = 0

/-- An unfinished snapshot has a pending call, a grant or an approval only while
the tool of its decision is due. -/
structure Staged (snapshot : DurableSnapshot) : Prop where
  unfinished : snapshot.phase ≠ .done
  outside : snapshot.phase ≠ .tool → snapshot.status = .running ∧
    snapshot.pendingCallId = none ∧ snapshot.approvedActionDigest = none
  due : snapshot.phase = .tool → snapshot.decision.isSome
  awaiting : snapshot.status = .awaitingApproval → snapshot.pendingCallId = none

theorem Fresh.staged (fresh : Fresh snapshot) : Staged snapshot := by
  refine ⟨?_, ?_, ?_, ?_⟩
  · simp [fresh.deciding]
  · intro _
    exact ⟨fresh.running, fresh.idle, fresh.ungranted⟩
  · simp [fresh.deciding]
  · simp [fresh.running]

/-- The part of a snapshot that no claim, settlement or revision touches. -/
structure SameStage (first second : DurableSnapshot) : Prop where
  status : first.status = second.status
  phase : first.phase = second.phase
  decision : first.decision = second.decision
  pending : first.pendingCallId = second.pendingCallId
  action : first.approvedActionDigest = second.approvedActionDigest

theorem Staged.transfer (staged : Staged first) (same : SameStage first second) :
    Staged second := by
  obtain ⟨status, phase, decision, pending, action⟩ := same
  refine ⟨?_, ?_, ?_, ?_⟩
  · rw [← phase]
    exact staged.unfinished
  · rw [← phase, ← status, ← pending, ← action]
    exact staged.outside
  · rw [← phase, ← decision]
    exact staged.due
  · rw [← status, ← pending]
    exact staged.awaiting

theorem savedSnapshot_sameStage
    (settled : savedSnapshot previous snapshot now = .ok saved) :
    SameStage snapshot saved := by
  have frame := savedSnapshot_frame settled
  constructor <;> rw [frame]

theorem claimed_sameStage (snapshot : DurableSnapshot) (budget : DurableActiveBudget)
    (leaseUntil : Option Seconds) (now : Seconds) (activateBudget : Bool) :
    SameStage snapshot (snapshot.claimed budget leaseUntil now activateBudget) :=
  ⟨rfl, rfl, rfl, rfl, rfl⟩

theorem AgentRunStatus.durable_terminal (status : AgentRunStatus) :
    status.durable.terminal = true := by
  cases status <;> rfl

/-- Every save that leaves a run unfinished leaves it well staged. -/
theorem Admissible.staged {entry : Option ToolLedgerEntry}
    (admissible : Admissible codec task state site previous snapshot entry)
    (staged : Staged previous) (live : snapshot.status.terminal = false) : Staged snapshot := by
  cases admissible with
  | approve awaiting _ _ =>
    -- A run awaits approval only in the tool phase, where grants are kept.
    have tool : previous.phase = .tool := by
      by_contra outside
      have running := (staged.outside outside).1
      rw [awaiting] at running
      cases running
    exact ⟨staged.unfinished, fun outside => absurd tool outside, staged.due, by simp⟩
  | reserve running phase _ => exact ⟨staged.unfinished, staged.outside, staged.due,
      staged.awaiting⟩
  | decided running phase _ =>
    have outside := staged.outside (by simp [phase])
    refine ⟨?_, fun _ => outside, by simp, fun _ => outside.2.1⟩
    simp only [AgentStepDecision.nextPhase]
    split <;> simp
  | markUnknown running phase _ _ _ =>
    exact ⟨staged.unfinished, fun outside => absurd phase outside, staged.due, by simp⟩
  | requestApproval _ phase idle =>
    exact ⟨staged.unfinished, fun outside => absurd phase outside, staged.due, fun _ => idle⟩
  | beforeDispatch running phase _ _ _ _ _ _ =>
    refine ⟨staged.unfinished, fun outside => absurd phase outside, staged.due, ?_⟩
    simp [running]
  | afterDispatch running _ _ _ _ =>
    exact ⟨by simp, fun _ => ⟨running, rfl, rfl⟩, by simp, fun _ => rfl⟩
  | clearGrant running _ idle =>
    exact ⟨by simp, fun _ => ⟨running, idle, rfl⟩, by simp, fun _ => idle⟩
  | failure code =>
    simp only [DurableSnapshot.stopped] at live
    split at live <;> simp [DurableStatus.terminal] at live
  | finishDecision | finishValidation | finishToolLimit | finishRejected | finishTool =>
    simp [DurableSnapshot.finished, AgentRunResult.atLeast,
      AgentRunStatus.durable_terminal] at live
  | _ => simp [DurableSnapshot.stopped, DurableStatus.terminal] at live

/-- In every reachable run an unfinished snapshot is well staged. -/
theorem RunReachable.staged (fresh : Origin ≤ Fresh) (reachable : RunReachable codec Origin state) :
    ∀ snapshot ∈ state.committed, snapshot.status.terminal = false → Staged snapshot := by
  refine reachable.everyCommitted (fun snapshot => snapshot.status.terminal = false →
    Staged snapshot) ?_ ?_
  · intro snapshot origin _
    exact (fresh snapshot origin).staged
  · intro state previous saved _ _ live staged successor unfinished
    cases successor with
    | claimed _ _ => exact (staged live).transfer (claimed_sameStage ..)
    | cancelled settled =>
      rw [cancelledSnapshot_frame settled] at unfinished
      simp [DurableStatus.terminal] at unfinished
    | saved admissible _ settled =>
      have same := savedSnapshot_sameStage settled
      rw [← same.status] at unfinished
      exact (admissible.staged (staged live) unfinished).transfer same

/-! ## What a run keeps for ever -/

/-- Two snapshots of one run: same identity, budgets and tools that need approval. -/
structure SameRun (first second : DurableSnapshot) : Prop where
  runId : first.runId = second.runId
  tenantId : first.tenantId = second.tenantId
  userId : first.userId = second.userId
  config : first.config = second.config
  approvalTools : first.approvalTools = second.approvalTools
  startup : first.startup = second.startup
  expiresAt : first.expiresAt = second.expiresAt

theorem SameRun.refl (snapshot : DurableSnapshot) : SameRun snapshot snapshot :=
  ⟨rfl, rfl, rfl, rfl, rfl, rfl, rfl⟩

theorem SameRun.symm (same : SameRun first second) : SameRun second first :=
  ⟨same.runId.symm, same.tenantId.symm, same.userId.symm, same.config.symm,
    same.approvalTools.symm, same.startup.symm, same.expiresAt.symm⟩

instance : Std.Symm SameRun := ⟨fun _ _ same => same.symm⟩

theorem SameRun.trans {third : DurableSnapshot} (left : SameRun first second)
    (right : SameRun second third) : SameRun first third :=
  ⟨left.runId.trans right.runId, left.tenantId.trans right.tenantId,
    left.userId.trans right.userId, left.config.trans right.config,
    left.approvalTools.trans right.approvalTools, left.startup.trans right.startup,
    left.expiresAt.trans right.expiresAt⟩

theorem Admissible.sameRun {entry : Option ToolLedgerEntry}
    (admissible : Admissible codec task state site previous snapshot entry) :
    SameRun snapshot previous := by
  cases admissible <;> exact ⟨rfl, rfl, rfl, rfl, rfl, rfl, rfl⟩

theorem savedSnapshot_sameRun (settled : savedSnapshot previous snapshot now = .ok saved) :
    SameRun saved snapshot := by
  have frame := savedSnapshot_frame settled
  constructor <;> rw [frame]

theorem Successor.sameRun
    (successor : Successor codec state previous saved) : SameRun saved previous := by
  cases successor with
  | claimed _ _ => exact ⟨rfl, rfl, rfl, rfl, rfl, rfl, rfl⟩
  | cancelled settled =>
    have frame := cancelledSnapshot_frame settled
    constructor <;> rw [frame]
  | saved admissible _ settled => exact (savedSnapshot_sameRun settled).trans admissible.sameRun

/-! ## The ledger -/

/-- The ledger of a stored snapshot: its entries are numbered calls of the run, and in
an unfinished run the pending call has the only started one. -/
structure LedgerAgrees (codec : Codec) (snapshot : DurableSnapshot) (ledger : List LedgerRow) :
    Prop where
  owned : ∀ row ∈ ledger, row.tenantId = snapshot.tenantId ∧ row.userId = snapshot.userId
  distinct : (ledger.map (·.entry.callId)).Nodup
  numbered : ∀ row ∈ ledger, ∃ step number,
    row.entry.callId = toolCallEventId snapshot.runId step number ∧
      1 ≤ number ∧ number ≤ snapshot.toolCallsUsed
  readable : ∀ row ∈ ledger, row.entry.observation.all AgentObservationSummary.accepted = true
  pending : ∀ callId, snapshot.pendingCallId = some callId →
    ∃ row ∈ ledger, row.entry.callId = callId ∧ row.entry.status = .started ∧
      ∃ decision, snapshot.decision = some decision ∧
        row.entry.actionDigest = codec.decisionDigest decision
  started : snapshot.status.terminal = false → ∀ row ∈ ledger, row.entry.status = .started →
    snapshot.pendingCallId = some row.entry.callId

section

theorem LedgerAgrees.nil (idle : snapshot.pendingCallId = none) :
    LedgerAgrees codec snapshot [] := by
  refine ⟨by simp, by simp, by simp, by simp, ?_, by simp⟩
  intro callId pending
  simp [idle] at pending

/-- The ledger keeps agreeing when a step leaves it alone and keeps the pending
call together with its decision, or ends the run without one. -/
theorem LedgerAgrees.keep (agrees : LedgerAgrees codec previous ledger)
    (live : previous.status.terminal = false) (same : SameRun saved previous)
    (calls : previous.toolCallsUsed ≤ saved.toolCallsUsed)
    (pending : saved.pendingCallId = previous.pendingCallId ∨
      saved.status.terminal = true ∧ saved.pendingCallId = none)
    (decision : saved.pendingCallId = none ∨ saved.decision = previous.decision) :
    LedgerAgrees codec saved ledger := by
  refine ⟨?_, agrees.distinct, ?_, agrees.readable, ?_, ?_⟩
  · rw [same.tenantId, same.userId]
    exact agrees.owned
  · intro row isIn
    obtain ⟨step, number, callId, positive, bound⟩ := agrees.numbered row isIn
    exact ⟨step, number, by rw [same.runId]; exact callId, positive, by omega⟩
  · intro callId isPending
    rcases decision with idle | sameDecision
    · simp [idle] at isPending
    · rcases pending with kept | ⟨_, idle⟩
      · rw [sameDecision]
        exact agrees.pending callId (by rw [← kept]; exact isPending)
      · simp [idle] at isPending
  · intro unfinished row isIn started
    rcases pending with kept | ⟨ended, _⟩
    · rw [kept]
      exact agrees.started live row isIn started
    · rw [unfinished] at ended
      cases ended

theorem ledgerEntry_ok {cell : RunCell} (read : cell.ledgerEntry snapshot callId = .ok entry) :
    ∃ row ∈ cell.ledger, row.entry = entry ∧ entry.callId = callId ∧
      entry.observation.all AgentObservationSummary.accepted = true := by
  unfold ledgerEntry at read
  split at read
  · simp at read
  · rename_i row found
    split at read
    · rename_i accepted
      cases read
      have key := List.find?_some found
      simp only [ledgerKey, Bool.and_eq_true, beq_iff_eq] at key
      exact ⟨row, List.mem_of_find?_eq_some found, rfl, key.1.1, accepted⟩
    · simp at read

theorem LedgerAgrees.unique (agrees : LedgerAgrees codec previous ledger) {first second : LedgerRow}
    (hasFirst : first ∈ ledger) (hasSecond : second ∈ ledger)
    (same : first.entry.callId = second.entry.callId) : first = second :=
  List.inj_on_of_nodup_map agrees.distinct hasFirst hasSecond same

theorem LedgerAgrees.find (agrees : LedgerAgrees codec previous ledger)
    (same : SameRun saved previous) {row : LedgerRow} (isIn : row ∈ ledger) :
    ledger.find? (ledgerKey saved row.entry.callId) = some row := by
  obtain ⟨tenant, user⟩ := agrees.owned row isIn
  have key : ledgerKey saved row.entry.callId row = true := by
    simp [ledgerKey, tenant, user, same.tenantId, same.userId]
  cases found : ledger.find? (ledgerKey saved row.entry.callId) with
  | none =>
    have absent := List.find?_eq_none.mp found row isIn
    exact absurd key absent
  | some other =>
    have otherKey := List.find?_some found
    simp only [ledgerKey, Bool.and_eq_true, beq_iff_eq] at otherKey
    rw [agrees.unique (List.mem_of_find?_eq_some found) isIn otherKey.1.1]

/-- The ledger with the entry of one call replaced. -/
def replaceEntry (entry : ToolLedgerEntry) (ledger : List LedgerRow) : List LedgerRow :=
  ledger.map fun row => if row.entry.callId = entry.callId then { row with entry } else row

theorem mem_replaceEntry (isIn : row ∈ replaceEntry entry ledger) :
    ∃ old ∈ ledger, row.tenantId = old.tenantId ∧ row.userId = old.userId ∧
      row.entry.callId = old.entry.callId ∧
      (row.entry = entry ∨ row = old ∧ old.entry.callId ≠ entry.callId) := by
  obtain ⟨old, hasOld, rfl⟩ := List.mem_map.mp isIn
  refine ⟨old, hasOld, ?_⟩
  by_cases named : old.entry.callId = entry.callId
  · rw [if_pos named]
    exact ⟨rfl, rfl, named.symm, Or.inl rfl⟩
  · rw [if_neg named]
    exact ⟨rfl, rfl, rfl, Or.inr ⟨rfl, named⟩⟩

theorem replaceEntry_callIds (entry : ToolLedgerEntry) (ledger : List LedgerRow) :
    (replaceEntry entry ledger).map (·.entry.callId) = ledger.map (·.entry.callId) := by
  rw [replaceEntry, List.map_map]
  refine List.map_congr_left ?_
  intro row _
  by_cases named : row.entry.callId = entry.callId
  · simp [named]
  · simp [named]

section

variable (agrees : LedgerAgrees codec previous ledger)

include agrees

/-- Recording an entry for the pending call replaces that call's entry. -/
theorem LedgerAgrees.settle_eq
    (same : SameRun saved previous) (pending : previous.pendingCallId = some callId)
    (named : entry.callId = callId)
    (recorded : recordLedger saved (some entry) ledger = .ok after) :
    after = replaceEntry entry ledger := by
  obtain ⟨_, hasRow, rowId, rowStarted, _⟩ := agrees.pending callId pending
  have found := agrees.find same hasRow
  rw [rowId, ← named] at found
  simp only [recordLedger, ledgerTransition, found, rowStarted, reduceCtorEq,
    if_false, Except.ok.injEq] at recorded
  subst recorded
  refine List.map_congr_left ?_
  intro row isIn
  obtain ⟨tenant, user⟩ := agrees.owned row isIn
  by_cases sameId : row.entry.callId = entry.callId
  · simp [ledgerKey, sameId, tenant, user, same.tenantId, same.userId]
  · simp [ledgerKey, sameId]

/-- Replacing the pending entry by a closed one leaves no entry started. -/
theorem LedgerAgrees.replaced_closed
    (live : previous.status.terminal = false) (pending : previous.pendingCallId = some entry.callId)
    (closed : entry.status ≠ .started) :
    ∀ row ∈ replaceEntry entry ledger, row.entry.status ≠ .started := by
  intro row isIn started
  obtain ⟨old, hasOld, _, _, _, replaced | ⟨kept, other⟩⟩ := mem_replaceEntry isIn
  · rw [replaced] at started
    exact closed started
  · rw [kept] at started
    have isPending := agrees.started live old hasOld started
    rw [pending, Option.some.injEq] at isPending
    exact other isPending.symm

theorem LedgerAgrees.settle
    (live : previous.status.terminal = false) (same : SameRun saved previous)
    (calls : previous.toolCallsUsed ≤ saved.toolCallsUsed)
    (pending : previous.pendingCallId = some callId) (idle : saved.pendingCallId = none)
    (named : entry.callId = callId) (closed : entry.status ≠ .started)
    (accepted : entry.observation.all AgentObservationSummary.accepted = true)
    (recorded : recordLedger saved (some entry) ledger = .ok after) :
    LedgerAgrees codec saved after := by
  obtain rfl := agrees.settle_eq same pending named recorded
  subst named
  refine ⟨?_, ?_, ?_, ?_, ?_, ?_⟩
  · intro row isIn
    obtain ⟨old, hasOld, tenant, user, _⟩ := mem_replaceEntry isIn
    rw [tenant, user, same.tenantId, same.userId]
    exact agrees.owned old hasOld
  · rw [replaceEntry_callIds]
    exact agrees.distinct
  · intro row isIn
    obtain ⟨old, hasOld, _, _, sameId, _⟩ := mem_replaceEntry isIn
    obtain ⟨step, number, callId, positive, bound⟩ := agrees.numbered old hasOld
    exact ⟨step, number, by rw [sameId, same.runId]; exact callId, positive, by omega⟩
  · intro row isIn
    obtain ⟨old, hasOld, _, _, _, replaced | ⟨kept, _⟩⟩ := mem_replaceEntry isIn
    · rw [replaced]
      exact accepted
    · rw [kept]
      exact agrees.readable old hasOld
  · intro other isPending
    simp [idle] at isPending
  · intro _ row isIn started
    exact absurd started (agrees.replaced_closed live pending closed row isIn)

/-- An entry under the next call number is new to the ledger. -/
theorem LedgerAgrees.dispatch_eq (named : ∃ step, entry.callId =
      toolCallEventId previous.runId step (previous.toolCallsUsed + 1))
    (recorded : recordLedger saved (some entry) ledger = .ok after) :
    after = ledger ++ [⟨saved.tenantId, saved.userId, entry⟩] ∧
      ∀ row ∈ ledger, row.entry.callId ≠ entry.callId := by
  obtain ⟨step, callId⟩ := named
  have unused : ∀ row ∈ ledger, row.entry.callId ≠ entry.callId := by
    intro row isIn sameId
    obtain ⟨otherStep, number, otherId, positive, bound⟩ := agrees.numbered row isIn
    rw [callId, otherId] at sameId
    have numbers := toolCallEventId_number sameId
    omega
  have fresh : ledger.find? (ledgerKey saved entry.callId) = none := by
    rw [List.find?_eq_none]
    intro row isIn key
    simp only [ledgerKey, Bool.and_eq_true, beq_iff_eq] at key
    exact unused row isIn key.1.1
  simp only [recordLedger, ledgerTransition, fresh, Except.ok.injEq] at recorded
  exact ⟨recorded.symm, unused⟩

/-- A dispatch records a started entry under a number no earlier call had. -/
theorem LedgerAgrees.dispatch {decision : AgentStepDecision}
    (live : previous.status.terminal = false)
    (same : SameRun saved previous) (idle : previous.pendingCallId = none)
    (calls : saved.toolCallsUsed = previous.toolCallsUsed + 1) (named : ∃ step, entry.callId =
      toolCallEventId previous.runId step (previous.toolCallsUsed + 1))
    (pending : saved.pendingCallId = some entry.callId) (decided : saved.decision = some decision)
    (digest : entry.actionDigest = codec.decisionDigest decision)
    (started : entry.status = .started) (unobserved : entry.observation = none)
    (recorded : recordLedger saved (some entry) ledger = .ok after) :
    LedgerAgrees codec saved after := by
  obtain ⟨rfl, unused⟩ := agrees.dispatch_eq named recorded
  obtain ⟨step, callId⟩ := named
  have closed : ∀ row ∈ ledger, row.entry.status ≠ .started := by
    intro row isIn isStarted
    have isPending := agrees.started live row isIn isStarted
    simp [idle] at isPending
  refine ⟨?_, ?_, ?_, ?_, ?_, ?_⟩
  · intro row isIn
    rcases List.mem_append.mp isIn with older | newest
    · rw [same.tenantId, same.userId]
      exact agrees.owned row older
    · obtain rfl := List.mem_singleton.mp newest
      exact ⟨rfl, rfl⟩
  · rw [List.map_append, List.map_singleton, List.nodup_append]
    refine ⟨agrees.distinct, List.nodup_singleton _, ?_⟩
    intro id isIn newest isNewest sameId
    obtain ⟨row, hasRow, rfl⟩ := List.mem_map.mp isIn
    rw [List.mem_singleton.mp isNewest] at sameId
    exact unused row hasRow sameId
  · intro row isIn
    rcases List.mem_append.mp isIn with older | newest
    · obtain ⟨otherStep, number, otherId, positive, bound⟩ := agrees.numbered row older
      exact ⟨otherStep, number, by rw [same.runId]; exact otherId, positive, by omega⟩
    · obtain rfl := List.mem_singleton.mp newest
      exact ⟨step, previous.toolCallsUsed + 1, by rw [same.runId]; exact callId, by omega,
        by omega⟩
  · intro row isIn
    rcases List.mem_append.mp isIn with older | newest
    · exact agrees.readable row older
    · obtain rfl := List.mem_singleton.mp newest
      simp [unobserved]
  · intro other isPending
    rw [pending, Option.some.injEq] at isPending
    exact ⟨_, List.mem_append_right _ (List.mem_singleton.mpr rfl), isPending, started, decision,
      decided, digest⟩
  · intro _ row isIn isStarted
    rcases List.mem_append.mp isIn with older | newest
    · exact absurd isStarted (closed row older)
    · obtain rfl := List.mem_singleton.mp newest
      exact pending

end

end

theorem savedSnapshot_eq (settled : savedSnapshot previous snapshot now = .ok saved) :
    ∃ deadlineAt activeBudget, saved = { snapshot with
      revision := previous.revision + 1, lastObservedAt := now, deadlineAt, activeBudget } :=
  ⟨_, _, savedSnapshot_frame settled⟩

theorem Admissible.ledgerAgrees {entry : Option ToolLedgerEntry}
    (admissible : Admissible codec task state site previous snapshot entry)
    (staged : Staged previous) (live : previous.status.terminal = false)
    (agrees : LedgerAgrees codec previous state.ledger) (current : state.Current previous)
    (settled : savedSnapshot previous snapshot now = .ok saved)
    (recorded : recordLedger saved entry state.ledger = .ok after) :
    LedgerAgrees codec saved after := by
  have same := (savedSnapshot_sameRun settled).trans admissible.sameRun
  obtain ⟨_, _, rfl⟩ := savedSnapshot_eq settled
  -- A save without an entry leaves the table alone.
  have untouched : entry = none → after = state.ledger := by
    rintro rfl
    exact (Except.ok.inj recorded).symm
  -- An entry read for the stored snapshot is the row's, under the pending id.
  have read : ∀ {callId found}, state.LedgerSeen previous callId found →
      found.callId = callId ∧ found.observation.all AgentObservationSummary.accepted = true := by
    intro callId found seen
    obtain ⟨_, _, _, named, accepted⟩ := ledgerEntry_ok (seen current)
    exact ⟨named, accepted⟩
  cases admissible with
  | decided running phase _ =>
    rw [untouched rfl]
    have outside := staged.outside (by simp [phase])
    exact agrees.keep live same (Nat.le_refl _) (Or.inl rfl) (Or.inl outside.2.1)
  | clearGrant running phase idle =>
    rw [untouched rfl]
    exact agrees.keep live same (Nat.le_refl _) (Or.inl rfl) (Or.inl idle)
  | markUnknown running phase pending seen _ =>
    obtain ⟨named, accepted⟩ := read seen
    refine agrees.settle live same (Nat.le_refl _) pending rfl ?_ ?_ ?_ recorded
    · exact named
    · simp
    · exact accepted
  | afterDispatch running phase pending seen accepted =>
    obtain ⟨named, _⟩ := read seen
    refine agrees.settle live same (Nat.le_refl _) pending rfl ?_ ?_ ?_ recorded
    · exact named
    · simp
    · simpa using accepted
  | finishRejected running phase pending seen _ =>
    obtain ⟨named, accepted⟩ := read seen
    refine agrees.settle live same (Nat.le_max_right _ _) pending rfl ?_ ?_ ?_ recorded
    · exact named
    · simp
    · exact accepted
  | beforeDispatch running phase idle decided _ _ _ _ =>
    exact agrees.dispatch live same idle rfl ⟨_, rfl⟩ rfl decided rfl rfl rfl recorded
  | finishDecision | finishValidation | finishToolLimit | finishTool =>
    rw [untouched rfl]
    exact agrees.keep live same (Nat.le_max_right _ _)
      (Or.inr ⟨AgentRunStatus.durable_terminal _, rfl⟩) (Or.inl rfl)
  | _ =>
    rw [untouched rfl]
    exact agrees.keep live same (Nat.le_refl _) (Or.inl rfl) (Or.inr rfl)

/-- What a save makes of the ledger: nothing, the pending entry closed under its
own policy, or a new entry for the call it dispatches. -/
inductive LedgerChange (previous saved : DurableSnapshot) (ledger : List LedgerRow) :
    Site → List LedgerRow → Prop
  | untouched {site : Site} : LedgerChange previous saved ledger site ledger
  | closed {site : Site} {entry : ToolLedgerEntry}
      (pending : previous.pendingCallId = some entry.callId) (closed : entry.status ≠ .started)
      (policy : ∀ row ∈ ledger, row.entry.callId = entry.callId →
        row.entry.replayPolicy = entry.replayPolicy) :
      LedgerChange previous saved ledger site (replaceEntry entry ledger)
  | opened {definition : ToolDefinition} {row : LedgerRow}
      (idle : previous.pendingCallId = none)
      (unused : ∀ old ∈ ledger, old.entry.callId ≠ row.entry.callId)
      (recorded : definition.durableReplayPolicy.recorded = some row.entry.replayPolicy)
      (pending : saved.pendingCallId = some row.entry.callId) :
      LedgerChange previous saved ledger (.beforeDispatch definition) (ledger ++ [row])

theorem Admissible.ledgerChange {entry : Option ToolLedgerEntry}
    (admissible : Admissible codec task state site previous snapshot entry)
    (agrees : LedgerAgrees codec previous state.ledger) (current : state.Current previous)
    (settled : savedSnapshot previous snapshot now = .ok saved)
    (recorded : recordLedger saved entry state.ledger = .ok after) :
    LedgerChange previous saved state.ledger site after := by
  have same := (savedSnapshot_sameRun settled).trans admissible.sameRun
  have pendings : saved.pendingCallId = snapshot.pendingCallId := by
    rw [savedSnapshot_frame settled]
  -- The entry that was read is the row's, so a copy of it keeps the row's policy.
  have replaced : ∀ {callId found closing},
      recordLedger saved (some closing) state.ledger = .ok after →
      previous.pendingCallId = some callId → state.LedgerSeen previous callId found →
      closing.callId = found.callId → closing.replayPolicy = found.replayPolicy →
      closing.status ≠ .started → LedgerChange previous saved state.ledger site after := by
    intro callId found closing recorded pending seen sameCall samePolicy closed
    obtain ⟨row, hasRow, isEntry, named, _⟩ := ledgerEntry_ok (seen current)
    have closingId : closing.callId = callId := by rw [sameCall, named]
    obtain rfl := agrees.settle_eq same pending closingId recorded
    refine .closed (by rw [closingId]; exact pending) closed ?_
    intro other hasOther otherId
    have isRow : other = row :=
      agrees.unique hasOther hasRow (by rw [otherId, closingId, isEntry, named])
    rw [isRow, isEntry, samePolicy]
  cases admissible with
  | markUnknown _ _ pending seen | afterDispatch _ _ pending seen
  | finishRejected _ _ pending seen =>
    exact replaced recorded pending seen rfl rfl (by simp)
  | beforeDispatch _ _ idle _ _ policy _ _ =>
    obtain ⟨rfl, unused⟩ := agrees.dispatch_eq ⟨_, rfl⟩ recorded
    exact .opened idle unused policy pendings
  | _ =>
    cases recorded
    exact .untouched

theorem RunReachable.ledgerAgrees
    (fresh : Origin ≤ Fresh) (reachable : RunReachable codec Origin state) :
    (state.committed = [] → state.ledger = []) ∧
      ∀ snapshot, state.stored = some snapshot → LedgerAgrees codec snapshot state.ledger := by
  refine reachable.invariant (fun state => (state.committed = [] → state.ledger = []) ∧
    ∀ snapshot, state.stored = some snapshot → LedgerAgrees codec snapshot state.ledger) ?_ ?_
  · simp [RunState.committed, RunState.initial, Chronicle.initial, RunState.ledger, RunCell.empty,
      RunState.stored]
  · rintro task state next reached ⟨unborn, agree⟩ effect
    cases effect with
    | created origin empty leaves =>
      rw [leaves.committed, leaves.stored, leaves.ledger, unborn empty]
      refine ⟨fun _ => rfl, ?_⟩
      rintro _ ⟨⟩
      exact .nil (fresh _ origin).idle
    | claimed stored live active forward leaves =>
      rw [leaves.committed, leaves.stored, leaves.ledger]
      refine ⟨by simp, ?_⟩
      rintro _ ⟨⟩
      exact (agree _ stored).keep live ⟨rfl, rfl, rfl, rfl, rfl, rfl, rfl⟩
        (Nat.le_refl _) (Or.inl rfl)
        (Or.inr rfl)
    | leased leaves | noted _ leaves =>
      rw [leaves.committed, leaves.stored, leaves.ledger]
      exact ⟨unborn, agree⟩
    | cancelled stored live settled leaves =>
      rw [leaves.committed, leaves.stored, leaves.ledger]
      refine ⟨by simp, ?_⟩
      rintro _ ⟨⟩
      have successor : Successor codec state _ _ := .cancelled settled
      have frame := cancelledSnapshot_frame settled
      refine (agree _ stored).keep live successor.sameRun ?_ (Or.inl ?_) (Or.inr ?_) <;>
        rw [frame]
    | purged leaves =>
      rw [leaves.committed, leaves.stored, leaves.ledger]
      refine ⟨?_, by simp⟩
      intro empty
      simp [unborn empty]
    | saved stored live admissible forward settled recorded leaves =>
      rw [leaves.committed, leaves.stored, leaves.ledger]
      refine ⟨by simp, ?_⟩
      rintro _ ⟨⟩
      have staged := reached.staged fresh _ (RunState.stored_committed reached.fenced stored) live
      exact admissible.ledgerAgrees staged live (agree _ stored)
        (RunState.current_iff.mpr stored) settled recorded

end AegisRag.Agent.Durable

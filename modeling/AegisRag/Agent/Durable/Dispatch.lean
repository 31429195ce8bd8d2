import AegisRag.Agent.Durable.Log

/-!
# Dispatches and grants of a run

A save records a dispatch before the handler may start. Between two committed
decisions a run has at most one dispatch of a call that must not replay: its
open entry blocks every other one, and closing it ends the tool phase. A grant
comes from an approval of the same decision and is gone before the next one.
-/

namespace AegisRag.Agent.Durable

open Semantics RunCell

def Event.decides : Event → Bool
  | .saved _ .decided _ _ => true
  | _ => false

/-- The call whose dispatch an event commits. -/
def Event.dispatched : Event → Option String
  | .saved _ (.beforeDispatch _) _ after => after.pendingCallId
  | _ => none

/-- The call whose handler an event starts. -/
def Event.startedCall : Event → Option String
  | .handlerStarted _ callId _ => some callId
  | _ => none

variable {codec : Codec} {task : Nat} {state next : RunState} {event : Event} {callId : String}
  {previous snapshot saved : DurableSnapshot} {entry : Option ToolLedgerEntry}
  {ledger after : List LedgerRow}

theorem Event.dispatched_some (dispatches : event.dispatched = some callId) :
    ∃ task definition previous saved,
      event = .saved task (.beforeDispatch definition) previous saved ∧
        saved.pendingCallId = some callId := by
  cases event with
  | saved task site previous saved =>
    cases site with
    | beforeDispatch definition => exact ⟨task, definition, previous, saved, rfl, dispatches⟩
    | _ => simp [Event.dispatched] at dispatches
  | _ => simp [Event.dispatched] at dispatches

theorem Event.startedCall_some (starts : event.startedCall = some callId) :
    ∃ task definition, event = .handlerStarted task callId definition := by
  cases event with
  | handlerStarted task other definition =>
    cases starts
    exact ⟨task, definition, rfl⟩
  | _ => simp [Event.startedCall] at starts

/-! ## Calls are numbered -/

theorem Admissible.toolCalls_le
    (admissible : Admissible codec task state site previous snapshot entry) :
    previous.toolCallsUsed ≤ snapshot.toolCallsUsed := by
  cases admissible with
  | finishDecision | finishValidation | finishToolLimit | finishRejected | finishTool =>
    exact Nat.le_max_right _ _
  | beforeDispatch => exact Nat.le_succ _
  | _ => exact Nat.le_refl _

theorem Successor.toolCalls_le (successor : Successor codec state previous saved) :
    previous.toolCallsUsed ≤ saved.toolCallsUsed := by
  cases successor with
  | claimed _ _ => exact Nat.le_refl _
  | cancelled settled => rw [cancelledSnapshot_frame settled]
  | saved admissible _ settled =>
    rw [savedSnapshot_frame settled]
    exact admissible.toolCalls_le

/-- The numbers of the dispatched calls are those the stored snapshot has used. -/
structure Numbered (state : RunState) : Prop where
  unborn : state.committed = [] → state.log.filterMap Event.dispatched = []
  used : ∀ snapshot, state.stored = some snapshot →
    ∀ callId ∈ state.log.filterMap Event.dispatched, ∃ step number,
      callId = toolCallEventId snapshot.runId step number ∧ 1 ≤ number ∧
        number ≤ snapshot.toolCallsUsed

theorem Numbered.frame (numbered : Numbered state) (committed : next.committed = state.committed)
    (stored : ∀ snapshot, next.stored = some snapshot → state.stored = some snapshot)
    (logged : next.log = event :: state.log) (idle : event.dispatched = none) :
    Numbered next := by
  constructor
  · rw [committed, logged, List.filterMap_cons_none idle]
    exact numbered.unborn
  · intro snapshot isStored
    rw [logged, List.filterMap_cons_none idle]
    exact numbered.used snapshot (stored snapshot isStored)

/-- Committing a successor keeps the old numbers, and a dispatch takes the next one. -/
theorem Numbered.extend (numbered : Numbered state)
    (stored : state.stored = some previous) (same : SameRun saved previous)
    (calls : previous.toolCallsUsed ≤ saved.toolCallsUsed) (after : next.stored = some saved)
    (committed : next.committed = saved :: state.committed) (logged : next.log = event :: state.log)
    (fresh : ∀ callId, event.dispatched = some callId → ∃ step,
      callId = toolCallEventId previous.runId step saved.toolCallsUsed ∧
        previous.toolCallsUsed < saved.toolCallsUsed) :
    Numbered next := by
  refine ⟨by simp [committed], ?_⟩
  intro snapshot isStored callId isIn
  obtain rfl : saved = snapshot := by
    rw [after] at isStored
    exact Option.some.inj isStored
  rw [logged, List.mem_filterMap] at isIn
  obtain ⟨source, fromLog, dispatches⟩ := isIn
  rcases List.mem_cons.mp fromLog with rfl | older
  · obtain ⟨step, named, larger⟩ := fresh callId dispatches
    exact ⟨step, saved.toolCallsUsed, by rw [same.runId]; exact named, by omega, Nat.le_refl _⟩
  · have earlier := List.mem_filterMap.mpr ⟨source, older, dispatches⟩
    obtain ⟨step, number, named, positive, bound⟩ := numbered.used previous stored callId earlier
    exact ⟨step, number, by rw [same.runId]; exact named, positive, by omega⟩

theorem RunReachable.numbered (reachable : RunReachable codec Origin state) : Numbered state := by
  refine reachable.invariant Numbered ⟨fun _ => rfl, ?_⟩ ?_
  · simp [RunState.initial]
  · intro task state next reached numbered effect
    cases effect with
    | created origin unborn leaves =>
      refine ⟨by simp [leaves.committed], ?_⟩
      intro snapshot _ callId isIn
      rw [leaves.log, List.filterMap_cons_none rfl, numbered.unborn unborn] at isIn
      simp at isIn
    | claimed stored live active forward leaves =>
      refine numbered.extend stored ?_ ?_ leaves.stored leaves.committed leaves.log ?_
      · exact ⟨rfl, rfl, rfl, rfl, rfl, rfl, rfl⟩
      · exact Nat.le_refl _
      · simp [Event.dispatched]
    | leased leaves | purged leaves =>
      exact numbered.frame leaves.committed (by simp [leaves.stored]) leaves.log rfl
    | cancelled stored live settled leaves =>
      have successor : Successor codec state _ _ := .cancelled settled
      exact numbered.extend stored successor.sameRun successor.toolCalls_le leaves.stored
        leaves.committed leaves.log (by simp [Event.dispatched])
    | saved stored live admissible forward settled recorded leaves =>
      have successor : Successor codec state _ _ := .saved admissible forward settled
      refine numbered.extend stored successor.sameRun successor.toolCalls_le leaves.stored
        leaves.committed leaves.log ?_
      intro callId dispatches
      obtain ⟨_, _, rfl⟩ := savedSnapshot_eq settled
      cases admissible with
      | beforeDispatch =>
        cases dispatches
        exact ⟨_, rfl, Nat.lt_succ_self _⟩
      | _ => simp [Event.dispatched] at dispatches
    | noted noted leaves =>
      refine numbered.frame leaves.committed (by simp [leaves.stored]) leaves.log ?_
      cases noted <;> rfl

theorem RunReachable.dispatched_nodup (reachable : RunReachable codec Origin state) :
    (state.log.filterMap Event.dispatched).Nodup := by
  refine reachable.distinct Event.dispatched ?_
  intro task state next event callId reached effect logged dispatches earlier
  obtain ⟨owner, definition, previous, saved, rfl, pending⟩ := Event.dispatched_some dispatches
  obtain ⟨_, stored, _, snapshot, entry, now, admissible, settled⟩ := effect.saved_of_log logged
  obtain ⟨step, number, named, _, bound⟩ :=
    reached.numbered.used previous stored callId earlier
  obtain ⟨deadlineAt, activeBudget, rfl⟩ := savedSnapshot_eq settled
  cases admissible with
  | beforeDispatch =>
    have new := Option.some.inj pending
    rw [named] at new
    have numbers := toolCallEventId_number new
    omega

theorem RunReachable.pending_of_dispatch (reachable : RunReachable codec Origin state)
    (isIn : .saved owner (.beforeDispatch definition) previous saved ∈ state.log) :
    ∃ callId, saved.pendingCallId = some callId := by
  have along : Along (fun event _ => ∀ owner definition previous saved,
      event = .saved owner (.beforeDispatch definition) previous saved →
        ∃ callId, saved.pendingCallId = some callId) state.log := by
    refine reachable.along _ ?_
    rintro task state next event reached effect logged owner definition previous saved rfl
    obtain ⟨_, _, _, _, _, _, admissible, settled⟩ := effect.saved_of_log logged
    obtain ⟨_, _, rfl⟩ := savedSnapshot_eq settled
    cases admissible with
    | beforeDispatch => exact ⟨_, rfl⟩
  obtain ⟨_, _, _, fact⟩ := along.of_mem isIn
  exact fact owner definition previous saved rfl

/-! ## A call that must not replay blocks the tool phase -/

/-- Nothing can be dispatched: the tool phase is over, or the call is pending with
an entry that forbids a replay. -/
def Blocked (snapshot : DurableSnapshot) (ledger : List LedgerRow) (callId : String) : Prop :=
  snapshot.phase ≠ .tool ∨ snapshot.pendingCallId = some callId ∧
    ∃ row ∈ ledger, row.entry.callId = callId ∧ row.entry.replayPolicy = .never

theorem recordLedger_mem {entry : ToolLedgerEntry}
    (recorded : recordLedger saved (some entry) ledger = .ok after) :
    ∃ row ∈ after, row.entry = entry := by
  simp only [recordLedger, ledgerTransition] at recorded
  split at recorded
  · cases recorded
    exact ⟨_, List.mem_append_right _ (List.mem_singleton.mpr rfl), rfl⟩
  · rename_i existing found
    split at recorded
    · simp at recorded
    · cases recorded
      have key := List.find?_some found
      refine ⟨{ existing with entry }, List.mem_map.mpr ⟨existing, ?_, ?_⟩, rfl⟩
      · exact List.mem_of_find?_eq_some found
      · simp [key]

/-- Until the next decision a blocked run stays blocked. -/
theorem Admissible.blocked (admissible : Admissible codec task state site previous snapshot entry)
    (undecided : site ≠ .decided) (agrees : LedgerAgrees codec previous state.ledger)
    (current : state.Current previous) (blocked : Blocked previous state.ledger callId)
    (settled : savedSnapshot previous snapshot now = .ok saved)
    (recorded : recordLedger saved entry state.ledger = .ok after)
    (live : saved.status.terminal = false) : Blocked saved after callId := by
  obtain ⟨_, _, rfl⟩ := savedSnapshot_eq settled
  cases admissible with
  | approve | reserve | requestApproval =>
    cases recorded
    exact blocked
  | decided => exact absurd rfl undecided
  | clearGrant | afterDispatch => exact Or.inl (by simp)
  | markUnknown running phase pending seen replayable =>
    rcases blocked with outside | ⟨isPending, _, hasRow, named, never⟩
    · exact absurd phase outside
    · obtain ⟨_, hasOther, isEntry, otherNamed, _⟩ := ledgerEntry_ok (seen current)
      rw [pending, Option.some.injEq] at isPending
      have same := agrees.unique hasRow hasOther (by rw [named, isEntry, otherNamed, isPending])
      rw [same, isEntry, replayable] at never
      cases never
  | beforeDispatch running phase idle =>
    rcases blocked with outside | ⟨isPending, _⟩
    · exact absurd phase outside
    · simp [idle] at isPending
  | failure code =>
    simp only [DurableSnapshot.stopped] at live
    split at live <;> simp [DurableStatus.terminal] at live
  | finishDecision | finishValidation | finishToolLimit | finishRejected | finishTool =>
    simp [DurableSnapshot.finished, AgentRunResult.atLeast,
      AgentRunStatus.durable_terminal] at live
  | _ => simp [DurableSnapshot.stopped, DurableStatus.terminal] at live

/-- The dispatches since the last decision that must not replay block the run. -/
def Spent (state : RunState) : Prop :=
  ∀ owner definition previous saved callId,
    .saved owner (.beforeDispatch definition) previous saved ∈ since Event.decides state.log →
    definition.durableReplayPolicy = .never → saved.pendingCallId = some callId →
    ∀ snapshot, state.stored = some snapshot → snapshot.status.terminal = false →
      Blocked snapshot state.ledger callId

theorem Spent.frame (spent : Spent state)
    (stored : ∀ snapshot, next.stored = some snapshot → state.stored = some snapshot)
    (ledger : ∀ snapshot, next.stored = some snapshot → next.ledger = state.ledger)
    (logged : next.log = event :: state.log) (idle : event.dispatched = none)
    (undecided : event.decides = false) : Spent next := by
  intro owner definition previous saved callId isIn never pending snapshot isStored live
  rw [logged, since_cons_of_not undecided] at isIn
  rcases List.mem_cons.mp isIn with rfl | older
  · simp [Event.dispatched, pending] at idle
  · rw [ledger snapshot isStored]
    exact spent owner definition previous saved callId older never pending snapshot
      (stored snapshot isStored) live

theorem Blocked.transfer (blocked : Blocked first ledger callId)
    (phase : second.phase = first.phase) (pending : second.pendingCallId = first.pendingCallId) :
    Blocked second ledger callId := by
  unfold Blocked
  rw [phase, pending]
  exact blocked

theorem Spent.save (fresh : Origin ≤ Fresh)
    (reached : RunReachable codec Origin state) (spent : Spent state)
    (stored : state.stored = some previous) (live : previous.status.terminal = false)
    (admissible : Admissible codec task state site previous snapshot entry)
    (settled : savedSnapshot previous snapshot now = .ok saved)
    (recorded : recordLedger saved entry state.ledger = .ok ledger)
    (leaves : Leaves next (some saved) ledger (saved :: state.committed)
      (.saved task site previous saved :: state.log)) : Spent next := by
  intro owner definition before dispatch callId isIn never pending current isStored unfinished
  obtain rfl : saved = current := by
    rw [leaves.stored] at isStored
    exact Option.some.inj isStored
  rw [leaves.ledger]
  by_cases decided : site = .decided
  · subst decided
    rw [leaves.log, since_cons_of_kind rfl] at isIn
    simp at isIn
  · have undecided : Event.decides (.saved task site previous saved) = false := by
      cases site <;> simp_all [Event.decides]
    rw [leaves.log, since_cons_of_not undecided] at isIn
    rcases List.mem_cons.mp isIn with newest | older
    · -- The dispatch itself: its entry was recorded with it.
      simp only [Event.saved.injEq] at newest
      obtain ⟨rfl, rfl, rfl, rfl⟩ := newest
      obtain ⟨deadlineAt, activeBudget, rfl⟩ := savedSnapshot_eq settled
      cases admissible with
      | beforeDispatch _ _ _ _ _ policy _ _ =>
        obtain ⟨row, hasRow, isEntry⟩ := recordLedger_mem recorded
        refine Or.inr ⟨pending, row, hasRow, ?_, ?_⟩
        · rw [isEntry]
          exact Option.some.inj pending
        · rw [never] at policy
          rw [isEntry]
          exact (Option.some.inj policy).symm
    · exact admissible.blocked decided ((reached.ledgerAgrees fresh).2 previous stored)
        (RunState.current_iff.mpr stored)
        (spent owner definition before dispatch callId older never pending previous stored live)
        settled recorded unfinished

theorem RunReachable.spent (fresh : Origin ≤ Fresh)
    (reachable : RunReachable codec Origin state) : Spent state := by
  refine reachable.invariant Spent ?_ ?_
  · intro owner definition previous saved callId isIn
    simp [RunState.initial] at isIn
  · intro task state next reached spent effect
    cases effect with
    | created origin unborn leaves =>
      intro owner definition previous saved callId isIn never pending
      rw [leaves.log, since_cons_of_not rfl] at isIn
      rcases List.mem_cons.mp isIn with newest | older
      · cases newest
      · have dispatched : callId ∈ state.log.filterMap Event.dispatched :=
          List.mem_filterMap.mpr ⟨_, mem_of_mem_since older, pending⟩
        rw [reached.numbered.unborn unborn] at dispatched
        simp at dispatched
    | claimed stored live active forward leaves =>
      intro owner definition before dispatch callId isIn never pending snapshot isStored _
      rw [leaves.stored, Option.some.injEq] at isStored
      rw [leaves.log, since_cons_of_not rfl] at isIn
      rcases List.mem_cons.mp isIn with newest | older
      · cases newest
      · rw [leaves.ledger]
        exact (spent owner definition before dispatch callId older never pending _ stored
          live).transfer (by rw [← isStored]; rfl) (by rw [← isStored]; rfl)
    | leased leaves =>
      exact spent.frame (by simp [leaves.stored]) (by simp [leaves.ledger]) leaves.log rfl rfl
    | cancelled stored live settled leaves =>
      intro owner definition before dispatch callId isIn never pending snapshot isStored alive
      rw [leaves.stored, Option.some.injEq] at isStored
      rw [← isStored, cancelledSnapshot_frame settled] at alive
      simp [DurableStatus.terminal] at alive
    | purged leaves =>
      exact spent.frame (by simp [leaves.stored]) (by simp [leaves.stored]) leaves.log rfl rfl
    | saved stored live admissible forward settled recorded leaves =>
      exact spent.save fresh reached stored live admissible settled recorded leaves
    | noted noted leaves =>
      refine spent.frame (by simp [leaves.stored]) (by simp [leaves.ledger]) leaves.log ?_ ?_
      · cases noted <;> rfl
      · cases noted <;> rfl

/-! ## Grants -/

/-- An approval granted since the last decision stands behind the digests. -/
def Granted (log : List Event) (action : String) (definition : Option String) : Prop :=
  ∃ approver before after approval,
    .saved approver .approve before after ∈ since Event.decides log ∧
      before.approval = some approval ∧ approval.actionDigest = action ∧
      definition = some approval.definitionDigest

theorem Granted.cons (granted : Granted log action definition) (undecided : event.decides = false) :
    Granted (event :: log) action definition := by
  obtain ⟨approver, before, after, approval, isIn, facts⟩ := granted
  refine ⟨approver, before, after, approval, ?_, facts⟩
  rw [since_cons_of_not undecided]
  exact List.mem_cons_of_mem _ isIn

theorem Admissible.grant_kept
    (admissible : Admissible codec task state site previous snapshot entry)
    (unapproved : site ≠ .approve) (granted : snapshot.approvedActionDigest = some action) :
    previous.approvedActionDigest = some action ∧
      snapshot.approvedDefinitionDigest = previous.approvedDefinitionDigest := by
  cases admissible with
  | approve => exact absurd rfl unapproved
  | afterDispatch | clearGrant => simp at granted
  | _ => exact ⟨granted, rfl⟩

/-- Every grant in the stored snapshot was made by an approval of its decision. -/
def GrantsHold (state : RunState) : Prop :=
  ∀ snapshot action, state.stored = some snapshot → snapshot.approvedActionDigest = some action →
    Granted state.log action snapshot.approvedDefinitionDigest

theorem RunReachable.grants (fresh : Origin ≤ Fresh)
    (reachable : RunReachable codec Origin state) : GrantsHold state := by
  refine reachable.invariant GrantsHold ?_ ?_
  · intro snapshot action isStored
    simp [RunState.initial, RunState.stored, Chronicle.initial, RunCell.empty] at isStored
  · intro task state next reached grants effect snapshot action isStored granted
    cases effect with
    | created origin _ leaves =>
      rw [leaves.stored, Option.some.injEq] at isStored
      rw [← isStored, (fresh _ origin).ungranted] at granted
      simp at granted
    | claimed stored _ _ _ leaves =>
      cases leaves.stored.symm.trans isStored
      rw [leaves.log]
      exact (grants _ action stored granted).cons rfl
    | leased leaves =>
      rw [leaves.stored] at isStored
      rw [leaves.log]
      exact (grants snapshot action isStored granted).cons rfl
    | cancelled stored _ settled leaves =>
      cases leaves.stored.symm.trans isStored
      rw [cancelledSnapshot_frame settled] at granted ⊢
      rw [leaves.log]
      exact (grants _ action stored granted).cons rfl
    | purged leaves => simp [leaves.stored] at isStored
    | @saved site previous candidate saved _ _ _ stored live admissible _ settled _ leaves =>
      rw [leaves.stored, Option.some.injEq] at isStored
      subst isStored
      rw [leaves.log]
      have frame := savedSnapshot_frame settled
      have actions : saved.approvedActionDigest = candidate.approvedActionDigest := by rw [frame]
      have definitions :
          saved.approvedDefinitionDigest = candidate.approvedDefinitionDigest := by rw [frame]
      rw [actions] at granted
      rw [definitions]
      by_cases approves : site = .approve
      · subst approves
        have newest : .saved task .approve previous saved ∈
            since Event.decides (.saved task .approve previous saved :: state.log) := by
          rw [since_cons_of_not rfl]
          exact List.mem_cons_self
        cases admissible with
        | approve awaiting requested checked =>
          exact ⟨task, previous, saved, _, newest, requested, Option.some.inj granted, rfl⟩
      · obtain ⟨before, definition⟩ := admissible.grant_kept approves granted
        have earlier := grants previous action stored before
        rw [← definition] at earlier
        refine earlier.cons ?_
        -- A decision is made where no grant is left.
        cases admissible with
        | decided running phase _ =>
          have staged := reached.staged fresh previous
            (RunState.stored_committed reached.fenced stored) live
          rw [(staged.outside (by simp [phase])).2.2] at before
          simp at before
        | _ => rfl
    | noted noted leaves =>
      rw [leaves.stored] at isStored
      rw [leaves.log]
      refine (grants snapshot action isStored granted).cons ?_
      cases noted <;> rfl

/-! ## What the log records -/

/-- A dispatch found no open call that must not replay among the dispatches of its
decision, and where the tool needs approval, an approval of exactly this action. -/
structure DispatchFact (codec : Codec) (definition : ToolDefinition)
    (previous : DurableSnapshot) (older : List Event) : Prop where
  running : previous.status = .running
  alone : ∀ owner other before after,
    .saved owner (.beforeDispatch other) before after ∈ since Event.decides older →
      other.durableReplayPolicy ≠ .never
  approved : definition.needsApproval previous = true → ∃ decision,
    previous.decision = some decision ∧
      Granted older (codec.decisionDigest decision) (some (codec.definitionDigest definition))

theorem RunReachable.dispatchFacts
    (fresh : Origin ≤ Fresh) (reachable : RunReachable codec Origin state) :
    Along (fun event older => ∀ owner definition previous saved,
      event = .saved owner (.beforeDispatch definition) previous saved →
        DispatchFact codec definition previous older) state.log := by
  refine reachable.along _ ?_
  rintro task state next event reached effect logged owner definition previous saved rfl
  obtain ⟨_, stored, live, _, _, _, admissible, _⟩ := effect.saved_of_log logged
  cases admissible with
  | beforeDispatch running phase idle decided _ _ _ approved =>
    refine ⟨running, ?_, ?_⟩
    · intro other otherDefinition before after isIn never
      have dispatched : ∃ callId, after.pendingCallId = some callId :=
        (reached.pending_of_dispatch (mem_of_mem_since isIn))
      obtain ⟨callId, pending⟩ := dispatched
      rcases reached.spent fresh other otherDefinition before after callId isIn never pending
        previous stored live with outside | ⟨isPending, _⟩
      · exact outside phase
      · simp [idle] at isPending
    · intro needs
      obtain ⟨action, defined⟩ := approved needs
      refine ⟨_, decided, ?_⟩
      have granted := reached.grants fresh previous _ stored action
      rw [defined] at granted
      exact granted

/-- A handler starts under the dispatch its own worker committed. -/
theorem handler_backed (codec : Codec) : Backed codec Event.dispatched Event.startedCall := by
  refine ⟨?_, ?_, ?_⟩
  · intro event callId starts
    obtain ⟨owner, definition, rfl⟩ := Event.startedCall_some starts
    rfl
  · intro task state event callId noted starts
    obtain ⟨owner, definition, rfl⟩ := Event.startedCall_some starts
    cases noted with
    | handlerStarted dispatched _ =>
      obtain ⟨_, _, previous, saved, isLog, pending, _⟩ := dispatched
      refine ⟨.saved task (.beforeDispatch definition) previous saved, ?_, pending, rfl⟩
      rw [isLog]
      exact List.mem_append_right _ List.mem_cons_self
  · intro task state event callId noted starts other isIn startsOther
    obtain ⟨owner, definition, rfl⟩ := Event.startedCall_some starts
    obtain ⟨_, otherDefinition, rfl⟩ := Event.startedCall_some startsOther
    cases noted with
    | handlerStarted _ unused =>
      rintro rfl
      exact unused otherDefinition isIn

theorem RunReachable.started_nodup (reachable : RunReachable codec Origin state) :
    (state.log.filterMap Event.startedCall).Nodup :=
  reachable.uses_distinct (handler_backed codec) fun _ reached => reached.dispatched_nodup

/-- What was logged before a task committed the dispatch of a call. -/
def DispatchedAt (log : List Event) (task : Nat) (callId : String) (definition : ToolDefinition)
    (older : List Event) : Prop :=
  ∃ newer previous saved,
    log = newer ++ .saved task (.beforeDispatch definition) previous saved :: older ∧
      saved.pendingCallId = some callId

/-- A handler starts after its own worker committed the dispatch of its call. -/
theorem RunReachable.started_after_dispatch (reachable : RunReachable codec Origin state)
    (log : state.log = newer ++ .handlerStarted task callId definition :: older) :
    ∃ oldest, DispatchedAt older task callId definition oldest := by
  have along : Along (fun event older => ∀ task callId definition,
      event = .handlerStarted task callId definition →
        ∃ oldest, DispatchedAt older task callId definition oldest) state.log := by
    refine reachable.along _ ?_
    rintro worker state next event reached effect logged task callId definition rfl
    cases effect.noted_of_log logged rfl with
    | handlerStarted dispatched _ =>
      obtain ⟨newer, older, previous, saved, isLog, pending, _⟩ := dispatched
      exact ⟨older, newer, previous, saved, isLog, pending⟩
  rw [log] at along
  exact along.at task callId definition rfl

/-! ## Two dispatches of one run -/

section

variable {before after laterBefore laterAfter : DurableSnapshot}

/-- After the dispatch of a call that must not replay, nothing is dispatched until
a new decision is committed. -/
theorem RunReachable.decided_between (fresh : Origin ≤ Fresh)
    (reachable : RunReachable codec Origin state)
    (log : state.log = newer ++ .saved second (.beforeDispatch later) laterBefore laterAfter ::
      (between ++ .saved first (.beforeDispatch earlier) before after :: older))
    (never : earlier.durableReplayPolicy = .never) :
    ∃ event ∈ between, event.decides = true := by
  have along := reachable.dispatchFacts fresh
  rw [log] at along
  have fact := along.at second later laterBefore laterAfter rfl
  have passes : Event.decides (.saved first (.beforeDispatch earlier) before after) = false := rfl
  exact exists_kind_between passes fun recent =>
    fact.alone first earlier before after recent never

/-- A dispatch after one that must not replay is for a decision committed later. -/
theorem RunReachable.dispatched_later (fresh : Origin ≤ Fresh)
    (reachable : RunReachable codec Origin state) {recent : List Event}
    (isLater : DispatchedAt state.log second other later recent)
    (isEarlier : DispatchedAt recent first call earlier older)
    (never : earlier.durableReplayPolicy = .never) :
    older.countP Event.decides < recent.countP Event.decides := by
  obtain ⟨newer, laterBefore, laterAfter, log, _⟩ := isLater
  obtain ⟨between, before, after, rfl, _⟩ := isEarlier
  obtain ⟨event, isBetween, decides⟩ := reachable.decided_between fresh log never
  have committed : 0 < between.countP Event.decides :=
    List.countP_pos_iff.mpr ⟨event, isBetween, decides⟩
  rw [List.countP_append, List.countP_cons]
  omega

end

end AegisRag.Agent.Durable

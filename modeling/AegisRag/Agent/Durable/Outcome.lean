import AegisRag.Agent.Durable.Dispatch

/-!
# Unknown side effects at the end of a run

A started entry that must not replay stands for a side effect whose outcome is
unknown. The exits for a clock regression, a passed deadline and a failed phase
do not look at the ledger; under `ExitKnown` they do no harm, since the worker
that takes one dispatched the pending call itself and never entered the handler.
-/

namespace AegisRag.Agent.Durable

open Semantics

/-- The exits that end a run without a look at the ledger. -/
def Site.unguarded : Site → Bool
  | .regression | .deadline | .failure | .cleanupTimeout false => true
  | _ => false

/-- Some worker entered the handler of the call. -/
def Entered (log : List Event) (callId : String) : Prop :=
  ∃ owner definition, .handlerStarted owner callId definition ∈ log

/-- An exit without a look at the ledger leaves no entered call behind. -/
def ExitKnown (event : Event) (older : List Event) : Prop :=
  ∀ task site previous saved callId, event = .saved task site previous saved →
    site.unguarded = true → previous.pendingCallId = some callId →
    ∀ owner definition before after,
      .saved owner (.beforeDispatch definition) before after ∈ older →
      after.pendingCallId = some callId → definition.durableReplayPolicy = .never →
      owner = task ∧ ¬ Entered older callId

/-- The event is an exit without a look at the ledger. -/
def Event.exitsBlindly : Event → Bool
  | .saved _ site _ _ => site.unguarded
  | _ => false

variable {log : List Event} {row : LedgerRow} {previous saved : DurableSnapshot} {site : Site}
  {state : RunState} {snapshot : DurableSnapshot}

theorem exitKnown_of_guarded (guarded : log.all (fun event => !event.exitsBlindly) = true) :
    Along ExitKnown log := by
  induction log with
  | nil => trivial
  | cons event older ih =>
    rw [List.all_cons, Bool.and_eq_true] at guarded
    refine ⟨?_, ih guarded.2⟩
    rintro task site previous saved callId rfl unguarded
    have blind : Event.exitsBlindly (.saved task site previous saved) = true := unguarded
    rw [blind] at guarded
    exact absurd guarded.1 (by decide)

/-! ## Every ledger entry has its dispatch in the log -/

/-- The dispatch that recorded a ledger row. -/
def Sourced (log : List Event) (row : LedgerRow) : Prop :=
  ∃ owner definition before after,
    .saved owner (.beforeDispatch definition) before after ∈ log ∧
      after.pendingCallId = some row.entry.callId ∧
      definition.durableReplayPolicy.recorded = some row.entry.replayPolicy

theorem Sourced.cons (sourced : Sourced log row) (event : Event) : Sourced (event :: log) row := by
  obtain ⟨owner, definition, before, after, isIn, facts⟩ := sourced
  exact ⟨owner, definition, before, after, List.mem_cons_of_mem _ isIn, facts⟩

theorem LedgerChange.sourced (change : LedgerChange previous saved ledger site after)
    (sourced : ∀ row ∈ ledger, Sourced log row) :
    ∀ row ∈ after, Sourced (.saved task site previous saved :: log) row := by
  intro row isIn
  cases change with
  | untouched => exact (sourced row isIn).cons _
  | closed pending closed policy =>
    obtain ⟨old, hasOld, _, _, sameId, replaced | ⟨kept, _⟩⟩ := mem_replaceEntry isIn
    · obtain ⟨owner, definition, before, after, inLog, callId, recorded⟩ := sourced old hasOld
      refine ⟨owner, definition, before, after, List.mem_cons_of_mem _ inLog, ?_, ?_⟩
      · rw [sameId]
        exact callId
      · rw [recorded, policy old hasOld (by rw [← sameId, replaced]), replaced]
    · rw [kept]
      exact (sourced old hasOld).cons _
  | @opened definition newest idle unused recorded pending =>
    rcases List.mem_append.mp isIn with older | isNewest
    · exact (sourced row older).cons _
    · obtain rfl := List.mem_singleton.mp isNewest
      exact ⟨task, definition, previous, saved, List.mem_cons_self, pending, recorded⟩

theorem RunReachable.sourced (fresh : Origin ≤ Fresh)
    (reachable : RunReachable codec Origin state) :
    ∀ row ∈ state.ledger, Sourced state.log row := by
  refine reachable.invariant (fun state => ∀ row ∈ state.ledger, Sourced state.log row) ?_ ?_
  · simp [RunState.initial, RunState.ledger, Chronicle.initial, RunCell.empty]
  · intro task state next reached sourced effect
    cases effect with
    | created _ _ leaves | claimed _ _ _ _ leaves | leased leaves | cancelled _ _ _ leaves
    | noted _ leaves =>
      rw [leaves.ledger, leaves.log]
      intro row isIn
      exact (sourced row isIn).cons _
    | purged leaves =>
      rw [leaves.ledger, leaves.log]
      intro row isIn
      exact (sourced row (List.mem_of_mem_filter isIn)).cons _
    | saved stored _ admissible _ settled recorded leaves =>
      rw [leaves.ledger, leaves.log]
      have change := admissible.ledgerChange ((reached.ledgerAgrees fresh).2 _ stored)
        (RunState.current_iff.mpr stored) settled recorded
      exact change.sourced sourced

/-! ## No entered call is left behind -/

/-- The call can no longer be entered: it never was, and its worker has moved on. -/
structure Retired (log : List Event) (callId : String) : Prop where
  unentered : ¬ Entered log callId
  moved : ∀ newer older owner definition before after,
    log = newer ++ .saved owner (.beforeDispatch definition) before after :: older →
    after.pendingCallId = some callId →
    ∃ site earlier later, .saved owner site earlier later ∈ newer

/-- A retired call stays retired whatever is noted or leased later. -/
theorem Retired.cons (retired : Retired log callId) (unsaved : ∀ task site before after,
      event ≠ .saved task site before after)
    (unstarted : ∀ owner definition, event ≠ .handlerStarted owner callId definition) :
    Retired (event :: log) callId := by
  constructor
  · rintro ⟨owner, definition, isIn⟩
    rcases List.mem_cons.mp isIn with newest | older
    · exact unstarted owner definition newest.symm
    · exact retired.unentered ⟨owner, definition, older⟩
  · intro newer older owner definition before after splits pending
    cases newer with
    | nil =>
      obtain ⟨rfl, _⟩ := List.cons.inj splits
      exact absurd rfl (unsaved _ _ _ _)
    | cons first rest =>
      obtain ⟨_, tail⟩ := List.cons.inj splits
      obtain ⟨site, earlier, later, isIn⟩ :=
        retired.moved rest older owner definition before after tail pending
      exact ⟨site, earlier, later, List.mem_cons_of_mem _ isIn⟩

/-- The worker of a retired call does not start its handler. -/
theorem Retired.not_started (retired : Retired state.log callId) :
    ¬ Noted codec task state (.handlerStarted task callId definition) := by
  intro noted
  cases noted with
  | handlerStarted dispatched _ =>
    obtain ⟨newer, older, previous, saved, splits, pending, unsaved⟩ := dispatched
    obtain ⟨site, before, after, isIn⟩ :=
      retired.moved newer older task definition previous saved splits pending
    exact unsaved site before after isIn

/-- A run that ended otherwise than by intervention or cancellation left behind
only calls that never run. -/
def Resolved (state : RunState) : Prop :=
  ∀ snapshot, state.stored = some snapshot → snapshot.status.terminal = true →
    snapshot.status ≠ .interventionRequired → snapshot.status ≠ .cancelled →
    ∀ row ∈ state.ledger, row.entry.status = .started → row.entry.replayPolicy = .never →
      Retired state.log row.entry.callId

/-- The ledger of the snapshot holds an open entry that must not replay. -/
def HoldsUnknown (ledger : List LedgerRow) (row : LedgerRow) : Prop :=
  row ∈ ledger ∧ row.entry.status = .started ∧ row.entry.replayPolicy = .never

theorem HoldsUnknown.pending (holds : HoldsUnknown ledger row)
    (agrees : LedgerAgrees codec snapshot ledger) (live : snapshot.status.terminal = false) :
    snapshot.pendingCallId = some row.entry.callId :=
  agrees.started live row holds.1 holds.2.1

/-- A look at the ledger that finds the call settled leaves nothing unknown. -/
theorem Settled.known (settled : Settled state snapshot) (current : state.Current snapshot)
    (agrees : LedgerAgrees codec snapshot state.ledger) (live : snapshot.status.terminal = false) :
    ¬ HoldsUnknown state.ledger row := by
  intro holds
  have pending := holds.pending agrees live
  rcases settled with idle | ⟨_, _, isPending, seen, known⟩
  · simp [idle] at pending
  · obtain ⟨other, hasOther, isEntry, named, _⟩ := ledgerEntry_ok (seen current)
    rw [isPending, Option.some.injEq] at pending
    have same : row = other :=
      agrees.unique holds.1 hasOther (by rw [← pending, isEntry, named])
    apply known
    rw [← isEntry, ← same]
    exact holds.2

/-- An exit without a look at the ledger retires the call of the worker that takes it. -/
theorem ExitKnown.retires (fresh : Origin ≤ Fresh) (reached : RunReachable codec Origin state)
    (known : ExitKnown (.saved task site previous saved) state.log)
    (unguarded : site.unguarded = true) (holds : HoldsUnknown state.ledger row)
    (pending : previous.pendingCallId = some row.entry.callId) :
    Retired (.saved task site previous saved :: state.log) row.entry.callId := by
  obtain ⟨owner, definition, before, after, isIn, callId, recorded⟩ :=
    reached.sourced fresh row holds.1
  have never : definition.durableReplayPolicy = .never := by
    rw [holds.2.2] at recorded
    cases policy : definition.durableReplayPolicy with
    | never => rfl
    | unsupported | readOnly => simp [policy, DurableReplayPolicy.recorded] at recorded
  obtain ⟨rfl, unentered⟩ := known task site previous saved _ rfl unguarded pending owner
    definition before after isIn callId never
  constructor
  · rintro ⟨other, started, inLog⟩
    rcases List.mem_cons.mp inLog with newest | older
    · cases newest
    · exact unentered ⟨other, started, older⟩
  · intro newer older other otherDefinition earlier later splits sameCall
    cases newer with
    | nil =>
      -- The exit itself is no dispatch.
      obtain ⟨same, _⟩ := List.cons.inj splits
      cases same
      simp [Site.unguarded] at unguarded
    | cons first rest =>
      obtain ⟨rfl, tail⟩ := List.cons.inj splits
      have hasOther : Event.saved other (.beforeDispatch otherDefinition) earlier later ∈
          state.log := by
        rw [tail]
        exact List.mem_append_right _ List.mem_cons_self
      have same := eq_of_nodup_filterMap reached.dispatched_nodup isIn hasOther callId sameCall
      simp only [Event.saved.injEq] at same
      rw [← same.1]
      exact ⟨site, previous, saved, List.mem_cons_self⟩

/-- A save that ends a run otherwise than by intervention or cancellation leaves
behind only calls that never run. -/
theorem Admissible.resolved (fresh : Origin ≤ Fresh) (reached : RunReachable codec Origin state)
    (stored : state.stored = some previous) (live : previous.status.terminal = false)
    (admissible : Admissible codec task state site previous snapshot entry)
    (settled : RunCell.savedSnapshot previous snapshot now = .ok saved)
    (recorded : RunCell.recordLedger saved entry state.ledger = .ok after)
    (known : ExitKnown (.saved task site previous saved) state.log)
    (ended : saved.status.terminal = true) (unasked : saved.status ≠ .interventionRequired)
    (uncancelled : saved.status ≠ .cancelled) (holds : HoldsUnknown after row) :
    Retired (.saved task site previous saved :: state.log) row.entry.callId := by
  have agrees := (reached.ledgerAgrees fresh).2 previous stored
  have current := RunState.current_iff.mpr stored
  have staged := reached.staged fresh previous
    (RunState.stored_committed reached.fenced stored) live
  have same := (savedSnapshot_sameRun settled).trans admissible.sameRun
  have status : saved.status = snapshot.status := by rw [RunCell.savedSnapshot_frame settled]
  rw [status] at ended unasked uncancelled
  -- Where the save leaves the ledger alone, the open entry is the pending call's.
  have isPending : after = state.ledger → previous.pendingCallId = some row.entry.callId := by
    rintro rfl
    exact holds.pending agrees live
  cases admissible with
  | approve | requestApproval => simp [DurableStatus.terminal] at ended
  | reserve | decided | markUnknown | beforeDispatch | afterDispatch | clearGrant =>
    simp [live] at ended
  | rejected => exact absurd rfl uncancelled
  | unknownReplay | outcomeUnknown | cleanupUnknown => exact absurd rfl unasked
  | toolFailed running phase | finishDecision running phase _ | finishValidation running phase _ =>
    cases recorded
    have pending := isPending rfl
    rw [(staged.outside (by simp [phase])).2.1] at pending
    simp at pending
  | finishToolLimit _ _ idle _ =>
    cases recorded
    have pending := isPending rfl
    simp [idle] at pending
  | finishTool _ _ isSettled =>
    cases recorded
    exact absurd holds (isSettled.known current agrees live)
  | @finishRejected _ callId found _ _ _ pending seen _ =>
    obtain ⟨_, _, _, named, _⟩ := ledgerEntry_ok (seen current)
    have replaced : after = replaceEntry { found with status := .completed } state.ledger :=
      agrees.settle_eq same pending named recorded
    rw [replaced] at holds
    refine absurd holds.2.1 (agrees.replaced_closed live ?_ ?_ row holds.1)
    · rw [pending, named]
    · simp
  | regression | deadline | failure =>
    cases recorded
    exact known.retires fresh reached rfl holds (isPending rfl)
  | @cleanupTimeout _ checked isSettled =>
    cases recorded
    cases checked with
    | true => exact absurd holds ((isSettled rfl).known current agrees live)
    | false => exact known.retires fresh reached rfl holds (isPending rfl)

/-- Where every exit without a look at the ledger is a known one, no run ends over
an entered call that must not replay, but by intervention or cancellation. -/
theorem RunReachable.resolved (fresh : Origin ≤ Fresh)
    (reachable : RunReachable codec Origin state) (known : Along ExitKnown state.log) :
    Resolved state := by
  refine reachable.invariant (fun state => Along ExitKnown state.log → Resolved state) ?_ ?_ known
  · intro _ snapshot stored
    simp [RunState.initial, RunState.stored, Chronicle.initial, RunCell.empty] at stored
  · intro task state next reached resolved effect along snapshot stored ended unasked uncancelled
      row isIn started never
    obtain ⟨_, logged⟩ := effect.logs
    rw [logged] at along
    have before := resolved along.2
    cases effect with
    | created origin _ leaves =>
      rw [leaves.stored, Option.some.injEq] at stored
      rw [← stored, (fresh _ origin).running] at ended
      simp [DurableStatus.terminal] at ended
    | claimed _ live _ _ leaves =>
      rw [leaves.stored, Option.some.injEq] at stored
      rw [← stored] at ended
      simp [DurableSnapshot.claimed, live] at ended
    | cancelled _ _ settled leaves =>
      rw [leaves.stored, Option.some.injEq] at stored
      rw [← stored, RunCell.cancelledSnapshot_frame settled] at uncancelled
      exact absurd rfl uncancelled
    | purged leaves => simp [leaves.stored] at stored
    | leased leaves =>
      rw [leaves.stored] at stored
      rw [leaves.ledger] at isIn
      rw [leaves.log]
      exact (before snapshot stored ended unasked uncancelled row isIn started never).cons
        (by simp) (by simp)
    | noted noted leaves =>
      rw [leaves.stored] at stored
      rw [leaves.ledger] at isIn
      rw [leaves.log]
      have retired := before snapshot stored ended unasked uncancelled row isIn started never
      refine retired.cons ?_ ?_
      · rintro owner site earlier later rfl
        cases noted
      · rintro owner definition rfl
        cases noted with
        | handlerStarted dispatched unused =>
          have starts : Noted codec task state (.handlerStarted task row.entry.callId definition) :=
            .handlerStarted dispatched unused
          exact retired.not_started starts
    | saved isStored live admissible _ settled recorded leaves =>
      cases leaves.stored.symm.trans stored
      rw [leaves.ledger] at isIn
      rw [leaves.log] at logged ⊢
      obtain ⟨rfl, _⟩ := List.cons.inj logged
      exact admissible.resolved fresh reached isStored live settled recorded along.1 ended
        unasked uncancelled ⟨isIn, started, never⟩

end AegisRag.Agent.Durable

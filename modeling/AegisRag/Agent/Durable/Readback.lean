import AegisRag.Agent.Durable.Rows

/-!
# Stored snapshots can be read back

Updates copy a snapshot without validating it. They keep its bounds, given room
for what the remaining tool calls may add, because a save never passes a reading
before the last one. `cancel` passes the bare wall clock, and one far enough back
writes a deadline before the start of an active budget. `CancelForward` excludes
it.
-/

namespace AegisRag.Agent.Durable

open Semantics

/-! ## The bounds as propositions -/

/-- The bounds of a snapshot that no update touches. -/
structure FixedBounds (snapshot : DurableSnapshot) : Prop where
  config : snapshot.config.accepted = true
  maxSteps : snapshot.config.maxSteps ≤ 20
  maxToolCalls : snapshot.config.maxToolCalls ≤ 20
  input : snapshot.config.inputText.length ≤ 4000
  timeout : snapshot.config.timeoutSeconds ≤ if snapshot.activeBudget.isSome then 3600 else 120

/-- The bounds on what a run accumulates. -/
structure ContentBounds (snapshot : DurableSnapshot) : Prop where
  steps : snapshot.stepsUsed ≤ 20
  toolCalls : snapshot.toolCallsUsed ≤ 20
  observations : snapshot.observations.length ≤ 20
  observed : ∀ observation ∈ snapshot.observations, observation.accepted = true
  decision : snapshot.decision.all AgentStepDecision.accepted = true
  result : snapshot.result.all AgentRunResult.accepted = true
  counts : snapshot.repeatedCounts.length ≤ 20
  positive : ∀ pair ∈ snapshot.repeatedCounts, 1 ≤ pair.2

/-- The bounds on deadlines and the active window. -/
structure TimeBounds (snapshot : DurableSnapshot) : Prop where
  begins : snapshot.startedAt ≤ snapshot.deadlineAt
  ends : snapshot.deadlineAt ≤ snapshot.expiresAt
  budget : ∀ budget, snapshot.activeBudget = some budget → budget.accepted = true ∧
    budget.secondsUsed ≤ snapshot.config.timeoutSeconds ∧
    ∀ since, budget.activeSinceAt = some since →
      snapshot.startedAt ≤ since ∧ snapshot.status = .running

variable {snapshot previous : DurableSnapshot} {now : Seconds} {codec : Codec} {task : Nat}
  {state : RunState} {site : Site} {entry : Option ToolLedgerEntry}

theorem accepted_iff :
    snapshot.accepted = true ↔
      FixedBounds snapshot ∧ ContentBounds snapshot ∧ TimeBounds snapshot := by
  constructor
  · intro accepted
    simp only [DurableSnapshot.accepted, DurableSnapshot.fieldsAccepted,
      DurableSnapshot.boundedSnapshot, DurableSnapshot.windowAccepted, Bool.and_eq_true,
      decide_eq_true_eq, List.all_eq_true, Option.all_eq_true, beq_iff_eq] at accepted
    obtain ⟨⟨⟨⟨⟨⟨⟨⟨config, budgets⟩, steps⟩, toolCalls⟩, observations⟩, observed⟩, decision⟩,
      result⟩, ⟨⟨⟨⟨⟨⟨⟨maxSteps, maxToolCalls⟩, timeout⟩, window⟩, input⟩, begins⟩, ends⟩, counts⟩,
      positive⟩ := accepted
    refine ⟨⟨config, maxSteps, maxToolCalls, input, timeout⟩, ⟨steps, toolCalls, observations,
      observed, ?_, ?_, counts, ?_⟩, ⟨begins, ends, ?_⟩⟩
    · simpa [Option.all_eq_true] using decision
    · simpa [Option.all_eq_true] using result
    · intro pair isIn
      exact positive pair isIn
    · intro budget active
      exact ⟨budgets budget active, (window budget active).1, fun since isSince =>
        (window budget active).2 since isSince⟩
  · rintro ⟨fixed, content, time⟩
    simp only [DurableSnapshot.accepted, DurableSnapshot.fieldsAccepted,
      DurableSnapshot.boundedSnapshot, DurableSnapshot.windowAccepted, Bool.and_eq_true,
      decide_eq_true_eq, List.all_eq_true, Option.all_eq_true, beq_iff_eq]
    refine ⟨⟨⟨⟨⟨⟨⟨⟨fixed.config, ?_⟩, content.steps⟩, content.toolCalls⟩, content.observations⟩,
      content.observed⟩, ?_⟩, ?_⟩, ⟨⟨⟨⟨⟨⟨⟨fixed.maxSteps, fixed.maxToolCalls⟩, fixed.timeout⟩, ?_⟩,
      fixed.input⟩, time.begins⟩, time.ends⟩, content.counts⟩, ?_⟩
    · intro budget active
      exact (time.budget budget active).1
    · simpa [Option.all_eq_true] using content.decision
    · simpa [Option.all_eq_true] using content.result
    · intro budget active
      exact ⟨(time.budget budget active).2.1, (time.budget budget active).2.2⟩
    · intro pair isIn
      exact content.positive pair isIn

/-- What an unfinished run needs so that its next updates stay within the bounds:
every remaining tool call may add one observation and one repeat count. -/
structure Roomy (snapshot : DurableSnapshot) : Prop where
  observed : snapshot.startedAt ≤ snapshot.lastObservedAt
  observations : snapshot.observations.length + snapshot.pendingCallId.toList.length +
    (snapshot.config.maxToolCalls - snapshot.toolCallsUsed) ≤ 20
  counts : snapshot.repeatedCounts.length +
    (snapshot.config.maxToolCalls - snapshot.toolCallsUsed) ≤ 20

/-- A snapshot that validates, with room to go on unless its run is over. -/
structure Readable (snapshot : DurableSnapshot) : Prop where
  accepted : snapshot.accepted = true
  roomy : snapshot.status.terminal = false → Roomy snapshot

/-! ## Settling -/

/-- The columns of a snapshot that the deadline arithmetic reads and never writes. -/
structure SameWindow (snapshot previous : DurableSnapshot) : Prop where
  config : snapshot.config = previous.config
  startedAt : snapshot.startedAt = previous.startedAt
  expiresAt : snapshot.expiresAt = previous.expiresAt
  deadlineAt : snapshot.deadlineAt = previous.deadlineAt
  budget : snapshot.activeBudget.isSome = previous.activeBudget.isSome

theorem DurableActiveBudget.settleCharge_nonneg (budget : DurableActiveBudget) (now : Seconds) :
    0 ≤ budget.settleCharge now := by
  unfold DurableActiveBudget.settleCharge
  split
  · exact le_refl 0
  · exact le_max_right _ _

theorem DurableActiveBudget.crashCharge_nonneg (budget : DurableActiveBudget)
    (leaseUntil : Option Seconds) (lastObservedAt now : Seconds) :
    0 ≤ budget.crashCharge leaseUntil lastObservedAt now := by
  unfold DurableActiveBudget.crashCharge
  split
  · exact le_refl 0
  · exact le_max_right _ _

theorem FixedBounds.timeout_pos (fixed : FixedBounds snapshot) :
    0 < snapshot.config.timeoutSeconds := by
  have config := fixed.config
  simp only [AgentRunConfig.accepted, Bool.and_eq_true, decide_eq_true_eq] at config
  exact config.1.2

/-- A budget charged some more, within the run's allowance, is still within bounds. -/
theorem TimeBounds.charged {budget : DurableActiveBudget} {since : Option Seconds}
    (time : TimeBounds previous) (positive : 0 < previous.config.timeoutSeconds)
    (active : previous.activeBudget = some budget) (charged : 0 ≤ charge)
    (config : saved.config = previous.config) (startedAt : saved.startedAt = previous.startedAt)
    (expiresAt : saved.expiresAt = previous.expiresAt)
    (deadline : saved.deadlineAt = min (now + previous.config.timeoutSeconds -
      min (budget.secondsUsed + charge) previous.config.timeoutSeconds) previous.expiresAt)
    (holds : saved.activeBudget = some { budget with
      secondsUsed := min (budget.secondsUsed + charge) previous.config.timeoutSeconds
      activeSinceAt := since })
    (forward : previous.startedAt ≤ now + (previous.config.timeoutSeconds -
      min (budget.secondsUsed + charge) previous.config.timeoutSeconds))
    (opened : ∀ instant, since = some instant →
      previous.startedAt ≤ instant ∧ saved.status = .running) :
    TimeBounds saved := by
  refine ⟨?_, ?_, ?_⟩
  · rw [deadline, startedAt]
    refine le_min ?_ (time.begins.trans time.ends)
    rw [add_sub_assoc]
    exact forward
  · rw [deadline, expiresAt]
    exact min_le_right _ _
  · intro current isCurrent
    cases holds.symm.trans isCurrent
    obtain ⟨accepted, _, _⟩ := time.budget budget active
    simp only [DurableActiveBudget.accepted, Bool.and_eq_true, decide_eq_true_eq] at accepted
    refine ⟨?_, ?_, ?_⟩
    · simp only [DurableActiveBudget.accepted, Bool.and_eq_true, decide_eq_true_eq]
      exact ⟨⟨le_min (add_nonneg accepted.1.1 charged) positive.le, accepted.1.2⟩, accepted.2⟩
    · rw [config]
      exact min_le_right _ _
    · rw [startedAt]
      exact opened

/-- Settling an update of a snapshot keeps its deadlines within bounds, unless the
clock reading leaves the deadline before the start. -/
theorem settleActive_timeBounds (fixed : FixedBounds previous) (time : TimeBounds previous)
    (window : SameWindow snapshot previous)
    (settled : settleActive previous snapshot now = .ok saved)
    (forward : ∀ budget, previous.activeBudget = some budget →
      previous.startedAt ≤ now + (previous.config.timeoutSeconds -
        min (budget.secondsUsed + budget.settleCharge now) previous.config.timeoutSeconds))
    (opened : snapshot.status = .running → previous.startedAt ≤ now) :
    FixedBounds saved ∧ TimeBounds saved := by
  cases active : previous.activeBudget with
  | none =>
    obtain rfl := settleActive_wallClock active settled
    have wallClock : saved.activeBudget = none := by
      have budget := window.budget
      rw [active] at budget
      simpa using budget
    refine ⟨⟨?_, ?_, ?_, ?_, ?_⟩, ⟨?_, ?_, ?_⟩⟩
    · exact window.config ▸ fixed.config
    · exact window.config ▸ fixed.maxSteps
    · exact window.config ▸ fixed.maxToolCalls
    · exact window.config ▸ fixed.input
    · rw [window.config, window.budget]
      exact fixed.timeout
    · rw [window.startedAt, window.deadlineAt]
      exact time.begins
    · rw [window.deadlineAt, window.expiresAt]
      exact time.ends
    · intro budget isSome
      simp [wallClock] at isSome
  | some budget =>
    have frame := settleActive_frame settled
    have config : saved.config = previous.config := by
      rw [frame]
      exact window.config
    obtain ⟨reopen, running, holds, deadline⟩ := settleActive_budget active settled
    refine ⟨⟨?_, ?_, ?_, ?_, ?_⟩, ?_⟩
    · exact config ▸ fixed.config
    · exact config ▸ fixed.maxSteps
    · exact config ▸ fixed.maxToolCalls
    · exact config ▸ fixed.input
    · have timeout := fixed.timeout
      rw [active] at timeout
      rw [config, holds]
      exact timeout
    · rw [window.config] at holds deadline
      rw [window.expiresAt] at deadline
      refine time.charged fixed.timeout_pos active (budget.settleCharge_nonneg now) config ?_ ?_
        deadline holds (forward budget active) ?_
      · rw [frame]
        exact window.startedAt
      · rw [frame]
        exact window.expiresAt
      · intro instant isOpen
        cases reopen with
        | false => simp at isOpen
        | true =>
          simp only [if_true, Option.some.injEq] at isOpen
          subst isOpen
          refine ⟨opened (running rfl), ?_⟩
          rw [frame]
          exact running rfl

/-! ## Saves -/

theorem Admissible.window (admissible : Admissible codec task state site previous snapshot entry) :
    SameWindow snapshot previous := by
  cases admissible with
  | approve _ _ _ => exact ⟨rfl, rfl, rfl, rfl, Option.isSome_map⟩
  | _ => exact ⟨rfl, rfl, rfl, rfl, rfl⟩

/-- A stop drops what a run was about to do and adds nothing. -/
theorem ContentBounds.stopped (content : ContentBounds snapshot) (code : String)
    (status : DurableStatus) : ContentBounds (snapshot.stopped code status) :=
  { content with result := rfl }

/-- The result of a run within its budgets is within the bounds. -/
theorem ContentBounds.finished {result : AgentRunResult} (content : ContentBounds snapshot)
    (fixed : FixedBounds snapshot) (finishes : Finishes snapshot result) :
    ContentBounds (snapshot.finished result) := by
  refine { content with steps := ?_, toolCalls := ?_, observations := ?_, observed := ?_,
                        result := ?_ }
  · exact max_le (finishes.steps.trans content.steps) content.steps
  · refine max_le (finishes.toolCalls.trans ?_) content.toolCalls
    exact max_le content.toolCalls fixed.maxToolCalls
  · simp only [DurableSnapshot.finished, AgentRunResult.atLeast, finishes.observations]
    exact content.observations
  · simp only [DurableSnapshot.finished, AgentRunResult.atLeast, finishes.observations]
    exact content.observed
  · exact finishes.accepted

/-- Every save keeps what a run accumulates within the bounds. -/
theorem Admissible.contentBounds
    (admissible : Admissible codec task state site previous snapshot entry)
    (fixed : FixedBounds previous) (content : ContentBounds previous) (roomy : Roomy previous) :
    ContentBounds snapshot := by
  cases admissible with
  | approve | requestApproval | markUnknown => exact { content with }
  | clearGrant => exact { content with decision := rfl }
  | reserve _ _ room => exact { content with steps := room.trans_le fixed.maxSteps }
  | decided _ _ accepted => exact { content with decision := accepted }
  | beforeDispatch _ _ _ _ _ _ room _ =>
    refine { content with toolCalls := room.trans_le fixed.maxToolCalls, counts := ?_,
                          positive := ?_ }
    · refine (RepeatedCounts.length_bump_le _ _).trans ?_
      have counts := roomy.counts
      omega
    · have positive : previous.repeatedCounts.all (fun pair => 1 ≤ pair.2) = true :=
        List.all_eq_true.mpr fun pair isIn => decide_eq_true (content.positive pair isIn)
      intro pair isIn
      exact of_decide_eq_true
        (List.all_eq_true.mp (RepeatedCounts.bump_positive _ positive) pair isIn)
  | afterDispatch _ _ pending _ accepted =>
    have observations := roomy.observations
    rw [pending] at observations
    simp only [Option.toList_some, List.length_singleton] at observations
    refine { content with decision := rfl, observations := ?_, observed := ?_ }
    · simp only [List.length_append, List.length_singleton]
      omega
    · intro observation isIn
      rcases List.mem_append.mp isIn with earlier | isNew
      · exact content.observed observation earlier
      · rw [List.mem_singleton.mp isNew]
        exact accepted
  | rejected | regression | deadline | failure | toolFailed | unknownReplay | outcomeUnknown
  | cleanupUnknown | cleanupTimeout => exact content.stopped _ _
  | finishDecision _ _ finishes | finishValidation _ _ finishes | finishToolLimit _ _ _ finishes
  | finishRejected _ _ _ _ finishes | finishTool _ finishes _ =>
    exact content.finished fixed finishes

/-- A save leaves room for the calls that remain, or ends the run. -/
theorem Admissible.room (admissible : Admissible codec task state site previous snapshot entry)
    (roomy : Roomy previous) (live : snapshot.status.terminal = false) :
    snapshot.observations.length + snapshot.pendingCallId.toList.length +
        (snapshot.config.maxToolCalls - snapshot.toolCallsUsed) ≤ 20 ∧
      snapshot.repeatedCounts.length +
        (snapshot.config.maxToolCalls - snapshot.toolCallsUsed) ≤ 20 := by
  have observations := roomy.observations
  have counts := roomy.counts
  cases admissible with
  | approve | requestApproval | reserve | decided | clearGrant => exact ⟨observations, counts⟩
  | markUnknown =>
    refine ⟨?_, counts⟩
    simp only [Option.toList_none, List.length_nil]
    omega
  | @beforeDispatch _ _ _ _ _ _ _ idle _ _ _ room _ =>
    have bumped := RepeatedCounts.length_bump_le previous.repeatedCounts
    rw [idle] at observations
    simp only [Option.toList_none, List.length_nil, Option.toList_some,
      List.length_singleton] at observations ⊢
    refine ⟨by omega, ?_⟩
    refine (Nat.add_le_add_right (bumped _) _).trans ?_
    omega
  | afterDispatch _ _ pending _ _ =>
    rw [pending] at observations
    simp only [Option.toList_none, List.length_nil, Option.toList_some, List.length_singleton,
      List.length_append] at observations ⊢
    exact ⟨by omega, counts⟩
  | rejected | regression | deadline | toolFailed | unknownReplay | outcomeUnknown
  | cleanupUnknown | cleanupTimeout =>
    simp [DurableSnapshot.stopped, DurableStatus.terminal] at live
  | failure code =>
    simp only [DurableSnapshot.stopped] at live
    split at live <;> simp [DurableStatus.terminal] at live
  | finishDecision | finishValidation | finishToolLimit | finishRejected | finishTool =>
    simp [DurableSnapshot.finished, AgentRunStatus.durable_terminal] at live

/-! ## Runs -/

/-- The condition on a cancellation: on an active budget, its clock reading and
the remaining allowance reach the start of the run. -/
def CancelForward (event : Event) (_ : List Event) : Prop :=
  ∀ task now previous saved budget, event = .cancelled task now previous saved →
    previous.activeBudget = some budget →
    previous.startedAt ≤ now + (previous.config.timeoutSeconds -
      min (budget.secondsUsed + budget.settleCharge now) previous.config.timeoutSeconds)

/-- A cancellation that does not reach the start of its run. -/
def Event.cancelsBackwards : Event → Bool
  | .cancelled _ now previous _ => previous.activeBudget.any fun budget =>
    now + (previous.config.timeoutSeconds -
      min (budget.secondsUsed + budget.settleCharge now) previous.config.timeoutSeconds) <
        previous.startedAt
  | _ => false

theorem cancelForward_of_all (forward : ∀ event ∈ log, CancelForward event []) :
    Along CancelForward log := by
  induction log with
  | nil => trivial
  | cons event older ih =>
    exact ⟨forward event List.mem_cons_self, ih fun other isIn =>
      forward other (List.mem_cons_of_mem _ isIn)⟩

theorem cancelForward_of_check (forward : log.all (fun event => !event.cancelsBackwards) = true) :
    Along CancelForward log := by
  refine cancelForward_of_all ?_
  rintro _ isIn task now previous saved budget rfl active
  have passes := List.all_eq_true.mp forward _ isIn
  simpa [Event.cancelsBackwards, active] using passes

/-- The remaining allowance only moves a later reading further. -/
theorem forward_of_le (forward : start ≤ now) : start ≤ now + (timeout - min used timeout) := by
  have remaining : 0 ≤ timeout - min used timeout := sub_nonneg.mpr (min_le_right _ _)
  linarith

theorem Readable.claimed (readable : Readable previous) (live : previous.status.terminal = false)
    (active : previous.activeBudget = some budget) (forward : previous.lastObservedAt ≤ now) :
    Readable (previous.claimed budget leaseUntil now activateBudget) := by
  obtain ⟨fixed, content, time⟩ := accepted_iff.mp readable.accepted
  have roomy := readable.roomy live
  have started := roomy.observed.trans forward
  refine ⟨accepted_iff.mpr ⟨?_, { content with }, ?_⟩, fun _ => { roomy with observed := started }⟩
  · have timeout := fixed.timeout
    rw [active] at timeout
    exact { fixed with timeout := timeout }
  · refine time.charged fixed.timeout_pos active
      (budget.crashCharge_nonneg leaseUntil previous.lastObservedAt now) rfl rfl rfl rfl rfl
      (forward_of_le started) ?_
    intro instant isOpen
    split at isOpen
    · rename_i running
      simp only [Bool.and_eq_true, beq_iff_eq] at running
      rw [Option.some.injEq] at isOpen
      exact ⟨isOpen ▸ started, running.2⟩
    · simp at isOpen

theorem Readable.cancelled {saved : DurableSnapshot} (readable : Readable previous)
    (settled : RunCell.cancelledSnapshot previous now = .ok saved)
    (forward : ∀ budget, previous.activeBudget = some budget →
      previous.startedAt ≤ now + (previous.config.timeoutSeconds -
        min (budget.secondsUsed + budget.settleCharge now) previous.config.timeoutSeconds)) :
    Readable saved := by
  obtain ⟨fixed, content, time⟩ := accepted_iff.mp readable.accepted
  have window : SameWindow { previous with
      revision := previous.revision + 1
      status := .cancelled
      phase := .done
      approval := none
      result := none
      errorCode := some "DURABLE_CANCELLED"
      lastObservedAt := now } previous := ⟨rfl, rfl, rfl, rfl, rfl⟩
  obtain ⟨savedFixed, savedTime⟩ :=
    settleActive_timeBounds fixed time window settled forward (by simp)
  have frame := RunCell.cancelledSnapshot_frame settled
  refine ⟨accepted_iff.mpr ⟨savedFixed, ?_, savedTime⟩, ?_⟩
  · rw [frame]
    exact { content with result := rfl }
  · intro live
    rw [frame] at live
    simp [DurableStatus.terminal] at live

theorem Readable.saved {saved : DurableSnapshot} (readable : Readable previous)
    (live : previous.status.terminal = false)
    (admissible : Admissible codec task state site previous snapshot entry)
    (forward : previous.lastObservedAt ≤ now)
    (settled : RunCell.savedSnapshot previous snapshot now = .ok saved) : Readable saved := by
  obtain ⟨fixed, content, time⟩ := accepted_iff.mp readable.accepted
  have roomy := readable.roomy live
  have started := roomy.observed.trans forward
  have window : SameWindow { snapshot with
      revision := previous.revision + 1, lastObservedAt := now } previous :=
    { admissible.window with }
  obtain ⟨savedFixed, savedTime⟩ := settleActive_timeBounds fixed time window settled
    (fun _ _ => forward_of_le started) (fun _ => started)
  have kept := admissible.contentBounds fixed content roomy
  obtain ⟨_, _, rfl⟩ := savedSnapshot_eq settled
  refine ⟨accepted_iff.mpr ⟨savedFixed, { kept with }, savedTime⟩, ?_⟩
  intro unfinished
  obtain ⟨observations, counts⟩ := admissible.room roomy unfinished
  refine ⟨?_, observations, counts⟩
  exact admissible.window.startedAt.le.trans started

section

variable (fresh : ∀ snapshot, Origin snapshot → Readable snapshot)
  (reachable : RunReachable codec Origin state) (forward : Along CancelForward state.log)

include fresh reachable forward

/-- Where every cancellation reaches the start, each committed snapshot validates. -/
theorem RunReachable.readable : ∀ snapshot ∈ state.committed, Readable snapshot := by
  refine reachable.invariant (fun state => Along CancelForward state.log →
    ∀ snapshot ∈ state.committed, Readable snapshot) ?_ ?_ forward
  · intro _ snapshot isIn
    simp [RunState.committed, RunState.initial, Chronicle.initial] at isIn
  · intro task state next reached readable effect along snapshot isIn
    obtain ⟨_, logged⟩ := effect.logs
    rw [logged] at along
    have before := readable along.2
    have current : ∀ {previous}, state.stored = some previous → Readable previous := by
      intro previous stored
      exact before previous (RunState.stored_committed reached.fenced stored)
    cases effect with
    | created origin _ leaves =>
      rw [leaves.committed, List.mem_singleton] at isIn
      exact isIn ▸ fresh _ origin
    | leased leaves | purged leaves | noted _ leaves =>
      rw [leaves.committed] at isIn
      exact before snapshot isIn
    | claimed stored live active observed leaves =>
      rw [leaves.committed] at isIn
      rcases List.mem_cons.mp isIn with rfl | earlier
      · exact (current stored).claimed live active observed
      · exact before snapshot earlier
    | cancelled stored _ settled leaves =>
      rw [leaves.committed] at isIn
      rcases List.mem_cons.mp isIn with rfl | earlier
      · rw [leaves.log] at logged
        obtain ⟨rfl, _⟩ := List.cons.inj logged
        refine (current stored).cancelled settled ?_
        intro budget active
        exact along.1 _ _ _ _ budget rfl active
      · exact before snapshot earlier
    | saved stored live admissible observed settled _ leaves =>
      rw [leaves.committed] at isIn
      rcases List.mem_cons.mp isIn with rfl | earlier
      · exact (current stored).saved live admissible observed settled
      · exact before snapshot earlier

/-! ## Rows -/

/-- Where every cancellation reaches the start, the stored row passes
`_validated_snapshot` for its owner. -/
theorem RunReachable.validates (found : state.chronicle.cell.run = some row) :
    RunCell.validatedSnapshot row row.tenantId row.userId row.snapshot.runId =
      .ok row.snapshot := by
  obtain ⟨newest, revision, status⟩ := reachable.fenced.stored row found
  have readable := reachable.readable fresh forward row.snapshot (List.mem_of_head? newest)
  have scope := reachable.rowOwned row found
  simp only [RunRow.inScope, Bool.and_eq_true, beq_iff_eq] at scope
  refine RunCell.validatedSnapshot_ok.mpr ⟨scope.1.1, readable.accepted, ⟨?_, ?_, rfl, ?_, ?_⟩, rfl⟩
  · exact revision.symm
  · exact status.symm
  · exact scope.1.2.symm
  · exact scope.2.symm

end

end AegisRag.Agent.Durable

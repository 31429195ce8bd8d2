import AegisRag.Agent.Durable.Fencing

/-!
# The journal of one durable run

A `RunState` is the chronicle of a run with a log of what its workers did,
newest first. `RunStep` says once what a worker can do to a run: issue a store
transaction, save at one of the sites of `_DurableExecution` under the facts
that hold there, or act outside the store. That the service's code takes no
other steps is a separate theorem about its programs.
-/

namespace AegisRag.Agent.Durable

/-! ## Snapshots that end a run -/

/-- The snapshot `stop` saves. -/
def DurableSnapshot.stopped (snapshot : DurableSnapshot) (code : String)
    (status : DurableStatus) : DurableSnapshot :=
  { snapshot with
    status, phase := .done, errorCode := some code, approval := none, result := none }

/-- The result `finish` records: counters never fall below the snapshot's. -/
def AgentRunResult.atLeast (result : AgentRunResult) (snapshot : DurableSnapshot) :
    AgentRunResult :=
  { result with
    stepsUsed := max result.stepsUsed snapshot.stepsUsed
    toolCallsUsed := max result.toolCallsUsed snapshot.toolCallsUsed }

/-- The snapshot `finish` saves. -/
def DurableSnapshot.finished (snapshot : DurableSnapshot) (result : AgentRunResult) :
    DurableSnapshot :=
  let result := result.atLeast snapshot
  { snapshot with
    status := result.status.durable
    phase := .done
    result := some result
    stepsUsed := result.stepsUsed
    toolCallsUsed := result.toolCallsUsed
    observations := result.observations
    errorCode := result.errorCode
    approval := none
    pendingCallId := none }

def AgentStepDecision.nextPhase (decision : AgentStepDecision) : DurablePhase :=
  if decision.action = .finalAnswer then .validation else .tool

def ToolDefinition.needsApproval (definition : ToolDefinition) (snapshot : DurableSnapshot) :
    Bool :=
  definition.requiresApproval || snapshot.approvalTools.contains definition.name

/-- The policy a dispatch records; an unsupported tool is never dispatched. -/
def DurableReplayPolicy.recorded : DurableReplayPolicy → Option ReplayPolicy
  | .unsupported => none
  | .readOnly => some .readOnly
  | .never => some .never

/-! ## Events -/

/-- The places where `_DurableExecution` and its callers save a snapshot. -/
inductive Site where
  | approve
  | rejected
  | regression
  | deadline
  | failure
  | toolFailed
  | reserve
  | decided
  | finishDecision
  | finishValidation
  | markUnknown
  | unknownReplay
  | finishToolLimit
  | requestApproval
  | beforeDispatch (definition : ToolDefinition)
  | afterDispatch
  | finishRejected
  | outcomeUnknown
  | finishTool
  | clearGrant
  | cleanupUnknown
  /-- The flag says that the saved snapshot is the one the ledger was checked for. -/
  | cleanupTimeout (checked : Bool)

/-- What is written down about a run. Task numbers name the worker. -/
inductive Event where
  /-- The token is the lease the row was inserted with. -/
  | created (task : Nat) (token : Option String) (snapshot : DurableSnapshot)
  | saved (task : Nat) (site : Site) (previous saved : DurableSnapshot)
  | cancelled (task : Nat) (now : Seconds) (previous saved : DurableSnapshot)
  | leased (task : Nat) (operation : Operation)
  | purged (task : Nat)
  | approvalChecked (task : Nat) (snapshot : DurableSnapshot) (approval : ApprovalRequest)
      (command : DurableResumeCommand) (now : Seconds)
  | modelCalled (task : Nat) (revision : Nat)
  | handlerStarted (task : Nat) (callId : String) (definition : ToolDefinition)
  | raised (task : Nat) (code : String) (snapshot : DurableSnapshot)
  /-- The flag tells a start, which inserted the run, from a later resume. -/
  | driving (task : Nat) (start : Bool)

/-- A run's tables and what its workers did to it, newest first. -/
structure RunState where
  chronicle : Chronicle
  log : List Event

namespace RunState

def initial : RunState := ⟨.initial, []⟩

/-- The snapshot is the one the private row stores now. -/
def Current (state : RunState) (snapshot : DurableSnapshot) : Prop :=
  ∃ row, state.chronicle.cell.run = some row ∧ row.snapshot = snapshot

/-- A worker read this entry for its snapshot, and it is still the entry if the
snapshot is still the stored one. -/
def LedgerSeen (state : RunState) (snapshot : DurableSnapshot) (callId : String)
    (entry : ToolLedgerEntry) : Prop :=
  state.Current snapshot → state.chronicle.cell.ledgerEntry snapshot callId = .ok entry

/-- A task has committed the dispatch of a call, and no save after it. -/
def Dispatched (state : RunState) (task : Nat) (callId : String) (definition : ToolDefinition) :
    Prop :=
  ∃ newer older previous saved,
    state.log = newer ++ .saved task (.beforeDispatch definition) previous saved :: older ∧
      saved.pendingCallId = some callId ∧
      ∀ site before after, .saved task site before after ∉ newer

/-- The call a worker looks up in the ledger: its snapshot's pending one, or one
whose dispatch the worker committed itself. -/
def Recorded (state : RunState) (task : Nat) (snapshot : DurableSnapshot) (callId : String) :
    Prop :=
  snapshot.pendingCallId = some callId ∨
    ∃ definition previous saved,
      .saved task (.beforeDispatch definition) previous saved ∈ state.log ∧
        saved.pendingCallId = some callId

end RunState

/-- A result that `finish` records for a snapshot: it was computed from the
snapshot's own counters and observations. -/
structure Finishes (snapshot : DurableSnapshot) (result : AgentRunResult) : Prop where
  observations : result.observations = snapshot.observations
  steps : result.stepsUsed ≤ snapshot.stepsUsed
  toolCalls : result.toolCallsUsed ≤ max snapshot.toolCallsUsed snapshot.config.maxToolCalls
  accepted : result.accepted = true

/-- The pending call is no side effect whose outcome is unknown: there is none,
or the ledger entry read for it is not a started call that must not replay. -/
def Settled (state : RunState) (snapshot : DurableSnapshot) : Prop :=
  snapshot.pendingCallId = none ∨
    ∃ callId entry, snapshot.pendingCallId = some callId ∧
      state.LedgerSeen snapshot callId entry ∧
      ¬ (entry.status = .started ∧ entry.replayPolicy = .never)

/-- What a lease operation hands back: the snapshot it was given, or its claim. -/
def Reclaimed (snapshot saved : DurableSnapshot) : Prop :=
  saved = snapshot ∨ ∃ budget leaseUntil now activateBudget,
    saved = snapshot.claimed budget leaseUntil now activateBudget

theorem Reclaimed.runId {snapshot saved : DurableSnapshot} (reclaimed : Reclaimed snapshot saved) :
    saved.runId = snapshot.runId := by
  rcases reclaimed with rfl | ⟨_, _, _, _, rfl⟩ <;> rfl

/-- What holds where a save is issued: the site, the snapshot it replaces, the
snapshot and the ledger entry it writes. -/
inductive Admissible (codec : Codec) (task : Nat) (state : RunState) :
    Site → DurableSnapshot → DurableSnapshot → Option ToolLedgerEntry → Prop
  | approve {previous : DurableSnapshot} {approval : ApprovalRequest} {since : Option Seconds}
      (awaiting : previous.status = .awaitingApproval)
      (requested : previous.approval = some approval)
      (checked : ∃ checker snapshot command now,
        .approvalChecked checker snapshot approval command now ∈ state.log ∧
          command.approve = some true ∧ Reclaimed snapshot previous) :
      Admissible codec task state .approve previous
        { previous with
          status := .running
          approvedActionDigest := some approval.actionDigest
          approvedDefinitionDigest := some approval.definitionDigest
          approval := none
          activeBudget := previous.activeBudget.map fun budget =>
            { budget with activeSinceAt := since } } none
  | rejected {previous : DurableSnapshot} (awaiting : previous.status = .awaitingApproval) :
      Admissible codec task state .rejected previous
        (previous.stopped "DURABLE_APPROVAL_REJECTED" .cancelled) none
  | regression {previous : DurableSnapshot} :
      Admissible codec task state .regression previous
        (previous.stopped "DURABLE_CLOCK_REGRESSION" .failed) none
  | deadline {previous : DurableSnapshot} :
      Admissible codec task state .deadline previous
        (previous.stopped "AGENT_TIMEOUT" .stopped) none
  | failure {previous : DurableSnapshot} (code : String) :
      Admissible codec task state .failure previous
        (previous.stopped code (if code = "AGENT_TIMEOUT" then .stopped else .failed)) none
  | toolFailed {previous : DurableSnapshot} (running : previous.status = .running)
      (phase : previous.phase = .decision) :
      Admissible codec task state .toolFailed previous
        (previous.stopped "AGENT_TOOL_FAILED" .failed) none
  | reserve {previous : DurableSnapshot} (running : previous.status = .running)
      (phase : previous.phase = .decision)
      (room : previous.stepsUsed < previous.config.maxSteps) :
      Admissible codec task state .reserve previous
        { previous with
          stepsUsed := previous.stepsUsed + 1
          decisionInflight := true } none
  | decided {previous : DurableSnapshot} {decision : AgentStepDecision}
      {fingerprints : List (String × String)} (running : previous.status = .running)
      (phase : previous.phase = .decision) (accepted : decision.accepted = true) :
      Admissible codec task state .decided previous
        { previous with
          decision := some decision
          decisionInflight := false
          phase := decision.nextPhase
          evidenceFingerprints := fingerprints } none
  | finishDecision {previous : DurableSnapshot} {result : AgentRunResult}
      (running : previous.status = .running) (phase : previous.phase = .decision)
      (finishes : Finishes previous result) :
      Admissible codec task state .finishDecision previous (previous.finished result) none
  | finishValidation {previous : DurableSnapshot} {result : AgentRunResult}
      (running : previous.status = .running) (phase : previous.phase = .validation)
      (finishes : Finishes previous result) :
      Admissible codec task state .finishValidation previous (previous.finished result) none
  | markUnknown {previous : DurableSnapshot} {callId : String} {entry : ToolLedgerEntry}
      (running : previous.status = .running) (phase : previous.phase = .tool)
      (pending : previous.pendingCallId = some callId)
      (seen : state.LedgerSeen previous callId entry)
      (replayable : entry.replayPolicy = .readOnly) :
      Admissible codec task state .markUnknown previous
        { previous with pendingCallId := none } (some { entry with status := .unknown })
  | unknownReplay {previous : DurableSnapshot} :
      Admissible codec task state .unknownReplay previous
        (previous.stopped "DURABLE_TOOL_OUTCOME_UNKNOWN" .interventionRequired) none
  | finishToolLimit {previous : DurableSnapshot} {result : AgentRunResult}
      (running : previous.status = .running) (phase : previous.phase = .tool)
      (idle : previous.pendingCallId = none) (finishes : Finishes previous result) :
      Admissible codec task state .finishToolLimit previous (previous.finished result) none
  | requestApproval {previous : DurableSnapshot} {approval : ApprovalRequest}
      (running : previous.status = .running) (phase : previous.phase = .tool)
      (idle : previous.pendingCallId = none) :
      Admissible codec task state .requestApproval previous
        { previous with status := .awaitingApproval, approval := some approval } none
  | beforeDispatch {previous : DurableSnapshot} {decision : AgentStepDecision}
      {definition : ToolDefinition} {toolName : String} {policy : ReplayPolicy}
      (running : previous.status = .running) (phase : previous.phase = .tool)
      (idle : previous.pendingCallId = none) (decided : previous.decision = some decision)
      (named : decision.toolName = some toolName)
      (recorded : definition.durableReplayPolicy.recorded = some policy)
      (room : previous.toolCallsUsed < previous.config.maxToolCalls)
      (approved : definition.needsApproval previous = true →
        previous.approvedActionDigest = some (codec.decisionDigest decision) ∧
          previous.approvedDefinitionDigest = some (codec.definitionDigest definition)) :
      Admissible codec task state (.beforeDispatch definition) previous
        { previous with
          toolCallsUsed := previous.toolCallsUsed + 1
          repeatedCounts :=
            previous.repeatedCounts.bump (codec.actionHash toolName decision.arguments)
          pendingCallId := some
            (toolCallEventId previous.runId previous.stepsUsed (previous.toolCallsUsed + 1)) }
        (some {
          callId :=
            toolCallEventId previous.runId previous.stepsUsed (previous.toolCallsUsed + 1)
          toolName := definition.name
          actionDigest := codec.decisionDigest decision
          replayPolicy := policy
          status := .started
          observation := none })
  | afterDispatch {previous : DurableSnapshot} {callId : String} {entry : ToolLedgerEntry}
      {observation : AgentObservationSummary} {fingerprints : List (String × String)}
      (running : previous.status = .running) (phase : previous.phase = .tool)
      (pending : previous.pendingCallId = some callId)
      (seen : state.LedgerSeen previous callId entry)
      (accepted : observation.accepted = true) :
      Admissible codec task state .afterDispatch previous
        { previous with
          phase := .decision
          decision := none
          observations := previous.observations ++ [observation]
          pendingCallId := none
          evidenceFingerprints := fingerprints
          approvedActionDigest := none
          approvedDefinitionDigest := none }
        (some { entry with status := .completed, observation := some observation })
  | finishRejected {previous : DurableSnapshot} {callId : String} {entry : ToolLedgerEntry}
      {result : AgentRunResult} (running : previous.status = .running)
      (phase : previous.phase = .tool) (pending : previous.pendingCallId = some callId)
      (seen : state.LedgerSeen previous callId entry) (finishes : Finishes previous result) :
      Admissible codec task state .finishRejected previous (previous.finished result)
        (some { entry with status := .completed })
  | outcomeUnknown {previous : DurableSnapshot} :
      Admissible codec task state .outcomeUnknown previous
        (previous.stopped "DURABLE_TOOL_OUTCOME_UNKNOWN" .interventionRequired) none
  | finishTool {previous : DurableSnapshot} {result : AgentRunResult}
      (running : previous.status = .running) (finishes : Finishes previous result)
      (settled : Settled state previous) :
      Admissible codec task state .finishTool previous (previous.finished result) none
  | clearGrant {previous : DurableSnapshot} (running : previous.status = .running)
      (phase : previous.phase = .decision) (idle : previous.pendingCallId = none) :
      Admissible codec task state .clearGrant previous
        { previous with
          phase := .decision
          decision := none
          approvedActionDigest := none
          approvedDefinitionDigest := none } none
  | cleanupUnknown {previous : DurableSnapshot} :
      Admissible codec task state .cleanupUnknown previous
        (previous.stopped "DURABLE_TOOL_OUTCOME_UNKNOWN" .interventionRequired) none
  | cleanupTimeout {previous : DurableSnapshot} {checked : Bool}
      (settled : checked = true → Settled state previous) :
      Admissible codec task state (.cleanupTimeout checked) previous
        (previous.stopped "AGENT_TIMEOUT" .stopped) none

/-- The transactions that move no snapshot other than by an active claim. -/
def Operation.leases : Operation → Bool
  | .acquire .. | .renew .. | .release .. | .graphPut .. | .graphWrites .. => true
  | _ => false

theorem Operation.inserted_of_leases {operation : Operation} (leases : operation.leases = true) :
    operation.inserted = none := by
  cases operation <;> first | rfl | cases leases

/-- What a worker may write down without a transaction. -/
inductive Noted (codec : Codec) (task : Nat) (state : RunState) : Event → Prop
  | approvalChecked {snapshot : DurableSnapshot} {approval : ApprovalRequest}
      {command : DurableResumeCommand} {now : Seconds} {decision : AgentStepDecision}
      {definition : ToolDefinition} (known : snapshot ∈ state.chronicle.committed)
      (awaiting : snapshot.status = .awaitingApproval)
      (requested : snapshot.approval = some approval)
      (named : command.approvalId = some approval.approvalId) (unexpired : now < approval.expiresAt)
      (decided : snapshot.decision = some decision)
      (action : codec.decisionDigest decision = approval.actionDigest)
      (defined : codec.definitionDigest definition = approval.definitionDigest) :
      Noted codec task state (.approvalChecked task snapshot approval command now)
  | modelCalled {revision : Nat}
      (reserved : ∃ previous saved, .saved task .reserve previous saved ∈ state.log ∧
        saved.revision = revision)
      (unused : .modelCalled task revision ∉ state.log) :
      Noted codec task state (.modelCalled task revision)
  | handlerStarted {callId : String} {definition : ToolDefinition}
      (dispatched : state.Dispatched task callId definition)
      (unused : ∀ definition, .handlerStarted task callId definition ∉ state.log) :
      Noted codec task state (.handlerStarted task callId definition)
  | unreadable {code : String} {snapshot : DurableSnapshot} {callId : String}
      (known : snapshot ∈ state.chronicle.committed)
      (recorded : state.Recorded task snapshot callId)
      (refused : state.chronicle.cell.ledgerEntry snapshot callId = .error (.durable code)) :
      Noted codec task state (.raised task code snapshot)
  | mismatch {snapshot : DurableSnapshot} {callId : String} {entry : ToolLedgerEntry}
      {decision : AgentStepDecision} (known : snapshot ∈ state.chronicle.committed)
      (pending : snapshot.pendingCallId = some callId)
      (decided : snapshot.decision = some decision)
      (seen : state.LedgerSeen snapshot callId entry)
      (differs : entry.actionDigest ≠ codec.decisionDigest decision ∨ entry.status = .completed) :
      Noted codec task state (.raised task "DURABLE_LEDGER_INVALID" snapshot)
  | phaseInvalid {snapshot : DurableSnapshot} (known : snapshot ∈ state.chronicle.committed)
      (running : snapshot.status = .running) (phase : snapshot.phase = .done) :
      Noted codec task state (.raised task "DURABLE_PHASE_INVALID" snapshot)
  | immutable {site : Site} {previous snapshot : DurableSnapshot} {token : String}
      {now : Seconds} {entry : Option ToolLedgerEntry}
      (known : previous ∈ state.chronicle.committed)
      (admissible : Admissible codec task state site previous snapshot entry)
      (refused : state.chronicle.cell.save codec previous snapshot token now entry =
        .error (.durable "DURABLE_LEDGER_IMMUTABLE")) :
      Noted codec task state (.raised task "DURABLE_LEDGER_IMMUTABLE" previous)
  | driving {start : Bool}
      (inserted : start = true → ∃ token snapshot, .created task token snapshot ∈ state.log) :
      Noted codec task state (.driving task start)

/-- One step of one worker on one run. -/
inductive RunStep (codec : Codec) (Origin : DurableSnapshot → Prop) (task : Nat) :
    RunState → RunState → Prop
  | insert {state : RunState} {operation : Operation} {snapshot returned : DurableSnapshot}
      {next : Chronicle} (inserted : operation.inserted = some snapshot)
      (origin : Origin snapshot)
      (performed : state.chronicle.perform codec operation = .ok (some returned, next)) :
      RunStep codec Origin task state
        ⟨next, .created task operation.insertToken snapshot :: state.log⟩
  | lease {state : RunState} {operation : Operation} {returned : Option DurableSnapshot}
      {next : Chronicle} (leases : operation.leases = true)
      (known : state.chronicle.Knows operation)
      (performed : state.chronicle.perform codec operation = .ok (returned, next)) :
      RunStep codec Origin task state ⟨next, .leased task operation :: state.log⟩
  | cancel {state : RunState} {previous saved : DurableSnapshot} {now : Seconds}
      {ownership : Option String} {allowUnclaimed : Bool} {next : Chronicle}
      (known : previous ∈ state.chronicle.committed)
      (performed : state.chronicle.perform codec
        (.cancel previous now ownership allowUnclaimed) = .ok (some saved, next)) :
      RunStep codec Origin task state ⟨next, .cancelled task now previous saved :: state.log⟩
  | purge {state : RunState} {tenantId : String} {now : Seconds}
      (expired : state.chronicle.cell.purgeable tenantId now = true) :
      RunStep codec Origin task state
        ⟨{ state.chronicle with cell := state.chronicle.cell.purge tenantId },
          .purged task :: state.log⟩
  | save {state : RunState} {site : Site} {previous snapshot saved : DurableSnapshot}
      {token : String} {now : Seconds} {entry : Option ToolLedgerEntry} {next : Chronicle}
      (known : previous ∈ state.chronicle.committed)
      (admissible : Admissible codec task state site previous snapshot entry)
      (forward : previous.lastObservedAt ≤ now)
      (performed : state.chronicle.perform codec (.save previous snapshot token now entry) =
        .ok (some saved, next)) :
      RunStep codec Origin task state ⟨next, .saved task site previous saved :: state.log⟩
  | note {state : RunState} {event : Event} (noted : Noted codec task state event) :
      RunStep codec Origin task state { state with log := event :: state.log }

/-- The states of a run that its workers' steps lead to. -/
inductive RunReachable (codec : Codec) (Origin : DurableSnapshot → Prop) : RunState → Prop
  | initial : RunReachable codec Origin .initial
  | step {task : Nat} {state next : RunState} (reachable : RunReachable codec Origin state)
      (step : RunStep codec Origin task state next) : RunReachable codec Origin next

end AegisRag.Agent.Durable

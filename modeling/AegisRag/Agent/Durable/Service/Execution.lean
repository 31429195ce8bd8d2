import AegisRag.Agent.Durable.Service.World

/-!
# One durable execution

The methods of `_DurableExecution` and `_ToolJournal`, with the parts of
`AgentRuntime` they drive. The request context is the business task's private
state. `self.snapshot` lives in the shared execution: a method reads it once for
every stretch of code that the source runs without an await.
-/

namespace AegisRag.Agent.Durable.Service

open Semantics

variable {σ α : Type}

/-! ## The runtime's own records -/

/-- What `AgentRuntime` is built from for a run. -/
structure AgentRuntime where
  config : AgentRunConfig
  agentRunId : String

/-- `_runtime_factory`. -/
def runtimeFactory (snapshot : DurableSnapshot) : AgentRuntime :=
  ⟨snapshot.config, snapshot.runId⟩

/-- `_AgentExecution`, with the receipt of its `dispatch_state`. -/
structure AgentExecution where
  started : Seconds
  deadline : Seconds
  repeatedCounts : RepeatedCounts
  stepsUsed : Nat
  toolCallsUsed : Nat
  observations : List AgentObservationSummary
  decision : Option AgentStepDecision
  registryEntered : Bool := false
  handlerStarted : Bool := false

/-- `_elapsed_ms`, unrounded. -/
def elapsedMs (seconds : Seconds) : Seconds := max seconds 0 * 1000

/-- The result `_finish` builds before it records its audit event. -/
def AgentExecution.result (live : AgentExecution) (now : Seconds) (status : AgentRunStatus)
    (reason : AgentTerminationReason) (finalAnswer : Option String)
    (finalCitations : List AgentCitationRef) (errorCode : Option String) : AgentRunResult where
  status
  terminationReason := reason
  stepsUsed := live.stepsUsed
  toolCallsUsed := live.toolCallsUsed
  finalAnswer
  finalCitations
  errorCode := errorCode <|> if reason = .finalAnswer then none else some reason.value
  observations := live.observations
  latencyMs := elapsedMs (now - live.started)

/-- `_finish` without an answer. -/
def finishRun (live : AgentExecution) (now : Seconds) (status : AgentRunStatus)
    (reason : AgentTerminationReason) : Act σ AgentRunResult := do
  auxiliaryIo
  return live.result now status reason none [] none

/-- `_timeout_result`. -/
def timeoutResult (live : AgentExecution) (now : Seconds) : Act σ AgentRunResult :=
  finishRun live now .stopped .agentTimeout

/-! ## Shared methods -/

/-- Raise the revocation error, if there is one. -/
def SharedExecution.requireActive (self : SharedExecution) : Except Failure Unit :=
  match self.revocationError with
  | some error => .error (.domain error)
  | none => .ok ()

/-- `check_active`, with the object as it is at that moment. -/
def checkActive (handle : Nat) : Act σ SharedExecution := do
  let self ← execution handle
  Task.ofExcept self.requireActive
  return self

/-- The reading a save passes on: a clock that went back is raised, and ignored
only where the saved snapshot records just that. -/
def saveInstant (previous snapshot : DurableSnapshot) (now : Seconds) : Except Failure Seconds :=
  if now < previous.lastObservedAt then
    if snapshot.errorCode = some "DURABLE_CLOCK_REGRESSION" then .ok previous.lastObservedAt
    else .error (.durable "DURABLE_CLOCK_REGRESSION")
  else .ok now

/-- `save`: `update` makes the new snapshot from `self.snapshot`. -/
def save (handle : Nat) (site : DurableSnapshot → Site)
    (update : DurableSnapshot → DurableSnapshot) (entry : Option ToolLedgerEntry)
    (allowRevoked : Bool) : Act σ DurableSnapshot := do
  let self ← execution handle
  Task.ofExcept (if allowRevoked then .ok () else self.requireActive)
  let now ← clock
  let now ← Task.ofExcept (saveInstant self.snapshot (update self.snapshot) now)
  let saved ← saveRow (site self.snapshot) self.snapshot (update self.snapshot) self.token now entry
  assignSnapshot handle saved
  let current ← execution handle
  Task.ofExcept (if allowRevoked then .ok () else current.requireActive)
  if self.snapshot.status ≠ saved.status then auxiliaryIo
  return saved

/-- `stop`. -/
def stop (handle : Nat) (site : DurableSnapshot → Site) (code : String) (status : DurableStatus)
    (allowRevoked : Bool) : Act σ Unit := do
  let _ ← save handle site (fun snapshot => snapshot.stopped code status) none allowRevoked

/-- `finish`. -/
def finish (handle : Nat) (site : Site) (result : AgentRunResult)
    (entry : Option ToolLedgerEntry) : Act σ Unit := do
  let _ ← save handle (fun _ => site) (fun snapshot => snapshot.finished result) entry false

/-- `_remaining` now. -/
def remaining (snapshot : DurableSnapshot) : Act σ Seconds := do
  return snapshot.remaining (← clock)

/-! ## Revalidation -/

/-- `_authorize`. -/
def authorize (context : RequestContext) : Except Failure Unit :=
  if context.auth.hasAgentRunPermission then .ok ()
  else .error (.domain ⟨"AGENT_RUN_FORBIDDEN", 403⟩)

/-- `_definition`. -/
def toolDefinition (codec : Codec) (snapshot : DurableSnapshot) (context : RequestContext) :
    Act σ ToolDefinition :=
  match snapshot.decision with
  | none => throw .other
  | some decision =>
    match decision.toolName with
    | none => throw .other
    | some toolName => do
      let definition ← getDefinition toolName
      if !context.auth.hasToolPermission definition.permission then
        throw (.domain ⟨"TOOL_PERMISSION_DENIED", 403⟩)
      if definition.durableReplayPolicy = .unsupported then
        throw (.domain ⟨"DURABLE_TOOL_UNSUPPORTED", 422⟩)
      Task.ofExcept (codec.validatePrivateArguments decision.arguments)
      return definition

/-- Current permission for every tool that a run has observed. -/
def requireObservedTools (context : RequestContext) :
    List AgentObservationSummary → Act σ Unit
  | [] => pure ()
  | observation :: rest => do
    let definition ← getDefinition observation.toolName
    if !context.auth.hasToolPermission definition.permission then
      throw (.domain ⟨"TOOL_PERMISSION_DENIED", 403⟩)
    requireObservedTools context rest

/-- The live execution rebuilt from a snapshot: its counters are the snapshot's. -/
def restoredExecution (snapshot : DurableSnapshot) (started deadline : Seconds) :
    AgentExecution where
  started
  deadline
  repeatedCounts := snapshot.repeatedCounts
  stepsUsed := snapshot.stepsUsed
  toolCallsUsed := snapshot.toolCallsUsed
  observations := snapshot.observations
  decision := snapshot.decision

/-- The part of its allowance a run has used, as the live execution counts it. -/
def usedSeconds (snapshot : DurableSnapshot) (now : Seconds) : Act σ Seconds := do
  if snapshot.activeBudget.isSome then
    return snapshot.config.timeoutSeconds - (← remaining snapshot)
  else return max (now - snapshot.startedAt) 0

/-- `_revalidate`. Rehydration restores only the excluded prompt context of the
observations, so the live ones are the snapshot's. -/
def revalidate (service : DurableAgentService) (context : RequestContext)
    (snapshot : DurableSnapshot) :
    Act σ (RequestContext × AgentExecution × List (String × String)) := do
  let context ←
    if service.contextRevalidator then awaited (call (.revalidateContext context))
    else pure context
  Task.ofExcept (authorize context)
  if context.auth.tenantId ≠ snapshot.tenantId ∨ context.auth.userId ≠ snapshot.userId then
    throw (.domain ⟨"DURABLE_IDENTITY_CHANGED", 403⟩)
  requireObservedTools context snapshot.observations
  let fingerprints ← rehydrate
  let started ← perfCounter
  let now ← clock
  if now < snapshot.lastObservedAt then throw (.durable "DURABLE_CLOCK_REGRESSION")
  let used ← usedSeconds snapshot now
  let deadline := (← perfCounter) + (← remaining snapshot)
  if snapshot.repeatedCounts.any fun pair => pair.2 < 1 then throw .other
  return (context, restoredExecution snapshot (started - used) deadline, fingerprints)

/-! ## Decisions and answers -/

/-- `_decide`. The attempt is the revision that reserved the call. -/
def runtimeDecide (runtime : AgentRuntime) (attempt : Nat) (live : AgentExecution) :
    Act σ (Option AgentRunResult × AgentExecution) := do
  let now ← perfCounter
  if runtime.config.maxSteps ≤ live.stepsUsed then
    return (some (← finishRun live now .stopped .maxStepsReached), live)
  if live.deadline ≤ now then
    return (some (← timeoutResult live now), live)
  match ← call (.nextStep runtime.agentRunId attempt) with
  | .ok decision =>
    return (none, { live with decision := some decision, stepsUsed := live.stepsUsed + 1 })
  | .error .timeout => return (some (← timeoutResult live live.deadline), live)
  | .error .cancelled => throw .cancelled
  | .error _ =>
    let now ← perfCounter
    return (some (← finishRun live now .failed .agentStepperFailed), live)

/-- The validation `_validate_final_answer` reports when it cannot validate. -/
def validationFailure (code : String) : FinalAnswerValidationResult :=
  ⟨.failed, none, [], some code⟩

/-- `_validate_final_answer`. -/
def validateFinalAnswer (deadline : Seconds) : Act σ FinalAnswerValidationResult := do
  let now ← perfCounter
  if deadline - now ≤ 0 then return validationFailure "AGENT_TIMEOUT"
  match ← call .validateAnswer with
  | .ok validation => return validation
  | .error .timeout => return validationFailure "AGENT_TIMEOUT"
  | .error .cancelled => throw .cancelled
  | .error _ => return validationFailure "AGENT_FINAL_ANSWER_VALIDATION_FAILED"

/-- `_validate_result`. -/
def validateResult (live : AgentExecution) : Act σ AgentRunResult := do
  let validation ← validateFinalAnswer live.deadline
  let now ← perfCounter
  if validation.errorCode = some "AGENT_TIMEOUT" then timeoutResult live now
  else do
    auxiliaryIo
    if validation.status = .valid ∨ validation.status = .degraded then
      return live.result now .completed .finalAnswer validation.answer validation.citations none
    else
      return live.result now .failed .finalAnswerValidationFailed none []
        (validation.errorCode.filter (· ≠ "") <|> some "AGENT_FINAL_ANSWER_VALIDATION_FAILED")

/-! ## Tool calls -/

/-- `_ToolJournal.before_dispatch`: commit the dispatch, then check once more that
it is still allowed. The grant it returns is consumed inside the registry. -/
def beforeDispatch (codec : Codec) (handle : Nat) (definition : ToolDefinition)
    (live : AgentExecution) (callId : String) : Act σ Unit :=
  match live.decision, definition.durableReplayPolicy.recorded with
  | some decision, some policy => do
    let _ ← save handle (fun _ => .beforeDispatch definition)
      (fun snapshot => { snapshot with
        stepsUsed := live.stepsUsed
        toolCallsUsed := live.toolCallsUsed
        repeatedCounts := live.repeatedCounts
        pendingCallId := some callId })
      (some {
        callId
        toolName := definition.name
        actionDigest := codec.decisionDigest decision
        replayPolicy := policy
        status := .started
        observation := none }) false
    let self ← checkActive handle
    let now ← clock
    if (← remaining self.snapshot) ≤ 0 then throw (.durable "AGENT_TIMEOUT")
    if now < self.snapshot.lastObservedAt then throw (.durable "DURABLE_CLOCK_REGRESSION")
    if definition.requiresApproval ∧
        self.snapshot.approvedActionDigest ≠ some (codec.decisionDigest decision) then
      throw (.durable "DURABLE_APPROVAL_REQUIRED")
  | _, _ => throw .other

/-- `_ToolJournal.after_dispatch`. -/
def afterDispatch (handle : Nat) (live : AgentExecution) (callId : String)
    (result : ToolExecutionResult) : Act σ Unit :=
  match result.summary with
  | none => throw .other
  | some observation => do
    let self ← execution handle
    let entry ← ledgerRow self.snapshot callId
    let fingerprints ← rehydrate
    let _ ← save handle (fun _ => .afterDispatch)
      (fun snapshot => { snapshot with
        phase := .decision
        decision := none
        observations := live.observations ++ [observation]
        pendingCallId := none
        evidenceFingerprints := fingerprints
        approvedActionDigest := none
        approvedDefinitionDigest := none })
      (some { entry with status := .completed, observation := some observation }) false

/-- `ToolRegistry.execute` under the execution's deadline, with the receipt it
leaves in the dispatch state. -/
def registryExecute (handle : Nat) (callId : String) (definition : ToolDefinition)
    (live : AgentExecution) : Act σ (Except Failure ToolExecutionResult × AgentExecution) := do
  let now ← perfCounter
  if live.deadline - now ≤ 0 then return (.error .timeout, live)
  let entered := { live with registryEntered := true }
  match ← call .registryGate with
  | .error failure => return (.error failure, entered)
  | .ok () =>
    match ← call (.startHandler handle callId definition) with
    | .error failure => return (.error failure, entered)
    | .ok () =>
      let result ← call .handlerResult
      return (result, { entered with handlerStarted := true })

/-- What `_execute_tool` does with the registry's answer. -/
def toolOutcome (handle : Nat) (journal : Bool) (live : AgentExecution) (callId : String)
    (outcome : Except Failure ToolExecutionResult) :
    Act σ (Option AgentRunResult × AgentExecution) :=
  match outcome with
  | .error .timeout => do
    auxiliaryIo
    return (some (← timeoutResult live live.deadline), live)
  | .error .cancelled => throw .cancelled
  | .error _ => do
    auxiliaryIo
    let now ← perfCounter
    return (some (← finishRun live now .failed .agentToolFailed), live)
  | .ok result => do
    if journal then afterDispatch handle live callId result
    match result.summary with
    | none => throw .other
    | some observation =>
      auxiliaryIo
      let observed := { live with observations := live.observations ++ [observation] }
      if observation.status = .failure then
        let now ← perfCounter
        return (some (← finishRun observed now .failed .agentToolFailed), observed)
      else return (none, observed)

/-- `_execute_tool` from the point where it counts the call. -/
def dispatchTool (codec : Codec) (handle : Nat) (runtime : AgentRuntime)
    (definition : ToolDefinition) (journal : Bool) (live : AgentExecution) :
    Act σ (Option AgentRunResult × AgentExecution) := do
  let callId := toolCallEventId runtime.agentRunId live.stepsUsed live.toolCallsUsed
  auxiliaryIo
  let now ← perfCounter
  if live.deadline ≤ now then
    return (some (← timeoutResult live now), live)
  if journal then beforeDispatch codec handle definition live callId
  let (outcome, dispatched) ← registryExecute handle callId definition live
  toolOutcome handle journal dispatched callId outcome

/-- `AgentRuntime._execute_tool`, with or without the durable journal. -/
def runtimeExecuteTool (codec : Codec) (handle : Nat) (runtime : AgentRuntime)
    (definition : ToolDefinition) (journal : Bool) (live : AgentExecution) :
    Act σ (Option AgentRunResult × AgentExecution) := do
  if runtime.config.maxToolCalls ≤ live.toolCallsUsed then
    auxiliaryIo
    let now ← perfCounter
    return (some (← finishRun live now .stopped .maxToolCallsReached), live)
  let now ← perfCounter
  if live.deadline ≤ now then
    return (some (← timeoutResult live now), live)
  match live.decision.bind fun decision => decision.toolName.map (·, decision.arguments) with
  | none => throw .other
  | some (toolName, arguments) =>
    let action := codec.actionHash toolName arguments
    let observed := { live with repeatedCounts := live.repeatedCounts.bump action }
    if runtime.config.repeatedActionThreshold ≤ observed.repeatedCounts.count action then
      auxiliaryIo
      let now ← perfCounter
      return (some (← finishRun observed now .stopped .repeatedActionDetected), observed)
    dispatchTool codec handle runtime definition journal
      { observed with toolCallsUsed := observed.toolCallsUsed + 1 }

/-- The pending call an interrupted execution left behind: only a read-only call of a
tool that is still read-only is given up. Says whether the tool phase goes on. -/
def settlePending (codec : Codec) (handle : Nat) (definition : ToolDefinition)
    (snapshot : DurableSnapshot) (decision : AgentStepDecision) : Act σ Bool :=
  match snapshot.pendingCallId with
  | none => return true
  | some callId => do
    let entry ← ledgerRow snapshot callId
    if entry.actionDigest ≠ codec.decisionDigest decision then
      raiseRecorded "DURABLE_LEDGER_INVALID" snapshot
    else if entry.status = .completed then
      raiseRecorded "DURABLE_LEDGER_INVALID" snapshot
    else if entry.replayPolicy ≠ .readOnly ∨ definition.durableReplayPolicy ≠ .readOnly then
      stop handle (fun _ => .unknownReplay) "DURABLE_TOOL_OUTCOME_UNKNOWN" .interventionRequired
        false
      return false
    else
      let _ ← save handle (fun _ => .markUnknown)
        (fun snapshot => { snapshot with pendingCallId := none })
        (some { entry with status := .unknown }) false
      return true

/-- The approval an execution asks for. -/
def approvalRequest (codec : Codec) (snapshot : DurableSnapshot) (decision : AgentStepDecision)
    (definition : ToolDefinition) (approvalId : String) (now : Seconds) : ApprovalRequest where
  approvalId
  toolName := definition.name
  arguments := decision.arguments
  actionDigest := codec.decisionDigest decision
  definitionDigest := codec.definitionDigest definition
  expiresAt :=
    match snapshot.activeBudget with
    | some budget => min (now + budget.approvalTimeoutSeconds) snapshot.expiresAt
    | none => snapshot.deadlineAt

/-- What follows a tool call: the result of a run that is over, or the checkpoint
that clears a consumed grant. -/
def settleTool (handle : Nat) (live : AgentExecution) (result : Option AgentRunResult) :
    Act σ Unit :=
  match result with
  | none => do
    let _ ← save handle (fun _ => .clearGrant)
      (fun snapshot => { snapshot with
        phase := .decision
        decision := none
        approvedActionDigest := none
        approvedDefinitionDigest := none }) none false
  | some result => do
    let self ← execution handle
    match self.snapshot.pendingCallId with
    | none => finish handle .finishTool result none
    | some callId =>
      let entry ← ledgerRow self.snapshot callId
      if live.registryEntered ∧ !live.handlerStarted then
        finish handle .finishRejected result (some { entry with status := .completed })
      else if entry.status = .started ∧ entry.replayPolicy = .never then
        stop handle (fun _ => .outcomeUnknown) "DURABLE_TOOL_OUTCOME_UNKNOWN"
          .interventionRequired false
      else finish handle .finishTool result none

/-- The approval gate of `execute_tool` and the dispatch behind it. -/
def approvedTool (codec : Codec) (handle : Nat) (runtime : AgentRuntime)
    (definition : ToolDefinition) (live : AgentExecution) (snapshot : DurableSnapshot)
    (decision : AgentStepDecision) : Act σ Unit := do
  if definition.needsApproval snapshot ∧
      snapshot.approvedActionDigest ≠ some (codec.decisionDigest decision) then
    let approvalId ← uuid4 .approvalId
    let now ← clock
    let _ ← save handle (fun _ => .requestApproval)
      (fun snapshot => { snapshot with
        status := .awaitingApproval
        approval := some (approvalRequest codec snapshot decision definition approvalId now) })
      none false
  else if definition.needsApproval snapshot ∧
      snapshot.approvedDefinitionDigest ≠ some (codec.definitionDigest definition) then
    throw (.durable "DURABLE_APPROVAL_STALE")
  else
    let (result, live) ← runtimeExecuteTool codec handle runtime definition true live
    settleTool handle live result

/-- `execute_tool`. -/
def executeTool (codec : Codec) (handle : Nat) (runtime : AgentRuntime) (live : AgentExecution) :
    Act RequestContext Unit := do
  let self ← checkActive handle
  let definition ← toolDefinition codec self.snapshot (← get)
  let self ← execution handle
  match self.snapshot.decision with
  | none => throw .other
  | some decision =>
    if ← settlePending codec handle definition self.snapshot decision then
      let self ← execution handle
      if self.snapshot.config.maxToolCalls ≤ self.snapshot.toolCallsUsed then
        match ← runtimeExecuteTool codec handle runtime definition false live with
        | (some result, _) => finish handle .finishToolLimit result none
        | (none, _) => throw .other
      else approvedTool codec handle runtime definition live self.snapshot decision

/-! ## Phases -/

/-- The decision phase of `advance`. The attempt is reserved before the model is
called. -/
def decisionPhase (codec : Codec) (handle : Nat) (runtime : AgentRuntime) (live : AgentExecution)
    (fingerprints : List (String × String)) (snapshot : DurableSnapshot) : Act σ Unit := do
  if snapshot.observations.getLast?.any fun observation => observation.status = .failure then
    stop handle (fun _ => .toolFailed) "AGENT_TOOL_FAILED" .failed false
  else
    let reserved ←
      if snapshot.stepsUsed < snapshot.config.maxSteps then
        save handle (fun _ => .reserve)
          (fun snapshot => { snapshot with
            stepsUsed := snapshot.stepsUsed + 1
            decisionInflight := true }) none false
      else pure snapshot
    match ← runtimeDecide runtime reserved.revision live with
    | (some result, _) => finish handle .finishDecision result none
    | (none, live) =>
      match live.decision with
      | none => throw .other
      | some decision =>
        Task.ofExcept (codec.validatePrivateArguments decision.arguments)
        let _ ← save handle (fun _ => .decided)
          (fun snapshot => { snapshot with
            stepsUsed := live.stepsUsed
            decision := some decision
            decisionInflight := false
            phase := decision.nextPhase
            evidenceFingerprints := fingerprints }) none false

/-- The validation phase of `advance`. -/
def validationPhase (service : DurableAgentService) (handle : Nat) (live : AgentExecution) :
    Act RequestContext Unit := do
  let result ← validateResult live
  let self ← execution handle
  let _ ← revalidate service (← get) self.snapshot
  let self ← execution handle
  if (← remaining self.snapshot) ≤ 0 then
    stop handle (fun _ => .deadline) "AGENT_TIMEOUT" .stopped false
  else finish handle .finishValidation result none

/-- The guarded part of `advance`. -/
def advancePhase (codec : Codec) (service : DurableAgentService) (handle : Nat)
    (runtime : AgentRuntime) (snapshot : DurableSnapshot) : Act RequestContext Unit := do
  let (context, live, fingerprints) ← revalidate service (← get) snapshot
  set context
  let self ← checkActive handle
  match self.snapshot.phase with
  | .decision => decisionPhase codec handle runtime live fingerprints self.snapshot
  | .validation => validationPhase service handle live
  | .tool => executeTool codec handle runtime live
  | .done => raiseRecorded "DURABLE_PHASE_INVALID" self.snapshot

/-- How `advance` ends a run whose phase raised. A lost lease is not a failure of
the run. -/
def stopAfter (handle : Nat) : Failure → Act σ Unit
  | .domain error =>
    if error.code = "DURABLE_LEASE_LOST" ∨ error.code = "DURABLE_RESUME_CONFLICT" then
      throw (.domain error)
    else
      stop handle (fun _ => .failure) error.code
        (if error.code = "AGENT_TIMEOUT" then .stopped else .failed) false
  | failure => throw failure

/-- `advance`. -/
def advance (codec : Codec) (service : DurableAgentService) (handle : Nat)
    (runtime : AgentRuntime) : Act RequestContext Unit := do
  let self ← checkActive handle
  let context ← get
  let loaded ← loadRow context.auth.tenantId context.auth.userId self.snapshot.runId
  assignSnapshot handle loaded
  let _ ← checkActive handle
  if loaded.status = .running then
    let now ← clock
    if now < loaded.lastObservedAt then
      stop handle (fun _ => .regression) "DURABLE_CLOCK_REGRESSION" .failed false
    else if (← remaining loaded) ≤ 0 then
      stop handle (fun _ => .deadline) "AGENT_TIMEOUT" .stopped false
    else
      tryCatch (advancePhase codec service handle runtime loaded) (stopAfter handle)

/-! ## The graph backend -/

inductive GraphNode where
  | advance
  | approval

/-- Start the checkpoint writes that the framework schedules between two nodes. -/
def scheduleCheckpoints (handle : Nat) : List GraphCall → Act σ Unit
  | [] => pure ()
  | scheduled :: rest => do
    Task.start (.graphCheckpoint handle scheduled : Code)
    scheduleCheckpoints handle rest

/-- One node of the graph, up to the route that follows it. The graph stops before
an approval node and at its end. -/
def graphNode (codec : Codec) (service : DurableAgentService) (handle : Nat)
    (runtime : AgentRuntime) (node : GraphNode) : Act RequestContext Bool := do
  match node with
  | .advance => advance codec service handle runtime
  | .approval =>
    let self ← execution handle
    let context ← get
    let loaded ← loadRow context.auth.tenantId context.auth.userId self.snapshot.runId
    assignSnapshot handle loaded
    if loaded.status = .awaitingApproval then throw (.durable "DURABLE_APPROVAL_REQUIRED")
  let self ← execution handle
  scheduleCheckpoints handle (← scheduledCheckpoints)
  return decide (self.snapshot.status = .running)

/-- `run_durable_graph`. A stored checkpoint decides the first node; the framework
gives up at its recursion limit. -/
def runDurableGraph (codec : Codec) (service : DurableAgentService) (handle : Nat)
    (runtime : AgentRuntime) : Act RequestContext Unit := do
  let self ← execution handle
  scheduleCheckpoints handle (← scheduledCheckpoints)
  let resumed ← choose
  let again ← graphNode codec service handle runtime (if resumed = 0 then .advance else .approval)
  if again then
    Task.iterate
      (do
        let again ← graphNode codec service handle runtime .advance
        return if again then none else some ())
      (throw .other) (4 * self.snapshot.config.maxSteps + 11)

/-- A checkpoint write of the framework, under the execution's own token. -/
def graphCheckpoint (handle : Nat) (scheduled : GraphCall) : Act σ Unit := do
  let self ← execution handle
  let now ← clock
  let _ ← leaseRow (match scheduled with
    | .put checkpointId checkpoint metadata parentId =>
      .graphPut self.snapshot self.token now checkpointId checkpoint metadata parentId
    | .writes checkpointId writes =>
      .graphWrites self.snapshot self.token now checkpointId writes)

/-! ## The children of a request -/

/-- The approval of a reviewed request, committed before the run goes on. -/
def approveRun (handle : Nat) (snapshot : DurableSnapshot) (approval : ApprovalRequest)
    (queueOnly : Bool) : Act σ Unit := do
  let since ← if snapshot.activeBudget.isSome ∧ !queueOnly then some <$> clock else pure none
  let _ ← save handle (fun _ => .approve)
    (fun _ => { snapshot with
      status := .running
      approvedActionDigest := some approval.actionDigest
      approvedDefinitionDigest := some approval.definitionDigest
      approval := none
      activeBudget := snapshot.activeBudget.map fun budget =>
        { budget with activeSinceAt := since } }) none false

/-- The decision on a pending approval, or the stop of a regressed clock. -/
def openRun (handle : Nat) (snapshot : DurableSnapshot)
    (approval : Option DurableResumeCommand) (queueOnly : Bool) : Act σ Unit := do
  let now ← clock
  if now < snapshot.lastObservedAt then
    stop handle (fun _ => .regression) "DURABLE_CLOCK_REGRESSION" .failed false
  else if snapshot.status = .awaitingApproval then
    match approval, snapshot.approval with
    | none, _ => pure ()
    | some _, none => throw .other
    | some command, some requested =>
      if command.approve = some true then approveRun handle snapshot requested queueOnly
      else stop handle (fun _ => .rejected) "DURABLE_APPROVAL_REJECTED" .cancelled false

/-- `run_body`. -/
def runBody (codec : Codec) (service : DurableAgentService) (handle : Nat)
    (snapshot : DurableSnapshot) (approval : Option DurableResumeCommand) (queueOnly : Bool) :
    Act RequestContext Unit := do
  openRun handle snapshot approval queueOnly
  if queueOnly then return
  let self ← execution handle
  if self.snapshot.status = .running then
    let runtime := runtimeFactory snapshot
    if snapshot.backend = .langgraph then runDurableGraph codec service handle runtime
    else
      repeatUntil do
        let self ← execution handle
        if self.snapshot.status = .running then
          advance codec service handle runtime
          return none
        else return some ()

/-- `heartbeat`: renew the lease until the run is over; a failed renewal revokes. -/
def heartbeat (service : DurableAgentService) (handle : Nat) : Act σ Unit :=
  repeatUntil do
    auxiliaryIo
    let self ← execution handle
    if self.snapshot.status.terminal then return some ()
    else
      let now ← clock
      let allowance ← remaining self.snapshot
      match ← Task.attempt (awaitWithTimeout allowance
        (leaseRow (.renew self.snapshot self.token now service.leaseSeconds))) with
      | .ok _ => return none
      | .error .cancelled =>
        revoke handle (some ⟨"DURABLE_STORAGE_TIMEOUT", 503⟩)
        throw .cancelled
      | .error .timeout =>
        revoke handle (some ⟨"DURABLE_STORAGE_TIMEOUT", 503⟩)
        throw .storageTimeout
      | .error (.domain error) =>
        revoke handle (some error)
        throw (.domain error)
      | .error .other =>
        revoke handle (some ⟨"DURABLE_STORAGE_UNAVAILABLE", 503⟩)
        throw .storageUnavailable

end AegisRag.Agent.Durable.Service

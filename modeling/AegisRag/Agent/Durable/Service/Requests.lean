import AegisRag.Agent.Durable.Service.Execution

/-!
# Requests

The public methods of `DurableAgentService`, the supervision of an execution in
`_drive` with its cleanups, and the machine on which all of them run together.
-/

namespace AegisRag.Agent.Durable.Service

open Semantics

variable {σ α : Type}

/-- A request maps a deadline of its own to a stable error. -/
def orTimeout (error : Failure) (awaitable : Act σ α) : Act σ α :=
  tryCatch awaitable fun
    | .timeout => throw error
    | failure => throw failure

def validationTimeout : Failure := .domain ⟨"DURABLE_VALIDATION_TIMEOUT", 503⟩

def runExpired : Failure := .domain ⟨"DURABLE_RUN_EXPIRED", 410⟩

/-! ## Reads -/

/-- `_load`. -/
def loadRun (context : RequestContext) (runId : String) : Act σ DurableSnapshot := do
  Task.ofExcept (authorize context)
  let value ← orTimeout .storageTimeout
    (loadRow context.auth.tenantId context.auth.userId runId)
  if value.expiresAt ≤ (← clock) then
    let now ← clock
    orTimeout .storageTimeout (purgeExpired context.auth.tenantId now)
    throw runExpired
  return value

/-- `get`. -/
def getRun (service : DurableAgentService) (context : RequestContext) (runId : String) :
    Act σ DurableRunResponse := do
  let snapshot ← loadRun context runId
  if snapshot.status = .completed then
    let _ ← orTimeout validationTimeout (revalidate service context snapshot)
  return .fromSnapshot snapshot

/-- `_lookup_keyed`. -/
def lookupKeyed (context : RequestContext) (runId : String) : Act σ (Option DurableSnapshot) :=
  orTimeout .storageTimeout (lookupKeyedRow context.auth.tenantId context.auth.userId runId)

/-- `_existing_start`. -/
def existingStart (service : DurableAgentService) (context : RequestContext)
    (snapshot : DurableSnapshot) (startup : Option DurableStartup) :
    Act σ DurableRunResponse := do
  if snapshot.expiresAt ≤ (← clock) then getRun service context snapshot.runId
  else if snapshot.startup ≠ startup then throw startKeyConflict
  else getRun service context snapshot.runId

/-! ## Cleanup -/

/-- The stable code of a domain error. -/
def errorCode : Failure → Option String
  | .domain error => some error.code
  | _ => none

/-- Whether an error says that there is no private row any more. -/
def rowGone (failure : Failure) : Bool :=
  errorCode failure == some "DURABLE_RUN_NOT_FOUND" ||
    errorCode failure == some "DURABLE_RUN_EXPIRED"

/-- A conflict sends a cleanup back to the start of its loop. -/
def retryOnConflict (attempt : Act σ Unit) : Act σ (Option Unit) := do
  match ← Task.attempt attempt with
  | .ok () => return some ()
  | .error failure =>
    if errorCode failure = some "DURABLE_RESUME_CONFLICT" then return none else throw failure

/-- The ownership-checked cancellation of a cleanup. -/
def cancelOwned (handle : Nat) (loaded : DurableSnapshot) (token : String)
    (createdHere : Bool) : Act σ Unit := do
  let now ← clock
  let saved ← cancelRow loaded now (some token) createdHere
  assignSnapshot handle saved
  auxiliaryIo

/-- The timeout of a cleanup. The pending call was checked for the snapshot loaded
here; `stop` replaces whatever the shared execution holds by then. -/
def stopTimedOut (handle : Nat) (loaded : DurableSnapshot) : Act σ Unit := do
  let timedOut : Act σ Unit :=
    stop handle (fun snapshot => .cleanupTimeout (snapshot.revision == loaded.revision))
      "AGENT_TIMEOUT" .stopped true
  match loaded.pendingCallId with
  | none => timedOut
  | some callId =>
    let entry ← ledgerRow loaded callId
    if entry.status = .started ∧ entry.replayPolicy = .never then
      stop handle (fun _ => .cleanupUnknown) "DURABLE_TOOL_OUTCOME_UNKNOWN"
        .interventionRequired true
    else timedOut

/-- One round of `persist` in `_terminal_cleanup`. -/
def persistTerminal (handle : Nat) (createdHere cancelled : Bool) : Act σ (Option Unit) := do
  let self ← execution handle
  match ← Task.attempt (loadRow self.snapshot.tenantId self.snapshot.userId
      self.snapshot.runId) with
  | .error failure => if rowGone failure then return some () else throw failure
  | .ok loaded =>
    assignSnapshot handle loaded
    if loaded.status.terminal then return some ()
    else
      let owned ← ownsRow loaded self.token createdHere
      if owned then
        retryOnConflict
          (if cancelled then cancelOwned handle loaded self.token createdHere
          else stopTimedOut handle loaded)
      else if cancelled then return some ()
      else throw (.durable "DURABLE_LEASE_LOST")

/-- `_terminal_cleanup`. -/
def terminalCleanup (handle : Nat) (createdHere cancelled : Bool) : Act σ Unit :=
  orTimeout (.domain ⟨"DURABLE_TERMINAL_PERSISTENCE_FAILED", 503⟩)
    (repeatUntil (persistTerminal handle createdHere cancelled))

/-- `_cancel_after_disconnect`: its failure never replaces the caller's own error. -/
def cancelAfterDisconnect (handle : Nat) (createdHere : Bool) : Act σ Unit := do
  let _ ← Task.attempt (terminalCleanup handle createdHere true)
  auxiliaryIo

/-- One round of `persist` in `_cancel_keyed_creation`. -/
def persistCreation (snapshot : DurableSnapshot) (token : String) : Act σ (Option Unit) := do
  match ← Task.attempt (loadRow snapshot.tenantId snapshot.userId snapshot.runId) with
  | .error failure => if rowGone failure then return some () else throw failure
  | .ok current =>
    if current.status.terminal then return some ()
    else
      let owned ← ownsRow current token false
      if owned then
        retryOnConflict do
          let now ← clock
          let _ ← cancelRow current now (some token) false
          auxiliaryIo
      else return some ()

/-- `_cancel_keyed_creation`. -/
def cancelKeyedCreation (snapshot : DurableSnapshot) (token : String) : Act σ Unit := do
  let _ ← Task.attempt (repeatUntil (persistCreation snapshot token))

/-! ## Driving an execution -/

/-- `response`. -/
def response (service : DurableAgentService) (context : RequestContext) (handle : Nat)
    (runId : String) (reconcile : Bool) : Act σ DurableRunResponse := do
  let self ← execution handle
  if !reconcile ∧ self.snapshot.status ≠ .completed then
    return .fromSnapshot self.snapshot
  else orTimeout .storageTimeout (getRun service context runId)

/-- The error a revoked execution ends with: the heartbeat's own, unless it was
only cancelled. -/
def SharedExecution.lossOfLease (self : SharedExecution) : Option Failure :=
  match self.heartbeat with
  | none | some (.ok ()) | some (.error .cancelled) => self.revocationError.map Failure.domain
  | some (.error failure) => some failure

/-- A child ended with a lost lease, or the run was revoked. -/
def reconcileRevoked (service : DurableAgentService) (context : RequestContext) (handle : Nat)
    (runId : String) : Act σ DurableRunResponse := do
  revoke handle none
  auxiliaryIo
  let self ← execution handle
  let current ← response service context handle runId true
  if current.status.terminal then return current
  else throw (self.lossOfLease.getD (.durable "DURABLE_LEASE_LOST"))

/-- The body of `_drive` between its claim and its `finally`. -/
def supervise (service : DurableAgentService) (context : RequestContext) (handle : Nat)
    (runId : String) : Act σ DurableRunResponse := do
  let (business, heartbeat) ← awaited (call (.waitTasks handle))
  let self ← execution handle
  if heartbeat.isSome ∨ self.revocationError.isSome then
    reconcileRevoked service context handle runId
  else
    match business with
    | some (.ok ()) => response service context handle runId false
    | some (.error .timeout) =>
      revoke handle none
      terminalCleanup handle false false
      response service context handle runId false
    | some (.error failure) => throw failure
    | none =>
      revoke handle none
      auxiliaryIo
      terminalCleanup handle false false
      response service context handle runId false

/-- Whether a step that shields its work was interrupted. -/
def interrupted : Act σ Bool := do
  match ← Task.attempt auxiliaryIo with
  | .ok () => return false
  | .error _ => return true

/-- The `finally` of `_drive`. -/
def driveCleanup (handle : Nat) (cancelled : Bool) : Act σ Unit := do
  revoke handle none
  let disconnected ← interrupted
  if cancelled || disconnected then cancelAfterDisconnect handle false
  let self ← execution handle
  match ← Task.attempt (leaseRow (.release self.snapshot self.token)) with
  | .error .cancelled =>
    cancelAfterDisconnect handle false
    throw .cancelled
  | _ => pure ()
  if disconnected || (← interrupted) then
    cancelAfterDisconnect handle false
    throw .cancelled

/-- The claim of `_drive`: a keyed creator renews the lease it inserted, every other
worker acquires one. -/
def claim (service : DurableAgentService) (snapshot : DurableSnapshot) (token : String)
    (keyed queueOnly : Bool) : Act σ (Option DurableSnapshot) := do
  let now ← clock
  leaseRow (
    if keyed then .renew snapshot token now service.leaseSeconds
    else .acquire snapshot token now service.leaseSeconds
      (if snapshot.activeBudget.isSome then !queueOnly else true))

/-- `_drive`. -/
def drive (service : DurableAgentService) (context : RequestContext)
    (snapshot : DurableSnapshot) (approval : Option DurableResumeCommand) (createdHere : Bool)
    (initialToken : Option String) (queueOnly start : Bool) : Act σ DurableRunResponse := do
  call (.driving snapshot.runId start)
  let token ← match initialToken with
    | some token => pure token
    | none => uuid4 .leaseToken
  let handle ← newExecution snapshot token
  let claimed ← tryCatch (claim service snapshot token initialToken.isSome queueOnly) fun
    | .cancelled => do
      cancelAfterDisconnect handle createdHere
      throw .cancelled
    | .timeout => do
      cancelAfterDisconnect handle createdHere
      throw .storageTimeout
    | failure => throw failure
  let snapshot := claimed.getD snapshot
  assignSnapshot handle snapshot
  call (.handOver handle)
  Task.start (.heartbeat service handle : Code)
  Task.start (.business service context handle snapshot approval queueOnly : Code)
  let outcome ← Task.attempt (supervise service context handle snapshot.runId)
  driveCleanup handle (match outcome with
    | .error .cancelled => true
    | _ => false)
  Task.ofExcept outcome

/-! ## Starting a run -/

/-- The validated snapshot of a new run. Constructing the configuration and the
snapshot validates them. -/
def newRun (codec : Codec) (service : DurableAgentService) (context : RequestContext)
    (command : DurableStartCommand) (runId : String) (startup : Option DurableStartup) :
    Act σ DurableSnapshot := do
  Task.ofExcept (codec.validatePrivateArguments [("input", .str command.input)])
  let now ← clock
  if !(service.runConfig command).accepted then throw .other
  if service.retentionSeconds < (service.runConfig command).timeoutSeconds then
    throw (.domain ⟨"DURABLE_BUDGET_EXCEEDS_RETENTION", 422⟩)
  let snapshot := service.newSnapshot context command runId startup now
  if !snapshot.accepted then throw .other
  let names ← registeredToolNames
  if command.approvalTools.any fun name => !names.contains name then
    throw (.domain ⟨"DURABLE_APPROVAL_TOOL_UNKNOWN", 422⟩)
  return snapshot

/-- The unkeyed insert of `start`. -/
def createRun (snapshot : DurableSnapshot) : Act σ Unit := do
  awaitWithTimeout (snapshot.deadlineAt - (← clock))
    (purgeExpired snapshot.tenantId snapshot.startedAt)
  let _ ← awaitWithTimeout (snapshot.deadlineAt - (← clock)) (insertRow (.create snapshot))
  auxiliaryIo

/-- A start without a key. A disconnect may have left an unclaimed row behind. -/
def startUnkeyed (service : DurableAgentService) (context : RequestContext)
    (snapshot : DurableSnapshot) : Act σ DurableRunResponse := do
  orTimeout .storageTimeout (tryCatch (createRun snapshot) fun
    | .cancelled => do
      let token ← uuid4 .leaseToken
      let handle ← newExecution snapshot token
      cancelAfterDisconnect handle true
      throw .cancelled
    | failure => throw failure)
  if snapshot.dispatch then return .fromSnapshot snapshot
  else drive service context snapshot none true none false true

/-- `create_keyed`: insert, or read the run that already has the key. -/
def createKeyed (snapshot : DurableSnapshot) (token : String) (now leaseSeconds : Seconds) :
    Act σ (Option DurableSnapshot) := do
  if ← insertRow (.createKeyed snapshot token now leaseSeconds) then return none
  else
    match ← lookupKeyedRow snapshot.tenantId snapshot.userId snapshot.runId with
    | none => throw .storageUnavailable
    | some existing => return some existing

/-- The keyed insert as its request waits for it. -/
def awaitCreation (snapshot : DurableSnapshot) (token : String) (now leaseSeconds : Seconds) :
    Act σ (Option DurableSnapshot) := do
  let existing ← awaitWithTimeout (snapshot.deadlineAt - (← clock))
    (createKeyed snapshot token now leaseSeconds)
  if existing.isNone then auxiliaryIo
  return existing

/-- A keyed start reports its own deadline as a storage timeout. -/
def storageFailure : Failure → Failure
  | .timeout => .storageTimeout
  | failure => failure

/-- `_start_keyed`. The storage task of an abandoned start may still commit; a
cleanup with the attempt's own token follows it. -/
def startKeyed (service : DurableAgentService) (context : RequestContext)
    (snapshot : DurableSnapshot) : Act σ DurableRunResponse := do
  let token ← uuid4 .creationToken
  let purgeNow ← clock
  match ← Task.attempt (do
      awaitWithTimeout (snapshot.deadlineAt - (← clock))
        (purgeExpired snapshot.tenantId purgeNow)) with
  | .error failure =>
    cancelKeyedCreation snapshot token
    throw (storageFailure failure)
  | .ok () =>
    let now ← clock
    match ← Task.attempt (awaitCreation snapshot token now service.leaseSeconds) with
    | .error failure =>
      Task.start (.lateCreation snapshot token now service.leaseSeconds : Code)
      cancelKeyedCreation snapshot token
      throw (storageFailure failure)
    | .ok (some existing) => existingStart service context existing snapshot.startup
    | .ok none =>
      if snapshot.dispatch then
        let _ ← leaseRow (.release snapshot token)
        return .fromSnapshot snapshot
      else drive service context snapshot none false (some token) false true

/-- The storage task of an abandoned start and the cleanup after it. -/
def lateCreation (snapshot : DurableSnapshot) (token : String) (now leaseSeconds : Seconds) :
    Act σ Unit := do
  let _ ← Task.attempt (createKeyed snapshot token now leaseSeconds)
  cancelKeyedCreation snapshot token

/-- `start`. -/
def startRun (codec : Codec) (service : DurableAgentService) (context : RequestContext)
    (command : DurableStartCommand) : Act σ DurableRunResponse := do
  Task.ofExcept (authorize context)
  if command.executionMode = .background ∧ !service.backgroundEnabled then
    throw (.domain ⟨"DURABLE_BACKGROUND_UNCONFIGURED", 503⟩)
  let runId ← uuid4 .runId
  match command.idempotencyKey with
  | none => startUnkeyed service context (← newRun codec service context command runId none)
  | some key =>
    let runId := codec.keyedRunId context.auth.tenantId context.auth.userId key
    let startup := some ⟨codec.startCommandFingerprint command⟩
    match ← lookupKeyed context runId with
    | some existing => existingStart service context existing startup
    | none =>
      startKeyed service context (← newRun codec service context command runId startup)

/-- `recover`. -/
def recoverRun (codec : Codec) (service : DurableAgentService) (context : RequestContext)
    (idempotencyKey : String) : Act σ DurableRunResponse := do
  Task.ofExcept (authorize context)
  if codec.uuidVersion idempotencyKey ≠ 4 then
    throw (.domain ⟨"DURABLE_START_KEY_INVALID", 422⟩)
  let runId := codec.keyedRunId context.auth.tenantId context.auth.userId idempotencyKey
  match ← lookupKeyed context runId with
  | none => throw (.domain ⟨"DURABLE_RUN_NOT_FOUND", 404⟩)
  | some _ => getRun service context runId

/-! ## Resuming and cancelling -/

def approvalStale : Failure := .durable "DURABLE_APPROVAL_STALE"

/-- The checks of `resume` on the approval it names. -/
def reviewApproval (codec : Codec) (context : RequestContext) (snapshot : DurableSnapshot)
    (command : DurableResumeCommand) : Act σ Unit := do
  let now ← clock
  match snapshot.approval, snapshot.decision with
  | some approval, some decision =>
    if command.approvalId ≠ some approval.approvalId ∨ command.approve = none ∨
        approval.expiresAt ≤ now then throw approvalStale
    if codec.decisionDigest decision ≠ approval.actionDigest then throw approvalStale
    let allowance ← remaining snapshot
    let definition ← orTimeout validationTimeout
      (awaitWithTimeout (min allowance 5) (toolDefinition codec snapshot context))
    if codec.definitionDigest definition ≠ approval.definitionDigest then throw approvalStale
    call (.approvalChecked snapshot approval command now)
  | _, _ => throw approvalStale

/-- `resume`. -/
def resumeRun (codec : Codec) (service : DurableAgentService) (context : RequestContext)
    (runId : String) (command : DurableResumeCommand) : Act σ DurableRunResponse := do
  let snapshot ← loadRun context runId
  if snapshot.revision ≠ command.expectedRevision then throw (.durable "DURABLE_RESUME_CONFLICT")
  if snapshot.status.terminal then throw (.durable "DURABLE_RUN_TERMINAL")
  if snapshot.status = .awaitingApproval then reviewApproval codec context snapshot command
  else if command.approvalId.isSome then throw approvalStale
  drive service context snapshot (some command) false none snapshot.dispatch false

/-- `run_background`. -/
def runBackground (service : DurableAgentService) (context : RequestContext) (runId : String)
    (expectedRevision : Nat) : Act σ DurableRunResponse := do
  if !service.backgroundEnabled ∨ !service.contextRevalidator then
    throw (.domain ⟨"DURABLE_BACKGROUND_UNCONFIGURED", 503⟩)
  let snapshot ← loadRun context runId
  if !snapshot.dispatch ∨ snapshot.status ≠ .running then
    throw (.durable "DURABLE_BACKGROUND_NOT_READY")
  if snapshot.revision ≠ expectedRevision then throw (.durable "DURABLE_RESUME_CONFLICT")
  drive service context snapshot none false none false false

/-- `cancel`. -/
def cancelRun (context : RequestContext) (runId : String) (expectedRevision : Option Nat) :
    Act σ DurableRunResponse := do
  let snapshot ← loadRun context runId
  if expectedRevision ≠ some snapshot.revision then throw (.durable "DURABLE_RESUME_CONFLICT")
  if snapshot.status.terminal then throw (.durable "DURABLE_RUN_TERMINAL")
  let now ← clock
  let saved ← orTimeout .storageTimeout (cancelRow snapshot now none false)
  auxiliaryIo
  return .fromSnapshot saved

/-! ## The machine -/

/-- A request answers with what its method returns or raises. -/
def answering (request : Act Unit DurableRunResponse) : Program sig Outcome :=
  (request ()).bind fun (result, _) => .done (.response result)

/-- A child task returns nothing. -/
def ending (child : Act σ Unit) (state : σ) : Program sig Outcome :=
  (child state).bind fun _ => .done .ended

/-- The business task takes over the shared execution and records how it ended. -/
def business (codec : Codec) (service : DurableAgentService) (handle : Nat)
    (snapshot : DurableSnapshot) (approval : Option DurableResumeCommand) (queueOnly : Bool) :
    Act RequestContext Unit := do
  let _ ← call (.attach handle)
  let result ← Task.attempt (runBody codec service handle snapshot approval queueOnly)
  call (.businessDone handle result)

def heartbeatTask (service : DurableAgentService) (handle : Nat) : Act σ Unit := do
  let result ← Task.attempt (heartbeat service handle)
  call (.heartbeatDone handle result)

/-- The program behind each code. -/
def body (codec : Codec) : Code → Program sig Outcome
  | .start service context command => answering (startRun codec service context command)
  | .recover service context key => answering (recoverRun codec service context key)
  | .get service context runId => answering (getRun service context runId)
  | .resume service context runId command =>
    answering (resumeRun codec service context runId command)
  | .runBackground service context runId expectedRevision =>
    answering (runBackground service context runId expectedRevision)
  | .cancel _ context runId expectedRevision =>
    answering (cancelRun context runId expectedRevision)
  | .lateCreation snapshot token now leaseSeconds =>
    ending (lateCreation snapshot token now leaseSeconds) ()
  | .business service context handle snapshot approval queueOnly =>
    ending (business codec service handle snapshot approval queueOnly) context
  | .heartbeat service handle => ending (heartbeatTask service handle) ()
  | .graphCheckpoint handle scheduled => ending (graphCheckpoint handle scheduled) ()

def Code.isRequest : Code → Bool
  | .start .. | .recover .. | .get .. | .resume .. | .runBackground .. | .cancel .. => true
  | .lateCreation .. | .business .. | .heartbeat .. | .graphCheckpoint .. => false

/-- Any number of service instances over one database. -/
abbrev machine (codec : Codec) : Machine where
  sig
  Outcome
  World
  Answer
  initial := World.initial
  body := body codec
  request := Code.isRequest
  execute := execute codec

end AegisRag.Agent.Durable.Service

import AegisRag.Semantics.Cancellation
import AegisRag.Semantics.Alone
import AegisRag.Agent.RunRepository

/-!
# Running an agent

`AgentRunApplicationService.run` of `packages/agent/service.py`. Every await is one
operation. While it waits, requests to cancel the task may arrive and the timeouts around
it may expire; this is the environment's answer. The owned cleanup of a cancelled run is a
task of its own, which requests to the run do not reach. Progress events, the contents of
audit records and the metadata of rows are left out.
-/

namespace AegisRag.Agent.RunService

open Semantics Durable

/-! ## Operations -/

/-- A write of the run's row. -/
inductive Write where
  | create (record : AgentRunCreate)
  | update (tenantId userId runId : String) (update : AgentRunUpdate)

/-- The awaits of a call. -/
inductive Op where
  | sleep
  | write (write : Write)
  /-- A commit, and whether the deadline of its phase had passed before. -/
  | commit (expired : Bool)
  | rollback
  | runtime
  | audit
  /-- The wait for the owned cleanup. -/
  | awaitCleanup

/-- What an await returns. -/
def Op.Reply : Op → Type
  | .sleep => Interruption
  | .write _ => Interruption × Except Raised AgentRunRow
  | .commit _ => Interruption × Except Raised Unit
  | .rollback => Interruption × Except Raised Unit
  | .runtime => Interruption × Except Raised AgentRunResult
  | .audit => Interruption × Except Raised Unit
  | .awaitCleanup => ℕ

/-- What the environment decides about one operation. A created run gets the given id. -/
inductive Answer where
  | sleep (interruption : Interruption)
  | write (interruption : Interruption) (runId : String) (ending : RepositoryCall)
  | call (interruption : Interruption) (ending : RepositoryCall)
  | runtime (interruption : Interruption) (result : Except Raised AgentRunResult)
  | audit (interruption : Interruption) (result : Except Raised Unit)
  | cleanup (cancels : ℕ)

/-- What the repository was asked to do: a write, or a commit of the row as the session saw
it, with its effect, its acknowledgement and whether that came before the deadline. -/
inductive Event where
  | write (write : Write)
  | commit (row : Option AgentRunRow) (effective acknowledged inTime : Bool)

/-- The row of the run and the log. -/
structure World where
  session : RunSession
  log : List Event

/-- The row that a write makes and the session with it, unless it finds none. -/
def Write.apply (write : Write) (runId : String) (session : RunSession) :
    Option (AgentRunRow × RunSession) :=
  match write with
  | .create record => some (record.row runId, session.create record runId)
  | .update tenantId userId runId change =>
    match session.update tenantId userId runId change with
    | some next => next.working.map fun row => (row, next)
    | none => none

/-- Operations and replies. -/
def signature : Signature where
  Op := Op
  Reply := Op.Reply
  Code := Unit

/-- A write of the repository. -/
def World.write (world : World) (write : Write) (runId : String) (ending : RepositoryCall) :
    Except Raised AgentRunRow × World :=
  let log := world.log ++ [.write write]
  match write.apply runId world.session with
  | some (row, next) => (ending.result row, ⟨ending.leaves world.session next, log⟩)
  | none => (.error .storageFailed, ⟨world.session, log⟩)

/-- A commit of the session. -/
def World.commit (world : World) (inTime : Bool) (ending : RepositoryCall) :
    Except Raised Unit × World :=
  (ending.result (),
    ⟨ending.leaves world.session world.session.commit,
      world.log ++ [.commit world.session.working ending.isEffective ending.isReturned inTime]⟩)

/-- The meaning of the operations. -/
def step (op : Op) (answer : Answer) (world : World) : Option (op.Reply × World) :=
  match op, answer with
  | .sleep, .sleep interruption => some (interruption, world)
  | .write write, .write interruption runId ending =>
    let (result, after) := world.write write runId ending
    some ((interruption, result), after)
  | .commit expired, .call interruption ending =>
    let inTime := !expired && !interruption.expires.headD false
    let (result, after) := world.commit inTime ending
    some ((interruption, result), after)
  | .rollback, .call interruption ending =>
    some ((interruption, ending.result ()),
      { world with session := ending.leaves world.session world.session.rollback })
  | .runtime, .runtime interruption result => some ((interruption, result), world)
  | .audit, .audit interruption result => some ((interruption, result), world)
  | .awaitCleanup, .cleanup cancels => some (cancels, world)
  | _, _ => none

/-! ## The service -/

/-- `_PersistenceState`. -/
structure PersistenceState where
  runId : Option String
  initialAcknowledged : Bool
  terminalAcknowledged : Bool
  terminalPhaseSucceeded : Bool
  commitStarted : Bool
  commitAcknowledged : Bool

/-- `commit_uncertain`. -/
def PersistenceState.commitUncertain (state : PersistenceState) : Bool :=
  state.commitStarted && !state.commitAcknowledged

/-- The variables of a call. -/
structure Locals where
  persistence : PersistenceState
  callerCancellations : ℕ

/-- The variables at the start. -/
def Locals.initial : Locals := ⟨⟨none, false, false, false, false, false⟩, 0⟩

/-- What a call is given. The clock is only read for latencies. -/
structure Setting where
  context : RequestContext
  config : AgentRunConfig
  failedLatencyMs : Seconds
  cancelledLatencyMs : Seconds

/-- `AgentRunResponse`: the record with the answer. -/
structure AgentRunResponse where
  record : AgentRunRow
  finalAnswer : Option String
  finalCitations : List AgentCitationRef

/-- The body of a call. -/
abbrev Act := Task signature (Cancellable Locals) Raised

/-- One operation. -/
def perform (op : Op) : Act op.Reply := Task.perform (show signature.Op from op)

/-- `await asyncio.sleep(0)`. -/
def sleep : Act Unit := do
  let interruption ← perform .sleep
  Task.settleYield .cancelled interruption

/-- Await an operation that may return or raise. -/
def await {α : Type} (reply : Act (Interruption × Except Raised α)) : Act α := do
  let (interruption, result) ← reply
  Task.settle interruption result

/-- `asyncio.timeout`. -/
def withTimeout {α : Type} (body : Act α) : Act (α × Bool) :=
  Task.withTimeout .cancelled .timeout body

/-- `asyncio.current_task().cancelling()`. -/
def cancelling : Act ℕ := do
  pure (← get).requests

/-- Assign the flags. -/
def assign (update : PersistenceState → PersistenceState) : Act Unit :=
  modify fun state =>
    { state with own := { state.own with persistence := update state.own.persistence } }

/-- `check_deadline` inside the timeout of a phase, with or without an enclosing one. -/
def checkDeadline (cancellations : ℕ) (enclosing : Bool) : Act Unit := do
  let state ← get
  let expired := (state.expiredAt 0).toNat + (enclosing && state.expiredAt 1).toNat
  if cancellations + expired < state.requests then throw .cancelled
  else if expired ≠ 0 then throw .timeout
  else pure ()

/-- What is done inside the timeout of a phase. -/
def writeAndCommit (terminal enclosing : Bool) (cancellations : ℕ) (write : Write) :
    Act AgentRunRow := do
  checkDeadline cancellations enclosing
  let row ← await (perform (.write write))
  assign fun state => { state with runId := some row.id }
  checkDeadline cancellations enclosing
  assign fun state => { state with commitStarted := true }
  let expired := (← get).expiredAt 0
  await (perform (.commit expired))
  assign fun state => { state with commitAcknowledged := true }
  if terminal then assign fun state => { state with terminalAcknowledged := true }
  else assign fun state => { state with initialAcknowledged := true }
  checkDeadline cancellations enclosing
  if terminal then assign fun state => { state with terminalPhaseSucceeded := true }
  pure row

/-- `_persist_phase`. -/
def persistPhase (terminal enclosing : Bool) (write : Write) : Act AgentRunRow := do
  assign fun state => { state with commitStarted := false, commitAcknowledged := false }
  sleep
  let cancellations ← cancelling
  let attempted ← Task.attempt (withTimeout (writeAndCommit terminal enclosing cancellations write))
  match attempted with
  | .ok (row, _) => pure row
  | .error .cancelled =>
    if cancellations < (← cancelling) then throw .cancelled else throw .storageFailed
  | .error _ => throw .storageFailed

/-- `_safe_rollback`. -/
def safeRollback : Act Bool := do
  sleep
  let cancellations ← cancelling
  let attempted ← Task.attempt (withTimeout (await (perform .rollback)))
  match attempted with
  | .ok (_, expired) =>
    if cancellations < (← cancelling) then throw .cancelled else pure (!expired)
  | .error .cancelled =>
    if cancellations < (← cancelling) then throw .cancelled else pure false
  | .error _ => pure false

/-- `_record_audit`. -/
def recordAudit : Act Unit := do
  sleep
  let cancellations ← cancelling
  let attempted ← Task.attempt (await (perform .audit))
  match attempted with
  | .error .cancelled =>
    if cancellations < (← cancelling) then throw .cancelled else pure ()
  | _ => pure ()

/-- Run a task of its own to its end. It shares the variables of the call; requests to
cancel the call are counted and do not reach it. -/
def owned {α : Type} (child : Act α) : Act (Except Raised α) := do
  let parent ← get
  set (Cancellable.fresh parent.own)
  let ended ← Task.attempt child
  let own := (← get).own
  let cancels ← perform .awaitCleanup
  set { parent with requests := parent.requests + show ℕ from cancels, own := own }
  pure ended

variable (setting : Setting)

/-- What `run` creates. -/
def runRecord : AgentRunCreate where
  requestId := setting.context.requestId
  traceId := setting.context.traceId
  tenantId := setting.context.auth.tenantId
  userId := setting.context.auth.userId
  maxSteps := setting.config.maxSteps
  maxToolCalls := setting.config.maxToolCalls
  timeoutSeconds := setting.config.timeoutSeconds

/-- An update of the run by its owner. -/
def updateOf (runId : String) (update : AgentRunUpdate) : Write :=
  .update setting.context.auth.tenantId setting.context.auth.userId runId update

/-- `_update_from_result`. -/
def resultUpdate (result : AgentRunResult) : AgentRunUpdate where
  status := result.status
  terminationReason := result.terminationReason.value
  stepsUsed := result.stepsUsed
  toolCallsUsed := result.toolCallsUsed
  errorCode := result.errorCode
  latencyMs := result.latencyMs

/-- The row of a failed run. -/
def failedUpdate : AgentRunUpdate where
  status := .failed
  terminationReason := "AGENT_RUN_FAILED"
  stepsUsed := 0
  toolCallsUsed := 0
  errorCode := some "AGENT_RUN_FAILED"
  latencyMs := setting.failedLatencyMs

/-- The row of a cancelled run. -/
def cancelledUpdate : AgentRunUpdate where
  status := .stopped
  terminationReason := "AGENT_RUN_CANCELLED"
  stepsUsed := 0
  toolCallsUsed := 0
  errorCode := some "AGENT_RUN_CANCELLED"
  latencyMs := setting.cancelledLatencyMs

/-- What `persist` of `_finish_cancellation` does inside its timeout. -/
def recordCancellation (runId : String) : Act Unit := do
  let isRolledBack ← safeRollback
  if !isRolledBack || (← get).expiredAt 0 then throw .storageFailed
  else
    let _ ← persistPhase true true (updateOf setting runId (cancelledUpdate setting))
    recordAudit

/-- `_finish_cancellation`; how the cleanup ended is only logged. -/
def finishCancellation (runId : String) : Act Bool := do
  let _ ← owned (withTimeout (recordCancellation setting runId))
  pure (← get).own.persistence.terminalPhaseSucceeded

/-- `_mark_failed_after_runtime_exception`. -/
def markFailedAfterRuntimeException (runId : String) : Act Unit := do
  let _ ← persistPhase true false (updateOf setting runId (failedUpdate setting))
  recordAudit

/-- The body of the `try` of `run`. -/
def runOnce : Act AgentRunResponse := do
  sleep
  let cancellations ← cancelling
  modify fun state => { state with own := { state.own with callerCancellations := cancellations } }
  let created ← persistPhase false false (.create (runRecord setting))
  recordAudit
  let attempted ← Task.attempt (await (perform .runtime))
  match attempted with
  | .error .cancelled => throw .cancelled
  | .error _ =>
    markFailedAfterRuntimeException setting created.id
    throw (.agentRun "AGENT_RUN_FAILED")
  | .ok result =>
    let updated ← persistPhase true false (updateOf setting created.id (resultUpdate result))
    recordAudit
    pure ⟨updated, result.finalAnswer, result.finalCitations⟩

/-- What is left to do about the row of a cancelled run; whether it was recorded. -/
def cleanUp (persistence : PersistenceState) : Act Bool :=
  match persistence.runId, persistence.initialAcknowledged && !persistence.commitUncertain with
  | some runId, true => finishCancellation setting runId
  | _, _ => do
    let _ ← owned safeRollback
    pure false

/-- The handler for a cancellation. -/
def handleCancellation : Act AgentRunResponse := do
  let persistence := (← get).own.persistence
  if persistence.terminalAcknowledged then throw .cancelled
  else
    let isPersisted ← cleanUp setting persistence
    let state ← get
    if !isPersisted && state.requests ≤ state.own.callerCancellations then throw .storageFailed
    else throw .cancelled

/-- The handlers of `run`. -/
def handle (failure : Raised) : Act AgentRunResponse :=
  match failure with
  | .cancelled => handleCancellation setting
  | .timeout | .other => do
    let _ ← safeRollback
    throw (.agentRun "AGENT_RUN_FAILED")
  | failure => do
    let _ ← safeRollback
    throw failure

/-- `AgentRunApplicationService.run`. -/
def run : Act AgentRunResponse := do
  if !setting.context.auth.hasAgentRunPermission then
    recordAudit
    throw (.agentRun "AGENT_RUN_FORBIDDEN")
  else
    tryCatch (runOnce setting) (handle setting)

/-- One call, before anything is written. -/
def machine : Machine where
  sig := signature
  Outcome := Except Raised AgentRunResponse × Cancellable Locals
  World := World
  Answer := Answer
  initial := ⟨.empty, []⟩
  body _ := run setting (.fresh .initial)
  request _ := true
  execute _ := step

end AegisRag.Agent.RunService

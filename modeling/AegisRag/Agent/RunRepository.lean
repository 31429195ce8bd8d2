import AegisRag.Agent.Durable.Dto

/-!
# The repository of agent runs

`AgentRunRepository` of `packages/agent/storage/repositories.py`, seen by the one request
that creates a run: the run's row as it is stored, and as the request's session sees it.
What a call that raises has done to the session, or a commit that raises to the store, is
the environment's choice.
-/

namespace AegisRag.Agent

open Durable

/-- What an await may raise, by the classes the callers' handlers tell apart. -/
inductive Raised where
  | agentTool (code : String)
  | agentRun (code : String)
  | domain (code : String)
  | timeout
  | other
  | cancelled
deriving DecidableEq

/-- What `except Exception` catches. -/
def Raised.isException : Raised → Bool
  | .cancelled => false
  | _ => true

/-- `agent_run_storage_failed`. -/
def Raised.storageFailed : Raised := .agentRun "AGENT_RUN_STORAGE_FAILED"

/-- How the await of a repository call ends, and whether one that raises had its effect. -/
inductive RepositoryCall where
  | returned
  | raised (failure : Raised) (applied : Bool)

namespace RepositoryCall

def isReturned : RepositoryCall → Bool
  | .returned => true
  | .raised _ _ => false

def isEffective : RepositoryCall → Bool
  | .returned => true
  | .raised _ applied => applied

/-- What the caller gets. -/
def result {α : Type} (call : RepositoryCall) (value : α) : Except Raised α :=
  match call with
  | .returned => .ok value
  | .raised failure _ => .error failure

/-- What the call leaves, of two states without and with its effect. -/
def leaves {σ : Type} (call : RepositoryCall) (before after : σ) : σ :=
  if call.isEffective then after else before

end RepositoryCall

/-- `AgentRunStorageStatus`; an update can only set the statuses of an ended run. -/
inductive RunStatus where
  | running
  | ended (status : AgentRunStatus)
deriving DecidableEq

def RunStatus.isTerminal : RunStatus → Bool
  | .running => false
  | .ended _ => true

structure AgentRunCreate where
  requestId : String
  traceId : String
  tenantId : String
  userId : String
  maxSteps : ℕ
  maxToolCalls : ℕ
  timeoutSeconds : Seconds
deriving DecidableEq

structure AgentRunUpdate where
  status : AgentRunStatus
  terminationReason : String
  stepsUsed : ℕ
  toolCallsUsed : ℕ
  errorCode : Option String
  latencyMs : Seconds
deriving DecidableEq

/-- `AgentRunModel`. -/
structure AgentRunRow where
  id : String
  created : AgentRunCreate
  status : RunStatus
  stepsUsed : ℕ
  toolCallsUsed : ℕ
  terminationReason : Option String
  errorCode : Option String
  latencyMs : Option Seconds
deriving DecidableEq

/-- The row that `create_run` adds. -/
def AgentRunCreate.row (record : AgentRunCreate) (id : String) : AgentRunRow where
  id := id
  created := record
  status := .running
  stepsUsed := 0
  toolCallsUsed := 0
  terminationReason := none
  errorCode := none
  latencyMs := none

/-- What `update_run_result` makes of a row. -/
def AgentRunRow.updated (row : AgentRunRow) (update : AgentRunUpdate) : AgentRunRow :=
  { row with
    status := .ended update.status
    stepsUsed := update.stepsUsed
    toolCallsUsed := update.toolCallsUsed
    terminationReason := some update.terminationReason
    errorCode := update.errorCode
    latencyMs := some update.latencyMs }

/-- The run's row in the store and in the session. -/
structure RunSession where
  stored : Option AgentRunRow
  working : Option AgentRunRow
deriving DecidableEq

namespace RunSession

/-- Before the run is created. -/
def empty : RunSession := ⟨none, none⟩

def create (session : RunSession) (record : AgentRunCreate) (id : String) : RunSession :=
  { session with working := some (record.row id) }

/-- The session after `update_run_result`, unless it finds no row. -/
def update (session : RunSession) (tenantId userId runId : String) (update : AgentRunUpdate) :
    Option RunSession :=
  match session.working with
  | none => none
  | some row =>
    if row.created.tenantId = tenantId ∧ row.created.userId = userId ∧ row.id = runId then
      some { session with working := some (row.updated update) }
    else
      none

def commit (session : RunSession) : RunSession := { session with stored := session.working }

def rollback (session : RunSession) : RunSession := { session with working := session.stored }

end RunSession

end AegisRag.Agent

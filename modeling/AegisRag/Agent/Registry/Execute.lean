import AegisRag.Semantics.Task
import AegisRag.Agent.Observation

/-!
# Execution of a tool

`ToolRegistry.execute` of `packages/agent/registry.py` with the grants of
`packages/agent/approval.py`. A task's operations are its awaits and its synchronous
stretches that touch what calls share; any other task may run in between. How an await
ends and what a clock reads is the environment's answer. Besides the flags of the source
the world numbers the calls and keeps a log.
-/

namespace AegisRag.Agent.Registry

open Semantics Durable

/-! ## Tools, grants and calls -/

/-- The members of `ToolDefinition` that the gate reads. -/
structure Tool where
  permission : String
  requiresApproval : Bool
  /-- `_validate_input` against the tool's schema. -/
  accepts : Members → Bool
  /-- `_validate_output` against the tool's schema. -/
  acceptsOutput : Members → Bool

/-- The registered tools, and whether calls are recorded. -/
structure ToolRegistry where
  definitions : String → Option Tool
  hasRecorder : Bool

/-- `ToolApprovalGrant` without its consumed flag. -/
structure Grant where
  runId : String
  tenantId : String
  userId : String
  toolName : String
  argumentsDigest : String
  expiresAt : Seconds

/-- `ToolDispatchState`. -/
structure DispatchState where
  registryEntered : Bool
  handlerStarted : Bool
  revoked : Bool

/-- The arguments of one `execute` call; arguments that are no mapping are `none`. -/
structure Request where
  name : String
  arguments : Option Members
  context : RequestContext
  agentRunId : Option String
  approvalGrant : Option ℕ
  dispatchState : Option ℕ

/-- What every call sees: the registry, the grants by identity, and the digest of
arguments, which raises for some. -/
structure Setting where
  registry : ToolRegistry
  grants : ℕ → Grant
  argumentDigest : Members → Option String

/-- `ToolExecutionResult` as far as the registry decides it. -/
structure ToolOutcome where
  toolName : String
  status : ToolInvocationStatus
  output : Members

/-- How the await of the handler ends. -/
inductive HandlerOutcome where
  | returned (output : Members)
  | timedOut
  | cancelled
  | raised

/-! ## The shared world -/

/-- What happened, in order. -/
inductive Event where
  | entered (call task : ℕ)
  | consumed (call grant : ℕ)
  | allowed (call : ℕ)
  | revoked (dispatchState : ℕ)
  | started (call : ℕ) (request : Request) (reading : Seconds)

/-- What the calls share. -/
structure World where
  /-- The number of the next call. -/
  calls : ℕ
  consumed : ℕ → Bool
  dispatchStates : ℕ → DispatchState
  log : List Event

/-- What a call presents to a grant. -/
structure Presented where
  runId : Option String
  tenantId : String
  userId : String
  toolName : String
  digest : Option String
deriving DecidableEq

/-- `ToolApprovalGrant.consume`: whether the grant is consumed now. The digest is computed
last, and only it can raise. -/
def Grant.consume (grant : Grant) (isConsumed : Bool) (now : Seconds) (presented : Presented) :
    Except Failure Bool :=
  if isConsumed || grant.expiresAt ≤ now || presented.runId ≠ some grant.runId ||
      presented.tenantId ≠ grant.tenantId || presented.userId ≠ grant.userId ||
      presented.toolName ≠ grant.toolName then
    .ok false
  else
    match presented.digest with
    | none => .error .other
    | some digest => .ok (digest = grant.argumentsDigest)

/-- The operations of a call. -/
inductive Op where
  | enter (dispatchState : Option ℕ)
  | consume (call grant : ℕ) (presented : Presented)
  | acquire (call : ℕ)
  /-- The check after the limiter and, without an await between, the start. -/
  | dispatch (call : ℕ) (request : Request)
  | awaitHandler
  | recordToolCall
  | recordAudit
  | revoke (dispatchState : ℕ)

/-- What an operation returns. -/
def Op.Reply : Op → Type
  | .enter _ => ℕ
  | .consume _ _ _ => Except Failure Bool
  | .acquire _ => Except Failure Bool
  | .dispatch _ _ => Bool
  | .awaitHandler => HandlerOutcome
  | .recordToolCall => Except Failure Unit
  | .recordAudit => Except Failure Unit
  | .revoke _ => Unit

/-- The tasks of the registry. -/
inductive Code where
  | execute (request : Request)
  | revoke (dispatchState : ℕ)

/-- Operations, replies and tasks. -/
def signature : Signature where
  Op := Op
  Reply := Op.Reply
  Code := Code

/-- What the environment decides at a call. -/
inductive Answer where
  | silent
  | reading (now : Seconds)
  | limiter (decision : Except Failure Bool)
  | handler (outcome : HandlerOutcome)
  | recorded (result : Except Failure Unit)

namespace World

/-- Change a dispatch state. -/
def setDispatchState (world : World) (state : Option ℕ) (update : DispatchState → DispatchState) :
    World :=
  match state with
  | none => world
  | some index =>
    { world with
      dispatchStates :=
        Function.update world.dispatchStates index (update (world.dispatchStates index)) }

/-- Write down an event. -/
def note (world : World) (event : Event) : World := { world with log := world.log ++ [event] }

/-- Whether the dispatch is cancelled: revoked, or its grant has expired. -/
def isCancelled (world : World) (grants : ℕ → Grant) (request : Request) (now : Seconds) : Bool :=
  request.dispatchState.any (fun state => (world.dispatchStates state).revoked) ||
    request.approvalGrant.any fun grant => (grants grant).expiresAt ≤ now

end World

variable (setting : Setting)

/-- The meaning of the operations. -/
def step (task : ℕ) (op : Op) (answer : Answer) (world : World) : Option (op.Reply × World) :=
  match op, answer with
  | .enter state, .silent =>
    some (world.calls, { (world.setDispatchState state fun held =>
      { held with registryEntered := true }).note (.entered world.calls task) with
        calls := world.calls + 1 })
  | .consume call grant presented, .reading now =>
    match (setting.grants grant).consume (world.consumed grant) now presented with
    | .ok true =>
      some (.ok true, { world.note (.consumed call grant) with
        consumed := Function.update world.consumed grant true })
    | result => some (result, world)
  | .acquire call, .limiter decision =>
    match decision with
    | .ok true => some (.ok true, world.note (.allowed call))
    | result => some (result, world)
  | .dispatch call request, .reading now =>
    if world.isCancelled setting.grants request now then some (false, world)
    else
      some (true, (world.setDispatchState request.dispatchState fun held =>
        { held with handlerStarted := true }).note (.started call request now))
  | .awaitHandler, .handler outcome => some (outcome, world)
  | .recordToolCall, .recorded result => some (result, world)
  | .recordAudit, .recorded result => some (result, world)
  | .revoke state, .silent =>
    some ((), (world.setDispatchState (some state) fun held => { held with revoked := true }).note
      (.revoked state))
  | _, _ => none

/-! ## The program -/

/-- The body of a task. -/
abbrev Body := Task signature Unit Failure

/-- One operation. -/
def perform (op : Op) : Body op.Reply := Task.perform (show signature.Op from op)

/-- An error of the registry. -/
def toolError (code : String) (statusCode : ℕ) : Failure := .domain ⟨code, statusCode⟩

/-- `_record_tool_call`: a failed record fails the call. -/
def recordToolCall : Body Unit := do
  if setting.registry.hasRecorder then
    let result ← perform .recordToolCall
    match (result : Except Failure Unit) with
    | .ok () => pure ()
    | .error .cancelled => throw .cancelled
    | .error _ => throw (toolError "TOOL_CALL_AUDIT_FAILED" 500)

/-- `_record_audit`: only cancellation passes. -/
def recordAudit : Body Unit := do
  let result ← perform .recordAudit
  match (result : Except Failure Unit) with
  | .error .cancelled => throw .cancelled
  | _ => pure ()

/-- Record a call and raise its failure. -/
def refuse {α : Type} (failure : Failure) : Body α := do
  recordToolCall setting
  recordAudit
  throw failure

/-- The definition of the tool and its arguments. -/
def resolve (request : Request) : Body (Tool × Members) :=
  if setting.registry.hasRecorder ∧ request.agentRunId = none then
    throw (toolError "TOOL_CALL_AUDIT_FAILED" 500)
  else
    match setting.registry.definitions request.name, request.arguments with
    | none, _ => refuse setting (toolError "TOOL_NOT_REGISTERED" 404)
    | some _, none => refuse setting (toolError "TOOL_INPUT_VALIDATION_FAILED" 422)
    | some tool, some arguments => pure (tool, arguments)

def presented (request : Request) (arguments : Members) : Presented where
  runId := request.agentRunId
  tenantId := request.context.auth.tenantId
  userId := request.context.auth.userId
  toolName := request.name
  digest := setting.argumentDigest arguments

/-- Consume the grant of a tool that requires approval. -/
def approve (call : ℕ) (request : Request) (tool : Tool) (arguments : Members) : Body Unit :=
  if tool.requiresApproval then
    match request.approvalGrant with
    | none => refuse setting (toolError "TOOL_APPROVAL_REQUIRED" 403)
    | some grant => do
      let result ← perform (.consume call grant (presented setting request arguments))
      let isConsumed ← Task.ofExcept result
      if isConsumed then pure () else refuse setting (toolError "TOOL_APPROVAL_REQUIRED" 403)
  else pure ()

/-- The checks of the arguments and of the caller's permission. -/
def check (request : Request) (tool : Tool) (arguments : Members) : Body Unit :=
  if !tool.accepts arguments then refuse setting (toolError "TOOL_INPUT_VALIDATION_FAILED" 422)
  else if !request.context.auth.hasToolPermission tool.permission then
    refuse setting (toolError "TOOL_PERMISSION_DENIED" 403)
  else pure ()

/-- The rate limiter is asked. -/
def limit (call : ℕ) : Body Unit := do
  let decision ← perform (.acquire call)
  let isAllowed ← Task.ofExcept decision
  if isAllowed then pure () else refuse setting (toolError "TOOL_RATE_LIMITED" 429)

/-- `_output_invocation_status`. -/
def outputInvocationStatus (output : Members) : ToolInvocationStatus :=
  if textOf output "status" = some "failure" ∨ textOf output "status" = some "error" then .failure
  else .success

/-- Await the handler and turn its end into a result. -/
def finish (request : Request) (tool : Tool) : Body ToolOutcome := do
  let outcome ← perform .awaitHandler
  match (outcome : HandlerOutcome) with
  | .timedOut => refuse setting (toolError "TOOL_TIMEOUT" 504)
  | .cancelled => refuse setting .cancelled
  | .raised => refuse setting (toolError "TOOL_HANDLER_FAILED" 502)
  | .returned output =>
    if tool.acceptsOutput output then
      recordToolCall setting
      recordAudit
      pure ⟨request.name, outputInvocationStatus output, output⟩
    else
      refuse setting (toolError "TOOL_OUTPUT_VALIDATION_FAILED" 502)

/-- Start the handler unless the dispatch is cancelled. -/
def dispatch (call : ℕ) (request : Request) : Body Unit := do
  let isStarted ← perform (.dispatch call request)
  match (isStarted : Bool) with
  | true => pure ()
  | false => throw (toolError "TOOL_DISPATCH_CANCELLED" 409)

/-- `ToolRegistry.execute`. -/
def execute (request : Request) : Body ToolOutcome := do
  let call ← perform (.enter request.dispatchState)
  let (tool, arguments) ← resolve setting request
  approve setting call request tool arguments
  check setting request tool arguments
  limit setting call
  dispatch call request
  finish setting request tool

/-- The body of a task: an `execute` call, or `ToolDispatchState.revoke`. -/
def body : Code → Body (Option ToolOutcome)
  | .execute request => do
    let outcome ← execute setting request
    pure (some outcome)
  | .revoke state => do
    let _ ← perform (.revoke state)
    pure none

/-- Any number of calls and revocations, in any order. -/
def machine : Machine where
  sig := signature
  Outcome := Except Failure (Option ToolOutcome) × Unit
  World := World
  Answer := Answer
  initial := ⟨0, fun _ => false, fun _ => ⟨false, false, false⟩, []⟩
  body code := body setting code ()
  request _ := true
  execute := step setting

end AegisRag.Agent.Registry

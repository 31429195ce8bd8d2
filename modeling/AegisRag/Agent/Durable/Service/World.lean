import AegisRag.Agent.Durable.Journal
import AegisRag.Semantics.Task

/-!
# What the service's tasks act on

Requests and the asyncio tasks they start are programs over the operations below,
each of them one await or one reading: a store transaction, a call of a
collaborator, a clock, or an access to a shared `_DurableExecution`. Whatever the
environment decides is an `Answer`; an interrupted transaction may or may not
have committed. An operation also writes its event to the log of its run.
-/

namespace AegisRag.Agent.Durable.Service

open Semantics

/-! ## Replies of collaborators -/

/-- The outcome of a validated final answer. -/
inductive ValidationStatus where
  | valid
  | degraded
  | failed
deriving DecidableEq

/-- What the runtime reads of a `FinalAnswerValidationResult`. -/
structure FinalAnswerValidationResult where
  status : ValidationStatus
  answer : Option String
  citations : List AgentCitationRef
  errorCode : Option String

/-- A finished tool call by its summary; `none` when summarising the output raises. -/
structure ToolExecutionResult where
  summary : Option AgentObservationSummary

/-- A checkpoint write that the graph framework schedules. -/
inductive GraphCall where
  | put (checkpointId : String) (checkpoint metadata : Json) (parentId : Option String)
  | writes (checkpointId : String) (writes : List GraphWrite)

/-! ## The shared world -/

/-- Who assigns the snapshot of a shared execution as long as nothing is revoked:
first its request, and once that has handed it over, one business task. -/
inductive Owner where
  | request (task : Nat)
  | waiting
  | business (task : Nat)
deriving DecidableEq

/-- The members of a `_DurableExecution` that several tasks read or assign. -/
structure SharedExecution where
  snapshot : DurableSnapshot
  token : String
  revocationError : Option DomainError
  owner : Owner
  /-- Results of the two child tasks, once they are done. -/
  business : Option (Except Failure Unit)
  heartbeat : Option (Except Failure Unit)

/-- What an identifier is drawn for. -/
inductive Draw where
  | runId
  | leaseToken
  | creationToken
  | approvalId
deriving DecidableEq

/-- A drawn identifier, its use and the task that drew it. -/
structure Identifier where
  text : String
  draw : Draw
  task : Nat
deriving DecidableEq

/-- The runs, the shared executions and the identifiers drawn so far. -/
structure World where
  runs : String → RunState
  executions : List SharedExecution
  /-- Every identifier drawn so far. -/
  issued : List Identifier

/-- Nothing has been stored or drawn. -/
def World.initial : World := ⟨fun _ => .initial, [], []⟩

/-- Replace one run. -/
def World.setRun (world : World) (runId : String) (state : RunState) : World :=
  { world with runs := fun other => if other = runId then state else world.runs other }

/-- Write an event to the log of a run. -/
def World.note (world : World) (runId : String) (event : Event) : World :=
  world.setRun runId
    { world.runs runId with log := event :: (world.runs runId).log }

/-- Replace one shared execution. -/
def World.setExecution (world : World) (handle : Nat) (execution : SharedExecution) : World :=
  { world with executions := world.executions.set handle execution }

/-! ## Operations -/

/-- The operations of a task. -/
inductive Op where
  | clock
  | perfCounter
  | uuid4 (draw : Draw)
  /-- How often a loop of the source goes round before the schedule ends. -/
  | choose
  /-- Never returns: the schedule ends here. -/
  | halt
  /-- An audit record, a tool event or the wait for a cancelled child: errors are
  swallowed, a cancellation is not. -/
  | auxiliaryIo
  | purgeExpired (tenantId : String) (now : Seconds)
  | insert (operation : Operation)
  | lookupKeyed (tenantId userId runId : String)
  | load (tenantId userId runId : String)
  | owns (snapshot : DurableSnapshot) (token : String) (allowUnclaimed : Bool)
  | ledger (snapshot : DurableSnapshot) (callId : String)
  | lease (operation : Operation)
  | save (site : Site) (previous snapshot : DurableSnapshot) (token : String) (now : Seconds)
      (entry : Option ToolLedgerEntry)
  | cancel (previous : DurableSnapshot) (now : Seconds) (ownership : Option String)
      (allowUnclaimed : Bool)
  | registeredToolNames
  | getDefinition (name : String)
  | rehydrate
  | revalidateContext (context : RequestContext)
  | nextStep (runId : String) (attempt : Nat)
  | validateAnswer
  /-- Everything `ToolRegistry.execute` does before it starts the handler. -/
  | registryGate
  | startHandler (handle : Nat) (callId : String) (definition : ToolDefinition)
  | handlerResult
  | newExecution (snapshot : DurableSnapshot) (token : String)
  | handOver (handle : Nat)
  | attach (handle : Nat)
  | execution (handle : Nat)
  | assignSnapshot (handle : Nat) (snapshot : DurableSnapshot)
  | revoke (handle : Nat) (error : Option DomainError)
  | businessDone (handle : Nat) (result : Except Failure Unit)
  | heartbeatDone (handle : Nat) (result : Except Failure Unit)
  | waitTasks (handle : Nat)
  /-- The checkpoint writes the graph framework schedules between two nodes. -/
  | scheduledCheckpoints
  | approvalChecked (snapshot : DurableSnapshot) (approval : ApprovalRequest)
      (command : DurableResumeCommand) (now : Seconds)
  | raised (code : String) (snapshot : DurableSnapshot)
  | driving (runId : String) (start : Bool)

/-- What each operation replies. An await can fail; a reading cannot. -/
def Op.Reply : Op → Type
  | .clock | .perfCounter => Seconds
  | .uuid4 _ => String
  | .choose | .newExecution .. => Nat
  | .halt => Empty
  | .auxiliaryIo | .purgeExpired .. | .registryGate | .startHandler .. => Except Failure Unit
  | .insert _ | .owns .. => Except Failure Bool
  | .lookupKeyed .. | .lease _ => Except Failure (Option DurableSnapshot)
  | .load .. | .save .. | .cancel .. => Except Failure DurableSnapshot
  | .ledger .. => Except Failure ToolLedgerEntry
  | .registeredToolNames => List String
  | .getDefinition _ => Except Failure ToolDefinition
  | .rehydrate => Except Failure (List (String × String))
  | .revalidateContext _ => Except Failure RequestContext
  | .nextStep .. => Except Failure AgentStepDecision
  | .validateAnswer => Except Failure FinalAnswerValidationResult
  | .handlerResult => Except Failure ToolExecutionResult
  | .attach _ | .execution _ => SharedExecution
  | .waitTasks _ => Except Failure (Option (Except Failure Unit) × Option (Except Failure Unit))
  | .scheduledCheckpoints => List GraphCall
  | .handOver _ | .assignSnapshot .. | .revoke .. | .businessDone .. | .heartbeatDone ..
  | .approvalChecked .. | .raised .. | .driving .. => Unit

/-- The requests the service accepts and the tasks they start. A request names the
service instance that handles it, so instances may be configured differently. -/
inductive Code where
  | start (service : DurableAgentService) (context : RequestContext)
      (command : DurableStartCommand)
  | recover (service : DurableAgentService) (context : RequestContext) (idempotencyKey : String)
  | get (service : DurableAgentService) (context : RequestContext) (runId : String)
  | resume (service : DurableAgentService) (context : RequestContext) (runId : String)
      (command : DurableResumeCommand)
  | runBackground (service : DurableAgentService) (context : RequestContext) (runId : String)
      (expectedRevision : Nat)
  | cancel (service : DurableAgentService) (context : RequestContext) (runId : String)
      (expectedRevision : Option Nat)
  /-- The storage task of a keyed start that its request no longer waits for. -/
  | lateCreation (snapshot : DurableSnapshot) (token : String) (now leaseSeconds : Seconds)
  | business (service : DurableAgentService) (context : RequestContext) (handle : Nat)
      (snapshot : DurableSnapshot) (approval : Option DurableResumeCommand) (queueOnly : Bool)
  | heartbeat (service : DurableAgentService) (handle : Nat)
  | graphCheckpoint (handle : Nat) (call : GraphCall)

/-- What a finished task returns; only requests answer. -/
inductive Outcome where
  | response (result : Except Failure DurableRunResponse)
  | ended

/-- The operations, their replies and the codes of tasks. -/
def sig : Signature := ⟨Op, Op.Reply, Code⟩

/-- A method body of the service over private state `σ`. -/
abbrev Act (σ α : Type) := Task sig σ Failure α

/-! ## Answers -/

/-- What the environment decides about one operation. -/
structure Answer where
  /-- The awaited operation is interrupted. -/
  failure : Option Failure := none
  /-- An interrupted transaction has committed. -/
  committed : Bool := false
  time : Seconds := 0
  text : String := ""
  count : Nat := 0
  names : List String := []
  decision : Option AgentStepDecision := none
  definition : Option ToolDefinition := none
  context : Option RequestContext := none
  fingerprints : List (String × String) := []
  validation : Option FinalAnswerValidationResult := none
  toolResult : Option ToolExecutionResult := none
  graphCalls : List GraphCall := []

/-- What can interrupt a store call: unavailable or unsafe storage, a deadline, a
cancellation, or an error of another kind. -/
def interruptsStorage : Failure → Bool
  | .domain error =>
    ["DURABLE_STORAGE_UNAVAILABLE", "DURABLE_STORAGE_BIND_UNSUPPORTED",
      "DURABLE_STORAGE_LOGGING_UNSAFE"].contains error.code && error.statusCode == 503
  | .timeout | .cancelled | .other => true

/-- The service's own answer to a reused key. -/
def startKeyConflict : Failure := .durable "DURABLE_START_KEY_CONFLICT"

/-- Deliver the result of a transaction, or the interruption of its caller. -/
def Answer.transaction {α : Type} (answer : Answer) (world : World)
    (result : Except (Failure × World) (α × World)) : Option (Except Failure α × World) :=
  match answer.failure with
  | none =>
    match result with
    | .ok (value, next) => some (.ok value, next)
    | .error (failure, next) => some (.error failure, next)
  | some failure =>
    if interruptsStorage failure then
      match result with
      | .ok (_, next) => some (.error failure, if answer.committed then next else world)
      | .error _ => some (.error failure, world)
    else none

/-- Deliver what a collaborator returns or raises. -/
def Answer.collaborator {α : Type} (answer : Answer) (world : World) (value : Option α) :
    Option (Except Failure α × World) :=
  match answer.failure with
  | none => value.map fun value => (.ok value, world)
  | some failure => some (.error failure, world)

/-- Deliver a step that only a cancellation can interrupt. -/
def Answer.cancellable {α : Type} (answer : Answer) (world : World) (value : α) :
    Option (Except Failure α × World) :=
  match answer.failure with
  | none => some (.ok value, world)
  | some .cancelled => some (.error .cancelled, world)
  | some _ => none

/-! ## Transactions -/

variable (codec : Codec)

/-- A refusal that the log records under the snapshot it was raised for. -/
def World.raise (world : World) (index : Nat) (snapshot : DurableSnapshot) :
    Failure → World
  | .domain error => world.note snapshot.runId (.raised index error.code snapshot)
  | _ => world

/-- `create` or `create_keyed`, logged where it inserts. -/
def World.insert (world : World) (index : Nat) (operation : Operation)
    (snapshot : DurableSnapshot) : Except (Failure × World) (Bool × World) :=
  let state := world.runs snapshot.runId
  match state.chronicle.perform codec operation with
  | .error failure => .error (failure, world)
  | .ok (none, _) => .ok (false, world)
  | .ok (some _, chronicle) =>
    .ok (true, world.setRun snapshot.runId
      ⟨chronicle, .created index operation.insertToken snapshot :: state.log⟩)

/-- A transaction on the lease, logged. -/
def World.lease (world : World) (index : Nat) (operation : Operation)
    (snapshot : DurableSnapshot) : Except (Failure × World) (Option DurableSnapshot × World) :=
  let state := world.runs snapshot.runId
  match state.chronicle.perform codec operation with
  | .error failure => .error (failure, world)
  | .ok (returned, chronicle) =>
    .ok (returned, world.setRun snapshot.runId ⟨chronicle, .leased index operation :: state.log⟩)

/-- `save` at a site of the execution, logged. -/
def World.save (world : World) (index : Nat) (site : Site) (previous snapshot : DurableSnapshot)
    (token : String) (now : Seconds) (entry : Option ToolLedgerEntry) :
    Except (Failure × World) (DurableSnapshot × World) :=
  let state := world.runs previous.runId
  match state.chronicle.perform codec (.save previous snapshot token now entry) with
  | .ok (some saved, chronicle) =>
    .ok (saved, world.setRun previous.runId
      ⟨chronicle, .saved index site previous saved :: state.log⟩)
  | .ok (none, _) => .error (.other, world)
  | .error failure =>
    .error (failure,
      if failure = .durable "DURABLE_LEDGER_IMMUTABLE" then world.raise index previous failure
      else world)

/-- `cancel`, logged. -/
def World.cancel (world : World) (index : Nat) (previous : DurableSnapshot) (now : Seconds)
    (ownership : Option String) (allowUnclaimed : Bool) :
    Except (Failure × World) (DurableSnapshot × World) :=
  let state := world.runs previous.runId
  match state.chronicle.perform codec (.cancel previous now ownership allowUnclaimed) with
  | .ok (some saved, chronicle) =>
    .ok (saved, world.setRun previous.runId
      ⟨chronicle, .cancelled index now previous saved :: state.log⟩)
  | .ok (none, _) => .error (.other, world)
  | .error failure => .error (failure, world)

/-- `purge_expired` removes expired runs of a tenant, as many as its limit allows. -/
def World.purgeExpired (world : World) (index : Nat) (tenantId : String) (now : Seconds)
    (selected : List String) : World :=
  { world with
    runs := fun runId =>
      let state := world.runs runId
      if selected.contains runId && state.chronicle.cell.purgeable tenantId now then
        ⟨{ state.chronicle with cell := state.chronicle.cell.purge tenantId },
          .purged index :: state.log⟩
      else state }

/-- `ledger`; a refusal is logged. -/
def World.ledger (world : World) (index : Nat) (snapshot : DurableSnapshot) (callId : String) :
    Except (Failure × World) (ToolLedgerEntry × World) :=
  match (world.runs snapshot.runId).chronicle.cell.ledgerEntry snapshot callId with
  | .ok entry => .ok (entry, world)
  | .error failure => .error (failure, world.raise index snapshot failure)

/-! ## Meaning of the operations -/

/-- Read and perhaps replace a shared execution. -/
def World.withExecution {α : Type} (world : World) (handle : Nat)
    (update : SharedExecution → Option (α × SharedExecution)) : Option (α × World) := do
  let execution ← world.executions[handle]?
  let (value, next) ← update execution
  return (value, world.setExecution handle next)

/-- A read leaves the world as it is. -/
def reading {α : Type} (world : World) (result : Except Failure α) :
    Except (Failure × World) (α × World) :=
  match result with
  | .ok value => .ok (value, world)
  | .error failure => .error (failure, world)

/-- Start a handler unless the dispatch was revoked in the meantime. -/
def World.startHandler (world : World) (index handle : Nat) (callId : String)
    (definition : ToolDefinition) (answer : Answer) : Option (Except Failure Unit × World) := do
  let execution ← world.executions[handle]?
  if execution.revocationError.isSome then
    some (.error (.domain ⟨"TOOL_DISPATCH_CANCELLED", 409⟩), world)
  else
    match answer.failure with
    | none =>
      some (.ok (),
        world.note execution.snapshot.runId (.handlerStarted index callId definition))
    | some failure => some (.error failure, world)

/-- Ask the model for a step. The call is made whatever comes of it, and a reply
that does not validate raises. -/
def World.nextStep (world : World) (index : Nat) (runId : String) (attempt : Nat)
    (answer : Answer) : Option (Except Failure AgentStepDecision × World) :=
  let called := world.note runId (.modelCalled index attempt)
  match answer.failure, answer.decision with
  | some failure, _ => some (.error failure, called)
  | none, some decision =>
    some (if decision.accepted then .ok decision else .error .other, called)
  | none, none => none

/-- One operation by the task of the given index. -/
def execute (index : Nat) (op : Op) (answer : Answer) (world : World) : Option (op.Reply × World) :=
  match op with
  | .clock | .perfCounter => some (answer.time, world)
  | .uuid4 draw =>
    if codec.uuidVersion answer.text = 4 ∧
        (world.issued.all fun identifier => identifier.text != answer.text) then
      some (answer.text, { world with issued := ⟨answer.text, draw, index⟩ :: world.issued })
    else none
  | .choose => some (answer.count, world)
  | .halt => none
  | .auxiliaryIo => answer.cancellable world ()
  | .purgeExpired tenantId now =>
    answer.transaction world (.ok ((), world.purgeExpired index tenantId now answer.names))
  | .insert operation =>
    match operation.inserted with
    | none => none
    | some snapshot => answer.transaction world (world.insert codec index operation snapshot)
  | .lookupKeyed tenantId userId runId =>
    answer.transaction world (reading world
      ((world.runs runId).chronicle.cell.lookupKeyed tenantId userId runId))
  | .load tenantId userId runId =>
    answer.transaction world (reading world
      ((world.runs runId).chronicle.cell.load tenantId userId runId))
  | .owns snapshot token allowUnclaimed =>
    answer.transaction world (reading world
      (.ok ((world.runs snapshot.runId).chronicle.cell.owns snapshot token allowUnclaimed)))
  | .ledger snapshot callId => answer.transaction world (world.ledger index snapshot callId)
  | .lease operation =>
    match operation.subject with
    | none => none
    | some snapshot =>
      if operation.leases then
        answer.transaction world (world.lease codec index operation snapshot)
      else none
  | .save site previous snapshot token now entry =>
    answer.transaction world (world.save codec index site previous snapshot token now entry)
  | .cancel previous now ownership allowUnclaimed =>
    answer.transaction world (world.cancel codec index previous now ownership allowUnclaimed)
  | .registeredToolNames => some (answer.names, world)
  | .getDefinition name =>
    answer.collaborator world (answer.definition.filter fun definition => definition.name == name)
  | .rehydrate => answer.collaborator world (some answer.fingerprints)
  | .revalidateContext _ => answer.collaborator world answer.context
  | .nextStep runId attempt => world.nextStep index runId attempt answer
  | .validateAnswer =>
    answer.collaborator world (answer.validation.filter fun validation =>
      validation.citations.all AgentCitationRef.accepted)
  | .registryGate => answer.collaborator world (some ())
  | .startHandler handle callId definition =>
    world.startHandler index handle callId definition answer
  | .handlerResult =>
    answer.collaborator world (answer.toolResult.filter fun result =>
      result.summary.all AgentObservationSummary.accepted)
  | .newExecution snapshot token =>
    some (world.executions.length, { world with
      executions :=
        world.executions ++ [⟨snapshot, token, none, .request index, none, none⟩] })
  | .handOver handle =>
    world.withExecution handle fun execution =>
      if execution.owner = .request index then
        some ((), { execution with owner := .waiting })
      else none
  | .attach handle =>
    world.withExecution handle fun execution =>
      if execution.owner = .waiting then
        some (execution, { execution with owner := .business index })
      else none
  | .execution handle => world.withExecution handle fun execution => some (execution, execution)
  | .assignSnapshot handle snapshot =>
    world.withExecution handle fun execution => some ((), { execution with snapshot })
  | .revoke handle error =>
    world.withExecution handle fun execution =>
      some ((), { execution with
        revocationError := execution.revocationError <|>
          some (error.getD (durableError "DURABLE_LEASE_LOST")) })
  | .businessDone handle result =>
    world.withExecution handle fun execution =>
      some ((), { execution with business := some result })
  | .heartbeatDone handle result =>
    world.withExecution handle fun execution =>
      some ((), { execution with heartbeat := some result })
  | .waitTasks handle =>
    match world.executions[handle]? with
    | none => none
    | some execution => answer.cancellable world (execution.business, execution.heartbeat)
  | .scheduledCheckpoints => some (answer.graphCalls, world)
  | .approvalChecked snapshot approval command now =>
    some ((), world.note snapshot.runId (.approvalChecked index snapshot approval command now))
  | .raised code snapshot =>
    some ((), world.note snapshot.runId (.raised index code snapshot))
  | .driving runId start => some ((), world.note runId (.driving index start))

/-! ## Calls -/

section

variable {σ α : Type}

/-- One operation. -/
def call (op : Op) : Act σ op.Reply := @Task.perform sig σ Failure op

/-- An awaited operation raises what it fails with. -/
def awaited (operation : Act σ (Except Failure α)) : Act σ α := do
  Task.ofExcept (← operation)

/-- `self.clock()`. -/
def clock : Act σ Seconds := call .clock

/-- `time.perf_counter()`. -/
def perfCounter : Act σ Seconds := call .perfCounter

/-- `uuid4()`, drawn for a purpose. -/
def uuid4 (draw : Draw) : Act σ String := call (.uuid4 draw)

/-- A choice of the event loop. -/
def choose : Act σ Nat := call .choose

/-- The writes that the graph has scheduled. -/
def scheduledCheckpoints : Act σ (List GraphCall) := call .scheduledCheckpoints

/-- An await that touches no run. -/
def auxiliaryIo : Act σ Unit := awaited (call .auxiliaryIo)

/-- A loop of the source. The schedule decides how often it goes round. -/
def repeatUntil (body : Act σ (Option α)) : Act σ α := do
  let rounds ← choose
  Task.iterate body (do (← (call .halt : Act σ Empty)).elim) rounds

/-- `_await_with_timeout`: without time left the awaitable is not started. When the
time runs out later is up to the schedule. -/
def awaitWithTimeout (timeoutSeconds : Seconds) (awaitable : Act σ α) : Act σ α :=
  if timeoutSeconds ≤ 0 then throw .timeout else awaitable

/-- `store.purge_expired`. -/
def purgeExpired (tenantId : String) (now : Seconds) : Act σ Unit :=
  awaited (call (.purgeExpired tenantId now))

/-- `store.lookup_keyed`. -/
def lookupKeyedRow (tenantId userId runId : String) : Act σ (Option DurableSnapshot) :=
  awaited (call (.lookupKeyed tenantId userId runId))

/-- `store.load`. -/
def loadRow (tenantId userId runId : String) : Act σ DurableSnapshot :=
  awaited (call (.load tenantId userId runId))

/-- `store.create` and `store.create_keyed`. -/
def insertRow (operation : Operation) : Act σ Bool := awaited (call (.insert operation))

/-- `store.owns`. -/
def ownsRow (snapshot : DurableSnapshot) (token : String) (allowUnclaimed : Bool) : Act σ Bool :=
  awaited (call (.owns snapshot token allowUnclaimed))

/-- `store.ledger`. -/
def ledgerRow (snapshot : DurableSnapshot) (callId : String) : Act σ ToolLedgerEntry :=
  awaited (call (.ledger snapshot callId))

/-- `store.acquire` and the other lease transactions. -/
def leaseRow (operation : Operation) : Act σ (Option DurableSnapshot) :=
  awaited (call (.lease operation))

/-- `store.save`. -/
def saveRow (site : Site) (previous snapshot : DurableSnapshot) (token : String) (now : Seconds)
    (entry : Option ToolLedgerEntry) : Act σ DurableSnapshot :=
  awaited (call (.save site previous snapshot token now entry))

/-- `store.cancel`. -/
def cancelRow (previous : DurableSnapshot) (now : Seconds) (ownership : Option String)
    (allowUnclaimed : Bool) : Act σ DurableSnapshot :=
  awaited (call (.cancel previous now ownership allowUnclaimed))

/-- The registry's definition of a tool. -/
def getDefinition (name : String) : Act σ ToolDefinition :=
  awaited (call (.getDefinition name))

/-- The evidence of the observations, read again. -/
def rehydrate : Act σ (List (String × String)) := awaited (call .rehydrate)

/-- The names the registry knows. -/
def registeredToolNames : Act σ (List String) := call .registeredToolNames

/-- A new `_DurableExecution`. -/
def newExecution (snapshot : DurableSnapshot) (token : String) : Act σ Nat :=
  call (.newExecution snapshot token)

/-- Read the shared execution. -/
def execution (handle : Nat) : Act σ SharedExecution := call (.execution handle)

/-- Assign `self.snapshot`. -/
def assignSnapshot (handle : Nat) (snapshot : DurableSnapshot) : Act σ Unit :=
  call (.assignSnapshot handle snapshot)

/-- Revoke the shared execution. -/
def revoke (handle : Nat) (error : Option DomainError) : Act σ Unit :=
  call (.revoke handle error)

/-- Raise an error whose branch the log records. -/
def raiseRecorded (code : String) (snapshot : DurableSnapshot) : Act σ α := do
  (call (.raised code snapshot) : Act σ Unit)
  throw (.durable code)

end

end AegisRag.Agent.Durable.Service

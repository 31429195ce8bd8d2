import AegisRag.Semantics.Json
import AegisRag.Semantics.Text

/-!
# Versioned business snapshots

The data of `packages/agent/durable/dto.py` and of the runtime records a
snapshot holds. Updates are `model_copy`, which skips validation, so
`DurableSnapshot.accepted` is a predicate to be established and no field.
Seconds are exact rationals; hashes, UUIDv5 and encoded lengths are a `Codec`.
-/

namespace AegisRag.Agent.Durable

open Semantics

/-- Seconds and wall-clock readings; every finite float is one of these. -/
abbrev Seconds := ℚ

/-- `DomainError` and its subclasses, by stable code and HTTP status. -/
structure DomainError where
  code : String
  statusCode : Nat
deriving DecidableEq

/-- `durable_error` with its default status. -/
def durableError (code : String) : DomainError := ⟨code, 409⟩

/-- What an awaited operation can raise. Cancellation is not caught by handlers
for ordinary exceptions. -/
inductive Failure where
  | domain (error : DomainError)
  | timeout
  | cancelled
  | other
deriving DecidableEq

namespace Failure

/-- Raised by `raise durable_error(code)`. -/
def durable (code : String) : Failure := .domain (durableError code)

/-- The store cannot be reached. -/
def storageUnavailable : Failure := .domain ⟨"DURABLE_STORAGE_UNAVAILABLE", 503⟩

/-- The store did not answer in time. -/
def storageTimeout : Failure := .domain ⟨"DURABLE_STORAGE_TIMEOUT", 503⟩

end Failure

/-- The statuses of a durable run. -/
inductive DurableStatus where
  | running
  | awaitingApproval
  | completed
  | failed
  | stopped
  | cancelled
  | interventionRequired
deriving DecidableEq

/-- Membership in `TERMINAL_STATUSES`. -/
def DurableStatus.terminal : DurableStatus → Bool
  | .running | .awaitingApproval => false
  | .completed | .failed | .stopped | .cancelled | .interventionRequired => true

/-- What an unfinished run does next. -/
inductive DurablePhase where
  | decision
  | tool
  | validation
  | done
deriving DecidableEq

/-- Which driver repeats the phases. -/
inductive Backend where
  | native
  | langgraph
deriving DecidableEq

/-- How a tool call ended. -/
inductive ToolInvocationStatus where
  | success
  | denied
  | failure
deriving DecidableEq

/-- The replay policy a ledger entry records. -/
inductive ReplayPolicy where
  | readOnly
  | never
deriving DecidableEq

/-- The replay policy a tool declares; unsupported is the default. -/
inductive DurableReplayPolicy where
  | unsupported
  | readOnly
  | never
deriving DecidableEq

/-- The statuses of a ledger entry. -/
inductive LedgerStatus where
  | started
  | completed
  | unknown
deriving DecidableEq

/-- The members of `ToolDefinition` that durable execution reads. -/
structure ToolDefinition where
  name : String
  permission : String
  inputSchema : Json
  outputSchema : Json
  durableReplayPolicy : DurableReplayPolicy
  requiresApproval : Bool
  implementationVersion : String

/-- The identity of a request. -/
structure AuthContext where
  tenantId : String
  userId : String
  permissions : List String

/-- A request with its identity. -/
structure RequestContext where
  requestId : String
  traceId : String
  auth : AuthContext

/-- `has_agent_run_permission`. -/
def AuthContext.hasAgentRunPermission (auth : AuthContext) : Bool :=
  auth.permissions.contains "agent:run"

/-- `has_tool_permission`: a blank requirement is never met. -/
def AuthContext.hasToolPermission (auth : AuthContext) (permission : String) : Bool :=
  let required := strip permission
  !required.isEmpty && auth.permissions.contains required

/-- The limits of a run. -/
structure AgentRunConfig where
  maxSteps : Nat
  maxToolCalls : Nat
  timeoutSeconds : Seconds
  repeatedActionThreshold : Nat
  inputText : String

/-- A reference to a retrieved chunk. -/
structure AgentCitationRef where
  documentId : String
  versionId : String
  chunkId : String
  source : Option String
  pageStart : Option Nat
  pageEnd : Option Nat
  toolName : Option String
  observationIndex : Option Nat

/-- What a decision asks for. -/
inductive AgentActionType where
  | toolCall
  | finalAnswer
deriving DecidableEq

/-- A decision of the model. -/
structure AgentStepDecision where
  action : AgentActionType
  toolName : Option String
  arguments : List (String × Json)
  finalAnswer : Option String
  finalCitations : List AgentCitationRef

/-- `prompt_context` is excluded from serialization and from this record. -/
structure AgentObservationSummary where
  toolName : String
  status : ToolInvocationStatus
  outputKeys : List String
  citationRefs : List AgentCitationRef
  errorCode : Option String
  resultStatus : Option String
  latencyMs : Seconds
  metadata : Json
  outputSummary : Json

/-- The statuses of a run's result. -/
inductive AgentRunStatus where
  | completed
  | stopped
  | failed
deriving DecidableEq

/-- `result.status.value` read as a durable status. -/
def AgentRunStatus.durable : AgentRunStatus → DurableStatus
  | .completed => .completed
  | .stopped => .stopped
  | .failed => .failed

/-- Why a run ended. -/
inductive AgentTerminationReason where
  | finalAnswer
  | finalAnswerValidationFailed
  | maxStepsReached
  | maxToolCallsReached
  | agentTimeout
  | repeatedActionDetected
  | agentStepperFailed
  | agentToolFailed
deriving DecidableEq

/-- The text of a reason. -/
def AgentTerminationReason.value : AgentTerminationReason → String
  | .finalAnswer => "FINAL_ANSWER"
  | .finalAnswerValidationFailed => "FINAL_ANSWER_VALIDATION_FAILED"
  | .maxStepsReached => "MAX_STEPS_REACHED"
  | .maxToolCallsReached => "MAX_TOOL_CALLS_REACHED"
  | .agentTimeout => "AGENT_TIMEOUT"
  | .repeatedActionDetected => "REPEATED_ACTION_DETECTED"
  | .agentStepperFailed => "AGENT_STEPPER_FAILED"
  | .agentToolFailed => "AGENT_TOOL_FAILED"

/-- `AgentRunResult` without its request identity and free-form metadata. -/
structure AgentRunResult where
  status : AgentRunStatus
  terminationReason : AgentTerminationReason
  stepsUsed : Nat
  toolCallsUsed : Nat
  finalAnswer : Option String
  finalCitations : List AgentCitationRef
  errorCode : Option String
  observations : List AgentObservationSummary
  latencyMs : Seconds

/-- The command fingerprint a keyed run stores. -/
structure DurableStartup where
  commandFingerprint : String
deriving DecidableEq

/-- An approval that a run waits for. -/
structure ApprovalRequest where
  approvalId : String
  toolName : String
  arguments : List (String × Json)
  actionDigest : String
  definitionDigest : String
  expiresAt : Seconds

/-- Active-time accounting of a run that opted in to it. -/
structure DurableActiveBudget where
  secondsUsed : Seconds
  activeSinceAt : Option Seconds
  approvalTimeoutSeconds : Seconds

/-- Action hashes with the number of times each was dispatched. -/
abbrev RepeatedCounts := List (String × Nat)

/-- The business state of a run. -/
structure DurableSnapshot where
  runId : String
  tenantId : String
  userId : String
  requestId : String
  traceId : String
  backend : Backend
  startup : Option DurableStartup
  activeBudget : Option DurableActiveBudget
  /-- Present exactly for background runs. -/
  dispatch : Bool
  revision : Nat
  config : AgentRunConfig
  status : DurableStatus
  phase : DurablePhase
  startedAt : Seconds
  deadlineAt : Seconds
  lastObservedAt : Seconds
  expiresAt : Seconds
  stepsUsed : Nat
  toolCallsUsed : Nat
  repeatedCounts : RepeatedCounts
  observations : List AgentObservationSummary
  evidenceFingerprints : List (String × String)
  decision : Option AgentStepDecision
  approvalTools : List String
  approval : Option ApprovalRequest
  approvedActionDigest : Option String
  approvedDefinitionDigest : Option String
  pendingCallId : Option String
  decisionInflight : Bool
  result : Option AgentRunResult
  errorCode : Option String

/-- The record of a dispatched call. -/
structure ToolLedgerEntry where
  callId : String
  toolName : String
  actionDigest : String
  replayPolicy : ReplayPolicy
  status : LedgerStatus
  observation : Option AgentObservationSummary

/-! ## Validation -/

/-- A character an identifier starts with. -/
private def identifierStart (char : Char) : Bool := char.isAlphanum

/-- A character an identifier goes on with. -/
private def identifierRest (char : Char) : Bool :=
  char.isAlphanum || char == '_' || char == '.' || char == ':' || char == '-'

/-- `_SAFE_CITATION_IDENTIFIER_PATTERN`. -/
def safeCitationIdentifier (value : String) : Bool :=
  match value.toList with
  | [] => false
  | first :: rest => identifierStart first && rest.all identifierRest && rest.length ≤ 127

/-- `_SAFE_TOOL_NAME_PATTERN` and `_TOOL_NAME_PATTERN`. -/
def isToolName (value : String) : Bool :=
  match value.toList with
  | [] => false
  | first :: rest =>
    first.isLower && rest.all fun char => char.isLower || char.isDigit || char == '_'

/-- `_SUMMARY_VALUE_SECRET_MARKERS`. -/
def secretMarkers : List String :=
  ["api_key", "authorization:", "bearer ", "password=", "secret=", "token="]

/-- `_looks_like_sensitive_value`. -/
def looksLikeSensitiveValue (value : String) : Bool :=
  secretMarkers.any fun marker => marker.toList <:+: lower value

/-- `_looks_like_absolute_path`. -/
def looksLikeAbsolutePath (value : String) : Bool :=
  match (strip value).toList with
  | '/' :: _ => true
  | '\\' :: '\\' :: _ => true
  | drive :: ':' :: separator :: _ => drive.isAlpha && (separator == '\\' || separator == '/')
  | _ => false

/-- `_is_safe_citation_identifier`. -/
def isSafeCitationIdentifier (value : String) : Bool :=
  safeCitationIdentifier value && !looksLikeAbsolutePath value && !looksLikeSensitiveValue value

/-- What the validators of `AgentCitationRef` leave. -/
def AgentCitationRef.accepted (citation : AgentCitationRef) : Bool :=
  isSafeCitationIdentifier citation.documentId && isSafeCitationIdentifier citation.versionId &&
    isSafeCitationIdentifier citation.chunkId &&
    citation.source.all (fun source => source ≠ "" && source.length ≤ 200 &&
      !looksLikeAbsolutePath source && !looksLikeSensitiveValue source) &&
    citation.toolName.all isToolName &&
    (citation.pageStart.all (1 ≤ ·) && citation.pageEnd.all (1 ≤ ·) &&
      citation.pageStart.all fun first => citation.pageEnd.all fun last => first ≤ last)

/-- `_decision_must_match_action`. -/
def AgentStepDecision.accepted (decision : AgentStepDecision) : Bool :=
  decision.finalCitations.all AgentCitationRef.accepted &&
    match decision.action with
    | .toolCall =>
      decision.toolName.any (fun name => !(strip name).isEmpty) &&
        decision.finalAnswer.isNone && decision.finalCitations.isEmpty
    | .finalAnswer =>
      decision.finalAnswer.isSome && decision.toolName.isNone && decision.arguments.isEmpty

/-- The validators of an observation. -/
def AgentObservationSummary.accepted (observation : AgentObservationSummary) : Bool :=
  0 ≤ observation.latencyMs && observation.citationRefs.all AgentCitationRef.accepted

/-- The validators of a result. -/
def AgentRunResult.accepted (result : AgentRunResult) : Bool :=
  0 ≤ result.latencyMs && result.finalCitations.all AgentCitationRef.accepted &&
    result.observations.all AgentObservationSummary.accepted

/-- The bounds of the limits. -/
def AgentRunConfig.accepted (config : AgentRunConfig) : Bool :=
  0 < config.maxSteps && 0 < config.timeoutSeconds && 0 < config.repeatedActionThreshold

/-- The validators of a budget. -/
def DurableActiveBudget.accepted (budget : DurableActiveBudget) : Bool :=
  0 ≤ budget.secondsUsed && 0 < budget.approvalTimeoutSeconds &&
    budget.approvalTimeoutSeconds ≤ 604800

/-- The field bounds of `DurableSnapshot` and of the records inside it. -/
def DurableSnapshot.fieldsAccepted (snapshot : DurableSnapshot) : Bool :=
  snapshot.config.accepted && snapshot.activeBudget.all DurableActiveBudget.accepted &&
    snapshot.stepsUsed ≤ 20 && snapshot.toolCallsUsed ≤ 20 &&
    snapshot.observations.length ≤ 20 &&
    snapshot.observations.all AgentObservationSummary.accepted &&
    snapshot.decision.all AgentStepDecision.accepted &&
    snapshot.result.all AgentRunResult.accepted

/-- The active window of `bounded_snapshot`. -/
def DurableSnapshot.windowAccepted (snapshot : DurableSnapshot) : Bool :=
  snapshot.activeBudget.all fun budget =>
    budget.secondsUsed ≤ snapshot.config.timeoutSeconds &&
      budget.activeSinceAt.all fun since =>
        snapshot.startedAt ≤ since && snapshot.status == .running

/-- `bounded_snapshot`. -/
def DurableSnapshot.boundedSnapshot (snapshot : DurableSnapshot) : Bool :=
  snapshot.config.maxSteps ≤ 20 && snapshot.config.maxToolCalls ≤ 20 &&
    snapshot.config.timeoutSeconds ≤ (if snapshot.activeBudget.isSome then 3600 else 120) &&
    snapshot.windowAccepted &&
    snapshot.config.inputText.length ≤ 4000 &&
    snapshot.startedAt ≤ snapshot.deadlineAt && snapshot.deadlineAt ≤ snapshot.expiresAt &&
    snapshot.repeatedCounts.length ≤ 20 &&
    snapshot.repeatedCounts.all fun (_, count) => 1 ≤ count

/-- What `DurableSnapshot.model_validate` accepts. -/
def DurableSnapshot.accepted (snapshot : DurableSnapshot) : Bool :=
  snapshot.fieldsAccepted && snapshot.boundedSnapshot

/-! ## Encodings and digests -/

/-- The encodings the service takes from its libraries. -/
structure Codec where
  /-- Hexadecimal SHA-256 of the compact dump with sorted keys. -/
  sha256 : Json → String
  /-- UUIDv5 of that dump in the start namespace. -/
  uuid5 : Json → String
  /-- The version a UUID's text carries. -/
  uuidVersion : String → Nat
  uuid5_version : ∀ name, uuidVersion (uuid5 name) = 5
  /-- Bytes of a snapshot's persisted payload. -/
  snapshotBytes : DurableSnapshot → Nat
  /-- Bytes of a dumped argument object. -/
  jsonBytes : Json → Nat

/-- `MAX_SNAPSHOT_BYTES`. -/
def maxSnapshotBytes : Nat := 262144

/-- `MAX_ARGUMENT_BYTES`. -/
def maxArgumentBytes : Nat := 16384

/-- `persisted`: the payload a row stores, unless it is too large. -/
def Codec.persisted (codec : Codec) (snapshot : DurableSnapshot) : Except Failure DurableSnapshot :=
  if maxSnapshotBytes < codec.snapshotBytes snapshot then
    .error (.domain ⟨"DURABLE_SNAPSHOT_TOO_LARGE", 422⟩)
  else .ok snapshot

/-- The dump of a citation. -/
def AgentCitationRef.toJson (citation : AgentCitationRef) : Json :=
  .obj [
    ("chunk_id", .str citation.chunkId),
    ("document_id", .str citation.documentId),
    ("observation_index", .ofOption .ofNat citation.observationIndex),
    ("page_end", .ofOption .ofNat citation.pageEnd),
    ("page_start", .ofOption .ofNat citation.pageStart),
    ("source", .ofOption .str citation.source),
    ("tool_name", .ofOption .str citation.toolName),
    ("version_id", .str citation.versionId)]

/-- The text of an action type. -/
def AgentActionType.value : AgentActionType → String
  | .toolCall => "tool_call"
  | .finalAnswer => "final_answer"

/-- The dump of a decision. -/
def AgentStepDecision.toJson (decision : AgentStepDecision) : Json :=
  .obj [
    ("action", .str decision.action.value),
    ("arguments", .obj decision.arguments),
    ("final_answer", .ofOption .str decision.finalAnswer),
    ("final_citations", .arr (decision.finalCitations.map AgentCitationRef.toJson)),
    ("tool_name", .ofOption .str decision.toolName)]

/-- The text of a replay policy. -/
def DurableReplayPolicy.value : DurableReplayPolicy → String
  | .unsupported => "unsupported"
  | .readOnly => "read_only"
  | .never => "never"

/-- `decision_digest`. -/
def Codec.decisionDigest (codec : Codec) (decision : AgentStepDecision) : String :=
  codec.sha256 decision.toJson

/-- `_definition_digest`. -/
def Codec.definitionDigest (codec : Codec) (definition : ToolDefinition) : String :=
  codec.sha256 (.obj [
    ("implementation_version", .str definition.implementationVersion),
    ("input_schema", definition.inputSchema),
    ("name", .str definition.name),
    ("output_schema", definition.outputSchema),
    ("permission", .str definition.permission),
    ("replay_policy", .str definition.durableReplayPolicy.value),
    ("requires_approval", .bool definition.requiresApproval)])

/-- `RepeatedActionDetector._action_hash`: the first 32 characters of the digest. -/
def Codec.actionHash (codec : Codec) (toolName : String) (arguments : List (String × Json)) :
    String :=
  String.ofList ((codec.sha256 (.obj [
    ("arguments", .obj arguments), ("tool_name", .str toolName)])).toList.take 32)

/-- `keyed_run_id`. -/
def Codec.keyedRunId (codec : Codec) (tenantId userId key : String) : String :=
  codec.uuid5 (.arr [.str tenantId, .str userId, .str key])

/-- `_tool_call_event_id`, for the run id every durable runtime is built with. -/
def toolCallEventId (agentRunId : String) (stepsUsed toolCallsUsed : Nat) : String :=
  agentRunId ++ "-step-" ++ toString (max stepsUsed 1) ++ "-tool-" ++ toString (max toolCallsUsed 1)

/-! ## Commands -/

/-- Whether waiting counts against the budget. -/
inductive BudgetMode where
  | wallClock
  | active
deriving DecidableEq

/-- Whether the request waits for the run. -/
inductive ExecutionMode where
  | inline
  | background
deriving DecidableEq

/-- What a start is asked for. -/
structure DurableStartCommand where
  input : String
  maxSteps : Option Nat := none
  maxToolCalls : Option Nat := none
  timeoutSeconds : Option Seconds := none
  metadata : Json := .obj []
  idempotencyKey : Option String := none
  approvalTools : List String := []
  budgetMode : BudgetMode := .wallClock
  executionMode : ExecutionMode := .inline
  approvalTimeoutSeconds : Option Seconds := none

/-- `approval_id` and `approve` are supplied together. -/
structure DurableResumeCommand where
  expectedRevision : Nat
  approvalId : Option String
  approve : Option Bool
  approvalIsExplicit : approvalId.isNone = approve.isNone

/-- The text of a budget mode. -/
def BudgetMode.value : BudgetMode → String
  | .wallClock => "wall_clock"
  | .active => "active"

/-- The text of an execution mode. -/
def ExecutionMode.value : ExecutionMode → String
  | .inline => "inline"
  | .background => "background"

/-- `start_command_fingerprint`: execution options enter only when one departs
from its default, and then sort before the other members. -/
def Codec.startCommandFingerprint (codec : Codec) (command : DurableStartCommand) : String :=
  let options : List (String × Json) :=
    if command.budgetMode ≠ .wallClock ∨ command.executionMode ≠ .inline ∨
        command.approvalTimeoutSeconds.isSome then
      [("execution_options", .obj [
        ("approval_timeout_seconds", .ofOption .float command.approvalTimeoutSeconds),
        ("budget_mode", .str command.budgetMode.value),
        ("execution_mode", .str command.executionMode.value)])]
    else []
  codec.sha256 (.obj (
    [("approval_tools", .arr (command.approvalTools.map .str))] ++ options ++
    [("input", .str command.input),
     ("max_steps", .ofOption .ofNat command.maxSteps),
     ("max_tool_calls", .ofOption .ofNat command.maxToolCalls),
     ("metadata", command.metadata),
     ("protocol_version", .int 1),
     ("timeout_seconds", .ofOption .float command.timeoutSeconds)]))

/-! ## New runs -/

theorem leaseSeconds_default : (0 : Seconds) < 30 ∧ (30 : Seconds) ≤ 60 := by norm_num

theorem retentionSeconds_default : (120 : Seconds) ≤ 86400 := by norm_num

/-- The constructor arguments of `DurableAgentService`, with the bounds it checks. -/
structure DurableAgentService where
  backend : Backend := .native
  defaultMaxSteps : Nat := 8
  defaultMaxToolCalls : Nat := 6
  defaultTimeoutSeconds : Seconds := 120
  repeatedActionThreshold : Nat := 3
  retentionSeconds : Seconds := 86400
  leaseSeconds : Seconds := 30
  /-- Whether a context revalidator is configured. -/
  contextRevalidator : Bool := false
  backgroundEnabled : Bool := false
  leaseBounds : 0 < leaseSeconds ∧ leaseSeconds ≤ 60 := by
    first | exact leaseSeconds_default | norm_num
  retentionBound : 120 ≤ retentionSeconds := by first | exact retentionSeconds_default | norm_num

/-- The run configuration `start` resolves; a zero step or time budget is falsy. -/
def DurableAgentService.runConfig (service : DurableAgentService)
    (command : DurableStartCommand) : AgentRunConfig where
  maxSteps := (command.maxSteps.filter (· ≠ 0)).getD service.defaultMaxSteps
  maxToolCalls := command.maxToolCalls.getD service.defaultMaxToolCalls
  timeoutSeconds := (command.timeoutSeconds.filter (· ≠ 0)).getD service.defaultTimeoutSeconds
  repeatedActionThreshold := service.repeatedActionThreshold
  inputText := command.input

/-- The snapshot `start` builds. -/
def DurableAgentService.newSnapshot (service : DurableAgentService) (context : RequestContext)
    (command : DurableStartCommand) (runId : String) (startup : Option DurableStartup)
    (now : Seconds) : DurableSnapshot where
  runId
  tenantId := context.auth.tenantId
  userId := context.auth.userId
  requestId := context.requestId
  traceId := context.traceId
  backend := service.backend
  startup
  activeBudget :=
    if command.budgetMode = .active then
      some {
        secondsUsed := 0
        activeSinceAt := if command.executionMode = .inline then some now else none
        approvalTimeoutSeconds :=
          (command.approvalTimeoutSeconds.filter (· ≠ 0)).getD 3600 }
    else none
  dispatch := command.executionMode = .background
  revision := 0
  config := service.runConfig command
  status := .running
  phase := .decision
  startedAt := now
  deadlineAt := now + (service.runConfig command).timeoutSeconds
  lastObservedAt := now
  expiresAt := now + service.retentionSeconds
  stepsUsed := 0
  toolCallsUsed := 0
  repeatedCounts := []
  observations := []
  evidenceFingerprints := []
  decision := none
  approvalTools := command.approvalTools
  approval := none
  approvedActionDigest := none
  approvedDefinitionDigest := none
  pendingCallId := none
  decisionInflight := false
  result := none
  errorCode := none

/-! ## Responses -/

/-- What a caller is told of a run. -/
structure DurableRunResponse where
  runId : String
  status : DurableStatus
  revision : Nat
  backend : Backend
  stepsUsed : Nat
  toolCallsUsed : Nat
  deadlineAt : Seconds
  budgetMode : BudgetMode
  executionMode : ExecutionMode
  activeSecondsUsed : Option Seconds
  activeSecondsRemaining : Option Seconds
  approval : Option ApprovalRequest
  finalAnswer : Option String
  finalCitations : List AgentCitationRef
  errorCode : Option String
  terminationReason : Option String

/-- `from_snapshot`: answers are shown for completed runs only, and an empty
error code is falsy. -/
def DurableRunResponse.fromSnapshot (value : DurableSnapshot) : DurableRunResponse where
  runId := value.runId
  status := value.status
  revision := value.revision
  backend := value.backend
  stepsUsed := value.stepsUsed
  toolCallsUsed := value.toolCallsUsed
  deadlineAt := value.deadlineAt
  budgetMode := if value.activeBudget.isSome then .active else .wallClock
  executionMode := if value.dispatch then .background else .inline
  activeSecondsUsed := value.activeBudget.map (·.secondsUsed)
  activeSecondsRemaining := value.activeBudget.map fun budget =>
    max (value.config.timeoutSeconds - budget.secondsUsed) 0
  approval := if value.status = .awaitingApproval then value.approval else none
  finalAnswer := if value.status = .completed then value.result.bind (·.finalAnswer) else none
  finalCitations :=
    if value.status = .completed then (value.result.map (·.finalCitations)).getD [] else []
  errorCode := value.errorCode.filter (· ≠ "") <|> value.result.bind (·.errorCode)
  terminationReason :=
    match value.result with
    | some result => some result.terminationReason.value
    | none => value.errorCode

/-! ## Private arguments -/

/-- Substring test on characters. -/
def occursIn (needle : List Char) : List Char → Bool
  | [] => needle.isEmpty
  | char :: rest => needle.isPrefixOf (char :: rest) || occursIn needle rest

/-- The credential-shaped key parts `validate_private_arguments` refuses. -/
def forbiddenKeyParts : List String :=
  ["password", "secret", "token", "access_token", "api_key", "authorization", "cookie",
    "credential", "private_key"]

/-- The credential-shaped texts `validate_private_arguments` refuses. -/
def forbiddenMarkers : List String :=
  ["-----begin", "bearer ", "password=", "api_key=", "secret=", "access_token="]

/-- Whether a key names a secret. -/
def sensitiveKey (key : String) : Bool :=
  let normalized := (lower key).map fun char => if char = '-' then '_' else char
  forbiddenKeyParts.any fun part => occursIn part.toList normalized

/-- Whether a text looks like a secret. -/
def sensitiveText (value : String) : Bool :=
  forbiddenMarkers.any fun marker => occursIn marker.toList (lower value)

mutual

/-- Whether a visited value is credential-shaped. -/
def Json.sensitive : Json → Bool
  | .str value => sensitiveText value
  | .arr items => Json.sensitiveItems items
  | .obj members => Json.sensitiveMembers members
  | .null | .bool _ | .int _ | .float _ => false

/-- Whether a list holds a secret. -/
def Json.sensitiveItems : List Json → Bool
  | [] => false
  | item :: rest => Json.sensitive item || Json.sensitiveItems rest

/-- Whether an object holds a secret. -/
def Json.sensitiveMembers : List (String × Json) → Bool
  | [] => false
  | (key, item) :: rest =>
    sensitiveKey key || Json.sensitive item || Json.sensitiveMembers rest

end

/-- `validate_private_arguments`. -/
def Codec.validatePrivateArguments (codec : Codec) (arguments : List (String × Json)) :
    Except Failure Unit :=
  if Json.sensitiveMembers arguments then
    .error (.domain ⟨"DURABLE_SENSITIVE_ARGUMENT", 422⟩)
  else if maxArgumentBytes < codec.jsonBytes (.obj arguments) then
    .error (.domain ⟨"DURABLE_ARGUMENTS_TOO_LARGE", 422⟩)
  else .ok ()

/-! ## Repeated actions -/

namespace RepeatedCounts

/-- The recorded count of an action, zero when it was never dispatched. -/
def count (counts : RepeatedCounts) (key : String) : Nat := (counts.lookup key).getD 0

/-- Add one to an action's count, as `observe` does. -/
def bump : RepeatedCounts → String → RepeatedCounts
  | [], key => [(key, 1)]
  | (other, value) :: rest, key =>
    if key = other then (other, value + 1) :: rest else (other, value) :: bump rest key

theorem count_bump (counts : RepeatedCounts) (key other : String) :
    count (bump counts key) other = count counts other + if other = key then 1 else 0 := by
  induction counts with
  | nil =>
    by_cases same : other = key
    · simp [bump, count, List.lookup, same]
    · have differs : (other == key) = false := by simpa using same
      simp [bump, count, List.lookup, differs, same]
  | cons entry rest ih =>
    obtain ⟨first, _⟩ := entry
    simp only [count] at ih
    by_cases isKey : key = first
    · subst isKey
      by_cases same : other = key
      · simp [bump, count, List.lookup, same]
      · have differs : (other == key) = false := by simpa using same
        simp [bump, count, List.lookup, differs, same]
    · by_cases isFirst : other = first
      · subst isFirst
        have differs : ¬ other = key := fun equal => isKey equal.symm
        simp [bump, count, List.lookup, isKey, differs]
      · have differs : (other == first) = false := by simpa using isFirst
        simp [bump, count, List.lookup, isKey, differs, ih]

theorem count_le_bump (counts : RepeatedCounts) (key other : String) :
    count counts other ≤ count (bump counts key) other := by
  rw [count_bump]
  omega

theorem length_bump_le (counts : RepeatedCounts) (key : String) :
    (bump counts key).length ≤ counts.length + 1 := by
  induction counts with
  | nil => simp [bump]
  | cons entry rest ih =>
    simp only [bump]
    split
    · simp
    · simpa using ih

theorem bump_positive {counts : RepeatedCounts} (key : String)
    (positive : counts.all (fun entry => 1 ≤ entry.2) = true) :
    (bump counts key).all (fun entry => 1 ≤ entry.2) = true := by
  induction counts with
  | nil => simp [bump]
  | cons entry rest ih =>
    simp only [List.all_cons, Bool.and_eq_true] at positive
    simp only [bump]
    split
    · simp only [List.all_cons, Bool.and_eq_true, decide_eq_true_eq]
      exact ⟨by omega, positive.2⟩
    · simp only [List.all_cons, Bool.and_eq_true]
      exact ⟨positive.1, ih positive.2⟩

end RepeatedCounts

end AegisRag.Agent.Durable

import AegisRag.Semantics.Method
import AegisRag.Agent.RunRepository
import AegisRag.Agent.Observation

/-!
# Tool calls with a service token

`ServiceTokenToolBridge.execute` of `packages/agent/service_token_bridge.py`. The call
commits a run in status running, executes one tool and then updates the run. How each
await ends is a parameter, and so are `str` of values and `float` of texts. Audit records
are left out but for the cancellations that leave through them.
-/

namespace AegisRag.Agent.ServiceTokenBridge

open Semantics Durable Semantics.Method

/-! ## Requests -/

inductive ToolChoiceMode where
  | auto
  | none
  | required
  | tool
deriving DecidableEq

structure ToolChoice where
  mode : ToolChoiceMode
  toolName : Option String

/-- The arguments of `execute` that it acts on; a candidate is its name. -/
structure BridgeRequest where
  context : RequestContext
  latestUserMessage : String
  sessionId : Option String
  candidates : List String
  toolChoice : ToolChoice

/-- `_select_tool_name`. -/
def selectToolName (candidates : List String) (toolChoice : ToolChoice) : Except Raised String :=
  match toolChoice.mode, toolChoice.toolName, candidates with
  | .tool, some toolName, names =>
    if toolName ∈ names then .ok toolName
    else .error (.domain "SERVICE_TOKEN_TOOL_SELECTION_UNSUPPORTED")
  | .auto, _, [name] => .ok name
  | .required, _, [name] => .ok name
  | _, _, _ => .error (.domain "SERVICE_TOKEN_TOOL_SELECTION_UNSUPPORTED")

/-- `_tool_arguments`. -/
def toolArguments (toolName latestUserMessage : String) : Members :=
  if toolName = "rag_search" then [("query", .str latestUserMessage)]
  else if toolName = "calculator" then [("expression", .str latestUserMessage)]
  else if toolName = "file_reader" then [("path", .str latestUserMessage)]
  else [("input", .str latestUserMessage)]

/-! ## The execution record -/

/-- The exceptions that converting one search result can raise. -/
inductive ConversionError where
  | keyError
  | typeError
  | valueError
  | overflowError
deriving DecidableEq

/-- The conversions of Python that the bridge uses. -/
structure Conversions where
  /-- `str`; it refuses integers of too many digits. -/
  str : Json → Option String
  Score : Type
  ofNumber : ℚ → Score
  /-- `float` of a text. -/
  ofText : String → Option Score

variable (conversions : Conversions)

structure ToolCitation where
  documentId : String
  versionId : String
  chunkId : String
  sourceDisplayName : String
  sourceType : String
  pageStart : Option ℤ
  pageEnd : Option ℤ
  titlePath : List String
  retrievalMethod : String
  score : conversions.Score

/-- `str(value)`. -/
def strOf (value : Json) : Except ConversionError String :=
  match conversions.str value with
  | some text => .ok text
  | none => .error .valueError

/-- `str(item[key])`. -/
def strAt (item : Members) (key : String) : Except ConversionError String :=
  match item.lookup key with
  | some value => strOf conversions value
  | none => .error .keyError

/-- The least integer that rounds beyond every double. -/
def floatLimit : ℕ := 2 ^ 1024 - 2 ^ 970

/-- `float(item["score"])`. -/
def scoreOf (item : Members) : Except ConversionError conversions.Score :=
  match item.lookup "score" with
  | some (.int value) =>
    if value.natAbs < floatLimit then .ok (conversions.ofNumber value) else .error .overflowError
  | some (.float value) => .ok (conversions.ofNumber value)
  | some (.bool value) => .ok (conversions.ofNumber (if value then 1 else 0))
  | some (.str text) =>
    match conversions.ofText text with
    | some score => .ok score
    | none => .error .valueError
  | some _ => .error .typeError
  | none => .error .keyError

/-- What iterating over `item.get("title_path", ())` gives. -/
def titleParts (item : Members) : Except ConversionError (List Json) :=
  match item.lookup "title_path" with
  | none => .ok []
  | some (.arr parts) => .ok parts
  | some (.str text) => .ok (text.toList.map fun char => .str (String.ofList [char]))
  | some (.obj members) => .ok (members.map fun member => .str member.1)
  | some _ => .error .typeError

/-- The citation of one search result, its fields converted in the order of the source. -/
def toolCitationOf (item : Members) : Except ConversionError (ToolCitation conversions) := do
  let documentId ← strAt conversions item "document_id"
  let versionId ← strAt conversions item "version_id"
  let chunkId ← strAt conversions item "chunk_id"
  let sourceDisplayName ← strAt conversions item "source_display_name"
  let sourceType ← strAt conversions item "source_type"
  let parts ← (← titleParts item).mapM (strOf conversions)
  let retrievalMethod ← strAt conversions item "retrieval_method"
  let score ← scoreOf conversions item
  pure
    { documentId := documentId
      versionId := versionId
      chunkId := chunkId
      sourceDisplayName := sourceDisplayName
      sourceType := sourceType
      pageStart := pageOf item "page_start"
      pageEnd := pageOf item "page_end"
      titlePath := parts.filter fun part => strip part ≠ ""
      retrievalMethod := retrievalMethod
      score := score }

/-- The loop of `_citations_from_result`: it skips an item that raises any of three
exceptions, and an overflow is none of them. -/
def citationsOf : List Json → Except Raised (List (ToolCitation conversions))
  | [] => .ok []
  | .obj item :: rest =>
    match toolCitationOf conversions item with
    | .ok citation => (citationsOf rest).map (citation :: ·)
    | .error .overflowError => .error .other
    | .error _ => citationsOf rest
  | _ :: rest => citationsOf rest

/-- `_citations_from_result`. -/
def citationsFromResult (result : ToolExecutionResult) :
    Except Raised (List (ToolCitation conversions)) :=
  match result.output with
  | none => .ok []
  | some output =>
    if result.toolName = "rag_search" then
      match output.lookup "results" with
      | some (.arr items) => citationsOf conversions items
      | _ => .ok []
    else
      .ok []

/-- `_error_code_from_result`. -/
def errorCodeFromResult (result : ToolExecutionResult) : Option String := do
  let errorCode ← textOf (← result.output) "error_code"
  if strip errorCode = "" then none else some (strip errorCode)

/-- `_assistant_text`. -/
def assistantText (toolName : String) (result : ToolExecutionResult)
    (citations : List (ToolCitation conversions)) : String :=
  if toolName = "rag_search" then
    match citations with
    | [] => "rag_search returned 0 authorized citation-safe result(s)."
    | first :: _ =>
      "rag_search returned " ++ toString citations.length ++
        " authorized citation-safe result(s) from " ++ first.sourceDisplayName ++ "."
  else if toolName = "calculator" then
    match (result.output.bind (textOf · "result")).filter (·.length ≤ 64) with
    | some value => "calculator completed with safe result " ++ value ++ "."
    | none => "calculator completed."
  else if toolName = "file_reader" then
    "file_reader completed with an allowlisted safe summary."
  else
    toolName ++ " completed with a safe observation summary."

/-- `ServiceTokenToolBridgeExecution`; its metadata repeat its fields. -/
structure Execution where
  requestId : String
  traceId : String
  sessionId : String
  assistantText : String
  citations : List (ToolCitation conversions)
  agentRunId : String
  toolCallId : String
  toolName : String
  isSuccess : Bool
  latencyMs : Seconds
  errorCode : Option String

/-- `_build_execution`. -/
def buildExecution (request : BridgeRequest) (agentRunId toolCallId toolName : String)
    (result : ToolExecutionResult) : Except Raised (Execution conversions) := do
  let citations ← citationsFromResult conversions result
  pure
    { requestId := request.context.requestId
      traceId := request.context.traceId
      sessionId := ((request.sessionId.filter (· ≠ "")).getD (request.context.requestId ++ "-tool"))
      assistantText := assistantText conversions toolName result citations
      citations := citations
      agentRunId := agentRunId
      toolCallId := toolCallId
      toolName := toolName
      isSuccess := result.status = .success
      latencyMs := result.latencyMs
      errorCode := errorCodeFromResult result }

/-! ## The call -/

/-- How each await of one call ends; a lookup returns the ids of the tool calls, oldest
first. -/
structure Awaits where
  runId : String
  deniedAudit : Except Raised Unit
  createRun : RepositoryCall
  initialCommit : RepositoryCall
  execute : String → Members → Except Raised ToolExecutionResult
  elapsedMs : Seconds
  listByAgentRun : Except Raised (List String)
  updateRunResult : RepositoryCall
  commit : RepositoryCall
  audit : Except Raised Unit
  rollback : RepositoryCall

/-- Await a repository call. -/
def awaitCall (call : RepositoryCall) (effect : RunSession → RunSession) :
    Method RunSession Raised Unit := do
  match call with
  | .returned => modify effect
  | .raised failure applied =>
    if applied then modify effect
    throw failure

/-- Await `update_run_result`; without a row it raises by itself. -/
def awaitUpdate (call : RepositoryCall) (request : BridgeRequest) (runId : String)
    (update : AgentRunUpdate) : Method RunSession Raised Unit := do
  let auth := request.context.auth
  match (← get).update auth.tenantId auth.userId runId update with
  | some updated => awaitCall call fun _ => updated
  | none => throw .storageFailed

/-- `_record_bridge_audit` logs every exception and lets a cancellation through. -/
def recordBridgeAudit (ending : Except Raised Unit) : Method RunSession Raised Unit :=
  match ending with
  | .error .cancelled => throw .cancelled
  | _ => pure ()

/-- What the call creates. -/
def runRecord (context : RequestContext) : AgentRunCreate where
  requestId := context.requestId
  traceId := context.traceId
  tenantId := context.auth.tenantId
  userId := context.auth.userId
  maxSteps := 1
  maxToolCalls := 1
  timeoutSeconds := 30

def stoppedUpdate (latencyMs : Seconds) : AgentRunUpdate where
  status := .stopped
  terminationReason := "SERVICE_TOKEN_TOOL_NOT_AVAILABLE"
  stepsUsed := 1
  toolCallsUsed := 1
  errorCode := some "SERVICE_TOKEN_TOOL_NOT_AVAILABLE"
  latencyMs := latencyMs

def executedUpdate (execution : Execution conversions) : AgentRunUpdate where
  status := if execution.isSuccess then .completed else .failed
  terminationReason := "OPENWEBUI_TOOL_EXECUTED"
  stepsUsed := 1
  toolCallsUsed := 1
  errorCode := execution.errorCode
  latencyMs := execution.latencyMs

/-- `_latest_tool_call_id`, from the ids that the lookup returned. -/
def latestToolCallId (agentRunId : String) (ids : List String) : String :=
  ids.getLast?.getD (agentRunId ++ "-tool-call")

/-- The body of the `try` after the first commit. -/
def executeTool (awaits : Awaits) (request : BridgeRequest) (toolName : String) :
    Method RunSession Raised (Execution conversions) := do
  match awaits.execute toolName (toolArguments toolName request.latestUserMessage) with
  | .error (.agentTool _) =>
    awaitUpdate awaits.updateRunResult request awaits.runId (stoppedUpdate awaits.elapsedMs)
    awaitCall awaits.commit .commit
    recordBridgeAudit awaits.audit
    throw (.domain "SERVICE_TOKEN_TOOL_NOT_AVAILABLE")
  | .error failure => throw failure
  | .ok result =>
    let ids ← .ofExcept awaits.listByAgentRun
    let toolCallId := latestToolCallId awaits.runId ids
    let execution ←
      .ofExcept (buildExecution conversions request awaits.runId toolCallId toolName result)
    awaitUpdate awaits.updateRunResult request awaits.runId (executedUpdate conversions execution)
    awaitCall awaits.commit .commit
    recordBridgeAudit awaits.audit
    pure execution

/-- The handler of the `try`: it lets a cancellation through. -/
def rollbackAndRaise {α : Type} (awaits : Awaits) (failure : Raised) : Method RunSession Raised α :=
  if failure.isException then do
    awaitCall awaits.rollback .rollback
    throw failure
  else
    throw failure

/-- `ServiceTokenToolBridge.execute`. -/
def execute (registered : List String) (awaits : Awaits) (request : BridgeRequest) :
    Method RunSession Raised (Execution conversions) := do
  let toolName ← .ofExcept (selectToolName request.candidates request.toolChoice)
  if !request.context.auth.hasAgentRunPermission then
    recordBridgeAudit awaits.deniedAudit
    throw (.domain "SERVICE_TOKEN_TOOL_BRIDGE_FORBIDDEN")
  else if toolName ∉ registered then
    recordBridgeAudit awaits.deniedAudit
    throw (.domain "SERVICE_TOKEN_TOOL_NOT_AVAILABLE")
  else
    awaitCall awaits.createRun (·.create (runRecord request.context) awaits.runId)
    awaitCall awaits.initialCommit .commit
    tryCatch (executeTool conversions awaits request toolName) (rollbackAndRaise awaits)

/-! ## What the call leaves behind -/

/-- The call gets to its end after the first commit: the tool returns and neither the
lookup nor the conversion of its result raises, or the registry refuses the tool. -/
def Settles (awaits : Awaits) (request : BridgeRequest) (toolName : String) : Prop :=
  match awaits.execute toolName (toolArguments toolName request.latestUserMessage) with
  | .ok result => (∃ ids, awaits.listByAgentRun = .ok ids) ∧
      ∃ citations, citationsFromResult conversions result = .ok citations
  | .error failure => ∃ code, failure = .agentTool code

theorem recordBridgeAudit_keeps (property : RunSession → Prop) (ending : Except Raised Unit) :
    Method.Keeps property (recordBridgeAudit ending) := by
  unfold recordBridgeAudit
  split
  · exact keeps_throw
  · exact keeps_pure

theorem awaitCall_returned (effect : RunSession → RunSession) (session : RunSession) :
    awaitCall .returned effect session = (.ok (), effect session) := rfl

theorem awaitCall_keeps (call : RepositoryCall)
    (kept : ∀ session, property session → property (effect session)) :
    Method.Keeps property (awaitCall call effect) := by
  cases call with
  | returned => exact kept
  | raised failure applied =>
    cases applied with
    | false => exact keeps_throw
    | true => exact kept

theorem awaitUpdate_returned
    (found : session.update request.context.auth.tenantId request.context.auth.userId runId
      update = some next) :
    awaitUpdate .returned request runId update session = (.ok (), next) := by
  have read : (get : Method RunSession Raised RunSession) session = (.ok session, session) := rfl
  unfold awaitUpdate
  rw [bind_of_ok read, found]
  rfl

/-- The row of the call right after the first commit. -/
def runningSession (awaits : Awaits) (request : BridgeRequest) : RunSession :=
  ⟨some ((runRecord request.context).row awaits.runId),
    some ((runRecord request.context).row awaits.runId)⟩

theorem update_is_stored (updates : awaits.updateRunResult = .returned)
    (commits : awaits.commit = .returned) (update : AgentRunUpdate)
    (last : Method RunSession Raised α)
    (kept : ∀ stored, Method.Keeps (fun session => session.stored = stored) last) :
    (do
      awaitUpdate awaits.updateRunResult request awaits.runId update
      awaitCall awaits.commit .commit
      last : Method RunSession Raised α) (runningSession awaits request) |>.2.stored =
      some (((runRecord request.context).row awaits.runId).updated update) := by
  have found : (runningSession awaits request).update request.context.auth.tenantId
      request.context.auth.userId awaits.runId update =
      some ⟨(runningSession awaits request).stored,
        some (((runRecord request.context).row awaits.runId).updated update)⟩ :=
    if_pos ⟨rfl, rfl, rfl⟩
  rw [updates, commits, bind_of_ok (awaitUpdate_returned found),
    bind_of_ok (awaitCall_returned _ _)]
  exact kept _ _ rfl

/-- After the first commit the row's update is stored if the call gets to its end, and
otherwise the session is left as it was. -/
theorem executeTool_spec (awaits : Awaits) (request : BridgeRequest) (toolName : String)
    (updates : awaits.updateRunResult = .returned) (commits : awaits.commit = .returned) :
    (Settles conversions awaits request toolName ∧ ∃ update,
      ((executeTool conversions awaits request toolName) (runningSession awaits request)).2.stored =
        some (((runRecord request.context).row awaits.runId).updated update)) ∨
    (¬ Settles conversions awaits request toolName ∧
      ((executeTool conversions awaits request toolName) (runningSession awaits request)).2 =
        runningSession awaits request) := by
  unfold executeTool Settles
  cases awaits.execute toolName (toolArguments toolName request.latestUserMessage) with
  | error failure =>
    cases failure with
    | agentTool code =>
      left
      refine ⟨⟨code, rfl⟩, _, update_is_stored updates commits _ _ ?_⟩
      intro stored
      exact keeps_bind (recordBridgeAudit_keeps _ _) fun _ => keeps_throw
    | agentRun | domain | timeout | other | cancelled =>
      right
      exact ⟨fun refused => Raised.noConfusion refused.choose_spec, rfl⟩
  | ok result =>
    cases lookup : awaits.listByAgentRun with
    | error failure =>
      right
      refine ⟨fun settled => ?_, rfl⟩
      obtain ⟨⟨ids, found⟩, _⟩ := settled
      cases found
    | ok ids =>
      cases converted : citationsFromResult conversions result with
      | error failure =>
        right
        constructor
        · rintro ⟨_, citations, found⟩
          rw [converted] at found
          cases found
        · simp only [buildExecution, converted, ofExcept_ok_bind]
          rfl
      | ok citations =>
        left
        obtain ⟨execution, built⟩ : ∃ execution, buildExecution conversions request
            awaits.runId (latestToolCallId awaits.runId ids) toolName result =
              .ok execution := by
          unfold buildExecution
          rw [converted]
          exact ⟨_, rfl⟩
        refine ⟨⟨⟨ids, rfl⟩, citations, converted⟩, executedUpdate conversions execution, ?_⟩
        simp only [ofExcept_ok_bind, built]
        apply update_is_stored updates commits
        intro stored
        exact keeps_bind (recordBridgeAudit_keeps _ _) fun _ => keeps_pure

theorem rollbackAndRaise_keeps_stored (awaits : Awaits) (failure : Raised)
    (stored : Option AgentRunRow) :
    Method.Keeps (fun session => session.stored = stored)
      (rollbackAndRaise awaits failure : Method RunSession Raised α) := by
  unfold rollbackAndRaise
  split
  · apply keeps_bind
    · exact awaitCall_keeps awaits.rollback fun session same => same
    · exact fun _ => keeps_throw
  · exact keeps_throw

/-- A row that is stored after a call whose first commit returned is what the `try` left. -/
theorem execute_stored (commits : awaits.initialCommit = .returned)
    (stored : ((execute conversions registered awaits request) .empty).2.stored = some row) :
    ∃ toolName, selectToolName request.candidates request.toolChoice = .ok toolName ∧
      ((executeTool conversions awaits request toolName)
        (runningSession awaits request)).2.stored = some row := by
  -- Up to the first commit nothing is stored.
  have denied : ∀ failure : Raised, ((do
      recordBridgeAudit awaits.deniedAudit
      throw failure : Method RunSession Raised (Execution conversions)) .empty).2.stored = none :=
    fun failure => keeps_bind (recordBridgeAudit_keeps (fun session =>
      session.stored = none) _) (fun _ => keeps_throw) _ rfl
  unfold execute at stored
  cases selected : selectToolName request.candidates request.toolChoice with
  | error failure =>
    rw [selected] at stored
    cases stored
  | ok toolName =>
    rw [selected, ofExcept_ok_bind] at stored
    refine ⟨toolName, rfl, ?_⟩
    split at stored
    · rw [denied] at stored
      cases stored
    · split at stored
      · rw [denied] at stored
        cases stored
      · cases creates : awaits.createRun with
        | raised failure applied =>
          rw [creates] at stored
          cases applied <;> cases stored
        | returned =>
          rw [creates, commits, bind_of_ok (awaitCall_returned _ _),
            bind_of_ok (awaitCall_returned _ _)] at stored
          have running : (RunSession.empty.create (runRecord request.context)
            awaits.runId).commit = runningSession awaits request := rfl
          rw [running] at stored
          rcases ended : executeTool conversions awaits request toolName
            (runningSession awaits request) with ⟨failure | execution, next⟩
          · rw [tryCatch_of_error ended,
              rollbackAndRaise_keeps_stored awaits failure next.stored next rfl] at stored
            exact stored
          · rw [tryCatch_of_ok ended] at stored
            exact stored

/-- As long as the calls of the repository return, a run that was committed ends in a
terminal status exactly if the call gets to its end. -/
theorem bridge_run_is_closed_if_nothing_escapes (registered : List String) (awaits : Awaits)
    (request : BridgeRequest) (row : AgentRunRow) (starts : awaits.initialCommit = .returned)
    (updates : awaits.updateRunResult = .returned) (commits : awaits.commit = .returned)
    (stored : ((execute conversions registered awaits request) .empty).2.stored = some row) :
    row.status.isTerminal = true ↔
      ∃ toolName, selectToolName request.candidates request.toolChoice = .ok toolName ∧
        Settles conversions awaits request toolName := by
  obtain ⟨toolName, selected, left_⟩ := execute_stored conversions starts stored
  rcases executeTool_spec conversions awaits request toolName updates commits with
    ⟨settles, _, updated⟩ | ⟨escapes, same⟩
  · rw [updated] at left_
    cases left_
    exact ⟨fun _ => ⟨toolName, selected, settles⟩, fun _ => rfl⟩
  · rw [same] at left_
    cases left_
    refine ⟨fun terminal => Bool.noConfusion terminal, ?_⟩
    rintro ⟨_, found, settles⟩
    rw [selected] at found
    cases found
    exact absurd settles escapes

/-- Texts as they are, and no numbers in texts. -/
def plainConversions : Conversions where
  str := fun
    | .str text => some text
    | _ => none
  Score := ℚ
  ofNumber := id
  ofText := fun _ => none

/-- A call for a search by a user who may run agents. -/
def searchRequest : BridgeRequest where
  context := ⟨"request", "trace", ⟨"tenant", "user", ["agent:run"]⟩⟩
  latestUserMessage := "leave policy"
  sessionId := none
  candidates := ["rag_search"]
  toolChoice := ⟨.auto, none⟩

/-- A search that finds one passage of the given score. -/
def searchResult (score : Json) : ToolExecutionResult where
  toolName := "rag_search"
  status := .success
  output := some [("results", .arr [.obj
    [("document_id", .str "document"), ("version_id", .str "version"), ("chunk_id", .str "chunk"),
      ("source_display_name", .str "handbook"), ("source_type", .str "pdf"),
      ("retrieval_method", .str "hybrid"), ("score", score)]])]
  latencyMs := 12
  promptContext := []

/-- Every repository call and every audit returns. -/
def searchAwaits (tool : Except Raised ToolExecutionResult) (ids : Except Raised (List String)) :
    Awaits where
  runId := "run"
  deniedAudit := .ok ()
  createRun := .returned
  initialCommit := .returned
  execute := fun _ _ => tool
  elapsedMs := 15
  listByAgentRun := ids
  updateRunResult := .returned
  commit := .returned
  audit := .ok ()
  rollback := .returned

/-- The status that a search by `searchRequest` leaves in the store. -/
def storedStatus (tool : Except Raised ToolExecutionResult) (ids : Except Raised (List String)) :
    Option RunStatus :=
  ((execute plainConversions ["rag_search"] (searchAwaits tool ids) searchRequest)
    .empty).2.stored.map (·.status)

theorem bridge_run_is_closed_after_a_search :
    let awaits := searchAwaits (.ok (searchResult (.float (1 / 2)))) (.ok ["call"])
    ∃ row, ((execute plainConversions ["rag_search"] awaits searchRequest) .empty).2.stored =
      some row ∧ row.status.isTerminal = true := by
  intro awaits
  refine ⟨_, rfl, ?_⟩
  apply (bridge_run_is_closed_if_nothing_escapes plainConversions ["rag_search"] awaits
    searchRequest _ rfl rfl rfl rfl).mpr
  exact ⟨"rag_search", by decide, ⟨["call"], rfl⟩, _, rfl⟩

/-- The run stays open when the search is cancelled, when the lookup of its tool call fails
and, for a tool whose schema lets such a score through, when no float can hold it. -/
theorem bridge_run_stays_open :
    storedStatus (.error .cancelled) (.ok ["call"]) = some .running ∧
    storedStatus (.ok (searchResult (.float (1 / 2)))) (.error .other) = some .running ∧
    storedStatus (.ok (searchResult (.int (10 ^ 400)))) (.ok ["call"]) = some .running := by
  decide +kernel

end AegisRag.Agent.ServiceTokenBridge

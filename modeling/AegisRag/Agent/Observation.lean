import AegisRag.Agent.Durable.Dto

/-!
# Observations of tool results

What the runtime keeps of a tool's result: `_summarize_tool_result` of
`packages/agent/runtime.py` and the safe names, citations and summaries it is made of. A
result's output is a JSON object, its members in the order of the output.

The display name of a source is a parameter.
-/

namespace AegisRag.Agent

open Semantics Durable

abbrev Members := List (String × Json)

/-- The text a member holds. -/
def textOf (members : Members) (key : String) : Option String :=
  match members.lookup key with
  | some (.str text) => some text
  | _ => none

/-! ## Safe names -/

def sensitiveNameParts : List String :=
  ["absolute_path", "access_token", "apikey", "api_key", "authorization", "content", "cookie",
    "credential", "file_path", "local_path", "password", "private_key", "prompt", "secret",
    "token"]

/-- `_is_sensitive_name`. -/
def isSensitiveName (value : String) : Bool :=
  let normalized := (lower (strip value)).map fun char =>
    if char.isLower || char.isDigit || char == '_' then char else '_'
  let compact := normalized.filter (· ≠ '_')
  sensitiveNameParts.any fun part =>
    part.toList <:+: normalized || part.toList.filter (· ≠ '_') <:+: compact

/-- `_SAFE_IDENTIFIER_PATTERN`. -/
def isSafeIdentifier (value : String) : Bool :=
  match value.toList with
  | [] => false
  | first :: rest =>
    (first.isAlpha || first == '_') && rest.all (fun char => char.isAlphanum || char == '_') &&
      rest.length ≤ 63

/-- `_is_safe_observable_name`. -/
def isSafeObservableName (value : String) : Bool := isSafeIdentifier value && !isSensitiveName value

/-- `_safe_argument_key`. -/
def safeArgumentKey (key : String) : String :=
  if isSafeObservableName (strip key) then strip key else "redacted_key"

/-- `_safe_tool_name`. -/
def safeToolName (toolName : String) : String :=
  if isToolName (strip toolName) && !isSensitiveName (strip toolName) then strip toolName
  else "unknown_tool"

/-! ## Citations -/

/-- `evidence_key`. -/
def evidenceKey (citation : AgentCitationRef) :
    String × String × String × Option String × Option ℕ × Option ℕ :=
  (citation.documentId, citation.versionId, citation.chunkId, citation.source,
    citation.pageStart, citation.pageEnd)

/-- A page number; a boolean is read as one. -/
def pageOf (item : Members) (key : String) : Option ℤ :=
  match item.lookup key with
  | some (.int page) => some page
  | some (.bool page) => some (if page then 1 else 0)
  | _ => none

/-- The citation of one search result, unless its fields are missing or unsafe. -/
def citationOf (displayName : String → String) (item : Members) : Option AgentCitationRef := do
  let documentId ← textOf item "document_id"
  let versionId ← textOf item "version_id"
  let chunkId ← textOf item "chunk_id"
  let citation : AgentCitationRef :=
    { documentId := strip documentId
      versionId := strip versionId
      chunkId := strip chunkId
      source := optionalText ((textOf item "source_display_name").map displayName)
      pageStart := (pageOf item "page_start").map Int.toNat
      pageEnd := (pageOf item "page_end").map Int.toNat
      toolName := some "rag_search"
      observationIndex := none }
  if documentId.length ≤ 128 ∧ versionId.length ≤ 128 ∧ chunkId.length ≤ 128 ∧
      citation.accepted then
    some citation
  else
    none

/-! ## Observations -/

/-- The members of `ToolExecutionResult` that a summary reads. -/
structure ToolExecutionResult where
  toolName : String
  status : ToolInvocationStatus
  output : Option Members
  latencyMs : Seconds
  promptContext : Members

/-- The items of a list of objects. -/
def objectsOf : Json → List Members
  | .arr items => items.filterMap fun
    | .obj members => some members
    | _ => none
  | _ => []

/-- `_citation_refs_from_tool_result`. -/
def citationRefsFromToolResult (displayName : String → String) (result : ToolExecutionResult) :
    List AgentCitationRef :=
  match result.output with
  | none => []
  | some output =>
    if result.toolName = "rag_search" ∧ result.status = .success ∧
        textOf output "status" = some "success" then
      (objectsOf ((output.lookup "results").getD .null)).filterMap (citationOf displayName)
    else
      []

/-- `_safe_error_code`. -/
def safeErrorCode (output : Option Members) : Option String := do
  let errorCode ← textOf (← output) "error_code"
  if isSafeObservableName (strip errorCode) then some (strip errorCode) else none

/-- `_safe_result_status`. -/
def safeResultStatus (output : Option Members) : Option String := do
  let status ← textOf (← output) "status"
  let normalized := String.ofList (lower (strip status))
  if normalized ∈ ["success", "error", "failure"] then some normalized else none

/-- `_safe_output_keys`. -/
def safeOutputKeys (output : Option Members) : List String :=
  (((output.getD []).map fun member => safeArgumentKey member.1).dedup).mergeSort
    (fun first second => first ≤ second)

/-- What a summary keeps of one search result. -/
def safeItem (item : Members) : Members :=
  ["document_id", "version_id", "chunk_id", "page_start", "page_end", "score"].filterMap fun key =>
      match item.lookup key with
      | some (.str text) =>
        if key ∈ ["document_id", "version_id", "chunk_id"] then
          some (key, .str (String.ofList (text.toList.take 128)))
        else
          none
      | some (.int value) => some (key, .int value)
      | some (.float value) => some (key, .float value)
      | _ => none

/-- What a summary keeps of one member of the output. -/
def safeMember (resultStatus errorCode : Option String) : String × Json → Option (String × Json)
  | ("results", .arr items) =>
    some ("results", .arr ((objectsOf (.arr (items.take 5))).map fun item => .obj (safeItem item)))
  | ("status", _) => resultStatus.map fun status => ("status", .str status)
  | ("error_code", _) => errorCode.map fun code => ("error_code", .str code)
  | ("result_count", .int count) => some ("result_count", .int count)
  | _ => none

/-- `_safe_output_summary`. -/
def safeOutputSummary (output : Option Members) : Members :=
  (output.getD []).filterMap (safeMember (safeResultStatus output) (safeErrorCode output))

/-- A run of one to thirty digits. -/
def isDigits (text : List Char) : Bool :=
  text.all (·.isDigit) && 1 ≤ text.length && text.length ≤ 30

/-- A text without its sign. -/
def unsigned : List Char → List Char
  | '-' :: rest => rest
  | characters => characters

/-- The pattern of a calculator's result: a sign, digits, and digits behind a point. -/
def isNumberText (text : String) : Bool :=
  let characters := unsigned text.toList
  match characters.dropWhile (· ≠ '.') with
  | [] => isDigits characters
  | _ :: fraction => isDigits (characters.takeWhile (· ≠ '.')) && isDigits fraction

/-- The result and its type, as far as a calculator's summary keeps them. -/
def calculatorMembers (output : Members) : Members :=
  (match textOf output "result" with
    | some result => if isNumberText result then [("result", .str result)] else []
    | none => []) ++
  (match textOf output "result_type" with
    | some kind =>
      if kind ∈ ["integer", "decimal"] then [("result_type", .str kind)] else []
    | none => [])

/-- Whether a text is a UUID as `str` writes it. -/
def isCanonicalUuid (text : String) : Bool :=
  text.length = 36 && text.toList.zipIdx.all fun (char, index) =>
    if index ∈ [8, 13, 18, 23] then char = '-'
    else char.isDigit || ('a' ≤ char && char ≤ 'f')

/-- `support_ticket_receipt`. -/
def supportTicketReceipt (output : Members) : Members :=
  match textOf output "ticket_id", textOf output "status" with
  | some ticketId, some status =>
    if isCanonicalUuid ticketId ∧ status ∈ ["open", "in_progress", "resolved"] then
      [("ticket_id", .str ticketId), ("status", .str status)]
    else
      []
  | _, _ => []

/-- The `output_summary` of an observation. -/
def outputSummary (result : ToolExecutionResult) : Members :=
  match result.output with
  | none => []
  | some output =>
    if result.toolName = "create_support_ticket" ∧ result.status = .success then
      supportTicketReceipt output
    else if result.toolName = "calculator" then
      safeOutputSummary (some output) ++ calculatorMembers output
    else
      safeOutputSummary (some output)

/-- An observation with the context given to the stepper, which is not persisted. -/
structure Observation where
  summary : AgentObservationSummary
  promptContext : Members

/-- The value of a `ToolInvocationStatus`. -/
def statusValue : ToolInvocationStatus → String
  | .success => "success"
  | .denied => "denied"
  | .failure => "failure"

/-- `_summarize_tool_result`. -/
def summarizeToolResult (displayName : String → String) (result : ToolExecutionResult) :
    Observation :=
  let outputKeys := safeOutputKeys result.output
  let resultStatus := safeResultStatus result.output
  let errorCode := safeErrorCode result.output
  let citationRefs := citationRefsFromToolResult displayName result
  { summary :=
      { toolName := safeToolName result.toolName
        status := result.status
        outputKeys
        citationRefs
        errorCode
        resultStatus
        latencyMs := result.latencyMs
        metadata := .obj
          [("tool_name", .str (safeToolName result.toolName)),
            ("status", .str (statusValue result.status)),
            ("output_keys", .arr (outputKeys.map .str)),
            ("result_status", Json.ofOption .str resultStatus),
            ("error_code", Json.ofOption .str errorCode),
            ("citation_ref_count", Json.ofNat citationRefs.length)]
        outputSummary := .obj (outputSummary result) }
    promptContext := result.promptContext }

/-! ## The citations of an observation -/

section

variable {displayName : String → String} {result : ToolExecutionResult}
  {citation : AgentCitationRef}

theorem citationOf_spec {item : Members}
    (isCitation : citationOf displayName item = some citation) :
    citation.accepted = true ∧ citation.toolName = some "rag_search" ∧
      citation.observationIndex = none := by
  simp only [citationOf, Option.bind_eq_bind, Option.bind_eq_some_iff] at isCitation
  obtain ⟨_, -, _, -, _, -, isCitation⟩ := isCitation
  split at isCitation
  · rename_i isSafe
    cases isCitation
    exact ⟨isSafe.2.2.2, rfl, rfl⟩
  · contradiction

/-- Every citation of a result comes from a successful search and names the search tool
but no observation. -/
theorem citationRefs_spec (isCitation : citation ∈ citationRefsFromToolResult displayName result) :
    citation.accepted = true ∧ citation.toolName = some "rag_search" ∧
      citation.observationIndex = none ∧ result.toolName = "rag_search" ∧
      result.status = .success ∧ safeResultStatus result.output = some "success" := by
  unfold citationRefsFromToolResult at isCitation
  cases isOutput : result.output with
  | none =>
    rw [isOutput] at isCitation
    contradiction
  | some output =>
    rw [isOutput] at isCitation
    dsimp only at isCitation
    split at isCitation
    · rename_i isSearch
      obtain ⟨_, -, isItem⟩ := List.mem_filterMap.mp isCitation
      obtain ⟨isSafe, isTool, noIndex⟩ := citationOf_spec isItem
      have isSuccess : safeResultStatus (some output) = some "success" := by
        simp only [safeResultStatus, Option.bind_eq_bind, Option.bind_some, isSearch.2.2]
        decide +kernel
      exact ⟨isSafe, isTool, noIndex, isSearch.1, isSearch.2.1, isSuccess⟩
    · contradiction

end

end AegisRag.Agent

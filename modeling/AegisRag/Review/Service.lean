import AegisRag.Semantics.Json
import AegisRag.Semantics.Isolation
import AegisRag.Auth.Context

/-!
# The review queue

A review item has a status and a history of status changes. Each call of the service is
one transaction: it reads the item, checks the transition, and writes the status and the
history it has read with one more entry. The row is not locked while it is read.
-/

namespace AegisRag.Review

open Semantics Auth

/-! ## Items -/

/-- `ReviewStatus`. -/
inductive ReviewStatus where
  | opened
  | accepted
  | rejected
  | needsFollowup
  | convertedToEvalCase
deriving DecidableEq

/-- `_ALLOWED_TRANSITIONS`. -/
def allowedTransitions : ReviewStatus → List ReviewStatus
  | .opened => [.accepted, .rejected, .needsFollowup]
  | .needsFollowup => [.accepted, .rejected, .convertedToEvalCase]
  | .accepted => [.convertedToEvalCase]
  | .rejected => []
  | .convertedToEvalCase => []

/-- An entry of the status history. -/
structure HistoryEntry where
  status : ReviewStatus
  changedBy : String
  changedAt : ℕ
  reasonCode : Option String
deriving DecidableEq

/-- `_history_entry`; an empty reason is left out. -/
def historyEntry (status : ReviewStatus) (changedBy : String) (changedAt : ℕ)
    (reasonCode : Option String) : HistoryEntry :=
  ⟨status, changedBy, changedAt, if reasonCode = some "" then none else reasonCode⟩

/-- `EvalCandidatePreview`. -/
structure EvalCandidatePreview where
  candidateId : String
  sourceReviewItemId : String
  caseType : String
  safeIdentifiers : List (String × Json)
  failureStage : Option String
  safeMetricCounts : List (String × Json)
  expectedBehavior : String
  requestId : String
  traceId : String
  requiresHumanConfirmation : Bool

/-- `ReviewItemModel`. -/
structure ReviewItem where
  tenantId : String
  createdBy : String
  status : ReviewStatus
  itemType : String
  severity : String
  requestId : String
  traceId : String
  sourceView : String
  safeIdentifiers : List (String × Json)
  safeSummary : List (String × Json)
  evalCandidate : Option EvalCandidatePreview
  statusHistory : List HistoryEntry

/-- `_METRIC_COUNT_KEYS`. -/
def metricCountKeys : List String :=
  ["citation_count", "unsupported_count", "forged_reference_count", "prompt_risk_count",
    "retrieval_result_count", "context_item_count", "tool_call_count", "latency_ms"]

/-- A number that is not a boolean. -/
def metricCount : Json → Option Json
  | .int value => some (.int value)
  | .float value => some (.float value)
  | _ => none

def text : Json → Option String
  | .str value => some value
  | _ => none

/-- `_candidate_from_record`. -/
def candidateFromRecord (itemId : String) (record : ReviewItem) (candidateId : String) :
    EvalCandidatePreview where
  candidateId := candidateId
  sourceReviewItemId := itemId
  caseType := record.itemType
  safeIdentifiers := record.safeIdentifiers
  failureStage := (record.safeSummary.lookup "failure_stage").bind text
  safeMetricCounts := metricCountKeys.filterMap fun key =>
    ((record.safeSummary.lookup key).bind metricCount).map fun count => (key, count)
  expectedBehavior := ((record.safeSummary.lookup "expected_behavior").bind text).getD
    "Human reviewer confirms expected behavior before dataset inclusion."
  requestId := record.requestId
  traceId := record.traceId
  requiresHumanConfirmation := true

/-! ## Calls -/

/-- What a call of the service is given, the clock and the new candidate id included. -/
inductive ReviewCall where
  | createItem (auth : AuthContext) (itemId : String) (now : ℕ) (itemType severity requestId
      traceId sourceView : String) (safeIdentifiers safeSummary : List (String × Json))
  | updateStatus (auth : AuthContext) (itemId : String) (now : ℕ) (status : ReviewStatus)
      (reasonCode : Option String)
  | convertToEvalCandidate (auth : AuthContext) (itemId : String) (now : ℕ) (candidateId : String)

inductive ReviewResult where
  | succeeded
  | forbidden
  | notFound
  | invalidStatusTransition
  | storageWriteFailed
deriving DecidableEq

abbrev ReviewTransaction := Transaction (fun _ : String => ReviewItem) ReviewResult

namespace ReviewCall

def itemId : ReviewCall → String
  | .createItem _ itemId .. => itemId
  | .updateStatus _ itemId .. => itemId
  | .convertToEvalCandidate _ itemId .. => itemId

def entry : ReviewCall → HistoryEntry
  | .createItem auth _ now .. => historyEntry .opened auth.userId now (some "created")
  | .updateStatus auth _ now status reasonCode => historyEntry status auth.userId now reasonCode
  | .convertToEvalCandidate auth _ now _ =>
    historyEntry .convertedToEvalCase auth.userId now (some "eval_candidate_preview")

end ReviewCall

/-- `_assert_write`. -/
def hasReviewQueueWritePermission (auth : AuthContext) : Bool := "review:write" ∈ auth.permissions

/-- `_assert_eval_write`. -/
def hasEvalCandidateWritePermission (auth : AuthContext) : Bool := "eval:write" ∈ auth.permissions

/-- `ReviewItemRepository.update_status` with the history the caller has put together. -/
def repositoryUpdateStatus (tenantId itemId : String) (status : ReviewStatus)
    (statusHistory : List HistoryEntry) (evalCandidate : Option EvalCandidatePreview) :
    ReviewTransaction :=
  .select itemId fun
    | none => .rollback .notFound
    | some model =>
      if model.tenantId ≠ tenantId then .rollback .notFound
      else
        .update itemId (fun row : ReviewItem => some { row with
          status := status
          statusHistory := statusHistory
          evalCandidate := evalCandidate.orElse fun _ => row.evalCandidate }) fun
          | none => .rollback .storageWriteFailed
          | some _ => .commit .succeeded

/-- Read the item, check the transition and write the status with one more entry. -/
def change (tenantId itemId : String) (entry : HistoryEntry)
    (candidate : ReviewItem → Option EvalCandidatePreview) : ReviewTransaction :=
  .select itemId fun
    | none => .rollback .notFound
    | some (record : ReviewItem) =>
      if record.tenantId ≠ tenantId then .rollback .notFound
      else if entry.status ∈ allowedTransitions record.status then
        repositoryUpdateStatus tenantId itemId entry.status (record.statusHistory ++ [entry])
          (candidate record)
      else .rollback .invalidStatusTransition

/-- The methods of `ReviewQueueService` that write. -/
def ReviewCall.transaction (call : ReviewCall) : ReviewTransaction :=
  match call with
  | .createItem auth itemId _ itemType severity requestId traceId sourceView safeIdentifiers
      safeSummary =>
      if hasReviewQueueWritePermission auth then
        .insert itemId
          { tenantId := auth.tenantId
            createdBy := auth.userId
            status := .opened
            itemType := itemType
            severity := severity
            requestId := requestId
            traceId := traceId
            sourceView := sourceView
            safeIdentifiers := safeIdentifiers
            safeSummary := safeSummary
            evalCandidate := none
            statusHistory := [call.entry] } fun
          | true => .commit .succeeded
          | false => .rollback .storageWriteFailed
      else .rollback .forbidden
  | .updateStatus auth itemId .. =>
    if hasReviewQueueWritePermission auth then
      change auth.tenantId itemId call.entry fun _ => none
    else .rollback .forbidden
  | .convertToEvalCandidate auth itemId _ candidateId =>
    if hasReviewQueueWritePermission auth && hasEvalCandidateWritePermission auth then
      change auth.tenantId itemId call.entry fun record =>
        some (candidateFromRecord itemId record candidateId)
    else .rollback .forbidden

/-- The table of the review items under calls of the service. -/
abbrev reviewQueue : Schema where
  Key := String
  Row := fun _ => ReviewItem
  Code := ReviewCall
  Result := ReviewResult
  decKey := inferInstance
  body := ReviewCall.transaction
  check := fun _ _ => true

end AegisRag.Review

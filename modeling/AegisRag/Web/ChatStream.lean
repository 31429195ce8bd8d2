import Mathlib
import AegisRag.Semantics.Json

/-!
# Chat view state

`applyChatEvent` of `apps/web/src/lib/chat-stream-state.ts`: how the events of a stream
build the message that the chat shows. What the state only carries along of citations and
tool events is kept as the JSON it arrives as.
-/

namespace AegisRag.Web

open Semantics

inductive Role where
  | user
  | assistant
  deriving DecidableEq

inductive MessageStatus where
  | answered
  | noAnswer
  | error
  deriving DecidableEq

inductive FinalStatus where
  | success
  | error
  deriving DecidableEq

structure StructuredError where
  code : String
  message : String
  details : Option Json
  requestId : Option String
  traceId : Option String

structure Citation where
  documentId : String
  versionId : Option String
  chunkId : String
  display : Json

structure ChatFinalPayload where
  answer : String
  citations : List Citation
  status : FinalStatus
  noAnswer : Bool
  errorCode : Option String

inductive SseData where
  | token (delta : String)
  | citation (citation : Citation)
  | toolCall (event : Json)
  | toolResult (event : Json)
  | error (code message : String) (details : Option Json) (terminal : Bool)
  | final (payload : ChatFinalPayload)

structure SseEvent where
  requestId : String
  traceId : String
  data : SseData

structure ChatMessage where
  id : String
  role : Role
  text : String
  citations : List Citation
  requestId : Option String
  traceId : Option String
  isFinal : Bool
  status : Option MessageStatus
  error : Option StructuredError
  terminalError : Bool
  toolEvents : List Json

/-- What `JSON.stringify` tells citations apart by. -/
def Citation.key (citation : Citation) : String × Option String × String :=
  (citation.documentId, citation.versionId, citation.chunkId)

def dedupeFrom (seen : List (String × Option String × String)) : List Citation → List Citation
  | [] => []
  | citation :: rest =>
    if citation.key ∈ seen then dedupeFrom seen rest
    else citation :: dedupeFrom (citation.key :: seen) rest

/-- `dedupeCitations`. -/
def dedupeCitations (citations : List Citation) : List Citation := dedupeFrom [] citations

def safeErrorMessage (errorCode : String) : String :=
  if errorCode = "AUTH_CONTEXT_REQUIRED" then
    "Your session is missing or expired. Sign in again with your tenant credentials."
  else if "FORBIDDEN".toList <:+: errorCode.toList ∨ "DENIED".toList <:+: errorCode.toList then
    "This identity does not have permission to perform this action."
  else
    "The request did not complete. Only a safe error summary is shown; copy request_id for " ++
      "follow-up."

/-- `failChatMessage`. -/
def failChatMessage (message : ChatMessage) (error : StructuredError) : ChatMessage :=
  { message with
    isFinal := true
    status := some .error
    terminalError := true
    citations := []
    error := message.error.or (some error)
    requestId := error.requestId.or message.requestId
    traceId := error.traceId.or message.traceId }

/-- `applyChatEvent`. -/
def applyChatEvent (message : ChatMessage) (event : SseEvent) : ChatMessage :=
  if message.isFinal then message else
  let withContext :=
    { message with requestId := some event.requestId, traceId := some event.traceId }
  match event.data with
  | .error code text details terminal =>
    { withContext with
      error := some ⟨code, text, details, some event.requestId, some event.traceId⟩
      terminalError := message.terminalError || terminal
      status := if terminal then some .error else message.status
      citations := if terminal then [] else message.citations }
  | .final payload =>
    if payload.status = .error ∨ message.terminalError then
      let code := payload.errorCode.getD "CHAT_STREAM_FAILED"
      failChatMessage withContext (message.error.getD
        ⟨code, safeErrorMessage code, none, some event.requestId, some event.traceId⟩)
    else
      { withContext with
        text := payload.answer
        citations := dedupeCitations payload.citations
        status := some (if payload.noAnswer then .noAnswer else .answered)
        isFinal := true
        error := none }
  | .token delta =>
    if message.terminalError then withContext
    else { withContext with text := message.text ++ delta }
  | .citation citation =>
    if message.terminalError then withContext
    else { withContext with citations := dedupeCitations (message.citations ++ [citation]) }
  | .toolCall tool | .toolResult tool =>
    if message.terminalError then withContext
    else { withContext with toolEvents := message.toolEvents ++ [tool] }

/-- `canCopyAnswer`. -/
def canCopyAnswer (message : ChatMessage) : Bool :=
  message.role = .assistant && message.isFinal &&
    (message.status = some .answered || message.status = some .noAnswer)

/-- The message that a request starts with. -/
def initialAssistant (id : String) : ChatMessage where
  id := id
  role := .assistant
  text := ""
  citations := []
  requestId := none
  traceId := none
  isFinal := false
  status := none
  error := none
  terminalError := false
  toolEvents := []

def SseEvent.isTerminalError (event : SseEvent) : Bool :=
  match event.data with
  | .error _ _ _ terminal => terminal
  | _ => false

/-- The payload of the first final event, when no terminal error comes before it. -/
inductive FirstFinal (payload : ChatFinalPayload) : List SseEvent → Prop
  | here {event : SseEvent} {rest : List SseEvent} (data : event.data = .final payload) :
      FirstFinal payload (event :: rest)
  | later {event : SseEvent} {rest : List SseEvent} (notFinal : ∀ other, event.data ≠ .final other)
      (notTerminal : event.isTerminalError = false) (first : FirstFinal payload rest) :
      FirstFinal payload (event :: rest)

/-- The message failed and keeps what had been shown before. -/
structure Failed (text : String) (message : ChatMessage) : Prop where
  text_eq : message.text = text
  status_eq : message.status = some .error
  citations_eq : message.citations = []
  terminalError_eq : message.terminalError = true

variable {message : ChatMessage}

theorem nodup_dedupeFrom (seen : List (String × Option String × String))
    (citations : List Citation) : ((dedupeFrom seen citations).map Citation.key).Nodup ∧
      ∀ citation ∈ dedupeFrom seen citations, citation.key ∉ seen := by
  induction citations generalizing seen with
  | nil => simp [dedupeFrom]
  | cons citation rest of_rest =>
    rw [dedupeFrom]
    split
    · exact of_rest seen
    · obtain ⟨nodup, fresh⟩ := of_rest (citation.key :: seen)
      grind

theorem Failed.not_copyable {text : String} (failed : Failed text message) :
    canCopyAnswer message = false := by
  simp [canCopyAnswer, failed.status_eq]

theorem foldl_of_final (isFinal : message.isFinal = true) (events : List SseEvent) :
    events.foldl applyChatEvent message = message := by
  induction events with
  | nil => rfl
  | cons event rest unchanged => rwa [List.foldl_cons, applyChatEvent, if_pos isFinal]

theorem Failed.step {text : String} (failed : Failed text message) (event : SseEvent) :
    Failed text (applyChatEvent message event) := by
  obtain ⟨text_eq, status_eq, citations_eq, terminalError_eq⟩ := failed
  rw [applyChatEvent]
  split
  · constructor <;> assumption
  · split
    all_goals constructor <;> simp_all [failChatMessage]

theorem Failed.run {text : String} (failed : Failed text message) (events : List SseEvent) :
    Failed text (events.foldl applyChatEvent message) := by
  induction events generalizing message with
  | nil => exact failed
  | cons event rest of_rest => exact of_rest (failed.step event)

theorem failed_of_terminalError {event : SseEvent} (unfinished : message.isFinal = false)
    (terminal : event.isTerminalError = true) :
    Failed message.text (applyChatEvent message event) := by
  rw [SseEvent.isTerminalError] at terminal
  split at terminal
  next data => constructor <;> simp [applyChatEvent, unfinished, data, terminal]
  next => cases terminal

/-- An event that neither ends the message nor fails it leaves it open. -/
theorem open_step {event : SseEvent} (unfinished : message.isFinal = false)
    (intact : message.terminalError = false) (notFinal : ∀ payload, event.data ≠ .final payload)
    (notTerminal : event.isTerminalError = false) :
    (applyChatEvent message event).isFinal = false ∧
      (applyChatEvent message event).terminalError = false := by
  rw [SseEvent.isTerminalError] at notTerminal
  cases data : event.data <;> simp_all [applyChatEvent]

/-- Only a successful final event makes an open message copyable, and the message then
shows that event. -/
theorem firstFinal_of_copyable {events : List SseEvent} (unfinished : message.isFinal = false)
    (intact : message.terminalError = false)
    (copyable : canCopyAnswer (events.foldl applyChatEvent message) = true) :
    ∃ payload, FirstFinal payload events ∧ payload.status = .success ∧
      (events.foldl applyChatEvent message).text = payload.answer ∧
      (events.foldl applyChatEvent message).citations = dedupeCitations payload.citations := by
  induction events generalizing message with
  | nil => simp [canCopyAnswer, unfinished] at copyable
  | cons event rest of_rest =>
    rw [List.foldl_cons] at copyable ⊢
    by_cases terminal : event.isTerminalError = true
    · have failed := (failed_of_terminalError unfinished terminal).run rest
      simp [failed.not_copyable] at copyable
    by_cases final : ∃ payload, event.data = .final payload
    · obtain ⟨payload, data⟩ := final
      rw [foldl_of_final (by simp [applyChatEvent, unfinished, data, apply_ite, failChatMessage])]
        at copyable ⊢
      rw [applyChatEvent] at copyable ⊢
      cases status : payload.status with
      | error => simp [unfinished, data, status, failChatMessage, canCopyAnswer] at copyable
      | success =>
        refine ⟨payload, .here data, status, ?_⟩
        simp [unfinished, intact, data, status]
    · have notTerminal := Bool.eq_false_iff.mpr terminal
      have notFinal := not_exists.mp final
      obtain ⟨unfinished, intact⟩ := open_step unfinished intact notFinal notTerminal
      obtain ⟨payload, first, shown⟩ := of_rest unfinished intact copyable
      exact ⟨payload, .later notFinal notTerminal first, shown⟩

/-- A final message never changes, a terminal error that reaches an open message fails it
for good, and a copyable message shows the first final event. -/
theorem chat_view_settles (id : String) (events : List SseEvent) :
    let view := List.foldl applyChatEvent (initialAssistant id)
    ((view events).isFinal = true → ∀ later, view (events ++ later) = view events) ∧
    ((view events).isFinal = false → ∀ event later, event.isTerminalError = true →
      let failed := view (events ++ event :: later)
      failed.status = some .error ∧ canCopyAnswer failed = false ∧
        failed.text = (view events).text ∧ failed.citations = []) ∧
    (canCopyAnswer (view events) = true → ((view events).citations.map Citation.key).Nodup ∧
      ∃ payload, FirstFinal payload events ∧ payload.status = .success ∧
        (view events).text = payload.answer ∧
        (view events).citations = dedupeCitations payload.citations) := by
  refine ⟨fun isFinal later => ?_, fun unfinished event later terminal => ?_, fun copyable => ?_⟩
  · rw [List.foldl_append, foldl_of_final isFinal]
  · rw [List.foldl_append]
    have failed := (failed_of_terminalError unfinished terminal).run later
    exact ⟨failed.status_eq, failed.not_copyable, failed.text_eq, failed.citations_eq⟩
  · obtain ⟨payload, first, status, text, citations⟩ := firstFinal_of_copyable rfl rfl copyable
    refine ⟨?_, payload, first, status, text, citations⟩
    exact citations ▸ (nodup_dedupeFrom [] payload.citations).1

/-- A terminal error after a successful final event leaves its citations in the view. -/
theorem late_error_keeps_citations :
    let cited : Citation := ⟨"doc", none, "chunk", .null⟩
    let events : List SseEvent :=
      [⟨"r", "t", .final ⟨"yes", [cited], .success, false, none⟩⟩,
        ⟨"r", "t", .error "CHAT_STREAM_FAILED" "failed" none true⟩]
    let shown := events.foldl applyChatEvent (initialAssistant "a")
    shown.citations = [cited] ∧ canCopyAnswer shown = true :=
  ⟨rfl, rfl⟩

end AegisRag.Web

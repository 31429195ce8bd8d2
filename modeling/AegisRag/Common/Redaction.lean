import AegisRag.Semantics.Json
import AegisRag.Semantics.Text

/-!
# Redaction

`redact_sensitive_data` of `packages/common/logging.py` and the key and path tests that
the retrieval stages share. Which texts match the patterns of secrets, and which
characters beyond ASCII count as alphanumeric, are parameters.
-/

namespace AegisRag.Common

open Semantics

/-- What the patterns and Unicode tables decide. -/
structure Redaction where
  containsSensitiveValue : String → Bool
  isAlnum : Char → Bool

/-- `REDACTED_VALUE`. -/
def redactedText : String := "[REDACTED]"

def sensitiveKeywords : List String :=
  ["authorization", "access_token", "accesstoken", "api_key", "apikey", "token", "secret",
    "password", "credential", "cookie", "private_key", "privatekey"]

def sensitiveContentKeys : List String :=
  ["body", "request_body", "response_body", "query", "full_query", "user_message",
    "assistant_message", "message_content", "answer", "assistant_answer", "prompt", "content",
    "document_content", "document_chunk", "chunk_content", "chunk_text", "sql", "sql_query",
    "tsquery", "tsvector", "vector", "query_vector", "embedding", "embedding_vector",
    "raw_response", "provider_raw_response", "provider_raw_payload", "tool_args", "tool_params",
    "path", "file_path", "absolute_path", "local_path", "bucket", "bucket_path", "object_key",
    "source_uri", "storage_key", "storage_locator", "uri", "url"]

def safeObservabilityKeys : List String :=
  ["token_usage", "input_tokens", "output_tokens", "total_tokens"]

def replaceChar (old new : Char) (text : List Char) : List Char :=
  text.map fun char => if char = old then new else char

/-- What `[^a-z0-9]` leaves of a text. -/
def compactAscii (text : List Char) : List Char :=
  text.filter fun char => char.isLower || char.isDigit

/-- `_is_sensitive_key`. -/
def isSensitiveKey (key : String) : Bool :=
  let normalized := replaceChar '-' '_' (lower (strip key))
  let compact := compactAscii normalized
  normalized ∉ safeObservabilityKeys.map String.toList && (sensitiveKeywords.any (fun keyword =>
        keyword.toList <:+: normalized || keyword.toList <:+: compact) ||
      normalized ∈ sensitiveContentKeys.map String.toList ||
      compact ∈ sensitiveContentKeys.map fun item => compactAscii item.toList)

section

variable (redaction : Redaction)

/-- A text, unless it contains a sensitive value. -/
def redactText (value : String) : String :=
  if redaction.containsSensitiveValue value then redactedText else value

mutual

/-- `redact_sensitive_data`. -/
def redact : Json → Json
  | .obj members => .obj (redactMembers members)
  | .arr items => .arr (redactItems items)
  | .str value => .str (redactText redaction value)
  | .null => .null
  | .bool value => .bool value
  | .int value => .int value
  | .float value => .float value

def redactItems : List Json → List Json
  | [] => []
  | item :: rest => redact item :: redactItems rest

def redactMembers : List (String × Json) → List (String × Json)
  | [] => []
  | (key, item) :: rest =>
    (key, if isSensitiveKey key then .str redactedText else redact item) :: redactMembers rest

end

@[simp] theorem redactText_redactText (value : String) :
    redactText redaction (redactText redaction value) = redactText redaction value := by
  by_cases sensitive : redaction.containsSensitiveValue value = true
  · simp [redactText, sensitive]
  · simp [redactText, sensitive]

mutual

/-- A second redaction changes nothing. The stages redact again and again, and each is
modelled with one redaction. -/
theorem redact_redact (value : Json) :
    redact redaction (redact redaction value) = redact redaction value := by
  cases value with
  | obj members => rw [redact, redact, redactMembers_redactMembers members]
  | arr items => rw [redact, redact, redactItems_redactItems items]
  | str value => rw [redact, redact, redactText_redactText]
  | null | bool value | int value | float value => rfl

theorem redactItems_redactItems (items : List Json) :
    redactItems redaction (redactItems redaction items) = redactItems redaction items := by
  cases items with
  | nil => rfl
  | cons item rest =>
    rw [redactItems, redactItems, redact_redact item, redactItems_redactItems rest]

theorem redactMembers_redactMembers (members : List (String × Json)) :
    redactMembers redaction (redactMembers redaction members) =
      redactMembers redaction members := by
  cases members with
  | nil => rfl
  | cons member rest =>
    obtain ⟨key, item⟩ := member
    rw [redactMembers, redactMembers, redactMembers_redactMembers rest]
    by_cases sensitive : isSensitiveKey key = true
    · simp [sensitive]
    · simp [sensitive, redact_redact item]

end

end

/-- `_looks_like_local_absolute_path` of the two retrievers. -/
def looksLikeLocalAbsolutePath (value : String) : Bool :=
  match (strip value).toList with
  | '/' :: _ => true
  | first :: second :: third :: _ =>
    (first = '\\' && second = '\\') ||
      (first.isAlpha && second = ':' && (third = '\\' || third = '/'))
  | [first, second] => first = '\\' && second = '\\'
  | _ => false

/-- `_looks_like_local_absolute_path` of the fusion and of the reranker, which take any
character for a drive and a second colon for a separator. -/
def looksLikeDrivePath (value : String) : Bool :=
  match (strip value).toList with
  | '/' :: _ => true
  | first :: second :: third :: _ =>
    (first = '\\' && second = '\\') || (second = ':' && third ∈ [':', '\\', '/'])
  | [first, second] => first = '\\' && second = '\\'
  | _ => false

end AegisRag.Common

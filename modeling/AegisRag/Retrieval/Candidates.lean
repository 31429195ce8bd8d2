import AegisRag.Common.Redaction
import AegisRag.Data.Records

/-!
# Candidates of the two searches

`_candidate_from_vector_result` of `packages/retrieval/dense.py` and
`_candidate_from_record` of `packages/retrieval/sparse.py`. Both redact what the row
says about its source, its access list and its metadata. The vector row is a copy of the
chunk row.
-/

namespace AegisRag.Retrieval

open Semantics Common Vectorstores Data

section

variable (redaction : Redaction)

/-- `_safe_optional_text`, which is the same in both retrievers. -/
def safeOptionalText (value : Option String) : Option String :=
  value.map fun text =>
    if looksLikeLocalAbsolutePath text then redactedText else redactText redaction text

/-- `_RETRIEVAL_SENSITIVE_METADATA_KEYS` of the dense retriever. -/
def denseSensitiveKeys : List String :=
  ["chunk_content", "chunk_text", "content", "document_content", "embedding",
    "embedding_vector", "provider_raw_response", "query_vector", "raw_response", "text", "vector"]

/-- `_SENSITIVE_METADATA_KEYS` of the sparse retriever. -/
def sparseSensitiveKeys : List String :=
  ["chunk_content", "chunk_text", "content", "document_content", "query", "raw_response", "sql",
    "text", "tsquery", "tsvector"]

/-- What a retriever makes of a scalar under a key. -/
abbrev Scalar := String → Json → Json

/-- The dense retriever redacts the value alone. -/
def denseScalar : Scalar := fun _ value => redact redaction value

/-- The sparse retriever redacts the value together with its key. -/
def sparseScalar : Scalar := fun key value =>
  if isSensitiveKey key then .str redactedText else redact redaction value

section

variable (sensitiveKeys : List String) (scalar : Scalar)

/-- A key whose values are never passed on. -/
def isHidden (key : String) : Bool := lower (strip key) ∈ sensitiveKeys.map String.toList

mutual

/-- `_safe_metadata_value`. The values of a list are read under its lowered key. -/
def safeMetadataValue (key : String) : Json → Json
  | .obj members =>
    if isHidden sensitiveKeys key then .str redactedText else .obj (safeMapping members)
  | .arr items =>
    if isHidden sensitiveKeys key then .str redactedText
    else .arr (safeItems (String.ofList (lower (strip key))) items)
  | .str text =>
    if isHidden sensitiveKeys key || looksLikeLocalAbsolutePath text then .str redactedText
    else scalar key (.str text)
  | value => if isHidden sensitiveKeys key then .str redactedText else scalar key value

def safeItems (key : String) : List Json → List Json
  | [] => []
  | item :: rest => safeMetadataValue key item :: safeItems key rest

/-- `_safe_mapping`. -/
def safeMapping : List (String × Json) → List (String × Json)
  | [] => []
  | (key, item) :: rest => (key, safeMetadataValue key item) :: safeMapping rest

end

end

/-- A candidate with the fields that both retrievers take from the row; the validators
of a candidate trim nothing that a chunk record has not trimmed before. -/
def candidateOfRow (sensitiveKeys : List String) (scalar : Scalar) (method content : String)
    (score : Score) (chunk : ChunkRecord) : RetrievalCandidate where
  documentId := chunk.documentId
  versionId := chunk.versionId
  chunkId := chunk.chunkId
  source := safeOptionalText redaction chunk.sourceUri
  sourceType := chunk.sourceType
  sourceUri := safeOptionalText redaction chunk.sourceUri
  pageStart := chunk.pageStart
  pageEnd := chunk.pageEnd
  titlePath := chunk.titlePath
  score := score
  retrievalMethod := method
  tenantId := chunk.tenantId
  acl := safeMapping sensitiveKeys scalar chunk.acl
  metadata := safeMapping sensitiveKeys scalar chunk.metadata
  content := content

/-- `_candidate_from_vector_result`. -/
def denseCandidate (score : Score) (chunk : ChunkRecord) : RetrievalCandidate :=
  candidateOfRow redaction denseSensitiveKeys (denseScalar redaction) "dense" "" score chunk

/-- `_candidate_from_record`. -/
def sparseCandidate (rank : Score) (chunk : ChunkRecord) : RetrievalCandidate :=
  candidateOfRow redaction sparseSensitiveKeys (sparseScalar redaction) "sparse"
    (String.ofList (chunk.content.toList.take 4000)) rank chunk

end

end AegisRag.Retrieval

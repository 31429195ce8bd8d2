import AegisRag.Retrieval.Service

/-!
# Context candidates and packed contexts

The data of `packages/rag/dto.py` that passes from hydration through packing to the
prompt. The validators of a context candidate trim its texts and refuse blank ones, so
a candidate holds the proof of what they leave.
-/

namespace AegisRag.Rag

open Semantics Auth Vectorstores Retrieval

/-- `_validate_page_range`: no pages, or a range counted from one. -/
def validPages : Option Int → Option Int → Bool
  | none, none => true
  | some first, some last => 1 ≤ first && 1 ≤ last && first ≤ last
  | _, _ => false

theorem validPages_some (valid : validPages (some first) (some last) = true) :
    1 ≤ first ∧ first ≤ last := by
  simp only [validPages, Bool.and_eq_true, decide_eq_true_eq] at valid
  exact ⟨valid.1.1, valid.2⟩

/-- Both texts are set and differ. -/
def disagree (left right : Option String) : Bool :=
  match left, right with
  | some first, some second => first ≠ second
  | _, _ => false

/-! ## Candidates -/

/-- The fields of a `ContextCandidate` before they are validated. -/
structure ContextFields where
  content : String
  tokenCount : Int
  documentId : String
  versionId : String
  chunkId : String
  tenantId : String
  acl : Acl
  source : Option String
  sourceUri : Option String
  sourceType : String
  pageStart : Option Int
  pageEnd : Option Int
  titlePath : List String
  score : ℚ
  retrievalMethod : String
  metadata : Metadata

namespace ContextFields

variable (fields : ContextFields)

def requiredTexts : List String :=
  [fields.content, fields.documentId, fields.versionId, fields.chunkId, fields.tenantId,
    fields.sourceType, fields.retrievalMethod]

/-- What the validators leave of the fields. -/
def normalized : ContextFields :=
  { fields with
    content := strip fields.content
    documentId := strip fields.documentId
    versionId := strip fields.versionId
    chunkId := strip fields.chunkId
    tenantId := strip fields.tenantId
    source := optionalText fields.source
    sourceUri := optionalText fields.sourceUri
    sourceType := strip fields.sourceType
    titlePath := texts fields.titlePath
    retrievalMethod := strip fields.retrievalMethod }

/-- The validators raise on none of the normalized fields. -/
structure Accepted : Prop where
  requiredTexts : ∀ text ∈ fields.requiredTexts, text ≠ ""
  tokenCount : 0 < fields.tokenCount
  titlePath : fields.titlePath ≠ []
  score : 0 ≤ fields.score ∧ fields.score ≤ 1
  pages : validPages fields.pageStart fields.pageEnd = true

instance : Decidable fields.Accepted :=
  decidable_of_iff ((∀ text ∈ fields.requiredTexts, text ≠ "") ∧ 0 < fields.tokenCount ∧
      fields.titlePath ≠ [] ∧ (0 ≤ fields.score ∧ fields.score ≤ 1) ∧
        validPages fields.pageStart fields.pageEnd = true)
    ⟨fun ⟨texts, tokens, title, score, pages⟩ => ⟨texts, tokens, title, score, pages⟩,
      fun ⟨texts, tokens, title, score, pages⟩ => ⟨texts, tokens, title, score, pages⟩⟩

end ContextFields

/-- `ContextCandidate`: fields that went through the validators. -/
structure ContextCandidate extends ContextFields where
  trimmed : toContextFields.normalized = toContextFields
  accepted : toContextFields.Accepted

theorem ContextFields.normalized_normalized (fields : ContextFields) :
    fields.normalized.normalized = fields.normalized := by
  simp only [ContextFields.normalized, strip_strip,
    optionalText_eq_self (optionalText_isText _), texts_eq_self (texts_areTexts _)]

/-- The constructor of the model. -/
def ContextCandidate.validated (fields : ContextFields) : Option ContextCandidate :=
  if accepted : fields.normalized.Accepted then
    some ⟨fields.normalized, fields.normalized_normalized, accepted⟩
  else none

theorem ContextCandidate.validated_eq_some
    (built : ContextCandidate.validated fields = some candidate) :
    candidate.toContextFields = fields.normalized := by
  rw [validated] at built
  split at built
  · cases built
    rfl
  · cases built

/-- Why a chunk is part of the context. -/
inductive InclusionReason where
  | retrievalCandidate
  | parentContext
  | childContext
  | neighborContext
deriving DecidableEq

/-! ## Packed contexts -/

/-- `PackedCitationSource`. -/
structure PackedCitationSource where
  documentId : String
  versionId : String
  chunkId : String
  source : Option String
  sourceUri : Option String
  sourceType : String
  pageStart : Option Int
  pageEnd : Option Int
  titlePath : List String
  score : ℚ
  retrievalMethod : String
  tokenCount : Int
  inclusionReason : InclusionReason
deriving DecidableEq

/-- `PackedContextItem`. -/
structure PackedContextItem where
  content : String
  tokenCount : Int
  documentId : String
  versionId : String
  chunkIds : List String
  source : Option String
  sourceUri : Option String
  sourceType : String
  pageStart : Option Int
  pageEnd : Option Int
  titlePath : List String
  score : ℚ
  retrievalMethod : String
  citationSources : List PackedCitationSource
deriving DecidableEq

/-- Why the packer left a chunk out. -/
inductive DropReason where
  | invalidCandidate
  | duplicate
  | oversized
  | budgetExceeded
  | invalidRelatedId
  | missingRelated
  | invalidRelatedIdentity
  | invalidRelatedLineage
  | invalidRelatedMetadata
deriving DecidableEq

/-- `ContextDroppedCandidate`: the reason, the tenant, document, version and chunk it names and,
of a related chunk, why it was asked for. -/
structure ContextDroppedCandidate where
  reason : DropReason
  identity : Option (String × String × String × String)
  relatedReason : Option InclusionReason
deriving DecidableEq

/-- `ContextPackingTrace`: the request the context was packed for, and its counts. -/
structure ContextPackingTrace where
  requestId : String
  traceId : String
  tenantId : String
  userId : String
  inputCount : Nat
  authorizedCount : Nat
deriving DecidableEq

/-- `PackedContext`. -/
structure PackedContext where
  items : List PackedContextItem
  totalTokens : Int
  budget : Int
  droppedCandidates : List ContextDroppedCandidate
  packingTrace : ContextPackingTrace
deriving DecidableEq

theorem maxTokens_default : (0 : Int) < 3000 := by decide

/-- `ContextPackingConfig`; the oversized policy is `fail_closed` or `drop`. -/
structure ContextPackingConfig where
  maxTokens : Int := 3000
  mergeAdjacent : Bool := false
  includeParentContext : Bool := false
  includeChildContext : Bool := false
  includeNeighborContext : Bool := false
  maxRelatedChunksPerCandidate : Nat := 2
  failClosed : Bool := false
  maxTokens_pos : 0 < maxTokens := by first | exact maxTokens_default | decide
  maxRelated_pos : 0 < maxRelatedChunksPerCandidate := by first | exact Nat.two_pos | decide

end AegisRag.Rag

import AegisRag.Common.Redaction
import AegisRag.Retrieval.Service
import AegisRag.Semantics.Loop

/-!
# Fusion and reranking

`RRFMerger.merge` of `packages/retrieval/rrf.py` and `RerankingRetriever` of
`packages/retrieval/rerank/__init__.py`. Both copy the candidates they pass on with
redacted metadata, and the reranker compares that metadata with the filter again.
Scores are computed exactly here.
-/

namespace AegisRag.Retrieval

open Semantics Common Vectorstores Auth

/-- `_identity`. -/
def RetrievalCandidate.identity (candidate : RetrievalCandidate) :
    String × String × String × String :=
  (candidate.tenantId, candidate.documentId, candidate.versionId, candidate.chunkId)

/-! ## Redacted metadata -/

section

variable (redaction : Redaction)

/-- `_SENSITIVE_METADATA_KEYS`, which the fusion and the reranker share. -/
def sensitiveMetadataKeys : List String :=
  ["access_token", "api_key", "body", "chunk_content", "chunk_text", "content",
    "document_content", "embedding", "embedding_vector", "full_query", "password", "prompt",
    "provider_raw_response", "query", "query_vector", "raw_response", "secret", "sql", "text",
    "token", "tsquery", "tsvector", "vector"]

/-- The members of `_SENSITIVE_METADATA_COMPACT_KEYS` that are no compact form of a key
above. -/
def furtherCompactKeys : List String := ["documentchunk", "querytext", "sqlquery"]

/-- `_is_sensitive_metadata_key`, with the key under which the stage adds its own
provenance. -/
def isSensitiveMetadataKey (provenanceKey key : String) : Bool :=
  let normalized := replaceChar ' ' '_' (replaceChar '-' '_' (lower (strip key)))
  let compact := normalized.filter redaction.isAlnum
  normalized = provenanceKey.toList ||
    normalized ∈ sensitiveMetadataKeys.map String.toList ||
    compact ∈ (sensitiveMetadataKeys.map fun item => item.toList.filter redaction.isAlnum) ++
      furtherCompactKeys.map String.toList

/-- A value that redaction replaces. -/
def isRedacted : Json → Bool
  | .str text => redactText redaction text = redactedText
  | _ => false

/-- A text as both stages pass it on. -/
def safeText (text : String) : String :=
  if looksLikeDrivePath text then redactedText else redactText redaction text

def retrievalProvenanceKey : String := "retrieval_provenance"

def rerankProvenanceKey : String := "rerank_provenance"

/-- A member that the fusion leaves out. -/
def isDropped (provenanceKey key : String) (value : Json) : Bool :=
  isSensitiveMetadataKey redaction provenanceKey key || isSensitiveKey key ||
    isRedacted redaction value

mutual

/-- `_safe_value` of the fusion, on a value that is redacted first. -/
def fusionValue : Json → Json
  | .obj members => .obj (fusionMembers members)
  | .arr items => .arr (fusionItems items)
  | .str text => .str (safeText redaction (redactText redaction text))
  | value => value

def fusionItems : List Json → List Json
  | [] => []
  | item :: rest => fusionValue item :: fusionItems rest

/-- `_safe_metadata` of the fusion. -/
def fusionMembers : List (String × Json) → List (String × Json)
  | [] => []
  | (key, value) :: rest =>
    if isDropped redaction retrievalProvenanceKey key value then fusionMembers rest
    else (key, fusionValue value) :: fusionMembers rest

end

mutual

/-- `_safe_value` of the reranker. -/
def rerankValue : Json → Json
  | .obj members => .obj (rerankNested members)
  | .arr items => .arr (rerankItems items)
  | .str text => .str (safeText redaction text)
  | value => value

def rerankItems : List Json → List Json
  | [] => []
  | item :: rest => rerankValue item :: rerankItems rest

def rerankNested : List (String × Json) → List (String × Json)
  | [] => []
  | (key, value) :: rest =>
    if isSensitiveMetadataKey redaction rerankProvenanceKey key then rerankNested rest
    else (key, rerankValue value) :: rerankNested rest

end

def provenanceKeys : List String :=
  ["retrieval_methods", "sources", "raw_rrf_score", "normalized_fusion_score", "fusion_reason"]

/-- `_safe_retrieval_provenance`. -/
def safeRetrievalProvenance (members : List (String × Json)) : List (String × Json) :=
  (members.filter fun member => member.1 ∈ provenanceKeys &&
    !isSensitiveMetadataKey redaction rerankProvenanceKey member.1).map fun member =>
      (member.1, rerankValue redaction member.2)

/-- What the fusion makes of one member. -/
def fusionMember (member : String × Json) : Option (String × Json) :=
  if isDropped redaction retrievalProvenanceKey member.1 member.2 then none
  else some (member.1, fusionValue redaction member.2)

theorem fusionMembers_eq_filterMap (members : List (String × Json)) :
    fusionMembers redaction members = members.filterMap (fusionMember redaction) := by
  induction members with
  | nil => rfl
  | cons member rest ih =>
    obtain ⟨_, _⟩ := member
    rw [fusionMembers, List.filterMap_cons, fusionMember, ih]
    split <;> rfl

/-- What the reranker makes of one member; the provenance of the fusion is kept. -/
def rerankMember (member : String × Json) : Option (String × Json) :=
  match member with
  | (key, .obj members) =>
    if key = retrievalProvenanceKey then
      some (key, .obj (safeRetrievalProvenance redaction members))
    else if isDropped redaction rerankProvenanceKey key (.obj members) then none
    else some (key, rerankValue redaction (redact redaction (.obj members)))
  | (key, value) =>
    if isDropped redaction rerankProvenanceKey key value then none
    else some (key, rerankValue redaction (redact redaction value))

/-- `_safe_metadata` of the reranker. -/
def rerankMembers (members : List (String × Json)) : List (String × Json) :=
  members.filterMap (rerankMember redaction)

end

/-! ## Fusion -/

/-- `HybridMergeConfig`. -/
structure HybridMergeConfig where
  rankConstant : ℚ := 60
  denseWeight : ℚ := 1
  sparseWeight : ℚ := 1
  minFusionScore : Option ℚ := none
  maxCandidatesPerBranch : Option Nat := none

inductive Branch where
  | dense
  | sparse
deriving DecidableEq

def Branch.name : Branch → String
  | .dense => "dense"
  | .sparse => "sparse"

/-- `FusionSource`. -/
structure FusionSource where
  branch : Branch
  rank : Nat
  score : Score
  weight : ℚ
  contribution : ℚ

/-- `_FusionBucket`. -/
structure FusionBucket where
  candidate : RetrievalCandidate
  sources : List FusionSource

section

variable (python : Rendering) (redaction : Redaction) (config : HybridMergeConfig)
  (request : RetrievalRequest) (filters : RetrievalFilterSet)

/-- `_candidate_in_scope`. -/
def candidateInScope (candidate : RetrievalCandidate) : Bool :=
  candidate.tenantId = filters.auth.tenantId &&
    metadataMatches candidate.metadata filters.metadataFilter &&
    aclAllows python candidate.acl (toVectorAclFilter filters)

def HybridMergeConfig.weight : Branch → ℚ
  | .dense => config.denseWeight
  | .sparse => config.sparseWeight

/-- A bucket takes one source from each branch, and a content if it has none. -/
def FusionBucket.extend (candidate : RetrievalCandidate) (source : FusionSource)
    (bucket : FusionBucket) : FusionBucket :=
  if bucket.candidate.identity = candidate.identity ∧
      bucket.sources.all (·.branch ≠ source.branch) then
    { candidate := { bucket.candidate with
        content := if bucket.candidate.content = "" then candidate.content
          else bucket.candidate.content }
      sources := bucket.sources ++ [source] }
  else bucket

@[simp] theorem FusionBucket.identity_extend (candidate : RetrievalCandidate)
    (source : FusionSource) (bucket : FusionBucket) :
    (bucket.extend candidate source).candidate.identity = bucket.candidate.identity := by
  unfold FusionBucket.extend
  split <;> rfl

@[simp] theorem FusionBucket.candidateInScope_extend (candidate : RetrievalCandidate)
    (source : FusionSource) (bucket : FusionBucket) :
    candidateInScope python filters (bucket.extend candidate source).candidate =
      candidateInScope python filters bucket.candidate := by
  unfold FusionBucket.extend
  split <;> rfl

/-- What a candidate at some rank of a branch contributes. -/
def fusionSource (branch : Branch) (ranked : RetrievalCandidate × Nat) : FusionSource where
  branch := branch
  rank := ranked.2
  score := ranked.1.score
  weight := config.weight branch
  contribution := config.weight branch / (config.rankConstant + ranked.2)

/-- One candidate of a branch enters the buckets. -/
def enterBucket (branch : Branch) (buckets : List FusionBucket)
    (ranked : RetrievalCandidate × Nat) : List FusionBucket :=
  if !candidateInScope python filters ranked.1 then buckets
  else if buckets.any (·.candidate.identity = ranked.1.identity) then
    buckets.map (FusionBucket.extend ranked.1 (fusionSource config branch ranked))
  else buckets ++ [⟨ranked.1, [fusionSource config branch ranked]⟩]

/-- The loop over one branch, whose candidates are ranked from one. -/
def enterBranch (branch : Branch) (candidates : List RetrievalCandidate)
    (buckets : List FusionBucket) : List FusionBucket :=
  let limited := match config.maxCandidatesPerBranch with
    | none => candidates
    | some limit => candidates.take limit
  (limited.zipIdx 1).foldl (enterBucket python config filters branch) buckets

/-- A fused candidate with the parts of its sort key. -/
structure FusedCandidate where
  candidate : RetrievalCandidate
  score : ℚ
  rawScore : ℚ
  sourceCount : Nat
  bestRank : Nat

/-- `_fusion_reason`. -/
def fusionReason (branches : List Branch) : String :=
  if .dense ∈ branches ∧ .sparse ∈ branches then "dense_sparse_overlap"
  else if .dense ∈ branches then "dense_only"
  else "sparse_only"

def scoreJson : Score → Json
  | .finite value => .float value
  | _ => .null

/-- The provenance that a fused candidate carries. -/
def provenance (bucket : FusionBucket) (raw normalized : ℚ) : Json :=
  .obj [
    ("retrieval_methods", .arr (bucket.sources.map fun source => .str source.branch.name)),
    ("sources", .arr (bucket.sources.map fun source => .obj [
      ("retrieval_method", .str source.branch.name), ("rank", Json.ofNat source.rank),
      ("score", scoreJson source.score), ("weight", .float source.weight),
      ("contribution", .float source.contribution)])),
    ("raw_rrf_score", .float raw),
    ("normalized_fusion_score", .float normalized),
    ("fusion_reason", .str (fusionReason (bucket.sources.map (·.branch))))]

/-- `_fused_candidate`. -/
def fusedCandidate (bucket : FusionBucket) : FusedCandidate :=
  let raw := (bucket.sources.map (·.contribution)).sum
  let normalized :=
    min 1 (max 0 (raw / ((config.denseWeight + config.sparseWeight) / (config.rankConstant + 1))))
  { candidate := { bucket.candidate with
      score := .finite normalized
      retrievalMethod := "hybrid"
      metadata := fusionMembers redaction bucket.candidate.metadata ++
        [(retrievalProvenanceKey, provenance bucket raw normalized)] }
    score := normalized
    rawScore := raw
    sourceCount := bucket.sources.length
    bestRank := ((bucket.sources.map (·.rank)).min?).getD 0 }

/-- `_effective_threshold`. -/
def effectiveThreshold : Option ℚ :=
  match request.scoreThreshold, config.minFusionScore with
  | some first, some second => some (max first second)
  | first, second => first.or second

def fusedBefore (left right : FusedCandidate) : Prop :=
  if left.score ≠ right.score then right.score < left.score
  else if left.rawScore ≠ right.rawScore then right.rawScore < left.rawScore
  else if left.sourceCount ≠ right.sourceCount then right.sourceCount < left.sourceCount
  else if left.bestRank ≠ right.bestRank then left.bestRank < right.bestRank
  else if left.candidate.tenantId ≠ right.candidate.tenantId then
    left.candidate.tenantId < right.candidate.tenantId
  else if left.candidate.documentId ≠ right.candidate.documentId then
    left.candidate.documentId < right.candidate.documentId
  else if left.candidate.versionId ≠ right.candidate.versionId then
    left.candidate.versionId < right.candidate.versionId
  else left.candidate.chunkId ≤ right.candidate.chunkId

instance : DecidableRel fusedBefore := fun left right => by
  unfold fusedBefore
  infer_instance

def fusionBuckets (dense sparse : List RetrievalCandidate) : List FusionBucket :=
  enterBranch python config filters .sparse sparse
    (enterBranch python config filters .dense dense [])

/-- `RRFMerger.merge`. -/
def merge (dense sparse : List RetrievalCandidate) : List RetrievalCandidate :=
  let fused := (fusionBuckets python config filters dense sparse).map
    (fusedCandidate redaction config)
  let kept := fused.filter fun candidate =>
    !(effectiveThreshold config request).any (candidate.score < ·)
  ((kept.insertionSort fusedBefore).take request.topK).map (·.candidate)

end

/-! ## Reranking -/

/-- `RerankConfig`, as far as the selection of candidates reads it. -/
structure RerankConfig where
  enabled : Bool := true
  fallback : Bool := true
  maxCandidates : Nat

inductive RerankError where
  | invalidCandidate
  | invalidScore
  | failed
deriving DecidableEq

/-- `_score_in_range`. -/
def scoreInRange : Score → Bool
  | .finite value => 0 ≤ value && value ≤ 1
  | _ => false

section

variable (python : Rendering) (redaction : Redaction) (config : RerankConfig)
  (request : RetrievalRequest) (filters : RetrievalFilterSet)

/-- One candidate of the guard, with the sanitized ones before it. -/
def guardStep (seen : List (String × String × String × String) × List RetrievalCandidate)
    (candidate : RetrievalCandidate) :
    Except RerankError (List (String × String × String × String) × List RetrievalCandidate) :=
  if candidate.identity ∈ seen.1 then .error .invalidCandidate
  else if !candidateInScope python filters candidate then .error .invalidCandidate
  else if !scoreInRange candidate.score then .error .invalidScore
  else .ok (seen.1 ++ [candidate.identity],
    seen.2 ++ [{ candidate with metadata := rerankMembers redaction candidate.metadata }])

/-- `_guard_and_sanitize_upstream_candidates`. -/
def guardAndSanitize (candidates : List RetrievalCandidate) :
    Except RerankError (List RetrievalCandidate) := do
  let checked ← candidates.foldlM (guardStep python redaction filters) ([], [])
  .ok checked.2

/-- `_candidate_with_rerank`; the provenance records the provider's answer. -/
def candidateWithRerank (original : RetrievalCandidate) (score : Score)
    (provenance : List (String × Json)) : RetrievalCandidate :=
  { original with
    score := score
    metadata := rerankMembers redaction original.metadata ++
      [(rerankProvenanceKey, .obj provenance)] }

/-- One candidate of `_validated_candidates`: it must be one of the originals, once, and
have a score in range. -/
def validatedStep (originals : List RetrievalCandidate)
    (provenance : RetrievalCandidate → List (String × Json))
    (output : List RetrievalCandidate) (reranked : RetrievalCandidate) :
    Except RerankError (List RetrievalCandidate) :=
  match originals.find? (·.identity = reranked.identity) with
  | none => .error .invalidCandidate
  | some original =>
    if output.any (·.identity = original.identity) then .error .invalidCandidate
    else if !scoreInRange reranked.score then .error .invalidScore
    else .ok (output ++ [candidateWithRerank redaction original reranked.score
      (provenance reranked)])

/-- `_validated_candidates`. -/
def validatedCandidates (originals : List RetrievalCandidate)
    (provenance : RetrievalCandidate → List (String × Json))
    (reranked : List RetrievalCandidate) : Except RerankError (List RetrievalCandidate) :=
  if reranked.length ≠ originals.length then .error .invalidCandidate
  else reranked.foldlM (validatedStep redaction originals provenance) []

/-- `_disabled_candidates` and `_fallback_candidates`: copies in the order of arrival. -/
def unrankedCandidates (originals : List RetrievalCandidate)
    (provenance : RetrievalCandidate → List (String × Json)) : List RetrievalCandidate :=
  (originals.map fun original =>
    candidateWithRerank redaction original original.score (provenance original)).take request.topK

/-- The reranker's answer, if it is one. -/
def rerankAnswer (originals guarded : List RetrievalCandidate)
    (reranker : List RetrievalCandidate → Option (List RetrievalCandidate))
    (provenance : RetrievalCandidate → List (String × Json)) :
    Except RerankError (List RetrievalCandidate) :=
  match reranker guarded with
  | none => .error .failed
  | some reranked => validatedCandidates redaction originals provenance reranked

/-- `RerankingRetriever.retrieve` on the candidates from upstream. The reranker may
answer with anything, or not at all. -/
def rerankingRetrieve (upstream : List RetrievalCandidate)
    (reranker : List RetrievalCandidate → Option (List RetrievalCandidate))
    (provenance : RetrievalCandidate → List (String × Json)) :
    Except RerankError (List RetrievalCandidate) := do
  let guarded ← guardAndSanitize python redaction filters (upstream.take config.maxCandidates)
  if !config.enabled then
    .ok (unrankedCandidates redaction request (upstream.take config.maxCandidates) provenance)
  else match (rerankAnswer redaction (upstream.take config.maxCandidates) guarded reranker
      provenance) with
    | .ok output => .ok (output.take request.topK)
    | .error raised =>
      if config.fallback then
        .ok (unrankedCandidates redaction request (upstream.take config.maxCandidates) provenance)
      else .error raised

end

end AegisRag.Retrieval

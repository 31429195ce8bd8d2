import AegisRag.Data.Records
import AegisRag.Semantics.Loop

/-!
# Hydration of candidates

`packages/rag/hydration.py`: a retrieved candidate is replaced by the stored chunk it
names, after the two were compared and the access lists of both were checked.
-/

namespace AegisRag.Rag

open Semantics Auth Vectorstores Retrieval Data

/-- Why a chunk may not stand for a candidate. -/
inductive ChunkReason where
  | tenantMismatch
  | identityMismatch
  | inactiveChunk
  | sourceTypeMismatch
  | sourceUriMismatch
  | titlePathMismatch
  | pageMismatch
  | aclDenied
  | candidateAclDenied
deriving DecidableEq

/-- What ends a hydration: no chunk, one that does not fit, or fields that the
constructor of a context candidate refuses. -/
inductive HydrationError where
  | missing
  | invalid (reason : ChunkReason)
  | rejected
deriving DecidableEq

section

variable (python : Rendering) (auth : AuthContext)

/-- `_invalid_chunk_reason`. -/
def invalidChunkReason (candidate : RetrievalCandidate) (chunk : ChunkRecord) :
    Option ChunkReason :=
  if chunk.tenantId ≠ auth.tenantId ∨ candidate.tenantId ≠ auth.tenantId then some .tenantMismatch
  else if chunk.documentId ≠ candidate.documentId ∨ chunk.versionId ≠ candidate.versionId ∨
      chunk.chunkId ≠ candidate.chunkId then some .identityMismatch
  else if chunk.status ≠ "active" ∨ chunk.deletedAt ≠ none then some .inactiveChunk
  else if chunk.sourceType ≠ candidate.sourceType then some .sourceTypeMismatch
  else if disagree candidate.sourceUri chunk.sourceUri then some .sourceUriMismatch
  else if chunk.titlePath ≠ candidate.titlePath then some .titlePathMismatch
  else if chunk.pageStart ≠ candidate.pageStart ∨ chunk.pageEnd ≠ candidate.pageEnd then
    some .pageMismatch
  else if !aclAllows python chunk.acl (aclFilterFromAuth auth) then some .aclDenied
  else if !aclAllows python candidate.acl (aclFilterFromAuth auth) then some .candidateAclDenied
  else none

/-- A chunk that stands for a candidate. -/
structure Stands (candidate : RetrievalCandidate) (chunk : ChunkRecord) : Prop where
  tenant : chunk.tenantId = auth.tenantId ∧ candidate.tenantId = auth.tenantId
  identity : chunk.documentId = candidate.documentId ∧ chunk.versionId = candidate.versionId ∧
    chunk.chunkId = candidate.chunkId
  active : chunk.status = "active" ∧ chunk.deletedAt = none
  sourceType : chunk.sourceType = candidate.sourceType
  sourceUri : disagree candidate.sourceUri chunk.sourceUri = false
  titlePath : chunk.titlePath = candidate.titlePath
  pages : chunk.pageStart = candidate.pageStart ∧ chunk.pageEnd = candidate.pageEnd
  chunkAcl : aclAllows python chunk.acl (aclFilterFromAuth auth) = true
  candidateAcl : aclAllows python candidate.acl (aclFilterFromAuth auth) = true

variable {python auth} {candidate : RetrievalCandidate} {chunk : ChunkRecord}

theorem invalidChunkReason_eq_none :
    invalidChunkReason python auth candidate chunk = none ↔ Stands python auth candidate chunk := by
  constructor
  · intro passed
    unfold invalidChunkReason at passed
    simp only [ite_eq_right_iff, reduceCtorEq, imp_false, not_or, not_not, Bool.not_eq_true,
      Bool.not_eq_false', ite_eq_iff, false_or, and_false] at passed
    obtain ⟨tenant, identity, active, sourceType, sourceUri, titlePath, pages, chunkAcl,
      candidateAcl⟩ := passed
    exact ⟨tenant, identity, active, sourceType, sourceUri, titlePath, pages, chunkAcl,
      candidateAcl⟩
  · intro stands
    simp [invalidChunkReason, stands.tenant, stands.identity, stands.active, stands.sourceType,
      stands.sourceUri, stands.titlePath, stands.pages, stands.chunkAcl, stands.candidateAcl]

end

/-- `_normalize_score`. -/
def normalizeScore : Score → ℚ
  | .nan | .negativeInfinity | .positiveInfinity => 0
  | .finite value => if value < 0 then 0 else if 1 < value then 1 else value

/-- The members that `_safe_hydration_metadata` keeps. -/
def hydratedKeys : List String :=
  ["chunk_index", "sequence", "parent_chunk_id", "child_chunk_ids", "neighbor_prev_chunk_id",
    "neighbor_next_chunk_id", "retrieval_provenance", "rerank_provenance"]

/-- The arguments of `_context_candidate`. -/
def contextFields (candidate : RetrievalCandidate) (chunk : ChunkRecord) : ContextFields where
  content := chunk.content
  tokenCount := chunk.tokenCount
  documentId := candidate.documentId
  versionId := candidate.versionId
  chunkId := candidate.chunkId
  tenantId := candidate.tenantId
  acl := chunk.acl
  source := candidate.source
  sourceUri := chunk.sourceUri.or candidate.sourceUri
  sourceType := chunk.sourceType
  pageStart := chunk.pageStart
  pageEnd := chunk.pageEnd
  titlePath := chunk.titlePath
  score := normalizeScore candidate.score
  retrievalMethod := candidate.retrievalMethod
  metadata := candidate.metadata.filter fun member => member.1 ∈ hydratedKeys

section

variable (python : Rendering) (repository : Repository) (auth : AuthContext)

/-- One candidate of `hydrate`. -/
def hydrateOne (candidate : RetrievalCandidate) : Except HydrationError ContextCandidate :=
  match repository.getChunk auth.tenantId candidate.documentId candidate.versionId
      candidate.chunkId with
  | none => .error .missing
  | some chunk => match invalidChunkReason python auth candidate chunk with
      | some reason => .error (.invalid reason)
      | none => match ContextCandidate.validated (contextFields candidate chunk) with
          | none => .error .rejected
          | some hydrated => .ok hydrated

/-- `RetrievalCandidateHydrator.hydrate`. -/
def hydrate (candidates : List RetrievalCandidate) :
    Except HydrationError (List ContextCandidate) :=
  candidates.mapM (hydrateOne python repository auth)

/-- A context candidate that a stored chunk was read into. -/
structure Hydrates (candidate : RetrievalCandidate) (chunk : ChunkRecord)
    (hydrated : ContextCandidate) : Prop where
  stored : repository.getChunk auth.tenantId candidate.documentId candidate.versionId
    candidate.chunkId = some chunk
  stands : Stands python auth candidate chunk
  fields : hydrated.toContextFields = (contextFields candidate chunk).normalized

variable {python repository auth}

theorem hydrateOne_eq_ok (ran : hydrateOne python repository auth candidate = .ok hydrated) :
    ∃ chunk, Hydrates python repository auth candidate chunk hydrated := by
  unfold hydrateOne at ran
  split at ran
  · cases ran
  · rename_i chunk stored
    split at ran
    · cases ran
    · rename_i passed
      split at ran
      · cases ran
      · rename_i built
        cases ran
        exact ⟨chunk, stored, invalidChunkReason_eq_none.mp passed,
          ContextCandidate.validated_eq_some built⟩

end

end AegisRag.Rag

import AegisRag.Retrieval.Filters

/-!
# The retrieval service

`packages/retrieval/service.py`: what the service keeps of the candidates that a
retriever returns. A candidate of another tenant ends the request; one that misses the
threshold, the metadata filter or the access list is passed over. Copies of candidates
are not validated again, so nothing is assumed of one here.
-/

namespace AegisRag.Retrieval

open Semantics Auth Vectorstores

instance lawfulBEqKey : LawfulBEq (String × String × String × String) := inferInstance

/-- The members of a metadata object. -/
abbrev Metadata := List (String × Json)

/-- A floating-point score. -/
inductive Score where
  | nan
  | negativeInfinity
  | positiveInfinity
  | finite (value : ℚ)
deriving DecidableEq

/-- The comparison `score < threshold`, which is false of a NaN. -/
def Score.isBelow (threshold : ℚ) : Score → Bool
  | .nan | .positiveInfinity => false
  | .negativeInfinity => true
  | .finite value => value < threshold

/-- `RetrievalCandidate`. -/
structure RetrievalCandidate where
  documentId : String
  versionId : String
  chunkId : String
  source : Option String
  sourceType : String
  sourceUri : Option String
  pageStart : Option Int
  pageEnd : Option Int
  titlePath : List String
  score : Score
  retrievalMethod : String
  tenantId : String
  acl : Acl
  metadata : Metadata
  content : String := ""

/-- `RetrievalRequest`, as far as the selection of candidates reads it. -/
structure RetrievalRequest where
  topK : Nat
  metadataFilter : Metadata
  scoreThreshold : Option ℚ
  topK_bounds : 0 < topK ∧ topK ≤ 100
  scoreThreshold_bounds : ∀ threshold, scoreThreshold = some threshold →
    0 ≤ threshold ∧ threshold ≤ 1

/-- The exact value of a number; Python counts a truth value as one. -/
def number : Json → Option ℚ
  | .bool value => some (if value then 1 else 0)
  | .int value => some value
  | .float value => some value
  | _ => none

/-- The comparison `metadata.get(key) == value` with a scalar value. -/
def equalsScalar (stored : Option Json) : Json → Bool
  | .null => match stored with
      | none | some .null => true
      | _ => false
  | .str text => match stored with
      | some (.str other) => other = text
      | _ => false
  | value => match number value, stored.bind number with
      | some required, some found => required = found
      | _, _ => false

/-- `_metadata_matches`. -/
def metadataMatches (metadata required : Metadata) : Bool :=
  required.all fun member => equalsScalar (metadata.lookup member.1) member.2

inductive RetrievalError where
  | forbiddenFilter
  | outOfScope
deriving DecidableEq

section

variable (python : Rendering) (request : RetrievalRequest) (auth : AuthContext)
  (filters : RetrievalFilterSet)

/-- The checks after which a candidate of the tenant is kept. -/
def isSafe (candidate : RetrievalCandidate) : Bool :=
  !request.scoreThreshold.any (Score.isBelow · candidate.score) &&
    metadataMatches candidate.metadata filters.metadataFilter &&
    aclAllows python candidate.acl (toVectorAclFilter filters)

/-- The loop of `_safe_candidates`, with what it has kept so far. -/
def safeCandidates.loop : List RetrievalCandidate → List RetrievalCandidate →
    Except RetrievalError (List RetrievalCandidate)
  | [], safe => .ok safe
  | candidate :: rest, safe =>
    if candidate.tenantId ≠ auth.tenantId then .error .outOfScope
    else if isSafe python request filters candidate then
      if request.topK ≤ (safe ++ [candidate]).length then .ok (safe ++ [candidate])
      else loop rest (safe ++ [candidate])
    else loop rest safe

/-- `_safe_candidates`. -/
def safeCandidates (candidates : List RetrievalCandidate) :
    Except RetrievalError (List RetrievalCandidate) :=
  safeCandidates.loop python request auth filters candidates []

end

/-- `RetrievalService.retrieve`: the retriever answers for the filters of the request. -/
def retrieve (python : Rendering) (request : RetrievalRequest) (auth : AuthContext)
    (retriever : RetrievalFilterSet → List RetrievalCandidate) :
    Except RetrievalError (List RetrievalCandidate) :=
  match buildRetrievalFilterSet auth request.metadataFilter with
  | .error _ => .error .forbiddenFilter
  | .ok filters => safeCandidates python request auth filters (retriever filters)

end AegisRag.Retrieval

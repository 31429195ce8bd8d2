import AegisRag.Rag.Dto
import AegisRag.Semantics.Loop

/-!
# The context packer

`packages/rag/context_packer.py`. Candidates are taken by falling score while they fit
the token budget; each one taken may bring in related chunks. One that is not authorized
ends the packing. Python's `repr` of a member of an access list and the number that a text
of digits denotes are parameters.
-/

namespace AegisRag.Rag

open Semantics Auth Vectorstores Retrieval

/-- Why the packer refused a candidate. -/
inductive DenialReason where
  | tenantMismatch
  | aclDenied
deriving DecidableEq

/-- The errors of the packer, with the candidate their details describe. -/
inductive PackingError where
  | unauthorizedChunk (candidate : ContextCandidate) (reason : DenialReason)
  | budgetExceeded (candidate : ContextCandidate)

/-- `_SelectedCandidate`. -/
structure SelectedCandidate where
  candidate : ContextCandidate
  reason : InclusionReason
  order : Nat

/-- The variables of the packing loop. -/
structure PackState where
  selected : List SelectedCandidate := []
  dropped : List ContextDroppedCandidate := []
  totalTokens : Int := 0
  authorizedCount : Nat := 0

namespace ContextCandidate

variable (candidate : ContextCandidate)

/-- `_candidate_identity`. -/
def identity : String × String × String × String :=
  (candidate.tenantId, candidate.documentId, candidate.versionId, candidate.chunkId)

/-- The comparison of the keys that candidates are sorted by. -/
def sortsBefore (left right : ContextCandidate) : Prop :=
  if left.score ≠ right.score then right.score < left.score
  else if left.documentId ≠ right.documentId then left.documentId < right.documentId
  else if left.versionId ≠ right.versionId then left.versionId < right.versionId
  else left.chunkId ≤ right.chunkId

instance : DecidableRel sortsBefore := fun left right => by
  unfold sortsBefore
  infer_instance

/-- `_invalid_reason` finds something to refuse. -/
def isInvalid : Bool :=
  strip candidate.content = "" || candidate.tokenCount ≤ 0 || candidate.score < 0 ||
    1 < candidate.score || candidate.titlePath = [] ||
      match candidate.pageStart, candidate.pageEnd with
      | none, none => false
      | some first, some last => first < 1 || last < first
      | _, _ => true

/-- The validators have checked all of it before. -/
theorem isInvalid_eq_false : candidate.isInvalid = false := by
  have trimmed : strip candidate.content = candidate.content :=
    congrArg ContextFields.content candidate.trimmed
  have filled : candidate.content ≠ "" :=
    candidate.accepted.requiredTexts _ (by simp [ContextFields.requiredTexts])
  have tokens := candidate.accepted.tokenCount
  have score := candidate.accepted.score
  have titlePath := candidate.accepted.titlePath
  have pages := candidate.accepted.pages
  have noBadPages : (match candidate.pageStart, candidate.pageEnd with
      | none, none => false
      | some first, some last => decide (first < 1) || decide (last < first)
      | _, _ => true) = false := by
    revert pages
    cases candidate.pageStart <;> cases candidate.pageEnd <;> intro pages
    · rfl
    · cases pages
    · cases pages
    · have := validPages_some pages
      simp only [Bool.or_eq_false_iff, decide_eq_false_iff_not]
      omega
  rw [isInvalid, noBadPages, trimmed]
  simp [filled, titlePath, tokens, score.1, score.2]

/-- `_metadata_text`. -/
def metadataText (key : String) : Option String :=
  match candidate.metadata.lookup key with
  | some (.str value) => optionalText (some value)
  | _ => none

/-- `_metadata_texts`. -/
def metadataTexts (python : Rendering) (key : String) : List String :=
  match candidate.metadata.lookup key with
  | some (.str value) => texts [value]
  | some (.arr items) => texts (items.map python.str)
  | _ => []

/-- `_same_lineage`. -/
def sameLineage (left right : ContextCandidate) : Bool :=
  left.tenantId = right.tenantId && left.documentId = right.documentId &&
    left.versionId = right.versionId && left.titlePath = right.titlePath

end ContextCandidate

/-- `_is_safe_identifier`. -/
def isSafeIdentifier (value : String) : Bool :=
  match value.toList with
  | [] => false
  | first :: rest => first.isAlphanum && rest.length ≤ 127 &&
      rest.all fun char => char.isAlphanum || char ∈ ['.', '_', ':', '-']

/-! ## The selection -/

section

variable (python : Rendering) (auth : AuthContext) (config : ContextPackingConfig)
  (relatedChunks : List (String × ContextCandidate))

/-- A candidate that `_authorize_or_raise` lets through. -/
def Authorized (candidate : ContextCandidate) : Prop :=
  candidate.tenantId = auth.tenantId ∧
    aclAllows python candidate.acl (aclFilterFromAuth auth) = true

instance (candidate : ContextCandidate) : Decidable (Authorized python auth candidate) :=
  inferInstanceAs (Decidable (_ ∧ _))

/-- `_authorize_or_raise`. -/
def authorize (candidate : ContextCandidate) : Except PackingError Unit :=
  if candidate.tenantId ≠ auth.tenantId then .error (.unauthorizedChunk candidate .tenantMismatch)
  else if !aclAllows python candidate.acl (aclFilterFromAuth auth) then
    .error (.unauthorizedChunk candidate .aclDenied)
  else .ok ()

def PackState.drop (state : PackState) (reason : DropReason)
    (identity : String × String × String × String) (relatedReason : Option InclusionReason) :
    PackState :=
  { state with dropped := state.dropped ++ [⟨reason, some identity, relatedReason⟩] }

def PackState.select (state : PackState) (candidate : ContextCandidate)
    (reason : InclusionReason) : PackState :=
  { state with
    selected := state.selected ++ [⟨candidate, reason, state.selected.length⟩]
    totalTokens := state.totalTokens + candidate.tokenCount }

def PackState.countAuthorized (state : PackState) : PackState :=
  { state with authorizedCount := state.authorizedCount + 1 }

/-- The end of both loops: a chunk that is new and fits the budget is selected. The flag
says whether it was. -/
def place (candidate : ContextCandidate) (reason : InclusionReason)
    (relatedReason : Option InclusionReason) (state : PackState) :
    Except PackingError (PackState × Bool) :=
  if candidate.identity ∈ state.selected.map (·.candidate.identity) then
    .ok (state.drop .duplicate candidate.identity relatedReason, false)
  else if config.maxTokens < candidate.tokenCount then
    if config.failClosed then .error (.budgetExceeded candidate)
    else .ok (state.drop .oversized candidate.identity relatedReason, false)
  else if config.maxTokens < state.totalTokens + candidate.tokenCount then
    .ok (state.drop .budgetExceeded candidate.identity relatedReason, false)
  else .ok (state.select candidate reason, true)

/-- `_related_chunk_requests`. -/
def relatedChunkRequests (candidate : ContextCandidate) : List (String × InclusionReason) :=
  (if config.includeParentContext then
    ((candidate.metadataText "parent_chunk_id").toList.map (·, .parentContext)) else []) ++
  (if config.includeChildContext then
    ((candidate.metadataTexts python "child_chunk_ids").map (·, .childContext)) else []) ++
  (if config.includeNeighborContext then
    (((candidate.metadataText "neighbor_prev_chunk_id").toList ++
      (candidate.metadataText "neighbor_next_chunk_id").toList).map (·, .neighborContext)) else [])

/-- The other end of a link is set and names another chunk. -/
def contradicts (link : Option String) (chunkId : String) : Bool := link.any (· ≠ chunkId)

/-- `_invalid_related_reason`. -/
def invalidRelatedReason (primary related : ContextCandidate) (requestedId : String)
    (reason : InclusionReason) : Option DropReason :=
  if related.chunkId ≠ requestedId then some .invalidRelatedIdentity
  else if !primary.sameLineage related then some .invalidRelatedLineage
  else match reason with
  | .parentContext =>
    let childIds := related.metadataTexts python "child_chunk_ids"
    if childIds ≠ [] ∧ primary.chunkId ∉ childIds then some .invalidRelatedMetadata else none
  | .childContext =>
    if contradicts (related.metadataText "parent_chunk_id") primary.chunkId then
      some .invalidRelatedMetadata else none
  | .neighborContext =>
    if some requestedId = primary.metadataText "neighbor_prev_chunk_id" then
      if contradicts (related.metadataText "neighbor_next_chunk_id") primary.chunkId then
        some .invalidRelatedMetadata else none
    else if some requestedId = primary.metadataText "neighbor_next_chunk_id" then
      if contradicts (related.metadataText "neighbor_prev_chunk_id") primary.chunkId then
        some .invalidRelatedMetadata else none
    else some .invalidRelatedMetadata
  | .retrievalCandidate => none

/-- `_safe_diagnostic_id`. -/
def safeDiagnosticId (value : String) : String :=
  if isSafeIdentifier value then value else "[REDACTED]"

/-- What the drop record names of a related chunk that was not looked up. -/
def requestedIdentity (primary : ContextCandidate) (id : String) :
    String × String × String × String :=
  (primary.tenantId, primary.documentId, primary.versionId, safeDiagnosticId id)

/-- One related chunk that was asked for. -/
def relatedStep (primary : ContextCandidate) (state : PackState)
    (request : String × InclusionReason) : Except PackingError PackState :=
  if !isSafeIdentifier request.1 then
    .ok (state.drop .invalidRelatedId (requestedIdentity primary request.1) (some request.2))
  else match relatedChunks.lookup request.1 with
  | none =>
    .ok (state.drop .missingRelated (requestedIdentity primary request.1) (some request.2))
  | some related =>
    if related.isInvalid then
      .ok (state.drop .invalidCandidate related.identity (some request.2))
    else do
      authorize python auth related
      match invalidRelatedReason python primary related request.1 request.2 with
      | some reason =>
        .ok (state.countAuthorized.drop reason related.identity (some request.2))
      | none => do
        let placed ← place config related request.2 (some request.2) state.countAuthorized
        .ok placed.1

/-- The chunks related to a selected candidate, as many as the configuration allows. -/
def relatedLoop (primary : ContextCandidate) (state : PackState) : Except PackingError PackState :=
  ((relatedChunkRequests python config primary).take config.maxRelatedChunksPerCandidate).foldlM
    (relatedStep python auth config relatedChunks primary) state

/-- One retrieved candidate. -/
def primaryStep (state : PackState) (candidate : ContextCandidate) :
    Except PackingError PackState :=
  if candidate.isInvalid then .ok (state.drop .invalidCandidate candidate.identity none)
  else do
    authorize python auth candidate
    let placed ← place config candidate .retrievalCandidate none state.countAuthorized
    if placed.2 then relatedLoop python auth config relatedChunks candidate placed.1
    else .ok placed.1

/-- The packing loop. -/
def select (candidates : List ContextCandidate) : Except PackingError PackState :=
  (candidates.insertionSort ContextCandidate.sortsBefore).foldlM
    (primaryStep python auth config relatedChunks) {}

end

/-! ## The items -/

section

variable (repr : Json → String) (digits : String → Option Int)

/-- `_sequence`. -/
def sequenceNumber (candidate : ContextCandidate) : Option Int :=
  ["chunk_index", "sequence"].findSome? fun key =>
    match candidate.metadata.lookup key with
    | some (.int value) => some value
    | some (.str value) => digits (strip value)
    | _ => none

/-- What two chunks must share to be merged. -/
structure MergeKey where
  tenantId : String
  documentId : String
  versionId : String
  titlePath : List String
  acl : List (String × String)
deriving DecidableEq

/-- `_merge_key`. -/
def mergeKey (candidate : ContextCandidate) : MergeKey where
  tenantId := candidate.tenantId
  documentId := candidate.documentId
  versionId := candidate.versionId
  titlePath := candidate.titlePath
  acl := (candidate.acl.map fun member => (member.1, repr member.2)).insertionSort
    fun left right => left.1 < right.1 ∨ left.1 = right.1 ∧ left.2 ≤ right.2

/-- The first two parts of `_adjacency_sort_key`. -/
def adjacencyRank (candidate : ContextCandidate) : Nat × Int :=
  match sequenceNumber digits candidate, candidate.pageStart with
  | some number, _ => (0, number)
  | none, some page => (1, page)
  | none, none => (2, 0)

/-- The comparison of the keys that a group is sorted by. -/
def adjacencyBefore (left right : SelectedCandidate) : Prop :=
  let first := adjacencyRank digits left.candidate
  let second := adjacencyRank digits right.candidate
  first.1 < second.1 ∨ first.1 = second.1 ∧ (first.2 < second.2 ∨
    first.2 = second.2 ∧ left.candidate.chunkId ≤ right.candidate.chunkId)

instance : DecidableRel (adjacencyBefore digits) := fun left right => by
  unfold adjacencyBefore
  infer_instance

/-- `_are_adjacent`. -/
def areAdjacent (left right : ContextCandidate) : Bool :=
  if mergeKey repr left ≠ mergeKey repr right then false
  else match sequenceNumber digits left, sequenceNumber digits right with
  | some first, some second => second = first + 1
  | _, _ => match left.pageStart, left.pageEnd, right.pageStart, right.pageEnd with
      | some _, some last, some next, some _ => next = last + 1
      | _, _, _, _ => false

/-- `_citation_source`. -/
def citationSource (selected : SelectedCandidate) : PackedCitationSource where
  documentId := selected.candidate.documentId
  versionId := selected.candidate.versionId
  chunkId := selected.candidate.chunkId
  source := selected.candidate.source
  sourceUri := selected.candidate.sourceUri
  sourceType := selected.candidate.sourceType
  pageStart := selected.candidate.pageStart
  pageEnd := selected.candidate.pageEnd
  titlePath := selected.candidate.titlePath
  score := selected.candidate.score
  retrievalMethod := selected.candidate.retrievalMethod
  tokenCount := selected.candidate.tokenCount
  inclusionReason := selected.reason

/-- `_merged_retrieval_method`. -/
def mergedRetrievalMethod (first : ContextCandidate) (rest : List ContextCandidate) : String :=
  if rest.all (·.retrievalMethod = first.retrievalMethod) then first.retrievalMethod else "merged"

/-- `_item_from_group`, of a group that has a first element. -/
def itemFromGroup (first : SelectedCandidate) (rest : List SelectedCandidate) :
    PackedContextItem where
  content := strip ("\n".intercalate ((first :: rest).map (·.candidate.content)))
  tokenCount := ((first :: rest).map (·.candidate.tokenCount)).sum
  documentId := first.candidate.documentId
  versionId := first.candidate.versionId
  chunkIds := (first :: rest).map (·.candidate.chunkId)
  source := first.candidate.source
  sourceUri := first.candidate.sourceUri
  sourceType := first.candidate.sourceType
  pageStart := ((first :: rest).filterMap (·.candidate.pageStart)).min?
  pageEnd := ((first :: rest).filterMap (·.candidate.pageEnd)).max?
  titlePath := first.candidate.titlePath
  score := (rest.map (·.candidate.score)).foldl max first.candidate.score
  retrievalMethod := mergedRetrievalMethod first.candidate (rest.map (·.candidate))
  citationSources := (first :: rest).map citationSource

/-- The groups of adjacent chunks that `_build_items` makes an item of. -/
def adjacentGroups (selected : List SelectedCandidate) : List (List SelectedCandidate) :=
  (groupsBy (fun item : SelectedCandidate => mergeKey repr item.candidate) selected).flatMap
    fun group =>
    (group.insertionSort (adjacencyBefore digits)).splitBy fun left right =>
      areAdjacent repr digits left.candidate right.candidate

/-- `_append_group`: an item with the place of the first of its chunks. -/
def appendGroup : List SelectedCandidate → Option (Nat × PackedContextItem)
  | [] => none
  | first :: rest => some ((rest.map (·.order)).foldl min first.order, itemFromGroup first rest)

/-- `_build_items`. -/
def buildItems (mergeAdjacent : Bool) (selected : List SelectedCandidate) :
    List PackedContextItem :=
  if mergeAdjacent then
    (((adjacentGroups repr digits selected).filterMap appendGroup).insertionSort
      fun left right => left.1 ≤ right.1).map (·.2)
  else selected.map fun item => itemFromGroup item []

/-- `ContextPacker.pack` of `ContextCandidate`s. -/
def pack (python : Rendering) (auth : AuthContext) (config : ContextPackingConfig)
    (relatedChunks : List (String × ContextCandidate)) (requestId traceId : String)
    (candidates : List ContextCandidate) : Except PackingError PackedContext := do
  let state ← select python auth config relatedChunks candidates
  .ok {
    items := buildItems repr digits config.mergeAdjacent state.selected
    totalTokens := state.totalTokens
    budget := config.maxTokens
    droppedCandidates := state.dropped
    packingTrace := {
      requestId := requestId
      traceId := traceId
      tenantId := auth.tenantId
      userId := auth.userId
      inputCount := candidates.length
      authorizedCount := state.authorizedCount } }

/-- `ContextPacker.pack` of any objects; `none` is one that is no `ContextCandidate`. -/
def packObjects (python : Rendering) (auth : AuthContext) (config : ContextPackingConfig)
    (relatedChunks : List (String × ContextCandidate)) (requestId traceId : String)
    (objects : List (Option ContextCandidate)) : Except PackingError PackedContext := do
  let packed ← pack repr digits python auth config relatedChunks requestId traceId
    (objects.filterMap id)
  .ok { packed with
    droppedCandidates :=
      (objects.filter (·.isNone)).map (fun _ => ⟨.invalidCandidate, none, none⟩) ++
      packed.droppedCandidates
    packingTrace := { packed.packingTrace with inputCount := objects.length } }

end

end AegisRag.Rag

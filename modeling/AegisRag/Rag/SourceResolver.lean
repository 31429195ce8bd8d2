import AegisRag.Rag.Citations
import AegisRag.Retrieval.Candidates

/-!
# Opening a citation

`packages/rag/source_resolver.py`. A citation is opened from the rows it names: the
document, the version and the chunk must all be there, visible and readable. Retrieval
and hydration look at the chunk row alone, so that a citation can be given that cannot
be opened; it can be opened once the rows were published together.
-/

namespace AegisRag.Rag

open Semantics Auth Vectorstores Retrieval Data

/-- `SourceResolveCommand`. -/
structure SourceResolveCommand where
  documentId : String
  versionId : String
  chunkId : String
  pageStart : Option Int
  pageEnd : Option Int

/-- The command that opens a citation. -/
def Citation.command (citation : Citation) : SourceResolveCommand :=
  ⟨citation.documentId, citation.versionId, citation.chunkId, citation.pageStart,
    citation.pageEnd⟩

/-- Why a source is not shown; the answer is the same for all. -/
inductive SourceDenial where
  | documentUnavailable
  | versionUnavailable
  | chunkUnavailable
  | identityMismatch
  | aclDenied
deriving DecidableEq

/-- `SourceResolveResponse`, as far as the chunk decides it. -/
structure SourceExcerpt where
  documentId : String
  versionId : String
  chunkId : String
  pageStart : Option Int
  pageEnd : Option Int
  textExcerpt : List Char
  tokenCount : Int
deriving DecidableEq

/-- `_document_denial_reason`. -/
def documentDenialReason : Option DocumentRecord → Option SourceDenial
  | none => some .documentUnavailable
  | some document =>
    if document.deletedAt ≠ none ∨ document.status = "deleted" then some .documentUnavailable
    else none

/-- `_version_denial_reason`. -/
def versionDenialReason (command : SourceResolveCommand) :
    Option DocumentVersionRecord → Option SourceDenial
  | none => some .versionUnavailable
  | some version =>
    if version.documentId ≠ command.documentId then some .versionUnavailable
    else if version.deletedAt ≠ none ∨ version.status = "deleted" then some .versionUnavailable
    else if version.status ≠ "retrieval_ready" then some .versionUnavailable
    else none

section

variable (python : Rendering) (repository : Repository) (auth : AuthContext)
  (command : SourceResolveCommand)

/-- `_chunk_denial_reason`, of a document and a version that were found. -/
def chunkDenialReason (document : DocumentRecord) (version : DocumentVersionRecord) :
    Option ChunkRecord → Option SourceDenial
  | none => some .chunkUnavailable
  | some chunk =>
    if chunk.tenantId ≠ auth.tenantId ∨ chunk.documentId ≠ command.documentId ∨
        chunk.versionId ≠ command.versionId ∨ chunk.chunkId ≠ command.chunkId then
      some .identityMismatch
    else if chunk.status ≠ "active" ∨ chunk.deletedAt ≠ none then some .chunkUnavailable
    else if command.pageStart ≠ none ∧
        (chunk.pageStart ≠ command.pageStart ∨ chunk.pageEnd ≠ command.pageEnd) then
      some .identityMismatch
    else if !aclAllows python document.acl (aclFilterFromAuth auth) then some .aclDenied
    else if !aclAllows python version.acl (aclFilterFromAuth auth) then some .aclDenied
    else if !aclAllows python chunk.acl (aclFilterFromAuth auth) then some .aclDenied
    else none

/-- The default of `max_excerpt_chars`. -/
def maxExcerptChars : Nat := 2000

/-- `_response_from_records`. -/
def sourceExcerpt (chunk : ChunkRecord) : SourceExcerpt where
  documentId := chunk.documentId
  versionId := chunk.versionId
  chunkId := chunk.chunkId
  pageStart := (safePageRange chunk.pageStart chunk.pageEnd).1
  pageEnd := (safePageRange chunk.pageStart chunk.pageEnd).2
  textExcerpt := chunk.content.toList.take maxExcerptChars
  tokenCount := chunk.tokenCount

/-- `SourceResolveService.resolve`. -/
def resolve : Except SourceDenial SourceExcerpt :=
  let document := repository.getDocument auth.tenantId command.documentId
  let version := repository.getVersion auth.tenantId command.versionId
  let chunk := repository.getChunk auth.tenantId command.documentId command.versionId
    command.chunkId
  match documentDenialReason document, versionDenialReason command version, document, version,
      chunk with
  | some reason, _, _, _, _ => .error reason
  | none, some reason, _, _, _ => .error reason
  | none, none, some document, some version, chunk =>
    match chunkDenialReason python auth command document version chunk, chunk with
    | some reason, _ => .error reason
    | none, some chunk => .ok (sourceExcerpt chunk)
    | none, none => .error .chunkUnavailable
  | none, none, _, _, _ => .error .documentUnavailable

end

/-! ## Published rows -/

/-- The document and the version that a command names are there, visible and readable. -/
structure IsPublished (python : Rendering) (repository : Repository) (auth : AuthContext)
    (command : SourceResolveCommand) (document : DocumentRecord)
    (version : DocumentVersionRecord) : Prop where
  hasDocument : repository.getDocument auth.tenantId command.documentId = some document
  hasVersion : repository.getVersion auth.tenantId command.versionId = some version
  documentKept : document.deletedAt = none ∧ document.status ≠ "deleted"
  versionKept : version.deletedAt = none ∧ version.status = "retrieval_ready"
  versionOf : version.documentId = command.documentId
  documentAcl : aclAllows python document.acl (aclFilterFromAuth auth) = true
  versionAcl : aclAllows python version.acl (aclFilterFromAuth auth) = true

section

variable {repository : Repository} {auth : AuthContext}

theorem documentDenialReason_eq_none : documentDenialReason (some document) = none ↔
    document.deletedAt = none ∧ document.status ≠ "deleted" := by
  simp [documentDenialReason]

theorem versionDenialReason_eq_none : versionDenialReason command (some version) = none ↔
    version.documentId = command.documentId ∧ version.deletedAt = none ∧
      version.status = "retrieval_ready" := by
  by_cases versionOf : version.documentId = command.documentId
  · by_cases ready : version.status = "retrieval_ready" <;>
      simp [versionDenialReason, versionOf, ready]
  · simp [versionDenialReason, versionOf]

/-- A chunk that the user may read can be opened on its own pages exactly when its document
and its version are published. -/
theorem resolve_eq_ok_iff
    (found : repository.getChunk auth.tenantId command.documentId command.versionId
      command.chunkId = some chunk)
    (readable : aclAllows python chunk.acl (aclFilterFromAuth auth) = true)
    (active : chunk.status = "active")
    (pages : command.pageStart = chunk.pageStart ∧ command.pageEnd = chunk.pageEnd) :
    resolve python repository auth command = .ok excerpt ↔
      excerpt = sourceExcerpt chunk ∧
        ∃ document version, IsPublished python repository auth command document version := by
  have identity := List.find?_some found
  simp only [decide_eq_true_eq] at identity
  obtain ⟨tenant, chunkId, kept, documentId, versionId⟩ := identity
  have chunkDenial (document version) :
      chunkDenialReason python auth command document version (some chunk) = none ↔
        aclAllows python document.acl (aclFilterFromAuth auth) = true ∧
          aclAllows python version.acl (aclFilterFromAuth auth) = true := by
    cases documentAcl : aclAllows python document.acl (aclFilterFromAuth auth) <;>
      simp [chunkDenialReason, tenant, documentId, versionId, chunkId, active, kept, pages,
        readable, documentAcl]
  constructor
  · intro opened
    simp only [resolve, found] at opened
    cases isDocument : repository.getDocument auth.tenantId command.documentId with
    | none => simp [isDocument, documentDenialReason] at opened
    | some document =>
      cases noDocumentDenial : documentDenialReason (some document) with
      | some reason => simp [isDocument, noDocumentDenial] at opened
      | none =>
        cases isVersion : repository.getVersion auth.tenantId command.versionId with
        | none => simp [isDocument, noDocumentDenial, isVersion, versionDenialReason] at opened
        | some version =>
          cases noVersionDenial : versionDenialReason command (some version) with
          | some reason =>
            simp [isDocument, noDocumentDenial, isVersion, noVersionDenial] at opened
          | none =>
            cases isAllowed : chunkDenialReason python auth command document version
                (some chunk) with
            | some reason =>
              simp [isDocument, noDocumentDenial, isVersion, noVersionDenial, isAllowed] at opened
            | none =>
              simp only [isDocument, noDocumentDenial, isVersion, noVersionDenial, isAllowed,
                Except.ok.injEq] at opened
              obtain ⟨documentAcl, versionAcl⟩ := (chunkDenial document version).mp isAllowed
              obtain ⟨versionOf, versionKept⟩ := versionDenialReason_eq_none.mp noVersionDenial
              exact ⟨opened.symm, document, version, isDocument, isVersion,
                documentDenialReason_eq_none.mp noDocumentDenial, versionKept, versionOf,
                documentAcl, versionAcl⟩
  · rintro ⟨rfl, document, version, published⟩
    have noDocumentDenial := documentDenialReason_eq_none.mpr published.documentKept
    have noVersionDenial := versionDenialReason_eq_none.mpr
      ⟨published.versionOf, published.versionKept⟩
    have noChunkDenial := (chunkDenial document version).mpr
      ⟨published.documentAcl, published.versionAcl⟩
    simp only [resolve, published.hasDocument, published.hasVersion, found, noDocumentDenial,
      noVersionDenial, noChunkDenial]

end

/-! ## Citations that can be opened -/

section

variable {service : QueryService} {reader : AnswerReader} {context : RequestContext}
  {command : QueryCommand} {response : QueryResponse}

/-- The service as it is deployed, which passes no related chunks to the packer. -/
def QueryService.deployed (service : QueryService) : QueryService :=
  { service with relatedChunks := [] }

/-- A citation names a chunk that was hydrated for a retrieved candidate. -/
theorem exists_stored_of_mem_citations
    (ran : service.deployed.query reader context command memory generate = .ok response)
    (isCited : citation ∈ response.citations) :
    ∃ candidate stored hydrated,
      Hydrates service.python service.repository context.auth candidate stored hydrated ∧
        citation.documentId = hydrated.documentId ∧ citation.versionId = hydrated.versionId ∧
        citation.chunkId = hydrated.chunkId ∧
        (citation.pageStart, citation.pageEnd) = (stored.pageStart, stored.pageEnd) := by
  rw [QueryService.query, bind_eq_ok] at ran
  obtain ⟨_, isPrepared, ran⟩ := ran
  split at ran
  · rename_i packed prompt isPacked isPrompt
    cases ran
    obtain ⟨-, outcome⟩ := QueryService.prepareQueryContext_eq_ok isPrepared
    rcases outcome with ⟨-, -, none⟩ | ⟨_, other, packs, -⟩
    · rw [none] at isPrompt
      cases isPrompt
    · have same : packed = other := Option.some.inj (isPacked.symm.trans packs.keeps)
      subst same
      rw [QueryService.answerResponse, CitationExtraction.citations_response] at isCited
      obtain ⟨_, isItem, _, isSource, rfl⟩ := exists_source_of_mem_citations isCited
      have ran := packs.packs
      rw [QueryService.packed, pack, bind_eq_ok] at ran
      obtain ⟨_, selected, ran⟩ := ran
      cases ran
      obtain ⟨first, _, isGroup, -, rfl⟩ := isGroup_of_mem_buildItems isItem
      obtain ⟨member, isMember, rfl⟩ := List.mem_map.mp isSource
      have isSelected := isGroup.part.subset isMember
      rcases (select_eq_ok selected).origin member isSelected with isSorted | ⟨_, isRelated⟩
      · obtain ⟨candidate, -, stored, hydrates⟩ :=
          isStored_of_mem packs.hydrates ((List.mem_insertionSort _).mp isSorted)
        have first := congrArg ContextFields.pageStart hydrates.fields
        have last := congrArg ContextFields.pageEnd hydrates.fields
        refine ⟨candidate, stored, member.candidate, hydrates, rfl, rfl, rfl, ?_⟩
        have range := safePageRange_of_valid member.candidate.accepted.pages
        change safePageRange member.candidate.pageStart member.candidate.pageEnd = _
        rw [range, first, last]
        rfl
      · cases isRelated
  · cases ran
    cases isCited

/-- A citation of an answer can be opened by the user who asked exactly when the document and
the version it names are published, and it then shows the chunk it names. -/
theorem published_citations_resolve
    (ran : service.deployed.query reader context command memory generate = .ok response)
    {citation : Citation} (isCited : citation ∈ response.citations) :
    ∃ stored ∈ service.repository.chunks, stored.chunkId = citation.chunkId ∧
      ∀ excerpt, resolve service.python service.repository context.auth citation.command =
          .ok excerpt ↔
        excerpt = sourceExcerpt stored ∧ ∃ document version, IsPublished service.python
          service.repository context.auth citation.command document version := by
  obtain ⟨_, stored, _, hydrates, documentId, versionId, chunkId, pages⟩ :=
    exists_stored_of_mem_citations ran isCited
  have isStored : stored ∈ service.repository.chunks := List.mem_of_find?_eq_some hydrates.stored
  have stands := hydrates.stands
  obtain ⟨sameDocument, sameVersion, sameChunk⟩ := hydrates.identity
  refine ⟨stored, isStored, by rw [chunkId, sameChunk, stands.identity.2.2], fun excerpt => ?_⟩
  apply resolve_eq_ok_iff _ stands.chunkAcl stands.active.1 (Prod.mk.inj pages)
  simp only [Citation.command, documentId, versionId, chunkId, sameDocument, sameVersion, sameChunk]
  exact hydrates.stored

/-- Whatever the retriever finds and the provider writes, an answer cites only stored and
active chunks of the user's tenant that the user may read. -/
theorem citations_name_readable_chunks
    (ran : service.deployed.query reader context command memory generate = .ok response) :
    ∀ citation ∈ response.citations, ∃ stored ∈ service.repository.chunks,
      citation.documentId = stored.documentId ∧ citation.versionId = stored.versionId ∧
      citation.chunkId = stored.chunkId ∧ stored.tenantId = context.auth.tenantId ∧
      stored.status = "active" ∧ stored.deletedAt = none ∧
      aclAllows service.python stored.acl (aclFilterFromAuth context.auth) = true := by
  intro citation isCited
  obtain ⟨_, stored, _, hydrates, documentId, versionId, chunkId, _⟩ :=
    exists_stored_of_mem_citations ran isCited
  obtain ⟨sameDocument, sameVersion, sameChunk⟩ := hydrates.identity
  have stands := hydrates.stands
  obtain ⟨isDocument, isVersion, isChunk⟩ := stands.identity
  refine ⟨stored, List.mem_of_find?_eq_some hydrates.stored, ?_, ?_, ?_, stands.tenant.1,
    stands.active.1, stands.active.2, stands.chunkAcl⟩
  · rw [documentId, sameDocument, isDocument]
  · rw [versionId, sameVersion, isVersion]
  · rw [chunkId, sameChunk, isChunk]

end

namespace Handbook

def document : DocumentRecord := ⟨"tenant", "handbook", "active", Reader.staffOnly, none⟩

def version (status : String) : DocumentVersionRecord :=
  ⟨"tenant", "v1", "handbook", status, Reader.staffOnly, none⟩

def rows (status : String) : Repository := ⟨[document], [version status], [leave]⟩

def noSecrets : Common.Redaction := ⟨fun _ => false, Char.isAlphanum⟩

/-- The service over these rows, with what the sparse search makes of the chunk. -/
def standing (status : String) : QueryService :=
  { service with
    repository := rows status
    retriever := fun _ => [sparseCandidate noSecrets (.finite 1) leave] }

def reader : AnswerReader := ⟨fun _ => [], fun _ => false⟩

def answer (status : String) : Except QueryError QueryResponse :=
  (standing status).deployed.query reader context command none fun _ => "Five weeks."

/-- What opening the citations of an answer gives. -/
def opened (status : String) : Option (List (Except SourceDenial SourceExcerpt)) :=
  (answer status).toOption.map fun response => response.citations.map fun citation =>
    resolve Reader.brackets (rows status) Reader.auth citation.command

end Handbook

/-- A citation of a version that is ready for retrieval can be opened. -/
theorem published_citations_resolve_handbook :
    ∃ response, Handbook.answer "retrieval_ready" = .ok response ∧ response.citations.length = 1 ∧
      ∀ citation ∈ response.citations, ∃ stored ∈ [Handbook.leave],
        stored.chunkId = citation.chunkId ∧
          resolve Reader.brackets (Handbook.rows "retrieval_ready") Reader.auth citation.command =
            .ok (sourceExcerpt stored) := by
  have answers : (Handbook.answer "retrieval_ready").toOption.any (fun response =>
      response.citations.length = 1 ∧ ∀ citation ∈ response.citations,
        citation.documentId = "handbook" ∧ citation.versionId = "v1") = true := by decide +kernel
  obtain ⟨response, ran, one⟩ := exists_ok_of_any answers
  rw [decide_eq_true_eq] at one
  refine ⟨response, ran, one.1, ?_⟩
  intro citation isCited
  obtain ⟨stored, isStored, isNamed, opens⟩ := published_citations_resolve ran isCited
  obtain ⟨documentId, versionId⟩ := one.2 citation isCited
  refine ⟨stored, isStored, isNamed, (opens _).mpr ⟨rfl, Handbook.document,
    Handbook.version "retrieval_ready", ?_, ?_, by decide, by decide, documentId.symm,
    by decide +kernel, by decide +kernel⟩⟩
  · rw [Citation.command, documentId]
    rfl
  · rw [Citation.command, versionId]
    rfl

/-- So does an answer whose citation cannot be opened yet. -/
theorem citations_name_readable_chunks_handbook :
    ∃ response, Handbook.answer "chunked" = .ok response ∧ response.citations.length = 1 ∧
      ∀ citation ∈ response.citations, citation.chunkId = "leave" := by
  have answers : (Handbook.answer "chunked").toOption.any (·.citations.length = 1) = true := by
    decide +kernel
  obtain ⟨response, ran, one⟩ := exists_ok_of_any answers
  refine ⟨response, ran, by simpa using one, ?_⟩
  intro citation isCited
  obtain ⟨stored, isStored, _, _, chunkId, _⟩ := citations_name_readable_chunks ran citation isCited
  rw [chunkId, List.mem_singleton.mp isStored]
  rfl

/-- While a version is chunked but not yet ready, its active chunk is selected by the
sparse search and cited in an answer, and the citation cannot be opened. -/
theorem cited_source_is_denied :
    Handbook.leave.status = "active" ∧
      sparseCondition Reader.brackets Handbook.leave.acl Reader.filters = some true ∧
      Handbook.opened "chunked" = some [.error .versionUnavailable] := by
  decide +kernel

end AegisRag.Rag

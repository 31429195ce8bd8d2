import AegisRag.Rag.Hydration
import AegisRag.Rag.Packing
import AegisRag.Rag.PromptBuilder

/-!
# From a query to its prompt

`_prepare_query_context` of `packages/rag/query.py`: candidates are retrieved, hydrated,
packed and built into a prompt. Each stage checks access again, and the retriever is
trusted with nothing. The service itself passes no related chunks to the packer; here
they are arbitrary.
-/

namespace AegisRag.Rag

open Semantics Auth Vectorstores Retrieval Data

/-- `QueryCommand`. -/
structure QueryCommand where
  query : String
  request : RetrievalRequest
  answerStyle : Option String
  maxOutputTokens : Option Nat
  query_isText : IsText query
  query_bound : query.length ≤ 4000

/-- `AuthenticatedRequestContext`. -/
structure RequestContext where
  auth : AuthContext
  requestId : String
  traceId : String

/-- The texts that `CoTPromptEnhancer` adds, where it is switched on. -/
structure CotEnhancer where
  cotPolicy : Option String
  fewShotExamples : Option String

/-- `enhance_system_messages`. -/
def CotEnhancer.enhance (enhancer : CotEnhancer) (messages : List PromptMessage) :
    List PromptMessage :=
  let withPolicy := match enhancer.cotPolicy with
    | none => messages
    | some text => messages.insertIdx 1 ⟨.system, "cot_policy", text⟩
  match enhancer.fewShotExamples with
  | none => withPolicy
  | some text => withPolicy.insertIdx 2 ⟨.system, "few_shot_examples", text⟩

/-- What a query service is put together from. -/
structure QueryService where
  python : Rendering
  repr : Json → String
  digits : String → Option Int
  library : PromptLibrary
  packing : ContextPackingConfig
  prompting : PromptBuilderConfig
  enhancer : Option CotEnhancer
  repository : Repository
  retriever : RetrievalFilterSet → List RetrievalCandidate
  relatedChunks : List (String × ContextCandidate)

/-- The error of the stage at which a query ended. -/
inductive QueryError where
  | retrieval (error : RetrievalError)
  | hydration (error : HydrationError)
  | packing (error : PackingError)
  | prompt (error : PromptBuildError)

/-- `_PreparedQueryContext`. -/
structure PreparedQueryContext where
  retrieval : List RetrievalCandidate
  packedContext : Option PackedContext
  prompt : Option PromptBuildResult

namespace QueryService

variable (service : QueryService) (context : RequestContext) (command : QueryCommand)
  (memory : Option PromptMemoryContext)

/-- The request that a packed context is built for. -/
def promptRequest (packed : PackedContext) : PromptBuildRequest where
  query := command.query
  packedContext := packed
  requestId := context.requestId
  traceId := context.traceId
  tenantId := context.auth.tenantId
  userId := context.auth.userId
  answerStyle := command.answerStyle
  maxOutputTokens := command.maxOutputTokens
  memoryContext := memory

def enhance (messages : List PromptMessage) : List PromptMessage :=
  match service.enhancer with
  | none => messages
  | some enhancer => enhancer.enhance messages

def packed (candidates : List ContextCandidate) : Except PackingError PackedContext :=
  pack service.repr service.digits service.python context.auth service.packing
    service.relatedChunks context.requestId context.traceId candidates

/-- `_prepare_query_context`. -/
def prepareQueryContext : Except QueryError PreparedQueryContext := do
  let retrieved ← (retrieve service.python command.request context.auth
    service.retriever).mapError .retrieval
  if retrieved = [] then .ok ⟨retrieved, none, none⟩
  else
    let candidates ← (hydrate service.python service.repository context.auth
      retrieved).mapError .hydration
    let packed ← (service.packed context candidates).mapError .packing
    if packed.items = [] then .ok ⟨retrieved, some packed, none⟩
    else
      let prompt ← (build service.library service.prompting
        (promptRequest context command memory packed)).mapError .prompt
      .ok ⟨retrieved, some packed,
        some { prompt with messages := service.enhance prompt.messages }⟩

variable {service context command memory} {prepared : PreparedQueryContext}

/-- A query that packed something, with what its stages returned. -/
structure Packs (service : QueryService) (context : RequestContext)
    (prepared : PreparedQueryContext) (candidates : List ContextCandidate)
    (packed : PackedContext) : Prop where
  hydrates : hydrate service.python service.repository context.auth prepared.retrieval =
    .ok candidates
  packs : service.packed context candidates = .ok packed
  keeps : prepared.packedContext = some packed

/-- A prepared query has no context, or has packed one and built the prompt from it. -/
theorem prepareQueryContext_eq_ok
    (ran : service.prepareQueryContext context command memory = .ok prepared) :
    retrieve service.python command.request context.auth service.retriever =
        .ok prepared.retrieval ∧
      (prepared.retrieval = [] ∧ prepared.packedContext = none ∧ prepared.prompt = none ∨
        ∃ candidates packed, service.Packs context prepared candidates packed ∧
          ∀ prompt, prepared.prompt = some prompt → ∃ built,
            build service.library service.prompting
              (promptRequest context command memory packed) = .ok built ∧
            prompt = { built with messages := service.enhance built.messages }) := by
  rw [prepareQueryContext, bind_eq_ok] at ran
  obtain ⟨_, retrieval, ran⟩ := ran
  rw [mapError_eq_ok] at retrieval
  split at ran
  · rename_i empty
    cases ran
    exact ⟨retrieval, .inl ⟨empty, rfl, rfl⟩⟩
  · rw [bind_eq_ok] at ran
    obtain ⟨candidates, hydrated, ran⟩ := ran
    rw [bind_eq_ok] at ran
    obtain ⟨packed, isPacked, ran⟩ := ran
    rw [mapError_eq_ok] at hydrated isPacked
    split at ran
    · cases ran
      exact ⟨retrieval, .inr ⟨candidates, packed, ⟨hydrated, isPacked, rfl⟩, by simp⟩⟩
    · rw [bind_eq_ok] at ran
      obtain ⟨built, isBuilt, ran⟩ := ran
      rw [mapError_eq_ok] at isBuilt
      cases ran
      refine ⟨retrieval, .inr ⟨candidates, packed, ⟨hydrated, isPacked, rfl⟩, ?_⟩⟩
      intro prompt isPrompt
      cases isPrompt
      exact ⟨built, isBuilt, rfl⟩

end QueryService

/-! ## Authorization of what a prompt shows -/

section

variable (service : QueryService) (context : RequestContext) (retrieved : List RetrievalCandidate)

/-- A chunk that came from the repository for a retrieved candidate, with the access
list stored there. -/
def IsStored (chunk : ContextCandidate) : Prop :=
  ∃ candidate ∈ retrieved, ∃ stored, Hydrates service.python service.repository context.auth
    candidate stored chunk

/-- A chunk that a prompt may show: it is one of the tenant whose access list lets the
user read, and it was stored or given as a related chunk. -/
structure IsReadable (chunk : ContextCandidate) : Prop where
  authorized : Authorized service.python context.auth chunk
  origin : IsStored service context retrieved chunk ∨
    ∃ id, service.relatedChunks.lookup id = some chunk

variable {service context retrieved}

/-- The identifiers of a row are trimmed, so that the validators keep them. -/
theorem Hydrates.identity {stored : ChunkRecord}
    (hydrates : Hydrates python repository auth candidate stored chunk) :
    chunk.documentId = candidate.documentId ∧ chunk.versionId = candidate.versionId ∧
      chunk.chunkId = candidate.chunkId := by
  have documentId : chunk.documentId = strip candidate.documentId :=
    congrArg ContextFields.documentId hydrates.fields
  have versionId : chunk.versionId = strip candidate.versionId :=
    congrArg ContextFields.versionId hydrates.fields
  have chunkId : chunk.chunkId = strip candidate.chunkId :=
    congrArg ContextFields.chunkId hydrates.fields
  have trimmed := stored.identity_areTexts
  obtain ⟨sameDocument, sameVersion, sameChunk⟩ := hydrates.stands.identity
  rw [documentId, versionId, chunkId, ← sameDocument, ← sameVersion, ← sameChunk]
  exact ⟨(trimmed stored.documentId (by simp)).1, (trimmed stored.versionId (by simp)).1,
    (trimmed stored.chunkId (by simp)).1⟩

theorem isStored_of_mem
    (ran : hydrate service.python service.repository context.auth retrieved = .ok candidates)
    (isIn : chunk ∈ candidates) :
    IsStored service context retrieved chunk := by
  obtain ⟨candidate, isCandidate, ran⟩ := (mapM_eq_ok ran).2 chunk isIn
  obtain ⟨stored, hydrates⟩ := hydrateOne_eq_ok ran
  exact ⟨candidate, isCandidate, stored, hydrates⟩

/-- What the items of a packed context show was read from readable chunks. -/
theorem items_are_readable
    (hydrated : hydrate service.python service.repository context.auth retrieved = .ok candidates)
    (ran : service.packed context candidates = .ok packed) :
    ∀ item ∈ packed.items, ∃ chunks : List ContextCandidate,
      item.content = strip ("\n".intercalate (chunks.map (·.content))) ∧
        ∀ chunk ∈ chunks, IsReadable service context retrieved chunk := by
  rw [QueryService.packed, pack, bind_eq_ok] at ran
  obtain ⟨_, selected, ran⟩ := ran
  cases ran
  have sound := select_eq_ok selected
  intro item isItem
  obtain ⟨first, rest, isGroup, -, rfl⟩ := isGroup_of_mem_buildItems isItem
  refine ⟨(first :: rest).map (·.candidate), by rw [itemFromGroup, List.map_map]; rfl, ?_⟩
  intro chunk isChunk
  obtain ⟨member, isMember, rfl⟩ := List.mem_map.mp isChunk
  have isSelected := isGroup.part.subset isMember
  constructor
  · exact sound.selected member isSelected
  · apply (sound.origin member isSelected).imp_left
    intro isSorted
    exact isStored_of_mem hydrated ((List.mem_insertionSort _).mp isSorted)

/-- The messages of a prompt show chunks in the context message only, each of the user's
tenant and readable by the user. A stored or related chunk that was reached and is not of
this kind ends the query instead. -/
theorem prompt_shows_only_readable_chunks {command : QueryCommand}
    {memory : Option PromptMemoryContext} {prepared : PreparedQueryContext}
    (ran : service.prepareQueryContext context command memory = .ok prepared) :
    (∀ prompt, prepared.prompt = some prompt →
      ∃ packed, prepared.packedContext = some packed ∧
        prompt.messages = service.enhance (leadingMessages service.prompting
          (QueryService.promptRequest context command memory { packed with items := [] })
            (collectCitationSources packed.items).length ++
          [⟨.user, "context", contextContent service.library service.prompting packed.items
            (collectCitationSources packed.items)⟩]) ∧
        ∀ item ∈ packed.items, ∃ chunks : List ContextCandidate,
          item.content = strip ("\n".intercalate (chunks.map (·.content))) ∧
            ∀ chunk ∈ chunks, IsReadable service context prepared.retrieval chunk) ∧
    (∀ candidate ∈ prepared.retrieval, ∀ stored,
      service.repository.getChunk context.auth.tenantId candidate.documentId candidate.versionId
          candidate.chunkId = some stored →
        stored.tenantId = context.auth.tenantId ∧
          aclAllows service.python stored.acl (aclFilterFromAuth context.auth) = true) ∧
    ∀ candidates state,
      hydrate service.python service.repository context.auth prepared.retrieval = .ok candidates →
      select service.python context.auth service.packing service.relatedChunks candidates =
        .ok state →
      (∀ candidate ∈ candidates, Authorized service.python context.auth candidate) ∧
      ∀ item ∈ state.selected, item.reason = .retrievalCandidate →
        ∀ related, Reaches service.python service.packing service.relatedChunks item.candidate
          related → Authorized service.python context.auth related := by
  obtain ⟨-, outcome⟩ := QueryService.prepareQueryContext_eq_ok ran
  refine ⟨?_, ?_, ?_⟩
  · intro prompt isPrompt
    rcases outcome with ⟨-, -, none⟩ | ⟨candidates, packed, packs, prompts⟩
    · rw [none] at isPrompt
      cases isPrompt
    · obtain ⟨_, isBuilt, rfl⟩ := prompts prompt isPrompt
      obtain ⟨-, rfl⟩ := build_eq_ok.mp isBuilt
      exact ⟨packed, packs.keeps, rfl, items_are_readable packs.hydrates packs.packs⟩
  · intro candidate isCandidate stored found
    rcases outcome with ⟨empty, -, -⟩ | ⟨candidates, packed, packs, -⟩
    · rw [empty] at isCandidate
      cases isCandidate
    · obtain ⟨chunk, -, hydrated⟩ := (mapM_eq_ok packs.hydrates).1 candidate isCandidate
      obtain ⟨other, hydrates⟩ := hydrateOne_eq_ok hydrated
      have same : stored = other := Option.some.inj (found.symm.trans hydrates.stored)
      subst same
      exact ⟨hydrates.stands.tenant.1, hydrates.stands.chunkAcl⟩
  · intro candidates state _ selected
    have sound := select_eq_ok selected
    constructor
    · intro candidate isCandidate
      exact sound.authorized candidate ((List.mem_insertionSort _).mpr isCandidate)
    · exact sound.reached

end

namespace Handbook

/-- A chunk that one role may read. -/
def leave : ChunkRecord where
  tenantId := "tenant"
  documentId := "handbook"
  versionId := "v1"
  chunkId := "leave"
  status := "active"
  sourceType := "markdown"
  sourceUri := none
  titlePath := ["Leave"]
  content := "Leave is five weeks."
  pageStart := none
  pageEnd := none
  tokenCount := 6
  acl := Reader.staffOnly
  metadata := []
  deletedAt := none
  identity_areTexts := by decide +kernel
  content_isText := by decide +kernel
  sourceUri_isText := by simp
  titlePath_areTexts := by decide +kernel
  titlePath_filled := by simp
  tokenCount_pos := by decide
  pages := rfl

/-- The candidate a retriever makes of the chunk. -/
def found : RetrievalCandidate where
  documentId := "handbook"
  versionId := "v1"
  chunkId := "leave"
  source := none
  sourceType := "markdown"
  sourceUri := none
  pageStart := none
  pageEnd := none
  titlePath := ["Leave"]
  score := .finite 1
  retrievalMethod := "dense"
  tenantId := "tenant"
  acl := Reader.staffOnly
  metadata := []

def library : PromptLibrary where
  citationId _ _ chunkId := "cite-" ++ chunkId
  safeSource description := ⟨"Source", description.sourceType, description.pageStart,
    description.pageEnd, description.titlePath⟩
  sixDecimals _ := "1.000000"

def request : RetrievalRequest := ⟨10, [], none, by decide, by simp⟩

def command : QueryCommand where
  query := "How long is leave?"
  request := request
  answerStyle := none
  maxOutputTokens := none
  query_isText := by decide +kernel
  query_bound := by decide +kernel

def context : RequestContext := ⟨Reader.auth, "request", "trace"⟩

def repository : Repository := ⟨[], [], [leave]⟩

def service : QueryService where
  python := Reader.brackets
  repr _ := ""
  digits _ := none
  library := library
  packing := {}
  prompting := {}
  enhancer := none
  repository := repository
  retriever _ := [found]
  relatedChunks := []

end Handbook

/-- A query that builds a prompt, and whose retrieved chunk the reader may read. -/
theorem prompt_shows_only_readable_chunks_handbook :
    ∃ prepared, Handbook.service.prepareQueryContext Handbook.context Handbook.command none =
        .ok prepared ∧ prepared.prompt.isSome = true ∧
      ∀ candidate ∈ prepared.retrieval, ∀ stored,
        Handbook.repository.getChunk "tenant" candidate.documentId candidate.versionId
            candidate.chunkId = some stored →
          stored.tenantId = "tenant" ∧
            aclAllows Reader.brackets stored.acl (aclFilterFromAuth Reader.auth) = true := by
  have builds : (Handbook.service.prepareQueryContext Handbook.context Handbook.command
      none).toOption.any (·.prompt.isSome) = true := by decide +kernel
  obtain ⟨prepared, ran, hasPrompt⟩ := exists_ok_of_any builds
  exact ⟨prepared, ran, hasPrompt, (prompt_shows_only_readable_chunks ran).2.1⟩

end AegisRag.Rag

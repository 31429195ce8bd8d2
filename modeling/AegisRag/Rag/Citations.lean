import AegisRag.Rag.Query

/-!
# Citations and answers

`packages/rag/citation_extractor.py` and the answer of `RagQueryApplicationService.query`. A
generated answer is cited with the sources of the packed context, unless it is no answer or
refers to sources that were not shown. The pattern of references is a parameter.
-/

namespace AegisRag.Rag

open Semantics Retrieval

/-- `Citation`. -/
structure Citation where
  documentId : String
  versionId : String
  chunkId : String
  sourceDisplayName : String
  sourceType : String
  pageStart : Option Int
  pageEnd : Option Int
  titlePath : List String
  retrievalMethod : String
  score : ℚ
deriving DecidableEq

/-- `_safe_page_range`. -/
def safePageRange : Option Int → Option Int → Option Int × Option Int
  | some first, some last =>
    if first < 1 ∨ last < first then (none, none) else (some first, some last)
  | _, _ => (none, none)

theorem safePageRange_of_valid (valid : validPages first last = true) :
    safePageRange first last = (first, last) := by
  cases first with
  | none => cases last with
    | none => rfl
    | some last => cases valid
  | some first => cases last with
    | none => cases valid
    | some last =>
      have bounds := validPages_some valid
      rw [safePageRange, if_neg]
      omega

/-- The functions that an answer is read with. -/
structure AnswerReader where
  references : String → List String
  isFieldName : String → Bool

/-- `UnsupportedClaim`, by its reason. -/
inductive UnsupportedClaim where
  | forgedOrUnauthorizedReference
  | missingAuthorizedCitationSource
deriving DecidableEq

/-- `CitationExtractionResult`. -/
structure CitationExtraction where
  answer : String
  citations : List Citation
  unsupportedClaims : List UnsupportedClaim
  noAnswer : Bool
  forgedReferenceCount : Nat
deriving DecidableEq

section

variable (library : PromptLibrary) (reader : AnswerReader)

/-- `Citation.from_source`. -/
def Citation.fromSource (source : PackedCitationSource) : Citation :=
  let metadata := safeCitationSourceMetadata library source
  let pages := safePageRange source.pageStart source.pageEnd
  { documentId := source.documentId
    versionId := source.versionId
    chunkId := source.chunkId
    sourceDisplayName := metadata.sourceDisplayName
    sourceType := metadata.sourceType
    pageStart := pages.1
    pageEnd := pages.2
    titlePath := metadata.titlePath
    retrievalMethod := source.retrievalMethod
    score := source.score }

/-- `_normalize_answer`. -/
def normalizeAnswer (value : String) : List Char :=
  lower (String.ofList ((strip value).toList.filter fun char =>
    !(isSpace char || char ∈ ['。', '.', '!', '！'])))

def noAnswerVariants : List String :=
  ["无法从给定上下文确认。", "无法根据上下文确认。", "上下文不足，无法回答。",
    "The provided context is insufficient to answer.",
    "I cannot answer from the provided context."]

/-- `_is_no_answer`, with the default text among its variants. -/
def isNoAnswer (answer : String) : Bool :=
  normalizeAnswer answer = [] || normalizeAnswer answer ∈ noAnswerVariants.map normalizeAnswer

/-- The texts an answer may refer to. -/
def allowedTokens (allowedIds : List String) (sources : List PackedCitationSource) : List String :=
  (allowedIds ++ sources.flatMap fun source =>
    [source.documentId, source.versionId, source.chunkId,
      (safeCitationSourceMetadata library source).sourceDisplayName, source.sourceType]).filter
        (· ≠ "")

/-- `_forged_reference_count`. -/
def forgedReferenceCount (answer : String) (allowedIds : List String)
    (sources : List PackedCitationSource) : Nat :=
  (reader.references answer).countP fun reference =>
    !reader.isFieldName reference && reference ∉ allowedTokens library allowedIds sources

/-- The comparison of the keys that sources are cited by. -/
def citedBefore (left right : PackedCitationSource) : Prop :=
  if left.score ≠ right.score then right.score < left.score
  else if left.documentId ≠ right.documentId then left.documentId < right.documentId
  else if left.versionId ≠ right.versionId then left.versionId < right.versionId
  else left.chunkId ≤ right.chunkId

instance : DecidableRel citedBefore := fun left right => by
  unfold citedBefore
  infer_instance

/-- The default of `max_citations`. -/
def maxCitations : Nat := 20

/-- The sources an answer may cite. -/
def allowedSources (items : List PackedContextItem) (allowedIds : List String) :
    List PackedCitationSource :=
  (collectCitationSources items).filter (sourceId library · ∈ allowedIds)

/-- The citations of an answer that refers to allowed sources only. -/
def citationsOf (sources : List PackedCitationSource) : List Citation :=
  ((sources.insertionSort citedBefore).take maxCitations).map (Citation.fromSource library)

/-- `CitationExtractor.extract`, with the default configuration and an allowlist. -/
def extract (answer : String) (items : List PackedContextItem) (allowedIds : List String) :
    CitationExtraction :=
  let sources := allowedSources library items allowedIds
  let forged := forgedReferenceCount library reader answer allowedIds sources
  let citations := if isNoAnswer answer || 0 < forged then [] else citationsOf library sources
  { answer := if strip answer ≠ "" then answer else "无法从给定上下文确认。"
    citations := citations
    unsupportedClaims :=
      if isNoAnswer answer then []
      else if 0 < forged then [.forgedOrUnauthorizedReference]
      else if citations ≠ [] ∨ strip answer = "" then []
      else [.missingAuthorizedCitationSource]
    noAnswer := isNoAnswer answer
    forgedReferenceCount := forged }

variable {library reader}

theorem mem_of_mem_collectCitationSources (isIn : source ∈ collectCitationSources items) :
    ∃ item ∈ items, source ∈ item.citationSources := by
  suffices general : ∀ (sources kept : List PackedCitationSource),
      source ∈ sources.foldl (fun kept source =>
        if kept.any fun other => other.documentId = source.documentId &&
            other.versionId = source.versionId && other.chunkId = source.chunkId then kept
        else kept ++ [source]) kept → source ∈ kept ∨ source ∈ sources by
    rcases general _ [] isIn with isIn | isIn
    · cases isIn
    · simpa using isIn
  intro sources
  induction sources with
  | nil =>
    intro kept isIn
    exact .inl isIn
  | cons first rest ih =>
    intro kept isIn
    rw [List.foldl_cons] at isIn
    split at isIn
    · exact (ih kept isIn).imp_right (List.mem_cons_of_mem first)
    · rcases ih _ isIn with isIn | isIn
      · simp only [List.mem_append, List.mem_singleton] at isIn
        rcases isIn with isIn | rfl
        · exact .inl isIn
        · exact .inr (by simp)
      · exact .inr (List.mem_cons_of_mem first isIn)

theorem exists_source_of_mem_citations
    (isIn : citation ∈ (extract library reader answer items allowedIds).citations) :
    ∃ item ∈ items, ∃ source ∈ item.citationSources,
      citation = Citation.fromSource library source := by
  simp only [extract] at isIn
  split at isIn
  · cases isIn
  · obtain ⟨source, isSource, rfl⟩ := List.mem_map.mp isIn
    have isAllowed := (List.mem_insertionSort _).mp (List.mem_of_mem_take isSource)
    obtain ⟨item, isItem, isSource⟩ :=
      mem_of_mem_collectCitationSources (List.mem_of_mem_filter isAllowed)
    exact ⟨item, isItem, source, isSource, rfl⟩

end

/-! ## Answers -/

/-- `QueryResponse`, with the error code that its metadata carries. -/
structure QueryResponse where
  answer : String
  citations : List Citation
  noAnswer : Bool
  unsupportedClaims : List UnsupportedClaim
  errorCode : Option String
deriving DecidableEq

/-- The response that reports an extraction. -/
def CitationExtraction.response (extraction : CitationExtraction) : QueryResponse where
  answer := extraction.answer
  citations := extraction.citations
  noAnswer := extraction.noAnswer
  unsupportedClaims := extraction.unsupportedClaims
  errorCode := none

@[simp] theorem CitationExtraction.citations_response (extraction : CitationExtraction) :
    extraction.response.citations = extraction.citations := rfl

namespace QueryService

variable (service : QueryService) (reader : AnswerReader)

/-- `_no_answer_response`. -/
def noAnswerResponse : QueryResponse where
  answer := service.prompting.defaultNoAnswerText
  citations := []
  noAnswer := true
  unsupportedClaims := []
  errorCode := some "RAG_QUERY_CONTEXT_UNAVAILABLE"

/-- The response made of a generated text. -/
def answerResponse (text : String) (packed : PackedContext) (prompt : PromptBuildResult) :
    QueryResponse :=
  (extract service.library reader text packed.items prompt.citationSourceIds).response

/-- `RagQueryApplicationService.query` of an authorized user, with the text that the
provider generates for a prompt. -/
def query (context : RequestContext) (command : QueryCommand)
    (memory : Option PromptMemoryContext) (generate : PromptBuildResult → String) :
    Except QueryError QueryResponse := do
  let prepared ← service.prepareQueryContext context command memory
  match prepared.packedContext, prepared.prompt with
  | some packed, some prompt =>
    .ok (service.answerResponse reader (generate prompt) packed prompt)
  | _, _ => .ok service.noAnswerResponse

end QueryService

end AegisRag.Rag

import AegisRag.Agent.Observation

/-!
# Validation of the final answer

`StrictFinalAnswerValidator` of `packages/agent/final_answer.py` with the records of
`packages/agent/dto.py` that it reads and returns. A result is built only if its own
validators accept it; a result that cannot be built makes the answer invalid. Which texts
look like a source is a parameter.
-/

namespace AegisRag.Agent

open Semantics Durable

/-! ## Summaries -/

def forbiddenSummaryKeyParts : List String :=
  ["absolute_path", "access_token", "api_key", "apikey", "authorization", "chunk_text", "content",
    "cookie", "credential", "embedding", "file_path", "hidden_reasoning", "local_path",
    "password", "private_key", "prompt", "provider_payload", "query", "raw", "secret", "sql",
    "text", "token", "vector"]

/-- `_is_forbidden_summary_key`; every key here is plain ASCII. -/
def isForbiddenSummaryKey (key : String) : Bool :=
  let normalized :=
    (lower (strip key)).map fun char => if char = '-' ∨ char = ' ' then '_' else char
  let compact := normalized.filter Char.isAlphanum
  forbiddenSummaryKeyParts.any fun part =>
    part.toList <:+: normalized || part.toList.filter (· ≠ '_') <:+: compact

/-- `_SAFE_SUMMARY_IDENTIFIER_PATTERN`. -/
def isSummaryIdentifier (value : String) : Bool :=
  match value.toList with
  | [] => false
  | first :: rest =>
    (first.isAlphanum || first == '_') && rest.length ≤ 127 && rest.all fun char =>
      char.isAlphanum || char == '_' || char == '.' || char == ':' || char == '-'

/-- `_is_safe_summary_string`. -/
def isSafeSummaryString (value : String) : Bool :=
  let normalized := strip value
  normalized ≠ "" && normalized.length ≤ 200 && !looksLikeAbsolutePath normalized &&
    !looksLikeSensitiveValue normalized && isSummaryIdentifier normalized

mutual

/-- `_validate_safe_summary_value`. -/
def isSafeSummaryValue : Json → Bool
  | .null => true
  | .bool _ => true
  | .int _ => true
  | .float _ => true
  | .str value => isSafeSummaryString value
  | .obj members => areSafeSummaryMembers members
  | .arr items => areSafeSummaryItems items

/-- `_validate_safe_summary_mapping`. -/
def areSafeSummaryMembers : List (String × Json) → Bool
  | [] => true
  | (key, value) :: members =>
    !isForbiddenSummaryKey key && isSafeSummaryValue value && areSafeSummaryMembers members

/-- The items of a summary's list. -/
def areSafeSummaryItems : List Json → Bool
  | [] => true
  | value :: items => isSafeSummaryValue value && areSafeSummaryItems items

end

/-! ## Records -/

def maxFinalAnswerLength : ℕ := 12000
def maxFinalCitations : ℕ := 50

/-- `FinalAnswerValidationRequest`; its validator trims the answer. -/
structure FinalAnswerValidationRequest where
  answer : String
  citations : List AgentCitationRef
  answerStripped : strip answer = answer
  answerFits : answer.length ≤ maxFinalAnswerLength
  citationsFit : citations.length ≤ maxFinalCitations
  citationsSafe : ∀ citation ∈ citations, citation.accepted = true

inductive FinalAnswerValidationStatus where
  | valid
  | degraded
  | invalid
deriving DecidableEq

/-- `FinalAnswerValidationResult` without its latency. -/
structure FinalAnswerValidationResult where
  status : FinalAnswerValidationStatus
  answer : Option String
  citations : List AgentCitationRef
  errorCode : Option String
  validatedCitationCount : ℕ
  unsupportedCitationCount : ℕ
  failedToolReferenceCount : ℕ
  metadata : Members

/-- The validators of `FinalAnswerValidationResult`. -/
def FinalAnswerValidationResult.accepted (result : FinalAnswerValidationResult) : Bool :=
  result.answer.all (·.length ≤ maxFinalAnswerLength) &&
    result.citations.length ≤ maxFinalCitations && areSafeSummaryMembers result.metadata &&
    match result.status with
    | .invalid => result.answer.isNone
    | _ => result.answer.any fun answer => strip answer ≠ ""

def unsupportedCitation : String := "AGENT_FINAL_ANSWER_UNSUPPORTED_CITATION"
def failedToolReference : String := "AGENT_FINAL_ANSWER_FAILED_TOOL_REFERENCE"
def validationFailed : String := "AGENT_FINAL_ANSWER_VALIDATION_FAILED"

/-- `_safe_citation_identifiers` of one citation. -/
def safeCitationIdentifiers (citation : AgentCitationRef) : Members :=
  [("document_id", .str citation.documentId), ("version_id", .str citation.versionId),
      ("chunk_id", .str citation.chunkId)] ++
    (citation.pageStart.map fun page => ("page_start", Json.ofNat page)).toList ++
    (citation.pageEnd.map fun page => ("page_end", Json.ofNat page)).toList ++
    (citation.toolName.map fun name => ("tool_name", Json.str name)).toList ++
    (citation.observationIndex.map fun index => ("observation_index", Json.ofNat index)).toList

/-- `_safe_validation_metadata`. -/
def safeValidationMetadata (status : String) (errorCode : Option String)
    (citations : List AgentCitationRef) (validated unsupported failed : ℕ) : Members :=
  [("validation_status", .str status), ("error_code", Json.ofOption .str errorCode),
    ("validated_citation_count", Json.ofNat validated),
    ("unsupported_citation_count", Json.ofNat unsupported),
    ("failed_tool_reference_count", Json.ofNat failed),
    ("citation_refs", .arr (citations.map fun citation => .obj (safeCitationIdentifiers citation)))]

/-- `_invalid_result`. -/
def invalidResult (errorCode : String) (citations : List AgentCitationRef)
    (validated unsupported failed : ℕ) : FinalAnswerValidationResult where
  status := .invalid
  answer := none
  citations := []
  errorCode := some errorCode
  validatedCitationCount := validated
  unsupportedCitationCount := unsupported
  failedToolReferenceCount := failed
  metadata :=
    safeValidationMetadata "invalid" (some errorCode) citations validated unsupported failed

/-! ## The validator -/

/-- Whether an observation holds a citation's evidence. -/
def holdsEvidence (observation : AgentObservationSummary) (citation : AgentCitationRef) : Bool :=
  observation.citationRefs.any fun reference => evidenceKey reference = evidenceKey citation

/-- `_observation_is_failed_or_non_rag`. -/
def isFailedOrNonRag (observation : AgentObservationSummary) : Bool :=
  observation.toolName ≠ "rag_search" || observation.status ≠ .success ||
    observation.errorCode.isSome ||
    !(observation.resultStatus = none || observation.resultStatus = some "success")

/-- `_successful_rag_search_observation_contains`. -/
def successfulRagSearchObservationContains (observation : AgentObservationSummary)
    (citation : AgentCitationRef) : Bool :=
  if observation.toolName ≠ "rag_search" then false
  else if observation.status ≠ .success then false
  else if observation.errorCode.isSome then false
  else if !(observation.resultStatus = none || observation.resultStatus = some "success") then false
  else holdsEvidence observation citation

/-- `_citation_is_supported`. -/
def citationIsSupported (citation : AgentCitationRef)
    (observations : List AgentObservationSummary) : Bool :=
  if !(citation.toolName = none || citation.toolName = some "rag_search") then false
  else
    match citation.observationIndex with
    | some index =>
      match observations[index]? with
      | none => false
      | some observation => successfulRagSearchObservationContains observation citation
    | none => observations.any (successfulRagSearchObservationContains · citation)

/-- `_failed_observation_contains_citation`. -/
def failedObservationContainsCitation (observation : AgentObservationSummary)
    (citation : AgentCitationRef) : Bool :=
  holdsEvidence observation citation && isFailedOrNonRag observation

/-- Whether `_failed_tool_reference_count` counts a citation. -/
def isFailedReference (observations : List AgentObservationSummary)
    (citation : AgentCitationRef) : Bool :=
  match citation.observationIndex with
  | none => observations.any (failedObservationContainsCitation · citation)
  | some index =>
    match observations[index]? with
    | none => true
    | some observation => isFailedOrNonRag observation

/-- `_failed_tool_reference_count`. -/
def failedToolReferenceCount (citations : List AgentCitationRef)
    (observations : List AgentObservationSummary) : ℕ :=
  citations.countP (isFailedReference observations)

/-- The result for an answer with nothing to object to. -/
def validResult (request : FinalAnswerValidationRequest) : FinalAnswerValidationResult where
  status := .valid
  answer := some request.answer
  citations := request.citations
  errorCode := none
  validatedCitationCount := request.citations.length
  unsupportedCitationCount := 0
  failedToolReferenceCount := 0
  metadata := safeValidationMetadata "valid" none request.citations request.citations.length 0 0

section

variable (sourceLikeText : String → Bool) (request : FinalAnswerValidationRequest)
  (observations : List AgentObservationSummary)

/-- The result that `_validate` builds. -/
def validationResult : FinalAnswerValidationResult :=
  if strip request.answer = "" then invalidResult validationFailed [] 0 0 0
  else if request.citations = [] ∧ sourceLikeText request.answer then
    invalidResult unsupportedCitation [] 0 1 0
  else
    let failed := failedToolReferenceCount request.citations observations
    let unsupported := request.citations.filter (!citationIsSupported · observations)
    let validated := request.citations.length - unsupported.length
    if failed ≠ 0 then
      invalidResult failedToolReference request.citations validated unsupported.length failed
    else if unsupported ≠ [] then
      invalidResult unsupportedCitation request.citations validated unsupported.length 0
    else validResult request

/-- `StrictFinalAnswerValidator.validate`: a result that its validators refuse is replaced. -/
def validate : FinalAnswerValidationResult :=
  let result := validationResult sourceLikeText request observations
  if result.accepted then result
  else
    { status := .invalid
      answer := none
      citations := []
      errorCode := some validationFailed
      validatedCitationCount := 0
      unsupportedCitationCount := 0
      failedToolReferenceCount := 0
      metadata :=
        [("validation_status", .str "invalid"), ("error_code", .str validationFailed)] }

end

/-! ## Safe summaries of safe citations -/

variable {citations : List AgentCitationRef} {observation : AgentObservationSummary}

theorem strip_eq_self (noSpace : ∀ char ∈ value.toList, isSpace char = false) :
    strip value = value := by
  have front : value.toList.dropWhile isSpace = value.toList := by
    rw [List.dropWhile_eq_self_iff]
    intro nonempty
    simp [noSpace _ (List.getElem_mem nonempty)]
  have back : value.toList.rdropWhile isSpace = value.toList := by
    rw [List.rdropWhile_eq_self_iff]
    intro nonempty
    simp [noSpace _ (List.getLast_mem nonempty)]
  rw [strip, front, back, String.ofList_toList]

/-- The characters of a citation's identifier. -/
def isIdentifierChar (char : Char) : Bool :=
  char.isAlphanum || char == '_' || char == '.' || char == ':' || char == '-'

theorem toNat_of_isAlphanum {char : Char} (isAlphanum : char.isAlphanum = true) :
    33 ≤ char.toNat ∧ char.toNat ≤ 126 := by
  simp only [Char.isAlphanum, Char.isAlpha, Char.isUpper, Char.isLower, Char.isDigit,
    Bool.or_eq_true, Bool.and_eq_true, decide_eq_true_eq, UInt32.le_iff_toNat_le] at isAlphanum
  change ((65 ≤ char.toNat ∧ char.toNat ≤ 90) ∨ 97 ≤ char.toNat ∧ char.toNat ≤ 122) ∨
    48 ≤ char.toNat ∧ char.toNat ≤ 57 at isAlphanum
  omega

theorem isSpace_of_isIdentifierChar (isIdentifier : isIdentifierChar char = true) :
    isSpace char = false := by
  simp only [isIdentifierChar, Bool.or_eq_true, beq_iff_eq] at isIdentifier
  rcases isIdentifier with (((isAlphanum | rfl) | rfl) | rfl) | rfl
  · have := toNat_of_isAlphanum isAlphanum
    simp only [isSpace, Bool.or_eq_false_iff, Bool.and_eq_false_iff, decide_eq_false_iff_not,
      beq_eq_false_iff_ne]
    omega
  all_goals decide

theorem safeCitationIdentifier_spec (isSafe : safeCitationIdentifier value = true) :
    ∃ first rest, value.toList = first :: rest ∧ first.isAlphanum = true ∧
      rest.all isIdentifierChar = true ∧ rest.length ≤ 127 := by
  unfold safeCitationIdentifier at isSafe
  split at isSafe
  · contradiction
  · rename_i first rest isList
    simp only [Bool.and_eq_true, decide_eq_true_eq] at isSafe
    exact ⟨first, rest, isList, isSafe.1.1, isSafe.1.2, isSafe.2⟩

theorem isSafeSummaryString_of_identifier (isSafe : isSafeCitationIdentifier value = true) :
    isSafeSummaryString value = true := by
  simp only [isSafeCitationIdentifier, Bool.and_eq_true] at isSafe
  obtain ⟨⟨isIdentifier, noPath⟩, noSecret⟩ := isSafe
  obtain ⟨first, rest, isList, startsWell, goesOnWell, short⟩ :=
    safeCitationIdentifier_spec isIdentifier
  have isStripped : strip value = value := by
    apply strip_eq_self
    intro char isIn
    apply isSpace_of_isIdentifierChar
    rw [isList] at isIn
    rcases List.mem_cons.mp isIn with rfl | isRest
    · simp [isIdentifierChar, startsWell]
    · exact List.all_eq_true.mp goesOnWell char isRest
  have isLength : value.length = rest.length + 1 := by
    rw [← String.length_toList, isList, List.length_cons]
  have notEmpty : value ≠ "" := by
    rintro rfl
    contradiction
  have fits : value.length ≤ 200 := by omega
  have isSummary : isSummaryIdentifier value = true := by
    rw [isSummaryIdentifier, isList]
    simp only [startsWell, Bool.true_or, Bool.true_and, Bool.and_eq_true, decide_eq_true_eq]
    exact ⟨short, goesOnWell⟩
  simp [isSafeSummaryString, isStripped, notEmpty, fits, isSummary, noSecret, noPath]

theorem areSafeSummaryMembers_append (first second : Members) :
    areSafeSummaryMembers (first ++ second) =
      (areSafeSummaryMembers first && areSafeSummaryMembers second) := by
  induction first with
  | nil => rfl
  | cons member first ih =>
    rw [List.cons_append, areSafeSummaryMembers, areSafeSummaryMembers, ih]
    simp only [Bool.and_assoc]

theorem areSafeSummaryMembers_option {value : Option α} {encode : α → Json}
    (isAllowed : isForbiddenSummaryKey key = false)
    (isSafe : ∀ held, value = some held → isSafeSummaryValue (encode held) = true) :
    areSafeSummaryMembers (value.map fun held => (key, encode held)).toList = true := by
  cases value with
  | none => rfl
  | some held => simp [areSafeSummaryMembers, isAllowed, isSafe held rfl]

theorem areSafeSummaryItems_map {values : List α}
    (areSafe : ∀ value ∈ values, isSafeSummaryValue (encode value) = true) :
    areSafeSummaryItems (values.map encode) = true := by
  induction values with
  | nil => rfl
  | cons value values ih =>
    rw [List.map_cons, areSafeSummaryItems, areSafe value List.mem_cons_self, Bool.true_and]
    exact ih fun other isIn => areSafe other (List.mem_cons_of_mem _ isIn)

theorem areSafeSummaryMembers_citation (isSafe : citation.accepted = true)
    (isSearch : citation.toolName = none ∨ citation.toolName = some "rag_search") :
    areSafeSummaryMembers (safeCitationIdentifiers citation) = true := by
  simp only [AgentCitationRef.accepted, Bool.and_eq_true] at isSafe
  obtain ⟨⟨⟨⟨⟨documentSafe, versionSafe⟩, chunkSafe⟩, -⟩, -⟩, -⟩ := isSafe
  have documentString := isSafeSummaryString_of_identifier documentSafe
  have versionString := isSafeSummaryString_of_identifier versionSafe
  have chunkString := isSafeSummaryString_of_identifier chunkSafe
  have identifiers : areSafeSummaryMembers
      [("document_id", .str citation.documentId), ("version_id", .str citation.versionId),
        ("chunk_id", .str citation.chunkId)] = true := by
    have documentKey : isForbiddenSummaryKey "document_id" = false := by decide +kernel
    have versionKey : isForbiddenSummaryKey "version_id" = false := by decide +kernel
    have chunkKey : isForbiddenSummaryKey "chunk_id" = false := by decide +kernel
    simp [areSafeSummaryMembers, isSafeSummaryValue, documentKey, versionKey, chunkKey,
      documentString, versionString, chunkString]
  simp only [safeCitationIdentifiers, areSafeSummaryMembers_append, Bool.and_eq_true]
  refine ⟨⟨⟨⟨identifiers, ?_⟩, ?_⟩, ?_⟩, ?_⟩
  · exact areSafeSummaryMembers_option (by decide +kernel) fun _ _ => rfl
  · exact areSafeSummaryMembers_option (by decide +kernel) fun _ _ => rfl
  · apply areSafeSummaryMembers_option (by decide +kernel)
    intro name isName
    rcases isSearch with noTool | isTool
    · rw [noTool] at isName
      contradiction
    · cases isTool.symm.trans isName
      decide +kernel
  · exact areSafeSummaryMembers_option (by decide +kernel) fun _ _ => rfl

theorem areSafeSummaryMembers_valid (count : ℕ)
    (areSafe : ∀ citation ∈ citations, citation.accepted = true)
    (areSearches : ∀ citation ∈ citations,
      citation.toolName = none ∨ citation.toolName = some "rag_search") :
    areSafeSummaryMembers (safeValidationMetadata "valid" none citations count 0 0) = true := by
  have statusKey : isForbiddenSummaryKey "validation_status" = false := by decide +kernel
  have errorKey : isForbiddenSummaryKey "error_code" = false := by decide +kernel
  have validatedKey : isForbiddenSummaryKey "validated_citation_count" = false := by
    decide +kernel
  have unsupportedKey : isForbiddenSummaryKey "unsupported_citation_count" = false := by
    decide +kernel
  have failedKey : isForbiddenSummaryKey "failed_tool_reference_count" = false := by
    decide +kernel
  have refsKey : isForbiddenSummaryKey "citation_refs" = false := by decide +kernel
  have validString : isSafeSummaryString "valid" = true := by decide +kernel
  have items : areSafeSummaryItems
      (citations.map fun citation => .obj (safeCitationIdentifiers citation)) = true := by
    apply areSafeSummaryItems_map
    intro citation isCitation
    rw [isSafeSummaryValue]
    exact areSafeSummaryMembers_citation (areSafe citation isCitation)
      (areSearches citation isCitation)
  simp [safeValidationMetadata, areSafeSummaryMembers, isSafeSummaryValue, Json.ofNat,
    Json.ofOption, statusKey, errorKey, validatedKey, unsupportedKey, failedKey, refsKey,
    validString, items]

/-! ## The verdict -/

section

variable {observations extra : List AgentObservationSummary} {citation : AgentCitationRef}

/-- A citation that neither check objects to. -/
def IsAcceptable (observations : List AgentObservationSummary) (citation : AgentCitationRef) :
    Prop :=
  isFailedReference observations citation = false ∧
    citationIsSupported citation observations = true

theorem isSearch_of_supported (isSupported : citationIsSupported citation observations = true) :
    citation.toolName = none ∨ citation.toolName = some "rag_search" := by
  unfold citationIsSupported at isSupported
  split at isSupported
  · contradiction
  · rename_i isTool
    simpa [or_iff_not_imp_left] using isTool

theorem failedToolReferenceCount_eq_zero :
    failedToolReferenceCount citations observations = 0 ↔
      ∀ citation ∈ citations, isFailedReference observations citation = false := by
  simp [failedToolReferenceCount, List.countP_eq_zero]

theorem filter_unsupported_eq_nil :
    citations.filter (!citationIsSupported · observations) = [] ↔
      ∀ citation ∈ citations, citationIsSupported citation observations = true := by
  simp [List.filter_eq_nil_iff]

/-- The checks in their order: an answer that passes them all gets the valid result, and
any other an invalid one. -/
theorem validationResult_cases (sourceLikeText : String → Bool)
    (request : FinalAnswerValidationRequest) (observations : List AgentObservationSummary) :
    (validationResult sourceLikeText request observations = validResult request ∧
      strip request.answer ≠ "" ∧
      ¬ (request.citations = [] ∧ sourceLikeText request.answer = true) ∧
      ∀ citation ∈ request.citations, IsAcceptable observations citation) ∨
    ((validationResult sourceLikeText request observations).status = .invalid ∧
      ¬ (strip request.answer ≠ "" ∧
        ¬ (request.citations = [] ∧ sourceLikeText request.answer = true) ∧
        ∀ citation ∈ request.citations, IsAcceptable observations citation)) := by
  unfold validationResult
  dsimp only
  split
  · rename_i isBlank
    exact .inr ⟨rfl, fun isValid => isValid.1 isBlank⟩
  rename_i notBlank
  split
  · rename_i sourceLike
    exact .inr ⟨rfl, fun isValid => isValid.2.1 sourceLike⟩
  rename_i notSourceLike
  split
  · rename_i someFailed
    refine .inr ⟨rfl, fun isValid => someFailed ?_⟩
    exact failedToolReferenceCount_eq_zero.mpr fun citation isIn => (isValid.2.2 citation isIn).1
  rename_i noneFailed
  split
  · rename_i someUnsupported
    refine .inr ⟨rfl, fun isValid => someUnsupported ?_⟩
    exact filter_unsupported_eq_nil.mpr fun citation isIn => (isValid.2.2 citation isIn).2
  · rename_i noneUnsupported
    refine .inl ⟨rfl, notBlank, notSourceLike, fun citation isIn => ⟨?_, ?_⟩⟩
    · exact failedToolReferenceCount_eq_zero.mp (not_ne_iff.mp noneFailed) citation isIn
    · exact filter_unsupported_eq_nil.mp (not_ne_iff.mp noneUnsupported) citation isIn

theorem validResult_accepted (notBlank : strip request.answer ≠ "")
    (acceptable : ∀ citation ∈ request.citations, IsAcceptable observations citation) :
    (validResult request).accepted = true := by
  have isSafe := areSafeSummaryMembers_valid request.citations.length request.citationsSafe
    fun citation isIn => isSearch_of_supported (acceptable citation isIn).2
  simp [FinalAnswerValidationResult.accepted, validResult, isSafe, request.answerFits,
    request.citationsFit, notBlank]

/-- An answer is valid exactly if it is not blank, does not look like a source without
citing one, and every citation is acceptable. -/
theorem validate_valid_iff :
    (validate sourceLikeText request observations).status = .valid ↔
      strip request.answer ≠ "" ∧
      ¬ (request.citations = [] ∧ sourceLikeText request.answer = true) ∧
      ∀ citation ∈ request.citations, IsAcceptable observations citation := by
  rcases validationResult_cases sourceLikeText request observations with
    ⟨isValid, conditions⟩ | ⟨isInvalid, conditions⟩
  · have isAccepted := validResult_accepted conditions.1 conditions.2.2
    simp only [validate, isValid, isAccepted, if_true]
    exact iff_of_true rfl conditions
  · apply iff_of_false _ conditions
    unfold validate
    dsimp only
    split
    · rw [isInvalid]
      exact FinalAnswerValidationStatus.noConfusion
    · exact FinalAnswerValidationStatus.noConfusion

/-! ## Support -/

/-- A successful search without error. -/
def IsSuccessfulSearch (observation : AgentObservationSummary) : Prop :=
  observation.toolName = "rag_search" ∧ observation.status = .success ∧
    observation.errorCode = none ∧
    (observation.resultStatus = none ∨ observation.resultStatus = some "success")

def evidenceKeys (observation : AgentObservationSummary) :
    List (String × String × String × Option String × Option ℕ × Option ℕ) :=
  observation.citationRefs.map evidenceKey

/-- A citation's evidence occurs in a successful search, at its index if it has one. -/
def IsSupportedBy (observations : List AgentObservationSummary) (citation : AgentCitationRef) :
    Prop :=
  ∃ index observation, observations[index]? = some observation ∧
    (∀ given, citation.observationIndex = some given → given = index) ∧
    IsSuccessfulSearch observation ∧ evidenceKey citation ∈ evidenceKeys observation

theorem isFailedOrNonRag_eq_false :
    isFailedOrNonRag observation = false ↔ IsSuccessfulSearch observation := by
  simp only [isFailedOrNonRag, IsSuccessfulSearch, Bool.or_eq_false_iff,
    decide_eq_false_iff_not, not_not, Option.isSome_eq_false_iff, Option.isNone_iff_eq_none,
    Bool.not_eq_false', Bool.or_eq_true, decide_eq_true_eq, and_assoc]

theorem holdsEvidence_iff :
    holdsEvidence observation citation = true ↔
      evidenceKey citation ∈ evidenceKeys observation := by
  simp [holdsEvidence, evidenceKeys]

theorem successfulContains_iff :
    successfulRagSearchObservationContains observation citation = true ↔
      IsSuccessfulSearch observation ∧ evidenceKey citation ∈ evidenceKeys observation := by
  rw [← isFailedOrNonRag_eq_false, ← holdsEvidence_iff, isFailedOrNonRag,
    successfulRagSearchObservationContains]
  split_ifs <;> simp_all

theorem isSupportedBy_of_supported
    (isSupported : citationIsSupported citation observations = true) :
    IsSupportedBy observations citation := by
  unfold citationIsSupported at isSupported
  split at isSupported
  · contradiction
  · cases isIndex : citation.observationIndex with
    | none =>
      rw [isIndex] at isSupported
      obtain ⟨observation, isIn, contains⟩ := List.any_eq_true.mp isSupported
      obtain ⟨index, isAt⟩ := List.mem_iff_getElem?.mp isIn
      refine ⟨index, observation, isAt, ?_, successfulContains_iff.mp contains⟩
      intro given isGiven
      rw [isIndex] at isGiven
      contradiction
    | some index =>
      rw [isIndex] at isSupported
      dsimp only at isSupported
      cases isAt : observations[index]? with
      | none =>
        rw [isAt] at isSupported
        contradiction
      | some observation =>
        rw [isAt] at isSupported
        refine ⟨index, observation, isAt, ?_, successfulContains_iff.mp isSupported⟩
        intro given isGiven
        exact Option.some.inj (isGiven.symm.trans isIndex)

/-- A supported citation of the search tool is acceptable if its evidence occurs in no
failed observation. -/
theorem isAcceptable_of_supportedBy (isSupported : IsSupportedBy observations citation)
    (isSearch : citation.toolName = none ∨ citation.toolName = some "rag_search")
    (notFailed : ∀ observation ∈ observations, ¬ IsSuccessfulSearch observation →
      evidenceKey citation ∉ evidenceKeys observation) : IsAcceptable observations citation := by
  obtain ⟨_, observation, isAt, sameIndex, isSuccess, holds⟩ := isSupported
  have contains := successfulContains_iff.mpr ⟨isSuccess, holds⟩
  have isTool :
      ¬ (!(citation.toolName = none || citation.toolName = some "rag_search")) = true := by
    rcases isSearch with noTool | isTool
    · simp [noTool]
    · simp [isTool]
  cases isIndex : citation.observationIndex with
  | none =>
    constructor
    · rw [isFailedReference, isIndex]
      simp only [List.any_eq_false]
      intro other isIn
      by_cases isFailed : IsSuccessfulSearch other
      · simp [failedObservationContainsCitation, isFailedOrNonRag_eq_false.mpr isFailed]
      · have missing := notFailed other isIn isFailed
        rw [← holdsEvidence_iff, Bool.not_eq_true] at missing
        simp [failedObservationContainsCitation, missing]
    · rw [citationIsSupported, if_neg isTool, isIndex]
      exact List.any_eq_true.mpr ⟨observation, List.mem_of_getElem? isAt, contains⟩
  | some given =>
    obtain rfl := sameIndex given isIndex
    constructor
    · rw [isFailedReference, isIndex]
      dsimp only
      rw [isAt]
      exact isFailedOrNonRag_eq_false.mpr isSuccess
    · rw [citationIsSupported, if_neg isTool, isIndex]
      dsimp only
      rw [isAt]
      exact contains

/-! ## Further observations -/

theorem not_contains_of_missing (missing : evidenceKey citation ∉ evidenceKeys observation) :
    successfulRagSearchObservationContains observation citation = false ∧
      failedObservationContainsCitation observation citation = false := by
  constructor
  · rw [← Bool.not_eq_true, successfulContains_iff]
    exact fun contains => missing contains.2
  · rw [← holdsEvidence_iff, Bool.not_eq_true] at missing
    rw [failedObservationContainsCitation, missing, Bool.false_and]

/-- Observations without a citation's evidence do not make it acceptable or unacceptable.
An index beyond the first observations is refused either way. -/
theorem isAcceptable_append (missing : ∀ observation ∈ extra,
      evidenceKey citation ∉ evidenceKeys observation) :
    IsAcceptable (observations ++ extra) citation ↔ IsAcceptable observations citation := by
  cases isIndex : citation.observationIndex with
  | none =>
    have noSupport : extra.any (successfulRagSearchObservationContains · citation) = false :=
      List.any_eq_false.mpr fun other isIn => by
        simp [(not_contains_of_missing (missing other isIn)).1]
    have noFailure : extra.any (failedObservationContainsCitation · citation) = false :=
      List.any_eq_false.mpr fun other isIn => by
        simp [(not_contains_of_missing (missing other isIn)).2]
    simp only [IsAcceptable, isFailedReference, citationIsSupported, isIndex, List.any_append,
      noSupport, noFailure, Bool.or_false]
  | some index =>
    by_cases inside : index < observations.length
    · simp only [IsAcceptable, isFailedReference, citationIsSupported, isIndex,
        List.getElem?_append_left inside]
    · have isOutside : observations[index]? = none :=
        List.getElem?_eq_none (Nat.le_of_not_lt inside)
      apply iff_of_false
      · rintro ⟨-, isSupported⟩
        obtain ⟨_, observation, isAt, sameIndex, -, holds⟩ :=
          isSupportedBy_of_supported isSupported
        obtain rfl := sameIndex index isIndex
        rw [List.getElem?_append_right (Nat.le_of_not_lt inside)] at isAt
        exact missing observation (List.mem_of_getElem? isAt) holds
      · rintro ⟨notFailed, -⟩
        rw [isFailedReference, isIndex] at notFailed
        simp [isOutside] at notFailed

end

/-! ## Observations of a run -/

/-- Observations that the runtime made of tool results. -/
def AreOfRun (displayName : String → String) (observations : List AgentObservationSummary) : Prop :=
  ∀ observation ∈ observations,
    ∃ result, observation = (summarizeToolResult displayName result).summary

/-- A citation copied from an observation, with or without the observation's index. -/
def IsCopied (observations : List AgentObservationSummary) (citation : AgentCitationRef) : Prop :=
  ∃ index observation, observations[index]? = some observation ∧
    IsSuccessfulSearch observation ∧ ∃ reference ∈ observation.citationRefs,
      citation = reference ∨ citation = { reference with observationIndex := some index }

theorem isSupportedBy_of_copied (areOfRun : AreOfRun displayName observations)
    (isCopied : IsCopied observations citation) :
    IsSupportedBy observations citation ∧ citation.toolName = some "rag_search" := by
  obtain ⟨index, observation, isAt, isSuccess, reference, isReference, isCopy⟩ := isCopied
  obtain ⟨result, rfl⟩ := areOfRun observation (List.mem_of_getElem? isAt)
  obtain ⟨-, isTool, noIndex, -⟩ := citationRefs_spec isReference
  have holds :
      evidenceKey reference ∈ evidenceKeys (summarizeToolResult displayName result).summary :=
    List.mem_map_of_mem isReference
  rcases isCopy with rfl | rfl
  · refine ⟨⟨index, _, isAt, ?_, isSuccess, holds⟩, isTool⟩
    intro given isGiven
    rw [noIndex] at isGiven
    contradiction
  · refine ⟨⟨index, _, isAt, ?_, isSuccess, holds⟩, isTool⟩
    intro given isGiven
    exact (Option.some.inj isGiven).symm

/-- A valid answer cites only evidence of successful searches and does not look like a
source without citing one; an answer whose citations are copied from successful searches
is valid; and observations without the cited evidence never change this. -/
theorem final_answer_validation_is_exact (sourceLikeText : String → Bool)
    (request : FinalAnswerValidationRequest) (observations : List AgentObservationSummary) :
    ((validate sourceLikeText request observations).status = .valid →
      (∀ citation ∈ request.citations, IsSupportedBy observations citation) ∧
        (sourceLikeText request.answer = true → request.citations ≠ [])) ∧
    (∀ displayName, AreOfRun displayName observations → request.answer ≠ "" →
      request.citations ≠ [] →
      (∀ citation ∈ request.citations, IsCopied observations citation ∧
        ∀ observation ∈ observations, ¬ IsSuccessfulSearch observation →
          evidenceKey citation ∉ evidenceKeys observation) →
      (validate sourceLikeText request observations).status = .valid) ∧
    (∀ extra : List AgentObservationSummary,
      (∀ citation ∈ request.citations, ∀ observation ∈ extra,
        evidenceKey citation ∉ evidenceKeys observation) →
      ((validate sourceLikeText request (observations ++ extra)).status = .valid ↔
        (validate sourceLikeText request observations).status = .valid)) := by
  refine ⟨?_, ?_, ?_⟩
  · intro isValid
    obtain ⟨-, notSourceLike, acceptable⟩ := validate_valid_iff.mp isValid
    constructor
    · intro citation isIn
      exact isSupportedBy_of_supported (acceptable citation isIn).2
    · intro sourceLike isEmpty
      exact notSourceLike ⟨isEmpty, sourceLike⟩
  · intro displayName areOfRun notBlank cites areCopied
    apply validate_valid_iff.mpr
    refine ⟨?_, fun sourceLike => cites sourceLike.1, ?_⟩
    · rw [request.answerStripped]
      exact notBlank
    · intro citation isIn
      obtain ⟨isCopied, notFailed⟩ := areCopied citation isIn
      obtain ⟨isSupported, isTool⟩ := isSupportedBy_of_copied areOfRun isCopied
      exact isAcceptable_of_supportedBy isSupported (.inr isTool) notFailed
  · intro extra missing
    rw [validate_valid_iff, validate_valid_iff]
    have same : (∀ citation ∈ request.citations, IsAcceptable (observations ++ extra) citation) ↔
        ∀ citation ∈ request.citations, IsAcceptable observations citation :=
      forall₂_congr fun citation isIn => isAcceptable_append (missing citation isIn)
    rw [same]

/-- A search that found one passage. -/
def passageFound : ToolExecutionResult where
  toolName := "rag_search"
  status := .success
  output := some
    [("status", .str "success"),
      ("results", .arr [.obj [("document_id", .str "handbook"), ("version_id", .str "v2"),
        ("chunk_id", .str "c7")]])]
  latencyMs := 12
  promptContext := []

/-- The citation of that passage. -/
def passageCitation : AgentCitationRef where
  documentId := "handbook"
  versionId := "v2"
  chunkId := "c7"
  source := none
  pageStart := none
  pageEnd := none
  toolName := some "rag_search"
  observationIndex := none

/-- An answer that cites it. -/
def citingRequest : FinalAnswerValidationRequest where
  answer := "Leave is granted in writing."
  citations := [passageCitation]
  answerStripped := by decide +kernel
  answerFits := by decide +kernel
  citationsFit := by decide
  citationsSafe := by
    intro citation isIn
    obtain rfl := List.mem_singleton.mp isIn
    decide +kernel

/-- The answer is valid after that search. -/
theorem final_answer_validation_is_exact_passage :
    (validate (fun _ => false) citingRequest
      [(summarizeToolResult id passageFound).summary]).status = .valid := by
  have isReference : (summarizeToolResult id passageFound).summary.citationRefs =
      [passageCitation] := by
    rfl
  have isSuccess : IsSuccessfulSearch (summarizeToolResult id passageFound).summary := by
    refine ⟨?_, ?_, ?_, ?_⟩ <;> decide +kernel
  have guarantees := final_answer_validation_is_exact (fun _ => false) citingRequest
    [(summarizeToolResult id passageFound).summary]
  apply guarantees.2.1 id
  · intro observation isIn
    exact ⟨passageFound, List.mem_singleton.mp isIn⟩
  · decide +kernel
  · exact List.cons_ne_nil _ _
  · intro citation isIn
    obtain rfl := List.mem_singleton.mp isIn
    constructor
    · refine ⟨0, _, rfl, isSuccess, passageCitation, ?_, .inl rfl⟩
      rw [isReference]
      exact List.mem_singleton_self _
    · intro observation isIn isFailed
      obtain rfl := List.mem_singleton.mp isIn
      exact absurd isSuccess isFailed

end AegisRag.Agent

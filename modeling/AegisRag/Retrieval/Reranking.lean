import AegisRag.Rag.Query
import AegisRag.Retrieval.Hybrid

/-!
# An arbitrary reranker

`RerankingRetriever.retrieve` of `packages/retrieval/rerank/__init__.py` against a
reranker that may do anything. Its answer is matched with the candidates by identity, so
all it chooses is their order and their scores. Before the failure policy is looked at,
the handler of a failure logs the text of the exception.
-/

namespace AegisRag.Retrieval

open Semantics Common Vectorstores Auth

/-- What a reranker does. What it raises is an `Exception` or not, and `str` of it returns
or not; a timeout is an `Exception` with a text. -/
inductive RerankReply where
  | answered (candidates : List RetrievalCandidate)
  | raised (isException hasText : Bool)

def RerankReply.answer : RerankReply → Option (List RetrievalCandidate)
  | .answered candidates => some candidates
  | .raised _ _ => none

/-- The handler does not catch what was raised, or raises itself when it logs it. -/
def RerankReply.escapes : RerankReply → Bool
  | .answered _ => false
  | .raised isException hasText => !(isException && hasText)

/-- How a request for candidates fails. -/
inductive RerankingError where
  | rejected (error : RerankError)
  | escaped
deriving DecidableEq

/-- A candidate with a score of its own, in range, and redacted metadata. Its other
fields, the identity, the access list and the content among them, are the original's. -/
structure IsRescored (redaction : Redaction) (original candidate : RetrievalCandidate) :
    Prop where
  copy : ∃ members, candidate = candidateWithRerank redaction original candidate.score members
  inRange : scoreInRange candidate.score = true

section

variable (python : Rendering) (redaction : Redaction) (config : RerankConfig)
  (request : RetrievalRequest) (filters : RetrievalFilterSet)

/-- `RerankingRetriever.retrieve`, with the early return and the handler. -/
def RerankingRetriever.retrieve (upstream : List RetrievalCandidate)
    (reranker : List RetrievalCandidate → RerankReply)
    (provenance : RetrievalCandidate → List (String × Json)) :
    Except RerankingError (List RetrievalCandidate) :=
  if upstream = [] then .ok []
  else do
    let guarded ← (guardAndSanitize python redaction filters
      (upstream.take config.maxCandidates)).mapError .rejected
    if config.enabled && (reranker guarded).escapes then .error .escaped
    else (rerankingRetrieve python redaction config request filters upstream
      (fun given => (reranker given).answer) provenance).mapError .rejected

end

section

variable {provenance : RetrievalCandidate → List (String × Json)}

theorem IsRescored.identity (rescored : IsRescored redaction original candidate) :
    candidate.identity = original.identity := by
  obtain ⟨_, copy⟩ := rescored.copy
  rw [copy]
  rfl

theorem identities_of_rescored (rescored : List.Forall₂ (IsRescored redaction) order output) :
    output.map RetrievalCandidate.identity = order.map RetrievalCandidate.identity := by
  induction rescored with
  | nil => rfl
  | cons first _ ih => rw [List.map_cons, List.map_cons, first.identity, ih]

/-- What passes the guard is in scope, has scores in range and distinct identities. -/
theorem guardAndSanitize_passed
    (passed : guardAndSanitize python redaction filters candidates = .ok safe) :
    (candidates.map RetrievalCandidate.identity).Nodup ∧
      ∀ candidate ∈ candidates, candidateInScope python filters candidate = true ∧
        scoreInRange candidate.score = true := by
  rw [guardAndSanitize, bind_eq_ok] at passed
  obtain ⟨checked, ran, -⟩ := passed
  suffices kept : checked.1 = candidates.map RetrievalCandidate.identity ∧ _ from kept.2
  apply loop_keeps (fun visited seen => seen.1 = visited.map RetrievalCandidate.identity ∧
    (visited.map RetrievalCandidate.identity).Nodup ∧
      ∀ candidate ∈ visited, candidateInScope python filters candidate = true ∧
        scoreInRange candidate.score = true) _ (by simp) ran
  rintro visited seen candidate next ⟨seenEqual, distinct, passes⟩ step
  simp only [guardStep, ite_error_eq_ok, Except.ok.injEq] at step
  obtain ⟨isNew, inScope, inRange, rfl⟩ := step
  rw [seenEqual] at isNew ⊢
  refine ⟨by simp, ?_, ?_⟩
  · rw [List.map_append, List.map_cons, List.map_nil, ← List.concat_eq_append]
    exact distinct.concat isNew
  · intro other isIn
    rcases List.mem_append.mp isIn with isIn | isIn
    · exact passes other isIn
    · rw [List.mem_singleton] at isIn
      simpa [isIn] using And.intro inScope inRange

/-- An answer that is accepted is a rearrangement of the candidates. -/
theorem validatedCandidates_rearranges
    (ran : validatedCandidates redaction originals provenance reranked = .ok output) :
    ∃ order, order.Perm originals ∧ List.Forall₂ (IsRescored redaction) order output := by
  rw [validatedCandidates, ite_error_eq_ok, not_not] at ran
  obtain ⟨sameLength, ran⟩ := ran
  -- The originals that were matched so far, in the order of the answer.
  suffices kept : ∃ order : List RetrievalCandidate, order ⊆ originals ∧
      (order.map RetrievalCandidate.identity).Nodup ∧ order.length = reranked.length ∧
        List.Forall₂ (IsRescored redaction) order output by
    obtain ⟨order, isSubset, distinct, sized, rescored⟩ := kept
    refine ⟨order, ?_, rescored⟩
    exact (distinct.of_map.subperm isSubset).perm_of_length_le (by rw [sized, sameLength])
  apply loop_keeps (fun visited output => ∃ order : List RetrievalCandidate, order ⊆ originals ∧
    (order.map RetrievalCandidate.identity).Nodup ∧ order.length = visited.length ∧
      List.Forall₂ (IsRescored redaction) order output) _ ⟨[], by simp⟩ ran
  rintro visited current reply after ⟨order, isSubset, distinct, sized, rescored⟩ step
  unfold validatedStep at step
  split at step
  · cases step
  · rename_i original found
    simp only [ite_error_eq_ok, Except.ok.injEq] at step
    obtain ⟨isNew, inRange, rfl⟩ := step
    refine ⟨order ++ [original], ?_, ?_, by simp [sized], ?_⟩
    · simpa [isSubset] using List.mem_of_find?_eq_some found
    · rw [List.map_append, List.map_cons, List.map_nil, ← List.concat_eq_append]
      apply distinct.concat
      rw [← identities_of_rescored rescored]
      simpa using isNew
    · exact List.rel_append rescored
        (.cons ⟨⟨_, rfl⟩, by simpa [candidateWithRerank] using inRange⟩ .nil)

theorem unrankedCandidates_rescored (request : RetrievalRequest)
    (provenance : RetrievalCandidate → List (String × Json))
    (inRange : ∀ candidate ∈ originals, scoreInRange candidate.score = true) :
    List.Forall₂ (fun original candidate => IsRescored redaction original candidate ∧
      candidate.score = original.score) (originals.take request.topK)
        (unrankedCandidates redaction request originals provenance) := by
  rw [unrankedCandidates, ← List.map_take, List.forall₂_map_right_iff, List.forall₂_same]
  intro original isIn
  exact ⟨⟨⟨_, rfl⟩, inRange original (List.mem_of_mem_take isIn)⟩, rfl⟩

/-- How a request that was answered went. -/
theorem rerankingRetrieve_eq_ok
    (ran : rerankingRetrieve python redaction config request filters candidates reranker
      provenance = .ok output) :
    ∃ guarded, guardAndSanitize python redaction filters
        (candidates.take config.maxCandidates) = .ok guarded ∧
      (output = unrankedCandidates redaction request (candidates.take config.maxCandidates)
          provenance ∨
        config.enabled = true ∧ ∃ answer, rerankAnswer redaction
          (candidates.take config.maxCandidates) guarded reranker provenance = .ok answer ∧
            output = answer.take request.topK) := by
  rw [rerankingRetrieve, bind_eq_ok] at ran
  obtain ⟨guarded, passed, ran⟩ := ran
  refine ⟨guarded, passed, ?_⟩
  split at ran
  · cases ran
    exact .inl rfl
  · rename_i enabled
    split at ran
    · rename_i answer answered
      cases ran
      exact .inr ⟨by simpa using enabled, answer, answered, rfl⟩
    · split at ran
      · cases ran
        exact .inl rfl
      · cases ran

theorem rerankingRetrieve_falls_back (request : RetrievalRequest)
    (reranker : List RetrievalCandidate → Option (List RetrievalCandidate))
    (provenance : RetrievalCandidate → List (String × Json))
    (passed : guardAndSanitize python redaction filters (candidates.take config.maxCandidates) =
      .ok safe) (fallback : config.fallback = true) :
    ∃ output, rerankingRetrieve python redaction config request filters candidates reranker
      provenance = .ok output := by
  simp only [rerankingRetrieve, passed, bind, Except.bind, fallback, if_true]
  split
  · exact ⟨_, rfl⟩
  · split <;> exact ⟨_, rfl⟩

/-- What is returned are the first of the candidates in some order. -/
theorem rerankingRetrieve_rearranges
    (ran : rerankingRetrieve python redaction config request filters candidates reranker
      provenance = .ok output) :
    ∃ order : List RetrievalCandidate, order.Perm (candidates.take config.maxCandidates) ∧
      List.Forall₂ (IsRescored redaction) (order.take request.topK) output := by
  obtain ⟨_, passed, rfl | ⟨-, _, answered, rfl⟩⟩ := rerankingRetrieve_eq_ok ran
  · have inRange := (guardAndSanitize_passed passed).2
    exact ⟨_, .rfl, (unrankedCandidates_rescored request provenance fun candidate isIn =>
      (inRange candidate isIn).2).imp fun _ _ => And.left⟩
  · unfold rerankAnswer at answered
    split at answered
    · cases answered
    · obtain ⟨order, isOrder, rescored⟩ := validatedCandidates_rearranges answered
      exact ⟨order, isOrder, List.forall₂_take _ rescored⟩

theorem exists_original_of_mem
    (ran : rerankingRetrieve python redaction config request filters candidates reranker
      provenance = .ok output) (isIn : candidate ∈ output) :
    ∃ original ∈ candidates.take config.maxCandidates,
      IsRescored redaction original candidate := by
  obtain ⟨order, isOrder, rescored⟩ := rerankingRetrieve_rearranges ran
  obtain ⟨position, inside, rfl⟩ := List.getElem_of_mem isIn
  have below : position < (order.take request.topK).length := by
    rw [rescored.length_eq]
    exact inside
  have isOriginal := isOrder.subset (List.mem_of_mem_take (List.getElem_mem below))
  exact ⟨_, isOriginal, rescored.get below inside⟩

end

/-- Whatever the reranker does, a request that returns gives the first of the guarded
candidates in some order, with scores in range; after a fallback in the order of arrival.
Under the fallback policy it returns exactly when nothing escapes the handler. -/
theorem reranker_only_reorders (python : Rendering) (redaction : Redaction)
    (config : RerankConfig) (request : RetrievalRequest) (filters : RetrievalFilterSet)
    (upstream : List RetrievalCandidate) (reranker : List RetrievalCandidate → RerankReply)
    (provenance : RetrievalCandidate → List (String × Json)) :
    let first := upstream.take config.maxCandidates
    let result := RerankingRetriever.retrieve python redaction config request filters upstream
      reranker provenance
    (∀ output, result = .ok output →
      output.length ≤ request.topK ∧
      (output.map RetrievalCandidate.identity).Nodup ∧
      (∀ candidate ∈ first, candidateInScope python filters candidate = true) ∧
      (∃ order : List RetrievalCandidate, order.Perm first ∧
        List.Forall₂ (IsRescored redaction) (order.take request.topK) output) ∧
      ∀ guarded, guardAndSanitize python redaction filters first = .ok guarded →
        (config.enabled = false ∨ ∃ raised, rerankAnswer redaction first guarded
          (fun given => (reranker given).answer) provenance = .error raised) →
        List.Forall₂ (fun original candidate => IsRescored redaction original candidate ∧
          candidate.score = original.score) (first.take request.topK) output) ∧
    ∀ guarded, guardAndSanitize python redaction filters first = .ok guarded →
      config.fallback = true →
        ((∃ output, result = .ok output) ↔
          upstream = [] ∨ config.enabled = false ∨ (reranker guarded).escapes = false) := by
  intro first result
  constructor
  · intro output returned
    simp only [result, RerankingRetriever.retrieve] at returned
    split at returned
    · rename_i isEmpty
      cases returned
      have none : first = [] := by simp [first, isEmpty]
      simp [none]
    · rw [bind_eq_ok] at returned
      obtain ⟨guarded, passed, returned⟩ := returned
      rw [mapError_eq_ok] at passed
      obtain ⟨distinct, inScope⟩ := guardAndSanitize_passed passed
      split at returned
      · cases returned
      · rw [mapError_eq_ok] at returned
        obtain ⟨order, isOrder, rescored⟩ := rerankingRetrieve_rearranges returned
        have sized := rescored.length_eq
        rw [List.length_take] at sized
        refine ⟨by omega, ?_, fun candidate isIn => (inScope candidate isIn).1,
          ⟨order, isOrder, rescored⟩, ?_⟩
        · rw [identities_of_rescored rescored]
          rw [← (isOrder.map RetrievalCandidate.identity).nodup_iff] at distinct
          exact distinct.sublist ((List.take_sublist _ _).map _)
        · intro _ alsoPassed unranked
          cases passed.symm.trans alsoPassed
          obtain ⟨_, again, rfl | ⟨enabled, answer, answered, -⟩⟩ :=
            rerankingRetrieve_eq_ok returned
          · exact unrankedCandidates_rescored request provenance
              fun candidate isIn => (inScope candidate isIn).2
          · cases passed.symm.trans again
            rcases unranked with disabled | ⟨raised, failed⟩
            · simp [disabled] at enabled
            · cases failed.symm.trans answered
  · intro guarded passed fallback
    by_cases isEmpty : upstream = []
    · exact iff_of_true ⟨[], if_pos isEmpty⟩ (.inl isEmpty)
    · have unfolded : result = if config.enabled && (reranker guarded).escapes then
          .error .escaped
        else (rerankingRetrieve python redaction config request filters upstream
          (fun given => (reranker given).answer) provenance).mapError .rejected := by
        simp only [result, RerankingRetriever.retrieve, if_neg isEmpty]
        rw [mapError_eq_ok.mpr passed]
        rfl
      obtain ⟨output, returned⟩ := rerankingRetrieve_falls_back request
        (fun given => (reranker given).answer) provenance passed fallback
      rw [unfolded, returned]
      cases config.enabled <;> cases (reranker guarded).escapes <;> simp [isEmpty, Except.mapError]

/-- The candidate of the handbook passes the guard. Under the fallback policy a reranker
still makes the request fail by an exception without a text, or one like the cancellation
of its task that is no `Exception`. -/
theorem reranker_failure_escapes :
    let guarded := guardAndSanitize Reader.brackets ⟨fun _ => false, Char.isAlphanum⟩
      Reader.filters [Rag.Handbook.found]
    let failing := fun isException hasText => RerankingRetriever.retrieve Reader.brackets
      ⟨fun _ => false, Char.isAlphanum⟩ ⟨true, true, 100⟩ Rag.Handbook.request Reader.filters
      [Rag.Handbook.found] (fun _ => .raised isException hasText) fun _ => []
    guarded.toOption.isSome ∧ (failing true true).toOption.isSome ∧
      (failing true false).toOption.isNone ∧ (failing false true).toOption.isNone := by
  decide +kernel

end AegisRag.Retrieval

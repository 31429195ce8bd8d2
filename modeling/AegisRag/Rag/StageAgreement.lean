import AegisRag.Retrieval.Candidates
import AegisRag.Retrieval.Reranking

/-!
# Agreement of the retrieval stages

Each stage redacts what it passes on and the next one compares it again. Exactly where
redaction leaves the metadata filter and the source as they are, and the access list still
open to the reader, no stage refuses what an earlier one let through.
-/

namespace AegisRag.Retrieval

open Semantics Common Vectorstores Auth Data Rag

/-! ## Metadata through a redaction -/

section

/-- A redaction of members that keeps their keys, keeps a value that equals one it keeps, and
makes of no value one that equals what it would not keep. -/
structure KeepsEqual (safe : String × Json → Option (String × Json)) : Prop where
  key : ∀ member kept, safe member = some kept → kept.1 = member.1
  value : ∀ key required stored, safe (key, required) = some (key, required) →
    equalsScalar (some stored) required = true → safe (key, stored) = some (key, stored)
  null : ∀ key kept, safe (key, .null) = some (key, kept) → kept = .null
  changed : ∀ key required stored kept, required ≠ .null →
    equalsScalar (some stored) required = true → safe (key, stored) = some (key, kept) →
      equalsScalar (some kept) required = true → safe (key, required) = some (key, required)

/-- Every member of a filter outlasts a stage: redaction keeps it, or it asks for no value under
a key that is not the stage's own. -/
def Outlasts (safe : String × Json → Option (String × Json)) (added : String)
    (required : Metadata) : Prop :=
  ∀ member ∈ required, safe member = some member ∨ member.2 = .null ∧ member.1 ≠ added

variable {metadata required : Metadata} {key : String} {value kept : Json}

/-- What a key holds after a redaction. -/
theorem KeepsEqual.lookup_filterMap (keeps : KeepsEqual safe)
    (distinct : (metadata.map (·.1)).Nodup) :
    (metadata.filterMap safe).lookup key =
      (metadata.lookup key).bind fun value => (safe (key, value)).map (·.2) := by
  induction metadata with
  | nil => rfl
  | cons member rest ih =>
    obtain ⟨other, stored⟩ := member
    rw [List.map_cons, List.nodup_cons] at distinct
    have later := ih distinct.2
    rw [List.lookup_cons]
    cases became : safe (other, stored) with
    | none =>
      rw [List.filterMap_cons_none became, later]
      by_cases same : key = other
      · subst same
        have missing : rest.lookup key = none := by
          rw [List.lookup_eq_none_iff]
          rintro member isIn
          exact bne_iff_ne.mpr fun same =>
            distinct.1 (List.mem_map.mpr ⟨member, isIn, same.symm⟩)
        simp [missing, became]
      · rw [beq_false_of_ne same]
    | some kept =>
      obtain ⟨otherKey, value⟩ := kept
      obtain rfl : otherKey = other := keeps.key _ _ became
      rw [List.filterMap_cons_some became, List.lookup_cons, later]
      by_cases same : key = otherKey
      · simp [same, became]
      · simp [beq_false_of_ne same]

theorem equalsScalar_obj (members : List (String × Json)) (value : Json) :
    equalsScalar (some (.obj members)) value = false := by
  cases value <;> rfl

theorem equalsScalar_none (filled : value ≠ .null) : equalsScalar none value = false := by
  cases value <;> simp_all [equalsScalar, number]

/-- Metadata that matched a filter matches it after a redaction, with what the stage adds under a
key of its own, if and only if the filter outlasts the stage. -/
theorem KeepsEqual.metadataMatches_append (keeps : KeepsEqual safe)
    (distinct : (metadata.map (·.1)).Nodup) (matched : metadataMatches metadata required = true)
    (dropped : ∀ value, safe (added, value) = none) (provenance : List (String × Json)) :
    metadataMatches (metadata.filterMap safe ++ [(added, .obj provenance)]) required = true ↔
      Outlasts safe added required := by
  rw [metadataMatches, List.all_eq_true] at matched ⊢
  refine forall₂_congr fun member isIn => ?_
  obtain ⟨key, value⟩ := member
  have equal := matched (key, value) isIn
  simp only [List.lookup_append] at equal ⊢
  rw [keeps.lookup_filterMap distinct]
  by_cases ownKey : key = added
  · subst ownKey
    simp [dropped, equalsScalar_obj]
  · have last : [(added, Json.obj provenance)].lookup key = none := by
      rw [List.lookup_cons, beq_false_of_ne ownKey, List.lookup_nil]
    rw [last, Option.or_none]
    cases found : metadata.lookup key with
    | none =>
      rw [found] at equal
      have isNull : value = .null := by
        by_contra filled
        rw [equalsScalar_none filled] at equal
        cases equal
      simp [isNull, ownKey, equalsScalar]
    | some stored =>
      rw [found] at equal
      constructor
      · intro outlasts
        by_cases isNull : value = .null
        · exact .inr ⟨isNull, ownKey⟩
        · cases became : safe (key, stored) with
          | none => simp [became, equalsScalar_none isNull] at outlasts
          | some kept =>
            obtain ⟨same, kept⟩ := kept
            obtain rfl : same = key := keeps.key _ _ became
            exact .inl (keeps.changed _ _ _ _ isNull equal became
              (by simpa [became] using outlasts))
      · rintro (isKept | ⟨rfl, -⟩)
        · simp [keeps.value key value stored isKept equal, equal]
        · cases stored with
          | null =>
            cases became : safe (key, .null) with
            | none => simp [became, equalsScalar]
            | some kept =>
              obtain ⟨same, kept⟩ := kept
              obtain rfl : same = key := keeps.key _ _ became
              simp [became, keeps.null _ _ became, equalsScalar]
          | _ => cases equal

variable (redaction : Redaction)

/-- A value that equals a required scalar is that text, a number or null. -/
theorem equalsScalar_cases (equal : equalsScalar (some stored) value = true) :
    stored = value ∨ (∃ found, number stored = some found) ∧
      ∃ found, number value = some found := by
  cases value with
  | null =>
    cases stored <;> simp [equalsScalar] at equal ⊢
  | str text =>
    cases stored <;> simp [equalsScalar] at equal ⊢
    exact .inl equal
  | arr items => simp [equalsScalar, number] at equal
  | obj members => simp [equalsScalar, number] at equal
  | bool flag | int count | float amount =>
    cases stored <;> simp [equalsScalar, number] at equal ⊢

/-- A redaction that keeps a number or null as it is or leaves it out by its key alone, and that
keeps a text, if at all, as a text. -/
theorem keepsEqual_of_scalars (isLeftOut : String → Bool)
    (key : ∀ member kept, safe member = some kept → kept.1 = member.1)
    (text : ∀ key given kept, safe (key, .str given) = some (key, kept) →
      ∃ other, kept = .str other)
    (plain : ∀ key value, value = .null ∨ (number value).isSome = true →
      safe (key, value) = if isLeftOut key then none else some (key, value)) :
    KeepsEqual safe := by
  refine ⟨key, ?_, ?_, ?_⟩
  · intro key required stored isKept equal
    rcases equalsScalar_cases equal with rfl | ⟨⟨_, isNumber⟩, _, isOther⟩
    · exact isKept
    · rw [plain key required (.inr (by simp [isOther]))] at isKept
      rw [plain key stored (.inr (by simp [isNumber]))]
      split at isKept <;> simp_all
  · intro key kept became
    rw [plain key _ (.inl rfl)] at became
    split at became <;> simp_all
  · intro key required stored kept filled equal became same
    rcases equalsScalar_cases equal with rfl | ⟨⟨_, isNumber⟩, _, isOther⟩
    · cases stored with
      | null => exact absurd rfl filled
      | str given =>
        obtain ⟨other, rfl⟩ := text key given kept became
        have sameText : other = given := of_decide_eq_true same
        rw [became, sameText]
      | arr items => cases equal
      | obj members => cases equal
      | bool flag | int count | float amount =>
        rw [plain key _ (.inr rfl)] at became ⊢
        split at became <;> simp_all
    · rw [plain key stored (.inr (by simp [isNumber]))] at became
      rw [plain key required (.inr (by simp [isOther]))]
      split at became <;> simp_all

theorem fusionMember_keepsEqual : KeepsEqual (fusionMember redaction) := by
  apply keepsEqual_of_scalars fun key =>
    isSensitiveMetadataKey redaction retrievalProvenanceKey key || isSensitiveKey key
  · intro member kept became
    rw [fusionMember] at became
    split at became <;> cases became
    rfl
  · intro key given kept became
    rw [fusionMember] at became
    split at became <;> cases became
    exact ⟨_, rfl⟩
  · rintro key (_ | _ | _ | _ | _ | _ | _) isPlain <;>
      simp_all [number, fusionMember, isDropped, isRedacted, fusionValue]

theorem rerankMember_keepsEqual : KeepsEqual (rerankMember redaction) := by
  apply keepsEqual_of_scalars fun key =>
    isSensitiveMetadataKey redaction rerankProvenanceKey key || isSensitiveKey key
  · intro member kept became
    unfold rerankMember at became
    split at became <;> repeat' split at became
    all_goals simp_all
    all_goals exact became ▸ rfl
  · intro key given kept became
    simp only [rerankMember] at became
    split at became <;> cases became
    exact ⟨_, rfl⟩
  · rintro key (_ | _ | _ | _ | _ | _ | _) isPlain <;>
      simp_all [number, rerankMember, isDropped, isRedacted, rerankValue, redact]

theorem isSensitiveMetadataKey_self
    (normal : replaceChar ' ' '_' (replaceChar '-' '_' (lower (strip provenanceKey))) =
      provenanceKey.toList) :
    isSensitiveMetadataKey redaction provenanceKey provenanceKey = true := by
  simp [isSensitiveMetadataKey, normal]

theorem fusionMember_provenance (value : Json) :
    fusionMember redaction (retrievalProvenanceKey, value) = none := by
  have sensitive := isSensitiveMetadataKey_self redaction
    (show _ = retrievalProvenanceKey.toList by decide +kernel)
  simp [fusionMember, isDropped, sensitive]

theorem rerankMember_provenance (value : Json) :
    rerankMember redaction (rerankProvenanceKey, value) = none := by
  have sensitive := isSensitiveMetadataKey_self redaction
    (show _ = rerankProvenanceKey.toList by decide +kernel)
  have other : rerankProvenanceKey ≠ retrievalProvenanceKey := by decide
  unfold rerankMember
  split <;> simp_all [isDropped]

end

/-! ## Fused candidates -/

section

variable {python : Rendering} {redaction : Redaction} {request : RetrievalRequest}
  {filters : RetrievalFilterSet} {buckets : List FusionBucket} {candidate : RetrievalCandidate}

/-- A candidate whose metadata holds one value for each key. -/
def IsMapping (candidate : RetrievalCandidate) : Prop := (candidate.metadata.map (·.1)).Nodup

/-- Buckets of candidates in scope, one for each identity. -/
structure Scoped (python : Rendering) (filters : RetrievalFilterSet)
    (buckets : List FusionBucket) : Prop where
  inScope : ∀ bucket ∈ buckets, candidateInScope python filters bucket.candidate = true
  isMapping : ∀ bucket ∈ buckets, IsMapping bucket.candidate
  distinct : (buckets.map (·.candidate.identity)).Nodup

theorem metadata_extend (source : FusionSource) (bucket : FusionBucket) :
    (bucket.extend candidate source).candidate.metadata = bucket.candidate.metadata := by
  unfold FusionBucket.extend
  split <;> rfl

/-- What extending a bucket keeps holds of all buckets if it holds of one that is new. -/
theorem forall_mem_enterBucket {good : FusionBucket → Prop}
    (holds : ∀ bucket ∈ buckets, good bucket)
    (extended : ∀ source bucket, good bucket → good (bucket.extend ranked.1 source))
    (new : candidateInScope python filters ranked.1 = true → ∀ sources, good ⟨ranked.1, sources⟩) :
    ∀ bucket ∈ enterBucket python config filters branch buckets ranked, good bucket := by
  intro bucket isIn
  unfold enterBucket at isIn
  split at isIn
  · exact holds bucket isIn
  · rename_i passes
    split at isIn
    · obtain ⟨original, isOriginal, rfl⟩ := List.mem_map.mp isIn
      exact extended _ original (holds original isOriginal)
    · rcases List.mem_append.mp isIn with isOld | isNew
      · exact holds bucket isOld
      · rw [List.mem_singleton.mp isNew]
        exact new (by simpa using passes) _

theorem Scoped.enterBucket (holds : Scoped python filters buckets) (branch : Branch)
    {ranked : RetrievalCandidate × Nat} (isMapping : IsMapping ranked.1) :
    Scoped python filters (enterBucket python config filters branch buckets ranked) := by
  constructor
  · refine forall_mem_enterBucket holds.inScope (fun _ bucket inScope => ?_) fun passes _ => passes
    rwa [FusionBucket.candidateInScope_extend]
  · refine forall_mem_enterBucket holds.isMapping (fun _ bucket isMapped => ?_) fun _ _ => isMapping
    rwa [IsMapping, metadata_extend]
  · unfold Retrieval.enterBucket
    split
    · exact holds.distinct
    · split
      · rw [List.map_map]
        simpa [Function.comp_def] using holds.distinct
      · rename_i new
        rw [List.map_append, List.nodup_append]
        refine ⟨holds.distinct, by simp, ?_⟩
        rintro identity isOld other isNew rfl
        obtain ⟨bucket, isBucket, rfl⟩ := List.mem_map.mp isOld
        simp only [List.map_cons, List.map_nil, List.mem_singleton] at isNew
        exact new (List.any_eq_true.mpr ⟨bucket, isBucket, by simpa using isNew⟩)

theorem Scoped.enterBranch (holds : Scoped python filters buckets) (branch : Branch)
    (areMappings : ∀ candidate ∈ candidates, IsMapping candidate) :
    Scoped python filters
      (Retrieval.enterBranch python config filters branch candidates buckets) := by
  have foldl (ranked : List (RetrievalCandidate × Nat)) (kept : ∀ item ∈ ranked, IsMapping item.1)
      {buckets} (holds : Scoped python filters buckets) : Scoped python filters
        (ranked.foldl (Retrieval.enterBucket python config filters branch) buckets) := by
    induction ranked generalizing buckets with
    | nil => exact holds
    | cons first rest ih =>
      rw [List.forall_mem_cons] at kept
      exact ih kept.2 (holds.enterBucket branch kept.1)
  apply foldl _ _ holds
  intro item isIn
  have isLimited := List.fst_mem_of_mem_zipIdx isIn
  split at isLimited
  · exact areMappings _ isLimited
  · exact areMappings _ (List.mem_of_mem_take isLimited)

theorem fusionBuckets_scoped (areMappings : ∀ candidate ∈ dense ++ sparse, IsMapping candidate) :
    Scoped python filters (fusionBuckets python config filters dense sparse) := by
  rw [List.forall_mem_append] at areMappings
  have empty : Scoped python filters [] := ⟨by simp, by simp, by simp⟩
  exact (empty.enterBranch .dense areMappings.1).enterBranch .sparse areMappings.2

theorem exists_of_mem_merge
    (isIn : candidate ∈ merge python redaction config request filters dense sparse) :
    ∃ bucket ∈ fusionBuckets python config filters dense sparse,
      (fusedCandidate redaction config bucket).candidate = candidate := by
  obtain ⟨_, isFused, rfl⟩ := List.mem_map.mp isIn
  have isKept := (List.mem_insertionSort _).mp (List.mem_of_mem_take isFused)
  obtain ⟨bucket, isBucket, rfl⟩ := List.mem_map.mp (List.mem_of_mem_filter isKept)
  exact ⟨bucket, isBucket, rfl⟩

theorem merge_identities_nodup
    (areMappings : ∀ candidate ∈ dense ++ sparse, IsMapping candidate) :
    ((merge python redaction config request filters dense sparse).map
      RetrievalCandidate.identity).Nodup := by
  have holds : Scoped python filters (fusionBuckets python config filters dense sparse) :=
    fusionBuckets_scoped areMappings
  have fused : ((fusionBuckets python config filters dense sparse).map
      (fusedCandidate redaction config)).map (·.candidate.identity) =
        (fusionBuckets python config filters dense sparse).map (·.candidate.identity) := by
    rw [List.map_map]
    rfl
  have distinct := holds.distinct
  rw [← fused] at distinct
  rw [merge, List.map_map]
  refine List.Nodup.sublist ((List.take_sublist _ _).map _) ?_
  rw [((List.perm_insertionSort _ _).map _).nodup_iff]
  exact distinct.sublist ((List.filter_sublist).map _)

theorem IsMapping.redacted (isMapping : IsMapping candidate) (keeps : KeepsEqual safe)
    (dropped : ∀ value, safe (added, value) = none) (provenance : Json) :
    ((candidate.metadata.filterMap safe ++ [(added, provenance)]).map (·.1)).Nodup := by
  have keys : ((candidate.metadata.filterMap safe).map (·.1)).Sublist
      (candidate.metadata.map (·.1)) := by
    induction candidate.metadata with
    | nil => exact .slnil
    | cons member rest ih =>
      cases became : safe member with
      | none =>
        rw [List.filterMap_cons_none became, List.map_cons]
        exact ih.cons _
      | some kept =>
        rw [List.filterMap_cons_some became, List.map_cons, List.map_cons,
          keeps.key member kept became]
        exact ih.cons_cons _
  rw [List.map_append, List.nodup_append]
  refine ⟨isMapping.sublist keys, by simp, ?_⟩
  rintro key isKept other isAdded rfl
  obtain ⟨kept, isIn, rfl⟩ := List.mem_map.mp isKept
  obtain ⟨⟨original, value⟩, -, became⟩ := List.mem_filterMap.mp isIn
  have same : original = added :=
    (keeps.key _ _ became).symm.trans (by simpa using isAdded)
  subst same
  rw [dropped] at became
  cases became

/-- A copy with redacted metadata, to which a stage added its own, is in scope if and only if the
filter outlasts the stage. -/
theorem candidateInScope_redacted (inScope : candidateInScope python filters original = true)
    (isMapping : IsMapping original) (keeps : KeepsEqual safe)
    (dropped : ∀ value, safe (added, value) = none) (tenant : copy.tenantId = original.tenantId)
    (acl : copy.acl = original.acl) (metadata : copy.metadata =
      original.metadata.filterMap safe ++ [(added, .obj members)]) :
    candidateInScope python filters copy = true ↔ Outlasts safe added filters.metadataFilter := by
  simp only [candidateInScope, Bool.and_eq_true] at inScope ⊢
  rw [tenant, acl, metadata, keeps.metadataMatches_append isMapping inScope.1.2 dropped]
  simp only [inScope, true_and, and_true]

/-- What the fusion returns is in scope if and only if the filter outlasts the fusion. -/
theorem candidateInScope_of_mem_merge
    (areMappings : ∀ candidate ∈ dense ++ sparse, IsMapping candidate)
    (isIn : candidate ∈ merge python redaction config request filters dense sparse) :
    (candidateInScope python filters candidate = true ↔
      Outlasts (fusionMember redaction) retrievalProvenanceKey filters.metadataFilter) ∧
      scoreInRange candidate.score = true ∧ IsMapping candidate := by
  obtain ⟨bucket, isBucket, rfl⟩ := exists_of_mem_merge isIn
  have holds : Scoped python filters (fusionBuckets python config filters dense sparse) :=
    fusionBuckets_scoped areMappings
  have isMapping := holds.isMapping bucket isBucket
  refine ⟨candidateInScope_redacted (holds.inScope bucket isBucket) isMapping
    (fusionMember_keepsEqual redaction) (fusionMember_provenance redaction) rfl rfl
    (congrArg (· ++ _) (fusionMembers_eq_filterMap redaction _)),
    by simp [fusedCandidate, scoreInRange], ?_⟩
  rw [IsMapping, fusedCandidate]
  simp only [fusionMembers_eq_filterMap]
  exact isMapping.redacted (fusionMember_keepsEqual redaction)
    (fusionMember_provenance redaction) _

end

/-! ## Reranked candidates -/

section

variable {python : Rendering} {redaction : Redaction} {request : RetrievalRequest}
  {filters : RetrievalFilterSet}

/-- The guard lets distinct candidates in scope through. -/
theorem guardAndSanitize_eq_ok
    (inScope : ∀ candidate ∈ candidates, candidateInScope python filters candidate = true ∧
      scoreInRange candidate.score = true)
    (distinct : (candidates.map RetrievalCandidate.identity).Nodup) :
    ∃ safe, guardAndSanitize python redaction filters candidates = .ok safe := by
  suffices general : ∀ seen : List (String × String × String × String) × List RetrievalCandidate,
      (∀ candidate ∈ candidates, candidate.identity ∉ seen.1) →
        ∃ checked, candidates.foldlM (guardStep python redaction filters) seen = .ok checked by
    obtain ⟨checked, ran⟩ := general ([], []) (by simp)
    exact ⟨checked.2, by rw [guardAndSanitize, ran]; rfl⟩
  induction candidates with
  | nil =>
    intro seen _
    exact ⟨seen, rfl⟩
  | cons first rest ih =>
    intro seen new
    rw [List.map_cons, List.nodup_cons] at distinct
    have passes := inScope first (by simp)
    have step : guardStep python redaction filters seen first =
        .ok (seen.1 ++ [first.identity], seen.2 ++
          [{ first with metadata := rerankMembers redaction first.metadata }]) := by
      simp [guardStep, new first (by simp), passes]
    rw [List.foldlM_cons, step]
    apply ih (fun candidate isIn => inScope candidate (by simp [isIn])) distinct.2
    intro candidate isIn
    rw [List.mem_append, not_or, List.mem_singleton]
    refine ⟨new candidate (by simp [isIn]), fun same => distinct.1 ?_⟩
    exact same ▸ List.mem_map_of_mem isIn

end

/-! ## All stages -/

/-- A row of the user's tenant that is active and that the user may read. -/
structure Readable (python : Rendering) (auth : AuthContext) (chunk : ChunkRecord) : Prop where
  tenant : chunk.tenantId = auth.tenantId
  active : chunk.status = "active" ∧ chunk.deletedAt = none
  acl : aclAllows python chunk.acl (aclFilterFromAuth auth) = true

/-- A row whose source a search passes on as it is, and whose redacted access list still lets the
user read. -/
structure Survives (python : Rendering) (auth : AuthContext) (redaction : Redaction)
    (sensitiveKeys : List String) (scalar : Scalar) (chunk : ChunkRecord) : Prop where
  sourceUri : safeOptionalText redaction chunk.sourceUri = chunk.sourceUri
  acl : aclAllows python (safeMapping sensitiveKeys scalar chunk.acl) (aclFilterFromAuth auth) =
    true

theorem candidateOfRow_stands_iff (readable : Readable python auth chunk)
    (sensitiveKeys : List String) (scalar : Scalar) (method content : String) (score : Score) :
    invalidChunkReason python auth
        (candidateOfRow redaction sensitiveKeys scalar method content score chunk) chunk = none ↔
      Survives python auth redaction sensitiveKeys scalar chunk := by
  rw [invalidChunkReason_eq_none]
  constructor
  · intro stands
    refine ⟨?_, stands.candidateAcl⟩
    have agree := stands.sourceUri
    rw [candidateOfRow] at agree
    cases uri : chunk.sourceUri with
    | none => rfl
    | some text => simpa [uri, safeOptionalText, disagree] using agree
  · intro survives
    exact {
      tenant := ⟨readable.tenant, readable.tenant⟩
      identity := ⟨rfl, rfl, rfl⟩
      active := readable.active
      sourceType := rfl
      sourceUri := by
        rw [candidateOfRow, survives.sourceUri]
        cases chunk.sourceUri <;> simp [disagree]
      titlePath := rfl
      pages := ⟨rfl, rfl⟩
      chunkAcl := readable.acl
      candidateAcl := survives.acl }

/-- What the fusion returns passes the guard and the checks of the service if and only if the
metadata filter outlasts the fusion, and after reranking the reranker as well. A candidate of a
readable row passes hydration if and only if the row survives the redaction of its search. -/
theorem stages_agree_on_untouched_rows (python : Rendering) (redaction : Redaction)
    (fusion : HybridMergeConfig) (reranking : RerankConfig) (request : RetrievalRequest)
    (filters : RetrievalFilterSet) (dense sparse : List RetrievalCandidate)
    (areMappings : ∀ candidate ∈ dense ++ sparse, IsMapping candidate) :
    let fused := merge python redaction fusion request filters dense sparse
    (∀ candidate ∈ fused.take reranking.maxCandidates,
      ((∃ safe, guardAndSanitize python redaction filters (fused.take reranking.maxCandidates) =
          .ok safe) ↔
        Outlasts (fusionMember redaction) retrievalProvenanceKey filters.metadataFilter)) ∧
    (∀ candidate ∈ fused, (candidateInScope python filters candidate = true ↔
      Outlasts (fusionMember redaction) retrievalProvenanceKey filters.metadataFilter)) ∧
    (∀ reranker provenance output, rerankingRetrieve python redaction reranking request filters
        fused reranker provenance = .ok output →
      ∀ candidate ∈ output, (candidateInScope python filters candidate = true ↔
        Outlasts (rerankMember redaction) rerankProvenanceKey filters.metadataFilter)) ∧
    ∀ chunk, Readable python filters.auth chunk → ∀ score,
      (invalidChunkReason python filters.auth (denseCandidate redaction score chunk) chunk = none ↔
        Survives python filters.auth redaction denseSensitiveKeys (denseScalar redaction) chunk) ∧
      (invalidChunkReason python filters.auth (sparseCandidate redaction score chunk) chunk = none ↔
        Survives python filters.auth redaction sparseSensitiveKeys (sparseScalar redaction)
          chunk) := by
  intro fused
  have isMerged (candidate) (isIn : candidate ∈ fused) :=
    candidateInScope_of_mem_merge areMappings isIn
  refine ⟨?_, fun candidate isIn => (isMerged candidate isIn).1, ?_, ?_⟩
  · intro candidate isIn
    constructor
    · rintro ⟨_, passed⟩
      exact (isMerged candidate (List.mem_of_mem_take isIn)).1.mp
        ((guardAndSanitize_passed passed).2 candidate isIn).1
    · intro outlasts
      apply guardAndSanitize_eq_ok
      · intro other isOther
        obtain ⟨inScope, inRange, -⟩ := isMerged other (List.mem_of_mem_take isOther)
        exact ⟨inScope.mpr outlasts, inRange⟩
      · exact (merge_identities_nodup areMappings).sublist ((List.take_sublist _ _).map _)
  · intro reranker provenance output ran candidate isIn
    obtain ⟨_, passed, -⟩ := rerankingRetrieve_eq_ok ran
    obtain ⟨original, isOriginal, rescored⟩ := exists_original_of_mem ran isIn
    obtain ⟨_, copy⟩ := rescored.copy
    rw [copy]
    exact candidateInScope_redacted ((guardAndSanitize_passed passed).2 original isOriginal).1
      (isMerged original (List.mem_of_mem_take isOriginal)).2.2 (rerankMember_keepsEqual redaction)
      (rerankMember_provenance redaction) rfl rfl rfl
  · intro chunk readable score
    exact ⟨candidateOfRow_stands_iff readable _ _ _ _ _,
      candidateOfRow_stands_iff readable _ _ _ _ _⟩

namespace Handbook

open Rag.Handbook

/-- No text is taken for a secret. -/
def lenient : Redaction := ⟨fun _ => false, Char.isAlphanum⟩

/-- The chunk with a member that a filter may ask for. -/
def filed (key value : String) : ChunkRecord := { leave with metadata := [(key, .str value)] }

/-- The chunk as imported from a directory of the server. -/
def imported : ChunkRecord :=
  { leave with
    sourceUri := some "/srv/handbook.md"
    sourceUri_isText := by
      rintro uri ⟨⟩
      decide +kernel }

def asking (key value : String) : RetrievalFilterSet := ⟨Reader.auth, [(key, .str value)]⟩

/-- What the fusion makes of the dense search alone. -/
def fused (key value : String) : List RetrievalCandidate :=
  merge Reader.brackets lenient {} request (asking key value)
    [denseCandidate lenient (.finite 1) (filed key value)] []

end Handbook

open Handbook

/-- A filter on the section of a chunk goes through all stages. -/
theorem stages_agree_on_section :
    (fused "section" "leave").length = 1 ∧
      (∃ safe, guardAndSanitize Reader.brackets lenient
        (asking "section" "leave") ((fused "section" "leave").take 100) =
          .ok safe) ∧
      invalidChunkReason Reader.brackets Reader.auth
        (denseCandidate lenient (.finite 1) Rag.Handbook.leave) Rag.Handbook.leave =
          none := by
  have found : (fused "section" "leave").length = 1 := by decide +kernel
  obtain ⟨candidate, one⟩ := List.length_eq_one_iff.mp found
  have isFused : candidate ∈ (fused "section" "leave").take 100 := by simp [one]
  have readable : Readable Reader.brackets Reader.auth Rag.Handbook.leave :=
    ⟨rfl, ⟨rfl, rfl⟩, by decide +kernel⟩
  have survives : Survives Reader.brackets Reader.auth lenient denseSensitiveKeys
      (denseScalar lenient) Rag.Handbook.leave := ⟨rfl, by decide +kernel⟩
  have outlasts : Outlasts (fusionMember lenient) retrievalProvenanceKey
      (asking "section" "leave").metadataFilter := by
    intro member isIn
    rw [List.mem_singleton.mp isIn]
    exact .inl (by rfl)
  have agree := stages_agree_on_untouched_rows Reader.brackets lenient {} ⟨true, true, 100⟩
    Rag.Handbook.request (asking "section" "leave")
    [denseCandidate lenient (.finite 1) (Handbook.filed "section" "leave")] [] (by
      intro candidate isIn
      rw [List.mem_singleton.mp isIn]
      exact List.nodup_singleton _)
  exact ⟨found, (agree.1 candidate isFused).mpr outlasts,
    (agree.2.2.2 Rag.Handbook.leave readable _).1.mpr survives⟩

/-- A filter on the bucket of a chunk is matched by the fusion, whose copy then fails the
guard and the check of the service. A chunk imported from a path is found, and then
refused in hydration because its source was redacted. -/
theorem stages_contradict_each_other :
    ((fused "bucket" "finance").length = 1 ∧
      (guardAndSanitize Reader.brackets lenient (asking "bucket" "finance")
        (fused "bucket" "finance")).toOption.isNone = true ∧
      (fused "bucket" "finance").all (fun candidate =>
        !metadataMatches candidate.metadata [("bucket", .str "finance")]) = true) ∧
    aclAllows Reader.brackets imported.acl (aclFilterFromAuth Reader.auth) = true ∧
    invalidChunkReason Reader.brackets Reader.auth
      (denseCandidate lenient (.finite 1) imported) imported =
        some .sourceUriMismatch ∧
    invalidChunkReason Reader.brackets Reader.auth
      (sparseCandidate lenient (.finite 1) imported) imported =
        some .sourceUriMismatch := by
  decide +kernel

end AegisRag.Retrieval

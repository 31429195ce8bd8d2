import AegisRag.Rag.Query

/-!
# Limits of the packer and of the builder

The packer accounts for every candidate and bounds the tokens of a context, the builder the
number of its items, the characters of each and the agreement of an item with its sources.
Under the default configurations neither bound implies the other.
-/

namespace AegisRag.Rag

open Semantics Auth Vectorstores Retrieval Handbook

/-- Two chunks that name no different sources. -/
@[mk_iff]
structure SourcesAgree (left right : ContextCandidate) : Prop where
  source : disagree left.source right.source = false
  sourceUri : disagree left.sourceUri right.sourceUri = false
  sourceType : left.sourceType = right.sourceType

instance (left right : ContextCandidate) : Decidable (SourcesAgree left right) :=
  decidable_of_iff' _ (sourcesAgree_iff left right)

/-- Groups of chunks that stay within the limits of the builder: few of them, each short when
its contents are joined, and each of chunks that agree on their source. -/
@[mk_iff]
structure Fits (groups : List (List SelectedCandidate)) : Prop where
  count : groups.length ≤ 20
  size : ∀ group ∈ groups,
    (strip ("\n".intercalate (group.map (·.candidate.content)))).length ≤ 12000
  agree : ∀ group ∈ groups, ∀ first ∈ group.head?, ∀ member ∈ group,
    SourcesAgree member.candidate first.candidate

instance (groups : List (List SelectedCandidate)) : Decidable (Fits groups) :=
  decidable_of_iff' _ (fits_iff groups)

section

variable {repr : Json → String}

/-- The pages of an item span those of each of its chunks. -/
theorem sourcePageRangeWithinItem_of_mem (isMember : member ∈ first :: rest) :
    sourcePageRangeWithinItem (citationSource member) (itemFromGroup first rest) = true := by
  have valid := member.candidate.accepted.pages
  have starts : ∀ page, member.candidate.pageStart = some page →
      page ∈ (first :: rest).filterMap (·.candidate.pageStart) := fun page isPage =>
    List.mem_filterMap.mpr ⟨member, isMember, isPage⟩
  have ends : ∀ page, member.candidate.pageEnd = some page →
      page ∈ (first :: rest).filterMap (·.candidate.pageEnd) := fun page isPage =>
    List.mem_filterMap.mpr ⟨member, isMember, isPage⟩
  unfold sourcePageRangeWithinItem citationSource itemFromGroup
  cases firstPage : member.candidate.pageStart with
  | none =>
    rw [firstPage] at valid
    cases lastPage : member.candidate.pageEnd with
    | none => rfl
    | some last =>
      rw [lastPage] at valid
      cases valid
  | some start =>
    rw [firstPage] at valid
    cases lastPage : member.candidate.pageEnd with
    | none =>
      rw [lastPage] at valid
      cases valid
    | some stop =>
      rw [lastPage] at valid
      obtain ⟨_, isLeast⟩ := Option.isSome_iff_exists.mp
        (List.isSome_min?_of_mem (starts start firstPage))
      obtain ⟨_, isGreatest⟩ := Option.isSome_iff_exists.mp
        (List.isSome_max?_of_mem (ends stop lastPage))
      have lower := (List.min?_eq_some_iff.mp isLeast).2 start (starts start firstPage)
      have upper := (List.max?_eq_some_iff.mp isGreatest).2 stop (ends stop lastPage)
      simp [isLeast, isGreatest, lower, upper, (validPages_some valid).2]

/-- An item passes the check of its sources if and only if its chunks agree on their source. -/
theorem invalidItemReason_eq_none (isGroup : IsGroup repr selected first rest) :
    invalidItemReason (itemFromGroup first rest) = none ↔
      ∀ member ∈ first :: rest, SourcesAgree member.candidate first.candidate := by
  have passes (member : SelectedCandidate) (isMember : member ∈ first :: rest) :
      invalidCitationSourceReason (citationSource member) (itemFromGroup first rest) = none ↔
        SourcesAgree member.candidate first.candidate := by
    have alike := isGroup.alike member isMember
    have chunk : (citationSource member).chunkId ∈ (itemFromGroup first rest).chunkIds :=
      List.mem_map.mpr ⟨member, isMember, rfl⟩
    have pages := sourcePageRangeWithinItem_of_mem isMember
    have titlePath : (citationSource member).titlePath = (itemFromGroup first rest).titlePath :=
      congrArg MergeKey.titlePath alike
    have version : ¬((citationSource member).documentId ≠ (itemFromGroup first rest).documentId ∨
        (citationSource member).versionId ≠ (itemFromGroup first rest).versionId) := by
      rintro (differ | differ)
      · exact differ (congrArg MergeKey.documentId alike)
      · exact differ (congrArg MergeKey.versionId alike)
    rw [invalidCitationSourceReason, if_neg version, if_neg (not_not.mpr chunk),
      sourcesAgree_iff]
    change _ ↔ disagree (citationSource member).source (itemFromGroup first rest).source = false ∧
      disagree (citationSource member).sourceUri (itemFromGroup first rest).sourceUri = false ∧
      (citationSource member).sourceType = (itemFromGroup first rest).sourceType
    split_ifs <;> simp_all
  rw [invalidItemReason, if_neg (by simp [itemFromGroup]), List.findSome?_eq_none_iff]
  exact List.forall_mem_map.trans (forall₂_congr passes)

/-- What holds of every group holds of every item, in the terms of items. -/
theorem forall_chunkGroups_iff {mergeAdjacent : Bool} {ofGroup : List SelectedCandidate → Prop}
    {ofItem : PackedContextItem → Prop}
    (same : ∀ first rest, IsGroup repr selected first rest →
      (ofGroup (first :: rest) ↔ ofItem (itemFromGroup first rest))) :
    (∀ group ∈ chunkGroups repr digits mergeAdjacent selected, ofGroup group) ↔
      ∀ item ∈ buildItems repr digits mergeAdjacent selected, ofItem item := by
  constructor
  · intro all item isIn
    obtain ⟨first, rest, alike, isGroup, rfl⟩ := isGroup_of_mem_buildItems isIn
    exact (same first rest alike).mp (all _ isGroup)
  · intro all group isGroup
    cases group with
    | nil => exact absurd rfl (isChain_of_mem_chunkGroups isGroup).2.1
    | cons first rest =>
      exact (same first rest (isGroup_of_mem_chunkGroups isGroup)).mpr
        (all _ ((buildItems_perm _).mem_iff.mpr (List.mem_filterMap.mpr ⟨_, isGroup, rfl⟩)))

/-- Groups are within the limits if and only if their items are. -/
theorem chunkGroups_fit_iff (mergeAdjacent : Bool) :
    Fits (chunkGroups repr digits mergeAdjacent selected) ↔
    (buildItems repr digits mergeAdjacent selected).length ≤ 20 ∧
      (∀ item ∈ buildItems repr digits mergeAdjacent selected, item.content.length ≤ 12000) ∧
      ∀ item ∈ buildItems repr digits mergeAdjacent selected, invalidItemReason item = none := by
  have isItem : ∀ group ∈ chunkGroups repr digits mergeAdjacent selected,
      (itemOf group).isSome = true := by
    intro group isIn
    cases group with
    | nil => exact absurd rfl (isChain_of_mem_chunkGroups isIn).2.1
    | cons first rest => rfl
  rw [(buildItems_perm _).length_eq, List.filterMap_length_eq_length.mpr isItem, fits_iff]
  refine and_congr_right fun _ => and_congr (forall_chunkGroups_iff fun _ _ _ => .rfl)
    (forall_chunkGroups_iff fun first rest isGroup => ?_)
  rw [invalidItemReason_eq_none isGroup]
  simp

end

section

variable {repr : Json → String} {mergeAdjacent : Bool} {candidates : List ContextCandidate}
  {packed : PackedContext}

/-- Under the default configurations, with or without merging, the builder accepts what
the packer returns if and only if the groups of packed chunks fit. -/
theorem fitting_context_is_built (library : PromptLibrary) (context : RequestContext)
    (command : QueryCommand) (memory : Option PromptMemoryContext)
    (picked : select python context.auth { mergeAdjacent := mergeAdjacent } relatedChunks
      candidates = .ok state)
    (ran : pack repr digits python context.auth { mergeAdjacent := mergeAdjacent } relatedChunks
      context.requestId context.traceId candidates = .ok packed) :
    (∃ prompt, build library {} (QueryService.promptRequest context command memory packed) =
      .ok prompt) ↔ Fits (chunkGroups repr digits mergeAdjacent state.selected) := by
  rw [pack, picked] at ran
  cases ran
  simp only [build_eq_ok, exists_and_left, exists_eq, and_true]
  rw [validateSize_eq_ok command.query_bound, validateContextItems_eq_ok,
    chunkGroups_fit_iff, and_assoc]
  apply and_iff_right
  simp [validateTraceIdentity, QueryService.promptRequest]

end

namespace Handbook

/-- A chunk of one token on its own page, as hydration would pass it on. -/
def page (number : Nat) (source : String) : ContextFields where
  content := "Leave"
  tokenCount := 1
  documentId := "handbook"
  versionId := "v1"
  chunkId := "page-" ++ toString number
  tenantId := "tenant"
  acl := Reader.staffOnly
  source := some source
  sourceUri := none
  sourceType := "markdown"
  pageStart := some (number + 1)
  pageEnd := some (number + 1)
  titlePath := ["Leave"]
  score := 1
  retrievalMethod := "dense"
  metadata := []

/-- The first pages, all from one source. -/
def pages (count : Nat) : List ContextCandidate :=
  (List.range count).filterMap fun number => ContextCandidate.validated (page number "handbook")

/-- Two pages, the first of them twice, and an object that is no candidate. -/
def objects : List (Option ContextCandidate) := none :: (pages 1 ++ pages 2).map some

/-- Two pages that name different sources. -/
def mixedPages : List ContextCandidate :=
  [page 0 "handbook", page 1 "annex"].filterMap ContextCandidate.validated

/-- What the builder says to a packed context. -/
def buildPacked (mergeAdjacent : Bool) (candidates : List ContextCandidate) :
    Option (Except PromptBuildError PromptBuildResult) :=
  (pack (fun _ => "") (fun _ => none) Reader.brackets context.auth
    { mergeAdjacent := mergeAdjacent } [] context.requestId context.traceId
    candidates).toOption.map fun packed =>
      build library {} (QueryService.promptRequest context command none packed)

end Handbook

/-- The objects are those that are no candidates and the candidates. -/
theorem objects_perm (objects : List (Option ContextCandidate)) :
    List.Perm ((objects.filter (·.isNone)).map (fun _ => none) ++
      (objects.filterMap id).map fun candidate => some candidate.identity)
      (objects.map (·.map (·.identity))) := by
  induction objects with
  | nil => exact .refl _
  | cons object objects ih =>
    cases object with
    | none => exact ih.cons none
    | some candidate => exact List.perm_middle.trans (ih.cons _)

/-- Twenty-one pages of the handbook are built into a prompt when they are merged into one
item. -/
theorem fitting_context_is_built_pages :
    ∃ packed prompt, pack (fun _ => "") (fun _ => none) Reader.brackets context.auth
        { mergeAdjacent := true } [] context.requestId context.traceId
        (pages 21) = .ok packed ∧ packed.items.length = 1 ∧
      build library {} (QueryService.promptRequest context Handbook.command
        none packed) = .ok prompt := by
  have packs : (pack (fun _ => "") (fun _ => none) Reader.brackets context.auth
      { mergeAdjacent := true } [] context.requestId context.traceId
      (pages 21)).toOption.any (·.items.length = 1) = true := by decide +kernel
  have selects : (select Reader.brackets context.auth { mergeAdjacent := true } []
      (pages 21)).toOption.any (fun state => Fits (chunkGroups (fun _ => "") (fun _ => none) true
        state.selected)) = true := by decide +kernel
  obtain ⟨packed, ran, merged⟩ := exists_ok_of_any packs
  obtain ⟨state, picked, fits⟩ := exists_ok_of_any selects
  obtain ⟨prompt, built⟩ := (fitting_context_is_built library context Handbook.command none
    picked ran).mpr (of_decide_eq_true fits)
  exact ⟨packed, prompt, ran, of_decide_eq_true merged, built⟩

/-- Twenty-one pages of one token each are authorized and within the token budget, but
too many items; merged, two pages with different sources are an item that its own
sources contradict. -/
theorem packed_context_is_rejected :
    ((pages 21).length = 21 ∧
      (∀ candidate ∈ pages 21,
        Authorized Reader.brackets context.auth candidate) ∧
      buildPacked false (pages 21) =
        some (.error .contextItemCountTooLarge)) ∧
    (∀ candidate ∈ mixedPages,
      Authorized Reader.brackets context.auth candidate) ∧
    buildPacked true mixedPages =
      some (.error .invalidCitationSourceMetadata) := by
  decide +kernel

end AegisRag.Rag

import AegisRag.Rag.ContextPacker

/-!
# What a packed context holds

Every chunk the packer selects was authorized, and so was every chunk it reached and
left out. The tokens and the candidates are all accounted for. The items of a packed
context divide the selected chunks among them, and the chunks of one item share their
merge key.
-/

namespace AegisRag.Rag

open Semantics Auth Vectorstores Retrieval

section

variable {python : Rendering} {auth : AuthContext} {config : ContextPackingConfig}
  {relatedChunks : List (String × ContextCandidate)} {primary candidate : ContextCandidate}
  {state next : PackState}

theorem authorize_eq_ok :
    authorize python auth candidate = .ok () ↔ Authorized python auth candidate := by
  unfold authorize Authorized
  split
  · rename_i other
    simp [other]
  · rename_i same
    rw [not_not] at same
    cases aclAllows python candidate.acl (aclFilterFromAuth auth) <;> simp [same]

@[simp] theorem PackState.selected_drop (reason : DropReason)
    (relatedReason : Option InclusionReason) :
    (state.drop reason identity relatedReason).selected = state.selected := rfl

@[simp] theorem PackState.selected_countAuthorized :
    state.countAuthorized.selected = state.selected := rfl

@[simp] theorem PackState.selected_select (reason : InclusionReason) :
    (state.select candidate reason).selected =
      state.selected ++ [⟨candidate, reason, state.selected.length⟩] := rfl

/-- A chunk was dropped, or it is new, fits the budget and was selected. -/
theorem place_eq_ok (ran : place config candidate reason relatedReason state = .ok placed) :
    (∃ why, placed = (state.drop why candidate.identity relatedReason, false)) ∨
      placed = (state.select candidate reason, true) ∧
        candidate.identity ∉ state.selected.map (·.candidate.identity) ∧
        state.totalTokens + candidate.tokenCount ≤ config.maxTokens := by
  unfold place at ran
  split at ran
  · cases ran
    exact .inl ⟨_, rfl⟩
  · split at ran
    · split at ran
      · cases ran
      · cases ran
        exact .inl ⟨_, rfl⟩
    · split at ran
      · cases ran
        exact .inl ⟨_, rfl⟩
      · cases ran
        exact .inr ⟨rfl, ‹_›, not_lt.mp ‹_›⟩

/-- What became of the selection when a related chunk was asked for: nothing, or the
chunk that was found joined it. -/
theorem relatedStep_eq_ok
    (ran : relatedStep python auth config relatedChunks primary state request = .ok next) :
    (∀ related, isSafeIdentifier request.1 = true →
      relatedChunks.lookup request.1 = some related → Authorized python auth related) ∧
    (next.selected = state.selected ∨ ∃ related,
      relatedChunks.lookup request.1 = some related ∧ Authorized python auth related ∧
        next.selected = state.selected ++ [⟨related, request.2, state.selected.length⟩]) := by
  unfold relatedStep at ran
  split at ran
  · rename_i unsafeId
    cases ran
    simp only [Bool.not_eq_true'] at unsafeId
    simp [unsafeId]
  · split at ran
    · rename_i missing
      cases ran
      simp [missing]
    · rename_i related found
      rw [related.isInvalid_eq_false, if_neg Bool.false_ne_true, bind_eq_ok] at ran
      obtain ⟨_, passed, ran⟩ := ran
      have authorized := authorize_eq_ok.mp passed
      constructor
      · intro other _ isOther
        rw [found] at isOther
        cases isOther
        exact authorized
      · split at ran
        · cases ran
          exact .inl rfl
        · rw [bind_eq_ok] at ran
          obtain ⟨_, ran, ended⟩ := ran
          cases ended
          rcases place_eq_ok ran with ⟨_, rfl⟩ | ⟨rfl, -⟩
          · exact .inl rfl
          · exact .inr ⟨related, found, authorized, rfl⟩

variable (python auth config relatedChunks)

/-- A related chunk that the packer finds once it has selected the primary one. -/
def Reaches (primary related : ContextCandidate) : Prop :=
  ∃ request ∈ (relatedChunkRequests python config primary).take
      config.maxRelatedChunksPerCandidate,
    isSafeIdentifier request.1 = true ∧ relatedChunks.lookup request.1 = some related

/-- What holds of the selection once some candidates were visited. -/
structure Sound (visited : List ContextCandidate) (state : PackState) : Prop where
  authorized : ∀ candidate ∈ visited, Authorized python auth candidate
  selected : ∀ item ∈ state.selected, Authorized python auth item.candidate
  origin : ∀ item ∈ state.selected, item.candidate ∈ visited ∨
    ∃ id, relatedChunks.lookup id = some item.candidate
  reached : ∀ item ∈ state.selected, item.reason = .retrievalCandidate →
    ∀ related, Reaches python config relatedChunks item.candidate related →
      Authorized python auth related

variable {python auth config relatedChunks}

theorem reason_ne_retrievalCandidate
    (isRequest : request ∈ relatedChunkRequests python config primary) :
    request.2 ≠ .retrievalCandidate := by
  simp only [relatedChunkRequests, List.mem_append, List.mem_ite_nil_right,
    List.mem_map] at isRequest
  rcases isRequest with (⟨_, _, _, rfl⟩ | ⟨_, _, _, rfl⟩) | ⟨_, _, _, rfl⟩ <;> simp

/-- The related chunks of a selected candidate were all authorized, and those that
joined the selection came from the given ones. -/
theorem relatedLoop_eq_ok
    (ran : relatedLoop python auth config relatedChunks primary state = .ok next) :
    (∀ related, Reaches python config relatedChunks primary related →
      Authorized python auth related) ∧
    ∃ added, next.selected = state.selected ++ added ∧
      added.length ≤ config.maxRelatedChunksPerCandidate ∧ ∀ item ∈ added,
        item.reason ≠ .retrievalCandidate ∧ Authorized python auth item.candidate ∧
          ∃ id, relatedChunks.lookup id = some item.candidate := by
  have all := loop_keeps (fun visited (current : PackState) =>
      (∀ request ∈ visited, request ∈ relatedChunkRequests python config primary) →
      (∀ request ∈ visited, ∀ related, isSafeIdentifier request.1 = true →
        relatedChunks.lookup request.1 = some related → Authorized python auth related) ∧
      ∃ added, current.selected = state.selected ++ added ∧
        added.length ≤ visited.length ∧ ∀ item ∈ added,
        item.reason ≠ .retrievalCandidate ∧ Authorized python auth item.candidate ∧
          ∃ id, relatedChunks.lookup id = some item.candidate)
    ?_ (by simp) ran
  · obtain ⟨authorized, added, selected, few, fromRelated⟩ :=
      all fun request isIn => List.mem_of_mem_take isIn
    refine ⟨?_, added, selected, few.trans (List.length_take_le _ _), fromRelated⟩
    rintro related ⟨request, isIn, isSafe, found⟩
    exact authorized request isIn related isSafe found
  · intro visited current request after ih step areRequests
    obtain ⟨authorized, added, selected, few, fromRelated⟩ :=
      ih fun other isIn => areRequests other (by simp [isIn])
    obtain ⟨allowed, joined⟩ := relatedStep_eq_ok step
    constructor
    · intro other isIn
      rcases List.mem_append.mp isIn with isIn | isIn
      · exact authorized other isIn
      · rw [List.mem_singleton] at isIn
        exact isIn ▸ allowed
    · rcases joined with kept | ⟨related, found, isAuthorized, joined⟩
      · exact ⟨added, kept.trans selected, few.trans (by simp), fromRelated⟩
      · refine ⟨added ++ [⟨related, request.2, current.selected.length⟩], ?_, by simpa, ?_⟩
        · rw [joined, selected, List.append_assoc]
        · intro item isIn
          rcases List.mem_append.mp isIn with isIn | isIn
          · exact fromRelated item isIn
          · rw [List.mem_singleton] at isIn
            subst isIn
            exact ⟨reason_ne_retrievalCandidate (areRequests request (by simp)), isAuthorized,
              request.1, found⟩

/-- A visited candidate was authorized and left the selection as it was, or joined it
with its related chunks. -/
theorem primaryStep_eq_ok
    (ran : primaryStep python auth config relatedChunks state candidate = .ok next) :
    Authorized python auth candidate ∧ (next.selected = state.selected ∨
      relatedLoop python auth config relatedChunks candidate
        (state.countAuthorized.select candidate .retrievalCandidate) = .ok next) := by
  unfold primaryStep at ran
  rw [candidate.isInvalid_eq_false, if_neg Bool.false_ne_true, bind_eq_ok] at ran
  obtain ⟨_, passed, ran⟩ := ran
  rw [bind_eq_ok] at ran
  obtain ⟨_, ran, ended⟩ := ran
  refine ⟨authorize_eq_ok.mp passed, ?_⟩
  rcases place_eq_ok ran with ⟨_, rfl⟩ | ⟨rfl, -⟩
  · cases ended
    exact .inl rfl
  · exact .inr ended

theorem Sound.step (sound : Sound python auth config relatedChunks visited state)
    (ran : primaryStep python auth config relatedChunks state candidate = .ok next) :
    Sound python auth config relatedChunks (visited ++ [candidate]) next := by
  obtain ⟨authorized, became⟩ := primaryStep_eq_ok ran
  have visited' : ∀ other ∈ visited ++ [candidate], Authorized python auth other := by
    intro other isIn
    rcases List.mem_append.mp isIn with isIn | isIn
    · exact sound.authorized other isIn
    · rw [List.mem_singleton] at isIn
      exact isIn ▸ authorized
  have origin : ∀ item ∈ state.selected, item.candidate ∈ visited ++ [candidate] ∨
      ∃ id, relatedChunks.lookup id = some item.candidate := fun item isIn =>
    (sound.origin item isIn).imp_left fun isIn => List.mem_append_left _ isIn
  rcases became with kept | ran
  · exact ⟨visited', kept ▸ sound.selected, kept ▸ origin, kept ▸ sound.reached⟩
  · obtain ⟨reached, added, selected, -, fromRelated⟩ := relatedLoop_eq_ok ran
    -- The selection grew by the candidate and then by related chunks.
    have members : ∀ item ∈ next.selected, item ∈ state.selected ∨
        item.candidate = candidate ∨ item ∈ added := by
      intro item isIn
      rw [selected] at isIn
      simp only [PackState.selected_select, PackState.selected_countAuthorized, List.mem_append,
        List.mem_singleton] at isIn
      rcases isIn with (isIn | rfl) | isIn
      · exact .inl isIn
      · exact .inr (.inl rfl)
      · exact .inr (.inr isIn)
    refine ⟨visited', ?_, ?_, ?_⟩
    · intro item isIn
      rcases members item isIn with isIn | same | isIn
      · exact sound.selected item isIn
      · exact same ▸ authorized
      · exact (fromRelated item isIn).2.1
    · intro item isIn
      rcases members item isIn with isIn | same | isIn
      · exact origin item isIn
      · exact .inl (by simp [same])
      · exact .inr (fromRelated item isIn).2.2
    · intro item isIn isPrimary
      rcases members item isIn with isIn | same | isIn
      · exact sound.reached item isIn isPrimary
      · exact same ▸ reached
      · exact absurd isPrimary (fromRelated item isIn).1

theorem select_eq_ok (ran : select python auth config relatedChunks candidates = .ok state) :
    Sound python auth config relatedChunks
      (candidates.insertionSort ContextCandidate.sortsBefore) state := by
  apply loop_keeps (fun visited current => Sound python auth config relatedChunks visited current)
    _ _ ran
  · intro visited current item next sound step
    exact sound.step step
  · exact ⟨by simp, by simp, by simp, by simp⟩

/-! ## The books of a selection -/

/-- The chunks that one candidate brought in: itself, and a bounded number of related ones. -/
def IsBlock (config : ContextPackingConfig) : List SelectedCandidate → Prop
  | [] => False
  | primary :: related => primary.reason = .retrievalCandidate ∧
    related.length ≤ config.maxRelatedChunksPerCandidate ∧
    ∀ item ∈ related, item.reason ≠ .retrievalCandidate

theorem select_blocks (ran : select python auth config relatedChunks candidates = .ok state) :
    ∃ blocks : List (List SelectedCandidate), state.selected = blocks.flatten ∧
      ∀ block ∈ blocks, IsBlock config block := by
  apply loop_keeps (fun _ (current : PackState) => ∃ blocks : List (List SelectedCandidate),
    current.selected = blocks.flatten ∧ ∀ block ∈ blocks, IsBlock config block) _
      ⟨[], rfl, by simp⟩ ran
  rintro visited current item next ⟨blocks, selected, areBlocks⟩ step
  rcases (primaryStep_eq_ok step).2 with kept | ran
  · exact ⟨blocks, kept.trans selected, areBlocks⟩
  · obtain ⟨-, added, grown, few, fromRelated⟩ := relatedLoop_eq_ok ran
    refine ⟨blocks ++ [⟨item, .retrievalCandidate, current.selected.length⟩ :: added], ?_, ?_⟩
    · simp [grown, selected]
    · intro block isIn
      rcases List.mem_append.mp isIn with isIn | isIn
      · exact areBlocks block isIn
      · rw [List.mem_singleton.mp isIn]
        exact ⟨rfl, few, fun item isIn => (fromRelated item isIn).1⟩

/-- The candidates that are settled: those selected for themselves, and those whose drop record
is not about a related chunk. -/
def PackState.settled (state : PackState) : List (Option (String × String × String × String)) :=
  (state.selected.filter (·.reason = .retrievalCandidate)).map (some ·.candidate.identity) ++
    (state.dropped.filter (·.relatedReason = none)).map (·.identity)

/-- The tokens are counted and fit the budget, no chunk is selected twice, and the candidates
that are settled are the given ones. -/
structure Balanced (config : ContextPackingConfig)
    (books : List (Option (String × String × String × String))) (state : PackState) : Prop where
  total : (state.selected.map (·.candidate.tokenCount)).sum = state.totalTokens
  fits : state.totalTokens ≤ config.maxTokens
  distinct : (state.selected.map (·.candidate.identity)).Nodup
  settled : state.settled.Perm books

/-- What an entry of the books about a chunk adds to them. -/
def entry (identity : String × String × String × String) (relatedReason : Option InclusionReason) :
    List (Option (String × String × String × String)) :=
  if relatedReason = none then [some identity] else []

theorem Balanced.drop (balanced : Balanced config books state)
    (relatedReason : Option InclusionReason) :
    Balanced config (books ++ entry identity relatedReason)
      (state.drop reason identity relatedReason) := by
  refine { balanced with settled := ?_ }
  refine List.Perm.trans (.of_eq ?_) (balanced.settled.append_right _)
  cases relatedReason <;> simp [PackState.settled, PackState.drop, entry, List.filter_append]

theorem Balanced.place (balanced : Balanced config books state)
    (agree : reason = .retrievalCandidate ↔ relatedReason = none)
    (ran : place config candidate reason relatedReason state = .ok placed) :
    Balanced config (books ++ entry candidate.identity relatedReason) placed.1 := by
  obtain ⟨_, rfl⟩ | ⟨rfl, new, fits⟩ := place_eq_ok ran
  · exact balanced.drop _
  · refine ⟨?_, fits, ?_, List.Perm.trans ?_ (balanced.settled.append_right _)⟩
    · simp [PackState.select, balanced.total]
    · simpa [PackState.select, List.nodup_append] using
        ⟨balanced.distinct, by simpa using new⟩
    · by_cases isNone : relatedReason = none
      · simpa [PackState.settled, PackState.select, entry, List.filter_append, agree, isNone] using
          (List.perm_append_singleton _ _).symm.append_left _
      · simp [PackState.settled, PackState.select, entry, List.filter_append, agree, isNone]

theorem Balanced.relatedStep (balanced : Balanced config books state)
    (isRequest : request ∈ relatedChunkRequests python config primary)
    (ran : relatedStep python auth config relatedChunks primary state request = .ok next) :
    Balanced config books next := by
  have counted : Balanced config books state.countAuthorized := { balanced with }
  have same (identity : String × String × String × String) (reason : InclusionReason) :
      books ++ entry identity (some reason) = books := List.append_nil _
  unfold Rag.relatedStep at ran
  split at ran
  · cases ran
    exact same _ _ ▸ balanced.drop (some _)
  · split at ran
    · cases ran
      exact same _ _ ▸ balanced.drop (some _)
    · rename_i related _
      rw [related.isInvalid_eq_false, if_neg Bool.false_ne_true, bind_eq_ok] at ran
      obtain ⟨_, -, ran⟩ := ran
      split at ran
      · cases ran
        exact same _ _ ▸ counted.drop (some _)
      · rw [bind_eq_ok] at ran
        obtain ⟨_, ran, ended⟩ := ran
        cases ended
        exact same _ _ ▸ counted.place (by simp [reason_ne_retrievalCandidate isRequest]) ran

theorem Balanced.primaryStep (balanced : Balanced config books state)
    (ran : primaryStep python auth config relatedChunks state candidate = .ok next) :
    Balanced config (books ++ [some candidate.identity]) next := by
  have counted : Balanced config books state.countAuthorized := { balanced with }
  unfold Rag.primaryStep at ran
  rw [candidate.isInvalid_eq_false, if_neg Bool.false_ne_true, bind_eq_ok] at ran
  obtain ⟨_, -, ran⟩ := ran
  rw [bind_eq_ok] at ran
  obtain ⟨_, ran, ended⟩ := ran
  have placed := counted.place (by simp) ran
  split at ended
  · apply loop_keeps (fun visited current =>
      (∀ request ∈ visited, request ∈ relatedChunkRequests python config candidate) →
        Balanced config (books ++ [some candidate.identity]) current) _ (fun _ => placed) ended
      fun _ isIn => List.mem_of_mem_take isIn
    intro visited current request after ih step areRequests
    exact (ih fun other isIn => areRequests other (by simp [isIn])).relatedStep
      (areRequests request (by simp)) step
  · cases ended
    exact placed

theorem select_balanced (ran : select python auth config relatedChunks candidates = .ok state) :
    Balanced config (candidates.map (some ·.identity)) state := by
  have sorted : Balanced config ((candidates.insertionSort ContextCandidate.sortsBefore).map
      (some ·.identity)) state := by
    apply loop_keeps (fun visited current =>
      Balanced config (visited.map (some ·.identity)) current) _ _ ran
    · intro visited current item next ih step
      simpa using ih.primaryStep step
    · exact ⟨rfl, config.maxTokens_pos.le, by simp, .refl _⟩
  exact { sorted with
    settled := sorted.settled.trans ((List.perm_insertionSort _ candidates).map _) }

end

section

variable {repr : Json → String} {selected : List SelectedCandidate}

/-- The chunks of one item: part of the selection, and alike in their merge key. -/
structure IsGroup (repr : Json → String) (selected : List SelectedCandidate)
    (first : SelectedCandidate) (rest : List SelectedCandidate) : Prop where
  part : (first :: rest).Subperm selected
  alike : ∀ item ∈ first :: rest, mergeKey repr item.candidate = mergeKey repr first.candidate

theorem adjacentGroups_flatten_perm (repr : Json → String) (digits : String → Option Int)
    (selected : List SelectedCandidate) :
    (adjacentGroups repr digits selected).flatten.Perm selected := by
  refine List.Perm.trans ?_
    (groupsBy_flatten_perm (fun item : SelectedCandidate => mergeKey repr item.candidate) selected)
  rw [adjacentGroups]
  induction groupsBy (fun item : SelectedCandidate => mergeKey repr item.candidate) selected with
  | nil => simp
  | cons group groups ih =>
    rw [List.flatMap_cons, List.flatten_append, List.flatten_cons, List.flatten_splitBy]
    exact (List.perm_insertionSort _ group).append ih

theorem isGroup_of_mem_adjacentGroups (isIn : first :: rest ∈ adjacentGroups repr digits selected) :
    IsGroup repr selected first rest := by
  constructor
  · exact (List.sublist_flatten_of_mem isIn).subperm.trans
      (adjacentGroups_flatten_perm repr digits selected).subperm
  · intro item isItem
    rw [adjacentGroups, List.mem_flatMap] at isIn
    obtain ⟨group, isGroup, isRun⟩ := isIn
    have fromGroup : ∀ member ∈ first :: rest, member ∈ group := by
      intro member isMember
      have := (List.sublist_flatten_of_mem isRun).subset isMember
      rw [List.flatten_splitBy] at this
      exact (List.mem_insertionSort _).mp this
    exact key_eq_of_mem_groupsBy isGroup (fromGroup item isItem) (fromGroup first (by simp))

/-- The chunks of each item. -/
def chunkGroups (repr : Json → String) (digits : String → Option Int) (mergeAdjacent : Bool)
    (selected : List SelectedCandidate) : List (List SelectedCandidate) :=
  if mergeAdjacent then adjacentGroups repr digits selected else selected.map ([·])

/-- The item that some chunks become. -/
def itemOf : List SelectedCandidate → Option PackedContextItem
  | [] => none
  | first :: rest => some (itemFromGroup first rest)

theorem chunkGroups_flatten_perm (mergeAdjacent : Bool) :
    (chunkGroups repr digits mergeAdjacent selected).flatten.Perm selected := by
  unfold chunkGroups
  split
  · exact adjacentGroups_flatten_perm repr digits selected
  · rw [← List.flatMap_def, List.flatMap_singleton']

theorem isGroup_of_mem_chunkGroups {mergeAdjacent : Bool}
    (isIn : first :: rest ∈ chunkGroups repr digits mergeAdjacent selected) :
    IsGroup repr selected first rest := by
  unfold chunkGroups at isIn
  split at isIn
  · exact isGroup_of_mem_adjacentGroups isIn
  · obtain ⟨_, isSelected, same⟩ := List.mem_map.mp isIn
    cases same
    exact ⟨(List.singleton_sublist.mpr isSelected).subperm, by simp⟩

/-- A chunk that may stand after another in one item: from the same place, with the same access
list, and at the next position. -/
structure Follows (repr : Json → String) (digits : String → Option Int)
    (left right : ContextCandidate) : Prop where
  tenant : left.tenantId = right.tenantId
  document : left.documentId = right.documentId
  version : left.versionId = right.versionId
  titlePath : left.titlePath = right.titlePath
  acl : Function.Injective repr → left.acl.Perm right.acl
  position : (∃ number, sequenceNumber digits left = some number ∧
      sequenceNumber digits right = some (number + 1)) ∨
    ∃ page, left.pageEnd = some page ∧ right.pageStart = some (page + 1)

/-- A rendering that tells values apart keeps the members of an access list apart. -/
theorem acl_perm_of_mergeKey_eq (same : mergeKey repr left = mergeKey repr right)
    (injective : Function.Injective repr) : left.acl.Perm right.acl := by
  have rendered : (left.acl.map fun member => (member.1, repr member.2)).Perm
      (right.acl.map fun member => (member.1, repr member.2)) :=
    (List.perm_insertionSort _ _).symm.trans
      ((List.Perm.of_eq (congrArg MergeKey.acl same)).trans (List.perm_insertionSort _ _))
  have apart : Function.Injective fun member : String × Json => (member.1, repr member.2) := by
    rintro ⟨_, _⟩ ⟨_, _⟩ same
    rw [Prod.mk.injEq] at same
    exact Prod.ext same.1 (injective same.2)
  exact (List.map_perm_map_iff apart).mp rendered

theorem follows_of_areAdjacent (adjacent : areAdjacent repr digits left right = true) :
    Follows repr digits left right := by
  unfold areAdjacent at adjacent
  split at adjacent
  · cases adjacent
  · rename_i same
    rw [not_not] at same
    refine ⟨congrArg MergeKey.tenantId same, congrArg MergeKey.documentId same,
      congrArg MergeKey.versionId same, congrArg MergeKey.titlePath same,
      acl_perm_of_mergeKey_eq same, ?_⟩
    split at adjacent
    · simp_all
    · split at adjacent <;> simp_all

/-- The chunks of an item follow each other, and are merged only where that is asked for. -/
theorem isChain_of_mem_chunkGroups {mergeAdjacent : Bool}
    (isIn : group ∈ chunkGroups repr digits mergeAdjacent selected) :
    group.IsChain (fun left right => Follows repr digits left.candidate right.candidate) ∧
      group ≠ [] ∧ (mergeAdjacent = false → group.length = 1) := by
  unfold chunkGroups at isIn
  split at isIn
  · obtain ⟨_, -, isRun⟩ := List.mem_flatMap.mp isIn
    refine ⟨(List.isChain_of_mem_splitBy isRun).imp fun _ _ => follows_of_areAdjacent,
      List.ne_nil_of_mem_splitBy isRun, by simp_all⟩
  · obtain ⟨_, -, rfl⟩ := List.mem_map.mp isIn
    exact ⟨.singleton _, by simp, fun _ => rfl⟩

/-- The items are those of the groups. -/
theorem buildItems_perm (mergeAdjacent : Bool) :
    (buildItems repr digits mergeAdjacent selected).Perm
      ((chunkGroups repr digits mergeAdjacent selected).filterMap itemOf) := by
  unfold buildItems chunkGroups
  split
  · refine ((List.perm_insertionSort _ _).map _).trans (.of_eq ?_)
    rw [List.map_filterMap]
    congr 1
    funext group
    cases group <;> rfl
  · rw [List.filterMap_map]
    exact .of_eq (congrFun List.filterMap_eq_map' selected).symm

/-- Every item is made of a group of selected chunks. -/
theorem isGroup_of_mem_buildItems {mergeAdjacent : Bool}
    (isIn : item ∈ buildItems repr digits mergeAdjacent selected) :
    ∃ first rest, IsGroup repr selected first rest ∧
      first :: rest ∈ chunkGroups repr digits mergeAdjacent selected ∧
      item = itemFromGroup first rest := by
  obtain ⟨group, isGroup, same⟩ := List.mem_filterMap.mp ((buildItems_perm _).subset isIn)
  cases group with
  | nil => cases same
  | cons first rest =>
    cases same
    exact ⟨first, rest, isGroup_of_mem_chunkGroups isGroup, isGroup, rfl⟩

/-- The items divide the selected chunks among them. -/
theorem sources_buildItems_perm :
    ((buildItems repr digits mergeAdjacent selected).flatMap (·.citationSources)).Perm
      (selected.map citationSource) := by
  have flattened : ((chunkGroups repr digits mergeAdjacent selected).flatten.map
      citationSource).Perm (selected.map citationSource) :=
    (chunkGroups_flatten_perm mergeAdjacent).map _
  refine (((buildItems_perm _).flatMap_right _).trans (.of_eq ?_)).trans flattened
  induction chunkGroups repr digits mergeAdjacent selected with
  | nil => rfl
  | cons group groups ih =>
    cases group with
    | nil => exact ih
    | cons first rest =>
      rw [List.filterMap_cons_some (by rfl : itemOf (first :: rest) = some _), List.flatMap_cons,
        ih, List.flatten_cons, List.map_append]
      rfl

theorem sum_tokenCount_buildItems :
    ((buildItems repr digits mergeAdjacent selected).map (·.tokenCount)).sum =
      (selected.map (·.candidate.tokenCount)).sum := by
  calc
    _ = (((buildItems repr digits mergeAdjacent selected).flatMap (·.citationSources)).map
        (·.tokenCount)).sum := by
      rw [List.map_flatMap, List.flatMap, List.sum_flatten, List.map_map]
      refine congrArg List.sum (List.map_congr_left fun item isIn => ?_)
      obtain ⟨_, _, -, -, rfl⟩ := isGroup_of_mem_buildItems isIn
      simp [itemFromGroup, citationSource, Function.comp_def]
    _ = _ := by
      rw [(sources_buildItems_perm.map _).sum_eq, List.map_map]
      rfl

end

end AegisRag.Rag

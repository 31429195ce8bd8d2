import AegisRag.Data.DocumentStore

/-!
# A document's status follows its versions

Most operations leave the versions and the document's status alone or end in
`_sync_document_status_from_latest_version`. The others create the latest version or leave
no version alive.
-/

namespace AegisRag.Data.Documents

open Rows

/-- The document has the status of its latest live version, or is deleted without one. -/
def Rows.FollowsVersions (rows : Rows) : Prop :=
  (∃ latest ∈ rows.versions, latest.live ∧ rows.status = latest.status ∧
    ∀ other ∈ rows.versions, other.live → other.age ≤ latest.age) ∨
  (rows.status = .deleted ∧ ∀ version ∈ rows.versions, version.live = false)

/-- Every version was created when one of the given versions was. -/
def Contemporary (earlier versions : List Version) : Prop :=
  ∀ version ∈ versions, ∃ stored ∈ earlier, stored.createdAt = version.createdAt

/-- What an operation may do to the status and the versions. -/
inductive Effect (rows : Rows) (creation : Option ℕ) : Rows → Prop where
  | kept {after : Rows} (status : after.status = rows.status)
      (versions : after.versions = rows.versions) : Effect rows creation after
  | synced {written : Rows} (now : ℕ) (times : Contemporary rows.versions written.versions) :
      Effect rows creation (written.sync now)
  | created {after : Rows} (version : Version) (live : version.live = true)
      (time : creation = some version.createdAt) (status : after.status = version.status)
      (versions : after.versions = rows.versions ++ [version]) : Effect rows creation after
  | erased {after : Rows} (status : after.status = .deleted)
      (gone : ∀ version ∈ after.versions, version.live = false)
      (times : Contemporary rows.versions after.versions) : Effect rows creation after

variable {rows after : Rows} {creation : Option ℕ}

variable {versionId : String} {version : Version} {now : ℕ}

theorem getVersion_mem (found : rows.getVersion versionId = some version) :
    version ∈ rows.versions ∧ version.id = versionId :=
  ⟨List.mem_of_find?_eq_some found, by simpa using List.find?_some found⟩

theorem contemporary_put (found : rows.getVersion versionId = some version)
    (time : changed.createdAt = version.createdAt) :
    Contemporary rows.versions (put Version.id changed rows.versions) := by
  intro written member
  obtain ⟨stored, within, rfl⟩ := List.mem_map.mp member
  split
  · exact ⟨version, (getVersion_mem found).1, time.symm⟩
  · exact ⟨stored, within, rfl⟩

/-- An operation that writes a loaded version back and synchronises. -/
theorem Effect.ofPut {written : Rows} (found : rows.getVersion versionId = some version)
    (time : changed.createdAt = version.createdAt) (versions : written.versions = rows.versions) :
    Effect rows creation ((written.putVersion changed).sync now) := by
  apply Effect.synced now
  rw [Rows.putVersion, versions]
  exact contemporary_put found time

theorem effect_softDeleteDocument (now : ℕ) :
    Effect rows creation (softDeleteDocument now rows) := by
  apply Effect.erased rfl
  · intro version member
    obtain ⟨stored, _, rfl⟩ := List.mem_map.mp member
    by_cases alive : stored.live = true
    · rw [if_pos alive]
      rfl
    · rw [if_neg alive, Bool.eq_false_iff.mpr alive]
  · intro version member
    obtain ⟨stored, within, rfl⟩ := List.mem_map.mp member
    exact ⟨stored, within, by split <;> rfl⟩

theorem effect_softDeleteDocumentVersion
    (applied : softDeleteDocumentVersion versionId now rows = some after) :
    Effect rows creation after := by
  obtain ⟨version, found, applied⟩ := Option.bind_eq_some_iff.mp applied
  obtain ⟨_, rfl⟩ := getVersion_mem found
  have times : Contemporary rows.versions (put Version.id (version.erased now) rows.versions) :=
    contemporary_put found rfl
  split at applied
  · cases applied
    exact .kept rfl rfl
  · dsimp only at applied
    split at applied
    · rename_i none_left
      cases applied
      apply Effect.erased rfl _ times
      intro other member
      by_contra alive
      -- the row written for the deleted version is not alive, so this one is another's
      have counted := List.countP_eq_zero.mp none_left other
        (List.mem_filter.mpr ⟨member, by simpa using alive⟩)
      obtain ⟨_, _, rfl⟩ := List.mem_map.mp member
      split at alive
      · exact alive rfl
      · rename_i different
        rw [if_neg different] at counted
        exact counted (decide_eq_true different)
    · cases applied
      exact .synced now times

/-- The failure reports leave the versions alone or write one back and synchronise. -/
theorem effect_failed {status : Status} [Decidable ignored] [Decidable latest]
    (found : rows.getVersion versionId = some version)
    (applied : (if ignored then some rows else if latest then
      some ((written.putVersion { version with status := status }).sync now)
      else some written) = some after) (statusKept : written.status = rows.status)
    (versions : written.versions = rows.versions) :
    Effect rows creation after := by
  split at applied
  · cases applied
    exact .kept rfl rfl
  · split at applied
    · cases applied
      exact .ofPut found rfl versions
    · cases applied
      exact .kept statusKept versions

/-- Each operation does one of the four things. -/
theorem Operation.effect {operation : Operation} (applied : operation.apply rows = some after) :
    Effect rows operation.creates after := by
  cases operation with
  | createVersion versionId jobId createdAt =>
    simp only [apply, createDocumentVersionRecords, Option.bind_eq_bind, Option.bind_eq_some_iff]
      at applied
    obtain ⟨_, _, _, _, ⟨⟩⟩ := applied
    exact .created (firstVersion versionId createdAt) rfl rfl rfl rfl
  | ingestionFailed | embeddingFailed =>
    obtain ⟨job, _, applied⟩ := Option.bind_eq_some_iff.mp applied
    obtain ⟨version, found, applied⟩ := Option.bind_eq_some_iff.mp applied
    exact effect_failed found applied rfl rfl
  | deleteDocument now =>
    cases applied
    exact effect_softDeleteDocument now
  | deleteVersion versionId now => exact effect_softDeleteDocumentVersion applied
  | deleteChunks versionId now =>
    cases applied
    exact .kept rfl rfl
  | parsed jobId now =>
    simp only [apply, markIngestionJobParsed, Option.bind_eq_bind, Option.bind_eq_some_iff]
      at applied
    obtain ⟨_, _, version, found, _, _, ⟨⟩⟩ := applied
    exact .ofPut found rfl rfl
  | chunked jobId chunkCount now =>
    simp only [apply, markIngestionJobChunked, Option.bind_eq_bind, Option.bind_eq_some_iff]
      at applied
    obtain ⟨_, _, version, found, _, _, _, _, _, _, ⟨⟩⟩ := applied
    exact .ofPut found rfl rfl
  | embedded jobId summary now =>
    simp only [apply, markEmbeddingJobEmbedded, Option.bind_eq_bind, Option.bind_eq_some_iff]
      at applied
    obtain ⟨_, _, version, found, _, _, ⟨⟩⟩ := applied
    exact .ofPut found rfl rfl
  | retrievalReady versionId index now =>
    simp only [apply, markDocumentVersionRetrievalReady, Option.bind_eq_bind,
      Option.bind_eq_some_iff] at applied
    obtain ⟨version, found, _, _, _, _, _, _, _, _, _, _, ⟨⟩⟩ := applied
    exact .ofPut found rfl rfl
  | parsing jobId now =>
    obtain ⟨_, _, ⟨⟩⟩ := Option.bind_eq_some_iff.mp applied
    exact .kept rfl rfl
  | claimParsing jobId staleBefore now =>
    simp only [apply, claimIngestionJobParsing, Option.bind_eq_bind, Option.bind_eq_some_iff]
      at applied
    obtain ⟨_, _, _, _, _, _, _, _, ⟨⟩⟩ := applied
    exact .kept rfl rfl
  | replaceChunks versionId chunkIds =>
    simp only [apply, replaceChunksForVersion, Option.bind_eq_bind, Option.bind_eq_some_iff]
      at applied
    obtain ⟨_, _, _, _, _, _, ⟨⟩⟩ := applied
    exact .kept rfl rfl
  | createEmbedding job =>
    simp only [apply, createEmbeddingJob, Option.bind_eq_bind, Option.bind_eq_some_iff] at applied
    obtain ⟨_, _, _, _, _, _, ⟨⟩⟩ := applied
    exact .kept rfl rfl
  | claimEmbedding jobId staleBefore now =>
    simp only [apply, claimEmbeddingJob, Option.bind_eq_bind, Option.bind_eq_some_iff] at applied
    obtain ⟨_, _, _, _, _, _, _, _, ⟨⟩⟩ := applied
    exact .kept rfl rfl

theorem mem_liveVersions :
    version ∈ rows.liveVersions ↔ version ∈ rows.versions ∧ version.live = true :=
  List.mem_filter

/-- Synchronising establishes what the document's status follows. -/
theorem sync_follows (rows : Rows) (now : ℕ) : (rows.sync now).FollowsVersions := by
  unfold sync
  split
  · rename_i none_left
    right
    refine ⟨rfl, fun version member => ?_⟩
    by_contra alive
    have listed : version ∈ rows.liveVersions :=
      mem_liveVersions.mpr ⟨member, by simpa using alive⟩
    rw [List.argmax_eq_none.mp none_left] at listed
    exact List.not_mem_nil listed
  · rename_i latest newest
    obtain ⟨member, alive⟩ := mem_liveVersions.mp (List.argmax_mem newest)
    left
    refine ⟨latest, member, alive, rfl, fun other within live => ?_⟩
    exact List.le_of_mem_argmax (mem_liveVersions.mpr ⟨within, live⟩) newest

theorem sync_versions (rows : Rows) (now : ℕ) : (rows.sync now).versions = rows.versions := by
  unfold sync
  split <;> rfl

/-- The status follows the versions, which are older than the versions still to come. -/
structure Invariant (rows : Rows) (pending : List ℕ) : Prop where
  follows : rows.FollowsVersions
  older : ∀ version ∈ rows.versions, ∀ time ∈ pending, version.createdAt < time

theorem Contemporary.older {versions : List Version} {pending : List ℕ}
    (times : Contemporary rows.versions versions)
    (older : ∀ version ∈ rows.versions, ∀ time ∈ pending, version.createdAt < time) :
    ∀ version ∈ versions, ∀ time ∈ pending, version.createdAt < time := by
  intro version member time later
  obtain ⟨stored, within, same⟩ := times version member
  rw [← same]
  exact older stored within time later

/-- A version later than all others is the one the document follows. -/
theorem follows_created (live : version.live = true) (status : after.status = version.status)
    (versions : after.versions = rows.versions ++ [version])
    (older : ∀ stored ∈ rows.versions, stored.createdAt < version.createdAt) :
    after.FollowsVersions := by
  left
  rw [versions]
  refine ⟨version, by simp, live, status, fun other member _ => ?_⟩
  obtain within | rfl := List.mem_append.mp member |>.imp_right List.mem_singleton.mp
  · exact (Prod.Lex.toLex_lt_toLex.mpr (.inl (older other within))).le
  · exact le_rfl

theorem Invariant.effect {pending : List ℕ}
    (invariant : Invariant rows (creation.toList ++ pending))
    (increasing : (creation.toList ++ pending).Pairwise (· < ·))
    (effect : Effect rows creation after) : Invariant after pending := by
  have older : ∀ version ∈ rows.versions, ∀ time ∈ pending, version.createdAt < time :=
    fun version member time later =>
      invariant.older version member time (List.mem_append_right _ later)
  cases effect with
  | kept status versions =>
    refine ⟨?_, by rwa [versions]⟩
    rw [FollowsVersions, status, versions]
    exact invariant.follows
  | @synced written now times =>
    refine ⟨sync_follows written now, ?_⟩
    rw [sync_versions]
    exact times.older older
  | created version live time status versions =>
    subst time
    refine ⟨follows_created live status versions fun stored member =>
      invariant.older stored member _ List.mem_cons_self, ?_⟩
    intro other member time later
    rw [versions] at member
    obtain within | rfl := List.mem_append.mp member |>.imp_right List.mem_singleton.mp
    · exact older other within time later
    · exact List.rel_of_pairwise_cons increasing later
  | erased status gone times => exact ⟨.inr ⟨status, gone⟩, times.older older⟩

theorem Invariant.run (invariant : Invariant rows (operations.filterMap Operation.creates))
    (increasing : (operations.filterMap Operation.creates).Pairwise (· < ·)) :
    Invariant (Documents.run rows operations) [] := by
  induction operations generalizing rows with
  | nil => exact invariant
  | cons operation operations ih =>
    have split : (operation :: operations).filterMap Operation.creates =
        operation.creates.toList ++ operations.filterMap Operation.creates := by
      cases operation <;> rfl
    rw [split] at invariant increasing
    apply ih _ (List.pairwise_append.mp increasing).2.1
    change Invariant ((operation.apply rows).getD rows) _
    cases applied : operation.apply rows with
    | none => exact invariant.effect increasing (.kept rfl rfl)
    | some after => exact invariant.effect increasing (Operation.effect applied)

/-- After any operations on an uploaded document, with versions created at increasing times,
the document's status is that of its latest live version, or deleted without one. -/
theorem document_status_follows_versions {versionId jobId : String} {createdAt : ℕ}
    {operations : List Operation}
    (increasing : (createdAt :: operations.filterMap Operation.creates).Pairwise (· < ·)) :
    (run (createUploadRecords versionId jobId createdAt) operations).FollowsVersions := by
  refine (Invariant.run ⟨?_, ?_⟩ increasing.of_cons).follows
  · left
    refine ⟨firstVersion versionId createdAt, List.mem_singleton_self _, rfl, rfl, ?_⟩
    intro other member _
    rw [List.mem_singleton.mp member]
  · intro version member time later
    obtain rfl := List.mem_singleton.mp member
    exact List.rel_of_pairwise_cons increasing later

/-- The older version of two is parsed after the newer one was deleted. -/
theorem document_status_follows_versions_older :
    let operations : List Operation := [.createVersion "v2" "j2" 2, .claimParsing "j1" none 3,
      .parsed "j1" 4, .deleteVersion "v2" 5]
    let rows := run (createUploadRecords "v1" "j1" 1) operations
    rows.FollowsVersions ∧ rows.status = .parsed := by
  refine ⟨document_status_follows_versions (by decide), ?_⟩
  decide +kernel

end AegisRag.Data.Documents

import AegisRag.Data.DocumentStore
import AegisRag.Semantics.Sql

/-!
# The filtered document list

`DocumentRepository.list_documents` filters documents by a status that a SQL expression
projects, and `DocumentLifecycleService` displays a status it computes from the rows it loads.
The service hands out offsets as cursors and refuses offsets above a limit of its own.
-/

namespace AegisRag.Data.Documents

open Semantics

/-- The first time after the year 9999. A UTC time is the number its fields spell: year,
month and day counted from zero, hour, minute, second and microsecond. -/
def endOfTime : ℕ := 10000 * 12 * 31 * 24 * 60 * 60 * 1000000

/-- A document's rows as the tables hold them: versions have distinct primary keys. -/
structure StoredDocument where
  id : String
  createdAt : ℕ
  rows : Rows
  versionIds_nodup : (rows.versions.map Version.id).Nodup
  times_bounded : ∀ version ∈ rows.versions, version.createdAt < endOfTime

/-- Decimal digits of a fixed width. -/
def digits : ℕ → ℕ → List Char
  | 0, _ => []
  | width + 1, value => digits width (value / 10) ++ [Char.ofNat (48 + value % 10)]

/-- Two fields of a time with a separator between them. -/
def joined (front : ℕ → List Char) (separator : Char) (radix : ℕ) (back : ℕ → List Char)
    (value : ℕ) : List Char :=
  front (value / radix) ++ separator :: back (value % radix)

/-- `YYYY-MM-DDTHH:MM:SS` of a time in seconds. -/
def isoSeconds : ℕ → List Char :=
  let counted (value : ℕ) := digits 2 (value + 1)
  joined (joined (joined (joined (joined (digits 4) '-' 12 counted) '-' 31 counted)
    'T' 24 (digits 2)) ':' 60 (digits 2)) ':' 60 (digits 2)

/-- What `isoformat` writes after the seconds of a UTC time: whole seconds have no fraction. -/
def fraction (microsecond : ℕ) : List Char :=
  if microsecond = 0 then "+00:00".toList else '.' :: (digits 6 microsecond ++ "+00:00".toList)

/-- `datetime.isoformat` of a UTC time in microseconds. -/
def isoformat (time : ℕ) : List Char :=
  isoSeconds (time / 1000000) ++ fraction (time % 1000000)

/-- `_PROTECTED_VERSION_STATUSES`. -/
def protectedVersionStatuses : List Status := [.deleted, .embedded, .retrievalReady]

/-- `_EMBEDDING_STATUS_OVERRIDES`. -/
def embeddingStatusOverrides : List Status := [.embedding, .failedRetryable, .failedTerminal]

/-- `_effective_version_status`. -/
def effectiveVersionStatus (version : Version) (embeddingJobStatus : Option Status) : Status :=
  match embeddingJobStatus with
  | some status =>
    if version.deletedAt = none ∧ version.status ∉ protectedVersionStatuses ∧
        status ∈ embeddingStatusOverrides then status else version.status
  | none => version.status

namespace StoredDocument

/-- The `latest_job_status` subquery, `NULL` without a job. -/
def latestJobStatus (document : StoredDocument) (version : Version) : Option Status :=
  (document.rows.latestEmbeddingJob version.id fun _ => true).map fun job => job.status

/-- The `version_status` case: an unknown condition takes the `else` branch. -/
def versionStatus (document : StoredDocument) (version : Version) : Status :=
  let condition := Truth.and (some version.deletedAt.isNone)
    (Truth.and (some (decide (version.status ∉ protectedVersionStatuses)))
      ((document.latestJobStatus version).map fun status =>
        decide (status ∈ embeddingStatusOverrides)))
  if condition = some true then (document.latestJobStatus version).getD version.status
  else version.status

/-- The `ORDER BY` of the `latest_version_status` subquery: live versions first. -/
def rank (version : Version) : ℕ ×ₗ (ℕ ×ₗ String) :=
  toLex (if version.live then 1 else 0, version.age)

/-- `_effective_document_status_expression`. -/
def effectiveStatus (document : StoredDocument) : Status :=
  ((document.rows.versions.argmax rank).map document.versionStatus).getD document.rows.status

/-- The sort key of `_latest_review_version`. -/
def reviewKey (version : Version) : List Char ×ₗ String :=
  toLex (isoformat version.createdAt, version.id)

/-- `_latest_review_version`. -/
def latestReviewVersion (versions : List Version) : Option Version :=
  let activeVersions := versions.filter Version.live
  let candidates := if activeVersions = [] then versions else activeVersions
  (candidates.insertionSort fun left right =>
    reviewKey left ≤ reviewKey right).getLast?

/-- The status in `get_document_version_status`. -/
def documentVersionStatus (document : StoredDocument) (versionId : String) : Option Status :=
  (document.rows.getVersion versionId).map fun version =>
    effectiveVersionStatus version (document.latestJobStatus version)

/-- The status `_review_list_item` displays: the listed record carries the projection. -/
def displayedStatus (document : StoredDocument) : Status :=
  ((latestReviewVersion document.rows.versions).bind fun version =>
    document.documentVersionStatus version.id).getD document.effectiveStatus

end StoredDocument

open StoredDocument

/-- `REVIEW_STATUS_FILTERS`. -/
def reviewStatusFilters : List Status :=
  [.uploaded, .parsing, .parsed, .chunking, .chunked, .embedding, .indexing, .retrievalReady,
    .failedRetryable, .failedTerminal, .deleted]

/-- `DocumentReviewInvalidRequestError` by its field. -/
inductive InvalidRequest where
  | limit
  | cursor
  | status
  deriving DecidableEq

/-- `DocumentReviewListItem`, as far as it shows the document and its status. -/
structure ReviewItem where
  documentId : String
  status : Status
  deriving DecidableEq

/-- `DocumentReviewListResult`. -/
structure ReviewPage where
  items : List ReviewItem
  nextCursor : Option ℕ

/-- `ORDER BY created_at, id`. -/
def listed (documents : List StoredDocument) : List StoredDocument :=
  documents.insertionSort fun left right =>
    toLex (left.createdAt, left.id) ≤ toLex (right.createdAt, right.id)

/-- The rows of `list_documents` before paging. -/
def matching (documents : List StoredDocument) (status : Option Status) : List StoredDocument :=
  (listed documents).filter fun document => ∀ wanted ∈ status, document.effectiveStatus = wanted

/-- `_review_list_item`. -/
def reviewListItem (document : StoredDocument) : ReviewItem :=
  ⟨document.id, document.displayedStatus⟩

/-- `list_review_documents`; a cursor is the number whose decimal text is handed out. -/
def listReviewDocuments (documents : List StoredDocument)
    (status : Option Status) (limit : ℕ) (cursor : Option ℕ) :
    Except InvalidRequest ReviewPage := do
  if limit < 1 ∨ 100 < limit then throw .limit
  else if 100000 < cursor.getD 0 then throw .cursor
  else if ∃ wanted ∈ status, wanted ∉ reviewStatusFilters then throw .status
  else
    let found := ((matching documents status).drop (cursor.getD 0)).take (limit + 1)
    return {
      items := (found.take limit).map reviewListItem
      nextCursor := if limit < found.length then some (cursor.getD 0 + limit) else none }

/-- Reading on from a cursor until no further one is handed out. -/
inductive Reads (documents : List StoredDocument) (status : Option Status)
    (limit : ℕ) : Option ℕ → List ReviewItem → Prop where
  | last {cursor : Option ℕ} {page : ReviewPage}
      (listed : listReviewDocuments documents status limit cursor = .ok page)
      (done : page.nextCursor = none) : Reads documents status limit cursor page.items
  | more {cursor : Option ℕ} {page : ReviewPage} {next : ℕ} {rest : List ReviewItem}
      (listed : listReviewDocuments documents status limit cursor = .ok page)
      (goesOn : page.nextCursor = some next)
      (later : Reads documents status limit (some next) rest) :
      Reads documents status limit cursor (page.items ++ rest)

variable {left right : ℕ} {cursor : Option ℕ}

/-- A text is less than another of its length whatever follows them. -/
theorem append_lt_append {left right : List Char} (less : left < right)
    (length : left.length = right.length) (after before : List Char) :
    left ++ after < right ++ before := by
  induction left generalizing right with
  | nil =>
    cases right with
    | nil => exact absurd less (lt_irrefl _)
    | cons => cases length
  | cons first left ih =>
    cases right with
    | nil => cases length
    | cons second right =>
      rw [List.cons_append, List.cons_append]
      rw [List.cons_lt_cons_iff] at less ⊢
      obtain smaller | ⟨rfl, less⟩ := less
      · exact .inl smaller
      · exact .inr ⟨rfl, ih less (by simpa using length)⟩

theorem append_left_lt (front : List Char) {left right : List Char} (less : left < right) :
    front ++ left < front ++ right := by
  induction front with
  | nil => exact less
  | cons first front ih => exact List.cons_lt_cons_iff.mpr (.inr ⟨rfl, ih⟩)

theorem digit_lt (less : left < right) (bound : right < 10) :
    Char.ofNat (48 + left) < Char.ofNat (48 + right) := by
  interval_cases right <;> interval_cases left <;> decide

/-- Texts of one width that are ordered as the numbers below a bound. -/
structure FixedWidth (bound width : ℕ) (text : ℕ → List Char) : Prop where
  length_text : ∀ value, (text value).length = width
  text_lt : ∀ {left right}, left < right → right < bound → text left < text right

theorem fixedWidth_digits (width : ℕ) : FixedWidth (10 ^ width) width (digits width) := by
  induction width with
  | zero => exact ⟨fun _ => rfl, fun less bound => by omega⟩
  | succ width ih =>
    refine ⟨fun value => by simp [digits, ih.length_text], fun {left right} less bound => ?_⟩
    rw [pow_succ] at bound
    by_cases quotients : left / 10 < right / 10
    · apply append_lt_append (ih.text_lt quotients (by omega))
      rw [ih.length_text, ih.length_text]
    · have same : left / 10 = right / 10 := by omega
      rw [digits, digits, same]
      apply append_left_lt
      exact List.cons_lt_cons_iff.mpr (.inl (digit_lt (by omega) (by omega)))

theorem fixedWidth_counted : FixedWidth 99 2 fun value => digits 2 (value + 1) where
  length_text value := (fixedWidth_digits 2).length_text (value + 1)
  text_lt less bound := (fixedWidth_digits 2).text_lt (by omega) (by omega)

/-- Joined fields are ordered as the number they spell. -/
theorem FixedWidth.joined {bound width limit radix back : ℕ} (first : FixedWidth bound width front)
    (second : FixedWidth limit back rest) (separator : Char) (positive : 0 < radix)
    (fits : radix ≤ limit) :
    FixedWidth (bound * radix) (width + (back + 1)) (joined front separator radix rest) where
  length_text value := by
    simp [Documents.joined, first.length_text, second.length_text]
  text_lt {left right} less below := by
    by_cases quotients : left / radix < right / radix
    · apply append_lt_append (first.text_lt quotients (Nat.div_lt_of_lt_mul (by rwa [mul_comm])))
      rw [first.length_text, first.length_text]
    · have same : left / radix = right / radix :=
        le_antisymm (Nat.div_le_div_right less.le) (not_lt.mp quotients)
      have remainders : left % radix < right % radix := by
        have whole := Nat.div_add_mod left radix
        have other := Nat.div_add_mod right radix
        rw [same] at whole
        omega
      rw [Documents.joined, Documents.joined, same]
      apply append_left_lt
      apply List.cons_lt_cons_iff.mpr
      exact .inr ⟨rfl, second.text_lt remainders ((Nat.mod_lt _ positive).trans_le fits)⟩

theorem fixedWidth_isoSeconds : FixedWidth (10000 * 12 * 31 * 24 * 60 * 60) 19 isoSeconds := by
  have date := ((fixedWidth_digits 4).joined fixedWidth_counted '-' (by decide : 0 < 12)
    (by decide)).joined fixedWidth_counted '-' (by decide : 0 < 31) (by decide)
  have hour := date.joined (fixedWidth_digits 2) 'T' (by decide : 0 < 24) (by decide)
  have minute := hour.joined (fixedWidth_digits 2) ':' (by decide : 0 < 60) (by decide)
  exact minute.joined (fixedWidth_digits 2) ':' (by decide) (by decide)

/-- `'+'` comes before `'.'`, so a whole second comes before its fractions. -/
theorem fraction_lt (less : left < right) (bound : right < 1000000) :
    fraction left < fraction right := by
  rw [fraction, fraction, if_neg (by omega : right ≠ 0)]
  split
  · exact List.cons_lt_cons_iff.mpr (.inl (by decide))
  · have written := fixedWidth_digits 6
    apply List.cons_lt_cons_iff.mpr
    right
    refine ⟨rfl, append_lt_append (written.text_lt less bound) ?_ _ _⟩
    rw [written.length_text, written.length_text]

/-- Texts of UTC times are ordered as the times. -/
theorem isoformat_lt (less : left < right) (bound : right < endOfTime) :
    isoformat left < isoformat right := by
  have written := fixedWidth_isoSeconds
  by_cases seconds : left / 1000000 < right / 1000000
  · apply append_lt_append (written.text_lt seconds (Nat.div_lt_of_lt_mul (by rwa [mul_comm])))
    rw [written.length_text, written.length_text]
  · have same : left / 1000000 = right / 1000000 := by omega
    rw [isoformat, isoformat, same]
    exact append_left_lt _ (fraction_lt (by omega) (by omega))

theorem reviewKey_lt {left right : Version} (bound : right.createdAt < endOfTime)
    (less : left.age < right.age) : reviewKey left < reviewKey right := by
  obtain earlier | ⟨same, smaller⟩ := Prod.Lex.toLex_lt_toLex.mp less
  · exact Prod.Lex.toLex_lt_toLex.mpr (.inl (isoformat_lt earlier bound))
  · exact Prod.Lex.toLex_lt_toLex.mpr (.inr ⟨congrArg isoformat same, smaller⟩)

/-- The last of the sorted versions has the greatest key. -/
theorem mem_of_latestReviewVersion {versions : List Version}
    (times : ∀ version ∈ versions, version.createdAt < endOfTime)
    (found : latestReviewVersion versions = some latest) :
    latest ∈ versions ∧ ∀ other ∈ versions, rank other ≤ rank latest := by
  let candidates :=
    if versions.filter Version.live = [] then versions else versions.filter Version.live
  obtain ⟨front, sorted⟩ := List.getLast?_eq_some_iff.mp found
  have members (version : Version) : version ∈ candidates ↔ version ∈ front ++ [latest] := by
    rw [← sorted, List.mem_insertionSort]
  have subset : candidates ⊆ versions := by
    unfold candidates
    split
    · exact List.Subset.refl _
    · exact List.filter_subset_self _
  have chosen : latest ∈ candidates :=
    (members latest).mpr (List.mem_append_right _ List.mem_cons_self)
  have greatest : ∀ other ∈ candidates, other.age ≤ latest.age := by
    intro other member
    have ordered := List.pairwise_insertionSort
      (fun left right => reviewKey left ≤ reviewKey right) candidates
    rw [sorted, List.pairwise_append] at ordered
    obtain within | last := List.mem_append.mp ((members other).mp member)
    · apply le_of_not_gt
      intro newer
      have bound := times other (subset member)
      exact (ordered.2.2 other within latest List.mem_cons_self).not_gt (reviewKey_lt bound newer)
    · rw [List.mem_singleton.mp last]
  have ranked : ∀ other : Version, other.live = latest.live → other.age ≤ latest.age →
      rank other ≤ rank latest := by
    intro other same older
    rw [rank, rank, same]
    exact Prod.Lex.toLex_le_toLex.mpr (.inr ⟨rfl, older⟩)
  by_cases active : versions.filter Version.live = []
  · have all : candidates = versions := if_pos active
    rw [all] at chosen greatest
    have dead : ∀ version ∈ versions, version.live = false := by simpa using active
    refine ⟨chosen, fun other member => ranked other ?_ (greatest other member)⟩
    rw [dead other member, dead latest chosen]
  · have some_live : candidates = versions.filter Version.live := if_neg active
    rw [some_live] at chosen greatest
    obtain ⟨member, live⟩ := List.mem_filter.mp chosen
    refine ⟨member, fun other within => ?_⟩
    by_cases alive : other.live = true
    · apply ranked other (alive.trans live.symm)
      exact greatest other (List.mem_filter.mpr ⟨within, alive⟩)
    · rw [rank, rank, if_neg alive, if_pos live]
      exact Prod.Lex.toLex_le_toLex.mpr (.inl Nat.zero_lt_one)

theorem latestReviewVersion_eq_none (missing : latestReviewVersion versions = none) :
    versions = [] := by
  have empty := List.getLast?_eq_none_iff.mp missing
  rw [← List.length_eq_zero_iff, List.length_insertionSort, List.length_eq_zero_iff] at empty
  split at empty
  · exact empty
  · contradiction

variable (document : StoredDocument)

theorem version_eq_of_id_eq {left right : Version} (first : left ∈ document.rows.versions)
    (second : right ∈ document.rows.versions) (same : left.id = right.id) : left = right :=
  List.inj_on_of_nodup_map document.versionIds_nodup first second same

theorem getVersion_of_mem {version : Version} (member : version ∈ document.rows.versions) :
    document.rows.getVersion version.id = some version := by
  cases found : document.rows.getVersion version.id with
  | none =>
    have absent := List.find?_eq_none.mp found version member
    simp at absent
  | some other =>
    have same : other.id = version.id := by simpa using List.find?_some found
    rw [version_eq_of_id_eq document (List.mem_of_find?_eq_some found) member same]

/-- The query and the service choose the same version. -/
theorem argmax_rank_eq :
    document.rows.versions.argmax rank = latestReviewVersion document.rows.versions := by
  cases newest : document.rows.versions.argmax rank with
  | none =>
    rw [List.argmax_eq_none.mp newest]
    rfl
  | some first =>
    have member := List.argmax_mem newest
    cases found : latestReviewVersion document.rows.versions with
    | none =>
      rw [latestReviewVersion_eq_none found] at member
      cases member
    | some latest =>
      obtain ⟨within, greatest⟩ := mem_of_latestReviewVersion document.times_bounded found
      have same : rank first = rank latest :=
        le_antisymm (greatest first member) (List.le_of_mem_argmax within newest)
      have ids : first.id = latest.id := congrArg (fun key => (ofLex (ofLex key).2).2) same
      rw [version_eq_of_id_eq document member within ids]

theorem versionStatus_eq (version : Version) : document.versionStatus version =
    effectiveVersionStatus version (document.latestJobStatus version) := by
  unfold versionStatus effectiveVersionStatus
  cases document.latestJobStatus version with
  | none => simp
  | some status => simp [Option.isNone_iff_eq_none]

/-- The SQL expression evaluates to the status the service displays. -/
theorem effectiveStatus_eq_displayedStatus :
    document.effectiveStatus = document.displayedStatus := by
  unfold displayedStatus
  rw [← argmax_rank_eq]
  cases newest : document.rows.versions.argmax rank with
  | none => rfl
  | some version =>
    have member := List.argmax_mem newest
    rw [effectiveStatus, newest]
    simp [documentVersionStatus, getVersion_of_mem document member, versionStatus_eq]

section

variable {documents : List StoredDocument} {status : Option Status} {limit : ℕ}

/-- An accepted request gets the documents behind the cursor. -/
theorem listReviewDocuments_ok (sized : 1 ≤ limit ∧ limit ≤ 100)
    (filter : ∀ wanted ∈ status, wanted ∈ reviewStatusFilters) (allowed : cursor.getD 0 ≤ 100000) :
    listReviewDocuments documents status limit cursor = .ok {
      items := (((matching documents status).drop (cursor.getD 0)).take limit).map
        reviewListItem
      nextCursor := if cursor.getD 0 + limit < (matching documents status).length
        then some (cursor.getD 0 + limit) else none } := by
  have accepted : ¬∃ wanted ∈ status, wanted ∉ reviewStatusFilters := by
    rintro ⟨wanted, chosen, refused⟩
    exact refused (filter wanted chosen)
  rw [listReviewDocuments, if_neg (by omega), if_neg (by omega), if_neg accepted]
  have more : limit < (((matching documents status).drop (cursor.getD 0)).take (limit + 1)).length ↔
      cursor.getD 0 + limit < (matching documents status).length := by
    rw [List.length_take, List.length_drop]
    omega
  simp only [more, List.take_take, Nat.min_eq_left (Nat.le_succ limit)]
  rfl

/-- Reading on from the start of a page gives everything behind it. -/
theorem reads_from (sized : 1 ≤ limit ∧ limit ≤ 100)
    (filter : ∀ wanted ∈ status, wanted ∈ reviewStatusFilters)
    (starts : ∀ page, page * limit < (matching documents status).length → page * limit ≤ 100000)
    (start : cursor.getD 0 = page * limit) (allowed : page * limit ≤ 100000) :
    Reads documents status limit cursor
      (((matching documents status).drop (page * limit)).map reviewListItem) := by
  -- the number of documents behind the page decreases
  induction remaining : (matching documents status).length - page * limit
    using Nat.strong_induction_on generalizing page cursor with
  | _ remaining ih =>
    subst remaining
    have answer : listReviewDocuments documents status limit cursor = _ :=
      listReviewDocuments_ok sized filter (start ▸ allowed : cursor.getD 0 ≤ 100000)
    rw [start] at answer
    by_cases more : page * limit + limit < (matching documents status).length
    · have next : (page + 1) * limit = page * limit + limit := by ring
      have rest : Reads documents status limit (some (page * limit + limit))
          (((matching documents status).drop ((page + 1) * limit)).map reviewListItem) :=
        ih _ (by omega) next.symm (starts _ (by omega)) rfl
      rw [if_pos more] at answer
      have whole := Reads.more answer rfl rest
      rw [next, ← List.drop_drop, ← List.map_append, List.take_append_drop] at whole
      exact whole
    · rw [if_neg more] at answer
      have whole := Reads.last answer rfl
      rw [List.take_of_length_le (by rw [List.length_drop]; omega)] at whole
      exact whole

/-- Reading on reaches the start of every page behind the cursor, so all are accepted. -/
theorem starts_of_reads (sized : 1 ≤ limit ∧ limit ≤ 100)
    (filter : ∀ wanted ∈ status, wanted ∈ reviewStatusFilters)
    (reads : Reads documents status limit cursor items) (start : cursor.getD 0 = page * limit) :
    ∀ later, page ≤ later → later * limit < (matching documents status).length →
      later * limit ≤ 100000 := by
  have accepted {cursor : Option ℕ} {answered}
      (answer : listReviewDocuments documents status limit cursor = .ok answered) :
      cursor.getD 0 ≤ 100000 := by
    by_contra refused
    rw [listReviewDocuments, if_neg (by omega), if_pos (not_le.mp refused)] at answer
    cases answer
  induction reads generalizing page with
  | last answer ended =>
    have allowed := accepted answer
    rw [listReviewDocuments_ok sized filter allowed] at answer
    cases answer
    intro later behind within
    -- Nothing is behind the last page, so it is the page itself.
    rcases behind.eq_or_lt with rfl | further
    · rwa [← start]
    · have := Nat.mul_le_mul_right limit further
      simp only [start, ite_eq_right_iff, reduceCtorEq, imp_false, Nat.succ_mul] at ended this
      omega
  | more answer next _ ih =>
    have allowed := accepted answer
    rw [listReviewDocuments_ok sized filter allowed] at answer
    cases answer
    intro later behind within
    rcases behind.eq_or_lt with rfl | further
    · rwa [← start]
    · simp only [start, ite_eq_iff, Option.some.injEq, reduceCtorEq, and_false, or_false] at next
      exact ih (by rw [Option.getD_some, ← next.2, Nat.succ_mul]) later further within

/-- The list holds the documents displayed with the wanted status. -/
theorem matching_perm (documents : List StoredDocument) (status : Option Status) :
    (matching documents status).Perm (documents.filter fun document =>
      ∀ wanted ∈ status, document.displayedStatus = wanted) := by
  rw [matching]
  simp only [effectiveStatus_eq_displayedStatus]
  exact (List.perm_insertionSort _ documents).filter _

/-- The displayed status is the one the list is filtered by, and the pages of the filtered
list are the documents displayed with a status exactly when no page of them starts behind
the cursors that the service accepts. -/
theorem filtered_pages_are_complete (sized : 1 ≤ limit ∧ limit ≤ 100)
    (filter : ∀ wanted ∈ status, wanted ∈ reviewStatusFilters) :
    let shown := documents.filter fun document =>
      ∀ wanted ∈ status, document.displayedStatus = wanted
    (∀ document, effectiveStatus document = displayedStatus document) ∧
    ((∃ items, Reads documents status limit none items ∧ items.Perm (shown.map reviewListItem)) ↔
      ∀ page, page * limit < shown.length → page * limit ≤ 100000) := by
  intro shown
  have permutes : (matching documents status).Perm shown := matching_perm documents status
  rw [← permutes.length_eq]
  refine ⟨effectiveStatus_eq_displayedStatus, ?_, ?_⟩
  · rintro ⟨items, reads, -⟩ page
    exact starts_of_reads sized filter reads (Nat.zero_mul _).symm page page.zero_le
  · intro starts
    have whole : Reads documents status limit none
        (((matching documents status).drop (0 * limit)).map reviewListItem) :=
      reads_from sized filter starts (Nat.zero_mul _).symm (by omega)
    rw [Nat.zero_mul, List.drop_zero] at whole
    exact ⟨_, whole, permutes.map _⟩

/-- Documents with one version each, the first being embedded. -/
def twoDocuments : List StoredDocument :=
  [⟨"d1", 2, { createUploadRecords "v1" "j1" 2 with
      versions := [⟨"v1", 2, .chunked, none⟩], embeddingJobs := [⟨⟨"e1", "v1", 3, .embedding, 1,
        some 4, none⟩, some "j1", ⟨none, none⟩⟩] }, by decide, by decide⟩,
    ⟨"d2", 1, createUploadRecords "v2" "j2" 1, by decide, by decide⟩]

/-- One of two documents is displayed as being embedded, and the only page lists it. -/
theorem filtered_pages_are_complete_two :
    ∃ items, Reads twoDocuments (some .embedding) 1 none items ∧
      items.Perm [⟨"d1", .embedding⟩] := by
  have displayed : (twoDocuments.filter fun document =>
      ∀ wanted ∈ some .embedding, document.displayedStatus = wanted).map reviewListItem =
        [⟨"d1", .embedding⟩] := by decide +kernel
  rw [← displayed]
  refine (filtered_pages_are_complete (by decide) (by decide)).2.mpr ?_
  rw [← List.length_map (f := reviewListItem), displayed]
  simp

/-- A document uploaded at a time. -/
def upload (time : ℕ) : StoredDocument where
  id := String.ofList (List.replicate time 'd')
  createdAt := time
  rows := createUploadRecords "v" "j" 0
  versionIds_nodup := by decide
  times_bounded := by decide

/-- Documents uploaded one after another. -/
def uploads (count : ℕ) : List StoredDocument := (List.range count).map upload

theorem upload_length (time : ℕ) :
    (reviewListItem (upload time)).documentId.toList.length = time := by
  simp [reviewListItem, upload]

theorem matching_uploads (count : ℕ) :
    matching (uploads count) (some .uploaded) = uploads count := by
  have sorted : listed (uploads count) = uploads count := by
    apply List.Pairwise.insertionSort_eq
    rw [uploads, List.pairwise_map]
    exact List.pairwise_lt_range.imp fun less => (Prod.Lex.toLex_lt_toLex.mpr (.inl less)).le
  rw [matching, sorted, List.filter_eq_self]
  intro document member
  obtain ⟨_, _, rfl⟩ := List.mem_map.mp member
  rfl

/-- A page of one upload lists the upload at its cursor. -/
theorem uploads_page
    (answer : listReviewDocuments (uploads count) (some .uploaded) 1 cursor = .ok page)
    (member : item ∈ page.items) :
    item.documentId.toList.length ≤ 100000 := by
  by_cases allowed : cursor.getD 0 ≤ 100000
  · rw [listReviewDocuments_ok (by decide) (by decide) allowed, matching_uploads] at answer
    cases answer
    obtain ⟨_, within, rfl⟩ := List.mem_map.mp member
    rw [uploads, ← List.map_drop, ← List.map_take] at within
    obtain ⟨_, chosen, rfl⟩ := List.mem_map.mp within
    rw [List.take_one, List.head?_drop, Option.mem_toList] at chosen
    obtain ⟨_, rfl⟩ := List.getElem?_eq_some_iff.mp chosen
    rwa [upload_length, List.getElem_range]
  · rw [listReviewDocuments, if_neg (by decide), if_pos (not_le.mp allowed)] at answer
    cases answer

/-- A document behind the last accepted cursor is on no page, although a page hands out the
cursor that would list it. -/
theorem late_document_is_unlisted :
    let documents := uploads 100002
    (∃ page, listReviewDocuments documents (some .uploaded) 1 (some 100000) = .ok page ∧
      page.nextCursor = some 100001) ∧
    ∃ document ∈ documents, document.displayedStatus = .uploaded ∧
      ∀ cursor page, listReviewDocuments documents (some .uploaded) 1 cursor = .ok page →
        reviewListItem document ∉ page.items := by
  constructor
  · refine ⟨_, listReviewDocuments_ok (by decide) (by decide) (le_refl 100000), ?_⟩
    rw [matching_uploads, if_pos (by simp [uploads])]
    rfl
  · refine ⟨_, List.mem_map_of_mem (List.mem_range.mpr (Nat.lt_succ_self 100001)), rfl, ?_⟩
    intro cursor page answer member
    have short := uploads_page answer member
    rw [upload_length] at short
    omega

end

end AegisRag.Data.Documents

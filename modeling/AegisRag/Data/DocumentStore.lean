import Mathlib

/-!
# The rows of a document

`DocumentRepository` (`packages/data/storage/repositories.py`) as far as the statuses of one
document, its versions, jobs and chunks go. Every statement of the repository names the
tenant and the document, so other documents' rows are left out. An operation that raises
leaves the rows as they are, and `none` stands for it.
-/

namespace AegisRag.Data.Documents

/-- The statuses of rows, and the stages a review may filter by. -/
inductive Status where
  | uploaded | queued | parsing | parsed | chunking | chunked | embedding | indexing
  | embedded | retrievalReady | failedRetryable | failedTerminal | deleted
  deriving DecidableEq

/-- `DocumentVersionModel`. -/
structure Version where
  id : String
  createdAt : ℕ
  status : Status
  deletedAt : Option ℕ
  deriving DecidableEq

/-- What `IngestionJobModel` and `EmbeddingJobModel` have in common. -/
structure Job where
  id : String
  versionId : String
  createdAt : ℕ
  status : Status
  attemptCount : ℕ
  lastAttemptAt : Option ℕ
  nextRetryAt : Option ℕ
  deriving DecidableEq

/-- The `vector_index_summary` of an embedding job or of an index call. -/
structure IndexSummary where
  status : Option String
  vectorCount : Option ℤ
  deriving DecidableEq

/-- `EmbeddingJobModel`: its metadata names the ingestion job until the artifacts replace it. -/
structure EmbeddingJob extends Job where
  sourceIngestionJobId : Option String
  vectorSummary : IndexSummary
  deriving DecidableEq

/-- The statuses of a chunk. -/
inductive ChunkStatus where
  | active | deleted
  deriving DecidableEq

/-- `ChunkModel`. -/
structure Chunk where
  chunkId : String
  versionId : String
  status : ChunkStatus
  deletedAt : Option ℕ
  deriving DecidableEq

/-- The row of a document with the rows that refer to it. -/
structure Rows where
  status : Status
  deletedAt : Option ℕ
  versions : List Version
  ingestionJobs : List Job
  embeddingJobs : List EmbeddingJob
  chunks : List Chunk
  deriving DecidableEq

/-- A row is not deleted. -/
def Version.live (version : Version) : Bool :=
  version.deletedAt.isNone && version.status != .deleted

/-- `ORDER BY created_at DESC, id DESC`. -/
def Version.age (version : Version) : ℕ ×ₗ String := toLex (version.createdAt, version.id)

/-- `ORDER BY created_at DESC, id DESC`. -/
def Job.age (job : Job) : ℕ ×ₗ String := toLex (job.createdAt, job.id)

def put {α : Type} (key : α → String) (row : α) (rows : List α) : List α :=
  rows.map fun stored => if key stored = key row then row else stored

namespace Rows

/-- `_get_version_model`. -/
def getVersion (rows : Rows) (versionId : String) : Option Version :=
  rows.versions.find? (·.id = versionId)

/-- `_get_job`. -/
def getJob (rows : Rows) (jobId : String) : Option Job :=
  rows.ingestionJobs.find? (·.id = jobId)

/-- `_get_embedding_job_model`. -/
def getEmbeddingJob (rows : Rows) (jobId : String) : Option EmbeddingJob :=
  rows.embeddingJobs.find? (·.id = jobId)

def liveVersions (rows : Rows) : List Version := rows.versions.filter Version.live

/-- `_latest_non_deleted_version_model`. -/
def latestVersion (rows : Rows) : Option Version := rows.liveVersions.argmax Version.age

/-- `_latest_ingestion_job_model`. -/
def latestIngestionJob (rows : Rows) (versionId : String) : Option Job :=
  (rows.ingestionJobs.filter (·.versionId = versionId)).argmax Job.age

/-- `_latest_embedding_job_model` over the jobs of the given statuses. -/
def latestEmbeddingJob (rows : Rows) (versionId : String) (wanted : Status → Bool) :
    Option EmbeddingJob :=
  (rows.embeddingJobs.filter fun job => job.versionId = versionId ∧ wanted job.status).argmax
    fun job => job.age

/-- `_count_chunks_for_version`. -/
def countChunks (rows : Rows) (versionId : String) : ℕ :=
  rows.chunks.countP fun chunk => chunk.versionId = versionId ∧ chunk.deletedAt.isNone

def putVersion (rows : Rows) (version : Version) : Rows :=
  { rows with versions := put Version.id version rows.versions }

def putJob (rows : Rows) (job : Job) : Rows :=
  { rows with ingestionJobs := put Job.id job rows.ingestionJobs }

def putEmbeddingJob (rows : Rows) (job : EmbeddingJob) : Rows :=
  { rows with embeddingJobs := put (fun row => row.id) job rows.embeddingJobs }

/-- `_sync_document_status_from_latest_version`. -/
def sync (rows : Rows) (now : ℕ) : Rows :=
  match rows.latestVersion with
  | none => { rows with status := .deleted, deletedAt := rows.deletedAt.or (some now) }
  | some latest => { rows with status := latest.status }

/-- `_ensure_active_document_version`. -/
def Active (rows : Rows) (version : Version) : Prop :=
  rows.deletedAt = none ∧ rows.status ≠ .deleted ∧ version.live = true

instance (rows : Rows) (version : Version) : Decidable (rows.Active version) :=
  inferInstanceAs (Decidable (_ ∧ _))

end Rows

open Rows

/-- The job `UploadService` creates with a version. -/
def firstJob (jobId versionId : String) (createdAt : ℕ) : Job where
  id := jobId
  versionId := versionId
  createdAt := createdAt
  status := .uploaded
  attemptCount := 0
  lastAttemptAt := none
  nextRetryAt := none

/-- The version `UploadService` creates. -/
def firstVersion (versionId : String) (createdAt : ℕ) : Version where
  id := versionId
  createdAt := createdAt
  status := .uploaded
  deletedAt := none

/-- `create_upload_records`. -/
def createUploadRecords (versionId jobId : String) (createdAt : ℕ) : Rows where
  status := .uploaded
  deletedAt := none
  versions := [firstVersion versionId createdAt]
  ingestionJobs := [firstJob jobId versionId createdAt]
  embeddingJobs := []
  chunks := []

/-- `create_document_version_records`: an identifier in use is an integrity error. -/
def createDocumentVersionRecords (versionId jobId : String) (createdAt : ℕ) (rows : Rows) :
    Option Rows := do
  guard (rows.deletedAt = none ∧ rows.status ≠ .deleted)
  guard (rows.getVersion versionId = none ∧ rows.getJob jobId = none)
  return { rows with
    status := .uploaded
    versions := rows.versions ++ [firstVersion versionId createdAt]
    ingestionJobs := rows.ingestionJobs ++ [firstJob jobId versionId createdAt] }

/-- A failure report is ignored: the job has moved on, or its version or document has. -/
def ignoresFailure (rows : Rows) (done : Status) (job : Job) (version : Version)
    (expectedAttemptCount : Option ℕ) : Prop :=
  job.status ∈ [done, .failedTerminal] ∨
    (∃ expected ∈ expectedAttemptCount, job.attemptCount ≠ expected) ∨
    version.deletedAt ≠ none ∨ rows.deletedAt ≠ none ∨
    version.status ∈ [.deleted, .embedded, .retrievalReady]

instance (rows : Rows) (done : Status) (job : Job) (version : Version) (expected : Option ℕ) :
    Decidable (ignoresFailure rows done job version expected) :=
  inferInstanceAs (Decidable (_ ∨ _))

/-- What a failure report writes into a job. -/
def Job.failed (job : Job) (status : Status) (nextRetryAt : Option ℕ) (now : ℕ) : Job :=
  { job with
    status := status
    lastAttemptAt := some now
    nextRetryAt := if status = .failedRetryable then nextRetryAt else none }

/-- `mark_ingestion_job_failed`. -/
def markIngestionJobFailed (jobId : String) (status : Status) (nextRetryAt : Option ℕ)
    (expectedAttemptCount : Option ℕ) (now : ℕ) (rows : Rows) : Option Rows := do
  let job ← rows.getJob jobId
  let version ← rows.getVersion job.versionId
  if ignoresFailure rows .chunked job version expectedAttemptCount then
    return rows
  else
    let rows := rows.putJob (job.failed status nextRetryAt now)
    if (rows.latestIngestionJob job.versionId).map Job.id = some job.id then
      return (rows.putVersion { version with status := status }).sync now
    else
      return rows

/-- `mark_embedding_job_failed`: only a terminal failure reaches the version. -/
def markEmbeddingJobFailed (jobId : String) (status : Status) (nextRetryAt : Option ℕ)
    (expectedAttemptCount : Option ℕ) (now : ℕ) (rows : Rows) : Option Rows := do
  let job ← rows.getEmbeddingJob jobId
  let version ← rows.getVersion job.versionId
  if ignoresFailure rows .embedded job.toJob version expectedAttemptCount then
    return rows
  else
    let rows := rows.putEmbeddingJob { job with toJob := job.failed status nextRetryAt now }
    let latest := rows.latestEmbeddingJob job.versionId fun _ => true
    if status = .failedTerminal ∧ latest.map (·.id) = some job.id then
      return (rows.putVersion { version with status := status }).sync now
    else
      return rows

/-- `mark_ingestion_job_parsing`. -/
def markIngestionJobParsing (jobId : String) (now : ℕ) (rows : Rows) : Option Rows := do
  let job ← rows.getJob jobId
  return rows.putJob { job with
    status := .parsing
    attemptCount := job.attemptCount + 1
    lastAttemptAt := some now }

/-- The `status_filter` of a claim: fresh jobs, retries that are due and stale attempts. -/
def Job.Claimable (startable : List Status) (running : Status) (now : ℕ)
    (staleBefore : Option ℕ) (job : Job) : Prop :=
  job.status ∈ startable ∨
    (job.status = .failedRetryable ∧ ∀ due ∈ job.nextRetryAt, due ≤ now) ∨
    (job.status = running ∧ ∃ limit ∈ staleBefore, ∃ last ∈ job.lastAttemptAt, last < limit)

instance (startable : List Status) (running : Status) (now : ℕ) (staleBefore : Option ℕ)
    (job : Job) : Decidable (job.Claimable startable running now staleBefore) :=
  inferInstanceAs (Decidable (_ ∨ _))

/-- What a claim writes into a job. -/
def Job.claimed (running : Status) (now : ℕ) (job : Job) : Job :=
  { job with
    status := running
    attemptCount := job.attemptCount + 1
    lastAttemptAt := some now
    nextRetryAt := none }

/-- `claim_ingestion_job_parsing`; a claim that matches no row is not acquired. -/
def claimIngestionJobParsing (jobId : String) (staleBefore : Option ℕ) (now : ℕ)
    (rows : Rows) : Option Rows := do
  let job ← rows.getJob jobId
  let version ← rows.getVersion job.versionId
  guard (rows.Active version)
  guard (job.Claimable [.uploaded, .queued] .parsing now staleBefore)
  return rows.putJob (job.claimed .parsing now)

/-- `claim_embedding_job`. -/
def claimEmbeddingJob (jobId : String) (staleBefore : Option ℕ) (now : ℕ) (rows : Rows) :
    Option Rows := do
  let job ← rows.getEmbeddingJob jobId
  let version ← rows.getVersion job.versionId
  guard (rows.Active version)
  guard (job.Claimable [.queued] .embedding now staleBefore)
  return rows.putEmbeddingJob { job with toJob := job.claimed .embedding now }

/-- `mark_ingestion_job_parsed`. -/
def markIngestionJobParsed (jobId : String) (now : ℕ) (rows : Rows) : Option Rows := do
  let job ← rows.getJob jobId
  let version ← rows.getVersion job.versionId
  guard (rows.Active version)
  return ((rows.putJob { job with status := .parsed }).putVersion
    { version with status := .parsed }).sync now

/-- `replace_chunks_for_version`. -/
def replaceChunksForVersion (versionId : String) (chunkIds : List String) (rows : Rows) :
    Option Rows := do
  guard (chunkIds ≠ [])
  let version ← rows.getVersion versionId
  guard (rows.Active version)
  return { rows with
    chunks := rows.chunks.filter (·.versionId ≠ versionId) ++
      chunkIds.map fun chunkId => ⟨chunkId, versionId, .active, none⟩ }

/-- `mark_ingestion_job_chunked`. -/
def markIngestionJobChunked (jobId : String) (chunkCount now : ℕ) (rows : Rows) :
    Option Rows := do
  let job ← rows.getJob jobId
  let version ← rows.getVersion job.versionId
  guard (rows.Active version)
  guard (job.status = .parsed ∧ version.status = .parsed)
  guard (0 < rows.countChunks job.versionId ∧ chunkCount = rows.countChunks job.versionId)
  return ((rows.putJob { job with status := .chunked }).putVersion
    { version with status := .chunked }).sync now

/-- `create_embedding_job`. -/
def createEmbeddingJob (job : EmbeddingJob) (rows : Rows) : Option Rows := do
  let version ← rows.getVersion job.versionId
  guard (rows.Active version)
  guard (rows.getEmbeddingJob job.id = none)
  return { rows with embeddingJobs := rows.embeddingJobs ++ [job] }

/-- `mark_embedding_job_embedded`. -/
def markEmbeddingJobEmbedded (jobId : String) (summary : IndexSummary) (now : ℕ)
    (rows : Rows) : Option Rows := do
  let job ← rows.getEmbeddingJob jobId
  let version ← rows.getVersion job.versionId
  guard (rows.Active version)
  let embedded := { job with
    status := .embedded, sourceIngestionJobId := none, vectorSummary := summary }
  return ((rows.putEmbeddingJob embedded).putVersion
    { version with status := .embedded }).sync now

/-- `mark_document_version_retrieval_ready`: the call's summary goes over the job's. -/
def markDocumentVersionRetrievalReady (versionId : String) (index : IndexSummary) (now : ℕ)
    (rows : Rows) : Option Rows := do
  let version ← rows.getVersion versionId
  guard (rows.Active version)
  guard (0 < rows.countChunks versionId)
  let job ← rows.latestEmbeddingJob versionId (· = .embedded)
  guard (index.status.or job.vectorSummary.status = some "indexed")
  guard (index.vectorCount.or job.vectorSummary.vectorCount = some ↑(rows.countChunks versionId))
  return (rows.putVersion { version with status := .retrievalReady }).sync now

/-- What deletion writes into a version. -/
def Version.erased (now : ℕ) (version : Version) : Version :=
  { version with status := .deleted, deletedAt := some now }

/-- `soft_delete_document`. -/
def softDeleteDocument (now : ℕ) (rows : Rows) : Rows :=
  { rows with
    status := .deleted
    deletedAt := some now
    versions := rows.versions.map fun version =>
      if version.live then version.erased now else version }

/-- `soft_delete_document_version`. -/
def softDeleteDocumentVersion (versionId : String) (now : ℕ) (rows : Rows) : Option Rows := do
  let version ← rows.getVersion versionId
  if version.live = false then
    return rows
  else
    let rows := rows.putVersion (version.erased now)
    if rows.liveVersions.countP (·.id ≠ versionId) = 0 then
      return { rows with status := .deleted, deletedAt := some now }
    else
      return rows.sync now

/-- `soft_delete_chunks_for_version`. -/
def softDeleteChunksForVersion (versionId : String) (now : ℕ) (rows : Rows) : Rows :=
  { rows with
    chunks := rows.chunks.map fun chunk =>
      if chunk.versionId = versionId ∧ chunk.deletedAt = none ∧ chunk.status ≠ .deleted then
        { chunk with status := .deleted, deletedAt := some now }
      else
        chunk }

/-- The operations that write a document's rows; queueing only sets a job's queue
identifier, which is left out. -/
inductive Operation where
  | createVersion (versionId jobId : String) (createdAt : ℕ)
  | ingestionFailed (jobId : String) (status : Status) (nextRetryAt expected : Option ℕ) (now : ℕ)
  | parsing (jobId : String) (now : ℕ)
  | claimParsing (jobId : String) (staleBefore : Option ℕ) (now : ℕ)
  | parsed (jobId : String) (now : ℕ)
  | replaceChunks (versionId : String) (chunkIds : List String)
  | chunked (jobId : String) (chunkCount now : ℕ)
  | createEmbedding (job : EmbeddingJob)
  | claimEmbedding (jobId : String) (staleBefore : Option ℕ) (now : ℕ)
  | embedded (jobId : String) (summary : IndexSummary) (now : ℕ)
  | retrievalReady (versionId : String) (index : IndexSummary) (now : ℕ)
  | embeddingFailed (jobId : String) (status : Status) (nextRetryAt expected : Option ℕ) (now : ℕ)
  | deleteDocument (now : ℕ)
  | deleteVersion (versionId : String) (now : ℕ)
  | deleteChunks (versionId : String) (now : ℕ)

namespace Operation

/-- What an operation does to the rows. -/
def apply : Operation → Rows → Option Rows
  | createVersion versionId jobId createdAt =>
    createDocumentVersionRecords versionId jobId createdAt
  | ingestionFailed jobId status nextRetryAt expected now =>
    markIngestionJobFailed jobId status nextRetryAt expected now
  | parsing jobId now => markIngestionJobParsing jobId now
  | claimParsing jobId staleBefore now => claimIngestionJobParsing jobId staleBefore now
  | parsed jobId now => markIngestionJobParsed jobId now
  | replaceChunks versionId chunkIds => replaceChunksForVersion versionId chunkIds
  | chunked jobId chunkCount now => markIngestionJobChunked jobId chunkCount now
  | createEmbedding job => createEmbeddingJob job
  | claimEmbedding jobId staleBefore now => claimEmbeddingJob jobId staleBefore now
  | embedded jobId summary now => markEmbeddingJobEmbedded jobId summary now
  | retrievalReady versionId index now => markDocumentVersionRetrievalReady versionId index now
  | embeddingFailed jobId status nextRetryAt expected now =>
    markEmbeddingJobFailed jobId status nextRetryAt expected now
  | deleteDocument now => fun rows => some (softDeleteDocument now rows)
  | deleteVersion versionId now => softDeleteDocumentVersion versionId now
  | deleteChunks versionId now => fun rows => some (softDeleteChunksForVersion versionId now rows)

/-- The creation time of the version an operation asks for. -/
def creates : Operation → Option ℕ
  | createVersion _ _ createdAt => some createdAt
  | _ => none

end Operation

def run (rows : Rows) (operations : List Operation) : Rows :=
  operations.foldl (fun rows operation => (operation.apply rows).getD rows) rows

end AegisRag.Data.Documents

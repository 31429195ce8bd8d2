import AegisRag.Rag.Dto

/-!
# Stored documents

The rows of documents, versions and chunks as `packages/data/dto.py` reads them back.
The validators of a chunk record trim its texts, so a record holds the proof of what
they leave.
-/

namespace AegisRag.Data

open Semantics Vectorstores Retrieval Rag

/-- `ChunkRecord`. -/
structure ChunkRecord where
  tenantId : String
  documentId : String
  versionId : String
  chunkId : String
  status : String
  sourceType : String
  sourceUri : Option String
  titlePath : List String
  content : String
  pageStart : Option Int
  pageEnd : Option Int
  tokenCount : Int
  acl : Acl
  metadata : Metadata
  deletedAt : Option Nat
  identity_areTexts : ∀ text ∈ [tenantId, documentId, versionId, chunkId, sourceType], IsText text
  content_isText : IsText content
  sourceUri_isText : ∀ uri, sourceUri = some uri → IsText uri
  titlePath_areTexts : ∀ part ∈ titlePath, IsText part
  titlePath_filled : titlePath ≠ []
  tokenCount_pos : 0 < tokenCount
  pages : validPages pageStart pageEnd = true

/-- `DocumentRecord`, as far as access to a document reads it. -/
structure DocumentRecord where
  tenantId : String
  id : String
  status : String
  acl : Acl
  deletedAt : Option Nat

/-- `DocumentVersionRecord`, as far as access to a version reads it. -/
structure DocumentVersionRecord where
  tenantId : String
  id : String
  documentId : String
  status : String
  acl : Acl
  deletedAt : Option Nat

/-- The rows of the three tables, each in the order of creation. -/
structure Repository where
  documents : List DocumentRecord
  versions : List DocumentVersionRecord
  chunks : List ChunkRecord

namespace Repository

variable (repository : Repository)

/-- `get_document`. -/
def getDocument (tenantId documentId : String) : Option DocumentRecord :=
  repository.documents.find? fun document =>
    document.tenantId = tenantId ∧ document.id = documentId

/-- `get_version`. -/
def getVersion (tenantId versionId : String) : Option DocumentVersionRecord :=
  repository.versions.find? fun version =>
    version.tenantId = tenantId ∧ version.id = versionId

/-- `get_chunk`. -/
def getChunk (tenantId documentId versionId chunkId : String) : Option ChunkRecord :=
  repository.chunks.find? fun chunk =>
    chunk.tenantId = tenantId ∧ chunk.chunkId = chunkId ∧ chunk.deletedAt = none ∧
      chunk.documentId = documentId ∧ chunk.versionId = versionId

end Repository

end AegisRag.Data

import MemoryLab.Model.ContentReaders
import MemoryLab.Model.Persistence

/-! # Two writers of bodies

A save stores the chunks of a new content, and the persistence backend puts a record under an
identifier that the caller chose. Both write the tables that every reader assembles bodies from. -/

namespace MemoryLab.BodyWriters

open Library Library.Rows Library.Transaction Adapter Persistence

variable {M : Type}

/-! ## The put -/

/-- The clock, the JSON column and the embedding provider during one put, and where its
transaction is struck. -/
structure PutEnvironment (M : Type) where
  now : Timestamp := 0
  jsonb : M → Option M
  embedText : Text → Option (List ℚ) := fun _ => none
  fault : Fault DbError := none

def contentIdOf (id : Uuid) : ContentId := id.bits.toNat

/-- The row of the workspace is in a table that no body is read from. A slug that is taken is
a fault that strikes here. -/
def ensureWorkspace : Statement Database DbError := .ok

/-- The columns that a put writes and that are kept here. -/
def setRecord (workspaceId : WorkspaceId) (quickSummary : Option Text) (item : ContentItem) :
    ContentItem :=
  { item with workspaceId := some workspaceId, quickSummary }

/-- A row that moves to the workspace would meet its own hash there. -/
def hashClashes (db : Database) (contentId : ContentId) (workspaceId : WorkspaceId) : Bool :=
  (db.contentItems.filter (hasContentId contentId)).any fun item =>
    item.contentHash.any fun contentHash =>
      db.contentItems.any fun other =>
        !hasContentId contentId other && hasContentHash (some workspaceId) contentHash other

/-- `normalized.text[:300] if normalized.text else None`. -/
def summaryOf (text : Text) : Option Text := if text = [] then none else some (text.take 300)

/-- `INSERT … ON CONFLICT (content_id) DO UPDATE`: the hash stays as it is. -/
def upsertContent (env : PutEnvironment M) (record : ContentPersistenceRecord M)
    (contentId : ContentId) (workspaceId : WorkspaceId) : Statement Database DbError := fun db =>
  if !(storable (record.text.take 300) && storable (record.title.getD []) &&
      storable (record.governanceStateId.getD [])) then .error .invalidText
  else if (env.jsonb record.metadata).isNone then .error .invalidText
  else if contentId ∈ db.contentIds then
    if hashClashes db contentId workspaceId then .error .uniqueViolation
    else .ok { db with
      contentItems := updateWhere (hasContentId contentId)
        (setRecord workspaceId (summaryOf record.text)) db.contentItems }
  else .ok { db with
    contentItems := db.contentItems ++
      [{ contentId, workspaceId := some workspaceId, quickSummary := summaryOf record.text,
         createdAt := env.now }] }

def isFirstChunk (contentId : ContentId) (chunk : ContentChunkRow) : Bool :=
  ofContent contentId chunk && chunk.chunkIndex == 0

/-- `DELETE … WHERE content_id = … AND chunk_index = 0`. -/
def deleteFirstChunk (contentId : ContentId) : Statement Database DbError := fun db =>
  .ok { db with
    contentChunks := db.contentChunks.filter fun chunk => !isFirstChunk contentId chunk }

/-- The chunk of a put has index 0; an empty text has none. -/
def recordRows (text : Text) : List (ℕ × Text) := if text = [] then [] else [(0, text)]

def persistBodyChunks (contentId : ContentId) (workspaceId : WorkspaceId)
    (embedText : Text → Option (List ℚ)) (firstId : ChunkId) (text : Text) :
    List (Statement Database DbError) :=
  deleteFirstChunk contentId ::
    (recordRows text).flatMap (chunkStatements contentId (some workspaceId) embedText firstId)

def putStatements (env : PutEnvironment M) (db : Database) (record : ContentPersistenceRecord M)
    (contentId : ContentId) (workspaceId : WorkspaceId) : List (Statement Database DbError) :=
  ensureWorkspace :: upsertContent env record contentId workspaceId ::
    persistBodyChunks contentId workspaceId env.embedText
      (freshId (db.contentChunks.map (·.chunkId))) record.text

/-- A failure rolls the transaction back. -/
def putContentRecord (env : PutEnvironment M) (db : Database) (supplied : SuppliedRecord M) :
    Database × Except PersistenceError (ContentPersistenceRecord M) :=
  let normalized := Postgres.normalizeContentRecord supplied
  match Postgres.validateIds normalized.workspaceId normalized.contentId with
  | .error error => (db, .error error)
  | .ok () =>
    match Uuid.parse normalized.workspaceId, Uuid.parse normalized.contentId with
    | some workspaceId, some contentId =>
      match transact env.fault (putStatements env db normalized (contentIdOf contentId)
          workspaceId.bits.toNat) db with
      | .error _ => (db, .error Postgres.operationFailed)
      | .ok next => (next, .ok normalized)
    | _, _ => (db, .error Postgres.operationFailed)

/-! ## Runs of both writers -/

inductive Operation (M : Type) where
  | create (args : SaveArgs) (env : SaveEnvironment)
  | put (env : PutEnvironment M) (record : SuppliedRecord M)

def write (sha256Hex : Text → Text) (db : Database) : Operation M → Database
  | .create args env => (createContentMinimal sha256Hex db args env).1
  | .put env record => (putContentRecord env db record).1

end MemoryLab.BodyWriters

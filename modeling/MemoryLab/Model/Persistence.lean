import Mathlib.Data.Char
import Mathlib.Data.List.Lex
import MemoryLab.Library.Dict
import MemoryLab.Model.Schema

/-! # The persistence backends

The in-memory backend keeps a dictionary, the other one the tables of the database. Metadata is
whatever a JSON object can be. -/

namespace MemoryLab.Persistence

open Library Library.Rows

/-! ## Records and results -/

structure PersistenceError where
  code : String
  message : String
  field : Option String := none
deriving DecidableEq

structure ContentPersistenceRecord (M : Type) where
  contentId : Text
  workspaceId : Text
  text : Text := []
  title : Option Text := none
  metadata : M
  governanceStateId : Option Text := none
deriving DecidableEq

/-- A value that a caller put into a field: a text, or something else that `str` shows. -/
inductive FieldValue where
  | text (value : Text)
  | other (shown : Text) (truthy : Bool)
deriving DecidableEq

def FieldValue.isTruthy : FieldValue → Bool
  | .text value => !value.isEmpty
  | .other _ truthy => truthy

def FieldValue.str : FieldValue → Text
  | .text value => value
  | .other shown _ => shown

/-- The fields of a mapping or of some object, where any of the first four may be missing. -/
structure SuppliedFields (M : Type) where
  contentId : Option FieldValue := none
  recordId : Option FieldValue := none
  workspaceId : Option FieldValue := none
  text : Option FieldValue := none
  title : Option Text := none
  metadata : M
  governanceStateId : Option Text := none
deriving DecidableEq

inductive SuppliedRecord (M : Type) where
  | record (value : ContentPersistenceRecord M)
  | mapping (fields : SuppliedFields M)
  | object (fields : SuppliedFields M)
deriving DecidableEq

/-- `a or b`. -/
def orElse (first second : Option FieldValue) : Option FieldValue :=
  if first.any FieldValue.isTruthy then first else second

def requiredError (fieldName : String) : PersistenceError :=
  ⟨"invalid_" ++ fieldName, fieldName ++ " is required", some fieldName⟩

def notFound : PersistenceError := ⟨"not_found", "content record not found", some "content_id"⟩

def invalidWorkspace : PersistenceError :=
  ⟨"invalid_workspace", "workspace_id is required", some "workspace_id"⟩

variable {M : Type}

/-! ## In memory -/

abbrev MemoryStore (M : Type) := Dict (Text × Text) (SuppliedRecord M)

namespace Memory

def workspaceField : SuppliedRecord M → Option FieldValue
  | .record value => some (.text value.workspaceId)
  | .mapping fields => fields.workspaceId
  | .object fields => fields.workspaceId

def contentField : SuppliedRecord M → Option FieldValue
  | .record value => orElse (some (.text value.contentId)) none
  | .mapping fields => orElse fields.contentId fields.recordId
  | .object fields => orElse fields.contentId fields.recordId

/-- The stripped text of an identifier, when it is a text and not blank. -/
def requiredId : Option FieldValue → Option Text
  | some (.text value) => if value.strip = [] then none else some value.strip
  | _ => none

def putContentRecord (store : MemoryStore M) (supplied : SuppliedRecord M) :
    MemoryStore M × Except PersistenceError (SuppliedRecord M) :=
  match requiredId (workspaceField supplied) with
  | none => (store, .error (requiredError "workspace_id"))
  | some workspaceId =>
    match requiredId (contentField supplied) with
    | none => (store, .error (requiredError "content_id"))
    | some contentId => (store.set (workspaceId, contentId) supplied, .ok supplied)

def getContentRecord (store : MemoryStore M) (workspaceId contentId : Text) :
    Except PersistenceError (SuppliedRecord M) :=
  if workspaceId.strip = [] then .error (requiredError "workspace_id")
  else if contentId.strip = [] then .error (requiredError "content_id")
  else match store.get? (workspaceId.strip, contentId.strip) with
  | some record => .ok record
  | none => .error notFound

def listContentRecords (store : MemoryStore M) (workspaceId : Text) :
    Except PersistenceError (List (SuppliedRecord M)) :=
  if workspaceId.strip = [] then .error invalidWorkspace
  else .ok (((sortOn (fun entry : (Text × Text) × SuppliedRecord M => [entry.1.1, entry.1.2])
    store).filter fun entry => entry.1.1 == workspaceId.strip).map (·.2))

end Memory

/-! ## In the database -/

structure StoredContent (M : Type) where
  contentId : Uuid
  workspaceId : Option Uuid
  quickSummary : Option Text := none
  contentTitle : Option Text := none
  contentMetadata : M
  governanceStateId : Option Text := none
deriving DecidableEq

structure StoredChunk where
  contentId : Uuid
  workspaceId : Option Uuid
  chunkIndex : ℕ
  chunkText : Text
deriving DecidableEq

structure StoredWorkspace where
  workspaceId : Uuid
  slug : Text
  title : Text
deriving DecidableEq

structure PostgresStore (M : Type) where
  contentItems : List (StoredContent M) := []
  contentChunks : List StoredChunk := []
  workspaces : List StoredWorkspace := []
deriving DecidableEq

/-- What the outside decides: what a JSON column holds of some metadata, if it takes it, and
whether the embedding of a text is stored or skipped without an error. -/
structure Environment (M : Type) where
  jsonb : M → Option M
  embeds : Text → Bool

namespace Postgres

def normalizeContentRecord : SuppliedRecord M → ContentPersistenceRecord M
  | .record value => value
  | .mapping fields =>
    { contentId := ((orElse fields.contentId (orElse fields.recordId none)).map (·.str)).getD [],
      workspaceId := ((orElse fields.workspaceId none).map (·.str)).getD [],
      text := ((orElse fields.text none).map (·.str)).getD [],
      title := fields.title, metadata := fields.metadata,
      governanceStateId := fields.governanceStateId }
  | .object fields =>
    { contentId := ((orElse (fields.contentId.or fields.recordId) none).map (·.str)).getD [],
      workspaceId := ((orElse fields.workspaceId none).map (·.str)).getD [],
      text := ((orElse fields.text none).map (·.str)).getD [],
      title := fields.title, metadata := fields.metadata,
      governanceStateId := fields.governanceStateId }

def uuidError (fieldName : String) : PersistenceError :=
  ⟨"invalid_" ++ fieldName, fieldName ++ " must be a UUID for Postgres persistence",
    some fieldName⟩

def operationFailed : PersistenceError :=
  ⟨"postgres_operation_failed", "Postgres operation failed", none⟩

def validateUuid (value : Text) (fieldName : String) : Except PersistenceError Unit :=
  if Uuid.isConstructible value.strip then .ok () else .error (uuidError fieldName)

def validateId (value : Text) (fieldName : String) : Except PersistenceError Unit :=
  if value.strip = [] then .error (requiredError fieldName) else validateUuid value fieldName

def validateIds (workspaceId contentId : Text) : Except PersistenceError Unit :=
  match validateId workspaceId "workspace_id" with
  | .error error => .error error
  | .ok () => validateId contentId "content_id"

/-! ### Writing -/

def workspaceSlug (workspaceId : Text) : Text := "m2-persistence-".toList ++ workspaceId

/-- `INSERT … ON CONFLICT (workspace_id) DO NOTHING`; the slug is unique too. -/
def ensureWorkspace (db : PostgresStore M) (workspaceId : Uuid) (spelled : Text) :
    Except DbError (PostgresStore M) :=
  if db.workspaces.any (·.workspaceId == workspaceId) then .ok db
  else if db.workspaces.any (·.slug == workspaceSlug spelled) then .error .uniqueViolation
  else .ok { db with
    workspaces := db.workspaces ++
      [⟨workspaceId, workspaceSlug spelled, "M2 Persistence Workspace ".toList ++ spelled⟩] }

/-- `INSERT … ON CONFLICT (content_id) DO UPDATE`, the workspace included. -/
def upsertContent (db : PostgresStore M) (row : StoredContent M) : PostgresStore M :=
  if db.contentItems.any (·.contentId == row.contentId) then
    { db with
      contentItems := updateWhere (·.contentId == row.contentId) (fun _ => row) db.contentItems }
  else { db with contentItems := db.contentItems ++ [row] }

def isBody (contentId : Uuid) (chunk : StoredChunk) : Bool :=
  chunk.contentId == contentId && chunk.chunkIndex == 0

/-- Replaces chunk 0 of a content. -/
def persistBodyChunks (env : Environment M) (db : PostgresStore M) (contentId workspaceId : Uuid)
    (text : Text) : Except DbError (PostgresStore M) :=
  let kept := db.contentChunks.filter fun chunk => !isBody contentId chunk
  if text = [] then .ok { db with contentChunks := kept }
  else if !storable text then .error .invalidText
  else if !env.embeds text then .error .invalidText
  else .ok { db with contentChunks := kept ++ [⟨contentId, some workspaceId, 0, text⟩] }

def writeContent (env : Environment M) (db : PostgresStore M)
    (record : ContentPersistenceRecord M) : Except DbError (PostgresStore M) :=
  match Uuid.parse record.workspaceId, Uuid.parse record.contentId with
  | some workspaceId, some contentId =>
    match ensureWorkspace db workspaceId record.workspaceId with
    | .error error => .error error
    | .ok known =>
      if !(storable (record.text.take 300) && storable (record.title.getD []) &&
          storable (record.governanceStateId.getD [])) then .error .invalidText
      else match env.jsonb record.metadata with
      | none => .error .invalidText
      | some metadata =>
        persistBodyChunks env
          (upsertContent known
            { contentId, workspaceId := some workspaceId,
              quickSummary := if record.text = [] then none else some (record.text.take 300),
              contentTitle := record.title, contentMetadata := metadata,
              governanceStateId := record.governanceStateId })
          contentId workspaceId record.text
  | _, _ => .error .invalidText

/-- A failure rolls the transaction back. -/
def putContentRecord (env : Environment M) (db : PostgresStore M) (supplied : SuppliedRecord M) :
    PostgresStore M × Except PersistenceError (ContentPersistenceRecord M) :=
  let normalized := normalizeContentRecord supplied
  match validateIds normalized.workspaceId normalized.contentId with
  | .error error => (db, .error error)
  | .ok () =>
    match writeContent env db normalized with
    | .error _ => (db, .error operationFailed)
    | .ok next => (next, .ok normalized)

/-! ### Reading -/

/-- The contents of a workspace with their bodies. -/
def joined (db : PostgresStore M) (p : StoredContent M → Bool) :
    List (StoredContent M × Option StoredChunk) :=
  leftJoin (fun item chunk => isBody item.contentId chunk) (db.contentItems.filter p)
    db.contentChunks

def loadedRecord (row : StoredContent M × Option StoredChunk) : ContentPersistenceRecord M :=
  { contentId := row.1.contentId.text, workspaceId := (row.1.workspaceId.map (·.text)).getD [],
    text := (row.2.map (·.chunkText)).getD [], title := row.1.contentTitle,
    metadata := row.1.contentMetadata, governanceStateId := row.1.governanceStateId }

def getContentRecord (db : PostgresStore M) (workspaceId contentId : Text) :
    Except PersistenceError (ContentPersistenceRecord M) :=
  match validateIds workspaceId contentId with
  | .error error => .error error
  | .ok () =>
    match Uuid.parse workspaceId, Uuid.parse contentId with
    | some workspace, some content =>
      match (joined db fun item =>
          item.workspaceId == some workspace && item.contentId == content).head? with
      | some row => .ok (loadedRecord row)
      | none => .error notFound
    | _, _ => .error operationFailed

def listContentRecords (db : PostgresStore M) (workspaceId : Text) :
    Except PersistenceError (List (ContentPersistenceRecord M)) :=
  if workspaceId.strip = [] then .error invalidWorkspace
  else match validateUuid workspaceId "workspace_id" with
  | .error error => .error error
  | .ok () =>
    match Uuid.parse workspaceId with
    | some workspace =>
      .ok ((sortOn (fun row : StoredContent M × Option StoredChunk => row.1.contentId.text)
        (joined db fun item => item.workspaceId == some workspace)).map loadedRecord)
    | none => .error operationFailed

end Postgres

end MemoryLab.Persistence

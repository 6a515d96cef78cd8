import MemoryLab.Model.CanonicalBody
import MemoryLab.Model.Save

/-! # Reading a stored body

One reader joins the chunks with blank lines, the other takes the overlaps out and compares the
hash. -/

namespace MemoryLab.ContentReaders

open Library Library.Rows Adapter CanonicalBody

/-- `COALESCE(string_agg(chunk_text, E'\n\n' ORDER BY chunk_index), '')` over the chunks of a
content. -/
def aggregatedText (db : Database) (contentId : ContentId) : Text :=
  "\n\n".toList.intercalate ((sortOn (·.chunkIndex)
    (db.contentChunks.filter (ofContent contentId))).map (·.chunkText))

/-- `WHERE content_id = …`, and the workspace where one is given. -/
def visibleTo (contentId : ContentId) (workspaceId : Option WorkspaceId) (item : ContentItem) :
    Bool :=
  item.contentId == contentId && workspaceId.all fun workspaceId =>
    item.workspaceId == some workspaceId

/-! ## The node with its text -/

structure GraphNodeFull where
  contentId : ContentId
  workspaceId : Option WorkspaceId
  quickSummary : Option Text
  memoryType : Option MemoryType
  fullText : Text
  createdBySubject : Option Text
  createdAt : Timestamp
deriving DecidableEq

def loadGraphNodeFull (db : Database) (contentId : ContentId)
    (workspaceId : Option WorkspaceId) : Option GraphNodeFull :=
  (db.contentItems.find? (visibleTo contentId workspaceId)).map fun item =>
    { contentId := item.contentId, workspaceId := item.workspaceId,
      quickSummary := item.quickSummary, memoryType := item.memoryType,
      fullText := aggregatedText db item.contentId,
      createdBySubject := item.createdBySubject, createdAt := item.createdAt }

/-! ## The canonical body -/

inductive VersionStatus where
  | notChecked
  | matched
  | mismatch
  | versionUnknown
deriving DecidableEq

structure VersionCheckResult where
  status : VersionStatus
  expectedVersion : Option Text
  currentVersion : Option Text
deriving DecidableEq

def VersionCheckResult.blocks (result : VersionCheckResult) : Bool :=
  result.status ∈ [VersionStatus.mismatch, .versionUnknown]

def checkExpectedVersion (storedContentHash expectedVersion : Option Text) :
    VersionCheckResult :=
  match expectedVersion, storedContentHash with
  | none, stored => ⟨.notChecked, none, stored⟩
  | some expected, none => ⟨.versionUnknown, some expected, none⟩
  | some expected, some stored =>
    if expected = stored then ⟨.matched, some expected, some stored⟩
    else ⟨.mismatch, some expected, some stored⟩

inductive CanonicalBodyAnswer where
  | versionConflict (result : VersionCheckResult)
  | answer (contentId : ContentId) (workspaceId : Option WorkspaceId) (body : Option Text)
      (bodySha256 : Option Text) (fidelity : Fidelity)
deriving DecidableEq

/-- The chunks in the order of the statement. -/
def chunksOf (db : Database) (contentId : ContentId) : List PersistedChunk :=
  (sortOn (·.chunkIndex) (db.contentChunks.filter (ofContent contentId))).map fun chunk =>
    ⟨chunk.chunkIndex, chunk.chunkText⟩

def getCanonicalBody (sha256Hex : Text → Text) (db : Database) (contentId : ContentId)
    (workspaceId : Option WorkspaceId) (expectedVersion : Option Text) :
    Option CanonicalBodyAnswer :=
  (db.contentItems.find? (visibleTo contentId workspaceId)).map fun item =>
    let version := checkExpectedVersion item.contentHash expectedVersion
    if version.blocks then .versionConflict version
    else
      let result := reconstructCanonicalBody sha256Hex (chunksOf db contentId) item.contentHash
      let verified := result.fidelity = .hashVerified
      .answer item.contentId item.workspaceId (if verified then result.candidate else none)
        (if verified then result.computedHash else none) result.fidelity

end MemoryLab.ContentReaders

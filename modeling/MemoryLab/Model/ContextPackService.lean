import MemoryLab.Model.AnswerGate
import MemoryLab.Model.AskSeam
import MemoryLab.Model.ConflictService
import MemoryLab.Model.HybridSearch

/-! # Building a context pack for a request

The rows of every section are read, and the builder puts them together. -/

namespace MemoryLab.ContextPackService

open Library Library.Rows ContextPackBuilder
open GraphSnapshot (idText)

/-- What the service finds outside the tables: the parameters of the retrieval, the dictionary
that it makes of a row, the conversions of the records, the hash and the texts of reasons. -/
structure PackEnvironment where
  retrieval : Retrieval.Environment
  rowDict : Retrieval.RetrievalRow → Evidence.EvidenceRow
  convert : Conversions
  sha256Hex : Text → Text
  stateReasonText : StateReason → Text

inductive ServiceError where
  | database (error : DbError)
  | build (error : BuildError)
deriving DecidableEq

section Rows

variable (env : PackEnvironment) (db : Database) (request : BuildRequest)
  (workspaceId : WorkspaceId)

/-! ## Supporting evidence -/

def stateStatusLabel : StateStatus → String
  | .active => "active"
  | .superseded => "superseded"
  | .archived => "archived"

/-- A content of the workspace with the last of its anchors. -/
def contentRow (contentId : Text) : Option (ContentItem × Option CurrentStateAnchor) :=
  ((leftJoin ContextPack.anchorOf db.contentItems db.anchors).filter fun row =>
    row.1.workspaceId == some workspaceId && idText row.1.contentId == contentId).getLast?

/-- The columns that are added to the metadata. -/
def contentMeta (anchor : Option CurrentStateAnchor) : PyDict :=
  [("anchor_scope".toList, .ofText (anchor.map (·.scope))),
    ("state_status".toList,
      .ofText (anchor.map fun anchor => (stateStatusLabel anchor.stateStatus).toList)),
    ("anchor_supersedes_content_id".toList,
      .ofText ((anchor.bind (·.supersedesContentId)).map idText)),
    ("canonical_rank".toList,
      ((anchor.map fun anchor => PyValue.int anchor.canonicalRank).getD .none)),
    ("state_reason".toList,
      .ofText ((anchor.bind (·.stateReason)).map env.stateReasonText))].filter
    fun entry => !entry.2.isNone

def attachContentMetadata (item : Evidence.EvidenceItem) : PackRow :=
  let row := AskSeam.dumpRow item
  match contentRow db workspaceId item.contentId with
  | none => { row with metadata := item.metadata.filter (!·.isEmpty) }
  | some (content, anchor) =>
    { row with
      memoryType := content.memoryType.map (·.label.toList),
      memorySubType := content.memorySubType, classifyConfidence := content.classifyConfidence,
      isCurrent := content.isCurrent.or item.isCurrent,
      currentStateScope := content.currentStateScope.or item.currentStateScope,
      csSupersedesContentId :=
        (content.csSupersedesContentId.map idText).or item.csSupersedesContentId,
      metadata := some (PyDict.update (item.metadata.getD []) (contentMeta env anchor)) |>.filter
        (!·.isEmpty) }

def effectiveQuery : Text := Evidence.orText request.query (Evidence.orText request.scope [])

def searchOptions (maxHops : ℤ) (consultHubGraph : Bool) : Retrieval.SearchOptions :=
  { maxHops := (min (max (if maxHops = 0 then 1 else maxHops) 1) 3).toNat, minConfidence := 0,
    graphBoost := 1 / 10, consultHubGraph }

def supportingRows (options : Retrieval.SearchOptions) : Except ServiceError (List PackRow) :=
  if request.includeSupportingEvidence then do
    let results ← (Retrieval.search env.retrieval db
      { workspaceId := some workspaceId, memoryTypes := request.resolvedMemoryTypes }
      (effectiveQuery request) options).mapError .database
    let normalized := Evidence.normalizeEvidence (results.map env.rowDict) 320
    return (normalized.take request.limit).map (attachContentMetadata env db workspaceId)
  else .ok []

/-! ## Current state -/

def stateRow (row : ContextPack.CurrentStateRow) : PackRow :=
  { evidenceId := some (Answer.currentStateText row.evidenceId),
    contentId := some (idText row.contentId), chunkId := row.chunkId.map idText,
    rank := some row.rank, snippet := some row.snippet, scoreKind := some row.scoreKind.toList,
    memoryType := row.memoryType.map (·.label.toList), memorySubType := row.memorySubType,
    classifyConfidence := row.classifyConfidence, isCurrent := row.isCurrent,
    currentStateScope := row.currentStateScope,
    csSupersedesContentId := row.csSupersedesContentId.map idText,
    source := some row.source.toList,
    metadata := some
      [("state_status".toList,
          .ofText (row.metadata.stateStatus.map fun status => (stateStatusLabel status).toList)),
        ("anchor_supersedes_content_id".toList,
          .ofText (row.metadata.anchorSupersedesContentId.map idText)),
        ("canonical_rank".toList,
          ((row.metadata.canonicalRank.map fun rank => PyValue.int rank).getD .none)),
        ("state_reason".toList, .ofText (row.metadata.stateReason.map env.stateReasonText))] }

def currentStateRows : Except ServiceError (List PackRow) :=
  if request.includeCurrentState then do
    let rows ← (ContextPack.fetchCurrentStateRows db
      (request.toContextPackBuildRequest.currentStateQuery workspaceId)).mapError .database
    return rows.map (stateRow env)
  else .ok []

/-! ## Conflicts -/

def evidenceRow (ref : Conflicts.ConflictEvidenceRef) : PackRow :=
  { evidenceId := some ref.evidenceId, contentId := some (idText ref.contentId),
    chunkId := ref.chunkId.map idText, snippet := some ref.snippet, memoryType := ref.memoryType,
    memorySubType := ref.memorySubType, classifyConfidence := ref.classifyConfidence,
    isCurrent := ref.isCurrent, currentStateScope := ref.currentStateScope,
    role := some ref.role.label.toList }

/-- `model_dump` of a candidate. -/
def conflictDict (candidate : Conflicts.ConflictCandidate) : ConflictDict :=
  { candidateId := some candidate.candidateId,
    conflictType := some candidate.conflictType.label.toList,
    severity := some candidate.severity.label.toList,
    confidence := some (candidate.confidence / 100),
    evidence := candidate.evidence.map evidenceRow }

def searchConflicts : Except DbError Conflicts.ConflictSearchResponse :=
  Conflicts.searchConflictCandidates env.sha256Hex db
    { workspaceId, query := request.query, scope := request.scope,
      memoryType := request.memoryType, memoryTypes := request.memoryTypes }
    true request.limit

def conflictRows : Except ServiceError (List ConflictDict) :=
  if request.includeConflicts || request.includeCounterfindings then do
    let response ← (searchConflicts env db request workspaceId).mapError .database
    return response.conflicts.map conflictDict
  else .ok []

/-! ## The pack -/

def buildContextPackForRequest (options : Retrieval.SearchOptions) :
    Except ServiceError ContextPack := do
  let supporting ← supportingRows env db request workspaceId options
  let current ← currentStateRows env db request workspaceId
  let conflicts ← conflictRows env db request workspaceId
  let conflicts := if request.includeConflicts then conflicts else []
  (buildContextPack env.convert request supporting current conflicts).mapError .build

end Rows

end MemoryLab.ContextPackService

import MemoryLab.Library.Regex
import MemoryLab.Model.ConflictDetector
import MemoryLab.Model.ContextPack
import MemoryLab.Model.TierOperations

/-! # Reading rows for the detector, and escalating what it finds -/

namespace MemoryLab.Conflicts

open Library Library.Rows ContextPack TierOperations

/-! ## The rows of a workspace -/

structure SourceQuery where
  workspaceId : WorkspaceId
  query : Option Text := none
  scope : Option Text := none
  memoryType : Option Text := none
  memoryTypes : Option (List Text) := none
deriving DecidableEq

def chunkOf (item : ContentItem) (chunk : ContentChunkRow) : Bool :=
  chunk.contentId == item.contentId &&
    (chunk.workspaceId == item.workspaceId || chunk.workspaceId == none)

/-- The content rows with each of their chunks and each of their anchors. -/
def sourceRows (db : Database) : List JoinedRow :=
  leftJoin (fun row anchor => anchorOf row.1 anchor)
    (leftJoin chunkOf db.contentItems db.contentChunks) db.anchors

def chunkText (row : JoinedRow) : Text := (row.1.2.map (·.chunkText)).getD []

namespace SourceQuery

/-- The requested types that are not empty, unless there are none. -/
def types (query : SourceQuery) : List Text :=
  (query.memoryType.toList ++ query.memoryTypes.getD []).filter (· ≠ [])

def matchesScope (query : SourceQuery) (item : ContentItem) : Bool :=
  (query.scope.filter (· ≠ [])).all fun scope =>
    item.currentStateScope == none || item.currentStateScope == some (normalizeScope (some scope))

def matchesText (query : SourceQuery) (row : JoinedRow) : Bool :=
  (query.query.filter (· ≠ [])).all fun text =>
    let pattern := Pattern.ofLike ('%' :: Text.lower text ++ ['%'])
    pattern.matchesAll (Text.lower (chunkText row)) ||
      pattern.matchesAll (Text.lower (row.1.1.currentStateScope.getD []))

def selects (query : SourceQuery) (row : JoinedRow) : Bool :=
  let item := row.1.1
  item.workspaceId == some query.workspaceId &&
    (query.types.isEmpty || item.memoryType.any (·.label.toList ∈ query.types)) &&
    query.matchesScope item && query.matchesText row

def parameters (query : SourceQuery) : List Text :=
  query.types ++ (query.query.filter (· ≠ [])).toList

end SourceQuery

/-- `ci.created_at DESC, ch.chunk_index ASC NULLS LAST`. -/
def sourceOrder (row : JoinedRow) : ℕᵒᵈ ×ₗ WithTop ℕ :=
  toLex (OrderDual.toDual row.1.1.createdAt, (row.1.2.map (·.chunkIndex) : Option ℕ))

def conflictSourceRow (row : JoinedRow) : ConflictSourceRow :=
  let ((item, chunk), anchor) := row
  { contentId := some item.contentId, workspaceId := item.workspaceId, text := chunkText row,
    chunkId := chunk.map (·.chunkId), memoryType := item.memoryType.map (·.label.toList),
    memorySubType := item.memorySubType, classifyConfidence := item.classifyConfidence,
    isCurrent := item.isCurrent, currentStateScope := item.currentStateScope,
    stateIdentity := item.stateIdentity, csSupersedesContentId := item.csSupersedesContentId,
    stateStatus := anchor.map (·.stateStatus),
    anchorSupersedesContentId := anchor.bind (·.supersedesContentId) }

/-- The rows of the statement before its `LIMIT`. -/
def selectedRows (db : Database) (query : SourceQuery) : List JoinedRow :=
  sortOn sourceOrder ((sourceRows db).filter query.selects)

def fetchRows (db : Database) (query : SourceQuery) (sourceLimit : ℕ) :
    Except DbError (List ConflictSourceRow) :=
  if query.parameters.all storable then
    .ok (((selectedRows db query).take sourceLimit).map conflictSourceRow)
  else .error .invalidText

/-! ## Searching -/

structure ConflictSearchResponse where
  conflicts : List ConflictCandidate
  count : ℕ
  workspaceId : WorkspaceId
deriving DecidableEq

def sourceLimit (limit : ℤ) : ℕ := max (safeLimit limit * 10) 50

def searchConflictCandidates (sha256Hex : Text → Text) (db : Database) (query : SourceQuery)
    (includeResolved : Bool) (limit : ℤ) : Except DbError ConflictSearchResponse :=
  match fetchRows db query (sourceLimit limit) with
  | .error error => .error error
  | .ok rows =>
    let candidates := detectConflictCandidates sha256Hex rows query.workspaceId query.scope
      query.memoryType includeResolved (safeLimit limit)
    .ok { conflicts := candidates, count := candidates.length, workspaceId := query.workspaceId }

/-! ## Planning an escalation -/

def escalationConflictType : ConflictType → String
  | .explicitContradiction => "direct_contradiction"
  | .sameScopeOpposingClaim => "direct_contradiction"
  | .explicitCounterfinding => "incompatible_assumption"
  | .staleCurrentTension => "outdated_assumption"

def severityToEscalation : ConflictSeverity → Option Severity
  | .high => some .requiresReview
  | .medium => some .warning
  | .low => none

/-- The environment's time to live of a severity, where it is set to an integer. -/
abbrev TtlEnvironment := Severity → Option ℤ

def ttlDays (env : TtlEnvironment) (severity : Severity) : ℕ :=
  match env severity with
  | some days => (max 1 days).toNat
  | none => if severity = .requiresReview then 30 else 7

structure PlannedEscalation extends EscalationPlan where
  candidateId : Text
deriving DecidableEq

def involves (candidate : ConflictCandidate) (contentId : ContentId) : Bool :=
  contentId ∈ candidate.supportingContentIds ++ candidate.contradictingContentIds

def counterpartId (candidate : ConflictCandidate) (contentId : ContentId) : Option ContentId :=
  (candidate.contradictingContentIds ++ candidate.supportingContentIds).find? (· ≠ contentId)

/-- Two decimals of a number of hundredths. -/
def twoDecimals (hundredths : ℕ) : Text :=
  (toString (hundredths / 100)).toList ++ ['.'] ++ (toString (hundredths / 10 % 10)).toList ++
    (toString (hundredths % 10)).toList

def conflictSummary (candidate : ConflictCandidate) (counterpart : Option ContentId) : Text :=
  ("candidate_id=".toList ++ candidate.candidateId ++
    " rule=".toList ++ candidate.detectionRule.toList ++
    " b11_type=".toList ++ candidate.conflictType.label.toList ++
    " b11_severity=".toList ++ candidate.severity.label.toList ++
    " confidence=".toList ++ twoDecimals candidate.confidence ++
    " reasons=".toList ++ [','].intercalate (candidate.reasonCodes.map (·.toList)) ++
    " counterpart_content_id=".toList ++
      ((counterpart.map GraphSnapshot.idText).getD "unknown".toList)).take 500

/-- The plan that a candidate gives rise to, if it is one to escalate. -/
def planOf (env : TtlEnvironment) (workspaceId : WorkspaceId) (contentId : ContentId)
    (candidate : ConflictCandidate) : Option PlannedEscalation :=
  if candidate.status ≠ .unresolved then none
  else if !involves candidate contentId then none
  else (severityToEscalation candidate.severity).map fun severity =>
    let counterpart := counterpartId candidate contentId
    { workspaceId, contentId, conflictContentId := counterpart,
      conflictType := escalationConflictType candidate.conflictType, severity,
      conflictSummary := conflictSummary candidate counterpart,
      ttlDays := ttlDays env severity, detectionRule := candidate.detectionRule,
      candidateId := candidate.candidateId }

def planEscalationForContent (env : TtlEnvironment) (candidates : List ConflictCandidate)
    (workspaceId : WorkspaceId) (contentId : ContentId) : Option PlannedEscalation :=
  candidates.findSome? (planOf env workspaceId contentId)

/-! ## On ingest -/

def ingestSourceLimit : ℕ := 100
def ingestLimit : ℤ := 10

/-- What is planned for a content over some rows. -/
def planOnIngest (sha256Hex : Text → Text) (env : TtlEnvironment)
    (rows : List ConflictSourceRow) (workspaceId : WorkspaceId) (contentId : ContentId) :
    Option PlannedEscalation :=
  planEscalationForContent env
    (detectConflictCandidates sha256Hex rows workspaceId none none false ingestLimit)
    workspaceId contentId

def evaluateAndEscalateOnIngest (sha256Hex : Text → Text) (env : TtlEnvironment)
    (db : Database) (now : Timestamp) (workspaceId : Option WorkspaceId) (contentId : ContentId) :
    Except OperationError (Database × Option EscalationMeta) :=
  match workspaceId with
  | none => .ok (db, none)
  | some workspaceId =>
    match fetchRows db { workspaceId } ingestSourceLimit with
    | .error error => .error (.database error)
    | .ok rows =>
      match planOnIngest sha256Hex env rows workspaceId contentId with
      | none => .ok (db, none)
      | some plan => (persistEscalation db now plan.toEscalationPlan).map fun saved =>
          (saved.1, some saved.2)

end MemoryLab.Conflicts

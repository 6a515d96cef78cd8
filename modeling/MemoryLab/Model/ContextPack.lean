import MemoryLab.Library.Regex
import MemoryLab.Model.Promotion

/-! # The current-state sections of a context pack -/

namespace MemoryLab.ContextPack

open Library Library.Rows

/-! ## The request -/

structure ContextPackBuildRequest where
  query : Option Text := none
  scope : Option Text := none
  memoryType : Option Text := none
  memoryTypes : Option (List Text) := none
  includeCurrentState : Bool := true
  limit : ℕ := 10
deriving DecidableEq

inductive RequestError where
  | limitOutOfRange
  | queryOrScopeRequired
  | unknownMemoryTypes (invalid : List Text)
deriving DecidableEq

def clean (value : Option Text) : Option Text := (value.map Text.strip).filter (· ≠ [])

def memoryTypeValues : List Text :=
  [MemoryType.milestone, .decision, .principle, .anchor, .evidence, .planRoadmap, .rawMemory].map
    (·.label.toList)

namespace ContextPackBuildRequest

/-- The sorted set of the requested types, unless it is empty. -/
def resolvedMemoryTypes (request : ContextPackBuildRequest) : Option (List Text) :=
  let values := request.memoryType.toList ++ request.memoryTypes.getD []
  some (((values.filter (· ≠ [])).dedup).insertionSort fun a b => a.le b) |>.filter (· ≠ [])

def normalize (request : ContextPackBuildRequest) : ContextPackBuildRequest :=
  { request with
    query := clean request.query, scope := clean request.scope,
    memoryType := clean request.memoryType,
    memoryTypes := request.memoryTypes.map fun values => values.filterMap (clean ∘ some) }

def validateAndNormalize (request : ContextPackBuildRequest) :
    Except RequestError ContextPackBuildRequest :=
  if request.limit < 1 ∨ 50 < request.limit then .error .limitOutOfRange
  else
    let request := request.normalize
    if request.query.isNone && request.scope.isNone then .error .queryOrScopeRequired
    else
      let invalid := (request.resolvedMemoryTypes.getD []).filter (· ∉ memoryTypeValues)
      if invalid ≠ [] then .error (.unknownMemoryTypes invalid) else .ok request

end ContextPackBuildRequest

/-! ## The rows -/

structure CurrentStateQuery where
  workspaceId : WorkspaceId
  query : Option Text
  scope : Option Text
  memoryTypes : Option (List Text)
  limit : ℕ
deriving DecidableEq

def headChunkOf (item : ContentItem) (chunk : ContentChunkRow) : Bool :=
  chunk.contentId == item.contentId &&
    (chunk.workspaceId == item.workspaceId || chunk.workspaceId == none) && chunk.chunkIndex == 0

def anchorOf (item : ContentItem) (anchor : CurrentStateAnchor) : Bool :=
  anchor.contentId == some item.contentId && some anchor.workspaceId == item.workspaceId

/-- A content row with its first chunk and one of its anchors. -/
abbrev JoinedRow := (ContentItem × Option ContentChunkRow) × Option CurrentStateAnchor

def joinedRows (items : List ContentItem) (db : Database) : List JoinedRow :=
  leftJoin (fun row anchor => anchorOf row.1 anchor)
    (leftJoin headChunkOf items db.contentChunks) db.anchors

namespace CurrentStateQuery

/-- What the statement passes as text. -/
def textParameters (query : CurrentStateQuery) : List Text :=
  query.memoryTypes.getD [] ++
    ((query.scope.filter (· ≠ [])).or (query.query.filter (· ≠ []))).toList

def asksFor (query : CurrentStateQuery) (item : ContentItem) : Bool :=
  (query.memoryTypes.filter (· ≠ [])).all fun types =>
    item.memoryType.any (·.label.toList ∈ types)

def matchesText (query : CurrentStateQuery) (row : JoinedRow) : Bool :=
  let ((item, chunk), _) := row
  match query.scope.filter (· ≠ []), query.query.filter (· ≠ []) with
  | some scope, _ => item.currentStateScope == some scope
  | none, some text =>
    let pattern := Pattern.ofLike ('%' :: Text.lower text ++ ['%'])
    pattern.matchesAll (Text.lower (item.currentStateScope.getD [])) ||
      pattern.matchesAll (Text.lower ((chunk.map (·.chunkText)).getD []))
  | none, none => true

def selects (query : CurrentStateQuery) (row : JoinedRow) : Bool :=
  let ((item, _), anchor) := row
  item.workspaceId == some query.workspaceId && query.asksFor item && query.matchesText row &&
    (item.isCurrent.isSome || item.csSupersedesContentId.isSome || anchor.isSome)

end CurrentStateQuery

/-- `ORDER BY current_state_scope, memory_type, canonical_rank, content_id`. -/
def rowOrder (a b : JoinedRow) : Bool :=
  orderBy (nullsLast Text.le) a.1.1.currentStateScope b.1.1.currentStateScope <|
  orderBy (nullsLast Text.le) (a.1.1.memoryType.map (·.label.toList))
    (b.1.1.memoryType.map (·.label.toList)) <|
  orderBy (nullsLast fun a b => a ≤ b) (a.2.map (·.canonicalRank)) (b.2.map (·.canonicalRank))
    (a.1.1.contentId ≤ b.1.1.contentId)

/-- The rows of the statement before its `LIMIT`. -/
def matchingRows (db : Database) (query : CurrentStateQuery) : List JoinedRow :=
  ((joinedRows db.contentItems db).filter query.selects).insertionSort fun a b => rowOrder a b

def CurrentStateQuery.rowLimit (query : CurrentStateQuery) : ℕ := max (query.limit * 4) query.limit

/-- `cs_<content>_<chunk>`, with the row's rank where it has no chunk. -/
inductive EvidenceId where
  | ofChunk (contentId : ContentId) (chunkId : ChunkId)
  | ofRank (contentId : ContentId) (rank : ℕ)
deriving DecidableEq

structure AnchorMetadata where
  stateStatus : Option StateStatus
  anchorSupersedesContentId : Option ContentId
  canonicalRank : Option ℕ
  stateReason : Option StateReason
deriving DecidableEq

structure CurrentStateRow where
  contentId : ContentId
  chunkId : Option ChunkId
  snippet : Text
  memoryType : Option MemoryType
  memorySubType : Option Text
  classifyConfidence : Option ℚ
  isCurrent : Option Bool
  currentStateScope : Option Text
  csSupersedesContentId : Option ContentId
  evidenceId : EvidenceId
  rank : ℕ
  scoreKind : String := "current_state_metadata"
  source : String := "current_state"
  metadata : AnchorMetadata
deriving DecidableEq

def numberedRow (row : JoinedRow) (idx : ℕ) : CurrentStateRow :=
  let ((item, chunk), anchor) := row
  { contentId := item.contentId, chunkId := chunk.map (·.chunkId),
    snippet := (chunk.map (·.chunkText)).getD [], memoryType := item.memoryType,
    memorySubType := item.memorySubType, classifyConfidence := item.classifyConfidence,
    isCurrent := item.isCurrent, currentStateScope := item.currentStateScope,
    csSupersedesContentId := item.csSupersedesContentId,
    evidenceId := match chunk with
      | some chunk => .ofChunk item.contentId chunk.chunkId
      | none => .ofRank item.contentId idx
    rank := idx,
    metadata := ⟨anchor.map (·.stateStatus), anchor.bind (·.supersedesContentId),
      anchor.map (·.canonicalRank), anchor.bind (·.stateReason)⟩ }

def numberRows (rows : List JoinedRow) : List CurrentStateRow :=
  (rows.zipIdx 1).map fun row => numberedRow row.1 row.2

def fetchCurrentStateRows (db : Database) (query : CurrentStateQuery) :
    Except DbError (List CurrentStateRow) :=
  if query.textParameters.all storable then
    .ok (numberRows ((matchingRows db query).take query.rowLimit))
  else .error .invalidText

/-! ## The sections -/

structure ContextPackEvidenceRef where
  evidenceId : EvidenceId
  contentId : ContentId
  chunkId : Option ChunkId
  rank : Option ℕ
  snippet : Text
  scoreKind : Option String
  memoryType : Option MemoryType
  memorySubType : Option Text
  classifyConfidence : Option ℚ
  isCurrent : Option Bool
  currentStateScope : Option Text
  csSupersedesContentId : Option ContentId
  role : Option String
  source : Option String
  metadata : Option AnchorMetadata
deriving DecidableEq

def evidenceFromItem (row : CurrentStateRow) (role : Option String) : ContextPackEvidenceRef :=
  { evidenceId := row.evidenceId, contentId := row.contentId, chunkId := row.chunkId,
    rank := some row.rank, snippet := row.snippet, scoreKind := some row.scoreKind,
    memoryType := row.memoryType, memorySubType := row.memorySubType.filter (· ≠ []),
    classifyConfidence := row.classifyConfidence, isCurrent := row.isCurrent,
    currentStateScope := row.currentStateScope.filter (· ≠ []),
    csSupersedesContentId := row.csSupersedesContentId, role, source := some row.source,
    metadata := some row.metadata }

namespace ContextPackEvidenceRef

def dedupeKey (ref : ContextPackEvidenceRef) :
    ContentId × Option ChunkId × Option String × EvidenceId :=
  (ref.contentId, ref.chunkId, ref.role, ref.evidenceId)

def isSignal (ref : ContextPackEvidenceRef) : Bool := ref.isCurrent == some true

/-- The branch after the one of the signals. -/
def isStale (ref : ContextPackEvidenceRef) : Bool :=
  !ref.isSignal && (ref.isCurrent == some false || ref.csSupersedesContentId.isSome)

end ContextPackEvidenceRef

def dedupeRefs (refs : List ContextPackEvidenceRef) : List ContextPackEvidenceRef :=
  distinctOn (·.dedupeKey) refs

/-- A missing text sorts as a tilde. -/
def noneLast (value : Option Text) : Text := value.getD ['~']

/-- The order of `_stale_sort_key`, which both sections share but for the rank. -/
def sectionOrder (a b : ContextPackEvidenceRef) (last : Bool) : Bool :=
  orderBy Text.le (noneLast a.currentStateScope) (noneLast b.currentStateScope) <|
  orderBy Text.le (noneLast (a.memoryType.map (·.label.toList)))
    (noneLast (b.memoryType.map (·.label.toList))) last

def staleOrder (a b : ContextPackEvidenceRef) : Bool :=
  sectionOrder a b (a.contentId ≤ b.contentId)

/-- The rank of `_current_sort_key`. -/
def ContextPackEvidenceRef.canonicalRank (ref : ContextPackEvidenceRef) : ℕ :=
  (ref.metadata.bind (·.canonicalRank)).getD 1000000

def currentOrder (a b : ContextPackEvidenceRef) : Bool :=
  sectionOrder a b <| orderBy (fun a b => a ≤ b) a.canonicalRank b.canonicalRank <|
    a.contentId ≤ b.contentId

def currentRefs (rows : List CurrentStateRow) : List ContextPackEvidenceRef :=
  (dedupeRefs ((rows.map (evidenceFromItem · (some "current_state"))).filter (·.isSignal))
    ).insertionSort fun a b => currentOrder a b

def staleRefs (rows : List CurrentStateRow) : List ContextPackEvidenceRef :=
  (dedupeRefs ((rows.map (evidenceFromItem · (some "current_state"))).filter (·.isStale))
    ).insertionSort fun a b => staleOrder a b

/-- The part of a context pack that the current state fills. -/
structure CurrentStateSections where
  currentStateSignals : List ContextPackEvidenceRef
  staleOrSupersededItems : List ContextPackEvidenceRef
deriving DecidableEq

def currentStateSections (limit : ℕ) (rows : List CurrentStateRow) : CurrentStateSections :=
  ⟨(currentRefs rows).take limit, (staleRefs rows).take limit⟩

def ContextPackBuildRequest.currentStateQuery (request : ContextPackBuildRequest)
    (workspaceId : WorkspaceId) : CurrentStateQuery :=
  { workspaceId, query := request.query, scope := request.scope,
    memoryTypes := request.resolvedMemoryTypes, limit := request.limit }

/-- The two sections of `build_context_pack_for_request` for a validated request. -/
def currentStateForRequest (db : Database) (request : ContextPackBuildRequest)
    (workspaceId : WorkspaceId) : Except DbError CurrentStateSections :=
  if request.includeCurrentState then
    (fetchCurrentStateRows db (request.currentStateQuery workspaceId)).map
      (currentStateSections request.limit)
  else .ok (currentStateSections request.limit [])

end MemoryLab.ContextPack

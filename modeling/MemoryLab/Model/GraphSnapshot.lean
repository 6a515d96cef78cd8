import Mathlib.Data.Char
import Mathlib.Data.List.Lex
import MemoryLab.Library.Rows
import MemoryLab.Library.Uuid
import MemoryLab.Model.HubEdges

/-! # The snapshot of the graph

Every table is read whole, brought into an order and turned into records. -/

namespace MemoryLab.GraphSnapshot

open Library Library.Rows HubEdges

/-! ## The tables as the reader selects them -/

structure ContentRow extends ContentItem where
  updatedAt : Timestamp := 0
  nodeType : Text := "raw_note".toList
  retrievalCount : Option ℤ := some 0
  lastRetrievedAt : Option Timestamp := none
deriving DecidableEq

structure ChunkRow extends ContentChunkRow where
  wordCount : Option ℤ := none
  createdAt : Option Timestamp := none
deriving DecidableEq

structure HubRow extends Hub where
  workspaceId : Option Text := none
  type : Text := "topic".toList
  description : Option Text := none
  ownerDefined : Bool := true
deriving DecidableEq

structure GraphEdge where
  fromNode : Text
  relation : Text
  toNode : Text
  sourceId : Text
  confidence : Option ℚ := some (9 / 10)
  workspaceId : Option WorkspaceId := none
  scope : Text := "workspace".toList
  createdAt : Option Timestamp := none
  updatedAt : Option Timestamp := none
deriving DecidableEq

structure Alias where
  term : Text
  canonical : Text
  confidence : ℚ := 9 / 10
  status : Text := "approved".toList
  source : Text := "manual".toList
  workspaceId : Option WorkspaceId := none
  scope : Text := "workspace".toList
deriving DecidableEq

structure AliasCandidate where
  termA : Text
  termB : Text
  score : Option ℚ := none
  source : Option Text := none
  status : Text := "pending".toList
  workspaceId : Option WorkspaceId := none
  scope : Text := "workspace".toList
deriving DecidableEq

structure GraphTables where
  contentItems : List ContentRow := []
  contentChunks : List ChunkRow := []
  hubs : List HubRow := []
  hubContent : List HubContentRow := []
  edges : List GraphEdge := []
  hubEdges : List HubEdge := []
  aliases : List Alias := []
  aliasCandidates : List AliasCandidate := []
deriving DecidableEq

/-! ## Records -/

structure ContentRecord where
  contentId : ContentId
  workspaceId : Option WorkspaceId
  createdAt : Timestamp
  updatedAt : Timestamp
  nodeType : Text
  quickSummary : Option Text
  qualityScore : Option ℚ
  compositeScore : Option ℚ
  tier : Option Tier
  retrievalCount : Option ℤ
  lastRetrievedAt : Option Timestamp
  memoryType : Option MemoryType
  isCurrent : Option Bool
  currentStateScope : Option Text
  itemEmbeddingState : String
deriving DecidableEq

structure ChunkEmbeddingState where
  chunkId : ChunkId
  contentId : ContentId
  workspaceId : Option WorkspaceId
  chunkIndex : ℕ
  wordCount : Option ℤ
  hasText : Bool
  hasEmbedding : Bool
  createdAt : Option Timestamp
  derivedIndexingStatus : String
deriving DecidableEq

structure HubRecord where
  hubId : HubId
  workspaceUuid : Option WorkspaceId
  legacyWorkspaceId : Option Text
  title : Text
  type : Text
  description : Option Text
  aliases : List Text
  relatedTerms : List Text
  status : String
  ownerDefined : Bool
deriving DecidableEq

structure HubContentLink where
  hubId : HubId
  contentId : ContentId
  workspaceId : Option WorkspaceId
  linkedAt : Timestamp
deriving DecidableEq

structure GraphEdgeRecord where
  fromNode : Text
  relation : Text
  toNode : Text
  sourceId : Text
  confidence : Option ℚ
  workspaceId : Option WorkspaceId
  scope : Text
  createdAt : Option Timestamp
  updatedAt : Option Timestamp
deriving DecidableEq

structure HubEdgeRecord where
  id : EdgeId
  sourceHubId : HubId
  targetHubId : HubId
  type : EdgeType
  status : EdgeStatus
  origin : EdgeOrigin
  confidence : Option ℚ
  weight : Option ℚ
  workspaceId : Option WorkspaceId
  createdBy : Option Text
  archivedAt : Option Timestamp
deriving DecidableEq

structure AliasRecord where
  term : Text
  canonical : Text
  confidence : ℚ
  status : Text
  source : Text
  workspaceId : Option WorkspaceId
  scope : Text
deriving DecidableEq

structure AliasCandidateRecord where
  termA : Text
  termB : Text
  score : ℚ
  source : Option Text
  status : Text
  workspaceId : Option WorkspaceId
  scope : Text
  requiresHumanReview : Bool
deriving DecidableEq

structure RetrievalObservation where
  contentId : ContentId
  observedAt : Option Timestamp
  strength : String
  limitation : String
deriving DecidableEq

structure RepositoryGraphSnapshot where
  workspaceId : WorkspaceId
  generatedAt : Timestamp
  contentRecords : List ContentRecord
  chunkEmbeddingStates : List ChunkEmbeddingState
  hubs : List HubRecord
  hubContentLinks : List HubContentLink
  graphEdges : List GraphEdgeRecord
  hubEdges : List HubEdgeRecord
  aliasRecords : List AliasRecord
  aliasCandidates : List AliasCandidateRecord
  retrievalObservations : List RetrievalObservation
  limitations : List String
  warnings : List String
  unknownFields : List String
deriving DecidableEq

/-! ## From rows to records -/

/-- The text of an identifier that is drawn as a number. -/
def idText (id : ℕ) : Text := (Uuid.mk (BitVec.ofNat 128 id)).text

def contentRecord (row : ContentRow) : ContentRecord :=
  { contentId := row.contentId, workspaceId := row.workspaceId, createdAt := row.createdAt,
    updatedAt := row.updatedAt, nodeType := row.nodeType, quickSummary := row.quickSummary,
    qualityScore := row.scores.map (·.quality), compositeScore := row.scores.map (·.composite),
    tier := row.tier, retrievalCount := row.retrievalCount, lastRetrievedAt := row.lastRetrievedAt,
    memoryType := row.memoryType, isCurrent := row.isCurrent,
    currentStateScope := row.currentStateScope, itemEmbeddingState := "unknown" }

def contentRecords (rows : List ContentRow) : List ContentRecord :=
  (sortOn (fun row : ContentRow => idText row.contentId) rows).map contentRecord

def chunkState (row : ChunkRow) : ChunkEmbeddingState :=
  let hasText := row.chunkText.strip ≠ []
  let hasEmbedding := row.embedding.isSome
  { chunkId := row.chunkId, contentId := row.contentId, workspaceId := row.workspaceId,
    chunkIndex := row.chunkIndex, wordCount := row.wordCount, hasText, hasEmbedding,
    createdAt := row.createdAt,
    derivedIndexingStatus :=
      if hasText ∧ hasEmbedding then "searchable"
      else if ¬ hasText then "blocked_empty" else "unknown" }

def chunkStates (rows : List ChunkRow) : List ChunkEmbeddingState :=
  (sortOn (fun row : ChunkRow =>
      [idText row.contentId, (toString row.chunkIndex).toList, idText row.chunkId])
    rows).map chunkState

def hubRecord (row : HubRow) : HubRecord :=
  { hubId := row.hubId, workspaceUuid := row.workspaceUuid, legacyWorkspaceId := row.workspaceId,
    title := row.title, type := row.type, description := row.description, aliases := row.aliases,
    relatedTerms := row.relatedTerms, status := if row.active then "active" else "archived",
    ownerDefined := row.ownerDefined }

def hubRecords (rows : List HubRow) : List HubRecord :=
  (sortOn (fun row : HubRow => row.hubId.text) rows).map hubRecord

/-- The links of one hub, or all of them. -/
def isLinkOf (hubId : Option HubId) (row : HubContentRow) : Bool :=
  hubId.all fun hubId => row.hubId.text == hubId.text

def hubLink (row : HubContentRow) : HubContentLink :=
  { hubId := row.hubId, contentId := row.contentId, workspaceId := row.workspaceId,
    linkedAt := row.linkedAt }

def hubLinks (rows : List HubContentRow) (hubId : Option HubId) : List HubContentLink :=
  ((sortOn (fun row : HubContentRow => [row.hubId.text, idText row.contentId]) rows).filter
    (isLinkOf hubId)).map hubLink

def graphEdge (row : GraphEdge) : GraphEdgeRecord :=
  { fromNode := row.fromNode, relation := row.relation, toNode := row.toNode,
    sourceId := row.sourceId, confidence := row.confidence, workspaceId := row.workspaceId,
    scope := row.scope, createdAt := row.createdAt, updatedAt := row.updatedAt }

def graphEdges (rows : List GraphEdge) : List GraphEdgeRecord :=
  (sortOn (fun row : GraphEdge => [row.fromNode, row.toNode, row.relation]) rows).map graphEdge

def isShownEdge (row : HubEdge) : Bool :=
  isActive row && row.status != .rejected && row.status != .archived

def hubEdge (row : HubEdge) : HubEdgeRecord :=
  { id := row.id, sourceHubId := row.sourceHubId, targetHubId := row.targetHubId, type := row.type,
    status := row.status, origin := row.origin, confidence := row.confidence, weight := row.weight,
    workspaceId := row.workspaceId, createdBy := row.createdBy, archivedAt := row.archivedAt }

def hubEdges (rows : List HubEdge) : List HubEdgeRecord :=
  ((sortOn (fun row : HubEdge =>
    [row.sourceHubId.text, row.targetHubId.text, (EdgeType.name row.type).toList]) rows).filter
      isShownEdge).map hubEdge

def aliasRecord (row : Alias) : AliasRecord :=
  { term := row.term, canonical := row.canonical, confidence := row.confidence,
    status := row.status, source := row.source, workspaceId := row.workspaceId,
    scope := row.scope }

def aliasRecords (rows : List Alias) : List AliasRecord :=
  (sortOn (fun row : Alias => [row.term, row.canonical]) rows).map aliasRecord

def isPending (row : AliasCandidate) : Bool := row.status == "pending".toList

/-- `float(None)` raises on a candidate without a score. -/
def aliasCandidate (row : AliasCandidate) : Option AliasCandidateRecord :=
  row.score.map fun score =>
    { termA := row.termA, termB := row.termB, score, source := row.source, status := row.status,
      workspaceId := row.workspaceId, scope := row.scope, requiresHumanReview := true }

def aliasCandidates (rows : List AliasCandidate) : Option (List AliasCandidateRecord) :=
  ((sortOn (fun row : AliasCandidate => [row.termA, row.termB]) rows).filter
    isPending).mapM aliasCandidate

def retrievalObservations (records : List ContentRecord) : List RetrievalObservation :=
  (records.filter fun record => record.retrievalCount.any (0 < ·)).map fun record =>
    { contentId := record.contentId, observedAt := record.lastRetrievedAt,
      strength := "weak_content_counter",
      limitation := "content-level retrieval counter is not hub-specific" }

/-! ## Reading a snapshot -/

structure SnapshotOptions where
  hubId : Option HubId := none
  includeAliasCandidates : Bool := true
deriving DecidableEq

def warnings (records : List ContentRecord) (chunks : List ChunkEmbeddingState) : List String :=
  (if chunks.any fun chunk => chunk.hasText && !chunk.hasEmbedding then
    ["chunk_embedding_missing_or_null"] else []) ++
  (if records.any fun record => record.contentId ∉ chunks.map (·.contentId) then
    ["content_has_no_chunk_index_state"] else [])

/-- No table is restricted to the workspace, which only names the snapshot. -/
def readSnapshot (db : GraphTables) (workspaceId : WorkspaceId) (options : SnapshotOptions)
    (now : Timestamp) : Option RepositoryGraphSnapshot :=
  let records := contentRecords db.contentItems
  let chunks := chunkStates db.contentChunks
  let candidates :=
    if options.includeAliasCandidates then aliasCandidates db.aliasCandidates else some []
  candidates.map fun candidates =>
    { workspaceId, generatedAt := now, contentRecords := records, chunkEmbeddingStates := chunks,
      hubs := hubRecords db.hubs, hubContentLinks := hubLinks db.hubContent options.hubId,
      graphEdges := graphEdges db.edges, hubEdges := hubEdges db.hubEdges,
      aliasRecords := aliasRecords db.aliases, aliasCandidates := candidates,
      retrievalObservations := retrievalObservations records,
      limitations := ["cb_query_log_has_no_verified_result_content_id_mapping"],
      warnings := warnings records chunks,
      unknownFields := ["content_items.item_embedding_state",
        "hub_recall.retrieval_observed_without_explicit_result_content_ids"] }

/-! ## The endpoint -/

def edgeIsInferred (origin : EdgeOrigin) : Bool :=
  origin == .inferredApproved || origin == .aiSuggested

def filterSnapshotEdges (edges : List HubEdgeRecord) (includeInferred includeCurated : Bool) :
    List HubEdgeRecord :=
  edges.filter fun edge =>
    (edgeIsInferred edge.origin && includeInferred) ||
      (!edgeIsInferred edge.origin && includeCurated)

structure GraphStats where
  nodeCount : ℕ
  edgeCount : ℕ
  curatedEdgeCount : ℕ
  inferredEdgeCount : ℕ
  contentCount : ℕ
  hubContentLinkCount : ℕ
deriving DecidableEq

structure GraphResponse where
  nodes : List HubRecord
  edges : List HubEdgeRecord
  stats : GraphStats
  includeInferred : Bool
  includeCurated : Bool
  schemaVersion : String
  workspaceId : WorkspaceId
  limitations : List String
  warnings : List String
deriving DecidableEq

def getGraphSnapshot (db : GraphTables) (workspaceId : WorkspaceId)
    (includeInferred includeCurated : Bool) (now : Timestamp) : Option GraphResponse :=
  (readSnapshot db workspaceId {} now).map fun snapshot =>
    let edges := filterSnapshotEdges snapshot.hubEdges includeInferred includeCurated
    let inferredCount := (edges.filter fun edge => edgeIsInferred edge.origin).length
    { nodes := snapshot.hubs, edges,
      stats :=
        { nodeCount := snapshot.hubs.length, edgeCount := edges.length,
          curatedEdgeCount := edges.length - inferredCount, inferredEdgeCount := inferredCount,
          contentCount := snapshot.contentRecords.length,
          hubContentLinkCount := snapshot.hubContentLinks.length },
      includeInferred, includeCurated, schemaVersion := "public-m7-v1", workspaceId,
      limitations := snapshot.limitations, warnings := snapshot.warnings }

end MemoryLab.GraphSnapshot

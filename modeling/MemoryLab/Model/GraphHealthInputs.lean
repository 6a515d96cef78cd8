import Mathlib.Data.Char
import Mathlib.Data.List.Lex
import MemoryLab.Model.HubRecall

/-! # The inputs of the graph health

Rows have the columns that the inputs are made of. Identifiers are the texts that the reader makes
of them, and a column that a row may lack is an option. -/

namespace MemoryLab.GraphHealthInputs

open Library Library.Rows
open EdgeInference (sorted)
open HubRecall (IndexingStatus Observations)

/-! ## Rows -/

structure ContentRow where
  contentId : Text
deriving DecidableEq

structure ChunkRow where
  contentId : Text
  chunkIndex : Text := []
  chunkId : Text := []
  chunkText : Option Text := none
  hasText : Bool := false
  embedding : Bool := false
  hasEmbedding : Bool := false
deriving DecidableEq

/-- A column of texts. -/
inductive TextColumn where
  | null
  | text (value : Text)
  | array (items : List Text)
deriving DecidableEq

def listOfStr : TextColumn → List Text
  | .null => []
  | .text value => [value]
  | .array items => items

structure HubRow where
  hubId : Text
  title : Option Text
  aliases : TextColumn := .null
  relatedTerms : TextColumn := .null
deriving DecidableEq

structure HubContentRow where
  hubId : Text
  contentId : Text
deriving DecidableEq

structure EdgeRow where
  fromNode : Text
  relation : Text
  toNode : Text
deriving DecidableEq

structure HubEdgeRow where
  sourceHubId : Text
  targetHubId : Text
  type : Text
  status : Text
  archived : Bool := false
deriving DecidableEq

structure AliasRow where
  term : Text
  canonical : Text
deriving DecidableEq

/-- A score may be missing, or there and `None`. -/
structure AliasCandidateRow where
  termA : Text
  termB : Text
  status : Text
  score : Option (Option ℚ) := none
deriving DecidableEq

structure RowSets where
  contentItems : List ContentRow := []
  contentChunks : List ChunkRow := []
  hubs : List HubRow := []
  hubContent : List HubContentRow := []
  edges : List EdgeRow := []
  hubEdges : List HubEdgeRow := []
  aliases : List AliasRow := []
  aliasCandidates : List AliasCandidateRow := []
deriving DecidableEq

/-! ## The snapshot -/

structure ContentRecord where
  contentId : Text
  itemEmbeddingState : Text
deriving DecidableEq

structure ChunkEmbeddingState where
  contentId : Text
  hasText : Bool
  hasEmbedding : Bool
deriving DecidableEq

structure HubRecord where
  title : Option Text
  aliases : List Text
  relatedTerms : List Text
deriving DecidableEq

structure Snapshot where
  contentRecords : List ContentRecord
  chunkEmbeddingStates : List ChunkEmbeddingState
  hubs : List HubRecord
  hubContentLinks : List HubContentRow
  graphEdges : List EdgeRow
  hubEdges : List HubEdgeRow
  aliasRecords : List AliasRow
  aliasCandidates : List AliasCandidateRow
deriving DecidableEq

def contentRecords (rows : List ContentRow) : List ContentRecord :=
  (sortOn (·.contentId) rows).map fun row =>
    { contentId := row.contentId, itemEmbeddingState := "unknown".toList }

def chunkState (row : ChunkRow) : ChunkEmbeddingState :=
  { contentId := row.contentId
    hasText := match row.chunkText with
      | some text => text.strip ≠ []
      | none => row.hasText
    hasEmbedding := row.embedding || row.hasEmbedding }

def chunkStates (rows : List ChunkRow) : List ChunkEmbeddingState :=
  (sortOn (fun row => [row.contentId, row.chunkIndex, row.chunkId]) rows).map chunkState

def hubRecord (row : HubRow) : HubRecord :=
  { title := row.title, aliases := listOfStr row.aliases,
    relatedTerms := listOfStr row.relatedTerms }

def hubRecords (rows : List HubRow) : List HubRecord := (sortOn (·.hubId) rows).map hubRecord

def hubLinks (rows : List HubContentRow) (hubId : Option Text) : List HubContentRow :=
  (sortOn (fun row => [row.hubId, row.contentId]) rows).filter fun row =>
    hubId.all (row.hubId == ·)

def graphEdges (rows : List EdgeRow) : List EdgeRow :=
  sortOn (fun row => [row.fromNode, row.toNode, row.relation]) rows

def isShown (row : HubEdgeRow) : Bool :=
  !row.archived && row.status ∉ ["rejected".toList, "archived".toList]

def hubEdges (rows : List HubEdgeRow) : List HubEdgeRow :=
  (sortOn (fun row => [row.sourceHubId, row.targetHubId, row.type]) rows).filter isShown

def aliasRecords (rows : List AliasRow) : List AliasRow :=
  sortOn (fun row => [row.term, row.canonical]) rows

def isPending (row : AliasCandidateRow) : Bool := row.status = "pending".toList

/-- `float(None)` raises. -/
def aliasCandidate (row : AliasCandidateRow) : Option AliasCandidateRow :=
  if row.score = some none then none else some row

def aliasCandidates (rows : List AliasCandidateRow) : Option (List AliasCandidateRow) :=
  ((sortOn (fun row => [row.termA, row.termB]) rows).filter isPending).mapM aliasCandidate

structure SnapshotOptions where
  hubId : Option Text := none
  includeAliasCandidates : Bool := true
deriving DecidableEq

def readSnapshot (rows : RowSets) (options : SnapshotOptions) : Option Snapshot :=
  let candidates :=
    if options.includeAliasCandidates then aliasCandidates rows.aliasCandidates else some []
  candidates.map fun candidates =>
    { contentRecords := contentRecords rows.contentItems
      chunkEmbeddingStates := chunkStates rows.contentChunks
      hubs := hubRecords rows.hubs
      hubContentLinks := hubLinks rows.hubContent options.hubId
      graphEdges := graphEdges rows.edges
      hubEdges := hubEdges rows.hubEdges
      aliasRecords := aliasRecords rows.aliases
      aliasCandidates := candidates }

/-! ## The inputs -/

structure HealthItem where
  contentId : Text
  saved : Bool
  searchable : Bool
  hubLinked : Bool
  graphReachable : Bool
  retrievalObserved : Option Bool
  indexingStatus : Text
  embeddingPresent : Option Bool
  itemEmbeddingState : Text
deriving DecidableEq

structure HealthInputs where
  nodes : List Text
  edges : List (Text × Text)
  contentItems : List HealthItem
  hubLinks : Dict Text (List Text)
  retrievalObservations : Observations
  aliasLabels : List Text
deriving DecidableEq

/-- `dict.setdefault(key, []).append(value)`. -/
def appendTo {β : Type} (key : Text) (value : β) (dict : Dict Text (List β)) :
    Dict Text (List β) :=
  dict.modify key fun values => values.getD [] ++ [value]

def chunksByContent (chunks : List ChunkEmbeddingState) : Dict Text (List ChunkEmbeddingState) :=
  chunks.foldl (fun dict chunk => appendTo chunk.contentId chunk dict) []

def contentsByHub (links : List HubContentRow) : Dict Text (List Text) :=
  links.foldl (fun dict link => appendTo link.hubId link.contentId dict) []

/-- A dictionary of lists in the order of its keys, with its lists in order. -/
def sortedDict (dict : Dict Text (List Text)) : Dict Text (List Text) :=
  (sorted (dict.map (·.1))).map fun key => (key, sorted ((dict.get? key).getD []))

def hubLabels (hub : HubRecord) : List Text :=
  (hub.title.toList ++ hub.aliases ++ hub.relatedTerms).filter (· ≠ [])

/-! ### The reader -/

/-- The labels are read anew, with the candidates. -/
def readAliasCandidateInputs (rows : RowSets) : Option (List Text) :=
  (readSnapshot rows {}).map fun snapshot =>
    sorted (snapshot.hubs.flatMap hubLabels ++ snapshot.aliasCandidates.map (·.termA) ++
      snapshot.aliasCandidates.map (·.termB) ++ snapshot.aliasRecords.map (·.term) ++
      snapshot.aliasRecords.map (·.canonical)).dedup

def readerNodes (snapshot : Snapshot) : List Text :=
  (snapshot.graphEdges.map (·.fromNode) ++ snapshot.graphEdges.map (·.toNode) ++
    snapshot.hubEdges.map (·.sourceHubId) ++ snapshot.hubEdges.map (·.targetHubId)).dedup

def edgesOf (snapshot : Snapshot) : List (Text × Text) :=
  snapshot.graphEdges.map (fun edge => (edge.fromNode, edge.toNode)) ++
    snapshot.hubEdges.map fun edge => (edge.sourceHubId, edge.targetHubId)

def readerItem (snapshot : Snapshot) (record : ContentRecord) : HealthItem :=
  let chunks := ((chunksByContent snapshot.chunkEmbeddingStates).get? record.contentId).getD []
  let hasAnyText := chunks.any (·.hasText)
  let hasAnyEmbedding := chunks.any (·.hasEmbedding)
  let searchable := hasAnyText && hasAnyEmbedding
  { contentId := record.contentId
    saved := true
    searchable
    hubLinked := (contentsByHub snapshot.hubContentLinks).any fun entry =>
      record.contentId ∈ entry.2
    graphReachable := record.contentId ∈ readerNodes snapshot
    retrievalObserved := none
    indexingStatus :=
      if searchable then "searchable".toList
      else if chunks ≠ [] ∧ hasAnyText = false then "blocked_empty".toList
      else "unknown".toList
    embeddingPresent := if chunks ≠ [] then some hasAnyEmbedding else none
    itemEmbeddingState := record.itemEmbeddingState }

/-- `_graph_health_inputs_from_snapshot`, for a snapshot that was read from the repository. -/
def graphHealthInputsFromSnapshot (rows : RowSets) (snapshot : Snapshot) :
    Option HealthInputs :=
  (readAliasCandidateInputs rows).map fun aliasLabels =>
    { nodes := sorted (readerNodes snapshot)
      edges := edgesOf snapshot
      contentItems := snapshot.contentRecords.map (readerItem snapshot)
      hubLinks := sortedDict (contentsByHub snapshot.hubContentLinks)
      retrievalObservations := []
      aliasLabels }

/-! ### The service -/

/-- Empty ends of edges are no nodes. -/
def serviceNodes (edges : List (Text × Text)) : List Text :=
  edges.foldl (fun nodes edge =>
    let nodes := if edge.1 ≠ [] then nodes.insert edge.1 else nodes
    if edge.2 ≠ [] then nodes.insert edge.2 else nodes) []

def serviceItem (snapshot : Snapshot) (record : ContentRecord) : HealthItem :=
  let recordChunks :=
    ((chunksByContent snapshot.chunkEmbeddingStates).get? record.contentId).getD []
  let hasAnyText := recordChunks.any (·.hasText)
  let hasAnyEmbedding := recordChunks.any (·.hasEmbedding)
  let searchable := hasAnyText && hasAnyEmbedding
  let indexingStatus : IndexingStatus :=
    if searchable then .searchable
    else if recordChunks ≠ [] ∧ hasAnyText = false then .blockedEmpty
    else .unknown
  { contentId := record.contentId
    saved := true
    searchable
    hubLinked := record.contentId ∈ (contentsByHub snapshot.hubContentLinks).flatMap (·.2)
    graphReachable := record.contentId ∈ serviceNodes (edgesOf snapshot)
    retrievalObserved := none
    indexingStatus := indexingStatus.value
    embeddingPresent := if recordChunks ≠ [] then some hasAnyEmbedding else none
    itemEmbeddingState := record.itemEmbeddingState }

def serviceLabels (snapshot : Snapshot) : List Text :=
  sorted (snapshot.hubs.flatMap hubLabels ++
    (snapshot.aliasRecords.map (·.term)).filter (· ≠ []) ++
    (snapshot.aliasRecords.map (·.canonical)).filter (· ≠ []) ++
    (snapshot.aliasCandidates.map (·.termA)).filter (· ≠ []) ++
    (snapshot.aliasCandidates.map (·.termB)).filter (· ≠ [])).dedup

def repositorySnapshotToGraphHealthInputs (snapshot : Snapshot) : HealthInputs :=
  { nodes := sorted (serviceNodes (edgesOf snapshot))
    edges := edgesOf snapshot
    contentItems := (sortOn (·.contentId) snapshot.contentRecords).map (serviceItem snapshot)
    hubLinks := sortedDict (contentsByHub snapshot.hubContentLinks)
    retrievalObservations := []
    aliasLabels := serviceLabels snapshot }

end MemoryLab.GraphHealthInputs

import MemoryLab.Library.Regex
import MemoryLab.Model.Promotion
import MemoryLab.Model.HubTermGraph

/-! # Scoped retrieval

Embeddings, the order of sets and the composite score come from the environment. -/

namespace MemoryLab.Retrieval

open Library Library.Rows

/-! ## Rows -/

inductive RetrievalPath where
  | contentChunkWorkspaceScoped
  | hubLinkWorkspaceScoped
  | pgvectorKnn
  | graphRescueZeroResult
  | graphRescueNonzero
  | deterministicFallback
  | deterministicDb
deriving DecidableEq

def RetrievalPath.label : RetrievalPath → String
  | contentChunkWorkspaceScoped => "content_chunk_workspace_scoped"
  | hubLinkWorkspaceScoped => "hub_link_workspace_scoped"
  | pgvectorKnn => "pgvector_knn"
  | graphRescueZeroResult => "graph_rescue_zero_result_workspace_scoped"
  | graphRescueNonzero => "graph_rescue_nonzero_workspace_scoped"
  | deterministicFallback => "deterministic_fallback"
  | deterministicDb => "deterministic_db"

/-- The query, the graph terms and the content, in this order. -/
structure KnowledgePath where
  query : Text
  graph : List Text
  content : ContentId
deriving DecidableEq

structure RetrievalRow where
  contentId : ContentId
  chunkId : Option ChunkId
  workspaceId : Option WorkspaceId
  score : ℚ
  text : Text
  distance : Option ℚ := none
  retrievalPath : RetrievalPath
  retrievalMode : Option String := none
  embeddingStatus : Option String := none
  hubMatch : Option HubId := none
  hubTitle : Option Text := none
  hubAliases : List Text := []
  hubRelatedTerms : List Text := []
  sourceQueries : List Text := []
  graphBoosted : Bool := false
  graphMatch : List Text := []
  graphRescue : Bool := false
  knowledgePath : Option KnowledgePath := none
deriving DecidableEq

/-! ## Parameters -/

structure EmbeddingResponse where
  vector : List ℚ := []
  dimensions : ℕ := 0
  degraded : Bool := false
  failureReason : Option String := none
deriving DecidableEq

structure EmbeddingBackend where
  isConfigured : Bool
  embedText : Text → EmbeddingResponse

/-- A row of `cb_edges`. -/
structure TermEdge where
  fromNode : Text
  toNode : Text
  confidence : ℚ
  workspaceId : Option WorkspaceId
deriving DecidableEq

/-- What the adapter finds outside the tables of the model: `~` and `<=>` of the database, the
order in which a set is listed, and the score of the composite ranker with its boosts. -/
structure Environment where
  termEdges : List TermEdge := []
  chunkCreatedAt : ChunkId → Timestamp
  distance : List ℚ → List ℚ → ℚ
  shortAliasMatches : Text → Text → Bool
  setOrder : Finset Text → List Text
  compositeScore : RetrievalRow → Text → ℚ
  pgvectorRetrievalEnabled : Bool := false
  embeddingBackend : EmbeddingBackend

structure SearchScope where
  workspaceId : Option WorkspaceId := none
  memoryTypes : Option (List Text) := none
  allowedHubs : Option (List Text) := none
deriving DecidableEq

structure SearchOptions where
  maxHops : ℕ := 1
  minConfidence : ℚ := 7 / 10
  graphBoost : ℚ := 1 / 10
  consultHubGraph : Bool := false
deriving DecidableEq

namespace SearchScope

/-- `if memory_types: … memory_type = ANY(…)`. -/
def asksFor (scope : SearchScope) (item : ContentItem) : Bool :=
  (scope.memoryTypes.filter (· ≠ [])).all fun types =>
    item.memoryType.any (·.label.toList ∈ types)

def ownedBy (scope : SearchScope) (item : ContentItem) : Bool :=
  scope.workspaceId.all fun workspaceId => item.workspaceId == some workspaceId

/-- The identifiers of `if allowed_hubs: … hub_id = ANY(…)`, cast from their texts. -/
def hubIds (scope : SearchScope) : Except DbError (Option (List HubId)) :=
  match scope.allowedHubs.filter (· ≠ []) with
  | none => .ok none
  | some hubs => match hubs.mapM Uuid.parse with
    | some ids => .ok (some ids)
    | none => .error .invalidText

def storableTypes (scope : SearchScope) : Bool := (scope.memoryTypes.getD []).all storable

end SearchScope

def linkedToAny (db : Database) (hubIds : List HubId) (contentId : ContentId) : Bool :=
  db.hubContent.any fun link => link.hubId ∈ hubIds && link.contentId == contentId

section Adapter

variable (env : Environment) (db : Database)

/-! ## Lexical search -/

def queryTerms (query : Text) : List Text :=
  (((Text.split query).filter (3 ≤ ·.strip.length)).map (·.strip.lower)).take 8

/-- A chunk with its content item. -/
abbrev JoinedChunk := ContentChunkRow × ContentItem

/-- `content_chunks ch JOIN content_items c ON c.content_id = ch.content_id`. -/
def joinedChunks : List JoinedChunk :=
  db.contentChunks.flatMap fun chunk =>
    (db.contentItems.filter (hasContentId chunk.contentId)).map fun item => (chunk, item)

def inScope (scope : SearchScope) (hubIds : Option (List HubId)) (item : ContentItem) : Bool :=
  scope.ownedBy item && scope.asksFor item &&
    hubIds.all fun ids => linkedToAny db ids item.contentId

def matchesTerms (terms : List Text) (chunk : ContentChunkRow) : Bool :=
  terms.any fun term =>
    (Pattern.ofLike ('%' :: term ++ ['%'])).matchesAll (Text.lower chunk.chunkText)

/-- `ORDER BY ch.created_at DESC, ch.chunk_index ASC`. -/
def newestFirst (a b : ContentChunkRow) : Bool :=
  orderBy (fun a b => decide (b ≤ a)) (env.chunkCreatedAt a.chunkId) (env.chunkCreatedAt b.chunkId)
    (a.chunkIndex ≤ b.chunkIndex)

def lexicalRow (terms : List Text) (row : JoinedChunk) : RetrievalRow :=
  let (chunk, item) := row
  let matchCount := (terms.filter (· <:+: Text.lower chunk.chunkText)).length
  { contentId := item.contentId, chunkId := some chunk.chunkId, workspaceId := item.workspaceId
    score := 1 / 2 + min matchCount 5 / 10, text := chunk.chunkText
    retrievalPath := .contentChunkWorkspaceScoped }

/-- `_deterministic_vector_search`. -/
def deterministicVectorSearch (scope : SearchScope) (query : Text) :
    Except DbError (List RetrievalRow) :=
  let terms := queryTerms query
  if terms = [] then .ok []
  else if !(terms.all storable && scope.storableTypes) then .error .invalidText
  else do
    let hubIds ← scope.hubIds
    let rows := (joinedChunks db).filter fun row =>
      matchesTerms terms row.1 && inScope db scope hubIds row.2
    .ok (((rows.insertionSort fun a b => newestFirst env a.1 b.1).take 25).map (lexicalRow terms))

/-! ## Hub recall -/

def visibleHubs (workspaceId : Option WorkspaceId) : List Hub :=
  db.hubs.filter fun hub => hub.active && workspaceId.all fun workspaceId =>
    hub.workspaceUuid == some workspaceId || hub.workspaceUuid == none

/-- The statements of `match_query`, in the order in which they are tried. -/
def hubStages (q : Text) : List (Hub → Bool) :=
  [fun hub => hub.title.lower == q,
    fun hub => hub.aliases.any (·.lower == q),
    fun hub => hub.aliases.any fun a =>
      6 ≤ a.length && (Pattern.ofLike ('%' :: Text.lower a ++ ['%'])).matchesAll q,
    fun hub => hub.aliases.any fun a =>
      3 ≤ a.length && a.length ≤ 5 && env.shortAliasMatches a.lower q,
    fun hub => hub.relatedTerms.any (·.lower == q)]

def matchQuery (query : Text) (workspaceId : Option WorkspaceId) : Except DbError (Option Hub) :=
  let q := query.strip.lower
  if !storable q then .error .invalidText
  else .ok ((hubStages env q).findSome? fun stage => (visibleHubs db workspaceId).find? stage)

/-- `get_hub_content_ids` within a workspace. -/
def getHubContentIds (hubId : HubId) (workspaceId : WorkspaceId) : List ContentId :=
  (db.hubContent.filter fun link => link.hubId == hubId && link.workspaceId == some workspaceId
    ).flatMap fun link =>
      (db.contentItems.filter fun item =>
        hasContentId link.contentId item && item.workspaceId == some workspaceId).map fun _ =>
          link.contentId

def chunkOf (item : ContentItem) (chunk : ContentChunkRow) : Bool :=
  chunk.contentId == item.contentId && chunk.workspaceId.isSome &&
    chunk.workspaceId == item.workspaceId

/-- `ORDER BY ch.created_at DESC NULLS LAST, ch.chunk_index ASC NULLS LAST`. -/
def hubRowOrder (a b : ContentItem × Option ContentChunkRow) : Bool :=
  orderBy (nullsLast fun a b => decide (b ≤ a)) (a.2.map (env.chunkCreatedAt ·.chunkId))
    (b.2.map (env.chunkCreatedAt ·.chunkId)) <|
  nullsLast (fun a b => decide (a ≤ b)) (a.2.map (·.chunkIndex)) (b.2.map (·.chunkIndex))

def hubRow (hub : Hub) (row : ContentItem × Option ContentChunkRow) : RetrievalRow :=
  let (item, chunk) := row
  { contentId := item.contentId, chunkId := chunk.map (·.chunkId), workspaceId := item.workspaceId
    score := 19 / 20, text := (chunk.map (·.chunkText)).getD []
    hubMatch := some hub.hubId, hubTitle := some hub.title
    hubAliases := hub.aliases, hubRelatedTerms := hub.relatedTerms
    retrievalPath := .hubLinkWorkspaceScoped }

/-- The matched hub is one of the allowed ones, spelled alike but for the case. -/
def allowsHub (scope : SearchScope) (hub : Hub) : Bool :=
  scope.allowedHubs.all fun hubs => hub.hubId.text ∈ hubs.map Text.lower

/-- `_hub_linked_results`. -/
def hubLinkedResults (scope : SearchScope) (query : Text) : Except DbError (List RetrievalRow) :=
  match scope.workspaceId with
  | none => .ok []
  | some workspaceId => do
    match ← matchQuery env db query (some workspaceId) with
    | none => .ok []
    | some hub =>
      if !allowsHub scope hub then .ok []
      else
        let contentIds := getHubContentIds db hub.hubId workspaceId
        if contentIds = [] then .ok []
        else if !scope.storableTypes then .error .invalidText
        else
          let items := db.contentItems.filter fun item =>
            item.workspaceId == some workspaceId && decide (item.contentId ∈ contentIds) &&
              scope.asksFor item
          let rows := (leftJoin chunkOf items db.contentChunks).insertionSort fun a b =>
            hubRowOrder env a b
          .ok ((rows.take 25).map (hubRow hub))

/-! ## Vector search -/

def knnRow (queryVector : List ℚ) (row : JoinedChunk) : RetrievalRow :=
  let (chunk, item) := row
  let distance := (chunk.embedding.map (env.distance queryVector)).getD 0
  { contentId := item.contentId, chunkId := some chunk.chunkId, workspaceId := item.workspaceId
    score := 1 / (1 + distance), text := chunk.chunkText, distance := some distance
    retrievalPath := .pgvectorKnn, retrievalMode := some "pgvector_knn"
    embeddingStatus := some "ok" }

def nearestFirst (queryVector : List ℚ) (a b : ContentChunkRow) : Bool :=
  orderBy (nullsLast fun a b => decide (a ≤ b)) (a.embedding.map (env.distance queryVector))
    (b.embedding.map (env.distance queryVector)) (a.chunkIndex ≤ b.chunkIndex)

/-- `_pgvector_knn_search`. -/
def pgvectorKnnSearch (scope : SearchScope) (queryVector : List ℚ) :
    Except DbError (List RetrievalRow) :=
  if !scope.storableTypes then .error .invalidText
  else do
    let hubIds ← scope.hubIds
    let rows := (joinedChunks db).filter fun row =>
      row.1.embedding.isSome && inScope db scope hubIds row.2
    .ok (((rows.insertionSort fun a b => nearestFirst env queryVector a.1 b.1).take 25).map
      (knnRow env queryVector))

/-- `_query_embedding`: the vector, or why there is none. -/
def queryEmbedding (query : Text) : Except String (List ℚ) :=
  if !env.pgvectorRetrievalEnabled || !env.embeddingBackend.isConfigured then
    .error "provider_disabled"
  else
    let response := env.embeddingBackend.embedText query
    if response.degraded || response.vector.isEmpty || response.dimensions != 1536 then
      .error (response.failureReason.getD "embedding_degraded")
    else .ok response.vector

end Adapter

end MemoryLab.Retrieval

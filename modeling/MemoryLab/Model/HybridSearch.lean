import MemoryLab.Model.Retrieval

/-! # Graph expansion and the merge of the retrieval paths -/

namespace MemoryLab.Retrieval

open Library Library.Rows

/-! ## Expansion of the query -/

/-- `get_neighbors` of the term edges. -/
def storeNeighbors (edges : List TermEdge) (workspaceId : Option WorkspaceId) (node : Text)
    (minConfidence : ℚ) : Finset Text :=
  ((edges.filter fun edge =>
    (edge.fromNode.lower == node.lower || edge.toNode.lower == node.lower) &&
      minConfidence ≤ edge.confidence &&
      workspaceId.all fun workspaceId => edge.workspaceId == some workspaceId).map fun edge =>
    if edge.fromNode.lower = node.lower then edge.toNode else edge.fromNode).toFinset

/-- The neighbours that the chosen graph gives; the hub graph needs a workspace. -/
def neighborsOf (env : Environment) (db : Database) (scope : SearchScope)
    (options : SearchOptions) (node : Text) : Finset Text :=
  let inner := storeNeighbors env.termEdges scope.workspaceId
  match options.consultHubGraph, scope.workspaceId with
  | true, some workspaceId =>
    HubTermGraph.getNeighbors (HubTermGraph.load db workspaceId) inner node options.minConfidence
  | _, _ => inner node options.minConfidence

/-- The hops of `expand_query`, each from the terms that the one before has added. -/
def expandLayers (neighbors : Text → Finset Text) : ℕ → Finset Text → Finset Text → Finset Text
  | 0, expanded, _ => expanded
  | hops + 1, expanded, layer =>
    let next := (layer.biUnion fun term =>
      (neighbors term).image fun neighbor => neighbor.lower.strip) \ expanded
    if next = ∅ then expanded else expandLayers neighbors hops (expanded ∪ next) next

def expandQuery (neighbors : Text → Finset Text) (terms : List Text) (maxHops : ℕ) : Finset Text :=
  let start := (terms.map fun term => term.lower.strip).toFinset
  expandLayers neighbors maxHops start start

def maxExpandedQueries : ℕ := 5

/-- The first terms of the expansion that the query does not have. -/
def newTerms (env : Environment) (db : Database) (scope : SearchScope) (options : SearchOptions)
    (query : Text) : List Text :=
  let terms := Text.split query.lower
  ((env.setOrder (expandQuery (neighborsOf env db scope options) terms options.maxHops)).filter
    (· ∉ terms)).take maxExpandedQueries

/-! ## Candidates -/

def matchedGraphTerms (row : RetrievalRow) (graphTerms : List Text) : List Text :=
  graphTerms.filter fun term => decide (Text.lower term <:+: Text.lower row.text)

def RetrievalRow.candidateKey (row : RetrievalRow) :
    Option WorkspaceId × ContentId × Option ChunkId :=
  (row.workspaceId, row.contentId, row.chunkId)

def mergeGraphTerms (row : RetrievalRow) (graphTerms : List Text) (query : Text) : RetrievalRow :=
  if graphTerms = [] then row
  else
    let merged := graphTerms.foldl (fun merged term =>
      if term ∈ merged then merged else merged ++ [term]) row.graphMatch
    { row with graphMatch := merged, knowledgePath := some ⟨query, merged, row.contentId⟩ }

/-- A row of another workspace than the requested one. -/
def foreign (workspaceId : Option WorkspaceId) (row : RetrievalRow) : Bool :=
  workspaceId.any fun workspaceId => row.workspaceId.any (· != workspaceId)

def minPrimaryFloor : ℕ := 3
def maxRescueAdd : ℕ := 2

section Merge

variable (workspaceId : Option WorkspaceId) (query : Text) (terms : List Text)

def known (found : List RetrievalRow) (row : RetrievalRow) : Bool :=
  found.any fun existing => existing.candidateKey == row.candidateKey

/-- Changes the row that a candidate repeats. -/
def enrich (found : List RetrievalRow) (row : RetrievalRow) (f : RetrievalRow → RetrievalRow) :
    List RetrievalRow :=
  updateWhere (fun existing => existing.candidateKey == row.candidateKey) f found

/-- One step of `add_results`. -/
def addResult (sourceQuery : Text) (rescued : Bool) (found : List RetrievalRow)
    (row : RetrievalRow) : List RetrievalRow :=
  if foreign workspaceId row then found
  else
    let graphTerms := matchedGraphTerms row terms
    if known found row then
      enrich found row fun existing =>
        mergeGraphTerms
          { existing with
            sourceQueries :=
              if sourceQuery ∈ existing.sourceQueries then existing.sourceQueries
              else existing.sourceQueries ++ [sourceQuery]
            graphRescue := existing.graphRescue || rescued }
          graphTerms query
    else
      let admitted :=
        { row with
          sourceQueries := [sourceQuery], graphBoosted := false, graphMatch := graphTerms
          retrievalPath := if rescued then .graphRescueZeroResult else row.retrievalPath
          graphRescue := row.graphRescue || rescued }
      found ++ [mergeGraphTerms admitted graphTerms query]

def addResults (sourceQuery : Text) (rescued : Bool) (found rows : List RetrievalRow) :
    List RetrievalRow :=
  rows.foldl (addResult workspaceId query terms sourceQuery rescued) found

variable (vectorSearch : Text → Except DbError (List RetrievalRow))

def rescueQuery (term : Text) : Text := query ++ ' ' :: term

/-- The rescue after a primary search without rows. -/
def rescueZero (found : List RetrievalRow) (term : Text) : Except DbError (List RetrievalRow) := do
  let rows ← vectorSearch (rescueQuery query term)
  .ok (addResults workspaceId query terms (rescueQuery query term) true found rows)

/-- The rows so far and how many of them a rescue has admitted. -/
structure RescueState where
  found : List RetrievalRow
  added : ℕ
deriving DecidableEq

/-- One candidate of the rescue of a thin primary result. -/
def rescueCandidate (term : Text) (s : RescueState) (row : RetrievalRow) : RescueState :=
  if maxRescueAdd ≤ s.added then s
  else if foreign workspaceId row then s
  else
    let matched := matchedGraphTerms row terms
    if matched = [] then s
    else if known s.found row then
      { s with found := enrich s.found row fun existing => mergeGraphTerms existing matched query }
    else
      let admitted :=
        { row with
          retrievalPath := .graphRescueNonzero, graphRescue := true
          sourceQueries := [rescueQuery query term], graphMatch := matched }
      { found := s.found ++ [mergeGraphTerms admitted matched query], added := s.added + 1 }

def rescueTerm (s : RescueState) (term : Text) : Except DbError RescueState :=
  if maxRescueAdd ≤ s.added then .ok s
  else do
    let rows ← vectorSearch (rescueQuery query term)
    .ok (rows.foldl (rescueCandidate workspaceId query terms term) s)

def boost (graphBoost : ℚ) (row : RetrievalRow) : RetrievalRow :=
  if 1 < row.sourceQueries.length then
    { row with
      score := row.score * (1 + graphBoost * (row.sourceQueries.length - 1))
      graphBoosted := true }
  else row

/-- `_deterministic_rerank`. -/
def rerank (rows : List RetrievalRow) : List RetrievalRow :=
  rows.insertionSort fun a b => b.score ≤ a.score

/-- What a search adds to a primary result that is empty or thin. -/
def rescue (found : List RetrievalRow) : Except DbError (List RetrievalRow) :=
  if found = [] then terms.foldlM (rescueZero workspaceId query terms vectorSearch) []
  else if found.length < minPrimaryFloor then do
    let s ← terms.foldlM (rescueTerm workspaceId query terms vectorSearch) ⟨found, 0⟩
    .ok s.found
  else .ok found

def hybridSearch (graphBoost : ℚ) : Except DbError (List RetrievalRow) := do
  let primary ← vectorSearch query
  let found ← rescue workspaceId query terms vectorSearch
    (addResults workspaceId query terms query false [] primary)
  .ok (rerank (found.map (boost graphBoost)))

end Merge

/-! ## The adapter -/

/-- Appends the rows of contents that have none yet, the first of each. -/
def appendUnseen (results rows : List RetrievalRow) : List RetrievalRow :=
  rows.foldl (fun results row =>
    if results.any (·.contentId == row.contentId) then results else results ++ [row]) results

def setDefaults (mode status : Option String) (row : RetrievalRow) : RetrievalRow :=
  { row with
    retrievalMode := row.retrievalMode.or mode, embeddingStatus := row.embeddingStatus.or status }

/-- `_rank_distance`. -/
def rankDistance (row : RetrievalRow) : ℚ :=
  match row.distance with
  | some distance => distance
  | none =>
    if row.retrievalPath = .contentChunkWorkspaceScoped ∨
        row.retrievalPath = .deterministicFallback then
      max 0 (min 2 (2 * (1 - row.score)))
    else 2

/-- `rank_by_composite`, whose score becomes the score of the row. -/
def rankByComposite (env : Environment) (rows : List RetrievalRow) (query : Text) :
    List RetrievalRow :=
  let before (a b : RetrievalRow) : Bool :=
    orderBy (fun a b => decide (b ≤ a)) (env.compositeScore a query) (env.compositeScore b query)
      (rankDistance a ≤ rankDistance b)
  (rows.insertionSort fun a b => before a b).map fun row =>
    { row with score := env.compositeScore row query }

section Search

variable (env : Environment) (db : Database) (scope : SearchScope) (query : Text)

/-- The vector search for the outcome of `_query_embedding`. -/
def vectorSearchFor (embedding : Except String (List ℚ)) (q : Text) :
    Except DbError (List RetrievalRow) :=
  match embedding with
  | .ok vector => pgvectorKnnSearch env db scope vector
  | .error _ => deterministicVectorSearch env db scope q

/-- Next to a vector search, the lexical rows of contents that it has not found. -/
def withLexical (embedding : Except String (List ℚ)) (merged : List RetrievalRow) :
    Except DbError (List RetrievalRow) :=
  match embedding with
  | .error reason =>
    .ok (merged.map (setDefaults (some "deterministic_fallback") (some reason)))
  | .ok _ => do
    let lexical ← deterministicVectorSearch env db scope query
    .ok (appendUnseen (merged.map (setDefaults (some "pgvector_knn") none))
      (lexical.map (setDefaults (some "deterministic_fallback")
        (some "lexical_fallback_alongside_pgvector"))))

/-- `RetrievalAdapter.search`. -/
def search (options : SearchOptions) : Except DbError (List RetrievalRow) := do
  let embedding := queryEmbedding env query
  let merged ← hybridSearch scope.workspaceId query (newTerms env db scope options query)
    (vectorSearchFor env db scope embedding) options.graphBoost
  let results ← withLexical env db scope query embedding merged
  let recalled ← hubLinkedResults env db scope query
  .ok (rankByComposite env (appendUnseen results recalled) query)

end Search

end MemoryLab.Retrieval

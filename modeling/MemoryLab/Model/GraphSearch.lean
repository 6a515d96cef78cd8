import Mathlib.Data.Finset.Image
import Mathlib.Data.Rat.Defs
import MemoryLab.Library.KeyedMerge
import MemoryLab.Library.PyText

/-! # Query expansion and hybrid search

The graph, the search function and the ranking are arguments, as in the source. Of a row, which is
a dictionary there, the keys are modelled that a function below reads or writes. -/

namespace MemoryLab.GraphSearch

open Library Library.KeyedMerge

/-- The order in which a set of texts is listed. -/
structure SetOrder where
  list : Finset Text → List Text
  nodup : ∀ s, (list s).Nodup
  mem_list : ∀ s term, term ∈ list s ↔ term ∈ s

structure GraphStore where
  getNeighbors : Text → ℚ → Option Text → Finset Text

/-- A row of `cb_aliases`. -/
structure AliasRow where
  term : Text
  canonical : Text
  approved : Bool
deriving DecidableEq

abbrev AliasStore := List AliasRow

/-- `resolve_terms`: the terms and the canonical nodes of their approved aliases. -/
def AliasStore.resolveTerms (store : AliasStore) (terms : Finset Text) : Finset Text :=
  terms ∪ ((store.filter fun row =>
    row.approved && decide (row.term.lower ∈ terms.image Text.lower)).map (·.canonical)).toFinset

/-! ## Expansion -/

/-- `t.lower().strip()`. -/
def normalize (term : Text) : Text := term.lower.strip

/-- The terms so far and those of the next layer. -/
structure ExpansionState where
  expanded : Finset Text
  nextLayer : Finset Text

def visitNeighbor (s : ExpansionState) (neighbor : Text) : ExpansionState :=
  let n := normalize neighbor
  if n ∈ s.expanded then s else ⟨insert n s.expanded, insert n s.nextLayer⟩

def visitTerm (order : SetOrder) (neighbors : Text → Finset Text) (s : ExpansionState)
    (term : Text) : ExpansionState :=
  (order.list (neighbors term)).foldl visitNeighbor s

/-- The hops, each over the terms that the one before has added. -/
def expandLayers (order : SetOrder) (neighbors : Text → Finset Text) :
    ℕ → Finset Text → Finset Text → Finset Text
  | 0, expanded, _ => expanded
  | hops + 1, expanded, currentLayer =>
    let s := (order.list currentLayer).foldl (visitTerm order neighbors) ⟨expanded, ∅⟩
    if s.nextLayer = ∅ then s.expanded
    else expandLayers order neighbors hops s.expanded s.nextLayer

/-- The terms with which the expansion starts. -/
def startTerms (queryTerms : List Text) (aliasStore : Option AliasStore) : Finset Text :=
  let terms := (queryTerms.map normalize).toFinset
  aliasStore.elim terms fun store => (store.resolveTerms terms).image normalize

/-- A negative number of hops is no hop. -/
def expandQuery (order : SetOrder) (queryTerms : List Text) (graph : GraphStore) (maxHops : ℤ)
    (minConfidence : ℚ) (aliasStore : Option AliasStore) (workspaceId : Option Text) :
    List Text :=
  let expanded := startTerms queryTerms aliasStore
  order.list (expandLayers order (fun term => graph.getNeighbors term minConfidence workspaceId)
    maxHops.toNat expanded expanded)

/-! ## Rows -/

/-- What a dictionary holds under a key. -/
inductive Cell where
  | missing
  | null
  | value (text : Text)
deriving DecidableEq

/-- `d.get(key) or …`. -/
def Cell.truthy : Cell → Option Text
  | .value text => if text = [] then none else some text
  | _ => none

/-- `str(d.get(key, default))`. -/
def Cell.getD (default : Text) : Cell → Text
  | .missing => default
  | .null => "None".toList
  | .value text => text

/-- The query, the graph terms and the content, in this order. -/
structure KnowledgePath where
  query : Text
  graph : List Text
  content : Text
deriving DecidableEq

structure Row where
  workspaceId : Cell := .missing
  contentId : Cell := .missing
  id : Cell := .missing
  entryId : Cell := .missing
  chunkId : Cell := .missing
  text : Cell := .missing
  snippet : Cell := .missing
  score : Option ℚ := none
  similarity : Option ℚ := none
  graphMatch : List Text := []
  sourceQueries : List Text := []
  graphBoosted : Bool := false
  retrievalPath : Option String := none
  graphRescue : Bool := false
  knowledgePath : Option KnowledgePath := none
deriving DecidableEq

def Row.shownText (row : Row) : Text := (row.text.truthy.or row.snippet.truthy).getD []

def matchedGraphTerms (row : Row) (graphTerms : List Text) : List Text :=
  graphTerms.filter fun term => decide (Text.lower term <:+: Text.lower row.shownText)

def candidateKey (row : Row) : Text :=
  let workspace := row.workspaceId.truthy.getD []
  let contentId := ((row.contentId.truthy.or row.id.truthy).or row.entryId.truthy).getD []
  match row.chunkId.truthy with
  | some chunkId => workspace ++ ":chunk:".toList ++ contentId ++ ':' :: chunkId
  | none => workspace ++ ":content:".toList ++ contentId

def contentValue (row : Row) : Text := row.id.getD (row.entryId.getD (row.contentId.getD []))

def mergeGraphTerms (existing : Row) (graphTerms : List Text) (query content : Text) : Row :=
  if graphTerms = [] then existing
  else
    let merged := graphTerms.foldl (fun merged term =>
      if term ∈ merged then merged else merged ++ [term]) existing.graphMatch
    { existing with graphMatch := merged, knowledgePath := some ⟨query, merged, content⟩ }

/-- A row that names another workspace than the requested one. -/
def foreign (workspaceId : Option Text) (row : Row) : Bool :=
  (workspaceId.filter (· ≠ [])).any fun requested =>
    row.workspaceId.truthy.any fun workspace => workspace ≠ requested

/-! ## Hybrid search -/

def minPrimaryFloor : ℕ := 3
def maxRescueAdd : ℕ := 2

structure Settings where
  maxExpandedQueries : ℤ := 5
  maxHops : ℤ := 1
  minConfidence : ℚ := 7 / 10
  graphBoost : ℚ := 1 / 10
  workspaceId : Option Text := none

/-- `xs[:stop]`. -/
def sliceTo {α : Type*} (stop : ℤ) (xs : List α) : List α :=
  if 0 ≤ stop then xs.take stop.toNat else xs.take (xs.length - stop.natAbs)

def newTerms (order : SetOrder) (query : Text) (graph : GraphStore) (settings : Settings) :
    List Text :=
  let terms := Text.split query.lower
  let expandedTerms := expandQuery order terms graph settings.maxHops settings.minConfidence none
    settings.workspaceId
  sliceTo settings.maxExpandedQueries (expandedTerms.filter (· ∉ terms))

section Search

variable (workspaceId : Option Text) (query : Text) (terms : List Text)

/-- A row as `add_results` appends it. -/
def admitResult (sourceQuery : Text) (rescued : Bool) (row : Row) : Row :=
  let graphTerms := matchedGraphTerms row terms
  mergeGraphTerms
    { row with
      sourceQueries := [sourceQuery], graphBoosted := false, graphMatch := graphTerms
      retrievalPath :=
        if rescued then some "graph_rescue_zero_result_workspace_scoped" else row.retrievalPath
      graphRescue := row.graphRescue || rescued }
    graphTerms query (contentValue row)

/-- What `add_results` does to the row that another one repeats. -/
def enrichResult (sourceQuery : Text) (rescued : Bool) (row existing : Row) : Row :=
  mergeGraphTerms
    { existing with
      sourceQueries :=
        if sourceQuery ∈ existing.sourceQueries then existing.sourceQueries
        else existing.sourceQueries ++ [sourceQuery]
      graphRescue := existing.graphRescue || rescued }
    (matchedGraphTerms row terms) query (contentValue row)

def addResult (sourceQuery : Text) (rescued : Bool) (allResults : List Row) (row : Row) :
    List Row :=
  if foreign workspaceId row then allResults
  else upsert candidateKey (admitResult query terms sourceQuery rescued)
    (enrichResult query terms sourceQuery rescued) allResults row

def addResults (rows : List Row) (sourceQuery : Text) (rescued : Bool) (allResults : List Row) :
    List Row :=
  rows.foldl (addResult workspaceId query terms sourceQuery rescued) allResults

def rescueQuery (term : Text) : Text := query ++ ' ' :: term

variable (vectorSearch : Text → List Row)

/-- The rescue of a primary result without rows. -/
def rescueZero (allResults : List Row) (term : Text) : List Row :=
  addResults workspaceId query terms (vectorSearch (rescueQuery query term))
    (rescueQuery query term) true allResults

/-- The rows so far and how many of them a rescue has admitted. -/
structure RescueState where
  allResults : List Row
  rescueAdded : ℕ

def admitCandidate (term : Text) (row : Row) : Row :=
  let matched := matchedGraphTerms row terms
  mergeGraphTerms
    { row with
      retrievalPath := some "graph_rescue_nonzero_workspace_scoped", graphRescue := true
      sourceQueries := [rescueQuery query term], graphMatch := matched }
    matched query (contentValue row)

def enrichCandidate (row existing : Row) : Row :=
  mergeGraphTerms existing (matchedGraphTerms row terms) query (contentValue row)

/-- One candidate of the rescue of a thin primary result. -/
def rescueCandidate (term : Text) (s : RescueState) (row : Row) : RescueState :=
  if maxRescueAdd ≤ s.rescueAdded then s
  else if foreign workspaceId row then s
  else if matchedGraphTerms row terms = [] then s
  else
    { allResults := upsert candidateKey (admitCandidate query terms term)
        (enrichCandidate query terms) s.allResults row
      rescueAdded :=
        if candidateKey row ∈ s.allResults.map candidateKey then s.rescueAdded
        else s.rescueAdded + 1 }

def rescueTerm (s : RescueState) (term : Text) : RescueState :=
  if maxRescueAdd ≤ s.rescueAdded then s
  else (vectorSearch (rescueQuery query term)).foldl
    (rescueCandidate workspaceId query terms term) s

/-- What a search adds to a primary result that is empty or thin. -/
def rescue (primary : List Row) : List Row :=
  if primary = [] then terms.foldl (rescueZero workspaceId query terms vectorSearch) []
  else if primary.length < minPrimaryFloor then
    (terms.foldl (rescueTerm workspaceId query terms vectorSearch) ⟨primary, 0⟩).allResults
  else primary

/-- A row that several queries have found. -/
def boost (graphBoost : ℚ) (row : Row) : Row :=
  let queryCount := row.sourceQueries.length
  if 1 < queryCount then
    { row with
      score := some ((row.score.or row.similarity).getD 0 * (1 + graphBoost * (queryCount - 1)))
      graphBoosted := true }
  else row

end Search

def hybridSearch (order : SetOrder) (query : Text) (graph : GraphStore)
    (vectorSearch : Text → List Row) (rerank : List Row → List Row) (settings : Settings) :
    List Row :=
  let terms := newTerms order query graph settings
  let primary := addResults settings.workspaceId query terms (vectorSearch query) query false []
  let allResults := rescue settings.workspaceId query terms vectorSearch primary
  rerank (allResults.map (boost settings.graphBoost))

end MemoryLab.GraphSearch

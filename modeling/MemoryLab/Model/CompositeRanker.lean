import Mathlib.Data.Prod.Lex
import MemoryLab.Library.Rows
import MemoryLab.Model.HubTermGraph
import MemoryLab.Model.TierRouter

/-! # The composite ranking

Scores are exact. A row holds what the ranker reads of it and, as `rest`, its other keys. -/

namespace MemoryLab.CompositeRanker

open Library Library.Rows TierRouter

/-! ## The score of a chunk -/

structure ScoreComponents where
  vectorScore : ℚ
  graphScore : ℚ
  hubScore : ℚ
  keywordScore : ℚ
  trustScore : ℚ
  penalty : ℚ
  finalScore : ℚ
deriving DecidableEq

/-- `_tokens`: the runs of at least two letters or digits. -/
def tokens (text : Text) : Finset Text :=
  (((Text.lower text).splitOnP (!HubTermGraph.isTokenChar ·)).filter (2 ≤ ·.length)).toFinset

/-- The keyword arguments of `compute_chunk_score`. -/
structure ScoreArguments where
  distance : ℚ
  graphMatch : List Text
  hubMatch : List Text
  hubAliases : List Text
  hubRelatedTerms : List Text
  queryTokens : Finset Text
  chunkText : Text
  sourceQueryCount : ℤ
deriving DecidableEq

def vectorScore (args : ScoreArguments) : ℚ := max 0 (min 1 (1 - args.distance / 2))

def graphScore (args : ScoreArguments) : ℚ :=
  match args.graphMatch.length with
  | 0 => 0
  | 1 => 9 / 10
  | 2 => 7 / 10
  | 3 | 4 => 4 / 10
  | _ => 2 / 10

/-- The tokens that the terms of the hub share with the chunk. -/
def hubOverlap (args : ScoreArguments) : ℕ :=
  let hubTermTokens := (args.hubAliases ++ args.hubRelatedTerms).foldl
    (fun found term => found ∪ tokens term) ∅
  (hubTermTokens ∩ tokens args.chunkText).card

def hubScore (args : ScoreArguments) : ℚ :=
  if args.hubMatch = [] then 0
  else if 2 ≤ hubOverlap args then min 1 (7 / 10 + 2 / 10)
  else if hubOverlap args = 1 then 7 / 10
  else 3 / 10

def keywordScore (args : ScoreArguments) : ℚ :=
  min 1 (((args.queryTokens ∩ tokens args.chunkText).card : ℚ) / 5)

def trustScore (args : ScoreArguments) : ℚ :=
  if args.graphMatch ≠ [] ∧ args.hubMatch ≠ [] then 8 / 10
  else if args.graphMatch ≠ [] ∨ args.hubMatch ≠ [] then 6 / 10
  else if 1 < args.sourceQueryCount then 45 / 100
  else 3 / 10

/-- A long graph path without a hub, and weak evidence all round. -/
def penalty (args : ScoreArguments) : ℚ :=
  (if 3 < args.graphMatch.length ∧ args.hubMatch = [] then 1 / 10 else 0) +
  (if vectorScore args < 35 / 100 ∧ args.graphMatch = [] ∧ args.hubMatch = [] then 1 / 10 else 0)

def rawScore (args : ScoreArguments) : ℚ :=
  45 / 100 * vectorScore args + 20 / 100 * graphScore args + 20 / 100 * hubScore args +
    10 / 100 * keywordScore args + 5 / 100 * trustScore args - penalty args

def computeChunkScore (args : ScoreArguments) : ScoreComponents where
  vectorScore := vectorScore args
  graphScore := graphScore args
  hubScore := hubScore args
  keywordScore := keywordScore args
  trustScore := trustScore args
  penalty := penalty args
  finalScore := max 0 (min 1 (rawScore args))

inductive TrustLevel where
  | high
  | medium
  | low
deriving DecidableEq

def scoreToTrustLevel (sc : ScoreComponents) : TrustLevel :=
  if 70 / 100 ≤ sc.finalScore then .high
  else if 45 / 100 ≤ sc.finalScore then .medium
  else .low

def buildRankingReason (graphMatch hubMatch : List Text) (sourceQueryCount : ℕ) : Text :=
  let graphPath := List.intercalate " → ".toList graphMatch
  match graphMatch, hubMatch with
  | _ :: _, hub :: _ =>
    "hub match: ".toList ++ hub ++ " + concept match via graph: ".toList ++ graphPath
  | [], hub :: _ => "hub match: ".toList ++ hub
  | _ :: _, [] => "concept match via graph: ".toList ++ graphPath
  | [], [] =>
    if 1 < sourceQueryCount then
      "semantic match reinforced across ".toList ++ digits sourceQueryCount ++
        " query variants".toList
    else "semantic similarity".toList

/-! ## Rows -/

/-- What a key with a list may hold. -/
inductive ListValue where
  | absent
  | text (value : Text)
  | list (values : List Text)
deriving DecidableEq

/-- `_as_list`. -/
def ListValue.asList : ListValue → List Text
  | absent => []
  | text value => if value = [] then [] else [value]
  | list values => values

/-- An entry of `knowledge_path`. -/
inductive PathItem where
  | dict (value node term : Option Text)
  | text (item : Text)
  | other
deriving DecidableEq

/-- `… or …` over texts that may be missing. -/
def truthy (value : Option Text) : Option Text := value.filter (· ≠ [])

structure Row (α : Type*) where
  distance : Option ℚ := none
  score : Option ℚ := none
  retrievalPath : String := ""
  graphMatch : ListValue := .absent
  hubMatch : ListValue := .absent
  hubAliases : ListValue := .absent
  hubRelatedTerms : ListValue := .absent
  knowledgePath : List PathItem := []
  text : Option Text := none
  snippet : Option Text := none
  sourceQueries : List Text := []
  graphRescue : Bool := false
  hubTitle : Option Text := none
  rest : α

def lexicalPaths : List String := ["content_chunk_workspace_scoped", "deterministic_fallback"]

def hubPaths : List String := ["hub_link_workspace_scoped"]

def graphRescuePaths : List String :=
  ["graph_rescue_zero_result_workspace_scoped", "graph_rescue_nonzero_workspace_scoped"]

def hubOnlyDistance : ℚ := 2

def curatedGraphBoost : ℚ := 4 / 100

def manualLinkBoost : ℚ := 15 / 100

inductive SourcePath where
  | hubLinked
  | mixed
  | graphNeighbor
  | semantic
deriving DecidableEq

section Rows

variable {α : Type*}

def rankDistance (row : Row α) : ℚ :=
  match row.distance with
  | some distance => distance
  | none =>
    if row.retrievalPath ∈ lexicalPaths then max 0 (min 2 (2 * (1 - row.score.getD 0)))
    else hubOnlyDistance

def pathTerm : PathItem → Option Text
  | .dict value node term => (truthy value).or ((truthy node).or (truthy term))
  | .text item => if "graph:".toList <+: item then some (item.drop 6) else none
  | .other => none

def graphSignal (row : Row α) : List Text :=
  let signal := row.graphMatch.asList
  if signal = [] then row.knowledgePath.filterMap pathTerm else signal

def sourcePathForRow (row : Row α) : SourcePath :=
  if row.retrievalPath ∈ hubPaths then .hubLinked
  else if row.hubMatch.asList ≠ [] then .mixed
  else if row.graphRescue ∨ row.retrievalPath ∈ graphRescuePaths then .graphNeighbor
  else .semantic

/-- `len(…) or 1`. -/
def sourceQueryCount (row : Row α) : ℕ := max 1 row.sourceQueries.length

def scoreArguments (row : Row α) (queryTokens : Finset Text) : ScoreArguments where
  distance := rankDistance row
  graphMatch := graphSignal row
  hubMatch := row.hubMatch.asList
  hubAliases := row.hubAliases.asList
  hubRelatedTerms := row.hubRelatedTerms.asList
  queryTokens := queryTokens
  chunkText := ((truthy row.text).or (truthy row.snippet)).getD []
  sourceQueryCount := sourceQueryCount row

def scoreRow (row : Row α) (queryTokens : Finset Text) : ScoreComponents × ℚ :=
  (computeChunkScore (scoreArguments row queryTokens), rankDistance row)

/-! ## Ranking -/

structure RankedRow (α : Type*) extends Row α where
  finalScore : ℚ
  confidence : ℚ
  scoreComponents : ScoreComponents
  resultTrust : TrustLevel
  rankingReason : Text
  sourcePath : SourcePath

/-- `round(value, places)`. -/
def round (value : ℚ) (places : ℕ) : ℚ := roundHalfEven (value * 10 ^ places) / 10 ^ places

/-- The format `.2f` of a number that is not negative. -/
def fixed2 (x : ℚ) : Text :=
  let hundredths := (roundHalfEven (x * 100)).toNat
  let fraction := digits (hundredths % 100)
  digits (hundredths / 100) ++ ['.'] ++ List.replicate (2 - fraction.length) '0' ++ fraction

def isCuratedNeighbor (row : Row α) : Bool :=
  sourcePathForRow row = .graphNeighbor && row.hubMatch.asList == []

/-- The boosts after the formula. -/
def boosted (row : Row α) (sc : ScoreComponents) : ScoreComponents :=
  if isCuratedNeighbor row then
    { sc with finalScore := min 1 (sc.finalScore + curatedGraphBoost) }
  else if sourcePathForRow row = .hubLinked then
    { sc with finalScore := min 1 (sc.finalScore + manualLinkBoost) }
  else sc

def rankingReason (row : Row α) (sc : ScoreComponents) : Text :=
  let reason := buildRankingReason (graphSignal row) row.hubMatch.asList (sourceQueryCount row)
  match sourcePathForRow row, row.hubMatch.asList with
  | .hubLinked, hub :: _ =>
    "manually linked to hub '".toList ++ (truthy row.hubTitle).getD hub ++
      "'; retrieved via hub recall (vector_score=".toList ++ fixed2 sc.vectorScore ++
      ", boost=+0.15)".toList
  | _, _ =>
    if isCuratedNeighbor row then "curated graph neighbor (+0.04); ".toList ++ reason else reason

def ScoreComponents.rounded (sc : ScoreComponents) : ScoreComponents where
  vectorScore := round sc.vectorScore 4
  graphScore := round sc.graphScore 4
  hubScore := round sc.hubScore 4
  keywordScore := round sc.keywordScore 4
  trustScore := round sc.trustScore 4
  penalty := round sc.penalty 4
  finalScore := round sc.finalScore 4

/-- An entry of `scored`. -/
structure ScoredRow (α : Type*) where
  finalScore : ℚ
  distance : ℚ
  enriched : RankedRow α

def scored (queryTokens : Finset Text) (row : Row α) : ScoredRow α :=
  let (sc, distance) := scoreRow row queryTokens
  let sc := boosted row sc
  let score := round sc.finalScore 4
  { finalScore := sc.finalScore
    distance := distance
    enriched :=
      { row with
        score := some score
        finalScore := score
        confidence := round sc.finalScore 3
        scoreComponents := sc.rounded
        resultTrust := scoreToTrustLevel sc
        rankingReason := rankingReason row sc
        sourcePath := sourcePathForRow row } }

/-- `(-item[0], item[1])`. -/
def sortKey (item : ScoredRow α) : ℚ ×ₗ ℚ := toLex (-item.finalScore, item.distance)

def rankByComposite (rows : List (Row α)) (query : Text) : List (RankedRow α) :=
  (sortOn sortKey (rows.map (scored (tokens query)))).map (·.enriched)

end Rows

end MemoryLab.CompositeRanker

import MemoryLab.Library.Merge
import MemoryLab.Model.Persistence
import MemoryLab.Model.SearchByPurpose

/-! # Nearest neighbours over supplied vectors

Numbers are exact; the square root is a parameter. -/

namespace MemoryLab.Knn

open Library Library.Rows
open Persistence (FieldValue)

/-! ## Vectors -/

/-- A component of a vector. A truth value, an infinity, what is no number and what `float`
refuses are `other`. -/
inductive Component where
  | number (x : ℚ)
  | other
deriving DecidableEq

def Component.toFloat : Component → Option ℚ
  | number x => some x
  | other => none

/-- What has no components is `none`, texts and bytes included. -/
abbrev RawVector := Option (List Component)

def normalizeVector (vector : RawVector) : Option (List ℚ) :=
  (vector.bind fun components => components.mapM Component.toFloat).filter (· ≠ [])

def norm (sqrt : ℚ → ℚ) (vector : List ℚ) : ℚ := sqrt (vector.map fun value => value * value).sum

inductive KnnWarning where
  | queryVectorInvalid
  | corpusEmpty
  | itemVectorMissingOrInvalid
  | dimensionMismatch
  | zeroVectorDegraded
  | noValidCandidates
deriving DecidableEq

def KnnWarning.code : KnnWarning → String
  | queryVectorInvalid => "KNN_QUERY_VECTOR_INVALID"
  | corpusEmpty => "KNN_CORPUS_EMPTY"
  | itemVectorMissingOrInvalid => "KNN_ITEM_VECTOR_MISSING_OR_INVALID"
  | dimensionMismatch => "KNN_DIMENSION_MISMATCH"
  | zeroVectorDegraded => "KNN_ZERO_VECTOR_DEGRADED"
  | noValidCandidates => "KNN_NO_VALID_CANDIDATES"

def cosine (sqrt : ℚ → ℚ) (a b : List ℚ) : ℚ × List KnnWarning :=
  if norm sqrt a = 0 ∨ norm sqrt b = 0 then (0, [.zeroVectorDegraded])
  else (max (-1) (min 1 ((List.zipWith (· * ·) a b).sum / (norm sqrt a * norm sqrt b))), [])

/-! ## Items and queries -/

structure KnnVectorItem where
  itemId : Text
  vector : RawVector
  limitations : List Text := []
deriving DecidableEq

/-- The keys of a mapping that are read. -/
structure ItemFields where
  itemId : Option FieldValue := none
  id : Option FieldValue := none
  vector : RawVector := none
  limitations : List Text := []
deriving DecidableEq

inductive RawItem where
  | item (value : KnnVectorItem)
  | mapping (fields : ItemFields)
deriving DecidableEq

/-- An item after `_normalize_item`. -/
structure Item where
  itemId : Text
  vector : Option (List ℚ)
  limitations : List Text
deriving DecidableEq

def normalizeItem : RawItem → Item
  | .item value =>
    ⟨value.itemId, normalizeVector value.vector, value.limitations.filter (· ≠ [])⟩
  | .mapping fields =>
    ⟨((Persistence.orElse (Persistence.orElse fields.itemId fields.id) none).map (·.str)).getD [],
      normalizeVector fields.vector, fields.limitations.filter (· ≠ [])⟩

/-- `top_k` is what `int` makes of it, if anything. -/
structure KnnQuery where
  vector : RawVector
  topK : Option ℤ := some 5
  queryId : Text := "synthetic-query".toList
deriving DecidableEq

inductive RawQuery where
  | query (value : KnnQuery)
  | vector (components : RawVector)
deriving DecidableEq

namespace RawQuery

def queryId : RawQuery → Text
  | query value => value.queryId
  | vector _ => "synthetic-query".toList

def normalized : RawQuery → Option (List ℚ)
  | query value => normalizeVector value.vector
  | vector components => normalizeVector components

/-- The argument counts for a bare vector only. -/
def topK (argument : Option ℤ) : RawQuery → Option ℤ
  | query value => value.topK
  | vector _ => argument

end RawQuery

/-- `_top_k`. -/
def clampTopK (value : Option ℤ) : ℕ := (max 1 (min (value.getD 5) 100)).toNat

/-! ## The ranking -/

structure RankedRow where
  score : ℚ
  itemId : Text
  warnings : List KnnWarning
  limitations : List Text
deriving DecidableEq

/-- What the loop makes of one item: a row, or why it is skipped. -/
def scoreItem (sqrt : ℚ → ℚ) (query : List ℚ) (raw : RawItem) : Except KnnWarning RankedRow :=
  let item := normalizeItem raw
  match item.vector with
  | none => .error .itemVectorMissingOrInvalid
  | some vector =>
    if vector.length ≠ query.length then .error .dimensionMismatch
    else
      let (score, warnings) := cosine sqrt query vector
      .ok ⟨score, item.itemId, warnings, item.limitations⟩

def outcomeWarnings : Except KnnWarning RankedRow → List KnnWarning
  | .error warning => [warning]
  | .ok row => row.warnings

/-- `(-row[0], row[1])`. -/
def rankKey (row : RankedRow) : ℚ ×ₗ Text := toLex (-row.score, row.itemId)

def defaultLimitations : List Text :=
  ["deterministic cosine ranking over caller-supplied vectors only",
    "synthetic/public-safe vectors expected", "no embedding generation",
    "no stored-record lookup"].map String.toList

def dedupe (values : List Text) : List Text :=
  distinctOn id ((values.map Text.strip).filter (· ≠ []))

structure KnnSearchResult where
  itemId : Text
  score : ℚ
  rank : ℕ
  degraded : Bool
  warnings : List KnnWarning
  limitations : List Text
deriving DecidableEq

def resultOf (entry : RankedRow × ℕ) : KnnSearchResult :=
  { itemId := entry.1.itemId
    score := SearchByPurpose.round entry.1.score 12
    rank := entry.2
    degraded := entry.1.warnings ≠ [] ∨ entry.1.limitations ≠ []
    warnings := distinctOn id entry.1.warnings
    limitations := dedupe (defaultLimitations ++ entry.1.limitations) }

structure KnnSearchSummary where
  queryId : Text
  results : List KnnSearchResult
  totalItems : ℕ
  candidateCount : ℕ
  skippedCount : ℕ
  degraded : Bool
  unavailable : Bool
  warnings : List KnnWarning
deriving DecidableEq

/-- `_summary`. -/
def summary (queryId : Text) (results : List KnnSearchResult) (totalItems skippedCount : ℕ)
    (warnings : List KnnWarning) (unavailable : Bool) : KnnSearchSummary :=
  { queryId, results, totalItems
    candidateCount := results.length
    skippedCount
    degraded := warnings ≠ [] ∨ unavailable ∨ skippedCount ≠ 0
    unavailable
    warnings := distinctOn id warnings }

section Ranking

variable (sqrt : ℚ → ℚ)

/-- The rows of the items that are not skipped. -/
def rankedRows (query : List ℚ) (items : List RawItem) : List RankedRow :=
  (items.map (scoreItem sqrt query)).filterMap Except.toOption

def rankByCosineSimilarity (query : RawQuery) (items : List RawItem) (topK : Option ℤ := none) :
    KnnSearchSummary :=
  match query.normalized with
  | none => summary query.queryId [] items.length items.length [.queryVectorInvalid] true
  | some vector =>
    if items = [] then summary query.queryId [] 0 0 [.corpusEmpty] true
    else
      let outcomes := items.map (scoreItem sqrt vector)
      let ranked := outcomes.filterMap Except.toOption
      let skipped := outcomes.countP fun outcome => !outcome.isOk
      let warnings := outcomes.flatMap outcomeWarnings
      if ranked = [] then
        summary query.queryId [] items.length skipped (warnings ++ [.noValidCandidates]) true
      else
        let nearest := (sortOn rankKey ranked).take (clampTopK (query.topK topK))
        summary query.queryId ((nearest.zipIdx 1).map resultOf) items.length skipped warnings false

end Ranking

end MemoryLab.Knn

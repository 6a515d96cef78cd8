import Mathlib.Data.Char
import Mathlib.Data.List.Lex
import Mathlib.Data.Prod.Lex
import MemoryLab.Library.PyText
import MemoryLab.Library.Rows
import MemoryLab.Model.TierRouter

/-! # Search by purpose and the context package

Scores are exact. The values of metadata are of any type that has texts. -/

namespace MemoryLab.SearchByPurpose

open Library Library.Rows TierRouter

/-- What is taken from Python: `str`, `str.isalnum` and the first twelve digits of SHA-256. -/
structure Environment (V : Type) where
  str : V → Text
  isAlnum : Char → Bool
  digest12 : Text → Text

structure SuppliedSearchCandidate (V : Type) where
  itemId : Text
  text : Text := []
  snippet : Text := []
  purposeText : Text := []
  domain : Option Text := none
  tags : List Text := []
  sourceMetadata : List (Text × V) := []
  extractionConfidence : Option ℚ := none
  domainConfidence : Option ℚ := none
  hubSignal : Option ℚ := none
  tagSignal : Option ℚ := none
  knnScore : Option ℚ := none
  knnReady : Option Bool := none
  ingestionScore : Option ℚ := none
  tier : Option Text := none
  circuitState : Option Text := none
  executorLimitations : List Text := []
  validatorLimitations : List Text := []
  riskLevel : Option Text := none
  recencyRank : Option ℚ := none
deriving DecidableEq

structure SearchByPurposeRequest (V : Type) where
  query : Text
  purpose : Text
  candidates : List (SuppliedSearchCandidate V)
  limit : ℤ := 10

structure RankedContextCandidate (V : Type) where
  itemId : Text
  rank : ℕ
  score : ℚ
  scoreComponents : List (String × ℚ)
  reason : Text
  limitations : List Text
  matchedTerms : List Text
  candidate : SuppliedSearchCandidate V
  purpose : Text
deriving DecidableEq

structure SearchByPurposeResponse (V : Type) where
  query : Text
  purpose : Text
  results : List (RankedContextCandidate V)
  warnings : List Text
deriving DecidableEq

/-! ## Texts and numbers -/

def dedupe (values : List Text) : List Text := distinctOn id (values.filter (· ≠ []))

def joinWith (separator : String) (parts : List Text) : Text :=
  List.intercalate separator.toList parts

/-- `round(value, places)`. -/
def round (value : ℚ) (places : ℕ) : ℚ := roundHalfEven (value * 10 ^ places) / 10 ^ places

/-- The format `.nf`. -/
def fixed (places : ℕ) (x : ℚ) : Text :=
  let scaled := (roundHalfEven (|x| * 10 ^ places)).toNat
  let fraction := digits (scaled % 10 ^ places)
  (if x < 0 then ['-'] else []) ++ digits (scaled / 10 ^ places) ++ ['.'] ++
    List.replicate (places - fraction.length) '0' ++ fraction

def bounded (value : Option ℚ) : ℚ := (value.map fun v => max 0 (min 1 v)).getD 0

section Search

variable {V : Type} (env : Environment V)

def terms (text : Text) : List Text :=
  let cleaned := text.flatMap fun c => if env.isAlnum c then Text.lowerChar c else [' ']
  dedupe ((Text.split cleaned).filter (3 ≤ ·.length))

def allowedPurposes : List Text :=
  ["answer", "cite", "summarize", "compare", "recall", "decide"].map String.toList

/-- The purpose and the warnings about it. -/
def normalizePurpose (value : Text) : Text × List Text :=
  let raw := value.strip.lower
  if raw ∈ allowedPurposes then (raw, [])
  else
    let fallback := if raw = [] then "custom".toList else raw
    (fallback, ["unknown_purpose_degraded:".toList ++ fallback])

/-! ## The score of a candidate -/

/-- `candidate.snippet or candidate.text`. -/
def SuppliedSearchCandidate.shown (candidate : SuppliedSearchCandidate V) : Text :=
  if candidate.snippet = [] then candidate.text else candidate.snippet

def textBlob (candidate : SuppliedSearchCandidate V) : Text :=
  joinWith " " ([candidate.snippet, candidate.text, candidate.purposeText,
    candidate.domain.getD [], joinWith " " candidate.tags].filter (· ≠ []))

/-- `(circuit_state or "closed").lower()`. -/
def circuitState (candidate : SuppliedSearchCandidate V) : Text :=
  let state := candidate.circuitState.getD []
  if state = [] then "closed".toList else state.lower

def safeCircuitStates : List Text :=
  ["closed", "healthy", "safe", "ok", "unknown"].map String.toList

def purposeFit (candidate : SuppliedSearchCandidate V) (purpose : Text)
    (matchedTerms : List Text) : ℚ :=
  let textLength := candidate.shown.strip.length
  let hits : ℚ := matchedTerms.length
  if purpose = "answer".toList then
    17 / 100 * max (max (bounded candidate.knnScore) (bounded candidate.ingestionScore)) (hits / 5)
  else if purpose = "cite".toList then
    (if candidate.sourceMetadata = [] then 0 else 25 / 100) +
      if textLength = 0 then 0 else 8 / 100
  else if purpose = "summarize".toList then
    (if 80 ≤ textLength ∧ textLength ≤ 4000 then 12 / 100
      else if textLength = 0 then 0 else 4 / 100) +
      4 / 100 * bounded candidate.extractionConfidence
  else if purpose = "compare".toList then
    (if (candidate.domain.getD []) ≠ [] ∧ candidate.tags ≠ [] then 8 / 100 else 0) +
      5 / 100 * bounded candidate.tagSignal + 4 / 100 * bounded candidate.domainConfidence
  else if purpose = "recall".toList then
    min (16 / 100) (5 / 100 * hits) + 4 / 100 * bounded candidate.recencyRank
  else if purpose = "decide".toList then
    (if circuitState candidate ∈ safeCircuitStates then 8 / 100 else 0) +
      6 / 100 * bounded candidate.ingestionScore + 4 / 100 * bounded candidate.domainConfidence
  else if matchedTerms = [] then 0 else 5 / 100

def privateMarkers : List Text := ["private", "secret", "credential"].map String.toList

/-- The deductions of `_penalty`, each with its limitation. -/
def deductions (candidate : SuppliedSearchCandidate V) : List (Text × ℚ) :=
  let state := circuitState candidate
  let suspicious := joinWith " " (candidate.sourceMetadata.map fun entry =>
    Text.lower (env.str entry.2))
  (if candidate.shown = [] then [("missing_snippet_or_text".toList, 18 / 100)] else []) ++
  (if state ∈ ["open", "degraded", "tripped"].map String.toList then
    [("circuit_state_".toList ++ state, if state = "open".toList then 16 / 100 else 10 / 100)]
    else []) ++
  (if candidate.knnReady = some false then [("knn_not_ready".toList, 4 / 100)] else []) ++
  (if (candidate.extractionConfidence.any (· < 35 / 100)) ||
      candidate.domainConfidence.any (· < 35 / 100) then
    [("low_confidence_signal".toList, 6 / 100)] else []) ++
  (if (candidate.riskLevel.getD []).lower ∈ ["high", "blocked", "unsafe"].map String.toList then
    [("high_risk_supplied_signal".toList, 18 / 100)] else []) ++
  (if privateMarkers.any fun marker => decide (marker <:+: suspicious) then
    [("source_metadata_private_looking".toList, 12 / 100)] else [])

def matchedTerms (candidate : SuppliedSearchCandidate V) (queryTerms : List Text) : List Text :=
  let blob := Text.lower (textBlob candidate)
  queryTerms.filter fun term => decide (term <:+: blob)

def scoreComponents (candidate : SuppliedSearchCandidate V) (purpose : Text)
    (found : List Text) : List (String × ℚ) :=
  [("text_available", if candidate.shown = [] then 0 else 8 / 100),
    ("lexical_match", min (18 / 100) (4 / 100 * found.length)),
    ("extraction_confidence", 10 / 100 * bounded candidate.extractionConfidence),
    ("domain_confidence", 6 / 100 * bounded candidate.domainConfidence),
    ("hub_signal", 6 / 100 * bounded candidate.hubSignal),
    ("tag_signal", 6 / 100 * bounded candidate.tagSignal),
    ("knn_signal", if candidate.knnReady = some false then 0
      else 16 / 100 * bounded candidate.knnScore),
    ("ingestion_signal", 14 / 100 * bounded candidate.ingestionScore),
    ("recency_signal", 5 / 100 * bounded candidate.recencyRank),
    ("source_metadata", if candidate.sourceMetadata = [] then 0 else 5 / 100),
    ("purpose_fit", purposeFit candidate purpose found),
    ("penalty", -((deductions env candidate).map (·.2)).sum)]

def reasonOf (purpose : Text) (components : List (String × ℚ)) (limitations found : List Text) :
    Text :=
  let positive := (components.filter fun entry => entry.1 != "penalty" && 0 < entry.2).map
    (·.1.toList)
  let penalty := ((components.find? fun entry => entry.1 == "penalty").map (·.2)).getD 0
  joinWith " | " (
    ["purpose=".toList ++ purpose,
      "positive=".toList ++ if positive = [] then "none".toList else joinWith "," positive] ++
    (if found = [] then [] else ["matched_terms=".toList ++ joinWith "," found]) ++
    (if limitations = [] then [] else ["limitations=".toList ++ joinWith "," limitations]) ++
    if penalty < 0 then ["penalty=".toList ++ fixed 2 penalty] else [])

/-! ## The ranking -/

def rankedCandidate (purpose : Text) (queryTerms : List Text)
    (candidate : SuppliedSearchCandidate V) : RankedContextCandidate V :=
  let found := matchedTerms candidate queryTerms
  let components := scoreComponents env candidate purpose found
  let limitations := dedupe ((deductions env candidate).map (·.1) ++
    candidate.executorLimitations ++ candidate.validatorLimitations)
  { itemId := candidate.itemId
    rank := 0
    score := round (max 0 (min 1 (components.map (·.2)).sum)) 4
    scoreComponents := components
    reason := reasonOf purpose components limitations found
    limitations := limitations
    matchedTerms := found
    candidate := candidate
    purpose := purpose }

/-- `(-item.score, item.item_id)`. -/
def rankKey (ranked : RankedContextCandidate V) : ℚ ×ₗ Text := toLex (-ranked.score, ranked.itemId)

def rankContextCandidatesByPurpose (request : SearchByPurposeRequest V) :
    SearchByPurposeResponse V :=
  let (purpose, warnings) := normalizePurpose request.purpose
  let queryTerms := terms env request.query
  let ranked := sortOn rankKey (request.candidates.map (rankedCandidate env purpose queryTerms))
  let limited := ranked.take request.limit.toNat
  ⟨request.query, purpose, (limited.zipIdx 1).map fun entry => { entry.1 with rank := entry.2 },
    warnings⟩

/-! ## The context package -/

structure ContextCandidateBuildRequest (V : Type) where
  query : Text
  rankedCandidates : List (RankedContextCandidate V)
  maxCandidates : ℤ := 8
  maxContextChars : ℤ := 4000
  snippetChars : ℤ := 600

structure ContextEvidenceRef (V : Type) where
  evidenceId : ℕ
  evidenceKey : Text
  itemId : Text
  rank : ℕ
  score : ℚ
  snippet : Text
  sourceMetadata : List (Text × V)
  reason : Text
  limitations : List Text
deriving DecidableEq

structure ContextCandidatePackage (V : Type) where
  query : Text
  evidence : List (ContextEvidenceRef V)
  contextText : Text
  totalContextChars : ℕ
  truncated : Bool
  limitations : List Text
deriving DecidableEq

def dedupeRanked (candidates : List (RankedContextCandidate V)) :
    List (RankedContextCandidate V) :=
  sortOn rankKey (distinctOn (·.itemId) (sortOn rankKey candidates))

def evidenceKey (query itemId : Text) (rank : ℕ) : Text :=
  "B23-EVID-".toList ++
    env.digest12 (joinWith "|" ["b23".toList, query, itemId, digits rank])

def formatBlock (index : ℕ) (key : Text) (ranked : RankedContextCandidate V) (snippet : Text) :
    Text :=
  Text.strip (joinWith "\n" (
    [("[".toList ++ digits index ++ "] evidence_key=".toList ++ key ++ " item_id=".toList ++
        ranked.itemId ++ " rank=".toList ++ digits ranked.rank ++ " score=".toList ++
        fixed 4 ranked.score),
      "reason=".toList ++ ranked.reason] ++
    (if ranked.limitations = [] then []
      else ["limitations=".toList ++ joinWith "," ranked.limitations]) ++
    [snippet]))

/-- The loop variables of `build_context_candidates`. -/
structure PackState (V : Type) where
  refs : List (ContextEvidenceRef V) := []
  parts : List Text := []
  limitations : List Text := []
  truncated : Bool := false

/-- The loop over the selected candidates; a budget that is used up ends it. -/
def packLoop (request : ContextCandidateBuildRequest V) :
    ℕ → List (RankedContextCandidate V) → PackState V → PackState V
  | _, [], s => s
  | index, ranked :: rest, s =>
    let source := ranked.candidate.shown.strip
    let snippet := source.take request.snippetChars.toNat
    let limitations := s.limitations ++
      if snippet.length < source.length then ["snippet_truncated:".toList ++ ranked.itemId] else []
    let key := evidenceKey env request.query ranked.itemId ranked.rank
    let block := formatBlock index key ranked snippet
    let ref (snippet : Text) : ContextEvidenceRef V :=
      ⟨index, key, ranked.itemId, ranked.rank, ranked.score, snippet,
        ranked.candidate.sourceMetadata, ranked.reason, ranked.limitations⟩
    if request.maxContextChars < (joinWith "\n\n" (s.parts ++ [block])).length then
      if s.parts ≠ [] then
        { s with
          limitations := limitations ++ ["context_budget_exhausted".toList], truncated := true }
      else
        let width := request.maxContextChars.toNat
        { refs := s.refs ++ [ref (snippet.take width)]
          parts := s.parts ++ [block.take width]
          limitations := limitations ++ ["context_budget_truncated_first_item".toList]
          truncated := true }
    else
      packLoop request (index + 1) rest
        { s with
          refs := s.refs ++ [ref snippet], parts := s.parts ++ [block]
          limitations := limitations }

def buildContextCandidates (request : ContextCandidateBuildRequest V) :
    ContextCandidatePackage V :=
  let selected := (dedupeRanked request.rankedCandidates).take request.maxCandidates.toNat
  let s := packLoop env request 1 selected {}
  let contextText := joinWith "\n\n" s.parts
  { query := request.query
    evidence := s.refs
    contextText := contextText
    totalContextChars := contextText.length
    truncated := s.truncated
    limitations := dedupe (s.limitations ++ s.refs.flatMap (·.limitations)) }

end Search

end MemoryLab.SearchByPurpose

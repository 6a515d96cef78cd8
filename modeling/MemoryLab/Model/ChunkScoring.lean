import MemoryLab.Model.Chunking
import Mathlib.Data.Rat.Floor

/-! # Mechanical chunk scores

The constant mode, score kind, relevance and novelty of a result are not modelled. -/

namespace MemoryLab.ChunkScoring

open Library Chunking

/-- What is taken from Python: `\w`, `str.isalnum` and the first twelve digits of SHA-256. -/
structure Environment where
  isWord : Char → Bool
  isAlnum : Char → Bool
  digest12 : Text → Text

/-! ## Chunks as the chunker hands them out -/

inductive QualityFlag where
  | shortContent
  | lowInformationDensityCandidate
  | splitFromLongContent
  | qualityNotScoredByChunker
  | duplicateDetectionNotPerformed
deriving DecidableEq

/-- A chunk, which a caller may also have built. -/
structure ChunkRecord where
  chunkId : Text
  text : Text
  order : ℤ
  index : ℤ
  charStart : ℤ
  charEnd : ℤ
  charCount : ℤ
  sourceId : Text
  qualityFlags : List QualityFlag
  boundaryReason : String
  mode : String
  dataSource : String
  degraded : Bool
  limitations : List String

structure IngestionTextInput where
  text : Text
  itemId : Text
  dataSource : String

def syntheticDataSource : String := "synthetic_or_caller_supplied_text"

def deterministicChunkerMode : String := "deterministic_chunker_v1"

def BoundaryReason.value : BoundaryReason → String
  | .paragraphBoundary => "paragraph_boundary"
  | .newlineBoundary => "newline_boundary"
  | .sentenceBoundary => "sentence_boundary"
  | .listBoundary => "list_boundary"
  | .whitespaceBoundary => "whitespace_boundary"
  | .hardCharacterBoundary => "hard_character_boundary"
  | .hardBoundaryGuard => "hard_boundary_guard"
  | .finalChunk => "final_chunk"
  | .shortContentSingleChunk => "short_content_single_chunk"
  | .singleChunkWithinMax => "single_chunk_within_max"

def qualityFlags (env : Environment) (config : ChunkerConfig) (chunkText : Text)
    (sourceLength : ℕ) : List QualityFlag :=
  let stripped := chunkText.strip
  let alnumCount := stripped.countP env.isAlnum
  (if stripped.length < config.minChunkChars then [.shortContent] else []) ++
  (if stripped ≠ [] ∧ alnumCount < max 12 (stripped.length / 5) then
    [.lowInformationDensityCandidate] else []) ++
  (if config.maxChunkChars < sourceLength then [.splitFromLongContent] else []) ++
  [.qualityNotScoredByChunker, .duplicateDetectionNotPerformed]

def decimal (n : ℕ) : Text := (toString n).toList

def zeroPadded (width n : ℕ) : Text :=
  List.replicate (width - (decimal n).length) '0' ++ decimal n

/-- `_chunk_id`: the digest covers the fields joined by unit separators. -/
def chunkId (env : Environment) (sourceId : Text) (chunk : ContentChunk) : Text :=
  let digestSource := List.intercalate ['␟'] [sourceId, decimal chunk.text.length,
    decimal chunk.index, decimal chunk.charStart, decimal chunk.charEnd, chunk.text]
  sourceId ++ ":det-chunk-v1:".toList ++ zeroPadded 4 chunk.index ++ ":".toList ++
    zeroPadded 6 chunk.charStart ++ "-".toList ++ zeroPadded 6 chunk.charEnd ++ ":".toList ++
    env.digest12 digestSource

def makeChunk (env : Environment) (config : ChunkerConfig) (item : IngestionTextInput)
    (chunk : ContentChunk) : ChunkRecord where
  chunkId := chunkId env item.itemId chunk
  text := chunk.text
  order := chunk.index
  index := chunk.index
  charStart := chunk.charStart
  charEnd := chunk.charEnd
  charCount := chunk.text.length
  sourceId := item.itemId
  qualityFlags := qualityFlags env config chunk.text (normalizeLineEndings item.text).length
  boundaryReason := BoundaryReason.value chunk.boundaryReason
  mode := deterministicChunkerMode
  dataSource := if item.dataSource = "" then syntheticDataSource else item.dataSource
  degraded := false
  limitations := ["deterministic character chunk"]

/-- The chunks of `chunk_content` with all their fields. -/
def chunkRecords (env : Environment) (chunker : DeterministicContentChunker)
    (item : IngestionTextInput) : List ChunkRecord :=
  (chunkContent chunker item.text).chunks.map (makeChunk env chunker.config item)

/-! ## The scorer -/

structure ChunkScorerConfig where
  minChunkChars : ℕ := defaultMinChunkChars
  maxChunkChars : ℕ := defaultMaxChunkChars
  expectedOverlapChars : ℕ := defaultOverlapChars

/-- The source's check that the expected overlap is not negative is the type of `ℕ`. -/
def ChunkScorerConfig.validate (config : ChunkScorerConfig) : Except String Unit :=
  if config.minChunkChars < 1 then .error "min_chunk_chars must be positive"
  else if config.maxChunkChars < config.minChunkChars then
    .error "max_chunk_chars must be >= min_chunk_chars"
  else .ok ()

structure DeterministicChunkScorer where
  config : ChunkScorerConfig := {}
  validated : config.validate = .ok () := by rfl

inductive RiskFlag where
  | emptyChunk
  | whitespaceOnlyChunk
  | veryShortChunk
  | belowMinChunkChars
  | chunkExceedsMaxChars
  | highWhitespaceRatio
  | elevatedWhitespaceRatio
  | lowInformationDensity
  | lowAlnumRatio
  | repeatedTokenPattern
  | repeatedLinePattern
  | repeatedCharacterRun
  | weakBoundaryReason
  | boundaryGuardUsed
  | missingBoundaryReason
  | unknownBoundaryReason
  | missingChunkId
  | missingSourceId
  | missingMode
  | missingDataSource
  | charCountMismatch
  | invalidCharOffsets
  | negativeCharOffsets
  | chunkDegraded
  | chunkLimitationsPresent
  | nonMonotonicChunkOrder
  | nonMonotonicCharOffsets
  | gapBetweenAdjacentChunks
  | excessiveChunkOverlap
deriving DecidableEq

/-- The flag's text starts with `missing_`. -/
def RiskFlag.isMissing : RiskFlag → Bool
  | .missingBoundaryReason | .missingChunkId | .missingSourceId | .missingMode
  | .missingDataSource => true
  | _ => false

inductive Recommendation where
  | use
  | useWithCaution
  | review
  | block
deriving DecidableEq

inductive BoundaryQuality where
  | strong
  | acceptable
  | weak
  | blocked
  | missingOrUnknown
deriving DecidableEq

structure Signals where
  textLength : ℕ
  charCount : ℤ
  effectiveCharCount : ℤ
  charStart : ℤ
  charEnd : ℤ
  whitespaceRatio : ℚ
  alnumRatio : ℚ
  tokenCount : ℕ
  uniqueTokenRatio : ℚ
  hasRepeatedLinePattern : Bool
  hasRepeatedCharacterRun : Bool
  boundaryReason : String
  qualityFlagCount : ℕ
  metadataComplete : Bool
  boundaryQuality : Option BoundaryQuality := none
  chunkLimitationCount : Option ℕ := none
  batchRiskCount : Option ℕ := none

structure ChunkScoringResult where
  chunkId : Text
  quality : ℚ
  composite : ℚ
  confidence : ℚ
  rationale : String
  signals : Signals
  riskFlags : List RiskFlag
  recommendation : Recommendation
  dataSource : String
  degraded : Bool
  limitations : List String

def goodThreshold : ℚ := 80 / 100
def acceptableThreshold : ℚ := 60 / 100
def weakThreshold : ℚ := 30 / 100

def strongBoundaries : List String :=
  ["paragraph_boundary", "sentence_boundary", "final_chunk", "single_chunk_within_max"]

def acceptableBoundaries : List String :=
  ["newline_boundary", "list_boundary", "whitespace_boundary", "short_content_single_chunk"]

def weakBoundaries : List String := ["hard_character_boundary"]

def blockingBoundaries : List String := ["hard_boundary_guard"]

def defaultScorerLimitations : List String :=
  ["deterministic mechanical chunk scoring only", "no semantic scoring",
    "no semantic relevance", "no semantic novelty", "no semantic duplicate detection",
    "no language understanding", "no provider-backed intelligence", "no embedding operation",
    "no stored-record access", "no mutation methods"]

/-- `round(value, 6)`, which rounds halves to even. -/
def round6 (value : ℚ) : ℚ :=
  let scaled := value * 1000000
  let below := ⌊scaled⌋
  let fraction := scaled - below
  let nearest := if fraction < 1 / 2 then below else if 1 / 2 < fraction then below + 1
    else if below % 2 = 0 then below else below + 1
  nearest / 1000000

def ratio (numerator denominator : ℕ) : ℚ :=
  if denominator = 0 then 0 else round6 (numerator / denominator)

def clamp (value : ℚ) : ℚ := round6 (max 0 (min 1 value))

def recommendation (score : ℚ) : Recommendation :=
  if goodThreshold ≤ score then .use
  else if acceptableThreshold ≤ score then .useWithCaution
  else if weakThreshold ≤ score then .review
  else .block

def boundaryQuality (boundaryReason : String) : BoundaryQuality :=
  if boundaryReason ∈ strongBoundaries then .strong
  else if boundaryReason ∈ acceptableBoundaries then .acceptable
  else if boundaryReason ∈ weakBoundaries then .weak
  else if boundaryReason ∈ blockingBoundaries then .blocked
  else .missingOrUnknown

def effectiveCharCount (chunk : ChunkRecord) : ℤ :=
  if chunk.charCount ≠ 0 then chunk.charCount else chunk.text.length

/-- `(.)\1{9,}`. -/
def hasRepeatedCharacterRun (text : Text) : Bool :=
  text.tails.any fun rest => rest.head?.any fun c => (List.replicate 10 c).isPrefixOf rest

def signalsOf (env : Environment) (chunk : ChunkRecord) : Signals :=
  let tokens := (chunk.text.strip.lower.splitOnP fun c => !env.isWord c).filter (· ≠ [])
  let lineValues := (chunk.text.splitLines.map Text.strip).filter (· ≠ [])
  { textLength := chunk.text.length
    charCount := chunk.charCount
    effectiveCharCount := effectiveCharCount chunk
    charStart := chunk.charStart
    charEnd := chunk.charEnd
    whitespaceRatio := ratio (chunk.text.countP Text.isSpace) chunk.text.length
    alnumRatio := ratio (chunk.text.countP env.isAlnum) chunk.text.length
    tokenCount := tokens.length
    uniqueTokenRatio := ratio tokens.dedup.length tokens.length
    hasRepeatedLinePattern :=
      decide (3 ≤ lineValues.length) && decide (lineValues.dedup.length < lineValues.length)
    hasRepeatedCharacterRun := hasRepeatedCharacterRun chunk.text
    boundaryReason := chunk.boundaryReason
    qualityFlagCount := chunk.qualityFlags.length
    metadataComplete := decide (chunk.chunkId ≠ []) && decide (chunk.sourceId ≠ []) &&
      decide (chunk.boundaryReason ≠ "") }

/-- A risk and what it costs. -/
abbrev Penalty := RiskFlag × ℚ

def lengthPenalties (config : ChunkScorerConfig) (charCount : ℤ) : List Penalty :=
  if charCount < 20 then [(.veryShortChunk, 50 / 100)]
  else if charCount < config.minChunkChars then [(.belowMinChunkChars, 22 / 100)]
  else if config.maxChunkChars < charCount then [(.chunkExceedsMaxChars, 40 / 100)]
  else []

def whitespacePenalties (whitespaceRatio : ℚ) : List Penalty :=
  if 70 / 100 < whitespaceRatio then [(.highWhitespaceRatio, 35 / 100)]
  else if 45 / 100 < whitespaceRatio then [(.elevatedWhitespaceRatio, 15 / 100)]
  else []

def densityPenalties (alnumRatio : ℚ) : List Penalty :=
  if alnumRatio < 20 / 100 then [(.lowInformationDensity, 30 / 100)]
  else if alnumRatio < 35 / 100 then [(.lowAlnumRatio, 15 / 100)]
  else []

def repetitionPenalties (signals : Signals) : List Penalty :=
  (if 8 ≤ signals.tokenCount ∧ signals.uniqueTokenRatio < 30 / 100 then
    [(.repeatedTokenPattern, 20 / 100)] else []) ++
  (if signals.hasRepeatedLinePattern then [(.repeatedLinePattern, 20 / 100)] else []) ++
  (if signals.hasRepeatedCharacterRun then [(.repeatedCharacterRun, 12 / 100)] else [])

def boundaryPenalties (boundaryReason : String) : List Penalty :=
  if boundaryReason ∈ weakBoundaries then [(.weakBoundaryReason, 16 / 100)]
  else if boundaryReason ∈ blockingBoundaries then [(.boundaryGuardUsed, 32 / 100)]
  else if boundaryReason = "" then [(.missingBoundaryReason, 18 / 100)]
  else if boundaryReason ∉ strongBoundaries ∧ boundaryReason ∉ acceptableBoundaries then
    [(.unknownBoundaryReason, 12 / 100)]
  else []

def metadataRisks (chunk : ChunkRecord) (signals : Signals) : List RiskFlag :=
  (if chunk.chunkId = [] then [.missingChunkId] else []) ++
  (if chunk.sourceId = [] then [.missingSourceId] else []) ++
  (if chunk.mode = "" then [.missingMode] else []) ++
  (if chunk.dataSource = "" then [.missingDataSource] else []) ++
  (if chunk.charCount ≠ signals.textLength then [.charCountMismatch] else []) ++
  (if 0 < signals.textLength ∧ chunk.charEnd ≤ chunk.charStart then [.invalidCharOffsets]
    else []) ++
  (if chunk.charStart < 0 ∨ chunk.charEnd < 0 then [.negativeCharOffsets] else [])

def metadataPenalty : RiskFlag → Option ℚ
  | .missingChunkId | .invalidCharOffsets | .negativeCharOffsets => some (40 / 100)
  | .charCountMismatch => some (24 / 100)
  | .missingSourceId | .missingMode | .missingDataSource => some (8 / 100)
  | _ => none

def statePenalties (degraded : Bool) (limitationCount : ℕ) : List Penalty :=
  let degradedPenalties : List Penalty := if degraded then [(.chunkDegraded, 12 / 100)] else []
  let limitationPenalties : List Penalty :=
    if limitationCount = 0 then []
    else [(.chunkLimitationsPresent, min (18 / 100) (6 / 100 * limitationCount))]
  degradedPenalties ++ limitationPenalties

/-- `_dedupe`, which also drops empty texts. -/
def dedupe (values : List String) : List String := (values.filter (· ≠ "")).eraseDups

def result (chunk : ChunkRecord) (score : ℚ) (signals : Signals) (riskFlags : List RiskFlag)
    (rationale : String) : ChunkScoringResult where
  chunkId := chunk.chunkId
  quality := score
  composite := score
  confidence := if riskFlags.any RiskFlag.isMissing then 80 / 100 else 1
  rationale := rationale
  signals := signals
  riskFlags := riskFlags.eraseDups
  recommendation := recommendation score
  dataSource := if chunk.dataSource = "" then syntheticDataSource else chunk.dataSource
  degraded := decide (score < weakThreshold) ||
    (decide (riskFlags ≠ []) && decide (recommendation score = .block))
  limitations := dedupe (defaultScorerLimitations ++ chunk.limitations)

def scoreChunk (env : Environment) (scorer : DeterministicChunkScorer) (chunk : ChunkRecord) :
    ChunkScoringResult :=
  let signals := signalsOf env chunk
  if chunk.text = [] then
    result chunk 0 signals [.emptyChunk] "blocked: empty chunk text"
  else if chunk.text.strip = [] then
    result chunk 0 signals [.whitespaceOnlyChunk] "blocked: whitespace-only chunk text"
  else
    let textPenalties := lengthPenalties scorer.config (effectiveCharCount chunk) ++
      whitespacePenalties signals.whitespaceRatio ++ densityPenalties signals.alnumRatio ++
      repetitionPenalties signals ++ boundaryPenalties chunk.boundaryReason
    let flagsSoFar := textPenalties.map (·.1) ++ metadataRisks chunk signals
    let nonDefaultLimitations := chunk.limitations.filter fun limitation =>
      limitation ≠ "" && limitation ≠ "deterministic character chunk"
    let limitationCount := nonDefaultLimitations.length
    let remaining := statePenalties chunk.degraded limitationCount
    let riskFlags := flagsSoFar ++ remaining.map (·.1)
    let penalties := textPenalties.map (·.2) ++ flagsSoFar.filterMap metadataPenalty ++
      remaining.map (·.2)
    let score := clamp (1 - penalties.sum)
    let capped := if .invalidCharOffsets ∈ riskFlags ∨ .missingChunkId ∈ riskFlags then
      min score (29 / 100) else score
    result chunk capped
      { signals with
        boundaryQuality := some (boundaryQuality chunk.boundaryReason)
        chunkLimitationCount := some limitationCount }
      riskFlags.eraseDups "deterministic mechanical chunk scoring completed"

/-- What a chunk shows next to the one before it. -/
def adjacencyRisks (config : ChunkScorerConfig) (previous chunk : ChunkRecord) :
    List RiskFlag :=
  let overlap := previous.charEnd - chunk.charStart
  (if chunk.charStart < previous.charStart then [.nonMonotonicCharOffsets] else []) ++
  (if overlap < 0 then [.gapBetweenAdjacentChunks]
    else if config.expectedOverlapChars + 1 < overlap then [.excessiveChunkOverlap] else [])

def batchRisksFrom (config : ChunkScorerConfig) :
    ℕ → Option ChunkRecord → List ChunkRecord → List RiskFlag
  | _, _, [] => []
  | expectedIndex, previous, chunk :: chunks =>
    (if chunk.index ≠ expectedIndex ∨ chunk.order ≠ expectedIndex then
      [.nonMonotonicChunkOrder] else []) ++
    previous.elim [] (adjacencyRisks config · chunk) ++
    batchRisksFrom config (expectedIndex + 1) (some chunk) chunks

def batchRisks (scorer : DeterministicChunkScorer) (chunks : List ChunkRecord) :
    List RiskFlag :=
  (batchRisksFrom scorer.config 0 none chunks).eraseDups

def adjustForBatch (risks : List RiskFlag) (result : ChunkScoringResult) : ChunkScoringResult :=
  let score := clamp (result.quality - min (16 / 100) (8 / 100 * risks.length))
  { result with
    quality := score
    composite := score
    rationale := "deterministic mechanical chunk scoring completed with batch checks"
    signals := { result.signals with batchRiskCount := some risks.length }
    riskFlags := (result.riskFlags ++ risks).eraseDups
    recommendation := recommendation score
    degraded := result.degraded || decide (score < weakThreshold) }

def scoreChunks (env : Environment) (scorer : DeterministicChunkScorer)
    (chunks : List ChunkRecord) : List ChunkScoringResult :=
  let baseResults := chunks.map (scoreChunk env scorer)
  let risks := batchRisks scorer chunks
  if risks = [] then baseResults else baseResults.map (adjustForBatch risks)

end MemoryLab.ChunkScoring

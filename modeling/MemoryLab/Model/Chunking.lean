import MemoryLab.Library.Regex
import Mathlib.Data.List.MinMax

/-! # The deterministic content chunker

Chunk identifiers, quality flags and the constant mode and data-source fields are not
modelled: nothing below reads them. -/

namespace MemoryLab.Chunking

open Library Library.Pattern

def defaultTargetChunkChars : ℕ := 640
def defaultMaxChunkChars : ℕ := 900
def defaultMinChunkChars : ℕ := 80
def defaultOverlapChars : ℕ := 80
def defaultMaxChunksPerItem : ℕ := 1000

/-- The settings; the source's check that the overlap is not negative is the type of `ℕ`. -/
structure ChunkerConfig where
  targetChunkChars : ℕ := defaultTargetChunkChars
  maxChunkChars : ℕ := defaultMaxChunkChars
  minChunkChars : ℕ := defaultMinChunkChars
  overlapChars : ℕ := defaultOverlapChars
  maxChunksPerItem : ℕ := defaultMaxChunksPerItem
deriving DecidableEq

def ChunkerConfig.validate (config : ChunkerConfig) : Except String Unit :=
  if config.minChunkChars < 1 then
    .error "min_chunk_chars must be positive"
  else if config.targetChunkChars < config.minChunkChars then
    .error "target_chunk_chars must be >= min_chunk_chars"
  else if config.maxChunkChars < config.targetChunkChars then
    .error "max_chunk_chars must be >= target_chunk_chars"
  else if config.maxChunkChars ≤ config.overlapChars then
    .error "overlap_chars must be smaller than max_chunk_chars"
  else if config.maxChunksPerItem < 1 then
    .error "max_chunks_per_item must be positive"
  else .ok ()

/-- A chunker holds a configuration that passed validation. -/
structure DeterministicContentChunker where
  config : ChunkerConfig := {}
  validated : config.validate = .ok () := by rfl

inductive BoundaryReason where
  | paragraphBoundary
  | newlineBoundary
  | sentenceBoundary
  | listBoundary
  | whitespaceBoundary
  | hardCharacterBoundary
  | hardBoundaryGuard
  | finalChunk
  | shortContentSingleChunk
  | singleChunkWithinMax
deriving DecidableEq

structure Boundary where
  position : ℕ
  reason : BoundaryReason
  priority : ℕ
deriving DecidableEq

structure ContentChunk where
  index : ℕ
  text : Text
  charStart : ℕ
  charEnd : ℕ
  boundaryReason : BoundaryReason
deriving DecidableEq

structure ContentChunkingResult where
  chunks : List ContentChunk
  degraded : Bool
  limitations : List String
  rationale : String
deriving DecidableEq

/-! ## Boundaries -/

def newline : Pattern := char '\n'

def paragraphPattern : Pattern :=
  seq newline (seq (many Text.isSpace) (plus (· == '\n')))

def sentencePattern : Pattern :=
  alt (seq (one (· ∈ ['.', '!', '?'])) (plus Text.isSpace)) (one (· ∈ ['。', '！', '？']))

def listPattern : Pattern :=
  seq newline (seq (many Text.isSpace)
    (seq (alt (one (· ∈ ['-', '*'])) (seq (plus Text.isDecimal) (char '.')))
      (plus Text.isSpace)))

def whitespacePattern : Pattern := plus Text.isSpace

def boundaryCandidates (text : Text) (start maxPos : ℕ) : List Boundary :=
  let window := text.slice start maxPos
  (paragraphPattern.finditer window).map (⟨start + ·.stop, .paragraphBoundary, 1⟩) ++
  (newline.finditer window).map (⟨start + ·.stop, .newlineBoundary, 2⟩) ++
  (sentencePattern.finditer window).map (⟨start + ·.stop, .sentenceBoundary, 3⟩) ++
  (listPattern.finditer window).map (⟨start + ·.start, .listBoundary, 4⟩) ++
  (whitespacePattern.finditer window).map (⟨start + ·.stop, .whitespaceBoundary, 5⟩)

/-- The candidate of one priority that is closest to the target, earlier ones first. -/
def chooseAmong (candidates : List Boundary) (targetPos priority : ℕ) : Option Boundary :=
  let priorityCandidates := candidates.filter (·.priority == priority)
  match (priorityCandidates.filter (·.position ≤ targetPos)).argmax (·.position) with
  | some chosen => some chosen
  | none => (priorityCandidates.filter (targetPos < ·.position)).argmin (·.position)

def chooseEnd (config : ChunkerConfig) (text : Text) (start : ℕ) : ℕ × BoundaryReason :=
  let textLength := text.length
  if textLength - start ≤ config.maxChunkChars then (textLength, .finalChunk)
  else
    let minPos := min textLength (start + config.minChunkChars)
    let targetPos := min textLength (start + config.targetChunkChars)
    let maxPos := min textLength (start + config.maxChunkChars)
    let candidates := (boundaryCandidates text start maxPos).filter fun boundary =>
      minPos ≤ boundary.position && boundary.position ≤ maxPos
    match [1, 2, 3, 4, 5].findSome? (chooseAmong candidates targetPos) with
    | some chosen => (chosen.position, chosen.reason)
    | none => (maxPos, .hardCharacterBoundary)

/-! ## The chunk loop -/

/-- The chunk one iteration appends. -/
def chunkAt (config : ChunkerConfig) (text : Text) (index start : ℕ) : ContentChunk :=
  let chosen := chooseEnd config text start
  let stop := if chosen.1 ≤ start then min text.length (start + config.maxChunkChars)
    else chosen.1
  let chunkText := text.slice start stop
  let reason :=
    if text.length ≤ config.maxChunkChars then
      if chunkText.length < config.minChunkChars then .shortContentSingleChunk
      else .singleChunkWithinMax
    else if chosen.1 ≤ start then .hardBoundaryGuard else chosen.2
  ⟨index, chunkText, start, stop, reason⟩

/-- Where the next iteration starts: back by the overlap, unless that makes no progress. -/
def nextStart (config : ChunkerConfig) (start stop : ℕ) : ℕ :=
  if stop - config.overlapChars ≤ start then stop else stop - config.overlapChars

/-- The `while` loop with `budget` chunks left before the guard, and whether the guard hit. -/
def chunkLoop (config : ChunkerConfig) (text : Text) : ℕ → ℕ → ℕ → List ContentChunk × Bool
  | 0, _, start => ([], start < text.length)
  | budget + 1, index, start =>
    if start < text.length then
      let chunk := chunkAt config text index start
      if text.length ≤ chunk.charEnd then ([chunk], false)
      else
        let rest := chunkLoop config text budget (index + 1) (nextStart config start chunk.charEnd)
        (chunk :: rest.1, rest.2)
    else ([], false)

def replaceCrLf : Text → Text
  | '\r' :: '\n' :: cs => '\n' :: replaceCrLf cs
  | c :: cs => c :: replaceCrLf cs
  | [] => []

def normalizeLineEndings (text : Text) : Text :=
  (replaceCrLf text).map fun c => if c = '\r' then '\n' else c

def baseLimitations : List String :=
  ["deterministic character chunker", "no provider calls", "no stored-record access",
    "no vector operation", "no mutation methods"]

def chunkContent (chunker : DeterministicContentChunker) (itemText : Text) :
    ContentChunkingResult :=
  let text := normalizeLineEndings itemText
  if text = [] then
    ⟨[], true, baseLimitations ++ ["empty_content"], "empty content produced zero chunks"⟩
  else if text.strip = [] then
    ⟨[], true, baseLimitations ++ ["whitespace_only_content"],
      "whitespace-only content produced zero chunks"⟩
  else
    let (chunks, guardHit) := chunkLoop chunker.config text chunker.config.maxChunksPerItem 0 0
    ⟨chunks, guardHit, baseLimitations ++ if guardHit then ["max_chunk_count_reached"] else [],
      "deterministic character chunking completed"⟩

/-- `chunk_text` of a chunker with the default configuration. -/
def chunkText (text : Text) : ContentChunkingResult := chunkContent {} text

end MemoryLab.Chunking

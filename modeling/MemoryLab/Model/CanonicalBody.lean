import MemoryLab.Model.Chunking
import Mathlib.Data.List.Sort

/-! # Canonical-body reconstruction from persisted chunks -/

namespace MemoryLab.CanonicalBody

open Library Chunking

inductive Fidelity where
  | hashVerified
  | unverifiable
  | unavailable
deriving DecidableEq

inductive Reason where
  | missingStoredContentHash
  | emptyBodyHashMatch
  | noPersistedChunks
  | duplicateChunkIndex
  | chunkIndexGap
  | verifiedReconstruction
  | hashMismatch
  | hashMismatchPossibleMaxChunkTruncation
deriving DecidableEq

structure PersistedChunk where
  index : ℤ
  text : Text
deriving DecidableEq

structure ReconstructionResult (Hash : Type*) where
  candidate : Option Text
  fidelity : Fidelity
  reason : Reason
  computedHash : Option Hash
deriving DecidableEq

/-- The structural check of the index set: a reason, or `none` if it is sound. -/
def validateIndexSet (chunks : List PersistedChunk) : Option Reason :=
  let indices := chunks.map (·.index)
  if indices.dedup.length ≠ indices.length then some .duplicateChunkIndex
  else if indices.insertionSort (· ≤ ·) ≠ (List.range indices.length).map Int.ofNat then
    some .chunkIndexGap
  else none

/-- One step of the stitcher: `text[overlap:]` is appended when the guessed overlap fits. -/
def stitchStep (overlapChars : ℕ) (result text : Text) : Text :=
  if 0 < overlapChars ∧ overlapChars ≤ result.length ∧ overlapChars ≤ text.length ∧
      result.drop (result.length - overlapChars) = text.take overlapChars then
    result ++ text.drop overlapChars
  else result ++ text

def stitch (overlapChars : ℕ) : List Text → Text
  | [] => []
  | first :: rest => rest.foldl (stitchStep overlapChars) first

variable {Hash : Type*} [DecidableEq Hash]

/-- An overlap that is not positive joins nothing, as zero does. -/
def reconstructCanonicalBody (sha256Hex : Text → Hash) (chunks : List PersistedChunk)
    (storedContentHash : Option Hash) (overlapChars : ℤ := defaultOverlapChars)
    (maxChunksGuard : ℤ := defaultMaxChunksPerItem) : ReconstructionResult Hash :=
  match storedContentHash with
  | none => ⟨none, .unavailable, .missingStoredContentHash, none⟩
  | some stored =>
    if chunks = [] then
      if stored = sha256Hex [] then
        ⟨some [], .hashVerified, .emptyBodyHashMatch, some (sha256Hex [])⟩
      else ⟨none, .unavailable, .noPersistedChunks, none⟩
    else match validateIndexSet chunks with
    | some invalidReason => ⟨none, .unverifiable, invalidReason, none⟩
    | none =>
      let ordered := (chunks.insertionSort (·.index ≤ ·.index)).map (·.text)
      let candidate := stitch overlapChars.toNat ordered
      let computed := sha256Hex candidate
      if computed = stored then
        ⟨some candidate, .hashVerified, .verifiedReconstruction, some computed⟩
      else
        ⟨none, .unverifiable,
          if maxChunksGuard ≤ chunks.length then .hashMismatchPossibleMaxChunkTruncation
          else .hashMismatch, some computed⟩

end MemoryLab.CanonicalBody

import MemoryLab.Model.CanonicalBody
import MemoryLab.Verification.Chunking.Trace

/-! # Chunking followed by reconstruction

The stitcher sees only the chunk texts. Its guess undoes the split except where the chunker
fell back to zero overlap after a chunk of exactly the overlap's length and the text repeats
that chunk. -/

namespace MemoryLab.CanonicalBody

open Library Chunking

/-- The earlier chunk has the overlap's length, so the chunker fell back to zero overlap,
and the later chunk starts with the same characters. -/
def RepeatsFallback (overlapChars : ℕ) (earlier later : ContentChunk) : Prop :=
  earlier.text.length = overlapChars ∧ earlier.text <+: later.text

instance (overlapChars : ℕ) (earlier later : ContentChunk) :
    Decidable (RepeatsFallback overlapChars earlier later) :=
  inferInstanceAs (Decidable (_ ∧ _))

/-- The number of adjacent chunks at which the stitcher guesses wrong. -/
def repeatedFallbacks (overlapChars : ℕ) : List ContentChunk → ℕ
  | earlier :: later :: rest =>
    (if RepeatsFallback overlapChars earlier later then 1 else 0) +
      repeatedFallbacks overlapChars (later :: rest)
  | _ => 0

theorem repeatedFallbacks_eq_zero (overlapChars : ℕ) (chunks : List ContentChunk) :
    repeatedFallbacks overlapChars chunks = 0 ↔
      chunks.IsChain fun earlier later => ¬ RepeatsFallback overlapChars earlier later := by
  fun_induction repeatedFallbacks overlapChars chunks with
  | case1 earlier later rest ih =>
      rw [List.isChain_cons_cons, ← ih]
      split_ifs with h <;> simp [h]
  | case2 chunks hshort =>
      match chunks, hshort with
      | [], _ => simp
      | [_], _ => simp
      | _ :: _ :: _, hshort => exact absurd rfl (hshort _ _ _)

/-! ## One step of the stitcher -/

/-- Overlapping chunks: the guess succeeds and the shared characters are dropped once. -/
theorem stitchStep_overlap {overlapChars : ℕ} (front shared rest : Text)
    (hshared : shared.length = overlapChars) :
    stitchStep overlapChars (front ++ shared) (shared ++ rest) = front ++ shared ++ rest := by
  subst hshared
  unfold stitchStep
  by_cases hpos : 0 < shared.length
  · rw [if_pos ⟨hpos, by simp, by simp, by simp⟩, List.drop_left]
  · have hnil : shared = [] := by simpa using hpos
    simp [hnil]

/-- Adjacent chunks of which the earlier is not repeated are concatenated. -/
theorem stitchStep_fallback {overlapChars : ℕ} (front earlier later : Text)
    (hlength : earlier.length = overlapChars) (hrepeat : ¬ earlier <+: later) :
    stitchStep overlapChars (front ++ earlier) later = front ++ earlier ++ later := by
  unfold stitchStep
  rw [if_neg]
  rintro ⟨-, -, -, hsame⟩
  have htail : (front ++ earlier).drop ((front ++ earlier).length - overlapChars) = earlier := by
    rw [← hlength, List.length_append, Nat.add_sub_cancel, List.drop_left]
  rw [htail] at hsame
  exact hrepeat (hsame ▸ List.take_prefix overlapChars later)

/-! ## The whole fold -/

/-- The stitched body behind any `front` that ends with the first chunk: every wrong guess
loses one overlap, and without a wrong guess the rest of the text comes back. -/
theorem foldl_stitchStep_covers {config : ChunkerConfig} (hvalid : config.validate = .ok ())
    (hoverlap : config.overlapChars ≤ config.minChunkChars) {text : Text} {index start : ℕ}
    {chunks : List ContentChunk} (h : Covers config text index start chunks) :
    ∀ front chunk rest, chunks = chunk :: rest →
      ((rest.map (·.text)).foldl (stitchStep config.overlapChars) (front ++ chunk.text)).length +
          config.overlapChars * repeatedFallbacks config.overlapChars chunks =
        front.length + (text.length - start) ∧
      (repeatedFallbacks config.overlapChars chunks = 0 →
        (rest.map (·.text)).foldl (stitchStep config.overlapChars) (front ++ chunk.text) =
          front ++ text.drop start) := by
  induction h with
  | @last index start hstart hend =>
      rintro front chunk rest ⟨⟩
      have hspec := chunkAt_spec hvalid index hstart
      have hstop : (chunkAt config text index start).charEnd = text.length :=
        le_antisymm hspec.end_le hend
      have htext : (chunkAt config text index start).text = text.drop start := by
        rw [hspec.text_eq, hstop, Text.slice_length]
        rfl
      simp [repeatedFallbacks, htext]
  | @step index start later hstart hend hrest ih =>
      rintro front chunk rest ⟨⟩
      have hspec := chunkAt_spec hvalid index hstart
      obtain ⟨next, tail, rfl, hnext, hnextSpec⟩ := hrest.head_spec hvalid
      generalize hchunk : chunkAt config text index start = chunk at *
      have hcs : chunk.charStart = start := by rw [← hchunk]; rfl
      have hlen := hspec.length_text
      have hlong := hspec.long hend
      simp only [List.map_cons, List.foldl_cons, repeatedFallbacks]
      by_cases hback : chunk.charEnd - config.overlapChars ≤ start
      · -- zero overlap: the chunk is exactly as long as the overlap
        have hns : nextStart config start chunk.charEnd = chunk.charEnd := if_pos hback
        rw [hns] at hnext
        have hexact : chunk.text.length = config.overlapChars := by omega
        by_cases hrepeat : chunk.text <+: next.text
        · obtain ⟨suffix, hsuffix⟩ := hrepeat
          have hstep : stitchStep config.overlapChars (front ++ chunk.text) next.text =
              front ++ next.text := by
            rw [← hsuffix, stitchStep_overlap front chunk.text suffix hexact, List.append_assoc]
          obtain ⟨hl, -⟩ := ih front next tail rfl
          rw [hstep, if_pos ⟨hexact, suffix, hsuffix⟩]
          refine ⟨?_, by omega⟩
          rw [hns] at hl
          rw [Nat.mul_add]
          omega
        · rw [stitchStep_fallback front chunk.text next.text hexact hrepeat,
            if_neg (fun hboth => hrepeat hboth.2)]
          obtain ⟨hl, heq⟩ := ih (front ++ chunk.text) next tail rfl
          rw [hns, List.length_append] at hl
          refine ⟨by rw [Nat.zero_add]; omega, fun hzero => ?_⟩
          rw [Nat.zero_add] at hzero
          rw [heq hzero, hns, hspec.text_eq, hcs, List.append_assoc,
            Text.slice_append_drop text (by omega)]
      · have hns : nextStart config start chunk.charEnd =
            chunk.charEnd - config.overlapChars := if_neg hback
        rw [hns] at hnext
        have hchunkSplit : chunk.text =
            text.slice start (chunk.charEnd - config.overlapChars) ++
              text.slice (chunk.charEnd - config.overlapChars) chunk.charEnd := by
          rw [hspec.text_eq, hcs, Text.slice_append_slice text (by omega) (by omega)]
        have hreach : chunk.charEnd ≤ next.charEnd := by
          by_cases hlast : next.charEnd < text.length
          · have := hnextSpec.long hlast
            omega
          · omega
        have hnextSplit : next.text =
            text.slice (chunk.charEnd - config.overlapChars) chunk.charEnd ++
              text.slice chunk.charEnd next.charEnd := by
          rw [hnextSpec.text_eq, hnext, Text.slice_append_slice text (by omega) hreach]
        have hstep : stitchStep config.overlapChars (front ++ chunk.text) next.text =
            (front ++ text.slice start (chunk.charEnd - config.overlapChars)) ++ next.text := by
          rw [hchunkSplit, hnextSplit, ← List.append_assoc, stitchStep_overlap,
            ← List.append_assoc]
          rw [Text.length_slice _ _ _ hspec.end_le]
          omega
        have hnot : ¬ RepeatsFallback config.overlapChars chunk next := by
          rintro ⟨hexact, -⟩
          omega
        obtain ⟨hl, heq⟩ :=
          ih (front ++ text.slice start (chunk.charEnd - config.overlapChars)) next tail rfl
        rw [hns, List.length_append, Text.length_slice _ _ _ (by omega)] at hl
        rw [hstep, if_neg hnot, Nat.zero_add]
        refine ⟨by omega, fun hzero => ?_⟩
        rw [heq hzero, hns, List.append_assoc, Text.slice_append_drop text (by omega)]

/-- The stitched body of a covering chunk sequence. -/
theorem stitch_covers {config : ChunkerConfig} (hvalid : config.validate = .ok ())
    (hoverlap : config.overlapChars ≤ config.minChunkChars) {text : Text}
    {chunks : List ContentChunk} (h : Covers config text 0 0 chunks) :
    (stitch config.overlapChars (chunks.map (·.text))).length +
        config.overlapChars * repeatedFallbacks config.overlapChars chunks = text.length ∧
      (repeatedFallbacks config.overlapChars chunks = 0 →
        stitch config.overlapChars (chunks.map (·.text)) = text) := by
  obtain ⟨chunk, rest, rfl, -, -⟩ := h.head_spec hvalid
  simpa [stitch] using foldl_stitchStep_covers hvalid hoverlap h [] chunk rest rfl

/-! ## Reconstruction -/

/-- The `(index, text)` pairs that a chunking result persists. -/
def persistedChunks (result : ContentChunkingResult) : List PersistedChunk :=
  result.chunks.map fun chunk => ⟨chunk.index, chunk.text⟩

theorem pairwise_indices (n : ℕ) : ((List.range n).map Int.ofNat).Pairwise (· ≤ ·) := by
  rw [List.pairwise_map]
  exact List.pairwise_le_range.imp Int.ofNat_le.mpr

theorem validateIndexSet_of_range {chunks : List PersistedChunk}
    (h : chunks.map (·.index) = (List.range chunks.length).map Int.ofNat) :
    validateIndexSet chunks = none := by
  have hnodup : (chunks.map (·.index)).dedup = chunks.map (·.index) := by
    rw [List.dedup_eq_self, h]
    exact List.nodup_range.map Int.ofNat_injective
  have hsorted : (chunks.map (·.index)).insertionSort (· ≤ ·) = chunks.map (·.index) := by
    apply List.Pairwise.insertionSort_eq
    rw [h]
    exact pairwise_indices _
  simp only [validateIndexSet, hnodup, hsorted]
  simp [h]

theorem insertionSort_of_range {chunks : List PersistedChunk}
    (h : chunks.map (·.index) = (List.range chunks.length).map Int.ofNat) :
    chunks.insertionSort (·.index ≤ ·.index) = chunks := by
  apply List.Pairwise.insertionSort_eq
  rw [← List.pairwise_map (f := fun chunk : PersistedChunk => chunk.index), h]
  exact pairwise_indices _

variable {Hash : Type*} [DecidableEq Hash]

/-- With contiguous indices the outcome is decided by the hash of the stitched texts. -/
theorem reconstruct_of_range (sha256Hex : Text → Hash) {chunks : List PersistedChunk}
    (hne : chunks ≠ []) (h : chunks.map (·.index) = (List.range chunks.length).map Int.ofNat)
    (stored : Hash) :
    (sha256Hex (stitch defaultOverlapChars (chunks.map (·.text))) = stored →
      reconstructCanonicalBody sha256Hex chunks (some stored) =
        ⟨some (stitch defaultOverlapChars (chunks.map (·.text))), .hashVerified,
          .verifiedReconstruction, some stored⟩) ∧
      (sha256Hex (stitch defaultOverlapChars (chunks.map (·.text))) ≠ stored →
        (reconstructCanonicalBody sha256Hex chunks (some stored)).fidelity = .unverifiable ∧
        (reconstructCanonicalBody sha256Hex chunks (some stored)).candidate = none) := by
  simp only [reconstructCanonicalBody, hne, if_false, validateIndexSet_of_range h,
    insertionSort_of_range h, Int.toNat_natCast]
  constructor
  · intro heq
    rw [if_pos heq, heq]
  · intro hdiff
    rw [if_neg hdiff]
    exact ⟨rfl, rfl⟩

/-- The body of a default chunking is verified unless some chunk of exactly the overlap's
length is a prefix of its successor, and then reconstruction fails closed. -/
theorem reconstruct_chunkText (sha256Hex : Text → Hash)
    (hinj : Function.Injective sha256Hex) (text : Text) (hcr : '\r' ∉ text)
    (hvisible : ∃ c ∈ text, Text.isSpace c = false)
    (hguard : (chunkText text).degraded = false) :
    ((chunkText text).chunks.IsChain
        (fun earlier later => ¬ (earlier.text.length = 80 ∧ earlier.text <+: later.text)) →
      reconstructCanonicalBody sha256Hex (persistedChunks (chunkText text))
          (some (sha256Hex text)) =
        ⟨some text, .hashVerified, .verifiedReconstruction, some (sha256Hex text)⟩) ∧
    (¬ (chunkText text).chunks.IsChain
        (fun earlier later => ¬ (earlier.text.length = 80 ∧ earlier.text <+: later.text)) →
      (reconstructCanonicalBody sha256Hex (persistedChunks (chunkText text))
          (some (sha256Hex text))).fidelity = .unverifiable ∧
      (reconstructCanonicalBody sha256Hex (persistedChunks (chunkText text))
          (some (sha256Hex text))).candidate = none) := by
  have hstrip : text.strip ≠ [] := Text.strip_ne_nil hvisible
  have hcovers := chunkContent_covers {} text hcr hstrip hguard
  change Covers _ text 0 0 (chunkText text).chunks at hcovers
  have hstitched := stitch_covers rfl le_rfl hcovers
  have hlength : (stitch 80 ((chunkText text).chunks.map (·.text))).length +
      80 * repeatedFallbacks 80 (chunkText text).chunks = text.length := hstitched.1
  have hexact : repeatedFallbacks 80 (chunkText text).chunks = 0 →
      stitch 80 ((chunkText text).chunks.map (·.text)) = text := hstitched.2
  have htexts : (persistedChunks (chunkText text)).map (·.text) =
      (chunkText text).chunks.map (·.text) := by
    simp [persistedChunks]
  have hindices : (persistedChunks (chunkText text)).map (·.index) =
      (List.range (persistedChunks (chunkText text)).length).map Int.ofNat := by
    rw [persistedChunks, List.length_map, List.range_eq_range', ← hcovers.indices, List.map_map,
      List.map_map]
    rfl
  have hne : persistedChunks (chunkText text) ≠ [] := by
    obtain ⟨chunk, rest, hchunks, -, -⟩ := hcovers.head_spec rfl
    simp [persistedChunks, hchunks]
  obtain ⟨hverified, hclosed⟩ := reconstruct_of_range sha256Hex hne hindices (sha256Hex text)
  rw [htexts] at hverified hclosed
  constructor
  · intro hchain
    have hstitch := hexact ((repeatedFallbacks_eq_zero 80 _).mpr hchain)
    have h := hverified (congrArg sha256Hex hstitch)
    rwa [show stitch defaultOverlapChars _ = text from hstitch] at h
  · intro hrepeat
    have hcount : repeatedFallbacks 80 (chunkText text).chunks ≠ 0 :=
      fun hzero => hrepeat ((repeatedFallbacks_eq_zero 80 _).mp hzero)
    refine hclosed fun heq => ?_
    have hsame : (stitch 80 ((chunkText text).chunks.map (·.text))).length = text.length :=
      congrArg List.length (hinj heq)
    omega

theorem reconstruct_chunkText_note :
    reconstructCanonicalBody id (persistedChunks (chunkText "a note".toList))
        (some "a note".toList) =
      ⟨some "a note".toList, .hashVerified, .verifiedReconstruction, some "a note".toList⟩ :=
  (reconstruct_chunkText id Function.injective_id "a note".toList (by decide)
    ⟨'a', by decide, by decide⟩ (by decide)).1 (by decide)

/-- Two equal 80-character passages before a long run of blanks: the first is cut off as a
chunk of its own, the second is taken for the overlap. -/
def repeatedPassage : Text :=
  List.replicate 79 'a' ++ ' ' :: List.replicate 79 'a' ++ List.replicate 800 ' '

theorem reconstruct_repeatedPassage :
    '\r' ∉ repeatedPassage ∧ (∃ c ∈ repeatedPassage, Text.isSpace c = false) ∧
      (chunkText repeatedPassage).degraded = false ∧
      (reconstructCanonicalBody id (persistedChunks (chunkText repeatedPassage))
        (some repeatedPassage)).fidelity ≠ .hashVerified ∧
      (reconstructCanonicalBody id (persistedChunks (chunkText repeatedPassage))
        (some repeatedPassage)).candidate = none := by
  refine ⟨by decide +kernel, ⟨'a', by decide +kernel, by decide⟩, by decide +kernel,
    by decide +kernel, by decide +kernel⟩

end MemoryLab.CanonicalBody

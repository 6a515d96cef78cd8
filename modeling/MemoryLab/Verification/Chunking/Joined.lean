import MemoryLab.Model.Save
import MemoryLab.Verification.Chunking.Trace

/-! # Stored chunks joined with blank lines

Overlaps come twice in the joined text, so it is the body only when there is one chunk. -/

namespace MemoryLab.Chunking

open Library Adapter

/-- The stored chunks of a body, joined. -/
def joinedBody (content : Text) : Text :=
  "\n\n".toList.intercalate ((bodyRows content).map (·.2))

/-! ## How many chunks there are -/

variable {config : ChunkerConfig} {text : Text} {index start : ℕ} {chunks : List ContentChunk}

theorem Covers.length_pos (h : Covers config text index start chunks) : 1 ≤ chunks.length := by
  cases h <;> simp

/-- A run makes one chunk exactly when what is left fits into one. -/
theorem Covers.length_eq_one_iff (hvalid : config.validate = .ok ())
    (h : Covers config text index start chunks) :
    chunks.length = 1 ↔ text.length - start ≤ config.maxChunkChars := by
  have hbounds := config.bounds_of_validate hvalid
  have hchosen := chooseEnd_spec config text start (by omega)
  cases h with
  | last hstart hend =>
      rw [chunkAt_charEnd hvalid index hstart] at hend
      simp only [List.length_singleton, true_iff]
      omega
  | step hstart hend hrest =>
      have hpos := hrest.length_pos
      rw [chunkAt_charEnd hvalid index hstart] at hend
      simp only [List.length_cons]
      omega

/-- The chunks hold all that is left. -/
theorem Covers.length_le (hvalid : config.validate = .ok ())
    (h : Covers config text index start chunks) :
    text.length - start ≤ ((chunks.map (·.text)).map (·.length)).sum := by
  induction h with
  | @last index start hstart hend =>
      have hspec := chunkAt_spec hvalid index hstart
      have hlength := hspec.length_text
      have hcs : (chunkAt config text index start).charStart = start := rfl
      simp only [List.map_cons, List.map_nil, List.sum_cons, List.sum_nil]
      omega
  | @step index start rest hstart hend hrest ih =>
      have hspec := chunkAt_spec hvalid index hstart
      have hlength := hspec.length_text
      have hcs : (chunkAt config text index start).charStart = start := rfl
      have hnext := nextStart_le config start (chunkAt config text index start).charEnd
      simp only [List.map_cons, List.sum_cons]
      omega

/-- Every chunk is a part of the text. -/
theorem Covers.infix_text (hvalid : config.validate = .ok ())
    (h : Covers config text index start chunks) : ∀ chunk ∈ chunks, chunk.text <:+: text := by
  have hone : ∀ {index start}, start < text.length →
      (chunkAt config text index start).text <:+: text := by
    intro index start hstart
    rw [(chunkAt_spec hvalid index hstart).text_eq, Text.slice]
    exact (List.take_prefix _ _).isInfix.trans (List.drop_suffix _ _).isInfix
  induction h with
  | last hstart hend =>
      intro chunk hchunk
      rw [List.mem_singleton.mp hchunk]
      exact hone hstart
  | step hstart hend hrest ih =>
      intro chunk hchunk
      rcases List.mem_cons.mp hchunk with rfl | hchunk
      · exact hone hstart
      · exact ih chunk hchunk

/-- Every character that is left is in a chunk. -/
theorem Covers.exists_mem (hvalid : config.validate = .ok ())
    (h : Covers config text index start chunks) {c : Char} (hc : c ∈ text.drop start) :
    ∃ chunk ∈ chunks, c ∈ chunk.text := by
  induction h with
  | @last index start hstart hend =>
      have hspec := chunkAt_spec hvalid index hstart
      have hstop : (chunkAt config text index start).charEnd = text.length :=
        le_antisymm hspec.end_le hend
      refine ⟨_, List.mem_singleton_self _, ?_⟩
      rw [hspec.text_eq, hstop, Text.slice_length]
      exact hc
  | @step index start rest hstart hend hrest ih =>
      have hspec := chunkAt_spec hvalid index hstart
      have hsplit := Text.slice_append_drop text hspec.progress.le
      have hcs : (chunkAt config text index start).charStart = start := rfl
      rw [hcs] at hsplit
      rw [← hsplit] at hc
      rcases List.mem_append.mp hc with hc | hc
      · exact ⟨_, List.mem_cons_self, by rw [hspec.text_eq]; exact hc⟩
      · have hnext := nextStart_le config start (chunkAt config text index start).charEnd
        obtain ⟨chunk, hchunk, hmem⟩ := ih ((List.drop_suffix_drop_left text hnext).subset hc)
        exact ⟨chunk, List.mem_cons_of_mem _ hchunk, hmem⟩

theorem Covers.text_ne_nil (hvalid : config.validate = .ok ())
    (h : Covers config text index start chunks) : ∀ chunk ∈ chunks, chunk.text ≠ [] := by
  have hone : ∀ {index start}, start < text.length →
      (chunkAt config text index start).text ≠ [] := by
    intro index start hstart
    have hspec := chunkAt_spec hvalid index hstart
    have hlength := hspec.length_text
    have hprogress := hspec.progress
    exact List.length_pos_iff.mp (by omega)
  induction h with
  | last hstart hend =>
      intro chunk hchunk
      rw [List.mem_singleton.mp hchunk]
      exact hone hstart
  | step hstart hend hrest ih =>
      intro chunk hchunk
      rcases List.mem_cons.mp hchunk with rfl | hchunk
      · exact hone hstart
      · exact ih chunk hchunk

/-! ## The stored rows -/

variable {content : Text}

theorem chunkText_covers (hcr : '\r' ∉ content) (hvisible : content.strip ≠ [])
    (hguard : (chunkText content).degraded = false) :
    Covers {} content 0 0 (chunkText content).chunks :=
  chunkContent_covers {} content hcr hvisible hguard

theorem bodyRows_of_visible (hcr : '\r' ∉ content) (hvisible : content.strip ≠ [])
    (hguard : (chunkText content).degraded = false) :
    bodyRows content = (chunkText content).chunks.map fun chunk => (chunk.index, chunk.text) := by
  have hcovers := chunkText_covers hcr hvisible hguard
  have hne : (chunkText content).chunks.map (fun chunk => (chunk.index, chunk.text)) ≠ [] := by
    intro hnil
    have hpos := hcovers.length_pos
    rw [List.map_eq_nil_iff.mp hnil] at hpos
    simp at hpos
  rw [bodyRows, bodyChunks, if_neg hne, List.filter_eq_self]
  intro row hrow
  obtain ⟨chunk, hchunk, rfl⟩ := List.mem_map.mp hrow
  simpa using hcovers.text_ne_nil rfl chunk hchunk

theorem joinedBody_of_visible (hcr : '\r' ∉ content) (hvisible : content.strip ≠ [])
    (hguard : (chunkText content).degraded = false) :
    joinedBody content =
      "\n\n".toList.intercalate ((chunkText content).chunks.map (·.text)) := by
  rw [joinedBody, bodyRows_of_visible hcr hvisible hguard, List.map_map]
  rfl

/-- The joined chunks are the body exactly when the body is one chunk. -/
theorem joinedBody_eq_iff (hcr : '\r' ∉ content) (hvisible : content.strip ≠ [])
    (hguard : (chunkText content).degraded = false) :
    joinedBody content = content ↔ content.length ≤ 900 := by
  have hcovers := chunkText_covers hcr hvisible hguard
  have hone := hcovers.length_eq_one_iff rfl
  rw [joinedBody_of_visible hcr hvisible hguard]
  change _ ↔ content.length - 0 ≤ 900 at hone
  constructor
  · intro hjoined
    by_contra hlong
    have hpos := hcovers.length_pos
    have hmany : 2 ≤ ((chunkText content).chunks.map (·.text)).length := by
      rw [List.length_map]
      omega
    have hsep : "\n\n".toList ≠ [] := by decide
    have hlonger := Text.sum_length_lt_length_intercalate hsep hmany
    have hlength := hcovers.length_le rfl
    rw [hjoined] at hlonger
    omega
  · intro hshort
    generalize (chunkText content).chunks = chunks at hcovers hone ⊢
    cases hcovers with
    | last hstart hend =>
        have hspec := chunkAt_spec (show ({} : ChunkerConfig).validate = .ok () from rfl) 0 hstart
        have hstop : (chunkAt {} content 0 0).charEnd = content.length :=
          le_antisymm hspec.end_le hend
        rw [List.map_singleton, List.intercalate_singleton, hspec.text_eq, hstop,
          Text.slice_length]
        rfl
    | step hstart hend hrest =>
        have hpos := hrest.length_pos
        rw [List.length_cons] at hone
        omega

/-- No character of a body is lost. -/
theorem exists_row_of_mem (hcr : '\r' ∉ content) (hvisible : content.strip ≠ [])
    (hguard : (chunkText content).degraded = false) {c : Char} (hc : c ∈ content) :
    ∃ row ∈ bodyRows content, c ∈ row.2 := by
  obtain ⟨chunk, hchunk, hmem⟩ := (chunkText_covers hcr hvisible hguard).exists_mem rfl
    (List.drop_zero ▸ hc : c ∈ content.drop 0)
  rw [bodyRows_of_visible hcr hvisible hguard]
  exact ⟨_, List.mem_map_of_mem hchunk, hmem⟩

theorem infix_of_mem_bodyRows (hcr : '\r' ∉ content) (hvisible : content.strip ≠ [])
    (hguard : (chunkText content).degraded = false) {row : ℕ × Text}
    (hrow : row ∈ bodyRows content) : row.2 <:+: content := by
  rw [bodyRows_of_visible hcr hvisible hguard] at hrow
  obtain ⟨chunk, hchunk, rfl⟩ := List.mem_map.mp hrow
  exact (chunkText_covers hcr hvisible hguard).infix_text rfl chunk hchunk

theorem exists_visible (hvisible : content.strip ≠ []) : ∃ c ∈ content, Text.isSpace c = false := by
  refine ⟨content.strip.head hvisible, ?_, ?_⟩
  · exact (Text.stripChars_infix Text.isSpace content).subset (List.head_mem hvisible)
  · exact Bool.not_eq_true _ ▸ (Text.trimmed_stripChars Text.isSpace content).head hvisible

/-- The joined chunks are blank exactly when the body is. -/
theorem joinedBody_strip_eq_nil_iff (hcr : '\r' ∉ content)
    (hguard : content.strip ≠ [] → (chunkText content).degraded = false) :
    (joinedBody content).strip = [] ↔ content.strip = [] := by
  constructor
  · intro hblank
    by_contra hvisible
    obtain ⟨c, hc, hspace⟩ := exists_visible hvisible
    obtain ⟨row, hrow, hmem⟩ := exists_row_of_mem hcr hvisible (hguard hvisible) hc
    refine Text.strip_ne_nil ⟨c, ?_, hspace⟩ hblank
    exact Text.mem_intercalate (List.mem_map_of_mem hrow) hmem
  · intro hblank
    have hchunks : (chunkText content).chunks = [] := by
      rw [chunkText, chunkContent, normalizeLineEndings_of_notMem content hcr]
      dsimp only
      rw [if_pos hblank]
      split <;> rfl
    rw [joinedBody, bodyRows, bodyChunks, hchunks, List.map_nil, if_pos rfl]
    by_cases hempty : content = []
    · subst hempty
      rfl
    · simp [hempty, List.intercalate_singleton, hblank]

end MemoryLab.Chunking

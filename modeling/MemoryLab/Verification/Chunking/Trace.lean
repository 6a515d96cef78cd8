import MemoryLab.Model.Chunking

/-! # What the chunk loop emits -/

namespace MemoryLab.Chunking

open Library

/-! ## One boundary choice -/

/-- The inequalities that `validate` checks. -/
theorem ChunkerConfig.bounds_of_validate {config : ChunkerConfig}
    (h : config.validate = .ok ()) :
    1 ≤ config.minChunkChars ∧ config.minChunkChars ≤ config.targetChunkChars ∧
      config.targetChunkChars ≤ config.maxChunkChars ∧
      config.overlapChars < config.maxChunkChars ∧ 1 ≤ config.maxChunksPerItem := by
  unfold ChunkerConfig.validate at h
  split_ifs at h
  omega

theorem chooseAmong_mem {candidates : List Boundary} {targetPos priority : ℕ}
    {chosen : Boundary} (h : chooseAmong candidates targetPos priority = some chosen) :
    chosen ∈ candidates := by
  unfold chooseAmong at h
  dsimp only at h
  split at h
  · rename_i best hbest
    cases h
    exact List.mem_of_mem_filter (List.mem_of_mem_filter (List.argmax_mem hbest))
  · exact List.mem_of_mem_filter (List.mem_of_mem_filter (List.argmin_mem h))

/-- A chunk is final, or its length is between the two limits and text remains. -/
theorem chooseEnd_spec (config : ChunkerConfig) (text : Text) (start : ℕ)
    (hle : config.minChunkChars ≤ config.maxChunkChars) :
    (text.length - start ≤ config.maxChunkChars ∧ (chooseEnd config text start).1 = text.length) ∨
      (config.maxChunkChars < text.length - start ∧
        start + config.minChunkChars ≤ (chooseEnd config text start).1 ∧
        (chooseEnd config text start).1 ≤ start + config.maxChunkChars) := by
  unfold chooseEnd
  by_cases hfinal : text.length - start ≤ config.maxChunkChars
  · exact .inl ⟨hfinal, by simp [hfinal]⟩
  · right
    refine ⟨by omega, ?_⟩
    simp only [hfinal, if_false]
    split
    · rename_i chosen hchosen
      obtain ⟨priority, -, hpriority⟩ := List.exists_of_findSome?_eq_some hchosen
      have hmem := List.mem_filter.mp (chooseAmong_mem hpriority)
      simp only [Bool.and_eq_true, decide_eq_true_eq] at hmem
      omega
    · dsimp only
      omega

/-- The guard against an empty chunk never fires: `chooseEnd` always makes progress. -/
theorem chunkAt_charEnd {config : ChunkerConfig} (hvalid : config.validate = .ok ())
    {text : Text} {start : ℕ} (index : ℕ) (hstart : start < text.length) :
    (chunkAt config text index start).charEnd = (chooseEnd config text start).1 := by
  have hb := config.bounds_of_validate hvalid
  have hs := chooseEnd_spec config text start (by omega)
  simp only [chunkAt]
  rw [if_neg]
  omega

/-- One emitted chunk: its text is its span, and its span is long enough. -/
structure ChunkSpec (config : ChunkerConfig) (text : Text) (chunk : ContentChunk) : Prop where
  start_lt : chunk.charStart < text.length
  text_eq : chunk.text = text.slice chunk.charStart chunk.charEnd
  progress : chunk.charStart < chunk.charEnd
  end_le : chunk.charEnd ≤ text.length
  long : chunk.charEnd < text.length →
    chunk.charStart + config.minChunkChars ≤ chunk.charEnd

theorem chunkAt_spec {config : ChunkerConfig} (hvalid : config.validate = .ok ())
    {text : Text} {start : ℕ} (index : ℕ) (hstart : start < text.length) :
    ChunkSpec config text (chunkAt config text index start) := by
  have hb := config.bounds_of_validate hvalid
  have hs := chooseEnd_spec config text start (by omega)
  have he := chunkAt_charEnd hvalid index hstart
  have hcs : (chunkAt config text index start).charStart = start := rfl
  refine ⟨hstart, rfl, ?_, ?_, ?_⟩ <;> rw [he] <;> rw [hcs] at * <;> omega

theorem ChunkSpec.length_text {config : ChunkerConfig} {text : Text} {chunk : ContentChunk}
    (h : ChunkSpec config text chunk) : chunk.text.length = chunk.charEnd - chunk.charStart := by
  rw [h.text_eq, Text.length_slice _ _ _ h.end_le]

/-! ## The whole loop -/

/-- The chunk sequence of a run that was not cut off: each chunk starts where its
predecessor's end puts it and the last one reaches the end of the text. -/
inductive Covers (config : ChunkerConfig) (text : Text) :
    ℕ → ℕ → List ContentChunk → Prop where
  | last {index start : ℕ} (hstart : start < text.length)
      (hend : text.length ≤ (chunkAt config text index start).charEnd) :
      Covers config text index start [chunkAt config text index start]
  | step {index start : ℕ} {rest : List ContentChunk} (hstart : start < text.length)
      (hend : (chunkAt config text index start).charEnd < text.length)
      (hrest : Covers config text (index + 1)
        (nextStart config start (chunkAt config text index start).charEnd) rest) :
      Covers config text index start (chunkAt config text index start :: rest)

theorem nextStart_le (config : ChunkerConfig) (start stop : ℕ) :
    nextStart config start stop ≤ stop := by
  unfold nextStart
  split <;> omega

theorem chunkLoop_covers (config : ChunkerConfig) (text : Text) (budget index start : ℕ)
    (hstart : start < text.length) (hguard : (chunkLoop config text budget index start).2 = false) :
    Covers config text index start (chunkLoop config text budget index start).1 := by
  induction budget generalizing index start with
  | zero => simp [chunkLoop, hstart] at hguard
  | succ budget ih =>
      rw [chunkLoop, if_pos hstart] at hguard ⊢
      simp only at hguard ⊢
      split at hguard
      · rename_i hend
        rw [if_pos hend]
        exact .last hstart hend
      · rename_i hend
        rw [if_neg hend]
        have hlt := Nat.lt_of_not_ge hend
        have hnext := (nextStart_le config start _).trans_lt hlt
        exact .step hstart hlt (ih _ _ hnext hguard)

/-- The first chunk starts where the run does. -/
theorem Covers.head_spec {config : ChunkerConfig} (hvalid : config.validate = .ok ())
    {text : Text} {index start : ℕ} {chunks : List ContentChunk}
    (h : Covers config text index start chunks) :
    ∃ chunk rest, chunks = chunk :: rest ∧ chunk.charStart = start ∧
      ChunkSpec config text chunk := by
  cases h with
  | last hstart _ => exact ⟨_, _, rfl, rfl, chunkAt_spec hvalid index hstart⟩
  | step hstart _ _ => exact ⟨_, _, rfl, rfl, chunkAt_spec hvalid index hstart⟩

theorem Covers.indices {config : ChunkerConfig} {text : Text} {index start : ℕ}
    {chunks : List ContentChunk} (h : Covers config text index start chunks) :
    chunks.map (·.index) = List.range' index chunks.length := by
  induction h with
  | last => rfl
  | step _ _ _ ih => simp [List.range'_succ, ih, chunkAt]

/-- The indices count up, also when the guard cuts the loop off. -/
theorem chunkLoop_indices (config : ChunkerConfig) (text : Text) (budget index start : ℕ) :
    (chunkLoop config text budget index start).1.map (·.index) =
      List.range' index (chunkLoop config text budget index start).1.length := by
  induction budget generalizing index start with
  | zero => rfl
  | succ budget ih =>
      rw [chunkLoop]
      split
      · dsimp only
        split
        · rfl
        · simp [List.range'_succ, ih, chunkAt]
      · rfl

theorem chunkContent_indices (chunker : DeterministicContentChunker) (text : Text) :
    (chunkContent chunker text).chunks.map (·.index) =
      List.range (chunkContent chunker text).chunks.length := by
  unfold chunkContent
  dsimp only
  split
  · rfl
  · split
    · rfl
    · rw [List.range_eq_range']
      exact chunkLoop_indices ..

/-! ## Line endings -/

theorem replaceCrLf_of_notMem (text : Text) (h : '\r' ∉ text) : replaceCrLf text = text := by
  fun_induction replaceCrLf text with
  | case1 cs ih => simp at h
  | case2 c cs hne ih =>
      rw [ih (fun hmem => h (List.mem_cons_of_mem c hmem))]
  | case3 => rfl

theorem normalizeLineEndings_of_notMem (text : Text) (h : '\r' ∉ text) :
    normalizeLineEndings text = text := by
  rw [normalizeLineEndings, replaceCrLf_of_notMem text h]
  refine (List.map_congr_left fun c hc => ?_).trans (List.map_id text)
  have hne : c ≠ '\r' := fun heq => h (heq ▸ hc)
  simp [hne]

/-- A run on a text with no carriage return and some visible character that the guard did
not stop covers that text. -/
theorem chunkContent_covers (chunker : DeterministicContentChunker) (text : Text)
    (hcr : '\r' ∉ text) (hvisible : text.strip ≠ [])
    (hguard : (chunkContent chunker text).degraded = false) :
    Covers chunker.config text 0 0 (chunkContent chunker text).chunks := by
  have hne : text ≠ [] := by
    rintro rfl
    exact hvisible rfl
  unfold chunkContent at hguard ⊢
  rw [normalizeLineEndings_of_notMem text hcr] at hguard ⊢
  simp only [hne, hvisible, if_false] at hguard ⊢
  exact chunkLoop_covers _ _ _ _ _ (List.length_pos_iff.mpr hne) hguard

end MemoryLab.Chunking

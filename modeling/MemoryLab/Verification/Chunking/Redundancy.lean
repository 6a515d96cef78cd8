import MemoryLab.Verification.Chunking.Trace

/-! # Chunks inside their predecessors

A chunk starts an overlap before the end of the last one, and is at least the minimum long. When
the overlap is as long as the minimum, it may end at the same boundary. -/

namespace MemoryLab.Chunking

open Library

/-- No chunk lies within the one before it. -/
structure NoneRedundant (chunks : List ContentChunk) : Prop where
  ends : (chunks.map (·.charEnd)).Pairwise (· < ·)
  spans : chunks.IsChain fun before chunk =>
    ¬ (before.charStart ≤ chunk.charStart ∧ chunk.charEnd ≤ before.charEnd)

theorem NoneRedundant.of_ends {chunks : List ContentChunk}
    (h : (chunks.map (·.charEnd)).Pairwise (· < ·)) : NoneRedundant chunks := by
  refine ⟨h, ?_⟩
  have hchain := (List.pairwise_map.mp h).isChain
  exact hchain.imp fun _ _ hlt hwithin => absurd hwithin.2 (not_le.mpr hlt)

/-! ## A short overlap -/

theorem lt_nextStart_add {config : ChunkerConfig} (hvalid : config.validate = .ok ())
    (hoverlap : config.overlapChars < config.minChunkChars) (start stop : ℕ) :
    stop < nextStart config start stop + config.minChunkChars := by
  have hbounds := config.bounds_of_validate hvalid
  unfold nextStart
  split <;> omega

/-- The ends increase from any position that the first chunk gets past. -/
theorem isChain_ends {config : ChunkerConfig} (hvalid : config.validate = .ok ())
    (hoverlap : config.overlapChars < config.minChunkChars) (text : Text)
    (budget index start position : ℕ) (hposition : position < start + config.minChunkChars)
    (hlt : position < text.length) :
    (position :: (chunkLoop config text budget index start).1.map (·.charEnd)).IsChain
      (· < ·) := by
  induction budget generalizing index start position with
  | zero => simp [chunkLoop]
  | succ budget ih =>
      rw [chunkLoop]
      split
      · rename_i hstart
        have hspec := chunkAt_spec hvalid index hstart
        have hfirst : position < (chunkAt config text index start).charEnd := by
          have hlong := hspec.long
          have hcharStart : (chunkAt config text index start).charStart = start := rfl
          rw [hcharStart] at hlong
          omega
        dsimp only
        split
        · simp [hfirst]
        · rename_i hend
          have hrest := ih (index + 1) _ _
            (lt_nextStart_add hvalid hoverlap start (chunkAt config text index start).charEnd)
            (not_le.mp hend)
          rw [List.map_cons, List.isChain_cons_cons]
          exact ⟨hfirst, hrest⟩
      · simp

theorem ends_chunkLoop {config : ChunkerConfig} (hvalid : config.validate = .ok ())
    (h : config.overlapChars < config.minChunkChars ∨ config.maxChunksPerItem = 1)
    (text : Text) :
    ((chunkLoop config text config.maxChunksPerItem 0 0).1.map (·.charEnd)).Pairwise (· < ·) := by
  rcases h with hoverlap | hone
  · have hbounds := config.bounds_of_validate hvalid
    by_cases htext : text = []
    · subst htext
      cases config.maxChunksPerItem <;> simp [chunkLoop]
    · have hchain := isChain_ends hvalid hoverlap text config.maxChunksPerItem 0
        0 0 (by omega) (List.length_pos_iff.mpr htext)
      exact (List.pairwise_cons.mp hchain.pairwise).2
  · rw [hone]
    simp only [chunkLoop]
    split
    · split <;> simp
    · simp

/-! ## A long overlap -/

/-- A full stop after as many characters as the overlap has, in a text without other
boundaries. -/
def redundantText (config : ChunkerConfig) : Text :=
  List.replicate config.overlapChars 'a' ++
    '。' :: List.replicate (config.maxChunkChars + config.maxChunkChars) 'a'

def isStop (c : Char) : Bool := c ∈ ['.', '!', '?'] || c ∈ ['。', '！', '？']

theorem startsIn_sentencePattern : sentencePattern.StartsIn isStop :=
  ((Pattern.startsIn_one _).seq _).alt (Pattern.startsIn_one _)

theorem isStop_of_mem_replicate {n : ℕ} {c : Char} (h : c ∈ List.replicate n 'a') :
    isStop c = false := by
  obtain rfl := List.eq_of_mem_replicate h
  rfl

theorem finditer_sentencePattern (before after : ℕ) :
    sentencePattern.finditer (List.replicate before 'a' ++ '。' :: List.replicate after 'a') =
      [⟨before, before + 1⟩] := by
  have hfront := Pattern.scan_append startsIn_sentencePattern
    (fun c hc => isStop_of_mem_replicate (n := before) hc) 0 ('。' :: List.replicate after 'a')
  have hback := Pattern.scan_append startsIn_sentencePattern
    (fun c hc => isStop_of_mem_replicate (n := after) hc) (before + 1) []
  have hstop : sentencePattern.remainders ('。' :: List.replicate after 'a') =
      [List.replicate after 'a'] := rfl
  rw [List.append_nil, Pattern.scan] at hback
  rw [Pattern.finditer, hfront, Pattern.scan, hstop]
  simp [hback]

theorem boundaryCandidates_window {text : Text} {start maxPos before after : ℕ}
    (h : text.slice start maxPos = List.replicate before 'a' ++ '。' :: List.replicate after 'a') :
    boundaryCandidates text start maxPos = [⟨start + (before + 1), .sentenceBoundary, 3⟩] := by
  have hmem : ∀ c ∈ text.slice start maxPos, c = 'a' ∨ c = '。' := by
    intro c hc
    rw [h, List.mem_append, List.mem_cons] at hc
    rcases hc with hc | hc | hc
    · exact .inl (List.eq_of_mem_replicate hc)
    · exact .inr hc
    · exact .inl (List.eq_of_mem_replicate hc)
  have hline : ∀ c ∈ text.slice start maxPos, (c == '\n') = false := by
    intro c hc
    rcases hmem c hc with rfl | rfl <;> rfl
  have hspace : ∀ c ∈ text.slice start maxPos, Text.isSpace c = false := by
    intro c hc
    rcases hmem c hc with rfl | rfl <;> rfl
  have hnewline : newline.StartsIn (· == '\n') := Pattern.startsIn_one _
  have hparagraph : paragraphPattern.StartsIn (· == '\n') := hnewline.seq _
  have hlist : listPattern.StartsIn (· == '\n') := hnewline.seq _
  have hwhitespace : whitespacePattern.StartsIn Text.isSpace := (Pattern.startsIn_one _).seq _
  rw [boundaryCandidates, Pattern.finditer_eq_nil hparagraph hline,
    Pattern.finditer_eq_nil hnewline hline, Pattern.finditer_eq_nil hlist hline,
    Pattern.finditer_eq_nil hwhitespace hspace, h, finditer_sentencePattern]
  rfl

theorem slice_redundantText (config : ChunkerConfig) {start stop : ℕ}
    (hstart : start ≤ config.overlapChars) (hstop : config.overlapChars + 1 ≤ stop)
    (hlength : stop ≤ (redundantText config).length) :
    (redundantText config).slice start stop =
      List.replicate (config.overlapChars - start) 'a' ++
        '。' :: List.replicate (stop - (config.overlapChars + 1)) 'a' := by
  have hdrop : (redundantText config).drop start =
      List.replicate (config.overlapChars - start) 'a' ++
        '。' :: List.replicate (config.maxChunkChars + config.maxChunkChars) 'a' := by
    rw [redundantText, List.drop_append_of_le_length (by simpa using hstart), List.drop_replicate]
  simp only [redundantText, List.length_append, List.length_replicate, List.length_cons]
    at hlength
  obtain ⟨rest, rfl⟩ := Nat.exists_eq_add_of_le hstop
  have htake : config.overlapChars + 1 + rest - start =
      (config.overlapChars - start) + (rest + 1) := by omega
  rw [Text.slice, hdrop, htake, List.take_append, List.length_replicate]
  simp only [List.take_replicate]
  congr 1
  · congr 1
    omega
  · have hrest : config.overlapChars - start + (rest + 1) - (config.overlapChars - start) =
        rest + 1 := by omega
    rw [hrest, List.take_succ_cons, List.take_replicate]
    congr 2
    omega

theorem chooseAmong_of_ne {boundary : Boundary} {priority : ℕ} (h : boundary.priority ≠ priority)
    (targetPos : ℕ) : chooseAmong [boundary] targetPos priority = none := by
  simp [chooseAmong, h]

theorem chooseAmong_singleton {boundary : Boundary} {priority : ℕ}
    (h : boundary.priority = priority) (targetPos : ℕ) :
    chooseAmong [boundary] targetPos priority = some boundary := by
  by_cases hposition : boundary.position ≤ targetPos
  · simp [chooseAmong, h, hposition]
  · simp [chooseAmong, h, hposition, not_le.mp hposition]

theorem chooseEnd_redundantText {config : ChunkerConfig} (hvalid : config.validate = .ok ())
    {start : ℕ} (hmin : start + config.minChunkChars ≤ config.overlapChars + 1) :
    (chooseEnd config (redundantText config) start).1 = config.overlapChars + 1 := by
  have hbounds := config.bounds_of_validate hvalid
  have hlength : (redundantText config).length =
      config.overlapChars + 1 + (config.maxChunkChars + config.maxChunkChars) := by
    simp [redundantText]
    omega
  have hmax : min (redundantText config).length (start + config.maxChunkChars) =
      start + config.maxChunkChars := by omega
  have hminPos : min (redundantText config).length (start + config.minChunkChars) =
      start + config.minChunkChars := by omega
  have hstart : start ≤ config.overlapChars := by omega
  have hstop : config.overlapChars + 1 ≤ start + config.maxChunkChars := by omega
  have hcandidates := boundaryCandidates_window
    (slice_redundantText config hstart hstop (by omega))
  have hposition : start + (config.overlapChars - start + 1) = config.overlapChars + 1 := by omega
  have hremaining : ¬ (redundantText config).length - start ≤ config.maxChunkChars := by omega
  have hfits : (decide (start + config.minChunkChars ≤ config.overlapChars + 1) &&
      decide (config.overlapChars + 1 ≤ start + config.maxChunkChars)) = true := by
    simp only [Bool.and_eq_true, decide_eq_true_eq]
    omega
  rw [hposition] at hcandidates
  unfold chooseEnd
  dsimp only
  rw [if_neg hremaining, hmax, hminPos, hcandidates]
  simp only [List.filter_cons, hfits, if_true, List.filter_nil]
  generalize min (redundantText config).length (start + config.targetChunkChars) = targetPos
  simp [chooseAmong_of_ne, chooseAmong_singleton]

theorem normalize_redundantText (config : ChunkerConfig) :
    normalizeLineEndings (redundantText config) = redundantText config := by
  refine normalizeLineEndings_of_notMem _ ?_
  simp [redundantText]

theorem strip_redundantText_ne_nil (config : ChunkerConfig) :
    (redundantText config).strip ≠ [] :=
  Text.strip_ne_nil ⟨'。', by simp [redundantText], rfl⟩

/-- The first two chunks end at the full stop. -/
theorem ends_redundantText {chunker : DeterministicContentChunker}
    (hoverlap : chunker.config.minChunkChars ≤ chunker.config.overlapChars)
    (hmany : 2 ≤ chunker.config.maxChunksPerItem) :
    ∃ ends, (chunkContent chunker (redundantText chunker.config)).chunks.map (·.charEnd) =
      (chunker.config.overlapChars + 1) :: (chunker.config.overlapChars + 1) :: ends := by
  have hvalid := chunker.validated
  have hbounds := chunker.config.bounds_of_validate hvalid
  have hstrip := strip_redundantText_ne_nil chunker.config
  have hne : redundantText chunker.config ≠ [] := by simp [redundantText]
  have hlength : (redundantText chunker.config).length = chunker.config.overlapChars + 1 +
      (chunker.config.maxChunkChars + chunker.config.maxChunkChars) := by
    simp [redundantText]
    omega
  unfold chunkContent
  rw [normalize_redundantText]
  simp only [hne, hstrip, if_false]
  generalize chunker.config = config at *
  obtain ⟨budget, hbudget⟩ := Nat.exists_eq_add_of_le' hmany
  have hpos : 0 < (redundantText config).length := by omega
  have hone : 1 < (redundantText config).length := by omega
  have hfirst : (chunkAt config (redundantText config) 0 0).charEnd = config.overlapChars + 1 := by
    rw [chunkAt_charEnd hvalid 0 hpos, chooseEnd_redundantText hvalid (by omega)]
  have hsecond : (chunkAt config (redundantText config) 1 1).charEnd =
      config.overlapChars + 1 := by
    rw [chunkAt_charEnd hvalid 1 hone, chooseEnd_redundantText hvalid (by omega)]
  have hnext : nextStart config 0 (config.overlapChars + 1) = 1 := by
    simp [nextStart]
  have hmore : ¬ (redundantText config).length ≤ config.overlapChars + 1 := by omega
  rw [hbudget]
  simp only [chunkLoop, hpos, if_true, hfirst, hmore, if_false, hnext, hone, zero_add, hsecond,
    List.map_cons]
  exact ⟨_, rfl⟩

theorem not_noneRedundant {chunker : DeterministicContentChunker}
    (hoverlap : chunker.config.minChunkChars ≤ chunker.config.overlapChars)
    (hmany : 2 ≤ chunker.config.maxChunksPerItem) :
    ¬ NoneRedundant (chunkContent chunker (redundantText chunker.config)).chunks := by
  intro h
  obtain ⟨ends, hends⟩ := ends_redundantText hoverlap hmany
  have hincreasing := h.ends
  rw [hends, List.pairwise_cons] at hincreasing
  exact lt_irrefl _ (hincreasing.1 _ List.mem_cons_self)

/-! ## No redundant chunks -/

end MemoryLab.Chunking

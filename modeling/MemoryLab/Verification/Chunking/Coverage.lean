import MemoryLab.Verification.Chunking.Trace
import MemoryLab.Model.ChunkScoring

/-! # The chunks cover the text

Every chunk starts after the last one starts and no later than it ends, so the loop advances and
leaves no gap. -/

namespace MemoryLab.Chunking

open Library

/-! ## One step -/

theorem lt_nextStart (config : ChunkerConfig) {start stop : ℕ} (h : start < stop) :
    start < nextStart config start stop := by
  unfold nextStart
  split <;> omega

theorem le_nextStart_add (config : ChunkerConfig) (start stop : ℕ) :
    stop ≤ nextStart config start stop + config.overlapChars := by
  unfold nextStart
  split <;> omega

theorem chunkAt_short {config : ChunkerConfig} (hvalid : config.validate = .ok ())
    {text : Text} {start : ℕ} (index : ℕ) (hstart : start < text.length) :
    (chunkAt config text index start).charEnd ≤ start + config.maxChunkChars := by
  have hbounds := config.bounds_of_validate hvalid
  have hchosen := chooseEnd_spec config text start (by omega)
  rw [chunkAt_charEnd hvalid index hstart]
  omega

/-- How a chunk continues the one before it. -/
structure Follows (config : ChunkerConfig) (before chunk : ContentChunk) : Prop where
  index : chunk.index = before.index + 1
  advances : before.charStart < chunk.charStart
  joined : chunk.charStart ≤ before.charEnd
  overlap : before.charEnd ≤ chunk.charStart + config.overlapChars

/-! ## The whole loop -/

section Loop

variable {config : ChunkerConfig} (hvalid : config.validate = .ok ()) (text : Text)

theorem head_chunkLoop (config : ChunkerConfig) (text : Text) (budget index start : ℕ) :
    ∀ chunk ∈ (chunkLoop config text budget index start).1.head?,
      chunk.index = index ∧ chunk.charStart = start := by
  cases budget with
  | zero => simp [chunkLoop]
  | succ budget =>
      rw [chunkLoop]
      split
      · dsimp only
        split <;> simp [chunkAt]
      · simp

include hvalid

theorem isChain_chunkLoop (budget index start : ℕ) :
    (chunkLoop config text budget index start).1.IsChain (Follows config) := by
  induction budget generalizing index start with
  | zero => simp [chunkLoop]
  | succ budget ih =>
      rw [chunkLoop]
      split
      · rename_i hstart
        have hspec := chunkAt_spec hvalid index hstart
        dsimp only
        split
        · simp
        · rw [List.isChain_cons]
          refine ⟨fun chunk hchunk => ?_, ih _ _⟩
          obtain ⟨hindex, hcharStart⟩ := head_chunkLoop config text budget _ _ chunk hchunk
          constructor
          · exact hindex
          · rw [hcharStart]
            exact lt_nextStart config hspec.progress
          · rw [hcharStart]
            exact nextStart_le config start _
          · rw [hcharStart]
            exact le_nextStart_add config start _
      · simp

theorem chunkLoop_spec (budget index start : ℕ) :
    ∀ chunk ∈ (chunkLoop config text budget index start).1, ChunkSpec config text chunk ∧
      chunk.charEnd ≤ chunk.charStart + config.maxChunkChars := by
  induction budget generalizing index start with
  | zero => simp [chunkLoop]
  | succ budget ih =>
      rw [chunkLoop]
      split
      · rename_i hstart
        have hfirst := And.intro (chunkAt_spec hvalid index hstart)
          (chunkAt_short hvalid index hstart)
        dsimp only
        split
        · intro chunk hchunk
          obtain rfl := List.mem_singleton.mp hchunk
          exact hfirst
        · exact List.forall_mem_cons.mpr ⟨hfirst, ih _ _⟩
      · simp

/-- The guard changes nothing from as many chunks on as there are characters left. -/
theorem chunkLoop_eq_of_le {budget other : ℕ} (index : ℕ) {start : ℕ}
    (hbudget : text.length - start ≤ budget) (hother : text.length - start ≤ other) :
    chunkLoop config text budget index start = chunkLoop config text other index start := by
  induction budget generalizing other index start with
  | zero =>
      have hend : ¬ start < text.length := by omega
      cases other <;> simp [chunkLoop, hend]
  | succ budget ih =>
      by_cases hstart : start < text.length
      · obtain ⟨rest, rfl⟩ := Nat.exists_eq_add_of_le' (show 1 ≤ other by omega)
        have hnext := lt_nextStart config (chunkAt_spec hvalid index hstart).progress
        have hcharStart : (chunkAt config text index start).charStart = start := rfl
        rw [hcharStart] at hnext
        simp only [chunkLoop, hstart, if_true]
        split
        · rfl
        · rw [ih (index + 1) (by omega) (show _ ≤ rest by omega)]
      · cases other <;> simp [chunkLoop, hstart]

theorem not_cut_of_le {budget : ℕ} (index : ℕ) {start : ℕ}
    (hbudget : text.length - start ≤ budget) :
    (chunkLoop config text budget index start).2 = false := by
  induction budget generalizing index start with
  | zero =>
      have hend : ¬ start < text.length := by omega
      simp [chunkLoop, hend]
  | succ budget ih =>
      rw [chunkLoop]
      split
      · rename_i hstart
        have hnext := lt_nextStart config (chunkAt_spec hvalid index hstart).progress
        have hcharStart : (chunkAt config text index start).charStart = start := rfl
        rw [hcharStart] at hnext
        dsimp only
        split
        · rfl
        · exact ih (index + 1) (by omega)
      · rfl

omit hvalid

theorem Covers.getLast? {text : Text} {index start : ℕ} {chunks : List ContentChunk}
    (hvalid : config.validate = .ok ()) (h : Covers config text index start chunks) :
    (chunks.map (·.charEnd)).getLast? = some text.length := by
  induction h with
  | @last index start hstart hend =>
      have hle := (chunkAt_spec hvalid index hstart).end_le
      simp [le_antisymm hle hend]
  | @step index start rest hstart hend hrest ih =>
      rw [List.map_cons, List.getLast?_cons, ih]
      rfl

end Loop

/-! ## Visible text -/

theorem mem_replaceCrLf {text : Text} {c : Char} (h : c ∈ text) (hc : c ≠ '\r') :
    c ∈ replaceCrLf text := by
  fun_induction replaceCrLf text with
  | case1 cs ih =>
      simp only [List.mem_cons] at h ⊢
      rcases h with h | h | h
      · exact absurd h hc
      · exact .inl h
      · exact .inr (ih h)
  | case2 d cs hne ih =>
      rcases List.mem_cons.mp h with rfl | h
      · exact List.mem_cons_self
      · exact List.mem_cons_of_mem d (ih h)
  | case3 => cases h

theorem mem_normalizeLineEndings {text : Text} {c : Char} (h : c ∈ text) (hc : c ≠ '\r') :
    c ∈ normalizeLineEndings text :=
  List.mem_map.mpr ⟨c, mem_replaceCrLf h hc, if_neg hc⟩

/-- Some character is not whitespace. -/
def Visible (text : Text) : Prop := ∃ c ∈ text, Text.isSpace c = false

theorem Visible.normalizeLineEndings {text : Text} (h : Visible text) :
    Visible (normalizeLineEndings text) := by
  obtain ⟨c, hc, hspace⟩ := h
  refine ⟨c, mem_normalizeLineEndings hc ?_, hspace⟩
  rintro rfl
  cases hspace

theorem chunkContent_of_visible (chunker : DeterministicContentChunker) {text : Text}
    (h : Visible text) :
    ((chunkContent chunker text).chunks, (chunkContent chunker text).degraded) =
      chunkLoop chunker.config (normalizeLineEndings text) chunker.config.maxChunksPerItem 0 0 := by
  have hvisible := h.normalizeLineEndings
  have hstrip := Text.strip_ne_nil hvisible
  have hne : Chunking.normalizeLineEndings text ≠ [] := by
    obtain ⟨c, hc, -⟩ := hvisible
    exact List.ne_nil_of_mem hc
  simp [chunkContent, hne, hstrip]

/-- The chunks of a text: they advance from its start without gaps, each is a short slice of it,
and unless the guard hit they reach its end. -/
structure Covering (config : ChunkerConfig) (text : Text) (result : ContentChunkingResult) :
    Prop where
  first : (result.chunks.map (·.charStart)).head? = some 0
  starts : (result.chunks.map (·.charStart)).Pairwise (· < ·)
  slices : ∀ chunk ∈ result.chunks, chunk.text = text.slice chunk.charStart chunk.charEnd
  nonempty : ∀ chunk ∈ result.chunks, chunk.charStart < chunk.charEnd ∧ chunk.text ≠ []
  short : ∀ chunk ∈ result.chunks, chunk.text.length ≤ config.maxChunkChars
  indices : result.chunks.map (·.index) = List.range result.chunks.length
  joined : result.chunks.IsChain fun before chunk => chunk.charStart ≤ before.charEnd
  complete : result.degraded = false →
    (result.chunks.map (·.charEnd)).getLast? = some text.length

theorem ChunkSpec.text_ne_nil {config : ChunkerConfig} {text : Text} {chunk : ContentChunk}
    (h : ChunkSpec config text chunk) : chunk.text ≠ [] := by
  have hlength := h.length_text
  have hprogress := h.progress
  intro hempty
  rw [hempty, List.length_nil] at hlength
  omega

/-- The chunks of any text follow each other. -/
theorem isChain_chunkContent (chunker : DeterministicContentChunker) (text : Text) :
    (chunkContent chunker text).chunks.IsChain (Follows chunker.config) := by
  unfold chunkContent
  dsimp only
  split
  · exact List.isChain_nil
  · split
    · exact List.isChain_nil
    · exact isChain_chunkLoop chunker.validated _ _ _ _

theorem chunkContent_spec (chunker : DeterministicContentChunker) (text : Text) :
    ∀ chunk ∈ (chunkContent chunker text).chunks,
      ChunkSpec chunker.config (normalizeLineEndings text) chunk ∧
        chunk.charEnd ≤ chunk.charStart + chunker.config.maxChunkChars := by
  unfold chunkContent
  dsimp only
  split
  · simp
  · split
    · simp
    · exact chunkLoop_spec chunker.validated _ _ _ _

theorem covering_chunkContent (chunker : DeterministicContentChunker) {text : Text}
    (h : Visible text) :
    Covering chunker.config (normalizeLineEndings text) (chunkContent chunker text) := by
  have hvalid := chunker.validated
  have hbounds := chunker.config.bounds_of_validate hvalid
  have hloop := chunkContent_of_visible chunker h
  have hchain := isChain_chunkContent chunker text
  have hspec := chunkContent_spec chunker text
  have hpos : 0 < (normalizeLineEndings text).length := by
    obtain ⟨c, hc, -⟩ := h.normalizeLineEndings
    exact List.length_pos_of_mem hc
  obtain ⟨hchunks, hdegraded⟩ := Prod.mk.inj hloop
  constructor
  · rw [hchunks]
    obtain ⟨budget, hbudget⟩ := Nat.exists_eq_add_of_le' hbounds.2.2.2.2
    rw [hbudget, chunkLoop, if_pos hpos]
    dsimp only
    split <;> rfl
  · rw [List.pairwise_map]
    exact (hchain.imp fun _ _ hfollows => hfollows.advances).pairwise
  · exact fun chunk hchunk => (hspec chunk hchunk).1.text_eq
  · exact fun chunk hchunk =>
      ⟨(hspec chunk hchunk).1.progress, (hspec chunk hchunk).1.text_ne_nil⟩
  · intro chunk hchunk
    have hlength := (hspec chunk hchunk).1.length_text
    have hshort := (hspec chunk hchunk).2
    omega
  · exact chunkContent_indices chunker text
  · exact hchain.imp fun _ _ hfollows => hfollows.joined
  · intro hguard
    rw [hdegraded] at hguard
    rw [hchunks]
    exact Covers.getLast? hvalid (chunkLoop_covers _ _ _ _ _ hpos hguard)

end MemoryLab.Chunking

namespace MemoryLab.ChunkScoring

open Library Chunking

/-! ## The scorer's view of the chunks -/

/-- A flag about the order, the offsets or the length of chunks. -/
def RiskFlag.isStructural : RiskFlag → Bool
  | .charCountMismatch | .invalidCharOffsets | .negativeCharOffsets
  | .nonMonotonicChunkOrder | .nonMonotonicCharOffsets | .gapBetweenAdjacentChunks
  | .excessiveChunkOverlap => true
  | _ => false

section Scorer

variable (env : Environment) {config : ChunkerConfig} (item : IngestionTextInput)

theorem metadataRisks_makeChunk {text : Text} {chunk : ContentChunk}
    (h : ChunkSpec config text chunk) :
    ∀ flag ∈ metadataRisks (makeChunk env config item chunk)
      (signalsOf env (makeChunk env config item chunk)), flag.isStructural = false := by
  have hprogress : ¬ (chunk.charEnd : ℤ) ≤ chunk.charStart := by
    have hlt := h.progress
    omega
  have hnegative : ¬ ((chunk.charStart : ℤ) < 0 ∨ (chunk.charEnd : ℤ) < 0) := by omega
  intro flag hflag
  simp only [metadataRisks, makeChunk, signalsOf, hprogress, hnegative, and_false, ne_eq,
    not_true_eq_false, if_false, List.append_nil, List.mem_append] at hflag
  rcases hflag with ((hflag | hflag) | hflag) | hflag
  all_goals
    obtain rfl := List.mem_singleton.mp (List.mem_ite_nil_right.mp hflag).2
    rfl

theorem textPenalties_isStructural (scorer : DeterministicChunkScorer) (chunk : ChunkRecord)
    (signals : Signals) : ∀ penalty ∈ lengthPenalties scorer.config (effectiveCharCount chunk) ++
      whitespacePenalties signals.whitespaceRatio ++ densityPenalties signals.alnumRatio ++
      repetitionPenalties signals ++ boundaryPenalties chunk.boundaryReason,
      penalty.1.isStructural = false := by
  intro penalty hpenalty
  simp only [lengthPenalties, whitespacePenalties, densityPenalties, repetitionPenalties,
    boundaryPenalties, List.mem_append] at hpenalty
  rcases hpenalty with (((hpenalty | hpenalty) | hpenalty) | (hpenalty | hpenalty) | hpenalty) |
    hpenalty
  all_goals
    split_ifs at hpenalty <;> simp at hpenalty <;> subst hpenalty <;> rfl

theorem statePenalties_isStructural (degraded : Bool) (limitationCount : ℕ) :
    ∀ penalty ∈ statePenalties degraded limitationCount, penalty.1.isStructural = false := by
  intro penalty hpenalty
  simp only [statePenalties, List.mem_append] at hpenalty
  rcases hpenalty with hpenalty | hpenalty
  · obtain rfl := List.mem_singleton.mp (List.mem_ite_nil_right.mp hpenalty).2
    rfl
  · obtain rfl := List.mem_singleton.mp (List.mem_ite_nil_left.mp hpenalty).2
    rfl

theorem scoreChunk_isStructural (scorer : DeterministicChunkScorer) {text : Text}
    {chunk : ContentChunk} (h : ChunkSpec config text chunk) :
    ∀ flag ∈ (scoreChunk env scorer (makeChunk env config item chunk)).riskFlags,
      flag.isStructural = false := by
  intro flag hflag
  unfold scoreChunk at hflag
  dsimp only at hflag
  split at hflag
  · simp [result] at hflag
    subst hflag
    rfl
  · split at hflag
    · simp [result] at hflag
      subst hflag
      rfl
    · simp only [result, List.mem_eraseDups, List.mem_append, List.mem_map] at hflag
      rcases hflag with (⟨penalty, hpenalty, rfl⟩ | hflag) | ⟨penalty, hpenalty, rfl⟩
      · have htext := textPenalties_isStructural scorer (makeChunk env config item chunk)
          (signalsOf env (makeChunk env config item chunk)) penalty
        simp only [List.mem_append] at htext
        exact htext hpenalty
      · exact metadataRisks_makeChunk env item h flag hflag
      · exact statePenalties_isStructural _ _ penalty hpenalty

theorem adjacencyRisks_eq_nil {scorer : ChunkScorerConfig}
    (hoverlap : config.overlapChars ≤ scorer.expectedOverlapChars + 1)
    {before chunk : ContentChunk} (h : Follows config before chunk) :
    adjacencyRisks scorer (makeChunk env config item before)
      (makeChunk env config item chunk) = [] := by
  have hadvances := h.advances
  have hjoined := h.joined
  have hshared := h.overlap
  have hstart : ¬ (chunk.charStart : ℤ) < before.charStart := by omega
  have hgap : ¬ (before.charEnd : ℤ) - chunk.charStart < 0 := by omega
  have hexcess : ¬ (scorer.expectedOverlapChars : ℤ) + 1 < before.charEnd - chunk.charStart := by
    omega
  simp [adjacencyRisks, makeChunk, hstart, hgap, hexcess]

theorem batchRisksFrom_eq_nil {scorer : ChunkScorerConfig}
    (hoverlap : config.overlapChars ≤ scorer.expectedOverlapChars + 1)
    {chunks : List ContentChunk} (hchain : chunks.IsChain (Follows config)) (index : ℕ)
    (hindex : ∀ chunk ∈ chunks.head?, chunk.index = index) (previous : Option ContentChunk)
    (hprevious : ∀ before ∈ previous, ∀ chunk ∈ chunks.head?, Follows config before chunk) :
    batchRisksFrom scorer index (previous.map (makeChunk env config item))
      (chunks.map (makeChunk env config item)) = [] := by
  induction chunks generalizing index previous with
  | nil => rfl
  | cons chunk chunks ih =>
      obtain ⟨hnext, hrest⟩ := List.isChain_cons.mp hchain
      have hfirst : chunk.index = index := hindex chunk rfl
      have htail := ih hrest (index + 1)
        (fun other hother => by rw [(hnext other hother).index, hfirst]) (some chunk)
        (fun before hbefore other hother => by
          obtain rfl := Option.some.inj hbefore
          exact hnext other hother)
      have hadjacent : (previous.map (makeChunk env config item)).elim []
          (adjacencyRisks scorer · (makeChunk env config item chunk)) = [] := by
        cases previous with
        | none => rfl
        | some before =>
            exact adjacencyRisks_eq_nil env item hoverlap (hprevious before rfl chunk rfl)
      have horder : ¬ ((makeChunk env config item chunk).index ≠ index ∨
          (makeChunk env config item chunk).order ≠ index) := by
        simp [makeChunk, hfirst]
      rw [List.map_cons, batchRisksFrom, if_neg horder, hadjacent, List.nil_append,
        List.nil_append]
      exact htail

theorem batchRisks_chunkRecords (chunker : DeterministicContentChunker)
    (scorer : DeterministicChunkScorer)
    (hoverlap : chunker.config.overlapChars ≤ scorer.config.expectedOverlapChars + 1) :
    batchRisks scorer (chunkRecords env chunker item) = [] := by
  have hindex : ∀ chunk ∈ (chunkContent chunker item.text).chunks.head?, chunk.index = 0 := by
    intro chunk hchunk
    have hindices := chunkContent_indices chunker item.text
    generalize (chunkContent chunker item.text).chunks = chunks at hchunk hindices
    cases chunks with
    | nil => cases hchunk
    | cons first rest =>
        obtain rfl := Option.some.inj hchunk
        rw [List.map_cons, List.length_cons, List.range_succ_eq_map] at hindices
        exact (List.cons.inj hindices).1
  have hnone := batchRisksFrom_eq_nil env item hoverlap
    (isChain_chunkContent chunker item.text) 0 hindex none nofun
  rw [Option.map_none] at hnone
  rw [batchRisks, chunkRecords, hnone]
  rfl

/-- A scorer that expects the chunker's overlap finds nothing wrong with its chunks' order,
offsets and lengths. -/
theorem scoreChunks_isStructural (chunker : DeterministicContentChunker)
    (scorer : DeterministicChunkScorer)
    (hoverlap : chunker.config.overlapChars ≤ scorer.config.expectedOverlapChars + 1) :
    ∀ result ∈ scoreChunks env scorer (chunkRecords env chunker item),
      ∀ flag ∈ result.riskFlags, flag.isStructural = false := by
  intro result hresult
  rw [scoreChunks, batchRisks_chunkRecords env item chunker scorer hoverlap, if_pos rfl,
    chunkRecords, List.map_map] at hresult
  obtain ⟨chunk, hchunk, rfl⟩ := List.mem_map.mp hresult
  exact scoreChunk_isStructural env item scorer (chunkContent_spec chunker item.text chunk hchunk).1

end Scorer

/-! ## Termination and coverage -/

end MemoryLab.ChunkScoring

import MemoryLab.Model.CompositeRanker

/-! # The ranking follows its evidence -/

namespace MemoryLab.CompositeRanker

open Library Library.Rows

/-- The score of an argument tuple. -/
def score (args : ScoreArguments) : ℚ := (computeChunkScore args).finalScore

/-! ## One score -/

/-- Components that do not fall and penalties that do not rise. -/
theorem score_le_score {args args' : ScoreArguments}
    (hvector : vectorScore args ≤ vectorScore args')
    (hgraph : graphScore args ≤ graphScore args') (hhub : hubScore args ≤ hubScore args')
    (hkeyword : keywordScore args ≤ keywordScore args')
    (htrust : trustScore args ≤ trustScore args') (hpenalty : penalty args' ≤ penalty args) :
    score args ≤ score args' := by
  have hraw : rawScore args ≤ rawScore args' := by
    rw [rawScore, rawScore]
    linarith
  exact max_le_max le_rfl (min_le_min le_rfl hraw)

theorem score_nonneg (args : ScoreArguments) : 0 ≤ score args := le_max_left _ _

theorem score_le_one (args : ScoreArguments) : score args ≤ 1 :=
  max_le zero_le_one (min_le_left _ _)

theorem penalty_nonneg (args : ScoreArguments) : 0 ≤ penalty args := by
  apply add_nonneg <;> split_ifs <;> norm_num

/-! ## Distance -/

section Distance

variable {args : ScoreArguments} {distance : ℚ}

theorem vectorScore_anti (h : distance ≤ args.distance) :
    vectorScore args ≤ vectorScore { args with distance := distance } := by
  apply max_le_max le_rfl
  apply min_le_min le_rfl
  simp only
  linarith

/-- A nearer chunk only loses the penalty for weak evidence. -/
theorem penalty_mono (h : distance ≤ args.distance) :
    penalty { args with distance := distance } ≤ penalty args := by
  have hvector := vectorScore_anti h
  apply add_le_add le_rfl
  by_cases hweak : vectorScore args < 35 / 100 ∧ args.graphMatch = [] ∧ args.hubMatch = []
  · rw [if_pos hweak]
    split_ifs <;> norm_num
  · rw [if_neg hweak, if_neg]
    rintro ⟨hlow, hempty⟩
    exact hweak ⟨hvector.trans_lt hlow, hempty⟩

theorem score_anti_distance (h : distance ≤ args.distance) :
    score args ≤ score { args with distance := distance } :=
  score_le_score (vectorScore_anti h) le_rfl le_rfl le_rfl le_rfl (penalty_mono h)

end Distance

/-! ## Query tokens -/

section QueryTokens

variable {args : ScoreArguments} {queryTokens : Finset Text}

theorem keywordScore_mono (h : args.queryTokens ⊆ queryTokens) :
    keywordScore args ≤ keywordScore { args with queryTokens := queryTokens } := by
  have hcard := Finset.card_le_card
    (Finset.inter_subset_inter_right h : _ ⊆ queryTokens ∩ tokens args.chunkText)
  apply min_le_min le_rfl
  apply div_le_div_of_nonneg_right _ (by norm_num)
  exact_mod_cast hcard

theorem score_mono_queryTokens (h : args.queryTokens ⊆ queryTokens) :
    score args ≤ score { args with queryTokens := queryTokens } :=
  score_le_score le_rfl le_rfl le_rfl (keywordScore_mono h) le_rfl le_rfl

end QueryTokens

/-! ## Hub corroboration -/

section HubMatch

variable {args : ScoreArguments} {hubMatch : List Text}

theorem hubScore_mono (h : args.hubMatch = []) :
    hubScore args ≤ hubScore { args with hubMatch := hubMatch } := by
  rw [hubScore, if_pos h, hubScore]
  split_ifs <;> norm_num

/-- The trust in a row does not fall, whatever else supports it. -/
theorem trustScore_mono (h : args.hubMatch = []) (hne : hubMatch ≠ []) :
    trustScore args ≤ trustScore { args with hubMatch := hubMatch } := by
  rw [trustScore, trustScore]
  by_cases hgraph : args.graphMatch = []
  · simp only [hgraph, h, hne, ne_eq, not_true_eq_false, not_false_eq_true, false_and, and_true,
      or_true, or_self, if_true, if_false]
    split_ifs <;> norm_num
  · simp only [hgraph, h, hne, ne_eq, not_true_eq_false, not_false_eq_true, and_false, and_true,
      true_or, if_true, if_false]
    norm_num

/-- Both penalties need a row without a hub. -/
theorem penalty_eq_zero (hne : hubMatch ≠ []) :
    penalty { args with hubMatch := hubMatch } = 0 := by
  simp [penalty, hne]

theorem score_mono_hubMatch (h : args.hubMatch = []) (hne : hubMatch ≠ []) :
    score args ≤ score { args with hubMatch := hubMatch } := by
  have hpenalty : penalty { args with hubMatch := hubMatch } ≤ penalty args := by
    rw [penalty_eq_zero hne]
    exact penalty_nonneg args
  exact score_le_score le_rfl le_rfl (hubScore_mono h) le_rfl (trustScore_mono h hne) hpenalty

end HubMatch

/-! ## The ranking -/

section Ranking

variable {α : Type*}

/-- The row that the ranking makes of one of its rows. -/
def ranked (query : Text) (row : Row α) : RankedRow α := (scored (tokens query) row).enriched

/-- The boosted score, before it is rounded. -/
def boostedScore (query : Text) (row : Row α) : ℚ :=
  (boosted row (computeChunkScore (scoreArguments row (tokens query)))).finalScore

/-- The highest score comes first, the nearest row of equal ones. -/
def rankKey (query : Text) (row : Row α) : ℚ ×ₗ ℚ :=
  toLex (-boostedScore query row, rankDistance row)

theorem sortKey_scored (query : Text) (row : Row α) :
    sortKey (scored (tokens query) row) = rankKey query row := rfl

theorem rankByComposite_eq (rows : List (Row α)) (query : Text) :
    rankByComposite rows query = (sortOn (rankKey query) rows).map (ranked query) := by
  rw [rankByComposite, ← map_sortOn (scored (tokens query)) (sortKey_scored query), List.map_map]
  rfl

/-- A ranking lists the rows, each extended, by their keys, and equal ones as they came. -/
structure IsRanking (query : Text) (rows : List (Row α)) (result : List (RankedRow α)) :
    Prop where
  extends_order : ∃ order : List (Row α), result = order.map (ranked query) ∧ order.Perm rows ∧
    order.Pairwise (fun a b => rankKey query a ≤ rankKey query b) ∧
    ∀ key, order.filter (rankKey query · = key) = rows.filter (rankKey query · = key)
  keeps_row : ∀ row ∈ rows,
    (ranked query row).toRow = { row with score := some (ranked query row).finalScore }

theorem isRanking_rankByComposite (rows : List (Row α)) (query : Text) :
    IsRanking query rows (rankByComposite rows query) where
  extends_order := by
    refine ⟨sortOn (rankKey query) rows, rankByComposite_eq rows query, perm_sortOn rows,
      pairwise_sortOn rows, fun key => ?_⟩
    rw [filter_sortOn]
    refine sortOn_of_forall_eq fun row hrow => (?_ : _ = key)
    simpa using List.of_mem_filter hrow
  keeps_row := fun row _ => rfl

/-- The score never falls as the evidence grows, and the ranking orders the rows by it. -/
theorem score_and_ranking :
    (∀ args, 0 ≤ (computeChunkScore args).finalScore ∧
      (computeChunkScore args).finalScore ≤ 1) ∧
    (∀ args distance, distance ≤ args.distance → (computeChunkScore args).finalScore ≤
      (computeChunkScore { args with distance := distance }).finalScore) ∧
    (∀ args added, (computeChunkScore args).finalScore ≤ (computeChunkScore
      { args with queryTokens := args.queryTokens ∪ added }).finalScore) ∧
    (∀ args hubMatch, args.hubMatch = [] → hubMatch ≠ [] → (computeChunkScore args).finalScore ≤
      (computeChunkScore { args with hubMatch := hubMatch }).finalScore) ∧
    ∀ (rows : List (Row α)) query, IsRanking query rows (rankByComposite rows query) := by
  refine ⟨fun args => ⟨score_nonneg args, score_le_one args⟩, ?_, ?_, ?_, ?_⟩
  · intro args distance h
    exact score_anti_distance h
  · intro args added
    exact score_mono_queryTokens Finset.subset_union_left
  · intro args hubMatch h hne
    exact score_mono_hubMatch h hne
  · exact isRanking_rankByComposite

end Ranking

end MemoryLab.CompositeRanker

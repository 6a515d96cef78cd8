import MemoryLab.Model.Knn

/-! # What a nearest-neighbour search returns

The results are the first rows of the ranking, and every item is ranked or counted as skipped.
Shards can be searched apart. -/

namespace MemoryLab.Knn

open Library Library.Rows

/-- Rows with their ranks. -/
def numbered (rows : List RankedRow) : List KnnSearchResult := (rows.zipIdx 1).map resultOf

@[simp] theorem length_numbered (rows : List RankedRow) :
    (numbered rows).length = rows.length := by
  simp [numbered]

theorem numbered_eq_nil_iff {rows : List RankedRow} : numbered rows = [] ↔ rows = [] := by
  rw [← List.length_eq_zero_iff, length_numbered, List.length_eq_zero_iff]

theorem clampTopK_pos (value : Option ℤ) : 0 < clampTopK value := by
  simp only [clampTopK]
  omega

/-! ## One item -/

section Items

variable (sqrt : ℚ → ℚ) {query : List ℚ}

/-- An item with a vector of the query's length, where neither has the norm zero. -/
def Comparable (query : List ℚ) (raw : RawItem) : Prop :=
  ∃ vector, (normalizeItem raw).vector = some vector ∧ vector.length = query.length ∧
    norm sqrt query ≠ 0 ∧ norm sqrt vector ≠ 0

theorem cosine_warnings_eq_nil_iff {a b : List ℚ} :
    (cosine sqrt a b).2 = [] ↔ norm sqrt a ≠ 0 ∧ norm sqrt b ≠ 0 := by
  rw [cosine]
  split
  · rename_i hzero
    simpa [or_iff_not_imp_left] using hzero
  · rename_i hzero
    simpa [not_or] using hzero

theorem outcomeWarnings_eq_nil_iff {raw : RawItem} :
    outcomeWarnings (scoreItem sqrt query raw) = [] ↔ Comparable sqrt query raw := by
  rw [Comparable, scoreItem]
  cases hvector : (normalizeItem raw).vector with
  | none => simp [outcomeWarnings]
  | some vector =>
      by_cases hlength : vector.length = query.length
      · simp [hlength, outcomeWarnings, cosine_warnings_eq_nil_iff]
      · simp [hlength, outcomeWarnings]

theorem scoreItem_itemId {raw : RawItem} {row : RankedRow}
    (h : scoreItem sqrt query raw = .ok row) : row.itemId = (normalizeItem raw).itemId := by
  rw [scoreItem] at h
  split at h
  · cases h
  · split at h
    · cases h
    · cases h
      rfl

/-- An item whose outcome warns of nothing is ranked. -/
theorem isOk_of_outcomeWarnings {outcome : Except KnnWarning RankedRow}
    (h : outcomeWarnings outcome = []) : outcome.isOk = true := by
  cases outcome with
  | error warning => cases h
  | ok row => rfl

end Items

/-! ## Ranked and skipped -/

theorem length_filterMap_add_countP (outcomes : List (Except KnnWarning RankedRow)) :
    (outcomes.filterMap Except.toOption).length +
      outcomes.countP (fun outcome => !outcome.isOk) = outcomes.length := by
  induction outcomes with
  | nil => rfl
  | cons outcome outcomes ih =>
      cases outcome with
      | error warning =>
          have hskipped : (Except.error warning : Except KnnWarning RankedRow).isOk = false := rfl
          simp only [List.filterMap_cons, Except.toOption, List.countP_cons, hskipped,
            Bool.not_false, if_true, List.length_cons]
          omega
      | ok row =>
          have hranked : (Except.ok row : Except KnnWarning RankedRow).isOk = true := rfl
          simp only [List.filterMap_cons, Except.toOption, List.countP_cons, hranked,
            Bool.not_true, Bool.false_eq_true, if_false, List.length_cons]
          omega

section Search

variable (sqrt : ℚ → ℚ)

/-- The rows that a query ranks. -/
def rowsOf (query : RawQuery) (items : List RawItem) : List RankedRow :=
  match query.normalized with
  | none => []
  | some vector => rankedRows sqrt vector items

theorem results_eq (query : RawQuery) (items : List RawItem) (topK : Option ℤ) :
    (rankByCosineSimilarity sqrt query items topK).results =
      numbered (firstOn rankKey (clampTopK (query.topK topK)) (rowsOf sqrt query items)) := by
  rw [rankByCosineSimilarity, rowsOf]
  cases query.normalized with
  | none => simp [summary, numbered]
  | some vector =>
      dsimp only
      split
      · rename_i hitems
        simp [hitems, rankedRows, summary, numbered]
      · split
        · rename_i hranked
          rw [rankedRows, hranked]
          simp [summary, numbered]
        · rfl

theorem skippedCount_eq (query : RawQuery) (items : List RawItem) (topK : Option ℤ) :
    (rowsOf sqrt query items).length +
      (rankByCosineSimilarity sqrt query items topK).skippedCount = items.length := by
  rw [rankByCosineSimilarity, rowsOf]
  cases query.normalized with
  | none => simp [summary]
  | some vector =>
      have hcount := length_filterMap_add_countP (items.map (scoreItem sqrt vector))
      rw [List.length_map] at hcount
      dsimp only
      split
      · rename_i hitems
        rw [hitems]
        rfl
      · split
        · exact hcount
        · exact hcount

theorem totalItems_eq (query : RawQuery) (items : List RawItem) (topK : Option ℤ) :
    (rankByCosineSimilarity sqrt query items topK).totalItems = items.length := by
  rw [rankByCosineSimilarity]
  cases query.normalized with
  | none => rfl
  | some vector =>
      dsimp only
      split
      · rename_i hitems
        rw [hitems]
        rfl
      · split <;> rfl

theorem candidateCount_eq (query : RawQuery) (items : List RawItem) (topK : Option ℤ) :
    (rankByCosineSimilarity sqrt query items topK).candidateCount =
      (rankByCosineSimilarity sqrt query items topK).results.length := by
  rw [rankByCosineSimilarity]
  cases query.normalized with
  | none => rfl
  | some vector =>
      dsimp only
      split
      · rfl
      · split <;> rfl

theorem unavailable_iff (query : RawQuery) (items : List RawItem) (topK : Option ℤ) :
    (rankByCosineSimilarity sqrt query items topK).unavailable = true ↔
      (rankByCosineSimilarity sqrt query items topK).results = [] := by
  rw [rankByCosineSimilarity]
  cases query.normalized with
  | none => simp [summary]
  | some vector =>
      dsimp only
      split
      · simp [summary]
      · split
        · simp [summary]
        · rename_i hranked
          have hpos := clampTopK_pos (query.topK topK)
          simp only [summary, Bool.false_eq_true, false_iff]
          intro hnone
          have hkept := numbered_eq_nil_iff.mp hnone
          rw [List.take_eq_nil_iff] at hkept
          rcases hkept with hzero | hsorted
          · omega
          · let ranked := (items.map (scoreItem sqrt vector)).filterMap Except.toOption
            have hperm : (sortOn rankKey ranked).Perm ranked := perm_sortOn ranked
            rw [hsorted] at hperm
            exact hranked hperm.symm.eq_nil

/-- A search over a query and items that can all be compared. -/
def Clean (query : RawQuery) (items : List RawItem) : Prop :=
  ∃ vector, query.normalized = some vector ∧ items ≠ [] ∧
    ∀ raw ∈ items, Comparable sqrt vector raw

theorem degraded_eq_false_iff (query : RawQuery) (items : List RawItem) (topK : Option ℤ) :
    (rankByCosineSimilarity sqrt query items topK).degraded = false ↔ Clean sqrt query items := by
  rw [rankByCosineSimilarity, Clean]
  cases query.normalized with
  | none => simp [summary]
  | some vector =>
      have hwarnings : ((items.map (scoreItem sqrt vector)).flatMap outcomeWarnings) = [] ↔
          ∀ raw ∈ items, Comparable sqrt vector raw := by
        simp [List.flatMap_eq_nil_iff, outcomeWarnings_eq_nil_iff]
      dsimp only
      split
      · rename_i hitems
        simp [summary, hitems]
      · rename_i hitems
        split
        · rename_i hranked
          simp only [summary, List.append_eq_nil_iff, List.cons_ne_nil, and_false,
            not_false_eq_true, ne_eq, true_or, decide_true, Bool.true_eq_false,
            Option.some.injEq, exists_eq_left', false_iff, not_and]
          intro _ hall
          obtain ⟨raw, hraw⟩ := List.exists_mem_of_ne_nil _ hitems
          have hok := isOk_of_outcomeWarnings
            ((outcomeWarnings_eq_nil_iff sqrt).mpr (hall raw hraw))
          cases houtcome : scoreItem sqrt vector raw with
          | error warning => rw [houtcome] at hok; cases hok
          | ok row =>
              have hmem : row ∈ (items.map (scoreItem sqrt vector)).filterMap Except.toOption :=
                List.mem_filterMap.mpr ⟨_, List.mem_map_of_mem hraw, by rw [houtcome]; rfl⟩
              rw [hranked] at hmem
              cases hmem
        · simp only [summary, decide_eq_false_iff_not, not_or, not_not, Option.some.injEq,
            exists_eq_left', hwarnings, Bool.not_eq_true, List.countP_eq_zero]
          constructor
          · rintro ⟨hall, -, -⟩
            exact ⟨hitems, hall⟩
          · rintro ⟨-, hall⟩
            refine ⟨hall, trivial, ?_⟩
            intro outcome houtcome
            obtain ⟨raw, hraw, rfl⟩ := List.mem_map.mp houtcome
            have hok := isOk_of_outcomeWarnings
              ((outcomeWarnings_eq_nil_iff sqrt).mpr (hall raw hraw))
            simp [hok]

/-- The results of a search in an exact account of the items. -/
structure Exact (query : RawQuery) (items : List RawItem) (topK : Option ℤ)
    (s : KnnSearchSummary) : Prop where
  nearest : ∃ kept rest, (rowsOf sqrt query items).Perm (kept ++ rest) ∧
    kept.length = min (clampTopK (query.topK topK)) (rowsOf sqrt query items).length ∧
    kept.Pairwise (fun a b => rankKey a ≤ rankKey b) ∧
    (∀ row ∈ kept, ∀ other ∈ rest, rankKey row ≤ rankKey other) ∧ s.results = numbered kept
  total : s.totalItems = items.length
  skipped : (rowsOf sqrt query items).length + s.skippedCount = items.length
  counted : s.candidateCount = s.results.length
  unavailable : s.unavailable = true ↔ s.results = []
  degraded : s.degraded = false ↔ Clean sqrt query items

theorem rankedRows_flatten (vector : List ℚ) (shards : List (List RawItem)) :
    rankedRows sqrt vector shards.flatten = (shards.map (rankedRows sqrt vector)).flatten := by
  rw [rankedRows, List.map_flatten, List.filterMap_flatten, List.map_map]
  rfl

/-- Items under different identifiers have different places in the ranking. -/
theorem nodup_rankKeys {vector : List ℚ} {items : List RawItem}
    (hids : (items.map fun raw => (normalizeItem raw).itemId).Nodup) :
    ((rankedRows sqrt vector items).map rankKey).Nodup := by
  have hsub : ((rankedRows sqrt vector items).map (·.itemId)).Sublist
      (items.map fun raw => (normalizeItem raw).itemId) := by
    clear hids
    induction items with
    | nil => exact List.Sublist.slnil
    | cons raw items ih =>
        rw [rankedRows] at ih
        rw [rankedRows, List.map_cons, List.filterMap_cons]
        cases houtcome : scoreItem sqrt vector raw with
        | error warning => exact ih.cons _
        | ok row =>
            simp only [Except.toOption, List.map_cons, scoreItem_itemId sqrt houtcome]
            exact ih.cons_cons _
  have hnodup := hsub.nodup hids
  apply List.Nodup.of_map fun place : ℚ ×ₗ Text => (ofLex place).2
  rw [List.map_map]
  exact hnodup

/-- However the items are listed and split, the search over all of them is made of the first rows
of every shard. -/
theorem results_sharded (query : RawQuery) (vector : List ℚ)
    (hquery : query.normalized = some vector) (topK : Option ℤ) (items : List RawItem)
    (shards : List (List RawItem)) (hperm : items.Perm shards.flatten)
    (hids : (items.map fun raw => (normalizeItem raw).itemId).Nodup) :
    (rankByCosineSimilarity sqrt query items topK).results =
      numbered (firstOn rankKey (clampTopK (query.topK topK))
        (shards.map fun shard => firstOn rankKey (clampTopK (query.topK topK))
          (rankedRows sqrt vector shard)).flatten) := by
  have hrows : (rankedRows sqrt vector items).Perm (rankedRows sqrt vector shards.flatten) :=
    (hperm.map _).filterMap _
  have hfirst := firstOn_flatten rankKey (clampTopK (query.topK topK))
    (shards.map (rankedRows sqrt vector))
  rw [List.map_map, ← rankedRows_flatten] at hfirst
  rw [results_eq, rowsOf, hquery]
  dsimp only
  rw [firstOn_eq_of_perm hrows (nodup_rankKeys sqrt hids), ← hfirst]
  rfl

def twoItems : List RawItem :=
  [.item ⟨['b'], some [.number 1, .number 0], []⟩, .item ⟨['a'], some [.number 0, .number 1], []⟩]

theorem results_sharded_two :
    (rankByCosineSimilarity id (.vector (some [.number 1, .number 1])) twoItems (some 1)).results =
      numbered (firstOn rankKey 1 (twoItems.map fun raw =>
        firstOn rankKey 1 (rankedRows id [1, 1] [raw])).flatten) := by
  have hsharded := results_sharded id (.vector (some [.number 1, .number 1])) [1, 1] (by decide)
    (some 1) twoItems (twoItems.map fun raw => [raw]) (by decide) (by decide)
  rw [List.map_map] at hsharded
  exact hsharded

end Search

end MemoryLab.Knn

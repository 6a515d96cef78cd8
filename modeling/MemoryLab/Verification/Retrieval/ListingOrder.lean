import MemoryLab.Verification.Retrieval.Admission
import MemoryLab.Verification.Retrieval.Expansion

/-! # When a hybrid search does not depend on the order of a set

The new terms are listed from a set before they are cut off and tried in sequence. -/

namespace MemoryLab.GraphSearch

open Library Library.KeyedMerge Library.Layers

/-! ## The new terms -/

/-- The terms that the expansion adds to those of the query. -/
def addedTerms (query : Text) (graph : GraphStore) (settings : Settings) : Finset Text :=
  let terms := (Text.split query.lower)
  search (stepFrom fun term => graph.getNeighbors term settings.minConfidence
    settings.workspaceId) settings.maxHops.toNat (startTerms terms none) (startTerms terms none) \
    terms.toFinset

section NewTerms

variable {query : Text} {graph : GraphStore} {settings : Settings}

/-- The list that is cut off. -/
def listedTerms (order : SetOrder) (query : Text) (graph : GraphStore) (settings : Settings) :
    List Text :=
  (expandQuery order (Text.split query.lower) graph settings.maxHops settings.minConfidence none
    settings.workspaceId).filter (· ∉ Text.split query.lower)

theorem mem_listedTerms (order : SetOrder) {term : Text} :
    term ∈ listedTerms order query graph settings ↔ term ∈ addedTerms query graph settings := by
  rw [listedTerms, List.mem_filter, expandQuery, order.mem_list, expandLayers_eq_search,
    addedTerms, Finset.mem_sdiff, List.mem_toFinset, decide_eq_true_eq]

theorem nodup_listedTerms (order : SetOrder) :
    (listedTerms order query graph settings).Nodup :=
  (order.nodup _).filter _

theorem perm_listedTerms (order other : SetOrder) :
    (listedTerms order query graph settings).Perm (listedTerms other query graph settings) := by
  refine (List.perm_ext_iff_of_nodup (nodup_listedTerms order) (nodup_listedTerms other)).mpr
    fun term => ?_
  rw [mem_listedTerms, mem_listedTerms]

theorem length_listedTerms (order : SetOrder) (query : Text) (graph : GraphStore)
    (settings : Settings) :
    (listedTerms order query graph settings).length = (addedTerms query graph settings).card := by
  rw [← List.toFinset_card_of_nodup (nodup_listedTerms order)]
  congr 1
  ext term
  rw [List.mem_toFinset, mem_listedTerms]

theorem newTerms_eq (order : SetOrder) :
    newTerms order query graph settings =
      sliceTo settings.maxExpandedQueries (listedTerms order query graph settings) := rfl

theorem eq_of_perm_of_length_le_one {xs ys : List Text} (hperm : xs.Perm ys)
    (hlength : xs.length ≤ 1) : xs = ys := by
  match xs, hlength with
  | [], _ => exact hperm.nil_eq
  | [x], _ => exact (List.perm_singleton.mp hperm.symm).symm

/-- Few terms, or none that is used, have one listing only. -/
theorem newTerms_congr (order other : SetOrder)
    (h : (addedTerms query graph settings).card ≤ 1 ∨ settings.maxExpandedQueries = 0 ∨
      settings.maxExpandedQueries ≤ -((addedTerms query graph settings).card : ℤ)) :
    newTerms order query graph settings = newTerms other query graph settings := by
  rw [newTerms_eq, newTerms_eq]
  have hlength := length_listedTerms order query graph settings
  have hlength' := length_listedTerms other query graph settings
  rcases h with h | h | h
  · rw [eq_of_perm_of_length_le_one (perm_listedTerms order other) (hlength ▸ h)]
  · simp [sliceTo, h]
  · by_cases hcard : (addedTerms query graph settings).card ≤ 1
    · rw [eq_of_perm_of_length_le_one (perm_listedTerms order other) (hlength ▸ hcard)]
    · have hneg : ¬ 0 ≤ settings.maxExpandedQueries := by omega
      have hnone : (addedTerms query graph settings).card -
          settings.maxExpandedQueries.natAbs = 0 := by omega
      rw [sliceTo, sliceTo, if_neg hneg, if_neg hneg, hlength, hlength', hnone, List.take_zero,
        List.take_zero]

/-- Lists a term first. -/
noncomputable def preferring (first : Text) : SetOrder where
  list s := if first ∈ s then first :: (s.erase first).toList else s.toList
  nodup s := by
    split
    · simp [Finset.nodup_toList]
    · exact Finset.nodup_toList s
  mem_list s term := by
    split
    · rename_i hfirst
      by_cases heq : term = first
      · simp [heq, hfirst]
      · simp [heq]
    · exact Finset.mem_toList

theorem list_preferring {first : Text} {s : Finset Text} (h : first ∈ s) :
    (preferring first).list s = first :: (s.erase first).toList :=
  if_pos h

theorem head_newTerms {first : Text} (hfirst : first ∈ addedTerms query graph settings)
    (hused : settings.maxExpandedQueries ≠ 0)
    (hkept : -((addedTerms query graph settings).card : ℤ) < settings.maxExpandedQueries) :
    ∃ rest, newTerms (preferring first) query graph settings = first :: rest := by
  have hlength := length_listedTerms (preferring first) query graph settings
  have hlisted : ∃ rest, listedTerms (preferring first) query graph settings = first :: rest := by
    have hmem := (mem_listedTerms (preferring first)).mpr hfirst
    obtain ⟨hexpanded, hnew⟩ := List.mem_filter.mp hmem
    rw [expandQuery, (preferring first).mem_list] at hexpanded
    rw [listedTerms, expandQuery, list_preferring hexpanded, List.filter_cons, if_pos hnew]
    exact ⟨_, rfl⟩
  obtain ⟨rest, hrest⟩ := hlisted
  rw [newTerms_eq]
  rw [hrest] at hlength ⊢
  rw [List.length_cons] at hlength
  unfold sliceTo
  split
  · obtain ⟨n, hn⟩ := Nat.exists_eq_add_of_le' (show 1 ≤ settings.maxExpandedQueries.toNat by omega)
    rw [hn, List.take_succ_cons]
    exact ⟨_, rfl⟩
  · obtain ⟨n, hn⟩ := Nat.exists_eq_add_of_le'
      (show 1 ≤ (first :: rest).length - settings.maxExpandedQueries.natAbs by
        rw [List.length_cons]
        omega)
    rw [hn, List.take_succ_cons]
    exact ⟨_, rfl⟩

end NewTerms

/-! ## The first result of a rescue -/

section Rescue

variable {workspaceId : Option Text} {query : Text} {terms : List Text}
  {vectorSearch : Text → List Row}

theorem prefix_addResults (rows : List Row) (sourceQuery : Text) (rescued : Bool)
    (found : List Row) :
    found.map (·.contentId) <+:
      (addResults workspaceId query terms rows sourceQuery rescued found).map (·.contentId) := by
  induction rows generalizing found with
  | nil => exact List.prefix_rfl
  | cons row rows ih =>
      rw [addResults, List.foldl_cons, ← addResults]
      refine List.IsPrefix.trans ?_ (ih _)
      unfold addResult
      split
      · exact List.prefix_rfl
      · unfold upsert
        split
        · rw [map_modifyFirst fun existing =>
            (sameCandidate_enrichResult query terms sourceQuery rescued row existing).contentId]
        · rw [List.map_append]
          exact List.prefix_append _ _

theorem prefix_rescueZero (workspaceId : Option Text) (query : Text) (terms : List Text)
    (vectorSearch : Text → List Row) (remaining : List Text) (found : List Row) :
    found.map (·.contentId) <+:
      (remaining.foldl (rescueZero workspaceId query terms vectorSearch) found).map
        (·.contentId) := by
  induction remaining generalizing found with
  | nil => exact List.prefix_rfl
  | cons term remaining ih => exact (prefix_addResults _ _ _ found).trans (ih _)

/-- A search function that finds a row for every query but one, named after the query. -/
def echoSearch (query : Text) (q : Text) : List Row :=
  if q = query then [] else [{ contentId := .value q }]

theorem rescueQuery_ne (query term : Text) : rescueQuery query term ≠ query := by
  intro h
  have hlength := congrArg List.length h
  simp [rescueQuery] at hlength

theorem foreign_echo (workspaceId : Option Text) (q : Text) :
    foreign workspaceId { contentId := .value q } = false := by
  cases workspaceId with
  | none => rfl
  | some requested =>
      rw [foreign]
      cases Option.filter (fun workspace => decide (workspace ≠ [])) (some requested) <;> rfl

theorem first_rescue (first : Text) (rest : List Text) :
    ((rescue workspaceId query (first :: rest) (echoSearch query)
      (addResults workspaceId query (first :: rest) (echoSearch query query) query false [])).map
        (·.contentId)).head? = some (.value (rescueQuery query first)) := by
  have hprimary : echoSearch query query = [] := if_pos rfl
  have hrescued : echoSearch query (rescueQuery query first) =
      [{ contentId := .value (rescueQuery query first) }] := if_neg (rescueQuery_ne query first)
  rw [hprimary, addResults, List.foldl_nil, rescue, if_pos rfl, List.foldl_cons]
  have hfirst : (rescueZero workspaceId query (first :: rest) (echoSearch query) [] first).map
      (·.contentId) = [.value (rescueQuery query first)] := by
    rw [rescueZero, hrescued, addResults, List.foldl_cons, List.foldl_nil, addResult,
      foreign_echo]
    have hsame := sameCandidate_admitResult query (first :: rest) (rescueQuery query first) true
      { contentId := .value (rescueQuery query first) }
    simp only [Bool.false_eq_true, if_false, upsert, List.map_nil, List.not_mem_nil,
      List.nil_append, List.map_cons, hsame.contentId]
  have hprefix := prefix_rescueZero workspaceId query (first :: rest) (echoSearch query) rest
    (rescueZero workspaceId query (first :: rest) (echoSearch query) [] first)
  rw [hfirst] at hprefix
  obtain ⟨more, hmore⟩ := hprefix
  rw [← hmore]
  rfl

end Rescue

theorem first_hybridSearch {query : Text} {graph : GraphStore} {settings : Settings}
    {first : Text} (hfirst : first ∈ addedTerms query graph settings)
    (hused : settings.maxExpandedQueries ≠ 0)
    (hkept : -((addedTerms query graph settings).card : ℤ) < settings.maxExpandedQueries) :
    ((hybridSearch (preferring first) query graph (echoSearch query) id settings).map
      (·.contentId)).head? = some (.value (rescueQuery query first)) := by
  obtain ⟨rest, hrest⟩ := head_newTerms hfirst hused hkept
  have hboost : ∀ rows : List Row, (rows.map (boost settings.graphBoost)).map (·.contentId) =
      rows.map (·.contentId) := by
    intro rows
    rw [List.map_map]
    exact List.map_congr_left fun row _ => (sameCandidate_boost settings.graphBoost row).contentId
  rw [hybridSearch, hrest, id_eq, hboost]
  exact first_rescue first rest

/-! ## Independence of the order -/

theorem sameResults_iff_added (query : Text) (graph : GraphStore) (settings : Settings) :
    (∀ (vectorSearch : Text → List Row) (rerank : List Row → List Row) (order other : SetOrder),
      hybridSearch order query graph vectorSearch rerank settings =
        hybridSearch other query graph vectorSearch rerank settings) ↔
      (addedTerms query graph settings).card ≤ 1 ∨ settings.maxExpandedQueries = 0 ∨
        settings.maxExpandedQueries ≤ -((addedTerms query graph settings).card : ℤ) := by
  constructor
  · intro hsame
    by_contra h
    simp only [not_or, not_le] at h
    obtain ⟨hmany, hused, hkept⟩ := h
    obtain ⟨first, hfirst, second, hsecond, hne⟩ := Finset.one_lt_card.mp hmany
    have hresults := hsame (echoSearch query) id (preferring first) (preferring second)
    have hhead := first_hybridSearch hfirst hused hkept
    rw [hresults, first_hybridSearch hsecond hused hkept] at hhead
    simp only [Option.some.injEq, Cell.value.injEq, rescueQuery] at hhead
    exact hne (List.cons.inj (List.append_cancel_left hhead)).2.symm
  · intro h vectorSearch rerank order other
    rw [hybridSearch, hybridSearch, newTerms_congr order other h]

/-- The order of the expanded set does not matter exactly when it adds at most one term to the
query, or none of its terms is used. -/
theorem sameResults_iff (query : Text) (graph : GraphStore) (settings : Settings) :
    (∀ (vectorSearch : Text → List Row) (rerank : List Row → List Row) (order other : SetOrder),
      hybridSearch order query graph vectorSearch rerank settings =
        hybridSearch other query graph vectorSearch rerank settings) ↔
      (addedTerms query graph settings).card ≤ 1 ∨ settings.maxExpandedQueries = 0 ∨
        settings.maxExpandedQueries ≤ -((addedTerms query graph settings).card : ℤ) :=
  sameResults_iff_added query graph settings

/-- Two neighbours of every term. -/
def twoNeighbors : GraphStore := ⟨fun _ _ _ => {['x'], ['y']}⟩

theorem not_sameResults :
    ¬ ∀ (query : Text) (graph : GraphStore) (settings : Settings)
      (vectorSearch : Text → List Row) (rerank : List Row → List Row) (order other : SetOrder),
        hybridSearch order query graph vectorSearch rerank settings =
          hybridSearch other query graph vectorSearch rerank settings := by
  intro hall
  have hcard : (addedTerms ['q'] twoNeighbors {}).card = 2 := by decide +kernel
  have h := (sameResults_iff_added ['q'] twoNeighbors {}).mp (hall ['q'] twoNeighbors {})
  rw [hcard] at h
  revert h
  decide

end MemoryLab.GraphSearch

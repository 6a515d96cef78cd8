import MemoryLab.Library.Layers
import MemoryLab.Model.GraphSearch
import MemoryLab.Model.HybridSearch

/-! # Expansion of a query as bounded reachability

The loop adds terms while it scans a layer. What it adds is what the layer leads to and was not
there before, in whatever order the sets are listed. -/

namespace MemoryLab.GraphSearch

open Library Library.Layers

/-- One step: the neighbours of a term in lower case and trimmed. -/
def stepFrom (neighbors : Text → Finset Text) (term : Text) : Finset Text :=
  (neighbors term).image normalize

/-! ## A scan -/

theorem mem_expanded_foldl (terms : List Text) (s : ExpansionState) (term : Text) :
    term ∈ (terms.foldl visitNeighbor s).expanded ↔
      term ∈ s.expanded ∨ term ∈ terms.map normalize := by
  induction terms generalizing s with
  | nil => simp
  | cons first terms ih =>
      rw [List.foldl_cons, ih, List.map_cons, List.mem_cons]
      unfold visitNeighbor
      dsimp only
      split
      · rename_i hknown
        constructor
        · tauto
        · rintro (h | rfl | h)
          · exact .inl h
          · exact .inl hknown
          · exact .inr h
      · rw [Finset.mem_insert]
        tauto

theorem mem_nextLayer_foldl (terms : List Text) (s : ExpansionState) (term : Text) :
    term ∈ (terms.foldl visitNeighbor s).nextLayer ↔
      term ∈ s.nextLayer ∨ (term ∈ terms.map normalize ∧ term ∉ s.expanded) := by
  induction terms generalizing s with
  | nil => simp
  | cons first terms ih =>
      rw [List.foldl_cons, ih, List.map_cons, List.mem_cons]
      unfold visitNeighbor
      dsimp only
      split
      · rename_i hknown
        constructor
        · tauto
        · rintro (h | ⟨rfl | h, hnew⟩)
          · exact .inl h
          · exact absurd hknown hnew
          · exact .inr ⟨h, hnew⟩
      · rename_i hnew
        rw [Finset.mem_insert, Finset.mem_insert]
        by_cases heq : term = normalize first
        · simp [heq, hnew]
        · simp [heq]

/-- The terms of a layer are scanned as one list of neighbours. -/
theorem foldl_visitTerm (order : SetOrder) (neighbors : Text → Finset Text) (layer : List Text)
    (s : ExpansionState) :
    layer.foldl (visitTerm order neighbors) s =
      (layer.flatMap fun term => order.list (neighbors term)).foldl visitNeighbor s := by
  rw [List.foldl_flatMap]
  rfl

theorem mem_scanned (order : SetOrder) (neighbors : Text → Finset Text) (layer : Finset Text)
    (term : Text) :
    term ∈ ((order.list layer).flatMap fun term => order.list (neighbors term)).map normalize ↔
      term ∈ layer.biUnion (stepFrom neighbors) := by
  simp only [List.mem_map, List.mem_flatMap, order.mem_list, Finset.mem_biUnion, stepFrom,
    Finset.mem_image]
  constructor
  · rintro ⟨neighbor, ⟨origin, horigin, hneighbor⟩, rfl⟩
    exact ⟨origin, horigin, neighbor, hneighbor, rfl⟩
  · rintro ⟨origin, horigin, neighbor, hneighbor, rfl⟩
    exact ⟨neighbor, ⟨origin, horigin, hneighbor⟩, rfl⟩

section Layer

variable (order : SetOrder) (neighbors : Text → Finset Text) (expanded layer : Finset Text)

theorem nextLayer_scan :
    ((order.list layer).foldl (visitTerm order neighbors) ⟨expanded, ∅⟩).nextLayer =
      newElements (stepFrom neighbors) expanded layer := by
  ext term
  rw [foldl_visitTerm, mem_nextLayer_foldl, mem_scanned, newElements, Finset.mem_sdiff]
  simp

theorem expanded_scan :
    ((order.list layer).foldl (visitTerm order neighbors) ⟨expanded, ∅⟩).expanded =
      expanded ∪ newElements (stepFrom neighbors) expanded layer := by
  ext term
  rw [foldl_visitTerm, mem_expanded_foldl, mem_scanned, newElements, Finset.mem_union,
    Finset.mem_sdiff]
  tauto

end Layer

/-! ## The loop -/

theorem expandLayers_eq_search (order : SetOrder) (neighbors : Text → Finset Text) (hops : ℕ)
    (expanded layer : Finset Text) :
    expandLayers order neighbors hops expanded layer =
      search (stepFrom neighbors) hops expanded layer := by
  induction hops generalizing expanded layer with
  | zero => rfl
  | succ hops ih =>
      rw [expandLayers, search, nextLayer_scan, expanded_scan, ih]
      split
      · rename_i hnone
        rw [hnone, Finset.union_empty]
      · rfl

/-- The expansion that reads the tables is the same search. -/
theorem retrieval_expandLayers_eq_search (neighbors : Text → Finset Text) (hops : ℕ)
    (expanded layer : Finset Text) :
    Retrieval.expandLayers neighbors hops expanded layer =
      search (stepFrom neighbors) hops expanded layer := by
  induction hops generalizing expanded layer with
  | zero => rfl
  | succ hops ih =>
      rw [Retrieval.expandLayers, search, ih]
      rfl

theorem toFinset_expandQuery (order : SetOrder) (queryTerms : List Text) (graph : GraphStore)
    (maxHops : ℕ) (minConfidence : ℚ) (workspaceId : Option Text) :
    (expandQuery order queryTerms graph maxHops minConfidence none workspaceId).toFinset =
      Retrieval.expandQuery (fun term => graph.getNeighbors term minConfidence workspaceId)
        queryTerms maxHops := by
  ext term
  rw [List.mem_toFinset, expandQuery, order.mem_list, expandLayers_eq_search, Int.toNat_natCast,
    Retrieval.expandQuery, retrieval_expandLayers_eq_search]
  rfl

/-- The expansion lists, each once, the terms within the hops of the start. -/
theorem expandQuery_spec (order : SetOrder) (queryTerms : List Text) (graph : GraphStore)
    (maxHops : ℕ) (minConfidence : ℚ) (aliasStore : Option AliasStore)
    (workspaceId : Option Text) :
    (expandQuery order queryTerms graph maxHops minConfidence aliasStore workspaceId).Nodup ∧
    ∀ term,
      term ∈ expandQuery order queryTerms graph maxHops minConfidence aliasStore workspaceId ↔
        Within (stepFrom fun term => graph.getNeighbors term minConfidence workspaceId)
          (startTerms queryTerms aliasStore) maxHops term := by
  refine ⟨order.nodup _, fun term => ?_⟩
  rw [expandQuery, order.mem_list, expandLayers_eq_search, Int.toNat_natCast]
  exact mem_search_start

end MemoryLab.GraphSearch

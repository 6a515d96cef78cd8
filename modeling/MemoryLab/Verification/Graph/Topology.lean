import Mathlib.Combinatorics.SimpleGraph.Connectivity.Connected
import MemoryLab.Model.GraphHealth
import MemoryLab.Verification.Graph.CoMembership

/-! # The topology metrics are those of the graph -/

namespace MemoryLab.GraphHealth

open Library
open EdgeInference (addTo sorted)
open EdgeInference.Texts (collected collected_spec)

/-! ## The loop over the edges -/

/-- Both directions of every edge. -/
def directed (pairs : List (Text × Text)) : List (Text × Text) :=
  pairs.flatMap fun pair => [(pair.1, pair.2), (pair.2, pair.1)]

theorem mem_directed {pairs : List (Text × Text)} {a b : Text} :
    (a, b) ∈ directed pairs ↔ (a, b) ∈ pairs ∨ (b, a) ∈ pairs := by
  rw [directed, List.mem_flatMap]
  constructor
  · rintro ⟨⟨c, d⟩, hpair, hmem⟩
    rcases List.mem_cons.mp hmem with heq | hmem
    · exact .inl (heq ▸ hpair)
    · obtain ⟨rfl, rfl⟩ : a = d ∧ b = c := by simpa using hmem
      exact .inr hpair
  · rintro (hpair | hpair)
    · exact ⟨(a, b), hpair, by simp⟩
    · exact ⟨(b, a), hpair, by simp⟩

def built (nodes : List Text) (pairs : List (Text × Text)) : Topology :=
  pairs.foldl Topology.addEdge { nodeSet := nodes.dedup }

theorem built_append_singleton (nodes : List Text) (pairs : List (Text × Text))
    (pair : Text × Text) :
    built nodes (pairs ++ [pair]) = (built nodes pairs).addEdge pair := by
  rw [built, List.foldl_append]
  rfl

/-- The listed nodes and those of the edges. -/
def nodeSet (nodes : List Text) (pairs : List (Text × Text)) : Finset Text :=
  nodes.toFinset ∪ (pairs.map (·.1)).toFinset ∪ (pairs.map (·.2)).toFinset

theorem mem_nodeSet {nodes : List Text} {pairs : List (Text × Text)} {a : Text} :
    a ∈ nodeSet nodes pairs ↔ a ∈ nodes ∨ ∃ pair ∈ pairs, a = pair.1 ∨ a = pair.2 := by
  simp only [nodeSet, Finset.mem_union, List.mem_toFinset, List.mem_map, or_assoc, eq_comm,
    and_or_left, exists_or]

theorem built_nodeSet (nodes : List Text) (pairs : List (Text × Text)) :
    (built nodes pairs).nodeSet.Nodup ∧
      (built nodes pairs).nodeSet.toFinset = nodeSet nodes pairs := by
  induction pairs using List.reverseRecOn with
  | nil => exact ⟨List.nodup_dedup nodes, by ext; simp [built, nodeSet]⟩
  | append_singleton pairs pair ih =>
      rw [built_append_singleton]
      refine ⟨(ih.1.insert).insert, ?_⟩
      ext a
      have hmem : a ∈ (built nodes pairs).nodeSet ↔ a ∈ nodeSet nodes pairs := by
        rw [← ih.2, List.mem_toFinset]
      rw [List.mem_toFinset, Topology.addEdge, List.mem_insert_iff, List.mem_insert_iff, hmem,
        mem_nodeSet, mem_nodeSet]
      simp only [List.mem_append, List.mem_singleton, or_and_right, exists_or, exists_eq_left]
      constructor
      · rintro (h | h | h | h)
        · exact .inr (.inr (.inr h))
        · exact .inr (.inr (.inl h))
        · exact .inl h
        · exact .inr (.inl h)
      · rintro (h | h | h | h)
        · exact .inr (.inr (.inl h))
        · exact .inr (.inr (.inr h))
        · exact .inr (.inl h)
        · exact .inl h

theorem built_adjacency (nodes : List Text) (pairs : List (Text × Text)) :
    (built nodes pairs).adjacency = collected (directed pairs) := by
  induction pairs using List.reverseRecOn with
  | nil => rfl
  | append_singleton pairs pair ih =>
      rw [built_append_singleton, directed, List.flatMap_append, ← directed]
      rw [List.flatMap_singleton, collected, List.foldl_append, ← collected, ← ih]
      rfl

theorem mem_neighbours {nodes : List Text} {pairs : List (Text × Text)} {a b : Text} :
    b ∈ neighbours (built nodes pairs).adjacency a ↔ (a, b) ∈ pairs ∨ (b, a) ∈ pairs := by
  rw [neighbours, built_adjacency, (collected_spec _ a).2, mem_directed]

/-! ## The graph -/

/-- The undirected graph on the nodes. A loop joins nothing. -/
def graphOf (nodes : List Text) (pairs : List (Text × Text)) :
    SimpleGraph {a // a ∈ nodeSet nodes pairs} :=
  SimpleGraph.fromRel fun a b => (a.1, b.1) ∈ pairs

/-- What a search follows. -/
def next (nodes : List Text) (pairs : List (Text × Text)) (a : Text) : List Text :=
  sorted (neighbours (built nodes pairs).adjacency a)

variable {nodes : List Text} {pairs : List (Text × Text)}

theorem mem_next {a b : Text} : b ∈ next nodes pairs a ↔ (a, b) ∈ pairs ∨ (b, a) ∈ pairs := by
  rw [next, EdgeInference.mem_sorted, mem_neighbours]

theorem next_symm (a b : Text) (h : b ∈ next nodes pairs a) : a ∈ next nodes pairs b :=
  mem_next.mpr (mem_next.mp h).symm

theorem mem_nodeSet_of_next {a b : Text} (h : b ∈ next nodes pairs a) :
    b ∈ nodeSet nodes pairs := by
  rcases mem_next.mp h with hpair | hpair
  · exact mem_nodeSet.mpr (.inr ⟨_, hpair, .inr rfl⟩)
  · exact mem_nodeSet.mpr (.inr ⟨_, hpair, .inl rfl⟩)

theorem adj_iff {a b : {a // a ∈ nodeSet nodes pairs}} :
    (graphOf nodes pairs).Adj a b ↔ a ≠ b ∧ b.1 ∈ next nodes pairs a.1 := by
  rw [graphOf, SimpleGraph.fromRel_adj, mem_next]

theorem reachable_of_mem_component {a : {a // a ∈ nodeSet nodes pairs}} {b : Text}
    (h : b ∈ Components.component (next nodes pairs) a.1) :
    ∃ hb, (graphOf nodes pairs).Reachable a ⟨b, hb⟩ := by
  induction h with
  | refl => exact ⟨a.2, .rfl⟩
  | @tail b c _ hstep ih =>
      obtain ⟨hb, hreach⟩ := ih
      by_cases heq : b = c
      · exact heq ▸ ⟨hb, hreach⟩
      · refine ⟨mem_nodeSet_of_next hstep, hreach.trans ?_⟩
        exact SimpleGraph.Adj.reachable (adj_iff.mpr ⟨by simpa using heq, hstep⟩)

theorem reachable_iff {a b : {a // a ∈ nodeSet nodes pairs}} :
    (graphOf nodes pairs).Reachable a b ↔ b.1 ∈ Components.component (next nodes pairs) a.1 := by
  constructor
  · rw [SimpleGraph.reachable_iff_reflTransGen]
    intro h
    induction h with
    | refl => exact Components.mem_component_self a.1
    | tail _ hadj ih => exact ih.tail (adj_iff.mp hadj).2
  · intro h
    exact (reachable_of_mem_component h).2

theorem ncard_supp (a : {a // a ∈ nodeSet nodes pairs}) :
    ((graphOf nodes pairs).connectedComponentMk a).supp.ncard =
      (Components.component (next nodes pairs) a.1).ncard := by
  rw [← Set.ncard_image_of_injective _ Subtype.val_injective]
  congr 1
  ext b
  rw [Set.mem_image]
  constructor
  · rintro ⟨c, hc, rfl⟩
    rw [SimpleGraph.ConnectedComponent.mem_supp_iff, SimpleGraph.ConnectedComponent.eq] at hc
    exact reachable_iff.mp hc.symm
  · intro hb
    obtain ⟨hmem, hreach⟩ := reachable_of_mem_component hb
    refine ⟨⟨b, hmem⟩, ?_, rfl⟩
    rw [SimpleGraph.ConnectedComponent.mem_supp_iff, SimpleGraph.ConnectedComponent.eq]
    exact hreach.symm

/-! ## The metrics -/

/-- The metrics of the undirected graph. -/
structure MetricsOf (nodes : List Text) (pairs : List (Text × Text)) (metrics : TopologyMetrics) :
    Prop where
  count : metrics.nodeCount = (nodeSet nodes pairs).card
  edges : metrics.edgeCount = pairs.length
  isolated : metrics.isolatedNodeCount =
    ((nodeSet nodes pairs).filter fun a => ∀ pair ∈ pairs, a ≠ pair.1 ∧ a ≠ pair.2).card
  largest : (nodeSet nodes pairs).Nonempty → IsGreatest
    (Set.range fun c : (graphOf nodes pairs).ConnectedComponent => c.supp.ncard)
    metrics.largestComponentSize
  largest_empty : nodeSet nodes pairs = ∅ → metrics.largestComponentSize = 0
  isolated_le : metrics.isolatedNodeCount ≤ metrics.lowDegreeNodeCount
  low_le : metrics.lowDegreeNodeCount ≤ metrics.nodeCount
  largest_pos : (nodeSet nodes pairs).Nonempty → 1 ≤ metrics.largestComponentSize
  largest_le : metrics.largestComponentSize ≤ metrics.nodeCount

theorem largestComponentSize_spec (nodes : List Text) (pairs : List (Text × Text)) :
    ∃ size, largestComponentSize (built nodes pairs).nodeSet (built nodes pairs).adjacency =
      some size ∧ Components.Largest (next nodes pairs) (nodeSet nodes pairs) size := by
  obtain ⟨hnodup, hset⟩ := built_nodeSet nodes pairs
  have hcard : (built nodes pairs).nodeSet.length = (nodeSet nodes pairs).card := by
    rw [← hset, List.toFinset_card_of_nodup hnodup]
  rw [largestComponentSize, hcard]
  apply @Components.largest_spec _ (next nodes pairs)
  · exact next_symm
  · exact fun _ _ _ h => mem_nodeSet_of_next h
  · intro a
    rw [EdgeInference.mem_sorted, ← hset, List.mem_toFinset]
    simp
  · simp
  · exact ⟨by simp, .inl rfl⟩

theorem neighbours_eq_nil {a : Text} : neighbours (built nodes pairs).adjacency a = [] ↔
    ∀ pair ∈ pairs, a ≠ pair.1 ∧ a ≠ pair.2 := by
  rw [List.eq_nil_iff_forall_not_mem]
  constructor
  · intro hnone pair hpair
    constructor
    · rintro rfl
      exact hnone pair.2 (mem_neighbours.mpr (.inl hpair))
    · rintro rfl
      exact hnone pair.1 (mem_neighbours.mpr (.inr hpair))
  · intro hnone b hb
    rcases mem_neighbours.mp hb with hpair | hpair
    · exact (hnone _ hpair).1 rfl
    · exact (hnone _ hpair).2 rfl

theorem built_edgeCount (nodes : List Text) (pairs : List (Text × Text)) :
    (built nodes pairs).edgeCount = pairs.length := by
  induction pairs using List.reverseRecOn with
  | nil => rfl
  | append_singleton pairs pair ih =>
      rw [built_append_singleton, List.length_append, ← ih]
      rfl

theorem countP_isolated (nodes : List Text) (pairs : List (Text × Text)) :
    ((built nodes pairs).nodeSet.map fun node =>
      (neighbours (built nodes pairs).adjacency node).length).countP (· = 0) =
      ((nodeSet nodes pairs).filter fun a => ∀ pair ∈ pairs, a ≠ pair.1 ∧ a ≠ pair.2).card := by
  obtain ⟨hnodup, hset⟩ := built_nodeSet nodes pairs
  have hfilter : ((nodeSet nodes pairs).filter fun a => ∀ pair ∈ pairs, a ≠ pair.1 ∧ a ≠ pair.2) =
      ((built nodes pairs).nodeSet.filter fun a =>
        ∀ pair ∈ pairs, a ≠ pair.1 ∧ a ≠ pair.2).toFinset := by
    ext a
    rw [← hset, Finset.mem_filter, List.mem_toFinset, List.mem_toFinset, List.mem_filter,
      decide_eq_true_eq]
  rw [hfilter, List.toFinset_card_of_nodup (hnodup.filter _), ← List.countP_eq_length_filter,
    List.countP_map]
  apply List.countP_congr
  intro a _
  simp only [Function.comp_apply, decide_eq_true_eq, List.length_eq_zero_iff, neighbours_eq_nil]

theorem isGreatest_of_largest {size : ℕ} (hnodes : (nodeSet nodes pairs).Nonempty)
    (h : Components.Largest (next nodes pairs) (nodeSet nodes pairs) size) :
    1 ≤ size ∧ size ≤ (nodeSet nodes pairs).card ∧ IsGreatest
      (Set.range fun c : (graphOf nodes pairs).ConnectedComponent => c.supp.ncard) size := by
  have hsubset : ∀ a ∈ nodeSet nodes pairs, Components.component (next nodes pairs) a ⊆
      (nodeSet nodes pairs : Set Text) := fun a ha =>
    Components.component_subset (fun _ _ _ hstep => mem_nodeSet_of_next hstep) ha
  have hpos : 1 ≤ size := by
    obtain ⟨a, ha⟩ := hnodes
    refine le_trans ?_ (h.le a ha)
    have hfinite := (nodeSet nodes pairs).finite_toSet.subset (hsubset a ha)
    exact (Set.ncard_pos hfinite).mpr ⟨a, Components.mem_component_self a⟩
  obtain ⟨a, ha, hsize⟩ := h.attained.resolve_left (by omega)
  refine ⟨hpos, ?_, ?_, ?_⟩
  · rw [← hsize, ← Set.ncard_coe_finset]
    exact Set.ncard_le_ncard (hsubset a ha) (Finset.finite_toSet _)
  · exact ⟨(graphOf nodes pairs).connectedComponentMk ⟨a, ha⟩, (ncard_supp _).trans hsize⟩
  · rintro _ ⟨c, rfl⟩
    induction c using SimpleGraph.ConnectedComponent.ind with
    | h b =>
        dsimp only
        rw [ncard_supp b]
        exact h.le b.1 b.2

theorem metricsOf_topologyMetrics (nodes : List Text) (pairs : List (Text × Text)) :
    ∃ metrics, topologyMetrics (built nodes pairs) = some metrics ∧
      MetricsOf nodes pairs metrics := by
  obtain ⟨hnodup, hset⟩ := built_nodeSet nodes pairs
  have hcard : (built nodes pairs).nodeSet.length = (nodeSet nodes pairs).card := by
    rw [← hset, List.toFinset_card_of_nodup hnodup]
  have hisolated := countP_isolated nodes pairs
  rw [topologyMetrics]
  by_cases hempty : (built nodes pairs).nodeSet = []
  · rw [if_pos hempty]
    have hnone : nodeSet nodes pairs = ∅ := by rw [← hset, hempty, List.toFinset_nil]
    have hpairs : pairs = [] := by
      rw [List.eq_nil_iff_forall_not_mem]
      intro pair hpair
      have hmem : pair.1 ∈ nodeSet nodes pairs := mem_nodeSet.mpr (.inr ⟨pair, hpair, .inl rfl⟩)
      simp [hnone] at hmem
    refine ⟨{}, rfl, ?_⟩
    exact
      { count := by rw [hnone, Finset.card_empty]
        edges := by rw [hpairs, List.length_nil]
        isolated := by rw [hnone, Finset.filter_empty, Finset.card_empty]
        largest := fun h => absurd hnone h.ne_empty
        largest_empty := fun _ => rfl
        isolated_le := le_rfl
        low_le := le_rfl
        largest_pos := fun h => absurd hnone h.ne_empty
        largest_le := le_rfl }
  · rw [if_neg hempty]
    obtain ⟨size, hsize, hlargest⟩ := largestComponentSize_spec nodes pairs
    rw [hsize]
    refine ⟨_, rfl, ?_⟩
    have hnonempty : (nodeSet nodes pairs).Nonempty := by
      rw [← Finset.card_pos, ← hcard, List.length_pos_iff]
      exact hempty
    obtain ⟨hpos, hle, hgreatest⟩ := isGreatest_of_largest hnonempty hlargest
    exact
      { count := hcard
        edges := built_edgeCount nodes pairs
        isolated := hisolated
        largest := fun _ => hgreatest
        largest_empty := fun hnone => absurd hnonempty (hnone ▸ Finset.not_nonempty_empty)
        isolated_le := List.countP_mono_left fun _ _ h => by
          simp only [decide_eq_true_eq] at h ⊢
          omega
        low_le := List.countP_le_length.trans_eq (List.length_map _)
        largest_pos := fun _ => hpos
        largest_le := hle.trans_eq hcard.symm }

/-- For every list of edges in the supported shapes. -/
theorem computeTopologyMetrics_spec (nodes : List Text) (edges : List EdgeShape) :
    match edges.mapM edgeNodes with
    | .error error => computeTopologyMetrics nodes edges = .error error
    | .ok pairs => ∃ metrics, computeTopologyMetrics nodes edges = .ok (some metrics) ∧
        MetricsOf nodes pairs metrics := by
  rw [computeTopologyMetrics]
  cases edges.mapM edgeNodes with
  | error error => rfl
  | ok pairs =>
      obtain ⟨metrics, hmetrics, hspec⟩ := metricsOf_topologyMetrics nodes pairs
      exact ⟨metrics, congrArg Except.ok hmetrics, hspec⟩

end MemoryLab.GraphHealth

import MemoryLab.Model.GraphHealthInputs
import MemoryLab.Verification.Graph.CoMembership

/-! # The two normalisers of a snapshot -/

namespace MemoryLab.GraphHealthInputs

open Library Library.Rows
open EdgeInference (sorted mem_sorted)
open HubRecall (IndexingStatus)
open EdgeInference.Texts (Before pairwise_before_sorted)

/-! ## Sorted sets -/

theorem sorted_dedup_eq_iff {texts other : List Text} :
    sorted texts.dedup = sorted other.dedup ↔ ∀ text, text ∈ texts ↔ text ∈ other := by
  have hpairwise : ∀ texts : List Text, (sorted texts.dedup).Pairwise Before := fun texts =>
    pairwise_before_sorted (List.nodup_dedup texts)
  have hmem : ∀ {texts : List Text} {text : Text}, text ∈ sorted texts.dedup ↔ text ∈ texts :=
    mem_sorted.trans List.mem_dedup
  constructor
  · intro heq text
    rw [← hmem, heq, hmem]
  · intro hsame
    have hnodup : ∀ texts : List Text, (sorted texts.dedup).Nodup := fun texts =>
      (hpairwise texts).imp fun h => h.2
    have hperm : (sorted texts.dedup).Perm (sorted other.dedup) :=
      (List.perm_ext_iff_of_nodup (hnodup texts) (hnodup other)).mpr fun text => by
        rw [hmem, hmem, hsame]
    exact hperm.eq_of_pairwise (fun a b _ _ hab hba => absurd hba hab.asymm) (hpairwise texts)
      (hpairwise other)

theorem sortOn_of_pairwise {ρ κ : Type} [LinearOrder κ] {key : ρ → κ} {rows : List ρ}
    (h : rows.Pairwise fun a b => key a ≤ key b) : sortOn key rows = rows := by
  rw [sortOn]
  exact h.insertionSort_eq

/-! ## Nodes -/

theorem mem_readerNodes {snapshot : Snapshot} {node : Text} : node ∈ readerNodes snapshot ↔
    ∃ edge ∈ edgesOf snapshot, node = edge.1 ∨ node = edge.2 := by
  simp only [readerNodes, List.mem_dedup, List.mem_append, List.mem_map]
  constructor
  · rintro (((⟨edge, hedge, rfl⟩ | ⟨edge, hedge, rfl⟩) | ⟨edge, hedge, rfl⟩) | ⟨edge, hedge, rfl⟩)
    · exact ⟨_, List.mem_append_left _ (List.mem_map_of_mem hedge), .inl rfl⟩
    · exact ⟨_, List.mem_append_left _ (List.mem_map_of_mem hedge), .inr rfl⟩
    · exact ⟨_, List.mem_append_right _ (List.mem_map_of_mem hedge), .inl rfl⟩
    · exact ⟨_, List.mem_append_right _ (List.mem_map_of_mem hedge), .inr rfl⟩
  · rintro ⟨pair, hpair, hnode⟩
    rcases List.mem_append.mp hpair with hpair | hpair
    · obtain ⟨edge, hedge, rfl⟩ := List.mem_map.mp hpair
      rcases hnode with rfl | rfl
      · exact .inl (.inl (.inl ⟨edge, hedge, rfl⟩))
      · exact .inl (.inl (.inr ⟨edge, hedge, rfl⟩))
    · obtain ⟨edge, hedge, rfl⟩ := List.mem_map.mp hpair
      rcases hnode with rfl | rfl
      · exact .inl (.inr ⟨edge, hedge, rfl⟩)
      · exact .inr ⟨edge, hedge, rfl⟩

theorem nodup_serviceNodes (edges : List (Text × Text)) : (serviceNodes edges).Nodup := by
  induction edges using List.reverseRecOn with
  | nil => exact List.nodup_nil
  | append_singleton edges edge ih =>
      rw [serviceNodes, List.foldl_append, ← serviceNodes, List.foldl_cons, List.foldl_nil]
      dsimp only
      split
      · split
        · exact ih.insert.insert
        · exact ih.insert
      · split
        · exact ih.insert
        · exact ih

theorem mem_serviceNodes {edges : List (Text × Text)} {node : Text} : node ∈ serviceNodes edges ↔
    node ≠ [] ∧ ∃ edge ∈ edges, node = edge.1 ∨ node = edge.2 := by
  have hinsert : ∀ (nodes : List Text) (value : Text),
      node ∈ (if value ≠ [] then nodes.insert value else nodes) ↔
        node ∈ nodes ∨ (node ≠ [] ∧ node = value) := by
    intro nodes value
    split
    · rename_i hvalue
      rw [List.mem_insert_iff, or_comm]
      exact or_congr_right ⟨fun heq => ⟨heq ▸ hvalue, heq⟩, fun h => h.2⟩
    · rename_i hvalue
      refine ⟨.inl, fun h => h.resolve_right fun heq => heq.1 ?_⟩
      rw [heq.2]
      exact not_not.mp hvalue
  induction edges using List.reverseRecOn with
  | nil => simp [serviceNodes]
  | append_singleton edges edge ih =>
      rw [serviceNodes, List.foldl_append, ← serviceNodes, List.foldl_cons, List.foldl_nil]
      dsimp only
      rw [hinsert, hinsert]
      simp only [ih, List.mem_append, List.mem_singleton, or_and_right, exists_or, exists_eq_left,
        and_or_left, or_assoc, or_left_comm]

/-- The nodes are the same where no edge has an empty end. -/
theorem nodes_eq_iff {snapshot : Snapshot} :
    sorted (readerNodes snapshot) = sorted (serviceNodes (edgesOf snapshot)) ↔
      ∀ edge ∈ edgesOf snapshot, edge.1 ≠ [] ∧ edge.2 ≠ [] := by
  have hnodup : (readerNodes snapshot).Nodup := List.nodup_dedup _
  rw [← hnodup.dedup, ← (nodup_serviceNodes _).dedup, sorted_dedup_eq_iff]
  simp only [mem_readerNodes, mem_serviceNodes]
  constructor
  · intro hsame edge hedge
    constructor
    · exact ((hsame edge.1).mp ⟨edge, hedge, .inl rfl⟩).1
    · exact ((hsame edge.2).mp ⟨edge, hedge, .inr rfl⟩).1
  · intro hends node
    refine ⟨fun hnode => ⟨?_, hnode⟩, fun hnode => hnode.2⟩
    obtain ⟨edge, hedge, rfl | rfl⟩ := hnode
    · exact (hends edge hedge).1
    · exact (hends edge hedge).2

/-! ## Contents -/

theorem status_value (searchable empty : Prop) [Decidable searchable] [Decidable empty] :
    (if searchable then IndexingStatus.searchable
      else if empty then .blockedEmpty else .unknown).value =
      if searchable then "searchable".toList
      else if empty then "blocked_empty".toList else "unknown".toList := by
  split
  · rfl
  · split <;> rfl

/-- Both make the same item of a record where they have the same nodes. -/
theorem serviceItem_eq {snapshot : Snapshot}
    (hnodes : ∀ node, node ∈ serviceNodes (edgesOf snapshot) ↔ node ∈ readerNodes snapshot)
    (record : ContentRecord) : serviceItem snapshot record = readerItem snapshot record := by
  have hlinked : decide (record.contentId ∈
      (contentsByHub snapshot.hubContentLinks).flatMap (·.2)) =
      (contentsByHub snapshot.hubContentLinks).any fun entry => record.contentId ∈ entry.2 := by
    rw [Bool.eq_iff_iff]
    simp
  simp only [serviceItem, readerItem, status_value, hlinked, hnodes]

theorem sortOn_contentRecords (rows : List ContentRow) :
    sortOn (·.contentId) (contentRecords rows) = contentRecords rows := by
  apply sortOn_of_pairwise
  rw [contentRecords, List.pairwise_map]
  exact pairwise_sortOn rows

/-! ## Labels -/

/-- A candidate with a score that is not `None`. -/
def Scored (row : AliasCandidateRow) : Prop := row.score ≠ some none

instance : DecidablePred Scored := fun _ => inferInstanceAs (Decidable (_ ≠ _))

theorem mapM_aliasCandidate (rows : List AliasCandidateRow) :
    rows.mapM aliasCandidate = if ∀ row ∈ rows, Scored row then some rows else none := by
  induction rows with
  | nil => rfl
  | cons row rows ih =>
      rw [List.mapM_cons, ih, aliasCandidate]
      by_cases hrow : row.score = some none
      · rw [if_pos hrow]
        exact (if_neg fun h => h row List.mem_cons_self hrow).symm
      · rw [if_neg hrow]
        by_cases hrows : ∀ row ∈ rows, Scored row
        · rw [if_pos hrows]
          have hall : ∀ other ∈ row :: rows, Scored other :=
            List.forall_mem_cons.mpr ⟨hrow, hrows⟩
          exact (if_pos hall).symm
        · rw [if_neg hrows]
          exact (if_neg fun h => hrows fun other hother => h other (.tail _ hother)).symm

/-- The pending candidates, as the reader orders them. -/
def pendingRows (rows : List AliasCandidateRow) : List AliasCandidateRow :=
  (sortOn (fun row => [row.termA, row.termB]) rows).filter isPending

theorem aliasCandidates_eq (rows : List AliasCandidateRow) : aliasCandidates rows =
    if ∀ row ∈ pendingRows rows, Scored row then some (pendingRows rows) else none :=
  mapM_aliasCandidate _

/-- The labels that hubs and aliases have. -/
def givenLabels (rows : RowSets) : List Text :=
  rows.hubs.flatMap (fun hub => hubLabels (hubRecord hub)) ++
    rows.aliases.flatMap fun row => [row.term, row.canonical]

/-- The terms of the pending candidates. -/
def pendingTerms (rows : RowSets) : List Text :=
  (pendingRows rows.aliasCandidates).flatMap fun row => [row.termA, row.termB]

/-- A snapshot of some rows with some candidates. -/
def snapshotWith (rows : RowSets) (hubId : Option Text) (candidates : List AliasCandidateRow) :
    Snapshot :=
  { contentRecords := contentRecords rows.contentItems
    chunkEmbeddingStates := chunkStates rows.contentChunks
    hubs := hubRecords rows.hubs
    hubContentLinks := hubLinks rows.hubContent hubId
    graphEdges := graphEdges rows.edges
    hubEdges := hubEdges rows.hubEdges
    aliasRecords := aliasRecords rows.aliases
    aliasCandidates := candidates }

theorem readSnapshot_eq (rows : RowSets) (options : SnapshotOptions) :
    readSnapshot rows options =
      if options.includeAliasCandidates = true → ∀ row ∈ pendingRows rows.aliasCandidates, Scored row
      then some (snapshotWith rows options.hubId
        (if options.includeAliasCandidates then pendingRows rows.aliasCandidates else []))
      else none := by
  rw [readSnapshot]
  by_cases hinclude : options.includeAliasCandidates = true
  · simp only [hinclude, if_true, true_imp_iff, aliasCandidates_eq]
    split <;> rfl
  · rw [if_neg hinclude, if_pos fun h => absurd h hinclude, if_neg hinclude]
    rfl

theorem mem_givenLabels {rows : RowSets} {label : Text} : label ∈ givenLabels rows ↔
    (label ∈ (hubRecords rows.hubs).flatMap hubLabels) ∨
      ∃ row ∈ aliasRecords rows.aliases, label = row.term ∨ label = row.canonical := by
  simp only [givenLabels, hubRecords, aliasRecords, sortOn, List.mem_append, List.mem_flatMap,
    List.mem_map, List.mem_insertionSort, List.mem_cons, List.not_mem_nil, or_false,
    exists_exists_and_eq_and]

theorem mem_pendingTerms {rows : RowSets} {label : Text} : label ∈ pendingTerms rows ↔
    ∃ row ∈ pendingRows rows.aliasCandidates, label = row.termA ∨ label = row.termB := by
  simp only [pendingTerms, List.mem_flatMap, List.mem_cons, List.not_mem_nil, or_false]

theorem ne_nil_of_mem_hubLabels {hub : HubRecord} {label : Text} (h : label ∈ hubLabels hub) :
    label ≠ [] := by
  simpa using (List.mem_filter.mp h).2

/-- The reader has every label, once the candidates can be read. -/
theorem readAliasCandidateInputs_eq (rows : RowSets) : readAliasCandidateInputs rows =
    if ∀ row ∈ pendingRows rows.aliasCandidates, Scored row then
      some (sorted (givenLabels rows ++ pendingTerms rows).dedup) else none := by
  rw [readAliasCandidateInputs, readSnapshot_eq]
  simp only [true_imp_iff, if_true]
  split
  · rw [Option.map_some]
    congr 1
    rw [sorted_dedup_eq_iff]
    intro label
    simp only [snapshotWith, List.mem_append, List.mem_map, mem_givenLabels, mem_pendingTerms,
      and_or_left, exists_or, eq_comm, or_assoc, or_comm, or_left_comm]
  · rfl

theorem serviceLabels_eq (rows : RowSets) (hubId : Option Text)
    (candidates : List AliasCandidateRow) : serviceLabels (snapshotWith rows hubId candidates) =
      sorted ((givenLabels rows ++ candidates.flatMap fun row => [row.termA, row.termB]).filter
        (· ≠ [])).dedup := by
  rw [serviceLabels, sorted_dedup_eq_iff]
  intro label
  have hhub : label ∈ (hubRecords rows.hubs).flatMap hubLabels → label ≠ [] := by
    intro h
    obtain ⟨hub, _, hlabel⟩ := List.mem_flatMap.mp h
    exact ne_nil_of_mem_hubLabels hlabel
  by_cases hnil : label = []
  · simp [hnil, snapshotWith, show [] ∉ (hubRecords rows.hubs).flatMap hubLabels from
      fun h => hhub (hnil ▸ h) hnil]
  · simp only [snapshotWith, List.mem_append, List.mem_map, List.mem_filter, mem_givenLabels,
      List.mem_flatMap, List.mem_cons, List.not_mem_nil, or_false, hnil, ne_eq, not_false_eq_true,
      decide_true, and_true, and_or_left, exists_or, eq_comm, or_assoc]

/-! ## Agreement -/

/-- The rows have no empty text where only one of the normalisers drops it. Where the candidates
are left out of the snapshot, they can be read and have no term of their own. -/
structure Agreeable (rows : RowSets) (options : SnapshotOptions) : Prop where
  edges : ∀ row ∈ rows.edges, row.fromNode ≠ [] ∧ row.toNode ≠ []
  hubEdges : ∀ row ∈ rows.hubEdges, isShown row = true →
    row.sourceHubId ≠ [] ∧ row.targetHubId ≠ []
  aliases : ∀ row ∈ rows.aliases, row.term ≠ [] ∧ row.canonical ≠ []
  candidates : ∀ term ∈ pendingTerms rows, term ≠ []
  left_out : options.includeAliasCandidates = false →
    (∀ row ∈ pendingRows rows.aliasCandidates, Scored row) ∧
      ∀ term ∈ pendingTerms rows, term ∈ givenLabels rows

theorem ends_iff (rows : RowSets) (hubId : Option Text) (candidates : List AliasCandidateRow) :
    (∀ edge ∈ edgesOf (snapshotWith rows hubId candidates), edge.1 ≠ [] ∧ edge.2 ≠ []) ↔
      (∀ row ∈ rows.edges, row.fromNode ≠ [] ∧ row.toNode ≠ []) ∧
        ∀ row ∈ rows.hubEdges, isShown row = true → row.sourceHubId ≠ [] ∧ row.targetHubId ≠ [] := by
  simp only [edgesOf, snapshotWith, graphEdges, hubEdges, sortOn, List.forall_mem_append,
    List.forall_mem_map, List.mem_filter, List.mem_insertionSort, and_imp]

theorem nil_notMem_givenLabels (rows : RowSets) : [] ∉ givenLabels rows ↔
    ∀ row ∈ rows.aliases, row.term ≠ [] ∧ row.canonical ≠ [] := by
  have hhubs : [] ∉ rows.hubs.flatMap fun hub => hubLabels (hubRecord hub) := by
    intro h
    obtain ⟨hub, _, hlabel⟩ := List.mem_flatMap.mp h
    exact ne_nil_of_mem_hubLabels hlabel rfl
  rw [givenLabels, List.mem_append, not_or, and_iff_right hhubs]
  simp only [List.mem_flatMap, List.mem_cons, List.not_mem_nil, or_false, not_exists, not_and,
    not_or, ne_eq, eq_comm]

/-- The labels are the same where none is empty and none comes from candidates alone. -/
theorem labels_eq_iff {given pending : List Text} {included : Bool} :
    sorted (given ++ pending).dedup =
      sorted ((given ++ if included then pending else []).filter (· ≠ [])).dedup ↔
      [] ∉ given ∧ (∀ term ∈ pending, term ≠ []) ∧
        (included = false → ∀ term ∈ pending, term ∈ given) := by
  rw [sorted_dedup_eq_iff]
  simp only [List.mem_append, List.mem_filter, decide_eq_true_eq]
  constructor
  · intro hsame
    refine ⟨fun hnil => ((hsame []).mp (.inl hnil)).2 rfl, fun term hterm =>
      ((hsame term).mp (.inr hterm)).2, fun hout term hterm => ?_⟩
    rw [hout] at hsame
    simpa using ((hsame term).mp (.inr hterm)).1
  · rintro ⟨hgiven, hpending, hout⟩ label
    constructor
    · rintro (hlabel | hlabel)
      · exact ⟨.inl hlabel, fun hnil => hgiven (hnil ▸ hlabel)⟩
      · refine ⟨?_, hpending label hlabel⟩
        cases included with
        | true => exact .inr hlabel
        | false => exact .inl (hout rfl label hlabel)
    · rintro ⟨hlabel | hlabel, _⟩
      · exact .inl hlabel
      · cases included with
        | true => exact .inr hlabel
        | false => cases hlabel

/-- The fields that are derived in two ways decide. -/
theorem inputs_eq_iff {snapshot : Snapshot} {aliasLabels : List Text}
    (hrecords : sortOn (·.contentId) snapshot.contentRecords = snapshot.contentRecords) :
    ({ nodes := sorted (readerNodes snapshot)
       edges := edgesOf snapshot
       contentItems := snapshot.contentRecords.map (readerItem snapshot)
       hubLinks := sortedDict (contentsByHub snapshot.hubContentLinks)
       retrievalObservations := []
       aliasLabels } : HealthInputs) = repositorySnapshotToGraphHealthInputs snapshot ↔
      sorted (readerNodes snapshot) = sorted (serviceNodes (edgesOf snapshot)) ∧
        aliasLabels = serviceLabels snapshot := by
  rw [repositorySnapshotToGraphHealthInputs, HealthInputs.mk.injEq, hrecords]
  refine ⟨fun h => ⟨h.1, h.2.2.2.2.2⟩, fun h => ⟨h.1, rfl, ?_, rfl, rfl, h.2⟩⟩
  have hnodes : ∀ node, node ∈ serviceNodes (edgesOf snapshot) ↔ node ∈ readerNodes snapshot := by
    intro node
    rw [← mem_sorted, ← h.1, mem_sorted]
  exact List.map_congr_left fun record _ => (serviceItem_eq hnodes record).symm

/-- The normalisers agree on a snapshot exactly where its rows are agreeable. -/
theorem normalisers_agree_iff {rows : RowSets} {options : SnapshotOptions} {snapshot : Snapshot}
    (h : readSnapshot rows options = some snapshot) :
    graphHealthInputsFromSnapshot rows snapshot =
      some (repositorySnapshotToGraphHealthInputs snapshot) ↔ Agreeable rows options := by
  rw [readSnapshot_eq] at h
  split at h
  case isFalse => cases h
  case isTrue hread =>
    obtain rfl := Option.some.inj h
    rw [graphHealthInputsFromSnapshot, readAliasCandidateInputs_eq]
    by_cases hscored : ∀ row ∈ pendingRows rows.aliasCandidates, Scored row
    · have hterms : (if options.includeAliasCandidates = true then
          pendingRows rows.aliasCandidates else []).flatMap (fun row => [row.termA, row.termB]) =
          if options.includeAliasCandidates = true then pendingTerms rows else [] := by
        split <;> rfl
      rw [if_pos hscored, Option.map_some, Option.some_inj,
        inputs_eq_iff (sortOn_contentRecords rows.contentItems), nodes_eq_iff, ends_iff,
        serviceLabels_eq, hterms, labels_eq_iff, nil_notMem_givenLabels]
      constructor
      · rintro ⟨⟨hedges, hhubEdges⟩, haliases, hcandidates, hout⟩
        exact ⟨hedges, hhubEdges, haliases, hcandidates, fun hleft => ⟨hscored, hout hleft⟩⟩
      · intro hrows
        exact ⟨⟨hrows.edges, hrows.hubEdges⟩, hrows.aliases, hrows.candidates,
          fun hleft => (hrows.left_out hleft).2⟩
    · rw [if_neg hscored]
      refine iff_of_false (by simp) fun hrows => hscored ?_
      by_cases hinclude : options.includeAliasCandidates = true
      · exact hread hinclude
      · exact (hrows.left_out (by simpa using hinclude)).1

section Sample

/-- An edge without a start. -/
def sampleRows (fromNode : String) : RowSets :=
  { contentItems := [⟨"c1".toList⟩]
    edges := [⟨fromNode.toList, "relates".toList, "c1".toList⟩]
    aliases := [⟨"ML".toList, "machine learning".toList⟩] }

theorem normalisers_agree_sample :
    graphHealthInputsFromSnapshot (sampleRows "n1") (snapshotWith (sampleRows "n1") none []) =
      some (repositorySnapshotToGraphHealthInputs (snapshotWith (sampleRows "n1") none [])) := by
  have hread : readSnapshot (sampleRows "n1") {} =
      some (snapshotWith (sampleRows "n1") none []) := by decide +kernel
  refine (normalisers_agree_iff hread).mpr ⟨by decide, by decide, by decide, by decide, ?_⟩
  intro hleft
  cases hleft

/-- The reader has the empty start as a node. -/
theorem not_normalisers_agree : ¬ ∀ (rows : RowSets) (options : SnapshotOptions)
    (snapshot : Snapshot), readSnapshot rows options = some snapshot →
      graphHealthInputsFromSnapshot rows snapshot =
        some (repositorySnapshotToGraphHealthInputs snapshot) := by
  intro hall
  have hread : readSnapshot (sampleRows "") {} =
      some (snapshotWith (sampleRows "") none []) := by decide +kernel
  have hsame := hall (sampleRows "") {} _ hread
  revert hsame
  decide +kernel

end Sample

end MemoryLab.GraphHealthInputs

import MemoryLab.Model.EdgeInference
import MemoryLab.Verification.Storable

/-! # What the producer proposes

Every proposal joins two hubs under the texts that the database gives their identifiers, with a
confidence and texts that the table takes. -/

namespace MemoryLab.EdgeInference

open Library Library.Rows HubEdges

/-- A proposal that the producer can make. -/
structure Producible (proposal : EdgeProposal) : Prop where
  source : Uuid.Canonical proposal.sourceHubId
  target : Uuid.Canonical proposal.targetHubId
  type : proposal.edgeType = proposedEdgeType

/-- A proposal over hubs with a property, with values that the table takes. -/
structure Proposed (P : Text → Prop) (proposal : EdgeProposal) : Prop where
  source : P proposal.sourceHubId
  target : P proposal.targetHubId
  type : proposal.edgeType = proposedEdgeType
  confidence : confidenceValid (some proposal.confidence) = true
  reason : storable proposal.reason = true
  rules : ∀ rule ∈ proposal.detectionRules, storable rule = true

theorem Proposed.producible {proposal : EdgeProposal} (h : Proposed Uuid.Canonical proposal) :
    Producible proposal := ⟨h.source, h.target, h.type⟩

theorem mem_combinations {α : Type} {items : List α} {pair : α × α}
    (h : pair ∈ combinations items) : pair.1 ∈ items ∧ pair.2 ∈ items := by
  induction items with
  | nil => cases h
  | cons first items ih =>
      rw [combinations, List.mem_append, List.mem_map] at h
      rcases h with ⟨second, hsecond, rfl⟩ | h
      · exact ⟨List.mem_cons_self, List.mem_cons_of_mem first hsecond⟩
      · exact ⟨List.mem_cons_of_mem first (ih h).1, List.mem_cons_of_mem first (ih h).2⟩

theorem mem_sorted {texts : List Text} {text : Text} : text ∈ sorted texts ↔ text ∈ texts :=
  List.mem_insertionSort _

theorem confidenceValid_scaled {evidence : ℕ} {threshold : ℤ} (h : threshold ≤ evidence) :
    confidenceValid (some (scaledConfidence evidence threshold)) = true := by
  have hsteps : (0 : ℚ) ≤ (evidence : ℚ) - threshold := by exact_mod_cast Int.sub_nonneg.mpr h
  have hlow : 0 ≤ scaledConfidence evidence threshold := by
    refine le_min (by norm_num [confidenceCap]) ?_
    norm_num [baseConfidence, confidenceStep]
    linarith
  have hhigh : scaledConfidence evidence threshold ≤ 1 :=
    (min_le_left _ _).trans (by norm_num [confidenceCap])
  simp [confidenceValid, hlow, hhigh]

theorem proposed_pairProposal {P : Text → Prop} {hubA hubB rule reason : Text} (hA : P hubA)
    (hB : P hubB) {evidence : ℕ} {threshold : ℤ} (hevidence : threshold ≤ evidence)
    (hrule : storable rule = true) (hreason : storable reason = true) :
    Proposed P (pairProposal hubA hubB evidence threshold rule reason) := by
  have hconfidence := confidenceValid_scaled hevidence
  have hrules : ∀ other ∈ [rule], storable other = true := by simpa using hrule
  unfold pairProposal
  rcases Text.sortPair_eq hubA hubB with hpair | hpair
  · rw [hpair]
    exact ⟨hA, hB, rfl, hconfidence, hreason, hrules⟩
  · rw [hpair]
    exact ⟨hB, hA, rfl, hconfidence, hreason, hrules⟩

/-- A reason that tells a count. -/
theorem storable_count {before after : Text} (hbefore : storable before = true)
    (hafter : storable after = true) (n : ℕ) :
    storable (before ++ (toString n).toList ++ after) = true := by
  rw [storable_append, storable_append, hbefore, hafter, storable_toString]
  rfl

/-! ## Shared contents -/

theorem key_of_contentsByHub {P : Text → Prop} {memberships : List (Text × ContentId)}
    (h : ∀ row ∈ memberships, P row.1) : ∀ entry ∈ contentsByHub memberships, P entry.1 := by
  unfold contentsByHub
  refine List.foldlRecOn (motive := fun dict : Dict Text (List ContentId) =>
    ∀ entry ∈ dict, P entry.1) memberships _ (List.forall_mem_nil _) ?_
  intro dict hdict row hrow entry hentry
  split at hentry
  · exact hdict entry hentry
  · rcases Dict.mem_modify hentry with hold | hnew
    · exact hdict entry hold
    · rw [hnew]
      exact h row hrow

theorem proposed_coMembership {P : Text → Prop} {memberships : List (Text × ContentId)}
    {minShared : ℤ} (h : ∀ row ∈ memberships, P row.1) :
    ∀ proposal ∈ proposeFromCoMembership memberships minShared, Proposed P proposal := by
  intro proposal hproposal
  obtain ⟨⟨hubA, hubB⟩, hpair, hsome⟩ := List.mem_filterMap.mp hproposal
  have hkey : ∀ hub ∈ sorted ((contentsByHub memberships).map (·.1)), P hub := by
    intro hub hhub
    obtain ⟨entry, hentry, rfl⟩ := List.mem_map.mp (mem_sorted.mp hhub)
    exact key_of_contentsByHub h entry hentry
  obtain ⟨hA, hB⟩ := mem_combinations hpair
  dsimp only at hsome
  split at hsome
  · cases hsome
  · rename_i henough
    cases hsome
    exact proposed_pairProposal (hkey hubA hA) (hkey hubB hB)
      ((le_max_right _ _).trans (not_lt.mp henough)) (by decide)
      (storable_count (by decide) (by decide) _)

/-! ## Shared tags -/

theorem key_of_hubTermIndex {P : Text → Prop} {hubs : List HubTerms}
    (h : ∀ hub ∈ hubs, P hub.hubId) : ∀ entry ∈ hubTermIndex hubs, P entry.1 := by
  unfold hubTermIndex
  refine List.foldlRecOn (motive := fun dict : Dict Text (List Text) => ∀ entry ∈ dict, P entry.1)
    hubs _ (List.forall_mem_nil _) ?_
  intro dict hdict hub hhub entry hentry
  dsimp only at hentry
  split at hentry
  · exact hdict entry hentry
  · rcases Dict.mem_modify hentry with hold | hnew
    · exact hdict entry hold
    · rw [hnew]
      exact h hub hhub

theorem key_of_pairDocs {P : Text → Prop} {index : Dict Text (List Text)}
    {contents : List (ContentId × List Text)} (h : ∀ entry ∈ index, P entry.1) :
    ∀ entry ∈ pairDocs index contents, P entry.1.1 ∧ P entry.1.2 := by
  have hmentioned : ∀ tags, ∀ hub ∈ mentionedHubs index tags, P hub := by
    intro tags hub hhub
    obtain ⟨entry, hentry, rfl⟩ := List.mem_map.mp (mem_sorted.mp hhub)
    exact h entry (List.mem_of_mem_filter hentry)
  unfold pairDocs
  refine List.foldlRecOn (motive := fun docs : Dict (Text × Text) (List ContentId) =>
    ∀ entry ∈ docs, P entry.1.1 ∧ P entry.1.2) contents _ (List.forall_mem_nil _) ?_
  intro docs hdocs content hcontent
  refine List.foldlRecOn (motive := fun docs : Dict (Text × Text) (List ContentId) =>
    ∀ entry ∈ docs, P entry.1.1 ∧ P entry.1.2)
    (combinations (mentionedHubs index content.2)) _ hdocs ?_
  intro docs hdocs pair hpair entry hentry
  rcases Dict.mem_modify hentry with hold | hnew
  · exact hdocs entry hold
  · obtain ⟨hfirst, hsecond⟩ := mem_combinations hpair
    rw [hnew]
    exact ⟨hmentioned content.2 _ hfirst, hmentioned content.2 _ hsecond⟩

theorem proposed_tagAlignment {P : Text → Prop} {hubs : List HubTerms}
    {contents : List (ContentId × List Text)} {minCooccur : ℤ} (h : ∀ hub ∈ hubs, P hub.hubId) :
    ∀ proposal ∈ proposeFromTagAlignment hubs contents minCooccur, Proposed P proposal := by
  intro proposal hproposal
  unfold proposeFromTagAlignment at hproposal
  dsimp only at hproposal
  split at hproposal
  · cases hproposal
  · obtain ⟨⟨⟨hubA, hubB⟩, docs⟩, hentry, hsome⟩ := List.mem_filterMap.mp hproposal
    obtain ⟨hA, hB⟩ := key_of_pairDocs (key_of_hubTermIndex h) _ hentry
    dsimp only at hsome
    split at hsome
    · cases hsome
    · rename_i henough
      cases hsome
      exact proposed_pairProposal hA hB ((le_max_right _ _).trans (not_lt.mp henough)) (by decide)
        (storable_count (by decide) (by decide) _)

/-! ## The merged list -/

theorem edgeKey_mergeInto {proposal : EdgeProposal} {old : Option EdgeProposal}
    (hold : ∀ existing, old = some existing → existing.edgeKey = proposal.edgeKey) :
    (mergeInto proposal old).edgeKey = proposal.edgeKey := by
  cases old with
  | none => rfl
  | some existing =>
      have hexisting := hold existing rfl
      by_cases hconfidence : proposal.confidence > existing.confidence
      · rw [mergeInto, if_pos hconfidence]
        rfl
      · rw [mergeInto, if_neg hconfidence]
        exact hexisting

theorem proposed_mergeInto {P : Text → Prop} {proposal : EdgeProposal} (h : Proposed P proposal)
    {old : Option EdgeProposal} (hold : ∀ existing, old = some existing → Proposed P existing) :
    Proposed P (mergeInto proposal old) := by
  cases old with
  | none => exact h
  | some existing =>
      have hexisting := hold existing rfl
      have hreason {first second : Text} (hfirst : storable first = true)
          (hsecond : storable second = true) :
          storable (first ++ "; ".toList ++ second) = true := by
        rw [storable_append, storable_append, hfirst, hsecond]
        decide
      have hrules {first second : List Text} (hfirst : ∀ rule ∈ first, storable rule = true)
          (hsecond : ∀ rule ∈ second, storable rule = true) :
          ∀ rule ∈ sorted (first ++ second).dedup, storable rule = true := by
        intro rule hrule
        rw [mem_sorted, List.mem_dedup, List.mem_append] at hrule
        exact hrule.elim (hfirst rule) (hsecond rule)
      by_cases hconfidence : proposal.confidence > existing.confidence
      · rw [mergeInto, if_pos hconfidence]
        exact ⟨h.source, h.target, h.type, h.confidence, hreason h.reason hexisting.reason,
          hrules h.rules hexisting.rules⟩
      · rw [mergeInto, if_neg hconfidence]
        exact ⟨hexisting.source, hexisting.target, hexisting.type, hexisting.confidence,
          hreason hexisting.reason h.reason, hrules hexisting.rules h.rules⟩

/-- The proposals by key, before they are ordered. -/
def mergedByKey (proposals : List EdgeProposal) : Dict Text EdgeProposal :=
  proposals.foldl (fun dict proposal => dict.modify proposal.edgeKey (mergeInto proposal)) []

theorem mem_mergeProposals {proposals : List EdgeProposal} {proposal : EdgeProposal} :
    proposal ∈ mergeProposals proposals ↔ ∃ entry ∈ mergedByKey proposals, entry.2 = proposal := by
  unfold mergeProposals
  rw [List.mem_insertionSort, List.mem_map]
  rfl

theorem proposed_mergeProposals {P : Text → Prop} {proposals : List EdgeProposal}
    (h : ∀ proposal ∈ proposals, Proposed P proposal) :
    ∀ proposal ∈ mergeProposals proposals, Proposed P proposal := by
  have hmerged : ∀ entry ∈ mergedByKey proposals, Proposed P entry.2 := by
    refine List.foldlRecOn (motive := fun dict : Dict Text EdgeProposal =>
      ∀ entry ∈ dict, Proposed P entry.2) proposals _ (List.forall_mem_nil _) ?_
    intro dict hdict proposal hproposal
    exact Dict.forall_modify hdict fun old hold => proposed_mergeInto (h proposal hproposal) hold
  intro proposal hproposal
  obtain ⟨entry, hentry, rfl⟩ := mem_mergeProposals.mp hproposal
  exact hmerged entry hentry

/-- A workspace's proposals in order, before the list is cut. -/
def mergedProposals (db : Database) (workspaceId : WorkspaceId) (settings : InferenceSettings) :
    List EdgeProposal :=
  mergeProposals
    (proposeFromCoMembership (fetchMemberships db workspaceId) settings.minShared ++
      proposeFromTagAlignment (fetchHubs db workspaceId) (fetchTaggedContents db workspaceId)
        settings.minCooccur)

theorem proposed_of_merged {db : Database} {workspaceId : WorkspaceId}
    {settings : InferenceSettings} {P : Text → Prop} (hhubs : ∀ hub ∈ db.hubs, P hub.hubId.text) :
    ∀ proposal ∈ mergedProposals db workspaceId settings, Proposed P proposal := by
  refine proposed_mergeProposals fun candidate hcandidate => ?_
  rcases List.mem_append.mp hcandidate with hcandidate | hcandidate
  · refine proposed_coMembership ?_ candidate hcandidate
    intro row hrow
    obtain ⟨link, hlink, rfl⟩ := List.mem_map.mp hrow
    have hselected := (List.mem_filter.mp hlink).2
    simp only [Bool.and_eq_true, List.any_eq_true, beq_iff_eq] at hselected
    obtain ⟨-, hub, hhub, ⟨hid, -⟩, -⟩ := hselected
    exact hid ▸ hhubs hub hhub
  · refine proposed_tagAlignment ?_ candidate hcandidate
    intro hub hhub
    obtain ⟨row, hrow, rfl⟩ := List.mem_map.mp hhub
    exact hhubs row (List.mem_of_mem_filter hrow)

/-- The producer spells hubs as the database does, and proposes one type. -/
theorem producible_of_inferred {db : Database} {workspaceId : WorkspaceId}
    {settings : InferenceSettings} :
    ∀ proposal ∈ inferredProposals db workspaceId settings, Producible proposal :=
  fun proposal hproposal => (proposed_of_merged (fun hub _ => ⟨hub.hubId, rfl⟩) proposal
    (List.mem_of_mem_take hproposal)).producible

end MemoryLab.EdgeInference

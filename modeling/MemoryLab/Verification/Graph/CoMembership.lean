import MemoryLab.Model.EdgeProducers
import MemoryLab.Verification.Graph.Proposals

/-! # Proposals from shared contents -/

namespace MemoryLab.EdgeInference.Texts

open Library

/-! ## Pairs of an ordered list -/

/-- `a < b` of texts. -/
def Before (a b : Text) : Prop := a.le b = true ∧ a ≠ b

theorem Before.asymm {a b : Text} (h : Before a b) : ¬ Before b a :=
  fun h' => h.2 (Text.le_antisymm h.1 h'.1)

theorem before_or_before {a b : Text} (h : a ≠ b) : Before a b ∨ Before b a := by
  rcases Text.le_total a b with hab | hba
  · exact .inl ⟨hab, h⟩
  · exact .inr ⟨hba, h.symm⟩

theorem pairwise_before_sorted {texts : List Text} (h : texts.Nodup) :
    (sorted texts).Pairwise Before := by
  have hsorted : (sorted texts).Pairwise fun a b => a.le b = true := by
    have : Std.Total fun a b : Text => a.le b = true := ⟨Text.le_total⟩
    have : IsTrans Text fun a b => a.le b = true := ⟨fun _ _ _ => Text.le_trans⟩
    exact List.pairwise_insertionSort _ texts
  have hnodup : (sorted texts).Nodup := (List.perm_insertionSort _ texts).nodup_iff.mpr h
  exact (hsorted.and hnodup).imp fun hab => hab

theorem mem_combinations_iff {items : List Text} (h : items.Pairwise Before) {a b : Text} :
    (a, b) ∈ combinations items ↔ a ∈ items ∧ b ∈ items ∧ Before a b := by
  induction items with
  | nil => simp [combinations]
  | cons first items ih =>
      rw [List.pairwise_cons] at h
      have ih := ih h.2
      rw [combinations, List.mem_append, ih, List.mem_map]
      constructor
      · rintro (⟨second, hsecond, heq⟩ | ⟨ha, hb, hab⟩)
        · obtain ⟨rfl, rfl⟩ : first = a ∧ second = b := by simpa using heq
          exact ⟨by simp, by simp [hsecond], h.1 second hsecond⟩
        · exact ⟨by simp [ha], by simp [hb], hab⟩
      · rintro ⟨ha, hb, hab⟩
        rcases List.mem_cons.mp ha with rfl | ha
        · have hb : b ∈ items := (List.mem_cons.mp hb).resolve_left hab.2.symm
          exact .inl ⟨b, hb, rfl⟩
        · rcases List.mem_cons.mp hb with hfirst | hb
          · exact absurd hab (hfirst ▸ (h.1 a ha).asymm)
          · exact .inr ⟨ha, hb, hab⟩

theorem nodup_combinations {items : List Text} (h : items.Nodup) :
    (combinations items).Nodup := by
  induction items with
  | nil => simp [combinations]
  | cons first items ih =>
      rw [List.nodup_cons] at h
      rw [combinations, List.nodup_append]
      refine ⟨h.2.map fun _ _ heq => (Prod.mk.inj heq).2, ih h.2, ?_⟩
      rintro pair hpair other hother rfl
      obtain ⟨second, _, rfl⟩ := List.mem_map.mp hpair
      exact h.1 (mem_combinations hother).1

theorem sortPair_of_before {a b : Text} (h : Before a b) : Text.sortPair a b = (a, b) := by
  rw [Text.sortPair, if_pos h.1]

/-! ## Proposals of pairs -/

/-- The proposal is for the two hubs, in whatever order. -/
def Joins (a b : Text) (proposal : EdgeProposal) : Prop :=
  (proposal.sourceHubId = a ∧ proposal.targetHubId = b) ∨
    (proposal.sourceHubId = b ∧ proposal.targetHubId = a)

instance (a b : Text) (proposal : EdgeProposal) : Decidable (Joins a b proposal) :=
  inferInstanceAs (Decidable (_ ∨ _))

theorem joins_comm {a b : Text} {proposal : EdgeProposal} :
    Joins a b proposal ↔ Joins b a proposal := or_comm

/-- A proposal names the hubs of its pair. -/
def Names (f : Text × Text → Option EdgeProposal) : Prop :=
  ∀ pair proposal, Before pair.1 pair.2 → f pair = some proposal →
    proposal.sourceHubId = pair.1 ∧ proposal.targetHubId = pair.2

/-- A pair of an ordered list has one proposal if it has any. -/
theorem countP_joins {f : Text × Text → Option EdgeProposal} (hf : Names f)
    {pairs : List (Text × Text)} (hnodup : pairs.Nodup)
    (hpairs : ∀ pair ∈ pairs, Before pair.1 pair.2) {a b : Text} (hab : Before a b) :
    (pairs.filterMap f).countP (Joins a b) =
      if (a, b) ∈ pairs ∧ (f (a, b)).isSome = true then 1 else 0 := by
  have hone : (pairs.filterMap f).countP (Joins a b) =
      pairs.countP fun pair => pair = (a, b) ∧ (f (a, b)).isSome = true := by
    rw [List.countP_filterMap]
    apply List.countP_congr
    rintro ⟨x, y⟩ hpair
    have hxy := hpairs _ hpair
    cases hsome : f (x, y) with
    | none =>
        simp only [Option.map_none, Option.getD_none, Bool.false_eq_true, decide_eq_true_eq,
          false_iff, not_and]
        rintro heq
        rw [← heq, hsome]
        simp
    | some proposal =>
        obtain ⟨hsource, htarget⟩ := hf _ _ hxy hsome
        simp only [Option.map_some, Option.getD_some, decide_eq_true_eq, Joins, hsource, htarget]
        constructor
        · rintro (⟨rfl, rfl⟩ | ⟨rfl, rfl⟩)
          · simp [hsome]
          · exact absurd hab hxy.asymm
        · rintro ⟨heq, _⟩
          exact .inl (Prod.mk.inj heq)
  rw [hone]
  by_cases hsome : (f (a, b)).isSome = true
  · simp only [hsome, and_true]
    split
    · rename_i hmem
      have hcount := List.count_eq_one_of_mem hnodup hmem
      simpa [List.count, beq_eq_decide] using hcount
    · rename_i hmem
      rw [List.countP_eq_zero]
      rintro pair hpair heq
      exact hmem (by simpa [of_decide_eq_true heq] using hpair)
  · simp [hsome]

theorem mem_addTo {α : Type} [DecidableEq α] {x value : α} {values : Option (List α)} :
    x ∈ addTo value values ↔ x = value ∨ x ∈ values.getD [] := by
  rw [addTo, List.mem_insert_iff]

theorem nodup_addTo {α : Type} [DecidableEq α] (value : α) {values : Option (List α)}
    (h : (values.getD []).Nodup) : (addTo value values).Nodup := h.insert

/-! ## Values collected by key -/

/-- The values of each key, without repetition. -/
def collected {κ β : Type} [DecidableEq κ] [DecidableEq β] (rows : List (κ × β)) :
    Dict κ (List β) :=
  rows.foldl (fun dict row => dict.modify row.1 (addTo row.2)) []

section Collected

variable {κ β : Type} [DecidableEq κ] [DecidableEq β]

theorem collected_append_singleton (rows : List (κ × β)) (row : κ × β) :
    collected (rows ++ [row]) = (collected rows).modify row.1 (addTo row.2) := by
  rw [collected, List.foldl_append]
  rfl

theorem keys_collected_nodup (rows : List (κ × β)) : ((collected rows).map (·.1)).Nodup := by
  induction rows using List.reverseRecOn with
  | nil => simp [collected]
  | append_singleton rows row ih =>
      rw [collected_append_singleton]
      exact Dict.keys_modify_nodup ih

theorem collected_spec (rows : List (κ × β)) (key : κ) :
    (((collected rows).get? key).getD []).Nodup ∧
      ∀ value, value ∈ ((collected rows).get? key).getD [] ↔ (key, value) ∈ rows := by
  induction rows using List.reverseRecOn with
  | nil => simp [collected, Dict.get?]
  | append_singleton rows row ih =>
      rw [collected_append_singleton]
      by_cases hkey : key = row.1
      · subst hkey
        rw [Dict.get?_modify_self, Option.getD_some]
        refine ⟨nodup_addTo row.2 ih.1, fun value => ?_⟩
        rw [mem_addTo, ih.2 value, List.mem_append, List.mem_singleton, or_comm, Prod.ext_iff]
        simp
      · rw [Dict.get?_modify_of_ne hkey]
        refine ⟨ih.1, fun value => (ih.2 value).trans ?_⟩
        simp [Prod.ext_iff, hkey]

theorem mem_keys_collected {rows : List (κ × β)} {key : κ} {value : β}
    (h : (key, value) ∈ rows) : key ∈ (collected rows).map (·.1) := by
  have hmem := ((collected_spec rows key).2 value).mpr h
  cases hfound : (collected rows).get? key with
  | none => simp [hfound] at hmem
  | some values =>
      exact List.mem_map.mpr
        ⟨_, (Dict.mem_iff_get? (keys_collected_nodup rows)).mpr hfound, rfl⟩

theorem exists_of_mem_collected {rows : List (κ × β)} {entry : κ × List β}
    (h : entry ∈ collected rows) : ∃ value, (entry.1, value) ∈ rows := by
  induction rows using List.reverseRecOn with
  | nil => simp [collected] at h
  | append_singleton rows row ih =>
      rw [collected_append_singleton] at h
      rcases Dict.mem_modify h with hold | hnew
      · obtain ⟨value, hvalue⟩ := ih hold
        exact ⟨value, List.mem_append_left _ hvalue⟩
      · exact ⟨row.2, by simp [hnew]⟩

end Collected

/-! ## The contents of the hubs -/

/-- A row that names both a hub and a content. -/
def Linked (memberships : List (Text × Text)) (hub content : Text) : Prop :=
  (hub, content) ∈ memberships ∧ hub ≠ [] ∧ content ≠ []

instance (memberships : List (Text × Text)) (hub content : Text) :
    Decidable (Linked memberships hub content) := inferInstanceAs (Decidable (_ ∧ _))

theorem contentsByHub_eq (memberships : List (Text × Text)) : contentsByHub memberships =
    collected (memberships.filter fun row => row.1 ≠ [] ∧ row.2 ≠ []) := by
  rw [contentsByHub, collected, List.foldl_filter]
  refine List.foldl_ext _ _ _ fun dict row _ => ?_
  by_cases hblank : row.1 = [] ∨ row.2 = []
  · rw [if_pos hblank, if_neg (by simpa [← not_or] using hblank)]
  · rw [if_neg hblank, if_pos (by simpa [← not_or] using hblank)]

theorem keys_contentsByHub_nodup (memberships : List (Text × Text)) :
    ((contentsByHub memberships).map (·.1)).Nodup := by
  rw [contentsByHub_eq]
  exact keys_collected_nodup _

/-- What the index has for a hub. -/
def contentsOf (memberships : List (Text × Text)) (hub : Text) : List Text :=
  ((contentsByHub memberships).get? hub).getD []

theorem contentsOf_spec (memberships : List (Text × Text)) (hub : Text) :
    (contentsOf memberships hub).Nodup ∧
      ∀ content, content ∈ contentsOf memberships hub ↔ Linked memberships hub content := by
  rw [contentsOf, contentsByHub_eq]
  refine ⟨(collected_spec _ hub).1, fun content => ((collected_spec _ hub).2 content).trans ?_⟩
  simp [Linked]

/-- The contents that two hubs share. -/
def sharedContents (memberships : List (Text × Text)) (a b : Text) : Finset Text :=
  (memberships.map (·.2)).toFinset.filter fun content =>
    Linked memberships a content ∧ Linked memberships b content

theorem mem_sharedContents {memberships : List (Text × Text)} {a b content : Text} :
    content ∈ sharedContents memberships a b ↔
      Linked memberships a content ∧ Linked memberships b content := by
  rw [sharedContents, Finset.mem_filter, List.mem_toFinset]
  exact and_iff_right_of_imp fun h => List.mem_map.mpr ⟨_, h.1.1, rfl⟩

theorem length_shared (memberships : List (Text × Text)) (a b : Text) :
    ((contentsOf memberships a).filter (· ∈ contentsOf memberships b)).length =
      (sharedContents memberships a b).card := by
  have hnodup := (contentsOf_spec memberships a).1.filter fun content =>
    decide (content ∈ contentsOf memberships b)
  rw [← List.toFinset_card_of_nodup hnodup]
  congr 1
  ext content
  rw [mem_sharedContents, List.mem_toFinset, List.mem_filter, decide_eq_true_eq,
    (contentsOf_spec memberships a).2, (contentsOf_spec memberships b).2]

theorem mem_keys_of_linked {memberships : List (Text × Text)} {hub content : Text}
    (h : Linked memberships hub content) :
    hub ∈ sorted ((contentsByHub memberships).map (·.1)) := by
  rw [mem_sorted, contentsByHub_eq]
  exact mem_keys_collected (List.mem_filter.mpr ⟨h.1, by simpa using h.2⟩)

theorem isSome_coMembershipProposal {memberships : List (Text × Text)} {minShared : ℤ}
    {a b : Text} :
    (coMembershipProposal (contentsByHub memberships) minShared (a, b)).isSome = true ↔
      max 1 minShared ≤ (sharedContents memberships a b).card := by
  rw [← length_shared, coMembershipProposal]
  dsimp only
  split
  · rename_i hfew
    exact iff_of_false (by simp) (not_le.mpr hfew)
  · rename_i hmany
    exact iff_of_true rfl (not_lt.mp hmany)

theorem names_coMembershipProposal (contents : Dict Text (List Text)) (minShared : ℤ) :
    Names (coMembershipProposal contents minShared) := by
  intro pair proposal hpair hsome
  rw [coMembershipProposal] at hsome
  split at hsome
  · cases hsome
  · cases hsome
    rw [pairProposal, sortPair_of_before hpair]
    exact ⟨rfl, rfl⟩

/-- Two hubs have one proposal where they share enough contents, and none elsewhere. -/
theorem countP_coMembership {memberships : List (Text × Text)} {minShared : ℤ} {a b : Text}
    (hab : a ≠ b) : (proposeFromCoMembership memberships minShared).countP (Joins a b) =
      if max 1 minShared ≤ (sharedContents memberships a b).card then 1 else 0 := by
  have hordered := pairwise_before_sorted (keys_contentsByHub_nodup memberships)
  have hnodup : (sorted ((contentsByHub memberships).map (·.1))).Nodup :=
    hordered.imp fun h => h.2
  have hcount {a b : Text} (hab : Before a b) :
      (proposeFromCoMembership memberships minShared).countP (Joins a b) =
        if max 1 minShared ≤ (sharedContents memberships a b).card then 1 else 0 := by
    rw [proposeFromCoMembership, countP_joins (names_coMembershipProposal _ _)
      (nodup_combinations hnodup) (fun pair hpair => ((mem_combinations_iff hordered).mp hpair).2.2)
      hab]
    apply if_congr _ rfl rfl
    rw [isSome_coMembershipProposal, mem_combinations_iff hordered]
    constructor
    · exact fun h => h.2
    · intro henough
      have hpos : 0 < (sharedContents memberships a b).card := by omega
      obtain ⟨content, hcontent⟩ := Finset.card_pos.mp hpos
      obtain ⟨hA, hB⟩ := mem_sharedContents.mp hcontent
      exact ⟨⟨mem_keys_of_linked hA, mem_keys_of_linked hB, hab⟩, henough⟩
  rcases before_or_before hab with hab | hba
  · exact hcount hab
  · have hsame : sharedContents memberships a b = sharedContents memberships b a := by
      ext content
      rw [mem_sharedContents, mem_sharedContents, and_comm]
    have hjoins : (proposeFromCoMembership memberships minShared).countP (Joins a b) =
        (proposeFromCoMembership memberships minShared).countP (Joins b a) :=
      List.countP_congr fun proposal _ => by simp [joins_comm]
    rw [hjoins, hsame]
    exact hcount hba

theorem before_of_mem_coMembership {memberships : List (Text × Text)} {minShared : ℤ}
    {proposal : EdgeProposal} (h : proposal ∈ proposeFromCoMembership memberships minShared) :
    Before proposal.sourceHubId proposal.targetHubId := by
  have hordered := pairwise_before_sorted (keys_contentsByHub_nodup memberships)
  obtain ⟨⟨a, b⟩, hpair, hsome⟩ := List.mem_filterMap.mp h
  have hab := ((mem_combinations_iff hordered).mp hpair).2.2
  obtain ⟨hsource, htarget⟩ := names_coMembershipProposal _ _ _ _ hab hsome
  rwa [hsource, htarget]

end MemoryLab.EdgeInference.Texts

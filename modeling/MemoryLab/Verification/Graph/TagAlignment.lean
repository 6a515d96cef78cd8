import MemoryLab.Verification.Graph.MergeInPlace

/-! # Proposals from shared tags

The noise test looks at a tag as it is spelled, the comparison at its normal form. -/

namespace MemoryLab.EdgeInference.Texts

open Library

/-! ## The index of terms -/

def termsOf (hub : HubTerms) : List Text :=
  normalizedTerms (hub.title :: (hub.aliases ++ hub.relatedTerms))

theorem mem_normalizedTerms {terms : List Text} {term : Text} :
    term ∈ normalizedTerms terms ↔ term ≠ [] ∧ ∃ spelled ∈ terms, normalizeTerm spelled = term := by
  simp [normalizedTerms, and_comm]

theorem hubTermIndex_append_singleton (hubs : List HubTerms) (hub : HubTerms) :
    hubTermIndex (hubs ++ [hub]) =
      if termsOf hub = [] then hubTermIndex hubs
      else (hubTermIndex hubs).set hub.hubId (termsOf hub) := by
  rw [hubTermIndex, List.foldl_append]
  rfl

theorem keys_hubTermIndex_nodup (hubs : List HubTerms) :
    ((hubTermIndex hubs).map (·.1)).Nodup := by
  induction hubs using List.reverseRecOn with
  | nil => simp [hubTermIndex]
  | append_singleton hubs hub ih =>
      rw [hubTermIndex_append_singleton]
      split
      · exact ih
      · exact Dict.keys_modify_nodup ih

/-- Where the identifiers are distinct, the index holds the terms of every hub that has some. -/
theorem mem_hubTermIndex {hubs : List HubTerms} (h : (hubs.map (·.hubId)).Nodup)
    {entry : Text × List Text} : entry ∈ hubTermIndex hubs ↔
      ∃ hub ∈ hubs, termsOf hub ≠ [] ∧ entry = (hub.hubId, termsOf hub) := by
  induction hubs using List.reverseRecOn with
  | nil => simp [hubTermIndex]
  | append_singleton hubs hub ih =>
      rw [List.map_append, List.nodup_append] at h
      have ih := ih h.1
      have hfresh : ∀ other ∈ hubs, other.hubId ≠ hub.hubId := fun other hother =>
        h.2.2 _ (List.mem_map_of_mem hother) _ (by simp)
      rw [hubTermIndex_append_singleton]
      by_cases hempty : termsOf hub = []
      · rw [if_pos hempty, ih]
        simp [or_and_right, exists_or, hempty]
      · rw [if_neg hempty, mem_set_iff (keys_hubTermIndex_nodup hubs), ih]
        constructor
        · rintro (rfl | ⟨_, other, hother, hrest⟩)
          · exact ⟨hub, by simp, hempty, rfl⟩
          · exact ⟨other, by simp [hother], hrest⟩
        · rintro ⟨other, hother, hterms, rfl⟩
          rcases List.mem_append.mp hother with hother | hother
          · exact .inr ⟨hfresh other hother, other, hother, hterms, rfl⟩
          · rw [List.mem_singleton.mp hother]
            exact .inl rfl

/-! ## Mentions -/

/-- A tag passes the noise test and has the normal form of a term of the hub. -/
def Mentions (hub : HubTerms) (tags : List Text) : Prop :=
  ∃ tag ∈ tags, tag ≠ [] ∧ tag ∉ noiseTags ∧ normalizeTerm tag ∈ termsOf hub

/-- A tag whose normal form is not the one of a noise tag has the normal form of a term of the
hub. -/
def MentionsProperly (hub : HubTerms) (tags : List Text) : Prop :=
  ∃ tag ∈ tags, (∀ noise ∈ noiseTags, normalizeTerm tag ≠ normalizeTerm noise) ∧
    normalizeTerm tag ∈ termsOf hub

instance (hub : HubTerms) (tags : List Text) : Decidable (Mentions hub tags) :=
  inferInstanceAs (Decidable (∃ tag ∈ tags, _))

instance (hub : HubTerms) (tags : List Text) : Decidable (MentionsProperly hub tags) :=
  inferInstanceAs (Decidable (∃ tag ∈ tags, _))

theorem normalizeTerm_nil : normalizeTerm [] = [] := by decide

theorem ne_nil_of_mem_termsOf {hub : HubTerms} {tag : Text} (h : normalizeTerm tag ∈ termsOf hub) :
    tag ≠ [] := by
  rintro rfl
  exact (mem_normalizedTerms.mp h).1 normalizeTerm_nil

theorem MentionsProperly.mentions {hub : HubTerms} {tags : List Text}
    (h : MentionsProperly hub tags) : Mentions hub tags := by
  obtain ⟨tag, htag, hnoise, hterm⟩ := h
  exact ⟨tag, htag, ne_nil_of_mem_termsOf hterm, fun hmem => hnoise tag hmem rfl, hterm⟩

theorem mem_mentionedHubs {hubs : List HubTerms} (h : (hubs.map (·.hubId)).Nodup)
    {tags : List Text} {hubId : Text} : hubId ∈ mentionedHubs (hubTermIndex hubs) tags ↔
      ∃ hub ∈ hubs, hub.hubId = hubId ∧ Mentions hub tags := by
  rw [mentionedHubs, mem_sorted, List.mem_map]
  constructor
  · rintro ⟨entry, hentry, rfl⟩
    obtain ⟨hentry, hany⟩ := List.mem_filter.mp hentry
    obtain ⟨hub, hhub, _, rfl⟩ := (mem_hubTermIndex h).mp hentry
    obtain ⟨term, hterm, htags⟩ := List.any_eq_true.mp hany
    obtain ⟨_, tag, htag, rfl⟩ := mem_normalizedTerms.mp (of_decide_eq_true htags)
    obtain ⟨htag, hpass⟩ := List.mem_filter.mp htag
    have hpass := of_decide_eq_true hpass
    exact ⟨hub, hhub, rfl, tag, htag, hpass.1, hpass.2, hterm⟩
  · rintro ⟨hub, hhub, rfl, tag, htag, hne, hnoise, hterm⟩
    refine ⟨(hub.hubId, termsOf hub), List.mem_filter.mpr ⟨(mem_hubTermIndex h).mpr
      ⟨hub, hhub, List.ne_nil_of_mem hterm, rfl⟩, ?_⟩, rfl⟩
    refine List.any_eq_true.mpr ⟨_, hterm, decide_eq_true ?_⟩
    exact mem_normalizedTerms.mpr ⟨(mem_normalizedTerms.mp hterm).1, tag,
      List.mem_filter.mpr ⟨htag, by simp [hne, hnoise]⟩, rfl⟩

theorem pairwise_before_mentionedHubs (hubs : List HubTerms) (tags : List Text) :
    (mentionedHubs (hubTermIndex hubs) tags).Pairwise Before := by
  apply pairwise_before_sorted
  exact (keys_hubTermIndex_nodup hubs).sublist (List.filter_sublist.map _)

/-! ## The documents of a pair -/

theorem pairDocs_eq (index : Dict Text (List Text)) (contents : List (Text × List Text)) :
    pairDocs index contents = collected (contents.flatMap fun content =>
      (combinations (mentionedHubs index content.2)).map fun pair => (pair, content.1)) := by
  rw [pairDocs, collected, List.foldl_flatMap]
  refine List.foldl_ext _ _ _ fun docs content _ => ?_
  rw [List.foldl_map]

/-- The contents whose tags mention both hubs. -/
def docsWith (contents : List (Text × List Text)) (mentions : List Text → Prop)
    [DecidablePred mentions] : Finset Text :=
  ((contents.filter fun content => mentions content.2).map (·.1)).toFinset

def mentionedDocs (contents : List (Text × List Text)) (a b : HubTerms) : Finset Text :=
  docsWith contents fun tags => Mentions a tags ∧ Mentions b tags

def properDocs (contents : List (Text × List Text)) (a b : HubTerms) : Finset Text :=
  docsWith contents fun tags => MentionsProperly a tags ∧ MentionsProperly b tags

theorem mem_docsWith {contents : List (Text × List Text)} {mentions : List Text → Prop}
    [DecidablePred mentions] {contentId : Text} : contentId ∈ docsWith contents mentions ↔
      ∃ tags, (contentId, tags) ∈ contents ∧ mentions tags := by
  simp only [docsWith, List.mem_toFinset, List.mem_map, List.mem_filter, decide_eq_true_eq]
  constructor
  · rintro ⟨⟨_, tags⟩, ⟨hcontent, hmentions⟩, rfl⟩
    exact ⟨tags, hcontent, hmentions⟩
  · rintro ⟨tags, hcontent, hmentions⟩
    exact ⟨(contentId, tags), ⟨hcontent, hmentions⟩, rfl⟩

theorem properDocs_subset (contents : List (Text × List Text)) (a b : HubTerms) :
    properDocs contents a b ⊆ mentionedDocs contents a b := by
  intro contentId hmem
  obtain ⟨tags, hcontent, hA, hB⟩ := mem_docsWith.mp hmem
  exact mem_docsWith.mpr ⟨tags, hcontent, hA.mentions, hB.mentions⟩

theorem hub_eq {hubs : List HubTerms} (h : (hubs.map (·.hubId)).Nodup) {a b : HubTerms}
    (ha : a ∈ hubs) (hb : b ∈ hubs) (hid : a.hubId = b.hubId) : a = b :=
  List.inj_on_of_nodup_map h ha hb hid

/-- The rows that the documents of the pairs are collected from. -/
def pairRows (hubs : List HubTerms) (contents : List (Text × List Text)) :
    List ((Text × Text) × Text) :=
  contents.flatMap fun content =>
    (combinations (mentionedHubs (hubTermIndex hubs) content.2)).map fun pair => (pair, content.1)

theorem mem_pairRows {hubs : List HubTerms} {contents : List (Text × List Text)}
    {pair : Text × Text} {contentId : Text} : (pair, contentId) ∈ pairRows hubs contents ↔
      ∃ tags, (contentId, tags) ∈ contents ∧ Before pair.1 pair.2 ∧
        pair.1 ∈ mentionedHubs (hubTermIndex hubs) tags ∧
        pair.2 ∈ mentionedHubs (hubTermIndex hubs) tags := by
  rw [pairRows, List.mem_flatMap]
  constructor
  · rintro ⟨content, hcontent, hrow⟩
    obtain ⟨other, hother, heq⟩ := List.mem_map.mp hrow
    obtain ⟨rfl, rfl⟩ : other = pair ∧ content.1 = contentId := by simpa using heq
    obtain ⟨hfirst, hsecond, hbefore⟩ :=
      (mem_combinations_iff (pairwise_before_mentionedHubs hubs content.2)).mp hother
    exact ⟨content.2, hcontent, hbefore, hfirst, hsecond⟩
  · rintro ⟨tags, hcontent, hbefore, hfirst, hsecond⟩
    refine ⟨(contentId, tags), hcontent, List.mem_map.mpr ⟨pair, ?_, rfl⟩⟩
    exact (mem_combinations_iff (pairwise_before_mentionedHubs hubs tags)).mpr
      ⟨hfirst, hsecond, hbefore⟩

theorem length_docs {hubs : List HubTerms} (h : (hubs.map (·.hubId)).Nodup)
    (contents : List (Text × List Text)) {a b : HubTerms} (ha : a ∈ hubs) (hb : b ∈ hubs)
    (hab : Before a.hubId b.hubId) :
    (((pairDocs (hubTermIndex hubs) contents).get? (a.hubId, b.hubId)).getD []).length =
      (mentionedDocs contents a b).card := by
  obtain ⟨hnodup, hmem⟩ := collected_spec (pairRows hubs contents) (a.hubId, b.hubId)
  rw [pairDocs_eq, ← pairRows, ← List.toFinset_card_of_nodup hnodup]
  congr 1
  ext contentId
  rw [List.mem_toFinset, hmem, mem_pairRows, mentionedDocs, mem_docsWith]
  apply exists_congr
  intro tags
  apply and_congr_right
  intro _
  rw [mem_mentionedHubs h, mem_mentionedHubs h]
  constructor
  · rintro ⟨_, ⟨a', ha', hid, hA⟩, b', hb', hid', hB⟩
    rw [hub_eq h ha' ha hid] at hA
    rw [hub_eq h hb' hb hid'] at hB
    exact ⟨hA, hB⟩
  · rintro ⟨hA, hB⟩
    exact ⟨hab, ⟨a, ha, rfl, hA⟩, b, hb, rfl, hB⟩

/-- A document of a pair of hubs is only there when the index has two hubs. -/
theorem two_le_length {hubs : List HubTerms} (h : (hubs.map (·.hubId)).Nodup)
    {contents : List (Text × List Text)} {a b : HubTerms} (ha : a ∈ hubs) (hb : b ∈ hubs)
    (hab : a.hubId ≠ b.hubId) (hdocs : (mentionedDocs contents a b).Nonempty) :
    2 ≤ (hubTermIndex hubs).length := by
  obtain ⟨contentId, hcontent⟩ := hdocs
  obtain ⟨tags, _, ⟨_, _, _, _, hA⟩, _, _, _, _, hB⟩ := mem_docsWith.mp hcontent
  have hkey : ∀ hub ∈ hubs, termsOf hub ≠ [] →
      hub.hubId ∈ (hubTermIndex hubs).map (·.1) := fun hub hhub hterms =>
    List.mem_map.mpr ⟨_, (mem_hubTermIndex h).mpr ⟨hub, hhub, hterms, rfl⟩, rfl⟩
  have hpair : {a.hubId, b.hubId} ⊆ ((hubTermIndex hubs).map (·.1)).toFinset := by
    intro hubId hmem
    rw [List.mem_toFinset]
    rcases Finset.mem_insert.mp hmem with rfl | hmem
    · exact hkey a ha (List.ne_nil_of_mem hA)
    · rw [Finset.mem_singleton.mp hmem]
      exact hkey b hb (List.ne_nil_of_mem hB)
  calc 2 = ({a.hubId, b.hubId} : Finset Text).card := (Finset.card_pair hab).symm
    _ ≤ ((hubTermIndex hubs).map (·.1)).toFinset.card := Finset.card_le_card hpair
    _ ≤ ((hubTermIndex hubs).map (·.1)).length := List.toFinset_card_le _
    _ = (hubTermIndex hubs).length := List.length_map _

/-! ## The proposals -/

theorem mentionedDocs_comm (contents : List (Text × List Text)) (a b : HubTerms) :
    mentionedDocs contents a b = mentionedDocs contents b a := by
  ext contentId
  simp only [mentionedDocs, mem_docsWith, and_comm]

theorem tagAlignmentProposal_eq_some {minCooccur : ℤ} {entry : (Text × Text) × List Text}
    {proposal : EdgeProposal} (h : tagAlignmentProposal minCooccur entry = some proposal) :
    max 1 minCooccur ≤ entry.2.length ∧ (Before entry.1.1 entry.1.2 →
      proposal.sourceHubId = entry.1.1 ∧ proposal.targetHubId = entry.1.2) := by
  rw [tagAlignmentProposal] at h
  split at h
  · cases h
  · rename_i henough
    cases h
    refine ⟨not_lt.mp henough, fun hbefore => ?_⟩
    rw [pairProposal, sortPair_of_before hbefore]
    exact ⟨rfl, rfl⟩

/-- Two hubs have a proposal where enough documents mention both. -/
theorem exists_joins_iff {hubs : List HubTerms} (h : (hubs.map (·.hubId)).Nodup)
    (contents : List (Text × List Text)) (minCooccur : ℤ) {a b : HubTerms} (ha : a ∈ hubs)
    (hb : b ∈ hubs) (hab : a.hubId ≠ b.hubId) :
    (∃ proposal ∈ proposeFromTagAlignment hubs contents minCooccur,
      Joins a.hubId b.hubId proposal) ↔
      max 1 minCooccur ≤ (mentionedDocs contents a b).card := by
  have hnodup : ((pairDocs (hubTermIndex hubs) contents).map (·.1)).Nodup := by
    rw [pairDocs_eq]
    exact keys_collected_nodup _
  have hordered : ∀ {a b : HubTerms}, a ∈ hubs → b ∈ hubs → Before a.hubId b.hubId →
      ((∃ proposal ∈ proposeFromTagAlignment hubs contents minCooccur,
        Joins a.hubId b.hubId proposal) ↔
        max 1 minCooccur ≤ (mentionedDocs contents a b).card) := by
    intro a b ha hb hab
    rw [proposeFromTagAlignment]
    constructor
    · rintro ⟨proposal, hproposal, hjoins⟩
      split at hproposal
      · cases hproposal
      · obtain ⟨⟨pair, docs⟩, hentry, hsome⟩ := List.mem_filterMap.mp hproposal
        obtain ⟨henough, hnames⟩ := tagAlignmentProposal_eq_some hsome
        have hrow := hentry
        rw [pairDocs_eq] at hrow
        obtain ⟨contentId, hrow⟩ := exists_of_mem_collected hrow
        obtain ⟨_, _, hbefore, _⟩ := mem_pairRows.mp hrow
        obtain ⟨hsource, htarget⟩ := hnames hbefore
        have hpair : pair = (a.hubId, b.hubId) := by
          rcases hjoins with ⟨hA, hB⟩ | ⟨hB, hA⟩
          · exact Prod.ext (hsource.symm.trans hA) (htarget.symm.trans hB)
          · rw [← hsource, ← htarget, hA, hB] at hbefore
            exact absurd hab hbefore.asymm
        rw [hpair, Dict.mem_iff_get? hnodup] at hentry
        rwa [← length_docs h contents ha hb hab, hentry]
    · intro henough
      have hdocs : (mentionedDocs contents a b).Nonempty := by
        rw [← Finset.card_pos]
        omega
      rw [if_neg (not_lt.mpr (two_le_length h ha hb hab.2 hdocs))]
      rw [← length_docs h contents ha hb hab] at henough
      cases hfound : (pairDocs (hubTermIndex hubs) contents).get? (a.hubId, b.hubId) with
      | none =>
          rw [hfound] at henough
          simp at henough
      | some docs =>
          rw [hfound, Option.getD_some] at henough
          have hsome : tagAlignmentProposal minCooccur ((a.hubId, b.hubId), docs) =
              some (pairProposal a.hubId b.hubId docs.length minCooccur
                "tag_alignment_v1".toList ("tag_alignment: co-mentioned in ".toList ++
                  (toString docs.length).toList ++ " documents".toList)) :=
            if_neg (not_lt.mpr henough)
          exact ⟨_, List.mem_filterMap.mpr ⟨_, (Dict.mem_iff_get? hnodup).mpr hfound, hsome⟩,
            .inl ((tagAlignmentProposal_eq_some hsome).2 hab)⟩
  rcases before_or_before hab with hab | hba
  · exact hordered ha hb hab
  · rw [mentionedDocs_comm]
    simp only [joins_comm (a := a.hubId)]
    exact hordered hb ha hba

/-- The producer proposes the pairs that enough contents mention properly, exactly where no pair
comes to its number of documents by tags that are other spellings of a noise tag. -/
theorem tagAlignment_iff {hubs : List HubTerms} (h : (hubs.map (·.hubId)).Nodup)
    (contents : List (Text × List Text)) (minCooccur : ℤ) :
    (∀ a ∈ hubs, ∀ b ∈ hubs, a.hubId ≠ b.hubId →
      ((∃ proposal ∈ proposeFromTagAlignment hubs contents minCooccur,
        Joins a.hubId b.hubId proposal) ↔
        max 1 minCooccur ≤ (properDocs contents a b).card)) ↔
    ¬ ∃ a ∈ hubs, ∃ b ∈ hubs, a.hubId ≠ b.hubId ∧
      (properDocs contents a b).card < max 1 minCooccur ∧
        max 1 minCooccur ≤ (mentionedDocs contents a b).card := by
  constructor
  · rintro hall ⟨a, ha, b, hb, hab, hfew, hmany⟩
    have hproposed := (exists_joins_iff h contents minCooccur ha hb hab).mpr hmany
    exact absurd ((hall a ha b hb hab).mp hproposed) (not_le.mpr hfew)
  · intro hnone a ha b hb hab
    rw [exists_joins_iff h contents minCooccur ha hb hab]
    constructor
    · intro hmany
      by_contra hfew
      exact hnone ⟨a, ha, b, hb, hab, not_le.mp hfew, hmany⟩
    · intro hproper
      have hcard := Finset.card_le_card (properDocs_subset contents a b)
      omega

section Sample

def titled (hubId title : String) : HubTerms := ⟨hubId.toList, title.toList, [], []⟩

/-- Two hubs with the same title and two contents with one tag each. -/
def sampleHubs (title : String) : List HubTerms := [titled "a" title, titled "b" title]

def sampleContents (first second : String) : List (Text × List Text) :=
  [("x".toList, [first.toList]), ("y".toList, [second.toList])]

/-- Both directions of `tagAlignment_iff` on contents that reach the number of documents. -/
theorem tagAlignment_iff_sample :
    let hubs := sampleHubs "Graph memory"
    let contents := sampleContents "graph_memory" "GRAPH-MEMORY"
    (∀ a ∈ hubs, ∀ b ∈ hubs, a.hubId ≠ b.hubId →
      ((∃ proposal ∈ proposeFromTagAlignment hubs contents 2, Joins a.hubId b.hubId proposal) ↔
        max 1 2 ≤ (properDocs contents a b).card)) ↔
    ¬ ∃ a ∈ hubs, ∃ b ∈ hubs, a.hubId ≠ b.hubId ∧
      (properDocs contents a b).card < max 1 2 ∧
        max 1 2 ≤ (mentionedDocs contents a b).card := by
  have hids : ((sampleHubs "Graph memory").map (·.hubId)).Nodup := by decide
  exact_mod_cast tagAlignment_iff hids (sampleContents "graph_memory" "GRAPH-MEMORY") 2

/-- A tag that is another spelling of the noise tag `no_content` makes a pair. -/
theorem not_tagAlignment :
    ¬ ∀ (hubs : List HubTerms) (contents : List (Text × List Text)) (minCooccur : ℤ),
      (hubs.map (·.hubId)).Nodup → (contents.map (·.1)).Nodup →
      ∀ a ∈ hubs, ∀ b ∈ hubs, a.hubId ≠ b.hubId →
        ((∃ proposal ∈ proposeFromTagAlignment hubs contents minCooccur,
          Joins a.hubId b.hubId proposal) ↔
          max 1 minCooccur ≤ (properDocs contents a b).card) := by
  intro hall
  let hubs := sampleHubs "No content"
  let contents := sampleContents "No_Content" "graph"
  have hids : (hubs.map (·.hubId)).Nodup := by decide
  have h := hall hubs contents 1 hids (by decide) (titled "a" "No content")
    (by simp [hubs, sampleHubs]) (titled "b" "No content") (by simp [hubs, sampleHubs])
    (by decide)
  have hproposed : ∃ proposal ∈ proposeFromTagAlignment hubs contents 1,
      Joins "a".toList "b".toList proposal := by decide +kernel
  have hproper : properDocs contents (titled "a" "No content") (titled "b" "No content") = ∅ := by
    decide +kernel
  rw [hproper] at h
  exact absurd (h.mp hproposed) (by decide)

end Sample

end MemoryLab.EdgeInference.Texts

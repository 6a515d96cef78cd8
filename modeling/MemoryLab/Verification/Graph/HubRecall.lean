import MemoryLab.Model.HubRecall
import MemoryLab.Verification.Graph.CoMembership

/-! # Findings of the recall of hubs

A link that is neither searchable nor retrieved is in both lists that make the findings. -/

namespace MemoryLab.HubRecall

open Library
open EdgeInference (sorted mem_sorted)

variable {contents : Dict Text ContentItem} {observations : Observations}
  {hubLinks : Dict Text (List Text)}

/-! ## The loop -/

theorem searchable_mem_codesOf {searchable : Bool} {observed : Option Bool} :
    hubLinkedNotSearchable ∈ codesOf searchable observed ↔ searchable = false := by
  have hne : hubLinkedNotSearchable ≠ hubLinkedNotRetrieved := by decide
  cases searchable <;> simp [codesOf, hne]

theorem retrieved_mem_codesOf {searchable : Bool} {observed : Option Bool} :
    hubLinkedNotRetrieved ∈ codesOf searchable observed ↔ observed = some false := by
  have hne : hubLinkedNotRetrieved ≠ hubLinkedNotSearchable := by decide
  cases searchable <;> simp [codesOf, hne]

/-- The links of some that have a code, with their findings. -/
def withCode (contents : Dict Text ContentItem) (observations : Observations) (code : Text)
    (links : List (Text × Text)) : List HubRecallFinding :=
  (links.map (findingOf contents observations)).filter fun finding => code ∈ finding.warningCodes

theorem withCode_append_singleton (code : Text) (links : List (Text × Text)) (link : Text × Text) :
    withCode contents observations code (links ++ [link]) =
      withCode contents observations code links ++
        if code ∈ (findingOf contents observations link).warningCodes then
          [findingOf contents observations link] else [] := by
  rw [withCode, List.map_append, List.filter_append, ← withCode, List.map_singleton,
    List.filter_singleton]
  simp

/-- What the loop has after some links. -/
structure Scanned (contents : Dict Text ContentItem) (observations : Observations)
    (links : List (Text × Text)) (scan : Scan) : Prop where
  linked : scan.linkedCount = links.length
  searchable : scan.searchableLinkedCount ≤ scan.linkedCount
  observed : scan.retrievalObservedCount ≤ scan.linkedCount
  notSearchable :
    scan.notSearchable = withCode contents observations hubLinkedNotSearchable links
  notRetrieved : scan.notRetrieved = withCode contents observations hubLinkedNotRetrieved links

theorem Scanned.step {links : List (Text × Text)} {scan : Scan}
    (h : Scanned contents observations links scan) (link : Text × Text) :
    Scanned contents observations (links ++ [link]) (scan.step contents observations link) where
  linked := by
    rw [List.length_append, ← h.linked]
    rfl
  searchable := by
    have hcount := h.searchable
    rw [Scan.step]
    dsimp only
    split <;> omega
  observed := by
    have hcount := h.observed
    rw [Scan.step]
    dsimp only
    split <;> omega
  notSearchable := by
    rw [withCode_append_singleton, ← h.notSearchable]
    rfl
  notRetrieved := by
    rw [withCode_append_singleton, ← h.notRetrieved]
    rfl

theorem scanned_foldl (links : List (Text × Text)) : Scanned contents observations links
    (links.foldl (Scan.step contents observations) {}) := by
  induction links using List.reverseRecOn with
  | nil => exact ⟨rfl, le_rfl, le_rfl, rfl, rfl⟩
  | append_singleton links link ih =>
      rw [List.foldl_append]
      exact ih.step link

/-! ## The links -/

theorem mem_linksOf (hkeys : (hubLinks.map (·.1)).Nodup) {hub contentId : Text} :
    (hub, contentId) ∈ linksOf hubLinks ↔ ∃ ids, (hub, ids) ∈ hubLinks ∧ contentId ∈ ids := by
  rw [linksOf, List.mem_flatMap]
  constructor
  · rintro ⟨hub', hhub, hlink⟩
    obtain ⟨contentId', hcontent, heq⟩ := List.mem_map.mp hlink
    obtain ⟨rfl, rfl⟩ : hub' = hub ∧ contentId' = contentId := by simpa using heq
    rw [mem_sorted] at hcontent
    cases hfound : hubLinks.get? hub' with
    | none => simp [hfound] at hcontent
    | some ids =>
        rw [hfound, Option.getD_some] at hcontent
        exact ⟨ids, (Dict.mem_iff_get? hkeys).mpr hfound, hcontent⟩
  · rintro ⟨ids, hids, hcontent⟩
    refine ⟨hub, mem_sorted.mpr (List.mem_map.mpr ⟨_, hids, rfl⟩), ?_⟩
    refine List.mem_map.mpr ⟨contentId, mem_sorted.mpr ?_, rfl⟩
    rwa [(Dict.mem_iff_get? hkeys).mp hids, Option.getD_some]

theorem nodup_sorted {texts : List Text} (h : texts.Nodup) : (sorted texts).Nodup :=
  (List.perm_insertionSort _ texts).nodup_iff.mpr h

theorem nodup_linksOf (hkeys : (hubLinks.map (·.1)).Nodup)
    (hids : ∀ entry ∈ hubLinks, entry.2.Nodup) : (linksOf hubLinks).Nodup := by
  rw [linksOf, List.nodup_flatMap]
  constructor
  · intro hub _
    refine List.Nodup.map (fun _ _ heq => (Prod.mk.inj heq).2) (nodup_sorted ?_)
    cases hfound : hubLinks.get? hub with
    | none => exact List.nodup_nil
    | some ids => exact hids _ ((Dict.mem_iff_get? hkeys).mpr hfound)
  · refine (nodup_sorted hkeys).imp fun hne => ?_
    intro link hfirst hsecond
    obtain ⟨_, _, rfl⟩ := List.mem_map.mp hfirst
    obtain ⟨_, _, heq⟩ := List.mem_map.mp hsecond
    exact hne (Prod.mk.inj heq).1.symm

/-- A link of the map, of the hub that is asked for. -/
def Linked (hubLinks : Dict Text (List Text)) (hubId : Option Text) (link : Text × Text) : Prop :=
  hubId.all (link.1 == ·) = true ∧ ∃ ids, (link.1, ids) ∈ hubLinks ∧ link.2 ∈ ids

theorem keys_scopedLinks_nodup (hkeys : (hubLinks.map (·.1)).Nodup) (hubId : Option Text) :
    ((scopedLinks hubLinks hubId).map (·.1)).Nodup :=
  hkeys.sublist (List.filter_sublist.map _)

theorem mem_links (hkeys : (hubLinks.map (·.1)).Nodup) {hubId : Option Text}
    {link : Text × Text} :
    link ∈ linksOf (scopedLinks hubLinks hubId) ↔ Linked hubLinks hubId link := by
  obtain ⟨hub, contentId⟩ := link
  rw [mem_linksOf (keys_scopedLinks_nodup hkeys hubId), Linked]
  simp only [scopedLinks, List.mem_filter]
  constructor
  · rintro ⟨ids, ⟨hids, hscope⟩, hcontent⟩
    exact ⟨hscope, ids, hids, hcontent⟩
  · rintro ⟨hscope, ids, hids, hcontent⟩
    exact ⟨ids, ⟨hids, hscope⟩, hcontent⟩

/-! ## The findings -/

/-- The finding is about the link. -/
def IsOn (link : Text × Text) (finding : HubRecallFinding) : Prop :=
  (finding.hubId, finding.contentId) = link

instance (link : Text × Text) : DecidablePred (IsOn link) := fun _ =>
  inferInstanceAs (Decidable (_ = _))

theorem countP_withCode {links : List (Text × Text)} (hnodup : links.Nodup) (code : Text)
    (link : Text × Text) : (withCode contents observations code links).countP (IsOn link) =
      if link ∈ links ∧ code ∈ (findingOf contents observations link).warningCodes then 1
      else 0 := by
  have hsame : ∀ other, IsOn link (findingOf contents observations other) ↔ other = link :=
    fun other => Iff.rfl
  rw [withCode, List.countP_filter, List.countP_map]
  by_cases hcode : code ∈ (findingOf contents observations link).warningCodes
  · have hcount : links.countP ((fun finding => decide (IsOn link finding) &&
        decide (code ∈ finding.warningCodes)) ∘ findingOf contents observations) =
          links.count link := by
      apply List.countP_congr
      intro other _
      simp only [Function.comp_apply, Bool.and_eq_true, decide_eq_true_eq, hsame, beq_iff_eq]
      exact and_iff_left_of_imp fun heq => heq ▸ hcode
    rw [hcount]
    by_cases hmem : link ∈ links
    · rw [List.count_eq_one_of_mem hnodup hmem, if_pos ⟨hmem, hcode⟩]
    · rw [List.count_eq_zero_of_not_mem hmem, if_neg fun h => hmem h.1]
  · rw [if_neg fun h => hcode h.2, List.countP_eq_zero]
    intro other _ hboth
    simp only [Function.comp_apply, Bool.and_eq_true, decide_eq_true_eq, hsame] at hboth
    exact hcode (hboth.1 ▸ hboth.2)

theorem score_bounds (scan : Scan) (available : Bool) :
    0 ≤ score scan available ∧ score scan available ≤ 25 := by
  rw [score]
  split
  · exact ⟨le_rfl, by decide⟩
  · exact ⟨le_max_left _ _, max_le (by decide) (min_le_left _ _)⟩

/-- The link is not searchable. -/
def Unsearchable (items : List ContentItem) (link : Text × Text) : Prop :=
  isSearchable (contentById items) link.2 = false

/-- The link was observed as not retrieved. -/
def Unretrieved (observations : Observations) (link : Text × Text) : Prop :=
  observations.get? link = some false

instance (items : List ContentItem) (link : Text × Text) : Decidable (Unsearchable items link) :=
  inferInstanceAs (Decidable (_ = _))

instance (observations : Observations) (link : Text × Text) :
    Decidable (Unretrieved observations link) := inferInstanceAs (Decidable (_ = _))

instance (hubLinks : Dict Text (List Text)) (hubId : Option Text) (link : Text × Text) :
    Decidable (Linked hubLinks hubId link) :=
  decidable_of_iff (hubId.all (link.1 == ·) = true ∧
      ∃ entry ∈ hubLinks, entry.1 = link.1 ∧ link.2 ∈ entry.2) <| by
    rw [Linked]
    apply and_congr_right
    intro _
    constructor
    · rintro ⟨⟨_, ids⟩, hentry, rfl, hcontent⟩
      exact ⟨ids, hentry, hcontent⟩
    · rintro ⟨ids, hentry, hcontent⟩
      exact ⟨_, hentry, rfl, hcontent⟩

/-- Every link has one finding if something is wrong with it, and none otherwise. -/
structure FindingsMatch (items : List ContentItem) (hubLinks : Dict Text (List Text))
    (observations : Observations) (hubId : Option Text) (report : HubRecallHealthReport) :
    Prop where
  findings : ∀ link, report.findings.countP (IsOn link) =
    if Linked hubLinks hubId link ∧ (Unsearchable items link ∨ Unretrieved observations link) then
      1 else 0
  notSearchable : report.metrics.hubLinkedNotSearchableCount =
    report.findings.countP fun finding => hubLinkedNotSearchable ∈ finding.warningCodes
  notRetrieved : report.metrics.hubLinkedNotRetrievedCount =
    report.findings.countP fun finding => hubLinkedNotRetrieved ∈ finding.warningCodes
  score : 0 ≤ report.score ∧ report.score ≤ 25

/-- The two lists of the report. -/
theorem findings_evaluate (items : List ContentItem) (hubLinks : Dict Text (List Text))
    (observations : Observations) (hubId : Option Text) :
    let links := linksOf (scopedLinks hubLinks hubId)
    let report := evaluate items hubLinks observations hubId
    let unsearchable := withCode (contentById items) observations hubLinkedNotSearchable links
    let unretrieved := withCode (contentById items) observations hubLinkedNotRetrieved links
    report.findings = unsearchable ++ unretrieved ∧
      report.metrics.hubLinkedNotSearchableCount = unsearchable.length ∧
      report.metrics.hubLinkedNotRetrievedCount = unretrieved.length := by
  have h : Scanned (contentById items) observations (linksOf (scopedLinks hubLinks hubId)) _ :=
    scanned_foldl _
  refine ⟨?_, congrArg List.length h.notSearchable, congrArg List.length h.notRetrieved⟩
  rw [← h.notSearchable, ← h.notRetrieved]
  rfl

theorem countP_withCode_self (code : Text) (links : List (Text × Text)) :
    ((withCode contents observations code links).countP fun finding =>
      code ∈ finding.warningCodes) = (withCode contents observations code links).length := by
  rw [List.countP_eq_length]
  exact fun finding hfinding => (List.mem_filter.mp hfinding).2

/-- No finding of one list has the code of the other, unless a link has both. -/
theorem countP_withCode_other {links : List (Text × Text)} {code other : Text}
    (h : ∀ link ∈ links, code ∈ (findingOf contents observations link).warningCodes →
      other ∉ (findingOf contents observations link).warningCodes) :
    ((withCode contents observations code links).countP fun finding =>
      other ∈ finding.warningCodes) = 0 := by
  rw [List.countP_eq_zero]
  intro finding hfinding hother
  obtain ⟨hmem, hcode⟩ := List.mem_filter.mp hfinding
  obtain ⟨link, hlink, rfl⟩ := List.mem_map.mp hmem
  exact h link hlink (of_decide_eq_true hcode) (of_decide_eq_true hother)

/-- The findings match the links exactly where no link is wrong in both ways. -/
theorem findingsMatch_iff (items : List ContentItem) {hubLinks : Dict Text (List Text)}
    (hkeys : (hubLinks.map (·.1)).Nodup) (hids : ∀ entry ∈ hubLinks, entry.2.Nodup)
    (observations : Observations) (hubId : Option Text) :
    FindingsMatch items hubLinks observations hubId
      (evaluate items hubLinks observations hubId) ↔
      ¬ ∃ link, Linked hubLinks hubId link ∧ Unsearchable items link ∧
        Unretrieved observations link := by
  have hnodup : (linksOf (scopedLinks hubLinks hubId)).Nodup :=
    nodup_linksOf (keys_scopedLinks_nodup hkeys hubId)
      fun entry hentry => hids entry (List.mem_of_mem_filter hentry)
  obtain ⟨hfindings, hunsearchable, hunretrieved⟩ :=
    findings_evaluate items hubLinks observations hubId
  have hcount : ∀ link, (evaluate items hubLinks observations hubId).findings.countP (IsOn link) =
      (if Linked hubLinks hubId link ∧ Unsearchable items link then 1 else 0) +
        if Linked hubLinks hubId link ∧ Unretrieved observations link then 1 else 0 := by
    intro link
    rw [hfindings, List.countP_append, countP_withCode hnodup, countP_withCode hnodup]
    simp only [mem_links hkeys]
    congr 2
    · exact propext (and_congr_right' searchable_mem_codesOf)
    · exact propext (and_congr_right' retrieved_mem_codesOf)
  constructor
  · rintro hmatch ⟨link, hlinked, hS, hR⟩
    have hone := hmatch.findings link
    rw [hcount, if_pos ⟨hlinked, hS⟩, if_pos ⟨hlinked, hR⟩, if_pos ⟨hlinked, .inl hS⟩] at hone
    omega
  · intro hnone
    have hnot : ∀ link, Linked hubLinks hubId link → Unsearchable items link →
        ¬ Unretrieved observations link := fun link hlinked hS hR => hnone ⟨link, hlinked, hS, hR⟩
    constructor
    · intro link
      rw [hcount]
      by_cases hlinked : Linked hubLinks hubId link
      · by_cases hS : Unsearchable items link
        · simp [hlinked, hS, hnot link hlinked hS]
        · simp [hlinked, hS]
      · simp [hlinked]
    · rw [hunsearchable, hfindings, List.countP_append, countP_withCode_self,
        countP_withCode_other, Nat.add_zero]
      intro link hlink hR hS
      exact hnot link ((mem_links hkeys).mp hlink) (searchable_mem_codesOf.mp hS)
        (retrieved_mem_codesOf.mp hR)
    · rw [hunretrieved, hfindings, List.countP_append, countP_withCode_self,
        countP_withCode_other, Nat.zero_add]
      intro link hlink hS hR
      exact hnot link ((mem_links hkeys).mp hlink) (searchable_mem_codesOf.mp hS)
        (retrieved_mem_codesOf.mp hR)
    · exact score_bounds _ _

section Sample

def sampleItem (searchable : Bool) : ContentItem :=
  { contentId := some "c1".toList, searchable := some searchable }

def sampleLinks : Dict Text (List Text) := [("hub1".toList, ["c1".toList])]

/-- One link that was observed as not retrieved. -/
def sampleObservations : Observations := [(("hub1".toList, "c1".toList), false)]

theorem findingsMatch_iff_sample :
    FindingsMatch [sampleItem true] sampleLinks sampleObservations none
      (evaluate [sampleItem true] sampleLinks sampleObservations none) ↔
      ¬ ∃ link, Linked sampleLinks none link ∧ Unsearchable [sampleItem true] link ∧
        Unretrieved sampleObservations link :=
  findingsMatch_iff [sampleItem true] (by decide) (by decide) sampleObservations none

/-- A link that is also not searchable has two findings. -/
theorem not_findingsMatch : ¬ ∀ (items : List ContentItem) (hubLinks : Dict Text (List Text))
    (observations : Observations) (hubId : Option Text), (hubLinks.map (·.1)).Nodup →
      (∀ entry ∈ hubLinks, entry.2.Nodup) →
      FindingsMatch items hubLinks observations hubId
        (evaluate items hubLinks observations hubId) := by
  intro hall
  have hmatch := hall [sampleItem false] sampleLinks sampleObservations none (by decide)
    (by decide)
  have hone := hmatch.findings ("hub1".toList, "c1".toList)
  revert hone
  decide

end Sample

end MemoryLab.HubRecall

import MemoryLab.Verification.Conflicts.FreshClaims

/-! # The two sides of a candidate

A content has several rows, one for every chunk and anchor, and the rules pair rows. -/

namespace MemoryLab.Conflicts

open Library Library.Rows

/-- A row of a workspace that the detector puts into a scope. -/
structure Standing (rows : List ConflictSourceRow) (workspaceId : WorkspaceId) (scope : Text)
    (row : ConflictSourceRow) : Prop where
  mem : row ∈ rows
  eligible : row.eligible workspaceId = true
  inScope : rowScope row = scope

structure TwoSided (rows : List ConflictSourceRow) (workspaceId : WorkspaceId)
    (found : ConflictCandidate) : Prop where
  supporting : found.supportingContentIds ≠ []
  contradicting : found.contradictingContentIds ≠ []
  apart : found.supportingContentIds.Disjoint found.contradictingContentIds
  standing : ∀ contentId ∈ found.supportingContentIds ++ found.contradictingContentIds,
    ∃ row, Standing rows workspaceId found.scope row ∧ row.contentId = some contentId

/-- No rule pairs two rows of one content. The second finding of a counterfinding is the support
of its scope, a content may name itself as superseded, and a claim and its opposite may have
been read last in one content. -/
structure KeptApart (items : List ParsedRow) (includeResolved : Bool) : Prop where
  support : ∀ item ∈ items, item.markers.counterfinding ≠ [] →
    (targetOf items item.row).isSome = true →
      ∀ support ∈ supportRows items, support.contentId ≠ item.row.contentId
  supersession : includeResolved = true → ∀ item ∈ items, item.row.highConf = true →
    item.row.superseded = none ∨ item.row.superseded ≠ item.row.contentId
  claims : ∀ kind obj pos neg, lastStated (statements items) kind obj .positive = some pos →
    lastStated (statements items) kind obj .negative = some neg → pos.contentId ≠ neg.contentId

variable {sha256Hex : Text → Text} {rows : List ConflictSourceRow} {workspaceId : WorkspaceId}
  {scope : Text} {items : List ParsedRow} {includeResolved : Bool}

/-! ## Sides of one candidate -/

section Sides

variable {conflictType : ConflictType} {status : ConflictStatus} {severity : ConflictSeverity}
  {confidence : ℕ} {supporting contradicting : List ConflictSourceRow}
  {evidenceRoles : List (ConflictSourceRow × EvidenceRole)} {reasonCodes : List String}
  {detectionRule : String} {metadata : CandidateMetadata}

theorem mem_sortedIds {contentId : ContentId} :
    contentId ∈ sortedIds rows ↔ ∃ row ∈ rows, row.contentId = some contentId := by
  simp [sortedIds]

theorem Standing.exists_contentId {row : ConflictSourceRow}
    (h : Standing rows workspaceId scope row) : ∃ contentId, row.contentId = some contentId := by
  have heligible := h.eligible
  rw [ConflictSourceRow.eligible, Bool.and_eq_true] at heligible
  exact Option.isSome_iff_exists.mp heligible.1

theorem sortedIds_ne_nil {side : List ConflictSourceRow} (hne : side ≠ [])
    (hside : ∀ row ∈ side, Standing rows workspaceId scope row) : sortedIds side ≠ [] := by
  obtain ⟨row, hrow⟩ := List.exists_mem_of_ne_nil side hne
  obtain ⟨contentId, hcontent⟩ := (hside row hrow).exists_contentId
  exact List.ne_nil_of_mem (mem_sortedIds.mpr ⟨row, hrow, hcontent⟩)

theorem twoSided_candidate_iff (hsupporting : supporting ≠ [])
    (hcontradicting : contradicting ≠ [])
    (hstanding : ∀ row ∈ supporting ++ contradicting, Standing rows workspaceId scope row) :
    TwoSided rows workspaceId (candidate sha256Hex workspaceId scope conflictType status severity
        confidence supporting contradicting evidenceRoles reasonCodes detectionRule metadata) ↔
      ∀ a ∈ supporting, ∀ b ∈ contradicting, a.contentId ≠ b.contentId := by
  constructor
  · intro h a ha b hb heq
    obtain ⟨contentId, hcontent⟩ := (hstanding a (List.mem_append_left _ ha)).exists_contentId
    apply h.apart (a := contentId)
    · exact mem_sortedIds.mpr ⟨a, ha, hcontent⟩
    · exact mem_sortedIds.mpr ⟨b, hb, heq ▸ hcontent⟩
  · intro h
    refine ⟨?_, ?_, ?_, ?_⟩
    · exact sortedIds_ne_nil hsupporting fun row hrow =>
        hstanding row (List.mem_append_left _ hrow)
    · exact sortedIds_ne_nil hcontradicting fun row hrow =>
        hstanding row (List.mem_append_right _ hrow)
    · intro contentId hleft hright
      obtain ⟨a, ha, hcontent⟩ := mem_sortedIds.mp hleft
      obtain ⟨b, hb, hcontent'⟩ := mem_sortedIds.mp hright
      exact h a ha b hb (hcontent.trans hcontent'.symm)
    · intro contentId hmem
      rcases List.mem_append.mp hmem with hmem | hmem
      · obtain ⟨row, hrow, hcontent⟩ := mem_sortedIds.mp hmem
        exact ⟨row, hstanding row (List.mem_append_left _ hrow), hcontent⟩
      · obtain ⟨row, hrow, hcontent⟩ := mem_sortedIds.mp hmem
        exact ⟨row, hstanding row (List.mem_append_right _ hrow), hcontent⟩

end Sides

/-! ## The rules -/

section Rules

variable {item : ParsedRow}

def supersessionCandidate (sha256Hex : Text → Text) (workspaceId : WorkspaceId) (scope : Text)
    (current stale : ConflictSourceRow) : ConflictCandidate :=
  candidate sha256Hex workspaceId scope .staleCurrentTension .resolved .medium 90
    [current] [stale] [(current, .current), (stale, .stale)]
    ["current_state_supersession", "same_workspace", "same_memory_type", "same_scope"]
    "current_state_supersession_v1" (.supersession current.memoryType scope)

theorem targetOf_eq_some {row target : ConflictSourceRow}
    (h : targetOf items row = some target) :
    (∃ item ∈ items, item.row = target) ∧ target.contentId ≠ row.contentId := by
  have hfound := List.find?_some h
  rw [Bool.and_eq_true, bne_iff_ne] at hfound
  exact ⟨mem_findingRows (List.mem_of_find?_eq_some h), hfound.1⟩

theorem mem_supportRows {row : ConflictSourceRow} (h : row ∈ supportRows items) :
    ∃ item ∈ items, item.row = row := by
  obtain ⟨item, hitem, rfl⟩ := List.mem_map.mp h
  exact ⟨item, List.mem_of_mem_filter hitem, rfl⟩

theorem row_of_mem_statements {statement : Statement} (h : statement ∈ statements items) :
    ∃ item ∈ items, item.row = statement.2 := by
  obtain ⟨item, hitem, hclaim⟩ := List.mem_flatMap.mp h
  obtain ⟨claim, -, rfl⟩ := List.mem_map.mp hclaim
  exact ⟨item, List.mem_of_mem_filter hitem, rfl⟩

variable (hitems : ∀ item ∈ items, Standing rows workspaceId scope item.row)

include hitems

theorem standing_of_exists {row : ConflictSourceRow} (h : ∃ item ∈ items, item.row = row) :
    Standing rows workspaceId scope row := by
  obtain ⟨item, hitem, rfl⟩ := h
  exact hitems item hitem

/-- The target of a counterfinding is another content, the support beside it need not be. -/
theorem twoSided_counterfinding_iff (hitem : item ∈ items) :
    (∀ found ∈ counterfindingCandidate sha256Hex workspaceId scope items item,
        TwoSided rows workspaceId found) ↔
      (item.markers.counterfinding ≠ [] → (targetOf items item.row).isSome = true →
        ∀ support ∈ supportRows items, support.contentId ≠ item.row.contentId) := by
  rw [counterfindingCandidate]
  by_cases hmarkers : item.markers.counterfinding = []
  · simp [hmarkers]
  cases htarget : targetOf items item.row with
  | none => simp [hmarkers]
  | some target =>
      obtain ⟨hmem, hne⟩ := targetOf_eq_some htarget
      have hstanding : ∀ row ∈ (target :: supportRows items) ++ [item.row],
          Standing rows workspaceId scope row := by
        intro row hrow
        rw [List.mem_append, List.mem_cons, List.mem_singleton] at hrow
        rcases hrow with (rfl | hrow) | rfl
        · exact standing_of_exists hitems hmem
        · exact standing_of_exists hitems (mem_supportRows hrow)
        · exact hitems item hitem
      simp only [if_neg hmarkers, Option.map_some, Option.mem_def, Option.some.injEq,
        forall_eq', twoSided_candidate_iff (List.cons_ne_nil _ _) (List.cons_ne_nil _ _)
          hstanding, List.mem_singleton, forall_eq, List.forall_mem_cons]
      simp [hmarkers, hne]

/-- A contradiction and its target are of two contents. -/
theorem twoSided_contradiction (hitem : item ∈ items) {found : ConflictCandidate}
    (h : found ∈ contradictionCandidate sha256Hex workspaceId scope items item) :
    TwoSided rows workspaceId found := by
  rw [contradictionCandidate] at h
  split at h
  · cases h
  · obtain ⟨target, htarget, rfl⟩ := Option.map_eq_some_iff.mp h
    obtain ⟨hmem, hne⟩ := targetOf_eq_some htarget
    have hstanding := standing_of_exists hitems hmem
    apply (twoSided_candidate_iff (List.cons_ne_nil _ _) (List.cons_ne_nil _ _) _).mpr
    · simpa using hne
    · simpa using ⟨hstanding, hitems item hitem⟩

theorem twoSided_marker_iff :
    (∀ found ∈ markerCandidates sha256Hex workspaceId scope items,
        TwoSided rows workspaceId found) ↔
      ∀ item ∈ items, item.markers.counterfinding ≠ [] →
        (targetOf items item.row).isSome = true →
          ∀ support ∈ supportRows items, support.contentId ≠ item.row.contentId := by
  constructor
  · intro h item hitem
    apply (twoSided_counterfinding_iff hitems hitem).mp
    exact fun found hfound => h found (List.mem_flatMap.mpr
      ⟨item, hitem, List.mem_append_left _ (Option.mem_toList.mpr hfound)⟩)
  · intro h found hfound
    obtain ⟨item, hitem, hfound⟩ := List.mem_flatMap.mp hfound
    rcases List.mem_append.mp hfound with hcounter | hcontra
    · exact (twoSided_counterfinding_iff hitems hitem).mpr (h item hitem) found
        (Option.mem_toList.mp hcounter)
    · exact twoSided_contradiction hitems hitem (Option.mem_toList.mp hcontra)

omit hitems in
theorem mem_supersessionCandidates {found : ConflictCandidate} :
    found ∈ supersessionCandidates sha256Hex workspaceId scope items includeResolved ↔
      includeResolved = true ∧ ∃ item ∈ items, item.row.highConf = true ∧
        ∃ superseded stale, item.row.superseded = some superseded ∧
          (items.map (·.row)).find? (fun row => row.contentId == some superseded) = some stale ∧
          found = supersessionCandidate sha256Hex workspaceId scope item.row stale := by
  rw [supersessionCandidates, List.mem_filterMap]
  cases includeResolved with
  | false => simp
  | true =>
      constructor
      · rintro ⟨item, hitem, hfound⟩
        cases hconf : item.row.highConf with
        | false => simp [hconf] at hfound
        | true =>
            simp only [hconf, Bool.not_true, Bool.or_self, Bool.false_eq_true, if_false,
              Option.bind_eq_some_iff, Option.map_eq_some_iff] at hfound
            obtain ⟨superseded, hsuperseded, stale, hstale, rfl⟩ := hfound
            exact ⟨rfl, item, hitem, hconf, superseded, stale, hsuperseded, hstale, rfl⟩
      · rintro ⟨-, item, hitem, hconf, superseded, stale, hsuperseded, hstale, rfl⟩
        refine ⟨item, hitem, ?_⟩
        simp only [hconf, hsuperseded, hstale, Bool.not_true, Bool.or_self, Bool.false_eq_true,
          if_false, Option.bind_some, Option.map_some, supersessionCandidate]

/-- The current and the stale row are of one content when a content supersedes itself. -/
theorem twoSided_supersession_iff :
    (∀ found ∈ supersessionCandidates sha256Hex workspaceId scope items includeResolved,
        TwoSided rows workspaceId found) ↔
      (includeResolved = true → ∀ item ∈ items, item.row.highConf = true →
        item.row.superseded = none ∨ item.row.superseded ≠ item.row.contentId) := by
  have hpair : ∀ item ∈ items, ∀ superseded stale,
      (items.map (·.row)).find? (fun row => row.contentId == some superseded) = some stale →
        (TwoSided rows workspaceId
            (supersessionCandidate sha256Hex workspaceId scope item.row stale) ↔
          item.row.contentId ≠ some superseded) := by
    intro item hitem superseded stale hstale
    have hcontent : stale.contentId = some superseded := by
      simpa using List.find?_some hstale
    have hstanding := standing_of_exists hitems
      (List.mem_map.mp (List.mem_of_find?_eq_some hstale))
    rw [supersessionCandidate, twoSided_candidate_iff (List.cons_ne_nil _ _)
      (List.cons_ne_nil _ _) (by simpa using ⟨hitems item hitem, hstanding⟩)]
    simp [hcontent]
  constructor
  · intro h hresolved item hitem hconf
    cases hsuperseded : item.row.superseded with
    | none => exact .inl rfl
    | some superseded =>
        refine .inr fun heq => ?_
        have hsome : ((items.map (·.row)).find?
            fun row => row.contentId == some superseded).isSome = true :=
          List.find?_isSome.mpr
            ⟨item.row, List.mem_map_of_mem hitem, by simp [← heq]⟩
        obtain ⟨stale, hstale⟩ := Option.isSome_iff_exists.mp hsome
        apply (hpair item hitem superseded stale hstale).mp _ heq.symm
        exact h _ (mem_supersessionCandidates.mpr
          ⟨hresolved, item, hitem, hconf, superseded, stale, hsuperseded, hstale, rfl⟩)
  · intro h found hfound
    obtain ⟨hresolved, item, hitem, hconf, superseded, stale, hsuperseded, hstale, rfl⟩ :=
      mem_supersessionCandidates.mp hfound
    apply (hpair item hitem superseded stale hstale).mpr
    have hother := h hresolved item hitem hconf
    rw [hsuperseded] at hother
    exact fun heq => hother.elim nofun fun hne => hne heq.symm

/-- Of every content one current row is kept, so two rows of a group are of two contents. -/
theorem twoSided_anchor {found : ConflictCandidate}
    (h : found ∈ anchorCandidates sha256Hex workspaceId scope items) :
    TwoSided rows workspaceId found := by
  obtain ⟨⟨⟨groupType, stateIdentity⟩, group⟩, hgroup, hfound⟩ := List.mem_filterMap.mp h
  obtain ⟨-, rfl⟩ := Dict.mem_groupBy.mp hgroup
  have hactive : ∀ row ∈ activeRows items, Standing rows workspaceId scope row := by
    intro row hrow
    exact standing_of_exists hitems
      (List.mem_map.mp (List.mem_of_mem_filter (mem_of_mem_distinctOn hrow)))
  have hnodup : ((activeRows items).map (·.contentId)).Nodup := nodup_distinctOn _
  generalize hkept : (activeRows items).filter _ = group at hfound
  have hsub : group.Sublist (activeRows items) := hkept ▸ List.filter_sublist
  rcases group with _ | ⟨first, _ | ⟨second, rest⟩⟩
  · cases hfound
  · cases hfound
  · obtain rfl := Option.some.inj hfound
    have hne : first.contentId ≠ second.contentId := by
      have hpair := (hsub.map (·.contentId)).nodup hnodup
      simp only [List.map_cons, List.nodup_cons, List.mem_cons, not_or] at hpair
      exact hpair.1.1
    apply (twoSided_candidate_iff (List.cons_ne_nil _ _) (List.cons_ne_nil _ _) _).mpr
    · simpa using hne
    · intro row hrow
      apply hactive row (hsub.subset _)
      simpa using Or.imp_right Or.inl (by simpa using hrow)

theorem twoSided_claim_iff :
    (∀ found ∈ claimCandidates sha256Hex workspaceId scope items,
        TwoSided rows workspaceId found) ↔
      ∀ kind obj pos neg, lastStated (statements items) kind obj .positive = some pos →
        lastStated (statements items) kind obj .negative = some neg →
          pos.contentId ≠ neg.contentId := by
  have hpair : ∀ kind obj pos neg, lastStated (statements items) kind obj .positive = some pos →
      lastStated (statements items) kind obj .negative = some neg →
        (TwoSided rows workspaceId (claimCandidate sha256Hex workspaceId scope kind obj pos neg) ↔
          pos.contentId ≠ neg.contentId) := by
    intro kind obj pos neg hpos hneg
    obtain ⟨_, hstated, -, rfl⟩ := exists_of_lastStated hpos
    obtain ⟨_, hstated', -, rfl⟩ := exists_of_lastStated hneg
    have hleft := standing_of_exists hitems (row_of_mem_statements hstated)
    have hright := standing_of_exists hitems (row_of_mem_statements hstated')
    rw [claimCandidate, twoSided_candidate_iff (List.cons_ne_nil _ _) (List.cons_ne_nil _ _)
      (by simpa using ⟨hleft, hright⟩)]
    simp
  constructor
  · intro h kind obj pos neg hpos hneg
    apply (hpair kind obj pos neg hpos hneg).mp
    exact h _ (mem_claimCandidates.mpr ⟨kind, obj, pos, neg, hpos, hneg, rfl⟩)
  · intro h found hfound
    obtain ⟨kind, obj, pos, neg, hpos, hneg, rfl⟩ := mem_claimCandidates.mp hfound
    exact (hpair kind obj pos neg hpos hneg).mpr (h kind obj pos neg hpos hneg)

theorem twoSided_scope_iff :
    (∀ found ∈ scopeCandidates sha256Hex workspaceId scope items includeResolved,
        TwoSided rows workspaceId found) ↔ KeptApart items includeResolved := by
  have hanchor : ∀ found ∈ anchorCandidates sha256Hex workspaceId scope items,
      TwoSided rows workspaceId found := fun _ => twoSided_anchor hitems
  simp only [scopeCandidates, List.forall_mem_append, twoSided_marker_iff hitems,
    twoSided_supersession_iff hitems, twoSided_claim_iff hitems]
  constructor
  · rintro ⟨⟨⟨hsupport, hsupersession⟩, -⟩, hclaims⟩
    exact ⟨hsupport, hsupersession, hclaims⟩
  · intro h
    exact ⟨⟨⟨h.support, h.supersession⟩, hanchor⟩, h.claims⟩

end Rules

/-! ## Detection -/

section Detection

variable {wanted memoryType : Option Text}

/-- The rows that the rules read together. -/
def readTogether (rows : List ConflictSourceRow) (workspaceId : WorkspaceId)
    (wanted memoryType : Option Text) (scope : Text) : List ParsedRow :=
  (parseRows rows workspaceId wanted memoryType).filter fun item => decide (item.scope = scope)

theorem standing_of_mem_readTogether {item : ParsedRow}
    (h : item ∈ readTogether rows workspaceId wanted memoryType scope) :
    Standing rows workspaceId scope item.row := by
  obtain ⟨hitem, hscope⟩ := List.mem_filter.mp h
  rw [parseRows_eq] at hitem
  obtain ⟨row, hrow, rfl⟩ := List.mem_map.mp hitem
  obtain ⟨hmem, hconcerns⟩ := List.mem_filter.mp (List.mem_of_mem_filter hrow)
  change concerns workspaceId memoryType row = true at hconcerns
  rw [concerns, Bool.and_eq_true] at hconcerns
  rw [decide_eq_true_eq, parseRow_scope] at hscope
  exact ⟨hmem, hconcerns.1, hscope⟩

theorem mem_rawCandidates_iff {found : ConflictCandidate} :
    found ∈ rawCandidates sha256Hex rows workspaceId wanted memoryType includeResolved ↔
      ∃ scope, found ∈ scopeCandidates sha256Hex workspaceId scope
        (readTogether rows workspaceId wanted memoryType scope) includeResolved := by
  rw [rawCandidates, List.mem_flatMap]
  constructor
  · rintro ⟨⟨scope, items⟩, hgroup, hfound⟩
    obtain ⟨-, rfl⟩ := Dict.mem_groupBy.mp hgroup
    exact ⟨scope, hfound⟩
  · rintro ⟨scope, hfound⟩
    refine ⟨(scope, readTogether rows workspaceId wanted memoryType scope), ?_, hfound⟩
    refine Dict.mem_groupBy.mpr ⟨fun hnil => ?_, rfl⟩
    change readTogether rows workspaceId wanted memoryType scope = [] at hnil
    rw [hnil, scopeCandidates_nil] at hfound
    cases hfound

theorem twoSided_raw_iff :
    (∀ found ∈ rawCandidates sha256Hex rows workspaceId wanted memoryType includeResolved,
        TwoSided rows workspaceId found) ↔
      ∀ scope, KeptApart (readTogether rows workspaceId wanted memoryType scope)
        includeResolved := by
  simp only [mem_rawCandidates_iff, forall_exists_index]
  rw [forall_comm]
  refine forall_congr' fun scope => ?_
  exact twoSided_scope_iff fun item hitem => standing_of_mem_readTogether hitem

/-- A candidate whose id no other has is returned when nothing is cut. -/
theorem mem_detect_of_mem_raw {found : ConflictCandidate} {limit : ℤ}
    (h : found ∈ rawCandidates sha256Hex rows workspaceId wanted memoryType includeResolved)
    (hid : ∀ other ∈ rawCandidates sha256Hex rows workspaceId wanted memoryType includeResolved,
      other.candidateId = found.candidateId → other = found)
    (hlimit : (rawCandidates sha256Hex rows workspaceId wanted memoryType
      includeResolved).length ≤ safeLimit limit) :
    found ∈ detectConflictCandidates sha256Hex rows workspaceId wanted memoryType
      includeResolved limit := by
  have hraw : ∀ other ∈ orderedCandidates sha256Hex rows workspaceId wanted memoryType
      includeResolved, other ∈ rawCandidates sha256Hex rows workspaceId wanted memoryType
        includeResolved := fun _ => mem_orderedCandidates
  have hnodup : (orderedCandidates sha256Hex rows workspaceId wanted memoryType
      includeResolved).Nodup :=
    List.Pairwise.imp (fun hlt heq => absurd (congrArg ConflictCandidate.rank heq) hlt.ne)
      (pairwise_orderedCandidates wanted memoryType includeResolved)
  obtain ⟨kept, hkept, hsame⟩ : ∃ kept ∈ distinctOn ConflictCandidate.candidateId
      (rawCandidates sha256Hex rows workspaceId wanted memoryType includeResolved),
      kept.candidateId = found.candidateId := exists_mem_distinctOn h
  obtain rfl := hid kept (mem_of_mem_distinctOn hkept) hsame
  rw [detectConflictCandidates, List.take_of_length_le]
  · exact mem_sortOn.mpr hkept
  · exact ((hnodup.subperm hraw).length_le).trans hlimit

/-- Every candidate has two sides when no rule pairs two rows of one content. Otherwise one is
found that has not, and only the limit and equal ids can keep it from being returned. -/
theorem twoSided_detected_iff (sha256Hex : Text → Text) (rows : List ConflictSourceRow)
    (workspaceId : WorkspaceId) (wanted memoryType : Option Text) (includeResolved : Bool)
    (limit : ℤ) :
    ((∀ scope, KeptApart (readTogether rows workspaceId wanted memoryType scope)
        includeResolved) →
      ∀ found ∈ detectConflictCandidates sha256Hex rows workspaceId wanted memoryType
        includeResolved limit, TwoSided rows workspaceId found) ∧
    ((¬ ∀ scope, KeptApart (readTogether rows workspaceId wanted memoryType scope)
        includeResolved) →
      ∃ found ∈ rawCandidates sha256Hex rows workspaceId wanted memoryType includeResolved,
        ¬ TwoSided rows workspaceId found ∧
        ((∀ other ∈ rawCandidates sha256Hex rows workspaceId wanted memoryType includeResolved,
            other.candidateId = found.candidateId → other = found) →
          (rawCandidates sha256Hex rows workspaceId wanted memoryType
              includeResolved).length ≤ safeLimit limit →
          found ∈ detectConflictCandidates sha256Hex rows workspaceId wanted memoryType
            includeResolved limit)) := by
  constructor
  · intro h found hfound
    exact twoSided_raw_iff.mpr h found (mem_orderedCandidates (List.mem_of_mem_take hfound))
  · intro h
    rw [← @twoSided_raw_iff sha256Hex] at h
    push Not at h
    obtain ⟨found, hfound, hsides⟩ := h
    exact ⟨found, hfound, hsides, fun hid hlimit => mem_detect_of_mem_raw hfound hid hlimit⟩

/-- A content in three parts, of which one is a counterfinding and one supports. -/
def bothInOne : List ConflictSourceRow :=
  [{ contentId := some 1, workspaceId := some 1, text := "counterfinding: too slow".toList },
    { contentId := some 1, workspaceId := some 1, text := "supports: caching".toList },
    { contentId := some 2, workspaceId := some 1, text := "We cache.".toList }]

theorem not_twoSided_bothInOne :
    ¬ ∀ sha256Hex rows workspaceId wanted memoryType includeResolved limit,
      ∀ found ∈ detectConflictCandidates sha256Hex rows workspaceId wanted memoryType
        includeResolved limit, TwoSided rows workspaceId found := by
  intro h
  have hshared : ∃ found ∈ detectConflictCandidates id bothInOne 1 none none true 10,
      1 ∈ found.supportingContentIds ∧ 1 ∈ found.contradictingContentIds := by
    decide +kernel
  obtain ⟨found, hfound, hleft, hright⟩ := hshared
  exact (h id bothInOne 1 none none true 10 found hfound).apart hleft hright

end Detection

end MemoryLab.Conflicts

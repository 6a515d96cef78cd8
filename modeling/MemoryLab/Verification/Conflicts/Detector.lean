import MemoryLab.Model.ConflictService

/-! # What the detector finds, scope by scope -/

namespace MemoryLab.Conflicts

open Library Library.Rows

/-! ## Parsed rows -/

def parseRow (row : ConflictSourceRow) : ParsedRow :=
  ⟨row, extractMarkers row.text, rowScope row⟩

@[simp] theorem parseRow_scope (row : ConflictSourceRow) :
    (parseRow row).scope = rowScope row := by
  rw [parseRow]

def concerns (workspaceId : WorkspaceId) (memoryType : Option Text) (row : ConflictSourceRow) :
    Bool :=
  row.eligible workspaceId &&
    (memoryType.filter (· ≠ [])).all fun memoryType => row.memoryType == some memoryType

variable {rows : List ConflictSourceRow} {workspaceId : WorkspaceId} {memoryType : Option Text}

theorem parseRows_eq (scope : Option Text) :
    parseRows rows workspaceId scope memoryType =
      ((rows.filter (concerns workspaceId memoryType)).filter fun row =>
        ((scope.filter (· ≠ [])).map fun scope => normalizeScope (some scope)).all
          (rowScope row == ·)).map parseRow :=
  filterMap_ite (fun row => ((scope.filter (· ≠ [])).map fun scope =>
    normalizeScope (some scope)).all (rowScope row == ·)) parseRow _

theorem parseRows_none :
    parseRows rows workspaceId none memoryType =
      (rows.filter (concerns workspaceId memoryType)).map parseRow := by
  rw [parseRows_eq, List.filter_eq_self.mpr]
  exact fun _ _ => rfl

theorem parseRows_empty :
    parseRows rows workspaceId (some []) memoryType =
      parseRows rows workspaceId none memoryType := by
  rw [parseRows_eq, parseRows_none, List.filter_eq_self.mpr]
  exact fun _ _ => rfl

/-- Asking for a scope keeps the rows that the detector puts into it. -/
theorem parseRows_some {scope : Text} (hne : scope ≠ []) :
    parseRows rows workspaceId (some scope) memoryType =
      (parseRows rows workspaceId none memoryType).filter
        fun item => decide (item.scope = normalizeScope (some scope)) := by
  rw [parseRows_eq, parseRows_none, Option.filter_some, if_pos (by simpa using hne),
    List.filter_map]
  have hscope : ∀ row ∈ rows.filter (concerns workspaceId memoryType),
      ((some scope).map fun scope => normalizeScope (some scope)).all (rowScope row == ·) =
        ((fun item : ParsedRow => decide (item.scope = normalizeScope (some scope))) ∘
          parseRow) row := by
    intro row _
    by_cases h : rowScope row = normalizeScope (some scope) <;> simp [parseRow, h]
  rw [List.filter_congr hscope]

/-! ## Candidates of a scope -/

section Scopes

variable {sha256Hex : Text → Text} {scope : Text} {items : List ParsedRow}
  {includeResolved : Bool} {found : ConflictCandidate}

theorem scope_of_mem_markerCandidates
    (h : found ∈ markerCandidates sha256Hex workspaceId scope items) : found.scope = scope := by
  obtain ⟨item, -, hitem⟩ := List.mem_flatMap.mp h
  rcases List.mem_append.mp hitem with hfound | hfound
  · rw [Option.mem_toList, counterfindingCandidate] at hfound
    split at hfound
    · cases hfound
    · obtain ⟨target, -, rfl⟩ := Option.map_eq_some_iff.mp hfound
      rfl
  · rw [Option.mem_toList, contradictionCandidate] at hfound
    split at hfound
    · cases hfound
    · obtain ⟨target, -, rfl⟩ := Option.map_eq_some_iff.mp hfound
      rfl

theorem scope_of_mem_supersessionCandidates
    (h : found ∈ supersessionCandidates sha256Hex workspaceId scope items includeResolved) :
    found.scope = scope := by
  obtain ⟨item, -, hitem⟩ := List.mem_filterMap.mp h
  dsimp only at hitem
  split at hitem
  · cases hitem
  · obtain ⟨superseded, -, hstale⟩ := Option.bind_eq_some_iff.mp hitem
    obtain ⟨stale, -, rfl⟩ := Option.map_eq_some_iff.mp hstale
    rfl

theorem scope_of_mem_anchorCandidates
    (h : found ∈ anchorCandidates sha256Hex workspaceId scope items) : found.scope = scope := by
  obtain ⟨⟨⟨groupType, stateIdentity⟩, groupRows⟩, -, hgroup⟩ := List.mem_filterMap.mp h
  rcases groupRows with _ | ⟨first, _ | ⟨second, rest⟩⟩
  · cases hgroup
  · cases hgroup
  · obtain rfl := Option.some.inj hgroup
    rfl

theorem scope_of_mem_claimCandidates
    (h : found ∈ claimCandidates sha256Hex workspaceId scope items) : found.scope = scope := by
  obtain ⟨⟨⟨kind, obj⟩, polarities⟩, -, hentry⟩ := List.mem_filterMap.mp h
  dsimp only at hentry
  split at hentry
  · obtain rfl := Option.some.inj hentry
    rfl
  · cases hentry

theorem scope_of_mem_scopeCandidates
    (h : found ∈ scopeCandidates sha256Hex workspaceId scope items includeResolved) :
    found.scope = scope := by
  simp only [scopeCandidates, List.mem_append] at h
  rcases h with ((h | h) | h) | h
  · exact scope_of_mem_markerCandidates h
  · exact scope_of_mem_supersessionCandidates h
  · exact scope_of_mem_anchorCandidates h
  · exact scope_of_mem_claimCandidates h

theorem scopeCandidates_nil :
    scopeCandidates sha256Hex workspaceId scope [] includeResolved = [] :=
  rfl

/-- The candidates of one scope come from the rows of that scope. -/
theorem filter_rawCandidates (scope : Text) :
    (rawCandidates sha256Hex rows workspaceId none memoryType includeResolved).filter
        (fun found => decide (found.scope = scope)) =
      scopeCandidates sha256Hex workspaceId scope
        ((parseRows rows workspaceId none memoryType).filter fun item =>
          decide (item.scope = scope))
        includeResolved := by
  have hscope : ∀ group ∈ Dict.groupBy (fun item : ParsedRow => item.scope)
      (parseRows rows workspaceId none memoryType), ∀ found ∈ scopeCandidates sha256Hex
        workspaceId group.1 group.2 includeResolved,
          decide (found.scope = scope) = decide (group.1 = scope) :=
    fun group _ found hfound => by rw [scope_of_mem_scopeCandidates hfound]
  rw [rawCandidates, filter_flatMap_of_forall hscope, Dict.filter_groupBy]
  split
  · rename_i hnil
    rw [hnil, scopeCandidates_nil]
    rfl
  · rw [List.flatMap_singleton]

theorem rawCandidates_of_scope (scope : Text) {wanted : Option Text}
    (hitems : ∀ item ∈ parseRows rows workspaceId wanted memoryType, item.scope = scope) :
    rawCandidates sha256Hex rows workspaceId wanted memoryType includeResolved =
      scopeCandidates sha256Hex workspaceId scope
        (parseRows rows workspaceId wanted memoryType) includeResolved := by
  rw [rawCandidates, Dict.groupBy_of_forall_eq hitems]
  split
  · rename_i hnil
    rw [hnil, scopeCandidates_nil]
    rfl
  · rw [List.flatMap_singleton]

/-! ## Rows of low confidence -/

theorem mem_findingRows {row : ConflictSourceRow} (h : row ∈ findingRows items) :
    ∃ item ∈ items, item.row = row := by
  unfold findingRows at h
  dsimp only at h
  split at h
  all_goals
    obtain ⟨item, hitem, rfl⟩ := List.mem_map.mp h
    exact ⟨item, List.mem_of_mem_filter hitem, rfl⟩

theorem markerCandidates_of_lowConf (h : ∀ item ∈ items, item.row.highConf = false) :
    markerCandidates sha256Hex workspaceId scope items = [] := by
  have htarget : ∀ row, targetOf items row = none := by
    intro row
    refine List.find?_eq_none.mpr fun other hother => ?_
    obtain ⟨item, hitem, rfl⟩ := mem_findingRows hother
    rw [h item hitem, Bool.and_false]
    exact Bool.false_ne_true
  refine List.flatMap_eq_nil_iff.mpr fun item _ => ?_
  have hcounter : counterfindingCandidate sha256Hex workspaceId scope items item = none := by
    rw [counterfindingCandidate, htarget]
    split <;> rfl
  have hcontra : contradictionCandidate sha256Hex workspaceId scope items item = none := by
    rw [contradictionCandidate, htarget]
    split <;> rfl
  rw [hcounter, hcontra]
  rfl

theorem supersessionCandidates_of_lowConf (h : ∀ item ∈ items, item.row.highConf = false) :
    supersessionCandidates sha256Hex workspaceId scope items includeResolved = [] := by
  refine List.filterMap_eq_nil_iff.mpr fun item hitem => ?_
  dsimp only
  rw [h item hitem, Bool.not_false, Bool.or_true, if_pos rfl]

theorem claimCandidates_of_lowConf (h : ∀ item ∈ items, item.row.highConf = false) :
    claimCandidates sha256Hex workspaceId scope items = [] := by
  have hstatements : statements items = [] := by
    rw [statements, List.filter_eq_nil_iff.mpr fun item hitem => by simp [h item hitem]]
    rfl
  rw [claimCandidates, claimRows, hstatements]
  rfl

/-- Rows that are not trusted conflict as current anchors only. -/
theorem scopeCandidates_of_lowConf (h : ∀ item ∈ items, item.row.highConf = false) :
    scopeCandidates sha256Hex workspaceId scope items includeResolved =
      anchorCandidates sha256Hex workspaceId scope items := by
  rw [scopeCandidates, markerCandidates_of_lowConf h, supersessionCandidates_of_lowConf h,
    claimCandidates_of_lowConf h, List.append_nil]
  rfl

end Scopes

end MemoryLab.Conflicts

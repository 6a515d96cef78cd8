import Mathlib.Data.List.Dedup
import MemoryLab.Model.GraphSearch

/-! # What a hybrid search admits

The three phases of a search share the rows found so far. A phase changes no more of a row than
its provenance, so its key, its workspace and its text are those that a search function gave. -/

namespace MemoryLab.GraphSearch

open Library Library.KeyedMerge

/-! ## What stays of a row -/

/-- The keys of a row that a search function gives it for good. -/
structure SameCandidate (row other : Row) : Prop where
  workspaceId : row.workspaceId = other.workspaceId
  contentId : row.contentId = other.contentId
  id : row.id = other.id
  entryId : row.entryId = other.entryId
  chunkId : row.chunkId = other.chunkId
  text : row.text = other.text
  snippet : row.snippet = other.snippet

namespace SameCandidate

variable {row other : Row} (h : SameCandidate row other)
include h

theorem candidateKey_eq : candidateKey row = candidateKey other := by
  simp only [candidateKey, h.workspaceId, h.contentId, h.id, h.entryId, h.chunkId]

theorem foreign_eq (workspaceId : Option Text) :
    foreign workspaceId row = foreign workspaceId other := by
  simp only [foreign, h.workspaceId]

theorem matchedGraphTerms_eq (terms : List Text) :
    matchedGraphTerms row terms = matchedGraphTerms other terms := by
  rw [matchedGraphTerms, matchedGraphTerms, Row.shownText, Row.shownText, h.text, h.snippet]

end SameCandidate

theorem sameCandidate_mergeGraphTerms (row : Row) (graphTerms : List Text)
    (query content : Text) : SameCandidate (mergeGraphTerms row graphTerms query content) row := by
  unfold mergeGraphTerms
  split <;> exact ⟨rfl, rfl, rfl, rfl, rfl, rfl, rfl⟩

theorem graphRescue_mergeGraphTerms (row : Row) (graphTerms : List Text)
    (query content : Text) :
    (mergeGraphTerms row graphTerms query content).graphRescue = row.graphRescue := by
  unfold mergeGraphTerms
  split <;> rfl

theorem sameCandidate_boost (graphBoost : ℚ) (row : Row) :
    SameCandidate (boost graphBoost row) row := by
  unfold boost
  dsimp only
  split <;> exact ⟨rfl, rfl, rfl, rfl, rfl, rfl, rfl⟩

theorem graphRescue_boost (graphBoost : ℚ) (row : Row) :
    (boost graphBoost row).graphRescue = row.graphRescue := by
  unfold boost
  dsimp only
  split <;> rfl

section Steps

variable (workspaceId : Option Text) (query : Text) (terms : List Text) (sourceQuery : Text)
  (rescued : Bool)

theorem sameCandidate_admitResult (row : Row) :
    SameCandidate (admitResult query terms sourceQuery rescued row) row := by
  have hmerge := sameCandidate_mergeGraphTerms
    { row with
      sourceQueries := [sourceQuery], graphBoosted := false
      graphMatch := matchedGraphTerms row terms
      retrievalPath :=
        if rescued then some "graph_rescue_zero_result_workspace_scoped" else row.retrievalPath
      graphRescue := row.graphRescue || rescued }
    (matchedGraphTerms row terms) query (contentValue row)
  exact ⟨hmerge.1, hmerge.2, hmerge.3, hmerge.4, hmerge.5, hmerge.6, hmerge.7⟩

theorem sameCandidate_enrichResult (row existing : Row) :
    SameCandidate (enrichResult query terms sourceQuery rescued row existing) existing := by
  have hmerge := sameCandidate_mergeGraphTerms
    { existing with
      sourceQueries :=
        if sourceQuery ∈ existing.sourceQueries then existing.sourceQueries
        else existing.sourceQueries ++ [sourceQuery]
      graphRescue := existing.graphRescue || rescued }
    (matchedGraphTerms row terms) query (contentValue row)
  exact ⟨hmerge.1, hmerge.2, hmerge.3, hmerge.4, hmerge.5, hmerge.6, hmerge.7⟩

theorem sameCandidate_admitCandidate (term : Text) (row : Row) :
    SameCandidate (admitCandidate query terms term row) row := by
  have hmerge := sameCandidate_mergeGraphTerms
    { row with
      retrievalPath := some "graph_rescue_nonzero_workspace_scoped", graphRescue := true
      sourceQueries := [rescueQuery query term], graphMatch := matchedGraphTerms row terms }
    (matchedGraphTerms row terms) query (contentValue row)
  exact ⟨hmerge.1, hmerge.2, hmerge.3, hmerge.4, hmerge.5, hmerge.6, hmerge.7⟩

theorem sameCandidate_enrichCandidate (row existing : Row) :
    SameCandidate (enrichCandidate query terms row existing) existing :=
  sameCandidate_mergeGraphTerms existing _ query _

end Steps

/-! ## Rows of a search -/

/-- The rows of a search function that are of the right workspace. -/
def usable (workspaceId : Option Text) (rows : List Row) : List Row :=
  rows.filter fun row => !foreign workspaceId row

/-- Their different keys. -/
def usableKeys (workspaceId : Option Text) (rows : List Row) : List Text :=
  ((usable workspaceId rows).map candidateKey).dedup

theorem mem_usableKeys {workspaceId : Option Text} {rows : List Row} {k : Text} :
    k ∈ usableKeys workspaceId rows ↔
      ∃ row ∈ rows, foreign workspaceId row = false ∧ candidateKey row = k := by
  simp only [usableKeys, usable, List.mem_dedup, List.mem_map, List.mem_filter,
    Bool.not_eq_true', and_assoc]

section AddResults

variable {workspaceId : Option Text} {query : Text} {terms : List Text} {sourceQuery : Text}
  {rescued : Bool} {found : List Row}

theorem key_admitResult (row : Row) :
    candidateKey (admitResult query terms sourceQuery rescued row) = candidateKey row :=
  (sameCandidate_admitResult query terms sourceQuery rescued row).candidateKey_eq

theorem key_enrichResult (row existing : Row) :
    candidateKey (enrichResult query terms sourceQuery rescued row existing) =
      candidateKey existing :=
  (sameCandidate_enrichResult query terms sourceQuery rescued row existing).candidateKey_eq

theorem nodup_addResults (rows : List Row) (h : (found.map candidateKey).Nodup) :
    ((addResults workspaceId query terms rows sourceQuery rescued found).map
      candidateKey).Nodup := by
  induction rows generalizing found with
  | nil => exact h
  | cons row rows ih =>
      rw [addResults, List.foldl_cons, addResult]
      split
      · exact ih h
      · exact ih (nodup_upsert key_admitResult key_enrichResult h row)

theorem mem_keys_addResults (rows : List Row) {k : Text} :
    k ∈ (addResults workspaceId query terms rows sourceQuery rescued found).map candidateKey ↔
      k ∈ found.map candidateKey ∨
        ∃ row ∈ rows, foreign workspaceId row = false ∧ candidateKey row = k := by
  induction rows generalizing found with
  | nil => simp [addResults]
  | cons row rows ih =>
      rw [addResults, List.foldl_cons, addResult, ← addResults]
      split
      · rename_i hforeign
        rw [ih]
        simp [hforeign]
      · rename_i hforeign
        rw [ih, mem_keys_upsert key_admitResult key_enrichResult]
        simp only [List.mem_cons, exists_eq_or_imp, Bool.not_eq_true] at hforeign ⊢
        simp only [hforeign, true_and, eq_comm (a := k), or_assoc]

/-- What holds of every row found holds of every row after more of them. -/
theorem forall_addResults {P : Row → Prop} (rows : List Row) (h : ∀ row ∈ found, P row)
    (hfresh : ∀ row ∈ rows, foreign workspaceId row = false →
      P (admitResult query terms sourceQuery rescued row))
    (henrich : ∀ row other, P other → P (enrichResult query terms sourceQuery rescued row other)) :
    ∀ row ∈ addResults workspaceId query terms rows sourceQuery rescued found, P row := by
  induction rows generalizing found with
  | nil => exact h
  | cons row rows ih =>
      rw [List.forall_mem_cons] at hfresh
      rw [addResults, List.foldl_cons, addResult]
      split
      · exact ih h hfresh.2
      · rename_i hforeign
        exact ih (forall_upsert h (hfresh.1 (Bool.not_eq_true _ ▸ hforeign)) (henrich row))
          hfresh.2

theorem not_foreign_addResults (rows : List Row)
    (h : ∀ row ∈ found, foreign workspaceId row = false) :
    ∀ row ∈ addResults workspaceId query terms rows sourceQuery rescued found,
      foreign workspaceId row = false := by
  refine forall_addResults rows h (fun row _ hrow => ?_) fun row other hother => ?_
  · rw [(sameCandidate_admitResult query terms sourceQuery rescued row).foreign_eq]
    exact hrow
  · rw [(sameCandidate_enrichResult query terms sourceQuery rescued row other).foreign_eq]
    exact hother

end AddResults

/-! ## The rules -/

/-- The rules of admission, for what a search makes of the rows of its primary search. -/
structure AdmissionRules (workspaceId : Option Text) (terms : List Text) (primary : List Row)
    (results : List Row) : Prop where
  keys : (results.map candidateKey).Nodup
  workspace : ∀ row ∈ results, foreign workspaceId row = false
  represented : ∀ k ∈ usableKeys workspaceId primary, k ∈ results.map candidateKey
  full : 3 ≤ (usableKeys workspaceId primary).length →
    ∀ k ∈ results.map candidateKey, k ∈ usableKeys workspaceId primary
  few : usableKeys workspaceId primary ≠ [] →
    ((results.map candidateKey).filter (· ∉ usableKeys workspaceId primary)).length ≤ 2
  corroborated : usableKeys workspaceId primary ≠ [] →
    ∀ row ∈ results, candidateKey row ∉ usableKeys workspaceId primary →
      ∃ term ∈ terms, Text.lower term <:+: Text.lower row.shownText

/-- A primary row is marked as a rescued one only if the search function marked it. -/
def KeepsMarks (workspaceId : Option Text) (primary results : List Row) : Prop :=
  ∀ row ∈ results, candidateKey row ∈ usableKeys workspaceId primary →
    ∃ given ∈ primary, foreign workspaceId given = false ∧
      candidateKey given = candidateKey row ∧ row.graphRescue = given.graphRescue

section Transfer

variable {workspaceId : Option Text} {terms : List Text} {primary results : List Row}

theorem AdmissionRules.map_boost (h : AdmissionRules workspaceId terms primary results)
    (graphBoost : ℚ) :
    AdmissionRules workspaceId terms primary (results.map (boost graphBoost)) := by
  have hkeys : (results.map (boost graphBoost)).map candidateKey =
      results.map candidateKey := by
    rw [List.map_map]
    exact List.map_congr_left fun row _ => (sameCandidate_boost graphBoost row).candidateKey_eq
  refine ⟨hkeys ▸ h.keys, ?_, hkeys ▸ h.represented, hkeys ▸ h.full, hkeys ▸ h.few, ?_⟩
  · intro row hrow
    obtain ⟨old, hold, rfl⟩ := List.mem_map.mp hrow
    rw [(sameCandidate_boost graphBoost old).foreign_eq]
    exact h.workspace old hold
  · intro hprimary row hrow hnew
    obtain ⟨old, hold, rfl⟩ := List.mem_map.mp hrow
    have hsame := sameCandidate_boost graphBoost old
    rw [hsame.candidateKey_eq] at hnew
    rw [Row.shownText, hsame.text, hsame.snippet]
    exact h.corroborated hprimary old hold hnew

theorem KeepsMarks.map_boost (h : KeepsMarks workspaceId primary results) (graphBoost : ℚ) :
    KeepsMarks workspaceId primary (results.map (boost graphBoost)) := by
  intro row hrow hkey
  obtain ⟨old, hold, rfl⟩ := List.mem_map.mp hrow
  rw [(sameCandidate_boost graphBoost old).candidateKey_eq] at hkey ⊢
  rw [graphRescue_boost]
  exact h old hold hkey

theorem AdmissionRules.of_perm (h : AdmissionRules workspaceId terms primary results)
    {other : List Row} (hperm : other.Perm results) :
    AdmissionRules workspaceId terms primary other := by
  have hkeys := hperm.map candidateKey
  constructor
  · exact hkeys.nodup_iff.mpr h.keys
  · exact fun row hrow => h.workspace row (hperm.mem_iff.mp hrow)
  · exact fun k hk => hkeys.mem_iff.mpr (h.represented k hk)
  · exact fun hmany k hk => h.full hmany k (hkeys.mem_iff.mp hk)
  · intro hprimary
    rw [(hkeys.filter _).length_eq]
    exact h.few hprimary
  · exact fun hprimary row hrow => h.corroborated hprimary row (hperm.mem_iff.mp hrow)

end Transfer

/-! ## The phases -/

section Phases

variable {workspaceId : Option Text} {query : Text} {terms : List Text} {rows : List Row}

theorem mem_keys_primary {k : Text} :
    k ∈ (addResults workspaceId query terms rows query false []).map candidateKey ↔
      k ∈ usableKeys workspaceId rows := by
  rw [mem_keys_addResults, mem_usableKeys]
  simp

theorem nodup_primary :
    ((addResults workspaceId query terms rows query false []).map candidateKey).Nodup := by
  apply nodup_addResults
  exact List.nodup_nil

theorem length_primary (workspaceId : Option Text) (query : Text) (terms : List Text)
    (rows : List Row) :
    (addResults workspaceId query terms rows query false []).length =
      (usableKeys workspaceId rows).length := by
  have hnodup : (usableKeys workspaceId rows).Nodup := List.nodup_dedup _
  have hperm : ((addResults workspaceId query terms rows query false []).map
      candidateKey).Perm (usableKeys workspaceId rows) :=
    (List.perm_ext_iff_of_nodup nodup_primary hnodup).mpr fun k => mem_keys_primary
  rw [← hperm.length_eq, List.length_map]

theorem keepsMarks_primary :
    KeepsMarks workspaceId rows (addResults workspaceId query terms rows query false []) := by
  suffices h : ∀ row ∈ addResults workspaceId query terms rows query false [],
      ∃ given ∈ rows, foreign workspaceId given = false ∧
        candidateKey given = candidateKey row ∧ row.graphRescue = given.graphRescue from
    fun row hrow _ => h row hrow
  refine forall_addResults rows (List.forall_mem_nil _)
    (fun row hrow hforeign => ?_) fun row other hother => ?_
  · refine ⟨row, hrow, hforeign, (key_admitResult row).symm, ?_⟩
    simp [admitResult, graphRescue_mergeGraphTerms]
  · rw [key_enrichResult]
    simpa [enrichResult, graphRescue_mergeGraphTerms] using hother

theorem rules_primary :
    AdmissionRules workspaceId terms rows
      (addResults workspaceId query terms rows query false []) := by
  refine ⟨nodup_primary, not_foreign_addResults rows (List.forall_mem_nil _),
    fun k hk => mem_keys_primary.mpr hk, fun _ k hk => mem_keys_primary.mp hk,
    fun _ => ?_, fun _ row hrow hnew => ?_⟩
  · have hnone : ((addResults workspaceId query terms rows query false []).map
        candidateKey).filter (· ∉ usableKeys workspaceId rows) = [] := by
      rw [List.filter_eq_nil_iff]
      intro k hk hnew
      exact absurd (mem_keys_primary.mp hk) (of_decide_eq_true hnew)
    rw [hnone]
    exact Nat.zero_le 2
  · exact absurd (mem_keys_primary.mp (List.mem_map_of_mem hrow)) hnew

variable {vectorSearch : Text → List Row}

/-- The rescue of an empty result keeps the keys apart and the workspace. -/
theorem rescueZero_run (workspaceId : Option Text) {found : List Row}
    (hkeys : (found.map candidateKey).Nodup)
    (hworkspace : ∀ row ∈ found, foreign workspaceId row = false) (remaining : List Text) :
    ((remaining.foldl (rescueZero workspaceId query terms vectorSearch) found).map
      candidateKey).Nodup ∧
    ∀ row ∈ remaining.foldl (rescueZero workspaceId query terms vectorSearch) found,
      foreign workspaceId row = false := by
  induction remaining generalizing found with
  | nil => exact ⟨hkeys, hworkspace⟩
  | cons term remaining ih =>
      exact ih (nodup_addResults _ hkeys) (not_foreign_addResults _ hworkspace)

/-! ## The rescue of a thin result -/

/-- What a rescue has made of the rows with the primary keys. -/
structure Thin (workspaceId : Option Text) (terms : List Text) (primary : List Row)
    (s : RescueState) : Prop where
  keys : (s.allResults.map candidateKey).Nodup
  workspace : ∀ row ∈ s.allResults, foreign workspaceId row = false
  represented : ∀ k ∈ usableKeys workspaceId primary, k ∈ s.allResults.map candidateKey
  count : ((s.allResults.map candidateKey).filter
    (· ∉ usableKeys workspaceId primary)).length = s.rescueAdded
  few : s.rescueAdded ≤ maxRescueAdd
  corroborated : ∀ row ∈ s.allResults, candidateKey row ∉ usableKeys workspaceId primary →
    matchedGraphTerms row terms ≠ []
  marks : KeepsMarks workspaceId primary s.allResults

theorem thin_rescueCandidate {s : RescueState} (h : Thin workspaceId terms rows s)
    (term : Text) (row : Row) :
    Thin workspaceId terms rows (rescueCandidate workspaceId query terms term s row) := by
  unfold rescueCandidate
  split
  · exact h
  · rename_i hfew
    split
    · exact h
    · rename_i hforeign
      split
      · exact h
      · rename_i hmatched
        have hfresh : ∀ row, candidateKey (admitCandidate query terms term row) =
            candidateKey row := fun row =>
          (sameCandidate_admitCandidate query terms term row).candidateKey_eq
        have henrich : ∀ row other, candidateKey (enrichCandidate query terms row other) =
            candidateKey other := fun row other =>
          (sameCandidate_enrichCandidate query terms row other).candidateKey_eq
        have hsameAdmit := sameCandidate_admitCandidate query terms term row
        have hsameEnrich := sameCandidate_enrichCandidate query terms row
        constructor
        · exact nodup_upsert hfresh henrich h.keys row
        · refine forall_upsert h.workspace ?_ fun other hother => ?_
          · rw [hsameAdmit.foreign_eq]
            exact Bool.not_eq_true _ ▸ hforeign
          · rw [(hsameEnrich other).foreign_eq]
            exact hother
        · exact fun k hk => (mem_keys_upsert hfresh henrich).mpr (.inl (h.represented k hk))
        · dsimp only
          rw [map_key_upsert hfresh henrich]
          split
          · exact h.count
          · rename_i hnew
            have hrescued : candidateKey row ∉ usableKeys workspaceId rows :=
              fun hk => hnew (h.represented _ hk)
            rw [List.filter_append, List.length_append, h.count]
            simp [hrescued]
        · dsimp only
          split
          · exact h.few
          · exact not_le.mp hfew
        · refine forall_upsert h.corroborated (fun _ => ?_) fun other hother hkey => ?_
          · rw [hsameAdmit.matchedGraphTerms_eq]
            exact hmatched
          · rw [(hsameEnrich other).matchedGraphTerms_eq]
            rw [(hsameEnrich other).candidateKey_eq] at hkey
            exact hother hkey
        · dsimp only
          unfold upsert
          split
          · refine forall_modifyFirst (fun other hother hkey => ?_) h.marks
            rw [(hsameEnrich other).candidateKey_eq] at hkey ⊢
            rw [enrichCandidate, graphRescue_mergeGraphTerms]
            exact hother hkey
          · rename_i hnew
            intro other hother hkey
            rcases List.mem_append.mp hother with hother | hother
            · exact h.marks other hother hkey
            · obtain rfl := List.mem_singleton.mp hother
              rw [hfresh] at hkey
              exact absurd (h.represented _ hkey) hnew

theorem thin_rescueCandidates {s : RescueState} (h : Thin workspaceId terms rows s)
    (term : Text) (candidates : List Row) :
    Thin workspaceId terms rows
      (candidates.foldl (rescueCandidate workspaceId query terms term) s) := by
  induction candidates generalizing s with
  | nil => exact h
  | cons row candidates ih => exact ih (thin_rescueCandidate h term row)

theorem thin_rescueTerm {s : RescueState} (h : Thin workspaceId terms rows s) (term : Text) :
    Thin workspaceId terms rows (rescueTerm workspaceId query terms vectorSearch s term) := by
  unfold rescueTerm
  split
  · exact h
  · exact thin_rescueCandidates h term _

theorem thin_rescueTerms {s : RescueState} (h : Thin workspaceId terms rows s)
    (remaining : List Text) :
    Thin workspaceId terms rows
      (remaining.foldl (rescueTerm workspaceId query terms vectorSearch) s) := by
  induction remaining generalizing s with
  | nil => exact h
  | cons term remaining ih => exact ih (thin_rescueTerm h term)

theorem Thin.rules {s : RescueState} (h : Thin workspaceId terms rows s)
    (hfew : (usableKeys workspaceId rows).length < 3) :
    AdmissionRules workspaceId terms rows s.allResults := by
  refine ⟨h.keys, h.workspace, h.represented, fun hmany => absurd hmany (not_le.mpr hfew),
    fun _ => ?_, fun _ row hrow hnew => ?_⟩
  · rw [h.count]
    exact h.few
  · obtain ⟨term, hterm⟩ := List.exists_mem_of_ne_nil _ (h.corroborated row hrow hnew)
    obtain ⟨hterm, hfound⟩ := List.mem_filter.mp hterm
    exact ⟨term, hterm, of_decide_eq_true hfound⟩

/-! ## A search -/

theorem rules_of_none {found : List Row} (hnone : usableKeys workspaceId rows = [])
    (hkeys : (found.map candidateKey).Nodup)
    (hworkspace : ∀ row ∈ found, foreign workspaceId row = false) :
    AdmissionRules workspaceId terms rows found ∧ KeepsMarks workspaceId rows found := by
  refine ⟨⟨hkeys, hworkspace, ?_, ?_, ?_, ?_⟩, ?_⟩
  · simp [hnone]
  · simp [hnone]
  · exact fun hprimary => absurd hnone hprimary
  · exact fun hprimary => absurd hnone hprimary
  · intro row _ hkey
    rw [hnone] at hkey
    exact absurd hkey List.not_mem_nil

/-- A thin result before its rescue. -/
theorem thin_primary (workspaceId : Option Text) (query : Text) (terms : List Text)
    (rows : List Row) :
    Thin workspaceId terms rows
      ⟨addResults workspaceId query terms rows query false [], 0⟩ := by
  have hrules : AdmissionRules workspaceId terms rows
      (addResults workspaceId query terms rows query false []) := rules_primary
  refine ⟨hrules.keys, hrules.workspace, hrules.represented, ?_, Nat.zero_le _, ?_,
    keepsMarks_primary⟩
  · rw [List.length_eq_zero_iff, List.filter_eq_nil_iff]
    intro k hk hnew
    exact absurd (mem_keys_primary.mp hk) (of_decide_eq_true hnew)
  · intro row hrow hnew
    exact absurd (mem_keys_primary.mp (List.mem_map_of_mem hrow)) hnew

theorem rules_rescue (workspaceId : Option Text) (query : Text) (terms : List Text)
    (rows : List Row) (vectorSearch : Text → List Row) :
    AdmissionRules workspaceId terms rows (rescue workspaceId query terms vectorSearch
        (addResults workspaceId query terms rows query false [])) ∧
      KeepsMarks workspaceId rows (rescue workspaceId query terms vectorSearch
        (addResults workspaceId query terms rows query false [])) := by
  have hlength := length_primary workspaceId query terms rows
  unfold rescue
  split
  · rename_i hnone
    rw [hnone, List.length_nil, eq_comm, List.length_eq_zero_iff] at hlength
    have hstart : (([] : List Row).map candidateKey).Nodup := List.nodup_nil
    obtain ⟨hkeys, hworkspace⟩ := rescueZero_run workspaceId hstart (List.forall_mem_nil _) terms
    exact rules_of_none hlength hkeys hworkspace
  · split
    · rename_i hthin
      rw [hlength] at hthin
      have hend : Thin workspaceId terms rows
          (terms.foldl (rescueTerm workspaceId query terms vectorSearch) _) :=
        thin_rescueTerms (thin_primary workspaceId query terms rows) terms
      exact ⟨hend.rules hthin, hend.marks⟩
    · exact ⟨rules_primary, keepsMarks_primary⟩

end Phases

theorem rules_hybridSearch (order : SetOrder) (query : Text) (graph : GraphStore)
    (vectorSearch : Text → List Row) {rerank : List Row → List Row}
    (hrerank : ∀ rows, (rerank rows).Perm rows) (settings : Settings) :
    AdmissionRules settings.workspaceId (newTerms order query graph settings)
        (vectorSearch query) (hybridSearch order query graph vectorSearch rerank settings) ∧
      KeepsMarks settings.workspaceId (vectorSearch query)
        (hybridSearch order query graph vectorSearch rerank settings) := by
  obtain ⟨hrules, hmarks⟩ := rules_rescue settings.workspaceId query
    (newTerms order query graph settings) (vectorSearch query) vectorSearch
  have hmarks := hmarks.map_boost settings.graphBoost
  exact ⟨(hrules.map_boost settings.graphBoost).of_perm (hrerank _),
    fun row hrow => hmarks row ((hrerank _).mem_iff.mp hrow)⟩

/-! ## Admission -/

noncomputable def anyOrder : SetOrder where
  list := Finset.toList
  nodup := Finset.nodup_toList
  mem_list := fun _ _ => Finset.mem_toList

def emptyGraph : GraphStore := ⟨fun _ _ _ => ∅⟩

/-- A row that its search function has marked. -/
def markedRow : Row := { contentId := .value ['a'], graphRescue := true }

end MemoryLab.GraphSearch

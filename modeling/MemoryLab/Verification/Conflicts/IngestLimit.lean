import MemoryLab.Verification.Conflicts.Detector

/-! # The candidates that an escalation is planned from

The detector puts the candidates of a workspace in order and cuts the list before the planner
looks for those of one content. -/

namespace MemoryLab.Conflicts

open Library Library.Rows

/-! ## Candidates to escalate -/

def ConflictSeverity.level : ConflictSeverity → ℕ
  | low => 0
  | medium => 1
  | high => 2

/-- A candidate that a content is escalated for. -/
structure Escalating (contentId : ContentId) (found : ConflictCandidate) : Prop where
  unresolved : found.status = .unresolved
  involved : involves found contentId = true
  severe : found.severity ≠ .low

variable {sha256Hex : Text → Text} {env : TtlEnvironment} {rows : List ConflictSourceRow}
  {workspaceId : WorkspaceId} {contentId : ContentId} {found other : ConflictCandidate}

theorem planOf_isSome :
    (planOf env workspaceId contentId found).isSome ↔ Escalating contentId found := by
  rw [planOf]
  constructor
  · intro h
    by_cases hstatus : found.status = .unresolved
    · by_cases hinvolved : involves found contentId = true
      · refine ⟨hstatus, hinvolved, fun hlow => ?_⟩
        simp [hstatus, hinvolved, hlow, severityToEscalation] at h
      · simp [hstatus, hinvolved] at h
    · simp [hstatus] at h
  · intro h
    rw [if_neg (not_not_intro h.unresolved), if_neg (by simp [h.involved]), Option.isSome_map]
    have hsevere := h.severe
    cases hseverity : found.severity with
    | low => exact absurd hseverity hsevere
    | medium => rfl
    | high => rfl

theorem severity_of_planOf {plan : PlannedEscalation}
    (h : planOf env workspaceId contentId found = some plan) :
    severityToEscalation found.severity = some plan.severity := by
  rw [planOf] at h
  split_ifs at h
  obtain ⟨severity, hseverity, rfl⟩ := Option.map_eq_some_iff.mp h
  exact hseverity

/-! ## The order of candidates -/

theorem mem_orderedCandidates {scope memoryType : Option Text} {includeResolved : Bool}
    (h : found ∈ orderedCandidates sha256Hex rows workspaceId scope memoryType includeResolved) :
    found ∈ rawCandidates sha256Hex rows workspaceId scope memoryType includeResolved :=
  mem_of_mem_distinctOn (mem_sortOn.mp h)

/-- No two candidates have one rank, as no two have one id. -/
theorem pairwise_orderedCandidates (scope memoryType : Option Text) (includeResolved : Bool) :
    (orderedCandidates sha256Hex rows workspaceId scope memoryType includeResolved).Pairwise
      fun a b => a.rank < b.rank := by
  have hids : ((orderedCandidates sha256Hex rows workspaceId scope memoryType
      includeResolved).map (·.candidateId)).Nodup :=
    ((perm_sortOn _).map _).nodup_iff.mpr (nodup_distinctOn _)
  have hsorted : (orderedCandidates sha256Hex rows workspaceId scope memoryType
      includeResolved).Pairwise fun a b => a.rank ≤ b.rank := pairwise_sortOn _
  refine (hsorted.and (List.pairwise_map.mp hids)).imp fun {a b} h => lt_of_le_of_ne h.1 ?_
  intro heq
  simp only [ConflictCandidate.rank, EmbeddingLike.apply_eq_iff_eq, Prod.mk.injEq] at heq
  exact h.2 heq.2.2

theorem level_le_of_rank_lt (hfound : Escalating contentId found)
    (hother : Escalating contentId other) (h : found.rank < other.rank) :
    other.severity.level ≤ found.severity.level := by
  have hle := (Prod.Lex.lt_iff.mp h).imp le_of_lt fun heq => le_of_eq heq.1
  have hfirst : decide (found.severity ≠ .high) ≤ decide (other.severity ≠ .high) :=
    hle.elim id id
  have hlow := hfound.severe
  have hlow' := hother.severe
  cases hseverity : found.severity <;> cases hseverity' : other.severity <;>
    simp_all [ConflictSeverity.level, Bool.le_iff_imp]

/-! ## Planning from the first candidates -/

/-- The candidates that a content is escalated for, without a limit on their number. -/
def escalatingCandidates (sha256Hex : Text → Text) (rows : List ConflictSourceRow)
    (workspaceId : WorkspaceId) (contentId : ContentId) : Set ConflictCandidate :=
  { found | found ∈ orderedCandidates sha256Hex rows workspaceId none none false ∧
    Escalating contentId found }

/-- A content is escalated exactly when it takes part in a conflict, as severely as the gravest
of them. -/
structure EscalatedAsDetected (sha256Hex : Text → Text) (env : TtlEnvironment)
    (rows : List ConflictSourceRow) (workspaceId : WorkspaceId) (contentId : ContentId) :
    Prop where
  planned : (planOnIngest sha256Hex env rows workspaceId contentId).isSome ↔
    (escalatingCandidates sha256Hex rows workspaceId contentId).Nonempty
  severity : ∀ plan, planOnIngest sha256Hex env rows workspaceId contentId = some plan →
    ∃ found ∈ escalatingCandidates sha256Hex rows workspaceId contentId,
      severityToEscalation found.severity = some plan.severity ∧
      ∀ other ∈ escalatingCandidates sha256Hex rows workspaceId contentId,
        other.severity.level ≤ found.severity.level

theorem planOnIngest_eq :
    planOnIngest sha256Hex env rows workspaceId contentId =
      ((orderedCandidates sha256Hex rows workspaceId none none false).take 10).findSome?
        (planOf env workspaceId contentId) :=
  rfl

/-- The candidate that is planned for is the first one to escalate. -/
theorem planOnIngest_eq_some {plan : PlannedEscalation}
    (h : planOnIngest sha256Hex env rows workspaceId contentId = some plan) :
    ∃ found ∈ escalatingCandidates sha256Hex rows workspaceId contentId,
      planOf env workspaceId contentId found = some plan ∧
      ∀ other ∈ escalatingCandidates sha256Hex rows workspaceId contentId,
        other = found ∨ found.rank < other.rank := by
  rw [planOnIngest_eq] at h
  obtain ⟨before, found, after, htake, hplan, hbefore⟩ := List.findSome?_eq_some_iff.mp h
  have hescalating := planOf_isSome.mp (Option.isSome_iff_exists.mpr ⟨plan, hplan⟩)
  have hordered := List.take_append_drop 10
    (orderedCandidates sha256Hex rows workspaceId none none false)
  have hsorted : (orderedCandidates sha256Hex rows workspaceId none none false).Pairwise
      fun a b => a.rank < b.rank := pairwise_orderedCandidates none none false
  rw [htake, List.append_assoc, List.cons_append] at hordered
  rw [← hordered, List.pairwise_append, List.pairwise_cons] at hsorted
  refine ⟨found, ⟨?_, hescalating⟩, hplan, ?_⟩
  · rw [← hordered]
    simp
  · rintro other ⟨hmem, hother⟩
    rw [← hordered] at hmem
    rcases List.mem_append.mp hmem with hmem | hmem
    · have hnone := hbefore other hmem
      rw [← Option.not_isSome_iff_eq_none, planOf_isSome] at hnone
      exact absurd hother hnone
    · rcases List.mem_cons.mp hmem with rfl | hmem
      · exact .inl rfl
      · exact .inr (hsorted.2.1.1 other hmem)

theorem planOnIngest_isSome :
    (planOnIngest sha256Hex env rows workspaceId contentId).isSome ↔
      ∃ found ∈ (orderedCandidates sha256Hex rows workspaceId none none false).take 10,
        Escalating contentId found := by
  rw [planOnIngest_eq, List.findSome?_isSome_iff]
  exact exists_congr fun found => and_congr_right fun _ => planOf_isSome

/-- Candidates that rank before one. -/
def outranking (sha256Hex : Text → Text) (rows : List ConflictSourceRow)
    (workspaceId : WorkspaceId) (found : ConflictCandidate) : List ConflictCandidate :=
  (orderedCandidates sha256Hex rows workspaceId none none false).filter
    fun other => other.rank < found.rank

/-- A content that takes part in conflicts is escalated for them as long as one of them has
fewer than ten others before it. -/
theorem escalatedAsDetected_iff (sha256Hex : Text → Text) (env : TtlEnvironment)
    (rows : List ConflictSourceRow) (workspaceId : WorkspaceId) (contentId : ContentId) :
    EscalatedAsDetected sha256Hex env rows workspaceId contentId ↔
      ((escalatingCandidates sha256Hex rows workspaceId contentId).Nonempty →
        ∃ found ∈ escalatingCandidates sha256Hex rows workspaceId contentId,
          (outranking sha256Hex rows workspaceId found).length < 10) := by
  have hrank : (orderedCandidates sha256Hex rows workspaceId none none false).Pairwise
      fun a b => a.rank < b.rank := pairwise_orderedCandidates none none false
  constructor
  · intro hexact hnonempty
    obtain ⟨found, hfound, hescalating⟩ :=
      planOnIngest_isSome.mp (hexact.planned.mpr hnonempty)
    obtain ⟨hmem, hfew⟩ := (mem_take_iff hrank).mp hfound
    exact ⟨found, ⟨hmem, hescalating⟩, hfew⟩
  · intro hfew
    refine ⟨⟨fun hplanned => ?_, fun hnonempty => ?_⟩, fun plan hplan => ?_⟩
    · obtain ⟨found, hfound, hescalating⟩ := planOnIngest_isSome.mp hplanned
      exact ⟨found, List.mem_of_mem_take hfound, hescalating⟩
    · obtain ⟨found, ⟨hmem, hescalating⟩, hlength⟩ := hfew hnonempty
      exact planOnIngest_isSome.mpr ⟨found, (mem_take_iff hrank).mpr ⟨hmem, hlength⟩, hescalating⟩
    · obtain ⟨found, hfound, hplanOf, hfirst⟩ := planOnIngest_eq_some hplan
      refine ⟨found, hfound, severity_of_planOf hplanOf, fun other hother => ?_⟩
      rcases hfirst other hother with rfl | hlt
      · exact le_refl _
      · exact level_le_of_rank_lt hfound.2 hother.2 hlt

/-! ## Ten other conflicts -/

/-- Two contents of a scope, the second with a marker against the first. -/
def markedPair (scope marker : String) (contentId : ContentId) : List ConflictSourceRow :=
  [{ contentId := some contentId, workspaceId := some 1, text := (marker ++ ": no").toList,
      currentStateScope := some scope.toList },
    { contentId := some (contentId + 1), workspaceId := some 1, text := "Finding".toList,
      currentStateScope := some scope.toList }]

/-- A content that is opposed in its scope, while ten others are contradicted in theirs. -/
def crowdedRows : List ConflictSourceRow :=
  markedPair "plan" "counterfinding" 50 ++
    ["a", "b", "c", "d", "e", "f", "g", "h", "i", "j"].zipIdx.flatMap fun entry =>
      markedPair entry.1 "contradicts" (2 * entry.2 + 10)

/-- Like a hash it tells the keys of these conflicts apart: it leaves the workspace and the type
of the conflict out. -/
def hashOfScope (key : Text) : Text := key.drop 60

theorem not_escalatedAsDetected_crowded :
    ¬ ∀ sha256Hex env rows workspaceId contentId,
      EscalatedAsDetected sha256Hex env rows workspaceId contentId := by
  intro hexact
  have hexists : ∃ found ∈ orderedCandidates hashOfScope crowdedRows 1 none none false,
      found.status = .unresolved ∧ involves found 50 = true ∧ found.severity ≠ .low := by
    decide +kernel
  have hnone : (planOnIngest hashOfScope (fun _ => none) crowdedRows 1 50).isSome = false := by
    decide +kernel
  obtain ⟨found, hmem, hunresolved, hinvolved, hsevere⟩ := hexists
  have hplanned := (hexact hashOfScope (fun _ => none) crowdedRows 1 50).planned.mpr
    ⟨found, hmem, hunresolved, hinvolved, hsevere⟩
  rw [hnone] at hplanned
  cases hplanned

end MemoryLab.Conflicts

import MemoryLab.Verification.Tiers.Confinement

/-! # Dry runs of the cleanup

The request for real expires escalations before it asks which contents still have a pending one;
the dry run asks without expiring them. -/

namespace MemoryLab.TierOperations

open Library Library.Rows

/-- A report without the mode it was made in. -/
def CleanupResult.withoutMode (result : CleanupResult) : CleanupResult :=
  { result with dryRun := false }

def archivedContent : CleanupDetail → Option ContentId
  | .contentArchived contentId => some contentId
  | .escalationExpired _ => none

/-- A row is changed when the details list it, and left alone when they do not. -/
def ChangedIf {ρ : Type} (listed : Prop) (f : ρ → ρ) (old new : ρ) : Prop :=
  (listed → new = f old ∧ new ≠ old) ∧ (¬ listed → new = old)

structure ListedChanges (db next : Database) (details : List CleanupDetail) : Prop where
  escalations : List.Forall₂
    (fun old new => ChangedIf (.escalationExpired old.escalationId ∈ details) setExpired old new)
    db.escalations next.escalations
  contentItems : List.Forall₂
    (fun old new => ChangedIf (.contentArchived old.contentId ∈ details) setArchived old new)
    db.contentItems next.contentItems
  events : ∃ recorded, next.governanceEvents = db.governanceEvents ++ recorded ∧
    recorded.map (·.contentId) = details.filterMap archivedContent ∧
    ∀ event ∈ recorded, event.newTier = .archived ∧ event.triggerSource = .cleanup
  rest : next = { db with
    contentItems := next.contentItems
    escalations := next.escalations
    governanceEvents := next.governanceEvents }

/-- The dry run changes nothing and reports what the request for real then does. -/
structure Predicts (db : Database) (now : Timestamp) (auth : AuthContext) : Prop where
  unchanged : (cleanupTtl db now true auth).1 = db
  report : (cleanupTtl db now true auth).2.withoutMode =
    (cleanupTtl db now false auth).2.withoutMode
  changes : ListedChanges db (cleanupTtl db now false auth).1
    (cleanupTtl db now false auth).2.details

def isLive (now : Timestamp) (row : Escalation) : Bool :=
  row.status == .pending && !decide (row.expiresAt < now)

def hasLiveEscalation (db : Database) (now : Timestamp) (contentId : ContentId) : Bool :=
  db.escalations.any fun row => row.contentId == some contentId && isLive now row

/-! ## What the expiry takes away -/

theorem hasPendingEscalation_expire (db : Database) (now : Timestamp) (contentId : ContentId) :
    hasPendingEscalation (expireEscalations db now) contentId =
      hasLiveEscalation db now contentId := by
  rw [hasPendingEscalation, hasLiveEscalation, expireEscalations, updateWhere, List.any_map]
  congr 1
  funext row
  by_cases hpending : row.status = .pending
  · by_cases hexpired : row.expiresAt < now <;>
      simp [isStale, isLive, setExpired, hpending, hexpired]
  · have hother : (row.status == .pending) = false := by simpa using hpending
    have hstale : isStale now row = false := by simp [isStale, hother]
    simp [hstale, isLive, hother]

theorem hasPendingEscalation_of_live {db : Database} {now : Timestamp} {contentId : ContentId}
    (h : hasLiveEscalation db now contentId = true) : hasPendingEscalation db contentId = true := by
  obtain ⟨row, hrow, hlive⟩ := List.any_eq_true.mp h
  simp only [isLive, Bool.and_eq_true] at hlive
  exact List.any_eq_true.mpr ⟨row, hrow, by simp [hlive]⟩

/-- A pending escalation of a candidate keeps it from being archived in both modes. -/
def EscalationsLive (db : Database) (now : Timestamp) (auth : AuthContext) : Prop :=
  ∀ item ∈ db.contentItems, isCandidate now auth.workspaceId item = true →
    item.tier = some .transient → hasPendingEscalation db item.contentId = true →
      hasLiveEscalation db now item.contentId = true

theorem isAwaiting_expire {db : Database} {now : Timestamp} {auth : AuthContext}
    (h : EscalationsLive db now auth) {item : ContentItem}
    (hitem : item ∈ candidatesOf db now auth) :
    hasPendingEscalation (expireEscalations db now) item.contentId =
        hasPendingEscalation db item.contentId ∨ isConflicted item = true := by
  obtain ⟨hmem, hcandidate⟩ := List.mem_filter.mp hitem
  cases hconflicted : isConflicted item with
  | true => exact .inr rfl
  | false =>
      refine .inl ?_
      have htier : item.tier = some .transient := by
        simp only [isCandidate, Bool.and_eq_true, Bool.or_eq_true, beq_iff_eq] at hcandidate
        exact hcandidate.1.1.resolve_right (by simpa [isConflicted] using hconflicted)
      rw [hasPendingEscalation_expire]
      cases hpending : hasPendingEscalation db item.contentId with
      | true => exact h item hmem hcandidate htier hpending
      | false =>
          cases hlive : hasLiveEscalation db now item.contentId with
          | true => exact absurd (hasPendingEscalation_of_live hlive) (by simp [hpending])
          | false => rfl

theorem report_expire {db : Database} {now : Timestamp} {auth : AuthContext}
    (h : EscalationsLive db now auth) (result : CleanupResult) :
    result.report (expireEscalations db now) (candidatesOf db now auth) =
      result.report db (candidatesOf db now auth) := by
  have hawaiting : (candidatesOf db now auth).filter (isAwaiting (expireEscalations db now)) =
      (candidatesOf db now auth).filter (isAwaiting db) := by
    refine List.filter_congr fun item hitem => ?_
    rcases isAwaiting_expire h hitem with hpending | hconflicted
    · rw [isAwaiting, isAwaiting, hpending]
    · simp [isAwaiting, hconflicted]
  have harchivable : (candidatesOf db now auth).filter (isArchivable (expireEscalations db now)) =
      (candidatesOf db now auth).filter (isArchivable db) := by
    refine List.filter_congr fun item hitem => ?_
    rcases isAwaiting_expire h hitem with hpending | hconflicted
    · rw [isArchivable, isArchivable, hpending]
      rfl
    · simp [isArchivable, hconflicted]
  simp only [CleanupResult.report, hawaiting, harchivable]

/-! ## What the request for real changes -/

theorem expired_changes {db : Database} (hkeys : (db.escalations.map (·.escalationId)).Nodup)
    (now : Timestamp) {details : List CleanupDetail}
    (hdetails : ∀ escalationId, .escalationExpired escalationId ∈ details ↔
      ∃ row ∈ db.escalations, isStale now row = true ∧ row.escalationId = escalationId) :
    List.Forall₂
      (fun old new => ChangedIf (.escalationExpired old.escalationId ∈ details) setExpired old new)
      db.escalations (expireEscalations db now).escalations := by
  rw [expireEscalations, forall₂_updateWhere_iff]
  intro row hrow
  have hlisted : .escalationExpired row.escalationId ∈ details ↔ isStale now row = true := by
    rw [hdetails]
    constructor
    · rintro ⟨other, hother, hstale, hid⟩
      obtain rfl := List.inj_on_of_nodup_map hkeys hother hrow hid
      exact hstale
    · exact fun hstale => ⟨row, hrow, hstale, rfl⟩
  by_cases hstale : isStale now row = true
  · refine ⟨fun _ => ?_, fun hnot => (hnot (hlisted.mpr hstale)).elim⟩
    rw [if_pos hstale]
    refine ⟨rfl, fun hsame => ?_⟩
    have hpending : row.status = .pending := by
      simp only [isStale, Bool.and_eq_true, beq_iff_eq] at hstale
      exact hstale.1
    have hstatus : (setExpired row).status = row.status := by rw [hsame]
    rw [hpending] at hstatus
    cases hstatus
  · refine ⟨fun hmem => (hstale (hlisted.mp hmem)).elim, fun _ => ?_⟩
    rw [if_neg hstale]

theorem archived_changes {db : Database} (hkeys : db.contentIds.Nodup) {now : Timestamp}
    {auth : AuthContext} {guards : Database} {details : List CleanupDetail}
    (hdetails : ∀ contentId, .contentArchived contentId ∈ details ↔
      ∃ item ∈ (candidatesOf db now auth).filter (isArchivable guards),
        item.contentId = contentId) :
    List.Forall₂
      (fun old new => ChangedIf (.contentArchived old.contentId ∈ details) setArchived old new)
      db.contentItems (updateWhere
        (isAmong ((candidatesOf db now auth).filter (isArchivable guards))) setArchived
        db.contentItems) := by
  rw [forall₂_updateWhere_iff]
  intro item hitem
  have hlisted : .contentArchived item.contentId ∈ details ↔
      isAmong ((candidatesOf db now auth).filter (isArchivable guards)) item = true := by
    rw [hdetails, isAmong_iff]
  by_cases hamong : isAmong ((candidatesOf db now auth).filter (isArchivable guards)) item = true
  · refine ⟨fun _ => ?_, fun hnot => (hnot (hlisted.mpr hamong)).elim⟩
    rw [if_pos hamong]
    refine ⟨rfl, fun hsame => ?_⟩
    have hcandidate := (List.mem_filter.mp
      (List.mem_filter.mp (isAmong_owned hkeys hitem hamong)).1).2
    have htier : item.tier = some .archived := by rw [← hsame]; rfl
    simp [isCandidate, htier] at hcandidate
  · refine ⟨fun hmem => (hamong (hlisted.mp hmem)).elim, fun _ => ?_⟩
    rw [if_neg hamong]

theorem cleanup_changes {db : Database} (hkeys : db.contentIds.Nodup)
    (hescalations : (db.escalations.map (·.escalationId)).Nodup) (now : Timestamp)
    (auth : AuthContext) :
    ListedChanges db (cleanupTtl db now false auth).1
      (cleanupTtl db now false auth).2.details := by
  obtain ⟨recorded, hrecorded, hnext⟩ := archiveAll_archives db now auth
  have hdetails : (cleanupTtl db now false auth).2.details =
      (db.escalations.filter (isStale now)).map (fun row => .escalationExpired row.escalationId) ++
        ((candidatesOf db now auth).filter (isArchivable (expireEscalations db now))).map
          fun item => .contentArchived item.contentId := by
    rw [cleanupTtl_eq]
    rfl
  rw [hnext, hdetails]
  refine ⟨?_, ?_, ⟨recorded, rfl, ?_, fun event hevent => ?_⟩, rfl⟩
  · refine expired_changes hescalations now fun escalationId => ?_
    simp [and_assoc]
  · refine archived_changes hkeys fun contentId => ?_
    simp [and_assoc]
  · have hexpired : ((db.escalations.filter (isStale now)).map fun row =>
        CleanupDetail.escalationExpired row.escalationId).filterMap archivedContent = [] := by
      refine List.filterMap_eq_nil_iff.mpr fun detail hdetail => ?_
      obtain ⟨row, -, rfl⟩ := List.mem_map.mp hdetail
      rfl
    rw [List.filterMap_append, hexpired, List.filterMap_map, List.nil_append]
    have harchived : (archivedContent ∘ fun item : ContentItem =>
        CleanupDetail.contentArchived item.contentId) = some ∘ (·.contentId) := rfl
    rw [harchived, ← List.filterMap_map, List.filterMap_some]
    exact contentIds_of_records hrecorded
  · obtain ⟨item, -, source, rfl⟩ := Forall₂.exists_of_mem hrecorded hevent
    exact ⟨rfl, rfl⟩

/-- The dry run predicts the request for real exactly when every aged content of the workspace
that has a pending escalation has one that has not expired. -/
theorem dryRun_predicts_iff {db : Database} (hkeys : db.contentIds.Nodup)
    (hescalations : (db.escalations.map (·.escalationId)).Nodup) (now : Timestamp)
    (auth : AuthContext) :
    Predicts db now auth ↔ EscalationsLive db now auth := by
  constructor
  · intro h item hitem hcandidate htier hpending
    have hmem : item ∈ candidatesOf db now auth := List.mem_filter.mpr ⟨hitem, hcandidate⟩
    have hcount : ((candidatesOf db now auth).filter
        (isAwaiting (expireEscalations db now))).length =
          ((candidatesOf db now auth).filter (isAwaiting db)).length := by
      have hreport := congrArg CleanupResult.skippedPendingEscalation h.report
      rw [cleanupTtl_eq, cleanupTtl_eq] at hreport
      exact (Nat.add_left_cancel hreport).symm
    have hconflicted : isConflicted item = false := by simp [isConflicted, htier]
    have hawaiting : isAwaiting (expireEscalations db now) item = true := by
      refine forall_of_length_filter_eq (fun other _ hother => ?_) hcount item hmem ?_
      · simp only [isAwaiting, Bool.and_eq_true, hasPendingEscalation_expire] at hother ⊢
        exact ⟨hother.1, hasPendingEscalation_of_live hother.2⟩
      · simp [isAwaiting, hconflicted, hpending]
    simp only [isAwaiting, Bool.and_eq_true, hasPendingEscalation_expire] at hawaiting
    exact hawaiting.2
  · intro h
    refine ⟨?_, ?_, cleanup_changes hkeys hescalations now auth⟩
    · rw [cleanupTtl_eq]
      rfl
    · rw [cleanupTtl_eq, cleanupTtl_eq]
      have hreport := report_expire h (expiryReport db now false)
      simp only [afterExpiry, Bool.false_eq_true, if_false, if_true, hreport]
      rfl

/-- An aged content waits for a decision that can still be made. -/
theorem dryRun_predicts_launch :
    Predicts
      { contentItems := [{ contentId := 1, workspaceId := some 1, tier := some .transient },
          { contentId := 2, workspaceId := some 1, tier := some .transient }]
        escalations := [escalationOf 1 1 1 (30 * day), escalationOf 2 1 7 (5 * day)] }
      (20 * day) ⟨"owner".toList, 1⟩ := by
  refine (dryRun_predicts_iff (by decide) (by decide) _ _).mpr ?_
  unfold EscalationsLive
  decide +kernel

/-- The only pending escalation of an aged content has expired: the dry run reports the content as
kept, and the request for real archives it. -/
theorem not_predicts_expired :
    ¬ Predicts
      { contentItems := [{ contentId := 1, workspaceId := some 1, tier := some .transient }]
        escalations := [escalationOf 1 1 1 (5 * day)] }
      (20 * day) ⟨"owner".toList, 1⟩ := by
  intro h
  have hreport := h.report
  revert hreport
  decide +kernel

end MemoryLab.TierOperations

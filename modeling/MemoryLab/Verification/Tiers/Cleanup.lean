import MemoryLab.Verification.Tiers.Terminal

/-! # The cleanup in closed form

Nothing that the loop writes decides a later round, so the loop archives the candidates that
were archivable when it started. -/

namespace MemoryLab.TierOperations

open Library Library.Rows

/-! ## The loop over the candidates -/

def isConflicted (item : ContentItem) : Bool := item.tier == some .conflicted

def isProtected (db : Database) (item : ContentItem) : Bool :=
  inHub db item.contentId || inDecision db item.contentId

/-- A candidate that waits for a decision on its escalation. -/
def isAwaiting (db : Database) (item : ContentItem) : Bool :=
  !isConflicted item && hasPendingEscalation db item.contentId

/-- A candidate that a round archives. -/
def isArchivable (db : Database) (item : ContentItem) : Bool :=
  !isConflicted item && !hasPendingEscalation db item.contentId && !isProtected db item

/-- What the rounds report on their candidates. -/
def CleanupResult.report (result : CleanupResult) (db : Database)
    (candidates : List ContentItem) : CleanupResult :=
  { result with
    contentArchived := result.contentArchived + (candidates.filter (isArchivable db)).length
    skippedConflicted := result.skippedConflicted + (candidates.filter isConflicted).length
    skippedPendingEscalation :=
      result.skippedPendingEscalation + (candidates.filter (isAwaiting db)).length
    details := result.details ++
      (candidates.filter (isArchivable db)).map fun item => .contentArchived item.contentId }

/-- The tables that decide whether a candidate is archived. -/
structure SameGuards (db next : Database) : Prop where
  escalations : next.escalations = db.escalations
  hubContent : next.hubContent = db.hubContent
  decisionNodes : next.decisionNodes = db.decisionNodes

theorem SameGuards.isAwaiting_eq {db next : Database} (h : SameGuards db next) :
    isAwaiting next = isAwaiting db := by
  funext item
  simp only [isAwaiting, hasPendingEscalation, h.escalations]

theorem SameGuards.isArchivable_eq {db next : Database} (h : SameGuards db next) :
    isArchivable next = isArchivable db := by
  funext item
  simp only [isArchivable, isProtected, hasPendingEscalation, inHub, inDecision, h.escalations,
    h.hubContent, h.decisionNodes]

theorem SameGuards.report_eq {db next : Database} (h : SameGuards db next)
    (result : CleanupResult) (candidates : List ContentItem) :
    result.report next candidates = result.report db candidates := by
  simp only [CleanupResult.report, h.isAwaiting_eq, h.isArchivable_eq]

/-- The rows that a run of the loop leaves. -/
def archiveAll (db : Database) (now : Timestamp) (dryRun : Bool)
    (candidates : List ContentItem) : Database :=
  if dryRun then db
  else (candidates.filter (isArchivable db)).foldl (fun db item => archiveContent db now item) db

theorem cleanupCandidate_eq (now : Timestamp) (db : Database) (result : CleanupResult)
    (item : ContentItem) :
    cleanupCandidate now (db, result) item =
      (archiveAll db now result.dryRun [item], result.report db [item]) := by
  cases hconflicted : isConflicted item with
  | true =>
      have htier : item.tier = some .conflicted := by simpa [isConflicted] using hconflicted
      simp [cleanupCandidate, archiveAll, CleanupResult.report, isArchivable, isAwaiting,
        hconflicted, htier]
  | false =>
      have htier : item.tier ≠ some .conflicted := by simpa [isConflicted] using hconflicted
      by_cases hpending : hasPendingEscalation db item.contentId = true
      · simp [cleanupCandidate, archiveAll, CleanupResult.report, isArchivable, isAwaiting,
          hconflicted, htier, hpending]
      · by_cases hprotected : isProtected db item = true
        · have hskip : (inHub db item.contentId || inDecision db item.contentId) = true :=
            hprotected
          simp [cleanupCandidate, archiveAll, CleanupResult.report, isArchivable, isAwaiting,
            hconflicted, htier, hpending, hprotected, hskip]
        · have hskip : ¬ (inHub db item.contentId || inDecision db item.contentId) = true :=
            hprotected
          simp [cleanupCandidate, archiveAll, CleanupResult.report, isArchivable, isAwaiting,
            hconflicted, htier, hpending, hprotected, hskip]

theorem sameGuards_archiveAll (db : Database) (now : Timestamp) (dryRun : Bool)
    (candidates : List ContentItem) : SameGuards db (archiveAll db now dryRun candidates) := by
  have hfold : ∀ (items : List ContentItem) (next : Database), SameGuards db next →
      SameGuards db (items.foldl (fun db item => archiveContent db now item) next) := by
    intro items
    induction items with
    | nil => exact fun next h => h
    | cons item items ih =>
        intro next h
        exact ih _ ⟨h.escalations, h.hubContent, h.decisionNodes⟩
  unfold archiveAll
  cases dryRun with
  | true => exact ⟨rfl, rfl, rfl⟩
  | false => exact hfold _ db ⟨rfl, rfl, rfl⟩

theorem archiveAll_cons (db : Database) (now : Timestamp) (dryRun : Bool) (item : ContentItem)
    (candidates : List ContentItem) :
    archiveAll (archiveAll db now dryRun [item]) now dryRun candidates =
      archiveAll db now dryRun (item :: candidates) := by
  have hguards := sameGuards_archiveAll db now dryRun [item]
  cases dryRun with
  | true => rfl
  | false =>
      simp only [archiveAll, Bool.false_eq_true, if_false] at hguards ⊢
      have hcons : (item :: candidates).filter (isArchivable db) =
          [item].filter (isArchivable db) ++ candidates.filter (isArchivable db) := by
        rw [← List.filter_append]
        rfl
      rw [hguards.isArchivable_eq, hcons, List.foldl_append]

theorem report_cons (result : CleanupResult) (db : Database) (item : ContentItem)
    (candidates : List ContentItem) :
    (result.report db [item]).report db candidates = result.report db (item :: candidates) := by
  have hsplit (p : ContentItem → Bool) :
      (item :: candidates).filter p = [item].filter p ++ candidates.filter p := by
    rw [← List.filter_append]
    rfl
  simp only [CleanupResult.report, hsplit, List.length_append, List.map_append,
    List.append_assoc, Nat.add_assoc]

/-- The loop archives what was archivable when it started. -/
theorem foldl_cleanupCandidate (now : Timestamp) (candidates : List ContentItem) (db : Database)
    (result : CleanupResult) :
    candidates.foldl (cleanupCandidate now) (db, result) =
      (archiveAll db now result.dryRun candidates, result.report db candidates) := by
  induction candidates generalizing db result with
  | nil => simp [archiveAll, CleanupResult.report]
  | cons item candidates ih =>
      have hguards := sameGuards_archiveAll db now result.dryRun [item]
      have hmode : (result.report db [item]).dryRun = result.dryRun := rfl
      rw [List.foldl_cons, cleanupCandidate_eq, ih, hmode, archiveAll_cons, hguards.report_eq,
        report_cons]

/-! ## The rows it archives -/

/-- The event that the archiving of a row leaves. -/
def Records (now : Timestamp) (item : ContentItem) (event : TierTransitionEvent) : Prop :=
  ∃ db, event = archiveEvent db now item

theorem contentIds_of_records {now : Timestamp} {items : List ContentItem}
    {recorded : List TierTransitionEvent} (h : List.Forall₂ (Records now) items recorded) :
    recorded.map (·.contentId) = items.map (·.contentId) := by
  induction h with
  | nil => rfl
  | cons hrow _ ih =>
      obtain ⟨source, rfl⟩ := hrow
      rw [List.map_cons, List.map_cons, ih]
      rfl

def isAmong (items : List ContentItem) (row : ContentItem) : Bool :=
  items.any fun item => item.contentId == row.contentId

theorem isAmong_iff {items : List ContentItem} {row : ContentItem} :
    isAmong items row = true ↔ ∃ item ∈ items, item.contentId = row.contentId := by
  simp [isAmong]

/-- The rows that are left when a list of contents has been archived. -/
def Archives (db next : Database) (now : Timestamp) (items : List ContentItem) : Prop :=
  ∃ recorded, List.Forall₂ (Records now) items recorded ∧
    next = { db with
      contentItems := updateWhere (isAmong items) setArchived db.contentItems
      governanceEvents := db.governanceEvents ++ recorded }

theorem archives_nil (db : Database) (now : Timestamp) : Archives db db now [] := by
  refine ⟨[], .nil, ?_⟩
  have hitems : updateWhere (isAmong []) setArchived db.contentItems = db.contentItems :=
    updateWhere_of_forall_not fun _ _ => rfl
  rw [hitems, List.append_nil]

theorem Archives.cons {db next : Database} {now : Timestamp} {item : ContentItem}
    {items : List ContentItem} (h : Archives (archiveContent db now item) next now items) :
    Archives db next now (item :: items) := by
  obtain ⟨recorded, hrecorded, rfl⟩ := h
  refine ⟨archiveEvent db now item :: recorded, .cons ⟨db, rfl⟩ hrecorded, ?_⟩
  have hitems : updateWhere (isAmong items) setArchived
      (updateWhere (hasContentId item.contentId) setArchived db.contentItems) =
        updateWhere (isAmong (item :: items)) setArchived db.contentItems := by
    have hidem : ∀ row, setArchived (setArchived row) = setArchived row := fun _ => rfl
    have hkey : ∀ row, isAmong items (setArchived row) = isAmong items row := fun _ => rfl
    rw [updateWhere_updateWhere hidem hkey]
    refine updateWhere_congr fun row _ => ?_
    rw [isAmong, isAmong, List.any_cons, hasContentId, Bool.beq_comm]
  simp only [archiveContent, hitems, List.append_assoc, List.singleton_append]

theorem archives_foldl (now : Timestamp) (items : List ContentItem) (db : Database) :
    Archives db (items.foldl (fun db item => archiveContent db now item) db) now items := by
  induction items generalizing db with
  | nil => exact archives_nil db now
  | cons item items ih => exact (ih (archiveContent db now item)).cons

/-! ## The whole request -/

/-- The database whose rows the loop sees. -/
def afterExpiry (db : Database) (now : Timestamp) (dryRun : Bool) : Database :=
  if dryRun then db else expireEscalations db now

def candidatesOf (db : Database) (now : Timestamp) (auth : AuthContext) : List ContentItem :=
  db.contentItems.filter (isCandidate now auth.workspaceId)

/-- The report on the escalations. -/
def expiryReport (db : Database) (now : Timestamp) (dryRun : Bool) : CleanupResult :=
  { dryRun, escalationsExpired := (db.escalations.filter (isStale now)).length
    details := (db.escalations.filter (isStale now)).map fun row =>
      .escalationExpired row.escalationId }

theorem cleanupTtl_eq (db : Database) (now : Timestamp) (dryRun : Bool) (auth : AuthContext) :
    cleanupTtl db now dryRun auth =
      (archiveAll (afterExpiry db now dryRun) now dryRun (candidatesOf db now auth),
        (expiryReport db now dryRun).report (afterExpiry db now dryRun)
          (candidatesOf db now auth)) := by
  have hitems : (afterExpiry db now dryRun).contentItems = db.contentItems := by
    cases dryRun <;> rfl
  have hfold := foldl_cleanupCandidate now (candidatesOf db now auth) (afterExpiry db now dryRun)
    (expiryReport db now dryRun)
  rw [candidatesOf, ← hitems] at hfold
  rw [candidatesOf, ← hitems]
  exact hfold

end MemoryLab.TierOperations

import MemoryLab.Verification.Tiers.Cleanup

/-! # Tier operations and workspaces

The cleanup filters the contents by workspace but not the escalations; the override and the
rollback find their content by its identifier alone. -/

namespace MemoryLab.TierOperations

open Library Library.Rows TransitionMatrix

def ownsItem (workspaceId : WorkspaceId) (item : ContentItem) : Bool :=
  item.workspaceId == some workspaceId

def ownsEscalation (workspaceId : WorkspaceId) (row : Escalation) : Bool :=
  row.workspaceId == workspaceId

/-! ## Cleanup -/

/-- Old and on a tier that the cleanup looks at, in whatever workspace. -/
def isAged (now : Timestamp) (item : ContentItem) : Bool :=
  (item.tier == some .transient || item.tier == some .conflicted) &&
    decide (item.createdAt + 7 * day < now)

theorem isCandidate_eq (now : Timestamp) (workspaceId : WorkspaceId) (item : ContentItem) :
    isCandidate now workspaceId item = (isAged now item && ownsItem workspaceId item) :=
  rfl

/-- The number of rows of a kind that a workspace has. -/
def countOwned (db : Database) (workspaceId : WorkspaceId) (kind : ContentItem → Bool) : ℕ :=
  ((db.contentItems.filter kind).filter (ownsItem workspaceId)).length

def listsOwned (db : Database) (workspaceId : WorkspaceId) : CleanupDetail → Prop
  | .escalationExpired escalationId =>
      ∃ row ∈ db.escalations, row.escalationId = escalationId ∧ ownsEscalation workspaceId row
  | .contentArchived contentId =>
      ∃ item ∈ db.contentItems, item.contentId = contentId ∧ ownsItem workspaceId item

/-- The request changes, lists and counts rows of one workspace. -/
structure CleanupConfined (db : Database) (now : Timestamp) (dryRun : Bool)
    (workspaceId : WorkspaceId) (next : Database) (result : CleanupResult) : Prop where
  contentItems : List.Forall₂ (fun old new => new = old ∨ ownsItem workspaceId old)
    db.contentItems next.contentItems
  escalations : List.Forall₂ (fun old new => new = old ∨ ownsEscalation workspaceId old)
    db.escalations next.escalations
  events : ∃ recorded, next.governanceEvents = db.governanceEvents ++ recorded ∧
    ∀ event ∈ recorded, event.workspaceId = some workspaceId ∧
      ∃ item ∈ db.contentItems, item.contentId = event.contentId ∧ ownsItem workspaceId item
  rest : next = { db with
    contentItems := next.contentItems
    escalations := next.escalations
    governanceEvents := next.governanceEvents }
  lists : ∀ detail ∈ result.details, listsOwned db workspaceId detail
  expired : result.escalationsExpired =
    ((db.escalations.filter (isStale now)).filter (ownsEscalation workspaceId)).length
  conflicted : result.skippedConflicted =
    countOwned db workspaceId fun item => isAged now item && isConflicted item
  awaiting : result.skippedPendingEscalation =
    countOwned db workspaceId fun item =>
      isAged now item && isAwaiting (afterExpiry db now dryRun) item
  archived : result.contentArchived =
    countOwned db workspaceId fun item =>
      isAged now item && isArchivable (afterExpiry db now dryRun) item

theorem length_filter_candidatesOf (db : Database) (now : Timestamp) (auth : AuthContext)
    (kind : ContentItem → Bool) :
    ((candidatesOf db now auth).filter kind).length =
      countOwned db auth.workspaceId fun item => isAged now item && kind item := by
  rw [countOwned, candidatesOf, List.filter_filter, List.filter_filter]
  congr 1
  refine List.filter_congr fun item _ => ?_
  rw [isCandidate_eq]
  cases isAged now item <;> cases ownsItem auth.workspaceId item <;> simp

theorem mem_candidatesOf {db : Database} {now : Timestamp} {auth : AuthContext}
    {item : ContentItem} (h : item ∈ candidatesOf db now auth) :
    item ∈ db.contentItems ∧ ownsItem auth.workspaceId item = true := by
  obtain ⟨hmem, hcandidate⟩ := List.mem_filter.mp h
  rw [isCandidate_eq, Bool.and_eq_true] at hcandidate
  exact ⟨hmem, hcandidate.2⟩

/-- The rows that a request for real leaves: what the dry run and the expiry left, and the
archived contents. -/
theorem archiveAll_archives (db : Database) (now : Timestamp) (auth : AuthContext) :
    Archives (expireEscalations db now) (cleanupTtl db now false auth).1 now
      ((candidatesOf db now auth).filter (isArchivable (expireEscalations db now))) := by
  rw [cleanupTtl_eq]
  exact archives_foldl now _ _

theorem isAmong_owned {db : Database} (hkeys : db.contentIds.Nodup) {now : Timestamp}
    {auth : AuthContext} {kind : ContentItem → Bool} {row : ContentItem}
    (hrow : row ∈ db.contentItems)
    (h : isAmong ((candidatesOf db now auth).filter kind) row = true) :
    row ∈ (candidatesOf db now auth).filter kind := by
  obtain ⟨item, hitem, hid⟩ := isAmong_iff.mp h
  obtain ⟨hcandidate, -⟩ := List.mem_filter.mp hitem
  obtain rfl := List.inj_on_of_nodup_map hkeys (mem_candidatesOf hcandidate).1 hrow hid
  exact hitem

theorem afterExpiry_expired (db : Database) (now : Timestamp) (dryRun : Bool)
    {workspaceId : WorkspaceId}
    (h : ∀ row ∈ db.escalations, isStale now row = true → row.workspaceId = workspaceId) :
    List.Forall₂ (fun old new => new = old ∨ ownsEscalation workspaceId old) db.escalations
      (afterExpiry db now dryRun).escalations := by
  cases dryRun with
  | true => exact List.forall₂_same.mpr fun row _ => .inl rfl
  | false =>
      refine forall₂_updateWhere (fun row => .inl rfl) fun row hrow hstale => .inr ?_
      simpa [ownsEscalation] using h row hrow hstale

theorem records_owned {db : Database} {now : Timestamp} {auth : AuthContext}
    {kind : ContentItem → Bool} {recorded : List TierTransitionEvent}
    (h : List.Forall₂ (Records now) ((candidatesOf db now auth).filter kind) recorded)
    {event : TierTransitionEvent} (hevent : event ∈ recorded) :
    event.workspaceId = some auth.workspaceId ∧
      ∃ item ∈ db.contentItems, item.contentId = event.contentId ∧
        ownsItem auth.workspaceId item := by
  obtain ⟨item, hitem, source, rfl⟩ := Forall₂.exists_of_mem h hevent
  obtain ⟨hmem, howned⟩ := mem_candidatesOf (List.mem_filter.mp hitem).1
  have hworkspace : item.workspaceId = some auth.workspaceId := by simpa [ownsItem] using howned
  exact ⟨hworkspace, item, hmem, rfl, howned⟩

theorem cleanup_lists_owned {db : Database} {now : Timestamp} {auth : AuthContext}
    (h : ∀ row ∈ db.escalations, isStale now row = true → row.workspaceId = auth.workspaceId)
    (dryRun : Bool) :
    ∀ detail ∈ (cleanupTtl db now dryRun auth).2.details,
      listsOwned db auth.workspaceId detail := by
  intro detail hdetail
  rw [cleanupTtl_eq] at hdetail
  rcases List.mem_append.mp hdetail with hexpired | harchived
  · obtain ⟨row, hrow, rfl⟩ := List.mem_map.mp hexpired
    obtain ⟨hmem, hstale⟩ := List.mem_filter.mp hrow
    exact ⟨row, hmem, rfl, by simpa [ownsEscalation] using h row hmem hstale⟩
  · obtain ⟨item, hitem, rfl⟩ := List.mem_map.mp harchived
    obtain ⟨hmem, howned⟩ := mem_candidatesOf (List.mem_filter.mp hitem).1
    exact ⟨item, hmem, rfl, howned⟩

/-- A cleanup stays within its workspace exactly when no other workspace has an escalation that
is due to expire. -/
theorem cleanup_confined_iff {db : Database} (hkeys : db.contentIds.Nodup) (now : Timestamp)
    (dryRun : Bool) (auth : AuthContext) :
    CleanupConfined db now dryRun auth.workspaceId (cleanupTtl db now dryRun auth).1
        (cleanupTtl db now dryRun auth).2 ↔
      ∀ row ∈ db.escalations, isStale now row = true → row.workspaceId = auth.workspaceId := by
  constructor
  · intro h row hrow hstale
    have hcount : ((db.escalations.filter (isStale now)).filter
        (ownsEscalation auth.workspaceId)).length =
          (db.escalations.filter (isStale now)).length := by
      rw [← h.expired, cleanupTtl_eq]
      rfl
    have hall := List.length_filter_eq_length_iff.mp hcount row
      (List.mem_filter.mpr ⟨hrow, hstale⟩)
    simpa [ownsEscalation] using hall
  · intro h
    have hreport := cleanupTtl_eq db now dryRun auth
    have hlists := cleanup_lists_owned h dryRun
    have hescalations := afterExpiry_expired db now dryRun h
    have hexpired : (cleanupTtl db now dryRun auth).2.escalationsExpired =
        ((db.escalations.filter (isStale now)).filter
          (ownsEscalation auth.workspaceId)).length := by
      rw [hreport]
      refine (List.length_filter_eq_length_iff.mpr fun row hrow => ?_).symm
      obtain ⟨hmem, hstale⟩ := List.mem_filter.mp hrow
      simpa [ownsEscalation] using h row hmem hstale
    have hcounts (kind : ContentItem → Bool) :
        0 + ((candidatesOf db now auth).filter kind).length =
          countOwned db auth.workspaceId fun item => isAged now item && kind item := by
      rw [Nat.zero_add, length_filter_candidatesOf]
    cases dryRun with
    | true =>
        have hsame : (cleanupTtl db now true auth).1 = db := by
          rw [hreport]
          rfl
        refine ⟨?_, ?_, ⟨[], ?_, fun _ hevent => nomatch hevent⟩, ?_, hlists, hexpired, ?_, ?_, ?_⟩
        · rw [hsame]
          exact List.forall₂_same.mpr fun item _ => .inl rfl
        · rw [hsame]
          exact hescalations
        · rw [hsame, List.append_nil]
        · rw [hsame]
        all_goals
          rw [hreport]
          exact hcounts _
    | false =>
        obtain ⟨recorded, hrecorded, hnext⟩ := archiveAll_archives db now auth
        refine ⟨?_, ?_, ⟨recorded, ?_, fun event hevent => records_owned hrecorded hevent⟩, ?_,
          hlists, hexpired, ?_, ?_, ?_⟩
        · rw [hnext]
          refine forall₂_updateWhere (fun item => .inl rfl) fun item hitem hamong => .inr ?_
          exact (mem_candidatesOf (List.mem_filter.mp (isAmong_owned hkeys hitem hamong)).1).2
        · rw [hnext]
          exact hescalations
        · rw [hnext]
          rfl
        · rw [hnext]
          rfl
        all_goals
          rw [hreport]
          exact hcounts _

def escalationOf (escalationId : EscalationId) (workspaceId : WorkspaceId) (contentId : ContentId)
    (expiresAt : Timestamp) : Escalation :=
  { escalationId, workspaceId, contentId := some contentId, conflictContentId := none,
    conflictType := "direct_contradiction", severity := .warning, conflictSummary := none,
    status := .pending, expiresAt }

/-- Another workspace's escalation has not expired yet. -/
theorem cleanup_confined_launch :
    let auth : AuthContext := ⟨"owner".toList, 1⟩
    let db : Database :=
      { contentItems := [{ contentId := 1, workspaceId := some 1, tier := some .transient },
          { contentId := 2, workspaceId := some 2, tier := some .transient }]
        escalations := [escalationOf 1 1 1 (5 * day), escalationOf 2 2 2 (30 * day)] }
    CleanupConfined db (20 * day) false 1 (cleanupTtl db (20 * day) false auth).1
      (cleanupTtl db (20 * day) false auth).2 := by
  intro auth db
  exact (cleanup_confined_iff (by decide) (20 * day) false auth).mpr (by decide +kernel)

/-- Another workspace's escalation expires with the caller's. -/
theorem not_cleanup_confined_expired :
    let auth : AuthContext := ⟨"owner".toList, 1⟩
    let db : Database :=
      { contentItems := [{ contentId := 2, workspaceId := some 2, tier := some .transient }]
        escalations := [escalationOf 2 2 2 (5 * day)] }
    ¬ CleanupConfined db (20 * day) false 1 (cleanupTtl db (20 * day) false auth).1
      (cleanupTtl db (20 * day) false auth).2 := by
  intro auth db h
  have hcount : (cleanupTtl db (20 * day) false auth).2.escalationsExpired = 0 := h.expired
  revert hcount
  decide +kernel

/-! ## Override and rollback -/

inductive TierRequest where
  | override (contentId : ContentId) (overrideAction : OverrideAction)
      (overrideBy overrideReason : Text)
  | rollback (contentId : ContentId) (rollbackBy rollbackReason : Text)
deriving DecidableEq

def TierRequest.contentId : TierRequest → ContentId
  | override contentId .. => contentId
  | rollback contentId .. => contentId

inductive TierResponse where
  | override (response : TierOverrideResponse)
  | rollback (response : TierRollbackResponse)
deriving DecidableEq

def serveTier (db : Database) (now : Timestamp) (auth : AuthContext) :
    TierRequest → Except OperationError (Database × TierResponse)
  | .override contentId overrideAction overrideBy overrideReason =>
    (tierOverride db now contentId overrideAction overrideBy overrideReason auth).map
      fun outcome => (outcome.1, .override outcome.2)
  | .rollback contentId rollbackBy rollbackReason =>
    (tierRollback db now contentId rollbackBy rollbackReason auth).map
      fun outcome => (outcome.1, .rollback outcome.2)

/-- A response without the identifier drawn for its event. -/
def TierResponse.withoutEventId : TierResponse → TierResponse
  | override response => .override { response with governanceEventId := 0 }
  | rollback response => .rollback { response with governanceEventId := 0 }

/-- What the caller is told. -/
def answer (outcome : Except OperationError (Database × TierResponse)) :
    Except OperationError TierResponse :=
  outcome.map fun outcome => outcome.2.withoutEventId

/-- An event is the workspace's that recorded it, and the workspace's whose content it is about. -/
def ownsEvent (workspaceId : WorkspaceId) (items : List ContentItem)
    (event : TierTransitionEvent) : Bool :=
  event.workspaceId == some workspaceId ||
    items.any fun item => ownsItem workspaceId item && item.contentId == event.contentId

/-- The contents of a workspace and their tier events. -/
def ownRows (db : Database) (workspaceId : WorkspaceId) :
    List ContentItem × List TierTransitionEvent :=
  (db.contentItems.filter (ownsItem workspaceId),
    db.governanceEvents.filter (ownsEvent workspaceId db.contentItems))

/-- The rows of every other workspace. -/
def otherRows (db : Database) (workspaceId : WorkspaceId) : Database :=
  { db with
    contentItems := db.contentItems.filter fun item => !ownsItem workspaceId item
    governanceEvents := db.governanceEvents.filter fun event =>
      !ownsEvent workspaceId db.contentItems event }

def Targets (db : Database) (workspaceId : WorkspaceId) (contentId : ContentId) : Prop :=
  ∃ item ∈ db.contentItems, item.contentId = contentId ∧ item.workspaceId = some workspaceId

/-- A request fails or acts on the caller's content alone, and is answered from the caller's
rows alone. -/
structure Confined (db : Database) (now : Timestamp) (auth : AuthContext)
    (request : TierRequest) : Prop where
  acts : ∀ next response, serveTier db now auth request = .ok (next, response) →
    Targets db auth.workspaceId request.contentId ∧
      otherRows next auth.workspaceId = otherRows db auth.workspaceId
  blind : ∀ other : Database, other.contentIds.Nodup →
    ownRows other auth.workspaceId = ownRows db auth.workspaceId →
      answer (serveTier other now auth request) = answer (serveTier db now auth request)

/-! ### What a response is made of -/

theorem answer_override_congr {db other : Database} {contentId : ContentId}
    (htier : fetchContentTier other contentId = fetchContentTier db contentId) (now : Timestamp)
    (auth : AuthContext) (overrideAction : OverrideAction) (overrideBy overrideReason : Text) :
    answer (serveTier other now auth
        (.override contentId overrideAction overrideBy overrideReason)) =
      answer (serveTier db now auth
        (.override contentId overrideAction overrideBy overrideReason)) := by
  have hdiscard : overrideTierMap overrideAction ≠ .discard := by cases overrideAction <;> decide
  simp only [serveTier, tierOverride, htier]
  cases fetchContentTier db contentId with
  | none => rfl
  | some previousTier =>
      dsimp only
      cases validateTransition (some previousTier) (overrideTierMap overrideAction)
          .humanOverride with
      | error error => rfl
      | ok valid =>
          simp only [updateContentTier, hdiscard, if_false, emitEvent]
          generalize storable _ = stored
          cases stored <;> rfl

theorem answer_rollback_congr {db other : Database} {contentId : ContentId}
    (htier : fetchContentTier other contentId = fetchContentTier db contentId)
    (hlatest : latestEvent other contentId = latestEvent db contentId) (now : Timestamp)
    (auth : AuthContext) (rollbackBy rollbackReason : Text) :
    answer (serveTier other now auth (.rollback contentId rollbackBy rollbackReason)) =
      answer (serveTier db now auth (.rollback contentId rollbackBy rollbackReason)) := by
  simp only [serveTier, tierRollback, htier, hlatest]
  cases fetchContentTier db contentId with
  | none => rfl
  | some currentTier =>
      cases latestEvent db contentId with
      | none => rfl
      | some latest =>
          dsimp only
          split
          · rfl
          · cases latest.previousTier with
            | none => rfl
            | some priorTier =>
                dsimp only
                split
                · rfl
                · by_cases hdiscard : priorTier = .discard
                  · simp only [updateContentTier, hdiscard, if_true]
                  · simp only [updateContentTier, hdiscard, if_false, emitEvent]
                    generalize storable _ = stored
                    cases stored <;> rfl

/-- A request finds no content exactly when it answers so. -/
theorem answer_eq_notFound_iff (db : Database) (now : Timestamp) (auth : AuthContext)
    (request : TierRequest) :
    answer (serveTier db now auth request) = .error (notFound request.contentId) ↔
      fetchContentTier db request.contentId = none := by
  cases request with
  | override contentId overrideAction overrideBy overrideReason =>
      have hdiscard : overrideTierMap overrideAction ≠ .discard := by
        cases overrideAction <;> decide
      simp only [serveTier, tierOverride, TierRequest.contentId, notFound]
      cases fetchContentTier db contentId with
      | none => simp [answer, Except.map]
      | some previousTier =>
          simp only [reduceCtorEq, iff_false]
          cases validateTransition (some previousTier) (overrideTierMap overrideAction)
              .humanOverride with
          | error error => simp [answer, Except.map]
          | ok valid =>
              simp only [updateContentTier, hdiscard, if_false, emitEvent]
              generalize storable _ = stored
              cases stored <;> simp [answer, Except.map]
  | rollback contentId rollbackBy rollbackReason =>
      simp only [serveTier, tierRollback, TierRequest.contentId, notFound]
      cases fetchContentTier db contentId with
      | none => simp [answer, Except.map]
      | some currentTier =>
          simp only [reduceCtorEq, iff_false]
          cases latestEvent db contentId with
          | none => simp [answer, Except.map]
          | some latest =>
              dsimp only
              split
              · simp [answer, Except.map]
              · cases latest.previousTier with
                | none => simp [answer, Except.map]
                | some priorTier =>
                    dsimp only
                    split
                    · simp [answer, Except.map]
                    · by_cases hdiscard : priorTier = .discard
                      · simp [updateContentTier, hdiscard, answer, Except.map]
                      · simp only [updateContentTier, hdiscard, if_false, emitEvent]
                        generalize storable _ = stored
                        cases stored <;> simp [answer, Except.map]

/-! ### What a request changes -/

/-- One content is written and one event of the caller's is added. -/
def WritesTier (db next : Database) (now : Timestamp) (auth : AuthContext)
    (contentId : ContentId) : Prop :=
  ∃ newTier tierReason event, event.workspaceId = some auth.workspaceId ∧
    next = { db with
      contentItems := updateWhere (hasContentId contentId) (assignTier newTier tierReason now)
        db.contentItems
      governanceEvents := db.governanceEvents ++ [event] }

theorem writesTier_of_emitEvent {db updated next : Database} {now : Timestamp}
    {auth : AuthContext} {contentId : ContentId} {newTier : Tier} {tierReason : Text}
    {event : EventId → TierTransitionEvent} {emitted : TierTransitionEvent}
    (hupdate : updateContentTier db contentId newTier tierReason now = .ok updated)
    (hemit : emitEvent updated event = .ok (next, emitted))
    (hevent : ∀ eventId, (event eventId).workspaceId = some auth.workspaceId) :
    WritesTier db next now auth contentId := by
  unfold updateContentTier at hupdate
  split at hupdate
  · cases hupdate
  · cases hupdate
    unfold emitEvent at hemit
    dsimp only at hemit
    split at hemit
    · cases hemit
    · cases hemit
      exact ⟨newTier, tierReason, _, hevent _, rfl⟩

theorem serveTier_effect {db next : Database} {now : Timestamp} {auth : AuthContext}
    {request : TierRequest} {response : TierResponse}
    (h : serveTier db now auth request = .ok (next, response)) :
    WritesTier db next now auth request.contentId := by
  cases request with
  | override contentId overrideAction overrideBy overrideReason =>
      simp only [serveTier, tierOverride] at h
      cases hfetch : fetchContentTier db contentId with
      | none => simp [hfetch, Except.map] at h
      | some previousTier =>
          simp only [hfetch] at h
          split at h
          · simp [Except.map] at h
          · split at h
            · simp [Except.map] at h
            · rename_i hupdate
              split at h
              · simp [Except.map] at h
              · rename_i hemit
                cases h
                exact writesTier_of_emitEvent hupdate hemit fun _ => rfl
  | rollback contentId rollbackBy rollbackReason =>
      simp only [serveTier, tierRollback] at h
      cases hfetch : fetchContentTier db contentId with
      | none => simp [hfetch, Except.map] at h
      | some currentTier =>
          simp only [hfetch] at h
          split at h
          · simp [Except.map] at h
          · split at h
            · simp [Except.map] at h
            · split at h
              · simp [Except.map] at h
              · split at h
                · simp [Except.map] at h
                · split at h
                  · simp [Except.map] at h
                  · rename_i hupdate
                    split at h
                    · simp [Except.map] at h
                    · rename_i hemit
                      cases h
                      exact writesTier_of_emitEvent hupdate hemit fun _ => rfl

theorem ownsEvent_updateWhere {workspaceId : WorkspaceId} {p : ContentItem → Bool}
    {f : ContentItem → ContentItem}
    (hf : ∀ item, (f item).workspaceId = item.workspaceId ∧ (f item).contentId = item.contentId)
    (items : List ContentItem) :
    ownsEvent workspaceId (updateWhere p f items) = ownsEvent workspaceId items := by
  funext event
  rw [ownsEvent, ownsEvent, updateWhere, List.any_map]
  congr 2
  funext item
  by_cases hp : p item = true <;> simp [hp, ownsItem, hf]

theorem target_unique {db : Database} (hkeys : db.contentIds.Nodup) {workspaceId : WorkspaceId}
    {contentId : ContentId} (h : Targets db workspaceId contentId) {item : ContentItem}
    (hitem : item ∈ db.contentItems) (hid : item.contentId = contentId) :
    item.workspaceId = some workspaceId := by
  obtain ⟨target, htarget, htargetId, hworkspace⟩ := h
  have hsame : item = target :=
    List.inj_on_of_nodup_map hkeys hitem htarget (hid.trans htargetId.symm)
  rw [hsame, hworkspace]

theorem WritesTier.otherRows_eq {db next : Database} (hkeys : db.contentIds.Nodup)
    {now : Timestamp} {auth : AuthContext} {contentId : ContentId}
    (h : WritesTier db next now auth contentId)
    (htarget : Targets db auth.workspaceId contentId) :
    otherRows next auth.workspaceId = otherRows db auth.workspaceId := by
  obtain ⟨newTier, tierReason, event, hworkspace, rfl⟩ := h
  have hitems : (updateWhere (hasContentId contentId) (assignTier newTier tierReason now)
      db.contentItems).filter (fun item => !ownsItem auth.workspaceId item) =
        db.contentItems.filter fun item => !ownsItem auth.workspaceId item := by
    refine filter_updateWhere fun item hitem hmatch => ?_
    have hid : item.contentId = contentId := by simpa [hasContentId] using hmatch
    have howned := target_unique hkeys htarget hitem hid
    simp [ownsItem, assignTier, howned]
  have hevents : (db.governanceEvents ++ [event]).filter
      (fun event => !ownsEvent auth.workspaceId db.contentItems event) =
        db.governanceEvents.filter
          fun event => !ownsEvent auth.workspaceId db.contentItems event := by
    rw [List.filter_append]
    simp [ownsEvent, hworkspace]
  have howns : ownsEvent auth.workspaceId (updateWhere (hasContentId contentId)
      (assignTier newTier tierReason now) db.contentItems) =
        ownsEvent auth.workspaceId db.contentItems := by
    refine ownsEvent_updateWhere (fun item => ?_) db.contentItems
    exact ⟨rfl, rfl⟩
  simp only [otherRows, hitems, howns, hevents]

/-! ### What a request reads -/

theorem fetchContentTier_of_mem {db : Database} (hkeys : db.contentIds.Nodup)
    {contentId : ContentId} {item : ContentItem} (hitem : item ∈ db.contentItems)
    (hid : item.contentId = contentId) : fetchContentTier db contentId = item.tier := by
  rw [← hid]
  exact fetchContentTier_eq hkeys hitem

theorem latestEvent_of_ownRows {db other : Database} {workspaceId : WorkspaceId}
    {contentId : ContentId} (hrows : ownRows other workspaceId = ownRows db workspaceId)
    (htarget : Targets db workspaceId contentId) (htarget' : Targets other workspaceId contentId) :
    latestEvent other contentId = latestEvent db contentId := by
  have hfilter : ∀ state : Database, Targets state workspaceId contentId →
      state.governanceEvents.filter (fun event => event.contentId == contentId) =
        (ownRows state workspaceId).2.filter fun event => event.contentId == contentId := by
    intro state hstate
    obtain ⟨item, hitem, hid, hworkspace⟩ := hstate
    rw [ownRows, List.filter_filter]
    refine List.filter_congr fun event _ => ?_
    by_cases hevent : event.contentId = contentId
    · have howned : ownsEvent workspaceId state.contentItems event = true := by
        rw [ownsEvent, Bool.or_eq_true, List.any_eq_true]
        exact .inr ⟨item, hitem, by simp [ownsItem, hworkspace, hid, hevent]⟩
      simp [hevent, howned]
    · simp [hevent]
  rw [latestEvent, latestEvent, hfilter other htarget', hfilter db htarget, hrows]

theorem answer_of_ownRows {db other : Database} (hkeys : db.contentIds.Nodup)
    (hkeys' : other.contentIds.Nodup) {auth : AuthContext} {request : TierRequest}
    (hrows : ownRows other auth.workspaceId = ownRows db auth.workspaceId)
    (htarget : Targets db auth.workspaceId request.contentId) (now : Timestamp) :
    answer (serveTier other now auth request) = answer (serveTier db now auth request) := by
  obtain ⟨item, hitem, hid, hworkspace⟩ := htarget
  have hown : item ∈ db.contentItems.filter (ownsItem auth.workspaceId) :=
    List.mem_filter.mpr ⟨hitem, by simp [ownsItem, hworkspace]⟩
  have hitem' : item ∈ other.contentItems := by
    have hitems : other.contentItems.filter (ownsItem auth.workspaceId) =
        db.contentItems.filter (ownsItem auth.workspaceId) := (Prod.mk.inj hrows).1
    rw [← hitems] at hown
    exact (List.mem_filter.mp hown).1
  have htier : fetchContentTier other request.contentId =
      fetchContentTier db request.contentId := by
    rw [fetchContentTier_of_mem hkeys' hitem' hid, fetchContentTier_of_mem hkeys hitem hid]
  have hlatest := latestEvent_of_ownRows hrows ⟨item, hitem, hid, hworkspace⟩
    ⟨item, hitem', hid, hworkspace⟩
  cases request with
  | override contentId overrideAction overrideBy overrideReason =>
      exact answer_override_congr htier now auth overrideAction overrideBy overrideReason
  | rollback contentId rollbackBy rollbackReason =>
      exact answer_rollback_congr htier hlatest now auth rollbackBy rollbackReason

/-- The tier of every row of a content is replaced. -/
def withTier (db : Database) (contentId : ContentId) (tier : Option Tier) : Database :=
  { db with
    contentItems := updateWhere (hasContentId contentId) (fun item => { item with tier })
      db.contentItems }

theorem withTier_ownRows {db : Database} {workspaceId : WorkspaceId} {contentId : ContentId}
    (h : ∀ item ∈ db.contentItems, item.contentId = contentId →
      item.workspaceId ≠ some workspaceId) (tier : Option Tier) :
    ownRows (withTier db contentId tier) workspaceId = ownRows db workspaceId := by
  have hitems : (withTier db contentId tier).contentItems.filter (ownsItem workspaceId) =
      db.contentItems.filter (ownsItem workspaceId) := by
    refine filter_updateWhere fun item hitem hmatch => ?_
    have hforeign := h item hitem (by simpa [hasContentId] using hmatch)
    exact ⟨by simpa [ownsItem] using hforeign, by simpa [ownsItem] using hforeign⟩
  have howns : ownsEvent workspaceId (withTier db contentId tier).contentItems =
      ownsEvent workspaceId db.contentItems := by
    refine ownsEvent_updateWhere (fun item => ?_) db.contentItems
    exact ⟨rfl, rfl⟩
  rw [ownRows, ownRows, hitems, howns]
  rfl

theorem withTier_nodup {db : Database} (hkeys : db.contentIds.Nodup) (contentId : ContentId)
    (tier : Option Tier) : (withTier db contentId tier).contentIds.Nodup := by
  have hids : (withTier db contentId tier).contentIds = db.contentIds :=
    map_updateWhere ContentItem.contentId (by intro _; rfl) _
  rw [hids]
  exact hkeys

theorem fetchContentTier_withTier {db : Database} (hkeys : db.contentIds.Nodup)
    {contentId : ContentId} {item : ContentItem} (hitem : item ∈ db.contentItems)
    (hid : item.contentId = contentId) (tier : Option Tier) :
    fetchContentTier (withTier db contentId tier) contentId = tier := by
  have hmem : { item with tier } ∈ (withTier db contentId tier).contentItems :=
    mem_updateWhere.mpr ⟨item, hitem, .inl ⟨by simp [hasContentId, hid], rfl⟩⟩
  exact fetchContentTier_of_mem (withTier_nodup hkeys contentId tier) hmem hid

/-- The same database with a content of another workspace. -/
def withForeign (db : Database) (workspaceId : WorkspaceId) (contentId : ContentId) : Database :=
  { db with
    contentItems := db.contentItems ++
      [{ contentId, workspaceId := some (workspaceId + 1), tier := some .transient }] }

theorem withForeign_ownRows (db : Database) (workspaceId : WorkspaceId) (contentId : ContentId) :
    ownRows (withForeign db workspaceId contentId) workspaceId = ownRows db workspaceId := by
  have howns : ownsEvent workspaceId (withForeign db workspaceId contentId).contentItems =
      ownsEvent workspaceId db.contentItems := by
    have hforeign : (workspaceId + 1 == workspaceId) = false := by simp
    funext event
    simp [ownsEvent, withForeign, ownsItem, hforeign]
  rw [ownRows, ownRows, howns]
  simp [withForeign, ownsItem]

theorem fetchContentTier_eq_none_of_forall {db : Database} {contentId : ContentId}
    (h : ∀ item ∈ db.contentItems, item.contentId ≠ contentId) :
    fetchContentTier db contentId = none := by
  have hfind : db.contentItems.find? (hasContentId contentId) = none :=
    List.find?_eq_none.mpr fun item hitem => by simpa [hasContentId] using h item hitem
  rw [fetchContentTier, hfind]
  rfl

/-- Another state with the same own rows has a tier for the content exactly when this one has
none. -/
theorem exists_distinguishing {db : Database} (hkeys : db.contentIds.Nodup)
    {workspaceId : WorkspaceId} {contentId : ContentId}
    (h : ¬ Targets db workspaceId contentId) :
    ∃ other : Database, other.contentIds.Nodup ∧
      ownRows other workspaceId = ownRows db workspaceId ∧
      (fetchContentTier other contentId = none ↔ fetchContentTier db contentId ≠ none) := by
  have hforeign : ∀ item ∈ db.contentItems, item.contentId = contentId →
      item.workspaceId ≠ some workspaceId :=
    fun item hitem hid hworkspace => h ⟨item, hitem, hid, hworkspace⟩
  by_cases hmem : ∃ item ∈ db.contentItems, item.contentId = contentId
  · obtain ⟨item, hitem, hid⟩ := hmem
    have htier := fetchContentTier_withTier hkeys hitem hid
    by_cases hnone : fetchContentTier db contentId = none
    · refine ⟨withTier db contentId (some .transient), withTier_nodup hkeys ..,
        withTier_ownRows hforeign _, ?_⟩
      simp [htier, hnone]
    · refine ⟨withTier db contentId none, withTier_nodup hkeys .., withTier_ownRows hforeign _, ?_⟩
      simp [htier, hnone]
  · have habsent : ∀ item ∈ db.contentItems, item.contentId ≠ contentId :=
      fun item hitem hid => hmem ⟨item, hitem, hid⟩
    refine ⟨withForeign db workspaceId contentId, ?_, withForeign_ownRows .., ?_⟩
    · simp only [Database.contentIds, withForeign, List.map_append, List.map_cons, List.map_nil]
      refine List.Nodup.append hkeys (List.nodup_singleton _) ?_
      simpa [List.disjoint_singleton] using fun item hitem => habsent item hitem
    · rw [fetchContentTier_eq_none_of_forall habsent]
      have hfind : db.contentItems.find? (hasContentId contentId) = none :=
        List.find?_eq_none.mpr fun item hitem => by simpa [hasContentId] using habsent item hitem
      simp [fetchContentTier, withForeign, List.find?_append, hfind, hasContentId]

example : ¬ Targets { contentItems := [{ contentId := 2, workspaceId := some 2 }] } 1 2 := by
  unfold Targets
  decide +kernel

/-- An override or a rollback stays within the caller's workspace exactly when it names a content
of that workspace. -/
theorem confined_iff {db : Database} (hkeys : db.contentIds.Nodup) (now : Timestamp)
    (auth : AuthContext) (request : TierRequest) :
    Confined db now auth request ↔ Targets db auth.workspaceId request.contentId := by
  constructor
  · intro h
    by_contra htarget
    obtain ⟨other, hkeys', hrows, htier⟩ := exists_distinguishing hkeys htarget
    have hanswer := h.blind other hkeys' hrows
    have hsame := answer_eq_notFound_iff other now auth request
    rw [hanswer, answer_eq_notFound_iff, htier] at hsame
    tauto
  · intro htarget
    refine ⟨fun next response hserve => ⟨htarget, ?_⟩, fun other hkeys' hrows => ?_⟩
    · exact (serveTier_effect hserve).otherRows_eq hkeys htarget
    · exact answer_of_ownRows hkeys hkeys' hrows htarget now

theorem confined_launch :
    let auth : AuthContext := ⟨"owner".toList, 1⟩
    let db : Database :=
      { contentItems := [{ contentId := 1, workspaceId := some 1, tier := some .persistent },
          { contentId := 2, workspaceId := some 2, tier := some .persistent }] }
    Confined db 20 auth (.override 1 .forceDiscard "owner".toList "stale".toList) := by
  intro auth db
  exact (confined_iff (by decide) 20 auth _).mpr (by unfold Targets; decide +kernel)

/-- An owner of one workspace discards a content of another. -/
theorem not_confined_foreign :
    let auth : AuthContext := ⟨"owner".toList, 1⟩
    let db : Database :=
      { contentItems := [{ contentId := 2, workspaceId := some 2, tier := some .persistent }] }
    ¬ Confined db 20 auth (.override 2 .forceDiscard "owner".toList "stale".toList) := by
  intro auth db h
  have hok : (serveTier db 20 auth
      (.override 2 .forceDiscard "owner".toList "stale".toList)).isOk = true := by decide +kernel
  cases hserve : serveTier db 20 auth
      (.override 2 .forceDiscard "owner".toList "stale".toList) with
  | error error =>
      rw [hserve] at hok
      cases hok
  | ok outcome =>
      have htarget := (h.acts outcome.1 outcome.2 hserve).1
      revert htarget
      unfold Targets
      decide +kernel

end MemoryLab.TierOperations

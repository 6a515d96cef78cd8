import MemoryLab.Library.Runs
import MemoryLab.Model.TierOperations

/-! # Terminal tiers

The override, the rollback and the cleanup ask the transition matrix or stay within it. Saving
an escalation and resolving one write their tier whatever the row holds. -/

namespace MemoryLab.TransitionMatrix

theorem validateTransition_human {previousTier : Option Tier} {newTier : Tier}
    (hterminal : isTerminal previousTier = false) (hdiscard : previousTier ≠ some .discard) :
    validateTransition previousTier newTier .humanOverride = .ok () := by
  simp [validateTransition, hterminal, hdiscard]

theorem isTerminal_of_validateTransition {previousTier : Option Tier} {newTier : Tier}
    {triggerType : TriggerType}
    (h : validateTransition previousTier newTier triggerType = .ok ()) :
    isTerminal previousTier = false := by
  unfold validateTransition at h
  split at h
  · cases h
  · split at h
    · cases h
    · rename_i hterminal
      simpa using hterminal

/-- The tiers that a system transition quarantines. -/
def quarantinable : List (Option Tier) :=
  [some .transient, some .probationary, some .persistent]

theorem validateTransition_conflicted_iff {previousTier : Option Tier} :
    validateTransition previousTier .conflicted .system = .ok () ↔
      previousTier ∈ quarantinable := by
  rcases previousTier with _ | tier
  · simp [validateTransition, humanGateTiers, isTerminal, allowedSystem, quarantinable]
  · cases tier <;>
      simp [validateTransition, humanGateTiers, isTerminal, terminalTiers, allowedSystem,
        quarantinable]

theorem validateTransition_ttl :
    validateTransition (some .transient) .archived .system = .ok () := by decide

end MemoryLab.TransitionMatrix

namespace MemoryLab.TierOperations

open Library Library.Rows Library.Runs TransitionMatrix

/-! ## Lawful steps -/

/-- The rollback of an archive that the cleanup made: the newest event of the content is the
cleanup's, and the tier it recorded comes back. -/
structure UndoesCleanup (db : Database) (operation : TierOperation) (old : ContentItem)
    (newTier : Option Tier) : Prop where
  rollback : ∃ now rollbackBy rollbackReason auth,
    operation = .rollback now old.contentId rollbackBy rollbackReason auth
  archived : old.tier = some .archived
  latest : ∃ event ∈ db.governanceEvents, event.contentId = old.contentId ∧
    (∀ other ∈ db.governanceEvents, other.contentId = old.contentId →
      other.createdAt ≤ event.createdAt) ∧
    event.newTier = .archived ∧ event.triggerSource = .cleanup ∧ event.previousTier = newTier

/-- A change that the matrix accepts for the trigger type of the event that records it. -/
structure Validated (recorded : List TierTransitionEvent) (old new : ContentItem) : Prop where
  alive : isTerminal old.tier = false
  accepted : ∃ event ∈ recorded, event.contentId = old.contentId ∧
    new.tier = some event.newTier ∧
    validateTransition old.tier event.newTier event.triggerType = .ok ()

structure LawfulRow (db : Database) (operation : TierOperation)
    (recorded : List TierTransitionEvent) (old new : ContentItem) : Prop where
  contentId : new.contentId = old.contentId
  changed : new.tier ≠ old.tier →
    UndoesCleanup db operation old new.tier ∨ Validated recorded old new

/-- Every tier that a step changes is changed lawfully. -/
def LawfulStep (db : Database) (operation : TierOperation) : Prop :=
  ∃ recorded, (tierStep db operation).governanceEvents = db.governanceEvents ++ recorded ∧
    List.Forall₂ (LawfulRow db operation recorded) db.contentItems
      (tierStep db operation).contentItems

/-! ## Conditions -/

def canQuarantine (item : ContentItem) : Prop :=
  item.tier ∈ quarantinable ∨ item.tier = some .conflicted

def canResolve (decision : Decision) (item : ContentItem) : Prop :=
  isTerminal item.tier = false ∨ item.tier = some decision.newTier

/-- An escalation that a resolution goes through with. -/
structure Resolvable (db : Database) (now : Timestamp) (escalationId : EscalationId)
    (auth : AuthContext) (row : Escalation) : Prop where
  found : fetchWorkspaceEscalation db escalationId auth.workspaceId = some row
  pending : row.status = .pending
  unexpired : ¬ row.expiresAt < now
  storable_subject : storable auth.authSubjectId = true

/-- The tier of the content allows the step, for the steps that do not look at it. -/
def Allowed (db : Database) : TierOperation → Prop
  | .saveEscalation _ plan =>
      plan.severity = .requiresReview → plan.insertError db = none →
        ∀ item ∈ db.contentItems, item.contentId = plan.contentId → canQuarantine item
  | .resolve now escalationId auth decision =>
      ∀ row, Resolvable db now escalationId auth row →
        ∀ item ∈ db.contentItems, row.contentId = some item.contentId → canResolve decision item
  | _ => True

/-! ## The effect of a step -/

def ValidTiers (db : Database) : Prop := ∀ item ∈ db.contentItems, item.tier ≠ some .discard

theorem fetchContentTier_eq {db : Database} (hnodup : db.contentIds.Nodup) {item : ContentItem}
    (hmem : item ∈ db.contentItems) : fetchContentTier db item.contentId = item.tier := by
  have hfind := find?_of_nodup hnodup hmem (p := hasContentId item.contentId)
    fun other => by simp [hasContentId]
  simp [fetchContentTier, hfind]

/-- A step that writes one tier to the row of one content and records it. -/
structure Retiers (db next : Database) (contentId : ContentId) (newTier : Tier)
    (triggerType : TriggerType) : Prop where
  items : ∃ f : ContentItem → ContentItem,
    next.contentItems = updateWhere (hasContentId contentId) f db.contentItems ∧
      ∀ row, (f row).contentId = row.contentId ∧ (f row).tier = some newTier
  events : ∃ event : TierTransitionEvent,
    next.governanceEvents = db.governanceEvents ++ [event] ∧ event.contentId = contentId ∧
      event.newTier = newTier ∧ event.triggerType = triggerType
  ne_discard : newTier ≠ .discard

/-- A step that leaves the tiers and the events alone. -/
structure KeepsTiers (db next : Database) : Prop where
  items : List.Forall₂ (fun old new => new.contentId = old.contentId ∧ new.tier = old.tier)
    db.contentItems next.contentItems
  events : next.governanceEvents = db.governanceEvents

theorem KeepsTiers.refl (db : Database) : KeepsTiers db db :=
  ⟨List.forall₂_same.mpr fun _ _ => ⟨rfl, rfl⟩, rfl⟩

theorem KeepsTiers.lawful {db next : Database} (h : KeepsTiers db next)
    {operation : TierOperation} (hnext : tierStep db operation = next) :
    LawfulStep db operation := by
  subst hnext
  exact ⟨[], by rw [h.events, List.append_nil],
    h.items.imp fun _ _ hrow => ⟨hrow.1, fun hne => (hne hrow.2).elim⟩⟩

theorem Retiers.lawful_iff {db next : Database} {contentId : ContentId} {newTier : Tier}
    {triggerType : TriggerType} (h : Retiers db next contentId newTier triggerType)
    {operation : TierOperation} (hnext : tierStep db operation = next) :
    LawfulStep db operation ↔ ∀ item ∈ db.contentItems, item.contentId = contentId →
      item.tier ≠ some newTier →
        UndoesCleanup db operation item (some newTier) ∨
          validateTransition item.tier newTier triggerType = .ok () := by
  subst hnext
  obtain ⟨f, hitems, hf⟩ := h.items
  obtain ⟨event, hevents, hcontent, hnew, htrigger⟩ := h.events
  constructor
  · rintro ⟨recorded, hrecorded, hrows⟩ item hitem rfl hne
    obtain rfl := List.append_cancel_left (hrecorded.symm.trans hevents)
    rw [hitems, forall₂_updateWhere_iff] at hrows
    have hrow := (hrows item hitem).changed
    simp only [hasContentId, beq_self_eq_true, if_true, (hf item).2] at hrow
    refine (hrow hne.symm).imp_right fun hvalidated => ?_
    obtain ⟨other, hother, -, -, hok⟩ := hvalidated.accepted
    rw [List.mem_singleton.mp hother, hnew, htrigger] at hok
    exact hok
  · intro hitem
    refine ⟨[event], hevents, ?_⟩
    rw [hitems]
    refine forall₂_updateWhere (fun _ => ⟨rfl, fun hne => (hne rfl).elim⟩) fun row hrow hmatch =>
      ⟨(hf row).1, fun hne => ?_⟩
    have hid : row.contentId = contentId := by simpa [hasContentId] using hmatch
    rw [(hf row).2] at hne ⊢
    refine (hitem row hrow hid hne.symm).imp_right fun hok =>
      ⟨isTerminal_of_validateTransition hok, event, List.mem_singleton_self _, ?_, ?_, ?_⟩
    · rw [hcontent, hid]
    · rw [(hf row).2, hnew]
    · rw [hnew, htrigger]
      exact hok

/-! ## Each operation -/

theorem retiers_of_emitEvent {db next : Database} {contentId : ContentId} {newTier : Tier}
    {tierReason : Text} {now : Timestamp} {event : EventId → TierTransitionEvent}
    {emitted : TierTransitionEvent} {updated : Database}
    (hupdate : updateContentTier db contentId newTier tierReason now = .ok updated)
    (hemit : emitEvent updated event = .ok (next, emitted)) {triggerType : TriggerType}
    (hevent : ∀ eventId, (event eventId).contentId = contentId ∧ (event eventId).newTier = newTier ∧
      (event eventId).triggerType = triggerType) :
    Retiers db next contentId newTier triggerType := by
  unfold updateContentTier at hupdate
  split at hupdate
  · cases hupdate
  · rename_i hdiscard
    cases hupdate
    unfold emitEvent at hemit
    dsimp only at hemit
    split at hemit
    · cases hemit
    · cases hemit
      exact ⟨⟨_, rfl, fun _ => ⟨rfl, rfl⟩⟩, ⟨_, rfl, hevent _⟩, hdiscard⟩

theorem tierOverride_effect {db next : Database} {now : Timestamp} {contentId : ContentId}
    {overrideAction : OverrideAction} {overrideBy overrideReason : Text} {auth : AuthContext}
    {response : TierOverrideResponse}
    (h : tierOverride db now contentId overrideAction overrideBy overrideReason auth =
      .ok (next, response)) :
    ∃ previousTier, fetchContentTier db contentId = some previousTier ∧
      validateTransition (some previousTier) (overrideTierMap overrideAction) .humanOverride =
        .ok () ∧
      Retiers db next contentId (overrideTierMap overrideAction) .humanOverride := by
  unfold tierOverride at h
  dsimp only at h
  split at h
  · cases h
  · rename_i previousTier hprevious
    split at h
    · cases h
    · rename_i hvalid
      split at h
      · cases h
      · rename_i updated hupdate
        split at h
        · cases h
        · rename_i emitted hemit
          cases h
          exact ⟨previousTier, hprevious, hvalid,
            retiers_of_emitEvent hupdate hemit fun _ => ⟨rfl, rfl, rfl⟩⟩

theorem latestEvent_spec {db : Database} {contentId : ContentId} {latest : TierTransitionEvent}
    (h : latestEvent db contentId = some latest) :
    latest ∈ db.governanceEvents ∧ latest.contentId = contentId ∧
      ∀ other ∈ db.governanceEvents, other.contentId = contentId →
        other.createdAt ≤ latest.createdAt := by
  obtain ⟨hmem, hcontent⟩ := List.mem_filter.mp (selectFirst_mem h)
  refine ⟨hmem, by simpa using hcontent, fun other hother hid => ?_⟩
  have htotal (a b : TierTransitionEvent) : latestFirst a b ∨ latestFirst b a :=
    le_total b.createdAt a.createdAt
  have htrans (a b c : TierTransitionEvent) (hab : latestFirst a b) (hbc : latestFirst b c) :
      latestFirst a c := le_trans hbc hab
  exact selectFirst_le htotal htrans h (List.mem_filter.mpr ⟨hother, by simpa using hid⟩)

theorem tierRollback_effect {db next : Database} {now : Timestamp} {contentId : ContentId}
    {rollbackBy rollbackReason : Text} {auth : AuthContext} {response : TierRollbackResponse}
    (h : tierRollback db now contentId rollbackBy rollbackReason auth = .ok (next, response)) :
    ∃ currentTier latest priorTier, fetchContentTier db contentId = some currentTier ∧
      latestEvent db contentId = some latest ∧ latest.previousTier = some priorTier ∧
      (isCleanupArchiveRollback currentTier latest = true ∨
        validateTransition (some currentTier) priorTier .humanOverride = .ok ()) ∧
      Retiers db next contentId priorTier .humanOverride := by
  unfold tierRollback at h
  split at h
  · cases h
  · rename_i currentTier hcurrent
    split at h
    · cases h
    · rename_i latest hlatest
      dsimp only at h
      split at h
      · cases h
      · split at h
        · cases h
        · rename_i priorTier hprior
          split at h
          · cases h
          · rename_i hvalid
            split at h
            · cases h
            · rename_i updated hupdate
              split at h
              · cases h
              · rename_i emitted hemit
                cases h
                refine ⟨currentTier, latest, priorTier, hcurrent, hlatest, hprior, ?_,
                  retiers_of_emitEvent hupdate hemit fun _ => ⟨rfl, rfl, rfl⟩⟩
                split at hvalid
                · rename_i hcleanup
                  exact .inl hcleanup
                · exact .inr hvalid

theorem storable_tierReason (decision : Decision) : storable decision.tierReason = true := by
  cases decision <;> decide +kernel

/-- A resolution goes through exactly when it finds a pending escalation that has not expired
in the caller's workspace. -/
theorem resolve_effect {db next : Database} {now : Timestamp} {escalationId : EscalationId}
    {auth : AuthContext} {decision : Decision} {updated : Escalation}
    (h : resolve db now escalationId auth decision = .ok (next, updated)) :
    ∃ row, Resolvable db now escalationId auth row ∧
      match row.contentId with
      | none => KeepsTiers db next
      | some contentId => Retiers db next contentId decision.newTier .humanOverride := by
  unfold resolve at h
  split at h
  · cases h
  · rename_i row hrow
    split at h
    · cases h
    · rename_i hpending
      split at h
      · cases h
      · rename_i hexpired
        dsimp only at h
        split at h
        · cases h
        · rename_i flipped hflipped
          split at h
          · cases h
          · rename_i hsubject
            cases h
            refine ⟨row, ⟨hrow, not_not.mp hpending, hexpired, by simpa using hsubject⟩, ?_⟩
            cases hcontent : row.contentId with
            | none =>
                rw [hcontent] at hflipped
                cases hflipped
                exact ⟨(KeepsTiers.refl db).items, rfl⟩
            | some contentId =>
                rw [hcontent] at hflipped
                dsimp only at hflipped ⊢
                split at hflipped
                · cases hflipped
                · rename_i flippedItems hupdate
                  generalize hemit : emitEvent flippedItems _ = outcome at hflipped
                  cases outcome with
                  | error error => cases hflipped
                  | ok outcome =>
                      cases hflipped
                      obtain ⟨items, events, hdiscard⟩ :=
                        retiers_of_emitEvent hupdate hemit fun _ => ⟨rfl, rfl, rfl⟩
                      exact ⟨items, events, hdiscard⟩

theorem Resolvable.resolve_ok {db : Database} {now : Timestamp} {escalationId : EscalationId}
    {auth : AuthContext} {row : Escalation} (h : Resolvable db now escalationId auth row)
    (decision : Decision) :
    ∃ outcome, resolve db now escalationId auth decision = .ok outcome := by
  have hdiscard : decision.newTier ≠ .discard := by cases decision <;> decide
  unfold resolve
  simp only [h.found, h.pending, h.unexpired, h.storable_subject, ne_eq, not_true_eq_false,
    if_false, Bool.not_true, Bool.false_eq_true]
  cases row.contentId with
  | none => exact ⟨_, rfl⟩
  | some contentId =>
      simp only [updateContentTier, hdiscard, if_false, emitEvent, storable_tierReason,
        Bool.not_true, Bool.false_eq_true, Except.map]
      exact ⟨_, rfl⟩

theorem persistEscalation_effect (db : Database) (now : Timestamp) (plan : EscalationPlan) :
    match plan.insertError db with
    | some _ => committedOr db (persistEscalation db now plan) = db
    | none =>
        if plan.severity = .requiresReview then
          Retiers db (committedOr db (persistEscalation db now plan)) plan.contentId .conflicted
            .system
        else KeepsTiers db (committedOr db (persistEscalation db now plan)) := by
  have hreason : storable "conflict:requires_review".toList = true := by decide +kernel
  unfold persistEscalation
  cases plan.insertError db with
  | some error => rfl
  | none =>
      dsimp only
      split
      · simp only [emitEvent, hreason, Bool.not_true, Bool.false_eq_true, if_false, committedOr]
        exact ⟨⟨_, rfl, fun _ => ⟨rfl, rfl⟩⟩, ⟨_, rfl, rfl, rfl, rfl⟩, by decide⟩
      · exact ⟨forall₂_updateWhere (fun _ => ⟨rfl, rfl⟩) fun _ _ _ => ⟨rfl, rfl⟩, rfl⟩

/-! ## Cleanup -/

/-- What the loop has done to a row so far. -/
structure CleanedRow (db : Database) (recorded : List TierTransitionEvent)
    (old new : ContentItem) : Prop where
  mem : old ∈ db.contentItems
  contentId : new.contentId = old.contentId
  tier : new.tier = old.tier ∨ (old.tier = some .transient ∧ new.tier = some .archived ∧
    ∃ event ∈ recorded, event.contentId = old.contentId ∧ event.newTier = .archived ∧
      event.triggerType = .system)

def Cleaned (db next : Database) : Prop :=
  ∃ recorded, next.governanceEvents = db.governanceEvents ++ recorded ∧
    List.Forall₂ (CleanedRow db recorded) db.contentItems next.contentItems

theorem CleanedRow.mono {db : Database} {recorded : List TierTransitionEvent}
    {old new : ContentItem} (h : CleanedRow db recorded old new) (event : TierTransitionEvent) :
    CleanedRow db (recorded ++ [event]) old new := by
  refine ⟨h.mem, h.contentId, h.tier.imp_right ?_⟩
  rintro ⟨hold, hnew, other, hother, hevent⟩
  exact ⟨hold, hnew, other, List.mem_append_left _ hother, hevent⟩

/-- The row that a round archives still has the tier that made it a candidate. -/
theorem cleaned_archiveContent {db next : Database} (hnodup : db.contentIds.Nodup)
    (h : Cleaned db next) {now : Timestamp} {item : ContentItem} (hitem : item ∈ db.contentItems)
    (htier : item.tier = some .transient) : Cleaned db (archiveContent next now item) := by
  obtain ⟨recorded, hevents, hrows⟩ := h
  refine ⟨recorded ++ [archiveEvent next now item], ?_, ?_⟩
  · simp [archiveContent, hevents]
  · rw [archiveContent, updateWhere, List.forall₂_map_right_iff]
    refine hrows.imp fun old new hrow => ?_
    by_cases hmatch : hasContentId item.contentId new = true
    · have hid : old.contentId = item.contentId := by
        rw [← hrow.contentId]
        simpa [hasContentId] using hmatch
      obtain rfl := List.inj_on_of_nodup_map hnodup hrow.mem hitem hid
      rw [if_pos hmatch]
      exact ⟨hrow.mem, hrow.contentId, .inr ⟨htier, rfl, archiveEvent next now old,
        List.mem_append_right _ (List.mem_singleton_self _), rfl, rfl, rfl⟩⟩
    · rw [if_neg hmatch]
      exact hrow.mono _

theorem cleaned_cleanupCandidate {db next : Database} (hnodup : db.contentIds.Nodup)
    (h : Cleaned db next) {now : Timestamp} {workspaceId : WorkspaceId} {item : ContentItem}
    (hitem : item ∈ db.contentItems) (hcandidate : isCandidate now workspaceId item = true)
    (result : CleanupResult) : Cleaned db (cleanupCandidate now (next, result) item).1 := by
  unfold cleanupCandidate
  dsimp only
  split
  · exact h
  · rename_i hconflicted
    have htier : item.tier = some .transient := by
      simp only [isCandidate, Bool.and_eq_true, Bool.or_eq_true, beq_iff_eq] at hcandidate
      exact hcandidate.1.1.resolve_right hconflicted
    split
    · exact h
    · split
      · exact h
      · dsimp only
        split
        · exact h
        · exact cleaned_archiveContent hnodup h hitem htier

theorem cleaned_foldl {db : Database} (hnodup : db.contentIds.Nodup) {now : Timestamp}
    {workspaceId : WorkspaceId} (candidates : List ContentItem)
    (hcandidates : ∀ item ∈ candidates,
      item ∈ db.contentItems ∧ isCandidate now workspaceId item = true)
    (progress : Database × CleanupResult) (h : Cleaned db progress.1) :
    Cleaned db (candidates.foldl (cleanupCandidate now) progress).1 := by
  induction candidates generalizing progress with
  | nil => exact h
  | cons item candidates ih =>
      obtain ⟨hitem, hcandidate⟩ := hcandidates item List.mem_cons_self
      exact ih (fun other hother => hcandidates other (List.mem_cons_of_mem _ hother)) _
        (cleaned_cleanupCandidate hnodup h hitem hcandidate progress.2)

theorem cleaned_cleanupTtl {db : Database} (hnodup : db.contentIds.Nodup) (now : Timestamp)
    (dryRun : Bool) (auth : AuthContext) : Cleaned db (cleanupTtl db now dryRun auth).1 := by
  have hstart : ∀ next : Database, next.contentItems = db.contentItems →
      next.governanceEvents = db.governanceEvents → Cleaned db next := by
    intro next hitems hevents
    refine ⟨[], by rw [hevents, List.append_nil], ?_⟩
    rw [hitems]
    have hself : List.Forall₂ (fun old new => old ∈ db.contentItems ∧ new = old)
        db.contentItems db.contentItems := List.forall₂_same.mpr fun item hitem => ⟨hitem, rfl⟩
    exact hself.imp fun old new hrow => ⟨hrow.1, by rw [hrow.2], .inl (by rw [hrow.2])⟩
  unfold cleanupTtl
  cases dryRun with
  | true =>
      exact cleaned_foldl hnodup _ (fun item hitem => List.mem_filter.mp hitem) _
        (hstart db rfl rfl)
  | false =>
      exact cleaned_foldl hnodup _ (fun item hitem => List.mem_filter.mp hitem) _
        (hstart (expireEscalations db now) rfl rfl)

theorem Cleaned.lawful {db : Database} {operation : TierOperation}
    (h : Cleaned db (tierStep db operation)) : LawfulStep db operation := by
  obtain ⟨recorded, hevents, hrows⟩ := h
  refine ⟨recorded, hevents, hrows.imp fun old new hrow => ⟨hrow.contentId, fun hne => .inr ?_⟩⟩
  rcases hrow.tier with hsame | ⟨hold, hnew, event, hevent, hcontent, hnewTier, htrigger⟩
  · exact (hne hsame).elim
  · refine ⟨by rw [hold]; rfl, event, hevent, hcontent, by rw [hnew, hnewTier], ?_⟩
    rw [hold, hnewTier, htrigger]
    exact validateTransition_ttl

/-! ## One step -/

theorem lawful_override {db : Database} (hnodup : db.contentIds.Nodup) (now : Timestamp)
    (contentId : ContentId) (overrideAction : OverrideAction) (overrideBy overrideReason : Text)
    (auth : AuthContext) :
    LawfulStep db (.override now contentId overrideAction overrideBy overrideReason auth) := by
  cases h : tierOverride db now contentId overrideAction overrideBy overrideReason auth with
  | error error =>
      exact (KeepsTiers.refl db).lawful (by rw [tierStep, h]; rfl)
  | ok outcome =>
      obtain ⟨previousTier, hprevious, hvalid, hretiers⟩ := tierOverride_effect h
      refine (hretiers.lawful_iff (by rw [tierStep, h]; rfl)).mpr fun item hitem hid _ => .inr ?_
      rw [← fetchContentTier_eq hnodup hitem, hid, hprevious]
      exact hvalid

theorem lawful_rollback {db : Database} (hnodup : db.contentIds.Nodup) (now : Timestamp)
    (contentId : ContentId) (rollbackBy rollbackReason : Text) (auth : AuthContext) :
    LawfulStep db (.rollback now contentId rollbackBy rollbackReason auth) := by
  cases h : tierRollback db now contentId rollbackBy rollbackReason auth with
  | error error =>
      exact (KeepsTiers.refl db).lawful (by rw [tierStep, h]; rfl)
  | ok outcome =>
      obtain ⟨currentTier, latest, priorTier, hcurrent, hlatest, hprior, hcase, hretiers⟩ :=
        tierRollback_effect h
      refine (hretiers.lawful_iff (by rw [tierStep, h]; rfl)).mpr fun item hitem hid _ => ?_
      subst hid
      have htier : item.tier = some currentTier := by
        rw [← fetchContentTier_eq hnodup hitem, hcurrent]
      rcases hcase with hcleanup | hvalid
      · simp only [isCleanupArchiveRollback, Bool.and_eq_true, beq_iff_eq] at hcleanup
        obtain ⟨⟨⟨rfl, hnew⟩, hsource⟩, -⟩ := hcleanup
        obtain ⟨hmem, hcontent, hmax⟩ := latestEvent_spec hlatest
        exact .inl ⟨⟨now, rollbackBy, rollbackReason, auth, rfl⟩, htier,
          latest, hmem, hcontent, hmax, hnew, hsource, hprior⟩
      · rw [htier]
        exact .inr hvalid

theorem lawful_cleanup {db : Database} (hnodup : db.contentIds.Nodup) (now : Timestamp)
    (dryRun : Bool) (auth : AuthContext) : LawfulStep db (.cleanup now dryRun auth) :=
  Cleaned.lawful (cleaned_cleanupTtl hnodup now dryRun auth)

/-- An escalation is saved lawfully exactly when the matrix lets the system quarantine the
content, or there is nothing left to quarantine. -/
theorem lawful_saveEscalation_iff (db : Database) (now : Timestamp) (plan : EscalationPlan) :
    LawfulStep db (.saveEscalation now plan) ↔ Allowed db (.saveEscalation now plan) := by
  have heffect := persistEscalation_effect db now plan
  unfold Allowed
  cases hinsert : plan.insertError db with
  | some error =>
      rw [hinsert] at heffect
      refine iff_of_true ((KeepsTiers.refl db).lawful heffect) fun _ hnone => ?_
      rw [hinsert] at hnone
      cases hnone
  | none =>
      rw [hinsert] at heffect
      dsimp only at heffect
      split at heffect
      · rename_i hsevere
        rw [heffect.lawful_iff rfl]
        constructor
        · intro h _ _ item hitem hid
          by_cases hconflicted : item.tier = some .conflicted
          · exact .inr hconflicted
          · rcases h item hitem hid hconflicted with hundo | hvalid
            · obtain ⟨_, _, _, _, hrollback⟩ := hundo.rollback
              cases hrollback
            · exact .inl (validateTransition_conflicted_iff.mp hvalid)
        · intro h item hitem hid hconflicted
          exact .inr (validateTransition_conflicted_iff.mpr
            ((h hsevere hinsert item hitem hid).resolve_right hconflicted))
      · rename_i hmild
        exact iff_of_true (heffect.lawful rfl) fun hsevere => (hmild hsevere).elim

/-- A resolution is lawful exactly when it finds the content alive, or on the tier it writes. -/
theorem lawful_resolve_iff {db : Database} (hvalid : ValidTiers db) (now : Timestamp)
    (escalationId : EscalationId) (auth : AuthContext) (decision : Decision) :
    LawfulStep db (.resolve now escalationId auth decision) ↔
      Allowed db (.resolve now escalationId auth decision) := by
  unfold Allowed
  cases h : resolve db now escalationId auth decision with
  | error error =>
      refine iff_of_true ((KeepsTiers.refl db).lawful (by rw [tierStep, h]; rfl)) fun row hrow => ?_
      obtain ⟨outcome, hok⟩ := hrow.resolve_ok decision
      rw [h] at hok
      cases hok
  | ok outcome =>
      have hnext : tierStep db (.resolve now escalationId auth decision) = outcome.1 := by
        rw [tierStep, h]
        rfl
      obtain ⟨row, hrow, heffect⟩ := resolve_effect h
      have hunique : ∀ other, Resolvable db now escalationId auth other → other = row :=
        fun other hother => Option.some.inj (hother.found.symm.trans hrow.found)
      cases hcontent : row.contentId with
      | none =>
          rw [hcontent] at heffect
          refine iff_of_true (heffect.lawful hnext) fun other hother item _ hid => ?_
          rw [hunique other hother, hcontent] at hid
          cases hid
      | some contentId =>
          rw [hcontent] at heffect
          rw [heffect.lawful_iff hnext]
          constructor
          · intro hlawful other hother item hitem hid
            rw [hunique other hother, hcontent] at hid
            by_cases hsame : item.tier = some decision.newTier
            · exact .inr hsame
            · rcases hlawful item hitem (Option.some.inj hid).symm hsame with hundo | hvalid
              · obtain ⟨_, _, _, _, hrollback⟩ := hundo.rollback
                cases hrollback
              · exact .inl (isTerminal_of_validateTransition hvalid)
          · intro hallowed item hitem hid hsame
            have halive := (hallowed row hrow item hitem
              (by rw [hcontent, hid])).resolve_right hsame
            exact .inr (validateTransition_human halive (hvalid item hitem))

/-! ## Runs -/

theorem lawful_iff_allowed {db : Database} (hnodup : db.contentIds.Nodup)
    (hvalid : ValidTiers db) (operation : TierOperation) :
    LawfulStep db operation ↔ Allowed db operation := by
  cases operation with
  | saveEscalation now plan => exact lawful_saveEscalation_iff db now plan
  | resolve now escalationId auth decision =>
      exact lawful_resolve_iff hvalid now escalationId auth decision
  | override => exact iff_of_true (lawful_override hnodup ..) trivial
  | rollback => exact iff_of_true (lawful_rollback hnodup ..) trivial
  | cleanup => exact iff_of_true (lawful_cleanup hnodup ..) trivial

/-- What every step keeps: the identifiers of the rows, and tiers that the column can hold. -/
structure TierInvariant (db : Database) : Prop where
  nodup : db.contentIds.Nodup
  valid : ValidTiers db

theorem TierInvariant.of_forall₂ {db next : Database} (h : TierInvariant db)
    (hrows : List.Forall₂ (fun old new : ContentItem => new.contentId = old.contentId ∧
      (new.tier = old.tier ∨ new.tier ≠ some .discard)) db.contentItems next.contentItems) :
    TierInvariant next := by
  constructor
  · have hids : next.contentIds = db.contentIds :=
      Forall₂.map_eq (fun _ _ hrow => hrow.1) hrows
    rw [hids]
    exact h.nodup
  · intro item hitem
    obtain ⟨old, hold, -, hsame | hne⟩ := Forall₂.exists_of_mem hrows hitem
    · rw [hsame]
      exact h.valid old hold
    · exact hne

theorem KeepsTiers.invariant {db next : Database} (hkeeps : KeepsTiers db next)
    (h : TierInvariant db) : TierInvariant next :=
  h.of_forall₂ (hkeeps.items.imp fun _ _ hrow => ⟨hrow.1, .inl hrow.2⟩)

theorem Retiers.invariant {db next : Database} {contentId : ContentId} {newTier : Tier}
    {triggerType : TriggerType} (hretiers : Retiers db next contentId newTier triggerType)
    (h : TierInvariant db) : TierInvariant next := by
  obtain ⟨f, hitems, hf⟩ := hretiers.items
  refine h.of_forall₂ ?_
  rw [hitems]
  refine forall₂_updateWhere (fun _ => ⟨rfl, .inl rfl⟩) fun row _ _ => ⟨(hf row).1, .inr ?_⟩
  rw [(hf row).2]
  exact fun heq => hretiers.ne_discard (Option.some.inj heq)

theorem Cleaned.invariant {db next : Database} (hcleaned : Cleaned db next)
    (h : TierInvariant db) : TierInvariant next := by
  obtain ⟨recorded, -, hrows⟩ := hcleaned
  refine h.of_forall₂ (hrows.imp fun old new hrow => ⟨hrow.contentId, hrow.tier.imp_right ?_⟩)
  rintro ⟨-, hnew, -⟩
  rw [hnew]
  decide

theorem TierInvariant.step {db : Database} (h : TierInvariant db) (operation : TierOperation) :
    TierInvariant (tierStep db operation) := by
  cases operation with
  | saveEscalation now plan =>
      have heffect := persistEscalation_effect db now plan
      rw [tierStep]
      split at heffect
      · rw [heffect]
        exact h
      · split at heffect
        · exact heffect.invariant h
        · exact heffect.invariant h
  | resolve now escalationId auth decision =>
      rw [tierStep]
      cases hresolve : resolve db now escalationId auth decision with
      | error error => exact h
      | ok outcome =>
          obtain ⟨row, -, heffect⟩ := resolve_effect hresolve
          split at heffect
          · exact heffect.invariant h
          · exact heffect.invariant h
  | override now contentId overrideAction overrideBy overrideReason auth =>
      rw [tierStep]
      cases hoverride : tierOverride db now contentId overrideAction overrideBy overrideReason
          auth with
      | error error => exact h
      | ok outcome =>
          obtain ⟨_, _, _, hretiers⟩ := tierOverride_effect hoverride
          exact hretiers.invariant h
  | rollback now contentId rollbackBy rollbackReason auth =>
      rw [tierStep]
      cases hrollback : tierRollback db now contentId rollbackBy rollbackReason auth with
      | error error => exact h
      | ok outcome =>
          obtain ⟨_, _, _, _, _, _, _, hretiers⟩ := tierRollback_effect hrollback
          exact hretiers.invariant h
  | cleanup now dryRun auth => exact (cleaned_cleanupTtl h.nodup now dryRun auth).invariant h

/-- In every run, in any order, every tier change is lawful exactly when every resolution and
every saved escalation finds a tier that allows it. -/
theorem guarded_lawful_iff {db : Database} (hnodup : db.contentIds.Nodup)
    (hvalid : ValidTiers db) (operations : List TierOperation) :
    Guarded tierStep LawfulStep db operations ↔ Guarded tierStep Allowed db operations :=
  guarded_congr (I := TierInvariant) ⟨hnodup, hvalid⟩ (fun _ operation h => h.step operation)
    (fun _ operation h => lawful_iff_allowed h.nodup h.valid operation) operations

/-- A discarded content is left by a rollback only. -/
example :
    let db : Database :=
      { contentItems := [{ contentId := 1, workspaceId := some 1, tier := some .archived }] }
    (tierStep db (.override 20 1 .forcePersist "owner".toList "kept".toList
      ⟨"owner".toList, 1⟩)).contentItems = db.contentItems := by
  decide +kernel

/-- The cleanup and the override leave an escalated row alone or ask the matrix. -/
theorem guarded_lawful_override :
    Guarded tierStep LawfulStep
      { contentItems := [{ contentId := 1, workspaceId := some 1, tier := some .persistent }] }
      [.override 20 1 .forceDiscard "owner".toList "stale".toList ⟨"owner".toList, 1⟩] :=
  (guarded_lawful_iff (by decide) (by unfold ValidTiers; decide +kernel) _).mpr ⟨trivial, trivial⟩

/-- An escalation stays pending while its content is discarded, and is approved afterwards. -/
theorem not_lawful_approve_archived :
    let auth : AuthContext := ⟨"owner".toList, 1⟩
    let db : Database :=
      { contentItems := [{ contentId := 1, workspaceId := some 1, tier := some .persistent }] }
    let plan : EscalationPlan :=
      ⟨1, 1, none, "direct_contradiction", .warning, "two claims".toList, 7, "opposing"⟩
    ¬ Guarded tierStep LawfulStep db
      [.saveEscalation 10 plan, .override 20 1 .forceDiscard "owner".toList "stale".toList auth,
        .resolve 30 1 auth .approve] := by
  intro auth db plan h
  have hstep := h.2.2.1
  rw [lawful_iff_allowed (by decide +kernel) (by unfold ValidTiers; decide +kernel)] at hstep
  have hrow := hstep
    { escalationId := 1, workspaceId := 1, contentId := some 1, conflictContentId := none,
      conflictType := "direct_contradiction", severity := .warning,
      conflictSummary := some "two claims".toList, status := .pending,
      expiresAt := 10 + 7 * day } ⟨by decide +kernel, rfl, by decide, by decide +kernel⟩
  obtain ⟨item, hitem, hid, htier⟩ : ∃ item ∈ (tierStep (tierStep db (.saveEscalation 10 plan))
      (.override 20 1 .forceDiscard "owner".toList "stale".toList auth)).contentItems,
      item.contentId = 1 ∧ item.tier = some .archived := by decide +kernel
  have hcan := hrow item hitem (by rw [hid])
  simp [canResolve, htier, isTerminal, terminalTiers, Decision.newTier] at hcan

end MemoryLab.TierOperations

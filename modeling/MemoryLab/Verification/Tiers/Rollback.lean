import MemoryLab.Model.GovernanceStream
import MemoryLab.Verification.Persistence.EventStream
import MemoryLab.Verification.Tiers.Cleanup
import MemoryLab.Verification.Tiers.Terminal

/-! # What a rollback restores -/

namespace MemoryLab.GovernanceStream

open Library Library.Rows Library.Runs TransitionMatrix TierOperations Persistence Governance

variable {M : Type}

/-! ## What a step records of a content -/

def eventsOf (db : Database) (contentId : ContentId) : List TierTransitionEvent :=
  db.governanceEvents.filter fun event => event.contentId == contentId

/-- A step that records the tier that a content had. -/
structure Logs (db next : Database) (contentId : ContentId) (now : Timestamp) : Prop where
  recorded : ∃ event, eventsOf next contentId = eventsOf db contentId ++ [event] ∧
    event.previousTier = fetchContentTier db contentId ∧ event.createdAt = now

/-- A step that leaves a content's tier and its events. -/
structure Silent (db next : Database) (contentId : ContentId) : Prop where
  events : eventsOf next contentId = eventsOf db contentId
  tier : fetchContentTier next contentId = fetchContentTier db contentId

theorem Silent.refl (db : Database) (contentId : ContentId) : Silent db db contentId := ⟨rfl, rfl⟩

/-- A step that assigns a tier to one content and records the tier it had. -/
structure Assigns (db next : Database) (target : ContentId) (now : Timestamp) : Prop where
  items : ∃ f : ContentItem → ContentItem, (∀ row, (f row).contentId = row.contentId) ∧
    next.contentItems = updateWhere (hasContentId target) f db.contentItems
  events : ∃ event, next.governanceEvents = db.governanceEvents ++ [event] ∧
    event.contentId = target ∧ event.previousTier = fetchContentTier db target ∧
      event.createdAt = now

theorem fetchContentTier_updateWhere {db next : Database} {p : ContentItem → Bool}
    {f : ContentItem → ContentItem} (hf : ∀ row, (f row).contentId = row.contentId)
    (hitems : next.contentItems = updateWhere p f db.contentItems) {contentId : ContentId}
    (hp : ∀ row ∈ db.contentItems, p row = true → row.contentId ≠ contentId) :
    fetchContentTier next contentId = fetchContentTier db contentId := by
  have hfilter : next.contentItems.filter (hasContentId contentId) =
      db.contentItems.filter (hasContentId contentId) := by
    rw [hitems]
    refine filter_updateWhere fun row hrow hmatch => ?_
    have hne := hp row hrow hmatch
    simp [hasContentId, hf, hne]
  rw [fetchContentTier, fetchContentTier, ← List.head?_filter, ← List.head?_filter, hfilter]

theorem Assigns.logs {db next : Database} {target : ContentId} {now : Timestamp}
    (h : Assigns db next target now) : Logs db next target now := by
  obtain ⟨event, hevents, hcontent, hprevious, htime⟩ := h.events
  refine ⟨event, ?_, hprevious, htime⟩
  simp [eventsOf, hevents, List.filter_append, hcontent]

theorem Assigns.silent {db next : Database} {target contentId : ContentId} {now : Timestamp}
    (h : Assigns db next target now) (hne : target ≠ contentId) : Silent db next contentId := by
  obtain ⟨event, hevents, hcontent, -, -⟩ := h.events
  obtain ⟨f, hf, hitems⟩ := h.items
  constructor
  · simp [eventsOf, hevents, List.filter_append, hcontent, hne]
  · refine fetchContentTier_updateWhere hf hitems fun row _ hmatch => ?_
    rw [hasContentId, beq_iff_eq] at hmatch
    rw [hmatch]
    exact hne

theorem assigns_of_emitEvent {db updated next : Database} {target : ContentId} {newTier : Tier}
    {tierReason : Text} {now : Timestamp} {event : EventId → TierTransitionEvent}
    {emitted : TierTransitionEvent}
    (hupdate : updateContentTier db target newTier tierReason now = .ok updated)
    (hemit : emitEvent updated event = .ok (next, emitted))
    (hevent : ∀ eventId, (event eventId).contentId = target ∧
      (event eventId).previousTier = fetchContentTier db target ∧
        (event eventId).createdAt = now) : Assigns db next target now := by
  unfold updateContentTier at hupdate
  split at hupdate
  · cases hupdate
  · cases hupdate
    unfold emitEvent at hemit
    dsimp only at hemit
    split at hemit
    · cases hemit
    · cases hemit
      exact ⟨⟨assignTier newTier tierReason now, fun _ => rfl, rfl⟩, _, rfl, hevent _⟩

/-! ## Each request -/

theorem assigns_of_override {db next : Database} {now : Timestamp} {contentId : ContentId}
    {overrideAction : OverrideAction} {overrideBy overrideReason : Text} {auth : AuthContext}
    {response : TierOverrideResponse}
    (h : tierOverride db now contentId overrideAction overrideBy overrideReason auth =
      .ok (next, response)) : Assigns db next contentId now := by
  unfold tierOverride at h
  dsimp only at h
  split at h
  · cases h
  · rename_i previousTier hprevious
    split at h
    · cases h
    · split at h
      · cases h
      · rename_i updated hupdate
        split at h
        · cases h
        · rename_i emitted hemit
          cases h
          exact assigns_of_emitEvent hupdate hemit fun _ => ⟨rfl, hprevious.symm, rfl⟩

theorem assigns_of_rollback {db next : Database} {now : Timestamp} {contentId : ContentId}
    {rollbackBy rollbackReason : Text} {auth : AuthContext} {response : TierRollbackResponse}
    (h : TierOperations.tierRollback db now contentId rollbackBy rollbackReason auth =
      .ok (next, response)) : Assigns db next contentId now := by
  unfold TierOperations.tierRollback at h
  split at h
  · cases h
  · rename_i currentTier hcurrent
    split at h
    · cases h
    · dsimp only at h
      split at h
      · cases h
      · split at h
        · cases h
        · split at h
          · cases h
          · split at h
            · cases h
            · rename_i updated hupdate
              split at h
              · cases h
              · rename_i emitted hemit
                cases h
                exact assigns_of_emitEvent hupdate hemit fun _ => ⟨rfl, hcurrent.symm, rfl⟩

/-- A rollback to the tier that a state event names. -/
theorem rollbackToStated_effect {db next : Database} {row : StoredGovernanceEvent M}
    {now : Timestamp} {contentId : ContentId} {rollbackBy rollbackReason : Text}
    {auth : AuthContext} {response : TierRollbackResponse}
    (h : rollbackToStated db row now contentId rollbackBy rollbackReason auth =
      .ok (next, response)) :
    ∃ priorTier, row.previousTier.bind Tier.ofText? = some priorTier ∧
      Assigns db next contentId now ∧ Retiers db next contentId priorTier .humanOverride ∧
        (fetchContentTier db contentId).isSome = true ∧
          (row.triggerSource ≠ .cleanup → isTerminal (fetchContentTier db contentId) = false) := by
  unfold rollbackToStated at h
  split at h
  · cases h
  · rename_i currentTier hcurrent
    dsimp only at h
    split at h
    · cases h
    · rename_i hterminal
      split at h
      · cases h
      · rename_i stated hstated
        split at h
        · cases h
        · rename_i priorTier hprior
          split at h
          · cases h
          · split at h
            · cases h
            · rename_i updated hupdate
              split at h
              · cases h
              · rename_i emitted hemit
                cases h
                refine ⟨priorTier, by rw [hstated]; exact hprior,
                  assigns_of_emitEvent hupdate hemit fun _ => ⟨rfl, hcurrent.symm, rfl⟩,
                  retiers_of_emitEvent hupdate hemit fun _ => ⟨rfl, rfl, rfl⟩,
                    by rw [hcurrent]; rfl, ?_⟩
                intro hsource
                rw [hcurrent]
                have hcleanup : (row.triggerSource == TriggerSource.cleanup) = false := by
                  simpa using hsource
                simpa [hcleanup] using hterminal

theorem assigns_or_keeps_of_resolve {db next : Database} {now : Timestamp}
    {escalationId : EscalationId} {auth : AuthContext} {decision : Decision}
    {updated : Escalation}
    (h : TierOperations.resolve db now escalationId auth decision = .ok (next, updated)) :
    ∃ row, fetchWorkspaceEscalation db escalationId auth.workspaceId = some row ∧
      match row.contentId with
      | none => next.contentItems = db.contentItems ∧ next.governanceEvents = db.governanceEvents
      | some contentId => Assigns db next contentId now := by
  unfold TierOperations.resolve at h
  split at h
  · cases h
  · rename_i row hrow
    refine ⟨row, hrow, ?_⟩
    split at h
    · cases h
    · split at h
      · cases h
      · dsimp only at h
        split at h
        · cases h
        · rename_i flipped hflipped
          split at h
          · cases h
          · cases h
            cases hcontent : row.contentId with
            | none =>
                rw [hcontent] at hflipped
                cases hflipped
                exact ⟨rfl, rfl⟩
            | some contentId =>
                rw [hcontent] at hflipped
                dsimp only at hflipped ⊢
                split at hflipped
                · cases hflipped
                · rename_i flippedItems hupdate
                  generalize hemit : emitEvent flippedItems _ = outcome at hflipped
                  cases outcome with
                  | error error => cases hflipped
                  | ok outcome =>
                      cases hflipped
                      obtain ⟨items, events⟩ :=
                        assigns_of_emitEvent hupdate hemit fun _ => ⟨rfl, rfl, rfl⟩
                      exact ⟨items, events⟩

theorem storable_reviewReason : storable "conflict:requires_review".toList = true := by
  decide +kernel

/-- Saving an escalation assigns a tier only where it requires a review. -/
theorem persistEscalation_assigns {db next : Database} {now : Timestamp} {plan : EscalationPlan}
    {info : EscalationMeta} (h : persistEscalation db now plan = .ok (next, info)) :
    if plan.severity = .requiresReview then Assigns db next plan.contentId now
    else ∀ contentId, Silent db next contentId := by
  unfold persistEscalation at h
  split at h
  · cases h
  · dsimp only at h
    split at h
    · rename_i hseverity
      rw [if_pos hseverity]
      simp only [emitEvent, storable_reviewReason, Bool.not_true, Bool.false_eq_true,
        if_false, Except.ok.injEq, Prod.mk.injEq] at h
      obtain ⟨rfl, -⟩ := h
      exact ⟨⟨quarantine (freshId (db.escalations.map (·.escalationId))) now, fun _ => rfl, rfl⟩,
        _, rfl, rfl, rfl, rfl⟩
    · rename_i hseverity
      rw [if_neg hseverity]
      cases h
      intro contentId
      refine ⟨rfl, ?_⟩
      have htier : ∀ rows : List ContentItem, ∀ p,
          ((updateWhere p (linkEscalation (freshId (db.escalations.map (·.escalationId))))
            rows).find? (hasContentId contentId)).bind (·.tier) =
              (rows.find? (hasContentId contentId)).bind (·.tier) := by
        intro rows p
        induction rows with
        | nil => rfl
        | cons row rows ih =>
            rw [updateWhere, List.map_cons, ← updateWhere]
            cases hp : p row <;> cases hrow : hasContentId contentId row <;>
              simp_all [hasContentId, linkEscalation]
      exact htier _ _

/-! ### Cleanup -/

theorem eventsOf_records {now : Timestamp} {items : List ContentItem}
    {recorded : List TierTransitionEvent} (h : List.Forall₂ (Records now) items recorded)
    (contentId : ContentId) :
    List.Forall₂ (Records now) (items.filter fun item => item.contentId == contentId)
      (recorded.filter fun event => event.contentId == contentId) := by
  induction h with
  | nil => exact .nil
  | @cons item event items recorded hrow _ ih =>
      obtain ⟨source, rfl⟩ := hrow
      rw [List.filter_cons, List.filter_cons]
      have hsame : (archiveEvent source now item).contentId = item.contentId := rfl
      rw [hsame]
      cases item.contentId == contentId with
      | true => exact .cons ⟨source, rfl⟩ ih
      | false => exact ih

/-- The cleanup records the tier of every content that it archives. -/
theorem archives_logs {db next : Database} (hnodup : db.contentIds.Nodup) {now : Timestamp}
    {items : List ContentItem} (hsublist : items.Sublist db.contentItems)
    (h : Archives db next now items) (contentId : ContentId) :
    if contentId ∈ items.map (·.contentId) then Logs db next contentId now
    else Silent db next contentId := by
  obtain ⟨recorded, hrecorded, rfl⟩ := h
  have hown := eventsOf_records hrecorded contentId
  split
  · rename_i hmem
    obtain ⟨item, hitem, rfl⟩ := List.mem_map.mp hmem
    have hone : (items.filter fun other => other.contentId == item.contentId) = [item] := by
      refine filter_eq_singleton ?_ hitem (by simp) fun other hother hsame => ?_
      · exact (List.Nodup.of_map _ hnodup).sublist hsublist
      · exact List.inj_on_of_nodup_map hnodup (hsublist.subset hother) (hsublist.subset hitem)
          (by simpa using hsame)
    rw [hone, List.forall₂_cons_left_iff] at hown
    obtain ⟨event, rest, ⟨source, rfl⟩, hrest, hevents⟩ := hown
    cases hrest
    refine ⟨archiveEvent source now item, ?_, ?_, rfl⟩
    · rw [eventsOf, List.filter_append, hevents]
      rfl
    · exact (fetchContentTier_eq hnodup (hsublist.subset hitem)).symm
  · rename_i hmem
    constructor
    · have hnone : (items.filter fun item => item.contentId == contentId) = [] := by
        rw [List.filter_eq_nil_iff]
        intro item hitem hid
        exact hmem (List.mem_map.mpr ⟨item, hitem, by simpa using hid⟩)
      rw [hnone, List.forall₂_nil_left_iff] at hown
      rw [eventsOf, List.filter_append, hown, List.append_nil]
      rfl
    · refine fetchContentTier_updateWhere (f := setArchived)
        (fun _ => rfl) rfl fun row _ hmatch => ?_
      obtain ⟨item, hitem, hid⟩ := isAmong_iff.mp hmatch
      rintro rfl
      exact hmem (List.mem_map.mpr ⟨item, hitem, hid⟩)

/-- Either a request records the tier that a content had, or it leaves the content alone. -/
structure LogsIf (assigns : Bool) (db next : Database) (contentId : ContentId)
    (now : Timestamp) : Prop where
  logs : assigns = true → Logs db next contentId now
  silent : assigns = false → Silent db next contentId

theorem cleanup_logs {db : Database} (hnodup : db.contentIds.Nodup) (now : Timestamp)
    (dryRun : Bool) (auth : AuthContext) (contentId : ContentId) :
    LogsIf (!dryRun && (cleanupTtl db now dryRun auth).2.details.contains
      (.contentArchived contentId)) db (cleanupTtl db now dryRun auth).1 contentId now := by
  rw [cleanupTtl_eq]
  cases dryRun with
  | true => exact ⟨nofun, fun _ => Silent.refl db contentId⟩
  | false =>
      have hsublist : ((candidatesOf db now auth).filter
          (isArchivable (afterExpiry db now false))).Sublist
            (afterExpiry db now false).contentItems :=
        List.filter_sublist.trans List.filter_sublist
      have harchives := archives_foldl now ((candidatesOf db now auth).filter
        (isArchivable (afterExpiry db now false))) (afterExpiry db now false)
      have hlogs := archives_logs (by exact hnodup) hsublist harchives contentId
      have hlisted : (!false && ((expiryReport db now false).report (afterExpiry db now false)
          (candidatesOf db now auth)).details.contains (.contentArchived contentId)) = true ↔
            contentId ∈ ((candidatesOf db now auth).filter
              (isArchivable (afterExpiry db now false))).map (·.contentId) := by
        simp [CleanupResult.report, expiryReport]
      constructor
      · intro hmem
        rw [if_pos (hlisted.mp hmem)] at hlogs
        exact ⟨hlogs.recorded⟩
      · intro hmem
        rw [if_neg fun h => Bool.false_ne_true (hmem.symm.trans (hlisted.mpr h))] at hlogs
        exact ⟨hlogs.events, hlogs.tier⟩

/-! ### Every request -/

/-- A rollback on the shared table. -/
theorem tierRollback_assigns {s : SharedDatabase M} {next : Database} {now : Timestamp}
    {contentId : ContentId} {rollbackBy rollbackReason : Text} {auth : AuthContext}
    {response : TierRollbackResponse}
    (h : tierRollback s now contentId rollbackBy rollbackReason auth = .ok (next, response)) :
    Assigns s.tiers next contentId now := by
  unfold tierRollback at h
  split at h
  · obtain ⟨_, _, hassigns, -⟩ := rollbackToStated_effect h
    exact hassigns
  · exact assigns_of_rollback h

/-- The time of a request. -/
def timeOf : TierOperation → Timestamp
  | .saveEscalation now _ => now
  | .resolve now _ _ _ => now
  | .override now _ _ _ _ _ => now
  | .rollback now _ _ _ _ => now
  | .cleanup now _ _ => now

/-- A request on one content, which an error leaves without effect. -/
theorem committedOr_logs {α : Type} {db : Database} {target contentId : ContentId}
    {now : Timestamp} {outcome : Except OperationError (Database × α)}
    (h : ∀ next response, outcome = .ok (next, response) → Assigns db next target now) :
    LogsIf (target == contentId && outcome.isOk) db (committedOr db outcome) contentId now := by
  cases outcome with
  | error error => exact ⟨by simp [Except.isOk, Except.toBool], fun _ => Silent.refl db contentId⟩
  | ok outcome =>
      have hassigns := h outcome.1 outcome.2 rfl
      by_cases htarget : target = contentId
      · subst htarget
        exact ⟨fun _ => hassigns.logs, by simp [Except.isOk, Except.toBool]⟩
      · exact ⟨by simp [htarget], fun _ => hassigns.silent htarget⟩

theorem saveEscalation_logs (db : Database) (now : Timestamp) (plan : EscalationPlan)
    (contentId : ContentId) :
    LogsIf (plan.severity == .requiresReview && plan.contentId == contentId &&
      (persistEscalation db now plan).isOk) db (committedOr db (persistEscalation db now plan))
        contentId now := by
  by_cases hseverity : plan.severity = .requiresReview
  · have hassigns : ∀ next info, persistEscalation db now plan = .ok (next, info) →
        Assigns db next plan.contentId now :=
      fun next info hsave => by simpa [hseverity] using persistEscalation_assigns hsave
    have hlogs : LogsIf _ db (committedOr db (persistEscalation db now plan)) contentId now :=
      committedOr_logs hassigns
    simpa [hseverity] using hlogs
  · refine ⟨by simp [hseverity], fun _ => ?_⟩
    cases hsave : persistEscalation db now plan with
    | error error => exact Silent.refl db contentId
    | ok outcome =>
        have hsilent := persistEscalation_assigns hsave
        rw [if_neg hseverity] at hsilent
        exact hsilent contentId

theorem resolve_logs (db : Database) (now : Timestamp) (escalationId : EscalationId)
    (auth : AuthContext) (decision : Decision) (contentId : ContentId) :
    LogsIf ((fetchWorkspaceEscalation db escalationId auth.workspaceId).any
        (·.contentId == some contentId) &&
          (TierOperations.resolve db now escalationId auth decision).isOk) db
      (committedOr db (TierOperations.resolve db now escalationId auth decision)) contentId
        now := by
  cases hresolve : TierOperations.resolve db now escalationId auth decision with
  | error error => exact ⟨by simp [Except.isOk, Except.toBool], fun _ => Silent.refl db contentId⟩
  | ok outcome =>
      obtain ⟨row, hrow, heffect⟩ := assigns_or_keeps_of_resolve hresolve
      rw [hrow]
      cases hcontent : row.contentId with
      | none =>
          rw [hcontent] at heffect
          refine ⟨by simp [hcontent], fun _ => ⟨?_, ?_⟩⟩
          · rw [committedOr, eventsOf, heffect.2, eventsOf]
          · rw [committedOr, fetchContentTier, heffect.1, fetchContentTier]
      | some target =>
          rw [hcontent] at heffect
          by_cases htarget : target = contentId
          · subst htarget
            exact ⟨fun _ => heffect.logs, by simp [hcontent, Except.isOk, Except.toBool]⟩
          · exact ⟨by simp [hcontent, htarget], fun _ => heffect.silent htarget⟩

/-- A request that assigns a tier to a content records the one it had, and no other request
touches the content. -/
theorem tiersAfter_logs (s : SharedDatabase M) (hnodup : s.tiers.contentIds.Nodup)
    (contentId : ContentId) (operation : TierOperation) :
    LogsIf (assignsTier s contentId operation) s.tiers (tiersAfter s operation) contentId
      (timeOf operation) := by
  cases operation with
  | cleanup now dryRun auth => exact cleanup_logs hnodup now dryRun auth contentId
  | saveEscalation now plan => exact saveEscalation_logs s.tiers now plan contentId
  | resolve now escalationId auth decision =>
      exact resolve_logs s.tiers now escalationId auth decision contentId
  | override => exact committedOr_logs fun _ _ h => assigns_of_override h
  | rollback => exact committedOr_logs fun _ _ h => tierRollback_assigns h

theorem tiersAfter_invariant {s : SharedDatabase M} (h : TierInvariant s.tiers)
    (operation : TierOperation) : TierInvariant (tiersAfter s operation) := by
  cases operation with
  | rollback now contentId rollbackBy rollbackReason auth =>
      rw [tiersAfter]
      unfold tierRollback
      split
      · rename_i row _
        cases hrollback : rollbackToStated s.tiers row now contentId rollbackBy rollbackReason
            auth with
        | error error => exact h
        | ok outcome =>
            obtain ⟨_, _, _, hretiers, -⟩ := rollbackToStated_effect hrollback
            exact hretiers.invariant h
      · exact h.step (.rollback now contentId rollbackBy rollbackReason auth)
  | saveEscalation now plan => exact h.step (.saveEscalation now plan)
  | resolve now escalationId auth decision => exact h.step (.resolve now escalationId auth decision)
  | override now contentId overrideAction overrideBy overrideReason auth =>
      exact h.step (.override now contentId overrideAction overrideBy overrideReason auth)
  | cleanup now dryRun auth => exact h.step (.cleanup now dryRun auth)

/-! ## Runs -/

/-- A database in a run, with the tier that a content had before the latest request that assigned
one to it. -/
structure Tracked (M : Type) where
  shared : SharedDatabase M
  before : Option (Option Tier) := none

/-- The newest event of a content is older than a time. -/
structure Follows (s : SharedDatabase M) (contentId : ContentId) (now : Timestamp) : Prop where
  transitions : ∀ event ∈ eventsOf s.tiers contentId, event.createdAt < now
  states : ∀ row ∈ s.store.governanceEvents, contentOf row = some contentId → row.createdAt < now

section Runs

variable [EmptyCollection M] (env : Environment M) (contentId : ContentId)

def trackedStep (t : Tracked M) (operation : Operation M) : Tracked M where
  shared := sharedStep env t.shared operation
  before := match operation with
    | .tier request =>
      if assignsTier t.shared contentId request then
        some (fetchContentTier t.shared.tiers contentId)
      else t.before
    | .append _ _ => t.before

/-- A rollback that goes through restores the tier from before the latest request. -/
def Restores (t : Tracked M) : Prop :=
  ∀ now rollbackBy rollbackReason auth next response,
    tierRollback t.shared now contentId rollbackBy rollbackReason auth = .ok (next, response) →
      ∀ tier, t.before = some tier → fetchContentTier next contentId = tier

/-- An event of the content that the backend accepts. -/
def isAbout (t : Tracked M) (stamp : Postgres.Stamp) (event : GovernanceStateEventContract M) :
    Prop :=
  (event.recordRef.contentId.bind Uuid.parse).map (·.bits.toNat) = some contentId ∧
    (Postgres.appendGovernanceEvent env t.shared.store stamp event).2.isOk = true

/-- The steps that keep the newest event truthful: each is later than the events before it, and
an appended event of the content names the tier from before the latest request, or no tier, or
comes when the content has a terminal tier. -/
def Truthful (t : Tracked M) : Operation M → Prop
  | .tier request =>
    assignsTier t.shared contentId request = true → Follows t.shared contentId (timeOf request)
  | .append stamp event => isAbout env contentId t stamp event →
      Follows t.shared contentId stamp.createdAt ∧
        ((∀ prior, event.previousTier.bind Tier.ofText? = some prior →
          ∀ tier, t.before = some tier → tier = some prior) ∨
            isTerminal (fetchContentTier t.shared.tiers contentId) = true)

end Runs

/-! ### The newest event -/

theorem latestFirst_total (a b : TierTransitionEvent) : latestFirst a b ∨ latestFirst b a :=
  le_total b.createdAt a.createdAt

theorem latestFirst_trans (a b c : TierTransitionEvent) (hab : latestFirst a b)
    (hbc : latestFirst b c) : latestFirst a c :=
  le_trans hbc hab

theorem newestFirst_total (a b : StoredGovernanceEvent M) : newestFirst a b ∨ newestFirst b a :=
  le_total b.createdAt a.createdAt

theorem newestFirst_trans (a b c : StoredGovernanceEvent M) (hab : newestFirst a b)
    (hbc : newestFirst b c) : newestFirst a c :=
  le_trans hbc hab

theorem latestEvent_eq {db : Database} {contentId : ContentId}
    {old : List TierTransitionEvent} {event : TierTransitionEvent}
    (hevents : eventsOf db contentId = old ++ [event])
    (hlater : ∀ other ∈ old, other.createdAt < event.createdAt) :
    latestEvent db contentId = some event := by
  have hlatest : latestEvent db contentId = selectFirst latestFirst (eventsOf db contentId) := rfl
  rw [hlatest, hevents]
  exact selectFirst_append_singleton latestFirst_total latestFirst_trans fun other hother =>
    not_le.mpr (hlater other hother)

theorem newestStateEvent_congr {s t : SharedDatabase M} {contentId : ContentId}
    (hevents : eventsOf t.tiers contentId = eventsOf s.tiers contentId)
    (hstates : t.store.governanceEvents.filter (fun row => contentOf row == some contentId) =
      s.store.governanceEvents.filter fun row => contentOf row == some contentId) :
    newestStateEvent t contentId = newestStateEvent s contentId := by
  have hlatest : latestEvent t.tiers contentId = latestEvent s.tiers contentId :=
    congrArg (selectFirst latestFirst) hevents
  rw [newestStateEvent, newestStateEvent, hstates, hlatest]

/-- After a transition that is later than every state event, none of these is the newest. -/
theorem newestStateEvent_eq_none {s : SharedDatabase M} {contentId : ContentId}
    {event : TierTransitionEvent} (hlatest : latestEvent s.tiers contentId = some event)
    (hlater : ∀ row ∈ s.store.governanceEvents, contentOf row = some contentId →
      row.createdAt < event.createdAt) : newestStateEvent s contentId = none := by
  rw [newestStateEvent, Option.filter_eq_none_iff]
  intro row hrow hnewer
  obtain ⟨hmem, hcontent⟩ := List.mem_filter.mp (selectFirst_mem hrow)
  rw [hlatest, Option.all_some, decide_eq_true_eq] at hnewer
  exact absurd (hlater row hmem (by simpa using hcontent)) hnewer.not_gt

/-- A state event that is later than every other event is the newest. -/
theorem newestStateEvent_eq_some {s : SharedDatabase M} {contentId : ContentId}
    {old : List (StoredGovernanceEvent M)} {row : StoredGovernanceEvent M}
    (hstates : s.store.governanceEvents = old ++ [row]) (hrow : contentOf row = some contentId)
    (hlater : ∀ other ∈ old, contentOf other = some contentId → other.createdAt < row.createdAt)
    (htransitions : ∀ event ∈ eventsOf s.tiers contentId, event.createdAt < row.createdAt) :
    newestStateEvent s contentId = some row := by
  have hselect : selectFirst newestFirst (s.store.governanceEvents.filter fun other =>
      contentOf other == some contentId) = some row := by
    rw [hstates, List.filter_append, List.filter_cons_of_pos (by simp [hrow]), List.filter_nil]
    refine selectFirst_append_singleton newestFirst_total newestFirst_trans fun other hother =>
      not_le.mpr ?_
    obtain ⟨hmem, hcontent⟩ := List.mem_filter.mp hother
    exact hlater other hmem (by simpa using hcontent)
  rw [newestStateEvent, hselect, Option.filter_eq_some_iff]
  refine ⟨rfl, ?_⟩
  cases hlatest : latestEvent s.tiers contentId with
  | none => rfl
  | some event =>
      obtain ⟨hmem, hid, -⟩ := latestEvent_spec hlatest
      simpa using htransitions event (List.mem_filter.mpr ⟨hmem, by simp [hid]⟩)

/-! ### The invariant -/

/-- What a run keeps: the newest event of the content is truthful. -/
structure Recorded (contentId : ContentId) (t : Tracked M) : Prop where
  tiers : TierInvariant t.shared.tiers
  transition : ∀ tier, t.before = some tier →
    ∃ event, latestEvent t.shared.tiers contentId = some event ∧ event.previousTier = tier
  state : ∀ tier row, t.before = some tier → newestStateEvent t.shared contentId = some row →
    row.triggerSource ≠ .cleanup ∧
      ((∀ prior, row.previousTier.bind Tier.ofText? = some prior → tier = some prior) ∨
        isTerminal (fetchContentTier t.shared.tiers contentId) = true)

theorem fetchContentTier_of_retiers {db next : Database} {contentId : ContentId} {newTier : Tier}
    {triggerType : TriggerType} (h : Retiers db next contentId newTier triggerType)
    (hsome : (fetchContentTier db contentId).isSome = true) :
    fetchContentTier next contentId = some newTier := by
  obtain ⟨f, hitems, hf⟩ := h.items
  have hkept : ∀ row, hasContentId contentId (f row) = hasContentId contentId row :=
    fun row => by rw [hasContentId, hasContentId, (hf row).1]
  rw [fetchContentTier] at hsome
  rw [fetchContentTier, hitems, find?_updateWhere_self hkept]
  cases hfind : db.contentItems.find? (hasContentId contentId) with
  | none =>
      rw [hfind] at hsome
      cases hsome
  | some item => rw [Option.map_some, Option.bind_some, (hf item).2]

theorem Recorded.restores {contentId : ContentId} {t : Tracked M} (h : Recorded contentId t) :
    Restores contentId t := by
  intro now rollbackBy rollbackReason auth next response hrollback tier hbefore
  unfold tierRollback at hrollback
  split at hrollback
  · rename_i row hnewest
    obtain ⟨prior, hprior, -, hretiers, hsome, hterminal⟩ := rollbackToStated_effect hrollback
    obtain ⟨hsource, htruth | hend⟩ := h.state tier row hbefore hnewest
    · rw [fetchContentTier_of_retiers hretiers hsome, htruth prior hprior]
    · rw [hterminal hsource] at hend
      cases hend
  · obtain ⟨current, latest, prior, hcurrent, hlatest, hprior, -, hretiers⟩ :=
      tierRollback_effect hrollback
    obtain ⟨event, hevent, htier⟩ := h.transition tier hbefore
    rw [hlatest] at hevent
    cases hevent
    rw [fetchContentTier_of_retiers hretiers (by rw [hcurrent]; rfl), ← htier, hprior]

/-- The content of the row that an append inserts. -/
theorem contentOf_of_castUuid {row : StoredGovernanceEvent M} {written : Option Text}
    (h : Postgres.castUuid written = some row.contentId) :
    contentOf row = (written.bind Uuid.parse).map (·.bits.toNat) := by
  rw [contentOf]
  cases written with
  | none =>
      rw [← Option.some.inj h]
      rfl
  | some text =>
      obtain ⟨u, hu, hsame⟩ := Option.map_eq_some_iff.mp h
      rw [← hsame, Option.bind_some, hu]

section Steps

variable [EmptyCollection M] {env : Environment M} {contentId : ContentId}

theorem Recorded.tier_step {t : Tracked M} (h : Recorded contentId t) (request : TierOperation)
    (hguard : assignsTier t.shared contentId request = true →
      Follows t.shared contentId (timeOf request)) :
    Recorded contentId (trackedStep env contentId t (.tier request)) := by
  have hlogs := tiersAfter_logs t.shared h.tiers.nodup contentId request
  have htiers := tiersAfter_invariant h.tiers request
  cases hassigns : assignsTier t.shared contentId request with
  | true =>
      -- the request's own event is now the newest
      obtain ⟨event, hevents, hprevious, htime⟩ := (hlogs.logs hassigns).recorded
      have hfollows := hguard hassigns
      have hlatest : latestEvent (tiersAfter t.shared request) contentId = some event :=
        latestEvent_eq hevents fun other hother => htime ▸ hfollows.transitions other hother
      refine ⟨htiers, fun tier hbefore => ⟨event, hlatest, ?_⟩, fun tier row _ hnewest => ?_⟩
      · rw [trackedStep, if_pos hassigns] at hbefore
        rw [hprevious]
        exact Option.some.inj hbefore
      · have hnone : newestStateEvent (sharedStep env t.shared (.tier request)) contentId = none :=
          newestStateEvent_eq_none hlatest fun row hrow hcontent =>
            htime ▸ hfollows.states row hrow hcontent
        rw [trackedStep, hnone] at hnewest
        cases hnewest
  | false =>
      have hsilent := hlogs.silent hassigns
      have hbefore : (trackedStep env contentId t (.tier request)).before = t.before := by
        simp [trackedStep, hassigns]
      have hnewest : newestStateEvent (sharedStep env t.shared (.tier request)) contentId =
          newestStateEvent t.shared contentId := newestStateEvent_congr hsilent.events rfl
      have hlatest : latestEvent (tiersAfter t.shared request) contentId =
          latestEvent t.shared.tiers contentId :=
        congrArg (selectFirst latestFirst) hsilent.events
      refine ⟨htiers, fun tier htier => ?_, fun tier row htier hrow => ?_⟩
      · rw [hbefore] at htier
        exact hlatest ▸ h.transition tier htier
      · rw [hbefore] at htier
        rw [trackedStep, hnewest] at hrow
        exact hsilent.tier ▸ h.state tier row htier hrow

/-- What an append does to the state events, and what it says of the newest. -/
theorem append_cases (s : SharedDatabase M) (stamp : Postgres.Stamp)
    (event : GovernanceStateEventContract M) :
    (∃ row store, (Postgres.appendGovernanceEvent env s.store stamp event).2.isOk = true ∧
      sharedStep env s (.append stamp event) = ⟨s.tiers, store⟩ ∧
        store.governanceEvents = s.store.governanceEvents ++ [row] ∧
          Postgres.RowOf env ⟨stamp, event⟩ row) ∨
      sharedStep env s (.append stamp event) = s := by
  rcases Postgres.appendGovernanceEvent_cases env s.store ⟨stamp, event⟩ with
    ⟨next, row, happend, hnext, hrow⟩ | ⟨error, happend⟩
  · have hresult : Postgres.appendGovernanceEvent env s.store stamp event = (next, .ok event) :=
      happend
    refine .inl ⟨row, next, by rw [hresult]; rfl, by rw [sharedStep, hresult], hnext, hrow⟩
  · have hresult : Postgres.appendGovernanceEvent env s.store stamp event =
        (s.store, .error error) := happend
    exact .inr (by rw [sharedStep, hresult])

theorem Recorded.append_step {t : Tracked M} (h : Recorded contentId t) (stamp : Postgres.Stamp)
    (event : GovernanceStateEventContract M)
    (hguard : Truthful env contentId t (.append stamp event)) :
    Recorded contentId (trackedStep env contentId t (.append stamp event)) := by
  rw [trackedStep]
  rcases append_cases t.shared stamp event with
    ⟨row, store, hok, hstep, hstore, hrow⟩ | hstep
  · rw [hstep]
    refine ⟨h.tiers, h.transition, fun tier newest hbefore hnewest => ?_⟩
    have hcontent := contentOf_of_castUuid hrow.contentId
    by_cases habout : contentOf row = some contentId
    · obtain ⟨hfollows, htruth⟩ := hguard ⟨hcontent ▸ habout, hok⟩
      have htime : row.createdAt = stamp.createdAt := hrow.createdAt
      have hlast : newestStateEvent (⟨t.shared.tiers, store⟩ : SharedDatabase M) contentId =
          some row := by
        refine newestStateEvent_eq_some hstore habout ?_ ?_
        · intro other hother hid
          rw [htime]
          exact hfollows.states other hother hid
        · intro other hother
          rw [htime]
          exact hfollows.transitions other hother
      rw [hlast, Option.some.injEq] at hnewest
      subst hnewest
      have hsource : row.triggerSource = .mcp := hrow.triggerSource
      refine ⟨by rw [hsource]; exact nofun, htruth.imp_left fun hnames prior hprior => ?_⟩
      rw [hrow.previousTier] at hprior
      exact hnames prior hprior tier hbefore
    · have hsame : newestStateEvent (⟨t.shared.tiers, store⟩ : SharedDatabase M) contentId =
          newestStateEvent t.shared contentId := by
        refine newestStateEvent_congr rfl ?_
        rw [hstore, List.filter_append, List.filter_cons_of_neg (by simpa using habout),
          List.filter_nil, List.append_nil]
      rw [hsame] at hnewest
      exact h.state tier newest hbefore hnewest
  · rw [hstep]
    exact ⟨h.tiers, h.transition, h.state⟩

/-- In a run whose steps keep the newest event of a content truthful, every rollback of the
content that goes through restores the tier from before the latest request that assigned one. -/
theorem always_restores (env : Environment M) (contentId : ContentId) (s : SharedDatabase M)
    (hnodup : s.tiers.contentIds.Nodup) (hvalid : ValidTiers s.tiers)
    (operations : List (Operation M))
    (hguard : Guarded (trackedStep env contentId) (Truthful env contentId) ⟨s, none⟩ operations) :
    Always (trackedStep env contentId) (Restores contentId) ⟨s, none⟩ operations := by
  have hstart : Recorded contentId (⟨s, none⟩ : Tracked M) := by
    refine ⟨⟨hnodup, hvalid⟩, fun tier hnone => ?_, fun tier row hnone _ => ?_⟩
    · cases hnone
    · cases hnone
  refine (hguard.always hstart fun t operation h hstep => ?_).mono fun t h => h.restores
  cases operation with
  | tier request => exact h.tier_step request hstep
  | append stamp event => exact h.append_step stamp event hstep

end Steps

/-! ## A state event before a rollback -/

def transientContent : SharedDatabase (List ℕ) where
  tiers := { contentItems := [{ contentId := 7, workspaceId := some 1, tier := some .transient }] }
  store := {}

def persistRequest : TierOperation :=
  .override 10 7 .forcePersist "owner".toList "kept".toList ⟨"owner".toList, 1⟩

def undoRequest : TierOperation := .rollback 30 7 "owner".toList "undo".toList ⟨"owner".toList, 1⟩

theorem always_restores_override :
    Always (trackedStep keepsMetadata 7) (Restores 7) ⟨transientContent, none⟩
      [.tier persistRequest, .tier undoRequest] :=
  always_restores keepsMetadata 7 transientContent (by decide)
    (by unfold ValidTiers; decide +kernel) _
    ⟨fun _ => ⟨by decide +kernel, by decide +kernel⟩,
      fun _ => ⟨by decide +kernel, by decide +kernel⟩, trivial⟩

/-- An event of the content that names a tier it never had. -/
def misleadingEvent : GovernanceStateEventContract (List ℕ) :=
  { recordEvent ['r'] with
    recordRef :=
      { recordId := ['r'], recordType := ['t'], workspaceId := (⟨1⟩ : Uuid).text
        contentId := some (⟨7⟩ : Uuid).text }
    previousTier := some "probationary".toList }

/-- A transient content is made persistent, and rolled back to the tier that the event names. -/
theorem not_restores_misleading : ¬ ∀ (env : Environment (List ℕ)) (contentId : ContentId)
    (s : SharedDatabase (List ℕ)), s.tiers.contentIds.Nodup → ValidTiers s.tiers →
      ∀ operations, Always (trackedStep env contentId) (Restores contentId) ⟨s, none⟩
        operations := by
  intro h
  have hrun := (h keepsMetadata 7 transientContent (by decide)
    (by unfold ValidTiers; decide +kernel)
    [.tier persistRequest, .append ⟨20, ⟨20⟩⟩ misleadingEvent]).last
  have hbefore : (run (trackedStep keepsMetadata 7) ⟨transientContent, none⟩
      [.tier persistRequest, .append ⟨20, ⟨20⟩⟩ misleadingEvent]).before =
        some (some .transient) := by
    decide +kernel
  have hrollback : (tierRollback (run (trackedStep keepsMetadata 7) ⟨transientContent, none⟩
      [.tier persistRequest, .append ⟨20, ⟨20⟩⟩ misleadingEvent]).shared 30 7 "owner".toList
        "undo".toList ⟨"owner".toList, 1⟩).toOption.map (fun outcome =>
          fetchContentTier outcome.1 7) = some (some .probationary) := by
    decide +kernel
  obtain ⟨outcome, houtcome, htier⟩ := Option.map_eq_some_iff.mp hrollback
  have hok := hrun 30 "owner".toList "undo".toList ⟨"owner".toList, 1⟩ outcome.1 outcome.2
    (by
      cases hresult : tierRollback _ 30 7 "owner".toList "undo".toList ⟨"owner".toList, 1⟩ with
      | error error =>
          rw [hresult] at houtcome
          cases houtcome
      | ok value =>
          rw [hresult] at houtcome
          cases houtcome
          rfl)
    (some .transient) hbefore
  rw [htier] at hok
  cases hok

end MemoryLab.GovernanceStream

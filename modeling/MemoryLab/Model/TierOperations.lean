import MemoryLab.Model.TransitionMatrix

/-! # Operations that change a tier

Saving an escalation, resolving it, the admin override and rollback, and the cleanup. -/

namespace MemoryLab.TierOperations

open Library Library.Rows TransitionMatrix

structure AuthContext where
  authSubjectId : Text
  workspaceId : WorkspaceId
deriving DecidableEq

inductive OperationError where
  | http (status : ℕ) (detail : String)
  | database (error : DbError)
deriving DecidableEq

/-! ## Statements -/

/-- `SELECT tier`: without a row, and with a row that has none, there is no tier. -/
def fetchContentTier (db : Database) (contentId : ContentId) : Option Tier :=
  (db.contentItems.find? (hasContentId contentId)).bind (·.tier)

def assignTier (newTier : Tier) (tierReason : Text) (now : Timestamp) (item : ContentItem) :
    ContentItem :=
  { item with tier := some newTier, tierReason := some tierReason, tierAssignedAt := some now }

/-- The cast to `memory_tier`, which has no `discard`, and the update of the row. -/
def updateContentTier (db : Database) (contentId : ContentId) (newTier : Tier)
    (tierReason : Text) (now : Timestamp) : Except OperationError Database :=
  if newTier = .discard then .error (.database .invalidEnum)
  else .ok { db with
    contentItems := updateWhere (hasContentId contentId) (assignTier newTier tierReason now)
      db.contentItems }

def emitEvent (db : Database) (event : EventId → TierTransitionEvent) :
    Except OperationError (Database × TierTransitionEvent) :=
  let event := event (freshId (db.governanceEvents.map (·.eventId)))
  if !storable event.transitionReason then .error (.database .invalidText)
  else .ok ({ db with governanceEvents := db.governanceEvents ++ [event] }, event)

/-! ## Saving an escalation -/

structure EscalationPlan where
  workspaceId : WorkspaceId
  contentId : ContentId
  conflictContentId : Option ContentId
  conflictType : String
  severity : Severity
  conflictSummary : Text
  ttlDays : ℕ
  detectionRule : String
deriving DecidableEq

structure EscalationMeta where
  conflictEscalationId : EscalationId
  conflictType : String
  conflictSeverity : Severity
  conflictContentId : Option ContentId
  conflictStatus : EscalationStatus := .pending
  conflictDetectionRule : String
deriving DecidableEq

/-- The `CHECK` on the type of a conflict. -/
def conflictTypes : List String :=
  ["same_topic", "incompatible_assumption", "direct_contradiction", "confidence_disagreement",
    "outdated_assumption", "no_conflict"]

/-- What keeps the `INSERT` of an escalation from going through. -/
def EscalationPlan.insertError (db : Database) (plan : EscalationPlan) : Option DbError :=
  if !storable plan.conflictSummary then some .invalidText
  else if plan.conflictType ∉ conflictTypes then some .checkViolation
  else if plan.contentId ∉ db.contentIds then some .foreignKeyViolation
  else if plan.conflictContentId.any (· ∉ db.contentIds) then some .foreignKeyViolation
  else none

def quarantine (escalationId : EscalationId) (now : Timestamp) (item : ContentItem) :
    ContentItem :=
  { assignTier .conflicted "conflict:requires_review".toList now item with
    conflictEscalationId := some escalationId }

def linkEscalation (escalationId : EscalationId) (item : ContentItem) : ContentItem :=
  { item with conflictEscalationId := some escalationId }

def persistEscalation (db : Database) (now : Timestamp) (plan : EscalationPlan) :
    Except OperationError (Database × EscalationMeta) :=
  match plan.insertError db with
  | some error => .error (.database error)
  | none =>
    let escalationId := freshId (db.escalations.map (·.escalationId))
    let db := { db with
      escalations := db.escalations ++ [
        { escalationId, workspaceId := plan.workspaceId, contentId := some plan.contentId,
          conflictContentId := plan.conflictContentId, conflictType := plan.conflictType,
          severity := plan.severity, conflictSummary := some plan.conflictSummary,
          status := .pending, expiresAt := now + plan.ttlDays * day }] }
    let info : EscalationMeta :=
      { conflictEscalationId := escalationId, conflictType := plan.conflictType,
        conflictSeverity := plan.severity, conflictContentId := plan.conflictContentId,
        conflictDetectionRule := plan.detectionRule }
    if plan.severity = .requiresReview then
      let previousTier := fetchContentTier db plan.contentId
      let db := { db with
        contentItems := updateWhere (hasContentId plan.contentId) (quarantine escalationId now)
          db.contentItems }
      match emitEvent db fun eventId =>
          { eventId, contentId := plan.contentId, workspaceId := some plan.workspaceId,
            previousTier, newTier := .conflicted,
            transitionReason := "conflict:requires_review".toList,
            transitionRule := "CONFLICT_REQUIRES_REVIEW_V1".toList, triggerType := .system,
            triggerSource := .save, createdAt := now } with
      | .error error => .error error
      | .ok (db, _) => .ok (db, info)
    else
      .ok ({ db with
        contentItems := updateWhere (hasContentId plan.contentId) (linkEscalation escalationId)
          db.contentItems }, info)

/-! ## Resolving an escalation -/

inductive Decision where
  | approve
  | reject
deriving DecidableEq

def Decision.newStatus : Decision → EscalationStatus
  | approve => .approved
  | reject => .rejected

def Decision.newTier : Decision → Tier
  | approve => .persistent
  | reject => .archived

def Decision.tierReason : Decision → Text
  | approve => "escalation_approved".toList
  | reject => "escalation_rejected".toList

def Decision.transitionRule : Decision → Text
  | approve => "ESCALATION_APPROVED_V1".toList
  | reject => "ESCALATION_REJECTED_V1".toList

def EscalationStatus.label : EscalationStatus → String
  | .pending => "pending"
  | .approved => "approved"
  | .rejected => "rejected"
  | .expired => "expired"

def fetchWorkspaceEscalation (db : Database) (escalationId : EscalationId)
    (workspaceId : WorkspaceId) : Option Escalation :=
  db.escalations.find? fun row =>
    row.escalationId == escalationId && row.workspaceId == workspaceId

def setResolved (decision : Decision) (now : Timestamp) (auth : AuthContext) (row : Escalation) :
    Escalation :=
  { row with status := decision.newStatus, resolvedAt := some now,
             resolvedBy := some auth.authSubjectId }

def resolve (db : Database) (now : Timestamp) (escalationId : EscalationId) (auth : AuthContext)
    (decision : Decision) : Except OperationError (Database × Escalation) :=
  match fetchWorkspaceEscalation db escalationId auth.workspaceId with
  | none => .error (.http 404 "escalation not found")
  | some row =>
    if row.status ≠ .pending then
      .error (.http 409 ("escalation already " ++ EscalationStatus.label row.status))
    else if row.expiresAt < now then .error (.http 409 "escalation expired")
    else
      let flipped : Except OperationError Database :=
        match row.contentId with
        | none => .ok db
        | some contentId =>
          let previousTier := fetchContentTier db contentId
          match updateContentTier db contentId decision.newTier decision.tierReason now with
          | .error error => .error error
          | .ok db =>
            (emitEvent db fun eventId =>
              { eventId, contentId, workspaceId := some auth.workspaceId, previousTier,
                newTier := decision.newTier, transitionReason := decision.tierReason,
                transitionRule := decision.transitionRule, triggerType := .humanOverride,
                triggerSource := .admin, createdAt := now }).map (·.1)
      match flipped with
      | .error error => .error error
      | .ok db =>
        if !storable auth.authSubjectId then .error (.database .invalidText)
        else .ok ({ db with
          escalations := updateWhere (fun row => row.escalationId == escalationId)
            (setResolved decision now auth) db.escalations }, setResolved decision now auth row)

/-! ## The admin override and rollback -/

inductive OverrideAction where
  | forcePersist
  | forceDiscard
deriving DecidableEq

def OverrideAction.label : OverrideAction → String
  | forcePersist => "force_persist"
  | forceDiscard => "force_discard"

def overrideTierMap : OverrideAction → Tier
  | .forcePersist => .persistent
  | .forceDiscard => .archived

/-- `OVERRIDE-` and the action in upper case. -/
def OverrideAction.transitionRule : OverrideAction → Text
  | forcePersist => "OVERRIDE-FORCE_PERSIST".toList
  | forceDiscard => "OVERRIDE-FORCE_DISCARD".toList

structure TierOverrideResponse where
  contentId : ContentId
  overrideAction : OverrideAction
  overrideBy : Text
  overrideReason : Text
  previousTier : Tier
  newTier : Tier
  governanceEventId : EventId
deriving DecidableEq

structure TierRollbackResponse where
  contentId : ContentId
  rolledBackFrom : Tier
  rolledBackTo : Tier
  rollbackBy : Text
  rollbackReason : Text
  governanceEventId : EventId
  priorEventId : EventId
deriving DecidableEq

def notFound (contentId : ContentId) : OperationError :=
  .http 404 ("Content " ++ toString contentId ++ " not found")

def tierOverride (db : Database) (now : Timestamp) (contentId : ContentId)
    (overrideAction : OverrideAction) (overrideBy overrideReason : Text) (auth : AuthContext) :
    Except OperationError (Database × TierOverrideResponse) :=
  let newTier := overrideTierMap overrideAction
  match fetchContentTier db contentId with
  | none => .error (notFound contentId)
  | some previousTier =>
    match validateTransition (some previousTier) newTier .humanOverride with
    | .error error => .error (.http 422 error.message)
    | .ok () =>
      match updateContentTier db contentId newTier "governance_override:human".toList now with
      | .error error => .error error
      | .ok db =>
        match emitEvent db fun eventId =>
            { eventId, contentId, workspaceId := some auth.workspaceId,
              previousTier := some previousTier, newTier,
              transitionReason := ("human_override:" ++ overrideAction.label ++ ":by=").toList ++
                overrideBy ++ ":reason=".toList ++ overrideReason.take 200,
              transitionRule := overrideAction.transitionRule, triggerType := .humanOverride,
              triggerSource := .admin, createdAt := now } with
        | .error error => .error error
        | .ok (db, event) =>
          .ok (db, { contentId, overrideAction, overrideBy, overrideReason, previousTier, newTier,
                     governanceEventId := event.eventId })

/-- `ORDER BY created_at DESC`. -/
def latestFirst (a b : TierTransitionEvent) : Prop := b.createdAt ≤ a.createdAt

instance : DecidableRel latestFirst := fun _ _ => inferInstanceAs (Decidable (_ ≤ _))

def latestEvent (db : Database) (contentId : ContentId) : Option TierTransitionEvent :=
  selectFirst latestFirst
    (db.governanceEvents.filter fun event => event.contentId == contentId)

def isCleanupArchiveRollback (currentTier : Tier) (latest : TierTransitionEvent) : Bool :=
  currentTier == .archived && latest.newTier == .archived && latest.triggerSource == .cleanup &&
    latest.previousTier.isSome

def tierRollback (db : Database) (now : Timestamp) (contentId : ContentId)
    (rollbackBy rollbackReason : Text) (auth : AuthContext) :
    Except OperationError (Database × TierRollbackResponse) :=
  match fetchContentTier db contentId with
  | none => .error (notFound contentId)
  | some currentTier =>
    match latestEvent db contentId with
    | none =>
      .error (.http 422 ("No governance event history found for content " ++
        toString contentId ++ ". Cannot determine prior state — rollback unavailable."))
    | some latest =>
      let isCleanup := isCleanupArchiveRollback currentTier latest
      if isTerminal (some currentTier) && !isCleanup then
        .error (.http 422 ("Cannot roll back from terminal tier " ++ quoted currentTier.label ++
          ". Terminal states are irreversible by design unless the latest " ++
          "archived transition was emitted by cleanup with previous_tier."))
      else match latest.previousTier with
      | none =>
        .error (.http 422 ("Most recent event was the initial tier assignment " ++
          "(previous_tier=None). There is no prior tier to restore. " ++
          "Use force_discard override to archive if needed."))
      | some priorTier =>
        match if isCleanup then .ok ()
            else validateTransition (some currentTier) priorTier .humanOverride with
        | .error error => .error (.http 422 error.message)
        | .ok () =>
          match updateContentTier db contentId priorTier
              "governance_override:rollback".toList now with
          | .error error => .error error
          | .ok db =>
            match emitEvent db fun eventId =>
                { eventId, contentId, workspaceId := some auth.workspaceId,
                  previousTier := some currentTier, newTier := priorTier,
                  transitionReason := "rollback:by=".toList ++ rollbackBy ++
                    ":reason=".toList ++ rollbackReason.take 200 ++
                    (":reverts_event=" ++ toString latest.eventId).toList,
                  transitionRule := "ROLLBACK".toList, triggerType := .humanOverride,
                  triggerSource := .admin, createdAt := now } with
            | .error error => .error error
            | .ok (db, event) =>
              .ok (db, { contentId, rolledBackFrom := currentTier, rolledBackTo := priorTier,
                         rollbackBy, rollbackReason, governanceEventId := event.eventId,
                         priorEventId := latest.eventId })

/-! ## Cleanup -/

inductive CleanupDetail where
  | escalationExpired (escalationId : EscalationId)
  | contentArchived (contentId : ContentId)
deriving DecidableEq

structure CleanupResult where
  dryRun : Bool
  escalationsExpired : ℕ := 0
  contentArchived : ℕ := 0
  skippedConflicted : ℕ := 0
  skippedPendingEscalation : ℕ := 0
  details : List CleanupDetail := []
deriving DecidableEq

def isStale (now : Timestamp) (row : Escalation) : Bool :=
  row.status == .pending && decide (row.expiresAt < now)

def setExpired (row : Escalation) : Escalation := { row with status := .expired }

/-- The rows that the cleanup goes through: old and on a tier it looks at. -/
def isCandidate (now : Timestamp) (workspaceId : WorkspaceId) (item : ContentItem) : Bool :=
  (item.tier == some .transient || item.tier == some .conflicted) &&
    decide (item.createdAt + 7 * day < now) && item.workspaceId == some workspaceId

def ruleTransientTtl : Text := "ttl_expired:transient_7d".toList

def setArchived (item : ContentItem) : ContentItem :=
  { item with tier := some .archived, tierReason := some ruleTransientTtl }

def archiveEvent (db : Database) (now : Timestamp) (item : ContentItem) : TierTransitionEvent :=
  { eventId := freshId (db.governanceEvents.map (·.eventId)), contentId := item.contentId,
    workspaceId := item.workspaceId, previousTier := item.tier, newTier := .archived,
    transitionReason := ruleTransientTtl, transitionRule := "TTL_TRANSIENT_7D".toList,
    triggerType := .system, triggerSource := .cleanup, createdAt := now }

def archiveContent (db : Database) (now : Timestamp) (item : ContentItem) : Database :=
  { db with
    contentItems := updateWhere (hasContentId item.contentId) setArchived db.contentItems
    governanceEvents := db.governanceEvents ++ [archiveEvent db now item] }

def hasPendingEscalation (db : Database) (contentId : ContentId) : Bool :=
  db.escalations.any fun row => row.contentId == some contentId && row.status == .pending

def inHub (db : Database) (contentId : ContentId) : Bool :=
  db.hubContent.any (·.contentId == contentId)

def inDecision (db : Database) (contentId : ContentId) : Bool :=
  db.decisionNodes.any fun node => node.sourceContentIds.any (· == contentId)

/-- One round of the loop over the candidates. -/
def cleanupCandidate (now : Timestamp) (progress : Database × CleanupResult)
    (item : ContentItem) : Database × CleanupResult :=
  let (db, result) := progress
  if item.tier = some .conflicted then
    (db, { result with skippedConflicted := result.skippedConflicted + 1 })
  else if hasPendingEscalation db item.contentId then
    (db, { result with skippedPendingEscalation := result.skippedPendingEscalation + 1 })
  else if inHub db item.contentId || inDecision db item.contentId then (db, result)
  else
    (if result.dryRun then db else archiveContent db now item,
      { result with
        contentArchived := result.contentArchived + 1
        details := result.details ++ [.contentArchived item.contentId] })

def expireEscalations (db : Database) (now : Timestamp) : Database :=
  { db with escalations := updateWhere (isStale now) setExpired db.escalations }

def cleanupTtl (db : Database) (now : Timestamp) (dryRun : Bool) (auth : AuthContext) :
    Database × CleanupResult :=
  let stale := db.escalations.filter (isStale now)
  let db := if dryRun then db else expireEscalations db now
  let result : CleanupResult :=
    { dryRun, escalationsExpired := stale.length
      details := stale.map fun row => .escalationExpired row.escalationId }
  (db.contentItems.filter (isCandidate now auth.workspaceId)).foldl (cleanupCandidate now)
    (db, result)

/-! ## Runs -/

inductive TierOperation where
  | saveEscalation (now : Timestamp) (plan : EscalationPlan)
  | resolve (now : Timestamp) (escalationId : EscalationId) (auth : AuthContext)
      (decision : Decision)
  | override (now : Timestamp) (contentId : ContentId) (overrideAction : OverrideAction)
      (overrideBy overrideReason : Text) (auth : AuthContext)
  | rollback (now : Timestamp) (contentId : ContentId) (rollbackBy rollbackReason : Text)
      (auth : AuthContext)
  | cleanup (now : Timestamp) (dryRun : Bool) (auth : AuthContext)
deriving DecidableEq

/-- The database after a request: an error rolls the transaction back. -/
def committedOr {α : Type*} (db : Database) :
    Except OperationError (Database × α) → Database
  | .ok (next, _) => next
  | .error _ => db

def tierStep (db : Database) : TierOperation → Database
  | .saveEscalation now plan => committedOr db (persistEscalation db now plan)
  | .resolve now escalationId auth decision =>
    committedOr db (TierOperations.resolve db now escalationId auth decision)
  | .override now contentId overrideAction overrideBy overrideReason auth =>
    committedOr db (tierOverride db now contentId overrideAction overrideBy overrideReason auth)
  | .rollback now contentId rollbackBy rollbackReason auth =>
    committedOr db (tierRollback db now contentId rollbackBy rollbackReason auth)
  | .cleanup now dryRun auth => (cleanupTtl db now dryRun auth).1

end MemoryLab.TierOperations

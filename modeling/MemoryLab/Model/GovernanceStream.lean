import MemoryLab.Model.GovernancePersistence
import MemoryLab.Model.TierOperations

/-! # One event table for two features

`cb_governance_events` holds the tier transitions and the state events that the persistence
backend appends. The rollback reads the newest row of a content, of either kind. -/

namespace MemoryLab.GovernanceStream

open Library Library.Rows TransitionMatrix TierOperations Persistence Governance

variable {M : Type}

/-- The events of the table are those of both parts. -/
structure SharedDatabase (M : Type) where
  tiers : Database
  store : GovernanceStore M

def contentOf (row : StoredGovernanceEvent M) : Option ContentId :=
  row.contentId.map (·.bits.toNat)

def newestFirst (a b : StoredGovernanceEvent M) : Prop := b.createdAt ≤ a.createdAt

instance : DecidableRel (newestFirst (M := M)) := fun _ _ => inferInstanceAs (Decidable (_ ≤ _))

/-- The newest row of a content, when it is a state event. -/
def newestStateEvent (s : SharedDatabase M) (contentId : ContentId) :
    Option (StoredGovernanceEvent M) :=
  (selectFirst newestFirst
    (s.store.governanceEvents.filter fun row => contentOf row == some contentId)).filter fun row =>
      (latestEvent s.tiers contentId).all fun event => event.createdAt < row.createdAt

def everyTier : List Tier :=
  [.discard, .transient, .probationary, .persistent, .decisionArtifact, .conflicted, .superseded,
    .decayed, .archived]

def Tier.ofText? (text : Text) : Option Tier :=
  everyTier.find? fun tier => tier.label.toList == text

/-! ## The rollback -/

/-- `tier_rollback` where the newest row is a state event. Its tiers are texts, so what the
matrix lets through may still fail the cast to `memory_tier`. -/
def rollbackToStated (db : Database) (row : StoredGovernanceEvent M) (now : Timestamp)
    (contentId : ContentId) (rollbackBy rollbackReason : Text) (auth : AuthContext) :
    Except OperationError (Database × TierRollbackResponse) :=
  match fetchContentTier db contentId with
  | none => .error (notFound contentId)
  | some currentTier =>
    let isCleanup := currentTier == .archived && row.newTier == "archived".toList &&
      row.triggerSource == .cleanup && row.previousTier.isSome
    if isTerminal (some currentTier) && !isCleanup then
      .error (.http 422 ("Cannot roll back from terminal tier " ++ quoted currentTier.label ++
        ". Terminal states are irreversible by design unless the latest " ++
        "archived transition was emitted by cleanup with previous_tier."))
    else match row.previousTier with
    | none =>
      .error (.http 422 ("Most recent event was the initial tier assignment " ++
        "(previous_tier=None). There is no prior tier to restore. " ++
        "Use force_discard override to archive if needed."))
    | some stated =>
      match Tier.ofText? stated with
      | none => .error (.database .invalidEnum)
      | some priorTier =>
        match if isCleanup then .ok ()
            else validateTransition (some currentTier) priorTier .humanOverride with
        | .error error => .error (.http 422 error.message)
        | .ok () =>
          match updateContentTier db contentId priorTier
              "governance_override:rollback".toList now with
          | .error error => .error error
          | .ok db =>
            match emitEvent db fun eventId =>
                { eventId, contentId, workspaceId := some auth.workspaceId,
                  previousTier := some currentTier, newTier := priorTier,
                  transitionReason := "rollback:by=".toList ++ rollbackBy ++
                    ":reason=".toList ++ rollbackReason.take 200 ++
                    ":reverts_event=".toList ++ row.eventId.text,
                  transitionRule := "ROLLBACK".toList, triggerType := .humanOverride,
                  triggerSource := .admin, createdAt := now } with
            | .error error => .error error
            | .ok (db, event) =>
              .ok (db, { contentId, rolledBackFrom := currentTier, rolledBackTo := priorTier,
                         rollbackBy, rollbackReason, governanceEventId := event.eventId,
                         priorEventId := row.eventId.bits.toNat })

def tierRollback (s : SharedDatabase M) (now : Timestamp) (contentId : ContentId)
    (rollbackBy rollbackReason : Text) (auth : AuthContext) :
    Except OperationError (Database × TierRollbackResponse) :=
  match newestStateEvent s contentId with
  | some row => rollbackToStated s.tiers row now contentId rollbackBy rollbackReason auth
  | none => TierOperations.tierRollback s.tiers now contentId rollbackBy rollbackReason auth

/-! ## Runs -/

inductive Operation (M : Type) where
  | tier (operation : TierOperation)
  | append (stamp : Postgres.Stamp) (event : GovernanceStateEventContract M)

/-- The database after a request on the tiers. -/
def tiersAfter (s : SharedDatabase M) : TierOperation → Database
  | .rollback now contentId rollbackBy rollbackReason auth =>
    committedOr s.tiers (tierRollback s now contentId rollbackBy rollbackReason auth)
  | operation => tierStep s.tiers operation

def sharedStep [EmptyCollection M] (env : Environment M) (s : SharedDatabase M) :
    Operation M → SharedDatabase M
  | .tier operation => { s with tiers := tiersAfter s operation }
  | .append stamp event =>
    { s with store := (Postgres.appendGovernanceEvent env s.store stamp event).1 }

/-- A request that goes through and assigns a tier to a content. -/
def assignsTier (s : SharedDatabase M) (contentId : ContentId) : TierOperation → Bool
  | .saveEscalation now plan =>
    plan.severity == .requiresReview && plan.contentId == contentId &&
      (persistEscalation s.tiers now plan).isOk
  | .resolve now escalationId auth decision =>
    (fetchWorkspaceEscalation s.tiers escalationId auth.workspaceId).any
        (·.contentId == some contentId) &&
      (TierOperations.resolve s.tiers now escalationId auth decision).isOk
  | .override now other overrideAction overrideBy overrideReason auth =>
    other == contentId &&
      (tierOverride s.tiers now other overrideAction overrideBy overrideReason auth).isOk
  | .rollback now other rollbackBy rollbackReason auth =>
    other == contentId && (tierRollback s now other rollbackBy rollbackReason auth).isOk
  | .cleanup now dryRun auth =>
    !dryRun && (cleanupTtl s.tiers now dryRun auth).2.details.contains (.contentArchived contentId)

end MemoryLab.GovernanceStream

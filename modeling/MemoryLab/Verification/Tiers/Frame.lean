import MemoryLab.Model.Requests
import MemoryLab.Verification.Save.Frame

/-! # What the tier operations leave alone -/

namespace MemoryLab.TierOperations

open Library Library.Rows TransitionMatrix Adapter

theorem updateContentTier_decorates {db next : Database} {contentId : ContentId}
    {newTier : Tier} {tierReason : Text} {now : Timestamp}
    (h : updateContentTier db contentId newTier tierReason now = .ok next) :
    Decorates db next := by
  unfold updateContentTier at h
  split at h
  · cases h
  · cases h
    exact decorates_updateWhere db _ fun _ => rfl

theorem resolve_decorates {db next : Database} {now : Timestamp} {escalationId : EscalationId}
    {auth : AuthContext} {decision : Decision} {row : Escalation}
    (h : resolve db now escalationId auth decision = .ok (next, row)) : Decorates db next := by
  unfold resolve at h
  dsimp only at h
  split at h
  · cases h
  · split at h
    · cases h
    · split at h
      · cases h
      · split at h
        · cases h
        · rename_i flipped hflipped
          have hdecorates : Decorates db flipped := by
            split at hflipped
            · cases hflipped
              exact Decorates.refl db
            · split at hflipped
              · cases hflipped
              · rename_i updated hupdate
                generalize hemit : emitEvent updated _ = outcome at hflipped
                cases outcome with
                | error error => cases hflipped
                | ok outcome =>
                    cases hflipped
                    exact Decorates.trans _ _ _ (updateContentTier_decorates hupdate)
                      (emitEvent_decorates hemit)
          split at h
          · cases h
          · cases h
            exact Decorates.trans _ _ _ hdecorates ⟨⟨rfl, rfl⟩, rfl⟩

theorem tierOverride_decorates {db next : Database} {now : Timestamp} {contentId : ContentId}
    {overrideAction : OverrideAction} {overrideBy overrideReason : Text} {auth : AuthContext}
    {response : TierOverrideResponse}
    (h : tierOverride db now contentId overrideAction overrideBy overrideReason auth =
      .ok (next, response)) : Decorates db next := by
  unfold tierOverride at h
  dsimp only at h
  split at h
  · cases h
  · split at h
    · cases h
    · split at h
      · cases h
      · rename_i hupdate
        split at h
        · cases h
        · rename_i hemit
          cases h
          exact Decorates.trans _ _ _ (updateContentTier_decorates hupdate)
            (emitEvent_decorates hemit)

theorem tierRollback_decorates {db next : Database} {now : Timestamp} {contentId : ContentId}
    {rollbackBy rollbackReason : Text} {auth : AuthContext} {response : TierRollbackResponse}
    (h : tierRollback db now contentId rollbackBy rollbackReason auth = .ok (next, response)) :
    Decorates db next := by
  unfold tierRollback at h
  split at h
  · cases h
  · split at h
    · cases h
    · dsimp only at h
      split at h
      · cases h
      · split at h
        · cases h
        · split at h
          · cases h
          · split at h
            · cases h
            · rename_i hupdate
              split at h
              · cases h
              · rename_i hemit
                cases h
                exact Decorates.trans _ _ _ (updateContentTier_decorates hupdate)
                  (emitEvent_decorates hemit)

theorem cleanupCandidate_decorates (now : Timestamp) (progress : Database × CleanupResult)
    (item : ContentItem) : Decorates progress.1 (cleanupCandidate now progress item).1 := by
  obtain ⟨db, result⟩ := progress
  unfold cleanupCandidate
  dsimp only
  split
  · exact Decorates.refl db
  · split
    · exact Decorates.refl db
    · split
      · exact Decorates.refl db
      · dsimp only
        split
        · exact Decorates.refl db
        · exact ⟨⟨map_updateWhere rowKey (by intro _; rfl) _, rfl⟩, rfl⟩

theorem cleanupTtl_decorates (db : Database) (now : Timestamp) (dryRun : Bool)
    (auth : AuthContext) : Decorates db (cleanupTtl db now dryRun auth).1 := by
  have hfold : ∀ (candidates : List ContentItem) (progress : Database × CleanupResult),
      Decorates progress.1 (candidates.foldl (cleanupCandidate now) progress).1 := by
    intro candidates
    induction candidates with
    | nil => exact fun progress => Decorates.refl progress.1
    | cons item candidates ih =>
        exact fun progress => Decorates.trans _ _ _
          (cleanupCandidate_decorates now progress item) (ih _)
  have hstart : Decorates db (if dryRun then db else expireEscalations db now) := by
    split
    · exact Decorates.refl db
    · exact ⟨⟨rfl, rfl⟩, rfl⟩
  exact Decorates.trans _ _ _ hstart (hfold _ (_, _))

theorem tierStep_decorates (db : Database) (operation : TierOperation) :
    Decorates db (tierStep db operation) := by
  have hcommitted {α : Type} {outcome : Except OperationError (Database × α)}
      (h : ∀ next answer, outcome = .ok (next, answer) → Decorates db next) :
      Decorates db (committedOr db outcome) := by
    rcases outcome with error | ⟨next, answer⟩
    · exact Decorates.refl db
    · exact h next answer rfl
  cases operation with
  | saveEscalation now plan => exact hcommitted fun _ _ => persistEscalation_decorates
  | resolve now escalationId auth decision => exact hcommitted fun _ _ => resolve_decorates
  | override now contentId overrideAction overrideBy overrideReason auth =>
      exact hcommitted fun _ _ => tierOverride_decorates
  | rollback now contentId rollbackBy rollbackReason auth =>
      exact hcommitted fun _ _ => tierRollback_decorates
  | cleanup now dryRun auth => exact cleanupTtl_decorates db now dryRun auth

end MemoryLab.TierOperations

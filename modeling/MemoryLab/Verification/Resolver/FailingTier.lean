import MemoryLab.Model.ResolverTransaction
import MemoryLab.Verification.Resolver.Equations

/-! # A tier whose query fails

The pipeline goes on to the next tier, but the transaction of the connection is aborted, so the
first statement of the resolver fails after it. -/

namespace MemoryLab.Resolver

open Library Library.Rows ScopePipeline

/-- The database as the pipeline would read it if the failing tiers found no match. -/
def withoutMatches (faults : TierFaults) (db : Database) : Database :=
  { db with
    anchors := if faults.lineage then [] else db.anchors
    hubs := if faults.hub then [] else db.hubs }

/-- The call whose failing tiers are skipped. -/
def resolveSkipping (faults : TierFaults) (db : Database) (now : Timestamp)
    (args : ResolveArgs) : CallResult :=
  match args.admission with
  | .error reason => (.ok (noopResolution args reason), ⟨db, false⟩)
  | .ok call =>
    let scope := resolveScope (withoutMatches faults db) args.scopeRequest
    writeScopeOn ⟨db, false⟩ now args call scope

/-- The query of a tier is sent and raises: the lineage's for a text with tokens, the hubs' where
the lineage has found no scope. -/
def FailingQuery (faults : TierFaults) (db : Database) (workspaceId : WorkspaceId)
    (text : Text) : Prop :=
  (contentTokens text ≠ [] ∧ faults.lineage = true) ∨
    (specificScope (matchLineageScope db.anchors workspaceId text) = none ∧
      text.lower.strip ≠ [] ∧ faults.hub = true)

/-- A call reaches a failing query: it is admitted, and neither a hint nor a marker names its
scope. -/
def ReachesFailingQuery (faults : TierFaults) (db : Database) (args : ResolveArgs) : Prop :=
  ∃ call, args.admission = .ok call ∧ nonBlank args.scopeHint = false ∧
    nonBlank (extractMarker args.contentText) = false ∧
    (args.contentText.getD []).strip ≠ [] ∧
    FailingQuery faults db call.workspaceId (args.contentText.getD []).strip

/-! ## The tiers -/

section Tiers

variable {faults : TierFaults} {db : Database} {workspaceId : WorkspaceId} {text : Text}

@[simp] theorem matchLineageScope_nil : matchLineageScope [] workspaceId text = none := by
  simp [matchLineageScope, lineageScopes, uniqueBest]

@[simp] theorem specificScope_none : specificScope none = none := rfl

theorem matchLineageScope_of_no_tokens (h : contentTokens text = []) (db : Database) :
    matchLineageScope db.anchors workspaceId text = none := by
  simp [matchLineageScope, h]

/-- A lineage query that does not raise leaves the transaction as it is. -/
theorem tryTier_lineage (h : ¬ (contentTokens text ≠ [] ∧ faults.lineage = true)) :
    tryTier (matchLineageScopeOn faults workspaceId text ⟨db, false⟩) =
      (specificScope (matchLineageScope (withoutMatches faults db).anchors workspaceId text),
        ⟨db, false⟩) := by
  by_cases htokens : contentTokens text = []
  · simp [matchLineageScopeOn, htokens, tryTier, matchLineageScope]
  · have hfault : faults.lineage = false := by simpa [htokens] using h
    simp [matchLineageScopeOn, htokens, hfault, tryTier, Connection.run, query, withoutMatches]

theorem tryTier_hub (h : ¬ (text.lower.strip ≠ [] ∧ faults.hub = true)) :
    tryTier (matchHubScopeOn faults workspaceId text ⟨db, false⟩) =
      (specificScope (matchHubScope (withoutMatches faults db).hubs workspaceId text),
        ⟨db, false⟩) := by
  by_cases hblank : text.lower.strip = []
  · simp [matchHubScopeOn, hblank, tryTier, matchHubScope]
  · have hfault : faults.hub = false := by simpa [hblank] using h
    simp [matchHubScopeOn, hblank, hfault, tryTier, Connection.run, query, withoutMatches]

/-- A lineage query that raises finds nothing and aborts the transaction. -/
theorem tryTier_lineage_failing (htokens : contentTokens text ≠ [])
    (hfault : faults.lineage = true) :
    tryTier (matchLineageScopeOn faults workspaceId text ⟨db, false⟩) =
      (none, ⟨db, true⟩) := by
  simp [matchLineageScopeOn, htokens, hfault, tryTier, Connection.run, query]

theorem tryTier_hub_failing (hblank : text.lower.strip ≠ []) (hfault : faults.hub = true) :
    tryTier (matchHubScopeOn faults workspaceId text ⟨db, false⟩) = (none, ⟨db, true⟩) := by
  simp [matchHubScopeOn, hblank, hfault, tryTier, Connection.run, query]

/-- An aborted transaction stays aborted, and the hubs are not read. -/
theorem tryTier_hub_aborted (db : Database) :
    tryTier (matchHubScopeOn faults workspaceId text ⟨db, true⟩) = (none, ⟨db, true⟩) := by
  unfold matchHubScopeOn
  split
  · rfl
  · rw [Connection.run_of_aborted rfl]
    rfl

/-- The two tiers of the skipping pipeline. -/
def skippedTiers (faults : TierFaults) (db : Database) (workspaceId : WorkspaceId) (text : Text) :
    Option ScopeResolution :=
  let read := withoutMatches faults db
  match specificScope (matchLineageScope read.anchors workspaceId text),
    specificScope (matchHubScope read.hubs workspaceId text) with
  | some scope, _ => some ⟨scope, .lineage⟩
  | none, some scope => some ⟨scope, .hubAlias⟩
  | none, none => none

theorem databaseTiers_eq (h : ¬ FailingQuery faults db workspaceId text) :
    databaseTiers faults workspaceId text ⟨db, false⟩ =
      (skippedTiers faults db workspaceId text, ⟨db, false⟩) := by
  rw [FailingQuery, not_or] at h
  rw [databaseTiers, tryTier_lineage h.1]
  unfold skippedTiers
  dsimp only
  cases hlineage : specificScope
      (matchLineageScope (withoutMatches faults db).anchors workspaceId text) with
  | some scope => rfl
  | none =>
      -- Without a fault the lineage reads the anchors themselves, with one it has no tokens.
      have hread : specificScope (matchLineageScope db.anchors workspaceId text) = none := by
        by_cases htokens : contentTokens text = []
        · rw [matchLineageScope_of_no_tokens htokens]
          rfl
        · have hfault : faults.lineage = false := by simpa [htokens] using h.1
          simpa [withoutMatches, hfault] using hlineage
      have hhub : tryTier (matchHubScopeOn faults workspaceId text ⟨db, false⟩) = _ :=
        tryTier_hub fun hfails => h.2 ⟨hread, hfails⟩
      dsimp only
      rw [hhub]
      cases specificScope (matchHubScope (withoutMatches faults db).hubs workspaceId text) <;> rfl

theorem databaseTiers_aborted (h : FailingQuery faults db workspaceId text) :
    (databaseTiers faults workspaceId text ⟨db, false⟩).2.aborted = true := by
  by_cases hlineage : contentTokens text ≠ [] ∧ faults.lineage = true
  · rw [databaseTiers, tryTier_lineage_failing hlineage.1 hlineage.2]
    dsimp only
    rw [tryTier_hub_aborted]
  · obtain ⟨hnone, hblank, hfault⟩ := h.resolve_left hlineage
    have hread : specificScope
        (matchLineageScope (withoutMatches faults db).anchors workspaceId text) = none := by
      unfold withoutMatches
      dsimp only
      split
      · rw [matchLineageScope_nil]
        rfl
      · exact hnone
    rw [databaseTiers, tryTier_lineage hlineage, hread]
    dsimp only
    rw [tryTier_hub_failing hblank hfault]

end Tiers

/-! ## The pipeline -/

section Pipeline

variable {faults : TierFaults} {db : Database} {request : ScopeRequest}

/-- The request asks the database in a workspace. -/
structure AsksDatabase (request : ScopeRequest) (workspaceId : WorkspaceId) : Prop where
  workspace : request.workspaceId = some workspaceId
  hint : nonBlank request.scopeHint = false
  marker : nonBlank (extractMarker request.contentText) = false
  text : (request.contentText.getD []).strip ≠ []

theorem resolveScopeOn_of_asks {workspaceId : WorkspaceId} (h : AsksDatabase request workspaceId)
    (conn : Connection Database) :
    resolveScopeOn faults conn request =
      ((databaseTiers faults workspaceId (request.contentText.getD []).strip conn).1.getD
          (fallbackResolution request),
        (databaseTiers faults workspaceId (request.contentText.getD []).strip conn).2) := by
  simp [resolveScopeOn, h.hint, h.marker, h.workspace, h.text]

theorem resolveScope_of_asks {workspaceId : WorkspaceId} (h : AsksDatabase request workspaceId) :
    resolveScope (withoutMatches faults db) request =
      (skippedTiers faults db workspaceId (request.contentText.getD []).strip).getD
        (fallbackResolution request) := by
  simp only [resolveScope, h.hint, h.marker, h.workspace, h.text, Option.bind_some, if_false,
    Bool.false_eq_true, skippedTiers]
  cases specificScope (matchLineageScope (withoutMatches faults db).anchors workspaceId
      (request.contentText.getD []).strip) with
  | some scope => rfl
  | none =>
      cases specificScope (matchHubScope (withoutMatches faults db).hubs workspaceId
          (request.contentText.getD []).strip) <;> rfl

/-- A request that does not ask the database is resolved without its connection. -/
theorem resolveScopeOn_of_not_asks
    (h : ∀ workspaceId, ¬ AsksDatabase request workspaceId) (conn : Connection Database) :
    resolveScopeOn faults conn request = (resolveScope db request, conn) := by
  unfold resolveScopeOn resolveScope
  dsimp only
  by_cases hhint : nonBlank request.scopeHint = true
  · simp [hhint]
  · by_cases hmarker : nonBlank (extractMarker request.contentText) = true
    · simp [hhint, hmarker]
    · simp only [hhint, hmarker, if_false, Bool.false_eq_true]
      cases hworkspace : request.workspaceId with
      | none => rfl
      | some workspaceId =>
          have htext : (request.contentText.getD []).strip = [] := by
            by_contra htext
            exact h workspaceId ⟨hworkspace, by simpa using hhint, by simpa using hmarker, htext⟩
          simp [htext, fallbackResolution]

/-- Where no query fails, the pipeline on the connection is the skipping one. -/
theorem resolveScopeOn_eq
    (h : ∀ workspaceId, AsksDatabase request workspaceId →
      ¬ FailingQuery faults db workspaceId (request.contentText.getD []).strip) :
    resolveScopeOn faults ⟨db, false⟩ request =
      (resolveScope (withoutMatches faults db) request, ⟨db, false⟩) := by
  by_cases hasks : ∃ workspaceId, AsksDatabase request workspaceId
  · obtain ⟨workspaceId, hasks⟩ := hasks
    rw [resolveScopeOn_of_asks hasks, resolveScope_of_asks hasks,
      databaseTiers_eq (h workspaceId hasks)]
  · exact resolveScopeOn_of_not_asks (not_exists.mp hasks) ⟨db, false⟩

end Pipeline

/-! ## The call -/

/-- Without faults the call is the one whose statements are its database's. -/
theorem resolveOn_faultless (db : Database) (now : Timestamp) (args : ResolveArgs) :
    resolveOn {} ⟨db, false⟩ now args =
      match resolveCurrentStateAfterIngest db now args with
      | .ok (next, resolution) => (.ok resolution, ⟨next, false⟩)
      | .error error => (.error (.statement (.database error)), ⟨db, true⟩) := by
  have hscope : resolveScopeOn {} ⟨db, false⟩ args.scopeRequest =
      (resolveScope db args.scopeRequest, ⟨db, false⟩) :=
    resolveScopeOn_eq fun workspaceId _ => by simp [FailingQuery]
  unfold resolveOn resolveCurrentStateAfterIngest
  cases args.admission with
  | error reason => rfl
  | ok call =>
      dsimp only
      rw [hscope]
      cases hidentity : args.identity with
      | none => simp [writeScopeOn, Connection.run, writeScope, hidentity, Except.map,
          Except.mapError]
      | some stateIdentity =>
          simp only [writeScopeOn, Connection.run, writeScope, hidentity, Bool.false_eq_true,
            if_false]
          cases resolveIdentity db now args call stateIdentity
            (resolveScope db args.scopeRequest) <;> rfl

theorem asksDatabase_iff {args : ResolveArgs} {call : AdmittedCall}
    (h : args.admission = .ok call) :
    AsksDatabase args.scopeRequest call.workspaceId ↔
      nonBlank args.scopeHint = false ∧ nonBlank (extractMarker args.contentText) = false ∧
        (args.contentText.getD []).strip ≠ [] :=
  ⟨fun hasks => ⟨hasks.hint, hasks.marker, hasks.text⟩, fun ⟨hhint, hmarker, htext⟩ =>
    ⟨(admission_eq_ok_iff.mp h).workspaceId, hhint, hmarker, htext⟩⟩

/-- After a failing query the call raises. -/
theorem resolveOn_of_reaches {faults : TierFaults} {db : Database} {args : ResolveArgs}
    (h : ReachesFailingQuery faults db args) (now : Timestamp) :
    (resolveOn faults ⟨db, false⟩ now args).1 = .error .inFailedTransaction := by
  obtain ⟨call, hadmission, hhint, hmarker, htext, hfails⟩ := h
  have hasks := (asksDatabase_iff hadmission).mpr ⟨hhint, hmarker, htext⟩
  unfold resolveOn
  rw [hadmission]
  dsimp only
  rw [resolveScopeOn_of_asks hasks, writeScopeOn, Connection.run_of_aborted]
  exact databaseTiers_aborted hfails

/-- A call skips its failing tiers only where it reaches none of them. -/
theorem skipsFailingTiers_iff (faults : TierFaults) (db : Database) (now : Timestamp)
    (args : ResolveArgs) :
    resolveOn faults ⟨db, false⟩ now args = resolveSkipping faults db now args ↔
      ¬ ReachesFailingQuery faults db args := by
  constructor
  · intro h hreaches
    have hraises := resolveOn_of_reaches hreaches now
    obtain ⟨call, hadmission, -⟩ := hreaches
    rw [h, resolveSkipping, hadmission] at hraises
    exact Connection.run_ne_inFailedTransaction db _ hraises
  · intro h
    unfold resolveOn resolveSkipping
    cases hadmission : args.admission with
    | error reason => rfl
    | ok call =>
        have hworkspace := (admission_eq_ok_iff.mp hadmission).workspaceId
        have hscope : resolveScopeOn faults ⟨db, false⟩ args.scopeRequest =
            (resolveScope (withoutMatches faults db) args.scopeRequest, ⟨db, false⟩) := by
          refine resolveScopeOn_eq fun workspaceId hasks hfails => h ?_
          obtain rfl := Option.some.inj (hasks.workspace.symm.trans hworkspace)
          exact ⟨call, hadmission, hasks.hint, hasks.marker, hasks.text, hfails⟩
        dsimp only
        rw [hscope]

/-- A plain text whose lineage query is cancelled. -/
def cancelledArgs : ResolveArgs :=
  { workspaceId := some 1, contentId := some 1, memoryType := some .decision
    classifyConfidence := some (9 / 10), contentText := some "plan".toList }

theorem not_skipsFailingTiers :
    ¬ ∀ faults db now args, faults.lineage = true ∨ faults.hub = true →
      resolveOn faults ⟨db, false⟩ now args = resolveSkipping faults db now args := by
  intro h
  have hreaches : ReachesFailingQuery ⟨true, false⟩ {} cancelledArgs :=
    ⟨⟨9 / 10, 1, 1, .decision⟩, by decide +kernel, by decide, by decide, by decide,
      .inl ⟨by decide, rfl⟩⟩
  have hraises := resolveOn_of_reaches hreaches 0
  rw [h _ _ _ _ (.inl rfl)] at hraises
  revert hraises
  decide +kernel

end MemoryLab.Resolver

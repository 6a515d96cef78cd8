import MemoryLab.Library.Connection
import MemoryLab.Model.Resolver

/-! # The resolver on its connection

The tiers of the scope pipeline and the statements of the resolver share one transaction. -/

namespace MemoryLab.Resolver

open Library Library.Rows ScopePipeline

inductive StatementError where
  | queryFailed
  | database (error : DbError)
deriving DecidableEq

/-- Which of the queries of the two tiers raise. -/
structure TierFaults where
  lineage : Bool := false
  hub : Bool := false
deriving DecidableEq

/-- A `SELECT` that may raise. -/
def query (fails : Bool) (rows : Database → Option Text) (db : Database) :
    Except StatementError (Option Text × Database) :=
  if fails then .error .queryFailed else .ok (rows db, db)

abbrev TierResult := Except (Failure StatementError) (Option Text) × Connection Database

/-- `_match_lineage_scope` on a connection. -/
def matchLineageScopeOn (faults : TierFaults) (workspaceId : WorkspaceId) (text : Text)
    (conn : Connection Database) : TierResult :=
  if contentTokens text = [] then (.ok none, conn)
  else conn.run (query faults.lineage fun db => matchLineageScope db.anchors workspaceId text)

/-- `_match_hub_scope` on a connection. -/
def matchHubScopeOn (faults : TierFaults) (workspaceId : WorkspaceId) (text : Text)
    (conn : Connection Database) : TierResult :=
  if text.lower.strip = [] then (.ok none, conn)
  else conn.run (query faults.hub fun db => matchHubScope db.hubs workspaceId text)

/-- `except Exception: … scope = None`, and the check of what the tier found. -/
def tryTier (result : TierResult) : Option Text × Connection Database :=
  match result with
  | (.ok scope, conn) => (specificScope scope, conn)
  | (.error _, conn) => (none, conn)

def fallbackResolution (request : ScopeRequest) : ScopeResolution :=
  if nonBlank request.projectTopic then ⟨slugifyScope request.projectTopic, .classifyMetadata⟩
  else if nonBlank request.domainHint then
    ⟨slugifyScope request.domainHint, .keywordHeuristic⟩
  else ⟨globalScope, .globalFallback⟩

/-- The two tiers that ask the database, each once the one before has found nothing. -/
def databaseTiers (faults : TierFaults) (workspaceId : WorkspaceId) (text : Text)
    (conn : Connection Database) : Option ScopeResolution × Connection Database :=
  match tryTier (matchLineageScopeOn faults workspaceId text conn) with
  | (some scope, conn) => (some ⟨scope, .lineage⟩, conn)
  | (none, conn) =>
    match tryTier (matchHubScopeOn faults workspaceId text conn) with
    | (some scope, conn) => (some ⟨scope, .hubAlias⟩, conn)
    | (none, conn) => (none, conn)

/-- `resolve_scope` on a connection. -/
def resolveScopeOn (faults : TierFaults) (conn : Connection Database) (request : ScopeRequest) :
    ScopeResolution × Connection Database :=
  if nonBlank request.scopeHint then (⟨slugifyScope request.scopeHint, .scopeHint⟩, conn)
  else
    let marker := extractMarker request.contentText
    if nonBlank marker then (⟨slugifyScope marker, .marker⟩, conn)
    else
      let text := (request.contentText.getD []).strip
      match request.workspaceId, decide (text = []) with
      | some workspaceId, false =>
        let (found, conn) := databaseTiers faults workspaceId text conn
        (found.getD (fallbackResolution request), conn)
      | _, _ => (fallbackResolution request, conn)

/-- The statements after the scope is known, and the commit. -/
def writeScope (db : Database) (now : Timestamp) (args : ResolveArgs) (call : AdmittedCall)
    (scope : ScopeResolution) : Except DbError (Database × CurrentStateResolution) :=
  match args.identity with
  | none =>
    .ok ({ db with
      contentItems := updateWhere (hasContentId call.contentId) (setScope scope.scope)
        db.contentItems },
      { status := .grouped, reason := .scopeOnlyNoStateIdentity,
        contentId := some call.contentId, workspaceId := some call.workspaceId,
        memoryType := some call.memoryType, currentStateScope := some scope.scope,
        scopeSource := some scope.source, wrote := true })
  | some stateIdentity => resolveIdentity db now args call stateIdentity scope

abbrev CallResult :=
  Except (Failure StatementError) CurrentStateResolution × Connection Database

/-- The first statement of the rest fails where the transaction is aborted. -/
def writeScopeOn (conn : Connection Database) (now : Timestamp) (args : ResolveArgs)
    (call : AdmittedCall) (scope : ScopeResolution) : CallResult :=
  conn.run fun db => ((writeScope db now args call scope).map Prod.swap).mapError .database

def noopResolution (args : ResolveArgs) (reason : ResolutionReason) : CurrentStateResolution :=
  { status := .noop, reason, contentId := args.contentId, workspaceId := args.workspaceId,
    memoryType := args.memoryType }

/-- `resolve_current_state_after_ingest` on a connection. -/
def resolveOn (faults : TierFaults) (conn : Connection Database) (now : Timestamp)
    (args : ResolveArgs) : CallResult :=
  match args.admission with
  | .error reason => (.ok (noopResolution args reason), conn)
  | .ok call =>
    let (scope, conn) := resolveScopeOn faults conn args.scopeRequest
    writeScopeOn conn now args call scope

end MemoryLab.Resolver

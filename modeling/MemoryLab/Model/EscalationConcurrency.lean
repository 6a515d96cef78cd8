import MemoryLab.Library.ReadCommitted
import MemoryLab.Model.TierOperations

/-! # Concurrent resolutions of one escalation

Requests that approve or reject an escalation and runs of the cleanup are transactions under
READ COMMITTED, one statement after another. A phase keeps what earlier statements returned. -/

namespace MemoryLab.Escalations

open Library Library.Rows ReadCommitted TierOperations

structure ResolveRequest where
  now : Timestamp
  auth : AuthContext
  decision : Decision
deriving DecidableEq

structure CleanupRequest where
  now : Timestamp
  dryRun : Bool
  auth : AuthContext
deriving DecidableEq

/-! ## Phases -/

/-- The next statement of a request. `row` is the escalation it has read, and an `UPDATE` that
has started keeps the rows it has still to write. -/
inductive ResolvePhase where
  | selectEscalation
  | selectTier (row : Escalation) (contentId : ContentId)
  | updateContent (row : Escalation) (contentId : ContentId) (previousTier : Option Tier)
      (targets : Option (List ℕ))
  | insertEvent (row : Escalation) (contentId : ContentId) (previousTier : Option Tier)
  | updateEscalation (row : Escalation) (targets : Option (List ℕ))
  | resolved (row updated : Escalation)
  | succeeded (row updated : Escalation)
  | failed (error : OperationError)
deriving DecidableEq

/-- The next statement of a cleanup: `stale` are the escalations it has still to expire, `rest`
the candidates after the one it looks at. -/
inductive CleanupPhase where
  | selectStale
  | expire (stale : List EscalationId) (targets : Option (List ℕ))
  | selectCandidates
  | selectPending (item : ContentItem) (rest : List ContentItem)
  | selectHub (item : ContentItem) (rest : List ContentItem)
  | selectDecision (item : ContentItem) (rest : List ContentItem)
  | archive (item : ContentItem) (rest : List ContentItem) (targets : Option (List ℕ))
  | insertEvent (item : ContentItem) (rest : List ContentItem)
  | finished
  | committed
  | failed
deriving DecidableEq

structure CleanupProgress where
  phase : CleanupPhase
  result : CleanupResult
deriving DecidableEq

/-- The loop passes over conflicted candidates without a statement. -/
def nextCandidate (result : CleanupResult) : List ContentItem → CleanupProgress
  | [] => ⟨.finished, result⟩
  | item :: rest =>
    if item.tier = some .conflicted then
      nextCandidate { result with skippedConflicted := result.skippedConflicted + 1 } rest
    else ⟨.selectPending item rest, result⟩

/-! ## Transactions -/

/-- Requests are numbered by `ι`, cleanups by `κ`. -/
structure System (ι κ : Type*) where
  escalations : Table (ι ⊕ κ) Escalation
  contentItems : Table (ι ⊕ κ) ContentItem
  governanceEvents : Table (ι ⊕ κ) TierTransitionEvent
  hubContent : List HubContentRow
  decisionNodes : List DecisionNode
  resolving : ι → ResolvePhase
  cleaning : κ → CleanupProgress

variable {ι κ : Type*} [DecidableEq ι] [DecidableEq κ]

namespace System

def ofDatabase (cleanups : κ → CleanupRequest) (db : Database) : System ι κ where
  escalations := ofRows db.escalations
  contentItems := ofRows db.contentItems
  governanceEvents := ofRows db.governanceEvents
  hubContent := db.hubContent
  decisionNodes := db.decisionNodes
  resolving _ := .selectEscalation
  cleaning c := ⟨.selectStale, { dryRun := (cleanups c).dryRun }⟩

/-- What a statement of the transaction sees. -/
def view (s : System ι κ) (t : ι ⊕ κ) : Database where
  escalations := seenBy t s.escalations
  contentItems := seenBy t s.contentItems
  governanceEvents := seenBy t s.governanceEvents
  hubContent := s.hubContent
  decisionNodes := s.decisionNodes

def freshEventId (s : System ι κ) : EventId :=
  freshId ((versions s.governanceEvents).map (·.eventId))

def commit (s : System ι κ) (t : ι ⊕ κ) : System ι κ :=
  { s with
    escalations := ReadCommitted.commit t s.escalations
    contentItems := ReadCommitted.commit t s.contentItems
    governanceEvents := ReadCommitted.commit t s.governanceEvents }

def abort (s : System ι κ) (t : ι ⊕ κ) : System ι κ :=
  { s with
    escalations := ReadCommitted.abort t s.escalations
    contentItems := ReadCommitted.abort t s.contentItems
    governanceEvents := ReadCommitted.abort t s.governanceEvents }

def enter (s : System ι κ) (i : ι) (phase : ResolvePhase) : System ι κ :=
  { s with resolving := Function.update s.resolving i phase }

def fail (s : System ι κ) (i : ι) (error : OperationError) : System ι κ :=
  (s.abort (.inl i)).enter i (.failed error)

def proceed (s : System ι κ) (c : κ) (progress : CleanupProgress) : System ι κ :=
  { s with cleaning := Function.update s.cleaning c progress }

end System

/-! ## Resolving -/

def resolveEvent (request : ResolveRequest) (contentId : ContentId) (previousTier : Option Tier)
    (eventId : EventId) : TierTransitionEvent :=
  { eventId, contentId, workspaceId := some request.auth.workspaceId, previousTier,
    newTier := request.decision.newTier, transitionReason := request.decision.tierReason,
    transitionRule := request.decision.transitionRule, triggerType := .humanOverride,
    triggerSource := .admin, createdAt := request.now }

def hasEscalationId (escalationId : EscalationId) (row : Escalation) : Bool :=
  row.escalationId == escalationId

namespace System

/-- The next statement of a request. -/
def resolveStatement (requests : ι → ResolveRequest) (escalationId : EscalationId)
    (s : System ι κ) (i : ι) : System ι κ :=
  let request := requests i
  let decision := request.decision
  match s.resolving i with
  | .selectEscalation =>
    match fetchWorkspaceEscalation (s.view (.inl i)) escalationId request.auth.workspaceId with
    | none => s.fail i (.http 404 "escalation not found")
    | some row =>
      if row.status ≠ .pending then
        s.fail i (.http 409 ("escalation already " ++ EscalationStatus.label row.status))
      else if row.expiresAt < request.now then s.fail i (.http 409 "escalation expired")
      else match row.contentId with
      | some contentId => s.enter i (.selectTier row contentId)
      | none => s.enter i (.updateEscalation row none)
  | .selectTier row contentId =>
    s.enter i
      (.updateContent row contentId (fetchContentTier (s.view (.inl i)) contentId) none)
  | .updateContent row contentId previousTier targets =>
    if targets = some [] then s.enter i (.insertEvent row contentId previousTier)
    else
      let update := advance (.inl i) (hasContentId contentId)
        (assignTier decision.newTier decision.tierReason request.now) s.contentItems targets
      { s with contentItems := update.1 }.enter i
        (.updateContent row contentId previousTier update.2)
  | .insertEvent row contentId previousTier =>
    { s with
      governanceEvents := insert (.inl i)
        (resolveEvent request contentId previousTier s.freshEventId) s.governanceEvents }.enter i
      (.updateEscalation row none)
  | .updateEscalation row targets =>
    if !storable request.auth.authSubjectId then s.fail i (.database .invalidText)
    else if targets = some [] then
      match (written (.inl i) s.escalations).head? with
      | some updated => s.enter i (.resolved row updated)
      | none => s.fail i (.http 500 "Internal Server Error")
    else
      let update := advance (.inl i) (hasEscalationId escalationId)
        (setResolved decision request.now request.auth) s.escalations targets
      { s with escalations := update.1 }.enter i (.updateEscalation row update.2)
  | .resolved row updated => (s.commit (.inl i)).enter i (.succeeded row updated)
  | .succeeded _ _ => s
  | .failed _ => s

/-! ## Cleaning up -/

/-- The next statement of a cleanup. -/
def cleanupStatement (cleanups : κ → CleanupRequest) (s : System ι κ) (c : κ) : System ι κ :=
  let request := cleanups c
  let result := (s.cleaning c).result
  let view := s.view (.inr c)
  match (s.cleaning c).phase with
  | .selectStale =>
    let stale := (view.escalations.filter (isStale request.now)).map (·.escalationId)
    let result := { result with
      escalationsExpired := stale.length
      details := stale.map .escalationExpired }
    if request.dryRun then s.proceed c ⟨.selectCandidates, result⟩
    else s.proceed c ⟨.expire stale none, result⟩
  | .expire [] _ => s.proceed c ⟨.selectCandidates, result⟩
  | .expire (escalationId :: stale) targets =>
    if targets = some [] then s.proceed c ⟨.expire stale none, result⟩
    else
      let update := advance (.inr c) (hasEscalationId escalationId) setExpired s.escalations
        targets
      { s with escalations := update.1 }.proceed c
        ⟨.expire (escalationId :: stale) update.2, result⟩
  | .selectCandidates =>
    s.proceed c (nextCandidate result
      (view.contentItems.filter (isCandidate request.now request.auth.workspaceId)))
  | .selectPending item rest =>
    if hasPendingEscalation view item.contentId then
      s.proceed c (nextCandidate
        { result with skippedPendingEscalation := result.skippedPendingEscalation + 1 } rest)
    else s.proceed c ⟨.selectHub item rest, result⟩
  | .selectHub item rest =>
    if inHub view item.contentId then s.proceed c (nextCandidate result rest)
    else s.proceed c ⟨.selectDecision item rest, result⟩
  | .selectDecision item rest =>
    if inDecision view item.contentId then s.proceed c (nextCandidate result rest)
    else
      let result := { result with
        contentArchived := result.contentArchived + 1
        details := result.details ++ [.contentArchived item.contentId] }
      if request.dryRun then s.proceed c (nextCandidate result rest)
      else s.proceed c ⟨.archive item rest none, result⟩
  | .archive item rest targets =>
    if targets = some [] then s.proceed c ⟨.insertEvent item rest, result⟩
    else
      let update := advance (.inr c) (hasContentId item.contentId) setArchived s.contentItems
        targets
      { s with contentItems := update.1 }.proceed c ⟨.archive item rest update.2, result⟩
  | .insertEvent item rest =>
    { s with
      governanceEvents := insert (.inr c)
        { archiveEvent view request.now item with eventId := s.freshEventId }
        s.governanceEvents }.proceed c (nextCandidate result rest)
  | .finished => (s.commit (.inr c)).proceed c ⟨.committed, result⟩
  | .committed => s
  | .failed => s

end System

/-! ## Interleavings -/

/-- The scheduler runs a transaction's next statement, or the database ends a transaction that
has not committed. -/
inductive Action (ι κ : Type*) where
  | resolve (i : ι)
  | cleanup (c : κ)
  | abortResolve (i : ι)
  | abortCleanup (c : κ)
deriving DecidableEq

def System.step (requests : ι → ResolveRequest) (cleanups : κ → CleanupRequest)
    (escalationId : EscalationId) (s : System ι κ) : Action ι κ → System ι κ
  | .resolve i => s.resolveStatement requests escalationId i
  | .cleanup c => s.cleanupStatement cleanups c
  | .abortResolve i =>
    match s.resolving i with
    | .succeeded _ _ => s
    | _ => s.fail i (.database .connectionLost)
  | .abortCleanup c =>
    if (s.cleaning c).phase = .committed then s
    else (s.abort (.inr c)).proceed c ⟨.failed, (s.cleaning c).result⟩

end MemoryLab.Escalations

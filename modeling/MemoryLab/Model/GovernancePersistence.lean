import MemoryLab.Model.GovernanceState
import MemoryLab.Model.Persistence

/-! # Governance states and events in the persistence backends

The in-memory backend keeps the objects. The other one spreads a state over the columns of
`cb_governance_states` and puts a whole event into the payload column of its row. -/

namespace MemoryLab.Persistence

open Library Library.Rows Governance

variable {M : Type}

def invalidState (errors : List String) : PersistenceError :=
  ⟨"invalid_governance_state", "; ".intercalate errors, none⟩

def invalidEvent (errors : List String) : PersistenceError :=
  ⟨"invalid_governance_event", "; ".intercalate errors, none⟩

def boundaryViolation (errors : List String) : PersistenceError :=
  ⟨"workspace_boundary_violation", "; ".intercalate errors, some "workspace_id"⟩

def stateNotFound : PersistenceError :=
  ⟨"not_found", "governance state not found", some "record_id"⟩

/-! ## In memory -/

abbrev StateStore (M : Type) := Dict (Text × Text) (GovernanceState M)

abbrev EventStore (M : Type) := Dict (Text × Text) (List (GovernanceStateEventContract M))

namespace Memory

def stateKey (state : GovernanceState M) : Text × Text :=
  (state.recordRef.workspaceId.strip, state.recordRef.recordId.strip)

def putGovernanceState (store : StateStore M) (state : GovernanceState M) :
    StateStore M × Except PersistenceError (GovernanceState M) :=
  match validateGovernanceState state with
  | [] => (store.set (stateKey state) state, .ok state)
  | errors => (store, .error (invalidState errors))

def getGovernanceState (store : StateStore M) (workspaceId recordId : Text) :
    Except PersistenceError (GovernanceState M) :=
  if workspaceId.strip = [] then .error (requiredError "workspace_id")
  else if recordId.strip = [] then .error (requiredError "record_id")
  else match store.get? (workspaceId.strip, recordId.strip) with
  | some state => .ok state
  | none => .error stateNotFound

def eventKey (event : GovernanceStateEventContract M) : Text × Text :=
  (event.workspaceId.strip, event.recordRef.recordId.strip)

def appendGovernanceEvent (store : EventStore M) (event : GovernanceStateEventContract M) :
    EventStore M × Except PersistenceError (GovernanceStateEventContract M) :=
  match validateGovernanceStateEventContract event with
  | [] =>
    match validateWorkspaceBoundary [event.recordRef] event.workspaceId with
    | [] => (store.modify (eventKey event) fun events => events.getD [] ++ [event], .ok event)
    | errors => (store, .error (boundaryViolation errors))
  | errors => (store, .error (invalidEvent errors))

/-- `list_governance_events`: one bucket, or those of the workspace in the order of their keys. -/
def listGovernanceEvents (store : EventStore M) (workspaceId : Text)
    (recordId : Option Text := none) :
    Except PersistenceError (List (GovernanceStateEventContract M)) :=
  if workspaceId.strip = [] then .error invalidWorkspace
  else match recordId with
  | some wanted =>
    if wanted.strip = [] then .error (requiredError "record_id")
    else .ok ((store.get? (workspaceId.strip, wanted.strip)).getD [])
  | none =>
    .ok (((sortOn (fun bucket : (Text × Text) × List (GovernanceStateEventContract M) =>
      [bucket.1.1, bucket.1.2]) store).filter fun bucket =>
        bucket.1.1 == workspaceId.strip).flatMap (·.2))

end Memory

/-! ## In the database -/

/-- The JSON object of a provenance, as any writer may have left it. -/
structure ProvenanceMapping (M : Type) where
  sourceType : Option Text := none
  sourceId : Option Text := none
  sourceLabel : Option Text := none
  createdBy : Option Text := none
  traceId : Option Text := none
  createdAt : Option Text := none
  metadata : Option M := none
deriving DecidableEq

structure StoredGovernanceState (M : Type) where
  workspaceId : Uuid
  recordId : Text
  recordType : Text
  contentId : Option Uuid
  status : Text
  tier : Text
  provenance : ProvenanceMapping M
  supersedes : Option Text
  supersededBy : Option Text
  stateReason : Option Text
  limitations : List Text
  nonClaims : List Text
  mode : Text
deriving DecidableEq

structure RecordRefMapping where
  recordId : Option Text := none
  recordType : Option Text := none
  workspaceId : Option Text := none
  contentId : Option Text := none
  sourceRef : Option Text := none
deriving DecidableEq

/-- The payload of an event. -/
structure EventMapping (M : Type) where
  eventType : Option Text := none
  workspaceId : Option Text := none
  recordRef : RecordRefMapping := {}
  provenance : ProvenanceMapping M := {}
  previousStatus : Option Text := none
  nextStatus : Option Text := none
  previousTier : Option Text := none
  nextTier : Option Text := none
  eventReason : Option Text := none
  limitations : List Text := []
  nonClaims : List Text := []
  mode : Option Text := none
deriving DecidableEq

structure StoredGovernanceEvent (M : Type) where
  eventId : Uuid
  eventType : Text
  workspaceId : Option Uuid
  contentId : Option Uuid := none
  recordId : Option Text := none
  previousTier : Option Text := none
  newTier : Text
  previousStatus : Option Text := none
  nextStatus : Option Text := none
  transitionReason : Text
  transitionRule : Text
  triggerType : TriggerType
  triggerSource : TriggerSource
  traceId : Text
  lineageRef : Option Text := none
  eventPayload : EventMapping M
  createdAt : ℕ
deriving DecidableEq

structure GovernanceStore (M : Type) extends PostgresStore M where
  governanceStates : List (StoredGovernanceState M) := []
  governanceEvents : List (StoredGovernanceEvent M) := []
deriving DecidableEq

namespace Postgres

variable [EmptyCollection M]

/-! ### JSON objects -/

/-- `_provenance_to_dict`. -/
def provenanceToDict (provenance : GovernanceProvenance M) : ProvenanceMapping M where
  sourceType := some provenance.sourceType
  sourceId := some provenance.sourceId
  sourceLabel := some provenance.sourceLabel
  createdBy := some provenance.createdBy
  traceId := some provenance.traceId
  createdAt := some provenance.createdAt
  metadata := some (provenance.metadata.getD ∅)

/-- `str(first or second or "")`. -/
def textOr (first second : Option Text) : Text :=
  ((first.filter (· ≠ [])).or second).getD []

/-- `_provenance_from_mapping`. -/
def provenanceFromMapping (payload : ProvenanceMapping M) : GovernanceProvenance M where
  sourceType := payload.sourceType.getD []
  sourceId := payload.sourceId.getD []
  sourceLabel := payload.sourceLabel.getD []
  createdBy := payload.createdBy.getD []
  traceId := payload.traceId.getD []
  createdAt := payload.createdAt.getD []
  metadata := some (payload.metadata.getD ∅)

/-- `_governance_event_to_dict`. -/
def governanceEventToDict (event : GovernanceStateEventContract M) : EventMapping M where
  eventType := some event.eventType
  workspaceId := some event.workspaceId
  recordRef :=
    { recordId := some event.recordRef.recordId
      recordType := some event.recordRef.recordType
      workspaceId := some event.recordRef.workspaceId
      contentId := event.recordRef.contentId
      sourceRef := event.recordRef.sourceRef }
  provenance := provenanceToDict event.provenance
  previousStatus := event.previousStatus
  nextStatus := event.nextStatus
  previousTier := event.previousTier
  nextTier := event.nextTier
  eventReason := event.eventReason
  limitations := event.limitations
  nonClaims := event.nonClaims
  mode := some event.mode

/-- `_governance_event_from_mapping`. -/
def governanceEventFromMapping (payload : EventMapping M) : GovernanceStateEventContract M :=
  let recordRef : GovernanceRecordRef :=
    { recordId := payload.recordRef.recordId.getD []
      recordType := payload.recordRef.recordType.getD []
      workspaceId := textOr payload.recordRef.workspaceId payload.workspaceId
      contentId := payload.recordRef.contentId
      sourceRef := payload.recordRef.sourceRef }
  { eventType := textOr payload.eventType (some stateEventType)
    workspaceId := textOr payload.workspaceId (some recordRef.workspaceId)
    recordRef
    provenance := provenanceFromMapping payload.provenance
    previousStatus := payload.previousStatus
    nextStatus := payload.nextStatus
    previousTier := payload.previousTier
    nextTier := payload.nextTier
    eventReason := payload.eventReason
    limitations := payload.limitations
    nonClaims := payload.nonClaims
    mode := payload.mode.getD [] }

/-! ### Columns -/

def presentTexts (texts : List (Option Text)) : List Text := texts.filterMap id

omit [EmptyCollection M] in
/-- A `jsonb` column takes no text with NUL, and the metadata as the environment says. -/
def jsonbProvenance (env : Environment M) (payload : ProvenanceMapping M) :
    Option (ProvenanceMapping M) :=
  if !(presentTexts [payload.sourceType, payload.sourceId, payload.sourceLabel,
      payload.createdBy, payload.traceId, payload.createdAt]).all storable then none
  else match payload.metadata with
  | none => some payload
  | some metadata => (env.jsonb metadata).map fun kept => { payload with metadata := some kept }

omit [EmptyCollection M] in
def jsonbEvent (env : Environment M) (payload : EventMapping M) : Option (EventMapping M) :=
  if !(presentTexts [payload.eventType, payload.workspaceId, payload.recordRef.recordId,
      payload.recordRef.recordType, payload.recordRef.workspaceId, payload.recordRef.contentId,
      payload.recordRef.sourceRef, payload.previousStatus, payload.nextStatus,
      payload.previousTier, payload.nextTier, payload.eventReason, payload.mode] ++
      payload.limitations ++ payload.nonClaims).all storable then none
  else (jsonbProvenance env payload.provenance).map fun provenance => { payload with provenance }

/-- `%s::uuid` of a text or NULL. -/
def castUuid : Option Text → Option (Option Uuid)
  | none => some none
  | some value => (Uuid.parse value).map some

def validateWorkspaceUuid (workspaceId : Text) : Except PersistenceError Unit :=
  if workspaceId.strip = [] then .error invalidWorkspace
  else validateUuid workspaceId "workspace_id"

/-- The check of a content id that is not empty. -/
def validateContentUuid (contentId : Option Text) : Except PersistenceError Unit :=
  match contentId.filter (· ≠ []) with
  | none => .ok ()
  | some value => validateUuid value "content_id"

def validateRef (ref : GovernanceRecordRef) (workspaceId : Text) :
    Except PersistenceError Unit := do
  validateWorkspaceUuid workspaceId
  validateContentUuid ref.contentId

/-! ### States -/

def hasRecordKey (workspaceId : Uuid) (recordId : Text) (row : StoredGovernanceState M) : Bool :=
  row.workspaceId == workspaceId && row.recordId == recordId

/-- `INSERT … ON CONFLICT (workspace_id, record_id) DO UPDATE`. -/
def upsertState (db : GovernanceStore M) (row : StoredGovernanceState M) : GovernanceStore M :=
  if db.governanceStates.any (hasRecordKey row.workspaceId row.recordId) then
    { db with
      governanceStates := updateWhere (hasRecordKey row.workspaceId row.recordId) (fun _ => row)
        db.governanceStates }
  else { db with governanceStates := db.governanceStates ++ [row] }

/-- The texts of a state that go into columns of their own. -/
def stateTexts (state : GovernanceState M) : List Text :=
  [state.recordRef.recordId, state.recordRef.recordType, state.status, state.tier, state.mode] ++
    presentTexts [state.supersedes, state.supersededBy, state.stateReason] ++
    state.limitations ++ state.nonClaims

def writeState (env : Environment M) (db : GovernanceStore M) (state : GovernanceState M) :
    Except DbError (GovernanceStore M) :=
  match Uuid.parse state.recordRef.workspaceId, castUuid state.recordRef.contentId with
  | some workspaceId, some contentId =>
    match ensureWorkspace db.toPostgresStore workspaceId state.recordRef.workspaceId with
    | .error error => .error error
    | .ok known =>
      if !(stateTexts state).all storable then .error .invalidText
      else match jsonbProvenance env (provenanceToDict state.provenance) with
      | none => .error .invalidText
      | some provenance =>
        if state.status ∉ governanceStatuses ∨ state.tier ∉ governanceTiers then
          .error .checkViolation
        else if contentId.any (fun id => !db.contentItems.any (·.contentId == id)) then
          .error .foreignKeyViolation
        else
          .ok (upsertState { db with toPostgresStore := known }
            { workspaceId, recordId := state.recordRef.recordId
              recordType := state.recordRef.recordType, contentId, status := state.status
              tier := state.tier, provenance, supersedes := state.supersedes
              supersededBy := state.supersededBy, stateReason := state.stateReason
              limitations := state.limitations, nonClaims := state.nonClaims
              mode := state.mode })
  | _, _ => .error .invalidText

def putGovernanceState (env : Environment M) (db : GovernanceStore M)
    (state : GovernanceState M) :
    GovernanceStore M × Except PersistenceError (GovernanceState M) :=
  match validateGovernanceState state with
  | [] =>
    match validateRef state.recordRef state.recordRef.workspaceId with
    | .error error => (db, .error error)
    | .ok () =>
      match writeState env db state with
      | .error _ => (db, .error operationFailed)
      | .ok next => (next, .ok state)
  | errors => (db, .error (invalidState errors))

def loadedState (row : StoredGovernanceState M) : GovernanceState M where
  recordRef :=
    { recordId := row.recordId, recordType := row.recordType
      workspaceId := row.workspaceId.text, contentId := row.contentId.map (·.text) }
  status := row.status
  tier := row.tier
  provenance := provenanceFromMapping row.provenance
  supersedes := row.supersedes
  supersededBy := row.supersededBy
  stateReason := row.stateReason
  limitations := row.limitations
  nonClaims := row.nonClaims
  mode := row.mode

def getGovernanceState (db : GovernanceStore M) (workspaceId recordId : Text) :
    Except PersistenceError (GovernanceState M) :=
  match validateWorkspaceUuid workspaceId with
  | .error error => .error error
  | .ok () =>
    if recordId.strip = [] then .error (requiredError "record_id")
    else match Uuid.parse workspaceId with
    | none => .error operationFailed
    | some workspace =>
      match db.governanceStates.find? (hasRecordKey workspace recordId) with
      | some row => .ok (loadedState row)
      | none => .error stateNotFound

/-! ### Events -/

/-- The time and the identifier that an event gets when it is appended. -/
structure Stamp where
  createdAt : ℕ
  eventId : Uuid
deriving DecidableEq

def eventRow (stamp : Stamp) (workspaceId : Uuid) (contentId : Option Uuid)
    (payload : EventMapping M) (event : GovernanceStateEventContract M) :
    StoredGovernanceEvent M where
  eventId := stamp.eventId
  eventType := stateEventType
  workspaceId := some workspaceId
  contentId := contentId
  recordId := some event.recordRef.recordId
  previousTier := event.previousTier
  newTier := textOr event.nextTier (some (textOr event.previousTier (some "persistent".toList)))
  previousStatus := event.previousStatus
  nextStatus := event.nextStatus
  transitionReason := textOr event.eventReason (some "governance state contract event".toList)
  transitionRule := "m2_persistence_roundtrip".toList
  triggerType := .system
  triggerSource := .mcp
  traceId := event.provenance.traceId
  lineageRef := event.recordRef.sourceRef
  eventPayload := payload
  createdAt := stamp.createdAt

def writeEvent (env : Environment M) (db : GovernanceStore M) (stamp : Stamp)
    (event : GovernanceStateEventContract M) : Except DbError (GovernanceStore M) :=
  match Uuid.parse event.workspaceId, castUuid event.recordRef.contentId with
  | some workspaceId, some contentId =>
    match ensureWorkspace db.toPostgresStore workspaceId event.workspaceId with
    | .error error => .error error
    | .ok known =>
      -- every text column holds a text of the payload
      match jsonbEvent env (governanceEventToDict event) with
      | none => .error .invalidText
      | some payload =>
        if db.governanceEvents.any (·.eventId == stamp.eventId) then .error .uniqueViolation
        else .ok { db with
          toPostgresStore := known
          governanceEvents :=
            db.governanceEvents ++ [eventRow stamp workspaceId contentId payload event] }
  | _, _ => .error .invalidText

def appendGovernanceEvent (env : Environment M) (db : GovernanceStore M) (stamp : Stamp)
    (event : GovernanceStateEventContract M) :
    GovernanceStore M × Except PersistenceError (GovernanceStateEventContract M) :=
  match validateGovernanceStateEventContract event with
  | [] =>
    match validateWorkspaceBoundary [event.recordRef] event.workspaceId with
    | [] =>
      match validateRef event.recordRef event.workspaceId with
      | .error error => (db, .error error)
      | .ok () =>
        match writeEvent env db stamp event with
        | .error _ => (db, .error operationFailed)
        | .ok next => (next, .ok event)
    | errors => (db, .error (boundaryViolation errors))
  | errors => (db, .error (invalidEvent errors))

/-- `ORDER BY created_at ASC, event_id ASC`. -/
def listingKey (row : StoredGovernanceEvent M) : ℕ ×ₗ ℕ :=
  toLex (row.createdAt, row.eventId.bits.toNat)

/-- `WHERE workspace_id = … AND event_type = …`, and `AND record_id = …` when one is given. -/
def isListed (workspaceId : Uuid) (recordId : Option Text) (row : StoredGovernanceEvent M) :
    Bool :=
  row.workspaceId == some workspaceId && row.eventType == stateEventType &&
    recordId.all fun wanted => row.recordId == some wanted

def listGovernanceEvents (db : GovernanceStore M) (workspaceId : Text)
    (recordId : Option Text := none) :
    Except PersistenceError (List (GovernanceStateEventContract M)) :=
  match validateWorkspaceUuid workspaceId with
  | .error error => .error error
  | .ok () =>
    if recordId.any (·.strip = []) then .error (requiredError "record_id")
    else match Uuid.parse workspaceId with
    | none => .error operationFailed
    | some workspace =>
      .ok ((sortOn listingKey (db.governanceEvents.filter (isListed workspace recordId))).map
        fun row => governanceEventFromMapping row.eventPayload)

end Postgres

end MemoryLab.Persistence

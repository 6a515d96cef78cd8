import MemoryLab.Model.TransitionMatrix

/-! # The store of hub edges

Hub identifiers come as texts: the key of an edge is computed from the texts as the caller spells
them, and the columns hold what the database reads from them. -/

namespace MemoryLab.HubEdges

open Library Library.Rows TransitionMatrix

/-! ## Types, statuses and origins -/

def EdgeType.name : EdgeType → String
  | .parent => "parent"
  | .related => "related"
  | .duplicate => "duplicate"
  | .overlaps => "overlaps"
  | .supports => "supports"
  | .partOf => "part_of"
  | .contradicts => "contradicts"

def allTypes : List EdgeType :=
  [.parent, .related, .duplicate, .overlaps, .supports, .partOf, .contradicts]

def EdgeStatus.name : EdgeStatus → String
  | .inferred => "inferred"
  | .manual => "manual"
  | .approved => "approved"
  | .rejected => "rejected"
  | .needsReview => "needs_review"
  | .archived => "archived"

def validStatuses : List EdgeStatus :=
  [.inferred, .manual, .approved, .rejected, .needsReview, .archived]

def EdgeOrigin.name : EdgeOrigin → String
  | .manual => "manual"
  | .inferredApproved => "inferred_approved"
  | .inferredRejected => "inferred_rejected"
  | .aiSuggested => "ai_suggested"
  | .migrationLocalStorage => "migration_localStorage"

def validOrigins : List EdgeOrigin :=
  [.manual, .inferredApproved, .inferredRejected, .aiSuggested, .migrationLocalStorage]

/-- The value of an enumeration that a text names. -/
def named {α : Type} (name : α → String) (values : List α) (text : Text) : Option α :=
  values.find? fun value => (name value).toList == text

inductive EdgeError where
  | value (message : String)
  | key (message : String)
  | database (error : DbError)
deriving DecidableEq

def invalidType (edgeType : Text) : EdgeError :=
  .value ("Invalid type '" ++ String.ofList edgeType ++ "'. Must be one of: [" ++ ", ".intercalate
    (((allTypes.map EdgeType.name).insertionSort (· ≤ ·)).map quoted) ++ "]")

/-! ## Keys -/

def computeEdgeKey (sourceId targetId edgeType : Text) : Text :=
  let (a, b) := Text.sortPair sourceId targetId
  a ++ '|' :: (b ++ '|' :: edgeType)

def isActive (row : HubEdge) : Bool := row.archivedAt.isNone

def holdsKey (edgeKey : Text) (row : HubEdge) : Bool := isActive row && row.edgeKey == edgeKey

/-- The row that the unique index on active keys finds. -/
def activeWithKey (db : Database) (edgeKey : Text) : Option HubEdge :=
  db.hubEdges.find? (holdsKey edgeKey)

/-! ## Inserting a row -/

/-- The values of an `INSERT`, as the caller gives them. -/
structure EdgeValues where
  sourceHubId : Text
  targetHubId : Text
  workspaceId : Option WorkspaceId
  type : Text
  status : EdgeStatus
  origin : EdgeOrigin
  confidence : Option ℚ
  reason : Option Text
  note : Option Text
  weight : Option ℚ
  edgeKey : Text
  createdBy : Option Text
deriving DecidableEq

def allStorable (texts : List (Option Text)) : Bool := texts.all fun text => text.all storable

/-- The `CHECK` on the confidence. -/
def confidenceValid (confidence : Option ℚ) : Bool :=
  confidence.all fun value => decide (0 ≤ value) && decide (value ≤ 1)

/-- The row of an `INSERT`, after its casts and checks. -/
def EdgeValues.row (values : EdgeValues) (db : Database) (now : Timestamp) :
    Except DbError HubEdge :=
  match Uuid.parse values.sourceHubId, Uuid.parse values.targetHubId with
  | some sourceHubId, some targetHubId =>
    if !allStorable [some values.edgeKey, values.reason, values.note, values.createdBy] then
      .error .invalidText
    else match named EdgeType.name allTypes values.type with
    | none => .error .checkViolation
    | some type =>
      if !confidenceValid values.confidence then .error .checkViolation
      else .ok
        { id := freshId (db.hubEdges.map (·.id)), sourceHubId, targetHubId,
          workspaceId := values.workspaceId, type, status := values.status,
          origin := values.origin, confidence := values.confidence, reason := values.reason,
          note := values.note, weight := values.weight, edgeKey := values.edgeKey,
          createdBy := values.createdBy, createdAt := now, updatedAt := now }
  | _, _ => .error .invalidText

def hasHub (db : Database) (hubId : HubId) : Bool := db.hubs.any (·.hubId == hubId)

def appendEdge (db : Database) (row : HubEdge) : Except EdgeError (Database × HubEdge) :=
  if hasHub db row.sourceHubId && hasHub db row.targetHubId then
    .ok ({ db with hubEdges := db.hubEdges ++ [row] }, row)
  else .error (.database .foreignKeyViolation)

/-! ## The operations -/

def validateHubsInWorkspace (db : Database) (sourceHubId targetHubId : Text)
    (workspaceId : Option WorkspaceId) : Except EdgeError Unit :=
  match workspaceId with
  | none => .ok ()
  | some workspaceId =>
    match Uuid.parse sourceHubId, Uuid.parse targetHubId with
    | some source, some target =>
      let found := db.hubs.filter fun hub =>
        (hub.hubId == source || hub.hubId == target) && hub.workspaceUuid == some workspaceId
      if found.length ≠ 2 then .error (.key "source/target hub not found in workspace")
      else .ok ()
    | _, _ => .error (.database .invalidText)

structure CreateRequest where
  sourceHubId : Text
  targetHubId : Text
  edgeType : Text
  status : Text := "manual".toList
  origin : Text := "manual".toList
  confidence : Option ℚ := none
  reason : Option Text := none
  note : Option Text := none
  weight : Option ℚ := none
  createdBy : Option Text := none
  workspaceId : Option WorkspaceId := none
deriving DecidableEq

def createEdge (db : Database) (now : Timestamp) (request : CreateRequest) :
    Except EdgeError (Database × HubEdge) :=
  match named EdgeType.name allTypes request.edgeType with
  | none => .error (invalidType request.edgeType)
  | some _ =>
    match named EdgeStatus.name validStatuses request.status with
    | none => .error (.value ("Invalid status '" ++ String.ofList request.status ++ "'"))
    | some status =>
      match named EdgeOrigin.name validOrigins request.origin with
      | none => .error (.value ("Invalid origin '" ++ String.ofList request.origin ++ "'"))
      | some origin =>
        let edgeKey := computeEdgeKey request.sourceHubId request.targetHubId request.edgeType
        match validateHubsInWorkspace db request.sourceHubId request.targetHubId
            request.workspaceId with
        | .error error => .error error
        | .ok () =>
          let values : EdgeValues :=
            { sourceHubId := request.sourceHubId, targetHubId := request.targetHubId,
              workspaceId := request.workspaceId, type := request.edgeType, status, origin,
              confidence := request.confidence, reason := request.reason, note := request.note,
              weight := request.weight, edgeKey, createdBy := request.createdBy }
          match values.row db now with
          | .error error => .error (.database error)
          | .ok row =>
            if (activeWithKey db edgeKey).isSome then
              .error (.value ("Active edge already exists for key '" ++ String.ofList edgeKey ++
                "'. Archive the existing edge before creating a new one."))
            else appendEdge db row

/-- The row that an edge identifier finds, in a workspace when one is given. -/
def matchesEdge (edgeId : EdgeId) (workspaceId : Option WorkspaceId) (row : HubEdge) : Bool :=
  row.id == edgeId && workspaceId.all fun workspaceId => row.workspaceId == some workspaceId

def getEdge (db : Database) (edgeId : EdgeId) (workspaceId : Option WorkspaceId) :
    Option HubEdge :=
  db.hubEdges.find? (matchesEdge edgeId workspaceId)

/-- The allowed entries of an update; an entry that is there may clear its column. -/
structure EdgeUpdates where
  type : Option Text := none
  status : Option Text := none
  note : Option (Option Text) := none
  reason : Option (Option Text) := none
  confidence : Option (Option ℚ) := none
deriving DecidableEq

def EdgeUpdates.assign (updates : EdgeUpdates) (type : Option EdgeType)
    (status : Option EdgeStatus) (now : Timestamp) (row : HubEdge) : HubEdge :=
  { row with
    type := type.getD row.type
    status := status.getD row.status
    note := updates.note.getD row.note
    reason := updates.reason.getD row.reason
    confidence := updates.confidence.getD row.confidence
    updatedAt := now }

def updateEdge (db : Database) (now : Timestamp) (edgeId : EdgeId) (updates : EdgeUpdates)
    (workspaceId : Option WorkspaceId) : Except EdgeError (Database × Option HubEdge) :=
  if updates = {} then .ok (db, getEdge db edgeId workspaceId)
  else
    let type := updates.type.bind (named EdgeType.name allTypes)
    let status := updates.status.bind (named EdgeStatus.name validStatuses)
    if updates.type.isSome && type.isNone then
      .error (.value ("Invalid type '" ++ String.ofList (updates.type.getD []) ++ "'"))
    else if updates.status.isSome && status.isNone then
      .error (.value ("Invalid status '" ++ String.ofList (updates.status.getD []) ++ "'"))
    else if !allStorable [updates.note.getD none, updates.reason.getD none] then
      .error (.database .invalidText)
    else if (getEdge db edgeId workspaceId).isSome &&
        !confidenceValid (updates.confidence.getD none) then
      .error (.database .checkViolation)
    else
      let assign := updates.assign type status now
      .ok ({ db with hubEdges := updateWhere (matchesEdge edgeId workspaceId) assign db.hubEdges },
        (getEdge db edgeId workspaceId).map assign)

def setArchived (now : Timestamp) (row : HubEdge) : HubEdge :=
  { row with archivedAt := some now, status := .archived, updatedAt := now }

def archiveEdge (db : Database) (now : Timestamp) (edgeId : EdgeId)
    (workspaceId : Option WorkspaceId) : Database × Option HubEdge :=
  let selects row := matchesEdge edgeId workspaceId row && isActive row
  ({ db with hubEdges := updateWhere selects (setArchived now) db.hubEdges },
    (db.hubEdges.find? selects).map (setArchived now))

structure ReviewRequest where
  sourceHubId : Text
  targetHubId : Text
  edgeType : Text
  reason : Option Text := none
  note : Option Text := none
  createdBy : Text := "user".toList
  workspaceId : Option WorkspaceId := none
deriving DecidableEq

/-- `INSERT … ON CONFLICT (edge_key) WHERE archived_at IS NULL DO UPDATE`. -/
def upsertReviewed (db : Database) (now : Timestamp) (request : ReviewRequest)
    (status : EdgeStatus) (origin : EdgeOrigin) (confidence : Option ℚ)
    (assign : HubEdge → HubEdge) : Except EdgeError (Database × HubEdge) :=
  let edgeKey := computeEdgeKey request.sourceHubId request.targetHubId request.edgeType
  match validateHubsInWorkspace db request.sourceHubId request.targetHubId request.workspaceId with
  | .error error => .error error
  | .ok () =>
    let values : EdgeValues :=
      { sourceHubId := request.sourceHubId, targetHubId := request.targetHubId,
        workspaceId := request.workspaceId, type := request.edgeType, status, origin, confidence,
        reason := request.reason, note := request.note, weight := some 1, edgeKey,
        createdBy := some request.createdBy }
    match values.row db now with
    | .error error => .error (.database error)
    | .ok row =>
      match activeWithKey db edgeKey with
      | some existing =>
        .ok ({ db with
          hubEdges := updateWhere (fun row => row.id == existing.id) assign db.hubEdges },
            assign existing)
      | none => appendEdge db row

def setApproved (now : Timestamp) (request : ReviewRequest) (confidence : Option ℚ)
    (row : HubEdge) : HubEdge :=
  { row with
    status := .approved
    origin := .inferredApproved
    confidence
    reason := request.reason.or row.reason
    note := request.note.or row.note
    updatedAt := now }

def setRejected (now : Timestamp) (request : ReviewRequest) (row : HubEdge) : HubEdge :=
  { row with
    status := .rejected
    origin := .inferredRejected
    reason := request.reason.or row.reason
    note := request.note.or row.note
    updatedAt := now }

def approveInferredEdge (db : Database) (now : Timestamp) (request : ReviewRequest)
    (confidence : Option ℚ) : Except EdgeError (Database × HubEdge) :=
  upsertReviewed db now request .approved .inferredApproved confidence
    (setApproved now request confidence)

def rejectInferredEdge (db : Database) (now : Timestamp) (request : ReviewRequest) :
    Except EdgeError (Database × HubEdge) :=
  upsertReviewed db now request .rejected .inferredRejected none (setRejected now request)

end MemoryLab.HubEdges

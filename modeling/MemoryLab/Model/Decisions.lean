import MemoryLab.Model.Schema

/-! # Decisions and their lineage -/

namespace MemoryLab.Decisions

open Library Library.Rows

abbrev DecisionId := ℕ

inductive DecisionStatus where
  | active
  | superseded
  | reversed
  | draft
deriving DecidableEq

inductive ConfidenceLevel where
  | low
  | medium
  | high
deriving DecidableEq

structure AlternativeConsidered where
  option : Text
  reasonRejected : Text
deriving DecidableEq

structure DecisionCreate where
  title : Text
  decisionReason : Text
  decisionContext : Option Text := none
  whyThisMatters : Option Text := none
  decisionStatus : DecisionStatus := .active
  reversible : Bool := true
  sourceContentIds : List ContentId := []
  linkedHubIds : List HubId := []
  supersedesDecisionId : Option DecisionId := none
  alternativesConsidered : List AlternativeConsidered := []
  contradictingEvidence : Option Text := none
  confidenceLevel : ConfidenceLevel := .medium
  decisionTags : List Text := []
  title_length : 1 ≤ title.length ∧ title.length ≤ 500 := by decide
  decisionReason_length : 1 ≤ decisionReason.length := by decide
deriving DecidableEq

/-- A decision as it is read back; arrays that are `NULL` are empty. -/
structure DecisionFull extends DecisionNode where
  decisionId : DecisionId
  contentId : Option ContentId := none
  title : Text
  decisionReason : Text
  decisionContext : Option Text := none
  whyThisMatters : Option Text := none
  decisionStatus : DecisionStatus
  reversible : Bool
  linkedHubIds : List HubId
  supersedesDecisionId : Option DecisionId
  supersededByDecisionId : Option DecisionId := none
  alternativesConsidered : List AlternativeConsidered
  contradictingEvidence : Option Text
  confidenceLevel : ConfidenceLevel
  decisionTags : List Text
  createdBySubject : Option Text
  createdAt : Timestamp
  updatedAt : Timestamp
deriving DecidableEq

structure DecisionRow extends DecisionFull where
  workspaceId : Option WorkspaceId
deriving DecidableEq

structure DecisionCreateResponse where
  decisionId : DecisionId
  title : Text
  decisionStatus : DecisionStatus
  createdAt : Timestamp
deriving DecidableEq

inductive StoreError where
  | keyError (message : String)
  | database (error : DbError)
deriving DecidableEq

/-- `%s IS NULL OR workspace_id = %s`. -/
def visibleTo (workspaceId : Option WorkspaceId) (row : DecisionRow) : Bool :=
  workspaceId.all fun workspaceId => row.workspaceId == some workspaceId

/-- `WHERE decision_id = %s AND (%s IS NULL OR workspace_id = %s)`. -/
def atDecision (decisionId : DecisionId) (workspaceId : Option WorkspaceId)
    (row : DecisionRow) : Bool :=
  row.decisionId == decisionId && visibleTo workspaceId row

/-! ## Creating a decision -/

namespace DecisionCreate

def texts (payload : DecisionCreate) : List Text :=
  [payload.title, payload.decisionReason] ++ payload.decisionContext.toList ++
    payload.whyThisMatters.toList ++ payload.contradictingEvidence.toList ++
    payload.decisionTags ++
    payload.alternativesConsidered.flatMap fun alternative =>
      [alternative.option, alternative.reasonRejected]

def row (payload : DecisionCreate) (decisionId : DecisionId) (workspaceId : Option WorkspaceId)
    (createdBySubject : Option Text) (now : Timestamp) : DecisionRow :=
  { decisionId, workspaceId, createdBySubject,
    title := payload.title, decisionReason := payload.decisionReason,
    decisionContext := payload.decisionContext, whyThisMatters := payload.whyThisMatters,
    decisionStatus := payload.decisionStatus, reversible := payload.reversible,
    sourceContentIds := payload.sourceContentIds, linkedHubIds := payload.linkedHubIds,
    supersedesDecisionId := payload.supersedesDecisionId,
    alternativesConsidered := payload.alternativesConsidered,
    contradictingEvidence := payload.contradictingEvidence,
    confidenceLevel := payload.confidenceLevel, decisionTags := payload.decisionTags,
    createdAt := now, updatedAt := now }

end DecisionCreate

def supersede (newId : DecisionId) (now : Timestamp) (row : DecisionRow) : DecisionRow :=
  { row with
    supersededByDecisionId := some newId, decisionStatus := .superseded, updatedAt := now }

/-- The `UPDATE` that only runs when the new decision supersedes one. -/
def markSuperseded (supersedesDecisionId : Option DecisionId) (workspaceId : Option WorkspaceId)
    (newId : DecisionId) (now : Timestamp) (nodes : List DecisionRow) : List DecisionRow :=
  match supersedesDecisionId with
  | none => nodes
  | some decisionId => updateWhere (atDecision decisionId workspaceId) (supersede newId now) nodes

/-- The decision to supersede, unless it is there. -/
def missingSuperseded (payload : DecisionCreate) (workspaceId : Option WorkspaceId)
    (nodes : List DecisionRow) : Option DecisionId :=
  payload.supersedesDecisionId.filter fun decisionId =>
    !nodes.any (atDecision decisionId workspaceId)

def newDecisionId (nodes : List DecisionRow) : DecisionId := freshId (nodes.map (·.decisionId))

def createDecision (payload : DecisionCreate) (workspaceId : Option WorkspaceId)
    (createdBySubject : Option Text) (now : Timestamp) (nodes : List DecisionRow) :
    Except StoreError (List DecisionRow × DecisionCreateResponse) :=
  match missingSuperseded payload workspaceId nodes with
  | some decisionId => .error (.keyError s!"supersedes_decision_id {decisionId} not found")
  | none =>
    if !(payload.texts ++ createdBySubject.toList).all storable then
      .error (.database .invalidText)
    else
      let newId := newDecisionId nodes
      let inserted := nodes ++ [payload.row newId workspaceId createdBySubject now]
      .ok (markSuperseded payload.supersedesDecisionId workspaceId newId now inserted,
        { decisionId := newId, title := payload.title, decisionStatus := payload.decisionStatus,
          createdAt := now })

/-! ## Changing a status -/

def setStatus (decisionStatus : DecisionStatus) (now : Timestamp) (row : DecisionRow) :
    DecisionRow :=
  { row with decisionStatus, updatedAt := now }

def updateStatus (decisionId : DecisionId) (decisionStatus : DecisionStatus)
    (workspaceId : Option WorkspaceId) (now : Timestamp) (nodes : List DecisionRow) :
    Except StoreError (List DecisionRow × DecisionFull) :=
  match nodes.find? (atDecision decisionId workspaceId) with
  | none => .error (.keyError s!"Decision {decisionId} not found")
  | some row =>
    .ok (updateWhere (atDecision decisionId workspaceId) (setStatus decisionStatus now) nodes,
      (setStatus decisionStatus now row).toDecisionFull)

inductive DecisionOperation where
  | createDecision (payload : DecisionCreate) (workspaceId : Option WorkspaceId)
      (createdBySubject : Option Text) (now : Timestamp)
  | updateStatus (decisionId : DecisionId) (decisionStatus : DecisionStatus)
      (workspaceId : Option WorkspaceId) (now : Timestamp)
deriving DecidableEq

/-- One call: its transaction commits, or leaves the table as it was. -/
def step (nodes : List DecisionRow) : DecisionOperation → List DecisionRow
  | .createDecision payload workspaceId createdBySubject now =>
    match createDecision payload workspaceId createdBySubject now nodes with
    | .error _ => nodes
    | .ok (nodes, _) => nodes
  | .updateStatus decisionId decisionStatus workspaceId now =>
    match updateStatus decisionId decisionStatus workspaceId now nodes with
    | .error _ => nodes
    | .ok (nodes, _) => nodes

/-! ## Lineage -/

inductive LineageRole where
  | ancestor
  | descendant
deriving DecidableEq

structure LineageNode where
  decisionId : DecisionId
  title : Text
  decisionStatus : DecisionStatus
  createdBySubject : Option Text
  createdAt : Timestamp
deriving DecidableEq

structure DecisionLineageResponse where
  decisionId : DecisionId
  title : Text
  ancestors : List LineageNode
  descendants : List LineageNode
  depth : ℕ
  depthLimitReached : Bool := false
deriving DecidableEq

def maxLineageDepth : ℕ := 10

structure LineageRow where
  role : LineageRole
  node : LineageNode
  depth : ℕ
deriving DecidableEq

def LineageRole.rank : LineageRole → ℕ
  | .ancestor => 0
  | .descendant => 1

def lineageNode (row : DecisionRow) : LineageNode :=
  { decisionId := row.decisionId, title := row.title, decisionStatus := row.decisionStatus,
    createdBySubject := row.createdBySubject, createdAt := row.createdAt }

/-- The rows a pointer refers to. -/
def pointedTo (workspaceId : Option WorkspaceId) (nodes : List DecisionRow) :
    Option DecisionId → List DecisionRow
  | none => []
  | some decisionId => nodes.filter (atDecision decisionId workspaceId)

/-- The recursive part of one `WITH RECURSIVE` query: every round joins the rows of the round
before to the rows they point to, until a round is empty or the depth is reached. -/
def lineageRounds (pointer : DecisionRow → Option DecisionId) (workspaceId : Option WorkspaceId)
    (nodes : List DecisionRow) (depth : ℕ) :
    ℕ → List DecisionRow → List (DecisionRow × ℕ)
  | 0, _ => []
  | rounds + 1, working =>
    working.map (·, depth) ++
      lineageRounds pointer workspaceId nodes (depth + 1) rounds
        (working.flatMap fun row => pointedTo workspaceId nodes (pointer row))

/-- The rows of one recursive query, from the decision that the base row points to. -/
def lineageQuery (pointer : DecisionRow → Option DecisionId) (decisionId : DecisionId)
    (workspaceId : Option WorkspaceId) (nodes : List DecisionRow) : List (DecisionRow × ℕ) :=
  let base := (nodes.find? (atDecision decisionId workspaceId)).bind pointer
  lineageRounds pointer workspaceId nodes 1 maxLineageDepth (pointedTo workspaceId nodes base)

def lineageRows (decisionId : DecisionId) (workspaceId : Option WorkspaceId)
    (nodes : List DecisionRow) : List LineageRow :=
  let rowsOf (role : LineageRole) (pointer : DecisionRow → Option DecisionId) :=
    (lineageQuery pointer decisionId workspaceId nodes).map fun row =>
      { role, node := lineageNode row.1, depth := row.2 : LineageRow }
  sortOn (fun row => toLex (row.role.rank, row.depth))
    (rowsOf .ancestor (·.supersedesDecisionId) ++ rowsOf .descendant (·.supersededByDecisionId))

def getLineage (decisionId : DecisionId) (workspaceId : Option WorkspaceId)
    (nodes : List DecisionRow) : Except StoreError DecisionLineageResponse :=
  match nodes.find? (atDecision decisionId workspaceId) with
  | none => .error (.keyError s!"Decision {decisionId} not found")
  | some base =>
    let rows := lineageRows decisionId workspaceId nodes
    let maxDepth := (rows.map (·.depth)).foldr max 0
    .ok { decisionId := base.decisionId, title := base.title,
          ancestors := (rows.filter (·.role == .ancestor)).map (·.node),
          descendants := (rows.filter (·.role == .descendant)).map (·.node),
          depth := maxDepth, depthLimitReached := maxLineageDepth ≤ maxDepth }

end MemoryLab.Decisions

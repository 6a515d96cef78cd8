import MemoryLab.Model.Save

/-! # Reading anchors and promoting a current state -/

namespace MemoryLab

def MemoryType.label : MemoryType → String
  | milestone => "milestone"
  | decision => "decision"
  | principle => "principle"
  | anchor => "anchor"
  | evidence => "evidence"
  | planRoadmap => "plan_roadmap"
  | rawMemory => "raw_memory"

end MemoryLab

namespace MemoryLab.Adapter

open Library Library.Rows Library.Transaction

/-! ## Reading anchors -/

/-- An anchor as a response shows it, with the columns of its content's row. -/
structure AnchorView where
  anchorId : AnchorId
  memoryType : MemoryType
  scope : Text
  stateIdentity : Option Text
  contentId : Option ContentId
  supersedesContentId : Option ContentId
  stateStatus : StateStatus
  setBy : String
  validFrom : Timestamp
  validUntil : Option Timestamp
  quickSummary : Option Text
  isCurrent : Option Bool
  currentStateScope : Option Text
  csSupersedesContentId : Option ContentId
deriving DecidableEq

def anchorView (row : CurrentStateAnchor × Option ContentItem) : AnchorView :=
  let (anchor, item) := row
  { anchorId := anchor.anchorId, memoryType := anchor.memoryType, scope := anchor.scope,
    stateIdentity := anchor.stateIdentity, contentId := anchor.contentId,
    supersedesContentId := anchor.supersedesContentId, stateStatus := anchor.stateStatus,
    setBy := anchor.setBy, validFrom := anchor.validFrom, validUntil := anchor.validUntil,
    quickSummary := item.bind (·.quickSummary), isCurrent := item.bind (·.isCurrent),
    currentStateScope := item.bind (·.currentStateScope),
    csSupersedesContentId := item.bind (·.csSupersedesContentId) }

/-- `LEFT JOIN content_items`. -/
def withContent (db : Database) (anchors : List CurrentStateAnchor) :
    List (CurrentStateAnchor × Option ContentItem) :=
  leftJoin (fun anchor item => anchor.contentId == some item.contentId) anchors db.contentItems

structure AnchorsQuery where
  scope : Text
  memoryType : Option MemoryType := none
  workspaceId : Option WorkspaceId
  stateIdentity : Option Text := none
deriving DecidableEq

def AnchorsQuery.identity (query : AnchorsQuery) : Option Text :=
  query.stateIdentity.filter (· ≠ [])

def AnchorsQuery.selects (query : AnchorsQuery) (anchor : CurrentStateAnchor) : Bool :=
  query.workspaceId == some anchor.workspaceId && anchor.scope == query.scope &&
    anchor.isActive && query.memoryType.all (· == anchor.memoryType) &&
    query.identity.all (anchor.stateIdentity == some ·)

/-- `ORDER BY canonical_rank ASC, valid_from DESC, memory_type ASC`. -/
def listOrder (a b : CurrentStateAnchor × Option ContentItem) : Prop :=
  a.1.canonicalRank < b.1.canonicalRank ∨ (a.1.canonicalRank = b.1.canonicalRank ∧
    (b.1.validFrom < a.1.validFrom ∨ (a.1.validFrom = b.1.validFrom ∧
      Text.le a.1.memoryType.label.toList b.1.memoryType.label.toList = true)))

instance : DecidableRel listOrder := fun _ _ => inferInstanceAs (Decidable (_ ∨ _))

def listCurrentStateAnchors (db : Database) (fault : Fault DbError) (query : AnchorsQuery) :
    Except DbError (List AnchorView) :=
  if query.workspaceId.isNone then .ok []
  else if !(storable query.scope && storable (query.stateIdentity.getD [])) then
    .error .invalidText
  else (transact fault selectOnly db).map fun db =>
    ((withContent db (db.anchors.filter query.selects)).insertionSort listOrder).map anchorView

/-- `ORDER BY valid_from ASC, anchor_id ASC`. -/
def chainOrder (a b : CurrentStateAnchor × Option ContentItem) : Prop :=
  a.1.validFrom < b.1.validFrom ∨
    (a.1.validFrom = b.1.validFrom ∧ a.1.anchorId ≤ b.1.anchorId)

instance : DecidableRel chainOrder := fun _ _ => inferInstanceAs (Decidable (_ ∨ _))

def currentStateSupersessionChain (db : Database) (fault : Fault DbError)
    (key : Resolver.StateKey) : Except DbError (List AnchorView) :=
  if !storable key.stateIdentity then .error .invalidText
  else (transact fault selectOnly db).map fun db =>
    ((withContent db (db.anchors.filter (·.hasKey key))).insertionSort chainOrder).map anchorView

/-! ## Promoting -/

structure PromoteArgs where
  content : Text
  workspaceId : Option WorkspaceId
  workspaceSource : Option Text := none
  createdBySubject : Option Text := none
  memoryType : MemoryType
  stateIdentity : Text
  scopeHint : Option Text := none
  quickSummary : Option Text := none
deriving DecidableEq

/-- `scope_hint or state_identity`. -/
def PromoteArgs.scope (args : PromoteArgs) : Text :=
  (args.scopeHint.filter (· ≠ [])).getD args.stateIdentity

def PromoteArgs.query (args : PromoteArgs) : AnchorsQuery :=
  { scope := args.scope, memoryType := some args.memoryType, workspaceId := args.workspaceId,
    stateIdentity := some args.stateIdentity }

def PromoteArgs.saveArgs (args : PromoteArgs) : SaveArgs :=
  { content := some args.content, workspaceId := args.workspaceId,
    workspaceSource := args.workspaceSource, createdBySubject := args.createdBySubject,
    scopeHint := some args.scope, stateIdentity := some args.stateIdentity,
    stateIdentityTrusted := true, trustedMemoryType := some args.memoryType,
    skipDedup := true, forcePersist := true }

/-- What happens around one promotion: the environment of its save, and where the
transactions of its own are struck. -/
structure PromoteEnvironment extends SaveEnvironment where
  beforeFault : Fault DbError := none
  summaryFault : Fault DbError := none
  chainFault : Fault DbError := none

structure PromoteResponse where
  created : SaveResponse
  memoryType : MemoryType
  stateIdentity : Text
  previousAnchorId : Option AnchorId
  previousContentId : Option ContentId
  currentAnchor : Option AnchorView
  supersessionChain : List AnchorView
  readback : AnchorsQuery
deriving DecidableEq

def setQuickSummary (contentId : ContentId) (quickSummary : Text) (workspaceId : WorkspaceId) :
    Statement Database DbError := fun db =>
  if !storable quickSummary then .error .invalidText
  else .ok { db with
    contentItems := updateWhere
      (fun item => hasContentId contentId item && item.workspaceId == some workspaceId)
      (fun item => { item with quickSummary := some quickSummary }) db.contentItems }

/-- The summary of the new row, when the caller gave one. -/
def summarize (db : Database) (fault : Fault DbError) (args : PromoteArgs)
    (workspaceId : WorkspaceId) (created : SaveResponse) : Except DbError Database :=
  match args.quickSummary.filter (· ≠ []), created.contentId with
  | some quickSummary, some contentId =>
    transact fault [setQuickSummary contentId quickSummary workspaceId] db
  | _, _ => .ok db

def trustedPromoteCurrentState (contentHashOf : Text → Text) (db : Database)
    (args : PromoteArgs) (env : PromoteEnvironment) :
    Database × Except SaveError PromoteResponse :=
  match args.workspaceId with
  | none =>
    (db, .error (.value "workspace_id is required for trusted current-state promotion"))
  | some workspaceId =>
    match listCurrentStateAnchors db env.beforeFault args.query with
    | .error error => (db, .error (.database error))
    | .ok activeBefore =>
      let previousAnchor := activeBefore.head?
      match createContentMinimal contentHashOf db args.saveArgs env.toSaveEnvironment with
      | (db, .error error) => (db, .error error)
      | (db, .ok created) =>
        match summarize db env.summaryFault args workspaceId created with
        | .error error => (db, .error (.database error))
        | .ok db =>
          match currentStateSupersessionChain db env.chainFault
              ⟨workspaceId, args.memoryType, args.stateIdentity⟩ with
          | .error error => (db, .error (.database error))
          | .ok chain =>
            (db, .ok
              { created, memoryType := args.memoryType, stateIdentity := args.stateIdentity,
                previousAnchorId := previousAnchor.map (·.anchorId)
                previousContentId := previousAnchor.bind (·.contentId)
                currentAnchor := chain.reverse.find? (·.stateStatus == .active)
                supersessionChain := chain, readback := args.query })

end MemoryLab.Adapter

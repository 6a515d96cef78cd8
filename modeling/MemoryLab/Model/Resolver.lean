import MemoryLab.Model.ScopePipeline

/-! # The current-state resolver

The statements of one call are separate definitions: the sequential call composes them over
one database, the concurrent one runs them against what its transaction sees. -/

namespace MemoryLab.Resolver

open Library Library.Rows ScopePipeline

def minConfidence : ℚ := 7 / 10

def allowedSetBy : List String :=
  ["auto_classify", "human_override", "mcp_tool", "api", "reconcile_job"]

/-- The arguments of a call; `none` also stands for the empty string, except for texts. -/
structure ResolveArgs where
  workspaceId : Option WorkspaceId
  contentId : Option ContentId
  memoryType : Option MemoryType
  memorySubType : Option Text := none
  classifyConfidence : Option ℚ
  signals : List Text := []
  scopeHint : Option Text := none
  projectTopic : Option Text := none
  domainHint : Option Text := none
  contentText : Option Text := none
  setBy : String := "auto_classify"
  stateIdentity : Option Text := none
deriving DecidableEq

inductive ResolutionStatus where
  | noop
  | grouped
  | active
deriving DecidableEq

inductive ResolutionReason where
  | lowConfidence
  | missingWorkspace
  | missingContentId
  | missingMemoryType
  | invalidSetBy
  | scopeOnlyNoStateIdentity
  | idempotentActiveAnchor
  | resolvedCurrentState
deriving DecidableEq

structure CurrentStateResolution where
  status : ResolutionStatus
  reason : ResolutionReason
  contentId : Option ContentId := none
  workspaceId : Option WorkspaceId := none
  memoryType : Option MemoryType := none
  currentStateScope : Option Text := none
  scopeSource : Option ScopeSource := none
  stateIdentity : Option Text := none
  anchorId : Option AnchorId := none
  supersedesContentId : Option ContentId := none
  wrote : Bool := false
  idempotent : Bool := false
deriving DecidableEq

/-- The uniqueness key of a tracked fact. -/
structure StateKey where
  workspaceId : WorkspaceId
  memoryType : MemoryType
  stateIdentity : Text
deriving DecidableEq

end Resolver

namespace CurrentStateAnchor

open Resolver

def hasKey (key : StateKey) (anchor : CurrentStateAnchor) : Bool :=
  anchor.workspaceId == key.workspaceId && anchor.memoryType == key.memoryType &&
    anchor.stateIdentity == some key.stateIdentity

def isActive (anchor : CurrentStateAnchor) : Bool := anchor.stateStatus == .active

end CurrentStateAnchor

namespace Resolver

open Library Library.Rows ScopePipeline

/-! ## Early exits -/

/-- The arguments of a call that passed every early exit. -/
structure AdmittedCall where
  classifyConfidence : ℚ
  workspaceId : WorkspaceId
  contentId : ContentId
  memoryType : MemoryType
deriving DecidableEq

def ResolveArgs.admission (args : ResolveArgs) : Except ResolutionReason AdmittedCall :=
  match args.classifyConfidence with
  | none => .error .lowConfidence
  | some confidence =>
    if confidence < minConfidence then .error .lowConfidence
    else match args.workspaceId with
    | none => .error .missingWorkspace
    | some workspaceId => match args.contentId with
      | none => .error .missingContentId
      | some contentId => match args.memoryType with
        | none => .error .missingMemoryType
        | some memoryType =>
          if args.setBy ∉ allowedSetBy then .error .invalidSetBy
          else .ok ⟨confidence, workspaceId, contentId, memoryType⟩

def ResolveArgs.scopeRequest (args : ResolveArgs) : ScopeRequest :=
  ⟨args.workspaceId, args.contentText, args.scopeHint, args.projectTopic, args.domainHint⟩

/-- The identity that the call carries: the empty text counts as none. -/
def ResolveArgs.identity (args : ResolveArgs) : Option Text :=
  args.stateIdentity.filter (· ≠ [])

/-! ## Statements -/

def selectExistingSame (key : StateKey) (contentId : ContentId)
    (anchors : List CurrentStateAnchor) : Option CurrentStateAnchor :=
  anchors.find? fun anchor => anchor.hasKey key && anchor.isActive &&
    anchor.contentId == some contentId

/-- `ORDER BY canonical_rank ASC, valid_from DESC`. -/
def anchorOrder (a b : CurrentStateAnchor) : Prop :=
  a.canonicalRank < b.canonicalRank ∨
    (a.canonicalRank = b.canonicalRank ∧ b.validFrom ≤ a.validFrom)

instance : DecidableRel anchorOrder := fun _ _ => inferInstanceAs (Decidable (_ ∨ _))

def selectPrevious (key : StateKey) (anchors : List CurrentStateAnchor) : Option ContentId :=
  (selectFirst anchorOrder (anchors.filter fun anchor =>
    anchor.hasKey key && anchor.isActive && anchor.contentId.isSome)).bind (·.contentId)

/-- The `WHERE` clause of the supersession. -/
def toSupersede (key : StateKey) (contentId : ContentId) (anchor : CurrentStateAnchor) : Bool :=
  anchor.hasKey key && anchor.isActive && anchor.contentId != some contentId

def setSuperseded (now : Timestamp) (anchor : CurrentStateAnchor) : CurrentStateAnchor :=
  { anchor with stateStatus := .superseded, validUntil := some now }

def supersedeActive (key : StateKey) (contentId : ContentId) (now : Timestamp) :
    List CurrentStateAnchor → List CurrentStateAnchor :=
  updateWhere (toSupersede key contentId) (setSuperseded now)

def setNotCurrent (scope : Text) (item : ContentItem) : ContentItem :=
  { item with isCurrent := some false, currentStateScope := some scope }

def setCurrent (scope stateIdentity : Text) (supersedes : Option ContentId)
    (item : ContentItem) : ContentItem :=
  { item with isCurrent := some true, currentStateScope := some scope,
              stateIdentity := some stateIdentity, csSupersedesContentId := supersedes }

def setScope (scope : Text) (item : ContentItem) : ContentItem :=
  { item with currentStateScope := some scope }

/-- The update of the superseded content's row, skipped when nothing is superseded. -/
def markSuperseded (scope : Text) (supersedes : Option ContentId) (items : List ContentItem) :
    List ContentItem :=
  match supersedes with
  | some previous => updateWhere (hasContentId previous) (setNotCurrent scope) items
  | none => items

def markCurrent (scope stateIdentity : Text) (supersedes : Option ContentId)
    (contentId : ContentId) : List ContentItem → List ContentItem :=
  updateWhere (hasContentId contentId) (setCurrent scope stateIdentity supersedes)

/-- The row of the `INSERT`, under an identifier drawn for it. -/
def newAnchor (args : ResolveArgs) (call : AdmittedCall) (stateIdentity : Text)
    (scope : ScopeResolution) (supersedes : Option ContentId) (now : Timestamp)
    (anchorId : AnchorId) : CurrentStateAnchor :=
  { anchorId, workspaceId := call.workspaceId, memoryType := call.memoryType,
    scope := scope.scope, stateIdentity := some stateIdentity, contentId := some call.contentId,
    supersedesContentId := supersedes, validFrom := now,
    stateReason := some ⟨call.classifyConfidence, args.memorySubType, args.signals,
      scope.source.label, stateIdentity⟩,
    setBy := args.setBy }

/-! ## The call -/

def AdmittedCall.key (call : AdmittedCall) (stateIdentity : Text) : StateKey :=
  ⟨call.workspaceId, call.memoryType, stateIdentity⟩

/-- The transaction of a call with an identity, after its scope is known. -/
def resolveIdentity (db : Database) (now : Timestamp) (args : ResolveArgs)
    (call : AdmittedCall) (stateIdentity : Text) (scope : ScopeResolution) :
    Except DbError (Database × CurrentStateResolution) :=
  let key := call.key stateIdentity
  let resolution : CurrentStateResolution :=
    { status := .active, reason := .resolvedCurrentState, contentId := some call.contentId,
      workspaceId := some call.workspaceId, memoryType := some call.memoryType,
      currentStateScope := some scope.scope, scopeSource := some scope.source,
      stateIdentity := some stateIdentity, wrote := true }
  if !storable stateIdentity then .error .invalidText
  else match selectExistingSame key call.contentId db.anchors with
  | some existing =>
    let items := markCurrent scope.scope stateIdentity existing.supersedesContentId
      call.contentId db.contentItems
    .ok ({ db with contentItems := items },
      { resolution with
        reason := .idempotentActiveAnchor, anchorId := some existing.anchorId,
        supersedesContentId := existing.supersedesContentId, idempotent := true })
  | none =>
    let supersedes := selectPrevious key db.anchors
    let anchors := supersedeActive key call.contentId now db.anchors
    let items := markSuperseded scope.scope supersedes db.contentItems
    let anchorId := freshId (anchors.map (·.anchorId))
    if !storable (args.memorySubType.getD []) then .error .invalidText
    else if call.contentId ∉ db.contentIds then .error .foreignKeyViolation
    else
      .ok ({ db with
        anchors := anchors ++
          [newAnchor args call stateIdentity scope supersedes now anchorId],
        contentItems := markCurrent scope.scope stateIdentity supersedes call.contentId items },
        { resolution with anchorId := some anchorId, supersedesContentId := supersedes })

def resolveCurrentStateAfterIngest (db : Database) (now : Timestamp) (args : ResolveArgs) :
    Except DbError (Database × CurrentStateResolution) :=
  match args.admission with
  | .error reason =>
    .ok (db, { status := .noop, reason, contentId := args.contentId,
               workspaceId := args.workspaceId, memoryType := args.memoryType })
  | .ok call =>
    let scope := resolveScope db args.scopeRequest
    match args.identity with
    | none =>
      .ok ({ db with
        contentItems := updateWhere (hasContentId call.contentId) (setScope scope.scope)
          db.contentItems },
        { status := .grouped, reason := .scopeOnlyNoStateIdentity,
          contentId := some call.contentId, workspaceId := some call.workspaceId,
          memoryType := some call.memoryType, currentStateScope := some scope.scope,
          scopeSource := some scope.source, wrote := true })
    | some stateIdentity => resolveIdentity db now args call stateIdentity scope

/-! ## Sequential runs -/

structure ResolveCall where
  now : Timestamp
  args : ResolveArgs
deriving DecidableEq

/-- The state after a call: an exception rolls the transaction back. -/
def resolveStep (db : Database) (call : ResolveCall) : Database :=
  match resolveCurrentStateAfterIngest db call.now call.args with
  | .ok (next, _) => next
  | .error _ => db

end MemoryLab.Resolver

import MemoryLab.Library.Transaction
import MemoryLab.Model.Chunking
import MemoryLab.Model.Resolver
import MemoryLab.Model.TierOperations
import MemoryLab.Model.TierRouter

/-! # Saving content

One save is a sequence of transactions. An exception before the body is committed reaches the
caller and leaves what was committed; every later stage swallows its own. -/

namespace MemoryLab.Adapter

open Library Library.Rows Library.Transaction TierRouter

/-! ## Arguments -/

/-- The arguments of a save; `none` also stands for the empty string, except for texts. -/
structure SaveArgs where
  content : Option Text
  workspaceId : Option WorkspaceId
  workspaceSource : Option Text := none
  createdBySubject : Option Text := none
  scopeHint : Option Text := none
  stateIdentity : Option Text := none
  stateIdentityTrusted : Bool := false
  trustedMemoryType : Option MemoryType := none
  trustedMemorySubType : Option Text := none
  skipDedup : Bool := false
  forcePersist : Bool := false
deriving DecidableEq

inductive SaveError where
  | value (message : String)
  | database (error : DbError)
deriving DecidableEq

/-- `content or ""`. -/
def SaveArgs.body (args : SaveArgs) : Text := args.content.getD []

def SaveArgs.identity (args : SaveArgs) : Option Text := args.stateIdentity.filter (· ≠ [])

/-- What the checks at the head of a save raise. -/
def SaveArgs.trustError (args : SaveArgs) : Option String :=
  if args.identity.isSome && !args.stateIdentityTrusted then
    some ("state_identity requires state_identity_trusted=True from an explicit, " ++
      "pre-declared trusted caller — see engineering/current-state-phase-a-" ++
      "implementation-spec-2026-08-23.md §8.2")
  else if args.trustedMemoryType.isSome && args.identity.isNone then
    some "trusted_memory_type requires an explicit trusted state_identity"
  else if args.forcePersist && args.identity.isNone then
    some "force_persist requires an explicit trusted state_identity"
  else none

/-! ## What a save asks its environment -/

structure IngestionEvent where
  scores : IngestionScores
  circuitWasOpen : Bool := false
  fallbackReason : Text := []
deriving DecidableEq

def IngestionEvent.circuitOpen (event : IngestionEvent) : Bool :=
  event.circuitWasOpen || event.fallbackReason ≠ []

structure ClassificationResult where
  memoryType : MemoryType
  memorySubType : Option Text := none
  confidence : ℚ := 0
  signals : List Text := []
  projectTopic : Option Text := none
  domainHint : Option Text := none
deriving DecidableEq

structure AnnotationResult where
  topicTags : List Text := []
  metaTags : List Text := []
deriving DecidableEq

/-- Where the transactions of one save are struck. -/
structure SaveFaults where
  lookup : Fault DbError := none
  insert : Fault DbError := none
  scores : Fault DbError := none
  body : Fault DbError := none
  classify : Fault DbError := none
  resolver : Option DbError := none
  annotate : Fault DbError := none
  conflict : Option DbError := none
deriving DecidableEq

/-- The clock, the providers and the heuristics during one save. A classifier or an annotator
that raises answers nothing; a chunk gets a vector when its embedding succeeds. -/
structure SaveEnvironment where
  now : Timestamp := 0
  event : IngestionEvent
  policy : RoutingPolicy := {}
  classified : Option ClassificationResult := none
  embedText : Text → Option (List ℚ) := fun _ => none
  annotated : Option AnnotationResult := none
  plan : Database → Option TierOperations.EscalationPlan := fun _ => none
  faults : SaveFaults := {}

/-! ## Responses -/

inductive SaveMode where
  | deduplicated
  | trustedCurrentStatePromotion
  | governedDiscarded
  | governedFallback
  | governed
deriving DecidableEq

/-- What the classification stage hands on. -/
structure ClassifyMeta where
  memoryType : MemoryType
  memorySubType : Option Text
  classifyConfidence : ℚ
  classifyMode : String
  signals : List Text
  projectTopic : Option Text
  domainHint : Option Text
deriving DecidableEq

inductive CurrentStateMeta where
  | resolved (resolution : Resolver.CurrentStateResolution)
  | lowConfidence
  | resolverError
deriving DecidableEq

structure SaveResponse where
  contentId : Option ContentId := none
  created : Bool := false
  persisted : Bool
  discarded : Bool
  duplicate : Bool := false
  mode : SaveMode
  workspaceId : Option WorkspaceId
  workspaceContextSource : Option Text
  scores : Option IngestionScores := none
  tier : Option Tier := none
  tierReason : Option Text := none
  fallbackReason : Option Text := none
  classification : Option ClassifyMeta := none
  currentState : Option CurrentStateMeta := none
  topicTags : List Text := []
  metaTags : List Text := []
  conflict : Option TierOperations.EscalationMeta := none
deriving DecidableEq

/-- `_workspace_meta`: the source is only told beside a workspace. -/
def SaveArgs.contextSource (args : SaveArgs) : Option Text :=
  if args.workspaceId.isSome then args.workspaceSource.filter (· ≠ []) else none

/-! ## Looking for a duplicate -/

def hasContentHash (workspaceId : Option WorkspaceId) (contentHash : Text) (item : ContentItem) :
    Bool :=
  item.contentHash == some contentHash && item.workspaceId == workspaceId

def findDuplicateContentId (db : Database) (contentHash : Text)
    (workspaceId : Option WorkspaceId) : Option ContentId :=
  (db.contentItems.find? (hasContentHash workspaceId contentHash)).map (·.contentId)

/-- A transaction of one `SELECT`. -/
def selectOnly : List (Statement Database DbError) := [.ok]

/-- The lookup of a save, which `skip_dedup` leaves out. -/
def lookupDuplicate (db : Database) (contentHash : Text) (args : SaveArgs)
    (env : SaveEnvironment) : Except DbError (Option ContentId) :=
  if args.skipDedup then .ok none
  else (transact env.faults.lookup selectOnly db).map fun db =>
    findDuplicateContentId db contentHash args.workspaceId

def duplicateResponse (args : SaveArgs) (existing : ContentId) : SaveResponse :=
  { contentId := some existing, persisted := true, discarded := false, duplicate := true,
    mode := .deduplicated, workspaceId := args.workspaceId,
    workspaceContextSource := args.contextSource }

/-! ## Governance -/

def routed (env : SaveEnvironment) : TierDecision :=
  route env.policy env.event.scores.composite env.event.circuitOpen env.event.scores.quality

/-- The decision of the router, unless the caller forces the content to be kept. -/
def tierDecision (args : SaveArgs) (env : SaveEnvironment) : TierDecision :=
  if args.forcePersist then
    { routed env with
      tier := .persistent
      reason := "trusted_current_state_promotion:force_persist_after_".toList ++
        (routed env).reason
      shouldPersist := true }
  else routed env

def baseResponse (args : SaveArgs) (env : SaveEnvironment) : SaveResponse :=
  let decision := tierDecision args env
  { persisted := false, discarded := !decision.shouldPersist,
    mode :=
      if args.forcePersist then .trustedCurrentStatePromotion
      else if !decision.shouldPersist then .governedDiscarded
      else if env.event.fallbackReason ≠ [] then .governedFallback
      else .governed,
    workspaceId := args.workspaceId, workspaceContextSource := args.contextSource,
    scores := some env.event.scores, tier := some decision.tier,
    tierReason := some decision.reason, fallbackReason := some env.event.fallbackReason }

/-! ## The row and its scores -/

def newContentItem (args : SaveArgs) (contentHash : Text) (now : Timestamp)
    (contentId : ContentId) : ContentItem :=
  { contentId, workspaceId := args.workspaceId, contentHash := some contentHash,
    createdBySubject := args.createdBySubject, createdAt := now }

/-- The index that keeps the hash unique in a workspace does not compare missing workspaces. -/
def hashTaken (db : Database) (args : SaveArgs) (contentHash : Text) : Bool :=
  args.workspaceId.isSome && db.contentItems.any (hasContentHash args.workspaceId contentHash)

def insertContent (args : SaveArgs) (contentHash : Text) (now : Timestamp)
    (contentId : ContentId) : Statement Database DbError := fun db =>
  if !storable (args.createdBySubject.getD []) then .error .invalidText
  else if hashTaken db args contentHash then .error .uniqueViolation
  else .ok { db with
    contentItems := db.contentItems ++ [newContentItem args contentHash now contentId] }

def setScores (event : IngestionEvent) (decision : TierDecision) (now : Timestamp)
    (item : ContentItem) : ContentItem :=
  { item with
    scores := some event.scores, circuitOpen := some event.circuitOpen,
    tier := some decision.tier, tierReason := some decision.reason,
    tierAssignedAt := some now }

def updateScores (event : IngestionEvent) (decision : TierDecision) (now : Timestamp)
    (contentId : ContentId) : Statement Database DbError := fun db =>
  if !storable decision.reason then .error .invalidText
  else if decision.tier = .discard then .error .invalidEnum
  else .ok { db with
    contentItems := updateWhere (hasContentId contentId) (setScores event decision now)
      db.contentItems }

/-! ## The body -/

/-- The chunks handed to `persist_multi_chunks`. -/
def bodyChunks (content : Text) : List (ℕ × Text) :=
  let chunks := (Chunking.chunkText content).chunks.map fun chunk => (chunk.index, chunk.text)
  if chunks = [] then [(0, content)] else chunks

def ofContent (contentId : ContentId) (chunk : ContentChunkRow) : Bool :=
  chunk.contentId == contentId

def deleteChunks (contentId : ContentId) : Statement Database DbError := fun db =>
  .ok { db with contentChunks := db.contentChunks.filter fun chunk => !ofContent contentId chunk }

def insertChunk (row : ContentChunkRow) : Statement Database DbError := fun db =>
  if !storable row.chunkText then .error .invalidText
  else if row.contentId ∉ db.contentIds then .error .foreignKeyViolation
  else if db.contentChunks.any fun chunk =>
      ofContent row.contentId chunk && chunk.chunkIndex == row.chunkIndex then
    .error .uniqueViolation
  else .ok { db with contentChunks := db.contentChunks ++ [row] }

def storeEmbedding (chunkId : ChunkId) (vector : List ℚ) : Statement Database DbError := fun db =>
  .ok { db with
    contentChunks := updateWhere (·.chunkId == chunkId)
      (fun chunk => { chunk with embedding := some vector }) db.contentChunks }

/-- The row of one chunk, under an identifier drawn for it. -/
def chunkRow (contentId : ContentId) (workspaceId : Option WorkspaceId) (firstId : ChunkId)
    (chunk : ℕ × Text) : ContentChunkRow :=
  { chunkId := firstId + chunk.1, contentId, workspaceId, chunkIndex := chunk.1,
    chunkText := chunk.2 }

def chunkStatements (contentId : ContentId) (workspaceId : Option WorkspaceId)
    (embedText : Text → Option (List ℚ)) (firstId : ChunkId) (chunk : ℕ × Text) :
    List (Statement Database DbError) :=
  let row := chunkRow contentId workspaceId firstId chunk
  insertChunk row ::
    match embedText chunk.2 with
    | some vector => [storeEmbedding row.chunkId vector]
    | none => []

/-- The rows of a body: empty chunks are skipped. -/
def bodyRows (content : Text) : List (ℕ × Text) := (bodyChunks content).filter (·.2 ≠ [])

def persistMultiChunks (contentId : ContentId) (workspaceId : Option WorkspaceId)
    (embedText : Text → Option (List ℚ)) (firstId : ChunkId) (content : Text) :
    List (Statement Database DbError) :=
  deleteChunks contentId ::
    (bodyRows content).flatMap (chunkStatements contentId workspaceId embedText firstId)

/-- The statements of the body's transaction in a state. -/
def bodyStatements (db : Database) (args : SaveArgs) (env : SaveEnvironment)
    (contentId : ContentId) : List (Statement Database DbError) :=
  persistMultiChunks contentId args.workspaceId env.embedText
    (freshId (db.contentChunks.map (·.chunkId))) args.body

/-! ## Classification -/

def trustedClassifierVersion : String := "trusted_current_state_v1"

def heuristicClassifierVersion : String := "heuristic_v1"

/-- The classification that a trusted caller dictates. -/
def forcedClassification (args : SaveArgs) : Option ClassificationResult :=
  args.trustedMemoryType.map fun memoryType =>
    { memoryType,
      memorySubType := some ((args.trustedMemorySubType.filter (· ≠ [])).getD
        "trusted_current_state".toList),
      confidence := 1, signals := ["trusted_current_state_promotion".toList] }

def hasActiveClassification (db : Database) (contentId : ContentId) (memoryType : MemoryType)
    (classifierVersion : String) : Bool :=
  db.classificationHistory.any fun row => row.contentId == contentId &&
    row.memoryType == memoryType && row.classifierVersion == classifierVersion &&
    row.isActiveClassification

def setClassification (result : ClassificationResult) (item : ContentItem) : ContentItem :=
  { item with
    memoryType := some result.memoryType, memorySubType := result.memorySubType,
    classifyConfidence := some result.confidence }

def updateClassification (result : ClassificationResult) (contentId : ContentId) :
    Statement Database DbError := fun db =>
  if !storable (result.memorySubType.getD []) then .error .invalidText
  else .ok { db with
    contentItems := updateWhere (hasContentId contentId) (setClassification result)
      db.contentItems }

def deactivateClassifications (contentId : ContentId) : Statement Database DbError := fun db =>
  .ok { db with
    classificationHistory := updateWhere
      (fun row => row.contentId == contentId && row.isActiveClassification)
      (fun row => { row with isActiveClassification := false }) db.classificationHistory }

def insertClassification (result : ClassificationResult) (classifierVersion : String)
    (workspaceId : WorkspaceId) (contentId : ContentId) : Statement Database DbError := fun db =>
  if !(storable (result.projectTopic.getD []) && result.signals.all storable) then
    .error .invalidText
  else .ok { db with
    classificationHistory := db.classificationHistory ++ [
      { workspaceId, contentId, memoryType := result.memoryType,
        memorySubType := result.memorySubType, classifyConfidence := result.confidence,
        classifierVersion, projectTopic := result.projectTopic, signals := result.signals,
        isActiveClassification := true }] }

/-- The domain's `INSERT … ON CONFLICT DO NOTHING` and the link to it: both write columns that
nothing here reads. -/
def linkDomain (domainHint : Text) : List (Statement Database DbError) :=
  [fun db => if !storable domainHint then .error .invalidText else .ok db, .ok]

def classifyStatements (result : ClassificationResult) (classifierVersion : String)
    (workspaceId : Option WorkspaceId) (contentId : ContentId) :
    List (Statement Database DbError) :=
  [.ok, updateClassification result contentId, deactivateClassifications contentId] ++
    match workspaceId with
    | none => []
    | some workspaceId =>
      insertClassification result classifierVersion workspaceId contentId ::
        match result.domainHint.filter (· ≠ []) with
        | some domainHint =>
          if 7 / 10 ≤ result.confidence then linkDomain domainHint else []
        | none => []

def runClassifyAndWrite (db : Database) (args : SaveArgs) (env : SaveEnvironment)
    (contentId : ContentId) : Database × Option ClassifyMeta :=
  let forced := forcedClassification args
  let classifierVersion :=
    if forced.isSome then trustedClassifierVersion else heuristicClassifierVersion
  match forced.or env.classified with
  | none => (db, none)
  | some result =>
    let statements :=
      if hasActiveClassification db contentId result.memoryType classifierVersion then selectOnly
      else classifyStatements result classifierVersion args.workspaceId contentId
    match transact env.faults.classify statements db with
    | .error _ => (db, none)
    | .ok db =>
      (db, some
        { memoryType := result.memoryType, memorySubType := result.memorySubType,
          classifyConfidence := result.confidence, classifyMode := classifierVersion,
          signals := result.signals, projectTopic := result.projectTopic,
          domainHint := result.domainHint })

/-! ## The current state -/

def resolveArgs (args : SaveArgs) (contentId : ContentId) (info : ClassifyMeta) :
    Resolver.ResolveArgs :=
  { workspaceId := args.workspaceId, contentId := some contentId,
    memoryType := some info.memoryType, memorySubType := info.memorySubType,
    classifyConfidence := some info.classifyConfidence, signals := info.signals,
    scopeHint := args.scopeHint, projectTopic := info.projectTopic,
    domainHint := info.domainHint, contentText := some args.body,
    stateIdentity := args.stateIdentity }

def resolveCurrentState (db : Database) (args : SaveArgs) (env : SaveEnvironment)
    (contentId : ContentId) (info : Option ClassifyMeta) : Database × CurrentStateMeta :=
  match info.filter (7 / 10 ≤ ·.classifyConfidence) with
  | none => (db, .lowConfidence)
  | some info =>
    if env.faults.resolver.isSome then (db, .resolverError)
    else match Resolver.resolveCurrentStateAfterIngest db env.now
        (resolveArgs args contentId info) with
      | .error _ => (db, .resolverError)
      | .ok (db, resolution) => (db, .resolved resolution)

/-! ## Enrichment and conflicts -/

def setTags (annotated : AnnotationResult) (item : ContentItem) : ContentItem :=
  { item with topicTags := annotated.topicTags, metaTags := annotated.metaTags }

def updateTags (annotated : AnnotationResult) (contentId : ContentId) :
    Statement Database DbError := fun db =>
  if !((annotated.topicTags ++ annotated.metaTags).all storable) then .error .invalidText
  else .ok { db with
    contentItems := updateWhere (hasContentId contentId) (setTags annotated) db.contentItems }

/-- The response tells the tags also when writing them failed. -/
def annotateContent (db : Database) (env : SaveEnvironment) (contentId : ContentId) :
    Database × AnnotationResult :=
  match env.annotated with
  | none => (db, {})
  | some annotated =>
    if annotated = {} then (db, annotated)
    else match transact env.faults.annotate [updateTags annotated contentId] db with
      | .error _ => (db, annotated)
      | .ok db => (db, annotated)

def evaluateAndEscalate (db : Database) (args : SaveArgs) (env : SaveEnvironment)
    (contentId : ContentId) : Database × Option TierOperations.EscalationMeta :=
  match args.workspaceId, env.faults.conflict, env.plan db with
  | some workspaceId, none, some plan =>
    match TierOperations.persistEscalation db env.now { plan with workspaceId, contentId } with
    | .error _ => (db, none)
    | .ok (db, info) => (db, some info)
  | _, _, _ => (db, none)

/-! ## The save -/

/-- The stages after the body, none of which raises. -/
def enrich (db : Database) (args : SaveArgs) (env : SaveEnvironment) (contentId : ContentId) :
    Database × SaveResponse :=
  let (db, classification) := runClassifyAndWrite db args env contentId
  let (db, currentState) := resolveCurrentState db args env contentId classification
  let (db, annotated) := annotateContent db env contentId
  let (db, conflict) := evaluateAndEscalate db args env contentId
  let quarantined := conflict.any (·.conflictSeverity == .requiresReview)
  let base := baseResponse args env
  (db, { base with
    contentId := some contentId, created := true, persisted := true, discarded := false,
    tier := if quarantined then some .conflicted else base.tier,
    tierReason := if quarantined then some "conflict:requires_review".toList
      else base.tierReason,
    classification, currentState := some currentState, topicTags := annotated.topicTags,
    metaTags := annotated.metaTags, conflict })

/-- What follows the insertion of the row. -/
def storeContent (db : Database) (args : SaveArgs) (env : SaveEnvironment)
    (contentId : ContentId) : Database × Except SaveError SaveResponse :=
  match transact env.faults.scores
      [updateScores env.event (tierDecision args env) env.now contentId] db with
  | .error error => (db, .error (.database error))
  | .ok db =>
    match transact env.faults.body (bodyStatements db args env contentId) db with
    | .error error => (db, .error (.database error))
    | .ok db =>
      let (db, response) := enrich db args env contentId
      (db, .ok response)

/-- The state that a save leaves, and its answer or the exception it raises. -/
def createContentMinimal (contentHashOf : Text → Text) (db : Database) (args : SaveArgs)
    (env : SaveEnvironment) : Database × Except SaveError SaveResponse :=
  match args.trustError with
  | some message => (db, .error (.value message))
  | none =>
    let contentHash := contentHashOf args.body
    match lookupDuplicate db contentHash args env with
    | .error error => (db, .error (.database error))
    | .ok (some existing) => (db, .ok (duplicateResponse args existing))
    | .ok none =>
      if !(tierDecision args env).shouldPersist then (db, .ok (baseResponse args env))
      else
        let contentId := freshId db.contentIds
        match transact env.faults.insert [insertContent args contentHash env.now contentId]
            db with
        | .error error => (db, .error (.database error))
        | .ok db => storeContent db args env contentId

end MemoryLab.Adapter

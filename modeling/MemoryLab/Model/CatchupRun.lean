import MemoryLab.Model.ClassifyCatchup

/-! # Runs of the job that catches up

A run takes the oldest rows that have no type. The writes of a row are one transaction; the
resolver, if it is called, has its own. -/

namespace MemoryLab.Classify

open Library Library.Rows Transaction Adapter Resolver

def resolverConfidenceThreshold : ℚ := 7 / 10

def maxLimit : ℕ := 1000

inductive CandidateStatus where
  | dryRun
  | classified
  | skippedAlreadyClassified
  | skippedNoUsableText
  | failed
deriving DecidableEq

structure CatchupRowResult where
  contentId : ContentId
  workspaceId : Option WorkspaceId
  status : CandidateStatus
  memoryType : Option MemoryType := none
  memorySubType : Option Text := none
  classifyConfidence : Option ℚ := none
  resolver : Option (ResolutionStatus × ResolutionReason) := none
  wouldCallResolver : Bool := false
  error : Option DbError := none
deriving DecidableEq

/-! ## One row -/

/-- `UPDATE … WHERE content_id = … AND memory_type IS NULL`. -/
def classifyUntyped (result : ClassificationResult) (contentId : ContentId) :
    Statement Database DbError := fun db =>
  if !storable (result.memorySubType.getD []) then .error .invalidText
  else .ok { db with
    contentItems := updateWhere
      (fun item => hasContentId contentId item && item.memoryType.isNone)
      (setClassification result) db.contentItems }

/-- The statements after the two `SELECT`s. Those for a domain hint write no column of the
model. -/
def classificationWrites (db : Database) (candidate : CatchupCandidate)
    (result : ClassificationResult) : List (Statement Database DbError) :=
  if hasActiveClassification db candidate.contentId result.memoryType
      heuristicClassifierVersion then
    [classifyUntyped result candidate.contentId]
  else
    [classifyUntyped result candidate.contentId,
      deactivateClassifications candidate.contentId] ++
      candidate.workspaceId.toList.map fun workspaceId =>
        insertClassification result heuristicClassifierVersion workspaceId candidate.contentId

def memoryTypeOf (db : Database) (contentId : ContentId) : Option MemoryType :=
  (db.contentItems.find? (hasContentId contentId)).bind (·.memoryType)

/-- The database after the transaction; `none` when the row has a type by now. -/
def writeClassification (db : Database) (candidate : CatchupCandidate)
    (result : ClassificationResult) : Except DbError (Option Database) :=
  if (memoryTypeOf db candidate.contentId).isSome then .ok none
  else (execute (classificationWrites db candidate result) db).map some

def processCandidate (order : TypeOrder) (now : Timestamp) (dryRun : Bool) (db : Database)
    (candidate : CatchupCandidate) : Database × CatchupRowResult :=
  if candidate.contentText.strip = [] then
    (db, { contentId := candidate.contentId, workspaceId := candidate.workspaceId,
           status := .skippedNoUsableText })
  else
    let result := classify order { content := candidate.contentText, tier := candidate.tier }
    let wouldResolve := decide (resolverConfidenceThreshold ≤ result.confidence)
    let row : CatchupRowResult :=
      { contentId := candidate.contentId, workspaceId := candidate.workspaceId,
        status := if dryRun then .dryRun else .classified,
        memoryType := some result.memoryType, memorySubType := result.memorySubType,
        classifyConfidence := some result.confidence, wouldCallResolver := wouldResolve }
    if dryRun then (db, row)
    else match writeClassification db candidate result with
      | .error error => (db, { row with status := .failed, error := some error })
      | .ok none => (db, { row with status := .skippedAlreadyClassified })
      | .ok (some written) =>
        if !wouldResolve then (written, row)
        else match resolveCurrentStateAfterIngest written now (catchupArgs candidate result) with
          | .error error => (written, { row with status := .failed, error := some error })
          | .ok (resolved, resolution) =>
            (resolved, { row with resolver := some (resolution.status, resolution.reason) })

/-! ## A run -/

inductive CatchupError where
  | limitTooSmall
  | batchSizeTooSmall
  | workspaceRequired
deriving DecidableEq

structure CatchupOptions where
  dryRun : Bool := true
  limit : ℤ := 100
  batchSize : ℤ := 100
  workspaceId : Option WorkspaceId := none
  allWorkspaces : Bool := false
deriving DecidableEq

structure CatchupSummary where
  dryRun : Bool
  limit : ℕ
  batchSize : ℕ
  workspaceId : Option WorkspaceId
  allWorkspaces : Bool
  beforeUnclassifiedCount : ℕ
  selectedCount : ℕ
  classifiedCount : ℕ
  skippedAlreadyClassifiedCount : ℕ
  skippedNoUsableTextCount : ℕ
  failedCount : ℕ
  resolverCalledCount : ℕ
  resolverSkippedLowConfidenceCount : ℕ
  afterUnclassifiedCount : ℕ
  rows : List CatchupRowResult
deriving DecidableEq

def normalizeBound (error : CatchupError) (value : ℤ) : Except CatchupError ℕ :=
  if value < 1 then .error error else .ok (min value.toNat maxLimit)

def normalizeLimit : ℤ → Except CatchupError ℕ := normalizeBound .limitTooSmall

def normalizeBatchSize : ℤ → Except CatchupError ℕ := normalizeBound .batchSizeTooSmall

def countUnclassified (db : Database) (workspaceId : Option WorkspaceId) : ℕ :=
  db.contentItems.countP fun item => item.memoryType == none &&
    workspaceId.all fun workspaceId => item.workspaceId == some workspaceId

def processCandidates (order : TypeOrder) (clock : ContentId → Timestamp) (dryRun : Bool) :
    Database → List CatchupCandidate → Database × List CatchupRowResult
  | db, [] => (db, [])
  | db, candidate :: candidates =>
    let processed := processCandidate order (clock candidate.contentId) dryRun db candidate
    let rest := processCandidates order clock dryRun processed.1 candidates
    (rest.1, processed.2 :: rest.2)

/-- A candidate of high confidence that was not resolved counts as neither. -/
def isResolverSkip (row : CatchupRowResult) : Bool :=
  row.resolver.isNone && !row.wouldCallResolver &&
    row.classifyConfidence.any fun confidence => confidence < resolverConfidenceThreshold

/-- A run, where `clock` is what each call of the resolver reads. -/
def run (order : TypeOrder) (clock : ContentId → Timestamp) (options : CatchupOptions)
    (db : Database) : Except CatchupError (Database × CatchupSummary) := do
  let limit ← normalizeLimit options.limit
  let batchSize ← normalizeBatchSize options.batchSize
  if !options.dryRun && options.workspaceId.isNone && !options.allWorkspaces then
    throw .workspaceRequired
  let candidates := selectCandidates db limit options.workspaceId
  let processed := processCandidates order clock options.dryRun db candidates
  let count := fun status => processed.2.countP fun row => decide (row.status = status)
  return (processed.1,
    { dryRun := options.dryRun, limit, batchSize, workspaceId := options.workspaceId,
      allWorkspaces := options.allWorkspaces, rows := processed.2,
      beforeUnclassifiedCount := countUnclassified db options.workspaceId,
      selectedCount := candidates.length, classifiedCount := count .classified,
      skippedAlreadyClassifiedCount := count .skippedAlreadyClassified,
      skippedNoUsableTextCount := count .skippedNoUsableText, failedCount := count .failed,
      resolverCalledCount := processed.2.countP (·.resolver.isSome),
      resolverSkippedLowConfidenceCount := processed.2.countP isResolverSkip,
      afterUnclassifiedCount := countUnclassified processed.1 options.workspaceId })

/-- The database after so many runs; one that is refused leaves it alone. -/
def afterRuns (order : TypeOrder) (clock : ℕ → ContentId → Timestamp) (options : CatchupOptions)
    (db : Database) : ℕ → Database
  | 0 => db
  | n + 1 =>
    let current := afterRuns order clock options db n
    match run order (clock n) options current with
    | .ok (next, _) => next
    | .error _ => current

end MemoryLab.Classify

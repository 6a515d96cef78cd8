import MemoryLab.Model.Classify
import MemoryLab.Model.ContentReaders

/-! # Catching up on classifications

Rows that have no type are classified from their stored chunks. The writes of the job are
modelled with those it may run beside. -/

namespace MemoryLab.Classify

open Library Library.Rows Adapter ContentReaders Resolver

structure CatchupCandidate where
  contentId : ContentId
  workspaceId : Option WorkspaceId
  contentText : Text
  tier : Option Text
  compositeScore : Option ℚ
deriving DecidableEq

def selectCandidates (db : Database) (limit : ℕ) (workspaceId : Option WorkspaceId) :
    List CatchupCandidate :=
  let unclassified := db.contentItems.filter fun item => item.memoryType == none &&
    workspaceId.all fun workspaceId => item.workspaceId == some workspaceId
  ((sortOn (·.createdAt) unclassified).take limit).map fun item =>
    { contentId := item.contentId, workspaceId := item.workspaceId,
      contentText := aggregatedText db item.contentId,
      tier := item.tier.map (·.label.toList),
      compositeScore := item.scores.map (·.composite) }

/-- A classification, and the scope that the resolver gives it, if it is called and goes on. -/
structure Outcome where
  classification : ClassificationResult
  scope : Option Text
deriving DecidableEq

/-- The scope of a call of the resolver that passes its early exits. -/
def scopeOf (db : Database) (args : ResolveArgs) : Option Text :=
  match args.admission with
  | .error _ => none
  | .ok _ => some (ScopePipeline.resolveScope db args.scopeRequest).scope

def catchupArgs (candidate : CatchupCandidate) (result : ClassificationResult) : ResolveArgs :=
  { workspaceId := candidate.workspaceId, contentId := some candidate.contentId,
    memoryType := some result.memoryType, memorySubType := result.memorySubType,
    classifyConfidence := some result.confidence, signals := result.signals,
    projectTopic := result.projectTopic, domainHint := result.domainHint,
    contentText := some candidate.contentText }

/-- What the job computes for a candidate, unless its text is blank. -/
def catchupOutcome (order : TypeOrder) (db : Database) (candidate : CatchupCandidate) :
    Option Outcome :=
  if candidate.contentText.strip = [] then none
  else
    let result := classify order { content := candidate.contentText, tier := candidate.tier }
    some ⟨result, scopeOf db (catchupArgs candidate result)⟩

def classifyMeta (result : ClassificationResult) : ClassifyMeta :=
  { memoryType := result.memoryType, memorySubType := result.memorySubType,
    classifyConfidence := result.confidence, classifyMode := heuristicClassifierVersion,
    signals := result.signals, projectTopic := result.projectTopic,
    domainHint := result.domainHint }

/-- What a save of the body computes. -/
def ingestOutcome (order : TypeOrder) (db : Database) (args : SaveArgs) (contentId : ContentId)
    (tier : Option Text) : Outcome :=
  let result := classify order { content := args.body, tier }
  ⟨result, scopeOf db (resolveArgs args contentId (classifyMeta result))⟩

end MemoryLab.Classify

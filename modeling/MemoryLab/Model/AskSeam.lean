import MemoryLab.Model.ContextPackBuilder
import MemoryLab.Model.CurrentStateEnrichment

/-! # The support-only pack of an answer

Evidence items go through a context pack, each with its own dump in the metadata. -/

namespace MemoryLab.AskSeam

open Library ContextPackBuilder Evidence

/-! ## The request -/

structure AskRequest where
  query : Option Text := none
  question : Option Text := none
  topK : ℤ := 5
deriving DecidableEq

def AskRequest.normalizedQuery (request : AskRequest) : Text :=
  let query := (request.query.getD []).strip
  let question := (request.question.getD []).strip
  if query ≠ [] ∧ question ≠ [] ∧ query ≠ question then query
  else if query ≠ [] then query else question

structure ReasoningPolicy where
  intent : Text
  topK : ℕ
  snippetCharLimit : ℕ := 320
deriving DecidableEq

def policyForIntent (intent : Text) (requestedTopK : ℤ) : ReasoningPolicy :=
  let safeTopK := (max 1 (min (if requestedTopK = 0 then 5 else requestedTopK) 10)).toNat
  if intent = "unknown".toList then { intent, topK := min safeTopK 5 }
  else if intent = "compare".toList ∨ intent = "synthesis".toList then { intent, topK := safeTopK }
  else if intent = "summarize".toList ∨ intent = "find".toList then { intent, topK := safeTopK }
  else { intent := "factual".toList, topK := min safeTopK 5 }

/-! ## Dumps -/

/-- `model_dump`. -/
def dump (item : EvidenceItem) : PyDict :=
  [("evidence_id".toList, .str item.evidenceId), ("rank".toList, .int item.rank),
    ("content_id".toList, .str item.contentId), ("chunk_id".toList, .ofText item.chunkId),
    ("snippet".toList, .str item.snippet), ("score".toList, .ofRat item.score),
    ("score_kind".toList, .str item.scoreKind),
    ("retrieval_path".toList, .str item.retrievalPath), ("source".toList, .ofText item.source),
    ("title".toList, .ofText item.title),
    ("metadata".toList, (item.metadata.map PyValue.dict).getD .none),
    ("retrieval_reason".toList, .ofText item.retrievalReason),
    ("ranking_reason".toList, .ofText item.rankingReason), ("hub_match".toList, item.hubMatch),
    ("graph_match".toList, item.graphMatch),
    ("knowledge_path".toList, (item.knowledgePath.map PyValue.list).getD .none),
    ("score_components".toList, (item.scoreComponents.map PyValue.dict).getD .none),
    ("distance".toList, .ofRat item.distance), ("confidence".toList, .ofRat item.confidence),
    ("result_trust".toList, .ofText item.resultTrust),
    ("source_path".toList, .ofText item.sourcePath), ("is_current".toList, .ofBool item.isCurrent),
    ("current_state_scope".toList, .ofText item.currentStateScope),
    ("cs_supersedes_content_id".toList, .ofText item.csSupersedesContentId)]

/-- The keys of a dump that a reference is made from. -/
def dumpRow (item : EvidenceItem) : PackRow :=
  { evidenceId := some item.evidenceId, contentId := some item.contentId,
    chunkId := item.chunkId, rank := some item.rank, snippet := some item.snippet,
    score := item.score, scoreKind := some item.scoreKind, isCurrent := item.isCurrent,
    currentStateScope := item.currentStateScope,
    csSupersedesContentId := item.csSupersedesContentId, source := item.source,
    retrievalPath := some item.retrievalPath, distance := item.distance,
    metadata := item.metadata }

section Fields

variable (convert : Conversions)

def requiredText (name : String) : PyValue → Except BuildError Text
  | .str s => .ok s
  | _ => .error (.field name)

def intField (name : String) : PyValue → Except BuildError ℤ
  | .int n => .ok n
  | _ => .error (.field name)

def dictField (name : String) : PyValue → Except BuildError (Option PyDict)
  | .none => .ok none
  | .dict entries => .ok (some entries)
  | _ => .error (.field name)

def listField (name : String) : PyValue → Except BuildError (Option (List PyValue))
  | .none => .ok none
  | .list items => .ok (some items)
  | _ => .error (.field name)

/-- `EvidenceItem(**original)`. -/
def itemOfDict (original : PyDict) : Except BuildError EvidenceItem := do
  let evidenceId ← requiredText "evidence_id" (original.get "evidence_id")
  let rank ← intField "rank" (original.get "rank")
  let contentId ← requiredText "content_id" (original.get "content_id")
  let chunkId ← textField "chunk_id" (original.get "chunk_id")
  let snippet ← requiredText "snippet" (original.get "snippet")
  let score ← floatField convert "score" (original.get "score")
  let scoreKind ← requiredText "score_kind" (original.get "score_kind")
  let retrievalPath ← requiredText "retrieval_path" (original.get "retrieval_path")
  let source ← textField "source" (original.get "source")
  let title ← textField "title" (original.get "title")
  let metadata ← dictField "metadata" (original.get "metadata")
  let retrievalReason ← textField "retrieval_reason" (original.get "retrieval_reason")
  let rankingReason ← textField "ranking_reason" (original.get "ranking_reason")
  let knowledgePath ← listField "knowledge_path" (original.get "knowledge_path")
  let scoreComponents ← dictField "score_components" (original.get "score_components")
  let distance ← floatField convert "distance" (original.get "distance")
  let confidence ← floatField convert "confidence" (original.get "confidence")
  let resultTrust ← textField "result_trust" (original.get "result_trust")
  let sourcePath ← textField "source_path" (original.get "source_path")
  let isCurrent ← boolField convert "is_current" (original.get "is_current")
  let currentStateScope ← textField "current_state_scope" (original.get "current_state_scope")
  let csSupersedesContentId ← textField "cs_supersedes_content_id"
    (original.get "cs_supersedes_content_id")
  return { evidenceId, rank, contentId, chunkId, snippet, score, scoreKind, retrievalPath, source,
           title, metadata, retrievalReason, rankingReason, hubMatch := original.get "hub_match",
           graphMatch := original.get "graph_match", knowledgePath, scoreComponents, distance,
           confidence, resultTrust, sourcePath, isCurrent, currentStateScope,
           csSupersedesContentId }

end Fields

/-! ## There and back -/

def originalAskEvidenceKey : String := "_query_service_original_evidence_item"

def itemForContextPack (item : EvidenceItem) : PackRow :=
  { dumpRow item with
    metadata := some ((item.metadata.getD []).put originalAskEvidenceKey (.dict (dump item))) }

def askPackRequest (query : Text) (limit : ℕ) : BuildRequest :=
  { query := if query = [] then none else some query,
    scope := some (if query = [] then "ask".toList else query),
    includeSupportingEvidence := true, includeCurrentState := false, includeConflicts := false,
    includeCounterfindings := false, limit }

def buildSupportOnlyContextPackForAsk (convert : Conversions) (query : Text)
    (evidence : List EvidenceItem) (limit : ℕ) : Except BuildError ContextPack := do
  let request ← (askPackRequest query limit).validate
  buildContextPack convert request (evidence.map itemForContextPack) [] []

def truthy : PyValue → Bool
  | .none => false
  | .bool b => b
  | .int n => n ≠ 0
  | .float x => x ≠ .finite 0
  | .str s => s ≠ []
  | .list items => !items.isEmpty
  | .dict entries => !entries.isEmpty

/-- `a or b`. -/
def orValue (a b : PyValue) : PyValue := if truthy a then a else b

/-- `str(value)`. -/
def textOf (convert : Conversions) : PyValue → Text
  | .str s => s
  | value => convert.toText value

/-- The item of a reference without a dump. -/
def itemOfRef (convert : Conversions) (ref : ContextPackEvidenceRef) (metadata : PyDict) :
    Except BuildError EvidenceItem := do
  let path := (textOf convert (orValue (orValue (metadata.get "retrieval_path")
    (.ofText ref.source)) (.str "deterministic_db".toList))).strip
  let source ← textField "source" (orValue (metadata.get "source") (.ofText ref.source))
  let title ← textField "title" (metadata.get "title")
  return {
    evidenceId := ref.evidenceId, rank := ref.rank.getD 0, contentId := ref.contentId,
    chunkId := ref.chunkId, snippet := ref.snippet, score := ref.score,
    scoreKind := orText ref.scoreKind (textOf convert
      (orValue (metadata.get "score_kind") (.str "chunk_text_match".toList))),
    retrievalPath := orText (some path) "deterministic_db".toList,
    source, title, metadata := some metadata |>.filter (!·.isEmpty) }

def supportRefToEvidenceItem (convert : Conversions) (ref : ContextPackEvidenceRef) :
    Except BuildError EvidenceItem :=
  let metadata := ref.metadata.getD []
  match metadata.get originalAskEvidenceKey with
  | .dict original => itemOfDict convert original
  | _ => itemOfRef convert ref
      (metadata.filter fun entry => entry.1 ≠ originalAskEvidenceKey.toList)

def evidenceItemsFromSupportingContextPack (convert : Conversions) (pack : ContextPack) :
    Except BuildError (List EvidenceItem) :=
  pack.supportingEvidence.mapM (supportRefToEvidenceItem convert)

/-- The evidence of an answer before it goes through the pack. -/
def askEvidence (reader : StateReader) (databaseUrl : Option Text) (query : Text)
    (policy : ReasoningPolicy) (results : List EvidenceRow) : List EvidenceItem :=
  enrichEvidenceWithCurrentState reader databaseUrl query
    (normalizeEvidence (results.take policy.topK) policy.snippetCharLimit)

/-- The evidence as it comes out of the pack. -/
def throughPack (convert : Conversions) (query : Text) (evidence : List EvidenceItem)
    (limit : ℕ) : Except BuildError (List EvidenceItem) := do
  let pack ← buildSupportOnlyContextPackForAsk convert query evidence limit
  evidenceItemsFromSupportingContextPack convert pack

end MemoryLab.AskSeam

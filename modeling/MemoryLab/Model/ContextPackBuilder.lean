import Mathlib.Data.Char
import Mathlib.Data.List.Lex
import Mathlib.Data.Prod.Lex
import MemoryLab.Library.PyValue
import MemoryLab.Model.ContextPack

/-! # The context pack builder

A pack is put together from rows of evidence, of current state and of conflicts. The conversions
of the record types are a parameter. -/

namespace MemoryLab.ContextPackBuilder

open Library Library.Rows

/-! ## The request -/

structure BuildRequest extends ContextPack.ContextPackBuildRequest where
  includeSupportingEvidence : Bool := true
  includeConflicts : Bool := true
  includeCounterfindings : Bool := true
deriving DecidableEq

inductive BuildError where
  | request (error : ContextPack.RequestError)
  | field (name : String)
deriving DecidableEq

/-- `model_validator(mode="after")` and the bounds of the limit. -/
def BuildRequest.validate (request : BuildRequest) : Except BuildError BuildRequest :=
  match request.toContextPackBuildRequest.validateAndNormalize with
  | .ok normalized => .ok { request with toContextPackBuildRequest := normalized }
  | .error error => .error (.request error)

/-! ## References -/

/-- What the fields of a record make of a value that is not of their own type, and `str` of a
value that is no text. -/
structure Conversions where
  toFloat : PyValue → Option ℚ
  toBool : PyValue → Option Bool
  toText : PyValue → Text

/-- The keys that a reference is made from. -/
structure PackRow where
  evidenceId : Option Text := none
  contentId : Option Text := none
  chunkId : Option Text := none
  rank : Option ℤ := none
  snippet : Option Text := none
  text : Option Text := none
  score : Option ℚ := none
  scoreKind : Option Text := none
  memoryType : Option Text := none
  memorySubType : Option Text := none
  classifyConfidence : Option ℚ := none
  isCurrent : Option Bool := none
  currentStateScope : Option Text := none
  csSupersedesContentId : Option Text := none
  role : Option Text := none
  source : Option Text := none
  retrievalMode : PyValue := .none
  retrievalPath : Option Text := none
  embeddingStatus : PyValue := .none
  distance : Option ℚ := none
  metadata : Option PyDict := none

structure ContextPackEvidenceRef where
  evidenceId : Text
  contentId : Text
  chunkId : Option Text
  rank : Option ℤ
  snippet : Text
  score : Option ℚ
  scoreKind : Option Text
  memoryType : Option Text
  memorySubType : Option Text
  classifyConfidence : Option ℚ
  isCurrent : Option Bool
  currentStateScope : Option Text
  csSupersedesContentId : Option Text
  role : Option Text
  source : Option Text
  metadata : Option PyDict

def cleanStr (value : Option Text) : Option Text := (value.map Text.strip).filter (· ≠ [])

def noneLast (value : Option Text) : Text := value.getD ['~']

/-- `a or b`, where the empty text is false. -/
def orElse (a b : Option Text) : Option Text := (a.filter (· ≠ [])).or b

namespace PackRow

/-- The keys of `PROVENANCE_METADATA_KEYS` with their values. -/
def provenance (row : PackRow) : List (String × PyValue) :=
  [("retrieval_mode", row.retrievalMode), ("retrieval_path", .ofText row.retrievalPath),
    ("embedding_status", row.embeddingStatus), ("distance", .ofRat row.distance),
    ("score_kind", .ofText row.scoreKind)]

/-- The metadata of a reference. -/
def mergedMetadata (row : PackRow) (metadata : Option PyDict) : PyDict :=
  let own := row.provenance.foldl PyDict.putSome (row.metadata.getD [])
  PyDict.update own ((metadata.getD []).filter fun entry => !entry.2.isNone)

end PackRow

section Fields

variable (convert : Conversions)

def textField (name : String) : PyValue → Except BuildError (Option Text)
  | .none => .ok none
  | .str s => .ok (some s)
  | _ => .error (.field name)

def floatField (name : String) : PyValue → Except BuildError (Option ℚ)
  | .none => .ok none
  | .float (.finite x) => .ok (some x)
  | value => match convert.toFloat value with
    | some x => .ok (some x)
    | none => .error (.field name)

def boolField (name : String) : PyValue → Except BuildError (Option Bool)
  | .none => .ok none
  | .bool b => .ok (some b)
  | value => match convert.toBool value with
    | some b => .ok (some b)
    | none => .error (.field name)

/-- A text of the row, or else of its metadata. -/
def textOr (name : String) (value : Option Text) (merged : PyDict) :
    Except BuildError (Option Text) :=
  match value.filter (· ≠ []) with
  | some s => .ok (some s)
  | none => textField name (merged.get name)

/-- A number of the row, or else of its metadata. -/
def floatOr (name : String) (value : Option ℚ) (merged : PyDict) :
    Except BuildError (Option ℚ) :=
  match value with
  | some x => .ok (some x)
  | none => floatField convert name (merged.get name)

def boolOr (name : String) (value : Option Bool) (merged : PyDict) :
    Except BuildError (Option Bool) :=
  match value with
  | some b => .ok (some b)
  | none => boolField convert name (merged.get name)

def supersedesOr (value : Option Text) (merged : PyDict) : Option Text :=
  match value.filter (· ≠ []) with
  | some s => cleanStr (some s)
  | none => match merged.get "cs_supersedes_content_id" with
    | .none => none
    | .str s => cleanStr (some s)
    | value => cleanStr (some (convert.toText value))

def evidenceFromItem (row : PackRow) (metadata : Option PyDict) (role : Option Text) :
    Except BuildError ContextPackEvidenceRef := do
  let merged := row.mergedMetadata metadata
  let contentId := (row.contentId.getD []).strip
  let chunkId := cleanStr row.chunkId
  let memoryType ← textOr "memory_type" row.memoryType merged
  let memorySubType ← textOr "memory_sub_type" row.memorySubType merged
  let classifyConfidence ← floatOr convert "classify_confidence" row.classifyConfidence merged
  let isCurrent ← boolOr convert "is_current" row.isCurrent merged
  let currentStateScope ← textOr "current_state_scope" row.currentStateScope merged
  return {
    evidenceId := (cleanStr row.evidenceId).getD
      ("ev_".toList ++ contentId ++ ['_'] ++ chunkId.getD "content".toList),
    contentId, chunkId, rank := row.rank,
    snippet := (orElse row.snippet row.text).getD [], score := row.score,
    scoreKind := row.scoreKind, memoryType, memorySubType, classifyConfidence, isCurrent,
    currentStateScope, csSupersedesContentId := supersedesOr convert row.csSupersedesContentId merged,
    role := orElse role row.role, source := orElse row.source row.retrievalPath,
    metadata := some merged |>.filter (!·.isEmpty) }

end Fields

/-! ## Sections -/

namespace ContextPackEvidenceRef

variable (ref : ContextPackEvidenceRef)

def dedupeKey : Text × Option Text × Option Text × Text :=
  (ref.contentId, ref.chunkId, ref.role, ref.evidenceId)

def evidenceSortKey : ℤ ×ₗ ℚ ×ₗ Text ×ₗ Text :=
  toLex (ref.rank.getD 1000000, toLex (-ref.score.getD (-1),
    toLex (ref.contentId, noneLast ref.chunkId)))

/-- A rank in the metadata of an anchor. -/
def canonicalRank : ℚ :=
  match (ref.metadata.getD []).get "canonical_rank" with
  | .int n => n
  | .float (.finite x) => x
  | .bool b => if b then 1 else 0
  | _ => 1000000

def currentSortKey : Text ×ₗ Text ×ₗ ℚ ×ₗ Text :=
  toLex (noneLast ref.currentStateScope, toLex (noneLast ref.memoryType,
    toLex (ref.canonicalRank, ref.contentId)))

def staleSortKey : Text ×ₗ Text ×ₗ Text :=
  toLex (noneLast ref.currentStateScope, toLex (noneLast ref.memoryType, ref.contentId))

def counterSortKey : ℚ ×ₗ Text ×ₗ Text :=
  toLex (-ref.classifyConfidence.getD 0, toLex (ref.contentId, noneLast ref.chunkId))

def isSignal : Bool := ref.isCurrent == some true

/-- The branch after the one of the signals. -/
def isStale : Bool :=
  !ref.isSignal && (ref.isCurrent == some false ||
    (ref.csSupersedesContentId.filter (· ≠ [])).isSome)

end ContextPackEvidenceRef

/-- The first references of a section: of each key the first one, in the refSections order. -/
def refSection {κ : Type*} [LinearOrder κ] (sortKey : ContextPackEvidenceRef → κ) (limit : ℕ)
    (refs : List ContextPackEvidenceRef) : List ContextPackEvidenceRef :=
  (sortOn sortKey (distinctOn (·.dedupeKey) refs)).take limit

/-! ## Conflicts -/

structure ConflictDict where
  conflictId : Option Text := none
  candidateId : Option Text := none
  conflictType : Option Text := none
  severity : Option Text := none
  confidence : Option ℚ := none
  evidence : List PackRow := []

namespace ConflictDict

variable (conflict : ConflictDict)

/-- A conflict with an id of its own. -/
def identified : ConflictDict :=
  if conflict.conflictId.getD [] = [] ∧ conflict.candidateId.getD [] ≠ [] then
    { conflict with conflictId := conflict.candidateId }
  else conflict

def idText : Text := (orElse conflict.conflictId (orElse conflict.candidateId none)).getD []

def severityOrder : ℤ :=
  let severity := (conflict.severity.filter (· ≠ [])).getD "low".toList
  if severity = "high".toList then 3
  else if severity = "medium".toList then 2
  else if severity = "low".toList then 1
  else 0

def conflictSortKey : ℤ ×ₗ ℚ ×ₗ Text ×ₗ Text :=
  toLex (-conflict.severityOrder, toLex (-conflict.confidence.getD 0,
    toLex (conflict.conflictType.getD [], conflict.idText)))

end ConflictDict

def conflictSection (limit : ℕ) (candidates : List ConflictDict) : List ConflictDict :=
  (sortOn ConflictDict.conflictSortKey (candidates.map ConflictDict.identified)).take limit

def counterRoles : List Text := ["counterfinding".toList, "contradicting".toList]

/-- The references of one conflict that speak against it. -/
def counterRefs (convert : Conversions) (conflict : ConflictDict) :
    Except BuildError (List ContextPackEvidenceRef) :=
  (conflict.evidence.filter fun row => row.role.any (· ∈ counterRoles)).mapM fun row =>
    evidenceFromItem convert row
      (some [("conflict_id".toList,
        .ofText (orElse conflict.conflictId conflict.candidateId))]) row.role

def counterfindingsFromConflicts (convert : Conversions) (conflicts : List ConflictDict) :
    Except BuildError (List ContextPackEvidenceRef) := do
  let refs ← conflicts.mapM (counterRefs convert)
  return sortOn (·.counterSortKey) (distinctOn (·.dedupeKey) refs.flatten)

/-- The counterfindings of a request, unless they are left out. -/
def counterSection (convert : Conversions) (request : BuildRequest)
    (conflicts : List ConflictDict) : Except BuildError (List ContextPackEvidenceRef) :=
  if request.includeCounterfindings then counterfindingsFromConflicts convert conflicts
  else .ok []

/-! ## The pack -/

/-- What is hashed for the id of a pack. -/
structure IdPayload where
  workspaceId : Text
  query : Option Text
  scope : Option Text
  memoryTypes : List Text
  includeConflicts : Bool
  includeCounterfindings : Bool
  includeCurrentState : Bool
  includeSupportingEvidence : Bool
  limit : ℕ
  supporting : List (Text × Option Text)
  current : List Text
  conflicts : List Text
  stale : List Text
deriving DecidableEq

structure ContextPack where
  supportingEvidence : List ContextPackEvidenceRef
  currentStateSignals : List ContextPackEvidenceRef
  staleOrSupersededItems : List ContextPackEvidenceRef
  conflictCandidates : List ConflictDict
  counterfindings : List ContextPackEvidenceRef

def stableIdPayload (workspaceId : Text) (request : BuildRequest) (pack : ContextPack) :
    IdPayload :=
  { workspaceId, query := request.query, scope := request.scope,
    memoryTypes := request.resolvedMemoryTypes.getD [],
    includeConflicts := request.includeConflicts,
    includeCounterfindings := request.includeCounterfindings,
    includeCurrentState := request.includeCurrentState,
    includeSupportingEvidence := request.includeSupportingEvidence, limit := request.limit,
    supporting := sortOn (fun entry => toLex (entry.1, entry.2.getD []))
      (pack.supportingEvidence.map fun ref => (ref.contentId, ref.chunkId)),
    current := sortOn id (pack.currentStateSignals.map (·.contentId)),
    conflicts := sortOn id (pack.conflictCandidates.map (·.idText)),
    stale := sortOn id (pack.staleOrSupersededItems.map (·.contentId)) }

/-- `make_context_pack_id`, with `json.dumps` and SHA-256 as parameters. -/
def makeContextPackId (dumps : IdPayload → Text) (sha256Hex : Text → Text)
    (payload : IdPayload) : Text :=
  "cp_".toList ++ (sha256Hex (dumps payload)).take 24

def supportRef (convert : Conversions) (row : PackRow) :
    Except BuildError ContextPackEvidenceRef :=
  evidenceFromItem convert row none (some "support".toList)

def stateRef (convert : Conversions) (row : PackRow) :
    Except BuildError ContextPackEvidenceRef :=
  evidenceFromItem convert row row.metadata (some "current_state".toList)

def buildContextPack (convert : Conversions) (request : BuildRequest)
    (supportingEvidence currentStateRows : List PackRow) (conflictCandidates : List ConflictDict) :
    Except BuildError ContextPack := do
  let supportRefs ← supportingEvidence.mapM (supportRef convert)
  let stateRefs ← currentStateRows.mapM (stateRef convert)
  let conflicts := conflictSection request.limit conflictCandidates
  let counterfindings ← counterSection convert request conflicts
  return {
    supportingEvidence := refSection (·.evidenceSortKey) request.limit supportRefs,
    currentStateSignals :=
      refSection (·.currentSortKey) request.limit (stateRefs.filter (·.isSignal)),
    staleOrSupersededItems :=
      refSection (·.staleSortKey) request.limit (stateRefs.filter (·.isStale)),
    conflictCandidates := conflicts, counterfindings := counterfindings.take request.limit }

end MemoryLab.ContextPackBuilder

import MemoryLab.Library.Dict
import MemoryLab.Model.ConflictMarkers
import MemoryLab.Model.GraphSnapshot

/-! # The conflict detector

Rows are grouped by scope, and every rule adds candidates to the scope's. SHA-256 is a
parameter; confidences of candidates are hundredths. -/

namespace MemoryLab.Conflicts

open Library Library.Rows GraphSnapshot

inductive ConflictType where
  | explicitCounterfinding
  | explicitContradiction
  | staleCurrentTension
  | sameScopeOpposingClaim
deriving DecidableEq

def ConflictType.label : ConflictType → String
  | explicitCounterfinding => "explicit_counterfinding"
  | explicitContradiction => "explicit_contradiction"
  | staleCurrentTension => "stale_current_tension"
  | sameScopeOpposingClaim => "same_scope_opposing_claim"

inductive ConflictStatus where
  | unresolved
  | resolved
deriving DecidableEq

inductive ConflictSeverity where
  | low
  | medium
  | high
deriving DecidableEq

def ConflictSeverity.label : ConflictSeverity → String
  | low => "low"
  | medium => "medium"
  | high => "high"

inductive EvidenceRole where
  | finding
  | counterfinding
  | support
  | contradicting
  | stale
  | current
deriving DecidableEq

def EvidenceRole.label : EvidenceRole → String
  | finding => "finding"
  | counterfinding => "counterfinding"
  | support => "support"
  | contradicting => "contradicting"
  | stale => "stale"
  | current => "current"

def minHighConf : ℚ := 7 / 10
def snippetLimit : ℕ := 220

structure ConflictSourceRow where
  contentId : Option ContentId
  workspaceId : Option WorkspaceId
  text : Text := []
  chunkId : Option ChunkId := none
  memoryType : Option Text := none
  memorySubType : Option Text := none
  classifyConfidence : Option ℚ := none
  isCurrent : Option Bool := none
  currentStateScope : Option Text := none
  stateIdentity : Option Text := none
  csSupersedesContentId : Option ContentId := none
  stateStatus : Option StateStatus := none
  anchorSupersedesContentId : Option ContentId := none
deriving DecidableEq

structure ConflictEvidenceRef where
  evidenceId : Text
  contentId : ContentId
  chunkId : Option ChunkId
  snippet : Text
  memoryType : Option Text
  memorySubType : Option Text
  classifyConfidence : Option ℚ
  isCurrent : Option Bool
  currentStateScope : Option Text
  role : EvidenceRole
deriving DecidableEq

inductive CandidateMetadata where
  | markers (matchedMarkers : List Text) (memoryType : Option Text)
  | supersession (memoryType : Option Text) (currentStateScope : Text)
  | anchors (memoryType : Option Text) (currentStateScope : Text) (stateIdentity : Option Text)
  | claim (claimKind : ClaimKind) (normalizedObject : Text)
deriving DecidableEq

structure ConflictCandidate where
  candidateId : Text
  workspaceId : WorkspaceId
  conflictType : ConflictType
  scope : Text
  status : ConflictStatus
  severity : ConflictSeverity
  confidence : ℕ
  supportingContentIds : List ContentId
  contradictingContentIds : List ContentId
  evidence : List ConflictEvidenceRef
  reasonCodes : List String
  detectionRule : String
  metadata : CandidateMetadata
deriving DecidableEq

/-! ## Rows -/

def snippet (text : Text) : Text :=
  let clean := Text.strip (Text.subRuns Text.isSpace [' '] text)
  if clean.length ≤ snippetLimit then clean
  else (clean.take (snippetLimit - 1)).rdropWhile Text.isSpace ++ ['…']

namespace ConflictSourceRow

/-- Python's `or` on texts, where the empty one is false. -/
def scopeOf (row : ConflictSourceRow) (markers : ParsedMarkers) : Text :=
  normalizeScope (some (((markers.scope.filter (· ≠ [])).or
    (row.currentStateScope.filter (· ≠ []))).getD "global".toList))

def eligible (row : ConflictSourceRow) (workspaceId : WorkspaceId) : Bool :=
  row.contentId.isSome && row.workspaceId == some workspaceId

def highConf (row : ConflictSourceRow) : Bool :=
  row.classifyConfidence.all fun confidence => minHighConf ≤ confidence

def superseded (row : ConflictSourceRow) : Option ContentId :=
  row.csSupersedesContentId.or row.anchorSupersedesContentId

def evidence (row : ConflictSourceRow) (role : EvidenceRole) : ConflictEvidenceRef :=
  let contentId := row.contentId.getD 0
  { evidenceId := "ev_".toList ++ idText contentId ++ ['_'] ++
      ((row.chunkId.map idText).getD role.label.toList),
    contentId, chunkId := row.chunkId, snippet := snippet row.text,
    memoryType := row.memoryType, memorySubType := row.memorySubType,
    classifyConfidence := row.classifyConfidence, isCurrent := row.isCurrent,
    currentStateScope := row.currentStateScope, role }

end ConflictSourceRow

/-- `_row_scope` of a row whose text has been parsed. -/
def rowScope (row : ConflictSourceRow) : Text := row.scopeOf (extractMarkers row.text)

structure ParsedRow where
  row : ConflictSourceRow
  markers : ParsedMarkers
  scope : Text
deriving DecidableEq

/-- The eligible rows of the wanted scope and type, parsed. -/
def parseRows (rows : List ConflictSourceRow) (workspaceId : WorkspaceId)
    (scope memoryType : Option Text) : List ParsedRow :=
  let wantedScope := (scope.filter (· ≠ [])).map fun scope => normalizeScope (some scope)
  (rows.filter fun row => row.eligible workspaceId &&
      (memoryType.filter (· ≠ [])).all fun memoryType => row.memoryType == some memoryType
    ).filterMap fun row =>
      let markers := extractMarkers row.text
      let scope := row.scopeOf markers
      if wantedScope.all (scope == ·) then some ⟨row, markers, scope⟩ else none

/-! ## Candidates -/

section Rules

variable (sha256Hex : Text → Text) (workspaceId : WorkspaceId) (scope : Text)

/-- What is hashed: the fields joined by bars, the sorted contents by commas. -/
def candidateKey (conflictType : ConflictType) (contentIds : List ContentId)
    (detectionRule : String) : Text :=
  let sorted := (contentIds.map idText).insertionSort fun a b => Text.le a b
  ['|'].intercalate [idText workspaceId, conflictType.label.toList,
    Text.lower (Text.strip (if scope = [] then "global".toList else scope)),
    [','].intercalate sorted, detectionRule.toList]

def makeCandidateId (conflictType : ConflictType) (contentIds : List ContentId)
    (detectionRule : String) : Text :=
  "cc_".toList ++
    (sha256Hex (candidateKey workspaceId scope conflictType contentIds detectionRule)).take 24

/-- `sorted({…})`. -/
def sortedIds (rows : List ConflictSourceRow) : List ContentId :=
  (rows.filterMap (·.contentId)).dedup.insertionSort (· ≤ ·)

def candidate (conflictType : ConflictType) (status : ConflictStatus)
    (severity : ConflictSeverity) (confidence : ℕ)
    (supporting contradicting : List ConflictSourceRow)
    (evidenceRoles : List (ConflictSourceRow × EvidenceRole)) (reasonCodes : List String)
    (detectionRule : String) (metadata : CandidateMetadata) : ConflictCandidate :=
  { candidateId := makeCandidateId sha256Hex workspaceId scope conflictType
      ((supporting ++ contradicting).filterMap (·.contentId)) detectionRule,
    workspaceId, conflictType, scope, status, severity, confidence,
    supportingContentIds := sortedIds supporting,
    contradictingContentIds := sortedIds contradicting,
    evidence := evidenceRoles.map fun entry => entry.1.evidence entry.2,
    reasonCodes, detectionRule, metadata }

def supportRows (items : List ParsedRow) : List ConflictSourceRow :=
  (items.filter fun item => !item.markers.support.isEmpty && isSupportOnly item.markers).map (·.row)

def unopposed (item : ParsedRow) : Bool :=
  item.markers.counterfinding.isEmpty && item.markers.contradiction.isEmpty

def findingRows (items : List ParsedRow) : List ConflictSourceRow :=
  let findings := items.filter fun item => unopposed item && !isSupportOnly item.markers
  if findings = [] then (items.filter unopposed).map (·.row) else findings.map (·.row)

/-- The first of the targets of a row. -/
def targetOf (items : List ParsedRow) (row : ConflictSourceRow) : Option ConflictSourceRow :=
  (findingRows items).find? fun other => other.contentId != row.contentId && other.highConf

def counterfindingCandidate (items : List ParsedRow) (item : ParsedRow) :
    Option ConflictCandidate :=
  let row := item.row
  if item.markers.counterfinding = [] then none
  else (targetOf items row).map fun target =>
    candidate sha256Hex workspaceId scope .explicitCounterfinding .unresolved
      (if row.highConf then .medium else .low) (if row.highConf then 85 else 60)
      (target :: supportRows items) [row]
      ([(target, .finding), (row, .counterfinding)] ++
        ((supportRows items).filter fun support => support.contentId != row.contentId).map
          fun support => (support, .support))
      ["explicit_counterfinding_marker", "same_workspace", "same_scope_or_target"]
      "explicit_counterfinding_marker_v1"
      (.markers (item.markers.counterfinding.map (·.name)) row.memoryType)

def contradictionCandidate (items : List ParsedRow) (item : ParsedRow) :
    Option ConflictCandidate :=
  let row := item.row
  if item.markers.contradiction = [] then none
  else (targetOf items row).map fun target =>
    candidate sha256Hex workspaceId scope .explicitContradiction .unresolved
      (if row.highConf then .high else .low) (if row.highConf then 85 else 60)
      [target] [row] [(target, .finding), (row, .contradicting)]
      ["explicit_contradiction_marker", "same_workspace", "same_scope_or_target"]
      "explicit_contradiction_marker_v1"
      (.markers (item.markers.contradiction.map (·.name)) row.memoryType)

def markerCandidates (items : List ParsedRow) : List ConflictCandidate :=
  items.flatMap fun item =>
    (counterfindingCandidate sha256Hex workspaceId scope items item).toList ++
      (contradictionCandidate sha256Hex workspaceId scope items item).toList

def supersessionCandidates (items : List ParsedRow) (includeResolved : Bool) :
    List ConflictCandidate :=
  items.filterMap fun item =>
    let current := item.row
    if !includeResolved || !current.highConf then none
    else current.superseded.bind fun superseded =>
      ((items.map (·.row)).find? fun row => row.contentId == some superseded).map fun stale =>
        candidate sha256Hex workspaceId scope .staleCurrentTension .resolved .medium 90
          [current] [stale] [(current, .current), (stale, .stale)]
          ["current_state_supersession", "same_workspace", "same_memory_type", "same_scope"]
          "current_state_supersession_v1" (.supersession current.memoryType scope)

/-- The first current row of every content. -/
def activeRows (items : List ParsedRow) : List ConflictSourceRow :=
  distinctOn (·.contentId) ((items.map (·.row)).filter fun row => row.isCurrent == some true)

def activeGroups (items : List ParsedRow) :
    Dict (Option Text × Option Text) (List ConflictSourceRow) :=
  Dict.groupBy (fun row => (row.memoryType, row.stateIdentity)) (activeRows items)

def anchorCandidates (items : List ParsedRow) : List ConflictCandidate :=
  (activeGroups items).filterMap fun group =>
    let ((memoryType, stateIdentity), rows) := group
    match rows with
    | first :: second :: _ =>
      some (candidate sha256Hex workspaceId scope .staleCurrentTension .unresolved .high 80
        [first] [second] [(first, .current), (second, .current)]
        ["multiple_current_anchors", "same_workspace", "same_scope",
          if (stateIdentity.filter (· ≠ [])).isSome then "same_state_identity"
          else "legacy_no_state_identity"]
        "multiple_current_anchors_v1" (.anchors memoryType scope stateIdentity))
    | _ => none

/-- The claims of the rows, in the order in which they are read. -/
def statements (items : List ParsedRow) : List (OpposingClaimMarker × ConflictSourceRow) :=
  (items.filter (·.row.highConf)).flatMap fun item =>
    item.markers.opposingClaims.map fun claim => (claim, item.row)

/-- Of every claim and polarity one row is kept, and it is the one that is read last. -/
def claimRows (items : List ParsedRow) :
    Dict (ClaimKind × Text) (Dict Polarity ConflictSourceRow) :=
  (statements items).foldl (fun claims statement =>
    let (claim, row) := statement
    Dict.modify (claim.kind, claim.obj)
      (fun old => Dict.set claim.polarity row (old.getD [])) claims) []

def claimCandidates (items : List ParsedRow) : List ConflictCandidate :=
  (claimRows items).filterMap fun entry =>
    let ((kind, obj), polarities) := entry
    match Dict.get? .positive polarities, Dict.get? .negative polarities with
    | some pos, some neg =>
      some (candidate sha256Hex workspaceId scope .sameScopeOpposingClaim .unresolved
        (if pos.isCurrent == some true && neg.isCurrent == some true then .high else .medium) 80
        [pos] [neg] [(pos, .finding), (neg, .contradicting)]
        ["same_scope_opposing_claim_markers", "exact_normalized_object_match"]
        "same_scope_opposing_claim_v1" (.claim kind obj))
    | _, _ => none

/-- What the rules find in one scope. -/
def scopeCandidates (items : List ParsedRow) (includeResolved : Bool) : List ConflictCandidate :=
  markerCandidates sha256Hex workspaceId scope items ++
    supersessionCandidates sha256Hex workspaceId scope items includeResolved ++
    anchorCandidates sha256Hex workspaceId scope items ++
    claimCandidates sha256Hex workspaceId scope items

end Rules

/-! ## Detection -/

/-- `max(0, min(int(limit or 10), 50))`. -/
def safeLimit (limit : ℤ) : ℕ := (max 0 (min (if limit = 0 then 10 else limit) 50)).toNat

/-- Every candidate, before duplicates are dropped. -/
def rawCandidates (sha256Hex : Text → Text) (rows : List ConflictSourceRow)
    (workspaceId : WorkspaceId) (scope memoryType : Option Text) (includeResolved : Bool) :
    List ConflictCandidate :=
  (Dict.groupBy (·.scope) (parseRows rows workspaceId scope memoryType)).flatMap fun group =>
    scopeCandidates sha256Hex workspaceId group.1 group.2 includeResolved

/-- `(severity != "high", -confidence, candidate_id)`. -/
def ConflictCandidate.rank (candidate : ConflictCandidate) : Bool ×ₗ ℕᵒᵈ ×ₗ Text :=
  toLex (decide (candidate.severity ≠ .high),
    toLex (OrderDual.toDual candidate.confidence, candidate.candidateId))

/-- The candidates in order, without a limit. -/
def orderedCandidates (sha256Hex : Text → Text) (rows : List ConflictSourceRow)
    (workspaceId : WorkspaceId) (scope memoryType : Option Text) (includeResolved : Bool) :
    List ConflictCandidate :=
  sortOn ConflictCandidate.rank (distinctOn (·.candidateId)
    (rawCandidates sha256Hex rows workspaceId scope memoryType includeResolved))

def detectConflictCandidates (sha256Hex : Text → Text) (rows : List ConflictSourceRow)
    (workspaceId : WorkspaceId) (scope memoryType : Option Text) (includeResolved : Bool)
    (limit : ℤ) : List ConflictCandidate :=
  (orderedCandidates sha256Hex rows workspaceId scope memoryType includeResolved).take
    (safeLimit limit)

end MemoryLab.Conflicts

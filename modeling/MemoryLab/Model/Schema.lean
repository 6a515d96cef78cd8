import MemoryLab.Library.PyText
import MemoryLab.Library.Rows
import MemoryLab.Library.Uuid

/-! # The tables and their rows

Only columns that some modelled statement reads or writes are kept. Identifiers are drawn
fresh by the statement that inserts a row; timestamps are seconds. -/

namespace MemoryLab

open Library

abbrev WorkspaceId := ℕ
abbrev ContentId := ℕ
abbrev ChunkId := ℕ
abbrev AnchorId := ℕ
abbrev HubId := Uuid
abbrev EdgeId := ℕ
abbrev EscalationId := ℕ
abbrev EventId := ℕ
abbrev Timestamp := ℕ

def day : ℕ := 86400

/-- PostgreSQL text holds every character but NUL. -/
def storable (text : Text) : Bool := Char.ofNat 0 ∉ text

inductive DbError where
  | uniqueViolation
  | foreignKeyViolation
  | checkViolation
  | invalidText
  | invalidEnum
  | connectionLost
deriving DecidableEq

/-! ## Enumerations -/

inductive MemoryType where
  | milestone
  | decision
  | principle
  | anchor
  | evidence
  | planRoadmap
  | rawMemory
deriving DecidableEq

/-- The values of `memory_tier`, and `discard`, which only events and decisions carry. -/
inductive Tier where
  | discard
  | transient
  | probationary
  | persistent
  | decisionArtifact
  | conflicted
  | superseded
  | decayed
  | archived
deriving DecidableEq

inductive StateStatus where
  | active
  | superseded
  | archived
deriving DecidableEq

inductive EscalationStatus where
  | pending
  | approved
  | rejected
  | expired
deriving DecidableEq

inductive Severity where
  | informational
  | warning
  | requiresReview
  | hardBlock
deriving DecidableEq

inductive TriggerType where
  | system
  | humanOverride
  | policyEngine
deriving DecidableEq

inductive TriggerSource where
  | save
  | classify
  | cleanup
  | admin
  | mcp
deriving DecidableEq

inductive EdgeType where
  | parent
  | related
  | duplicate
  | overlaps
  | supports
  | partOf
  | contradicts
deriving DecidableEq

inductive EdgeStatus where
  | inferred
  | manual
  | approved
  | rejected
  | needsReview
  | archived
deriving DecidableEq

inductive EdgeOrigin where
  | manual
  | inferredApproved
  | inferredRejected
  | aiSuggested
  | migrationLocalStorage
deriving DecidableEq

/-! ## Rows -/

structure IngestionScores where
  quality : ℚ
  relevance : ℚ
  novelty : ℚ
  composite : ℚ
deriving DecidableEq

structure ContentItem where
  contentId : ContentId
  workspaceId : Option WorkspaceId
  contentHash : Option Text := none
  createdBySubject : Option Text := none
  quickSummary : Option Text := none
  createdAt : Timestamp := 0
  scores : Option IngestionScores := none
  circuitOpen : Option Bool := none
  tier : Option Tier := none
  tierReason : Option Text := none
  tierAssignedAt : Option Timestamp := none
  memoryType : Option MemoryType := none
  memorySubType : Option Text := none
  classifyConfidence : Option ℚ := none
  isCurrent : Option Bool := none
  currentStateScope : Option Text := none
  csSupersedesContentId : Option ContentId := none
  stateIdentity : Option Text := none
  topicTags : List Text := []
  metaTags : List Text := []
  conflictEscalationId : Option EscalationId := none
deriving DecidableEq

structure ContentChunkRow where
  chunkId : ChunkId
  contentId : ContentId
  workspaceId : Option WorkspaceId
  chunkIndex : ℕ
  chunkText : Text
  embedding : Option (List ℚ) := none
deriving DecidableEq

/-- What `state_reason` spells out. -/
structure StateReason where
  classifyConfidence : ℚ
  memorySubType : Option Text
  signals : List Text
  scopeSource : String
  stateIdentity : Text
deriving DecidableEq

structure CurrentStateAnchor where
  anchorId : AnchorId
  workspaceId : WorkspaceId
  memoryType : MemoryType
  scope : Text
  stateIdentity : Option Text
  contentId : Option ContentId
  supersedesContentId : Option ContentId
  validFrom : Timestamp
  validUntil : Option Timestamp := none
  canonicalRank : ℕ := 1
  stateStatus : StateStatus := .active
  stateReason : Option StateReason := none
  setBy : String := "auto_classify"
deriving DecidableEq

structure Hub where
  hubId : HubId
  workspaceUuid : Option WorkspaceId
  active : Bool
  title : Text
  aliases : List Text
  relatedTerms : List Text
deriving DecidableEq

structure ClassificationRow where
  workspaceId : WorkspaceId
  contentId : ContentId
  memoryType : MemoryType
  memorySubType : Option Text
  classifyConfidence : ℚ
  classifierVersion : String
  projectTopic : Option Text
  signals : List Text
  isActiveClassification : Bool
deriving DecidableEq

structure Escalation where
  escalationId : EscalationId
  workspaceId : WorkspaceId
  contentId : Option ContentId
  conflictContentId : Option ContentId
  conflictType : String
  severity : Severity
  conflictSummary : Option Text
  status : EscalationStatus
  expiresAt : Timestamp
  resolvedAt : Option Timestamp := none
  resolvedBy : Option Text := none
deriving DecidableEq

/-- A row of the append-only table of tier transitions. -/
structure TierTransitionEvent where
  eventId : EventId
  contentId : ContentId
  workspaceId : Option WorkspaceId
  previousTier : Option Tier
  newTier : Tier
  transitionReason : Text
  transitionRule : Text
  triggerType : TriggerType
  triggerSource : TriggerSource
  createdAt : Timestamp
deriving DecidableEq

structure HubContentRow where
  hubId : HubId
  contentId : ContentId
  workspaceId : Option WorkspaceId := none
  linkedAt : Timestamp := 0
deriving DecidableEq

structure DecisionNode where
  sourceContentIds : List ContentId
deriving DecidableEq

/-- A row of the curated relationships between hubs. -/
structure HubEdge where
  id : EdgeId
  sourceHubId : HubId
  targetHubId : HubId
  workspaceId : Option WorkspaceId
  type : EdgeType
  status : EdgeStatus
  origin : EdgeOrigin
  confidence : Option ℚ := none
  reason : Option Text := none
  note : Option Text := none
  weight : Option ℚ := some 1
  edgeKey : Text
  createdBy : Option Text := none
  createdAt : Timestamp
  updatedAt : Timestamp
  archivedAt : Option Timestamp := none
deriving DecidableEq

structure Database where
  contentItems : List ContentItem := []
  contentChunks : List ContentChunkRow := []
  anchors : List CurrentStateAnchor := []
  hubs : List Hub := []
  classificationHistory : List ClassificationRow := []
  escalations : List Escalation := []
  governanceEvents : List TierTransitionEvent := []
  hubContent : List HubContentRow := []
  decisionNodes : List DecisionNode := []
  hubEdges : List HubEdge := []
deriving DecidableEq

def hasContentId (contentId : ContentId) (item : ContentItem) : Bool :=
  item.contentId == contentId

def Database.contentIds (db : Database) : List ContentId := db.contentItems.map (·.contentId)

end MemoryLab

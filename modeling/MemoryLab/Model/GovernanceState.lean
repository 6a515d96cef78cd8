import MemoryLab.Library.PyText
import MemoryLab.Library.Rows

/-! # Governance states and events

What a caller supplies about a record, and the checks that every backend makes first. A check
returns its errors. -/

namespace MemoryLab.Governance

open Library Library.Rows

/-! ## The contracts -/

structure GovernanceRecordRef where
  recordId : Text
  recordType : Text
  workspaceId : Text
  contentId : Option Text := none
  sourceRef : Option Text := none
deriving DecidableEq

structure GovernanceProvenance (M : Type) where
  sourceType : Text
  sourceId : Text
  sourceLabel : Text
  createdBy : Text
  traceId : Text
  createdAt : Text
  metadata : Option M := none
deriving DecidableEq

structure GovernanceState (M : Type) where
  recordRef : GovernanceRecordRef
  status : Text
  tier : Text
  provenance : GovernanceProvenance M
  supersedes : Option Text := none
  supersededBy : Option Text := none
  stateReason : Option Text := none
  limitations : List Text := []
  nonClaims : List Text := []
  mode : Text
deriving DecidableEq

structure GovernanceStateEventContract (M : Type) where
  eventType : Text
  workspaceId : Text
  recordRef : GovernanceRecordRef
  provenance : GovernanceProvenance M
  previousStatus : Option Text := none
  nextStatus : Option Text := none
  previousTier : Option Text := none
  nextTier : Option Text := none
  eventReason : Option Text := none
  limitations : List Text := []
  nonClaims : List Text := []
  mode : Text
deriving DecidableEq

def governanceStatuses : List Text :=
  ["draft", "needs_review", "active", "archived", "superseded", "rejected"].map String.toList

def governanceTiers : List Text :=
  ["discard", "transient", "probationary", "persistent", "decision_artifact", "archived",
    "conflicted", "superseded", "decayed"].map String.toList

/-- `B25_STATE_EVENT_TYPE`. -/
def stateEventType : Text := "b25_data_only_governance_state_event_v1".toList

variable {M : Type}

/-! ## Checks -/

/-- `_has_text`. -/
def hasText (value : Text) : Bool := value.strip ≠ []

def required (fieldName : String) (value : Text) : List String :=
  if hasText value then [] else [fieldName ++ " is required"]

/-- A stripped word out of a list. -/
def validateWord (fieldName : String) (allowed : List Text) (value : Text) : List String :=
  if !hasText value then [fieldName ++ " is required"]
  else if value.strip ∈ allowed then []
  else ["invalid governance " ++ fieldName ++ ": " ++ String.ofList value.strip]

def validateStatus (status : Text) : List String := validateWord "status" governanceStatuses status

def validateTier (tier : Text) : List String := validateWord "tier" governanceTiers tier

def validateRecordRef (ref : GovernanceRecordRef) : List String :=
  required "record_id" ref.recordId ++ required "record_type" ref.recordType ++
    required "workspace_id" ref.workspaceId

def validateProvenance (provenance : GovernanceProvenance M) : List String :=
  required "source_type" provenance.sourceType ++ required "source_id" provenance.sourceId ++
    required "source_label" provenance.sourceLabel ++ required "created_by" provenance.createdBy ++
    required "trace_id" provenance.traceId ++ required "created_at" provenance.createdAt

def validateGovernanceState (state : GovernanceState M) : List String :=
  distinctOn id (validateRecordRef state.recordRef ++ validateStatus state.status ++
    validateTier state.tier ++ validateProvenance state.provenance)

/-! ## The workspace of an event -/

def validateWorkspaceId (workspaceId : Text) : List String := required "workspace_id" workspaceId

def boundaryError (workspaceId : Text) (record : GovernanceRecordRef × ℕ) : List String :=
  if !hasText record.1.workspaceId then
    ["record[" ++ toString record.2 ++ "] workspace_id is required"]
  else if record.1.workspaceId.strip ≠ workspaceId.strip then
    ["record[" ++ toString record.2 ++ "] workspace_id does not match explicit workspace context"]
  else []

/-- `validate_workspace_boundary` with an explicit workspace. -/
def validateWorkspaceBoundary (records : List GovernanceRecordRef) (workspaceId : Text) :
    List String :=
  if !hasText workspaceId then validateWorkspaceId workspaceId
  else
    let found := (records.filter (hasText ·.workspaceId)).map (·.workspaceId.strip)
    records.zipIdx.flatMap (boundaryError workspaceId) ++
      if (distinctOn id found).length > 1 then ["mixed workspace_ids are not allowed"] else []

/-- A check of an optional field, with its label before each error. -/
def labelled (label : String) (validator : Text → List String) : Option Text → List String
  | none => []
  | some value => (validator value).map fun error => label ++ ": " ++ error

def validateGovernanceStateEventContract (event : GovernanceStateEventContract M) : List String :=
  distinctOn id (validateRecordRef event.recordRef ++ validateProvenance event.provenance ++
    validateWorkspaceBoundary [event.recordRef] event.workspaceId ++
    (if event.eventType ≠ stateEventType then
      ["event_type must be " ++ String.ofList stateEventType] else []) ++
    labelled "previous_status" validateStatus event.previousStatus ++
    labelled "next_status" validateStatus event.nextStatus ++
    labelled "previous_tier" validateTier event.previousTier ++
    labelled "next_tier" validateTier event.nextTier)

end MemoryLab.Governance

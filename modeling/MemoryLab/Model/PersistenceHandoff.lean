import MemoryLab.Library.Dict
import MemoryLab.Model.Persistence
import MemoryLab.Model.SearchByPurpose

/-! # From persisted records to a context package

Records come as typed records, as mappings and as other objects; the values of their fields are of
any type. -/

namespace MemoryLab.PersistenceHandoff

open Library Library.Rows Persistence SearchByPurpose

/-- What Python makes of a value, beside its text. -/
structure Values (V : Type) extends SearchByPurpose.Environment V where
  null : V
  ofText : Text → V
  ofDict : Dict Text V → V
  truthy : V → Bool
  isNone : V → Bool
  /-- `isinstance(value, str)` -/
  asText : V → Option Text
  /-- `isinstance(value, Mapping)` -/
  asDict : V → Option (Dict Text V)
  isBytes : V → Bool
  /-- The elements of an iterable. -/
  items : V → Option (List V)
  /-- `float(value)` of what is neither `None` nor a truth value, where it is finite. -/
  toFloat : V → Option ℚ
  asText_ofText : ∀ text, asText (ofText text) = some text
  asDict_ofDict : ∀ dict, asDict (ofDict dict) = some dict

inductive Record (V : Type) where
  | typed (record : ContentPersistenceRecord (Dict Text V))
  | mapping (fields : Dict Text V)
  | object (attributes : Dict Text V)

/-- What a backend's `list_content_records` returns. -/
inductive BackendReply (V : Type) where
  | result (value : List (Record V))
  | failed (error : Option PersistenceError)
  | notOk (error : Option Text)
  | other (value : List (Record V))

/-- A supplied backend: whether it has the method, and what the method returns. -/
structure Backend (V : Type) where
  listContentRecords : Option (Text → BackendReply V)

structure PersistenceRetrievalCandidateRequest (V : Type) where
  workspaceId : Text
  records : List (Record V) := []
  backend : Option (Backend V) := none
  useBackend : Bool := false
  query : Text := []
  purpose : Text := "answer".toList
  limit : ℤ := 10
  maxCandidates : ℤ := 8
  maxContextChars : ℤ := 4000
  snippetChars : ℤ := 600

inductive HandoffCode where
  | invalidWorkspaceId
  | backendRequired
  | backendResultFailed
  | workspaceBoundaryViolation
  | invalidRecord
  | noUsableRecords
deriving DecidableEq

inductive HandoffStatus where
  | completed
  | completedWithContextPackage
  | invalidWorkspace
  | backendRequired
  | backendResultFailed
  | workspaceBoundaryViolation
  | noUsableRecords
  | invalidRecords
deriving DecidableEq

structure HandoffError where
  code : HandoffCode
  message : Text
  field : Option String
deriving DecidableEq

structure PersistenceRetrievalCandidate (V : Type) where
  itemId : Text
  workspaceId : Text
  suppliedCandidate : SuppliedSearchCandidate V
deriving DecidableEq

structure HandoffResult (V : Type) where
  ok : Bool
  status : HandoffStatus
  workspaceId : Text
  candidates : List (SuppliedSearchCandidate V) := []
  handoffCandidates : List (PersistenceRetrievalCandidate V) := []
  ranked : Option (SearchByPurposeResponse V) := none
  contextPackage : Option (ContextCandidatePackage V) := none
  errors : List HandoffError := []

def statusForError : HandoffCode → HandoffStatus
  | .backendRequired => .backendRequired
  | .backendResultFailed => .backendResultFailed
  | .workspaceBoundaryViolation => .workspaceBoundaryViolation
  | .noUsableRecords => .noUsableRecords
  | .invalidWorkspaceId => .invalidWorkspace
  | .invalidRecord => .invalidRecords

def failure {V : Type} (status : HandoffStatus) (workspaceId : Text)
    (errors : List HandoffError) : HandoffResult V :=
  { ok := false, status, workspaceId, errors }

/-- `_SAFE_METADATA_KEYS`. -/
def safeMetadataKeys : List Text :=
  ["domain", "tags", "hubs", "source_ref", "source_ref_role", "chunk_count", "scoring_composite",
    "tier_recommendation", "b27_mode"].map String.toList

section Handoff

variable {V : Type} (py : Values V)

/-! ## Fields of a record -/

def typedField (record : ContentPersistenceRecord (Dict Text V)) (name : Text) : V :=
  if name = "content_id".toList then py.ofText record.contentId
  else if name = "workspace_id".toList then py.ofText record.workspaceId
  else if name = "text".toList then py.ofText record.text
  else if name = "title".toList then (record.title.map py.ofText).getD py.null
  else if name = "metadata".toList then py.ofDict record.metadata
  else if name = "governance_state_id".toList then
    (record.governanceStateId.map py.ofText).getD py.null
  else py.null

def recordField (record : Record V) (name : Text) : V :=
  match record with
  | .typed record => typedField py record name
  | .mapping fields | .object fields => (Dict.get? name fields).getD py.null

def recordMetadata (record : Record V) : Dict Text V :=
  (py.asDict (recordField py record "metadata".toList)).getD []

/-- `a or b`. -/
def orElse (a b : V) : V := if py.truthy a then a else b

/-- `str(value or "")`. -/
def textOf (value : V) : Text := if py.truthy value then py.str value else []

/-! ## Metadata -/

/-- `metadata.get(key)`. -/
def metadataValue (metadata : Dict Text V) (key : String) : V :=
  (Dict.get? key.toList metadata).getD py.null

def tupleStr (value : V) : List Text :=
  match py.asText value with
  | some text => if text = [] then [] else [text]
  | none =>
    if py.isNone value || py.isBytes value then []
    else (((py.items value).getD []).map py.str).filter (· ≠ [])

def optionalStr (value : V) : Option Text :=
  let text := if py.isNone value then [] else (py.str value).strip
  if text = [] then none else some text

def optionalFloat (value : V) : Option ℚ := (py.toFloat value).map fun number =>
  max 0 (min 1 number)

def safeMetadata (metadata : Dict Text V) : List (Text × V) :=
  safeMetadataKeys.filterMap fun key => (Dict.get? key metadata).map fun value => (key, value)

def purposeText (title : Text) (metadata : Dict Text V) : Text :=
  let labelled := ["domain", "tier_recommendation", "source_ref_role"].map fun key =>
    let value := metadataValue py metadata key
    if py.truthy value then key.toList ++ ':' :: py.str value else []
  let tags := joinWith "," (tupleStr py (metadataValue py metadata "tags"))
  let parts := title.strip :: labelled ++ [if tags = [] then [] else "tags:".toList ++ tags]
  joinWith " " (parts.filter (· ≠ []))

def boundedSnippet (text : Text) (snippetChars : ℤ) : Text :=
  text.strip.take (max 0 (min snippetChars 4000)).toNat

/-! ## Candidates -/

def recordsOfReply : BackendReply V → Except HandoffError (List (Record V))
  | .result value | .other value => .ok value
  | .failed (some error) => .error ⟨.backendResultFailed, error.message.toList, error.field⟩
  | .failed none => .error ⟨.backendResultFailed,
      "supplied B26 backend returned failure".toList, some "backend"⟩
  | .notOk error => .error ⟨.backendResultFailed,
      (error.filter (· ≠ [])).getD "supplied backend returned failure".toList, some "backend"⟩

def listedRecords (workspaceId : Text) :
    Option (Backend V) → Except HandoffError (List (Record V))
  | none => .error ⟨.backendRequired,
      "use_backend=True requires a caller-supplied B26 backend".toList, some "backend"⟩
  | some ⟨none⟩ => .error ⟨.backendRequired,
      "supplied backend must provide list_content_records".toList, some "backend"⟩
  | some ⟨some list⟩ => recordsOfReply (list workspaceId.strip)

def recordsFromRequest (request : PersistenceRetrievalCandidateRequest V) :
    Except HandoffError (List (Record V)) :=
  if request.records ≠ [] then .ok request.records
  else if !request.useBackend then .ok []
  else listedRecords request.workspaceId request.backend

/-- `isinstance(workspace_id, str)` with the requested workspace. -/
def inWorkspace (workspaceId : Text) (record : Record V) : Bool :=
  (py.asText (recordField py record "workspace_id".toList)).any
    fun own => own.strip == workspaceId.strip

def contentIdField (record : Record V) : V :=
  let field (name : String) := recordField py record name.toList
  orElse py (orElse py (field "content_id") (field "record_id")) (field "item_id")

def suppliedCandidate (record : Record V) (contentId : Text) (snippetChars : ℤ) :
    SuppliedSearchCandidate V :=
  let field (name : String) := recordField py record name.toList
  let text := textOf py (orElse py (field "text") (field "content"))
  let title := textOf py (field "title")
  let metadata := recordMetadata py record
  { itemId := contentId.strip
    text := text
    snippet := boundedSnippet text snippetChars
    purposeText := purposeText py title metadata
    domain := optionalStr py (metadataValue py metadata "domain")
    tags := tupleStr py (metadataValue py metadata "tags")
    sourceMetadata := safeMetadata metadata
    ingestionScore := optionalFloat py (metadataValue py metadata "scoring_composite")
    tier := optionalStr py (metadataValue py metadata "tier_recommendation") }

def candidateFromRecord (request : PersistenceRetrievalCandidateRequest V) (record : Record V) :
    Except HandoffError (PersistenceRetrievalCandidate V) :=
  if !inWorkspace py request.workspaceId record then
    .error ⟨.workspaceBoundaryViolation,
      "record workspace_id does not match requested workspace_id".toList, some "workspace_id"⟩
  else match (py.asText (contentIdField py record)).filter (·.strip ≠ []) with
  | none => .error ⟨.invalidRecord, "record content_id is required".toList, some "content_id"⟩
  | some contentId => .ok ⟨contentId.strip, request.workspaceId.strip,
      suppliedCandidate py record contentId request.snippetChars⟩

/-- `build_candidates`. -/
def buildCandidates (request : PersistenceRetrievalCandidateRequest V) : HandoffResult V :=
  if request.workspaceId.strip = [] then
    failure .invalidWorkspace request.workspaceId
      [⟨.invalidWorkspaceId, "workspace_id is required".toList, some "workspace_id"⟩]
  else match recordsFromRequest request with
  | .error error => failure (statusForError error.code) request.workspaceId [error]
  | .ok records =>
    let outcomes := records.map (candidateFromRecord py request)
    let errors := outcomes.filterMap fun outcome =>
      match outcome with
      | .error error => some error
      | .ok _ => none
    let candidates := outcomes.filterMap Except.toOption
    match errors, candidates with
    | first :: _, _ => failure (statusForError first.code) request.workspaceId errors
    | [], [] => failure .noUsableRecords request.workspaceId
        [⟨.noUsableRecords, "no usable records were supplied for handoff".toList, some "records"⟩]
    | [], _ =>
      let sorted := sortOn (·.itemId) candidates
      { ok := true
        status := .completed
        workspaceId := request.workspaceId.strip
        candidates := sorted.map (·.suppliedCandidate)
        handoffCandidates := sorted }

/-- `build_context_package`. -/
def buildContextPackage (request : PersistenceRetrievalCandidateRequest V) : HandoffResult V :=
  let result := buildCandidates py request
  if !result.ok then result
  else
    let ranked := rankContextCandidatesByPurpose py.toEnvironment
      ⟨request.query, request.purpose, result.candidates, request.limit⟩
    let contextPackage := buildContextCandidates py.toEnvironment
      ⟨request.query, ranked.results, request.maxCandidates, request.maxContextChars,
        request.snippetChars⟩
    { ok := true
      status := .completedWithContextPackage
      workspaceId := result.workspaceId
      candidates := result.candidates
      handoffCandidates := result.handoffCandidates
      ranked := some ranked
      contextPackage := some contextPackage }

end Handoff

end MemoryLab.PersistenceHandoff

import MemoryLab.Model.ContextPackService

/-! # Reasoning over a context pack

A traversal lists, hop by hop, what a pack is made of. The answers of the reasoning endpoint come
from the same packs. -/

namespace MemoryLab.Reasoning

open Library Library.Rows ContextPackBuilder ContextPackService
open Answer (LLMBackend LLMRequest ReasoningProviderMetadata WordClass)
open GraphSnapshot (idText)
open TierRouter (digits)

/-! ## The request -/

structure ReasoningRequest extends BuildRequest where
  maxHops : ℤ := 2
  enableProviderSynthesis : Bool := false
deriving DecidableEq

inductive RequestError where
  | limitOutOfRange
  | maxHopsOutOfRange
  | queryOrScopeRequired
deriving DecidableEq

def ReasoningRequest.normalize (request : ReasoningRequest) : ReasoningRequest :=
  { request with toContextPackBuildRequest := request.toContextPackBuildRequest.normalize }

/-- The bounds of the fields and `_require_query_or_scope`. -/
def ReasoningRequest.validate (request : ReasoningRequest) :
    Except RequestError ReasoningRequest :=
  if request.limit < 1 ∨ 50 < request.limit then .error .limitOutOfRange
  else if request.maxHops < 1 ∨ 3 < request.maxHops then .error .maxHopsOutOfRange
  else if request.normalize.query.isNone && request.normalize.scope.isNone then
    .error .queryOrScopeRequired
  else .ok request.normalize

/-- `_context_pack_request`, which validates the fields once more and then the types. -/
def contextPackRequest (request : ReasoningRequest) : Except ServiceError BuildRequest :=
  request.toBuildRequest.validate.mapError .build

/-! ## Steps -/

inductive Relation where
  | buildsContextPack
  | includesSupportingEvidence
  | includedViaHubLink
  | includedViaGraphExpansion
  | hasCurrentStateSignal
  | hasStaleOrSupersededSignal
  | surfacesUnresolvedConflictCandidate
  | includesCounterfindingEvidence
deriving DecidableEq

namespace Relation

def label : Relation → String
  | buildsContextPack => "builds_context_pack"
  | includesSupportingEvidence => "includes_supporting_evidence"
  | includedViaHubLink => "included_via_hub_link"
  | includedViaGraphExpansion => "included_via_graph_expansion"
  | hasCurrentStateSignal => "has_current_state_signal"
  | hasStaleOrSupersededSignal => "has_stale_or_superseded_signal"
  | surfacesUnresolvedConflictCandidate => "surfaces_unresolved_conflict_candidate"
  | includesCounterfindingEvidence => "includes_counterfinding_evidence"

/-- The `hop` that the steps of a relation are given. -/
def hop : Relation → ℕ
  | buildsContextPack => 0
  | includesSupportingEvidence | includedViaHubLink | includedViaGraphExpansion => 1
  | hasCurrentStateSignal | hasStaleOrSupersededSignal | surfacesUnresolvedConflictCandidate => 2
  | includesCounterfindingEvidence => 3

def rationale : Relation → String
  | buildsContextPack =>
    "The reasoning layer starts from the public B12 context pack built for the query/scope."
  | includesSupportingEvidence =>
    "Supporting evidence is included by the B12 retrieval/context-pack path."
  | includedViaHubLink =>
    "This evidence reached the pack through a human-curated hub link recorded by retrieval."
  | includedViaGraphExpansion =>
    "This evidence reached the pack through hop-bounded graph query expansion recorded by " ++
      "retrieval."
  | hasCurrentStateSignal =>
    "Current-state metadata is surfaced as a signal, not as proof that other evidence is false."
  | hasStaleOrSupersededSignal =>
    "Stale/superseded metadata is a warning signal only; B13 does not arbitrate truth."
  | surfacesUnresolvedConflictCandidate =>
    "Conflict candidates are warnings for human review and are not automatically resolved."
  | includesCounterfindingEvidence =>
    "Counterfinding evidence is preserved for human review without conflict resolution."

end Relation

structure ReasoningTraversalStep where
  stepId : Text
  hop : ℕ
  source : Text
  relation : Relation
  target : Text
  evidenceIds : List Text
  rationale : String
  degraded : Bool := false
deriving DecidableEq

/-- `step_{n:02d}`. -/
def stepLabel (n : ℕ) : Text :=
  "step_".toList ++ (if n < 10 then '0' :: digits n else digits n)

/-- The steps in the order in which they are appended, numbered from one. -/
def numbered (steps : List ReasoningTraversalStep) : List ReasoningTraversalStep :=
  steps.mapIdx fun n step => { step with stepId := stepLabel (n + 1) }

/-- A step before it has its number. -/
def Relation.step (relation : Relation) (source target : Text) (evidenceIds : List Text) :
    ReasoningTraversalStep :=
  { stepId := [], hop := relation.hop, source, relation, target, evidenceIds,
    rationale := relation.rationale }

/-! ## Traversal -/

/-- `(e.rank or 999999, e.content_id, e.evidence_id)`. -/
def refKey (ref : ContextPackEvidenceRef) : ℤ ×ₗ Text ×ₗ Text :=
  toLex ((ref.rank.filter (· ≠ 0)).getD 999999, toLex (ref.contentId, ref.evidenceId))

def conflictKey (conflict : ConflictDict) : Text ×ₗ Text :=
  toLex (conflict.severity.getD [], conflict.idText)

/-- `value == text`. -/
def isText (text : String) : PyValue → Bool
  | .str s => s == text.toList
  | _ => false

section Traversal

variable (convert : Conversions) (packId : Text) (scope : Option Text) (pack : ContextPack)

def originStep : ReasoningTraversalStep :=
  Relation.buildsContextPack.step "reasoning_request".toList packId
    (pack.supportingEvidence.map (·.evidenceId))

def supportSteps : List ReasoningTraversalStep :=
  (sortOn refKey pack.supportingEvidence).map fun ref =>
    Relation.includesSupportingEvidence.step packId ref.contentId [ref.evidenceId]

/-- What the retrieval recorded about one piece of evidence. -/
def provenanceSteps (ref : ContextPackEvidenceRef) : List ReasoningTraversalStep :=
  let metadata := ref.metadata.getD []
  let hubMatch := metadata.get "hub_match"
  let graphMatch := metadata.get "graph_match"
  (if AskSeam.truthy hubMatch then
    [Relation.includedViaHubLink.step (AskSeam.textOf convert hubMatch) ref.contentId
      [ref.evidenceId]] else []) ++
  (if AskSeam.truthy graphMatch || isText "graph_neighbor" (metadata.get "source_path") then
    [Relation.includedViaGraphExpansion.step
      (AskSeam.textOf convert
        (AskSeam.orValue graphMatch (.str "graph_expansion".toList)))
      ref.contentId [ref.evidenceId]] else [])

def signalSteps : List ReasoningTraversalStep :=
  (sortOn refKey pack.currentStateSignals).map fun ref =>
    Relation.hasCurrentStateSignal.step ref.contentId
      ((orElse ref.currentStateScope (orElse scope none)).getD "current_state".toList)
      [ref.evidenceId]

def staleSteps : List ReasoningTraversalStep :=
  (sortOn refKey pack.staleOrSupersededItems).map fun ref =>
    Relation.hasStaleOrSupersededSignal.step ref.contentId
      ((orElse ref.csSupersedesContentId none).getD "supersession_signal".toList)
      [ref.evidenceId]

/-- The ids of the evidence of a conflict, where there are any. -/
def conflictEvidenceIds (conflict : ConflictDict) : List Text :=
  conflict.evidence.filterMap fun row => row.evidenceId.filter (· ≠ [])

def conflictSteps : List ReasoningTraversalStep :=
  (sortOn conflictKey pack.conflictCandidates).map fun conflict =>
    Relation.surfacesUnresolvedConflictCandidate.step packId
      (if conflict.idText = [] then "conflict_candidate".toList else conflict.idText)
      (conflictEvidenceIds conflict)

def counterSteps : List ReasoningTraversalStep :=
  (sortOn refKey pack.counterfindings).map fun ref =>
    Relation.includesCounterfindingEvidence.step packId ref.contentId [ref.evidenceId]

/-- `min(max(int(max_hops or 2), 1), 3)`. -/
def clampHops (maxHops : ℤ) : ℤ := min (max (if maxHops = 0 then 2 else maxHops) 1) 3

/-- The steps of one hop. -/
def hopSteps : ℕ → List ReasoningTraversalStep
  | 0 => [originStep packId pack]
  | 1 => supportSteps packId pack ++
      (sortOn refKey pack.supportingEvidence).flatMap (provenanceSteps convert)
  | 2 => signalSteps scope pack ++ staleSteps pack ++ conflictSteps packId pack
  | 3 => counterSteps packId pack
  | _ => []

def buildTraversalSteps (maxHops : ℤ) : List ReasoningTraversalStep :=
  let hops := clampHops maxHops
  numbered (hopSteps convert packId scope pack 0 ++
    (if 1 ≤ hops then hopSteps convert packId scope pack 1 else []) ++
    (if 2 ≤ hops then hopSteps convert packId scope pack 2 else []) ++
    (if 3 ≤ hops then hopSteps convert packId scope pack 3 else []))

end Traversal

/-! ## Provider metadata -/

/-- The call that asks a provider for a summary, which no response shows. -/
def summaryRequest : LLMRequest :=
  { prompt := "Summarize evidence path without forbidden public response fields.".toList
    system := "Return only a short process summary. Do not resolve conflicts.".toList
    maxTokens := 128 }

/-- `_provider_metadata`; the reason for degrading is the failure reason of the metadata. -/
def providerMetadata (enableProviderSynthesis : Bool) (backend : Option LLMBackend) :
    ReasoningProviderMetadata :=
  if !enableProviderSynthesis then {}
  else
    let llm := backend.getD Answer.noopLLMBackend
    let response := llm.summarize summaryRequest
    { provider := llm.providerName, attempted := true, configured := llm.isConfigured
      degraded := response.degraded
      failureReason := if response.degraded then some (Answer.failureReason response) else none
      model := some response.model |>.filter (· ≠ []) }

/-! ## Explanation -/

structure EvidenceInclusion where
  supportingEvidenceCount : ℕ
  currentStateSignalCount : ℕ
  counterfindingCount : ℕ
  staleOrSupersededCount : ℕ
  rule : String
deriving DecidableEq

structure ProviderState where
  attempted : Bool
  provider : String
  degraded : Bool
  failureReason : Option String
  note : Option String := none
deriving DecidableEq

structure Limits where
  maxHops : ℤ
  hardCapMaxHops : ℕ := 3
  traversalStepCount : ℕ
deriving DecidableEq

structure Explanation where
  summary : String
  evidenceInclusion : EvidenceInclusion
  currentSignalsExplained : String
  staleSignalsExplained : String
  conflictAndCounterfindingWarnings : List Text
  providerState : ProviderState
  limits : Limits
  scopeBoundary : String
deriving DecidableEq

/-- What the answer path reads of a reference. -/
def answerRef (ref : ContextPackEvidenceRef) : Answer.EvidenceRef :=
  { evidenceId := ref.evidenceId, contentId := ref.contentId, rank := ref.rank
    snippet := ref.snippet, role := ref.role.map String.ofList, isCurrent := ref.isCurrent
    csSupersedesContentId := ref.csSupersedesContentId }

def answerPack (pack : ContextPack) : Answer.ContextPack :=
  { supportingEvidence := pack.supportingEvidence.map answerRef
    currentStateSignals := pack.currentStateSignals.map answerRef
    conflictCandidateCount := pack.conflictCandidates.length
    counterfindings := pack.counterfindings.map answerRef
    staleOrSupersededItems := pack.staleOrSupersededItems.map answerRef }

/-- `deterministic_explanation`, with the note that `_base_response` adds to it. -/
def deterministicExplanation (pack : ContextPack) (maxHops : ℤ)
    (steps : List ReasoningTraversalStep) (metadata : ReasoningProviderMetadata) : Explanation :=
  { summary :=
      "Reasoning was computed from the B12 context pack with deterministic read-only traversal."
    evidenceInclusion :=
      { supportingEvidenceCount := pack.supportingEvidence.length
        currentStateSignalCount := pack.currentStateSignals.length
        counterfindingCount := pack.counterfindings.length
        staleOrSupersededCount := pack.staleOrSupersededItems.length
        rule := "Evidence refs are copied from the context pack and ordered deterministically " ++
          "by rank/content/evidence id." }
    currentSignalsExplained :=
      "Current-state signals indicate currently marked evidence in public metadata."
    staleSignalsExplained :=
      "Stale/superseded signals are warnings only and do not invalidate evidence automatically."
    conflictAndCounterfindingWarnings := Answer.buildConflictWarnings (answerPack pack)
    providerState :=
      { attempted := metadata.attempted, provider := metadata.provider
        degraded := metadata.degraded, failureReason := metadata.failureReason
        note := if metadata.attempted && metadata.failureReason.isNone then
          some ("Provider path was explicitly requested; deterministic evidence refs remain " ++
            "authoritative.") else none }
    limits := { maxHops, traversalStepCount := steps.length }
    scopeBoundary := "Public B12 context-pack primitives only; no private ask_v2 prompts or " ++
      "hidden provider calls." }

/-! ## Responses -/

inductive ReasoningMode where
  | deterministicReadOnly
  | providerAssistedReadOnly
  | providerDegradedReadOnly
deriving DecidableEq

structure ReasoningResponse where
  reasoningId : Text
  mode : ReasoningMode
  contextPackId : Text
  workspaceId : Text
  query : Option Text
  scope : Option Text
  traversalSteps : List ReasoningTraversalStep
  evidenceRefs : List Answer.EvidenceRef
  explanation : Explanation
  conflictWarnings : List Text
  limitations : List String
  providerMetadata : ReasoningProviderMetadata
  degradedReason : Option String
  nonClaims : List String
deriving DecidableEq

def baseLimitations : List String :=
  ["B13 structures and explains evidence paths only.", "No truth arbitration is performed.",
    "No automatic conflict resolution is performed.",
    "No graph or database mutation is performed by the runtime reasoning path.",
    "Provider-backed synthesis is disabled unless explicitly requested and configured."]

def baseNonClaims : List String :=
  ["no_answer_field", "no_verdict", "no_forbidden_public_response_fields", "no_resolution",
    "no_private_ask_v2_port", "no_private_prompt_copy", "no_graph_mutation",
    "no_provider_call_by_default"]

def contextPackNonClaims : List String :=
  ["no_full_context_brain_claim", "no_truth_arbitration", "no_automatic_conflict_resolution",
    "no_provider_backed_reasoning_by_default", "no_wrapper_sdk_yet", "no_pypi_publish_claim",
    "no_production_tenancy_or_billing", "no_1_0_api_stability"]

def intText (n : ℤ) : Text := if n < 0 then '-' :: digits n.natAbs else digits n.natAbs

structure ReasoningAnswerResponse where
  reasoningId : Text
  contextPackId : Text
  workspaceId : Text
  query : Option Text
  scope : Option Text
  traversalSteps : List ReasoningTraversalStep
  answer : Answer.AnswerResponse
deriving DecidableEq

def reasoningId (kind packId : Text) (maxHops : ℤ) (attempted : Bool) : Text :=
  "rsn_".toList ++ kind ++ '_' :: packId ++ '_' :: intText maxHops ++
    (if attempted then "_provider" else "_deterministic").toList

/-- What the endpoints find outside the tables. -/
structure ReasoningEnvironment where
  pack : PackEnvironment
  dumps : IdPayload → Text
  words : WordClass
  configuredBackend : Option LLMBackend

section Endpoints

variable (env : ReasoningEnvironment) (workspaceId : WorkspaceId) (request : ReasoningRequest)
  (backend : Option LLMBackend)

/-- The id of a pack that was built for a validated request. -/
def packId (built : BuildRequest) (pack : ContextPack) : Text :=
  makeContextPackId env.dumps env.pack.sha256Hex
    (stableIdPayload (idText workspaceId) built pack)

/-- `_base_response`. -/
def baseResponse (kind : Text) (built : BuildRequest) (pack : ContextPack) : ReasoningResponse :=
  let metadata := providerMetadata request.enableProviderSynthesis backend
  let contextPackId := packId env workspaceId built pack
  let steps :=
    buildTraversalSteps env.pack.convert contextPackId built.scope pack request.maxHops
  { reasoningId := reasoningId kind contextPackId request.maxHops metadata.attempted
    mode := if metadata.degraded then .providerDegradedReadOnly
      else if metadata.attempted then .providerAssistedReadOnly else .deterministicReadOnly
    contextPackId, workspaceId := idText workspaceId, query := built.query
    scope := built.scope, traversalSteps := steps
    evidenceRefs := Answer.collectEvidenceRefs (answerPack pack)
    explanation := deterministicExplanation pack request.maxHops steps metadata
    conflictWarnings := Answer.buildConflictWarnings (answerPack pack)
    limitations := baseLimitations, providerMetadata := metadata
    degradedReason := metadata.failureReason
    nonClaims := distinctOn id (contextPackNonClaims ++ baseNonClaims) }

/-- The pack that a request is reasoned over, with the request it was built for. -/
def packForRequest (db : Database) (options : Retrieval.SearchOptions) :
    Except ServiceError (BuildRequest × ContextPack) := do
  let built ← contextPackRequest request
  let pack ← buildContextPackForRequest env.pack db built workspaceId options
  return (built, pack)

/-- `traverse_for_request` and `explain_for_request`. -/
def reasonForRequest (kind : Text) (db : Database) : Except ServiceError ReasoningResponse := do
  let (built, pack) ←
    packForRequest env workspaceId request db (searchOptions request.maxHops true)
  return baseResponse env workspaceId request backend kind built pack

def traverseForRequest (db : Database) : Except ServiceError ReasoningResponse :=
  reasonForRequest env workspaceId request backend "traverse".toList db

def explainForRequest (db : Database) : Except ServiceError ReasoningResponse :=
  reasonForRequest env workspaceId request backend "explain".toList db

/-- `answer_context_pack`, with the backend of `answer_for_request`: a request that asks for
wording and may have it gets the configured one where it has none of its own. -/
def answerContextPack (providerSynthesisEnabled : Bool) (built : BuildRequest)
    (pack : ContextPack) : ReasoningAnswerResponse :=
  let contextPackId := packId env workspaceId built pack
  let answer := Answer.answerContextPack env.words (answerPack pack)
    { enableProviderSynthesis := request.enableProviderSynthesis, providerSynthesisEnabled
      backend := backend.or env.configuredBackend }
  { reasoningId :=
      reasoningId "answer".toList contextPackId request.maxHops answer.providerMetadata.attempted
    contextPackId, workspaceId := idText workspaceId, query := built.query, scope := built.scope
    traversalSteps :=
      buildTraversalSteps env.pack.convert contextPackId built.scope pack request.maxHops
    answer }

/-- The pack of an answer is built without the hub graph. -/
def answerForRequest (providerSynthesisEnabled : Bool) (db : Database) :
    Except ServiceError ReasoningAnswerResponse := do
  let (built, pack) ← packForRequest env workspaceId request db (searchOptions 1 false)
  return answerContextPack env workspaceId request backend providerSynthesisEnabled built pack

end Endpoints

end MemoryLab.Reasoning

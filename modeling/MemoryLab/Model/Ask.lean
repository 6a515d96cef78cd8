import MemoryLab.Model.AnswerGate
import MemoryLab.Model.AskSeam
import MemoryLab.Model.HybridSearch

/-! # Asking

A question becomes an intent with a policy, the rows of the retrieval become evidence, and the
evidence becomes an answer, which a provider may word anew. Without the clock, the event of the
audit is what its writer is handed. -/

namespace MemoryLab.Ask

open Library Library.Rows Evidence AskSeam
open Answer (AnswerMode GateRequest LLMBackend ProviderGateResult WordClass gateProviderAnswer)
open GraphSnapshot (idText)
open Retrieval (Environment RetrievalRow)

/-! ## The request -/

structure RetrievalScope where
  allowedHubs : Option (List Text) := none
  contentTypes : Option (List Text) := none
deriving DecidableEq

/-- The validator of the scope. -/
def RetrievalScope.accepted (scope : RetrievalScope) : Bool :=
  scope.allowedHubs.all (· ≠ []) &&
    scope.contentTypes.all fun types =>
      types ≠ [] && types.all (· ∈ ContextPack.memoryTypeValues)

structure Request extends AskRequest where
  includeEvidence : Bool := true
  memoryType : Option Text := none
  memoryTypes : Option (List Text) := none
  retrievalScope : Option RetrievalScope := none
  enableProviderSynthesis : Bool := false
deriving DecidableEq

namespace Request

variable (request : Request)

/-- The stripped types without repetition, unless there is none. -/
def resolvedMemoryTypes : Option (List Text) :=
  let values := request.memoryType.toList ++ request.memoryTypes.getD []
  some (distinctOn id ((values.map Text.strip).filter (· ≠ []))) |>.filter (· ≠ [])

def scopedTypes : Option (List Text) := request.retrievalScope.bind (·.contentTypes)

/-- `validate_scope_vs_legacy_content_types`, on the sets of the values. -/
def typesAgree : Bool :=
  request.resolvedMemoryTypes.all fun legacy => request.scopedTypes.all fun types =>
    legacy.all (· ∈ types) && types.all (· ∈ legacy)

def resolvedContentTypes : Option (List Text) := request.scopedTypes.or request.resolvedMemoryTypes

def resolvedAllowedHubs : Option (List Text) := request.retrievalScope.bind (·.allowedHubs)

def accepted : Bool :=
  1 ≤ request.topK && request.topK ≤ 10 && request.retrievalScope.all (·.accepted) &&
    request.typesAgree

end Request

/-- A request that the validators have let through. -/
structure AskCall extends Request where
  valid : toRequest.accepted = true

/-! ## The intent -/

inductive Intent where
  | unknown
  | compare
  | summarize
  | find
  | synthesis
  | factual
deriving DecidableEq

def Intent.label : Intent → String
  | unknown => "unknown"
  | compare => "compare"
  | summarize => "summarize"
  | find => "find"
  | synthesis => "synthesis"
  | factual => "factual"

structure IntentDetection where
  intent : Intent
  confidence : ℚ
  matchedRule : String
deriving DecidableEq

def hasAny (text : Text) (terms : List String) : Bool :=
  terms.any fun term => decide (term.toList <:+: text)

/-- `vs\.?`, between word boundaries. -/
def versusPattern : Pattern :=
  .seq (.char 'v') (.seq (.char 's') (.alt (.char '.') (.many fun _ => false)))

def questionWords : List String := ["what", "who", "when", "where", "why", "how"]

section Detection

variable (words : WordClass)

/-- `^(what|who|when|where|why|how)\b`. -/
def startsAsQuestion (text : Text) : Bool :=
  questionWords.any fun word =>
    word.toList.isPrefixOf text && !(text.drop word.length).head?.any words.isWord

def detectIntent (query : Text) : IntentDetection :=
  let text := query.strip.lower
  if text = [] then ⟨.unknown, 0, "empty"⟩
  else if hasAny text ["compare", "difference", "differences", "tradeoff", "trade-off"] ||
      versusPattern.searchBounded words.isWord none text then
    ⟨.compare, 4 / 5, "compare_terms"⟩
  else if hasAny text ["summarize", "summary", "recap", "condense", "main points"] then
    ⟨.summarize, 41 / 50, "summarize_terms"⟩
  else if hasAny text ["find", "locate", "search for", "show me", "retrieve"] then
    ⟨.find, 39 / 50, "find_terms"⟩
  else if hasAny text
      ["theme", "themes", "pattern", "patterns", "synthesize", "implications"] then
    ⟨.synthesis, 18 / 25, "synthesis_terms"⟩
  else if startsAsQuestion words text || ['?'].isSuffixOf text then
    ⟨.factual, 7 / 10, "question_shape"⟩
  else if (Text.split text).length ≤ 2 then ⟨.find, 11 / 20, "short_query"⟩
  else ⟨.factual, 1 / 2, "default_factual"⟩

end Detection

/-- `min_evidence_items` of the policy for an intent. -/
def minEvidenceItems : Intent → ℕ
  | .unknown => 0
  | .compare | .synthesis => 2
  | .summarize | .find | .factual => 1

/-! ## Relevance -/

def askRelevanceStopwords : List Text :=
  ["about", "anything", "from", "have", "know", "known", "memory", "tell", "that", "the", "this",
    "what", "when", "where", "which", "with"].map String.toList

def meaningfulTokens (text : Text) : List Text :=
  (HubTermGraph.tokens text).filter (· ∉ askRelevanceStopwords)

def haystack (item : EvidenceItem) : Text :=
  [' '].intercalate ([item.snippet, item.title.getD []].filter (· ≠ []))

def hasMeaningfulOverlap (query : Text) (evidence : List EvidenceItem) : Bool :=
  let queryTokens := meaningfulTokens query
  queryTokens = [] || evidence.any fun item =>
    queryTokens.any (· ∈ meaningfulTokens (haystack item))

/-! ## The answer -/

structure Citation where
  evidenceId : Text
  rank : ℤ
  contentId : Text
  chunkId : Option Text
  score : Option ℚ
deriving DecidableEq

structure Claim where
  claim : Text
  evidenceIds : List Text
deriving DecidableEq

inductive AskStatus where
  | ok
  | insufficientEvidence
  | unsupportedIntent
deriving DecidableEq

structure AskResponse where
  answer : Text
  intent : Intent
  confidence : ℚ
  confidenceExplanation : Text
  citations : List Citation := []
  evidence : List EvidenceItem := []
  claims : List Claim := []
  degraded : Bool := false
  insufficientEvidence : Bool := false
  workspaceId : WorkspaceId
  status : AskStatus
  failureReason : Option String := none
  mode : AnswerMode := .deterministic

def askConfidenceFor (evidence : List EvidenceItem) : ℚ × String :=
  if evidence = [] then
    (0, "No workspace evidence was retrieved, so no factual confidence is assigned.")
  else if evidence.length = 1 then
    (9 / 20, "Conservative deterministic confidence based on one workspace-scoped evidence item.")
  else
    (min (7 / 10) (1 / 2 + min evidence.length 4 * (1 / 20)),
      "Conservative deterministic confidence based on multiple workspace-scoped evidence items.")

def citationsFromEvidence (evidence : List EvidenceItem) : List Citation :=
  evidence.map fun e => ⟨e.evidenceId, e.rank, e.contentId, e.chunkId, e.score⟩

def answerTextFromEvidence (evidence : List EvidenceItem) : Text :=
  "Based only on retrieved workspace evidence: ".toList ++
    [' '].intercalate (evidence.map fun e => '[' :: e.evidenceId ++ "] ".toList ++ e.snippet)

def claimsFromEvidence (evidence : List EvidenceItem) : List Claim :=
  evidence.map fun e => ⟨e.snippet, [e.evidenceId]⟩

def unsupportedIntentResponse (intent : Intent) (workspaceId : WorkspaceId) : AskResponse :=
  { answer := "I need a clearer question before I can search workspace evidence.".toList
    intent, confidence := 0
    confidenceExplanation := "The query was empty or unsupported.".toList
    degraded := true, insufficientEvidence := true, workspaceId
    status := .unsupportedIntent, failureReason := some "unsupported_or_empty_query" }

def insufficientEvidenceResponse (intent : Intent) (evidence : List EvidenceItem)
    (includeEvidence : Bool) (workspaceId : WorkspaceId) : AskResponse :=
  { answer := ("Insufficient workspace evidence was found to answer this question without " ++
      "introducing unsupported facts.").toList
    intent, confidence := 0
    confidenceExplanation := ("The retrieval step returned too little workspace-scoped " ++
      "evidence for this intent.").toList
    evidence := if includeEvidence then evidence else []
    degraded := true, insufficientEvidence := true, workspaceId
    status := .insufficientEvidence, failureReason := some "insufficient_workspace_evidence" }

def successfulAskResponse (intent : Intent) (evidence : List EvidenceItem)
    (includeEvidence : Bool) (workspaceId : WorkspaceId) : AskResponse :=
  { answer := answerTextFromEvidence evidence
    intent, confidence := (askConfidenceFor evidence).1
    confidenceExplanation := (askConfidenceFor evidence).2.toList
    citations := citationsFromEvidence evidence
    evidence := if includeEvidence then evidence else []
    claims := claimsFromEvidence evidence
    workspaceId, status := .ok }

def synthesizeAnswer (request : Request) (intent : Intent) (evidence : List EvidenceItem)
    (workspaceId : WorkspaceId) : AskResponse :=
  if intent = .unknown ∨ request.normalizedQuery = [] then
    unsupportedIntentResponse intent workspaceId
  else if evidence.length < max 1 (minEvidenceItems intent) then
    insufficientEvidenceResponse intent evidence request.includeEvidence workspaceId
  else successfulAskResponse intent evidence request.includeEvidence workspaceId

/-! ## The wording of a provider -/

def askProviderSystem : Text :=
  ("Public OpenCB ask wording only. Answer strictly from the supplied evidence snippets. " ++
    "Do not decide truth. Do not choose a winner. Do not resolve conflicts. No private prompts. " ++
    "Do not use the words: verdict, resolution, winner, canonical truth, truth decision.").toList

def currentStateLabel (item : EvidenceItem) : Text :=
  match item.isCurrent with
  | some true => " [status: current]".toList
  | some false => " [status: superseded]".toList
  | none => []

def statusRule : String :=
  "- Snippets marked [status: superseded] were replaced by a newer decision; " ++
    "prefer [status: current] snippets unless the question asks about history, " ++
    "in which case superseded snippets may be cited as historical context.\n"

def buildAskPrompt (query deterministicText : Text) (evidence : List EvidenceItem) : Text :=
  let topEvidence := evidence.take 5
  ("Reword the deterministic candidate answer using ONLY the evidence snippets below.\n" ++
    "Rules:\n" ++
    "- Cite evidence using ONLY the exact evidence_id values from ALLOWED IDS.\n" ++
    "- Copy each evidence_id character-for-character; do not shorten or alter them.\n" ++
    "- Do not introduce any evidence_id not listed in ALLOWED IDS.\n" ++
    "- Do not decide truth. Do not resolve conflicts.\n").toList ++
  (if topEvidence.any (·.isCurrent.isSome) then statusRule.toList else []) ++
  ("- Do not use these words: verdict, resolution, winner, canonical truth, " ++
    "truth decision.\n\nALLOWED IDS (copy exactly, one per line):\n").toList ++
  ['\n'].intercalate (topEvidence.map (·.evidenceId)) ++
  "\n\nQUESTION:\n".toList ++ query ++
  "\n\nDETERMINISTIC CANDIDATE:\n".toList ++ deterministicText ++
  "\n\nEVIDENCE SNIPPETS:\n".toList ++
  ['\n'].intercalate (topEvidence.map fun e =>
    '[' :: e.evidenceId ++ "] ".toList ++ e.snippet ++ currentStateLabel e)

section Provider

variable (words : WordClass) (providerSynthesisEnabled : Bool) (backend : Option LLMBackend)

def askGateRequest (response : AskResponse) (request : Request) (query : Text)
    (evidence : List EvidenceItem) : GateRequest :=
  { enableProviderSynthesis := request.enableProviderSynthesis, providerSynthesisEnabled
    deterministicText := response.answer
    allowedEvidenceIds := evidence.map (·.evidenceId)
    prompt := buildAskPrompt query response.answer evidence
    system := askProviderSystem, backend }

/-- The response with what the gate has decided. -/
def withGateResult (response : AskResponse) (result : ProviderGateResult) : AskResponse :=
  match result.mode with
  | .deterministic => response
  | .providerBacked =>
    { response with
      answer := result.text, mode := .providerBacked
      confidenceExplanation := response.confidenceExplanation ++
        " A configured provider (".toList ++ result.providerName.toList ++
        (") produced the wording; the answer remains bounded to retrieved workspace " ++
          "evidence.").toList }
  | .degraded =>
    { response with
      mode := .degraded, degraded := true, failureReason := result.failureReason
      confidenceExplanation := response.confidenceExplanation ++
        " Provider synthesis was requested but degraded (".toList ++
        (result.failureReason.getD "None").toList ++
        "); the deterministic evidence-grounded answer was retained.".toList }

def applyProviderAnswer (response : AskResponse) (request : Request) (query : Text)
    (evidence : List EvidenceItem) : AskResponse :=
  withGateResult response <| gateProviderAnswer words <|
    askGateRequest providerSynthesisEnabled backend response request query evidence

end Provider

/-! ## The audit -/

/-- What the audit reads of the stages of a search. -/
structure StageMetrics where
  pgvectorUsed : Bool
  pgvectorOutput : ℕ
  graphUsed : Bool
deriving DecidableEq

def stageMetrics (reranked : List RetrievalRow) : StageMetrics :=
  let pgvectorCount := reranked.countP fun row =>
    row.retrievalMode == some "pgvector_knn" || row.retrievalPath == .pgvectorKnn
  let graphCount := reranked.countP fun row =>
    row.graphBoosted || !row.graphMatch.isEmpty || 1 < row.sourceQueries.length
  { pgvectorUsed := 0 < pgvectorCount, pgvectorOutput := pgvectorCount, graphUsed := 0 < graphCount }

inductive AuditPath where
  | pgvector
  | deterministic
  | graphRescueNonzero
  | graphRescueZero
  | noContext
deriving DecidableEq

def deriveRetrievalPath (metrics : Option StageMetrics) (evidenceCount : ℕ) : AuditPath :=
  if evidenceCount = 0 then .noContext
  else
    match metrics with
    | none => .deterministic
    | some metrics =>
      if metrics.pgvectorUsed && 0 < metrics.pgvectorOutput then .pgvector
      else if metrics.graphUsed then
        if 0 < evidenceCount then .graphRescueNonzero else .graphRescueZero
      else .deterministic

structure AskEvent where
  workspaceId : WorkspaceId
  retrievalPath : AuditPath
  resultStatus : AskStatus
  resultMode : AnswerMode
  evidenceCount : ℕ
  degraded : Bool
  degradedReason : Option Text
  providerUsed : Bool
  requestedScope : Option RetrievalScope
deriving DecidableEq

/-! ## The service -/

/-- The adapters of the service: the retrieval with what it puts on a row beside the columns that
its search decides by, the reader of current states, conversions and the provider. -/
structure Service where
  env : Environment
  surface : RetrievalRow → EvidenceRow
  words : WordClass
  convert : ContextPackBuilder.Conversions
  reader : StateReader
  databaseUrl : Text
  providerSynthesisEnabled : Bool := false
  backend : Option LLMBackend := none

/-- The row as the evidence reads it; no path of the retrieval sets the keys that are empty. -/
def Service.evidenceRow (service : Service) (row : RetrievalRow) : EvidenceRow :=
  { service.surface row with
    contentId := some (idText row.contentId), id := some (idText row.contentId)
    chunkId := row.chunkId.map idText, text := some row.text, score := some row.score
    distance := row.distance, retrievalPath := some (some row.retrievalPath.label.toList)
    retrievalMode := row.retrievalMode.map String.toList
    embeddingStatus := row.embeddingStatus.map String.toList
    snippet := none, scoreKind := none, source := none, title := none, metadata := .none }

inductive AskError where
  | search (error : DbError)
  | pack (error : ContextPackBuilder.BuildError)

structure AskOutcome where
  response : AskResponse
  event : Option AskEvent

/-- What `record_ask_event` is called with. The response has no attribute `degraded_reason`. -/
def askEvent (request : Request) (workspaceId : WorkspaceId) (results : List RetrievalRow)
    (evidence : List EvidenceItem) (response : AskResponse) : AskEvent :=
  { workspaceId, retrievalPath := deriveRetrievalPath (stageMetrics results) evidence.length
    resultStatus := response.status, resultMode := response.mode
    evidenceCount := evidence.length, degraded := response.degraded, degradedReason := none
    providerUsed := response.mode == .providerBacked, requestedScope := request.retrievalScope }

namespace Service

variable (service : Service) (db : Database) (request : Request) (workspaceId : WorkspaceId)

def searchRows : Except DbError (List RetrievalRow) :=
  Retrieval.search service.env db
    ⟨some workspaceId, request.resolvedContentTypes, request.resolvedAllowedHubs⟩
    request.normalizedQuery { maxHops := 1, minConfidence := 0, graphBoost := 1 / 10 }

def policyFor (query : Text) : ReasoningPolicy :=
  policyForIntent (detectIntent service.words query).intent.label.toList request.topK

/-- The evidence of the results, unless it shares no token with the question. -/
def relevantEvidence (query : Text) (results : List RetrievalRow) : List EvidenceItem :=
  let evidence := askEvidence service.reader service.databaseUrl query
    (service.policyFor request query) (results.map service.evidenceRow)
  if hasMeaningfulOverlap query evidence then evidence else []

/-- The response to evidence that has come through the pack. -/
def respond (query : Text) (evidence : List EvidenceItem) : AskResponse :=
  let response := synthesizeAnswer request (detectIntent service.words query).intent evidence
    workspaceId
  if response.status = .ok then
    applyProviderAnswer service.words service.providerSynthesisEnabled service.backend response
      request query evidence
  else response

def outcome (results : List RetrievalRow) (evidence : List EvidenceItem) : AskOutcome :=
  let response := service.respond request workspaceId request.normalizedQuery evidence
  { response
    event := if service.databaseUrl = [] then none
      else some (askEvent request workspaceId results evidence response) }

def execute : Except AskError AskOutcome := do
  let query := request.normalizedQuery
  let results ← (service.searchRows db request workspaceId).mapError .search
  let evidence ← (throughPack service.convert query
    (service.relevantEvidence request query results)
    (service.policyFor request query).topK).mapError .pack
  return service.outcome request workspaceId results evidence

end Service

end MemoryLab.Ask

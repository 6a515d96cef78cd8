import MemoryLab.Library.Regex
import MemoryLab.Model.ContextPack
import MemoryLab.Model.ConflictDetector
import MemoryLab.Model.GraphSnapshot
import MemoryLab.Model.Retrieval

/-! # The provider-answer gate and the answer path above it -/

namespace MemoryLab.Answer

open Library Library.Rows
open GraphSnapshot (idText)
open TierRouter (digits)
open Retrieval (RetrievalPath)

/-! ## The identifiers of evidence -/

/-- The part of an evidence identifier after the one of the content. -/
inductive EvidenceTail where
  | chunk (chunkId : ChunkId)
  | path (retrievalPath : RetrievalPath) (rank : ℕ)
  | role (role : Conflicts.EvidenceRole)
  | content
deriving DecidableEq

def EvidenceTail.text : EvidenceTail → Text
  | chunk chunkId => idText chunkId
  | path retrievalPath rank => retrievalPath.label.toList ++ '_' :: digits rank
  | .role evidenceRole => evidenceRole.label.toList
  | content => "content".toList

/-- The identifiers that retrieval, conflict detection and the builder mint, and those of the
current-state rows. -/
inductive MintedId where
  | evidence (contentId : ContentId) (tail : EvidenceTail)
  | currentState (evidenceId : ContextPack.EvidenceId)
deriving DecidableEq

def currentStateText : ContextPack.EvidenceId → Text
  | .ofChunk contentId chunkId => "cs_".toList ++ idText contentId ++ '_' :: idText chunkId
  | .ofRank contentId rank => "cs_".toList ++ idText contentId ++ '_' :: digits rank

def MintedId.text : MintedId → Text
  | evidence contentId tail => "ev_".toList ++ idText contentId ++ '_' :: tail.text
  | currentState evidenceId => currentStateText evidenceId

/-! ## Providers -/

inductive FailureCode where
  | notConfigured
  | missingApiKey
  | providerImportMissing
  | providerHttpError
  | rateLimited
  | timeout
  | invalidJson
  | schemaValidationFailed
  | circuitOpen
  | dimensionMismatch
  | partialBatchFailure
  | unknownError
deriving DecidableEq

def FailureCode.value : FailureCode → String
  | notConfigured => "not_configured"
  | missingApiKey => "missing_api_key"
  | providerImportMissing => "provider_import_missing"
  | providerHttpError => "provider_http_error"
  | rateLimited => "rate_limited"
  | timeout => "timeout"
  | invalidJson => "invalid_json"
  | schemaValidationFailed => "schema_validation_failed"
  | circuitOpen => "circuit_open"
  | dimensionMismatch => "dimension_mismatch"
  | partialBatchFailure => "partial_batch_failure"
  | unknownError => "unknown_error"

structure LLMRequest where
  prompt : Text
  system : Text
  maxTokens : ℕ := 512
  temperature : ℚ := 0
deriving DecidableEq

structure LLMResponse where
  text : Text := []
  model : Text := []
  degraded : Bool := false
  failureReason : Option FailureCode := none
deriving DecidableEq

/-- An adapter that never raises; what it answers to a request is its own affair. -/
structure LLMBackend where
  providerName : String
  isConfigured : Bool
  summarize : LLMRequest → LLMResponse

def noopLLMBackend : LLMBackend where
  providerName := "none"
  isConfigured := false
  summarize _ := { degraded := true, failureReason := some .notConfigured }

/-! ## The gate -/

inductive AnswerMode where
  | deterministic
  | providerBacked
  | degraded
deriving DecidableEq

structure ProviderGateResult where
  text : Text
  mode : AnswerMode
  providerName : String
  attempted : Bool
  configured : Bool
  degraded : Bool
  failureReason : Option String := none
  model : Option Text := none
deriving DecidableEq

def forbiddenProviderTerms : List Text :=
  ["verdict", "truth decision", "resolution", "winner", "canonical truth"].map String.toList

/-- `[A-Za-z0-9_-]`. -/
def isIdChar (c : Char) : Bool := c.isAlphanum || c == '_' || c == '-'

/-- The word characters of the pattern engine: letters and digits of any script and the
underscore. Which characters beyond ASCII are letters is the Unicode database's affair. -/
structure WordClass where
  isWord : Char → Bool
  ascii : ∀ c : Char, c.toNat < 128 → isWord c = (c.isAlphanum || c == '_')

/-- `ev_[A-Za-z0-9_-]+`, which `EVIDENCE_ID_PATTERN` wraps in word boundaries. -/
def evidenceIdPattern : Pattern :=
  .seq (.char 'e') (.seq (.char 'v') (.seq (.char '_') (.plus isIdChar)))

def providerTextAllowed (text : Text) : Bool :=
  text.strip ≠ [] && !forbiddenProviderTerms.any fun term => decide (term <:+: text.lower)

section Gate

variable (words : WordClass)

def citedEvidenceIds (text : Text) : List Text :=
  evidenceIdPattern.findallBounded words.isWord none 0 text

def providerCitationsAllowed (text : Text) (allowedEvidenceIds : List Text) : Bool :=
  (citedEvidenceIds words text).all (· ∈ allowedEvidenceIds)

structure GateRequest where
  enableProviderSynthesis : Bool
  providerSynthesisEnabled : Bool
  deterministicText : Text
  allowedEvidenceIds : List Text
  prompt : Text
  system : Text
  backend : Option LLMBackend := none
  maxTokens : ℕ := 400

namespace GateRequest

def llm (request : GateRequest) : LLMBackend := request.backend.getD noopLLMBackend

def response (request : GateRequest) : LLMResponse :=
  request.llm.summarize
    { prompt := request.prompt, system := request.system, maxTokens := request.maxTokens }

/-- A result that keeps the deterministic text after the backend was asked. -/
def fallBack (request : GateRequest) (reason : String) : ProviderGateResult :=
  { text := request.deterministicText, mode := .degraded
    providerName := request.llm.providerName
    attempted := true, configured := request.llm.isConfigured, degraded := true
    failureReason := some reason, model := some request.response.model |>.filter (· ≠ []) }

end GateRequest

def failureReason (response : LLMResponse) : String :=
  (response.failureReason.map FailureCode.value).getD "provider_degraded"

def gateProviderAnswer (request : GateRequest) : ProviderGateResult :=
  if !request.enableProviderSynthesis then
    { text := request.deterministicText, mode := .deterministic, providerName := "none"
      attempted := false, configured := false, degraded := false }
  else if !request.providerSynthesisEnabled then
    { text := request.deterministicText, mode := .degraded, providerName := "none"
      attempted := false, configured := false, degraded := true
      failureReason := some "provider_disabled" }
  else if request.response.degraded then request.fallBack (failureReason request.response)
  else
    let text := request.response.text.strip
    if !providerTextAllowed text ||
        !providerCitationsAllowed words text request.allowedEvidenceIds then
      request.fallBack "provider_output_rejected"
    else
      { text, mode := .providerBacked, providerName := request.llm.providerName
        attempted := true, configured := request.llm.isConfigured, degraded := false
        model := some request.response.model |>.filter (· ≠ []) }

end Gate

/-! ## The answer path -/

/-- What the answer path reads of an evidence reference. -/
structure EvidenceRef where
  evidenceId : Text
  contentId : Text
  rank : Option ℤ := none
  snippet : Text := []
  role : Option String := none
  isCurrent : Option Bool := none
  csSupersedesContentId : Option Text := none
deriving DecidableEq

structure ContextPack where
  supportingEvidence : List EvidenceRef := []
  currentStateSignals : List EvidenceRef := []
  conflictCandidateCount : ℕ := 0
  counterfindings : List EvidenceRef := []
  staleOrSupersededItems : List EvidenceRef := []
deriving DecidableEq

namespace EvidenceRef

/-- `_evidence_id`. -/
def id (ref : EvidenceRef) : Text := ref.evidenceId.strip

def key (ref : EvidenceRef) : Text := if ref.id ≠ [] then ref.id else ref.contentId.strip

/-- `int(rank or 999999)`. -/
def sortRank (ref : EvidenceRef) : ℤ := (ref.rank.filter (· ≠ 0)).getD 999999

def refOrder (a b : EvidenceRef) : Bool :=
  orderBy (fun a b => decide (a ≤ b)) a.sortRank b.sortRank <|
  orderBy Text.le a.contentId b.contentId (Text.le a.evidenceId b.evidenceId)

/-- `_snippet`: the words with single spaces, cut to 240 characters. -/
def shortSnippet (ref : EvidenceRef) : Text :=
  let text := [' '].intercalate (Text.split ref.snippet.strip)
  if 240 < text.length then (text.take 237).rdropWhile Text.isSpace ++ "...".toList else text

def usable (ref : EvidenceRef) : Bool := ref.shortSnippet ≠ []

def cited (ref : EvidenceRef) : Text :=
  if ref.id = [] then ref.shortSnippet else '[' :: ref.id ++ "] ".toList ++ ref.shortSnippet

def stale (ref : EvidenceRef) : Bool :=
  ref.isCurrent == some false || (ref.csSupersedesContentId.getD []) ≠ []

end EvidenceRef

def collectEvidenceRefs (pack : ContextPack) : List EvidenceRef :=
  (distinctOn EvidenceRef.key
    ((pack.supportingEvidence ++ pack.currentStateSignals ++ pack.counterfindings ++
      pack.staleOrSupersededItems).filter (·.key ≠ []))).insertionSort fun a b => a.refOrder b

def buildConflictWarnings (pack : ContextPack) : List Text :=
  let warning (count : ℕ) (text : String) : List Text :=
    if count = 0 then [] else [digits count ++ text.toList]
  warning pack.conflictCandidateCount
      " unresolved conflict candidate(s) surfaced; human review required." ++
    warning pack.counterfindings.length
      " counterfinding evidence item(s) preserved for human review without conflict resolution." ++
    warning pack.staleOrSupersededItems.length
      " stale/superseded signal(s) surfaced; stale does not mean false."

/-- The candidate and, where there is no usable evidence, the reason for degrading. -/
def buildAnswerCandidate (evidenceRefs : List EvidenceRef) (conflictWarnings : List Text) :
    Text × Option String :=
  if !evidenceRefs.any (·.usable) then
    (("Insufficient public evidence to produce an evidence-grounded answer candidate for this " ++
      "query or scope.").toList, some "insufficient_evidence")
  else
    let withRole (roles : List (Option String)) :=
      evidenceRefs.filter fun ref => ref.role ∈ roles && ref.usable
    let support := withRole [some "support", none]
    let current := withRole [some "current_state"]
    let counter := withRole [some "counterfinding", some "contradicting"]
    let stale := evidenceRefs.filter fun ref => ref.stale && ref.usable
    let selected := ([support, current, counter, stale].find? (· ≠ [])).getD []
    let parts :=
      ["Based on the public evidence refs in this context pack, the answer candidate is:".toList,
        [' '].intercalate ((selected.take 3).map (·.cited))] ++
      (if current = [] then [] else
        [("Current-state signals are included as evidence signals, not as automatic proof that " ++
          "other evidence is false.").toList]) ++
      (if counter = [] ∧ stale = [] ∧ conflictWarnings = [] then [] else
        [("Conflict, counterfinding, or stale signals require human review and are not resolved " ++
          "by this endpoint.").toList]) ++
      ["This candidate is bounded by the supplied evidence refs and limitations.".toList]
    ([' '].intercalate parts, none)

/-- The identifiers of the refs that have one. -/
def citationIds (evidenceRefs : List EvidenceRef) : List Text :=
  (evidenceRefs.map (·.id)).filter (· ≠ [])

/-- The text of a list of warnings, none of which holds a quote or a backslash. -/
def warningsText (conflictWarnings : List Text) : Text :=
  '[' :: ", ".toList.intercalate (conflictWarnings.map fun w => '\'' :: w ++ ['\'']) ++ [']']

def answerPrompt (deterministicCandidate : Text) (evidenceRefs : List EvidenceRef)
    (conflictWarnings : List Text) : Text :=
  ("Reword the deterministic candidate answer using ONLY the evidence snippets below.\n" ++
    "Rules:\n" ++
    "- Cite evidence using ONLY the exact evidence_id values from ALLOWED IDS.\n" ++
    "- Copy each evidence_id character-for-character; do not shorten or alter them.\n" ++
    "- Do not introduce any evidence_id not listed in ALLOWED IDS.\n" ++
    "- Do not decide truth. Do not resolve conflicts.\n" ++
    "- Do not use these words: verdict, resolution, winner, canonical truth, truth decision.\n\n" ++
    "ALLOWED IDS (copy exactly, one per line):\n").toList ++
  ['\n'].intercalate ((citationIds evidenceRefs).take 5) ++
  "\n\nDETERMINISTIC CANDIDATE:\n".toList ++ deterministicCandidate ++
  "\n\nEVIDENCE SNIPPETS:\n".toList ++
  ['\n'].intercalate (((evidenceRefs.take 5).filter (·.id ≠ [])).map fun ref =>
    '[' :: ref.id ++ "] ".toList ++ ref.shortSnippet) ++
  "\n\nWARNINGS:\n".toList ++ warningsText conflictWarnings

structure ReasoningProviderMetadata where
  provider : String := "none"
  model : Option Text := none
  attempted : Bool := false
  configured : Bool := false
  degraded : Bool := false
  failureReason : Option String := none
deriving DecidableEq

/-- What the deployment and the request set for provider wording. -/
structure ProviderOptions where
  enableProviderSynthesis : Bool := false
  providerSynthesisEnabled : Bool := true
  backend : Option LLMBackend := none

def answerGateRequest (options : ProviderOptions) (deterministicCandidate : Text)
    (evidenceRefs : List EvidenceRef) (conflictWarnings : List Text) : GateRequest :=
  { enableProviderSynthesis := options.enableProviderSynthesis
    providerSynthesisEnabled := options.providerSynthesisEnabled
    deterministicText := deterministicCandidate
    allowedEvidenceIds := citationIds evidenceRefs
    prompt := answerPrompt deterministicCandidate evidenceRefs conflictWarnings
    system :=
      "Public B14 answer-candidate wording only. No private prompts. No conflict decision.".toList
    backend := options.backend
    maxTokens := 400 }

structure AnswerResponse where
  mode : AnswerMode
  answerCandidate : Text
  evidenceRefs : List EvidenceRef
  conflictWarnings : List Text
  providerMetadata : ReasoningProviderMetadata
  degradedReason : Option String
deriving DecidableEq

/-- `answer_context_pack`, with the provider call of `provider_synthesize_answer_candidate`. -/
def answerContextPack (words : WordClass) (pack : ContextPack) (options : ProviderOptions) :
    AnswerResponse :=
  let evidenceRefs := collectEvidenceRefs pack
  let conflictWarnings := buildConflictWarnings pack
  match buildAnswerCandidate evidenceRefs conflictWarnings with
  | (candidate, some reason) =>
    { mode := .degraded, answerCandidate := candidate, evidenceRefs, conflictWarnings
      providerMetadata := {}, degradedReason := some reason }
  | (candidate, none) =>
    let result := gateProviderAnswer words
      (answerGateRequest options candidate evidenceRefs conflictWarnings)
    { mode := result.mode, answerCandidate := result.text, evidenceRefs, conflictWarnings
      providerMetadata :=
        { provider := result.providerName, attempted := result.attempted
          configured := result.configured, degraded := result.degraded
          failureReason := result.failureReason, model := result.model }
      degradedReason := if result.mode = .degraded then result.failureReason else none }

end MemoryLab.Answer

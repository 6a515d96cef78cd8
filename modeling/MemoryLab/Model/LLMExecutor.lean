import MemoryLab.Library.PyText
import Mathlib.Data.Rat.Defs

/-! # Planning and executing a request to a language model

A backend is called only through its two completion methods, and every call is recorded. -/

namespace MemoryLab.LLMExecutor

open Library

/-- The mappings of a request and of a response are of the type `M`. -/
structure LLMExecutionRequest (M : Type) where
  prompt : Text
  system : Option Text := none
  expectedSchema : Option M := none
  maxTokens : ℤ := 512
  temperature : ℚ := 0
  liveModeEnabled : Bool := false
  allowFakeBackend : Bool := false
  backendName : Text := "none".toList
  circuitState : Text := "unknown".toList
deriving DecidableEq

structure BackendRequest (M : Type) where
  prompt : Text
  system : Option Text
  maxTokens : ℤ
  temperature : ℚ
  timeoutS : ℚ
  expectedSchema : Option M
deriving DecidableEq

structure BackendResponse (M : Type) where
  text : Text := []
  jsonData : Option M := none
  provider : Option Text := none
  model : Option Text := none
  degraded : Bool := false
  failureReason : Option Text := none
deriving DecidableEq

/-- A supplied backend: what its attributes give, and the methods that it has. A method may
raise an exception of the type `E`. -/
structure Backend (M E : Type) where
  providerName : Option Text
  isConfigured : Bool
  completeText : Option (BackendRequest M → Except E (BackendResponse M))
  completeJson : Option (BackendRequest M → Except E (BackendResponse M))

inductive Method where
  | completeText
  | completeJson
deriving DecidableEq

structure Call (M : Type) where
  method : Method
  request : BackendRequest M
deriving DecidableEq

structure ProviderCapabilityStatus where
  provider : Text
  configured : Bool
  supportsJson : Bool
  supportsText : Bool
  liveModeEnabled : Bool
  failureReason : Option String
deriving DecidableEq

structure LLMExecutionPlan where
  shouldExecute : Bool
  backendName : Text
  mode : String
  blockedReason : Option String
  rationale : String
  limitations : List String
  usesLiveProvider : Bool
  requiresProviderConfig : Bool
  circuitState : Text
deriving DecidableEq

structure LLMExecutionResult (M : Type) where
  status : String
  text : Text
  jsonData : Option M
  provider : Text
  model : Option Text
  degraded : Bool
  failureReason : Option Text
  plan : LLMExecutionPlan
  validationFlags : List Text
  mode : String
deriving DecidableEq

def publicSafeNonClaims : List String :=
  ["no_live_provider_call_by_default", "no_provider_sdk_resolution",
    "no_private_context_brain_access", "no_runtime_circuit_mutation",
    "no_retry_or_fallback_orchestration", "no_semantic_truth_judging"]

def allowedCircuitStates : List Text :=
  ["closed".toList, "open".toList, "half_open".toList, "unknown".toList]

def fakeBackendNames : List Text := ["fake".toList, "test_fake".toList]

def noopBackendNames : List Text := ["none".toList, "noop".toList, "no_provider".toList]

/-- A state that the executor does not know counts as unknown. -/
def normalizeCircuitState (value : Text) : Text :=
  let state := (Text.lower (Text.strip (if value = [] then "unknown".toList else value))).map
    fun c => if c = '-' then '_' else c
  if state ∈ allowedCircuitStates then state else "unknown".toList

variable {M E : Type}

def backendProviderName (backend : Option (Backend M E)) : Option Text :=
  backend.bind (·.providerName)

def backendConfigured (backend : Option (Backend M E)) : Bool :=
  match backend with
  | none => false
  | some backend => backend.isConfigured

/-- Python's `or` on texts. -/
def orElse (value : Option Text) (other : Text) : Text :=
  match value with
  | none => other
  | some value => if value = [] then other else value

def backendName (request : LLMExecutionRequest M) (backend : Option (Backend M E)) : Text :=
  orElse (backendProviderName backend) (orElse (some request.backendName) "none".toList)

def capabilityStatus (request : LLMExecutionRequest M) (backend : Option (Backend M E)) :
    ProviderCapabilityStatus :=
  let provider := backendName request backend
  let configured := backendConfigured backend
  let supplied := backend.isSome
  if !request.liveModeEnabled then
    ⟨provider, configured, supplied, supplied, false, some "live_mode_disabled"⟩
  else if provider ∈ noopBackendNames ∨ !configured then
    ⟨provider, configured, supplied, supplied, true, some "provider_not_configured"⟩
  else if provider ∈ fakeBackendNames ∧ request.allowFakeBackend then
    ⟨provider, configured, true, true, true, none⟩
  else
    ⟨provider, configured, false, false, true, some "provider_not_allowed_public_safe_scope"⟩

def planLlmExecution (request : LLMExecutionRequest M) (backend : Option (Backend M E)) :
    LLMExecutionPlan :=
  let circuitState := normalizeCircuitState request.circuitState
  let backendName := backendName request backend
  if circuitState = "open".toList then
    { shouldExecute := false
      backendName
      mode := "blocked_circuit_open"
      blockedReason := some "circuit_open"
      rationale := "Caller-supplied circuit state is open; public-safe execution is blocked before backend use."
      limitations := publicSafeNonClaims ++ ["caller_supplied_circuit_state_only"]
      usesLiveProvider := false
      requiresProviderConfig := false
      circuitState }
  else if !request.liveModeEnabled then
    { shouldExecute := false
      backendName
      mode := "live_mode_disabled"
      blockedReason := some "live_mode_disabled"
      rationale := "Live mode is disabled by default; no backend call is attempted."
      limitations := publicSafeNonClaims
      usesLiveProvider := false
      requiresProviderConfig := false
      circuitState }
  else
    let limitations := publicSafeNonClaims ++
      (if circuitState = "half_open".toList then ["cautious_half_open_plan"] else [])
    match (capabilityStatus request backend).failureReason with
    | some failureReason =>
      { shouldExecute := false
        backendName
        mode := "degraded"
        blockedReason := some failureReason
        rationale := "Backend is unavailable or outside the public-safe fake/noop execution boundary."
        limitations
        usesLiveProvider := false
        requiresProviderConfig := true
        circuitState }
    | none =>
      { shouldExecute := true
        backendName
        mode := "fake_or_noop_only"
        blockedReason := none
        rationale := "Caller explicitly enabled a supplied fake backend inside public-safe test scope."
        limitations
        usesLiveProvider := false
        requiresProviderConfig := true
        circuitState }

def blockedResult (plan : LLMExecutionPlan) : LLMExecutionResult M :=
  let reason := plan.blockedReason.getD "blocked"
  { status := if reason = "circuit_open" then "blocked" else "degraded"
    text := []
    jsonData := none
    provider := plan.backendName
    model := none
    degraded := true
    failureReason := some reason.toList
    plan
    validationFlags := [reason.toList]
    mode := plan.mode }

def completedResult (plan : LLMExecutionPlan) (response : BackendResponse M) :
    LLMExecutionResult M :=
  let failed := response.failureReason.any (· ≠ [])
  let degraded := response.degraded || failed
  { status := if degraded then "degraded" else "ok"
    text := response.text
    jsonData := response.jsonData
    provider := orElse response.provider plan.backendName
    model := response.model
    degraded
    failureReason := response.failureReason
    plan
    validationFlags := [orElse response.failureReason "complete".toList]
    mode := plan.mode }

/-- What executing gives, and the calls that were made. -/
structure Execution (M E : Type) where
  result : Except E (LLMExecutionResult M)
  calls : List (Call M)

def executeLlmRequest (request : LLMExecutionRequest M) (backend : Option (Backend M E)) :
    Execution M E :=
  let plan := planLlmExecution request backend
  if !plan.shouldExecute then ⟨.ok (blockedResult plan), []⟩
  else
    let backendRequest : BackendRequest M :=
      ⟨request.prompt, request.system, request.maxTokens, request.temperature, 30,
        request.expectedSchema⟩
    let name : Method := if request.expectedSchema.isSome then .completeJson else .completeText
    let method := backend.bind fun backend =>
      match name with
      | .completeJson => backend.completeJson
      | .completeText => backend.completeText
    match method with
    | none =>
      ⟨.ok (blockedResult { plan with
        shouldExecute := false
        mode := "degraded"
        blockedReason := some "backend_method_missing"
        rationale := "Supplied backend does not expose the requested fake/noop-compatible method." }),
        []⟩
    | some complete =>
      ⟨(complete backendRequest).map (completedResult plan), [⟨name, backendRequest⟩]⟩

end MemoryLab.LLMExecutor

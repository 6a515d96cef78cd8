import MemoryLab.Model.LLMExecutor
import MemoryLab.Verification.Circuit.Timeline

/-! # The breaker and the executor -/

namespace MemoryLab.LLMExecutor

open Library
open CircuitBreaker

variable {M E : Type} {request : LLMExecutionRequest M} {backend : Option (Backend M E)}

/-- The executor's gates beside the circuit let the backend be called. -/
def FakeAllowed (request : LLMExecutionRequest M) (backend : Option (Backend M E)) : Prop :=
  request.liveModeEnabled = true ∧ backendConfigured backend = true ∧
    backendName request backend ∈ fakeBackendNames ∧ request.allowFakeBackend = true

theorem notMem_noop_of_mem_fake {name : Text} (h : name ∈ fakeBackendNames) :
    name ∉ noopBackendNames := by
  simp only [fakeBackendNames, List.mem_cons, List.not_mem_nil, or_false] at h
  rcases h with rfl | rfl <;> decide

theorem failureReason_eq_none :
    (capabilityStatus request backend).failureReason = none ↔ FakeAllowed request backend := by
  simp only [capabilityStatus, FakeAllowed]
  cases request.liveModeEnabled with
  | false => simp
  | true =>
      by_cases hfake : backendName request backend ∈ fakeBackendNames
      · have hnoop := notMem_noop_of_mem_fake hfake
        cases backendConfigured backend <;> cases request.allowFakeBackend <;> simp [hfake, hnoop]
      · by_cases hnoop : backendName request backend ∈ noopBackendNames <;>
          cases backendConfigured backend <;> simp [hfake, hnoop]

/-- A plan executes when no gate is against it. -/
theorem shouldExecute_iff :
    (planLlmExecution request backend).shouldExecute = true ↔
      normalizeCircuitState request.circuitState ≠ "open".toList ∧ FakeAllowed request backend := by
  rw [← failureReason_eq_none, planLlmExecution]
  generalize normalizeCircuitState request.circuitState = circuitState
  by_cases hopen : circuitState = "open".toList
  · rw [if_pos hopen]
    exact iff_of_false Bool.false_ne_true fun h => h.1 hopen
  · rw [if_neg hopen]
    cases hlive : request.liveModeEnabled with
    | false => simp [capabilityStatus, hlive]
    | true =>
        rw [if_neg (by simp)]
        cases (capabilityStatus request backend).failureReason with
        | none => exact iff_of_true rfl ⟨hopen, rfl⟩
        | some reason => exact iff_of_false Bool.false_ne_true fun h => by cases h.2

theorem calls_of_not_shouldExecute (h : (planLlmExecution request backend).shouldExecute = false) :
    (executeLlmRequest request backend).calls = [] := by
  simp [executeLlmRequest, h]

theorem normalizeCircuitState_value (state : State) :
    normalizeCircuitState state.value.toList = "open".toList ↔ state = .opened := by
  cases state <;> decide +kernel

theorem allowRequestRecommendation_eq_false {config : CircuitBreakerConfig} {k : Tracker} {t : ℚ} :
    (k.snapshot config t).allowRequestRecommendation = false ↔
      (k.snapshot config t).state = .opened ∨ (k.snapshot config t).state = .unavailable := by
  simp only [Tracker.snapshot, retryAfter]
  cases k.settled config t <;> simp

/-- A snapshot that forbids requests keeps the executor from the backend. -/
def Stops (snapshot : CircuitBreakerStateSnapshot) (request : LLMExecutionRequest M)
    (backend : Option (Backend M E)) : Prop :=
  snapshot.allowRequestRecommendation = false →
    (planLlmExecution request backend).shouldExecute = false ∧
      (executeLlmRequest request backend).calls = []

/-- The executor stops for an open breaker, and for an unavailable one only where another of its
gates is closed. -/
theorem stops_iff {breaker : ProviderNeutralCircuitBreaker} {events : List CircuitBreakerEvent}
    {t : ℚ} {initialState : Text} {snapshot : CircuitBreakerStateSnapshot}
    (hsnapshot : evaluateCircuitState breaker events t initialState = .ok snapshot)
    (hrequest : request.circuitState = snapshot.state.value.toList) :
    Stops snapshot request backend ↔
      (snapshot.state = .unavailable → ¬ FakeAllowed request backend) := by
  have hallow : snapshot.allowRequestRecommendation = false ↔
      snapshot.state = .opened ∨ snapshot.state = .unavailable := by
    obtain ⟨k, rfl⟩ := exists_snapshot hsnapshot
    exact allowRequestRecommendation_eq_false
  have hopen : normalizeCircuitState request.circuitState = "open".toList ↔
      snapshot.state = .opened := by
    rw [hrequest, normalizeCircuitState_value]
  constructor
  · intro h hunavailable hfake
    have hexecute : (planLlmExecution request backend).shouldExecute = true :=
      shouldExecute_iff.mpr ⟨fun hstate => by simp [hopen.mp hstate] at hunavailable, hfake⟩
    have hstopped := (h (hallow.mpr (.inr hunavailable))).1
    rw [hexecute] at hstopped
    cases hstopped
  · intro h hforbidden
    have hplan : (planLlmExecution request backend).shouldExecute = false := by
      rw [Bool.eq_false_iff]
      intro hexecute
      obtain ⟨hnotopen, hfake⟩ := shouldExecute_iff.mp hexecute
      rcases hallow.mp hforbidden with hstate | hstate
      · exact hnotopen (hopen.mpr hstate)
      · exact h hstate hfake
    exact ⟨hplan, calls_of_not_shouldExecute hplan⟩

/-- A backend of the kind that the executor allows. -/
def fakeBackend : Backend Unit Unit where
  providerName := some "fake".toList
  isConfigured := true
  completeText := some fun _ => .ok {}
  completeJson := none

def fakeRequest (circuitState : Text) : LLMExecutionRequest Unit where
  prompt := "p".toList
  liveModeEnabled := true
  allowFakeBackend := true
  circuitState

theorem stops_iff_opened :
    Stops ⟨.opened, false, some 300, 300, "none supplied".toList⟩ (fakeRequest "open".toList)
      (some fakeBackend) := by
  have hsnapshot : evaluateCircuitState defaultBreaker [failure 1, failure 2, failure 3] 3 =
      .ok ⟨.opened, false, some 300, 300, "none supplied".toList⟩ := by decide +kernel
  exact (stops_iff hsnapshot rfl).mpr nofun

/-- The breaker forbids requests after an outage, and the backend is called nevertheless. -/
theorem not_stops_outage :
    ¬ ∀ (breaker : ProviderNeutralCircuitBreaker) (events : List CircuitBreakerEvent) (t : ℚ)
      (snapshot : CircuitBreakerStateSnapshot) (request : LLMExecutionRequest Unit)
      (backend : Option (Backend Unit Unit)),
      evaluateCircuitState breaker events t = .ok snapshot →
        request.circuitState = snapshot.state.value.toList → Stops snapshot request backend := by
  intro h
  have hsnapshot : evaluateCircuitState defaultBreaker [outage 0] 0 =
      .ok ⟨.unavailable, false, some 300, 300, "none supplied".toList⟩ := by decide +kernel
  have hstops := h defaultBreaker [outage 0] 0 _ (fakeRequest "unavailable".toList)
    (some fakeBackend) hsnapshot rfl rfl
  have hcalls :
      (executeLlmRequest (fakeRequest "unavailable".toList) (some fakeBackend)).calls ≠ [] := by
    decide +kernel
  exact hcalls hstops.2

end MemoryLab.LLMExecutor

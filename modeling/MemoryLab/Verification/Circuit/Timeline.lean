import MemoryLab.Library.Runs
import MemoryLab.Model.CircuitBreaker

/-! # The loop over a growing history -/

namespace MemoryLab.CircuitBreaker

open Library
open Library.Rows
open Library.Runs

variable {config : CircuitBreakerConfig} {breaker : ProviderNeutralCircuitBreaker}
  {events more ordered other : List CircuitBreakerEvent} {event : CircuitBreakerEvent}
  {k next : Tracker} {t now : ℚ}

/-- What the loop has computed from a history that starts closed. -/
def trackerAt (breaker : ProviderNeutralCircuitBreaker) (events : List CircuitBreakerEvent)
    (now : ℚ) : Except ValueError Tracker :=
  ((sortOn (·.timestamp) events).filter fun event => event.timestamp ≤ now).foldlM
    (observe breaker.config (sortOn (·.timestamp) events)) { state := .closed }

theorem evaluateCircuitState_eq (breaker : ProviderNeutralCircuitBreaker)
    (events : List CircuitBreakerEvent) (now : ℚ) :
    evaluateCircuitState breaker events now =
      (trackerAt breaker events now).map fun k => k.snapshot breaker.config now := by
  have hstate : normalizeState "closed".toList = .ok .closed := by decide +kernel
  rw [evaluateCircuitState, hstate]
  cases htracker : trackerAt breaker events now <;> rw [trackerAt] at htracker <;>
    simp [bind, Except.bind, pure, Except.pure, Except.map, htracker]

theorem evaluateCircuitState_ok {snapshot : CircuitBreakerStateSnapshot}
    (h : evaluateCircuitState breaker events now = .ok snapshot) :
    ∃ k, trackerAt breaker events now = .ok k ∧ snapshot = k.snapshot breaker.config now := by
  rw [evaluateCircuitState_eq] at h
  cases hk : trackerAt breaker events now with
  | error error =>
      rw [hk] at h
      cases h
  | ok k =>
      rw [hk] at h
      exact ⟨k, rfl, (Except.ok.inj h).symm⟩

theorem exists_snapshot {initialState : Text} {snapshot : CircuitBreakerStateSnapshot}
    (h : evaluateCircuitState breaker events now initialState = .ok snapshot) :
    ∃ k : Tracker, snapshot = k.snapshot breaker.config now := by
  rw [evaluateCircuitState] at h
  cases hstate : normalizeState initialState with
  | error error =>
      rw [hstate] at h
      cases h
  | ok state =>
      rw [hstate] at h
      simp only [bind, Except.bind] at h
      split at h
      · cases h
      · rename_i k _
        exact ⟨k, (Except.ok.inj h).symm⟩

def defaultBreaker : ProviderNeutralCircuitBreaker where
  config := {}
  failureThreshold_pos := by decide
  degradedThreshold_pos := by decide
  windowSeconds_pos := by norm_num
  openDurationSeconds_pos := by norm_num

def success (timestamp : ℚ) : CircuitBreakerEvent := ⟨"success".toList, timestamp, []⟩

def failure (timestamp : ℚ) : CircuitBreakerEvent := ⟨"failure".toList, timestamp, []⟩

def outage (timestamp : ℚ) : CircuitBreakerEvent := ⟨"unavailable".toList, timestamp, []⟩

/-! ## What one pass reads of the history -/

/-- Only the events up to the time that it ends at are counted. -/
theorem successesSince_congr {start stop : ℚ} (hstop : stop ≤ t)
    (h : ordered.filter (fun event => event.timestamp ≤ t) =
      other.filter fun event => event.timestamp ≤ t) :
    successesSince ordered start stop = successesSince other start stop := by
  have hrange : ∀ events : List CircuitBreakerEvent,
      (events.filter fun event =>
        decide (start ≤ event.timestamp) && decide (event.timestamp ≤ stop)) =
      (events.filter fun event => event.timestamp ≤ t).filter fun event =>
        decide (start ≤ event.timestamp) && decide (event.timestamp ≤ stop) := by
    intro events
    rw [List.filter_filter]
    refine List.filter_congr fun event _ => ?_
    by_cases hevent : event.timestamp ≤ stop
    · simp [hevent, hevent.trans hstop]
    · simp [hevent]
  rw [successesSince, successesSince, hrange ordered, hrange other, h]

theorem observe_congr (hevent : event.timestamp ≤ t)
    (h : ordered.filter (fun event => event.timestamp ≤ t) =
      other.filter fun event => event.timestamp ≤ t) :
    observe config ordered k event = observe config other k event := by
  have hcount : ∀ start, successesSince ordered start event.timestamp =
      successesSince other start event.timestamp := fun start => successesSince_congr hevent h
  simp only [observe, Tracker.succeeded, hcount]

/-- A later part of the history is looped over after the earlier part. -/
theorem trackerAt_append (hmore : ∀ event ∈ more, t < event.timestamp) (hnow : t ≤ now) :
    trackerAt breaker (events ++ more) now =
      (trackerAt breaker events t).bind fun k =>
        ((sortOn (·.timestamp) (events ++ more)).filter fun event =>
            decide (t < event.timestamp) && decide (event.timestamp ≤ now)).foldlM
          (observe breaker.config (sortOn (·.timestamp) (events ++ more))) k := by
  have hearlier : (sortOn (·.timestamp) (events ++ more)).filter
        (fun event => event.timestamp ≤ t) =
      (sortOn (·.timestamp) events).filter fun event => event.timestamp ≤ t := by
    have hnone : more.filter (fun event => event.timestamp ≤ t) = [] := by
      simpa [List.filter_eq_nil_iff] using hmore
    rw [filter_sortOn, filter_sortOn, List.filter_append, hnone, List.append_nil]
  have hpass : ∀ k, ∀ event ∈ (sortOn (·.timestamp) events).filter fun event => event.timestamp ≤ t,
      observe breaker.config (sortOn (·.timestamp) (events ++ more)) k event =
        observe breaker.config (sortOn (·.timestamp) events) k event := fun k event hevent =>
    observe_congr (by simpa using (List.mem_filter.mp hevent).2) hearlier
  have hfirst := foldlM_congr hpass { state := .closed }
  rw [trackerAt, filter_le_of_pairwise (pairwise_sortOn _) hnow, List.foldlM_append, hearlier,
    hfirst]
  rfl

/-! ## Errors -/

theorem exists_of_successesSince_error {start stop : ℚ} {error : ValueError}
    (h : successesSince ordered start stop = .error error) :
    ∃ event ∈ ordered, event.timestamp ≤ stop ∧
      normalizeEventType event.eventType = .error error := by
  rw [successesSince] at h
  cases htypes : (ordered.filter fun event =>
      decide (start ≤ event.timestamp) && decide (event.timestamp ≤ stop)).mapM
        fun event => normalizeEventType event.eventType with
  | ok eventTypes =>
      rw [htypes] at h
      cases h
  | error other =>
      rw [htypes] at h
      cases h
      obtain ⟨event, hmem, herror⟩ := exists_of_mapM_error htypes
      simp only [List.mem_filter, Bool.and_eq_true, decide_eq_true_eq] at hmem
      exact ⟨event, hmem.1, hmem.2.2, herror⟩

/-- A pass fails at an event of an unknown type, its own event or one it counts. -/
theorem exists_of_observe_error {error : ValueError}
    (h : observe config ordered k event = .error error) (hmem : event ∈ ordered) :
    ∃ bad ∈ ordered, bad.timestamp ≤ event.timestamp ∧
      normalizeEventType bad.eventType = .error error := by
  rw [observe] at h
  cases htype : normalizeEventType event.eventType with
  | error other =>
      rw [htype] at h
      cases h
      exact ⟨event, hmem, le_rfl, htype⟩
  | ok eventType =>
      rw [htype] at h
      cases eventType with
      | success =>
          replace h :
              ((k.noted config event).cooled config event.timestamp).succeeded config ordered
            event.timestamp = .error error := h
          rw [Tracker.succeeded] at h
          split at h
          · cases hcount : successesSince ordered
              (startOr ((k.noted config event).cooled config event.timestamp).halfOpenStartedAt
                event.timestamp) event.timestamp with
            | error other =>
                rw [hcount] at h
                cases h
                exact exists_of_successesSince_error hcount
            | ok successes =>
                rw [hcount] at h
                simp only [bind, Except.bind, pure, Except.pure] at h
                split at h <;> cases h
          · cases h
          · cases h
      | failure => cases h
      | timeout => cases h
      | rateLimited => cases h
      | unavailable => cases h
      | manualReset => cases h

theorem normalizeEventType_of_observe (h : observe config ordered k event = .ok next) :
    (normalizeEventType event.eventType).isOk = true := by
  rw [observe] at h
  cases htype : normalizeEventType event.eventType with
  | error error =>
      rw [htype] at h
      cases h
  | ok eventType => rfl

theorem normalizeEventType_of_trackerAt (h : trackerAt breaker events t = .ok k)
    (hmem : event ∈ events) (hle : event.timestamp ≤ t) :
    (normalizeEventType event.eventType).isOk = true := by
  have hlooped : event ∈ (sortOn (·.timestamp) events).filter fun event => event.timestamp ≤ t := by
    simpa [mem_sortOn] using ⟨hmem, hle⟩
  obtain ⟨before, after, hpass⟩ := exists_of_foldlM_ok h hlooped
  exact normalizeEventType_of_observe hpass

/-- The loop fails on the events that a history gains only where one of them has an unknown
type. -/
theorem exists_of_trackerAt_error {error : ValueError} (h : trackerAt breaker events t = .ok k)
    (hmore : ∀ event ∈ more, t < event.timestamp)
    (hlater : trackerAt breaker (events ++ more) now = .error error) :
    ∃ bad ∈ events ++ more, t < bad.timestamp ∧ bad.timestamp ≤ now ∧
      normalizeEventType bad.eventType = .error error := by
  obtain ⟨u, event, hevent, hpass⟩ := exists_of_foldlM_error hlater
  simp only [List.mem_filter, decide_eq_true_eq] at hevent
  obtain ⟨bad, hbad, hle, htype⟩ := exists_of_observe_error hpass hevent.1
  rw [mem_sortOn] at hbad
  refine ⟨bad, hbad, ?_, hle.trans hevent.2, htype⟩
  rcases List.mem_append.mp hbad with hearlier | hmem
  · by_contra hnot
    have hvalid := normalizeEventType_of_trackerAt h hearlier (not_lt.mp hnot)
    simp [htype, Except.isOk, Except.toBool] at hvalid
  · exact hmore bad hmem

end MemoryLab.CircuitBreaker

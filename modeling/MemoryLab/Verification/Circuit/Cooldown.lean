import MemoryLab.Library.Transaction
import MemoryLab.Verification.Circuit.Timeline

/-! # An open breaker stays open until its deadline -/

namespace MemoryLab.CircuitBreaker

open Library
open Library.Rows
open Library.Runs

variable {config : CircuitBreakerConfig} {ordered : List CircuitBreakerEvent}
  {event : CircuitBreakerEvent} {k next : Tracker} {now deadline : ℚ}

/-- The breaker is open or unavailable, and will be until the deadline at least. -/
structure Holds (config : CircuitBreakerConfig) (deadline : ℚ) (k : Tracker) : Prop where
  state : k.state = .opened ∨ k.state = .unavailable
  openedAt : ∃ openedAt, k.openedAt = some openedAt ∧
    deadline ≤ openedAt + config.openDurationSeconds

theorem Holds.noted (h : Holds config deadline k) : Holds config deadline (k.noted config event) :=
  ⟨h.state, h.openedAt⟩

theorem Holds.cooled_eq (h : Holds config deadline k) (hnow : now < deadline) :
    k.cooled config now = k := by
  obtain ⟨openedAt, hopened, hdeadline⟩ := h.openedAt
  have hearly : ¬ config.openDurationSeconds ≤ now - openedAt := by linarith
  simp [Tracker.cooled, hopened, hearly]

theorem Holds.failed (h : Holds config deadline k)
    (hevent : deadline ≤ event.timestamp + config.openDurationSeconds) :
    Holds config deadline (k.failed config event) := by
  rw [Tracker.failed]
  split
  · exact ⟨.inl rfl, _, rfl, hevent⟩
  · split
    · rename_i hdegraded
      rcases h.state with hstate | hstate <;> simp [hstate] at hdegraded
    · exact ⟨h.state, h.openedAt⟩

theorem Holds.succeeded_eq (h : Holds config deadline k) :
    k.succeeded config ordered now = .ok k := by
  rcases h.state with hstate | hstate <;> simp [Tracker.succeeded, hstate]

/-- A reset apart, no event before the deadline lets the breaker go. -/
theorem Holds.observe (h : Holds config deadline k)
    (hnext : observe config ordered k event = .ok next) (hearly : event.timestamp < deadline)
    (hevent : deadline ≤ event.timestamp + config.openDurationSeconds)
    (hreset : normalizeEventType event.eventType ≠ .ok .manualReset) :
    Holds config deadline next := by
  have hnoted : Holds config deadline (k.noted config event) := h.noted
  rw [CircuitBreaker.observe] at hnext
  cases htype : normalizeEventType event.eventType with
  | error error =>
      rw [htype] at hnext
      cases hnext
  | ok eventType =>
      rw [htype] at hnext
      simp only [bind, Except.bind, pure, Except.pure, hnoted.cooled_eq hearly,
        hnoted.succeeded_eq] at hnext
      cases eventType with
      | manualReset => exact absurd htype hreset
      | unavailable =>
          cases hnext
          exact ⟨.inr rfl, event.timestamp, rfl, hevent⟩
      | success =>
          cases hnext
          exact hnoted
      | failure =>
          cases hnext
          exact hnoted.failed hevent
      | timeout =>
          cases hnext
          exact hnoted.failed hevent
      | rateLimited =>
          cases hnext
          exact hnoted.failed hevent

/-! ## Snapshots -/

theorem settled_of_openedAt {openedAt : ℚ} (h : k.openedAt = some openedAt)
    (hstate : k.settled config now = .opened ∨ k.settled config now = .unavailable) :
    k.settled config now = k.state := by
  rw [Tracker.settled, h] at hstate ⊢
  dsimp only at hstate ⊢
  split
  · rename_i hover
    rw [if_pos hover] at hstate
    rcases hstate with hstate | hstate <;> cases hstate
  · rfl

theorem elapsed_nonneg (openedAt now : ℚ) : 0 ≤ elapsed openedAt now := le_max_left _ _

/-- A snapshot that asks to wait was taken from a breaker that holds for that long. -/
theorem holds_of_snapshot {retry : ℚ}
    (h : (k.snapshot config now).retryAfterSeconds = some retry) (hpos : 0 < retry) :
    Holds config (now + retry) k ∧ retry ≤ config.openDurationSeconds := by
  simp only [Tracker.snapshot, retryAfter] at h
  split at h
  · rename_i hstate
    obtain ⟨openedAt, hopened, rfl⟩ := Option.map_eq_some_iff.mp h
    have hwait : max 0 (config.openDurationSeconds - elapsed openedAt now) =
        config.openDurationSeconds - elapsed openedAt now :=
      max_eq_right (le_of_not_ge fun hle => hpos.ne' (max_eq_left hle))
    have hsince : now - openedAt ≤ elapsed openedAt now := le_max_right _ _
    have hnonneg := elapsed_nonneg openedAt now
    rw [settled_of_openedAt hopened hstate] at hstate
    rw [hwait]
    exact ⟨⟨hstate, openedAt, hopened, by linarith⟩, by linarith⟩
  · cases h

/-- A breaker that holds forbids requests, and asks to wait until the deadline at least. -/
theorem Holds.snapshot (h : Holds config deadline k) (hnow : now < deadline)
    (hwait : deadline ≤ now + config.openDurationSeconds) :
    (k.snapshot config now).allowRequestRecommendation = false ∧
      ∃ retry, (k.snapshot config now).retryAfterSeconds = some retry ∧ deadline - now ≤ retry := by
  obtain ⟨openedAt, hopened, hdeadline⟩ := h.openedAt
  have helapsed : elapsed openedAt now ≤ config.openDurationSeconds - (deadline - now) :=
    max_le (by linarith) (by linarith)
  have hstate : k.settled config now = k.state := by
    have hnot : ¬ config.openDurationSeconds ≤ elapsed openedAt now := by linarith
    simp [Tracker.settled, hopened, hnot]
  refine ⟨?_, max 0 (config.openDurationSeconds - elapsed openedAt now), ?_, ?_⟩
  · rcases h.state with hk | hk <;> simp [Tracker.snapshot, hstate, hk]
  · simp [Tracker.snapshot, hstate, retryAfter, h.state, hopened]
  · exact le_max_of_le_right (by linarith)

/-- While a breaker asks to wait, only a reset can make it allow requests again. -/
theorem waits_until_deadline {breaker : ProviderNeutralCircuitBreaker}
    {events more : List CircuitBreakerEvent} {t later retry : ℚ}
    {snapshot : CircuitBreakerStateSnapshot}
    (hsnapshot : evaluateCircuitState breaker events t = .ok snapshot)
    (hretry : snapshot.retryAfterSeconds = some retry) (hpos : 0 < retry)
    (hmore : ∀ event ∈ more, t < event.timestamp)
    (hreset : ∀ event ∈ events ++ more, t < event.timestamp →
      normalizeEventType event.eventType ≠ .ok .manualReset)
    (hlater : t ≤ later) (hbefore : later < t + retry) :
    match evaluateCircuitState breaker (events ++ more) later with
    | .ok next => next.allowRequestRecommendation = false ∧
        ∃ remaining, next.retryAfterSeconds = some remaining ∧ t + retry - later ≤ remaining
    | .error error => ∃ bad ∈ events ++ more, t < bad.timestamp ∧ bad.timestamp ≤ later ∧
        normalizeEventType bad.eventType = .error error := by
  obtain ⟨k, hk, rfl⟩ := evaluateCircuitState_ok hsnapshot
  obtain ⟨hholds, hduration⟩ := holds_of_snapshot hretry hpos
  rw [evaluateCircuitState_eq]
  cases htracker : trackerAt breaker (events ++ more) later with
  | error error => exact exists_of_trackerAt_error hk hmore htracker
  | ok next =>
      have hloop := htracker
      rw [trackerAt_append hmore hlater, hk] at hloop
      have hnext : Holds breaker.config (t + retry) next := by
        refine foldlM_invariant hloop hholds fun u v event hevent hu hpass => ?_
        simp only [List.mem_filter, mem_sortOn, Bool.and_eq_true, decide_eq_true_eq] at hevent
        obtain ⟨hmem, hafter, hle⟩ := hevent
        exact hu.observe hpass (hle.trans_lt hbefore) (by linarith) (hreset event hmem hafter)
      exact hnext.snapshot hbefore (by linarith)

theorem waits_until_deadline_success :
    (evaluateCircuitState defaultBreaker ([outage 0] ++ [success 10]) 20).map
      (·.allowRequestRecommendation) = .ok false := by
  have hsnapshot : evaluateCircuitState defaultBreaker [outage 0] 0 =
      .ok ⟨.unavailable, false, some 300, 300, "none supplied".toList⟩ := by decide +kernel
  have hmore : ∀ event ∈ [success 10], (0 : ℚ) < event.timestamp := by simp [success]
  have hreset : ∀ event ∈ [outage 0] ++ [success 10], 0 < event.timestamp →
      normalizeEventType event.eventType ≠ .ok .manualReset := by decide +kernel
  have hlater := waits_until_deadline hsnapshot rfl (by norm_num) hmore hreset
    (show (0 : ℚ) ≤ 20 by norm_num) (by norm_num)
  obtain ⟨next, hnext⟩ := Transaction.exists_of_isOk
    (show (evaluateCircuitState defaultBreaker ([outage 0] ++ [success 10]) 20).isOk = true by
      decide +kernel)
  rw [hnext] at hlater ⊢
  exact congrArg Except.ok hlater.1

end MemoryLab.CircuitBreaker

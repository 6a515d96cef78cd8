import MemoryLab.Verification.Circuit.Timeline

/-! # The probes of a half-open breaker -/

namespace MemoryLab.CircuitBreaker

open Library
open Library.Rows
open Library.Runs

variable {config : CircuitBreakerConfig} {breaker : ProviderNeutralCircuitBreaker}
  {events ordered probes : List CircuitBreakerEvent} {event probe : CircuitBreakerEvent}
  {k next : Tracker} {t now start : ℚ}

/-- The events that an evaluation at a time sees. -/
def historyUntil (events : List CircuitBreakerEvent) (t : ℚ) : List CircuitBreakerEvent :=
  events.filter fun event => event.timestamp ≤ t

/-- A failing probe opens the breaker again, and enough successful ones close it. -/
structure ProbeLaw (breaker : ProviderNeutralCircuitBreaker) (events : List CircuitBreakerEvent)
    (t : ℚ) : Prop where
  failing : ∀ probe eventType, t < probe.timestamp → eventType ∈ failureEvents →
    normalizeEventType probe.eventType = .ok eventType →
      ∃ snapshot, evaluateCircuitState breaker (historyUntil events t ++ [probe]) probe.timestamp =
        .ok snapshot ∧ snapshot.state = .opened ∧ snapshot.allowRequestRecommendation = false
  succeeding : ∀ probes last, probes.getLast? = some last →
    (probes.length : ℤ) = max 1 breaker.config.halfOpenSuccessesToClose →
    (∀ probe ∈ probes, t < probe.timestamp ∧ normalizeEventType probe.eventType = .ok .success) →
    (probes.Pairwise fun a b => a.timestamp < b.timestamp) →
      ∃ snapshot, evaluateCircuitState breaker (historyUntil events t ++ probes) last.timestamp =
        .ok snapshot ∧ snapshot.state = .closed

/-- The loop's state from which the probes do their work: it did not stop at an outage, and no
probation starts at the time zero, unless one success is enough. -/
def Probed (config : CircuitBreakerConfig) (t : ℚ) (k : Tracker) : Prop :=
  k.state ≠ .unavailable ∧
    (config.halfOpenSuccessesToClose ≤ 1 ∨
      ((k.state = .opened → 0 ≤ t) ∧ (k.state = .halfOpen → k.halfOpenStartedAt ≠ some 0)))

/-! ## Counting successes -/

def isSuccessIn (start stop : ℚ) (event : CircuitBreakerEvent) : Bool :=
  (decide (start ≤ event.timestamp) && decide (event.timestamp ≤ stop)) &&
    decide (normalizeEventType event.eventType = .ok .success)

theorem count_of_forall₂ {eventTypes : List EventType}
    (h : List.Forall₂ (fun event eventType => normalizeEventType event.eventType = .ok eventType)
      ordered eventTypes) :
    eventTypes.count .success =
      ordered.countP fun event => decide (normalizeEventType event.eventType = .ok .success) := by
  induction h with
  | nil => rfl
  | cons hfirst hrest ih => simp [List.count_cons, List.countP_cons, hfirst, ih]

theorem successesSince_ok {stop : ℚ} {successes : ℕ}
    (h : successesSince ordered start stop = .ok successes) :
    successes = ordered.countP (isSuccessIn start stop) := by
  rw [successesSince] at h
  cases htypes : (ordered.filter fun event =>
      decide (start ≤ event.timestamp) && decide (event.timestamp ≤ stop)).mapM
        fun event => normalizeEventType event.eventType with
  | error error =>
      rw [htypes] at h
      cases h
  | ok eventTypes =>
      rw [htypes] at h
      cases h
      rw [count_of_forall₂ (forall₂_of_mapM htypes), List.countP_filter]
      refine List.countP_congr fun event _ => ?_
      simp [isSuccessIn, and_comm]

/-! ## One probe -/

theorem Tracker.cooled_of_ne (h : k.state ≠ .opened) : k.cooled config now = k := by
  rw [Tracker.cooled]
  cases k.openedAt <;> simp [h]

theorem Tracker.cooled_of_over {openedAt : ℚ} (hstate : k.state = .opened)
    (hopened : k.openedAt = some openedAt)
    (hover : openedAt + config.openDurationSeconds ≤ now) :
    k.cooled config now = { k with state := .halfOpen, halfOpenStartedAt := some now } := by
  have hsince : config.openDurationSeconds ≤ now - openedAt := by linarith
  simp [Tracker.cooled, hopened, hstate, hsince]

theorem Tracker.cooled_noted :
    (k.noted config event).cooled config now = (k.cooled config now).noted config event := by
  obtain ⟨state, openedAt, halfOpenStartedAt, recentFailures, reasons⟩ := k
  cases openedAt with
  | none => rfl
  | some openedAt =>
      simp only [Tracker.cooled, Tracker.noted]
      split <;> rfl

theorem Tracker.cooled_cooled : (k.cooled config now).cooled config now = k.cooled config now := by
  by_cases hstate : (k.cooled config now).state = .opened
  · have hunchanged : k.cooled config now = k := by
      rw [Tracker.cooled] at hstate ⊢
      cases hopened : k.openedAt with
      | none => rfl
      | some openedAt =>
          simp only [hopened] at hstate ⊢
          split
          · rename_i hover
            simp [hover] at hstate
          · rfl
    rw [hunchanged, hunchanged]
  · exact Tracker.cooled_of_ne hstate

/-- A probe that succeeds finds the breaker cooled. -/
theorem observe_success (htype : normalizeEventType event.eventType = .ok .success) :
    observe config ordered k event =
      ((k.cooled config event.timestamp).noted config event).succeeded config ordered
        event.timestamp := by
  rw [observe, htype, ← Tracker.cooled_noted]
  rfl

theorem observe_success_cooled (htype : normalizeEventType event.eventType = .ok .success) :
    observe config ordered (k.cooled config event.timestamp) event =
      observe config ordered k event := by
  rw [observe_success htype, observe_success htype, Tracker.cooled_cooled]

theorem observe_failing {eventType : EventType}
    (htype : normalizeEventType event.eventType = .ok eventType)
    (hfailing : eventType ∈ failureEvents) :
    observe config ordered k event =
      .ok (((k.cooled config event.timestamp).noted config event).failed config event) := by
  rw [observe, htype, ← Tracker.cooled_noted]
  cases eventType with
  | failure => rfl
  | timeout => rfl
  | rateLimited => rfl
  | success => simp [failureEvents] at hfailing
  | unavailable => simp [failureEvents] at hfailing
  | manualReset => simp [failureEvents] at hfailing

/-- A success while half open closes the breaker or leaves the probation as it is. -/
theorem observe_success_halfOpen (htype : normalizeEventType event.eventType = .ok .success)
    (hstate : k.state = .halfOpen) (hnext : observe config ordered k event = .ok next) :
    let successes := ordered.countP
      (isSuccessIn (startOr k.halfOpenStartedAt event.timestamp) event.timestamp)
    (config.halfOpenSuccessesToClose ≤ successes ∧ next.state = .closed) ∨
      ((successes : ℤ) < config.halfOpenSuccessesToClose ∧ next.state = .halfOpen ∧
        next.halfOpenStartedAt = k.halfOpenStartedAt) := by
  have hcooled : k.cooled config event.timestamp = k := Tracker.cooled_of_ne (by simp [hstate])
  rw [observe_success htype, hcooled, Tracker.succeeded] at hnext
  have hnoted : (k.noted config event).state = .halfOpen := hstate
  simp only [hnoted] at hnext
  cases hcount : successesSince ordered
      (startOr (k.noted config event).halfOpenStartedAt event.timestamp) event.timestamp with
  | error error =>
      rw [hcount] at hnext
      cases hnext
  | ok successes =>
      rw [hcount] at hnext
      simp only [bind, Except.bind, pure, Except.pure] at hnext
      have hsuccesses := successesSince_ok hcount
      replace hsuccesses : successes = ordered.countP
        (isSuccessIn (startOr k.halfOpenStartedAt event.timestamp) event.timestamp) := hsuccesses
      rw [← hsuccesses]
      split at hnext
      · rename_i hclose
        cases hnext
        exact .inl ⟨hclose, rfl⟩
      · rename_i hopen
        cases hnext
        exact .inr ⟨not_le.mp hopen, hstate, rfl⟩

theorem observe_success_of_state (htype : normalizeEventType event.eventType = .ok .success)
    (hstate : k.state = .closed ∨ k.state = .unavailable)
    (hnext : observe config ordered k event = .ok next) : next.state = k.state := by
  have hcooled : k.cooled config event.timestamp = k :=
    Tracker.cooled_of_ne (by rcases hstate with h | h <;> simp [h])
  rw [observe_success htype, hcooled, Tracker.succeeded] at hnext
  have hnoted : (k.noted config event).state = k.state := rfl
  rcases hstate with hk | hk <;> simp only [hnoted, hk] at hnext <;> cases hnext <;> rfl

/-! ## Enough successes -/

theorem startOr_eq (h : start ≠ 0) : startOr (some start) now = start := by simp [startOr, h]

theorem startOr_le (h : start ≤ now) : startOr (some start) now ≤ now := by
  rw [startOr]
  split
  · exact le_rfl
  · exact h

/-- After some successes of a probation, the breaker is closed or waits for more. -/
def Probation (config : CircuitBreakerConfig) (start : ℚ) (count : ℕ) (k : Tracker) : Prop :=
  k.state = .closed ∨
    (k.state = .halfOpen ∧ k.halfOpenStartedAt = some start ∧
      (count : ℤ) < max 1 config.halfOpenSuccessesToClose)

theorem Probation.observe {done : List CircuitBreakerEvent}
    (h : Probation config start done.length k)
    (hnext : observe config ordered k event = .ok next)
    (hzero : start ≠ 0 ∨ config.halfOpenSuccessesToClose ≤ 1)
    (hseen : (done ++ [event]).Subperm ordered)
    (hsuccess : ∀ probe ∈ done ++ [event],
      normalizeEventType probe.eventType = .ok .success ∧ start ≤ probe.timestamp ∧
        probe.timestamp ≤ event.timestamp) :
    Probation config start (done ++ [event]).length next := by
  obtain ⟨htype, hstart, -⟩ := hsuccess event (by simp)
  rcases h with hclosed | ⟨hstate, hstarted, hfew⟩
  · exact .inl ((observe_success_of_state htype (.inl hclosed) hnext).trans hclosed)
  · have hcount : (done ++ [event]).length ≤ ordered.countP
        (isSuccessIn (startOr k.halfOpenStartedAt event.timestamp) event.timestamp) := by
      have hall : (done ++ [event]).countP
          (isSuccessIn (startOr k.halfOpenStartedAt event.timestamp) event.timestamp) =
            (done ++ [event]).length := by
        rw [List.countP_eq_length]
        intro probe hprobe
        obtain ⟨hptype, hpstart, hplast⟩ := hsuccess probe hprobe
        have hfrom : startOr k.halfOpenStartedAt event.timestamp ≤ probe.timestamp := by
          rw [hstarted]
          rcases hzero with hzero | hone
          · rw [startOr_eq hzero]
            exact hpstart
          · -- one success is enough, so that nothing was done before this probe
            have hdone : done = [] := List.length_eq_zero_iff.mp (by omega)
            have hself : probe = event := by simpa [hdone] using hprobe
            rw [hself]
            exact startOr_le hstart
        simp [isSuccessIn, hfrom, hplast, hptype]
      exact hall.symm.le.trans (hseen.countP_le _)
    rcases observe_success_halfOpen htype hstate hnext with ⟨-, hclosed⟩ | ⟨hless, hhalf, hsame⟩
    · exact .inl hclosed
    · exact .inr ⟨hhalf, hsame.trans hstarted, by omega⟩

theorem Probation.foldlM {done rest : List CircuitBreakerEvent}
    (h : Probation config start done.length k)
    (hnext : rest.foldlM (CircuitBreaker.observe config ordered) k = .ok next)
    (hzero : start ≠ 0 ∨ config.halfOpenSuccessesToClose ≤ 1)
    (hseen : (done ++ rest).Subperm ordered)
    (hsuccess : ∀ probe ∈ done ++ rest,
      normalizeEventType probe.eventType = .ok .success ∧ start ≤ probe.timestamp)
    (hsorted : (done ++ rest).Pairwise fun a b => a.timestamp < b.timestamp) :
    Probation config start (done ++ rest).length next := by
  induction rest generalizing done k with
  | nil =>
      cases hnext
      simpa using h
  | cons event rest ih =>
      rw [List.foldlM_cons] at hnext
      cases hpass : CircuitBreaker.observe config ordered k event with
      | error error =>
          rw [hpass] at hnext
          cases hnext
      | ok mid =>
          rw [hpass] at hnext
          rw [List.append_cons] at hseen hsuccess hsorted ⊢
          refine ih (h.observe hpass hzero ((List.sublist_append_left _ _).subperm.trans hseen) ?_)
            hnext hseen hsuccess hsorted
          intro probe hprobe
          obtain ⟨htype, hstart⟩ := hsuccess probe (List.mem_append_left _ hprobe)
          refine ⟨htype, hstart, ?_⟩
          rcases List.mem_append.mp hprobe with hdone | hself
          · have hbefore := (List.pairwise_append.mp (List.pairwise_append.mp hsorted).1).2.2
            exact (hbefore probe hdone event List.mem_cons_self).le
          · rw [List.mem_singleton.mp hself]

/-! ## The history and the probes -/

theorem trackerAt_historyUntil (breaker : ProviderNeutralCircuitBreaker)
    (events : List CircuitBreakerEvent) (t : ℚ) :
    trackerAt breaker (historyUntil events t) t = trackerAt breaker events t := by
  have hsame : (sortOn (·.timestamp) (historyUntil events t)).filter
        (fun event => event.timestamp ≤ t) =
      (sortOn (·.timestamp) events).filter fun event => event.timestamp ≤ t := by
    rw [filter_sortOn, filter_sortOn, historyUntil, List.filter_filter]
    simp
  have hpass : ∀ k, ∀ event ∈ (sortOn (·.timestamp) events).filter fun event => event.timestamp ≤ t,
      observe breaker.config (sortOn (·.timestamp) (historyUntil events t)) k event =
        observe breaker.config (sortOn (·.timestamp) events) k event := fun k event hevent =>
    observe_congr (by simpa using (List.mem_filter.mp hevent).2) hsame
  rw [trackerAt, trackerAt, hsame]
  exact foldlM_congr hpass _

/-- The history with its probes, as the loop goes through it. -/
def probed (events probes : List CircuitBreakerEvent) (t : ℚ) : List CircuitBreakerEvent :=
  sortOn (·.timestamp) (historyUntil events t ++ probes)

theorem trackerAt_probed (hk : trackerAt breaker events t = .ok k)
    (hlater : ∀ probe ∈ probes, t < probe.timestamp ∧ probe.timestamp ≤ now) (hnow : t ≤ now)
    (hsorted : probes.Pairwise fun a b => a.timestamp < b.timestamp) :
    trackerAt breaker (historyUntil events t ++ probes) now =
      probes.foldlM (observe breaker.config (probed events probes t)) k := by
  have hnone : (historyUntil events t).filter (fun event =>
      decide (t < event.timestamp) && decide (event.timestamp ≤ now)) = [] := by
    rw [List.filter_eq_nil_iff]
    intro event hevent
    have hle : event.timestamp ≤ t := by simpa [historyUntil] using (List.mem_filter.mp hevent).2
    simp [not_lt.mpr hle]
  have hall : probes.filter (fun event =>
      decide (t < event.timestamp) && decide (event.timestamp ≤ now)) = probes := by
    rw [List.filter_eq_self]
    intro probe hprobe
    simpa using hlater probe hprobe
  have hprobes : sortOn (·.timestamp) probes = probes :=
    List.Pairwise.insertionSort_eq (hsorted.imp le_of_lt)
  rw [trackerAt_append (fun probe hprobe => (hlater probe hprobe).1) hnow, trackerAt_historyUntil,
    hk, filter_sortOn, List.filter_append, hnone, hall, List.nil_append, hprobes]
  rfl

theorem subperm_probed (events probes : List CircuitBreakerEvent) (t : ℚ) :
    probes.Subperm (probed events probes t) :=
  (List.sublist_append_right _ _).subperm.trans (perm_sortOn _).symm.subperm

/-- With the probes valid, the loop runs through them. -/
theorem exists_of_probed (hk : trackerAt breaker events t = .ok k)
    (hlater : ∀ probe ∈ probes, t < probe.timestamp ∧ probe.timestamp ≤ now)
    (hvalid : ∀ probe ∈ probes, (normalizeEventType probe.eventType).isOk = true) :
    ∃ next, trackerAt breaker (historyUntil events t ++ probes) now = .ok next := by
  cases hnext : trackerAt breaker (historyUntil events t ++ probes) now with
  | ok next => exact ⟨next, rfl⟩
  | error error =>
      have hhistory := hk
      rw [← trackerAt_historyUntil] at hhistory
      obtain ⟨bad, hbad, hafter, -, htype⟩ :=
        exists_of_trackerAt_error hhistory (fun probe hprobe => (hlater probe hprobe).1) hnext
      rcases List.mem_append.mp hbad with hearlier | hprobe
      · have hle : bad.timestamp ≤ t := by
          simpa [historyUntil] using (List.mem_filter.mp hearlier).2
        exact absurd hafter (not_lt.mpr hle)
      · have hok := hvalid bad hprobe
        simp [htype, Except.isOk, Except.toBool] at hok

theorem evaluateCircuitState_of_trackerAt (h : trackerAt breaker events now = .ok k) :
    evaluateCircuitState breaker events now = .ok (k.snapshot breaker.config now) := by
  rw [evaluateCircuitState_eq, h]
  rfl

/-! ## The probation -/

theorem Tracker.succeeded_of_halfOpen {timestamp : ℚ}
    (h : k.succeeded config ordered timestamp = .ok next) (hnext : next.state = .halfOpen) :
    next = k := by
  rw [Tracker.succeeded] at h
  split at h
  · cases hcount : successesSince ordered (startOr k.halfOpenStartedAt timestamp) timestamp with
    | error error =>
        rw [hcount] at h
        cases h
    | ok successes =>
        rw [hcount] at h
        simp only [bind, Except.bind, pure, Except.pure] at h
        split at h
        · cases h
          cases hnext
        · exact (Except.ok.inj h).symm
  · cases h
    split at hnext
    · cases hnext
    · rename_i hrecent
      exact if_neg hrecent
  · exact (Except.ok.inj h).symm

theorem Tracker.failed_state_ne : (k.failed config event).state ≠ .halfOpen := by
  rw [Tracker.failed]
  split
  · simp
  · split
    · simp
    · rename_i hnot _
      exact fun hstate => hnot (.inl hstate)

/-- A probation has a start in the past. -/
def Started (t : ℚ) (k : Tracker) : Prop :=
  k.state = .halfOpen → ∃ start, k.halfOpenStartedAt = some start ∧ start ≤ t

theorem Started.cooled (h : Started t k) (hnow : now ≤ t) : Started t (k.cooled config now) := by
  rw [Tracker.cooled]
  cases k.openedAt with
  | none => exact h
  | some openedAt =>
      dsimp only
      split
      · exact fun _ => ⟨now, rfl, hnow⟩
      · exact h

theorem Started.observe (h : Started t k) (hnext : observe config ordered k event = .ok next)
    (hle : event.timestamp ≤ t) : Started t next := by
  have hnoted : Started t ((k.noted config event).cooled config event.timestamp) :=
    Started.cooled h hle
  rw [CircuitBreaker.observe] at hnext
  cases htype : normalizeEventType event.eventType with
  | error error =>
      rw [htype] at hnext
      cases hnext
  | ok eventType =>
      rw [htype] at hnext
      cases eventType with
      | success =>
          intro hstate
          have hsame := Tracker.succeeded_of_halfOpen hnext hstate
          rw [hsame] at hstate ⊢
          exact hnoted hstate
      | failure =>
          cases hnext
          exact fun hstate => absurd hstate Tracker.failed_state_ne
      | timeout =>
          cases hnext
          exact fun hstate => absurd hstate Tracker.failed_state_ne
      | rateLimited =>
          cases hnext
          exact fun hstate => absurd hstate Tracker.failed_state_ne
      | unavailable =>
          cases hnext
          exact fun hstate => by cases hstate
      | manualReset =>
          cases hnext
          exact fun hstate => by cases hstate

theorem started_of_trackerAt (hk : trackerAt breaker events t = .ok k) : Started t k := by
  refine foldlM_invariant hk (fun hstate => by cases hstate) fun u v event hevent hu hpass => ?_
  exact hu.observe hpass (by simpa using (List.mem_filter.mp hevent).2)

/-- A snapshot is half open in a probation, or when the duration is over. -/
theorem state_of_settled (h : k.settled config now = .halfOpen)
    (hduration : 0 < config.openDurationSeconds) :
    k.state = .halfOpen ∨ (k.state = .opened ∨ k.state = .unavailable) ∧
      ∃ openedAt, k.openedAt = some openedAt ∧ openedAt + config.openDurationSeconds ≤ now := by
  rw [Tracker.settled] at h
  cases hopened : k.openedAt with
  | none =>
      rw [hopened] at h
      exact .inl h
  | some openedAt =>
      rw [hopened] at h
      dsimp only at h
      split at h
      · rename_i hover
        have hsince : config.openDurationSeconds ≤ now - openedAt :=
          (le_max_iff.mp hover.2).resolve_left (not_le.mpr hduration)
        exact .inr ⟨hover.1, openedAt, rfl, by linarith⟩
      · exact .inl h

/-- The first probe finds the breaker in its probation. -/
theorem cooled_of_settled (h : k.settled config t = .halfOpen)
    (hduration : 0 < config.openDurationSeconds) (hstarted : Started t k)
    (hprobed : Probed config t k) (hnow : t < now) :
    (k.cooled config now).state = .halfOpen ∧
      ∃ start, (k.cooled config now).halfOpenStartedAt = some start ∧ start ≤ now ∧
        (start ≠ 0 ∨ config.halfOpenSuccessesToClose ≤ 1) := by
  rcases state_of_settled h hduration with hhalf | ⟨hstate, openedAt, hopened, hover⟩
  · rw [Tracker.cooled_of_ne (by simp [hhalf])]
    obtain ⟨start, hstart, hle⟩ := hstarted hhalf
    refine ⟨hhalf, start, hstart, hle.trans hnow.le, ?_⟩
    rcases hprobed.2 with hone | ⟨-, hzero⟩
    · exact .inr hone
    · exact .inl fun hstartzero => hzero hhalf (hstartzero ▸ hstart)
  · have hopen : k.state = .opened := hstate.resolve_right hprobed.1
    rw [Tracker.cooled_of_over hopen hopened (hover.trans hnow.le)]
    refine ⟨rfl, now, rfl, le_rfl, ?_⟩
    rcases hprobed.2 with hone | ⟨hnonneg, -⟩
    · exact .inr hone
    · exact .inl (lt_of_le_of_lt (hnonneg hopen) hnow).ne'

/-! ## The law -/

theorem failing_of_probed (hk : trackerAt breaker events t = .ok k)
    (hhalf : k.settled breaker.config t = .halfOpen) (hprobed : Probed breaker.config t k)
    {eventType : EventType} (hlater : t < probe.timestamp) (hfailing : eventType ∈ failureEvents)
    (htype : normalizeEventType probe.eventType = .ok eventType) :
    ∃ snapshot, evaluateCircuitState breaker (historyUntil events t ++ [probe]) probe.timestamp =
      .ok snapshot ∧ snapshot.state = .opened ∧ snapshot.allowRequestRecommendation = false := by
  obtain ⟨hcooled, -⟩ := cooled_of_settled hhalf breaker.openDurationSeconds_pos
    (started_of_trackerAt hk) hprobed hlater
  have hfold := trackerAt_probed hk (by simpa using hlater) hlater.le
    (List.pairwise_singleton _ probe)
  rw [List.foldlM_cons, observe_failing htype hfailing] at hfold
  have hfailed : (((k.cooled breaker.config probe.timestamp).noted breaker.config probe).failed
      breaker.config probe).state = .opened ∧
        (((k.cooled breaker.config probe.timestamp).noted breaker.config probe).failed
          breaker.config probe).openedAt = some probe.timestamp := by
    have hnoted : ((k.cooled breaker.config probe.timestamp).noted breaker.config probe).state =
      .halfOpen := hcooled
    simp [Tracker.failed, hnoted]
  have hnot : ¬ breaker.config.openDurationSeconds ≤ 0 := not_le.mpr breaker.openDurationSeconds_pos
  refine ⟨_, evaluateCircuitState_of_trackerAt hfold, ?_⟩
  simp [Tracker.snapshot, Tracker.settled, hfailed, elapsed, hnot]

theorem le_getLast {last : CircuitBreakerEvent} (hlast : probes.getLast? = some last)
    (hsorted : probes.Pairwise fun a b => a.timestamp < b.timestamp) (hmem : probe ∈ probes) :
    probe.timestamp ≤ last.timestamp := by
  obtain ⟨init, rfl⟩ := List.getLast?_eq_some_iff.mp hlast
  rcases List.mem_append.mp hmem with hinit | hself
  · exact ((List.pairwise_append.mp hsorted).2.2 probe hinit last List.mem_cons_self).le
  · rw [List.mem_singleton.mp hself]

theorem Tracker.settled_of_closed (h : k.state = .closed) : k.settled config now = .closed := by
  rw [Tracker.settled]
  cases k.openedAt <;> simp [h]

theorem foldlM_success_cooled {first : CircuitBreakerEvent} {rest : List CircuitBreakerEvent}
    (htype : normalizeEventType first.eventType = .ok .success) :
    (first :: rest).foldlM (observe config ordered) k =
      (first :: rest).foldlM (observe config ordered) (k.cooled config first.timestamp) := by
  rw [List.foldlM_cons, List.foldlM_cons, observe_success_cooled htype]

theorem succeeding_of_probed (hk : trackerAt breaker events t = .ok k)
    (hhalf : k.settled breaker.config t = .halfOpen) (hprobed : Probed breaker.config t k)
    {last : CircuitBreakerEvent} (hlast : probes.getLast? = some last)
    (hlength : (probes.length : ℤ) = max 1 breaker.config.halfOpenSuccessesToClose)
    (hprobes : ∀ probe ∈ probes,
      t < probe.timestamp ∧ normalizeEventType probe.eventType = .ok .success)
    (hsorted : probes.Pairwise fun a b => a.timestamp < b.timestamp) :
    ∃ snapshot, evaluateCircuitState breaker (historyUntil events t ++ probes) last.timestamp =
      .ok snapshot ∧ snapshot.state = .closed := by
  cases probes with
  | nil => cases hlast
  | cons first rest =>
      obtain ⟨hfirst, htype⟩ := hprobes first List.mem_cons_self
      have hlater : ∀ probe ∈ first :: rest,
          t < probe.timestamp ∧ probe.timestamp ≤ last.timestamp :=
        fun probe hprobe => ⟨(hprobes probe hprobe).1, le_getLast hlast hsorted hprobe⟩
      obtain ⟨next, hnext⟩ := exists_of_probed hk hlater fun probe hprobe => by
        rw [(hprobes probe hprobe).2]
        rfl
      have hfold := hnext
      rw [trackerAt_probed hk hlater (hfirst.le.trans (hlater first List.mem_cons_self).2) hsorted,
        foldlM_success_cooled htype] at hfold
      obtain ⟨hcooled, start, hstart, hle, hzero⟩ := cooled_of_settled hhalf
        breaker.openDurationSeconds_pos (started_of_trackerAt hk) hprobed hfirst
      have hinitial : Probation breaker.config start ([] : List CircuitBreakerEvent).length
          (k.cooled breaker.config first.timestamp) :=
        .inr ⟨hcooled, hstart, lt_of_lt_of_le Int.zero_lt_one (le_max_left _ _)⟩
      have hsuccess : ∀ probe ∈ [] ++ first :: rest,
          normalizeEventType probe.eventType = .ok .success ∧ start ≤ probe.timestamp := by
        intro probe hprobe
        refine ⟨(hprobes probe hprobe).2, hle.trans ?_⟩
        rcases List.mem_cons.mp hprobe with rfl | hrest
        · exact le_rfl
        · exact (List.rel_of_pairwise_cons hsorted hrest).le
      have hfinal : next.state = .closed :=
        (hinitial.foldlM hfold hzero (subperm_probed events (first :: rest) t) hsuccess
          hsorted).resolve_right fun hmore => absurd hlength hmore.2.2.ne
      exact ⟨_, evaluateCircuitState_of_trackerAt hnext, Tracker.settled_of_closed hfinal⟩

/-! ## Where the law fails -/

/-- Successes at whole seconds from a time on. -/
def successesFrom (first : ℚ) (count : ℕ) : List CircuitBreakerEvent :=
  (List.range count).map fun i : ℕ => success (first + (i : ℚ))

theorem normalizeEventType_success : normalizeEventType "success".toList = .ok .success := by
  decide +kernel

theorem mem_successesFrom {first : ℚ} {count : ℕ} (h : probe ∈ successesFrom first count) :
    first ≤ probe.timestamp ∧ normalizeEventType probe.eventType = .ok .success := by
  obtain ⟨i, -, rfl⟩ := List.mem_map.mp h
  exact ⟨le_add_of_nonneg_right (Nat.cast_nonneg i), normalizeEventType_success⟩

theorem pairwise_successesFrom (first : ℚ) (count : ℕ) :
    (successesFrom first count).Pairwise fun a b => a.timestamp < b.timestamp := by
  rw [successesFrom, List.pairwise_map]
  refine List.pairwise_lt_range.imp fun {i j} hij => ?_
  have hcast : (i : ℚ) < j := by exact_mod_cast hij
  simpa [success] using hcast

/-- What the law says of the successes from a later time on. -/
theorem ProbeLaw.closes (h : ProbeLaw breaker events t) (hk : trackerAt breaker events t = .ok k)
    {first : ℚ} (hfirst : t < first) :
    ∃ next, (successesFrom first
        (max 1 breaker.config.halfOpenSuccessesToClose).toNat).foldlM
          (observe breaker.config (probed events (successesFrom first
            (max 1 breaker.config.halfOpenSuccessesToClose).toNat) t)) k = .ok next ∧
      next.state = .closed := by
  set probes := successesFrom first (max 1 breaker.config.halfOpenSuccessesToClose).toNat with hdef
  have hpos : 1 ≤ max 1 breaker.config.halfOpenSuccessesToClose := le_max_left _ _
  have hlength : (probes.length : ℤ) = max 1 breaker.config.halfOpenSuccessesToClose := by
    simp only [hdef, successesFrom, List.length_map, List.length_range]
    omega
  have hsorted : probes.Pairwise fun a b => a.timestamp < b.timestamp := pairwise_successesFrom _ _
  obtain ⟨last, hlast⟩ : ∃ last, probes.getLast? = some last := by
    rw [← Option.isSome_iff_exists, List.getLast?_isSome]
    exact fun hnil => by simp [hnil] at hlength; omega
  have hlater : ∀ probe ∈ probes, t < probe.timestamp ∧ probe.timestamp ≤ last.timestamp :=
    fun probe hprobe =>
      ⟨hfirst.trans_le (mem_successesFrom hprobe).1, le_getLast hlast hsorted hprobe⟩
  have hnow : t ≤ last.timestamp := (hlater last (List.mem_of_getLast? hlast)).1.le
  obtain ⟨snapshot, hsnapshot, hclosed⟩ := h.succeeding probes last hlast hlength
    (fun probe hprobe => ⟨(hlater probe hprobe).1, (mem_successesFrom hprobe).2⟩) hsorted
  obtain ⟨next, hnext, rfl⟩ := evaluateCircuitState_ok hsnapshot
  refine ⟨next, ?_, ?_⟩
  · rw [← trackerAt_probed hk hlater hnow hsorted]
    exact hnext
  · by_contra hstate
    replace hclosed : next.settled breaker.config last.timestamp = .closed := hclosed
    rw [Tracker.settled] at hclosed
    split at hclosed
    · exact hstate hclosed
    · split at hclosed
      · cases hclosed
      · exact hstate hclosed

/-- Nothing but a reset or a failure ends an outage. -/
theorem not_probeLaw_of_unavailable (hk : trackerAt breaker events t = .ok k)
    (hstate : k.state = .unavailable) : ¬ ProbeLaw breaker events t := by
  intro h
  obtain ⟨next, hfold, hclosed⟩ := h.closes hk (lt_add_one t)
  have hsame : next.state = .unavailable := by
    refine foldlM_invariant (P := fun k => k.state = .unavailable) hfold hstate
      fun u v event hevent hu hpass => ?_
    exact (observe_success_of_state (mem_successesFrom hevent).2 (.inr hu) hpass).trans hu
  rw [hsame] at hclosed
  cases hclosed

theorem countP_le_one (hhistory : ∀ event ∈ events, event.timestamp < now)
    (hsorted : probes.Pairwise fun a b => a.timestamp < b.timestamp) :
    (events ++ probes).countP (isSuccessIn now now) ≤ 1 := by
  have hnone : events.countP (isSuccessIn now now) = 0 := by
    rw [List.countP_eq_zero]
    intro event hevent
    simp [isSuccessIn, not_le.mpr (hhistory event hevent)]
  have hsame : probes.countP (isSuccessIn now now) ≤ (probes.map (·.timestamp)).count now := by
    rw [List.count, List.countP_map]
    refine List.countP_mono_left fun probe _ hprobe => ?_
    simp only [isSuccessIn, Bool.and_eq_true, decide_eq_true_eq] at hprobe
    simpa using le_antisymm hprobe.1.2 hprobe.1.1
  have hnodup : (probes.map (·.timestamp)).Nodup := by
    rw [List.Nodup, List.pairwise_map]
    exact hsorted.imp ne_of_lt
  rw [List.countP_append, hnone, zero_add]
  exact hsame.trans (List.nodup_iff_count_le_one.mp hnodup now)

/-- A probation from the time zero counts each success alone. -/
theorem halfOpen_of_zero {next : Tracker} (hmany : 1 < config.halfOpenSuccessesToClose)
    (hstate : k.state = .halfOpen) (hzero : k.halfOpenStartedAt = some 0)
    (hprobes : ∀ probe ∈ probes,
      t < probe.timestamp ∧ normalizeEventType probe.eventType = .ok .success)
    (hsorted : probes.Pairwise fun a b => a.timestamp < b.timestamp)
    (hfold : probes.foldlM (observe config (probed events probes t)) k = .ok next) :
    next.state = .halfOpen := by
  refine (foldlM_invariant (P := fun k => k.state = .halfOpen ∧ k.halfOpenStartedAt = some 0)
    hfold ⟨hstate, hzero⟩ fun u v event hevent hu hpass => ?_).1
  obtain ⟨hlater, htype⟩ := hprobes event hevent
  have hone :
      (probed events probes t).countP (isSuccessIn event.timestamp event.timestamp) ≤ 1 := by
    rw [probed, (perm_sortOn _).countP_eq]
    refine countP_le_one (fun earlier hearlier => ?_) hsorted
    exact lt_of_le_of_lt (by simpa [historyUntil] using (List.mem_filter.mp hearlier).2) hlater
  have hstart : startOr u.halfOpenStartedAt event.timestamp = event.timestamp := by
    rw [hu.2, startOr, if_pos rfl]
  rcases observe_success_halfOpen htype hu.1 hpass with ⟨hclose, -⟩ | ⟨-, hhalf, hsame⟩
  · rw [hstart] at hclose
    omega
  · exact ⟨hhalf, hsame.trans hu.2⟩

theorem foldlM_successesFrom (first : ℚ) {count : ℕ} (hpos : 0 < count) :
    (successesFrom first count).foldlM (observe config ordered) k =
      (successesFrom first count).foldlM (observe config ordered) (k.cooled config first) := by
  obtain ⟨rest, rfl⟩ : ∃ rest, count = rest + 1 := ⟨count - 1, by omega⟩
  have hhead : (success (first + ((0 : ℕ) : ℚ))).timestamp = first := by simp [success]
  rw [successesFrom, List.range_succ_eq_map, List.map_cons,
    foldlM_success_cooled normalizeEventType_success, hhead]

theorem not_probeLaw_of_zero (hk : trackerAt breaker events t = .ok k)
    (hmany : 1 < breaker.config.halfOpenSuccessesToClose) {first : ℚ} (hfirst : t < first)
    (hcooled : (k.cooled breaker.config first).state = .halfOpen)
    (hzero : (k.cooled breaker.config first).halfOpenStartedAt = some 0) :
    ¬ ProbeLaw breaker events t := by
  intro h
  obtain ⟨next, hfold, hclosed⟩ := h.closes hk hfirst
  have hprobes : ∀ probe ∈ successesFrom first
      (max 1 breaker.config.halfOpenSuccessesToClose).toNat,
      t < probe.timestamp ∧ normalizeEventType probe.eventType = .ok .success := fun probe hprobe =>
    ⟨hfirst.trans_le (mem_successesFrom hprobe).1, (mem_successesFrom hprobe).2⟩
  rw [foldlM_successesFrom first (by omega)] at hfold
  have hhalf : next.state = .halfOpen :=
    halfOpen_of_zero hmany hcooled hzero hprobes (pairwise_successesFrom _ _) hfold
  rw [hhalf] at hclosed
  cases hclosed

/-- The probes do their work exactly where the loop's state lets them. -/
theorem probeLaw_iff {snapshot : CircuitBreakerStateSnapshot}
    (hsnapshot : evaluateCircuitState breaker events t = .ok snapshot)
    (hhalf : snapshot.state = .halfOpen) :
    ProbeLaw breaker events t ↔
      ∃ k, trackerAt breaker events t = .ok k ∧ Probed breaker.config t k := by
  obtain ⟨k, hk, rfl⟩ := evaluateCircuitState_ok hsnapshot
  constructor
  · intro h
    refine ⟨k, hk, fun hstate => not_probeLaw_of_unavailable hk hstate h, ?_⟩
    by_contra hnot
    rw [not_or, not_le] at hnot
    refine hnot.2 ⟨fun hopen => ?_, fun hstate hzero => ?_⟩
    · by_contra hneg
      rcases state_of_settled hhalf breaker.openDurationSeconds_pos with
        hprobation | ⟨-, openedAt, hopened, hover⟩
      · rw [hopen] at hprobation
        cases hprobation
      · have hcooled := Tracker.cooled_of_over hopen hopened (hover.trans (not_le.mp hneg).le)
        exact not_probeLaw_of_zero hk hnot.1 (not_le.mp hneg) (by rw [hcooled]) (by rw [hcooled]) h
    · have hcooled : k.cooled breaker.config (t + 1) = k :=
        Tracker.cooled_of_ne (by simp [hstate])
      exact not_probeLaw_of_zero hk hnot.1 (lt_add_one t) (by rw [hcooled, hstate])
        (by rw [hcooled, hzero]) h
  · rintro ⟨other, hother, hprobed⟩
    have hsame : other = k := Except.ok.inj (hother.symm.trans hk)
    subst hsame
    exact ⟨fun probe eventType hlater hfailing htype =>
        failing_of_probed hk hhalf hprobed hlater hfailing htype,
      fun probes last hlast hlength hprobes hsorted =>
        succeeding_of_probed hk hhalf hprobed hlast hlength hprobes hsorted⟩

theorem probeLaw_iff_failures :
    ProbeLaw defaultBreaker [failure 1, failure 2, failure 3] 303 := by
  have hsnapshot : evaluateCircuitState defaultBreaker [failure 1, failure 2, failure 3] 303 =
      .ok ⟨.halfOpen, true, none, 0, "none supplied".toList⟩ := by decide +kernel
  have hk : trackerAt defaultBreaker [failure 1, failure 2, failure 3] 303 =
      .ok ⟨.opened, some 3, none, [failure 1, failure 2, failure 3], []⟩ := by decide +kernel
  exact (probeLaw_iff hsnapshot rfl).mpr ⟨_, hk, by simp, .inl (by decide)⟩

/-- After an outage and its duration, neither kind of probe has any effect. -/
theorem not_probeLaw_outage :
    ¬ ∀ (breaker : ProviderNeutralCircuitBreaker) (events : List CircuitBreakerEvent) (t : ℚ)
      (snapshot : CircuitBreakerStateSnapshot),
      evaluateCircuitState breaker events t = .ok snapshot → snapshot.state = .halfOpen →
        ProbeLaw breaker events t := by
  intro h
  have hsnapshot : evaluateCircuitState defaultBreaker [outage 0] 300 =
      .ok ⟨.halfOpen, true, none, 0, "none supplied".toList⟩ := by decide +kernel
  have hk : trackerAt defaultBreaker [outage 0] 300 = .ok ⟨.unavailable, some 0, none, [], []⟩ := by
    decide +kernel
  exact not_probeLaw_of_unavailable hk rfl (h defaultBreaker [outage 0] 300 _ hsnapshot rfl)

end MemoryLab.CircuitBreaker

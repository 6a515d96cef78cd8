import MemoryLab.Model.TierRouter

/-! # The provider-neutral circuit breaker

The state is computed anew from the supplied events at every call. Times are rationals. -/

namespace MemoryLab.CircuitBreaker

open Library
open Library.Rows

inductive State where
  | closed
  | degraded
  | opened
  | halfOpen
  | unavailable
deriving DecidableEq

def State.value : State → String
  | closed => "closed"
  | degraded => "degraded"
  | opened => "open"
  | halfOpen => "half_open"
  | unavailable => "unavailable"

inductive EventType where
  | success
  | failure
  | timeout
  | rateLimited
  | unavailable
  | manualReset
deriving DecidableEq

def EventType.value : EventType → String
  | success => "success"
  | failure => "failure"
  | timeout => "timeout"
  | rateLimited => "rate_limited"
  | unavailable => "unavailable"
  | manualReset => "manual_reset"

def validStates : List State := [.closed, .degraded, .opened, .halfOpen, .unavailable]

def validEventTypes : List EventType :=
  [.success, .failure, .timeout, .rateLimited, .unavailable, .manualReset]

def failureEvents : List EventType := [.failure, .timeout, .rateLimited]

structure CircuitBreakerEvent where
  eventType : Text
  timestamp : ℚ
  reason : Text := []
deriving DecidableEq

structure CircuitBreakerConfig where
  failureThreshold : ℤ := 3
  degradedThreshold : ℤ := 2
  windowSeconds : ℚ := 60
  openDurationSeconds : ℚ := 300
  halfOpenSuccessesToClose : ℤ := 1
deriving DecidableEq

structure CircuitBreakerStateSnapshot where
  state : State
  allowRequestRecommendation : Bool
  retryAfterSeconds : Option ℚ
  cooldownRemainingSeconds : ℚ
  failureReasonSummary : Text
deriving DecidableEq

/-- The text of a `ValueError`. -/
structure ValueError where
  message : Text
deriving DecidableEq

/-- A breaker holds a configuration that its constructor accepted. -/
structure ProviderNeutralCircuitBreaker where
  config : CircuitBreakerConfig
  failureThreshold_pos : 1 ≤ config.failureThreshold
  degradedThreshold_pos : 1 ≤ config.degradedThreshold
  windowSeconds_pos : 0 < config.windowSeconds
  openDurationSeconds_pos : 0 < config.openDurationSeconds

def makeProviderNeutralCircuitBreaker (config : CircuitBreakerConfig) :
    Except ValueError ProviderNeutralCircuitBreaker :=
  if hthresholds : config.failureThreshold < 1 ∨ config.degradedThreshold < 1 then
    .error ⟨"thresholds must be positive".toList⟩
  else if hdurations : config.windowSeconds ≤ 0 ∨ config.openDurationSeconds ≤ 0 then
    .error ⟨"durations must be positive".toList⟩
  else
    .ok {
      config
      failureThreshold_pos := by omega
      degradedThreshold_pos := by omega
      windowSeconds_pos := lt_of_not_ge fun h => hdurations (.inl h)
      openDurationSeconds_pos := lt_of_not_ge fun h => hdurations (.inr h) }

def normalizeState (state : Text) : Except ValueError State :=
  let value := Text.lower (if state = [] then "closed".toList else state)
  match validStates.find? fun valid => valid.value.toList = value with
  | none => .error ⟨"invalid circuit state: ".toList ++ state⟩
  | some valid => .ok valid

def normalizeEventType (eventType : Text) : Except ValueError EventType :=
  let value := Text.lower eventType
  match validEventTypes.find? fun valid => valid.value.toList = value with
  | none => .error ⟨"invalid circuit event type: ".toList ++ eventType⟩
  | some valid => .ok valid

/-- The variables of the loop over the events. -/
structure Tracker where
  state : State
  openedAt : Option ℚ := none
  halfOpenStartedAt : Option ℚ := none
  recentFailures : List CircuitBreakerEvent := []
  reasons : List Text := []
deriving DecidableEq

def successesSince (events : List CircuitBreakerEvent) (start stop : ℚ) : Except ValueError ℕ := do
  let eventTypes ← (events.filter fun event =>
    decide (start ≤ event.timestamp) && decide (event.timestamp ≤ stop)).mapM
      fun event => normalizeEventType event.eventType
  return eventTypes.count .success

/-- In `half_open_started_at or event.timestamp` the time zero is falsy. -/
def startOr (halfOpenStartedAt : Option ℚ) (timestamp : ℚ) : ℚ :=
  match halfOpenStartedAt with
  | none => timestamp
  | some start => if start = 0 then timestamp else start

/-- The event's reason is kept, and the failures that left the window are dropped. -/
def Tracker.noted (k : Tracker) (config : CircuitBreakerConfig) (event : CircuitBreakerEvent) :
    Tracker :=
  { k with
    reasons := if event.reason = [] then k.reasons else k.reasons ++ [event.reason]
    recentFailures := k.recentFailures.filter fun item =>
      event.timestamp - item.timestamp ≤ config.windowSeconds }

/-- An open breaker is half open once its duration is over. -/
def Tracker.cooled (k : Tracker) (config : CircuitBreakerConfig) (timestamp : ℚ) : Tracker :=
  match k.openedAt with
  | none => k
  | some openedAt =>
    if k.state = .opened ∧ config.openDurationSeconds ≤ timestamp - openedAt then
      { k with state := .halfOpen, halfOpenStartedAt := some timestamp }
    else k

def Tracker.failed (k : Tracker) (config : CircuitBreakerConfig) (event : CircuitBreakerEvent) :
    Tracker :=
  let recentFailures := k.recentFailures ++ [event]
  if k.state = .halfOpen ∨ config.failureThreshold ≤ recentFailures.length then
    { k with recentFailures, state := .opened, openedAt := some event.timestamp }
  else if config.degradedThreshold ≤ recentFailures.length ∧ k.state = .closed then
    { k with recentFailures, state := .degraded }
  else { k with recentFailures }

def Tracker.succeeded (k : Tracker) (config : CircuitBreakerConfig)
    (ordered : List CircuitBreakerEvent) (timestamp : ℚ) : Except ValueError Tracker :=
  match k.state with
  | .halfOpen => do
    let successes ← successesSince ordered (startOr k.halfOpenStartedAt timestamp) timestamp
    if config.halfOpenSuccessesToClose ≤ successes then
      return { k with state := .closed, openedAt := none, recentFailures := [] }
    else return k
  | .degraded =>
    .ok (if k.recentFailures = [] then { k with state := .closed } else k)
  | _ => .ok k

/-- One pass of the loop. -/
def observe (config : CircuitBreakerConfig) (ordered : List CircuitBreakerEvent) (k : Tracker)
    (event : CircuitBreakerEvent) : Except ValueError Tracker := do
  let eventType ← normalizeEventType event.eventType
  let k := k.noted config event
  match eventType with
  | .manualReset =>
    return { k with
      state := .closed, openedAt := none, halfOpenStartedAt := none, recentFailures := [] }
  | .unavailable =>
    return { k.cooled config event.timestamp with
      state := .unavailable, openedAt := some event.timestamp }
  | .success => (k.cooled config event.timestamp).succeeded config ordered event.timestamp
  | .failure | .timeout | .rateLimited =>
    return (k.cooled config event.timestamp).failed config event

/-- The time since `openedAt`, never negative. -/
def elapsed (openedAt now : ℚ) : ℚ := max 0 (now - openedAt)

/-- The state after the loop, which an open or unavailable breaker leaves once its duration is
over. -/
def Tracker.settled (k : Tracker) (config : CircuitBreakerConfig) (now : ℚ) : State :=
  match k.openedAt with
  | none => k.state
  | some openedAt =>
    if (k.state = .opened ∨ k.state = .unavailable) ∧
        config.openDurationSeconds ≤ elapsed openedAt now then .halfOpen
    else k.state

def retryAfter (config : CircuitBreakerConfig) (state : State) (openedAt : Option ℚ) (now : ℚ) :
    Option ℚ :=
  if state = .opened ∨ state = .unavailable then
    openedAt.map fun openedAt => max 0 (config.openDurationSeconds - elapsed openedAt now)
  else none

/-- Rounded to six digits. -/
def round6 (x : ℚ) : ℚ := TierRouter.roundHalfEven (x * 1000000) / 1000000

def failureReasonSummary (reasons : List Text) : Text :=
  if reasons = [] then "none supplied".toList
  else List.intercalate "; ".toList (distinctOn id reasons)

def Tracker.snapshot (k : Tracker) (config : CircuitBreakerConfig) (now : ℚ) :
    CircuitBreakerStateSnapshot :=
  let state := k.settled config now
  let retryAfterSeconds := retryAfter config state k.openedAt now
  { state
    allowRequestRecommendation :=
      decide (state = .closed ∨ state = .degraded ∨ state = .halfOpen) && retryAfterSeconds.isNone
    retryAfterSeconds
    cooldownRemainingSeconds := round6 (retryAfterSeconds.getD 0)
    failureReasonSummary := failureReasonSummary k.reasons }

def evaluateCircuitState (breaker : ProviderNeutralCircuitBreaker)
    (events : List CircuitBreakerEvent) (now : ℚ) (initialState : Text := "closed".toList) :
    Except ValueError CircuitBreakerStateSnapshot := do
  let state ← normalizeState initialState
  let ordered := sortOn (·.timestamp) events
  let k ← (ordered.filter fun event => event.timestamp ≤ now).foldlM
    (observe breaker.config ordered) { state }
  return k.snapshot breaker.config now

end MemoryLab.CircuitBreaker

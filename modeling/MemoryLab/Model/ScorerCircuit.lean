import MemoryLab.Model.AnswerGate

/-! # The circuit of the ingestion scorer

The calls of `score` in one process share the module's variables. Each call is three steps, the
check of the circuit, the backend's answer and its recording, and steps of different calls
interleave. Times are rationals, and the database reads the same clock. -/

namespace MemoryLab.Scorer

open Library
open Answer (FailureCode)

structure CircuitConfig where
  failureThreshold : ℤ := 3
  windowSeconds : ℚ := 60
  openDurationSeconds : ℚ := 300
deriving DecidableEq

/-- The row of the service in `cb_circuit_state`. -/
structure CircuitRow where
  openedAt : ℚ
  expiresAt : ℚ
deriving DecidableEq

/-- What a step finds of the database behind `DATABASE_URL`. -/
inductive DatabaseAccess where
  | notConfigured
  | unreachable
  | reachable
deriving DecidableEq

/-- The readings of the clock during one step. -/
structure Clock where
  first : ℚ
  second : ℚ
  third : ℚ
  ordered : first ≤ second ∧ second ≤ third
deriving DecidableEq

/-- How the backend answers. -/
inductive Outcome where
  | responded (degraded : Bool) (failureReason : Option FailureCode) (serializable : Bool)
  | raised
deriving DecidableEq

inductive ScoreResult where
  | fallback (reason : String)
  | parsed
deriving DecidableEq

inductive Stage where
  | calling
  | answered (outcome : Outcome)
  | finished (result : ScoreResult)
deriving DecidableEq

/-- The module's variables, the table and the calls. -/
structure Process where
  circuitOpenUntil : ℚ := 0
  circuitFailures : List ℚ := []
  circuitState : Option CircuitRow := none
  calls : List (ℕ × Stage) := []
deriving DecidableEq

/-! ## The circuit -/

/-- A row that has not expired becomes the deadline of the process. -/
def syncCircuitFromDb (p : Process) (now : ℚ) (db : DatabaseAccess) : Process :=
  match db, p.circuitState with
  | .reachable, some row =>
    if now < row.expiresAt then { p with circuitOpenUntil := row.expiresAt } else p
  | _, _ => p

def isCircuitOpen (p : Process) (clock : Clock) (db : DatabaseAccess) : Bool × Process :=
  if clock.first < p.circuitOpenUntil then (true, p)
  else
    let p := syncCircuitFromDb p clock.second db
    (decide (clock.third < p.circuitOpenUntil), p)

/-- The row expires after the duration in whole seconds. -/
def openCircuit (config : CircuitConfig) (p : Process) (now dbNow : ℚ) (db : DatabaseAccess) :
    Process :=
  { p with
    circuitOpenUntil := now + config.openDurationSeconds
    circuitState := match db with
      | .reachable => some ⟨dbNow, dbNow + (⌊config.openDurationSeconds⌋ : ℤ)⟩
      | _ => p.circuitState }

def recentFailures (config : CircuitConfig) (p : Process) (now : ℚ) : List ℚ :=
  p.circuitFailures.filter (fun time => now - time < config.windowSeconds) ++ [now]

def recordFailure (config : CircuitConfig) (p : Process) (clock : Clock) (db : DatabaseAccess) :
    Process :=
  let circuitFailures := recentFailures config p clock.first
  if config.failureThreshold ≤ circuitFailures.length then
    openCircuit config { p with circuitFailures } clock.second clock.third db
  else { p with circuitFailures }

def recordSuccess (p : Process) : Process :=
  { p with circuitFailures := [], circuitOpenUntil := 0 }

/-! ## A call -/

def failureCodeToReason : Option FailureCode → String
  | some .missingApiKey | some .providerImportMissing | some .notConfigured => "no_api_key"
  | some .circuitOpen => "circuit_open"
  | some .invalidJson | some .schemaValidationFailed => "parse_error"
  | _ => "api_error"

def transientCodes : List FailureCode :=
  [.providerHttpError, .rateLimited, .timeout, .unknownError]

/-- The end of `score`. A response that cannot be serialized raises after its success was
recorded. -/
def recordOutcome (config : CircuitConfig) (p : Process) (clock : Clock) (db : DatabaseAccess) :
    Outcome → Process × ScoreResult
  | .responded true failureReason _ =>
    (if failureReason.any (· ∈ transientCodes) then recordFailure config p clock db else p,
      .fallback (failureCodeToReason failureReason))
  | .responded false _ true => (recordSuccess p, .parsed)
  | .responded false _ false =>
    (recordFailure config (recordSuccess p) clock db, .fallback "api_error")
  | .raised => (recordFailure config p clock db, .fallback "api_error")

inductive Label where
  | check (call : ℕ) (content : Text) (configured : Bool) (clock : Clock) (db : DatabaseAccess)
  | answer (call : ℕ) (outcome : Outcome)
  | record (call : ℕ) (clock : Clock) (db : DatabaseAccess)
deriving DecidableEq

def stageOf (p : Process) (call : ℕ) : Option Stage :=
  (p.calls.find? fun entry => entry.1 = call).map (·.2)

def Process.setStage (p : Process) (call : ℕ) (stage : Stage) : Process :=
  { p with calls := (call, stage) :: p.calls.filter fun entry => entry.1 ≠ call }

/-- One step of one call; a step that is not the call's next one does nothing. -/
def step (config : CircuitConfig) (p : Process) : Label → Process
  | .check call content configured clock db =>
    if stageOf p call ≠ none then p
    else if content.strip = [] then p.setStage call (.finished (.fallback "empty_content"))
    else match isCircuitOpen p clock db with
      | (true, p) => p.setStage call (.finished (.fallback "circuit_open"))
      | (false, p) =>
        if configured then p.setStage call .calling
        else p.setStage call (.finished (.fallback "no_api_key"))
  | .answer call outcome =>
    match stageOf p call with
    | some .calling => p.setStage call (.answered outcome)
    | _ => p
  | .record call clock db =>
    match stageOf p call with
    | some (.answered outcome) =>
      let recorded := recordOutcome config p clock db outcome
      recorded.1.setStage call (.finished recorded.2)
    | _ => p

end MemoryLab.Scorer

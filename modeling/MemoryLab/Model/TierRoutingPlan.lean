import MemoryLab.Library.Dict
import MemoryLab.Library.PyText

/-! # The plan of a tier

Recommendations only. Scores and thresholds are exact. -/

namespace MemoryLab.TierPlanner

open Library

inductive PlanTier where
  | discard
  | transient
  | probationary
  | persistent
  | decisionArtifact
  | archived
  | conflicted
  | superseded
  | decayed
deriving DecidableEq

def allowedTiers : List PlanTier := [.discard, .transient, .probationary, .persistent]

def forbiddenTiers : List PlanTier :=
  [.decisionArtifact, .archived, .conflicted, .superseded, .decayed]

def defaultLimitations : List Text :=
  ["tier routing plan recommendation only".toList, "no durable tier change".toList,
    "no event emission".toList, "no autonomous governance authority".toList]

structure IngestionScore where
  composite : ℚ
  risk : ℚ
  confidence : ℚ
deriving DecidableEq

/-- A value that `float` refuses is `none`. -/
abbrev PolicyConfig := Dict Text (Option ℚ)

structure TierRoutingPlanInput where
  score : IngestionScore
  circuitState : Text := "closed".toList
  policyConfig : PolicyConfig := []
  safetyFlags : List Text := []
deriving DecidableEq

structure TierRoutingPlan where
  recommendedTier : PlanTier
  shouldPersist : Bool
  rationale : Text
  ruleIds : List Text
  limitations : List Text
  safetyFlags : List Text
deriving DecidableEq

/-! ## Thresholds -/

structure Thresholds where
  discardMax : ℚ
  transientMax : ℚ
  probationaryMin : ℚ
  persistentMin : ℚ
  highRisk : ℚ
  minConfidence : ℚ
deriving DecidableEq

/-- A value that is no number gives way to the default, as a missing one does. -/
def threshold (config : PolicyConfig) (key : String) (default : ℚ) : ℚ :=
  ((config.get? key.toList).getD (some default)).getD default

def thresholdsOf (config : PolicyConfig) : Thresholds :=
  { discardMax := threshold config "discard_max" (30 / 100)
    transientMax := threshold config "transient_max" (55 / 100)
    probationaryMin := threshold config "probationary_min" (55 / 100)
    persistentMin := threshold config "persistent_min" (78 / 100)
    highRisk := threshold config "high_risk" (70 / 100)
    minConfidence := threshold config "min_confidence" (45 / 100) }

/-- `probationary_min` is not read. -/
def tierFor (score : ℚ) (thresholds : Thresholds) : PlanTier :=
  if score ≤ thresholds.discardMax then .discard
  else if score ≤ thresholds.transientMax then .transient
  else if score < thresholds.persistentMin then .probationary
  else .persistent

/-- The cap that the weaker signals put on a score. -/
def Thresholds.belowProbationary (thresholds : Thresholds) : ℚ :=
  thresholds.probationaryMin - 1 / 1000000

/-! ## The plan -/

/-- What the signals change one after the other. -/
structure Draft where
  adjusted : ℚ
  ruleIds : List Text
  safetyFlags : List Text

def Draft.limit (draft : Draft) (cap : ℚ) (ruleId flag : String) : Draft :=
  { adjusted := min draft.adjusted cap
    ruleIds := draft.ruleIds ++ [ruleId.toList]
    safetyFlags := draft.safetyFlags ++ [flag.toList] }

def circuitStateOf (input : TierRoutingPlanInput) : Text :=
  Text.lower (if input.circuitState = [] then "closed".toList else input.circuitState)

def isBlocked (circuitState : Text) : Bool :=
  circuitState ∈ ["open".toList, "unavailable".toList]

def isDegraded (circuitState : Text) : Bool :=
  circuitState ∈ ["degraded".toList, "half_open".toList]

def limitCircuit (thresholds : Thresholds) (circuitState : Text) (draft : Draft) : Draft :=
  if isBlocked circuitState then
    draft.limit thresholds.transientMax "B21-C2-CIRCUIT-BLOCKS-PERSISTENCE" "circuit_not_closed"
  else if isDegraded circuitState then
    draft.limit thresholds.belowProbationary "B21-C2-CIRCUIT-DEGRADES-PLAN"
      "circuit_degraded_or_half_open"
  else draft

def limitRisk (thresholds : Thresholds) (risk : ℚ) (draft : Draft) : Draft :=
  if thresholds.highRisk ≤ risk then
    draft.limit thresholds.transientMax "B21-C2-HIGH-RISK-LIMITS-TIER" "high_risk_score"
  else draft

def limitConfidence (thresholds : Thresholds) (confidence : ℚ) (draft : Draft) : Draft :=
  if confidence < thresholds.minConfidence then
    draft.limit thresholds.belowProbationary "B21-C2-LOW-CONFIDENCE-LIMITS-TIER" "low_confidence"
  else draft

def draftOf (input : TierRoutingPlanInput) : Draft :=
  let thresholds := thresholdsOf input.policyConfig
  let draft :=
    { adjusted := input.score.composite, ruleIds := ["B21-C2-PLAN-ONLY".toList],
      safetyFlags := input.safetyFlags }
  let draft := limitCircuit thresholds (circuitStateOf input) draft
  let draft := limitRisk thresholds input.score.risk draft
  limitConfidence thresholds input.score.confidence draft

def boundaryRule : PlanTier → Option Text
  | .discard => some "B21-C2-DISCARD-BOUNDARY".toList
  | .transient => some "B21-C2-TRANSIENT-BOUNDARY".toList
  | .probationary => some "B21-C2-PROBATIONARY-BOUNDARY".toList
  | .persistent => some "B21-C2-PERSISTENT-BOUNDARY".toList
  | _ => none

/-- Empty values and repetitions are dropped. -/
def dedupe (values : List Text) : List Text := (values.filter (· ≠ [])).eraseDups

/-- The `ValueError` of a tier that must not be recommended. -/
structure ForbiddenTier where
  tier : PlanTier
deriving DecidableEq

def planTierRoute (input : TierRoutingPlanInput) : Except ForbiddenTier TierRoutingPlan :=
  let draft := draftOf input
  let tier := tierFor draft.adjusted (thresholdsOf input.policyConfig)
  if tier ∉ allowedTiers ∨ tier ∈ forbiddenTiers then .error ⟨tier⟩
  else .ok
    { recommendedTier := tier
      shouldPersist := tier ∈ [.probationary, .persistent] ∧ draft.safetyFlags = []
      rationale :=
        "deterministic B21 tier routing plan generated from scoring summary and ".toList ++
          "supplied circuit status".toList
      ruleIds := dedupe (draft.ruleIds ++ (boundaryRule tier).toList)
      limitations := defaultLimitations
      safetyFlags := dedupe draft.safetyFlags }

end MemoryLab.TierPlanner

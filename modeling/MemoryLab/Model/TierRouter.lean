import MemoryLab.Model.Schema

/-! # The tier router

Scores are rationals: a float is the rational it stands for. -/

namespace MemoryLab.TierRouter

open Library

/-- What the policy file and the environment set. -/
structure RoutingPolicy where
  discardMax : ℚ := 3 / 10
  transientMax : ℚ := 1 / 2
  probationaryMax : ℚ := 7 / 10
  minQuality : ℚ := 2 / 5
deriving DecidableEq

structure TierDecision where
  tier : Tier
  reason : Text
  ruleId : String
  shouldPersist : Bool
deriving DecidableEq

/-! ## Formatting -/

/-- The nearest integer, the even one of two. -/
def roundHalfEven (x : ℚ) : ℤ :=
  let rest := x - ⌊x⌋
  if rest < 1 / 2 then ⌊x⌋
  else if 1 / 2 < rest then ⌊x⌋ + 1
  else if ⌊x⌋ % 2 = 0 then ⌊x⌋ else ⌊x⌋ + 1

def digits (n : ℕ) : Text := Nat.toDigits 10 n

/-- The format `.3f`. -/
def fixed3 (x : ℚ) : Text :=
  let thousandths := (roundHalfEven (|x| * 1000)).toNat
  let fraction := digits (thousandths % 1000)
  (if x < 0 then ['-'] else []) ++ digits (thousandths / 1000) ++ ['.'] ++
    List.replicate (3 - fraction.length) '0' ++ fraction

/-! ## Routing -/

def route (policy : RoutingPolicy) (compositeScore : ℚ) (circuitOpen : Bool)
    (qualityScore : ℚ) : TierDecision :=
  if circuitOpen then
    ⟨.transient, "circuit_open:fallback_scores_used".toList, "T-TRANSIENT", true⟩
  else if qualityScore < policy.minQuality then
    ⟨.discard, "quality_floor:quality=".toList ++ fixed3 qualityScore ++ "<min=".toList ++
      fixed3 policy.minQuality, "T-DISCARD", false⟩
  else if compositeScore < policy.discardMax then
    ⟨.discard, "composite_below_discard_threshold:".toList ++ fixed3 compositeScore ++
      "<".toList ++ fixed3 policy.discardMax, "T-DISCARD", false⟩
  else if compositeScore < policy.transientMax then
    ⟨.transient, "composite_transient_range:".toList ++ fixed3 policy.discardMax ++
      "<=".toList ++ fixed3 compositeScore ++ "<".toList ++ fixed3 policy.transientMax,
      "T-TRANSIENT", true⟩
  else if compositeScore < policy.probationaryMax then
    ⟨.probationary, "composite_probationary_range:".toList ++ fixed3 policy.transientMax ++
      "<=".toList ++ fixed3 compositeScore ++ "<".toList ++ fixed3 policy.probationaryMax,
      "T-PROBATIONARY", true⟩
  else
    ⟨.persistent, "composite_persistent_threshold:".toList ++ fixed3 compositeScore ++
      ">=".toList ++ fixed3 policy.probationaryMax, "T-PERSISTENT", true⟩

example : fixed3 (1 / 16) = "0.062".toList := by decide +kernel

end MemoryLab.TierRouter

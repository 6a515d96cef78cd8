import Mathlib.Tactic.Linarith
import MemoryLab.Model.TierRoutingPlan

/-! # Adverse signals and the plan of a tier

A cap below `probationary_min` is a cap at transient only where `probationary_min` is not above
`transient_max`, which is the threshold that the tiers are read off. -/

namespace MemoryLab.TierPlanner

open Library

/-! ## Order of tiers -/

/-- The order of the tiers that may be recommended. -/
def PlanTier.rank : PlanTier → ℕ
  | .discard => 0
  | .transient => 1
  | .probationary => 2
  | .persistent => 3
  | _ => 4

theorem rank_tierFor_mono (thresholds : Thresholds) {score other : ℚ} (h : score ≤ other) :
    (tierFor score thresholds).rank ≤ (tierFor other thresholds).rank := by
  rw [tierFor, tierFor]
  by_cases hdiscard : score ≤ thresholds.discardMax
  · rw [if_pos hdiscard]
    exact Nat.zero_le _
  · rw [if_neg hdiscard, if_neg fun h' => hdiscard (h.trans h')]
    by_cases htransient : score ≤ thresholds.transientMax
    · rw [if_pos htransient]
      split
      · decide
      · split <;> decide
    · rw [if_neg htransient, if_neg fun h' => htransient (h.trans h')]
      by_cases hpersistent : score < thresholds.persistentMin
      · rw [if_pos hpersistent]
        split <;> decide
      · rw [if_neg hpersistent, if_neg fun h' => hpersistent (h.trans_lt h')]

theorem rank_tierFor_le_one {thresholds : Thresholds}
    (h : thresholds.discardMax ≤ thresholds.transientMax) {score : ℚ} :
    (tierFor score thresholds).rank ≤ 1 ↔ score ≤ thresholds.transientMax := by
  rw [tierFor]
  by_cases hdiscard : score ≤ thresholds.discardMax
  · rw [if_pos hdiscard]
    exact iff_of_true (by decide) (hdiscard.trans h)
  · rw [if_neg hdiscard]
    by_cases htransient : score ≤ thresholds.transientMax
    · rw [if_pos htransient]
      exact iff_of_true (by decide) htransient
    · rw [if_neg htransient]
      refine iff_of_false ?_ htransient
      split <;> decide

/-- A tier that is read off a score may be recommended. -/
theorem tierFor_allowed (score : ℚ) (thresholds : Thresholds) :
    ¬ (tierFor score thresholds ∉ allowedTiers ∨ tierFor score thresholds ∈ forbiddenTiers) := by
  rw [tierFor]
  split
  · decide
  · split
    · decide
    · split <;> decide

/-! ## Signals -/

inductive Signal where
  | circuitOpen
  | circuitUnavailable
  | circuitDegraded
  | circuitHalfOpen
  | highRisk
  | lowConfidence
deriving DecidableEq

/-- The signal is present. -/
def Signal.In (input : TierRoutingPlanInput) : Signal → Prop
  | .circuitOpen => circuitStateOf input = "open".toList
  | .circuitUnavailable => circuitStateOf input = "unavailable".toList
  | .circuitDegraded => circuitStateOf input = "degraded".toList
  | .circuitHalfOpen => circuitStateOf input = "half_open".toList
  | .highRisk => (thresholdsOf input.policyConfig).highRisk ≤ input.score.risk
  | .lowConfidence => input.score.confidence < (thresholdsOf input.policyConfig).minConfidence

/-- The score with a cap under a condition. -/
def capped (score : ℚ) (condition : Prop) [Decidable condition] (cap : ℚ) : ℚ :=
  if condition then min score cap else score

theorem capped_le {score other cap : ℚ} {condition weaker : Prop} [Decidable condition]
    [Decidable weaker] (h : score ≤ other) (hweaker : weaker → condition) :
    capped score condition cap ≤ capped other weaker cap := by
  rw [capped, capped]
  by_cases hw : weaker
  · rw [if_pos (hweaker hw), if_pos hw]
    exact min_le_min_right cap h
  · rw [if_neg hw]
    split
    · exact (min_le_left _ _).trans h
    · exact h

theorem capped_le_iff {score cap bound : ℚ} {condition : Prop} [Decidable condition] :
    capped score condition cap ≤ bound ↔ score ≤ bound ∨ (condition ∧ cap ≤ bound) := by
  rw [capped]
  split
  · rename_i hcondition
    simp [hcondition]
  · rename_i hcondition
    simp [hcondition]

/-- A circuit that is open or unavailable. -/
def Blocked (input : TierRoutingPlanInput) : Prop :=
  Signal.circuitOpen.In input ∨ Signal.circuitUnavailable.In input

/-- A circuit that is degraded or half open. -/
def Degraded (input : TierRoutingPlanInput) : Prop :=
  Signal.circuitDegraded.In input ∨ Signal.circuitHalfOpen.In input

instance (input : TierRoutingPlanInput) : (signal : Signal) → Decidable (signal.In input)
  | .circuitOpen | .circuitUnavailable | .circuitDegraded | .circuitHalfOpen =>
    inferInstanceAs (Decidable (_ = _))
  | .highRisk => inferInstanceAs (Decidable (_ ≤ _))
  | .lowConfidence => inferInstanceAs (Decidable (_ < _))

instance (input : TierRoutingPlanInput) : Decidable (Blocked input) :=
  inferInstanceAs (Decidable (_ ∨ _))

instance (input : TierRoutingPlanInput) : Decidable (Degraded input) :=
  inferInstanceAs (Decidable (_ ∨ _))

theorem isBlocked_iff (input : TierRoutingPlanInput) :
    isBlocked (circuitStateOf input) = true ↔ Blocked input := by
  simp [isBlocked, Blocked, Signal.In]

theorem isDegraded_iff (input : TierRoutingPlanInput) :
    isDegraded (circuitStateOf input) = true ↔ Degraded input := by
  simp [isDegraded, Degraded, Signal.In]

theorem not_degraded_of_blocked {input : TierRoutingPlanInput} (h : Blocked input) :
    ¬ Degraded input := by
  have hne : ∀ state ∈ ["open".toList, "unavailable".toList],
      state ∉ ["degraded".toList, "half_open".toList] := by decide
  rw [← isBlocked_iff] at h
  rw [← isDegraded_iff]
  simpa [isDegraded] using hne _ (of_decide_eq_true h)

/-- The score that the tier is read off. -/
def adjustedScore (input : TierRoutingPlanInput) : ℚ :=
  let thresholds := thresholdsOf input.policyConfig
  let score := capped input.score.composite (Blocked input) thresholds.transientMax
  let score := capped score (Degraded input) thresholds.belowProbationary
  let score := capped score (Signal.highRisk.In input) thresholds.transientMax
  capped score (Signal.lowConfidence.In input) thresholds.belowProbationary

theorem adjusted_limitRisk (thresholds : Thresholds) (risk : ℚ) (draft : Draft) :
    (limitRisk thresholds risk draft).adjusted =
      capped draft.adjusted (thresholds.highRisk ≤ risk) thresholds.transientMax := by
  rw [limitRisk, capped]
  split <;> rfl

theorem adjusted_limitConfidence (thresholds : Thresholds) (confidence : ℚ) (draft : Draft) :
    (limitConfidence thresholds confidence draft).adjusted =
      capped draft.adjusted (confidence < thresholds.minConfidence)
        thresholds.belowProbationary := by
  rw [limitConfidence, capped]
  split <;> rfl

theorem adjusted_limitCircuit (input : TierRoutingPlanInput) (thresholds : Thresholds)
    (draft : Draft) : (limitCircuit thresholds (circuitStateOf input) draft).adjusted =
      capped (capped draft.adjusted (Blocked input) thresholds.transientMax) (Degraded input)
        thresholds.belowProbationary := by
  rw [limitCircuit]
  simp only [isBlocked_iff, isDegraded_iff]
  by_cases hblocked : Blocked input
  · rw [if_pos hblocked, capped, if_neg (not_degraded_of_blocked hblocked), capped,
      if_pos hblocked]
    rfl
  · rw [if_neg hblocked, capped, capped, if_neg hblocked]
    split <;> rfl

theorem adjusted_draftOf (input : TierRoutingPlanInput) :
    (draftOf input).adjusted = adjustedScore input := by
  rw [draftOf, adjusted_limitConfidence, adjusted_limitRisk, adjusted_limitCircuit]
  rfl

/-- More signals and a lower composite score make a lower score. -/
theorem adjustedScore_le {input other : TierRoutingPlanInput}
    (hcomposite : input.score.composite ≤ other.score.composite)
    (hconfig : input.policyConfig = other.policyConfig)
    (hsignals : ∀ signal : Signal, signal.In other → signal.In input) :
    adjustedScore input ≤ adjustedScore other := by
  rw [adjustedScore, adjustedScore, hconfig]
  apply capped_le _ (hsignals .lowConfidence)
  apply capped_le _ (hsignals .highRisk)
  apply capped_le _ (Or.imp (hsignals .circuitDegraded) (hsignals .circuitHalfOpen))
  apply capped_le hcomposite (Or.imp (hsignals .circuitOpen) (hsignals .circuitUnavailable))

theorem safetyFlags_draftOf (input : TierRoutingPlanInput) : (draftOf input).safetyFlags =
    input.safetyFlags ++
      (if Blocked input then ["circuit_not_closed".toList]
        else if Degraded input then ["circuit_degraded_or_half_open".toList] else []) ++
      (if Signal.highRisk.In input then ["high_risk_score".toList] else []) ++
      if Signal.lowConfidence.In input then ["low_confidence".toList] else [] := by
  have happend : ∀ (draft : Draft) (condition : Prop) [Decidable condition] (cap : ℚ)
      (ruleId flag : String), (if condition then draft.limit cap ruleId flag else draft).safetyFlags =
        draft.safetyFlags ++ if condition then [flag.toList] else [] := by
    intro draft condition _ cap ruleId flag
    split
    · rfl
    · rw [List.append_nil]
  have hcircuit : ∀ (thresholds : Thresholds) (draft : Draft),
      (limitCircuit thresholds (circuitStateOf input) draft).safetyFlags = draft.safetyFlags ++
        if Blocked input then ["circuit_not_closed".toList]
        else if Degraded input then ["circuit_degraded_or_half_open".toList] else [] := by
    intro thresholds draft
    rw [limitCircuit]
    simp only [isBlocked_iff, isDegraded_iff]
    split
    · rfl
    · exact happend _ _ _ _ _
  rw [draftOf, limitConfidence, happend, limitRisk, happend, hcircuit]
  rfl

/-- A signal leaves a flag. -/
theorem safetyFlags_ne_nil {input : TierRoutingPlanInput} {signal : Signal}
    (h : signal.In input) : (draftOf input).safetyFlags ≠ [] := by
  rw [safetyFlags_draftOf]
  intro hnil
  simp only [List.append_eq_nil_iff] at hnil
  obtain ⟨⟨⟨_, hcircuit⟩, hrisk⟩, hconfidence⟩ := hnil
  have hneither : ¬ Blocked input ∧ ¬ Degraded input := by
    constructor
    · intro hblocked
      rw [if_pos hblocked] at hcircuit
      cases hcircuit
    · intro hdegraded
      rw [if_pos hdegraded] at hcircuit
      split at hcircuit <;> cases hcircuit
  cases signal with
  | circuitOpen => exact hneither.1 (.inl h)
  | circuitUnavailable => exact hneither.1 (.inr h)
  | circuitDegraded => exact hneither.2 (.inl h)
  | circuitHalfOpen => exact hneither.2 (.inr h)
  | highRisk =>
      rw [if_pos h] at hrisk
      cases hrisk
  | lowConfidence =>
      rw [if_pos h] at hconfidence
      cases hconfidence

theorem adjustedScore_le_transientMax {input : TierRoutingPlanInput} :
    adjustedScore input ≤ (thresholdsOf input.policyConfig).transientMax ↔
      input.score.composite ≤ (thresholdsOf input.policyConfig).transientMax ∨ Blocked input ∨
        Signal.highRisk.In input ∨ ((Degraded input ∨ Signal.lowConfidence.In input) ∧
          (thresholdsOf input.policyConfig).belowProbationary ≤
            (thresholdsOf input.policyConfig).transientMax) := by
  rw [adjustedScore]
  simp only [capped_le_iff, le_refl, and_true, or_and_right]
  tauto

/-! ## The plan -/

theorem planTierRoute_spec (input : TierRoutingPlanInput) :
    ∃ plan, planTierRoute input = .ok plan ∧
      plan.recommendedTier = tierFor (adjustedScore input) (thresholdsOf input.policyConfig) ∧
      ((draftOf input).safetyFlags ≠ [] → plan.shouldPersist = false) := by
  have hallowed := tierFor_allowed (adjustedScore input) (thresholdsOf input.policyConfig)
  rw [planTierRoute, adjusted_draftOf, if_neg hallowed]
  refine ⟨_, rfl, rfl, fun hflags => ?_⟩
  simp [hflags]

/-- The thresholds are in order. -/
structure Ordered (thresholds : Thresholds) : Prop where
  discard_le : thresholds.discardMax ≤ thresholds.transientMax
  transient_le : thresholds.transientMax ≤ thresholds.probationaryMin
  probationary_le : thresholds.probationaryMin ≤ thresholds.persistentMin

def TierRoutingPlanInput.withComposite (input : TierRoutingPlanInput) (composite : ℚ) :
    TierRoutingPlanInput :=
  { input with score := { input.score with composite } }

/-- The plan follows the composite score and is held down by the signals. -/
structure SignalsCap (input : TierRoutingPlanInput) : Prop where
  accepted : ∃ plan, planTierRoute input = .ok plan
  monotone : ∀ composite, input.score.composite ≤ composite → ∀ plan higher,
    planTierRoute input = .ok plan →
      planTierRoute (input.withComposite composite) = .ok higher →
        plan.recommendedTier.rank ≤ higher.recommendedTier.rank
  not_raised : ∀ other : TierRoutingPlanInput, other.score.composite = input.score.composite →
    other.policyConfig = input.policyConfig →
      (∀ signal : Signal, signal.In input → signal.In other) → ∀ plan lower,
        planTierRoute input = .ok plan → planTierRoute other = .ok lower →
          lower.recommendedTier.rank ≤ plan.recommendedTier.rank
  capped : (∃ signal : Signal, signal.In input) → ∀ plan, planTierRoute input = .ok plan →
    plan.recommendedTier.rank ≤ PlanTier.transient.rank ∧ plan.shouldPersist = false

theorem rank_le_of_adjustedScore_le {input other : TierRoutingPlanInput}
    {plan otherPlan : TierRoutingPlan} (hconfig : input.policyConfig = other.policyConfig)
    (hscore : adjustedScore input ≤ adjustedScore other) (hplan : planTierRoute input = .ok plan)
    (hother : planTierRoute other = .ok otherPlan) :
    plan.recommendedTier.rank ≤ otherPlan.recommendedTier.rank := by
  obtain ⟨plan', hplan', htier, _⟩ := planTierRoute_spec input
  obtain ⟨other', hother', htier', _⟩ := planTierRoute_spec other
  obtain rfl : plan = plan' := Except.ok.inj (hplan.symm.trans hplan')
  obtain rfl : otherPlan = other' := Except.ok.inj (hother.symm.trans hother')
  rw [htier, htier', hconfig]
  exact rank_tierFor_mono _ hscore

/-- The signals hold the plan down exactly where a cap below `probationary_min` is a cap at
transient, or is not what decides. -/
theorem signalsCap_iff {input : TierRoutingPlanInput}
    (h : Ordered (thresholdsOf input.policyConfig)) : SignalsCap input ↔
      (∀ signal : Signal, ¬ signal.In input) ∨ Blocked input ∨ Signal.highRisk.In input ∨
        input.score.composite ≤ (thresholdsOf input.policyConfig).transientMax ∨
        (thresholdsOf input.policyConfig).probationaryMin - 1 / 1000000 ≤
          (thresholdsOf input.policyConfig).transientMax := by
  obtain ⟨plan, hplan, htier, hpersist⟩ := planTierRoute_spec input
  have hcapped : plan.recommendedTier.rank ≤ 1 ↔
      adjustedScore input ≤ (thresholdsOf input.policyConfig).transientMax := by
    rw [htier, rank_tierFor_le_one h.discard_le]
  rw [adjustedScore_le_transientMax, Thresholds.belowProbationary] at hcapped
  constructor
  · intro hcap
    by_cases hsignal : ∃ signal : Signal, signal.In input
    · have hrank := hcapped.mp (hcap.capped hsignal plan hplan).1
      tauto
    · exact .inl (not_exists.mp hsignal)
  · intro hcondition
    refine ⟨⟨plan, hplan⟩, ?_, ?_, ?_⟩
    · intro composite hcomposite plan higher hplan hhigher
      have hsignals : ∀ signal : Signal,
          signal.In (input.withComposite composite) → signal.In input := by
        intro signal hsignal
        cases signal <;> exact hsignal
      have hscore : adjustedScore input ≤ adjustedScore (input.withComposite composite) :=
        adjustedScore_le hcomposite rfl hsignals
      have hconfig : input.policyConfig = (input.withComposite composite).policyConfig := rfl
      exact rank_le_of_adjustedScore_le hconfig hscore hplan hhigher
    · intro other hcomposite hconfig hsignals plan lower hplan hlower
      exact rank_le_of_adjustedScore_le hconfig
        (adjustedScore_le hcomposite.le hconfig hsignals) hlower hplan
    · rintro ⟨signal, hsignal⟩ plan' hplan'
      obtain rfl : plan = plan' := Except.ok.inj (hplan.symm.trans hplan')
      refine ⟨hcapped.mpr ?_, hpersist (safetyFlags_ne_nil hsignal)⟩
      have hkind : Blocked input ∨ Signal.highRisk.In input ∨ Degraded input ∨
          Signal.lowConfidence.In input := by
        cases signal with
        | circuitOpen => exact .inl (.inl hsignal)
        | circuitUnavailable => exact .inl (.inr hsignal)
        | circuitDegraded => exact .inr (.inr (.inl (.inl hsignal)))
        | circuitHalfOpen => exact .inr (.inr (.inl (.inr hsignal)))
        | highRisk => exact .inr (.inl hsignal)
        | lowConfidence => exact .inr (.inr (.inr hsignal))
      rcases hcondition.resolve_left fun hnone => hnone signal hsignal with
        hblocked | hrisk | hlow | hcap
      · exact .inr (.inl hblocked)
      · exact .inr (.inr (.inl hrisk))
      · exact .inl hlow
      · rcases hkind with hblocked | hrisk | hweak
        · exact .inr (.inl hblocked)
        · exact .inr (.inr (.inl hrisk))
        · exact .inr (.inr (.inr ⟨hweak, hcap⟩))

section Sample

/-- Probation starts above what is transient. -/
def gappedConfig : PolicyConfig :=
  [("transient_max".toList, some (1 / 2)), ("probationary_min".toList, some (3 / 5))]

def degradedInput (composite : ℚ) (config : PolicyConfig) : TierRoutingPlanInput :=
  { score := { composite, risk := 0, confidence := 9 / 10 }
    circuitState := "degraded".toList
    policyConfig := config }

theorem ordered_gapped : Ordered (thresholdsOf gappedConfig) := by
  constructor <;> decide +kernel

theorem signalsCap_iff_sample : SignalsCap (degradedInput (2 / 5) gappedConfig) := by
  refine (@signalsCap_iff (degradedInput (2 / 5) gappedConfig) ordered_gapped).mpr ?_
  right; right; right; left
  decide +kernel

/-- A degraded circuit leaves a high score probationary. -/
theorem not_signalsCap : ¬ ∀ input : TierRoutingPlanInput,
    Ordered (thresholdsOf input.policyConfig) → SignalsCap input := by
  intro hall
  have hcap := hall (degradedInput (9 / 10) gappedConfig) ordered_gapped
  obtain ⟨plan, hplan⟩ := hcap.accepted
  have hrank := (hcap.capped ⟨.circuitDegraded, by decide +kernel⟩ plan hplan).1
  obtain ⟨plan', hplan', htier, _⟩ := planTierRoute_spec (degradedInput (9 / 10) gappedConfig)
  obtain rfl : plan = plan' := Except.ok.inj (hplan.symm.trans hplan')
  rw [htier] at hrank
  revert hrank
  decide +kernel

end Sample

end MemoryLab.TierPlanner

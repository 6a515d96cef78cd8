import MemoryLab.Model.Schema
import Mathlib.Data.List.Sort

/-! # The transition matrix of the tiers -/

namespace MemoryLab

def Tier.label : Tier → String
  | discard => "discard"
  | transient => "transient"
  | probationary => "probationary"
  | persistent => "persistent"
  | decisionArtifact => "decision_artifact"
  | conflicted => "conflicted"
  | superseded => "superseded"
  | decayed => "decayed"
  | archived => "archived"

def TriggerType.label : TriggerType → String
  | system => "system"
  | humanOverride => "human_override"
  | policyEngine => "policy_engine"

def quoted (text : String) : String := "'" ++ text ++ "'"

def Tier.repr? : Option Tier → String
  | some tier => quoted tier.label
  | none => "None"

namespace TransitionMatrix

structure GovernanceTransitionError where
  previousTier : Option Tier
  newTier : Tier
  reason : String
deriving DecidableEq

def GovernanceTransitionError.message (error : GovernanceTransitionError) : String :=
  "[transition_matrix] FORBIDDEN " ++ Tier.repr? error.previousTier ++ " → " ++
    quoted error.newTier.label ++ ": " ++ error.reason

def terminalTiers : List Tier := [.archived, .decayed, .superseded]

def humanGateTiers : List Tier := [.decisionArtifact]

/-- The targets that a tier reaches by system or policy engine. -/
def allowedSystem : Option Tier → List Tier
  | none => [.discard, .transient, .probationary, .persistent]
  | some .transient => [.probationary, .persistent, .decayed, .archived, .conflicted]
  | some .probationary => [.persistent, .decayed, .archived, .conflicted]
  | some .persistent => [.decayed, .archived, .conflicted, .superseded]
  | some .conflicted => [.persistent, .transient, .archived]
  | some _ => []

def sortedLabels (tiers : List Tier) : String :=
  "[" ++ ", ".intercalate
    (((tiers.map Tier.label).insertionSort (· ≤ ·)).map quoted) ++ "]"

def isTerminal : Option Tier → Bool
  | some tier => tier ∈ terminalTiers
  | none => false

def validateTransition (previousTier : Option Tier) (newTier : Tier)
    (triggerType : TriggerType := .system) : Except GovernanceTransitionError Unit :=
  if newTier ∈ humanGateTiers ∧ triggerType ≠ .humanOverride then
    .error ⟨previousTier, newTier,
      "tier " ++ quoted newTier.label ++ " requires trigger_type='human_override', got " ++
        quoted triggerType.label⟩
  else if isTerminal previousTier then
    .error ⟨previousTier, newTier,
      "tier " ++ Tier.repr? previousTier ++
        " is terminal — no transitions are allowed out of it"⟩
  else if previousTier = some .discard then
    .error ⟨previousTier, newTier,
      "discarded content has no content_id; tier transitions are not valid"⟩
  else if triggerType = .humanOverride then .ok ()
  else if newTier ∉ allowedSystem previousTier then
    .error ⟨previousTier, newTier,
      "not in allowed system transitions for " ++
        quoted (previousTier.elim "None" Tier.label) ++ ": " ++
        sortedLabels (allowedSystem previousTier)⟩
  else .ok ()

end TransitionMatrix

end MemoryLab

import MemoryLab.Model.Reasoning

/-! # What a traversal tells of a pack

The steps of a traversal are numbered, come hop by hop, and name the evidence of the pack and
nothing else. -/

namespace MemoryLab.Reasoning

open Library Library.Rows ContextPackBuilder
open TierRouter (digits)

/-! ## Numbers of steps -/

theorem ofDigitChars_zero_cons (s : List Char) :
    Nat.ofDigitChars 10 ('0' :: s) 0 = Nat.ofDigitChars 10 s 0 := rfl

/-- The padding does not change the number that is read. -/
theorem ofDigitChars_stepLabel (n : ℕ) :
    Nat.ofDigitChars 10 ((stepLabel n).drop "step_".toList.length) 0 = n := by
  rw [stepLabel, List.drop_left]
  split
  · rw [ofDigitChars_zero_cons, digits, Nat.ofDigitChars_ten_toDigits]
  · rw [digits, Nat.ofDigitChars_ten_toDigits]

theorem stepLabel_injective : Function.Injective stepLabel := by
  intro n m h
  have hn := ofDigitChars_stepLabel n
  rw [h, ofDigitChars_stepLabel] at hn
  exact hn.symm

section Numbered

variable {steps : List ReasoningTraversalStep}

theorem map_stepId_numbered :
    (numbered steps).map (·.stepId) =
      (List.range steps.length).map fun n => stepLabel (n + 1) := by
  apply List.ext_getElem
  · simp [numbered]
  · intro n _ _
    simp [numbered]

theorem nodup_stepId_numbered : ((numbered steps).map (·.stepId)).Nodup := by
  rw [map_stepId_numbered]
  apply List.nodup_range.map
  intro n m h
  have := stepLabel_injective h
  omega

/-- What does not depend on its number is the same of a step before and after it is numbered. -/
theorem map_numbered {α : Type} {f : ReasoningTraversalStep → α}
    (hf : ∀ step id, f { step with stepId := id } = f step) :
    (numbered steps).map f = steps.map f := by
  apply List.ext_getElem
  · simp [numbered]
  · intro n _ _
    simp [numbered, hf]

theorem numbered_append (steps others : List ReasoningTraversalStep) :
    ∃ rest, numbered (steps ++ others) = numbered steps ++ rest ∧
      rest.map (·.hop) = others.map (·.hop) := by
  refine ⟨_, List.mapIdx_append, ?_⟩
  apply List.ext_getElem
  · simp
  · intro n _ _
    simp

/-- Of two lists with the same hops, the hop of a step of one is the hop of a step of the other. -/
theorem exists_hop_eq_of_map_eq {others : List ReasoningTraversalStep}
    (h : steps.map (·.hop) = others.map (·.hop)) {step : ReasoningTraversalStep}
    (hstep : step ∈ steps) : ∃ other ∈ others, other.hop = step.hop := by
  have hhop : step.hop ∈ steps.map (·.hop) := List.mem_map_of_mem hstep
  rw [h] at hhop
  exact List.mem_map.mp hhop

end Numbered

/-! ## Hops -/

section Hops

variable (convert : Conversions) (packId : Text) (scope : Option Text) (pack : ContextPack)

/-- A step of a hop is the step of one of the hop's relations. -/
theorem exists_step_of_mem_hopSteps {hop : ℕ} {step : ReasoningTraversalStep}
    (h : step ∈ hopSteps convert packId scope pack hop) :
    ∃ relation : Relation, ∃ source target ids,
      relation.hop = hop ∧ step = relation.step source target ids := by
  match hop with
  | 0 => exact ⟨_, _, _, _, rfl, List.mem_singleton.mp h⟩
  | 1 =>
      simp only [hopSteps, supportSteps, provenanceSteps, List.mem_append, List.mem_map,
        List.mem_flatMap] at h
      rcases h with ⟨ref, -, rfl⟩ | ⟨ref, -, h | h⟩
      · exact ⟨_, _, _, _, rfl, rfl⟩
      · split at h
        · exact ⟨_, _, _, _, rfl, List.mem_singleton.mp h⟩
        · cases h
      · split at h
        · exact ⟨_, _, _, _, rfl, List.mem_singleton.mp h⟩
        · cases h
  | 2 =>
      simp only [hopSteps, signalSteps, staleSteps, conflictSteps, List.mem_append,
        List.mem_map] at h
      rcases h with (⟨ref, -, rfl⟩ | ⟨ref, -, rfl⟩) | ⟨conflict, -, rfl⟩ <;>
        exact ⟨_, _, _, _, rfl, rfl⟩
  | 3 =>
      obtain ⟨ref, -, rfl⟩ := List.mem_map.mp h
      exact ⟨_, _, _, _, rfl, rfl⟩
  | hop + 4 => cases h

theorem hop_of_mem_hopSteps {hop : ℕ} {step : ReasoningTraversalStep}
    (h : step ∈ hopSteps convert packId scope pack hop) : step.hop = hop := by
  obtain ⟨relation, source, target, ids, hhop, rfl⟩ :=
    exists_step_of_mem_hopSteps convert packId scope pack h
  exact hhop

theorem relation_hop_of_mem_hopSteps {hop : ℕ} {step : ReasoningTraversalStep}
    (h : step ∈ hopSteps convert packId scope pack hop) : step.relation.hop = hop := by
  obtain ⟨relation, source, target, ids, hhop, rfl⟩ :=
    exists_step_of_mem_hopSteps convert packId scope pack h
  exact hhop

/-- The steps of the first hops. -/
def stepsUpTo (hops : ℕ) : List ReasoningTraversalStep :=
  (List.range (hops + 1)).flatMap (hopSteps convert packId scope pack)

theorem clampHops_cases (maxHops : ℤ) :
    clampHops maxHops = 1 ∨ clampHops maxHops = 2 ∨ clampHops maxHops = 3 := by
  rw [clampHops]
  split <;> omega

theorem clampHops_nonneg (maxHops : ℤ) : 0 ≤ clampHops maxHops := by
  have := clampHops_cases maxHops
  omega

theorem buildTraversalSteps_eq (maxHops : ℤ) :
    buildTraversalSteps convert packId scope pack maxHops =
      numbered (stepsUpTo convert packId scope pack (clampHops maxHops).toNat) := by
  rcases clampHops_cases maxHops with h | h | h <;>
    simp [buildTraversalSteps, stepsUpTo, h, List.range_succ]

theorem stepsUpTo_append {hops more : ℕ} (h : hops ≤ more) :
    ∃ rest, stepsUpTo convert packId scope pack more =
        stepsUpTo convert packId scope pack hops ++ rest ∧
      ∀ step ∈ rest, hops < step.hop := by
  induction more with
  | zero => exact ⟨[], by simp [Nat.le_zero.mp h], by simp⟩
  | succ more ih =>
      rcases Nat.lt_or_eq_of_le h with hlt | rfl
      · obtain ⟨rest, hrest, hhops⟩ := ih (by omega)
        refine ⟨rest ++ hopSteps convert packId scope pack (more + 1), ?_, ?_⟩
        · rw [stepsUpTo, List.range_succ, List.flatMap_append, ← stepsUpTo, hrest]
          simp
        · intro step hstep
          rcases List.mem_append.mp hstep with hstep | hstep
          · exact hhops step hstep
          · have := hop_of_mem_hopSteps convert packId scope pack hstep
            omega
      · exact ⟨[], by simp, by simp⟩

theorem hop_le_of_mem_stepsUpTo {hops : ℕ} {step : ReasoningTraversalStep}
    (h : step ∈ stepsUpTo convert packId scope pack hops) : step.hop ≤ hops := by
  obtain ⟨hop, hhop, hstep⟩ := List.mem_flatMap.mp h
  have := hop_of_mem_hopSteps convert packId scope pack hstep
  have := List.mem_range.mp hhop
  omega

theorem pairwise_hop_stepsUpTo (hops : ℕ) :
    ((stepsUpTo convert packId scope pack hops).map (·.hop)).Pairwise (· ≤ ·) := by
  induction hops with
  | zero =>
      simp [stepsUpTo, hopSteps]
  | succ hops ih =>
      rw [stepsUpTo, List.range_succ, List.flatMap_append, ← stepsUpTo, List.map_append,
        List.pairwise_append]
      refine ⟨ih, ?_, ?_⟩
      · rw [List.pairwise_map]
        apply List.pairwise_of_forall_mem_list
        intro a ha b hb
        rw [List.flatMap_singleton] at ha hb
        rw [hop_of_mem_hopSteps convert packId scope pack ha,
          hop_of_mem_hopSteps convert packId scope pack hb]
      · simp only [List.mem_map, List.flatMap_singleton]
        rintro _ ⟨first, hfirst, rfl⟩ _ ⟨second, hsecond, rfl⟩
        have := hop_le_of_mem_stepsUpTo convert packId scope pack hfirst
        have := hop_of_mem_hopSteps convert packId scope pack hsecond
        omega

/-- A traversal of fewer hops is what a traversal of all of them says about these hops, step
ids included. -/
theorem filter_buildTraversalSteps (maxHops : ℤ) :
    buildTraversalSteps convert packId scope pack maxHops =
      (buildTraversalSteps convert packId scope pack 3).filter fun step =>
        step.hop ≤ clampHops maxHops := by
  have hle : (clampHops maxHops).toNat ≤ 3 := by
    rcases clampHops_cases maxHops with h | h | h <;> omega
  have hthree : (clampHops 3).toNat = 3 := rfl
  obtain ⟨rest, hrest, hmore⟩ := stepsUpTo_append convert packId scope pack hle
  obtain ⟨others, hothers, hhops⟩ :=
    numbered_append (stepsUpTo convert packId scope pack (clampHops maxHops).toNat) rest
  rw [buildTraversalSteps_eq, buildTraversalSteps_eq, hthree, hrest, hothers, List.filter_append]
  have hnonneg := clampHops_nonneg maxHops
  have hkept : ∀ step ∈ numbered
      (stepsUpTo convert packId scope pack (clampHops maxHops).toNat),
      decide ((step.hop : ℤ) ≤ clampHops maxHops) = true := by
    intro step hstep
    obtain ⟨original, horiginal, hhop⟩ :=
      exists_hop_eq_of_map_eq (map_numbered fun _ _ => rfl) hstep
    have := hop_le_of_mem_stepsUpTo convert packId scope pack horiginal
    rw [decide_eq_true_eq]
    omega
  have hdropped : ∀ step ∈ others, ¬ decide ((step.hop : ℤ) ≤ clampHops maxHops) = true := by
    intro step hstep
    obtain ⟨original, horiginal, hhop⟩ := exists_hop_eq_of_map_eq hhops hstep
    have := hmore original horiginal
    rw [decide_eq_true_eq]
    omega
  rw [List.filter_eq_self.mpr hkept, List.filter_eq_nil_iff.mpr hdropped, List.append_nil]

end Hops

/-! ## Evidence of the steps -/

/-- The retrieval found the reference through a hub. -/
def hubLinked (ref : ContextPackEvidenceRef) : Bool :=
  AskSeam.truthy ((ref.metadata.getD []).get "hub_match")

/-- The retrieval found the reference through the graph. -/
def graphExpanded (ref : ContextPackEvidenceRef) : Bool :=
  AskSeam.truthy ((ref.metadata.getD []).get "graph_match") ||
    isText "graph_neighbor" ((ref.metadata.getD []).get "source_path")

/-- The evidence of a pack that steps of a relation name, one list for each step. -/
def Relation.names (pack : ContextPack) : Relation → List (List Text)
  | buildsContextPack => [pack.supportingEvidence.map (·.evidenceId)]
  | includesSupportingEvidence => pack.supportingEvidence.map fun ref => [ref.evidenceId]
  | includedViaHubLink => (pack.supportingEvidence.filter hubLinked).map fun ref => [ref.evidenceId]
  | includedViaGraphExpansion =>
    (pack.supportingEvidence.filter graphExpanded).map fun ref => [ref.evidenceId]
  | hasCurrentStateSignal => pack.currentStateSignals.map fun ref => [ref.evidenceId]
  | hasStaleOrSupersededSignal => pack.staleOrSupersededItems.map fun ref => [ref.evidenceId]
  | surfacesUnresolvedConflictCandidate => pack.conflictCandidates.map conflictEvidenceIds
  | includesCounterfindingEvidence => pack.counterfindings.map fun ref => [ref.evidenceId]

/-- What the steps of one relation name. -/
def named (relation : Relation) (steps : List ReasoningTraversalStep) : List (List Text) :=
  (steps.filter (·.relation = relation)).map (·.evidenceIds)

section Named

variable {relation : Relation} {steps others : List ReasoningTraversalStep}

@[simp] theorem named_append :
    named relation (steps ++ others) = named relation steps ++ named relation others := by
  simp [named]

theorem named_numbered : named relation (numbered steps) = named relation steps := by
  have hpairs : ∀ steps : List ReasoningTraversalStep, named relation steps =
      ((steps.map fun step => (step.relation, step.evidenceIds)).filter
        (·.1 = relation)).map (·.2) := by
    intro steps
    rw [named, List.filter_map, List.map_map]
    rfl
  rw [hpairs, hpairs, map_numbered fun _ _ => rfl]

theorem named_of_forall_ne (h : ∀ step ∈ steps, step.relation ≠ relation) :
    named relation steps = [] := by
  rw [named, List.filter_eq_nil_iff.mpr (by simpa using h), List.map_nil]

theorem named_cons_step (source target : Text) (ids : List Text) :
    named relation (relation.step source target ids :: steps) = ids :: named relation steps := by
  simp [named, Relation.step]

theorem named_step {ρ : Type} (source target : ρ → Text) (ids : ρ → List Text)
    (rows : List ρ) :
    named relation (rows.map fun row => relation.step (source row) (target row) (ids row)) =
      rows.map ids := by
  induction rows with
  | nil => rfl
  | cons row rows ih => rw [List.map_cons, named_cons_step, ih, List.map_cons]

theorem named_step_of_ne {ρ : Type} {other : Relation} (h : other ≠ relation)
    (source target : ρ → Text) (ids : ρ → List Text) (rows : List ρ) :
    named relation (rows.map fun row => other.step (source row) (target row) (ids row)) = [] := by
  apply named_of_forall_ne
  intro step hstep
  obtain ⟨row, -, rfl⟩ := List.mem_map.mp hstep
  exact h

end Named

section Evidence

variable (convert : Conversions) (packId : Text) (scope : Option Text) (pack : ContextPack)

/-- The steps of a hop that is not the one of a relation are of other relations. -/
theorem named_hopSteps_of_ne {relation : Relation} {hop : ℕ} (h : hop ≠ relation.hop) :
    named relation (hopSteps convert packId scope pack hop) = [] := by
  apply named_of_forall_ne
  rintro step hstep rfl
  exact h (relation_hop_of_mem_hopSteps convert packId scope pack hstep).symm

theorem named_flatMap {relation : Relation} {p : ContextPackEvidenceRef → Bool}
    {f : ContextPackEvidenceRef → List ReasoningTraversalStep}
    (h : ∀ ref, named relation (f ref) = if p ref then [[ref.evidenceId]] else [])
    (refs : List ContextPackEvidenceRef) :
    named relation (refs.flatMap f) = (refs.filter p).map fun ref => [ref.evidenceId] := by
  induction refs with
  | nil => rfl
  | cons ref refs ih =>
      rw [List.flatMap_cons, named_append, ih, List.filter_cons, h]
      split <;> simp

theorem named_provenanceSteps_hub (ref : ContextPackEvidenceRef) :
    named .includedViaHubLink (provenanceSteps convert ref) =
      if hubLinked ref then [[ref.evidenceId]] else [] := by
  simp only [provenanceSteps, hubLinked, named]
  split <;> split <;> simp_all [Relation.step]

theorem named_provenanceSteps_graph (ref : ContextPackEvidenceRef) :
    named .includedViaGraphExpansion (provenanceSteps convert ref) =
      if graphExpanded ref then [[ref.evidenceId]] else [] := by
  simp only [provenanceSteps, graphExpanded, named]
  split <;> split <;> simp_all [Relation.step]

theorem named_provenanceSteps_support (ref : ContextPackEvidenceRef) :
    named .includesSupportingEvidence (provenanceSteps convert ref) =
      if false then [[ref.evidenceId]] else [] := by
  simp only [provenanceSteps, named]
  split <;> split <;> simp_all [Relation.step]

/-- Within the hop of a relation its steps name what the pack holds. -/
theorem named_hopSteps (relation : Relation) :
    (named relation (hopSteps convert packId scope pack relation.hop)).Perm
      (relation.names pack) := by
  have hperm (refs : List ContextPackEvidenceRef) (p : ContextPackEvidenceRef → Bool) :
      (((sortOn refKey refs).filter p).map fun ref => [ref.evidenceId]).Perm
        ((refs.filter p).map fun ref => [ref.evidenceId]) :=
    ((perm_sortOn refs).filter p).map _
  have hall (refs : List ContextPackEvidenceRef) :
      ((sortOn refKey refs).map fun ref => [ref.evidenceId]).Perm
        (refs.map fun ref => [ref.evidenceId]) :=
    (perm_sortOn refs).map _
  cases relation with
  | buildsContextPack =>
      simp [Relation.hop, hopSteps, originStep, named, Relation.names, Relation.step]
  | includesSupportingEvidence =>
      simp only [Relation.hop, hopSteps, named_append, supportSteps, named_step,
        named_flatMap (named_provenanceSteps_support convert), List.filter_false, List.map_nil,
        List.append_nil]
      exact hall pack.supportingEvidence
  | includedViaHubLink =>
      simp only [Relation.hop, hopSteps, named_append, supportSteps, named_step_of_ne, ne_eq,
        reduceCtorEq, not_false_eq_true, named_flatMap (named_provenanceSteps_hub convert),
        List.nil_append]
      exact hperm pack.supportingEvidence hubLinked
  | includedViaGraphExpansion =>
      simp only [Relation.hop, hopSteps, named_append, supportSteps, named_step_of_ne, ne_eq,
        reduceCtorEq, not_false_eq_true, named_flatMap (named_provenanceSteps_graph convert),
        List.nil_append]
      exact hperm pack.supportingEvidence graphExpanded
  | hasCurrentStateSignal =>
      simp only [Relation.hop, hopSteps, named_append, signalSteps, staleSteps, conflictSteps,
        named_step, named_step_of_ne, ne_eq, reduceCtorEq, not_false_eq_true, List.append_nil]
      exact hall pack.currentStateSignals
  | hasStaleOrSupersededSignal =>
      simp only [Relation.hop, hopSteps, named_append, signalSteps, staleSteps, conflictSteps,
        named_step, named_step_of_ne, ne_eq, reduceCtorEq, not_false_eq_true, List.append_nil,
        List.nil_append]
      exact hall pack.staleOrSupersededItems
  | surfacesUnresolvedConflictCandidate =>
      simp only [Relation.hop, hopSteps, named_append, signalSteps, staleSteps, conflictSteps,
        named_step, named_step_of_ne, ne_eq, reduceCtorEq, not_false_eq_true, List.nil_append]
      exact (perm_sortOn pack.conflictCandidates).map conflictEvidenceIds
  | includesCounterfindingEvidence =>
      simp only [Relation.hop, hopSteps, counterSteps, named_step]
      exact hall pack.counterfindings

theorem named_stepsUpTo (relation : Relation) (hops : ℕ) :
    (named relation (stepsUpTo convert packId scope pack hops)).Perm
      (if relation.hop ≤ hops then relation.names pack else []) := by
  induction hops with
  | zero =>
      have hzero : stepsUpTo convert packId scope pack 0 =
          hopSteps convert packId scope pack 0 := by simp [stepsUpTo]
      rw [hzero]
      split
      · next h =>
          rw [← Nat.le_zero.mp h]
          exact named_hopSteps convert packId scope pack relation
      · next h => rw [named_hopSteps_of_ne convert packId scope pack (by omega)]
  | succ hops ih =>
      rw [stepsUpTo, List.range_succ, List.flatMap_append, ← stepsUpTo, List.flatMap_singleton,
        named_append]
      by_cases hlast : hops + 1 = relation.hop
      · rw [if_neg (by omega)] at ih
        rw [List.perm_nil.mp ih, if_pos hlast.ge, hlast, List.nil_append]
        exact named_hopSteps convert packId scope pack relation
      · rw [named_hopSteps_of_ne convert packId scope pack hlast, List.append_nil]
        by_cases hle : relation.hop ≤ hops
        · rw [if_pos hle] at ih
          rw [if_pos (by omega)]
          exact ih
        · rw [if_neg hle] at ih
          rw [if_neg (by omega)]
          exact ih

/-- What holds of the steps of a traversal of some hops. -/
structure Traverses (maxHops : ℤ) (steps : List ReasoningTraversalStep) : Prop where
  numbered : steps.map (·.stepId) = (List.range steps.length).map fun n => stepLabel (n + 1)
  apart : (steps.map (·.stepId)).Nodup
  hopByHop : (steps.map (·.hop)).Pairwise (· ≤ ·)
  bounded : ∀ step ∈ steps, (step.hop : ℤ) ≤ clampHops maxHops
  names : ∀ relation : Relation, (named relation steps).Perm
    (if (relation.hop : ℤ) ≤ clampHops maxHops then relation.names pack else [])

/-- A traversal names, for every relation within its hops, the evidence that the pack holds under
it, as often as the pack holds it, and no other. -/
theorem traverses_buildTraversalSteps (maxHops : ℤ) :
    Traverses pack maxHops (buildTraversalSteps convert packId scope pack maxHops) := by
  have hnonneg := clampHops_nonneg maxHops
  rw [buildTraversalSteps_eq]
  have hhops : (numbered (stepsUpTo convert packId scope pack (clampHops maxHops).toNat)).map
      (·.hop) = (stepsUpTo convert packId scope pack (clampHops maxHops).toNat).map (·.hop) :=
    map_numbered fun _ _ => rfl
  refine ⟨?_, nodup_stepId_numbered, ?_, ?_, ?_⟩
  · rw [map_stepId_numbered]
    simp [MemoryLab.Reasoning.numbered]
  · rw [hhops]
    exact pairwise_hop_stepsUpTo convert packId scope pack _
  · intro step hstep
    obtain ⟨original, horiginal, hhop⟩ := exists_hop_eq_of_map_eq hhops hstep
    have := hop_le_of_mem_stepsUpTo convert packId scope pack horiginal
    omega
  · intro relation
    rw [named_numbered]
    have hnamed := named_stepsUpTo convert packId scope pack relation (clampHops maxHops).toNat
    have hiff : relation.hop ≤ (clampHops maxHops).toNat ↔
        (relation.hop : ℤ) ≤ clampHops maxHops := by omega
    rw [if_congr hiff rfl rfl] at hnamed
    exact hnamed

/-- What a traversal of some hops says holds of the pack, and it is what the full traversal says
about these hops. -/
theorem buildTraversalSteps_spec (maxHops : ℤ) :
    Traverses pack maxHops (buildTraversalSteps convert packId scope pack maxHops) ∧
      buildTraversalSteps convert packId scope pack maxHops =
        (buildTraversalSteps convert packId scope pack 3).filter fun step =>
          step.hop ≤ clampHops maxHops :=
  ⟨traverses_buildTraversalSteps convert packId scope pack maxHops,
    filter_buildTraversalSteps convert packId scope pack maxHops⟩

end Evidence

end MemoryLab.Reasoning

import MemoryLab.Model.Classify

/-! # When a classification does not depend on the order of the types

Of several types with the top score the first one wins. Types fire different signals, so a tie
shows in the result as soon as the score is not zero. -/

namespace MemoryLab.Classify

open Library Adapter

def scoredTypes : List MemoryType :=
  [.milestone, .decision, .principle, .anchor, .evidence, .planRoadmap]

/-! ## Signals -/

def patternsOf (type : MemoryType) : List String := (keywordSignals type).flatMap (·.1)

/-- No two types share a pattern, and none looks like the signal of a node type. -/
theorem patternsOf_apart : ∃ table : List (MemoryType × List Text),
    List.Forall₂ (fun type entry => entry.1 = type ∧ Text.Spelled (patternsOf type) entry.2)
      scoredTypes table ∧
      (table.all fun entry => entry.2.all fun text =>
        text.take 2 != ['n', 'o'] &&
          table.all fun other => other.1 == entry.1 || !other.2.contains text) = true := by
  apply Exists.intro (w := [(.milestone, _), (.decision, _), (.principle, _), (.anchor, _),
    (.evidence, _), (.planRoadmap, _)])
  apply And.intro
  · refine .cons ⟨rfl, ?_⟩ (.cons ⟨rfl, ?_⟩ (.cons ⟨rfl, ?_⟩ (.cons ⟨rfl, ?_⟩ (.cons ⟨rfl, ?_⟩
      (.cons ⟨rfl, ?_⟩ .nil)))))
    all_goals
      simp only [patternsOf, keywordSignals, Text.Spelled, List.flatMap]
      repeat' constructor
  · decide +kernel

theorem not_nodeType_of_mem {type : MemoryType} (htype : type ∈ scoredTypes) {pattern : String}
    (h : pattern ∈ patternsOf type) (nodeType : Text) :
    pattern.toList ≠ "node_type:".toList ++ nodeType := by
  obtain ⟨table, hspelled, hapart⟩ := patternsOf_apart
  obtain ⟨entry, hentry, -, htexts⟩ := Rows.Forall₂.exists_of_mem hspelled.flip htype
  have hpattern := List.all_eq_true.mp (List.all_eq_true.mp hapart entry hentry) _ (htexts.mem h)
  rw [Bool.and_eq_true] at hpattern
  intro heq
  have hstart : pattern.toList.take 2 = ['n', 'o'] := by
    rw [heq]
    rfl
  rw [hstart] at hpattern
  cases hpattern.1

theorem eq_of_mem_patternsOf {type other : MemoryType} (htype : type ∈ scoredTypes)
    (hother : other ∈ scoredTypes) {pattern : String} (h : pattern ∈ patternsOf type)
    (h' : pattern ∈ patternsOf other) : other = type := by
  obtain ⟨table, hspelled, hapart⟩ := patternsOf_apart
  obtain ⟨entry, hentry, rfl, htexts⟩ := Rows.Forall₂.exists_of_mem hspelled.flip htype
  obtain ⟨second, hsecond, rfl, htexts'⟩ := Rows.Forall₂.exists_of_mem hspelled.flip hother
  have hpattern := List.all_eq_true.mp (List.all_eq_true.mp hapart entry hentry) _ (htexts.mem h)
  rw [Bool.and_eq_true, List.all_eq_true] at hpattern
  have hshared := hpattern.2 second hsecond
  simpa [htexts'.mem h'] using hshared

theorem weight_pos (type : MemoryType) : ∀ group ∈ keywordSignals type, 0 < group.2 := by
  cases type <;> simp [keywordSignals]

section Scores

variable {found : Phrase → Bool} {args : ClassifyArgs} {type other : MemoryType}

theorem mem_patternsOf_of_fired {pattern : String}
    (h : pattern ∈ (keywordSignals type).filterMap (firedPattern found)) :
    pattern ∈ patternsOf type := by
  obtain ⟨group, hgroup, hfired⟩ := List.mem_filterMap.mp h
  exact List.mem_flatMap.mpr ⟨group, hgroup, List.mem_of_find?_eq_some hfired⟩

theorem keywordScore_nonneg (found : Phrase → Bool) (type : MemoryType) :
    0 ≤ keywordScore found type := by
  refine List.sum_nonneg fun weight hweight => ?_
  obtain ⟨group, hgroup, rfl⟩ := List.mem_map.mp hweight
  exact (weight_pos type group (List.mem_filter.mp hgroup).1).le

/-- A type scores exactly when it fires a signal. -/
theorem rawScore_pos_iff : 0 < rawScore found args type ↔ firedSignals found args type ≠ [] := by
  have hnonneg := keywordScore_nonneg found type
  have hkeyword : 0 < keywordScore found type ↔
      (keywordSignals type).filterMap (firedPattern found) ≠ [] := by
    constructor
    · intro hpos hnone
      have hfilter : ((keywordSignals type).filter
          fun group => (firedPattern found group).isSome) = [] := by
        rw [List.filter_eq_nil_iff]
        intro group hgroup hsome
        rw [List.filterMap_eq_nil_iff.mp hnone group hgroup] at hsome
        cases hsome
      rw [keywordScore, hfilter] at hpos
      exact lt_irrefl _ hpos
    · intro hsome
      obtain ⟨pattern, hpattern⟩ := List.exists_mem_of_ne_nil _ hsome
      obtain ⟨group, hgroup, hfired⟩ := List.mem_filterMap.mp hpattern
      have hmem : group ∈ (keywordSignals type).filter
          fun group => (firedPattern found group).isSome := by
        simp [hgroup, hfired]
      refine (weight_pos type group hgroup).trans_le ?_
      refine List.single_le_sum (fun weight hweight => ?_) _ (List.mem_map_of_mem hmem)
      obtain ⟨other, hother, rfl⟩ := List.mem_map.mp hweight
      exact (weight_pos type other (List.mem_filter.mp hother).1).le
  have hscore : 0 < keywordScore found type + (if boostedType args = some type then 3 / 2 else 0) ↔
      firedSignals found args type ≠ [] := by
    by_cases hboosted : boostedType args = some type
    · simp only [hboosted, if_true, firedSignals]
      constructor
      · intro _
        simp
      · intro _
        linarith
    · simp only [hboosted, if_false, add_zero, hkeyword, firedSignals, List.append_nil, ne_eq,
        List.map_eq_nil_iff]
  rw [← hscore, rawScore]
  split
  · exact div_pos_iff_of_pos_right two_pos
  · rfl

/-- Different types never fire the same signals. -/
theorem eq_of_firedSignals_eq (htype : type ∈ scoredTypes) (hother : other ∈ scoredTypes)
    (hfired : firedSignals found args type ≠ [])
    (h : firedSignals found args type = firedSignals found args other) : type = other := by
  by_contra hne
  by_cases hboosted : boostedType args = some other
  · have hnot : boostedType args ≠ some type := fun htwice =>
      hne (Option.some.inj (htwice.symm.trans hboosted))
    have hmem : "node_type:".toList ++ args.nodeType.getD [] ∈ firedSignals found args type := by
      rw [h]
      simp [firedSignals, hboosted]
    simp only [firedSignals, hnot, if_false, List.append_nil, List.mem_map] at hmem
    obtain ⟨pattern, hpattern, heq⟩ := hmem
    exact not_nodeType_of_mem htype (mem_patternsOf_of_fired hpattern) _ heq
  · obtain ⟨signal, hsignal⟩ := List.exists_mem_of_ne_nil _ hfired
    have hshared := hsignal
    rw [h] at hshared
    simp only [firedSignals, hboosted, if_false, List.append_nil, List.mem_map] at hshared
    obtain ⟨pattern, hpattern, rfl⟩ := hshared
    have hpattern := mem_patternsOf_of_fired hpattern
    rw [firedSignals, List.mem_append] at hsignal
    rcases hsignal with hsignal | hsignal
    · obtain ⟨same, hsame, heq⟩ := List.mem_map.mp hsignal
      obtain rfl := String.toList_injective heq
      exact hne (eq_of_mem_patternsOf hother htype hpattern (mem_patternsOf_of_fired hsame))
    · split at hsignal
      · exact not_nodeType_of_mem hother hpattern _ (List.mem_singleton.mp hsignal)
      · cases hsignal

end Scores

/-! ## The winner -/

/-- No type scores more. -/
structure IsTop (found : Phrase → Bool) (args : ClassifyArgs) (type : MemoryType) : Prop where
  scored : type ∈ scoredTypes
  top : ∀ other ∈ scoredTypes, rawScore found args other ≤ rawScore found args type

section Winner

variable {found : Phrase → Bool} {args : ClassifyArgs} {type : MemoryType}

theorem isTop_bestType (found : Phrase → Bool) (args : ClassifyArgs) (order : TypeOrder) :
    IsTop found args (bestType found order args) := by
  have hne : order.types ≠ [] := by
    intro hnil
    have hlength := order.perm.length_eq
    rw [hnil] at hlength
    cases hlength
  obtain ⟨best, hbest⟩ := Option.ne_none_iff_exists'.mp
    (fun hnone => hne (List.argmax_eq_none.mp hnone) :
      order.types.argmax (rawScore found args) ≠ none)
  rw [bestType, hbest, Option.getD_some]
  exact ⟨order.perm.mem_iff.mp (List.argmax_mem hbest), fun other hother =>
    List.le_of_mem_argmax (order.perm.mem_iff.mpr hother) hbest⟩

/-- The order that starts with a type. -/
def startingWith (type : MemoryType) (h : type ∈ scoredTypes) : TypeOrder where
  types := type :: scoredTypes.erase type
  perm := (List.perm_cons_erase h).symm

theorem bestType_startingWith (h : IsTop found args type) :
    bestType found (startingWith type h.scored) args = type := by
  have hargmax : (type :: scoredTypes.erase type).argmax (rawScore found args) = some type := by
    rw [List.argmax_cons]
    cases hrest : (scoredTypes.erase type).argmax (rawScore found args) with
    | none => rfl
    | some best =>
        have hle := h.top best (List.mem_of_mem_erase (List.argmax_mem hrest))
        exact if_neg (not_lt.mpr hle)
  rw [bestType, startingWith, hargmax, Option.getD_some]

end Winner

/-! ## Independence of the order -/

/-- The parts of an answer that name a type or argue for it. -/
structure SameAnswer (first second : ClassificationResult) : Prop where
  memoryType : first.memoryType = second.memoryType
  memorySubType : first.memorySubType = second.memorySubType
  confidence : first.confidence = second.confidence
  signals : first.signals = second.signals

/-- A score that is not zero is the top score of one type only. -/
def UniqueTop (found : Phrase → Bool) (args : ClassifyArgs) : Prop :=
  ∀ type other, IsTop found args type → IsTop found args other →
    0 < rawScore found args type → type = other

section Answers

variable {found : Phrase → Bool} {args : ClassifyArgs}

theorem classifyFound_eq_of_uniqueTop (h : UniqueTop found args) (order other : TypeOrder) :
    classifyFound found order args = classifyFound found other args := by
  have hfirst := isTop_bestType found args order
  have hsecond := isTop_bestType found args other
  by_cases hpos : 0 < rawScore found args (bestType found order args)
  · rw [classifyFound, classifyFound, h _ _ hfirst hsecond hpos]
  · have hsame := le_antisymm (hsecond.top _ hfirst.scored) (hfirst.top _ hsecond.scored)
    have hpos' : ¬ 0 < rawScore found args (bestType found other args) := by
      rwa [← hsame]
    have hnone := not_not.mp (fun hne => hpos (rawScore_pos_iff.mpr hne))
    have hnone' := not_not.mp (fun hne => hpos' (rawScore_pos_iff.mpr hne))
    have hlow : rawScore found args (bestType found order args) < minScoreThreshold :=
      (not_lt.mp hpos).trans_lt (by norm_num [minScoreThreshold])
    simp only [classifyFound, ← hsame, hlow, if_true, hnone, hnone']

theorem uniqueTop_of_sameAnswer
    (h : ∀ order other : TypeOrder,
      SameAnswer (classifyFound found order args) (classifyFound found other args)) :
    UniqueTop found args := by
  intro type other htype hother hpos
  have hsame := h (startingWith type htype.scored) (startingWith other hother.scored)
  have hscore := le_antisymm (hother.top _ htype.scored) (htype.top _ hother.scored)
  have hfired := rawScore_pos_iff.mp hpos
  have hfired' := rawScore_pos_iff.mp (hscore ▸ hpos)
  by_cases hlow : rawScore found args type < minScoreThreshold
  · have hsignals := hsame.signals
    simp only [classifyFound, bestType_startingWith htype, bestType_startingWith hother,
      ← hscore, hlow, if_true, hfired, hfired', if_false] at hsignals
    exact eq_of_firedSignals_eq htype.scored hother.scored hfired hsignals
  · have htypes := hsame.memoryType
    simpa only [classifyFound, bestType_startingWith htype, bestType_startingWith hother,
      ← hscore, hlow, if_false] using htypes

end Answers

/-- The order of the types does not matter exactly when no two of them share a top score that is
not zero. -/
theorem sameAnswer_iff (args : ClassifyArgs) :
    (∀ order other : TypeOrder, SameAnswer (classify order args) (classify other args)) ↔
      (args.content = [] ∧ args.title = []) ∨ UniqueTop (occursIn (fullText args)) args := by
  unfold classify
  by_cases hempty : args.content = [] ∧ args.title = []
  · simp only [hempty, and_self, if_true, true_or, iff_true]
    exact fun _ _ => ⟨rfl, rfl, rfl, rfl⟩
  · simp only [hempty, if_false, false_or]
    constructor
    · exact uniqueTop_of_sameAnswer
    · intro hunique order other
      rw [classifyFound_eq_of_uniqueTop hunique order other]
      exact ⟨rfl, rfl, rfl, rfl⟩

/-- A text that argues for two types. -/
def twoSided : ClassifyArgs := { content := "we decided: smoke test".toList }

theorem not_sameAnswer :
    ¬ ∀ (args : ClassifyArgs) (order other : TypeOrder),
      SameAnswer (classify order args) (classify other args) := by
  intro hall
  have hsame := (hall twoSided (startingWith .decision (by decide))
    (startingWith .evidence (by decide))).memoryType
  revert hsame
  decide +kernel

end MemoryLab.Classify

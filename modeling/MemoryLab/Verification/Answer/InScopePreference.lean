import MemoryLab.Model.CurrentStateEnrichment

/-! # The preference for current items

Superseded items of a scope with a current one are put last, behind the items of every scope. -/

namespace MemoryLab.Evidence

open Library Library.Rows

/-! ## Order within scopes -/

/-- Evidence as the retrieval gives it, without fields of the resolver. -/
def Fresh (evidence : List EvidenceItem) : Prop := ∀ item ∈ evidence, item.isCurrent = none

theorem fresh_normalizeFrom (limit : ℕ) (seen : List Text) (rank : ℕ) (rows : List EvidenceRow) :
    Fresh (normalizeFrom limit seen rank rows) := by
  induction rows generalizing seen rank with
  | nil =>
      rw [normalizeFrom]
      exact fun _ hitem => absurd hitem List.not_mem_nil
  | cons row rows ih =>
      rw [normalizeFrom]
      split
      · exact ih seen rank
      · intro item hitem
        rcases List.mem_cons.mp hitem with rfl | hitem
        · rfl
        · exact ih _ _ item hitem

theorem fresh_normalizeEvidence (results : List EvidenceRow) (limit : ℕ) :
    Fresh (normalizeEvidence results limit) :=
  fresh_normalizeFrom limit [] 0 results

/-- An item of a scope that is current there, or was superseded there. -/
def EvidenceItem.Holds (item : EvidenceItem) (scope : Text) (current : Bool) : Prop :=
  item.isCurrent = some current ∧ item.currentStateScope = some scope ∧ scope ≠ []

/-- No superseded item stands before a current one of its scope. -/
def InScopeOrder (items : List EvidenceItem) : Prop :=
  items.Pairwise fun a b => ∀ scope, a.Holds scope false → ¬ b.Holds scope true

/-- An item without what a new order changes. -/
def unranked (item : EvidenceItem) : EvidenceItem := { item with rank := 0, rankingReason := none }

variable {items : List EvidenceItem}

theorem mem_scopesWithCurrent {scope : Text} :
    scope ∈ scopesWithCurrent items ↔ ∃ item ∈ items, item.Holds scope true := by
  simp only [scopesWithCurrent, EvidenceItem.Holds, List.mem_filterMap, List.mem_filter,
    beq_iff_eq, Option.filter_eq_some_iff, decide_eq_true_eq, and_assoc]

theorem demoted_iff {item : EvidenceItem} :
    demoted items item = true ↔
      ∃ scope, item.Holds scope false ∧ ∃ other ∈ items, other.Holds scope true := by
  simp only [demoted, Bool.and_eq_true, beq_iff_eq, Option.any_eq_true, decide_eq_true_eq,
    mem_scopesWithCurrent]
  constructor
  · rintro ⟨hcurrent, scope, hscope, other, hother, hholds⟩
    exact ⟨scope, ⟨hcurrent, hscope, hholds.2.2⟩, other, hother, hholds⟩
  · rintro ⟨scope, hholds, other, hother, hholds'⟩
    exact ⟨hholds.1, scope, hholds.2.1, other, hother, hholds'⟩

@[simp] theorem holds_unranked {item : EvidenceItem} {scope : Text} {current : Bool} :
    (unranked item).Holds scope current ↔ item.Holds scope current :=
  Iff.rfl

@[simp] theorem demoted_unranked (item : EvidenceItem) :
    demoted items (unranked item) = demoted items item :=
  rfl

theorem inScopeOrder_of_flags
    (h : (items.map (·.isCurrent)).Pairwise fun a b => a = some false → b ≠ some true) :
    InScopeOrder items :=
  (List.pairwise_map.mp h).imp fun hflags _ hsuperseded hcurrent =>
    hflags hsuperseded.1 hcurrent.1

theorem inScopeOrder_map_unranked :
    InScopeOrder (items.map unranked) ↔ InScopeOrder items := by
  simp only [InScopeOrder, List.pairwise_map, holds_unranked]

theorem unranked_ranked (entry : EvidenceItem × ℕ) :
    unranked (ranked items entry) = unranked entry.1 := by
  unfold ranked
  dsimp only
  split <;> rfl

theorem map_unranked_reordered :
    (reordered items).map unranked = (sortOn (demoted items) items).map unranked := by
  rw [reordered, List.map_map]
  have hranked : unranked ∘ ranked items = unranked ∘ Prod.fst := funext unranked_ranked
  rw [hranked, ← List.map_map, List.zipIdx_map_fst]

/-- Putting the demoted items last is putting every superseded item after the current ones of
its scope. -/
theorem inScopeOrder_sortOn : InScopeOrder (sortOn (demoted items) items) := by
  have hsorted : (sortOn (demoted items) items).Pairwise fun a b =>
      demoted items a ≤ demoted items b := pairwise_sortOn items
  refine hsorted.imp_of_mem fun {a b} ha hb hle => ?_
  intro scope hsuperseded hcurrent
  have hfirst : demoted items a = true :=
    demoted_iff.mpr ⟨scope, hsuperseded, b, mem_sortOn.mp hb, hcurrent⟩
  have hsecond : demoted items b = true := Bool.eq_true_of_true_le (hfirst ▸ hle)
  obtain ⟨_, hholds, -⟩ := demoted_iff.mp hsecond
  rw [EvidenceItem.Holds, hcurrent.1] at hholds
  cases hholds.1

/-- The demoted items stand last. -/
def DemotedLast (items : List EvidenceItem) : Prop :=
  items.Pairwise fun a b => demoted items a = true → demoted items b = true

theorem map_unranked_sortOn_eq_iff :
    (sortOn (demoted items) items).map unranked = items.map unranked ↔ DemotedLast items := by
  constructor
  · intro h
    have hflags := congrArg (List.map (demoted items)) h
    have hsame : demoted items ∘ unranked = demoted items := rfl
    rw [List.map_map, List.map_map, hsame] at hflags
    have hsorted : (sortOn (demoted items) items).Pairwise fun a b =>
        demoted items a ≤ demoted items b := pairwise_sortOn items
    rw [← List.pairwise_map, hflags, List.pairwise_map] at hsorted
    exact hsorted.imp fun hle htrue => Bool.eq_true_of_true_le (htrue ▸ hle)
  · intro h
    have hsorted : items.Pairwise fun a b => demoted items a ≤ demoted items b :=
      h.imp fun himp => Bool.le_iff_imp.mpr himp
    rw [sortOn, List.Pairwise.insertionSort_eq hsorted]

/-! ## Enrichment -/

section Enrichment

variable {reader : StateReader} {databaseUrl : Option Text} {query : Text}
  {evidence : List EvidenceItem}

/-- The states that are read for the evidence. -/
def statesRead (reader : StateReader) (databaseUrl : Option Text) (evidence : List EvidenceItem) :
    Dict Text CurrentState :=
  if (databaseUrl.filter (· ≠ [])).isNone then []
  else (reader (evidence.map (·.contentId))).getD []

/-- The evidence with the states that are read, in its own order. -/
def withStates (reader : StateReader) (databaseUrl : Option Text)
    (evidence : List EvidenceItem) : List EvidenceItem :=
  evidence.map (annotate (statesRead reader databaseUrl evidence))

theorem annotate_nil (item : EvidenceItem) : annotate [] item = item :=
  rfl

theorem reordered_of_not_demoted (h : items.any (demoted items) = false) :
    sortOn (demoted items) items = items := by
  apply sortOn_of_forall_eq (k := false)
  simpa using h

theorem demoted_of_fresh (hfresh : Fresh items) (item : EvidenceItem) :
    demoted items item = false := by
  rw [← Bool.not_eq_true, demoted_iff]
  rintro ⟨scope, -, other, hother, hholds⟩
  rw [EvidenceItem.Holds, hfresh other hother] at hholds
  cases hholds.1

/-- Up to ranks and reasons, the items come out as a stable sort puts them. -/
theorem map_unranked_enrich (hfresh : Fresh evidence) (hquery : isHistoricalQuery query = false) :
    (enrichEvidenceWithCurrentState reader databaseUrl query evidence).map unranked =
      (sortOn (demoted (withStates reader databaseUrl evidence))
        (withStates reader databaseUrl evidence)).map unranked := by
  have hkept : ∀ rows, rows = [] → evidence.map unranked =
      (sortOn (demoted (evidence.map (annotate rows))) (evidence.map (annotate rows))).map
        unranked := by
    rintro _ rfl
    rw [show annotate [] = id from funext annotate_nil, List.map_id,
      sortOn_of_forall_eq fun item _ => demoted_of_fresh hfresh item]
  rw [enrichEvidenceWithCurrentState, withStates, statesRead]
  cases hurl : (databaseUrl.filter (· ≠ [])).isNone with
  | true =>
      rw [Bool.or_true, if_pos rfl, if_pos rfl]
      exact hkept [] rfl
  | false =>
      rw [Bool.or_false, if_neg Bool.false_ne_true]
      cases evidence with
      | nil => rfl
      | cons item evidence =>
          rw [List.isEmpty_cons, if_neg Bool.false_ne_true]
          cases reader ((item :: evidence).map (·.contentId)) with
          | none => exact hkept [] rfl
          | some rows =>
              rw [Option.getD_some]
              dsimp only
              split
              · exact hkept rows (List.isEmpty_iff.mp ‹_›)
              · rw [enrichWith, hquery, if_neg Bool.false_ne_true]
                split
                · exact map_unranked_reordered
                · rw [reordered_of_not_demoted (Bool.not_eq_true _ ▸ ‹_›)]

/-- What the preference for current items promises. -/
structure MovesOnlyNeeded (items enriched : List EvidenceItem) : Prop where
  permuted : (enriched.map unranked).Perm (items.map unranked)
  ordered : InScopeOrder enriched
  kept : InScopeOrder items → enriched.map unranked = items.map unranked

/-- The preference moves only what it must exactly when, in an order that is right already, the
demoted items stand last. -/
theorem movesOnlyNeeded_iff (reader : StateReader) (databaseUrl : Option Text) (query : Text)
    (evidence : List EvidenceItem) (hfresh : Fresh evidence)
    (hquery : isHistoricalQuery query = false) :
    MovesOnlyNeeded (withStates reader databaseUrl evidence)
        (enrichEvidenceWithCurrentState reader databaseUrl query evidence) ↔
      (InScopeOrder (withStates reader databaseUrl evidence) →
        DemotedLast (withStates reader databaseUrl evidence)) := by
  have henriched := @map_unranked_enrich reader databaseUrl _ _ hfresh hquery
  rw [← map_unranked_sortOn_eq_iff, ← henriched]
  constructor
  · exact fun h => h.kept
  · intro h
    refine ⟨?_, ?_, h⟩
    · rw [henriched]
      exact (perm_sortOn _).map unranked
    · rw [← inScopeOrder_map_unranked, henriched, inScopeOrder_map_unranked]
      exact inScopeOrder_sortOn

def plainItem (rank : ℕ) : EvidenceItem :=
  { evidenceId := digits rank, rank := rank, contentId := digits rank, snippet := "text".toList,
    scoreKind := "chunk_text_match".toList, retrievalPath := "deterministic_db".toList }

/-- Three items in a right order: a current decision, the one that it superseded, and a note
without a state. -/
def decisionsAndNote : List EvidenceItem := [plainItem 1, plainItem 2, plainItem 3]

def decisionStates : StateReader := fun _ =>
  some [(['1'], ⟨some true, some "api".toList, none⟩),
    (['2'], ⟨some false, some "api".toList, none⟩)]

theorem fresh_decisionsAndNote : Fresh decisionsAndNote := by
  simp [Fresh, decisionsAndNote, plainItem]

theorem movesOnlyNeeded_iff_twoDecisions :
    MovesOnlyNeeded (withStates decisionStates (some ['d']) (decisionsAndNote.take 2))
        (enrichEvidenceWithCurrentState decisionStates (some ['d']) "which now".toList
          (decisionsAndNote.take 2)) ↔
      (InScopeOrder (withStates decisionStates (some ['d']) (decisionsAndNote.take 2)) →
        DemotedLast (withStates decisionStates (some ['d']) (decisionsAndNote.take 2))) :=
  movesOnlyNeeded_iff decisionStates (some ['d']) "which now".toList (decisionsAndNote.take 2)
    (fun item hitem => fresh_decisionsAndNote item (List.mem_of_mem_take hitem))
    (by decide +kernel)

/-- The superseded decision goes behind the note. -/
theorem not_movesOnlyNeeded_decisionsAndNote :
    ¬ ∀ (reader : StateReader) (databaseUrl : Option Text) (query : Text)
      (evidence : List EvidenceItem), Fresh evidence → isHistoricalQuery query = false →
        MovesOnlyNeeded (withStates reader databaseUrl evidence)
          (enrichEvidenceWithCurrentState reader databaseUrl query evidence) := by
  intro h
  have hkept := (h decisionStates (some ['d']) "which now".toList decisionsAndNote
    fresh_decisionsAndNote (by decide +kernel)).kept ?_
  · have hids := congrArg (List.map (·.contentId)) hkept
    revert hids
    decide +kernel
  · have hstates : ((withStates decisionStates (some ['d']) decisionsAndNote).map
        fun item => item.isCurrent) = [some true, some false, none] := by decide +kernel
    apply inScopeOrder_of_flags
    rw [hstates]
    decide

end Enrichment

end MemoryLab.Evidence

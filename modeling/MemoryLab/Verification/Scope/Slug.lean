import MemoryLab.Model.ScopePipeline

/-! # Slugs

A text is its own slug exactly when it is canonical, and every slug is. -/

namespace MemoryLab.ScopePipeline

open Library

def isDash (c : Char) : Bool := c == '-'

structure CanonicalSlug (scope : Text) : Prop where
  ne_nil : scope ≠ []
  length_le : scope.length ≤ maxScopeLen
  chars : ∀ c ∈ scope, isSlugChar c = true
  separated : Text.Separated isDash scope
  trimmed : Text.Trimmed isSlugEdge scope

theorem isSlugChar_toNat {c : Char} (h : isSlugChar c = true) :
    45 ≤ c.toNat ∧ c.toNat < 128 ∧ (c.toNat < 65 ∨ 90 < c.toNat) := by
  simp only [isSlugChar, isAlnum, Bool.or_eq_true, Bool.and_eq_true, decide_eq_true_eq,
    List.mem_cons, List.not_mem_nil, or_false] at h
  rcases h with (⟨hl, hu⟩ | ⟨hl, hu⟩) | h
  · have : ('a'.toNat) ≤ c.toNat := hl
    have : c.toNat ≤ ('z'.toNat) := hu
    simp only [Char.reduceToNat] at *
    omega
  · have : ('0'.toNat) ≤ c.toNat := hl
    have : c.toNat ≤ ('9'.toNat) := hu
    simp only [Char.reduceToNat] at *
    omega
  · rcases h with rfl | rfl | rfl | rfl | rfl <;> decide

theorem isSpace_of_isSlugChar {c : Char} (h : isSlugChar c = true) : Text.isSpace c = false := by
  have hrange := isSlugChar_toNat h
  simp only [Text.isSpace, Bool.or_eq_false_iff, Bool.and_eq_false_iff, decide_eq_false_iff_not,
    List.mem_cons, List.not_mem_nil, or_false]
  omega

theorem isQuote_of_isSlugChar {c : Char} (h : isSlugChar c = true) : isQuote c = false := by
  cases hquote : isQuote c with
  | false => rfl
  | true =>
      simp only [isQuote, List.mem_cons, List.not_mem_nil, or_false, decide_eq_true_eq] at hquote
      rcases hquote with rfl | rfl | rfl | rfl | rfl <;> revert h <;> decide

theorem lowerChar_of_isSlugChar {c : Char} (h : isSlugChar c = true) : Text.lowerChar c = [c] := by
  have hrange := isSlugChar_toNat h
  have hupper : ¬ c.isUpper = true := by
    rw [Text.isUpper_iff]
    omega
  rw [Text.lowerChar, if_pos hrange.2.1, Text.toLower_of_not_isUpper hupper]

theorem lower_of_isSlugChar {s : Text} (h : ∀ c ∈ s, isSlugChar c = true) : s.lower = s := by
  induction s with
  | nil => rfl
  | cons c s ih =>
      have htail := ih fun d hd => h d (List.mem_cons_of_mem c hd)
      rw [Text.lower] at htail ⊢
      rw [List.flatMap_cons, lowerChar_of_isSlugChar (h c List.mem_cons_self), htail]
      rfl

/-- A canonical slug is its own slug. -/
theorem CanonicalSlug.slugify_eq {scope : Text} (h : CanonicalSlug scope) :
    slugifyScope (some scope) = scope := by
  have hstrip : scope.strip = scope :=
    (Text.trimmed_of_forall_not fun c hc => isSpace_of_isSlugChar (h.chars c hc)).stripChars_eq
  have hquotes : scope.filter (fun c => !isQuote c) = scope :=
    List.filter_eq_self.mpr fun c hc => by simp [isQuote_of_isSlugChar (h.chars c hc)]
  have hdashed : Text.subRuns (fun c => !isSlugChar c) ['-'] scope = scope :=
    Text.subRuns_of_forall_not _ fun c hc => by simp [h.chars c hc]
  have hcollapsed : Text.subRuns (· == '-') ['-'] scope = scope := h.separated.subRuns_eq
  have hcut : scope.take maxScopeLen = scope := List.take_of_length_le h.length_le
  simp only [slugifyScope, Option.getD_some, hstrip, lower_of_isSlugChar h.chars, h.ne_nil,
    if_false, hquotes, hdashed, hcollapsed, h.trimmed.stripChars_eq, hcut]

theorem canonicalSlug_global : CanonicalSlug globalScope := by
  have hedges : globalScope.all (fun c => !isSlugEdge c) = true := by decide
  refine ⟨by decide, by decide, List.all_eq_true.mp (by decide), ?_, ?_⟩
  · unfold Text.Separated
    decide
  · refine Text.trimmed_of_forall_not fun c hc => ?_
    simpa using List.all_eq_true.mp hedges c hc

theorem slugifyScope_canonical (value : Option Text) : CanonicalSlug (slugifyScope value) := by
  unfold slugifyScope
  dsimp only
  split
  · exact canonicalSlug_global
  · split
    · exact canonicalSlug_global
    · rename_i hne
      generalize hdashed : Text.subRuns (fun c => !isSlugChar c) ['-'] _ = dashed at hne ⊢
      set collapsed := (Text.subRuns (· == '-') ['-'] dashed).stripChars isSlugEdge with hcollapsed
      have hpart : Text.stripChars isSlugEdge (collapsed.take maxScopeLen) <:+:
          Text.subRuns (· == '-') ['-'] dashed :=
        ((Text.stripChars_infix _ _).trans (List.take_prefix _ _).isInfix).trans
          (Text.stripChars_infix _ _)
      refine ⟨hne, ?_, fun c hc => ?_, ?_, Text.trimmed_stripChars _ _⟩
      · exact (Text.stripChars_infix _ _).length_le.trans (List.length_take_le _ _)
      · rcases Text.mem_subRuns (hpart.subset hc) with hdash | ⟨hmem, -⟩
        · rw [List.mem_singleton.mp hdash]
          decide
        · rw [← hdashed] at hmem
          rcases Text.mem_subRuns hmem with hdash | ⟨-, hslug⟩
          · rw [List.mem_singleton.mp hdash]
            decide
          · simpa using hslug
      · exact List.IsChain.infix (Text.separated_subRuns _ _ _) hpart

theorem slugifyScope_eq_self_iff {scope : Text} :
    slugifyScope (some scope) = scope ↔ CanonicalSlug scope :=
  ⟨fun h => h ▸ slugifyScope_canonical _, CanonicalSlug.slugify_eq⟩

theorem slugifyScope_idem (value : Option Text) :
    slugifyScope (some (slugifyScope value)) = slugifyScope value :=
  (slugifyScope_canonical value).slugify_eq

/-- A slug is made of the kept characters, at most 120 of them and at least one, has no edge
character at an end and no two dashes in a row, and is its own slug. -/
theorem slugifyScope_normalForm (value : Option Text) :
    slugifyScope value ≠ [] ∧ (slugifyScope value).length ≤ 120 ∧
      (∀ c ∈ slugifyScope value, ('a' ≤ c ∧ c ≤ 'z') ∨ ('0' ≤ c ∧ c ≤ '9') ∨
        c ∈ ['.', '_', ':', '/', '-']) ∧
      (∀ c ∈ (slugifyScope value).head?, c ∉ ['-', '.', '_', ':', '/']) ∧
      (∀ c ∈ (slugifyScope value).getLast?, c ∉ ['-', '.', '_', ':', '/']) ∧
      ¬ ['-', '-'] <:+: slugifyScope value ∧
      slugifyScope (some (slugifyScope value)) = slugifyScope value := by
  have h := slugifyScope_canonical value
  refine ⟨h.ne_nil, h.length_le, fun c hc => ?_, fun c hc => ?_, fun c hc => ?_, fun hdashes => ?_,
    h.slugify_eq⟩
  · have hslug := h.chars c hc
    simp only [isSlugChar, isAlnum, Bool.or_eq_true, Bool.and_eq_true, decide_eq_true_eq] at hslug
    rwa [or_assoc] at hslug
  · obtain rfl : (slugifyScope value).head h.ne_nil = c := by
      simpa [List.head?_eq_some_head h.ne_nil] using hc
    simpa [isSlugEdge] using h.trimmed.head h.ne_nil
  · obtain rfl : (slugifyScope value).getLast h.ne_nil = c := by
      simpa [List.getLast?_eq_some_getLast h.ne_nil] using hc
    simpa [isSlugEdge] using h.trimmed.last h.ne_nil
  · have hpair := List.IsChain.infix h.separated hdashes
    simp [isDash] at hpair

/-- A canonical slug is not blank. -/
theorem CanonicalSlug.strip_ne_nil {scope : Text} (h : CanonicalSlug scope) :
    scope.strip ≠ [] := by
  refine Text.strip_ne_nil ⟨scope.head h.ne_nil, List.head_mem h.ne_nil, ?_⟩
  exact isSpace_of_isSlugChar (h.chars _ (List.head_mem h.ne_nil))

end MemoryLab.ScopePipeline

import MemoryLab.Model.AliasHygiene
import MemoryLab.Verification.Graph.Proposals

/-! # Candidates for aliases share a name

Labels are compared as they are read, without the spaces around them. -/

namespace MemoryLab.AliasHygiene

open Library Library.Rows
open EdgeInference (sorted mem_sorted)

variable {unicode : Unicode}

/-! ## Names -/

/-- Neither a letter nor a digit of the text is left in ASCII. -/
def Nameless (unicode : Unicode) (value : Text) : Prop :=
  ∀ c ∈ unicode.nfkd value, isAscii c = true → c.isAlphanum = false

theorem isAlphanum_toLower {c : Char} (h : c.toNat < 128) :
    c.toLower.isAlphanum = c.isAlphanum := by
  have hall : ∀ n < 128, (Char.ofNat n).toLower.isAlphanum = (Char.ofNat n).isAlphanum := by
    decide
  have hc := hall c.toNat h
  rwa [Char.ofNat_toNat] at hc

theorem isSpace_of_isAlphanum {c : Char} (h : c.isAlphanum = true) : Text.isSpace c = false := by
  cases hspace : Text.isSpace c with
  | false => rfl
  | true =>
      have hall : Text.spaces.all (fun d => !d.isAlphanum) = true := by decide
      have hc := List.all_eq_true.mp hall c (Text.mem_spaces hspace)
      rw [h] at hc
      cases hc

/-- Characters outside of the class are kept. -/
theorem mem_subRuns_of_not {p : Char → Bool} {s : Text} {c : Char} (repl : Text) (hc : c ∈ s)
    (hp : p c = false) : c ∈ Text.subRuns p repl s := by
  induction s with
  | nil => cases hc
  | cons d s ih =>
      rw [Text.subRuns]
      split
      · rename_i hd
        have hne : c ≠ d := by
          rintro rfl
          rw [hp] at hd
          cases hd
        have htail := ih ((List.mem_cons.mp hc).resolve_left hne)
        split
        · exact htail
        · exact List.mem_append_right _ htail
      · rcases List.mem_cons.mp hc with rfl | hc
        · exact List.mem_cons_self
        · exact List.mem_cons_of_mem _ (ih hc)

theorem strip_eq_nil {s : Text} (h : ∀ c ∈ s, Text.isSpace c = true) : s.strip = [] := by
  rw [Text.strip, Text.stripChars, List.dropWhile_eq_nil_iff.mpr h]
  rfl

/-- What is left of a text in ASCII, in lower case. -/
def folded (unicode : Unicode) (value : Text) : Text :=
  ((unicode.nfkd value).filter isAscii).map Char.toLower

theorem lower_filter_isAscii (value : Text) :
    Text.lower ((unicode.nfkd value).filter isAscii) = folded unicode value := by
  rw [folded, Text.lower_of_ascii]
  intro c hc
  simpa [isAscii] using (List.mem_filter.mp hc).2

theorem nameless_iff {value : Text} :
    Nameless unicode value ↔ ∀ c ∈ folded unicode value, isBreak c = true := by
  have hlower : ∀ c, isAscii c = true → isBreak c.toLower = !c.isAlphanum := fun c hc => by
    rw [isBreak, isAlphanum_toLower (by simpa [isAscii] using hc)]
  constructor
  · intro h c hc
    obtain ⟨d, hd, rfl⟩ := List.mem_map.mp hc
    obtain ⟨hd, hascii⟩ := List.mem_filter.mp hd
    rw [hlower d hascii, h d hd hascii]
    rfl
  · intro h c hc hascii
    have hbreak := h c.toLower (List.mem_map_of_mem (List.mem_filter.mpr ⟨hc, hascii⟩))
    rw [hlower c hascii] at hbreak
    simpa using hbreak

theorem normalizeEntityName_eq_nil {value : Text} :
    normalizeEntityName unicode value = [] ↔ Nameless unicode value := by
  rw [nameless_iff, normalizeEntityName, lower_filter_isAscii]
  constructor
  · intro hnil c hc
    by_contra hbreak
    have hbreak : isBreak c = false := by simpa using hbreak
    have hspace : Text.isSpace c = false :=
      isSpace_of_isAlphanum (by simpa [isBreak] using hbreak)
    have hstrip := Text.mem_stripChars hc hspace
    have hname := mem_subRuns_of_not [' '] (mem_subRuns_of_not [' '] hstrip hbreak) hspace
    exact List.ne_nil_of_mem (Text.mem_stripChars hname hspace) hnil
  · intro h
    have hspaces : ∀ c ∈ Text.subRuns isBreak [' '] (folded unicode value).strip, c = ' ' := by
      intro c hc
      rcases Text.mem_subRuns hc with hc | ⟨hc, hbreak⟩
      · exact List.mem_singleton.mp hc
      · have hmem := (Text.stripChars_infix Text.isSpace _).subset hc
        rw [h c hmem] at hbreak
        cases hbreak
    apply strip_eq_nil
    intro c hc
    rcases Text.mem_subRuns hc with hc | ⟨hc, _⟩
    · rw [List.mem_singleton.mp hc]
      rfl
    · rw [hspaces c hc]
      rfl

/-! ## Groups -/

theorem get?_groupBy {α κ : Type} [DecidableEq κ] (key : α → κ) (xs : List α) (k : κ) :
    ((Dict.groupBy key xs).get? k).getD [] = xs.filter fun x => decide (key x = k) := by
  induction xs using List.reverseRecOn with
  | nil => rfl
  | append_singleton xs x ih =>
      rw [Dict.groupBy_append_singleton, List.filter_append, ← ih]
      by_cases hx : k = key x
      · subst hx
        rw [Dict.get?_modify_self]
        simp
      · rw [Dict.get?_modify_of_ne hx]
        simp [Ne.symm hx]

/-- The labels as they are read. -/
def trimmed (labels : List Text) : List Text := (labels.map Text.strip).filter (· ≠ [])

theorem mem_trimmed {labels : List Text} {term : Text} :
    term ∈ trimmed labels ↔ term ≠ [] ∧ ∃ label ∈ labels, label.strip = term := by
  simp [trimmed, and_comm]

theorem mem_terms {labels : List Text} {norm term : Text} :
    term ∈ uniqueTerms unicode (((groupsOf unicode labels).get? norm).getD []) ↔
      term ∈ trimmed labels ∧ normalizeEntityName unicode term = norm := by
  rw [uniqueTerms, sortOn, List.mem_insertionSort, List.mem_dedup, groupsOf, get?_groupBy,
    List.mem_filter, decide_eq_true_eq, trimmed]

theorem mem_candidates {labels : List Text} {candidate : AliasCandidate} :
    candidate ∈ (generateCandidates unicode labels).candidates ↔
      ∃ norm ∈ (groupsOf unicode labels).map (·.1),
        candidateOf unicode (groupsOf unicode labels) norm = some candidate := by
  simp only [generateCandidates, List.mem_filterMap, mem_sorted]

theorem two_le_length {items : List Text} {x y : Text} (hx : x ∈ items) (hy : y ∈ items)
    (hne : x ≠ y) : 2 ≤ items.length := by
  match items with
  | [] => cases hx
  | [item] =>
      rw [List.mem_singleton] at hx hy
      exact absurd (hx.trans hy.symm) hne
  | _ :: _ :: _ => simp

/-- Two terms are in one candidate when they are labels of one name, the empty one included. -/
theorem together_iff {labels : List Text} {x y : Text} (hne : x ≠ y) :
    (∃ candidate ∈ (generateCandidates unicode labels).candidates,
      x ∈ candidate.terms ∧ y ∈ candidate.terms) ↔
      x ∈ trimmed labels ∧ y ∈ trimmed labels ∧
        normalizeEntityName unicode x = normalizeEntityName unicode y := by
  constructor
  · rintro ⟨candidate, hcandidate, hx, hy⟩
    obtain ⟨norm, _, hsome⟩ := mem_candidates.mp hcandidate
    rw [candidateOf] at hsome
    split at hsome
    · cases hsome
    · cases hsome
      obtain ⟨hx, hnormx⟩ := mem_terms.mp hx
      obtain ⟨hy, hnormy⟩ := mem_terms.mp hy
      exact ⟨hx, hy, hnormx.trans hnormy.symm⟩
  · rintro ⟨hx, hy, hnorm⟩
    have hxmem : x ∈ uniqueTerms unicode (((groupsOf unicode labels).get?
        (normalizeEntityName unicode x)).getD []) := mem_terms.mpr ⟨hx, rfl⟩
    have hymem : y ∈ uniqueTerms unicode (((groupsOf unicode labels).get?
        (normalizeEntityName unicode x)).getD []) := mem_terms.mpr ⟨hy, hnorm.symm⟩
    have hlength := two_le_length hxmem hymem hne
    have hkey : normalizeEntityName unicode x ∈ (groupsOf unicode labels).map (·.1) := by
      refine List.mem_map.mpr
        ⟨(normalizeEntityName unicode x, _), Dict.mem_groupBy.mpr ⟨?_, rfl⟩, rfl⟩
      exact List.ne_nil_of_mem (List.mem_filter.mpr ⟨hx, decide_eq_true rfl⟩)
    have hsome : ∃ candidate, candidateOf unicode (groupsOf unicode labels)
        (normalizeEntityName unicode x) = some candidate ∧ candidate.terms = uniqueTerms unicode
          (((groupsOf unicode labels).get? (normalizeEntityName unicode x)).getD []) :=
      ⟨_, if_neg (not_lt.mpr hlength), rfl⟩
    obtain ⟨candidate, hsome, hterms⟩ := hsome
    exact ⟨candidate, mem_candidates.mpr ⟨_, hkey, hsome⟩, hterms ▸ hxmem, hterms ▸ hymem⟩

/-- Two labels that are read differently are in one candidate exactly when they have one name. -/
def SharesNames (unicode : Unicode) (labels : List Text) : Prop :=
  ∀ x ∈ labels, ∀ y ∈ labels, x.strip ≠ y.strip →
    ((∃ candidate ∈ (generateCandidates unicode labels).candidates,
      x.strip ∈ candidate.terms ∧ y.strip ∈ candidate.terms) ↔
      normalizeEntityName unicode x.strip = normalizeEntityName unicode y.strip ∧
        normalizeEntityName unicode x.strip ≠ [])

theorem nameless_nil : Nameless unicode [] := by
  intro c hc
  rw [unicode.nfkd_nil] at hc
  cases hc

/-- Two labels without a name make a candidate. -/
theorem not_sharesNames_of_nameless {labels : List Text} {x y : Text} (hx : x ∈ trimmed labels)
    (hy : y ∈ trimmed labels) (hne : x ≠ y) (hnox : Nameless unicode x)
    (hnoy : Nameless unicode y) : ¬ SharesNames unicode labels := by
  intro hall
  obtain ⟨_, x, hxlabel, rfl⟩ := mem_trimmed.mp hx
  obtain ⟨_, y, hylabel, rfl⟩ := mem_trimmed.mp hy
  have hnorm := (normalizeEntityName_eq_nil.mpr hnox).trans
    (normalizeEntityName_eq_nil.mpr hnoy).symm
  have htogether := (together_iff hne).mpr ⟨hx, hy, hnorm⟩
  exact ((hall x hxlabel y hylabel hne).mp htogether).2 (normalizeEntityName_eq_nil.mpr hnox)

/-- Candidates share a name unless two labels have none. -/
theorem sharesNames_iff (unicode : Unicode) (labels : List Text) :
    SharesNames unicode labels ↔
      ¬ ∃ x ∈ trimmed labels, ∃ y ∈ trimmed labels, x ≠ y ∧
        Nameless unicode x ∧ Nameless unicode y := by
  constructor
  · rintro hall ⟨x, hx, y, hy, hne, hnox, hnoy⟩
    exact not_sharesNames_of_nameless hx hy hne hnox hnoy hall
  · intro hnone x hxlabel y hylabel hne
    rw [together_iff hne]
    constructor
    · rintro ⟨hx, hy, hnorm⟩
      refine ⟨hnorm, fun hnil => hnone ⟨_, hx, _, hy, hne, ?_⟩⟩
      exact ⟨normalizeEntityName_eq_nil.mp hnil, normalizeEntityName_eq_nil.mp (hnorm ▸ hnil)⟩
    · rintro ⟨hnorm, hname⟩
      have hblank : ∀ label ∈ labels, normalizeEntityName unicode label.strip ≠ [] →
          label.strip ∈ trimmed labels := by
        intro label hlabel hname
        refine mem_trimmed.mpr ⟨?_, label, hlabel, rfl⟩
        intro hblank
        rw [hblank] at hname
        exact hname (normalizeEntityName_eq_nil.mpr nameless_nil)
      exact ⟨hblank x hxlabel hname, hblank y hylabel (hnorm ▸ hname), hnorm⟩

section Sample

/-- Letters of this block have no decomposition into ASCII. -/
def isIdeograph (c : Char) : Bool := 0x4e00 ≤ c.toNat && c.toNat ≤ 0x9fff

/-- Ideographs stay outside of ASCII. -/
def KeepsIdeographs (nfkd : Text → Text) : Prop :=
  ∀ text : Text, text.all isIdeograph = true → ∀ c ∈ nfkd text, isAscii c = false

theorem nameless_of_ideographs (hkeeps : KeepsIdeographs unicode.nfkd) {text : Text}
    (h : text.all isIdeograph = true) : Nameless unicode text := by
  intro c hc hascii
  rw [hkeeps text h c hc] at hascii
  cases hascii

def cities : List Text := ["北京".toList, "東京".toList]

/-- Two cities in ideographs have no name in ASCII, and make a candidate. -/
theorem not_sharesNames_cities (hkeeps : KeepsIdeographs unicode.nfkd) :
    ¬ SharesNames unicode cities := by
  have hcities : cities = trimmed cities := by decide +kernel
  apply not_sharesNames_of_nameless (x := "北京".toList) (y := "東京".toList)
  · rw [← hcities]
    simp [cities]
  · rw [← hcities]
    simp [cities]
  · decide
  · exact nameless_of_ideographs hkeeps (by decide)
  · exact nameless_of_ideographs hkeeps (by decide)

theorem not_sharesNames : ¬ ∀ unicode : Unicode, KeepsIdeographs unicode.nfkd →
    ∀ labels : List Text, SharesNames unicode labels := by
  intro hall
  let unicode : Unicode := { nfkd := id, casefold := Text.lower, nfkd_nil := rfl }
  have hkeeps : KeepsIdeographs unicode.nfkd := by
    intro text htext c hc
    have hc := List.all_eq_true.mp htext c hc
    simp only [isIdeograph, Bool.and_eq_true, decide_eq_true_eq] at hc
    simp only [isAscii, decide_eq_false_iff_not, not_lt]
    omega
  exact not_sharesNames_cities hkeeps (hall unicode hkeeps cities)

end Sample

end MemoryLab.AliasHygiene

import MemoryLab.Library.Regex

/-! # Substitution

`re.sub` with a replacement that starts with the first group of the pattern: a match is what the
group reads and then what the rest of the pattern reads, and only the latter is replaced. -/

namespace Library

/-- Where a text is split in two ways, what stands after a character that the first part lacks is
part of the second. -/
theorem mem_of_append_eq {α : Type*} {a b p q : List α} {c : α} (h : a ++ b = p ++ c :: q)
    (hc : c ∉ a) : ∀ d ∈ c :: q, d ∈ b := by
  intro d hd
  rcases List.append_eq_append_iff.mp h with ⟨middle, rfl, rfl⟩ | ⟨middle, rfl, hsplit⟩
  · exact List.mem_append_right middle hd
  · cases middle with
    | nil => simpa [hsplit] using hd
    | cons e middle =>
        obtain ⟨rfl, _⟩ : c = e ∧ q = middle ++ b := by simpa using hsplit
        simp at hc

/-- The first occurrence of an element splits a list in one way. -/
theorem append_cons_inj {α : Type*} {a b p q : List α} {c : α} (ha : c ∉ a) (hp : c ∉ p)
    (h : a ++ c :: b = p ++ c :: q) : a = p ∧ b = q := by
  rcases List.append_eq_append_iff.mp h with ⟨middle, rfl, hsplit⟩ | ⟨middle, rfl, hsplit⟩
  · cases middle with
    | nil => simpa using hsplit
    | cons d middle => simp_all
  · cases middle with
    | nil => simpa [eq_comm] using hsplit
    | cons d middle => simp_all

theorem exists_append_of_suffix {α : Type*} {a b : List α} {c : α} (h : a <:+ b) (hne : a ≠ [])
    (hc : b.getLast? = some c) : ∃ front, a = front ++ [c] := by
  obtain ⟨front, rfl⟩ := h
  rw [List.getLast?_append_of_ne_nil front hne] at hc
  exact ⟨a.dropLast, (List.dropLast_append_getLast? c hc).symm⟩

namespace Pattern

/-- The pattern that reads nothing. -/
def empty : Pattern := many fun _ => false

/-- `r?`. -/
def opt (r : Pattern) : Pattern := alt r empty

/-! ## The texts that a pattern reads -/

def Language : Pattern → Text → Prop
  | one p, s => ∃ c, p c = true ∧ s = [c]
  | many p, s => ∀ c ∈ s, p c = true
  | seq first second, s => ∃ x y, first.Language x ∧ second.Language y ∧ s = x ++ y
  | alt first second, s => first.Language s ∨ second.Language s

theorem mem_manyRemainders_append {p : Char → Bool} {read rest : Text}
    (h : ∀ c ∈ read, p c = true) : rest ∈ manyRemainders p (read ++ rest) := by
  induction read with
  | nil =>
      cases rest with
      | nil => simp [manyRemainders]
      | cons c cs =>
          rw [List.nil_append, manyRemainders]
          split <;> simp
  | cons c read ih =>
      have hrest := ih fun d hd => h d (by simp [hd])
      simp [manyRemainders, h c, hrest]

theorem mem_remainders {r : Pattern} {s rest : Text} :
    rest ∈ r.remainders s ↔ ∃ read, r.Language read ∧ s = read ++ rest := by
  induction r generalizing s rest with
  | one p =>
      cases s with
      | nil => simp [remainders, Language]
      | cons c cs =>
          rw [remainders]
          constructor
          · intro h
            split at h
            · rename_i hc
              obtain rfl := List.mem_singleton.mp h
              exact ⟨[c], ⟨c, hc, rfl⟩, rfl⟩
            · cases h
          · rintro ⟨read, ⟨d, hd, rfl⟩, hs⟩
            obtain ⟨rfl, rfl⟩ : c = d ∧ cs = rest := by simpa using hs
            simp [hd]
  | many p =>
      constructor
      · intro h
        obtain ⟨read, hs, hread⟩ := mem_manyRemainders h
        exact ⟨read, hread, hs⟩
      · rintro ⟨read, hread, rfl⟩
        exact mem_manyRemainders_append hread
  | seq first second ihfirst ihsecond =>
      rw [remainders, List.mem_flatMap]
      constructor
      · rintro ⟨middle, hmiddle, hrest⟩
        obtain ⟨x, hx, rfl⟩ := ihfirst.mp hmiddle
        obtain ⟨y, hy, rfl⟩ := ihsecond.mp hrest
        exact ⟨x ++ y, ⟨x, y, hx, hy, rfl⟩, by simp⟩
      · rintro ⟨read, ⟨x, y, hx, hy, rfl⟩, rfl⟩
        exact ⟨y ++ rest, ihfirst.mpr ⟨x, hx, by simp⟩, ihsecond.mpr ⟨y, hy, rfl⟩⟩
  | alt first second ihfirst ihsecond =>
      rw [remainders, List.mem_append, ihfirst, ihsecond]
      constructor
      · rintro (⟨read, h, hs⟩ | ⟨read, h, hs⟩)
        · exact ⟨read, .inl h, hs⟩
        · exact ⟨read, .inr h, hs⟩
      · rintro ⟨read, h | h, hs⟩
        · exact .inl ⟨read, h, hs⟩
        · exact .inr ⟨read, h, hs⟩

@[simp] theorem language_char {d : Char} {s : Text} : (char d).Language s ↔ s = [d] := by
  simp [char, Language]

@[simp] theorem language_empty {s : Text} : empty.Language s ↔ s = [] := by
  simp [empty, Language, List.eq_nil_iff_forall_not_mem]

theorem language_plus {p : Char → Bool} {s : Text} :
    (plus p).Language s ↔ s ≠ [] ∧ ∀ c ∈ s, p c = true := by
  constructor
  · rintro ⟨x, y, ⟨c, hc, rfl⟩, hy, rfl⟩
    refine ⟨by simp, ?_⟩
    intro d hd
    rcases List.mem_cons.mp hd with rfl | hd
    · exact hc
    · exact hy d hd
  · rintro ⟨hne, hs⟩
    obtain ⟨c, cs, rfl⟩ := List.exists_cons_of_ne_nil hne
    exact ⟨[c], cs, ⟨c, hs c (by simp), rfl⟩, fun d hd => hs d (by simp [hd]), rfl⟩

theorem language_word {eq : Char → Char → Bool} {w s : Text} :
    (word eq w).Language s ↔ List.Forall₂ (fun letter c => eq letter c = true) w s := by
  induction w generalizing s with
  | nil => simp [word, Language, List.eq_nil_iff_forall_not_mem]
  | cons letter w ih =>
      rw [word, Language, List.forall₂_cons_left_iff]
      constructor
      · rintro ⟨_, y, ⟨c, hc, rfl⟩, hy, rfl⟩
        exact ⟨c, y, hc, ih.mp hy, rfl⟩
      · rintro ⟨c, y, hc, hy, rfl⟩
        exact ⟨[c], y, ⟨c, hc, rfl⟩, ih.mpr hy, rfl⟩

/-- Every class of a pattern is part of a class. -/
def Within : Pattern → (Char → Bool) → Prop
  | one q, p => ∀ c, q c = true → p c = true
  | many q, p => ∀ c, q c = true → p c = true
  | seq first second, p => first.Within p ∧ second.Within p
  | alt first second, p => first.Within p ∧ second.Within p

theorem Within.of_language {r : Pattern} {p : Char → Bool} (h : r.Within p) {s : Text}
    (hs : r.Language s) : ∀ c ∈ s, p c = true := by
  induction r generalizing s with
  | one q =>
      obtain ⟨c, hc, rfl⟩ := hs
      simpa using h c hc
  | many q => exact fun c hc => h c (hs c hc)
  | seq first second ihfirst ihsecond =>
      obtain ⟨x, y, hx, hy, rfl⟩ := hs
      intro c hc
      exact (List.mem_append.mp hc).elim (ihfirst h.1 hx c) (ihsecond h.2 hy c)
  | alt first second ihfirst ihsecond =>
      rcases hs with hs | hs
      · exact ihfirst h.1 hs
      · exact ihsecond h.2 hs

theorem Within.notMem {r : Pattern} {p : Char → Bool} (h : r.Within p) {s : Text}
    (hs : r.Language s) {c : Char} (hc : p c = false) : c ∉ s := by
  intro hmem
  simp [h.of_language hs c hmem] at hc

/-- No class of a pattern has the character. -/
def avoids : Pattern → Char → Bool
  | one q, d => !q d
  | many q, d => !q d
  | seq first second, d => first.avoids d && second.avoids d
  | alt first second, d => first.avoids d && second.avoids d

theorem within_of_avoids {r : Pattern} {d : Char} (h : r.avoids d = true) :
    r.Within (· != d) := by
  induction r with
  | one q =>
      intro c hc
      simp only [bne_iff_ne]
      rintro rfl
      simp [avoids, hc] at h
  | many q =>
      intro c hc
      simp only [bne_iff_ne]
      rintro rfl
      simp [avoids, hc] at h
  | seq first second ihfirst ihsecond =>
      rw [avoids, Bool.and_eq_true] at h
      exact ⟨ihfirst h.1, ihsecond h.2⟩
  | alt first second ihfirst ihsecond =>
      rw [avoids, Bool.and_eq_true] at h
      exact ⟨ihfirst h.1, ihsecond h.2⟩

theorem notMem_of_avoids {r : Pattern} {d : Char} (h : r.avoids d = true) {s : Text}
    (hs : r.Language s) : d ∉ s :=
  (within_of_avoids h).notMem hs (by simp)

theorem within_word {eq : Char → Char → Bool} {p : Char → Bool} {w : Text}
    (h : ∀ letter ∈ w, ∀ c, eq letter c = true → p c = true) : (word eq w).Within p := by
  induction w with
  | nil => simp [word, Within]
  | cons letter w ih =>
      exact ⟨h letter (by simp), ih fun other hother => h other (by simp [hother])⟩

/-- A pattern does not read past a character outside its classes. -/
theorem Within.remainders_append {r : Pattern} {p : Char → Bool} (h : r.Within p) {c : Char}
    (hc : p c = false) (a b : Text) :
    r.remainders (a ++ c :: b) = (r.remainders a).map (· ++ c :: b) := by
  have hclass : ∀ q : Char → Bool, (∀ d, q d = true → p d = true) → q c = false := by
    intro q hq
    by_contra hne
    simp [hq c (by simpa using hne)] at hc
  induction r generalizing a with
  | one q =>
      cases a with
      | nil => simp [remainders, hclass q h]
      | cons d a =>
          rw [List.cons_append, remainders, remainders]
          split <;> simp
  | many q =>
      rw [remainders, remainders]
      induction a with
      | nil => simp [manyRemainders, hclass q h]
      | cons d a ih =>
          rw [List.cons_append, manyRemainders, manyRemainders, ih]
          split <;> simp
  | seq first second ihfirst ihsecond =>
      rw [remainders, remainders, ihfirst h.1, List.flatMap_map, List.map_flatMap]
      exact congrArg (List.flatMap · _) (funext fun middle => ihsecond h.2 middle)
  | alt first second ihfirst ihsecond =>
      rw [remainders, remainders, ihfirst h.1, ihsecond h.2, List.map_append]

/-- A run stops inside a text that holds a character outside its class. -/
theorem remainders_plus_append {p : Char → Bool} {a : Text} (h : ∃ c ∈ a, p c = false)
    (b : Text) : (plus p).remainders (a ++ b) = ((plus p).remainders a).map (· ++ b) := by
  have hmany : ∀ a : Text, (∃ c ∈ a, p c = false) →
      manyRemainders p (a ++ b) = (manyRemainders p a).map (· ++ b) := by
    intro a
    induction a with
    | nil => simp
    | cons d a ih =>
        intro hstop
        rw [List.cons_append, manyRemainders, manyRemainders]
        split
        · rename_i hd
          rw [ih (by simpa [hd] using hstop)]
          simp
        · simp
  cases a with
  | nil => simp at h
  | cons d a =>
      by_cases hd : p d = true
      · have hstop : ∃ c ∈ a, p c = false := by simpa [hd] using h
        simp [plus, remainders, hd, hmany a hstop]
      · simp [plus, remainders, hd]

theorem head?_manyRemainders (p : Char → Bool) (s : Text) :
    (manyRemainders p s).head? = some (s.dropWhile p) := by
  induction s with
  | nil => rfl
  | cons c cs ih =>
      rw [manyRemainders, List.dropWhile_cons]
      split
      · rw [List.head?_append, ih, Option.some_or]
      · rfl

/-- A run reads up to a character outside its class. -/
theorem head_of_remainders_plus {p : Char → Bool} {s rest : Text}
    (h : ((plus p).remainders s).head? = some rest) : ∀ c ∈ rest.head?, p c = false := by
  cases s with
  | nil => simp [plus, remainders] at h
  | cons c cs =>
      by_cases hc : p c = true
      · have hmany : (manyRemainders p cs).head? = some rest := by
          simpa [plus, remainders, hc] using h
        rw [head?_manyRemainders, Option.some.injEq] at hmany
        intro d hd
        have hstop := List.head?_dropWhile_not p cs
        rw [hmany] at hstop
        rw [Option.mem_def] at hd
        simpa [hd] using hstop
      · simp [plus, remainders, hc] at h

end Pattern

open Pattern

/-- A substitution whose replacement is the group and then a text. -/
structure Substitution where
  group : Pattern
  rest : Pattern
  replacement : Text
  reads : ¬ rest.Language []

namespace Substitution

/-- The ways to match at the start of a text, in the order in which they are tried: what follows
the group, and what follows the match. -/
def matchesAt (r : Substitution) (s : Text) : List (Text × Text) :=
  (r.group.remainders s).flatMap fun middle =>
    (r.rest.remainders middle).map fun tail => (middle, tail)

def firstMatch (r : Substitution) (s : Text) : Option (Text × Text) := (r.matchesAt s).head?

/-- The first `skip` characters are inside the previous match. -/
def subFrom (r : Substitution) : ℕ → Text → Text
  | _, [] => []
  | skip + 1, _ :: cs => subFrom r skip cs
  | 0, c :: cs =>
    match r.firstMatch (c :: cs) with
    | none => c :: subFrom r 0 cs
    | some (middle, tail) =>
      (c :: cs).take ((c :: cs).length - middle.length) ++
        (r.replacement ++ subFrom r ((c :: cs).length - tail.length - 1) cs)

/-- `re.sub`. -/
def sub (r : Substitution) (s : Text) : Text := r.subFrom 0 s

theorem mem_matchesAt {r : Substitution} {s middle tail : Text} :
    (middle, tail) ∈ r.matchesAt s ↔
      ∃ x y, r.group.Language x ∧ r.rest.Language y ∧ s = x ++ middle ∧ middle = y ++ tail := by
  simp only [matchesAt, List.mem_flatMap, List.mem_map, Prod.mk.injEq, mem_remainders]
  constructor
  · rintro ⟨_, ⟨x, hx, hs⟩, _, ⟨y, hy, hmiddle⟩, rfl, rfl⟩
    exact ⟨x, y, hx, hy, hs, hmiddle⟩
  · rintro ⟨x, y, hx, hy, hs, hmiddle⟩
    exact ⟨middle, ⟨x, hx, hs⟩, tail, ⟨y, hy, hmiddle⟩, rfl, rfl⟩

theorem firstMatch_eq_none_iff {r : Substitution} {s : Text} : r.firstMatch s = none ↔
    ∀ x y tail, r.group.Language x → r.rest.Language y → s ≠ x ++ (y ++ tail) := by
  rw [firstMatch, List.head?_eq_none_iff, List.eq_nil_iff_forall_not_mem]
  constructor
  · intro h x y tail hx hy hs
    exact h (y ++ tail, tail) (mem_matchesAt.mpr ⟨x, y, hx, hy, hs, rfl⟩)
  · rintro h ⟨middle, tail⟩ hmem
    obtain ⟨x, y, hx, hy, hs, rfl⟩ := mem_matchesAt.mp hmem
    exact h x y tail hx hy hs

theorem of_firstMatch {r : Substitution} {s middle tail : Text}
    (h : r.firstMatch s = some (middle, tail)) :
    ∃ x y, r.group.Language x ∧ r.rest.Language y ∧ s = x ++ middle ∧ middle = y ++ tail :=
  mem_matchesAt.mp (List.mem_of_head? h)

/-! ## A text and what a substitution makes of it -/

inductive Rewrites (r : Substitution) : Text → Text → Prop
  | nil : Rewrites r [] []
  | keep {c : Char} {s t : Text} : r.firstMatch (c :: s) = none → Rewrites r s t →
      Rewrites r (c :: s) (c :: t)
  | replace {x y s t : Text} : r.group.Language x → r.rest.Language y →
      r.firstMatch (x ++ (y ++ s)) = some (y ++ s, s) → Rewrites r s t →
      Rewrites r (x ++ (y ++ s)) (x ++ (r.replacement ++ t))

theorem subFrom_eq (r : Substitution) (skip : ℕ) (s : Text) :
    r.subFrom skip s = r.sub (s.drop skip) := by
  induction skip generalizing s with
  | zero => rfl
  | succ skip ih =>
      cases s with
      | nil => simp [sub, subFrom]
      | cons c cs => rw [subFrom, ih, List.drop_succ_cons]

theorem sub_cons_of_none {r : Substitution} {c : Char} {s : Text}
    (h : r.firstMatch (c :: s) = none) : r.sub (c :: s) = c :: r.sub s := by
  rw [sub, subFrom, h]
  rfl

theorem sub_of_firstMatch {r : Substitution} {x y s : Text} (hy : r.rest.Language y)
    (h : r.firstMatch (x ++ (y ++ s)) = some (y ++ s, s)) :
    r.sub (x ++ (y ++ s)) = x ++ (r.replacement ++ r.sub s) := by
  have hne : x ++ (y ++ s) ≠ [] := by
    intro hnil
    obtain ⟨_, hnil⟩ := List.append_eq_nil_iff.mp hnil
    obtain ⟨rfl, _⟩ := List.append_eq_nil_iff.mp hnil
    exact r.reads hy
  obtain ⟨c, cs, hs⟩ := List.exists_cons_of_ne_nil hne
  have htake : (c :: cs).take ((c :: cs).length - (y ++ s).length) = x := by
    rw [← hs, List.length_append, Nat.add_sub_cancel, List.take_left]
  have hdrop : cs.drop ((c :: cs).length - s.length - 1) = s := by
    have hlength : (c :: cs).length = x.length + y.length + s.length := by
      rw [← hs]
      simp only [List.length_append]
      omega
    have hpos : (c :: cs).length - s.length - 1 + 1 = (x ++ y).length := by
      have hy : 0 < y.length := List.length_pos_iff.mpr fun hnil => r.reads (hnil ▸ hy)
      simp only [List.length_append]
      omega
    rw [← List.drop_succ_cons (a := c), hpos, ← hs, ← List.append_assoc, List.drop_left]
  rw [hs] at h ⊢
  rw [sub, subFrom, h]
  dsimp only
  rw [htake, subFrom_eq, hdrop]

theorem rewrites_sub (r : Substitution) (s : Text) : r.Rewrites s (r.sub s) := by
  induction hn : s.length using Nat.strongRecOn generalizing s with
  | ind n ih =>
      cases s with
      | nil => exact .nil
      | cons c cs =>
          cases h : r.firstMatch (c :: cs) with
          | none =>
              rw [sub_cons_of_none h]
              exact .keep h (ih cs.length (by simp at hn; omega) cs rfl)
          | some found =>
              obtain ⟨middle, tail⟩ := found
              obtain ⟨x, y, hx, hy, hs, rfl⟩ := of_firstMatch h
              have hpos : 0 < y.length := List.length_pos_iff.mpr fun hnil => r.reads (hnil ▸ hy)
              have htail : tail.length < n := by
                rw [← hn, hs]
                simp only [List.length_append]
                omega
              rw [hs] at h ⊢
              rw [sub_of_firstMatch hy h]
              exact .replace hx hy h (ih tail.length htail tail rfl)

theorem Rewrites.eq_sub {r : Substitution} {s t : Text} (h : r.Rewrites s t) : r.sub s = t := by
  induction h with
  | nil => rfl
  | keep hnone _ ih => rw [sub_cons_of_none hnone, ih]
  | replace _ hy hmatch _ ih => rw [sub_of_firstMatch hy hmatch, ih]

/-- Where the matches in a text do not depend on what follows it, the text and what follows are
rewritten apart. -/
theorem sub_append {r : Substitution} {a x : Text}
    (h : ∀ y, y ≠ [] → y <:+ a →
      r.firstMatch (y ++ x) = (r.firstMatch y).map fun m => (m.1 ++ x, m.2 ++ x)) :
    r.sub (a ++ x) = r.sub a ++ r.sub x := by
  apply Rewrites.eq_sub
  have hrewrites := r.rewrites_sub a
  generalize r.sub a = t at hrewrites
  induction hrewrites with
  | nil => exact r.rewrites_sub x
  | keep hnone hlater ih =>
      rename_i c s t
      refine .keep ?_ (ih fun y hne hy => h y hne (hy.trans (List.suffix_cons c s)))
      have happend := h (c :: s) (by simp) List.suffix_rfl
      rwa [hnone] at happend
  | replace hx hy hmatch hlater ih =>
      rename_i read matched s t
      have hne : read ++ (matched ++ s) ≠ [] := by
        intro hnil
        obtain ⟨_, hnil⟩ := List.append_eq_nil_iff.mp hnil
        obtain ⟨rfl, _⟩ := List.append_eq_nil_iff.mp hnil
        exact r.reads hy
      have hsuffix : s <:+ read ++ (matched ++ s) := ⟨read ++ matched, by simp⟩
      have happend := h _ hne List.suffix_rfl
      rw [hmatch] at happend
      have hrest := ih fun y hne hy => h y hne (hy.trans hsuffix)
      simp only [List.append_assoc, Option.map_some] at happend ⊢
      exact .replace hx hy happend hrest

/-- A text in which no match starts stays as it is. -/
theorem sub_append_of_none {r : Substitution} {a x : Text}
    (h : ∀ y, y ≠ [] → y <:+ a → r.firstMatch (y ++ x) = none) :
    r.sub (a ++ x) = a ++ r.sub x := by
  induction a with
  | nil => rfl
  | cons c a ih =>
      have hnone := h (c :: a) (by simp) List.suffix_rfl
      rw [List.cons_append] at hnone ⊢
      rw [sub_cons_of_none hnone, ih fun y hne hy => h y hne (hy.trans (List.suffix_cons c a)),
        List.cons_append]

/-- A character that every match reads, outside its group or in it. -/
def Needs (r : Substitution) (c : Char) : Prop :=
  ∀ x y, r.group.Language x → r.rest.Language y → c ∈ x ++ y

theorem Needs.firstMatch_eq_none {r : Substitution} {c : Char} (h : r.Needs c) {s : Text}
    (hs : c ∉ s) : r.firstMatch s = none := by
  rw [firstMatch_eq_none_iff]
  rintro x y tail hx hy rfl
  apply hs
  rw [← List.append_assoc]
  exact List.mem_append_left tail (h x y hx hy)

theorem Needs.sub_eq_self {r : Substitution} {c : Char} (h : r.Needs c) {s : Text}
    (hs : c ∉ s) : r.sub s = s := by
  have hnone := sub_append_of_none (r := r) (a := s) (x := []) fun y _ hy =>
    h.firstMatch_eq_none (by simpa using fun hmem => hs (hy.mem hmem))
  simpa [sub, subFrom] using hnone

theorem sub_ne_nil {r : Substitution} (hr : r.replacement ≠ []) {s : Text} (hs : s ≠ []) :
    r.sub s ≠ [] := by
  have hrewrites := r.rewrites_sub s
  generalize r.sub s = t at hrewrites
  cases hrewrites with
  | nil => exact hs
  | keep => simp
  | replace => simp [hr]

theorem notMem_sub {r : Substitution} {c : Char} (hr : c ∉ r.replacement) {s : Text}
    (hs : c ∉ s) : c ∉ r.sub s := by
  have hrewrites := r.rewrites_sub s
  generalize r.sub s = t at hrewrites
  induction hrewrites with
  | nil => exact hs
  | keep _ _ ih =>
      simp only [List.mem_cons, not_or] at hs ⊢
      exact ⟨hs.1, ih hs.2⟩
  | replace _ _ _ _ ih =>
      simp only [List.mem_append, not_or] at hs ⊢
      exact ⟨hs.1, hr, ih hs.2.2⟩

/-- The last character stays where no match ends with it. -/
theorem getLast?_sub {r : Substitution} {c : Char}
    (h : ∀ y, r.rest.Language y → y.getLast? ≠ some c) {s : Text} (hs : s.getLast? = some c) :
    (r.sub s).getLast? = some c := by
  have hrewrites := r.rewrites_sub s
  generalize r.sub s = t at hrewrites
  induction hrewrites with
  | nil => exact hs
  | keep _hnone hlater ih =>
      rename_i d s t
      rw [List.getLast?_cons] at hs ⊢
      cases hlast : s.getLast? with
      | none =>
          obtain rfl := List.getLast?_eq_none_iff.mp hlast
          rw [← hlater.eq_sub]
          exact hs
      | some e =>
          rw [hlast] at hs
          rw [ih (hlast.trans hs)]
          rfl
  | replace _hx hy _hmatch hlater ih =>
      rename_i x y s t
      simp only [List.getLast?_append] at hs ⊢
      cases hlast : s.getLast? with
      | none =>
          have hne : y.getLast? ≠ none := by
            rw [Ne, List.getLast?_eq_none_iff]
            exact fun hnil => r.reads (hnil ▸ hy)
          obtain ⟨d, hd⟩ := Option.ne_none_iff_exists'.mp hne
          have hc : y.getLast? = some c := by simpa [hlast, hd] using hs
          exact absurd hc (h y hy)
      | some e =>
          rw [hlast] at hs
          rw [ih (hlast.trans (by simpa using hs))]
          rfl

theorem Rewrites.eq_or_infix {r : Substitution} {s t : Text} (h : r.Rewrites s t) :
    t = s ∨ r.replacement <:+: t := by
  induction h with
  | nil => exact .inl rfl
  | keep _ _ ih =>
      rcases ih with rfl | hwithin
      · exact .inl rfl
      · exact .inr (List.infix_cons hwithin)
  | replace =>
      rename_i x y s t _ _ _ _ _
      exact .inr ⟨x, t, by simp⟩

/-- The first match splits a text that is not left as it is. -/
theorem Rewrites.eq_or_split {r : Substitution} {s t : Text} (h : r.Rewrites s t) :
    t = s ∨ ∃ front x y later tail, r.group.Language x ∧ r.rest.Language y ∧
      s = front ++ (x ++ (y ++ later)) ∧ t = front ++ (x ++ (r.replacement ++ tail)) := by
  induction h with
  | nil => exact .inl rfl
  | keep _ _ ih =>
      rename_i c s t _ _
      rcases ih with rfl | ⟨front, x, y, later, tail, hx, hy, rfl, rfl⟩
      · exact .inl rfl
      · exact .inr ⟨c :: front, x, y, later, tail, hx, hy, rfl, rfl⟩
  | replace hx hy _ _ _ => exact .inr ⟨[], _, _, _, _, hx, hy, rfl, rfl⟩

end Substitution

/-! ## Substitutions that replace a run -/

/-- A pattern whose match goes on to the end of a run of one class. -/
structure RunSubstitution where
  group : Pattern
  lead : Pattern
  run : Char → Bool
  replacement : Text
  starts : ¬ (group.seq lead).Language []

namespace RunSubstitution

/-- What a match reads before its run. -/
def start (r : RunSubstitution) : Pattern := r.group.seq r.lead

def toSubstitution (r : RunSubstitution) : Substitution where
  group := r.group
  rest := r.lead.seq (plus r.run)
  replacement := r.replacement
  reads := by
    rintro ⟨x, y, _, hy, hnil⟩
    exact (language_plus.mp hy).1 (List.append_eq_nil_iff.mp hnil.symm).2

/-- Wherever a match starts in the text, its run stops in it. -/
def Closed (r : RunSubstitution) (a : Text) : Prop :=
  ∀ front start rest, r.start.Language start → a = front ++ (start ++ rest) →
    ∃ c ∈ rest, r.run c = false

theorem Closed.suffix {r : RunSubstitution} {a b : Text} (h : r.Closed a) (hb : b <:+ a) :
    r.Closed b := by
  obtain ⟨front, rfl⟩ := hb
  rintro middle start rest hstart rfl
  exact h (front ++ middle) start rest hstart (by simp)

/-- What is closed is rewritten apart from a character that no match starts with and what follows
it. -/
theorem sub_append_of_closed {r : RunSubstitution} {p : Char → Bool} (hstart : r.start.Within p)
    {c : Char} (hc : p c = false) {a : Text} (h : r.Closed a) (b : Text) :
    r.toSubstitution.sub (a ++ c :: b) =
      r.toSubstitution.sub a ++ c :: r.toSubstitution.sub b := by
  have hnone : r.toSubstitution.firstMatch (c :: b) = none := by
    rw [Substitution.firstMatch_eq_none_iff]
    rintro x _ tail hx ⟨y, z, hy, _, rfl⟩ hs
    have hread : r.start.Language (x ++ y) := ⟨x, y, hx, hy, rfl⟩
    cases hxy : x ++ y with
    | nil => exact r.starts (hxy ▸ hread)
    | cons d read =>
        rw [← List.append_assoc, ← List.append_assoc, hxy] at hs
        obtain rfl : c = d := by simpa using congrArg List.head? hs
        exact hstart.notMem hread hc (by simp [hxy])
  rw [← Substitution.sub_cons_of_none hnone]
  apply Substitution.sub_append
  intro y _ hy
  have hclosed := h.suffix hy
  rw [Substitution.firstMatch, Substitution.firstMatch, ← List.head?_map]
  apply congrArg
  have hgroup : r.toSubstitution.group.remainders (y ++ c :: b) =
      (r.toSubstitution.group.remainders y).map (· ++ c :: b) := hstart.1.remainders_append hc y b
  rw [Substitution.matchesAt, Substitution.matchesAt, hgroup, List.flatMap_map, List.map_flatMap]
  apply List.flatMap_congr
  intro middle hmiddle
  obtain ⟨x, hx, rfl⟩ := mem_remainders.mp hmiddle
  have hrest : (r.lead.seq (plus r.run)).remainders (middle ++ c :: b) =
      ((r.lead.seq (plus r.run)).remainders middle).map (· ++ c :: b) := by
    rw [remainders, remainders, hstart.2.remainders_append hc, List.flatMap_map,
      List.map_flatMap]
    apply List.flatMap_congr
    intro later hlater
    obtain ⟨z, hz, rfl⟩ := mem_remainders.mp hlater
    exact remainders_plus_append (hclosed [] (x ++ z) later ⟨x, z, hx, hz, rfl⟩ (by simp)) _
  rw [show r.toSubstitution.rest = r.lead.seq (plus r.run) from rfl, hrest]
  simp

/-- A match reads up to a character at which its run stops. -/
theorem stops_of_firstMatch {r : RunSubstitution} {s middle tail : Text}
    (h : r.toSubstitution.firstMatch s = some (middle, tail)) :
    ∀ c ∈ tail.head?, r.run c = false := by
  rw [Substitution.firstMatch, Substitution.matchesAt, List.head?_flatMap] at h
  obtain ⟨later, _, hlater⟩ := List.exists_of_findSome?_eq_some h
  rw [List.head?_map, Option.map_eq_some_iff] at hlater
  obtain ⟨rest, hrest, heq⟩ := hlater
  obtain ⟨rfl, rfl⟩ : later = middle ∧ rest = tail := by simpa using heq
  have hrest : ((r.lead.seq (plus r.run)).remainders later).head? = some rest := hrest
  rw [remainders, List.head?_flatMap] at hrest
  obtain ⟨before, _, hbefore⟩ := List.exists_of_findSome?_eq_some hrest
  exact head_of_remainders_plus hbefore

theorem needs {r : RunSubstitution} {c : Char} (h : ∀ start, r.start.Language start → c ∈ start) :
    r.toSubstitution.Needs c := by
  rintro x _ hx ⟨y, z, hy, _, rfl⟩
  rw [← List.append_assoc]
  exact List.mem_append_left z (h (x ++ y) ⟨x, y, hx, hy, rfl⟩)

theorem getLast?_sub {r : RunSubstitution} {c : Char} (hc : r.run c = false) {s : Text}
    (hs : s.getLast? = some c) : (r.toSubstitution.sub s).getLast? = some c := by
  refine Substitution.getLast?_sub ?_ hs
  rintro _ ⟨y, z, _, hz, rfl⟩ hlast
  obtain ⟨hne, hrun⟩ := language_plus.mp hz
  rw [List.getLast?_append_of_ne_nil y hne] at hlast
  simp [hrun c (List.mem_of_getLast? hlast)] at hc

theorem closed_of_notMem {r : RunSubstitution} {c : Char}
    (h : ∀ start, r.start.Language start → c ∈ start) {a : Text} (ha : c ∉ a) : r.Closed a := by
  rintro front start rest hstart rfl
  simp [h start hstart] at ha

/-- Another substitution leaves a text closed where what it writes is not part of an open end, and
no open end starts inside it. -/
theorem Closed.sub {r : RunSubstitution} {first : Substitution}
    (hwithin : ∀ start rest, r.start.Language start → (∀ c ∈ rest, r.run c = true) →
      ¬ first.replacement <:+: start ++ rest)
    (hinside : ∀ x y s inner start rest, first.group.Language x → first.rest.Language y →
      first.firstMatch (x ++ (y ++ s)) = some (y ++ s, s) → inner ≠ [] →
      inner <:+ x ++ first.replacement → r.start.Language start →
      (∀ c ∈ rest, r.run c = true) → inner ++ first.sub s = start ++ rest →
      ¬ r.Closed (x ++ (y ++ s)))
    {a : Text} (h : r.Closed a) : r.Closed (first.sub a) := by
  intro front start rest hstart hsplit
  by_contra hnever
  have hrun : ∀ c ∈ rest, r.run c = true := by simpa using hnever
  have hrewrites := first.rewrites_sub a
  rw [hsplit] at hrewrites
  generalize ht : front ++ (start ++ rest) = t at hrewrites
  clear hsplit
  induction hrewrites generalizing front with
  | nil =>
      obtain ⟨rfl, rfl⟩ := List.append_eq_nil_iff.mp (List.append_eq_nil_iff.mp ht).2
      exact r.starts hstart
  | keep hnone hlater ih =>
      rename_i c s t
      cases front with
      | nil =>
          rcases hlater.eq_or_infix with rfl | hin
          · exact hnever (h [] start rest hstart ht.symm)
          · exact hwithin start rest hstart hrun (ht ▸ List.infix_cons hin)
      | cons d front =>
          rw [List.cons_append, List.cons.injEq] at ht
          exact ih (h.suffix (List.suffix_cons c s)) front ht.2
  | replace hx hy hmatch hlater ih =>
      rename_i x y s t
      have hclosed : r.Closed s := h.suffix ⟨x ++ y, by simp⟩
      have ht : front ++ (start ++ rest) = (x ++ first.replacement) ++ t := by simpa using ht
      rcases List.append_eq_append_iff.mp ht with ⟨inner, hwritten, hrest⟩ | ⟨later, _, hrest⟩
      · by_cases hinner : inner = []
        · exact ih hclosed [] (by simpa [hinner] using hrest)
        · rw [← hlater.eq_sub] at hrest
          exact hinside x y s inner start rest hx hy hmatch hinner ⟨front, hwritten.symm⟩ hstart
            hrun hrest.symm h
      · exact ih hclosed later hrest.symm

end RunSubstitution

end Library

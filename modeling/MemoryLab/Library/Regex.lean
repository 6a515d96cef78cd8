import MemoryLab.Library.PyText

/-! # Backtracking patterns

The result of a pattern at a position is the list of texts it can leave unread, in the order
in which a backtracking matcher tries them. The matcher's answer is the head of the list. -/

namespace Library

/-- Patterns whose repetitions are greedy repetitions of one character class. -/
inductive Pattern where
  | one (p : Char → Bool)
  | many (p : Char → Bool)
  | seq (first second : Pattern)
  | alt (first second : Pattern)

namespace Pattern

def manyRemainders (p : Char → Bool) : Text → List Text
  | [] => [[]]
  | c :: cs => if p c then manyRemainders p cs ++ [c :: cs] else [c :: cs]

def remainders : Pattern → Text → List Text
  | one _, [] => []
  | one p, c :: cs => if p c then [cs] else []
  | many p, s => manyRemainders p s
  | seq first second, s => (first.remainders s).flatMap second.remainders
  | alt first second, s => first.remainders s ++ second.remainders s

/-- `[p]+`. -/
def plus (p : Char → Bool) : Pattern := seq (one p) (many p)

def char (c : Char) : Pattern := one (· == c)

/-- A fixed word whose characters are compared by `eq`. -/
def word (eq : Char → Char → Bool) : Text → Pattern
  | [] => many fun _ => false
  | c :: cs => seq (one (eq c)) (word eq cs)

/-- `LIKE`: `%` stands for any text, `_` for any character, and a backslash escapes. -/
def ofLike : Text → Pattern
  | [] => many fun _ => false
  | '%' :: cs => seq (many fun _ => true) (ofLike cs)
  | '_' :: cs => seq (one fun _ => true) (ofLike cs)
  | '\\' :: c :: cs => seq (char c) (ofLike cs)
  | c :: cs => seq (char c) (ofLike cs)

def matchesAll (r : Pattern) (s : Text) : Bool := [] ∈ r.remainders s

/-- A half-open range of positions. -/
structure Span where
  start : ℕ
  stop : ℕ
deriving DecidableEq

/-- `re.finditer` of a pattern that never matches the empty text: the first `skip`
characters are inside the previous match. -/
def scan (r : Pattern) : ℕ → ℕ → Text → List Span
  | _, _, [] => []
  | skip + 1, pos, _ :: cs => scan r skip (pos + 1) cs
  | 0, pos, c :: cs =>
    match (r.remainders (c :: cs)).head? with
    | none => scan r 0 (pos + 1) cs
    | some rest =>
      let read := (c :: cs).length - rest.length
      ⟨pos, pos + read⟩ :: scan r (read - 1) (pos + 1) cs

def finditer (r : Pattern) (s : Text) : List Span := scan r 0 0 s

/-- A match starts with a character of a class. -/
def StartsIn (r : Pattern) (p : Char → Bool) : Prop :=
  ∀ c cs, p c = false → r.remainders (c :: cs) = []

theorem startsIn_one (p : Char → Bool) : (one p).StartsIn p := by
  intro c cs hc
  simp [remainders, hc]

theorem StartsIn.seq {r : Pattern} {p : Char → Bool} (h : r.StartsIn p) (second : Pattern) :
    (r.seq second).StartsIn p := by
  intro c cs hc
  simp [remainders, h c cs hc]

theorem StartsIn.alt {r second : Pattern} {p q : Char → Bool} (h : r.StartsIn p)
    (hsecond : second.StartsIn q) : (r.alt second).StartsIn fun c => p c || q c := by
  intro c cs hc
  rw [Bool.or_eq_false_iff] at hc
  simp [remainders, h c cs hc.1, hsecond c cs hc.2]

theorem scan_append {r : Pattern} {p : Char → Bool} (h : r.StartsIn p) {front : Text}
    (hfront : ∀ c ∈ front, p c = false) (pos : ℕ) (back : Text) :
    scan r 0 pos (front ++ back) = scan r 0 (pos + front.length) back := by
  induction front generalizing pos with
  | nil => simp
  | cons c front ih =>
      have hrest := ih (fun d hd => hfront d (List.mem_cons_of_mem c hd)) (pos + 1)
      rw [List.cons_append, scan, h c _ (hfront c List.mem_cons_self), List.head?_nil]
      dsimp only
      rw [hrest, List.length_cons, Nat.add_right_comm, Nat.add_assoc]

theorem finditer_eq_nil {r : Pattern} {p : Char → Bool} (h : r.StartsIn p) {s : Text}
    (hs : ∀ c ∈ s, p c = false) : r.finditer s = [] := by
  have hscan := scan_append h hs 0 []
  rw [List.append_nil] at hscan
  rw [finditer, hscan, scan]

/-! ## Word boundaries -/

/-- `\b`: exactly one of the two neighbours is a word character. -/
def isBoundary (word : Char → Bool) (before after : Option Char) : Bool :=
  before.any word != after.any word

/-- What a pattern leaves unread at a position where `\b r \b` matches. -/
def boundedRemainder (r : Pattern) (word : Char → Bool) (before : Option Char) (s : Text) :
    Option Text :=
  if isBoundary word before s.head? then
    (r.remainders s).find? fun rest =>
      isBoundary word (s.take (s.length - rest.length)).getLast? rest.head?
  else none

/-- `re.findall` of `\b r \b`, for a pattern that never matches the empty text. -/
def findallBounded (r : Pattern) (word : Char → Bool) : Option Char → ℕ → Text → List Text
  | _, _, [] => []
  | _, skip + 1, c :: cs => findallBounded r word (some c) skip cs
  | before, 0, c :: cs =>
    match r.boundedRemainder word before (c :: cs) with
    | none => findallBounded r word (some c) 0 cs
    | some rest =>
      let read := (c :: cs).length - rest.length
      (c :: cs).take read :: findallBounded r word (some c) (read - 1) cs

/-- `re.search` of `\b r \b`. -/
def searchBounded (r : Pattern) (word : Char → Bool) : Option Char → Text → Bool
  | _, [] => false
  | before, c :: cs =>
    (r.boundedRemainder word before (c :: cs)).isSome || searchBounded r word (some c) cs

theorem manyRemainders_append {p : Char → Bool} {w rest : Text} (hw : w.all p = true)
    (hrest : rest.head?.any p = false) : ∃ more, manyRemainders p (w ++ rest) = rest :: more := by
  induction w with
  | nil =>
      cases rest with
      | nil => exact ⟨[], rfl⟩
      | cons c cs =>
          have hc : ¬ p c = true := by simpa using hrest
          exact ⟨[], by rw [List.nil_append, manyRemainders, if_neg hc]⟩
  | cons c w ih =>
      rw [List.all_cons, Bool.and_eq_true] at hw
      obtain ⟨more, hmore⟩ := ih hw.2
      refine ⟨more ++ [c :: (w ++ rest)], ?_⟩
      rw [List.cons_append, manyRemainders, if_pos hw.1, hmore, List.cons_append]

theorem mem_manyRemainders {p : Char → Bool} {s rest : Text} (h : rest ∈ manyRemainders p s) :
    ∃ read, s = read ++ rest ∧ ∀ c ∈ read, p c = true := by
  induction s with
  | nil =>
      obtain rfl : rest = [] := by simpa [manyRemainders] using h
      exact ⟨[], by simp⟩
  | cons c cs ih =>
      by_cases hc : p c = true
      · rw [manyRemainders, if_pos hc, List.mem_append, List.mem_singleton] at h
        rcases h with h | rfl
        · obtain ⟨read, rfl, hread⟩ := ih h
          exact ⟨c :: read, rfl, by simpa [hc] using hread⟩
        · exact ⟨[], rfl, by simp⟩
      · rw [manyRemainders, if_neg hc, List.mem_singleton] at h
        exact ⟨[], by simp [h]⟩

/-- A pattern that only reads characters of a class, and at least one of them. -/
def Reads (r : Pattern) (p : Char → Bool) : Prop :=
  ∀ s rest, rest ∈ r.remainders s → ∃ read, s = read ++ rest ∧ read ≠ [] ∧ ∀ c ∈ read, p c = true

theorem reads_one {p q : Char → Bool} (h : ∀ c, p c = true → q c = true) : (one p).Reads q := by
  intro s rest hrest
  cases s with
  | nil => simp [remainders] at hrest
  | cons c cs =>
      by_cases hc : p c = true
      · obtain rfl : rest = cs := by simpa [remainders, hc] using hrest
        exact ⟨[c], rfl, by simp, by simpa using h c hc⟩
      · simp [remainders, hc] at hrest

theorem Reads.seq {r second : Pattern} {q : Char → Bool} (hr : r.Reads q)
    (hsecond : second.Reads q) : (r.seq second).Reads q := by
  intro s rest hrest
  obtain ⟨middle, hmiddle, hlast⟩ := List.mem_flatMap.mp hrest
  obtain ⟨read, rfl, hne, hread⟩ := hr s middle hmiddle
  obtain ⟨more, rfl, _, hmore⟩ := hsecond middle rest hlast
  refine ⟨read ++ more, by simp, by simp [hne], ?_⟩
  intro c hc
  exact (List.mem_append.mp hc).elim (hread c) (hmore c)

theorem reads_plus {p q : Char → Bool} (h : ∀ c, p c = true → q c = true) :
    (plus p).Reads q := by
  intro s rest hrest
  obtain ⟨middle, hmiddle, hlast⟩ := List.mem_flatMap.mp hrest
  obtain ⟨read, rfl, hne, hread⟩ := reads_one h s middle hmiddle
  obtain ⟨more, rfl, hmore⟩ := mem_manyRemainders hlast
  refine ⟨read ++ more, by simp, by simp [hne], ?_⟩
  intro c hc
  exact (List.mem_append.mp hc).elim (hread c) fun hc => h c (hmore c hc)

/-- A word that stands between characters outside the class is found whole, where the pattern's
first choice there is to read all of it. -/
theorem mem_findallBounded {r : Pattern} {word joins : Char → Bool} (hreads : r.Reads joins)
    {w : Text} (hw : ∀ before rest, (before.any joins) = false → rest.head?.any joins = false →
      r.boundedRemainder word before (w ++ rest) = some rest) {s : Text} {before : Option Char}
    {skip : ℕ} (hskip : skip = 0 ∨ before.any joins = true)
    (hread : ∀ c ∈ s.take skip, joins c = true)
    (h : Text.occursBounded joins w (before.any joins) s = true) (hne : w ≠ []) :
    w ∈ r.findallBounded word before skip s := by
  induction s generalizing before skip with
  | nil => simp [Text.occursBounded, hne] at h
  | cons c cs ih =>
      rw [Text.occursBounded, Bool.or_eq_true] at h
      cases skip with
      | succ skip =>
          have hbefore : before.any joins = true := by simpa using hskip
          have hlater : Text.occursBounded joins w (joins c) cs = true := by
            simpa [hbefore] using h
          have hc : joins c = true := hread c (by simp)
          rw [findallBounded]
          exact ih (.inr hc) (fun d hd => hread d (by simp [hd])) hlater
      | zero =>
          rw [findallBounded]
          rcases h with hhere | hlater
          · simp only [Bool.and_eq_true, Bool.not_eq_true', List.isPrefixOf_iff_prefix] at hhere
            obtain ⟨⟨hbefore, rest, hrest⟩, hafter⟩ := hhere
            rw [← hrest, List.drop_left] at hafter
            rw [← hrest, hw before rest hbefore hafter]
            simp
          · cases hmatch : r.boundedRemainder word before (c :: cs) with
            | none => exact ih (.inl rfl) (by simp) hlater
            | some rest =>
                apply List.mem_cons_of_mem
                have hrest : rest ∈ r.remainders (c :: cs) := by
                  rw [boundedRemainder] at hmatch
                  split at hmatch
                  · exact List.mem_of_find?_eq_some hmatch
                  · cases hmatch
                obtain ⟨read, hsplit, hnonempty, hclass⟩ := hreads _ _ hrest
                obtain ⟨d, read, rfl⟩ := List.exists_cons_of_ne_nil hnonempty
                obtain ⟨rfl, rfl⟩ : c = d ∧ cs = read ++ rest := by simpa using hsplit
                have hlength : (c :: (read ++ rest)).length - rest.length - 1 = read.length := by
                  simp; omega
                rw [hlength]
                refine ih (.inr (hclass c (by simp))) (fun e he => hclass e ?_) hlater
                rw [List.take_left] at he
                exact List.mem_cons_of_mem c he

/-! ## Words and searches -/

theorem mem_remainders_word {eq : Char → Char → Bool} {word s rest : Text} :
    rest ∈ (Pattern.word eq word).remainders s ↔
      ∃ spelled, s = spelled ++ rest ∧
        List.Forall₂ (fun letter c => eq letter c = true) word spelled := by
  induction word generalizing s with
  | nil =>
      have hmany : manyRemainders (fun _ => false) s = [s] := by
        cases s <;> simp [manyRemainders]
      rw [Pattern.word, remainders, hmany, List.mem_singleton]
      constructor
      · rintro rfl
        exact ⟨[], rfl, .nil⟩
      · rintro ⟨spelled, rfl, hspelled⟩
        cases hspelled
        rfl
  | cons letter word ih =>
      rw [Pattern.word, remainders, List.mem_flatMap]
      constructor
      · rintro ⟨middle, hmiddle, hrest⟩
        cases s with
        | nil => cases hmiddle
        | cons c cs =>
            rw [remainders] at hmiddle
            split at hmiddle
            · rename_i hc
              obtain rfl := List.mem_singleton.mp hmiddle
              obtain ⟨spelled, rfl, hspelled⟩ := ih.mp hrest
              exact ⟨c :: spelled, rfl, .cons hc hspelled⟩
            · cases hmiddle
      · rintro ⟨spelled, rfl, hspelled⟩
        cases hspelled with
        | cons hc hspelled =>
            rename_i c spelled
            refine ⟨spelled ++ rest, ?_, ih.mpr ⟨spelled, rfl, hspelled⟩⟩
            simp [remainders, hc]

theorem boundedRemainder_isSome {r : Pattern} {word : Char → Bool} {before : Option Char}
    {s : Text} : (r.boundedRemainder word before s).isSome = true ↔
      isBoundary word before s.head? = true ∧ ∃ rest ∈ r.remainders s,
        isBoundary word (s.take (s.length - rest.length)).getLast? rest.head? = true := by
  unfold boundedRemainder
  split
  · rename_i hstart
    rw [List.find?_isSome]
    simp [hstart]
  · rename_i hstart
    simp [hstart]

/-- A search finds what is matched somewhere. -/
theorem searchBounded_append {r : Pattern} {word : Char → Bool} {front s : Text}
    {before : Option Char} (hne : s ≠ [])
    (h : (r.boundedRemainder word (front.getLast?.or before) s).isSome = true) :
    r.searchBounded word before (front ++ s) = true := by
  induction front generalizing before with
  | nil =>
      obtain ⟨c, cs, rfl⟩ := List.exists_cons_of_ne_nil hne
      rw [List.nil_append, searchBounded, Bool.or_eq_true]
      exact .inl (by simpa using h)
  | cons c front ih =>
      rw [List.cons_append, searchBounded, Bool.or_eq_true]
      refine .inr (ih ?_)
      rw [List.getLast?_cons, Option.some_or] at h
      cases hfront : front.getLast? <;> simp_all

end Pattern

end Library

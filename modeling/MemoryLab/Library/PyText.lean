import Mathlib.Data.List.DropRight
import Mathlib.Tactic

/-! # Python text operations on lists of code points

A text is the list of its code points. Lone surrogates, which no UTF-8 text holds, are not
representable. Case mapping and digit classes are the tables of the Unicode database; the
context-dependent final sigma is mapped like any other capital sigma. -/

namespace Library

abbrev Text := List Char

namespace Text

instance lawfulBEq : LawfulBEq Text :=
  inferInstanceAs (LawfulBEq (List Char))

/-- `str.isspace` of one character, which is also `\s` of a text pattern. -/
def isSpace (c : Char) : Bool :=
  c.toNat ∈ [0x20, 0x85, 0xa0, 0x1680, 0x2028, 0x2029, 0x202f, 0x205f, 0x3000] ||
    (0x9 ≤ c.toNat && c.toNat ≤ 0xd) || (0x1c ≤ c.toNat && c.toNat ≤ 0x1f) ||
    (0x2000 ≤ c.toNat && c.toNat ≤ 0x200a)

/-- The first digit of every block of ten decimal digits. -/
def decimalFirsts : List ℕ :=
  [0x30, 0x660, 0x6f0, 0x7c0, 0x966, 0x9e6, 0xa66, 0xae6, 0xb66, 0xbe6, 0xc66, 0xce6, 0xd66,
   0xde6, 0xe50, 0xed0, 0xf20, 0x1040, 0x1090, 0x17e0, 0x1810, 0x1946, 0x19d0, 0x1a80, 0x1a90,
   0x1b50, 0x1bb0, 0x1c40, 0x1c50, 0xa620, 0xa8d0, 0xa900, 0xa9d0, 0xa9f0, 0xaa50, 0xabf0, 0xff10,
   0x104a0, 0x10d30, 0x11066, 0x110f0, 0x11136, 0x111d0, 0x112f0, 0x11450, 0x114d0, 0x11650,
   0x116c0, 0x11730, 0x118e0, 0x11950, 0x11c50, 0x11d50, 0x11da0, 0x11f50, 0x16a60, 0x16ac0,
   0x16b50, 0x1d7ce, 0x1d7d8, 0x1d7e2, 0x1d7ec, 0x1d7f6, 0x1e140, 0x1e2f0, 0x1e4f0, 0x1e950,
   0x1fbf0]

/-- `str.isdecimal` of one character, which is also `\d` of a text pattern. -/
def isDecimal (c : Char) : Bool :=
  decimalFirsts.any fun first => first ≤ c.toNat && c.toNat < first + 10

/-- The value of a decimal digit. -/
def decimalValue (c : Char) : ℕ :=
  ((decimalFirsts.find? fun first => first ≤ c.toNat && c.toNat < first + 10).map
    (c.toNat - ·)).getD 0

/-- Runs of characters above ASCII with a one-character lower case: first and last code
point, stride, and distance to the lower case. -/
def lowerRuns : List (ℕ × ℕ × ℕ × Int) :=
  [(192, 214, 1, 32), (216, 222, 1, 32), (256, 302, 2, 1), (306, 310, 2, 1), (313, 327, 2, 1),
   (330, 374, 2, 1), (376, 376, 1, -121), (377, 381, 2, 1), (385, 385, 1, 210), (386, 388, 2, 1),
   (390, 390, 1, 206), (391, 391, 1, 1), (393, 394, 1, 205), (395, 395, 1, 1), (398, 398, 1, 79),
   (399, 399, 1, 202), (400, 400, 1, 203), (401, 401, 1, 1), (403, 403, 1, 205),
   (404, 404, 1, 207), (406, 406, 1, 211), (407, 407, 1, 209), (408, 408, 1, 1),
   (412, 412, 1, 211), (413, 413, 1, 213), (415, 415, 1, 214), (416, 420, 2, 1),
   (422, 422, 1, 218), (423, 423, 1, 1), (425, 425, 1, 218), (428, 428, 1, 1), (430, 430, 1, 218),
   (431, 431, 1, 1), (433, 434, 1, 217), (435, 437, 2, 1), (439, 439, 1, 219), (440, 440, 1, 1),
   (444, 444, 1, 1), (452, 452, 1, 2), (453, 453, 1, 1), (455, 455, 1, 2), (456, 456, 1, 1),
   (458, 458, 1, 2), (459, 475, 2, 1), (478, 494, 2, 1), (497, 497, 1, 2), (498, 500, 2, 1),
   (502, 502, 1, -97), (503, 503, 1, -56), (504, 542, 2, 1), (544, 544, 1, -130),
   (546, 562, 2, 1), (570, 570, 1, 10795), (571, 571, 1, 1), (573, 573, 1, -163),
   (574, 574, 1, 10792), (577, 577, 1, 1), (579, 579, 1, -195), (580, 580, 1, 69),
   (581, 581, 1, 71), (582, 590, 2, 1), (880, 882, 2, 1), (886, 886, 1, 1), (895, 895, 1, 116),
   (902, 902, 1, 38), (904, 906, 1, 37), (908, 908, 1, 64), (910, 911, 1, 63), (913, 929, 1, 32),
   (931, 939, 1, 32), (975, 975, 1, 8), (984, 1006, 2, 1), (1012, 1012, 1, -60),
   (1015, 1015, 1, 1), (1017, 1017, 1, -7), (1018, 1018, 1, 1), (1021, 1023, 1, -130),
   (1024, 1039, 1, 80), (1040, 1071, 1, 32), (1120, 1152, 2, 1), (1162, 1214, 2, 1),
   (1216, 1216, 1, 15), (1217, 1229, 2, 1), (1232, 1326, 2, 1), (1329, 1366, 1, 48),
   (4256, 4293, 1, 7264), (4295, 4295, 1, 7264), (4301, 4301, 1, 7264), (5024, 5103, 1, 38864),
   (5104, 5109, 1, 8), (7312, 7354, 1, -3008), (7357, 7359, 1, -3008), (7680, 7828, 2, 1),
   (7838, 7838, 1, -7615), (7840, 7934, 2, 1), (7944, 7951, 1, -8), (7960, 7965, 1, -8),
   (7976, 7983, 1, -8), (7992, 7999, 1, -8), (8008, 8013, 1, -8), (8025, 8031, 2, -8),
   (8040, 8047, 1, -8), (8072, 8079, 1, -8), (8088, 8095, 1, -8), (8104, 8111, 1, -8),
   (8120, 8121, 1, -8), (8122, 8123, 1, -74), (8124, 8124, 1, -9), (8136, 8139, 1, -86),
   (8140, 8140, 1, -9), (8152, 8153, 1, -8), (8154, 8155, 1, -100), (8168, 8169, 1, -8),
   (8170, 8171, 1, -112), (8172, 8172, 1, -7), (8184, 8185, 1, -128), (8186, 8187, 1, -126),
   (8188, 8188, 1, -9), (8486, 8486, 1, -7517), (8490, 8490, 1, -8383), (8491, 8491, 1, -8262),
   (8498, 8498, 1, 28), (8544, 8559, 1, 16), (8579, 8579, 1, 1), (9398, 9423, 1, 26),
   (11264, 11311, 1, 48), (11360, 11360, 1, 1), (11362, 11362, 1, -10743),
   (11363, 11363, 1, -3814), (11364, 11364, 1, -10727), (11367, 11371, 2, 1),
   (11373, 11373, 1, -10780), (11374, 11374, 1, -10749), (11375, 11375, 1, -10783),
   (11376, 11376, 1, -10782), (11378, 11378, 1, 1), (11381, 11381, 1, 1),
   (11390, 11391, 1, -10815), (11392, 11490, 2, 1), (11499, 11501, 2, 1), (11506, 11506, 1, 1),
   (42560, 42604, 2, 1), (42624, 42650, 2, 1), (42786, 42798, 2, 1), (42802, 42862, 2, 1),
   (42873, 42875, 2, 1), (42877, 42877, 1, -35332), (42878, 42886, 2, 1), (42891, 42891, 1, 1),
   (42893, 42893, 1, -42280), (42896, 42898, 2, 1), (42902, 42920, 2, 1),
   (42922, 42922, 1, -42308), (42923, 42923, 1, -42319), (42924, 42924, 1, -42315),
   (42925, 42925, 1, -42305), (42926, 42926, 1, -42308), (42928, 42928, 1, -42258),
   (42929, 42929, 1, -42282), (42930, 42930, 1, -42261), (42931, 42931, 1, 928),
   (42932, 42946, 2, 1), (42948, 42948, 1, -48), (42949, 42949, 1, -42307),
   (42950, 42950, 1, -35384), (42951, 42953, 2, 1), (42960, 42960, 1, 1), (42966, 42968, 2, 1),
   (42997, 42997, 1, 1), (65313, 65338, 1, 32), (66560, 66599, 1, 40), (66736, 66771, 1, 40),
   (66928, 66938, 1, 39), (66940, 66954, 1, 39), (66956, 66962, 1, 39), (66964, 66965, 1, 39),
   (68736, 68786, 1, 64), (71840, 71871, 1, 32), (93760, 93791, 1, 32), (125184, 125217, 1, 34)]

def lowerChar (c : Char) : Text :=
  if c.toNat < 128 then [c.toLower]
  else if c.toNat = 0x130 then ['i', Char.ofNat 0x307]
  else match lowerRuns.find? fun run =>
      run.1 ≤ c.toNat && c.toNat ≤ run.2.1 && (c.toNat - run.1) % run.2.2.1 == 0 with
    | some run => [Char.ofNat (c.toNat + run.2.2.2).toNat]
    | none => [c]

/-- `str.lower`. -/
def lower (s : Text) : Text := s.flatMap lowerChar

/-- `str.strip` with a set of characters. -/
def stripChars (p : Char → Bool) (s : Text) : Text := (s.dropWhile p).rdropWhile p

/-- `str.strip`. -/
def strip (s : Text) : Text := stripChars isSpace s

/-- `str.split` at runs of whitespace. -/
def split (s : Text) : List Text := (s.splitOnP isSpace).filter (· ≠ [])

/-- `s[start:stop]`. -/
def slice (s : Text) (start stop : ℕ) : Text := (s.drop start).take (stop - start)

/-- `re.sub` of the pattern `[p]+`: every maximal run of the class becomes `repl`. -/
def subRuns (p : Char → Bool) (repl : Text) : Text → Text
  | [] => []
  | c :: cs =>
    if p c then
      if cs.head?.any p then subRuns p repl cs else repl ++ subRuns p repl cs
    else c :: subRuns p repl cs

/-- What is left of a text without the occurrences of a pattern, after some characters of one. -/
def removeFrom (pattern : Text) : ℕ → Text → Text
  | _, [] => []
  | skip + 1, _ :: s => removeFrom pattern skip s
  | 0, c :: s =>
    if pattern.isPrefixOf (c :: s) then removeFrom pattern (pattern.length - 1) s
    else c :: removeFrom pattern 0 s

/-- `s.replace(pattern, "")`. -/
def remove (s pattern : Text) : Text := removeFrom pattern 0 s

/-- The order of Python strings. -/
def le : Text → Text → Bool
  | [], _ => true
  | _ :: _, [] => false
  | a :: as, b :: bs => a.toNat < b.toNat || (a == b && le as bs)

/-- `sorted([a, b])`. -/
def sortPair (a b : Text) : Text × Text := if le a b then (a, b) else (b, a)

/-- The characters that end a line for `str.splitlines`. -/
def isLineBreak (c : Char) : Bool :=
  c.toNat ∈ [0xa, 0xb, 0xc, 0xd, 0x1c, 0x1d, 0x1e, 0x85, 0x2028, 0x2029]

/-- `str.splitlines`. -/
def splitLines : Text → List Text
  | [] => []
  | '\r' :: '\n' :: s => [] :: splitLines s
  | c :: s =>
    if isLineBreak c then [] :: splitLines s
    else match splitLines s with
      | [] => [[c]]
      | line :: lines => (c :: line) :: lines

/-- Whether `term` occurs with no `word` character right before or after it; `before` says
whether the character before the text is one. -/
def occursBounded (word : Char → Bool) (term : Text) : Bool → Text → Bool
  | before, [] => !before && term.isEmpty
  | before, c :: cs =>
    (!before && term.isPrefixOf (c :: cs) && !((c :: cs).drop term.length).head?.any word) ||
      occursBounded word term (word c) cs

/-! ## Order -/

theorem le_refl (s : Text) : le s s = true := by
  induction s with
  | nil => rfl
  | cons c s ih => simp [le, ih]

theorem le_total (s t : Text) : le s t = true ∨ le t s = true := by
  induction s generalizing t with
  | nil => exact .inl rfl
  | cons c s ih =>
      cases t with
      | nil => exact .inr rfl
      | cons d t =>
          rcases lt_trichotomy c.toNat d.toNat with hlt | heq | hlt
          · exact .inl (by simp [le, hlt])
          · obtain rfl : c = d := Char.toNat_inj.mp heq
            exact (ih t).imp (fun h => by simp [le, h]) (fun h => by simp [le, h])
          · exact .inr (by simp [le, hlt])

theorem le_antisymm {s t : Text} (h : le s t = true) (h' : le t s = true) : s = t := by
  induction s generalizing t with
  | nil =>
      cases t with
      | nil => rfl
      | cons d t => cases h'
  | cons c s ih =>
      cases t with
      | nil => cases h
      | cons d t =>
          simp only [le, Bool.or_eq_true, Bool.and_eq_true, decide_eq_true_eq, beq_iff_eq] at h h'
          rcases h with hlt | ⟨rfl, h⟩
          · rcases h' with hlt' | ⟨rfl, -⟩ <;> omega
          · rcases h' with hlt' | ⟨-, h'⟩
            · omega
            · rw [ih h h']

theorem le_trans {s t u : Text} (h : le s t = true) (h' : le t u = true) : le s u = true := by
  induction s generalizing t u with
  | nil => rfl
  | cons c s ih =>
      cases t with
      | nil => cases h
      | cons d t =>
          cases u with
          | nil => cases h'
          | cons e u =>
              simp only [le, Bool.or_eq_true, Bool.and_eq_true, decide_eq_true_eq,
                beq_iff_eq] at h h' ⊢
              rcases h with hlt | ⟨rfl, h⟩
              · rcases h' with hlt' | ⟨rfl, -⟩
                · exact .inl (hlt.trans hlt')
                · exact .inl hlt
              · rcases h' with hlt' | ⟨rfl, h'⟩
                · exact .inl hlt'
                · exact .inr ⟨rfl, ih h h'⟩

theorem sortPair_comm (s t : Text) : sortPair s t = sortPair t s := by
  unfold sortPair
  by_cases hst : le s t = true
  · by_cases hts : le t s = true
    · rw [if_pos hst, if_pos hts, le_antisymm hst hts]
    · rw [if_pos hst, if_neg hts]
  · have hts : le t s = true := (le_total s t).resolve_left hst
    rw [if_neg hst, if_pos hts]

/-- A sorted pair holds the two texts in one order or the other. -/
theorem sortPair_eq (s t : Text) : sortPair s t = (s, t) ∨ sortPair s t = (t, s) := by
  unfold sortPair
  split
  · exact .inl rfl
  · exact .inr rfl

theorem sortPair_eq_iff {s t s' t' : Text} :
    sortPair s t = sortPair s' t' ↔ (s = s' ∧ t = t') ∨ (s = t' ∧ t = s') := by
  constructor
  · intro h
    rcases sortPair_eq s t with hleft | hleft <;> rcases sortPair_eq s' t' with hright | hright
    all_goals
      rw [hleft, hright, Prod.mk.injEq] at h
      tauto
  · rintro (⟨rfl, rfl⟩ | ⟨rfl, rfl⟩)
    · rfl
    · exact sortPair_comm s t

/-- A separator that neither field holds ends both at the same place. -/
theorem append_sep_inj {s t u v : Text} {sep : Char} (hs : sep ∉ s) (ht : sep ∉ t)
    (h : s ++ sep :: u = t ++ sep :: v) : s = t ∧ u = v := by
  induction s generalizing t with
  | nil =>
      cases t with
      | nil => exact ⟨rfl, (List.cons.inj h).2⟩
      | cons c t => exact (ht (by rw [(List.cons.inj h).1]; exact List.mem_cons_self)).elim
  | cons c s ih =>
      rw [List.mem_cons, not_or] at hs
      cases t with
      | nil => exact (hs.1 (List.cons.inj h).1.symm).elim
      | cons d t =>
          obtain ⟨rfl, htail⟩ := List.cons.inj h
          obtain ⟨rfl, hrest⟩ := ih hs.2 (List.not_mem_of_not_mem_cons ht) htail
          exact ⟨rfl, hrest⟩

/-! ## Stripping -/

theorem mem_dropWhile {p : Char → Bool} {s : Text} {c : Char} (hc : c ∈ s) (hp : p c = false) :
    c ∈ s.dropWhile p := by
  rw [← List.takeWhile_append_dropWhile (p := p) (l := s)] at hc
  refine (List.mem_append.mp hc).resolve_left fun htake => ?_
  rw [List.mem_takeWhile_imp htake] at hp
  cases hp

/-- Only characters of the class are stripped. -/
theorem mem_stripChars {p : Char → Bool} {s : Text} {c : Char} (hc : c ∈ s) (hp : p c = false) :
    c ∈ s.stripChars p := by
  rw [stripChars, List.rdropWhile, List.mem_reverse]
  exact mem_dropWhile (List.mem_reverse.mpr (mem_dropWhile hc hp)) hp

theorem stripChars_ne_nil {p : Char → Bool} {s : Text} (h : ∃ c ∈ s, p c = false) :
    s.stripChars p ≠ [] := by
  obtain ⟨c, hc, hp⟩ := h
  exact List.ne_nil_of_mem (mem_stripChars hc hp)

theorem strip_ne_nil {s : Text} (h : ∃ c ∈ s, isSpace c = false) : s.strip ≠ [] :=
  stripChars_ne_nil h

theorem stripChars_infix (p : Char → Bool) (s : Text) : s.stripChars p <:+: s :=
  (List.rdropWhile_prefix p _).isInfix.trans (List.dropWhile_suffix p).isInfix

/-- Neither end is in the class. -/
structure Trimmed (p : Char → Bool) (s : Text) : Prop where
  head : ∀ hne : s ≠ [], ¬ p (s.head hne)
  last : ∀ hne : s ≠ [], ¬ p (s.getLast hne)

theorem trimmed_stripChars (p : Char → Bool) (s : Text) : Trimmed p (s.stripChars p) := by
  refine ⟨fun hne => ?_, fun hne => List.rdropWhile_last_not p _ hne⟩
  have hdrop : s.dropWhile p ≠ [] := by
    intro hnil
    simp [stripChars, hnil] at hne
  have hfront : s.stripChars p <+: s.dropWhile p := List.rdropWhile_prefix p _
  rw [hfront.head hne]
  simp [List.head_dropWhile_not p hdrop]

theorem Trimmed.stripChars_eq {p : Char → Bool} {s : Text} (h : Trimmed p s) :
    s.stripChars p = s := by
  have hdrop : s.dropWhile p = s := by
    cases s with
    | nil => rfl
    | cons c cs =>
        have hc := h.head (List.cons_ne_nil c cs)
        rw [List.dropWhile_cons_of_neg]
        simpa using hc
  rw [stripChars, hdrop]
  exact List.rdropWhile_eq_self_iff.mpr h.last

theorem trimmed_of_forall_not {p : Char → Bool} {s : Text} (h : ∀ c ∈ s, p c = false) :
    Trimmed p s :=
  ⟨fun hne => by simp [h _ (List.head_mem hne)], fun hne => by simp [h _ (List.getLast_mem hne)]⟩

/-! ## Substituting runs -/

theorem remove_of_notMem {pattern s : Text} {c : Char} (hhead : pattern.head? = some c)
    (h : c ∉ s) : remove s pattern = s := by
  induction s with
  | nil => rfl
  | cons d s ih =>
      rw [List.mem_cons, not_or] at h
      obtain ⟨rest, rfl⟩ := List.head?_eq_some_iff.mp hhead
      have hprefix : (c :: rest).isPrefixOf (d :: s) = false := by
        simp [List.isPrefixOf, h.1]
      rw [remove] at ih ⊢
      rw [removeFrom, hprefix, if_neg Bool.false_ne_true, ih h.2]

theorem mem_subRuns {p : Char → Bool} {repl s : Text} {c : Char} (h : c ∈ subRuns p repl s) :
    c ∈ repl ∨ (c ∈ s ∧ p c = false) := by
  induction s with
  | nil => cases h
  | cons d s ih =>
      have htail (hmem : c ∈ subRuns p repl s) : c ∈ repl ∨ (c ∈ d :: s ∧ p c = false) :=
        (ih hmem).imp_right fun hold => ⟨List.mem_cons_of_mem d hold.1, hold.2⟩
      rw [subRuns] at h
      split at h
      · split at h
        · exact htail h
        · rcases List.mem_append.mp h with hrepl | hmem
          · exact .inl hrepl
          · exact htail hmem
      · rename_i hd
        rcases List.mem_cons.mp h with rfl | hmem
        · exact .inr ⟨List.mem_cons_self, by simpa using hd⟩
        · exact htail hmem

theorem subRuns_of_forall_not {p : Char → Bool} {s : Text} (repl : Text)
    (h : ∀ c ∈ s, p c = false) : subRuns p repl s = s := by
  induction s with
  | nil => rfl
  | cons c s ih =>
      rw [subRuns, if_neg (by simp [h c List.mem_cons_self]),
        ih fun d hd => h d (List.mem_cons_of_mem c hd)]

/-- No two neighbours are both in the class. -/
def Separated (p : Char → Bool) (s : Text) : Prop :=
  s.IsChain fun a b => ¬ (p a = true ∧ p b = true)

theorem head?_subRuns {p : Char → Bool} {repl s : Text} (h : ¬ s.head?.any p = true) :
    (subRuns p repl s).head? = s.head? := by
  cases s with
  | nil => rfl
  | cons c s =>
      rw [subRuns, if_neg (by simpa using h)]
      rfl

/-- Runs replaced by one character leave no run. -/
theorem separated_subRuns (p : Char → Bool) (r : Char) (s : Text) :
    Separated p (subRuns p [r] s) := by
  induction s with
  | nil => exact List.IsChain.nil
  | cons c s ih =>
      rw [subRuns]
      split
      · split
        · exact ih
        · rename_i hhead
          refine List.isChain_cons.mpr ⟨fun d hd hboth => ?_, ih⟩
          have hd' : d ∈ s.head? := head?_subRuns hhead ▸ hd
          exact hhead (by rw [Option.mem_def.mp hd']; exact hboth.2)
      · rename_i hc
        exact List.isChain_cons.mpr ⟨fun d _ hboth => hc hboth.1, ih⟩

theorem Separated.subRuns_eq {r : Char} {s : Text} (h : Separated (· == r) s) :
    subRuns (· == r) [r] s = s := by
  induction s with
  | nil => rfl
  | cons c s ih =>
      obtain ⟨hhead, htail⟩ := List.isChain_cons.mp h
      rw [subRuns]
      split
      · rename_i hc
        rw [if_neg, ih htail, beq_iff_eq.mp hc]
        · rfl
        · cases hs : s.head? with
          | none => simp
          | some d =>
              intro hd
              exact hhead d hs ⟨hc, by simpa using hd⟩
      · rw [ih htail]

/-! ## Slices -/

@[simp] theorem length_slice (s : Text) (start stop : ℕ) (hstop : stop ≤ s.length) :
    (s.slice start stop).length = stop - start := by
  simp only [slice, List.length_take, List.length_drop]
  omega

theorem slice_length (s : Text) (start : ℕ) : s.slice start s.length = s.drop start := by
  simp [slice, List.take_of_length_le]

theorem slice_append_drop (s : Text) {start stop : ℕ} (h : start ≤ stop) :
    s.slice start stop ++ s.drop stop = s.drop start := by
  rw [slice, ← Nat.add_sub_cancel' h, ← List.drop_drop, Nat.add_sub_cancel' h,
    List.take_append_drop]

theorem slice_append_slice (s : Text) {start mid stop : ℕ} (hm : start ≤ mid)
    (hs : mid ≤ stop) : s.slice start mid ++ s.slice mid stop = s.slice start stop := by
  have hsplit : stop - start = (mid - start) + (stop - mid) := by omega
  rw [slice, slice, slice, hsplit, List.take_add, List.drop_drop, Nat.add_sub_cancel' hm]

/-! ## Joining -/

theorem length_intercalate_cons_cons (sep part next : Text) (parts : List Text) :
    (sep.intercalate (part :: next :: parts)).length =
      part.length + sep.length + (sep.intercalate (next :: parts)).length := by
  simp [List.intercalate_cons_cons]
  omega

theorem sum_length_le_length_intercalate (sep : Text) (parts : List Text) :
    (parts.map (·.length)).sum ≤ (sep.intercalate parts).length := by
  induction parts with
  | nil => simp
  | cons part parts ih =>
      cases parts with
      | nil => simp [List.intercalate_singleton]
      | cons next parts =>
          rw [length_intercalate_cons_cons, List.map_cons, List.sum_cons]
          omega

/-- Separators make a joined text longer than its parts. -/
theorem sum_length_lt_length_intercalate {sep : Text} (hsep : sep ≠ []) {parts : List Text}
    (h : 2 ≤ parts.length) : (parts.map (·.length)).sum < (sep.intercalate parts).length := by
  match parts, h with
  | part :: next :: parts, _ =>
      have hrest := sum_length_le_length_intercalate sep (next :: parts)
      have hpos := List.length_pos_iff.mpr hsep
      rw [length_intercalate_cons_cons, List.map_cons, List.sum_cons]
      omega

theorem mem_intercalate {sep part : Text} {parts : List Text} {c : Char} (hpart : part ∈ parts)
    (hc : c ∈ part) : c ∈ sep.intercalate parts := by
  induction parts with
  | nil => cases hpart
  | cons first parts ih =>
      cases parts with
      | nil =>
          rw [List.intercalate_singleton, ← List.mem_singleton.mp hpart]
          exact hc
      | cons next parts =>
          rw [List.intercalate_cons_cons, List.mem_append, List.mem_append]
          rcases List.mem_cons.mp hpart with rfl | hpart
          · exact .inl (.inl hc)
          · exact .inr (ih hpart)

/-- A word that does not hold the separator lies on one side of it. -/
theorem infix_append_cons_iff {w s t : Text} {c : Char} (hc : c ∉ w) :
    w <:+: s ++ c :: t ↔ w <:+: s ∨ w <:+: t := by
  constructor
  · intro h
    rcases List.infix_append_iff.mp h with h | h | ⟨front, back, rfl, hfront, hback⟩
    · exact .inl h
    · rcases List.infix_cons_iff.mp h with h | h
      · cases w with
        | nil => exact .inl (List.nil_infix)
        | cons d w =>
            rw [List.cons_prefix_cons] at h
            exact absurd (by simp [h.1]) hc
      · exact .inr h
    · cases back with
      | nil =>
          rw [List.append_nil]
          exact .inl hfront.isInfix
      | cons d back =>
          rw [List.cons_prefix_cons] at hback
          exact absurd (by simp [hback.1]) hc
  · rintro (h | h)
    · exact List.infix_append_of_infix_left h
    · exact List.infix_append_of_infix_right (List.infix_cons h)

/-! ## Mapping characters to texts -/

section FlatMap

variable {f : Char → Text}

theorem prefix_flatMap (hf : ∀ c, f c ≠ []) {w s : Text} (h : w <+: s.flatMap f) :
    ∃ front back, s = front ++ back ∧ front.length ≤ w.length ∧ w <+: front.flatMap f := by
  induction s generalizing w with
  | nil => exact ⟨[], [], rfl, Nat.zero_le _, h⟩
  | cons c s ih =>
      rw [List.flatMap_cons] at h
      by_cases hw : w = []
      · exact ⟨[], c :: s, rfl, Nat.zero_le _, by simp [hw]⟩
      · rcases List.prefix_or_prefix_of_prefix h (List.prefix_append (f c) _) with hc | hc
        · refine ⟨[c], s, rfl, ?_, by simpa using hc⟩
          exact List.length_pos_iff.mpr hw
        · obtain ⟨rest, rfl⟩ := hc
          have hrest := (List.prefix_append_right_inj _).mp h
          obtain ⟨front, back, rfl, hlength, hfront⟩ := ih hrest
          have hpos := List.length_pos_iff.mpr (hf c)
          refine ⟨c :: front, back, rfl, ?_, ?_⟩
          · rw [List.length_cons, List.length_append]
            omega
          · rw [List.flatMap_cons]
            exact List.prefix_append_right_inj _ |>.mpr hfront

/-- A word of the image comes from no more characters than it has. -/
theorem infix_flatMap (hf : ∀ c, f c ≠ []) {w s : Text} (hw : w ≠ [])
    (h : w <:+: s.flatMap f) :
    ∃ front mid back, s = front ++ mid ++ back ∧ mid.length ≤ w.length ∧
      w <:+: mid.flatMap f := by
  induction s with
  | nil => exact ⟨[], [], [], rfl, Nat.zero_le _, h⟩
  | cons c s ih =>
      rw [List.flatMap_cons] at h
      have hpos := List.length_pos_iff.mpr hw
      rcases List.infix_append_iff.mp h with h | h | ⟨first, second, rfl, hfirst, hsecond⟩
      · exact ⟨[], [c], s, rfl, hpos, by simpa using h⟩
      · obtain ⟨front, mid, back, rfl, hlength, hmid⟩ := ih h
        exact ⟨c :: front, mid, back, rfl, hlength, hmid⟩
      · by_cases hempty : first = []
        · subst hempty
          obtain ⟨front, mid, back, rfl, hlength, hmid⟩ := ih hsecond.isInfix
          exact ⟨c :: front, mid, back, rfl, hlength, hmid⟩
        · obtain ⟨mid, back, rfl, hlength, hmid⟩ := prefix_flatMap hf hsecond
          have hfirstPos := List.length_pos_iff.mpr hempty
          refine ⟨[], c :: mid, back, rfl, ?_, ?_⟩
          · rw [List.length_cons, List.length_append]
            omega
          · rw [List.flatMap_cons]
            obtain ⟨before, hbefore⟩ := hfirst
            obtain ⟨after, hafter⟩ := hmid
            exact ⟨before, after, by rw [← hbefore, ← hafter]; simp⟩

end FlatMap

theorem lowerChar_ne_nil (c : Char) : lowerChar c ≠ [] := by
  unfold lowerChar
  split_ifs
  · exact List.cons_ne_nil _ _
  · exact List.cons_ne_nil _ _
  · split <;> exact List.cons_ne_nil _ _

theorem lower_append (s t : Text) : lower (s ++ t) = lower s ++ lower t :=
  List.flatMap_append

theorem isUpper_iff {c : Char} : c.isUpper = true ↔ 65 ≤ c.toNat ∧ c.toNat ≤ 90 := by
  change decide ('A'.val ≤ c.val ∧ c.val ≤ 'Z'.val) = true ↔ _
  rw [decide_eq_true_eq, UInt32.le_iff_toNat_le, UInt32.le_iff_toNat_le]
  rfl

theorem isLower_iff {c : Char} : c.isLower = true ↔ 97 ≤ c.toNat ∧ c.toNat ≤ 122 := by
  change (decide ('a'.val ≤ c.val) && decide (c.val ≤ 'z'.val)) = true ↔ _
  rw [Bool.and_eq_true, decide_eq_true_eq, decide_eq_true_eq, UInt32.le_iff_toNat_le,
    UInt32.le_iff_toNat_le]
  rfl

theorem isAlpha_iff {c : Char} : c.isAlpha = true ↔ c.isUpper = true ∨ c.isLower = true := by
  change (c.isUpper || c.isLower) = true ↔ _
  rw [Bool.or_eq_true]

theorem toLower_of_not_isUpper {c : Char} (h : ¬ c.isUpper = true) : c.toLower = c :=
  dif_neg fun hrange => h (decide_eq_true hrange)

theorem toUpper_of_not_isLower {c : Char} (h : ¬ c.isLower = true) : c.toUpper = c :=
  dif_neg fun hrange => h (by simpa [isLower_iff, UInt32.le_iff_toNat_le] using hrange)

theorem toNat_ofNat (n : ℕ) : (Char.ofNat n).toNat = n ∨ (Char.ofNat n).toNat = 0 := by
  by_cases h : n.isValidChar
  · have hvalid : Char.ofNat n = Char.ofNatAux n h := dif_pos h
    exact .inl (congrArg Char.toNat hvalid)
  · have hinvalid : Char.ofNat n = '\x00' := dif_neg h
    exact .inr (congrArg Char.toNat hinvalid)

/-- Where a character beyond ASCII goes: beyond ASCII, but for two letters. -/
theorem exists_mem_lowerChar {c : Char} (h : 128 ≤ c.toNat) :
    ∃ d ∈ lowerChar c, 128 ≤ d.toNat ∨ d = 'i' ∨ d = 'k' ∨ d.toNat = 0 := by
  have hruns : lowerRuns.all (fun run => decide (128 ≤ run.1 + run.2.2.2) ||
      (run.1 == 8490 && run.2.1 == 8490 && run.2.2.2 == -8383)) = true := by decide +kernel
  rw [lowerChar, if_neg (by omega)]
  split
  · exact ⟨'i', by simp, by simp⟩
  · split
    · rename_i run hrun
      refine ⟨_, List.mem_singleton_self _, ?_⟩
      have hfound := List.find?_some hrun
      simp only [Bool.and_eq_true, decide_eq_true_eq] at hfound
      have hrow := List.all_eq_true.mp hruns run (List.mem_of_find?_eq_some hrun)
      simp only [Bool.or_eq_true, decide_eq_true_eq, Bool.and_eq_true, beq_iff_eq] at hrow
      rcases hrow with hlarge | ⟨⟨hfirst, hlast⟩, hdelta⟩
      · rcases toNat_ofNat (c.toNat + run.2.2.2).toNat with hsame | hzero
        · left
          omega
        · exact .inr (.inr (.inr hzero))
      · obtain hc : c.toNat = 8490 := by omega
        rw [hc, hdelta]
        decide
    · exact ⟨c, by simp, .inl h⟩

theorem lower_of_ascii {s : Text} (h : ∀ c ∈ s, c.toNat < 128) : lower s = s.map Char.toLower := by
  induction s with
  | nil => rfl
  | cons c s ih =>
      have hc : lowerChar c = [c.toLower] := by rw [lowerChar, if_pos (h c (by simp))]
      have hs : lower s = s.map Char.toLower := ih fun d hd => h d (by simp [hd])
      rw [lower, List.flatMap_cons, hc, List.map_cons, ← hs]
      rfl

theorem infix_lower {s t : Text} (h : s <:+: t) : lower s <:+: lower t := by
  obtain ⟨front, back, rfl⟩ := h
  rw [lower_append, lower_append]
  exact List.infix_append ..

/-! ## Occurrences -/

/-- A text occurs in itself with nothing around it. -/
theorem occursBounded_self (word : Char → Bool) (term : Text) :
    occursBounded word term false term = true := by
  cases term with
  | nil => rfl
  | cons c term => simp [occursBounded]

theorem infix_of_occursBounded {word : Char → Bool} {term s : Text} {before : Bool}
    (h : occursBounded word term before s = true) : term <:+: s := by
  induction s generalizing before with
  | nil =>
      rw [occursBounded, Bool.and_eq_true, List.isEmpty_iff] at h
      rw [h.2]
  | cons c s ih =>
      rw [occursBounded, Bool.or_eq_true, Bool.and_eq_true, Bool.and_eq_true] at h
      rcases h with ⟨⟨-, hprefix⟩, -⟩ | h
      · exact (List.isPrefixOf_iff_prefix.mp hprefix).isInfix
      · exact List.infix_cons (ih h)

/-! ## Visible characters -/

def spaces : List Char :=
  ([0x9, 0xa, 0xb, 0xc, 0xd, 0x1c, 0x1d, 0x1e, 0x1f, 0x20, 0x85, 0xa0, 0x1680, 0x2000, 0x2001,
    0x2002, 0x2003, 0x2004, 0x2005, 0x2006, 0x2007, 0x2008, 0x2009, 0x200a, 0x2028, 0x2029, 0x202f,
    0x205f, 0x3000] : List ℕ).map Char.ofNat

theorem mem_spaces {c : Char} (h : isSpace c = true) : c ∈ spaces := by
  refine List.mem_map.mpr ⟨c.toNat, ?_, Char.ofNat_toNat c⟩
  simp only [isSpace, Bool.or_eq_true, Bool.and_eq_true, decide_eq_true_eq, List.mem_cons,
    List.not_mem_nil, or_false] at h
  simp only [List.mem_cons, List.not_mem_nil, or_false]
  omega

theorem lowerChar_of_isSpace {c : Char} (h : isSpace c = true) : lowerChar c = [c] := by
  have hall : (spaces.all fun c => lowerChar c == [c]) = true := by
    decide +kernel
  exact beq_iff_eq.mp (List.all_eq_true.mp hall c (mem_spaces h))

theorem lower_of_isSpace {s : Text} (h : ∀ c ∈ s, isSpace c = true) : lower s = s := by
  induction s with
  | nil => rfl
  | cons c s ih =>
      rw [lower, List.flatMap_cons, lowerChar_of_isSpace (h c List.mem_cons_self), ← lower,
        ih fun d hd => h d (List.mem_cons_of_mem c hd), List.singleton_append]

/-- How many characters are no spaces. -/
def visibleCount (s : Text) : ℕ := s.countP fun c => !isSpace c

theorem visibleCount_of_isSpace {s : Text} (h : ∀ c ∈ s, isSpace c = true) :
    visibleCount s = 0 :=
  List.countP_eq_zero.mpr fun c hc => by simp [h c hc]

theorem visibleCount_le_length (s : Text) : visibleCount s ≤ s.length := List.countP_le_length

theorem visibleCount_le_of_infix {s t : Text} (h : s <:+: t) : visibleCount s ≤ visibleCount t :=
  h.sublist.countP_le

theorem exists_strip (s : Text) : ∃ front back, s = front ++ strip s ++ back ∧
    (∀ c ∈ front, isSpace c = true) ∧ ∀ c ∈ back, isSpace c = true := by
  refine ⟨s.takeWhile isSpace, (s.dropWhile isSpace).rtakeWhile isSpace, ?_,
    fun c hc => List.mem_takeWhile_imp hc, fun c hc => List.mem_rtakeWhile_imp hc⟩
  rw [strip, stripChars, List.append_assoc, List.rdropWhile_append_rtakeWhile,
    List.takeWhile_append_dropWhile]

theorem dropWhile_append_of_neg {α : Type*} {p : α → Bool} {front back : List α}
    (h : back.head?.any p = false) (hne : back ≠ []) :
    (front ++ back).dropWhile p = front.dropWhile p ++ back := by
  induction front with
  | nil =>
      cases back with
      | nil => exact absurd rfl hne
      | cons c back =>
          have hc : ¬ p c = true := by simpa using h
          rw [List.nil_append, List.dropWhile_cons_of_neg hc, List.dropWhile_nil, List.nil_append]
  | cons c front ih =>
      by_cases hc : p c = true
      · rw [List.cons_append, List.dropWhile_cons_of_pos hc, ih, List.dropWhile_cons_of_pos hc]
      · rw [List.cons_append, List.dropWhile_cons_of_neg hc, List.dropWhile_cons_of_neg hc,
          List.cons_append]

/-- Stripping keeps a word without blanks, and only shortens what is around it. -/
theorem strip_append {front word back : Text} (hne : word ≠ [])
    (hword : ∀ c ∈ word, isSpace c = false) :
    ∃ front' back', (front ++ (word ++ back)).strip = front' ++ (word ++ back') ∧
      front' <:+ front ∧ back' <+: back := by
  have hhead : (word ++ back).head?.any isSpace = false := by
    obtain ⟨c, word, rfl⟩ := List.exists_cons_of_ne_nil hne
    simpa using hword c List.mem_cons_self
  have hlast : (word.reverse ++ (front.dropWhile isSpace).reverse).head?.any isSpace = false := by
    obtain ⟨c, rest, hrest⟩ := List.exists_cons_of_ne_nil (List.reverse_ne_nil_iff.mpr hne)
    rw [hrest]
    simpa using hword c (List.mem_reverse.mp (by rw [hrest]; exact List.mem_cons_self))
  refine ⟨front.dropWhile isSpace, (back.reverse.dropWhile isSpace).reverse, ?_,
    List.dropWhile_suffix isSpace, ?_⟩
  · rw [strip, stripChars, dropWhile_append_of_neg hhead (by simp [hne]), List.rdropWhile,
      List.reverse_append, List.reverse_append, List.append_assoc,
      dropWhile_append_of_neg hlast (by simp [hne])]
    simp
  · exact List.reverse_suffix.mp (by simpa using List.dropWhile_suffix (l := back.reverse) isSpace)

/-- What stripping takes away is not visible in lower case either. -/
theorem visibleCount_lower_strip (s : Text) :
    visibleCount (lower (strip s)) = visibleCount (lower s) := by
  obtain ⟨front, back, hsplit, hfront, hback⟩ := exists_strip s
  have hempty := visibleCount_of_isSpace hfront
  have hempty' := visibleCount_of_isSpace hback
  conv_rhs => rw [hsplit]
  rw [lower_append, lower_append, lower_of_isSpace hfront, lower_of_isSpace hback]
  simp only [visibleCount, List.countP_append] at *
  omega

theorem strip_ne_nil_of_visibleCount {s : Text} (h : 0 < visibleCount s) : strip s ≠ [] := by
  obtain ⟨c, hc, hvisible⟩ := List.countP_pos_iff.mp h
  exact strip_ne_nil ⟨c, hc, by simpa using hvisible⟩

/-! ## Literals -/

/-- Literals and the letters they are written with. To show it decodes no literal. -/
def Spelled (literals : List String) (texts : List Text) : Prop :=
  List.Forall₂ (fun literal text => literal = String.ofList text) literals texts

theorem Spelled.map_toList {literals : List String} {texts : List Text}
    (h : Spelled literals texts) : literals.map String.toList = texts := by
  induction h with
  | nil => rfl
  | cons hhead _ ih => rw [List.map_cons, ih, hhead, String.toList_ofList]

theorem Spelled.mem {literals : List String} {texts : List Text} (h : Spelled literals texts)
    {literal : String} (hmem : literal ∈ literals) : literal.toList ∈ texts := by
  rw [← h.map_toList]
  exact List.mem_map_of_mem hmem

end Text

end Library

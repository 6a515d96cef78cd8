import MemoryLab.Library.SqlText
import MemoryLab.Model.ReadOnlySql
import MemoryLab.Verification.Answer.Citations

/-! # When the guarded SQL only reads

The guard takes comments out without knowing quotes or nesting. Where that leaves the text
without its comments, and no comment stood inside a word, the words that the guard looks for are
those of the statement. -/

namespace MemoryLab.ReadOnlySql

open Library Library.Pattern Library.Sql Answer

/-- No word of the statement is a mutation keyword, and its first token is `SELECT` or `WITH`. -/
def ReadOnly (sql : Text) : Prop :=
  (∀ keyword ∈ mutationKeywords, hasWord keyword sql = false) ∧
    ∃ keyword ∈ startKeywords, startsWithWord keyword sql = true

instance (sql : Text) : Decidable (ReadOnly sql) := inferInstanceAs (Decidable (_ ∧ _))

/-- The statement starts with blanks that SQL knows, and its first word is spelled with letters,
digits and underscores of ASCII. -/
def plainStart (statement : Text) : Bool :=
  (statement.takeWhile Text.isSpace).all isSqlSpace &&
    ((statement.dropWhile Text.isSpace).takeWhile isIdentifier).all fun c =>
      c.isAlphanum || c == '_'

/-! ## Classes of characters -/

section Classes

variable (words : WordClass)

theorem isIdentifier_of_isWord {c : Char} (h : words.isWord c = true) : isIdentifier c = true := by
  by_cases hascii : c.toNat < 128
  · rw [words.ascii c hascii] at h
    simp only [isIdentifier, Bool.or_eq_true] at h ⊢
    exact .inl (.inl h)
  · simp [isIdentifier, Nat.le_of_not_lt hascii]

theorem isWord_of_isAlpha {c : Char} (h : c.isAlpha = true) : words.isWord c = true :=
  words.isWord_of_isAlphanum (by simp [Char.isAlphanum, h])

theorem equalsIgnoringCase_of_spells {letter c : Char} (h : Spells letter c) :
    equalsIgnoringCase letter c = true := by
  simp [equalsIgnoringCase, show c.toUpper = letter from h]

/-- The third form of a letter is beyond ASCII. -/
theorem spells_of_equalsIgnoringCase {letter c : Char} (h : equalsIgnoringCase letter c = true)
    (hascii : c.toNat < 128) : Spells letter c := by
  simp only [equalsIgnoringCase, Bool.or_eq_true, Bool.and_eq_true, beq_iff_eq, decide_eq_true_eq,
    List.mem_cons, List.not_mem_nil, or_false] at h
  rcases h with ((h | h) | h) | h
  · exact h
  · omega
  · omega
  · omega

theorem isIdentifier_of_equalsIgnoringCase {letter c : Char} (hletter : letter.isUpper = true)
    (h : equalsIgnoringCase letter c = true) : isIdentifier c = true := by
  by_cases hascii : c.toNat < 128
  · exact isIdentifier_of_isAlpha
      (isAlpha_of_spells hletter (spells_of_equalsIgnoringCase h hascii))
  · simp [isIdentifier, Nat.le_of_not_lt hascii]

theorem isSpace_of_isAlphanum {c : Char} (h : c.isAlphanum = true) : Text.isSpace c = false := by
  simp only [Char.isAlphanum, Char.isDigit, Text.isAlpha_iff, Text.isUpper_iff,
    Text.isLower_iff, Bool.or_eq_true, Bool.and_eq_true, decide_eq_true_eq, UInt32.le_iff_toNat_le] at h
  have hval : c.toNat = c.val.toNat := rfl
  simp at h
  simp [Text.isSpace]
  omega

theorem isSpace_of_isAlpha {c : Char} (h : c.isAlpha = true) : Text.isSpace c = false :=
  isSpace_of_isAlphanum (by simp [Char.isAlphanum, h])

theorem isSpace_of_equalsIgnoringCase {letter c : Char} (hletter : letter.isUpper = true)
    (h : equalsIgnoringCase letter c = true) : Text.isSpace c = false := by
  simp only [equalsIgnoringCase, Bool.or_eq_true, Bool.and_eq_true, beq_iff_eq, decide_eq_true_eq,
    List.mem_cons, List.not_mem_nil, or_false] at h
  rcases h with ((h | ⟨-, h | h⟩) | ⟨-, h⟩) | ⟨-, h⟩
  · exact isSpace_of_isAlpha (isAlpha_of_spells hletter h)
  all_goals simp [Text.isSpace, h]

end Classes

/-! ## What the patterns find -/

theorem isKeyword_of_mem {keyword : Text} (h : keyword ∈ mutationKeywords ++ startKeywords) :
    IsKeyword keyword := by
  have hall : (mutationKeywords ++ startKeywords).all fun keyword =>
      keyword ≠ [] && keyword.all Char.isUpper := by decide
  have hkeyword := List.all_eq_true.mp hall keyword h
  rw [Bool.and_eq_true, decide_eq_true_eq] at hkeyword
  exact ⟨hkeyword.1, List.all_eq_true.mp hkeyword.2⟩

theorem mem_remainders_oneOf {keywords : List Text} {s rest : Text} :
    rest ∈ (oneOf keywords).remainders s ↔ ∃ keyword ∈ keywords, ∃ spelled, s = spelled ++ rest ∧
      List.Forall₂ (fun letter c => equalsIgnoringCase letter c = true) keyword spelled := by
  induction keywords with
  | nil => cases s <;> simp [oneOf, remainders]
  | cons keyword keywords ih =>
      have hcons : oneOf (keyword :: keywords) =
          .alt (.word equalsIgnoringCase keyword) (oneOf keywords) := rfl
      rw [hcons, remainders, List.mem_append, ih, mem_remainders_word]
      simp

/-- Every character of a spelled keyword spells one of its letters. -/
theorem exists_letter {R : Char → Char → Prop} {keyword spelled : Text}
    (h : List.Forall₂ R keyword spelled) {c : Char} (hc : c ∈ spelled) :
    ∃ letter ∈ keyword, R letter c := by
  induction h with
  | nil => cases hc
  | cons hfirst _ ih =>
      rcases List.mem_cons.mp hc with rfl | hc
      · exact ⟨_, List.mem_cons_self, hfirst⟩
      · obtain ⟨letter, hletter, hspells⟩ := ih hc
        exact ⟨letter, List.mem_cons_of_mem _ hletter, hspells⟩

theorem spelled_ne_nil {R : Char → Char → Prop} {keyword spelled : Text}
    (h : List.Forall₂ R keyword spelled) (hne : keyword ≠ []) : spelled ≠ [] := by
  rintro rfl
  exact hne (List.forall₂_nil_right_iff.mp h)

section Guard

variable {words : WordClass}

/-- Letters without a word character on either side stand between two boundaries. -/
theorem isBoundary_around {spelled rest : Text} {before : Option Char} (hne : spelled ≠ [])
    (halpha : ∀ c ∈ spelled, c.isAlpha = true) (hbefore : before.any words.isWord = false)
    (hafter : rest.head?.any words.isWord = false) :
    isBoundary words.isWord before (spelled ++ rest).head? = true ∧
      isBoundary words.isWord
        ((spelled ++ rest).take ((spelled ++ rest).length - rest.length)).getLast?
        rest.head? = true := by
  have hfirst : (spelled ++ rest).head?.any words.isWord = true := by
    obtain ⟨c, spelled, rfl⟩ := List.exists_cons_of_ne_nil hne
    simpa using isWord_of_isAlpha words (halpha c List.mem_cons_self)
  have hlast : spelled.getLast?.any words.isWord = true := by
    rw [List.getLast?_eq_some_getLast hne]
    exact isWord_of_isAlpha words (halpha _ (List.getLast_mem hne))
  refine ⟨by rw [isBoundary, hbefore, hfirst]; rfl, ?_⟩
  rw [List.length_append, Nat.add_sub_cancel, List.take_left]
  simp [isBoundary, hafter, hlast]

/-- A mutation keyword between other characters is found, after the blanks were stripped. -/
theorem mutates_of_split {keyword front spelled rest : Text} (hkeyword : keyword ∈ mutationKeywords)
    (hspelled : List.Forall₂ Spells keyword spelled)
    (hbefore : front.getLast?.any words.isWord = false)
    (hafter : rest.head?.any words.isWord = false) :
    mutates words (front ++ (spelled ++ rest)).strip = true := by
  obtain ⟨hne, hupper⟩ := isKeyword_of_mem (List.mem_append_left startKeywords hkeyword)
  have hspelledNe := spelled_ne_nil hspelled hne
  have halpha : ∀ c ∈ spelled, c.isAlpha = true := fun c hc => by
    obtain ⟨letter, hletter, hspells⟩ := exists_letter hspelled hc
    exact isAlpha_of_spells (hupper letter hletter) hspells
  obtain ⟨front', rest', hstrip, hfront, hrest⟩ := @Text.strip_append front _ rest
    hspelledNe fun c hc => isSpace_of_isAlpha (halpha c hc)
  have hbefore' : (front'.getLast?.or none).any words.isWord = false := by
    obtain ⟨dropped, rfl⟩ := hfront
    cases hlast : front'.getLast? with
    | none => rfl
    | some c => simpa [List.getLast?_append, hlast] using hbefore
  have hafter' : rest'.head?.any words.isWord = false := by
    obtain ⟨dropped, rfl⟩ := hrest
    cases hfirst : rest'.head? with
    | none => rfl
    | some c => simpa [List.head?_append, hfirst] using hafter
  obtain ⟨hstart, hstop⟩ := isBoundary_around hspelledNe halpha hbefore' hafter'
  rw [hstrip, mutates]
  refine searchBounded_append (by simp [hspelledNe]) (boundedRemainder_isSome.mpr
    ⟨hstart, rest', mem_remainders_oneOf.mpr ⟨keyword, hkeyword, spelled, rfl, ?_⟩, hstop⟩)
  exact hspelled.imp fun _ _ => equalsIgnoringCase_of_spells

theorem forall₂_spells {keyword spelled : Text}
    (h : List.Forall₂ (fun letter c => equalsIgnoringCase letter c = true) keyword spelled)
    (hascii : ∀ c ∈ spelled, c.toNat < 128) : List.Forall₂ Spells keyword spelled := by
  induction h with
  | nil => exact .nil
  | cons hletter _ ih =>
      exact .cons (spells_of_equalsIgnoringCase hletter (hascii _ List.mem_cons_self))
        (ih fun c hc => hascii c (List.mem_cons_of_mem _ hc))

theorem toNat_lt_of_isAlphanum {c : Char} (h : (c.isAlphanum || c == '_') = true) :
    c.toNat < 128 := by
  rw [Bool.or_eq_true, beq_iff_eq] at h
  rcases h with h | rfl
  · simp only [Char.isAlphanum, Char.isDigit, Text.isAlpha_iff, Text.isUpper_iff,
      Text.isLower_iff, Bool.or_eq_true, Bool.and_eq_true, decide_eq_true_eq, UInt32.le_iff_toNat_le] at h
    have hval : c.toNat = c.val.toNat := rfl
    simp at h
    omega
  · decide

/-- What the start pattern matches is the first word of a plain statement. -/
theorem exists_of_startsAllowed {statement : Text}
    (h : startsAllowed words statement.strip = true) (hplain : plainStart statement = true) :
    ∃ keyword ∈ startKeywords, ∃ lead spelled rest, statement = lead ++ (spelled ++ rest) ∧
      (∀ c ∈ lead, isSqlSpace c = true) ∧ List.Forall₂ Spells keyword spelled ∧
        rest.head?.any isIdentifier = false := by
  obtain ⟨front, back, hsplit, hfront, hback⟩ := Text.exists_strip statement
  obtain ⟨rest, hrest, hboundary⟩ := List.any_eq_true.mp h
  obtain ⟨middle, hmiddle, hrest⟩ := List.mem_flatMap.mp hrest
  obtain ⟨read, hread, hspaces⟩ := mem_manyRemainders hmiddle
  obtain ⟨keyword, hkeyword, spelled, rfl, hequal⟩ := mem_remainders_oneOf.mp hrest
  obtain ⟨hne, hupper⟩ := isKeyword_of_mem (List.mem_append_right mutationKeywords hkeyword)
  have hspelledNe := spelled_ne_nil hequal hne
  have hwhole : statement = (front ++ read) ++ (spelled ++ (rest ++ back)) := by
    rw [hread] at hsplit
    simpa using hsplit
  have hlead : ∀ c ∈ front ++ read, Text.isSpace c = true := fun c hc =>
    (List.mem_append.mp hc).elim (hfront c) (hspaces c)
  have hidentifier : ∀ c ∈ spelled, isIdentifier c = true := fun c hc => by
    obtain ⟨letter, hletter, hspells⟩ := exists_letter hequal hc
    exact isIdentifier_of_equalsIgnoringCase (hupper letter hletter) hspells
  obtain ⟨first, spelled', hcons⟩ := List.exists_cons_of_ne_nil hspelledNe
  have hvisible : ¬ Text.isSpace first = true := by
    obtain ⟨letter, hletter, hspells⟩ := exists_letter hequal (hcons ▸ List.mem_cons_self)
    simp [isSpace_of_equalsIgnoringCase (hupper letter hletter) hspells]
  have htake : statement.takeWhile Text.isSpace = front ++ read := by
    rw [hwhole, List.takeWhile_append_of_pos hlead, hcons, List.cons_append,
      List.takeWhile_cons_of_neg hvisible, List.append_nil]
  have hdrop : statement.dropWhile Text.isSpace = spelled ++ (rest ++ back) := by
    rw [hwhole, List.dropWhile_append_of_pos hlead, hcons, List.cons_append,
      List.dropWhile_cons_of_neg hvisible]
  rw [plainStart, htake, hdrop, List.takeWhile_append_of_pos hidentifier, Bool.and_eq_true,
    List.all_eq_true, List.all_eq_true] at hplain
  obtain ⟨hblank, hplain⟩ := hplain
  have hspelled := forall₂_spells hequal fun c hc =>
    toNat_lt_of_isAlphanum (hplain c (List.mem_append_left _ hc))
  refine ⟨keyword, hkeyword, front ++ read, spelled, rest ++ back, hwhole, hblank, hspelled, ?_⟩
  by_contra hgoes
  obtain ⟨d, more, hmore⟩ : ∃ d more, rest ++ back = d :: more := by
    refine List.exists_cons_of_ne_nil fun hnil => hgoes ?_
    rw [hnil]
    rfl
  have hident : isIdentifier d = true := by simpa [hmore] using hgoes
  have hword : (d.isAlphanum || d == '_') = true := by
    refine hplain d (List.mem_append_right _ ?_)
    rw [hmore, List.takeWhile_cons_of_pos hident]
    exact List.mem_cons_self
  cases rest with
  | nil =>
      have hspace : Text.isSpace d = true := hback d (by
        rw [List.nil_append] at hmore
        rw [hmore]
        exact List.mem_cons_self)
      rw [Bool.or_eq_true, beq_iff_eq] at hword
      rcases hword with hword | rfl
      · rw [isSpace_of_isAlphanum hword] at hspace
        cases hspace
      · revert hspace
        decide
  | cons c rest =>
      obtain ⟨rfl, -⟩ := List.cons.inj hmore
      have hlast : spelled.getLast?.any words.isWord = true := by
        rw [List.getLast?_eq_some_getLast hspelledNe]
        obtain ⟨letter, hletter, hspells⟩ := exists_letter hspelled (List.getLast_mem hspelledNe)
        exact isWord_of_isAlpha words (isAlpha_of_spells (hupper letter hletter) hspells)
      have hend : (read ++ spelled).getLast?.any words.isWord = true := by
        rw [List.getLast?_append_of_ne_nil _ hspelledNe]
        exact hlast
      have hd : words.isWord c = true := by
        rwa [words.ascii c (toNat_lt_of_isAlphanum hword)]
      rw [hread, ← List.append_assoc, List.length_append, Nat.add_sub_cancel, List.take_left,
        isBoundary, hend] at hboundary
      simp [hd] at hboundary

/-- A statement that the guard lets through only reads, where taking comments out leaves what
the lexical rules leave, no comment stands inside a word, and the start is plain. -/
theorem executed_readOnly (words : WordClass) (reader : Reader) (sql executed : Text)
    (hstrict : reader.strictReadOnly = true)
    (hexecuted : executeRead words reader sql = .ok (some executed))
    (hcomments : stripSqlComments sql = uncommented (regions sql))
    (hseparated : separated words.isWord sql = true)
    (hplain : plainStart (stripSqlComments sql) = true) : ReadOnly executed := by
  have hguard : mutates words (stripSqlComments sql).strip = false ∧
      startsAllowed words (stripSqlComments sql).strip = true ∧ executed = sql := by
    unfold executeRead ensureReadOnlySql at hexecuted
    dsimp only at hexecuted
    rw [hstrict, Bool.true_and, Bool.true_and] at hexecuted
    split_ifs at hexecuted with hfirst hsecond
    · cases hexecuted
      exact ⟨by simpa using hfirst, by simpa using hsecond, rfl⟩
    · cases hexecuted
  obtain ⟨hmutates, hstart, rfl⟩ := hguard
  have hp : ∀ c, words.isWord c = true → isIdentifier c = true := fun c =>
    isIdentifier_of_isWord words
  have halpha : ∀ c : Char, c.isAlpha = true → words.isWord c = true := fun c =>
    isWord_of_isAlpha words
  rw [hcomments] at hmutates hstart hplain
  constructor
  · intro keyword hkeyword
    by_contra hhas
    obtain ⟨front, spelled, rest, hsplit, hspelled, hbefore, hafter⟩ := exists_of_hasWordFrom hp
      halpha (isKeyword_of_mem (List.mem_append_left startKeywords hkeyword))
      (by simpa [hasWord, regions] using hhas) hseparated fun _ _ => .inr rfl
    have hfound := mutates_of_split hkeyword hspelled (by simpa using hbefore) hafter
    rw [← hsplit] at hfound
    exact absurd hfound (by simpa [regions] using hmutates)
  · obtain ⟨keyword, hkeyword, lead, spelled, rest, hsplit, hlead, hspelled, hend⟩ :=
      exists_of_startsAllowed hstart hplain
    refine ⟨keyword, hkeyword, ?_⟩
    exact readsWord_dropWhile halpha
      (isKeyword_of_mem (List.mem_append_right mutationKeywords hkeyword)) hlead hspelled hend rfl
      hsplit hseparated

end Guard

/-- A comment beside the code. -/
theorem executed_readOnly_note : ReadOnly "SELECT x -- all\n FROM t".toList := by
  exact executed_readOnly asciiWords {} "SELECT x -- all\n FROM t".toList _ rfl
    (by decide +kernel) (by decide +kernel) (by decide +kernel) (by decide +kernel)

/-! ## What the guard misses -/

/-- Marks of a comment in a string, a comment inside a word, and a word that goes on with a
character that is none of the pattern's. -/
def missed : List Text :=
  ["SELECT '--'; DELETE FROM t".toList, "SELECT x/**/DELETE FROM t".toList, "SELECT$x".toList]

/-- Each of them meets two of the three conditions only. -/
theorem missed_conditions :
    missed.map (fun sql => (decide (stripSqlComments sql = uncommented (regions sql)),
      separated asciiWords.isWord sql, plainStart (stripSqlComments sql))) =
        [(false, true, true), (true, false, true), (true, true, false)] := by
  decide +kernel

theorem not_readOnly_missed :
    missed.all (fun sql => executeRead asciiWords {} sql == .ok (some sql) &&
      !decide (ReadOnly sql)) = true := by
  decide +kernel

theorem not_executed_readOnly :
    ¬ ∀ (words : WordClass) (reader : Reader) (sql executed : Text),
      reader.strictReadOnly = true → executeRead words reader sql = .ok (some executed) →
        ReadOnly executed := by
  intro h
  have hmissed := List.all_eq_true.mp not_readOnly_missed _ List.mem_cons_self
  rw [Bool.and_eq_true, beq_iff_eq, Bool.not_eq_true', decide_eq_false_iff_not] at hmissed
  exact hmissed.2 (h asciiWords {} _ _ rfl hmissed.1)

end MemoryLab.ReadOnlySql

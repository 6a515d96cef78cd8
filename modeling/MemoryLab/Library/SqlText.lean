import MemoryLab.Library.PyText

/-! # The lexical regions of a SQL text

A quoted string or identifier runs to its closing quote, where a doubled quote closes and opens
again. A line comment ends before the end of its line, and block comments nest. -/

namespace Library.Sql

inductive Region where
  | code
  | quoted
  | comment
deriving DecidableEq

/-- Where a character stands. A mark of two characters is entered at the first of them. -/
inductive State where
  | code
  | string
  | name
  | line
  | block (depth : ℕ)
  | second (after : State)
deriving DecidableEq

/-- What an outermost or a nested block comment is followed by. -/
def afterBlock : ℕ → State
  | 0 => .code
  | depth + 1 => .block depth

def isLineEnd (c : Char) : Bool := c == '\n' || c == '\r'

def apostrophe : Char := Char.ofNat 39

def quotationMark : Char := Char.ofNat 34

/-- The region of a character and the state after it, by the character that follows. -/
def enter : State → Char → Option Char → Region × State
  | .code, c, next =>
    if c = '-' ∧ next = some '-' then (.comment, .second .line)
    else if c = '/' ∧ next = some '*' then (.comment, .second (.block 0))
    else if c = apostrophe then (.quoted, .string)
    else if c = quotationMark then (.quoted, .name)
    else (.code, .code)
  | .string, c, _ => (.quoted, if c = apostrophe then .code else .string)
  | .name, c, _ => (.quoted, if c = quotationMark then .code else .name)
  | .line, c, _ => if isLineEnd c then (.code, .code) else (.comment, .line)
  | .block depth, c, next =>
    if c = '*' ∧ next = some '/' then (.comment, .second (afterBlock depth))
    else if c = '/' ∧ next = some '*' then (.comment, .second (.block (depth + 1)))
    else (.comment, .block depth)
  | .second after, _, _ => (.comment, after)

def regionsFrom : State → Text → List (Char × Region)
  | _, [] => []
  | state, c :: cs =>
    let entered := enter state c cs.head?
    (c, entered.1) :: regionsFrom entered.2 cs

def regions (sql : Text) : List (Char × Region) := regionsFrom .code sql

/-- The text without its comments. -/
def uncommented (marked : List (Char × Region)) : Text :=
  (marked.filter fun x => x.2 != .comment).map (·.1)

/-! ## Words -/

def isSqlSpace (c : Char) : Bool := c.toNat ∈ [0x20, 0x9, 0xa, 0xb, 0xc, 0xd]

/-- The characters of keywords and of identifiers without quotes. -/
def isIdentifier (c : Char) : Bool :=
  c.isAlphanum || c == '_' || c == '$' || 128 ≤ c.toNat

def isWordChar (x : Char × Region) : Bool := x.2 == .code && isIdentifier x.1

/-- The text goes on with a keyword in either case, and the word ends there. -/
def readsWord : Text → List (Char × Region) → Bool
  | [], rest => !rest.head?.any isWordChar
  | _ :: _, [] => false
  | letter :: word, x :: rest => x.2 == .code && x.1.toUpper == letter && readsWord word rest

/-- A keyword is a word of the code; the flag tells that a word goes on. -/
def hasWordFrom (word : Text) : Bool → List (Char × Region) → Bool
  | _, [] => false
  | inWord, x :: rest =>
    (!inWord && readsWord word (x :: rest)) || hasWordFrom word (isWordChar x) rest

def hasWord (word : Text) (sql : Text) : Bool := hasWordFrom word false (regions sql)

def isBlank (x : Char × Region) : Bool :=
  x.2 == .comment || (x.2 == .code && isSqlSpace x.1)

/-- The first token is a keyword. -/
def startsWithWord (word : Text) (sql : Text) : Bool :=
  readsWord word ((regions sql).dropWhile isBlank)

/-! ## Neighbours without comments -/

/-- No comment stands between two characters of a class. The last character before is at hand,
and whether a comment came since. -/
def separatedFrom (p : Char → Bool) : Option Char → Bool → List (Char × Region) → Bool
  | _, _, [] => true
  | last, gap, x :: rest =>
    if x.2 = .comment then separatedFrom p last true rest
    else !(gap && last.any p && p x.1) && separatedFrom p (some x.1) false rest

def separated (p : Char → Bool) (sql : Text) : Bool := separatedFrom p none false (regions sql)

@[simp] theorem uncommented_nil : uncommented [] = [] := rfl

theorem uncommented_comment {x : Char × Region} (h : x.2 = .comment)
    (rest : List (Char × Region)) : uncommented (x :: rest) = uncommented rest := by
  simp [uncommented, h]

theorem uncommented_kept {x : Char × Region} (h : x.2 ≠ .comment)
    (rest : List (Char × Region)) : uncommented (x :: rest) = x.1 :: uncommented rest := by
  simp [uncommented, h]

theorem regionsFrom_cons (state : State) (c : Char) (cs : Text) :
    regionsFrom state (c :: cs) =
      (c, (enter state c cs.head?).1) :: regionsFrom (enter state c cs.head?).2 cs := rfl

theorem separatedFrom_comment {p : Char → Bool} {last : Option Char} {gap : Bool}
    {x : Char × Region} {rest : List (Char × Region)} (hx : x.2 = .comment)
    (h : separatedFrom p last gap (x :: rest) = true) : separatedFrom p last true rest = true := by
  rwa [separatedFrom, if_pos hx] at h

theorem separatedFrom_kept {p : Char → Bool} {last : Option Char} {gap : Bool}
    {x : Char × Region} {rest : List (Char × Region)} (hx : x.2 ≠ .comment)
    (h : separatedFrom p last gap (x :: rest) = true) :
    (gap = true → last.any p = true → p x.1 = false) ∧
      separatedFrom p (some x.1) false rest = true := by
  rw [separatedFrom, if_neg hx, Bool.and_eq_true] at h
  refine ⟨fun hgap hlast => ?_, h.2⟩
  simpa [hgap, hlast] using h.1

/-- After a comment that follows a character of the class, no such character comes next. -/
theorem head?_uncommented_of_gap {p : Char → Bool} {last : Option Char} (hlast : last.any p = true)
    {marked : List (Char × Region)} (h : separatedFrom p last true marked = true) :
    (uncommented marked).head?.any p = false := by
  induction marked with
  | nil => rfl
  | cons x rest ih =>
      by_cases hx : x.2 = .comment
      · rw [uncommented_comment hx]
        exact ih (separatedFrom_comment hx h)
      · rw [uncommented_kept hx]
        simpa using (separatedFrom_kept hx h).1 rfl hlast

/-! ## The marks of quotes -/

def isMark (c : Char) : Bool := c == apostrophe || c == quotationMark

theorem isMark_eq {c : Char} (h : isMark c = true) : c = apostrophe ∨ c = quotationMark := by
  simpa [isMark] using h

theorem isIdentifier_of_isMark {c : Char} (h : isMark c = true) : isIdentifier c = false := by
  rcases isMark_eq h with rfl | rfl <;> decide

theorem isSqlSpace_of_isMark {c : Char} (h : isMark c = true) : isSqlSpace c = false := by
  rcases isMark_eq h with rfl | rfl <;> decide

/-- Code goes on, or starts at the end of a line comment's line. -/
theorem enter_code {state : State} {c : Char} {next : Option Char}
    (h : (enter state c next).1 = .code) :
    (enter state c next).2 = .code ∧ (state = .code ∨ (state = .line ∧ isLineEnd c = true)) := by
  cases state with
  | code =>
      revert h
      simp only [enter]
      split_ifs <;> simp
  | line =>
      revert h
      simp only [enter]
      split_ifs with hend <;> simp [hend]
  | block depth =>
      revert h
      simp only [enter]
      split_ifs <;> simp
  | string => cases h
  | name => cases h
  | second after => cases h

/-- A quote opens and closes with a mark. -/
theorem enter_quoted {state : State} {c : Char} {next : Option Char}
    (h : (enter state c next).1 = .quoted)
    (hopen : state = .code ∨ (enter state c next).2 = .code) : isMark c = true := by
  cases state with
  | second after => cases h
  | code | string | name | line | block =>
      revert h hopen
      simp only [enter]
      split_ifs <;> simp_all [isMark]

/-- Only a mark, a hyphen or a slash leaves the code. -/
theorem enter_of_isIdentifier {c : Char} (h : isIdentifier c = true) (next : Option Char) :
    enter .code c next = (.code, .code) := by
  have hhyphen : c ≠ '-' := by rintro rfl; revert h; decide
  have hslash : c ≠ '/' := by rintro rfl; revert h; decide
  have hmark : ¬ isMark c = true := fun hmark => by simp [isIdentifier_of_isMark hmark] at h
  simp only [isMark, Bool.or_eq_true, beq_iff_eq, not_or] at hmark
  simp [enter, hhyphen, hslash, hmark]

/-! ## Words of the code -/

/-- A keyword is spelled in capital letters. -/
def IsKeyword (word : Text) : Prop := word ≠ [] ∧ ∀ letter ∈ word, letter.isUpper = true

/-- A character spells a letter of a keyword. -/
def Spells (letter c : Char) : Prop := c.toUpper = letter

theorem isAlpha_of_spells {letter c : Char} (hletter : letter.isUpper = true)
    (h : Spells letter c) : c.isAlpha = true := by
  rw [Text.isAlpha_iff]
  by_cases hlower : c.isLower = true
  · exact .inr hlower
  · rw [← h, Text.toUpper_of_not_isLower hlower] at hletter
    exact .inl hletter

section Words

variable {p : Char → Bool} (hp : ∀ c, p c = true → isIdentifier c = true)
  (halpha : ∀ c : Char, c.isAlpha = true → p c = true)

include hp in
theorem class_of_not_isIdentifier {c : Char} (h : isIdentifier c = false) : p c = false := by
  by_contra hpc
  rw [hp c (by simpa using hpc)] at h
  cases h

include hp in
/-- Where a word of the code ends, no character of the class follows it without the comments. -/
theorem head?_uncommented_of_wordEnd {last : Option Char} (hlast : last.any p = true) {cs : Text}
    (h : separatedFrom p last false (regionsFrom .code cs) = true)
    (hend : (regionsFrom .code cs).head?.any isWordChar = false) :
    (uncommented (regionsFrom .code cs)).head?.any p = false := by
  cases cs with
  | nil => rfl
  | cons c cs =>
      rw [regionsFrom_cons] at h hend ⊢
      cases hregion : (enter .code c cs.head?).1 with
      | comment =>
          rw [hregion] at h
          rw [uncommented_comment rfl]
          exact head?_uncommented_of_gap hlast (separatedFrom_comment rfl h)
      | code =>
          rw [uncommented_kept (by simp)]
          have hnot : isIdentifier c = false := by simpa [isWordChar, hregion] using hend
          simpa using class_of_not_isIdentifier hp hnot
      | quoted =>
          rw [uncommented_kept (by simp)]
          have hmark := enter_quoted hregion (.inl rfl)
          simpa using class_of_not_isIdentifier hp (isIdentifier_of_isMark hmark)

include hp halpha in
/-- A keyword of the code is spelled out, and no character of the class follows it. -/
theorem exists_of_readsWord {word : Text} (hupper : ∀ letter ∈ word, letter.isUpper = true)
    {last : Option Char} {gap : Bool} {cs : Text}
    (h : readsWord word (regionsFrom .code cs) = true)
    (hsep : separatedFrom p last gap (regionsFrom .code cs) = true)
    (hempty : word = [] → last.any p = true ∧ gap = false) :
    ∃ spelled rest, uncommented (regionsFrom .code cs) = spelled ++ rest ∧
      List.Forall₂ Spells word spelled ∧ rest.head?.any p = false := by
  induction word generalizing last gap cs with
  | nil =>
      obtain ⟨hlast, rfl⟩ := hempty rfl
      refine ⟨[], _, rfl, .nil, head?_uncommented_of_wordEnd hp hlast hsep ?_⟩
      simpa [readsWord] using h
  | cons letter word ih =>
      cases cs with
      | nil => cases h
      | cons c cs =>
          rw [regionsFrom_cons] at h hsep ⊢
          rw [readsWord, Bool.and_eq_true, Bool.and_eq_true, beq_iff_eq, beq_iff_eq] at h
          obtain ⟨⟨hregion, hletter⟩, hrest⟩ :
            ((enter .code c cs.head?).1 = .code ∧ Spells letter c) ∧ _ := h
          have hkept : (enter .code c cs.head?).1 ≠ .comment := by
            rw [hregion]
            exact nofun
          have hclass : p c = true :=
            halpha c (isAlpha_of_spells (hupper letter List.mem_cons_self) hletter)
          rw [(enter_code hregion).1] at hrest hsep ⊢
          obtain ⟨spelled, rest, hsplit, hspelled, hend⟩ := ih
            (fun other hother => hupper other (List.mem_cons_of_mem _ hother)) hrest
            (separatedFrom_kept hkept hsep).2 fun _ => ⟨by simpa using hclass, rfl⟩
          refine ⟨c :: spelled, rest, ?_, .cons hletter hspelled, hend⟩
          rw [uncommented_kept hkept, hsplit, List.cons_append]

include hp halpha in
/-- A keyword among the words of the code stands between characters outside the class when
the comments are taken out. -/
theorem exists_of_hasWordFrom {word : Text} (hword : IsKeyword word) {state : State} {cs : Text}
    {inWord gap : Bool} {last : Option Char}
    (h : hasWordFrom word inWord (regionsFrom state cs) = true)
    (hsep : separatedFrom p last gap (regionsFrom state cs) = true)
    (hstart : state = .code → inWord = false → gap = true ∨ last.any p = false) :
    ∃ front spelled rest, uncommented (regionsFrom state cs) = front ++ (spelled ++ rest) ∧
      List.Forall₂ Spells word spelled ∧ (front.getLast?.or last).any p = false ∧
        rest.head?.any p = false := by
  induction cs generalizing state inWord gap last with
  | nil => cases h
  | cons c cs ih =>
      rw [regionsFrom_cons] at h hsep ⊢
      rw [hasWordFrom, Bool.or_eq_true, Bool.and_eq_true, Bool.not_eq_true'] at h
      rcases h with ⟨hfresh, hreads⟩ | hlater
      · obtain ⟨letter, word, rfl⟩ := List.exists_cons_of_ne_nil hword.1
        have hhead := hreads
        rw [readsWord, Bool.and_eq_true, Bool.and_eq_true, beq_iff_eq, beq_iff_eq] at hhead
        obtain ⟨⟨hregion, hletter⟩, -⟩ :
          ((enter state c cs.head?).1 = .code ∧ Spells letter c) ∧ _ := hhead
        have halphac := isAlpha_of_spells (hword.2 letter List.mem_cons_self) hletter
        obtain rfl : state = .code := (enter_code hregion).2.resolve_right fun hline => by
          simp only [isLineEnd, Bool.or_eq_true, beq_iff_eq] at hline
          rcases hline.2 with rfl | rfl <;> cases halphac
        have hlast : last.any p = false := by
          by_contra hnot
          rw [Bool.not_eq_false] at hnot
          have hgap := (hstart rfl hfresh).resolve_right (by simp [hnot])
          have hkept : (c, (enter .code c cs.head?).1).2 ≠ .comment := by simp [hregion]
          have hpc := (separatedFrom_kept hkept hsep).1 hgap hnot
          simp [halpha c halphac] at hpc
        rw [← regionsFrom_cons] at hreads hsep
        obtain ⟨spelled, rest, hsplit, hspelled, hend⟩ :=
          exists_of_readsWord hp halpha hword.2 hreads hsep nofun
        exact ⟨[], spelled, rest, hsplit, hspelled, by simpa using hlast, hend⟩
      · by_cases hregion : (enter state c cs.head?).1 = .comment
        · rw [uncommented_comment hregion]
          exact ih hlater (separatedFrom_comment hregion hsep) fun _ _ => .inl rfl
        · obtain ⟨front, spelled, rest, hsplit, hspelled, hbefore, hend⟩ :=
            ih hlater (separatedFrom_kept hregion hsep).2 fun hafter hnot => by
              refine .inr (class_of_not_isIdentifier hp ?_)
              cases hkind : (enter state c cs.head?).1 with
              | comment => exact absurd hkind hregion
              | code => simpa [isWordChar, hkind] using hnot
              | quoted => exact isIdentifier_of_isMark (enter_quoted hkind (.inr hafter))
          refine ⟨c :: front, spelled, rest, ?_, hspelled, ?_, hend⟩
          · rw [uncommented_kept hregion, hsplit, List.cons_append]
          · rw [List.getLast?_cons, Option.some_or]
            cases hfront : front.getLast? <;> simp_all

/-! ## The first word -/

/-- Outside quotes. -/
def State.isOpen : State → Bool
  | .string | .name => false
  | .second after => after.isOpen
  | _ => true

theorem enter_isOpen {state : State} {c : Char} {next : Option Char} (h : state.isOpen = true)
    (hregion : (enter state c next).1 ≠ .quoted) : (enter state c next).2.isOpen = true := by
  cases state with
  | string => cases h
  | name => cases h
  | second after => exact h
  | line =>
      simp only [enter]
      split_ifs <;> rfl
  | block depth =>
      simp only [enter]
      split_ifs
      · cases depth <;> rfl
      · rfl
      · rfl
  | code =>
      revert hregion
      simp only [enter]
      split_ifs <;> simp [State.isOpen]

/-- Without a mark, what is kept outside quotes is code. -/
theorem enter_of_isOpen {state : State} {c : Char} {next : Option Char}
    (hopen : state.isOpen = true) (hkept : (enter state c next).1 ≠ .comment)
    (hmark : isMark c = false) : enter state c next = (.code, .code) := by
  cases state with
  | string => cases hopen
  | name => cases hopen
  | second after => exact absurd rfl hkept
  | block depth =>
      revert hkept
      simp only [enter]
      split_ifs <;> simp
  | line =>
      revert hkept
      simp only [enter]
      split_ifs <;> simp
  | code =>
      simp only [isMark, Bool.or_eq_false_iff, beq_eq_false_iff_ne] at hmark
      revert hkept
      simp only [enter, hmark, if_false]
      split_ifs <;> simp

theorem isIdentifier_of_isSqlSpace {c : Char} (h : isSqlSpace c = true) :
    isIdentifier c = false := by
  have hchar : c = Char.ofNat c.toNat := (Char.ofNat_toNat c).symm
  simp only [isSqlSpace, List.mem_cons, List.not_mem_nil, or_false, decide_eq_true_eq] at h
  rcases h with h | h | h | h | h | h <;> rw [hchar, h] <;> decide

theorem isIdentifier_of_isAlpha {c : Char} (h : c.isAlpha = true) : isIdentifier c = true := by
  simp [isIdentifier, Char.isAlphanum, h]

include halpha in
/-- Letters that spell a keyword without the comments spell it in the code, unless a comment
stands between them. -/
theorem readsWord_of_uncommented {word spelled rest : Text}
    (hupper : ∀ letter ∈ word, letter.isUpper = true) (hspelled : List.Forall₂ Spells word spelled)
    (hend : rest.head?.any isIdentifier = false) {last : Option Char} (hlast : last.any p = true)
    {cs : Text} (hsplit : uncommented (regionsFrom .code cs) = spelled ++ rest)
    (hsep : separatedFrom p last false (regionsFrom .code cs) = true) :
    readsWord word (regionsFrom .code cs) = true := by
  induction hspelled generalizing last cs with
  | nil =>
      rw [readsWord, Bool.not_eq_true']
      cases cs with
      | nil => rfl
      | cons c cs =>
          rw [regionsFrom_cons] at hsplit ⊢
          cases hregion : (enter .code c cs.head?).1 with
          | comment => rfl
          | quoted => rfl
          | code =>
              rw [uncommented_kept (by simp [hregion]), List.nil_append] at hsplit
              rw [← hsplit] at hend
              simpa [isWordChar] using hend
  | cons hletter hspelled ih =>
      rename_i letter c' word spelled
      cases cs with
      | nil => cases hsplit
      | cons c cs =>
          have halphac := isAlpha_of_spells (hupper letter List.mem_cons_self) hletter
          rw [regionsFrom_cons] at hsplit hsep ⊢
          have hkept : (enter .code c cs.head?).1 ≠ .comment := fun hregion => by
            have hhead := head?_uncommented_of_gap hlast (separatedFrom_comment hregion hsep)
            rw [uncommented_comment hregion] at hsplit
            rw [hsplit] at hhead
            simp [halpha c' halphac] at hhead
          rw [uncommented_kept hkept, List.cons_append, List.cons.injEq] at hsplit
          obtain ⟨rfl, hsplit⟩ := hsplit
          have henter := enter_of_isIdentifier (isIdentifier_of_isAlpha halphac) cs.head?
          rw [henter] at hsplit hsep ⊢
          have hrest := ih (fun other hother => hupper other (List.mem_cons_of_mem _ hother))
            (by simpa using halpha c halphac) hsplit (separatedFrom_kept (by simp) hsep).2
          rw [readsWord, hrest, Bool.and_true, Bool.and_eq_true, beq_iff_eq, beq_iff_eq]
          exact ⟨rfl, hletter⟩

include halpha in
/-- The first token is the keyword that comes first, after blanks, without the comments. -/
theorem readsWord_dropWhile {word spelled rest lead : Text} (hword : IsKeyword word)
    (hlead : ∀ c ∈ lead, isSqlSpace c = true) (hspelled : List.Forall₂ Spells word spelled)
    (hend : rest.head?.any isIdentifier = false) {state : State} (hopen : state.isOpen = true)
    {cs : Text} (hsplit : uncommented (regionsFrom state cs) = lead ++ (spelled ++ rest))
    {last : Option Char} {gap : Bool}
    (hsep : separatedFrom p last gap (regionsFrom state cs) = true) :
    readsWord word ((regionsFrom state cs).dropWhile isBlank) = true := by
  obtain ⟨letter, word, rfl⟩ := List.exists_cons_of_ne_nil hword.1
  obtain ⟨c', spelled, hletter, htail, rfl⟩ := List.forall₂_cons_left_iff.mp hspelled
  have halphac := isAlpha_of_spells (hword.2 letter List.mem_cons_self) hletter
  induction cs generalizing state lead last gap with
  | nil =>
      have hlength := congrArg List.length hsplit
      simp [regionsFrom] at hlength
  | cons c cs ih =>
      rw [regionsFrom_cons] at hsplit hsep ⊢
      by_cases hregion : (enter state c cs.head?).1 = .comment
      · rw [List.dropWhile_cons_of_pos (by simp [isBlank, hregion])]
        rw [uncommented_comment hregion] at hsplit
        exact ih hlead (enter_isOpen hopen (by simp [hregion])) (separatedFrom_comment hregion hsep)
          hsplit
      · rw [uncommented_kept hregion] at hsplit
        have hnext := (separatedFrom_kept hregion hsep).2
        cases lead with
        | nil =>
            obtain ⟨rfl, hafter⟩ := List.cons.inj hsplit
            have hident := isIdentifier_of_isAlpha halphac
            have hmark : isMark c = false := by
              by_contra hmark
              simp [isIdentifier_of_isMark (by simpa using hmark)] at hident
            have hspace : isSqlSpace c = false := by
              by_contra hspace
              simp [isIdentifier_of_isSqlSpace (by simpa using hspace)] at hident
            rw [enter_of_isOpen hopen hregion hmark] at hafter hnext ⊢
            have hrest := readsWord_of_uncommented halpha
              (fun other hother => hword.2 other (List.mem_cons_of_mem _ hother)) htail hend
              (by simpa using halpha c halphac) hafter hnext
            rw [List.dropWhile_cons_of_neg (by simp [isBlank, hspace]), readsWord, hrest,
              Bool.and_true, Bool.and_eq_true, beq_iff_eq, beq_iff_eq]
            exact ⟨rfl, hletter⟩
        | cons a lead =>
            obtain ⟨rfl, hafter⟩ := List.cons.inj hsplit
            have hspace := hlead c List.mem_cons_self
            have hmark : isMark c = false := by
              by_contra hmark
              simp [isSqlSpace_of_isMark (by simpa using hmark)] at hspace
            rw [enter_of_isOpen hopen hregion hmark] at hafter hnext ⊢
            rw [List.dropWhile_cons_of_pos (by simp [isBlank, hspace])]
            exact ih (fun d hd => hlead d (List.mem_cons_of_mem _ hd)) rfl hnext hafter

end Words

end Library.Sql

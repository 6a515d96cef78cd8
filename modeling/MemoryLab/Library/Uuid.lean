import Mathlib.Data.BitVec
import MemoryLab.Library.PyText

/-! # Identifiers and their spellings

The text of an identifier has five groups of lower-case hexadecimal digits. More is read back:
either case, a hyphen after any four digits or none, and braces around the whole. -/

namespace Library

structure Uuid where
  bits : BitVec 128
deriving DecidableEq

namespace Uuid

/-! ## Hexadecimal digits -/

def hexChar (d : ℕ) : Char := if d < 10 then Char.ofNat (48 + d) else Char.ofNat (87 + d)

def hexValue (c : Char) : Option ℕ :=
  if 48 ≤ c.toNat ∧ c.toNat ≤ 57 then some (c.toNat - 48)
  else if 97 ≤ c.toNat ∧ c.toNat ≤ 102 then some (c.toNat - 87)
  else if 65 ≤ c.toNat ∧ c.toNat ≤ 70 then some (c.toNat - 55)
  else none

/-- The last `k` hexadecimal digits of a number. -/
def hexDigits : ℕ → ℕ → Text
  | 0, _ => []
  | k + 1, n => hexChar (n / 16 ^ k % 16) :: hexDigits k n

/-- Reads `k` digits after the value read so far. -/
def readDigits : ℕ → ℕ → Text → Option (ℕ × Text)
  | 0, value, s => some (value, s)
  | _ + 1, _, [] => none
  | k + 1, value, c :: s => (hexValue c).bind fun d => readDigits k (16 * value + d) s

/-! ## The database's text form -/

def text (u : Uuid) : Text :=
  let n := u.bits.toNat
  hexDigits 8 (n / 16 ^ 24) ++ '-' :: (hexDigits 4 (n / 16 ^ 20) ++ '-' ::
    (hexDigits 4 (n / 16 ^ 16) ++ '-' :: (hexDigits 4 (n / 16 ^ 12) ++ '-' :: hexDigits 12 n)))

def dropHyphen : Text → Text
  | '-' :: s => s
  | s => s

/-- Reads groups of four digits; a hyphen may follow every group but the last. -/
def readGroups : ℕ → ℕ → Text → Option (ℕ × Text)
  | 0, value, s => some (value, s)
  | k + 1, value, s =>
    (readDigits 4 value s).bind fun read =>
      readGroups k read.1 (if k = 0 then read.2 else dropHyphen read.2)

/-- The cast of a text to the identifier type. -/
def parse (s : Text) : Option Uuid :=
  let braces := s.head? == some '{'
  match readGroups 8 0 (if braces then s.tail else s) with
  | some (value, rest) =>
    if rest = (if braces then ['}'] else []) then some ⟨BitVec.ofNat 128 value⟩ else none
  | none => none

/-! ## The constructor's text form -/

def isHexNumeral (c : Char) : Bool := (hexValue c).isSome || Text.isDecimal c

/-- Digits with single underscores between them; the flag tells that a digit came before. -/
def digitGroups : Bool → Text → Bool
  | afterDigit, [] => afterDigit
  | afterDigit, c :: s =>
    if c = '_' then afterDigit && digitGroups false s else isHexNumeral c && digitGroups true s

def dropSign : Text → Text
  | '+' :: s => s
  | '-' :: s => s
  | s => s

def dropHexPrefix : Text → Text
  | '0' :: 'x' :: '_' :: s => s
  | '0' :: 'X' :: '_' :: s => s
  | '0' :: 'x' :: s => s
  | '0' :: 'X' :: s => s
  | s => s

/-- `int(s, 16)` does not raise. -/
def isHexInt (s : Text) : Bool := digitGroups false (dropHexPrefix (dropSign s.strip))

/-- `uuid.UUID(s)` does not raise. -/
def isConstructible (s : Text) : Bool :=
  let bare := ((s.remove "urn:".toList).remove "uuid:".toList).stripChars fun c =>
    c == '{' || c == '}'
  let hex := bare.filter (· != '-')
  hex.length == 32 && isHexInt hex

/-- The digits that `uuid.UUID(s)` reads. -/
def hexBody (s : Text) : Text :=
  (((s.remove "urn:".toList).remove "uuid:".toList).stripChars fun c =>
    c == '{' || c == '}').filter (· != '-')

/-- `int(s, 16)` where it does not raise. -/
def hexIntValue (s : Text) : ℕ :=
  ((dropHexPrefix (dropSign s.strip)).filter (· != '_')).foldl
    (fun value c => 16 * value + (hexValue c).getD (Text.decimalValue c)) 0

/-- `uuid.UUID(s)`, unless it raises. -/
def construct (s : Text) : Option Uuid :=
  if isConstructible s then some ⟨BitVec.ofNat 128 (hexIntValue (hexBody s))⟩ else none

/-- A text that is the database's own spelling of an identifier. -/
def Canonical (s : Text) : Prop := ∃ u : Uuid, s = u.text

/-! ## Reading back -/

theorem hexValue_hexChar {d : ℕ} (h : d < 16) : hexValue (hexChar d) = some d := by
  interval_cases d <;> rfl

theorem hexChar_ne {d : ℕ} (h : d < 16) : hexChar d ≠ '-' ∧ hexChar d ≠ '{' ∧ hexChar d ≠ '|' := by
  interval_cases d <;> decide

theorem length_hexDigits (k n : ℕ) : (hexDigits k n).length = k := by
  induction k with
  | zero => rfl
  | succ k ih => rw [hexDigits, List.length_cons, ih]

theorem mem_hexDigits {k n : ℕ} {c : Char} (h : c ∈ hexDigits k n) : ∃ d < 16, c = hexChar d := by
  induction k with
  | zero => cases h
  | succ k ih =>
      rcases List.mem_cons.mp h with rfl | h
      · exact ⟨_, Nat.mod_lt _ (by decide), rfl⟩
      · exact ih h

theorem hexDigits_add (j k n : ℕ) :
    hexDigits (j + k) n = hexDigits j (n / 16 ^ k) ++ hexDigits k n := by
  induction j with
  | zero => simp [hexDigits]
  | succ j ih =>
      have hdigit : n / 16 ^ (j + k) = n / 16 ^ k / 16 ^ j := by
        rw [Nat.div_div_eq_div_mul, ← pow_add, Nat.add_comm k j]
      rw [Nat.succ_add, hexDigits, hexDigits, ih, hdigit, List.cons_append]

theorem readDigits_hexDigits (k n value : ℕ) (s : Text) :
    readDigits k value (hexDigits k n ++ s) = some (value * 16 ^ k + n % 16 ^ k, s) := by
  induction k generalizing value with
  | zero => simp [readDigits, hexDigits, Nat.mod_one]
  | succ k ih =>
      rw [hexDigits, List.cons_append, readDigits, hexValue_hexChar (Nat.mod_lt _ (by decide)),
        Option.bind_some, ih, Nat.mod_pow_succ, pow_succ]
      congr 2
      ring

theorem dropHyphen_hexDigits (k n : ℕ) (s : Text) :
    dropHyphen (hexDigits (k + 1) n ++ s) = hexDigits (k + 1) n ++ s := by
  have hne := (hexChar_ne (Nat.mod_lt (n / 16 ^ k) (by decide : 0 < 16))).1
  rw [hexDigits, List.cons_append, dropHyphen]
  rintro rest hrest
  exact hne (List.cons.inj hrest).1

/-- One group: the value so far is `n` without its last `j + 4` digits. -/
theorem readGroups_hexDigits (k j n : ℕ) (s : Text) :
    readGroups (k + 1) (n / 16 ^ (j + 4)) (hexDigits 4 (n / 16 ^ j) ++ s) =
      readGroups k (n / 16 ^ j) (if k = 0 then s else dropHyphen s) := by
  have hvalue : n / 16 ^ (j + 4) * 16 ^ 4 + n / 16 ^ j % 16 ^ 4 = n / 16 ^ j := by
    rw [pow_add, ← Nat.div_div_eq_div_mul, Nat.mul_comm, Nat.div_add_mod]
  rw [readGroups, readDigits_hexDigits, Option.bind_some, hvalue]

theorem readGroups_text (u : Uuid) : readGroups 8 0 u.text = some (u.bits.toNat, []) := by
  have hzero : u.bits.toNat / 16 ^ (28 + 4) = 0 := Nat.div_eq_of_lt (by simpa using u.bits.isLt)
  rw [text]
  generalize u.bits.toNat = n at *
  have hfirst : hexDigits 8 (n / 16 ^ 24) =
      hexDigits 4 (n / 16 ^ 28) ++ hexDigits 4 (n / 16 ^ 24) := by
    rw [hexDigits_add 4 4, Nat.div_div_eq_div_mul, ← pow_add]
  have hlast : hexDigits 12 n =
      hexDigits 4 (n / 16 ^ 8) ++
        (hexDigits 4 (n / 16 ^ 4) ++ (hexDigits 4 (n / 16 ^ 0) ++ [])) := by
    rw [hexDigits_add 4 8, hexDigits_add 4 4, List.append_nil, pow_zero, Nat.div_one]
  have hskip (k m : ℕ) (s : Text) : (if k + 1 = 0 then hexDigits 4 m ++ s
      else dropHyphen (hexDigits 4 m ++ s)) = hexDigits 4 m ++ s := by
    rw [if_neg (Nat.succ_ne_zero k), dropHyphen_hexDigits]
  have hhyphen (k : ℕ) (s : Text) :
      (if k + 1 = 0 then '-' :: s else dropHyphen ('-' :: s)) = s := by
    rw [if_neg (Nat.succ_ne_zero k), dropHyphen]
  have hstart : readGroups 8 0 = readGroups 8 (n / 16 ^ (28 + 4)) := by rw [hzero]
  rw [hfirst, hlast, List.append_assoc, hstart, readGroups_hexDigits 7 28, hskip,
    readGroups_hexDigits 6 24, hhyphen, readGroups_hexDigits 5 20, hhyphen,
    readGroups_hexDigits 4 16, hhyphen, readGroups_hexDigits 3 12, hhyphen,
    readGroups_hexDigits 2 8, hskip, readGroups_hexDigits 1 4, hskip, readGroups_hexDigits 0 0]
  rw [readGroups, if_pos rfl, pow_zero, Nat.div_one]

theorem mem_text {u : Uuid} {c : Char} (h : c ∈ u.text) : c = '-' ∨ ∃ d < 16, c = hexChar d := by
  simp only [text, List.mem_append, List.mem_cons] at h
  rcases h with h | rfl | h | rfl | h | rfl | h | rfl | h
  all_goals first
    | exact .inl rfl
    | exact .inr (mem_hexDigits h)

theorem head?_text (u : Uuid) : (u.text.head? == some '{') = false := by
  have hne := (hexChar_ne (Nat.mod_lt (u.bits.toNat / 16 ^ 24 / 16 ^ 7) (by decide : 0 < 16))).2.1
  simpa [text, hexDigits] using hne

/-- The text of an identifier is read as that identifier. -/
theorem parse_text (u : Uuid) : parse u.text = some u := by
  simp [parse, head?_text, readGroups_text]

theorem toLower_of_le {c : Char} (h : 128 ≤ c.toNat) : c.toLower = c := by
  apply Text.toLower_of_not_isUpper
  rw [Text.isUpper_iff]
  omega

theorem toLower_spec (c : Char) : hexValue c.toLower = hexValue c ∧ (c.toLower = '-' ↔ c = '-') ∧
    (c.toLower = '{' ↔ c = '{') ∧ (c.toLower = '}' ↔ c = '}') := by
  by_cases h : c.toNat < 128
  · have hascii : (List.range 128).all (fun n =>
        let c := Char.ofNat n
        decide (hexValue c.toLower = hexValue c ∧ (c.toLower = '-' ↔ c = '-') ∧
          (c.toLower = '{' ↔ c = '{') ∧ (c.toLower = '}' ↔ c = '}'))) = true := by decide +kernel
    have hc := List.all_eq_true.mp hascii c.toNat (List.mem_range.mpr h)
    rw [Char.ofNat_toNat] at hc
    exact of_decide_eq_true hc
  · rw [toLower_of_le (by omega)]
    exact ⟨rfl, .rfl, .rfl, .rfl⟩

theorem readDigits_toLower (k value : ℕ) (s : Text) :
    readDigits k value (s.map Char.toLower) =
      (readDigits k value s).map fun read => (read.1, read.2.map Char.toLower) := by
  induction k generalizing value s with
  | zero => rfl
  | succ k ih =>
      cases s with
      | nil => rfl
      | cons c s =>
          rw [List.map_cons, readDigits, readDigits, (toLower_spec c).1]
          cases hexValue c with
          | none => rfl
          | some d => exact ih _ _

theorem dropHyphen_toLower (s : Text) :
    dropHyphen (s.map Char.toLower) = (dropHyphen s).map Char.toLower := by
  cases s with
  | nil => rfl
  | cons c s =>
      by_cases hc : c = '-'
      · subst hc
        rfl
      · have hlower : c.toLower ≠ '-' := fun h => hc ((toLower_spec c).2.1.mp h)
        rw [List.map_cons, dropHyphen, dropHyphen, List.map_cons]
        · rintro rest hrest
          exact hc (List.cons.inj hrest).1
        · rintro rest hrest
          exact hlower (List.cons.inj hrest).1

theorem readGroups_toLower (k value : ℕ) (s : Text) :
    readGroups k value (s.map Char.toLower) =
      (readGroups k value s).map fun read => (read.1, read.2.map Char.toLower) := by
  induction k generalizing value s with
  | zero => rfl
  | succ k ih =>
      rw [readGroups, readGroups, readDigits_toLower]
      cases readDigits 4 value s with
      | none => rfl
      | some read =>
          simp only [Option.map_some, Option.bind_some]
          by_cases hk : k = 0
          · simp only [if_pos hk, ih]
          · simp only [if_neg hk, dropHyphen_toLower, ih]

/-- Letter case does not matter. -/
theorem parse_toLower (s : Text) : parse (s.map Char.toLower) = parse s := by
  have hhead : ((s.map Char.toLower).head? == some '{') = (s.head? == some '{') := by
    cases s with
    | nil => rfl
    | cons c s => simp [(toLower_spec c).2.2.1, beq_eq_decide]
  have hrest (rest : Text) (braces : Bool) :
      rest.map Char.toLower = (if braces then ['}'] else []) ↔
        rest = (if braces then ['}'] else []) := by
    cases braces with
    | false => simp
    | true =>
        cases rest with
        | nil => simp
        | cons c rest => simp [(toLower_spec c).2.2.2]
  rw [parse, parse, hhead]
  generalize (s.head? == some '{') = braces
  have hbody : (if braces then (s.map Char.toLower).tail else s.map Char.toLower) =
      (if braces then s.tail else s).map Char.toLower := by
    cases braces <;> simp
  simp only [hbody, readGroups_toLower]
  cases readGroups 8 0 (if braces then s.tail else s) with
  | none => rfl
  | some read => simp only [Option.map_some, hrest]

/-- A text whose lower case is the spelling of an identifier is read as that identifier. -/
theorem parse_of_lower {s : Text} {u : Uuid} (h : s.lower = u.text) : parse s = some u := by
  have hascii : ∀ c ∈ s, c.toNat < 128 := by
    intro c hc
    by_contra hlarge
    obtain ⟨d, hd, hspec⟩ := Text.exists_mem_lowerChar (Nat.le_of_not_lt hlarge)
    have hmem : d ∈ u.text := h ▸ List.mem_flatMap.mpr ⟨c, hc, hd⟩
    rcases mem_text hmem with rfl | ⟨n, hn, rfl⟩
    · revert hspec
      decide
    · revert hspec
      interval_cases n <;> decide
  rw [← parse_toLower, ← Text.lower_of_ascii hascii, h, parse_text]

theorem text_injective {u v : Uuid} (h : u.text = v.text) : u = v := by
  have hparse := parse_text u
  rw [h, parse_text] at hparse
  exact (Option.some.inj hparse).symm

theorem text_ne_nil (u : Uuid) : u.text ≠ [] := by
  simp [text]

theorem canonical_iff {s : Text} {u : Uuid} (h : parse s = some u) : Canonical s ↔ s = u.text := by
  constructor
  · rintro ⟨v, rfl⟩
    rw [parse_text] at h
    rw [Option.some.inj h]
  · exact fun hs => ⟨u, hs⟩

theorem canonical_text (u : Uuid) : Canonical u.text := ⟨u, rfl⟩

instance (s : Text) : Decidable (Canonical s) :=
  match h : parse s with
  | some _ => decidable_of_iff _ (canonical_iff h).symm
  | none => .isFalse fun hs => by
    obtain ⟨u, rfl⟩ := hs
    rw [parse_text] at h
    cases h

/-! ## The constructor accepts the database's spelling -/

/-- What the canonical digits are not. -/
theorem hexChar_spec {d : ℕ} (h : d < 16) : hexChar d ≠ '_' ∧ hexChar d ≠ '+' ∧ hexChar d ≠ 'x' ∧
    hexChar d ≠ 'X' ∧ hexChar d ≠ 'u' ∧ hexChar d ≠ '}' ∧ Text.isSpace (hexChar d) = false := by
  interval_cases d <;> decide

theorem digitGroups_of_hex {s : Text} {afterDigit : Bool} (hne : s ≠ [] ∨ afterDigit = true)
    (h : ∀ c ∈ s, ∃ d < 16, c = hexChar d) : digitGroups afterDigit s = true := by
  induction s generalizing afterDigit with
  | nil => exact hne.resolve_left fun hnil => hnil rfl
  | cons c s ih =>
      obtain ⟨d, hd, rfl⟩ := h c List.mem_cons_self
      rw [digitGroups, if_neg (hexChar_spec hd).1, isHexNumeral, hexValue_hexChar hd,
        Option.isSome_some, Bool.true_or, Bool.true_and]
      exact ih (.inr rfl) fun c hc => h c (List.mem_cons_of_mem _ hc)

theorem strip_of_hex {s : Text} (h : ∀ c ∈ s, ∃ d < 16, c = hexChar d) : s.strip = s := by
  refine (Text.trimmed_of_forall_not fun c hc => ?_).stripChars_eq
  obtain ⟨d, hd, rfl⟩ := h c hc
  exact (hexChar_spec hd).2.2.2.2.2.2

theorem dropHexPrefix_of_hex {s : Text} (h : ∀ c ∈ s, ∃ d < 16, c = hexChar d) :
    dropHexPrefix (dropSign s.strip) = s := by
  have hsign : dropSign s = s := by
    unfold dropSign
    split
    · obtain ⟨d, hd, hc⟩ := h '+' List.mem_cons_self
      exact absurd hc.symm (hexChar_spec hd).2.1
    · obtain ⟨d, hd, hc⟩ := h '-' List.mem_cons_self
      exact absurd hc.symm (hexChar_ne hd).1
    · rfl
  have hx : 'x' ∉ s ∧ 'X' ∉ s := by
    constructor
    · intro hmem
      obtain ⟨d, hd, hc⟩ := h 'x' hmem
      exact (hexChar_spec hd).2.2.1 hc.symm
    · intro hmem
      obtain ⟨d, hd, hc⟩ := h 'X' hmem
      exact (hexChar_spec hd).2.2.2.1 hc.symm
  have hprefix : dropHexPrefix s = s := by
    unfold dropHexPrefix
    split
    · exact absurd (by simp) hx.1
    · exact absurd (by simp) hx.2
    · exact absurd (by simp) hx.1
    · exact absurd (by simp) hx.2
    · rfl
  rw [strip_of_hex h, hsign, hprefix]

theorem isHexInt_of_hex {s : Text} (hne : s ≠ []) (h : ∀ c ∈ s, ∃ d < 16, c = hexChar d) :
    isHexInt s = true := by
  rw [isHexInt, dropHexPrefix_of_hex h]
  exact digitGroups_of_hex (.inl hne) h

theorem foldl_hexDigits (k n value : ℕ) :
    (hexDigits k n).foldl (fun value c => 16 * value + (hexValue c).getD (Text.decimalValue c))
      value = value * 16 ^ k + n % 16 ^ k := by
  induction k generalizing value with
  | zero => simp [hexDigits, Nat.mod_one]
  | succ k ih =>
      rw [hexDigits, List.foldl_cons, hexValue_hexChar (Nat.mod_lt _ (by decide)),
        Option.getD_some, ih, Nat.mod_pow_succ, pow_succ]
      ring

theorem hexIntValue_of_hex {s : Text} (h : ∀ c ∈ s, ∃ d < 16, c = hexChar d) :
    hexIntValue s =
      s.foldl (fun value c => 16 * value + (hexValue c).getD (Text.decimalValue c)) 0 := by
  have hall : s.filter (· != '_') = s := by
    refine List.filter_eq_self.mpr fun c hc => ?_
    obtain ⟨d, hd, rfl⟩ := h c hc
    exact bne_iff_ne.mpr (hexChar_spec hd).1
  rw [hexIntValue, dropHexPrefix_of_hex h, hall]

theorem filter_hexDigits (k n : ℕ) : (hexDigits k n).filter (· != '-') = hexDigits k n := by
  refine List.filter_eq_self.mpr fun c hc => ?_
  obtain ⟨d, hd, rfl⟩ := mem_hexDigits hc
  exact bne_iff_ne.mpr (hexChar_ne hd).1

/-- The digits of an identifier without the hyphens. -/
theorem filter_text (u : Uuid) : u.text.filter (· != '-') =
    hexDigits 8 (u.bits.toNat / 16 ^ 24) ++ (hexDigits 4 (u.bits.toNat / 16 ^ 20) ++
      (hexDigits 4 (u.bits.toNat / 16 ^ 16) ++ (hexDigits 4 (u.bits.toNat / 16 ^ 12) ++
        hexDigits 12 u.bits.toNat))) := by
  have hhyphen (s : Text) : ('-' :: s).filter (· != '-') = s.filter (· != '-') := rfl
  simp only [text, List.filter_append, hhyphen, filter_hexDigits]

theorem hexBody_text (u : Uuid) : hexBody u.text = u.text.filter (· != '-') := by
  have hchars : ∀ c ∈ u.text, c ≠ 'u' ∧ (c == '{' || c == '}') = false := by
    intro c hc
    rcases mem_text hc with rfl | ⟨d, hd, rfl⟩
    · decide
    · have hspec := hexChar_spec hd
      exact ⟨hspec.2.2.2.2.1, by simp [(hexChar_ne hd).2.1, hspec.2.2.2.2.2.1]⟩
  have hu : 'u' ∉ u.text := fun hmem => (hchars 'u' hmem).1 rfl
  have hbraces : u.text.stripChars (fun c => c == '{' || c == '}') = u.text :=
    (Text.trimmed_of_forall_not fun c hc => (hchars c hc).2).stripChars_eq
  rw [hexBody, Text.remove_of_notMem rfl hu, Text.remove_of_notMem rfl hu, hbraces]

theorem mem_hexBody_text {u : Uuid} : ∀ c ∈ hexBody u.text, ∃ d < 16, c = hexChar d := by
  intro c hc
  rw [hexBody_text, List.mem_filter] at hc
  exact (mem_text hc.1).resolve_left (bne_iff_ne.mp hc.2)

theorem isConstructible_text (u : Uuid) : isConstructible u.text = true := by
  have hlength : (hexBody u.text).length = 32 := by
    simp only [hexBody_text, filter_text, List.length_append, length_hexDigits]
  have hint : isHexInt (hexBody u.text) = true :=
    isHexInt_of_hex (List.ne_nil_of_length_pos (by omega)) mem_hexBody_text
  change ((hexBody u.text).length == 32 && isHexInt (hexBody u.text)) = true
  rw [hlength, hint]
  rfl

/-- The constructor reads the database's spelling. -/
theorem construct_text (u : Uuid) : construct u.text = some u := by
  have hdigits : hexBody u.text = hexDigits 32 u.bits.toNat := by
    rw [hexBody_text, filter_text, hexDigits_add 8 24, hexDigits_add 4 20, hexDigits_add 4 16,
      hexDigits_add 4 12]
  have hlt : u.bits.toNat < 16 ^ 32 := by simpa using u.bits.isLt
  rw [construct, if_pos (isConstructible_text u), hexIntValue_of_hex mem_hexBody_text, hdigits,
    foldl_hexDigits, Nat.zero_mul, Nat.zero_add, Nat.mod_eq_of_lt hlt, BitVec.ofNat_toNat,
    BitVec.setWidth_eq]

theorem strip_text (u : Uuid) : u.text.strip = u.text := by
  refine (Text.trimmed_of_forall_not fun c hc => ?_).stripChars_eq
  rcases mem_text hc with rfl | ⟨d, hd, rfl⟩
  · decide
  · exact (hexChar_spec hd).2.2.2.2.2.2

/-! ## Characters of a spelling -/

/-- What a spelling of an identifier is made of. -/
def isSpelling (c : Char) : Bool :=
  (hexValue c).isSome || c == '-' || c == '{' || c == '}'

theorem readDigits_chars {k value read : ℕ} {s rest : Text}
    (h : readDigits k value s = some (read, rest)) :
    ∀ c ∈ s, isSpelling c = true ∨ c ∈ rest := by
  induction k generalizing value s with
  | zero =>
      cases h
      exact fun c hc => .inr hc
  | succ k ih =>
      cases s with
      | nil => cases h
      | cons d s =>
          obtain ⟨digit, hdigit, htail⟩ := Option.bind_eq_some_iff.mp h
          intro c hc
          rcases List.mem_cons.mp hc with rfl | hc
          · exact .inl (by simp [isSpelling, hdigit])
          · exact ih htail c hc

theorem mem_dropHyphen {s : Text} {c : Char} (h : c ∈ s) :
    isSpelling c = true ∨ c ∈ dropHyphen s := by
  unfold dropHyphen
  split
  · rcases List.mem_cons.mp h with rfl | h
    · exact .inl (by decide)
    · exact .inr h
  · exact .inr h

theorem readGroups_chars {k value read : ℕ} {s rest : Text}
    (h : readGroups k value s = some (read, rest)) :
    ∀ c ∈ s, isSpelling c = true ∨ c ∈ rest := by
  induction k generalizing value s with
  | zero =>
      cases h
      exact fun c hc => .inr hc
  | succ k ih =>
      obtain ⟨⟨first, after⟩, hfirst, htail⟩ := Option.bind_eq_some_iff.mp h
      intro c hc
      rcases readDigits_chars hfirst c hc with hspelling | hafter
      · exact .inl hspelling
      · by_cases hk : k = 0
        · rw [if_pos hk] at htail
          exact ih htail c hafter
        · rw [if_neg hk] at htail
          rcases mem_dropHyphen hafter with hspelling | hdropped
          · exact .inl hspelling
          · exact ih htail c hdropped

theorem bar_notMem_of_readGroups {k value read : ℕ} {s rest : Text}
    (h : readGroups k value s = some (read, rest)) (hrest : '|' ∉ rest) : '|' ∉ s := by
  intro hbar
  rcases readGroups_chars h '|' hbar with hspelling | hmem
  · revert hspelling
    decide
  · exact hrest hmem

/-- No spelling of an identifier holds a vertical bar. -/
theorem bar_notMem_of_parse {s : Text} {u : Uuid} (h : parse s = some u) : '|' ∉ s := by
  cases hbraces : s.head? == some '{' with
  | true =>
      obtain ⟨tail, rfl⟩ := List.head?_eq_some_iff.mp (beq_iff_eq.mp hbraces)
      simp only [parse, hbraces, if_true, List.tail_cons] at h
      split at h
      · rename_i value rest hread
        split at h
        · rename_i hrest
          have htail := bar_notMem_of_readGroups hread (by simp [hrest])
          simpa using htail
        · cases h
      · cases h
  | false =>
      simp only [parse, hbraces, Bool.false_eq_true, if_false] at h
      split at h
      · rename_i value rest hread
        split at h
        · rename_i hrest
          exact bar_notMem_of_readGroups hread (by simp [hrest])
        · cases h
      · cases h

end Uuid

end Library

import MemoryLab.Library.Substitution

/-! # JSON documents with holes

A template is a document in which some string values are left open. A hole stands for what is
written between the quotes of such a value. -/

namespace Library

namespace Json

/-! ## The texts of strings and numbers -/

/-- A character that stands for itself in a string. -/
def isPlain (c : Char) : Bool := c != '"' && c != '\\' && 0x20 ≤ c.toNat

def escapes : List (Char × Char) :=
  [('"', '"'), ('\\', '\\'), ('/', '/'), ('b', Char.ofNat 8), ('f', Char.ofNat 12),
    ('n', '\n'), ('r', '\r'), ('t', '\t')]

def hexDigit? (c : Char) : Option ℕ :=
  if c.isDigit then some (c.toNat - '0'.toNat)
  else if 'a' ≤ c ∧ c ≤ 'f' then some (c.toNat - 'a'.toNat + 10)
  else if 'A' ≤ c ∧ c ≤ 'F' then some (c.toNat - 'A'.toNat + 10)
  else none

/-- What stands between the quotes of a string, and the text it denotes. The halves of a surrogate
pair are read as null characters. -/
inductive StringBody : Text → Text → Prop
  | nil : StringBody [] []
  | plain {c : Char} {s t : Text} : isPlain c = true → StringBody s t →
      StringBody (c :: s) (c :: t)
  | escape {c d : Char} {s t : Text} : (c, d) ∈ escapes → StringBody s t →
      StringBody ('\\' :: c :: s) (d :: t)
  | unicode {digits : Text} {values : List ℕ} {s t : Text} : digits.length = 4 →
      digits.mapM hexDigit? = some values → StringBody s t →
      StringBody ('\\' :: 'u' :: (digits ++ s)) (Char.ofNat (Nat.ofDigits 16 values.reverse) :: t)

theorem stringBody_of_isPlain {s : Text} (h : ∀ c ∈ s, isPlain c = true) : StringBody s s := by
  induction s with
  | nil => exact .nil
  | cons c s ih => exact .plain (h c (by simp)) (ih fun d hd => h d (by simp [hd]))

open Pattern in
def number : Pattern :=
  (opt (char '-')).seq <|
    ((char '0').alt ((one fun c => c.isDigit && c != '0').seq (many Char.isDigit))).seq <|
      (opt ((char '.').seq (plus Char.isDigit))).seq <|
        opt ((one fun c => c == 'e' || c == 'E').seq <|
          (opt (one fun c => c == '+' || c == '-')).seq (plus Char.isDigit))

def IsBlank (s : Text) : Prop := ∀ c ∈ s, c ∈ [' ', '\t', '\n', '\r']

/-! ## Documents -/

abbrev Template := List (Option Char)

/-- A text without holes. -/
def solid (s : Text) : Template := s.map some

def quoted (s : Text) : Text := '"' :: (s ++ ['"'])

inductive Part where
  | value
  | elements
  | members
deriving DecidableEq

/-- Well-formed parts of documents whose holes are string values of the keys of a class. -/
inductive WellFormed (p : Text → Bool) : Part → Template → Prop
  | word {s : Text} : s ∈ ["null".toList, "true".toList, "false".toList] →
      WellFormed p .value (solid s)
  | number {s : Text} : number.Language s → WellFormed p .value (solid s)
  | string {s t : Text} : StringBody s t → WellFormed p .value (solid (quoted s))
  | emptyArray {blank : Text} : IsBlank blank →
      WellFormed p .value (solid ('[' :: (blank ++ [']'])))
  | array {k : Template} : WellFormed p .elements k →
      WellFormed p .value (some '[' :: (k ++ [some ']']))
  | emptyObject {blank : Text} : IsBlank blank →
      WellFormed p .value (solid ('\x7b' :: (blank ++ ['\x7d'])))
  | object {k : Template} : WellFormed p .members k →
      WellFormed p .value (some '\x7b' :: (k ++ [some '\x7d']))
  | element {before after : Text} {k : Template} : IsBlank before → IsBlank after →
      WellFormed p .value k →
      WellFormed p .elements (solid before ++ (k ++ solid after))
  | elements {k l : Template} : WellFormed p .elements k →
      WellFormed p .elements l → WellFormed p .elements (k ++ some ',' :: l)
  | member {before key name middle after last : Text} {k : Template} : IsBlank before →
      StringBody key name → IsBlank middle → IsBlank after → WellFormed p .value k →
      IsBlank last → WellFormed p .members
        (solid (before ++ (quoted key ++ (middle ++ ':' :: after))) ++ (k ++ solid last))
  | hole {before key name middle after last : Text} : IsBlank before → StringBody key name →
      p name = true → IsBlank middle → IsBlank after → IsBlank last →
      WellFormed p .members
        (solid (before ++ (quoted key ++ (middle ++ ':' :: after))) ++
          some '"' :: none :: some '"' :: solid last)
  | members {k l : Template} : WellFormed p .members k →
      WellFormed p .members l → WellFormed p .members (k ++ some ',' :: l)

/-- A document with holes for string values of the keys of a class. -/
structure Document (p : Text → Bool) where
  template : Template
  wellFormed : ∃ before value after, IsBlank before ∧ IsBlank after ∧
    WellFormed p .value value ∧ template = solid before ++ (value ++ solid after)

/-! ## Filling the holes -/

def fill : Template → List Text → Text
  | [], _ => []
  | some c :: k, values => c :: fill k values
  | none :: k, [] => fill k []
  | none :: k, value :: values => value ++ fill k values

/-- One non-empty string for every hole. -/
structure Fills (k : Template) (values : List Text) : Prop where
  length_eq : values.length = k.count none
  string : ∀ value ∈ values, value ≠ [] ∧ ∃ meaning, StringBody value meaning

theorem fill_solid_append (s : Text) (k : Template) (values : List Text) :
    fill (solid s ++ k) values = s ++ fill k values := by
  induction s with
  | nil => rfl
  | cons c s ih => simpa [solid, fill] using ih

/-- Up to the first hole all ways of filling a template agree. -/
theorem take_fill {k : Template} {n : ℕ} (h : none ∉ k.take n) (values others : List Text) :
    (fill k values).take n = (fill k others).take n := by
  induction k generalizing n with
  | nil => rfl
  | cons c k ih =>
      cases n with
      | zero => rfl
      | succ n =>
          rw [List.take_succ_cons, List.mem_cons, not_or] at h
          cases c with
          | none => exact absurd rfl h.1
          | some c => simp [fill, ih h.2]

/-- The text before the first hole. -/
theorem exists_eq_solid_append {k : Template} {n : ℕ} (h : none ∈ k.take n) :
    ∃ s l, k = solid s ++ none :: l ∧ s.length < n := by
  induction k generalizing n with
  | nil => simp at h
  | cons c k ih =>
      cases n with
      | zero => simp at h
      | succ n =>
          cases c with
          | none => exact ⟨[], k, rfl, Nat.succ_pos n⟩
          | some c =>
              obtain ⟨s, l, rfl, hs⟩ := ih (by simpa using h)
              exact ⟨c :: s, l, rfl, by simpa using hs⟩

end Json

end Library

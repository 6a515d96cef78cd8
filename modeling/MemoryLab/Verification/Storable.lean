import MemoryLab.Model.Schema

/-! # Texts that a text column takes -/

namespace MemoryLab

open Library

theorem storable_append (first second : Text) :
    storable (first ++ second) = (storable first && storable second) := by
  simp [storable]

theorem storable_cons (c : Char) (text : Text) :
    storable (c :: text) = (decide (Char.ofNat 0 ≠ c) && storable text) := by
  simp [storable]

theorem storable_take {text : Text} (h : storable text = true) (n : ℕ) :
    storable (text.take n) = true := by
  simp only [storable, decide_eq_true_eq] at h ⊢
  exact fun hmem => h (List.mem_of_mem_take hmem)

theorem storable_intercalate {sep : Text} {parts : List Text} (hsep : storable sep = true)
    (hparts : ∀ part ∈ parts, storable part = true) : storable (sep.intercalate parts) = true := by
  induction parts with
  | nil => rfl
  | cons part parts ih =>
      have hfirst := hparts part List.mem_cons_self
      cases parts with
      | nil => simpa [List.intercalate] using hfirst
      | cons next rest =>
          rw [List.intercalate_cons_cons, storable_append, storable_append, hfirst, hsep,
            ih fun other hother => hparts other (List.mem_cons_of_mem part hother)]
          rfl

theorem storable_toDigits (n : ℕ) : storable (Nat.toDigits 10 n) = true := by
  simp only [storable, decide_eq_true_eq]
  intro hmem
  have hdigit := Nat.isDigit_of_mem_toDigits (by decide) (by decide) hmem
  revert hdigit
  decide

theorem storable_toString (n : ℕ) : storable (toString n).toList = true := by
  have hdigits : (toString n).toList = Nat.toDigits 10 n := by
    simp [toString, Nat.repr]
  rw [hdigits]
  exact storable_toDigits n

end MemoryLab

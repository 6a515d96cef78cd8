import Mathlib.Data.List.Basic

/-! # Merging rows by a key

A row with a new key is admitted at the end; one with a known key changes the row that has it. -/

namespace Library.KeyedMerge

variable {ρ κ : Type*} [DecidableEq κ] (key : ρ → κ)

/-- The first row with a key is changed. -/
def modifyFirst (k : κ) (f : ρ → ρ) : List ρ → List ρ
  | [] => []
  | row :: rows => if key row = k then f row :: rows else row :: modifyFirst k f rows

/-- A row is admitted, or its key is known and the row that has it is changed. -/
def upsert (fresh : ρ → ρ) (enrich : ρ → ρ → ρ) (found : List ρ) (row : ρ) : List ρ :=
  if key row ∈ found.map key then modifyFirst key (key row) (enrich row) found
  else found ++ [fresh row]

variable {key}

theorem map_key_modifyFirst {f : ρ → ρ} (hf : ∀ row, key (f row) = key row) (k : κ)
    (rows : List ρ) : (modifyFirst key k f rows).map key = rows.map key := by
  induction rows with
  | nil => rfl
  | cons row rows ih =>
      rw [modifyFirst]
      split
      · rw [List.map_cons, List.map_cons, hf]
      · rw [List.map_cons, List.map_cons, ih]

/-- What holds of every row and is kept by a change holds of every row afterwards. -/
theorem forall_modifyFirst {P : ρ → Prop} {f : ρ → ρ} (hf : ∀ row, P row → P (f row)) {k : κ}
    {rows : List ρ} (h : ∀ row ∈ rows, P row) : ∀ row ∈ modifyFirst key k f rows, P row := by
  induction rows with
  | nil => exact h
  | cons row rows ih =>
      rw [List.forall_mem_cons] at h
      rw [modifyFirst]
      split
      · exact List.forall_mem_cons.mpr ⟨hf row h.1, h.2⟩
      · exact List.forall_mem_cons.mpr ⟨h.1, ih h.2⟩

theorem map_modifyFirst {β : Type*} {g : ρ → β} {f : ρ → ρ} (hf : ∀ row, g (f row) = g row)
    (k : κ) (rows : List ρ) : (modifyFirst key k f rows).map g = rows.map g := by
  induction rows with
  | nil => rfl
  | cons row rows ih =>
      rw [modifyFirst]
      split
      · rw [List.map_cons, List.map_cons, hf]
      · rw [List.map_cons, List.map_cons, ih]

section Upsert

variable {fresh : ρ → ρ} {enrich : ρ → ρ → ρ} (hfresh : ∀ row, key (fresh row) = key row)
  (henrich : ∀ row other, key (enrich row other) = key other)
include hfresh henrich

theorem map_key_upsert (found : List ρ) (row : ρ) :
    (upsert key fresh enrich found row).map key =
      if key row ∈ found.map key then found.map key else found.map key ++ [key row] := by
  unfold upsert
  split
  · exact map_key_modifyFirst (henrich row) (key row) found
  · rw [List.map_append, List.map_singleton, hfresh]

theorem nodup_upsert {found : List ρ} (h : (found.map key).Nodup) (row : ρ) :
    ((upsert key fresh enrich found row).map key).Nodup := by
  rw [map_key_upsert hfresh henrich]
  split
  · exact h
  · rename_i hnew
    simpa [List.nodup_append] using ⟨h, fun a ha heq => hnew (heq ▸ List.mem_map_of_mem ha)⟩

theorem mem_keys_upsert {found : List ρ} {row : ρ} {k : κ} :
    k ∈ (upsert key fresh enrich found row).map key ↔ k ∈ found.map key ∨ k = key row := by
  rw [map_key_upsert hfresh henrich]
  split
  · rename_i hknown
    exact ⟨.inl, fun h => h.elim id fun heq => heq ▸ hknown⟩
  · rw [List.mem_append, List.mem_singleton]

end Upsert

theorem forall_upsert {P : ρ → Prop} {fresh : ρ → ρ} {enrich : ρ → ρ → ρ} {found : List ρ}
    {row : ρ} (h : ∀ other ∈ found, P other) (hfresh : P (fresh row))
    (henrich : ∀ other, P other → P (enrich row other)) :
    ∀ other ∈ upsert key fresh enrich found row, P other := by
  unfold upsert
  split
  · exact forall_modifyFirst henrich h
  · intro other hother
    rcases List.mem_append.mp hother with hother | hother
    · exact h other hother
    · obtain rfl := List.mem_singleton.mp hother
      exact hfresh

end Library.KeyedMerge

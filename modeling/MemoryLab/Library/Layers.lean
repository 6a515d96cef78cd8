import Mathlib.Data.Finset.Union

/-! # Search in layers

Every hop adds what the elements of the last layer lead to, and the new elements are the next
layer. -/

namespace Library.Layers

variable {α : Type*} (next : α → Finset α)

/-- Reached from some elements by at most so many steps. -/
inductive Within (start : Finset α) : ℕ → α → Prop where
  | start {n : ℕ} {a : α} (h : a ∈ start) : Within start n a
  | step {n : ℕ} {a b : α} (h : Within start n a) (hstep : b ∈ next a) : Within start (n + 1) b

variable {next}

theorem Within.mono {start : Finset α} {n m : ℕ} (h : n ≤ m) {a : α}
    (ha : Within next start n a) : Within next start m a := by
  induction ha generalizing m with
  | start hstart => exact .start hstart
  | @step n _ _ _ hstep ih =>
      obtain ⟨rest, rfl⟩ := Nat.exists_eq_add_of_le' h
      exact .step (ih (Nat.le_add_left n rest)) hstep

theorem within_zero {start : Finset α} {a : α} : Within next start 0 a ↔ a ∈ start := by
  constructor
  · intro h
    cases h with
    | start hstart => exact hstart
  · exact .start

theorem mem_of_within {found : Finset α} (h : ∀ a ∈ found, next a ⊆ found) {n : ℕ} {a : α}
    (ha : Within next found n a) : a ∈ found := by
  induction ha with
  | start ha => exact ha
  | step _ hstep ih => exact h _ ih hstep

/-- A step from the start can be taken first. -/
theorem within_succ {start first : Finset α} (hstart : start ⊆ first)
    (hfirst : ∀ a ∈ first, Within next start 1 a) (hnext : ∀ a ∈ start, next a ⊆ first) {n : ℕ}
    {b : α} : Within next first n b ↔ Within next start (n + 1) b := by
  induction n generalizing b with
  | zero =>
      rw [within_zero]
      constructor
      · exact hfirst b
      · intro h
        cases h with
        | start h => exact hstart h
        | step h hstep => exact hnext _ (within_zero.mp h) hstep
  | succ n ih =>
      constructor
      · intro h
        cases h with
        | start h => exact (hfirst b h).mono (by omega)
        | step h hstep => exact .step (ih.mp h) hstep
      · intro h
        cases h with
        | start h => exact .start (hstart h)
        | step h hstep => exact .step (ih.mpr h) hstep

/-! ## The search -/

variable [DecidableEq α]

/-- What a layer leads to and was not found before. -/
def newElements (next : α → Finset α) (found layer : Finset α) : Finset α :=
  layer.biUnion next \ found

def search (next : α → Finset α) : ℕ → Finset α → Finset α → Finset α
  | 0, found, _ => found
  | hops + 1, found, layer =>
    let new := newElements next found layer
    if new = ∅ then found else search next hops (found ∪ new) new

/-- Only the last layer leads to elements that are not found. -/
structure Closed (next : α → Finset α) (found layer : Finset α) : Prop where
  subset : layer ⊆ found
  closed : ∀ a ∈ found, a ∉ layer → next a ⊆ found

theorem Closed.next_subset {found layer : Finset α} (h : Closed next found layer) :
    ∀ a ∈ found, next a ⊆ found ∪ newElements next found layer := by
  intro a ha b hb
  by_cases hlayer : a ∈ layer
  · by_cases hfound : b ∈ found
    · exact Finset.mem_union_left _ hfound
    · refine Finset.mem_union_right _ (Finset.mem_sdiff.mpr ⟨?_, hfound⟩)
      exact Finset.mem_biUnion.mpr ⟨a, hlayer, hb⟩
  · exact Finset.mem_union_left _ (h.closed a ha hlayer hb)

theorem Closed.search_step {found layer : Finset α} (h : Closed next found layer) :
    Closed next (found ∪ newElements next found layer) (newElements next found layer) := by
  refine ⟨Finset.subset_union_right, fun a ha hnew => ?_⟩
  rcases Finset.mem_union.mp ha with ha | ha
  · exact h.next_subset a ha
  · exact absurd ha hnew

/-- A search finds what is within its number of hops. -/
theorem mem_search {hops : ℕ} {found layer : Finset α} (h : Closed next found layer) {b : α} :
    b ∈ search next hops found layer ↔ Within next found hops b := by
  induction hops generalizing found layer with
  | zero => exact within_zero.symm
  | succ hops ih =>
      have hnext := h.next_subset
      rw [search]
      split
      · rename_i hnew
        rw [hnew, Finset.union_empty] at hnext
        exact ⟨.start, mem_of_within hnext⟩
      · rw [ih h.search_step]
        refine within_succ Finset.subset_union_left (fun a ha => ?_) hnext
        rcases Finset.mem_union.mp ha with ha | ha
        · exact .start ha
        · obtain ⟨ha, -⟩ := Finset.mem_sdiff.mp ha
          obtain ⟨c, hc, hstep⟩ := Finset.mem_biUnion.mp ha
          exact .step (.start (h.subset hc)) hstep

/-- From the elements that a search starts with. -/
theorem mem_search_start {hops : ℕ} {start : Finset α} {b : α} :
    b ∈ search next hops start start ↔ Within next start hops b :=
  mem_search ⟨Finset.Subset.refl start, fun _ ha hnot => absurd ha hnot⟩

end Library.Layers

import Mathlib.Data.List.Basic

/-! # Runs of a deterministic step function

A run is the list of its labels. `Always` speaks about every state a run passes through,
`Guarded` about every step it takes. -/

namespace Library.Runs

variable {σ α : Type*} (step : σ → α → σ)

def run (s : σ) (labels : List α) : σ := labels.foldl step s

def Always (P : σ → Prop) : σ → List α → Prop
  | s, [] => P s
  | s, a :: labels => P s ∧ Always P (step s a) labels

def Guarded (G : σ → α → Prop) : σ → List α → Prop
  | _, [] => True
  | s, a :: labels => G s a ∧ Guarded G (step s a) labels

instance Guarded.decidable {G : σ → α → Prop} [∀ s a, Decidable (G s a)] :
    (s : σ) → (labels : List α) → Decidable (Guarded step G s labels)
  | _, [] => instDecidableTrue
  | s, a :: labels =>
    have : Decidable (Guarded step G (step s a) labels) := Guarded.decidable (step s a) labels
    inferInstanceAs (Decidable (G s a ∧ Guarded step G (step s a) labels))

variable {step} {P I : σ → Prop} {G H : σ → α → Prop}

theorem Always.head {s : σ} {labels : List α} (h : Always step P s labels) : P s := by
  cases labels with
  | nil => exact h
  | cons => exact h.1

theorem Always.last {s : σ} {labels : List α} (h : Always step P s labels) :
    P (run step s labels) := by
  induction labels generalizing s with
  | nil => exact h
  | cons a labels ih => exact ih h.2

theorem Always.mono {Q : σ → Prop} {s : σ} {labels : List α} (h : Always step P s labels)
    (hPQ : ∀ s, P s → Q s) : Always step Q s labels := by
  induction labels generalizing s with
  | nil => exact hPQ s h
  | cons a labels ih => exact ⟨hPQ s h.1, ih h.2⟩

/-- Guarded steps that preserve a property keep it along the run. -/
theorem Guarded.always {s : σ} {labels : List α} (h : Guarded step G s labels) (hs : P s)
    (hstep : ∀ s a, P s → G s a → P (step s a)) : Always step P s labels := by
  induction labels generalizing s with
  | nil => exact hs
  | cons a labels ih => exact ⟨hs, ih h.2 (hstep s a hs h.1)⟩

/-- Under an invariant that guarded steps keep, a guard that follows holds along the run. -/
theorem Guarded.mono {s : σ} {labels : List α} (h : Guarded step G s labels) (hs : I s)
    (hstep : ∀ s a, I s → G s a → I (step s a)) (hGH : ∀ s a, I s → G s a → H s a) :
    Guarded step H s labels := by
  induction labels generalizing s with
  | nil => trivial
  | cons a labels ih => exact ⟨hGH s a hs h.1, ih h.2 (hstep s a hs h.1)⟩

theorem guarded_append {s : σ} {first second : List α} :
    Guarded step G s (first ++ second) ↔
      Guarded step G s first ∧ Guarded step G (run step s first) second := by
  induction first generalizing s with
  | nil => simp [Guarded, run]
  | cons a first ih =>
      rw [List.cons_append, Guarded, Guarded, ih, and_assoc]
      rfl

theorem guarded_true (s : σ) (labels : List α) : Guarded step (fun _ _ => True) s labels := by
  induction labels generalizing s with
  | nil => trivial
  | cons a labels ih => exact ⟨trivial, ih _⟩

/-- The rule for invariants. -/
theorem always_of_invariant {s : σ} (hs : P s) (hstep : ∀ s a, P s → P (step s a))
    (labels : List α) : Always step P s labels :=
  (guarded_true s labels).always hs fun s a h _ => hstep s a h

theorem run_of_invariant {s : σ} (hs : P s) (hstep : ∀ s a, P s → P (step s a))
    (labels : List α) : P (run step s labels) :=
  (always_of_invariant hs hstep labels).last

/-- Under an invariant, a property that a step preserves exactly when the step meets a guard
holds throughout a run exactly when every step meets the guard. -/
theorem always_iff_guarded {s : σ} (hI : I s) (hP : P s)
    (hIstep : ∀ s a, I s → I (step s a))
    (hstep : ∀ s a, I s → P s → (P (step s a) ↔ G s a)) (labels : List α) :
    Always step P s labels ↔ Guarded step G s labels := by
  induction labels generalizing s with
  | nil => exact iff_of_true hP trivial
  | cons a labels ih =>
      constructor
      · intro h
        have hnext : P (step s a) := h.2.head
        exact ⟨(hstep s a hI hP).mp hnext, (ih (hIstep s a hI) hnext).mp h.2⟩
      · intro h
        have hnext : P (step s a) := (hstep s a hI hP).mpr h.1
        exact ⟨hP, (ih (hIstep s a hI) hnext).mpr h.2⟩

/-- A property that every accepted step preserves, after a fold that stops at the first error. -/
theorem foldlM_invariant {ε : Type*} {step : σ → α → Except ε σ} {labels : List α} {s t : σ}
    (h : labels.foldlM step s = .ok t) (hs : P s)
    (hstep : ∀ s t, ∀ a ∈ labels, P s → step s a = .ok t → P t) : P t := by
  induction labels generalizing s with
  | nil =>
      cases h
      exact hs
  | cons a labels ih =>
      rw [List.foldlM_cons] at h
      cases hfirst : step s a with
      | error error =>
          rw [hfirst] at h
          cases h
      | ok mid =>
          rw [hfirst] at h
          exact ih h (hstep s mid a List.mem_cons_self hs hfirst)
            fun s t b hb => hstep s t b (List.mem_cons_of_mem a hb)

theorem foldlM_congr {ε : Type*} {step step' : σ → α → Except ε σ} {labels : List α}
    (h : ∀ s, ∀ a ∈ labels, step s a = step' s a) (s : σ) :
    labels.foldlM step s = labels.foldlM step' s := by
  induction labels generalizing s with
  | nil => rfl
  | cons a labels ih =>
      rw [List.foldlM_cons, List.foldlM_cons, h s a List.mem_cons_self]
      congr 1
      funext t
      exact ih (fun s b hb => h s b (List.mem_cons_of_mem a hb)) t

/-- A fold that stops at an error stops at a step that does. -/
theorem exists_of_foldlM_error {ε : Type*} {step : σ → α → Except ε σ} {labels : List α} {s : σ}
    {error : ε} (h : labels.foldlM step s = .error error) :
    ∃ t, ∃ a ∈ labels, step t a = .error error := by
  induction labels generalizing s with
  | nil => cases h
  | cons a labels ih =>
      rw [List.foldlM_cons] at h
      cases hfirst : step s a with
      | error other =>
          rw [hfirst] at h
          cases h
          exact ⟨s, a, List.mem_cons_self, hfirst⟩
      | ok mid =>
          rw [hfirst] at h
          have hrest := ih h
          exact hrest.imp fun t ht => ht.imp fun b hb => ⟨List.mem_cons_of_mem a hb.1, hb.2⟩

/-- Every step of an accepted fold is accepted. -/
theorem exists_of_foldlM_ok {ε : Type*} {step : σ → α → Except ε σ} {labels : List α} {s t : σ}
    (h : labels.foldlM step s = .ok t) {a : α} (ha : a ∈ labels) : ∃ u v, step u a = .ok v := by
  induction labels generalizing s with
  | nil => simp at ha
  | cons b labels ih =>
      rw [List.foldlM_cons] at h
      cases hfirst : step s b with
      | error error =>
          rw [hfirst] at h
          cases h
      | ok mid =>
          rw [hfirst] at h
          rcases List.mem_cons.mp ha with rfl | ha
          · exact ⟨s, mid, hfirst⟩
          · exact ih h ha

theorem forall₂_of_mapM {ε β : Type*} {f : α → Except ε β} {labels : List α} {results : List β}
    (h : labels.mapM f = .ok results) : List.Forall₂ (fun a b => f a = .ok b) labels results := by
  induction labels generalizing results with
  | nil =>
      cases h
      exact .nil
  | cons a labels ih =>
      rw [List.mapM_cons] at h
      cases hfirst : f a with
      | error error =>
          rw [hfirst] at h
          cases h
      | ok b =>
          cases hrest : labels.mapM f with
          | error error =>
              rw [hfirst, hrest] at h
              cases h
          | ok rest =>
              rw [hfirst, hrest] at h
              cases h
              exact .cons hfirst (ih hrest)

theorem exists_of_mapM_error {ε β : Type*} {f : α → Except ε β} {labels : List α} {error : ε}
    (h : labels.mapM f = .error error) : ∃ a ∈ labels, f a = .error error := by
  induction labels with
  | nil => cases h
  | cons a labels ih =>
      rw [List.mapM_cons] at h
      cases hfirst : f a with
      | error other =>
          rw [hfirst] at h
          cases h
          exact ⟨a, List.mem_cons_self, hfirst⟩
      | ok b =>
          cases hrest : labels.mapM f with
          | error other =>
              rw [hfirst, hrest] at h
              cases h
              have hlater := ih hrest
              exact hlater.imp fun a ha => ⟨List.mem_cons_of_mem _ ha.1, ha.2⟩
          | ok rest =>
              rw [hfirst, hrest] at h
              cases h

/-- Guards that agree under an invariant guard the same runs. -/
theorem guarded_congr {s : σ} (hI : I s) (hIstep : ∀ s a, I s → I (step s a))
    (hstep : ∀ s a, I s → (G s a ↔ H s a)) (labels : List α) :
    Guarded step G s labels ↔ Guarded step H s labels := by
  induction labels generalizing s with
  | nil => exact Iff.rfl
  | cons a labels ih => exact and_congr (hstep s a hI) (ih (hIstep s a hI))

end Library.Runs

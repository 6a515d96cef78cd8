import MemoryLab.Library.Rows
import MemoryLab.Library.Runs

/-! # One row of every key

Deduplication keeps the first row of every key. Over all orders of the rows, any row of a key
can be the one that is kept. -/

namespace Library.Rows

variable {ρ κ σ lab : Type*} [DecidableEq κ] {key : ρ → κ}

/-- One row of every key of some rows. -/
structure Selection (key : ρ → κ) (rows kept : List ρ) : Prop where
  subset : kept ⊆ rows
  nodup : (kept.map key).Nodup
  covers : ∀ row ∈ rows, key row ∈ kept.map key

theorem selection_distinctOn (rows : List ρ) : Selection key rows (distinctOn key rows) := by
  refine ⟨fun _ => mem_of_mem_distinctOn, nodup_distinctOn rows, fun row hrow => ?_⟩
  obtain ⟨kept, hkept, hsame⟩ : ∃ kept ∈ distinctOn key rows, key kept = key row :=
    exists_mem_distinctOn hrow
  exact List.mem_map.mpr ⟨kept, hkept, hsame⟩

theorem distinctOn_eq_nil_iff {rows : List ρ} : distinctOn key rows = [] ↔ rows = [] := by
  constructor
  · intro h
    by_contra hne
    obtain ⟨row, hrow⟩ := List.exists_mem_of_ne_nil rows hne
    obtain ⟨kept, hkept, -⟩ : ∃ kept ∈ distinctOn key rows, key kept = key row :=
      exists_mem_distinctOn hrow
    exact List.not_mem_nil (h ▸ hkept)
  · rintro rfl
    rfl

omit [DecidableEq κ] in
theorem Selection.of_perm {rows other kept : List ρ} (hperm : other.Perm rows)
    (h : Selection key other kept) : Selection key rows kept :=
  ⟨fun _ hrow => hperm.subset (h.subset hrow), h.nodup,
    fun row hrow => h.covers row (hperm.symm.subset hrow)⟩

theorem distinctAfter_append_of_covered {seen : List κ} {kept rest : List ρ}
    (hnodup : (kept.map key).Nodup) (hseen : ∀ row ∈ kept, key row ∉ seen)
    (hrest : ∀ row ∈ rest, key row ∈ seen ∨ key row ∈ kept.map key) :
    distinctAfter key seen (kept ++ rest) = kept := by
  induction kept generalizing seen with
  | nil => exact distinctAfter_of_forall_mem fun row hrow => by simpa using hrest row hrow
  | cons row kept ih =>
      rw [List.map_cons, List.nodup_cons] at hnodup
      rw [List.cons_append, distinctAfter, if_neg (hseen row List.mem_cons_self), ih hnodup.2]
      · intro other hother
        rw [List.mem_cons, not_or]
        refine ⟨fun heq => hnodup.1 (heq ▸ List.mem_map_of_mem hother), ?_⟩
        exact hseen other (List.mem_cons_of_mem _ hother)
      · intro other hother
        rcases hrest other hother with hmem | hmem
        · exact .inl (List.mem_cons_of_mem _ hmem)
        · rcases List.mem_cons.mp hmem with heq | hmem
          · exact .inl (heq ▸ List.mem_cons_self)
          · exact .inr hmem

/-- In some order of the rows, deduplication keeps what was selected. -/
theorem Selection.exists_perm {rows kept : List ρ} (h : Selection key rows kept) :
    ∃ other, other.Perm rows ∧ distinctOn key other = kept := by
  have hsubperm : kept.Subperm rows := List.subperm_of_subset (h.nodup.of_map key) h.subset
  obtain ⟨sub, hsub, hsublist⟩ := hsubperm
  obtain ⟨rest, hrest⟩ := hsublist.exists_perm_append
  have hperm : (kept ++ rest).Perm rows := (hsub.symm.append_right rest).trans hrest.symm
  refine ⟨kept ++ rest, hperm, distinctAfter_append_of_covered h.nodup
    (fun _ _ => List.not_mem_nil) fun row hrow => .inr ?_⟩
  exact h.covers row (hperm.subset (List.mem_append_right kept hrow))

/-! ## Cuts -/

section Cut

variable [LinearOrder σ] (sort : ρ → σ) (label : ρ → lab) (limit : ℕ)

/-- The labels of the first rows in order, of every key the first one. -/
def firstLabels (key : ρ → κ) (rows : List ρ) : List lab :=
  ((sortOn sort (distinctOn key rows)).take limit).map label

/-- Whichever row of a key is kept, the first rows have the same labels. -/
def StableCut (key : ρ → κ) (rows : List ρ) : Prop :=
  ∀ first second, Selection key rows first → Selection key rows second →
    (((sortOn sort first).take limit).map label).Perm
      (((sortOn sort second).take limit).map label)

variable {sort label limit} in
/-- The labels of a cut are those of every order of the rows exactly when it does not matter
which row of a key is kept. -/
theorem perm_firstLabels_iff {rows : List ρ} :
    (∀ other, other.Perm rows →
        (firstLabels sort label limit key other).Perm (firstLabels sort label limit key rows)) ↔
      StableCut sort label limit key rows := by
  constructor
  · intro h first second hfirst hsecond
    obtain ⟨other, hother, rfl⟩ := hfirst.exists_perm
    obtain ⟨other', hother', rfl⟩ := hsecond.exists_perm
    exact (h other hother).trans (h other' hother').symm
  · intro h other hother
    exact h _ _ ((selection_distinctOn other).of_perm hother) (selection_distinctOn rows)

end Cut

/-- The keys of sorted rows do not depend on the order in which the rows came. -/
theorem map_sortOn_of_perm [LinearOrder σ] (sort : ρ → σ) {rows other : List ρ}
    (h : rows.Perm other) : (sortOn sort rows).map sort = (sortOn sort other).map sort := by
  refine @List.Perm.eq_of_pairwise _ (· ≤ ·) _ _ (fun _ _ _ _ => le_antisymm) ?_ ?_ ?_
  · exact List.pairwise_map.mpr (pairwise_sortOn rows)
  · exact List.pairwise_map.mpr (pairwise_sortOn other)
  · exact (((perm_sortOn rows).trans h).trans (perm_sortOn other).symm).map sort

/-- A sorted list is determined by its elements when the key determines them. -/
theorem sortOn_eq_iff_perm [LinearOrder σ] {sort : ρ → σ} {rows other : List ρ}
    (hinj : ∀ a ∈ rows, ∀ b ∈ rows, sort a = sort b → a = b) :
    sortOn sort rows = sortOn sort other ↔ rows.Perm other := by
  constructor
  · intro h
    exact (perm_sortOn rows).symm.trans (h ▸ perm_sortOn other)
  · intro h
    refine @List.Perm.eq_of_pairwise _ (fun a b => sort a ≤ sort b) _ _ ?_
      (pairwise_sortOn rows) (pairwise_sortOn other)
      (((perm_sortOn rows).trans h).trans (perm_sortOn other).symm)
    intro a b ha hb hle hge
    refine hinj a (mem_sortOn.mp ha) b ?_ (le_antisymm hle hge)
    exact h.symm.subset (mem_sortOn.mp hb)

/-- Every order of some of the rows is that of some order of all of them. -/
theorem exists_perm_of_filter {p : ρ → Bool} {rows part : List ρ} (h : part.Perm (rows.filter p)) :
    ∃ other : List ρ, other.Perm rows ∧ other.filter p = part := by
  refine ⟨part ++ rows.filter fun row => !p row, ?_, ?_⟩
  · exact (h.append_right _).trans (List.filter_append_perm p rows)
  · have hpart : part.filter p = part :=
      List.filter_eq_self.mpr fun row hrow => List.of_mem_filter (h.subset hrow)
    rw [List.filter_append, hpart, List.filter_filter]
    simp

/-! ## Rows that are converted -/

section Conversion

variable {α β ε : Type} {f : α → Except ε β} {rows other : List α} {results : List β}

theorem mapM_eq_ok_iff :
    rows.mapM f = .ok results ↔ List.Forall₂ (fun a b => f a = .ok b) rows results := by
  constructor
  · exact Runs.forall₂_of_mapM
  · intro h
    induction h with
    | nil => rfl
    | cons hfirst _ ih => simp [List.mapM_cons, hfirst, ih, bind, Except.bind, pure, Except.pure]

/-- Rows in another order have their results in another order. -/
theorem perm_of_mapM {results' : List β} (hperm : other.Perm rows)
    (h : rows.mapM f = .ok results) (hother : other.mapM f = .ok results') :
    results'.Perm results := by
  have hunique : Relator.RightUnique fun a b => f a = .ok b := by
    intro a b b' hb hb'
    exact Except.ok.inj (hb.symm.trans hb')
  exact List.rel_perm_imp hunique (mapM_eq_ok_iff.mp hother) (mapM_eq_ok_iff.mp h) hperm

/-- Every order of the results is that of some order of the rows. -/
theorem exists_perm_of_mapM {results' : List β} (h : rows.mapM f = .ok results)
    (hperm : results'.Perm results) :
    ∃ other : List α, other.Perm rows ∧ other.mapM f = .ok results' := by
  obtain ⟨other, hother, hrows⟩ := List.perm_comp_forall₂ hperm (mapM_eq_ok_iff.mp h).flip
  exact ⟨other, hrows, mapM_eq_ok_iff.mpr hother.flip⟩

theorem exists_mapM_iff :
    (∃ results, rows.mapM f = .ok results) ↔ ∀ a ∈ rows, ∃ b, f a = .ok b := by
  constructor
  · rintro ⟨results, h⟩ a ha
    obtain ⟨b, -, hb⟩ := Forall₂.exists_of_mem (mapM_eq_ok_iff.mp h).flip ha
    exact ⟨b, hb⟩
  · intro h
    induction rows with
    | nil => exact ⟨[], rfl⟩
    | cons row rows ih =>
        obtain ⟨b, hb⟩ := h row List.mem_cons_self
        obtain ⟨results, hresults⟩ := ih fun a ha => h a (List.mem_cons_of_mem row ha)
        exact ⟨b :: results, mapM_eq_ok_iff.mpr (.cons hb (mapM_eq_ok_iff.mp hresults))⟩

theorem isEmpty_of_mapM (h : rows.mapM f = .ok results) : results.isEmpty = rows.isEmpty := by
  cases mapM_eq_ok_iff.mp h <;> rfl

/-- A value that every result takes over from its row. -/
theorem map_eq_of_mapM {γ : Type*} {g : β → γ} {k : α → γ} (h : rows.mapM f = .ok results)
    (hsame : ∀ a b, f a = .ok b → g b = k a) : results.map g = rows.map k := by
  rw [mapM_eq_ok_iff] at h
  induction h with
  | nil => rfl
  | cons hfirst _ ih => rw [List.map_cons, List.map_cons, hsame _ _ hfirst, ih]

/-- The results of the rows that have one. -/
def converted (f : α → Except ε β) (rows : List α) : List β :=
  rows.filterMap fun row => (f row).toOption

theorem converted_eq (h : rows.mapM f = .ok results) : converted f rows = results := by
  rw [mapM_eq_ok_iff] at h
  induction h with
  | nil => rfl
  | cons hfirst _ ih =>
      rw [converted, List.filterMap_cons, hfirst]
      exact congrArg _ ih

theorem exists_of_mem_converted {b : β} (h : b ∈ converted f rows) :
    ∃ a ∈ rows, f a = .ok b := by
  obtain ⟨a, ha, hb⟩ := List.mem_filterMap.mp h
  refine ⟨a, ha, ?_⟩
  cases hresult : f a with
  | error e => simp [hresult, Except.toOption] at hb
  | ok b' =>
      rw [hresult] at hb
      exact congrArg Except.ok (Option.some.inj hb)

end Conversion

end Library.Rows

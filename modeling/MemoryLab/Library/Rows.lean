import Mathlib.Data.List.Sort
import Mathlib.Data.List.Forall2
import Mathlib.Tactic

/-! # Tables as lists of rows -/

namespace Library.Rows

variable {ρ : Type*}

/-- `UPDATE … SET f WHERE p`. -/
def updateWhere (p : ρ → Bool) (f : ρ → ρ) (rows : List ρ) : List ρ :=
  rows.map fun row => if p row then f row else row

/-- `SELECT … ORDER BY le LIMIT 1`. -/
def selectFirst (le : ρ → ρ → Prop) [DecidableRel le] (rows : List ρ) : Option ρ :=
  (rows.insertionSort le).head?

/-- Rows in the order of a key, ties as they come. -/
def sortOn {κ : Type*} [LinearOrder κ] (key : ρ → κ) (rows : List ρ) : List ρ :=
  rows.insertionSort fun a b => key a ≤ key b

/-- `LEFT JOIN … ON p`. -/
def leftJoin {σ : Type*} (p : ρ → σ → Bool) (left : List ρ) (right : List σ) :
    List (ρ × Option σ) :=
  left.flatMap fun row =>
    match right.filter (p row) with
    | [] => [(row, none)]
    | matching => matching.map fun other => (row, some other)

/-- One part of `ORDER BY`: ties are left to the parts after it. -/
def orderBy {κ : Type*} (le : κ → κ → Bool) (a b : κ) (next : Bool) : Bool :=
  le a b && (!le b a || next)

/-- `NULLS LAST`. -/
def nullsLast {κ : Type*} (le : κ → κ → Bool) : Option κ → Option κ → Bool
  | _, none => true
  | none, some _ => false
  | some a, some b => le a b

/-- The loop that keeps the first row of every key, after some keys were seen. -/
def distinctAfter {κ : Type*} [DecidableEq κ] (key : ρ → κ) : List κ → List ρ → List ρ
  | _, [] => []
  | seen, row :: rows =>
    if key row ∈ seen then distinctAfter key seen rows
    else row :: distinctAfter key (key row :: seen) rows

def distinctOn {κ : Type*} [DecidableEq κ] (key : ρ → κ) (rows : List ρ) : List ρ :=
  distinctAfter key [] rows

/-- An identifier that no row uses. -/
def freshId (ids : List ℕ) : ℕ := ids.foldr max 0 + 1

theorem lt_freshId {ids : List ℕ} {i : ℕ} (hi : i ∈ ids) : i < freshId ids := by
  induction ids with
  | nil => simp at hi
  | cons j ids ih =>
      simp only [freshId, List.foldr_cons] at ih ⊢
      rcases List.mem_cons.mp hi with rfl | hi
      · omega
      · have := ih hi
        omega

theorem freshId_notMem (ids : List ℕ) : freshId ids ∉ ids :=
  fun hmem => (lt_freshId hmem).false

/-! ## Updates -/

theorem mem_updateWhere {p : ρ → Bool} {f : ρ → ρ} {rows : List ρ} {row : ρ} :
    row ∈ updateWhere p f rows ↔
      ∃ old ∈ rows, (p old = true ∧ row = f old) ∨ (p old = false ∧ row = old) := by
  simp only [updateWhere, List.mem_map]
  constructor
  · rintro ⟨old, hold, rfl⟩
    refine ⟨old, hold, ?_⟩
    cases h : p old <;> simp
  · rintro ⟨old, hold, ⟨h, rfl⟩ | ⟨h, rfl⟩⟩
    · exact ⟨old, hold, by simp [h]⟩
    · exact ⟨row, hold, by simp [h]⟩

theorem forall_updateWhere {P : ρ → Prop} {p : ρ → Bool} {f : ρ → ρ} {rows : List ρ}
    (h : ∀ row ∈ rows, P row) (hf : ∀ row, P row → P (f row)) :
    ∀ row ∈ updateWhere p f rows, P row := by
  intro row hrow
  obtain ⟨old, hold, ⟨-, rfl⟩ | ⟨-, rfl⟩⟩ := mem_updateWhere.mp hrow
  · exact hf old (h old hold)
  · exact h row hold

/-- A projection that the assignment does not touch. -/
theorem map_updateWhere {β : Type*} (g : ρ → β) {p : ρ → Bool} {f : ρ → ρ}
    (hg : ∀ row, g (f row) = g row) (rows : List ρ) :
    (updateWhere p f rows).map g = rows.map g := by
  rw [updateWhere, List.map_map]
  refine List.map_congr_left fun row _ => ?_
  cases h : p row <;> simp [h, hg]

theorem updateWhere_of_forall_not {p : ρ → Bool} {f : ρ → ρ} {rows : List ρ}
    (h : ∀ row ∈ rows, p row = false) : updateWhere p f rows = rows := by
  refine (List.map_congr_left fun row hrow => ?_).trans (List.map_id rows)
  simp [h row hrow]

/-- An idempotent assignment made twice is made once. -/
theorem updateWhere_updateWhere {p q : ρ → Bool} {f : ρ → ρ} (hidem : ∀ row, f (f row) = f row)
    (hq : ∀ row, q (f row) = q row) (rows : List ρ) :
    updateWhere q f (updateWhere p f rows) = updateWhere (fun row => p row || q row) f rows := by
  rw [updateWhere, updateWhere, updateWhere, List.map_map]
  refine List.map_congr_left fun row _ => ?_
  by_cases hp : p row = true <;> by_cases hrow : q row = true <;> simp [hp, hrow, hq, hidem]

theorem updateWhere_congr {p q : ρ → Bool} {f : ρ → ρ} {rows : List ρ}
    (h : ∀ row ∈ rows, p row = q row) : updateWhere p f rows = updateWhere q f rows :=
  List.map_congr_left fun row hrow => by rw [h row hrow]

/-- The first of the rows that were set to one row. -/
theorem find?_updateWhere_const {p : ρ → Bool} {row : ρ} {rows : List ρ} (hrow : p row = true)
    (hany : rows.any p = true) : (updateWhere p (fun _ => row) rows).find? p = some row := by
  induction rows with
  | nil => simp at hany
  | cons first rows ih =>
      rw [updateWhere, List.map_cons, ← updateWhere]
      by_cases hfirst : p first = true
      · simp [hfirst, hrow]
      · have hrest : rows.any p = true := by simpa [hfirst] using hany
        rw [if_neg hfirst, List.find?_cons_of_neg hfirst, ih hrest]

/-- The first of the assigned rows, where the assignment keeps the condition. -/
theorem find?_updateWhere_self {p : ρ → Bool} {f : ρ → ρ} (hf : ∀ row, p (f row) = p row)
    (rows : List ρ) : (updateWhere p f rows).find? p = (rows.find? p).map f := by
  induction rows with
  | nil => rfl
  | cons row rows ih =>
      rw [updateWhere, List.map_cons, ← updateWhere]
      by_cases hrow : p row = true
      · simp [hrow, hf]
      · rw [if_neg hrow, List.find?_cons_of_neg hrow, List.find?_cons_of_neg hrow, ih]

/-- Rows that fail a condition before and after an assignment are not among those that meet it. -/
theorem filter_updateWhere {p q : ρ → Bool} {f : ρ → ρ} {rows : List ρ}
    (h : ∀ row ∈ rows, p row = true → q row = false ∧ q (f row) = false) :
    (updateWhere p f rows).filter q = rows.filter q := by
  induction rows with
  | nil => rfl
  | cons row rows ih =>
      have htail := ih fun other hother => h other (List.mem_cons_of_mem _ hother)
      rw [updateWhere] at htail
      rw [updateWhere, List.map_cons, List.filter_cons, List.filter_cons, htail]
      by_cases hp : p row = true
      · obtain ⟨hold, hnew⟩ := h row List.mem_cons_self hp
        simp [hp, hold, hnew]
      · simp [hp]

/-- Assigned rows that then fail a condition are gone from those that meet it. -/
theorem filter_updateWhere_of_not {p q : ρ → Bool} {f : ρ → ρ} {rows : List ρ}
    (h : ∀ row ∈ rows, p row = true → q (f row) = false) :
    (updateWhere p f rows).filter q = rows.filter fun row => q row && !p row := by
  induction rows with
  | nil => rfl
  | cons row rows ih =>
      have htail := ih fun other hother => h other (List.mem_cons_of_mem _ hother)
      rw [updateWhere] at htail
      rw [updateWhere, List.map_cons, List.filter_cons, List.filter_cons, htail]
      by_cases hp : p row = true
      · simp [hp, h row List.mem_cons_self hp]
      · simp [hp]

theorem forall₂_updateWhere_iff {R : ρ → ρ → Prop} {p : ρ → Bool} {f : ρ → ρ} {rows : List ρ} :
    List.Forall₂ R rows (updateWhere p f rows) ↔
      ∀ row ∈ rows, R row (if p row then f row else row) := by
  rw [updateWhere, List.forall₂_map_right_iff, List.forall₂_same]

/-- Row by row: a reflexive relation that the assignment satisfies relates the tables. -/
theorem forall₂_updateWhere {R : ρ → ρ → Prop} (hrefl : ∀ row, R row row) {p : ρ → Bool}
    {f : ρ → ρ} {rows : List ρ} (h : ∀ row ∈ rows, p row = true → R row (f row)) :
    List.Forall₂ R rows (updateWhere p f rows) := by
  rw [forall₂_updateWhere_iff]
  intro row hrow
  cases hp : p row with
  | false => simpa using hrefl row
  | true => simpa using h row hrow hp

theorem Forall₂.refl' {R : ρ → ρ → Prop} (hrefl : ∀ row, R row row) (rows : List ρ) :
    List.Forall₂ R rows rows :=
  List.forall₂_same.mpr fun row _ => hrefl row

theorem Forall₂.trans' {R : ρ → ρ → Prop}
    (htrans : ∀ first second third, R first second → R second third → R first third)
    {first second third : List ρ} (h : List.Forall₂ R first second)
    (h' : List.Forall₂ R second third) : List.Forall₂ R first third := by
  induction h generalizing third with
  | nil => exact h'
  | cons hrow _ ih =>
      cases h' with
      | cons hrow' hrows => exact .cons (htrans _ _ _ hrow hrow') (ih hrows)

theorem Forall₂.map_eq {β : Type*} {R : ρ → ρ → Prop} {g : ρ → β}
    (hg : ∀ row other, R row other → g other = g row) {rows others : List ρ}
    (h : List.Forall₂ R rows others) : others.map g = rows.map g := by
  induction h with
  | nil => rfl
  | cons hrow _ ih => rw [List.map_cons, List.map_cons, hg _ _ hrow, ih]

theorem Forall₂.exists_of_mem {σ : Type*} {R : ρ → σ → Prop} {rows : List ρ} {others : List σ}
    (h : List.Forall₂ R rows others) {other : σ} (hmem : other ∈ others) :
    ∃ row ∈ rows, R row other := by
  induction h with
  | nil => cases hmem
  | @cons row other' rows others hrow _ ih =>
      rcases List.mem_cons.mp hmem with rfl | hmem
      · exact ⟨row, List.mem_cons_self, hrow⟩
      · obtain ⟨old, hold, hR⟩ := ih hmem
        exact ⟨old, List.mem_cons_of_mem _ hold, hR⟩

theorem filterMap_ite {σ : Type*} (p : ρ → Bool) (f : ρ → σ) (rows : List ρ) :
    (rows.filterMap fun row => if p row then some (f row) else none) =
      (rows.filter p).map f := by
  induction rows with
  | nil => rfl
  | cons row rows ih =>
      rw [List.filterMap_cons, List.filter_cons, ih]
      cases p row <;> rfl

/-- Selecting what the selected elements give rise to. -/
theorem filter_flatMap_of_forall {σ : Type*} {f : ρ → List σ} {p : σ → Bool} {q : ρ → Bool}
    {rows : List ρ} (h : ∀ row ∈ rows, ∀ other ∈ f row, p other = q row) :
    (rows.flatMap f).filter p = (rows.filter q).flatMap f := by
  induction rows with
  | nil => rfl
  | cons row rows ih =>
      have htail := ih fun other hother => h other (List.mem_cons_of_mem row hother)
      have hrow := h row List.mem_cons_self
      rw [List.flatMap_cons, List.filter_append, htail, List.filter_cons]
      cases hq : q row with
      | true =>
          rw [List.filter_eq_self.mpr fun other hother => (hrow other hother).trans hq]
          rfl
      | false =>
          rw [List.filter_eq_nil_iff.mpr]
          · rfl
          · intro other hother
            rw [hrow other hother, hq]
            exact Bool.false_ne_true

/-! ## Selections -/

theorem selectFirst_mem {le : ρ → ρ → Prop} [DecidableRel le] {rows : List ρ} {row : ρ}
    (h : selectFirst le rows = some row) : row ∈ rows :=
  (List.mem_insertionSort le).mp (List.mem_of_head? h)

/-- The first row comes before every other one. -/
theorem selectFirst_le {le : ρ → ρ → Prop} [DecidableRel le] (htotal : ∀ a b, le a b ∨ le b a)
    (htrans : ∀ a b c, le a b → le b c → le a c) {rows : List ρ} {row other : ρ}
    (h : selectFirst le rows = some row) (hother : other ∈ rows) : le row other := by
  have : Std.Total le := ⟨htotal⟩
  have : IsTrans ρ le := ⟨htrans⟩
  have hsorted := List.pairwise_insertionSort le rows
  obtain ⟨rest, hrest⟩ := List.head?_eq_some_iff.mp h
  rw [hrest, List.pairwise_cons] at hsorted
  have hmem := (List.mem_insertionSort le).mpr hother
  rw [hrest] at hmem
  rcases List.mem_cons.mp hmem with rfl | hmem
  · exact (htotal other other).elim id id
  · exact hsorted.1 other hmem

theorem selectFirst_eq_none {le : ρ → ρ → Prop} [DecidableRel le] {rows : List ρ} :
    selectFirst le rows = none ↔ rows = [] := by
  rw [selectFirst, List.head?_eq_none_iff, ← List.length_eq_zero_iff, List.length_insertionSort,
    List.length_eq_zero_iff]

/-- A row that comes before every other is selected. -/
theorem selectFirst_append_singleton {le : ρ → ρ → Prop} [DecidableRel le]
    (htotal : ∀ a b, le a b ∨ le b a) (htrans : ∀ a b c, le a b → le b c → le a c)
    {rows : List ρ} {row : ρ} (h : ∀ other ∈ rows, ¬ le other row) :
    selectFirst le (rows ++ [row]) = some row := by
  cases hfirst : selectFirst le (rows ++ [row]) with
  | none => simp [selectFirst_eq_none] at hfirst
  | some first =>
      have hle := selectFirst_le htotal htrans hfirst
        (List.mem_append_right rows (List.mem_singleton_self row))
      rcases List.mem_append.mp (selectFirst_mem hfirst) with hold | hlast
      · exact absurd hle (h first hold)
      · rw [List.mem_singleton.mp hlast]

theorem flatMap_ite {α : Type*} (p : ρ → Bool) (f : ρ → List α) (rows : List ρ) :
    rows.flatMap (fun row => if p row then f row else []) = (rows.filter p).flatMap f := by
  induction rows with
  | nil => rfl
  | cons row rows ih => cases hp : p row <;> simp [List.flatMap_cons, hp, ih]

theorem filter_eq_singleton {p : ρ → Bool} {rows : List ρ} {row : ρ} (hnodup : rows.Nodup)
    (hmem : row ∈ rows) (hp : p row = true)
    (hunique : ∀ other ∈ rows, p other = true → other = row) : rows.filter p = [row] := by
  rw [← List.perm_singleton, List.perm_ext_iff_of_nodup (hnodup.filter p)
    (List.nodup_singleton row)]
  intro other
  rw [List.mem_filter, List.mem_singleton]
  constructor
  · rintro ⟨hother, hpOther⟩
    exact hunique other hother hpOther
  · rintro rfl
    exact ⟨hmem, hp⟩

/-- A row is found by its key. -/
theorem find?_of_nodup {κ : Type*} {key : ρ → κ} {rows : List ρ} (hnodup : (rows.map key).Nodup)
    {p : ρ → Bool} {row : ρ} (hmem : row ∈ rows)
    (hp : ∀ other, p other = true ↔ key other = key row) : rows.find? p = some row := by
  cases hfind : rows.find? p with
  | none => exact absurd ((hp row).mpr rfl) (List.find?_eq_none.mp hfind row hmem)
  | some other =>
      have hkey := (hp other).mp (List.find?_some hfind)
      rw [List.inj_on_of_nodup_map hnodup (List.mem_of_find?_eq_some hfind) hmem hkey]

/-! ## Rows in order -/

section SortOn

variable {κ : Type*} [LinearOrder κ] {key : ρ → κ}

theorem mem_sortOn {rows : List ρ} {row : ρ} : row ∈ sortOn key rows ↔ row ∈ rows :=
  List.mem_insertionSort _

theorem pairwise_sortOn (rows : List ρ) :
    (sortOn key rows).Pairwise fun a b => key a ≤ key b := by
  have : Std.Total fun a b : ρ => key a ≤ key b := ⟨fun a b => le_total (key a) (key b)⟩
  have : IsTrans ρ fun a b => key a ≤ key b := ⟨fun a b c => le_trans⟩
  exact List.pairwise_insertionSort _ rows

theorem orderedInsert_of_forall_le {row : ρ} {rows : List ρ}
    (h : ∀ other ∈ rows, key row ≤ key other) :
    rows.orderedInsert (fun a b => key a ≤ key b) row = row :: rows := by
  cases rows with
  | nil => rfl
  | cons first rows => exact List.orderedInsert_cons_of_le _ rows (h first List.mem_cons_self)

theorem filter_orderedInsert {p : ρ → Bool} {row : ρ} {rows : List ρ}
    (h : rows.Pairwise fun a b => key a ≤ key b) :
    (rows.orderedInsert (fun a b => key a ≤ key b) row).filter p =
      if p row then (rows.filter p).orderedInsert (fun a b => key a ≤ key b) row
      else rows.filter p := by
  induction rows with
  | nil => cases hp : p row <;> simp [hp]
  | cons first rows ih =>
      rw [List.pairwise_cons] at h
      by_cases hle : key row ≤ key first
      · have hall : ∀ other ∈ (first :: rows).filter p, key row ≤ key other := by
          intro other hother
          rcases List.mem_cons.mp (List.mem_of_mem_filter hother) with rfl | hmem
          · exact hle
          · exact hle.trans (h.1 other hmem)
        rw [List.orderedInsert_cons_of_le _ rows hle, orderedInsert_of_forall_le hall,
          List.filter_cons]
      · rw [List.orderedInsert_of_not_le _ rows hle, List.filter_cons, ih h.2]
        cases hfirst : p first with
        | true =>
            have hinsert := List.orderedInsert_of_not_le (fun a b => key a ≤ key b)
              (rows.filter p) hle
            rw [if_pos rfl, List.filter_cons_of_pos hfirst, hinsert]
            cases p row <;> rfl
        | false =>
            rw [if_neg Bool.false_ne_true, List.filter_cons_of_neg (by simp [hfirst])]

/-- Rows of one key are in order already. -/
theorem sortOn_of_forall_eq {rows : List ρ} {k : κ} (h : ∀ row ∈ rows, key row = k) :
    sortOn key rows = rows := by
  apply List.Pairwise.insertionSort_eq
  apply List.pairwise_of_forall_mem_list
  intro first hfirst second hsecond
  rw [h first hfirst, h second hsecond]

theorem perm_sortOn (rows : List ρ) : (sortOn key rows).Perm rows :=
  List.perm_insertionSort _ rows

/-- Rows with different keys have one order. -/
theorem sortOn_eq_of_perm {rows other : List ρ} (hperm : rows.Perm other)
    (hnodup : (rows.map key).Nodup) : sortOn key rows = sortOn key other := by
  refine List.Perm.eq_of_pairwise ?_ (List.pairwise_insertionSort _ rows)
    (List.pairwise_insertionSort _ other)
    ((perm_sortOn rows).trans (hperm.trans (perm_sortOn other).symm))
  intro first second hfirst hsecond hle hge
  have hsecond := hperm.mem_iff.mpr ((perm_sortOn other).mem_iff.mp hsecond)
  exact List.inj_on_of_nodup_map hnodup ((perm_sortOn rows).mem_iff.mp hfirst) hsecond
    (le_antisymm hle hge)

/-- Selecting from rows in order is ordering the selected rows. -/
theorem filter_sortOn (p : ρ → Bool) (rows : List ρ) :
    (sortOn key rows).filter p = sortOn key (rows.filter p) := by
  induction rows with
  | nil => rfl
  | cons row rows ih =>
      have hsorted : (sortOn key rows).Pairwise fun a b => key a ≤ key b := pairwise_sortOn rows
      rw [sortOn, List.insertionSort_cons]
      refine (filter_orderedInsert hsorted).trans ?_
      rw [ih, List.filter_cons]
      cases p row <;> rfl

/-- Rows are ordered alike under another name. -/
theorem map_sortOn {σ : Type*} {key' : σ → κ} (f : ρ → σ) (hkey : ∀ row, key' (f row) = key row)
    (rows : List ρ) : (sortOn key rows).map f = sortOn key' (rows.map f) :=
  List.map_insertionSort _ _ f rows fun a _ b _ => by rw [hkey a, hkey b]

omit [LinearOrder κ] in
theorem mem_iff_of_filter [DecidableEq κ] {first second : List ρ}
    (h : ∀ k, first.filter (fun row => decide (key row = k)) =
      second.filter fun row => decide (key row = k)) {row : ρ} : row ∈ first ↔ row ∈ second := by
  have hrow := congrArg (row ∈ ·) (h (key row))
  simpa using hrow

/-- Rows in order are determined by what they hold of every key. -/
theorem eq_of_pairwise_of_filter [DecidableEq κ] {first second : List ρ}
    (hfirst : first.Pairwise fun a b => key a ≤ key b)
    (hsecond : second.Pairwise fun a b => key a ≤ key b)
    (h : ∀ k, first.filter (fun row => decide (key row = k)) =
      second.filter fun row => decide (key row = k)) : first = second := by
  induction first generalizing second with
  | nil =>
      cases second with
      | nil => rfl
      | cons other rest =>
          exact absurd ((mem_iff_of_filter h).mpr List.mem_cons_self) List.not_mem_nil
  | cons row rows ih =>
      cases second with
      | nil => exact absurd ((mem_iff_of_filter h).mp List.mem_cons_self) List.not_mem_nil
      | cons other rest =>
          have hle : ∀ x ∈ row :: rows, key row ≤ key x := by
            intro x hx
            rcases List.mem_cons.mp hx with rfl | hx
            · exact le_rfl
            · exact List.rel_of_pairwise_cons hfirst hx
          have hle' : ∀ x ∈ other :: rest, key other ≤ key x := by
            intro x hx
            rcases List.mem_cons.mp hx with rfl | hx
            · exact le_rfl
            · exact List.rel_of_pairwise_cons hsecond hx
          have hkey : key row = key other :=
            le_antisymm (hle other ((mem_iff_of_filter h).mpr List.mem_cons_self))
              (hle' row ((mem_iff_of_filter h).mp List.mem_cons_self))
          have hhead := h (key row)
          simp only [List.filter_cons, hkey, decide_true, if_true, List.cons.injEq] at hhead
          obtain ⟨rfl, -⟩ := hhead
          have htail : ∀ k, rows.filter (fun x => decide (key x = k)) =
              rest.filter fun x => decide (key x = k) := by
            intro k
            have hk := h k
            simp only [List.filter_cons] at hk
            split at hk
            · exact (List.cons.inj hk).2
            · exact hk
          rw [ih hfirst.tail hsecond.tail htail, List.tail_cons]

/-- The only order by a key that keeps ties as they come. -/
theorem eq_sortOn [DecidableEq κ] {sorted rows : List ρ}
    (hsorted : sorted.Pairwise fun a b => key a ≤ key b)
    (h : ∀ k, sorted.filter (fun row => decide (key row = k)) =
      rows.filter fun row => decide (key row = k)) : sorted = sortOn key rows := by
  refine eq_of_pairwise_of_filter hsorted (pairwise_sortOn rows) fun k => ?_
  have hties : (rows.filter fun row => decide (key row = k)).Pairwise fun a b => key a ≤ key b := by
    refine List.pairwise_of_forall_mem_list fun a ha b hb => ?_
    simp only [List.mem_filter, decide_eq_true_eq] at ha hb
    rw [ha.2, hb.2]
  rw [h k, filter_sortOn, sortOn, List.Pairwise.insertionSort_eq hties]

/-- Rows in order up to one key, and from there up to a later one. -/
theorem filter_le_of_pairwise {rows : List ρ} (h : rows.Pairwise fun a b => key a ≤ key b)
    {first last : κ} (hle : first ≤ last) :
    rows.filter (fun row => key row ≤ last) =
      rows.filter (fun row => key row ≤ first) ++
        rows.filter fun row => decide (first < key row) && decide (key row ≤ last) := by
  induction rows with
  | nil => rfl
  | cons row rows ih =>
      have hrest := List.pairwise_cons.mp h
      by_cases hrow : key row ≤ first
      · simp [hrow, hrow.trans hle, ih hrest.2]
      · have hlater : ∀ other ∈ rows, first < key other := fun other hother =>
          (not_le.mp hrow).trans_le (hrest.1 other hother)
        have hnone : rows.filter (fun row => key row ≤ first) = [] := by
          simpa [List.filter_eq_nil_iff] using hlater
        simp [hrow, not_le.mp hrow, hnone, ih hrest.2, List.filter_cons]

/-- A row is among the first when few rows have a lower key. -/
theorem mem_take_iff {rows : List ρ} (h : rows.Pairwise fun a b => key a < key b) {row : ρ}
    {n : ℕ} :
    row ∈ rows.take n ↔
      row ∈ rows ∧ (rows.filter fun other => key other < key row).length < n := by
  induction rows generalizing n with
  | nil => simp
  | cons first rows ih =>
      rw [List.pairwise_cons] at h
      cases n with
      | zero => simp
      | succ n =>
          rw [List.take_succ_cons, List.mem_cons, List.mem_cons, ih h.2]
          by_cases hfirst : row = first
          · subst hfirst
            have hnone : rows.filter (fun other => key other < key row) = [] :=
              List.filter_eq_nil_iff.mpr fun other hother => by simp [(h.1 other hother).le]
            simp [hnone]
          · constructor
            · rintro (rfl | ⟨hmem, hlength⟩)
              · exact absurd rfl hfirst
              · refine ⟨.inr hmem, ?_⟩
                simpa [h.1 row hmem] using hlength
            · rintro ⟨rfl | hmem, hlength⟩
              · exact absurd rfl hfirst
              · refine .inr ⟨hmem, ?_⟩
                simpa [h.1 row hmem] using hlength

end SortOn

/-- A condition that selects as many rows as a weaker one selects the same rows. -/
theorem forall_of_length_filter_eq {p q : ρ → Bool} {rows : List ρ}
    (hweak : ∀ row ∈ rows, p row = true → q row = true)
    (hlength : (rows.filter p).length = (rows.filter q).length) :
    ∀ row ∈ rows, q row = true → p row = true := by
  have hnested : (rows.filter q).filter p = rows.filter p := by
    rw [List.filter_filter]
    refine List.filter_congr fun row hrow => ?_
    by_cases hp : p row = true
    · simp [hp, hweak row hrow hp]
    · simp [hp]
  rw [← hnested] at hlength
  intro row hrow hq
  exact List.length_filter_eq_length_iff.mp hlength row (List.mem_filter.mpr ⟨hrow, hq⟩)

/-! ## Left joins -/

section LeftJoin

variable {σ : Type*} {p : ρ → σ → Bool}

theorem filter_leftJoin (q : ρ → Bool) (left : List ρ) (right : List σ) :
    (leftJoin p left right).filter (fun row => q row.1) = leftJoin p (left.filter q) right := by
  induction left with
  | nil => rfl
  | cons row left ih =>
      rw [leftJoin] at ih
      rw [leftJoin, List.flatMap_cons, List.filter_append, ih, List.filter_cons]
      cases hq : q row with
      | false =>
          rw [List.filter_eq_nil_iff.mpr]
          · rfl
          · intro joined hjoined
            split at hjoined
            · rw [List.mem_singleton.mp hjoined, hq]
              exact Bool.false_ne_true
            · obtain ⟨other, -, rfl⟩ := List.mem_map.mp hjoined
              rw [hq]
              exact Bool.false_ne_true
      | true =>
          rw [List.filter_eq_self.mpr]
          · rfl
          · intro joined hjoined
            split at hjoined
            · rw [List.mem_singleton.mp hjoined, hq]
            · obtain ⟨other, -, rfl⟩ := List.mem_map.mp hjoined
              rw [hq]

theorem fst_of_mem_leftJoin {left : List ρ} {right : List σ} {row : ρ × Option σ}
    (h : row ∈ leftJoin p left right) : row.1 ∈ left := by
  obtain ⟨old, hold, hrow⟩ := List.mem_flatMap.mp h
  split at hrow
  · rw [List.mem_singleton.mp hrow]
    exact hold
  · obtain ⟨other, -, rfl⟩ := List.mem_map.mp hrow
    exact hold

theorem leftJoin_congr {left : List ρ} {right right' : List σ}
    (h : ∀ row ∈ left, right.filter (p row) = right'.filter (p row)) :
    leftJoin p left right = leftJoin p left right' :=
  List.flatMap_congr fun row hrow => by rw [h row hrow]

theorem leftJoin_eq_nil {left : List ρ} {right : List σ} :
    leftJoin p left right = [] ↔ left = [] := by
  cases left with
  | nil => exact iff_of_true rfl rfl
  | cons row left =>
      rw [leftJoin, List.flatMap_cons, List.append_eq_nil_iff]
      refine iff_of_false (fun h => ?_) (List.cons_ne_nil row left)
      have hrow := h.1
      split at hrow
      · cases hrow
      · rename_i hmatching
        exact hmatching (List.map_eq_nil_iff.mp hrow)

theorem length_leftJoin_singleton (row : ρ) (right : List σ) :
    (leftJoin p [row] right).length = max 1 (right.filter (p row)).length := by
  rw [leftJoin, List.flatMap_singleton]
  split
  · rename_i hnil
    rw [hnil]
    rfl
  · rename_i hne
    rw [List.length_map, max_eq_right]
    exact List.length_pos_iff.mpr hne

/-- A row with at most one match keeps one row. -/
theorem leftJoin_singleton {row : ρ} {right : List σ}
    (h : (right.filter (p row)).length ≤ 1) :
    leftJoin p [row] right = [(row, (right.filter (p row)).head?)] := by
  rw [leftJoin, List.flatMap_singleton]
  rcases hmatching : right.filter (p row) with _ | ⟨first, rest⟩
  · rfl
  · rw [hmatching, List.length_cons] at h
    obtain rfl : rest = [] := List.length_eq_zero_iff.mp (by omega)
    rfl

end LeftJoin

/-! ## Distinct rows -/

section Distinct

variable {κ : Type*} [DecidableEq κ] {key : ρ → κ}

/-- Only the rows at hand have to agree on the condition. -/
theorem filter_distinctOn_of_mem {q : ρ → Bool} {rows : List ρ}
    (hq : ∀ a ∈ rows, ∀ b ∈ rows, key a = key b → q a = q b) :
    (distinctOn key rows).filter q = distinctOn key (rows.filter q) := by
  suffices h : ∀ seen others : List κ,
      (∀ row ∈ rows, q row = true → (key row ∈ seen ↔ key row ∈ others)) →
      (distinctAfter key seen rows).filter q = distinctAfter key others (rows.filter q) from
    h [] [] fun _ _ _ => Iff.rfl
  induction rows with
  | nil => exact fun _ _ _ => rfl
  | cons row rows ih =>
      intro seen others hseen
      have htail := ih fun a ha b hb =>
        hq a (List.mem_cons_of_mem row ha) b (List.mem_cons_of_mem row hb)
      have hrest := fun other hother => hseen other (List.mem_cons_of_mem row hother)
      cases hrow : q row with
      | false =>
          rw [List.filter_cons_of_neg (by simp [hrow]), distinctAfter]
          split
          · exact htail seen others hrest
          · rw [List.filter_cons_of_neg (by simp [hrow])]
            refine htail _ _ fun other hother hotherQ => ?_
            rw [← hrest other hother hotherQ, List.mem_cons, or_iff_right]
            intro heq
            rw [hq other (List.mem_cons_of_mem row hother) row List.mem_cons_self heq,
              hrow] at hotherQ
            cases hotherQ
      | true =>
          rw [List.filter_cons_of_pos hrow, distinctAfter, distinctAfter]
          have hiff := hseen row List.mem_cons_self hrow
          by_cases hmem : key row ∈ seen
          · rw [if_pos hmem, if_pos (hiff.mp hmem)]
            exact htail seen others hrest
          · rw [if_neg hmem, if_neg (mt hiff.mpr hmem), List.filter_cons_of_pos hrow]
            congr 1
            refine htail _ _ fun other hother hotherQ => ?_
            rw [List.mem_cons, List.mem_cons, hrest other hother hotherQ]

/-- What is kept of some keys is what is kept of the rows with these keys. -/
theorem filter_distinctOn {q : ρ → Bool} (hq : ∀ a b, key a = key b → q a = q b)
    (rows : List ρ) : (distinctOn key rows).filter q = distinctOn key (rows.filter q) :=
  filter_distinctOn_of_mem fun a _ b _ => hq a b

theorem mem_of_mem_distinctAfter {seen : List κ} {rows : List ρ} {row : ρ}
    (h : row ∈ distinctAfter key seen rows) : row ∈ rows ∧ key row ∉ seen := by
  induction rows generalizing seen with
  | nil => cases h
  | cons first rows ih =>
      rw [distinctAfter] at h
      split at h
      · exact ⟨List.mem_cons_of_mem first (ih h).1, (ih h).2⟩
      · rename_i hseen
        rcases List.mem_cons.mp h with rfl | h
        · exact ⟨List.mem_cons_self, hseen⟩
        · exact ⟨List.mem_cons_of_mem first (ih h).1, fun hmem => (ih h).2 (by simp [hmem])⟩

theorem mem_of_mem_distinctOn {rows : List ρ} {row : ρ} (h : row ∈ distinctOn key rows) :
    row ∈ rows :=
  (mem_of_mem_distinctAfter h).1

theorem exists_mem_distinctAfter {seen : List κ} {rows : List ρ} {row : ρ} (h : row ∈ rows)
    (hseen : key row ∉ seen) : ∃ kept ∈ distinctAfter key seen rows, key kept = key row := by
  induction rows generalizing seen with
  | nil => cases h
  | cons first rows ih =>
      rw [distinctAfter]
      by_cases hfirst : key first ∈ seen
      · rw [if_pos hfirst]
        rcases List.mem_cons.mp h with rfl | h
        · exact absurd hfirst hseen
        · exact ih h hseen
      · rw [if_neg hfirst]
        by_cases hkey : key row = key first
        · exact ⟨first, List.mem_cons_self, hkey.symm⟩
        · rcases List.mem_cons.mp h with rfl | h
          · exact absurd rfl hkey
          · have hfresh : key row ∉ key first :: seen := by simp [hkey, hseen]
            obtain ⟨kept, hkept, hsame⟩ := ih h hfresh
            exact ⟨kept, List.mem_cons_of_mem first hkept, hsame⟩

/-- Every row has the key of one that is kept. -/
theorem exists_mem_distinctOn {rows : List ρ} {row : ρ} (h : row ∈ rows) :
    ∃ kept ∈ distinctOn key rows, key kept = key row :=
  exists_mem_distinctAfter h List.not_mem_nil

theorem nodup_distinctAfter (seen : List κ) (rows : List ρ) :
    ((distinctAfter key seen rows).map key).Nodup := by
  induction rows generalizing seen with
  | nil => exact List.nodup_nil
  | cons first rows ih =>
      rw [distinctAfter]
      split
      · exact ih seen
      · rw [List.map_cons, List.nodup_cons]
        refine ⟨fun hmem => ?_, ih (key first :: seen)⟩
        obtain ⟨other, hother, hkey⟩ := List.mem_map.mp hmem
        exact (mem_of_mem_distinctAfter hother).2 (by simp [hkey])

theorem nodup_distinctOn (rows : List ρ) : ((distinctOn key rows).map key).Nodup :=
  nodup_distinctAfter [] rows

theorem distinctAfter_of_nodup {seen : List κ} {rows : List ρ} (hnodup : (rows.map key).Nodup)
    (hseen : ∀ row ∈ rows, key row ∉ seen) : distinctAfter key seen rows = rows := by
  induction rows generalizing seen with
  | nil => rfl
  | cons row rows ih =>
      rw [List.map_cons, List.nodup_cons] at hnodup
      rw [distinctAfter, if_neg (hseen row List.mem_cons_self), ih hnodup.2]
      intro other hother
      rw [List.mem_cons, not_or]
      refine ⟨fun heq => hnodup.1 (heq ▸ List.mem_map_of_mem hother), ?_⟩
      exact hseen other (List.mem_cons_of_mem _ hother)

theorem distinctOn_of_nodup {rows : List ρ} (h : (rows.map key).Nodup) :
    distinctOn key rows = rows :=
  distinctAfter_of_nodup h fun _ _ => List.not_mem_nil

theorem distinctAfter_of_forall_mem {seen : List κ} {rows : List ρ}
    (h : ∀ row ∈ rows, key row ∈ seen) : distinctAfter key seen rows = [] := by
  induction rows with
  | nil => rfl
  | cons row rows ih =>
      rw [distinctAfter, if_pos (h row List.mem_cons_self)]
      exact ih fun other hother => h other (List.mem_cons_of_mem _ hother)

/-- Rows that share one key leave one row. -/
theorem length_distinctOn_of_forall_eq {rows : List ρ} {k : κ} (hne : rows ≠ [])
    (h : ∀ row ∈ rows, key row = k) : (distinctOn key rows).length = 1 := by
  obtain ⟨row, rest, rfl⟩ := List.exists_cons_of_ne_nil hne
  rw [distinctOn, distinctAfter, if_neg List.not_mem_nil, distinctAfter_of_forall_mem]
  · rfl
  · intro other hother
    rw [h other (List.mem_cons_of_mem _ hother), h row List.mem_cons_self]
    exact List.mem_singleton_self k

end Distinct

end Library.Rows

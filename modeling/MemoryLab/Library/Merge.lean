import MemoryLab.Library.Rows

/-! # The first rows of two tables in order

Ordering two tables that are in order merges them, and the first rows of a merge come from the
first rows of each. -/

namespace Library.Rows

variable {ρ κ : Type*} [LinearOrder κ] {key : ρ → κ}

/-- The rows of two tables in the order of a key, those of the first table before equal ones. -/
def mergeOn (key : ρ → κ) (rows others : List ρ) : List ρ :=
  rows.merge others fun a b => decide (key a ≤ key b)

@[simp] theorem nil_mergeOn (others : List ρ) : mergeOn key [] others = others := by
  simp [mergeOn]

@[simp] theorem mergeOn_nil (rows : List ρ) : mergeOn key rows [] = rows := by
  simp [mergeOn]

theorem mergeOn_cons_of_le {row other : ρ} (h : key row ≤ key other) (rows others : List ρ) :
    mergeOn key (row :: rows) (other :: others) =
      row :: mergeOn key rows (other :: others) := by
  simp [mergeOn, h]

theorem mergeOn_cons_of_lt {row other : ρ} (h : key other < key row) (rows others : List ρ) :
    mergeOn key (row :: rows) (other :: others) =
      other :: mergeOn key (row :: rows) others := by
  simp [mergeOn, h.not_ge]

/-- A row that comes before a table is inserted into its merge before the merge. -/
theorem orderedInsert_mergeOn {row : ρ} {rows : List ρ} (hrow : ∀ r ∈ rows, key row ≤ key r)
    (others : List ρ) (hothers : others.Pairwise fun a b => key a ≤ key b) :
    (mergeOn key rows others).orderedInsert (fun a b => key a ≤ key b) row =
      mergeOn key (row :: rows) others := by
  induction others with
  | nil =>
      rw [mergeOn_nil, mergeOn_nil]
      exact orderedInsert_of_forall_le hrow
  | cons other others ih =>
      rw [List.pairwise_cons] at hothers
      by_cases hle : key row ≤ key other
      · rw [mergeOn_cons_of_le hle]
        apply orderedInsert_of_forall_le
        intro r hr
        rcases List.mem_merge.mp hr with hr | hr
        · exact hrow r hr
        · rcases List.mem_cons.mp hr with rfl | hr
          · exact hle
          · exact hle.trans (hothers.1 r hr)
      · have hlt := not_le.mp hle
        have hfirst : mergeOn key rows (other :: others) = other :: mergeOn key rows others := by
          cases rows with
          | nil => simp
          | cons r rows => exact mergeOn_cons_of_lt (hlt.trans_le (hrow r List.mem_cons_self)) _ _
        have hinsert := List.orderedInsert_of_not_le (fun a b => key a ≤ key b)
          (mergeOn key rows others) hle
        rw [hfirst, hinsert, ih hothers.2, mergeOn_cons_of_lt hlt]

theorem sortOn_append {rows others : List ρ} (hrows : rows.Pairwise fun a b => key a ≤ key b)
    (hothers : others.Pairwise fun a b => key a ≤ key b) :
    sortOn key (rows ++ others) = mergeOn key rows others := by
  induction rows with
  | nil =>
      rw [List.nil_append, nil_mergeOn]
      exact hothers.insertionSort_eq
  | cons row rows ih =>
      rw [List.pairwise_cons] at hrows
      rw [List.cons_append, sortOn, List.insertionSort_cons, ← sortOn, ih hrows.2]
      exact orderedInsert_mergeOn hrows.1 others hothers

theorem take_cons_take (n : ℕ) (row : ρ) (rows : List ρ) :
    (row :: rows.take n).take n = (row :: rows).take n := by
  cases n with
  | zero => rfl
  | succ n => rw [List.take_succ_cons, List.take_succ_cons, List.take_take, min_eq_left n.le_succ]

/-- The first rows of a merge are those of the merged first rows. -/
theorem take_mergeOn (n : ℕ) (rows others : List ρ) :
    (mergeOn key (rows.take n) (others.take n)).take n = (mergeOn key rows others).take n := by
  induction n generalizing rows others with
  | zero => simp
  | succ n ih =>
      cases rows with
      | nil => simp
      | cons row rows =>
          cases others with
          | nil => simp
          | cons other others =>
              rw [List.take_succ_cons, List.take_succ_cons]
              by_cases hle : key row ≤ key other
              · have hfirst := ih (rows.take n) (other :: others.take n)
                rw [List.take_take, min_self, take_cons_take, ih] at hfirst
                rw [mergeOn_cons_of_le hle, mergeOn_cons_of_le hle, List.take_succ_cons,
                  List.take_succ_cons, hfirst]
              · have hlt := not_le.mp hle
                have hfirst := ih (row :: rows.take n) (others.take n)
                rw [List.take_take, min_self, take_cons_take, ih] at hfirst
                rw [mergeOn_cons_of_lt hlt, mergeOn_cons_of_lt hlt, List.take_succ_cons,
                  List.take_succ_cons, hfirst]

/-- To have the first rows of two tables in order, the first rows of each are enough. -/
theorem take_sortOn_append {rows others : List ρ}
    (hrows : rows.Pairwise fun a b => key a ≤ key b)
    (hothers : others.Pairwise fun a b => key a ≤ key b) (n : ℕ) :
    (sortOn key (rows.take n ++ others.take n)).take n = (sortOn key (rows ++ others)).take n := by
  have htake {rs : List ρ} (h : rs.Pairwise fun a b => key a ≤ key b) :
      (rs.take n).Pairwise fun a b => key a ≤ key b :=
    h.sublist (List.take_sublist n rs)
  rw [sortOn_append (htake hrows) (htake hothers), sortOn_append hrows hothers, take_mergeOn]

/-! ## The first rows -/

/-- The first rows of a table in the order of a key. -/
def firstOn (key : ρ → κ) (n : ℕ) (rows : List ρ) : List ρ := (sortOn key rows).take n

@[simp] theorem firstOn_nil (n : ℕ) : firstOn key n [] = [] := List.take_nil

theorem length_firstOn (n : ℕ) (rows : List ρ) :
    (firstOn key n rows).length = min n rows.length := by
  rw [firstOn, List.length_take, (perm_sortOn rows).length_eq]

theorem pairwise_firstOn (n : ℕ) (rows : List ρ) :
    (firstOn key n rows).Pairwise fun a b => key a ≤ key b :=
  (pairwise_sortOn rows).sublist (List.take_sublist n _)

variable (key) in
/-- No other row comes before one of the first. -/
theorem exists_firstOn (n : ℕ) (rows : List ρ) : ∃ rest,
    rows.Perm (firstOn key n rows ++ rest) ∧
      ∀ first ∈ firstOn key n rows, ∀ other ∈ rest, key first ≤ key other := by
  have hsplit : firstOn key n rows ++ (sortOn key rows).drop n = sortOn key rows :=
    List.take_append_drop n _
  have hsorted : (sortOn key rows).Pairwise fun a b => key a ≤ key b := pairwise_sortOn rows
  refine ⟨(sortOn key rows).drop n, ?_, ?_⟩
  · rw [hsplit]
    exact (perm_sortOn rows).symm
  · rw [← hsplit, List.pairwise_append] at hsorted
    exact hsorted.2.2

theorem firstOn_eq_of_perm {rows other : List ρ} (hperm : rows.Perm other)
    (hnodup : (rows.map key).Nodup) (n : ℕ) : firstOn key n rows = firstOn key n other := by
  rw [firstOn, firstOn, sortOn_eq_of_perm hperm hnodup]

theorem firstOn_firstOn (n : ℕ) (rows : List ρ) :
    firstOn key n (firstOn key n rows) = firstOn key n rows := by
  have hsorted : sortOn key (firstOn key n rows) = firstOn key n rows :=
    List.Pairwise.insertionSort_eq (pairwise_firstOn n rows)
  rw [firstOn, hsorted, firstOn, List.take_take, min_self]

theorem sortOn_sortOn_append (rows others : List ρ) :
    sortOn key (sortOn key rows ++ sortOn key others) = sortOn key (rows ++ others) := by
  have hties (k : κ) (rs : List ρ) :
      sortOn key (rs.filter fun row => decide (key row = k)) =
        rs.filter fun row => decide (key row = k) :=
    sortOn_of_forall_eq fun row hrow => by simpa using (List.mem_filter.mp hrow).2
  apply eq_sortOn (pairwise_sortOn _)
  intro k
  rw [filter_sortOn, hties, List.filter_append, filter_sortOn, filter_sortOn, hties, hties,
    ← List.filter_append]

/-- The first rows of two tables are among the first rows of each. -/
theorem firstOn_append (n : ℕ) (rows others : List ρ) :
    firstOn key n (firstOn key n rows ++ firstOn key n others) =
      firstOn key n (rows ++ others) := by
  have hrows : (sortOn key rows).Pairwise fun a b => key a ≤ key b := pairwise_sortOn rows
  have hothers : (sortOn key others).Pairwise fun a b => key a ≤ key b := pairwise_sortOn others
  have htake := take_sortOn_append hrows hothers n
  rw [sortOn_sortOn_append] at htake
  exact htake

variable (key) in
/-- The same over any number of tables. -/
theorem firstOn_flatten (n : ℕ) (tables : List (List ρ)) :
    firstOn key n (tables.map (firstOn key n)).flatten = firstOn key n tables.flatten := by
  induction tables with
  | nil => rfl
  | cons rows tables ih =>
      rw [List.map_cons, List.flatten_cons, List.flatten_cons, ← firstOn_append, firstOn_firstOn,
        ih, firstOn_append]

end Library.Rows

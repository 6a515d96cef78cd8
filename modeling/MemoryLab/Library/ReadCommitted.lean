import Mathlib.Data.List.Basic
import Mathlib.Tactic

/-! # A table under READ COMMITTED

A cell holds the committed version of a row and at most one version that a transaction has
written and not yet committed; whoever wrote it holds the row's lock. A statement sees the
committed versions and what its own transaction wrote. -/

namespace Library.ReadCommitted

variable {ι ρ : Type*}

structure Cell (ι ρ : Type*) where
  committed : Option ρ := none
  pending : Option (ι × ρ) := none
deriving DecidableEq

abbrev Table (ι ρ : Type*) := List (Cell ι ρ)

variable [DecidableEq ι]

namespace Cell

/-- What a transaction has written to the row. -/
def own (i : ι) (cell : Cell ι ρ) : Option ρ :=
  match cell.pending with
  | some (owner, row) => if owner = i then some row else none
  | none => none

def seenBy (i : ι) (cell : Cell ι ρ) : Option ρ := (cell.own i).or cell.committed

def lockedFor (i : ι) (cell : Cell ι ρ) : Bool :=
  match cell.pending with
  | some (owner, _) => owner != i
  | none => false

/-- The assignment of an `UPDATE`, which checks its condition on the newest version. -/
def write (i : ι) (p : ρ → Bool) (f : ρ → ρ) (cell : Cell ι ρ) : Cell ι ρ :=
  match cell.seenBy i with
  | some row => if p row then { cell with pending := some (i, f row) } else cell
  | none => cell

def commit (i : ι) (cell : Cell ι ρ) : Cell ι ρ :=
  match cell.own i with
  | some row => ⟨some row, none⟩
  | none => cell

def abort (i : ι) (cell : Cell ι ρ) : Cell ι ρ :=
  match cell.own i with
  | some _ => { cell with pending := none }
  | none => cell

end Cell

/-! ## Statements -/

def ofRows (rows : List ρ) : Table ι ρ := rows.map fun row => ⟨some row, none⟩

def committed (table : Table ι ρ) : List ρ := table.filterMap (·.committed)

def seenBy (i : ι) (table : Table ι ρ) : List ρ := table.filterMap (·.seenBy i)

def written (i : ι) (table : Table ι ρ) : List ρ := table.filterMap (·.own i)

/-- Every version of every row, committed or not. -/
def versions (table : Table ι ρ) : List ρ :=
  table.flatMap fun cell => cell.committed.toList ++ (cell.pending.map (·.2)).toList

def committedAt (table : Table ι ρ) (n : ℕ) : Option ρ := table[n]?.bind (·.committed)

def ownAt (i : ι) (table : Table ι ρ) (n : ℕ) : Option ρ := table[n]?.bind (·.own i)

def seenAt (i : ι) (table : Table ι ρ) (n : ℕ) : Option ρ := table[n]?.bind (·.seenBy i)

def lockedAt (i : ι) (table : Table ι ρ) (n : ℕ) : Bool := table[n]?.any (·.lockedFor i)

def insert (i : ι) (row : ρ) (table : Table ι ρ) : Table ι ρ := table ++ [⟨none, some (i, row)⟩]

def writeAt (i : ι) (p : ρ → Bool) (f : ρ → ρ) (table : Table ι ρ) (n : ℕ) : Table ι ρ :=
  table.modify n (·.write i p f)

def commit (i : ι) (table : Table ι ρ) : Table ι ρ := table.map (·.commit i)

def abort (i : ι) (table : Table ι ρ) : Table ι ρ := table.map (·.abort i)

/-- The rows that an `UPDATE` finds when it starts. -/
def targets (i : ι) (p : ρ → Bool) (table : Table ι ρ) : List ℕ :=
  (List.range table.length).filter fun n => (seenAt i table n).any p

/-- One step of an `UPDATE`: it finds its rows, then writes them one by one, and waits at a
row that another transaction has locked. -/
def advance (i : ι) (p : ρ → Bool) (f : ρ → ρ) (table : Table ι ρ) :
    Option (List ℕ) → Table ι ρ × Option (List ℕ)
  | none => (table, some (targets i p table))
  | some [] => (table, some [])
  | some (n :: rest) =>
      if lockedAt i table n then (table, some (n :: rest))
      else (writeAt i p f table n, some rest)

/-! ## Cells -/

section

variable {i j : ι} {p : ρ → Bool} {f : ρ → ρ} {cell : Cell ι ρ}

theorem Cell.own_eq_some {row : ρ} : cell.own i = some row ↔ cell.pending = some (i, row) := by
  unfold Cell.own
  rcases cell.pending with _ | ⟨owner, version⟩
  · simp
  · by_cases h : owner = i <;> simp [h]

theorem Cell.own_of_ne (hne : j ≠ i) {row : ρ} (h : cell.own i = some row) :
    cell.own j = none := by
  simp [Cell.own, Cell.own_eq_some.mp h, hne.symm]

@[simp] theorem Cell.committed_write : (cell.write i p f).committed = cell.committed := by
  unfold Cell.write
  split
  · split <;> rfl
  · rfl

theorem Cell.own_write : (cell.write i p f).own i =
    if (cell.seenBy i).any p then (cell.seenBy i).map f else cell.own i := by
  unfold Cell.write
  cases hseen : cell.seenBy i with
  | none => simp
  | some row => by_cases hp : p row <;> simp [hp, Cell.own]

theorem Cell.own_write_of_ne (hne : j ≠ i) (hfree : cell.lockedFor i = false) :
    (cell.write i p f).own j = cell.own j := by
  have hnone : cell.own j = none := by
    unfold Cell.lockedFor at hfree
    unfold Cell.own
    rcases hpending : cell.pending with _ | ⟨owner, row⟩
    · rfl
    · rw [hpending] at hfree
      have howner : owner = i := by simpa using hfree
      simp [howner, hne.symm]
  unfold Cell.write
  split
  · split
    · rw [hnone]
      simp [Cell.own, hne.symm]
    · rfl
  · rfl

theorem Cell.committed_commit : (cell.commit i).committed = (cell.own i).or cell.committed := by
  unfold Cell.commit
  cases cell.own i <;> rfl

theorem Cell.own_commit : (cell.commit i).own i = none := by
  unfold Cell.commit
  cases h : cell.own i with
  | none => exact h
  | some row => rfl

theorem Cell.own_commit_of_ne (hne : j ≠ i) : (cell.commit i).own j = cell.own j := by
  unfold Cell.commit
  cases h : cell.own i with
  | none => rfl
  | some row => exact (Cell.own_of_ne hne h).symm

theorem Cell.committed_abort : (cell.abort i).committed = cell.committed := by
  unfold Cell.abort
  cases cell.own i <;> rfl

theorem Cell.own_abort : (cell.abort i).own i = none := by
  unfold Cell.abort
  cases h : cell.own i with
  | none => exact h
  | some row => rfl

theorem Cell.own_abort_of_ne (hne : j ≠ i) : (cell.abort i).own j = cell.own j := by
  unfold Cell.abort
  cases h : cell.own i with
  | none => rfl
  | some row => exact (Cell.own_of_ne hne h).symm

end

/-! ## Positions -/

variable {i j : ι} {p : ρ → Bool} {f : ρ → ρ} {table : Table ι ρ}

theorem seenAt_eq (i : ι) (table : Table ι ρ) (n : ℕ) :
    seenAt i table n = (ownAt i table n).or (committedAt table n) := by
  unfold seenAt ownAt committedAt
  cases table[n]? with
  | none => rfl
  | some cell => rfl

omit [DecidableEq ι] in
theorem mem_committed {row : ρ} : row ∈ committed table ↔ ∃ n, committedAt table n = some row := by
  simp only [committed, List.mem_filterMap, committedAt]
  constructor
  · rintro ⟨cell, hmem, hrow⟩
    obtain ⟨n, hn⟩ := List.mem_iff_getElem?.mp hmem
    exact ⟨n, by simp [hn, hrow]⟩
  · rintro ⟨n, hn⟩
    obtain ⟨cell, hcell, hrow⟩ := Option.bind_eq_some_iff.mp hn
    exact ⟨cell, List.mem_of_getElem? hcell, hrow⟩

theorem mem_written {row : ρ} : row ∈ written i table ↔ ∃ n, ownAt i table n = some row := by
  simp only [written, List.mem_filterMap, ownAt]
  constructor
  · rintro ⟨cell, hmem, hrow⟩
    obtain ⟨n, hn⟩ := List.mem_iff_getElem?.mp hmem
    exact ⟨n, by simp [hn, hrow]⟩
  · rintro ⟨n, hn⟩
    obtain ⟨cell, hcell, hrow⟩ := Option.bind_eq_some_iff.mp hn
    exact ⟨cell, List.mem_of_getElem? hcell, hrow⟩

theorem mem_targets {n : ℕ} :
    n ∈ targets i p table ↔ ∃ row, seenAt i table n = some row ∧ p row := by
  simp only [targets, List.mem_filter, List.mem_range, Option.any_eq_true]
  refine ⟨fun h => h.2, fun ⟨row, hrow, hp⟩ => ⟨?_, row, hrow, hp⟩⟩
  obtain ⟨cell, hcell, -⟩ := Option.bind_eq_some_iff.mp hrow
  exact (List.getElem?_eq_some_iff.mp hcell).1

/-- A transaction that has written nothing sees the committed rows. -/
theorem seenBy_of_ownAt_eq_none (h : ∀ n, ownAt i table n = none) :
    seenBy i table = committed table := by
  refine List.filterMap_congr fun cell hcell => ?_
  obtain ⟨n, hn⟩ := List.mem_iff_getElem?.mp hcell
  have hown := h n
  simp only [ownAt, hn, Option.bind_some] at hown
  simp [Cell.seenBy, hown]

@[simp] theorem committedAt_writeAt (n : ℕ) :
    committedAt (writeAt i p f table n) = committedAt table := by
  funext m
  simp only [committedAt, writeAt, List.getElem?_modify]
  cases table[m]? with
  | none => rfl
  | some cell => by_cases h : n = m <;> simp [h]

theorem ownAt_writeAt (n m : ℕ) : ownAt i (writeAt i p f table n) m =
    if n = m ∧ (seenAt i table m).any p then (seenAt i table m).map f else ownAt i table m := by
  unfold ownAt seenAt writeAt
  rw [List.getElem?_modify]
  by_cases h : n = m
  · rcases table[m]? with _ | cell
    · simp
    · simp [h, Cell.own_write]
  · simp [h]

theorem ownAt_writeAt_of_ne (hne : j ≠ i) {n : ℕ} (hfree : lockedAt i table n = false) :
    ownAt j (writeAt i p f table n) = ownAt j table := by
  funext m
  simp only [ownAt, writeAt, List.getElem?_modify]
  cases hcell : table[m]? with
  | none => rfl
  | some cell =>
      by_cases h : n = m
      · subst h
        have hlock : cell.lockedFor i = false := by simpa [lockedAt, hcell] using hfree
        simp [Cell.own_write_of_ne hne hlock]
      · simp [h]

omit [DecidableEq ι] in
theorem committedAt_insert (i : ι) (row : ρ) (table : Table ι ρ) :
    committedAt (insert i row table) = committedAt table := by
  funext m
  simp only [committedAt, insert, List.getElem?_append]
  split
  · rfl
  · rename_i h
    rw [List.getElem?_eq_none (Nat.le_of_not_lt h)]
    cases hm : m - table.length <;> simp

theorem ownAt_insert (i : ι) (row : ρ) (table : Table ι ρ) (m : ℕ) :
    ownAt i (insert i row table) m = if m = table.length then some row else ownAt i table m := by
  simp only [ownAt, insert, List.getElem?_append]
  rcases lt_trichotomy m table.length with h | rfl | h
  · simp [h, h.ne]
  · simp [Cell.own]
  · obtain ⟨k, hk⟩ : ∃ k, m - table.length = k + 1 := ⟨m - table.length - 1, by omega⟩
    simp [h.not_gt, h.ne', hk]

theorem ownAt_insert_of_ne (hne : j ≠ i) (row : ρ) (table : Table ι ρ) :
    ownAt j (insert i row table) = ownAt j table := by
  funext m
  simp only [ownAt, insert, List.getElem?_append]
  split
  · rfl
  · rename_i h
    rw [List.getElem?_eq_none (Nat.le_of_not_lt h)]
    cases hm : m - table.length <;> simp [Cell.own, hne.symm]

omit [DecidableEq ι] in
theorem committedAt_length (table : Table ι ρ) : committedAt table table.length = none := by
  simp [committedAt]

theorem committedAt_commit (i : ι) (table : Table ι ρ) (n : ℕ) :
    committedAt (commit i table) n = (ownAt i table n).or (committedAt table n) := by
  simp only [committedAt, ownAt, commit, List.getElem?_map]
  cases table[n]? with
  | none => rfl
  | some cell => simp [Cell.committed_commit]

@[simp] theorem ownAt_commit (i : ι) (table : Table ι ρ) (n : ℕ) :
    ownAt i (commit i table) n = none := by
  simp only [ownAt, commit, List.getElem?_map]
  cases table[n]? with
  | none => rfl
  | some cell => simp [Cell.own_commit]

theorem ownAt_commit_of_ne (hne : j ≠ i) (table : Table ι ρ) :
    ownAt j (commit i table) = ownAt j table := by
  funext n
  simp only [ownAt, commit, List.getElem?_map]
  cases table[n]? with
  | none => rfl
  | some cell => simp [Cell.own_commit_of_ne hne]

@[simp] theorem committedAt_abort (i : ι) (table : Table ι ρ) :
    committedAt (abort i table) = committedAt table := by
  funext n
  simp only [committedAt, abort, List.getElem?_map]
  cases table[n]? with
  | none => rfl
  | some cell => simp [Cell.committed_abort]

@[simp] theorem ownAt_abort (i : ι) (table : Table ι ρ) (n : ℕ) :
    ownAt i (abort i table) n = none := by
  simp only [ownAt, abort, List.getElem?_map]
  cases table[n]? with
  | none => rfl
  | some cell => simp [Cell.own_abort]

theorem ownAt_abort_of_ne (hne : j ≠ i) (table : Table ι ρ) :
    ownAt j (abort i table) = ownAt j table := by
  funext n
  simp only [ownAt, abort, List.getElem?_map]
  cases table[n]? with
  | none => rfl
  | some cell => simp [Cell.own_abort_of_ne hne]

omit [DecidableEq ι] in
@[simp] theorem committedAt_ofRows (rows : List ρ) (n : ℕ) :
    committedAt (ofRows (ι := ι) rows) n = rows[n]? := by
  simp only [committedAt, ofRows, List.getElem?_map]
  cases rows[n]? <;> rfl

@[simp] theorem ownAt_ofRows (i : ι) (rows : List ρ) (n : ℕ) : ownAt i (ofRows rows) n = none := by
  simp only [ownAt, ofRows, List.getElem?_map]
  cases rows[n]? <;> rfl

omit [DecidableEq ι] in
@[simp] theorem committed_ofRows (rows : List ρ) : committed (ofRows (ι := ι) rows) = rows := by
  simp [committed, ofRows, List.filterMap_map]

theorem ownAt_of_ne (hne : j ≠ i) {n : ℕ} {row : ρ} (h : ownAt i table n = some row) :
    ownAt j table n = none := by
  obtain ⟨cell, hcell, hown⟩ := Option.bind_eq_some_iff.mp h
  simp [ownAt, hcell, Cell.own_of_ne hne hown]

/-! ## Committed rows -/

omit [DecidableEq ι] in
theorem committed_congr {table other : Table ι ρ} (hlength : table.length = other.length)
    (h : committedAt table = committedAt other) : committed table = committed other := by
  have hmap : table.map (·.committed) = other.map (·.committed) := by
    refine List.ext_getElem (by simpa using hlength) fun n hn hn' => ?_
    simp only [List.length_map] at hn hn'
    simpa [committedAt, hn, hn'] using congrFun h n
  have hid : ∀ rows : Table ι ρ, committed rows = (rows.map (·.committed)).filterMap id :=
    fun rows => by simp [committed, List.filterMap_map]
  rw [hid, hmap, ← hid]

@[simp] theorem committed_writeAt (n : ℕ) :
    committed (writeAt i p f table n) = committed table :=
  committed_congr (List.length_modify ..) (committedAt_writeAt n)

omit [DecidableEq ι] in
@[simp] theorem committed_insert (i : ι) (row : ρ) (table : Table ι ρ) :
    committed (insert i row table) = committed table := by
  simp [committed, insert]

@[simp] theorem committed_abort (i : ι) (table : Table ι ρ) :
    committed (abort i table) = committed table :=
  committed_congr (List.length_map ..) (committedAt_abort i table)

theorem committed_commit_of_ownAt_eq_none (h : ∀ n, ownAt i table n = none) :
    committed (commit i table) = committed table := by
  refine committed_congr (List.length_map ..) (funext fun n => ?_)
  rw [committedAt_commit, h, Option.none_or]

omit [DecidableEq ι] in
theorem committed_cons (cell : Cell ι ρ) (table : Table ι ρ) :
    committed (cell :: table) = cell.committed.toList ++ committed table := by
  cases h : cell.committed <;> simp [committed, h]

theorem length_toList_commit (i : ι) (cell : Cell ι ρ) :
    cell.committed.toList.length ≤ (cell.commit i).committed.toList.length := by
  rw [Cell.committed_commit]
  cases cell.own i <;> cases cell.committed <;> simp

theorem length_committed_le_commit (i : ι) (table : Table ι ρ) :
    (committed table).length ≤ (committed (commit i table)).length := by
  induction table with
  | nil => exact le_rfl
  | cons cell table ih =>
      rw [commit, List.map_cons, committed_cons, committed_cons, List.length_append,
        List.length_append]
      exact Nat.add_le_add (length_toList_commit i cell) ih

/-- Committing an inserted row lengthens the table. -/
theorem length_committed_lt_commit {n : ℕ} {row : ρ} (hown : ownAt i table n = some row)
    (hnew : committedAt table n = none) :
    (committed table).length < (committed (commit i table)).length := by
  induction table generalizing n with
  | nil => simp [ownAt] at hown
  | cons cell table ih =>
      rw [commit, List.map_cons, committed_cons, committed_cons, List.length_append,
        List.length_append]
      cases n with
      | zero =>
          simp only [ownAt, committedAt, List.getElem?_cons_zero, Option.bind_some] at hown hnew
          have hcell : (cell.commit i).committed = some row := by
            rw [Cell.committed_commit, hown, Option.some_or]
          have hle := length_committed_le_commit i table
          rw [commit] at hle
          simp only [hcell, hnew, Option.toList_some, Option.toList_none, List.length_singleton,
            List.length_nil]
          omega
      | succ n =>
          have htail := ih (n := n) (by simpa [ownAt] using hown)
            (by simpa [committedAt] using hnew)
          exact Nat.add_lt_add_of_le_of_lt (length_toList_commit i cell) htail

omit [DecidableEq ι] in
/-- Rows that pass a test at one position only make at most one row. -/
theorem length_filter_committed_le_one {q : ρ → Bool}
    (h : ∀ m n first second, committedAt table m = some first → committedAt table n = some second →
      q first → q second → m = n) :
    ((committed table).filter q).length ≤ 1 := by
  induction table with
  | nil => simp [committed]
  | cons cell table ih =>
      have htail : ((committed table).filter q).length ≤ 1 := by
        refine ih fun m n first second hfirst hsecond hq hq' => ?_
        have := h (m + 1) (n + 1) first second (by simpa [committedAt] using hfirst)
          (by simpa [committedAt] using hsecond) hq hq'
        omega
      rcases hcommitted : cell.committed with _ | row
      · simpa [committed, hcommitted] using htail
      · by_cases hq : q row
        · have hnone : (committed table).filter q = [] := by
            rw [List.filter_eq_nil_iff]
            intro other hother hq'
            obtain ⟨n, hn⟩ := mem_committed.mp hother
            have := h 0 (n + 1) row other (by simp [committedAt, hcommitted])
              (by simpa [committedAt] using hn) hq hq'
            omega
          simp only [committed] at hnone
          simp [committed, hcommitted, hq, hnone]
        · simpa [committed, hcommitted, hq] using htail

/-! ## What one transaction writes -/

/-- Another state of the table that differs in what one transaction has written. -/
structure WrittenBy (i : ι) (table other : Table ι ρ) : Prop where
  committedAt_eq : committedAt other = committedAt table
  committed_eq : committed other = committed table
  ownAt_eq : ∀ j, j ≠ i → ownAt j other = ownAt j table

theorem WrittenBy.refl (i : ι) (table : Table ι ρ) : WrittenBy i table table :=
  ⟨rfl, rfl, fun _ _ => rfl⟩

theorem writtenBy_insert (i : ι) (row : ρ) (table : Table ι ρ) :
    WrittenBy i table (insert i row table) :=
  ⟨committedAt_insert i row table, committed_insert i row table,
    fun _ hne => ownAt_insert_of_ne hne row table⟩

theorem writtenBy_abort (i : ι) (table : Table ι ρ) : WrittenBy i table (abort i table) :=
  ⟨committedAt_abort i table, committed_abort i table, fun _ hne => ownAt_abort_of_ne hne table⟩

theorem writtenBy_commit_of_ownAt_eq_none (h : ∀ n, ownAt i table n = none) :
    WrittenBy i table (commit i table) := by
  refine ⟨funext fun n => ?_, committed_commit_of_ownAt_eq_none h, fun j hne =>
    ownAt_commit_of_ne hne table⟩
  rw [committedAt_commit, h n, Option.none_or]

theorem writtenBy_advance (i : ι) (p : ρ → Bool) (f : ρ → ρ) (table : Table ι ρ)
    (remaining : Option (List ℕ)) : WrittenBy i table (advance i p f table remaining).1 := by
  match remaining with
  | none => exact .refl i table
  | some [] => exact .refl i table
  | some (n :: rest) =>
      cases hlock : lockedAt i table n with
      | true => simpa [advance, hlock] using WrittenBy.refl i table
      | false =>
          simp only [advance, hlock, Bool.false_eq_true, if_false]
          exact ⟨committedAt_writeAt n, committed_writeAt n,
            fun j hne => ownAt_writeAt_of_ne hne hlock⟩

/-- A version that an `UPDATE` leaves was there before or is the assignment of a row it saw. -/
theorem ownAt_advance {remaining : Option (List ℕ)} {n : ℕ} {row : ρ}
    (h : ownAt i (advance i p f table remaining).1 n = some row) :
    ownAt i table n = some row ∨ ∃ old, seenAt i table n = some old ∧ p old ∧ row = f old := by
  match remaining with
  | none => exact .inl h
  | some [] => exact .inl h
  | some (m :: rest) =>
      cases hlock : lockedAt i table m with
      | true => exact .inl (by simpa [advance, hlock] using h)
      | false =>
          simp only [advance, hlock, Bool.false_eq_true, if_false, ownAt_writeAt] at h
          split at h
          · rename_i hwrite
            obtain ⟨old, hold, hp⟩ := (Option.any_eq_true ..).mp hwrite.2
            rw [hold] at h
            exact .inr ⟨old, hold, hp, (Option.some.inj h).symm⟩
          · exact .inl h

theorem ownAt_advance_mono {remaining : Option (List ℕ)} {n : ℕ}
    (h : ∃ row, ownAt i table n = some row) :
    ∃ row, ownAt i (advance i p f table remaining).1 n = some row := by
  match remaining with
  | none => exact h
  | some [] => exact h
  | some (m :: rest) =>
      cases hlock : lockedAt i table m with
      | true => simpa [advance, hlock] using h
      | false =>
          simp only [advance, hlock, Bool.false_eq_true, if_false, ownAt_writeAt]
          split
          · rename_i hwrite
            obtain ⟨old, hold, hp⟩ := (Option.any_eq_true ..).mp hwrite.2
            exact ⟨f old, by rw [hold]; rfl⟩
          · exact h

/-- Every committed row that a started `UPDATE` is about has been written, or is still to be. -/
def Covered (i : ι) (p : ρ → Bool) (table : Table ι ρ) (remaining : Option (List ℕ)) : Prop :=
  ∀ rest, remaining = some rest → ∀ n row, committedAt table n = some row → p row →
    n ∈ rest ∨ ∃ version, ownAt i table n = some version

theorem covered_none (i : ι) (p : ρ → Bool) (table : Table ι ρ) : Covered i p table none :=
  fun _ h => nomatch h

theorem Covered.congr {other : Table ι ρ} {remaining : Option (List ℕ)}
    (h : Covered i p table remaining) (hown : ownAt i other = ownAt i table)
    (hcommitted : ∀ n row, committedAt other n = some row → p row →
      ∃ old, committedAt table n = some old ∧ p old) : Covered i p other remaining := by
  intro rest hrest n row hrow hp
  obtain ⟨old, hold, hp'⟩ := hcommitted n row hrow hp
  rw [hown]
  exact h rest hrest n old hold hp'

/-- A committed row is seen, unless the transaction has its own version of it. -/
theorem seenAt_of_committedAt {n : ℕ} {row : ρ} (h : committedAt table n = some row) :
    (∃ version, ownAt i table n = some version) ∨ seenAt i table n = some row := by
  rw [seenAt_eq]
  cases hown : ownAt i table n with
  | none => exact .inr h
  | some version => exact .inl ⟨version, rfl⟩

theorem Covered.advance {remaining : Option (List ℕ)} (h : Covered i p table remaining) :
    Covered i p (advance i p f table remaining).1 (advance i p f table remaining).2 := by
  intro rest hrest n row hrow hp
  rw [(writtenBy_advance i p f table remaining).committedAt_eq] at hrow
  rcases seenAt_of_committedAt (i := i) hrow with hown | hseen
  · exact .inr (ownAt_advance_mono hown)
  match remaining with
  | none =>
      obtain rfl := Option.some.inj hrest
      exact .inl (mem_targets.mpr ⟨row, hseen, hp⟩)
  | some [] => exact h rest hrest n row hrow hp
  | some (m :: tail) =>
      cases hlock : lockedAt i table m with
      | true =>
          simp only [ReadCommitted.advance, hlock, if_true] at hrest ⊢
          exact h rest hrest n row hrow hp
      | false =>
          simp only [ReadCommitted.advance, hlock, Bool.false_eq_true, if_false] at hrest ⊢
          obtain rfl := Option.some.inj hrest
          rw [ownAt_writeAt]
          by_cases hm : m = n
          · exact .inr ⟨f row, by simp [hm, hseen, hp]⟩
          · rcases h _ rfl n row hrow hp with hmem | hown
            · exact .inl ((List.mem_cons.mp hmem).resolve_left fun heq => hm heq.symm)
            · exact .inr (by simpa [hm] using hown)

/-- A row that is inserted after an `UPDATE` leaves it complete. -/
theorem Covered.insert {remaining : Option (List ℕ)} (h : Covered i p table remaining)
    (row : ρ) : Covered i p (insert i row table) remaining := by
  intro rest hrest n old hold hp
  rw [committedAt_insert] at hold
  refine (h rest hrest n old hold hp).imp id fun ⟨version, hversion⟩ => ?_
  rw [ownAt_insert]
  split
  · exact ⟨row, rfl⟩
  · exact ⟨version, hversion⟩

/-- What an `UPDATE` that has written its rows, or part of them, leaves in them. -/
structure Assigned (i : ι) (p : ρ → Bool) (q : ρ → Prop) (table : Table ι ρ)
    (remaining : Option (List ℕ)) : Prop where
  covered : Covered i p table remaining
  own : ∀ n row, ownAt i table n = some row → q row

theorem assigned_none {q : ρ → Prop} (h : ∀ n, ownAt i table n = none) :
    Assigned i p q table none :=
  ⟨covered_none i p table, fun n row hown => by simp [h n] at hown⟩

theorem Assigned.advance {q : ρ → Prop} {remaining : Option (List ℕ)}
    (h : Assigned i p q table remaining) (hq : ∀ row, p row → q (f row)) :
    Assigned i p q (advance i p f table remaining).1 (advance i p f table remaining).2 := by
  refine ⟨h.covered.advance, fun n row hown => ?_⟩
  rcases ownAt_advance hown with hold | ⟨old, -, hp, rfl⟩
  · exact h.own n row hold
  · exact hq old hp

/-- Once the `UPDATE` is committed, the rows it was about are as it left them. -/
theorem Assigned.commit {q : ρ → Prop} (h : Assigned i p q table (some [])) {row : ρ}
    (hmem : row ∈ committed (commit i table)) (hp : p row) : q row := by
  obtain ⟨n, hrow⟩ := mem_committed.mp hmem
  rw [committedAt_commit] at hrow
  cases hown : ownAt i table n with
  | some version =>
      rw [hown, Option.some_or] at hrow
      obtain rfl := Option.some.inj hrow
      exact h.own n version hown
  | none =>
      rw [hown, Option.none_or] at hrow
      rcases h.covered [] rfl n row hrow hp with hnil | ⟨version, hversion⟩
      · cases hnil
      · rw [hown] at hversion
        cases hversion

/-! ## Tables whose rows are only updated, or only inserted -/

section

variable {κ : Type*} {key : ρ → κ}

/-- How every version that is not committed relates to the committed row it would replace. -/
def Versioned (R : Option ρ → ρ → Prop) (table : Table ι ρ) : Prop :=
  ∀ i n version, ownAt i table n = some version → R (committedAt table n) version

/-- A version that is not committed replaces a committed row of its key. -/
abbrev UpdatesOnly (key : ρ → κ) (table : Table ι ρ) : Prop :=
  Versioned (fun replaced version => ∃ old, replaced = some old ∧ key old = key version) table

/-- A version that is not committed replaces no committed row. -/
abbrev InsertsOnly (table : Table ι ρ) : Prop := Versioned (fun replaced _ => replaced = none) table

theorem versioned_ofRows (R : Option ρ → ρ → Prop) (rows : List ρ) :
    Versioned R (ofRows (ι := ι) rows) := by
  intro i n version hown
  simp at hown

theorem Versioned.abort {R : Option ρ → ρ → Prop} (h : Versioned R table) (i : ι) :
    Versioned R (abort i table) := by
  intro j n version hown
  rw [committedAt_abort]
  by_cases hne : j = i
  · subst hne
    simp at hown
  · rw [ownAt_abort_of_ne hne] at hown
    exact h j n version hown

theorem Versioned.commit {R : Option ρ → ρ → Prop} (h : Versioned R table) (i : ι) :
    Versioned R (commit i table) := by
  intro j n version hown
  by_cases hne : j = i
  · subst hne
    simp at hown
  · rw [ownAt_commit_of_ne hne] at hown
    rw [committedAt_commit, ownAt_of_ne (Ne.symm hne) hown, Option.none_or]
    exact h j n version hown

theorem updatesOnly_advance (h : UpdatesOnly key table) (hkey : ∀ row, key (f row) = key row)
    (remaining : Option (List ℕ)) : UpdatesOnly key (advance i p f table remaining).1 := by
  intro j n version hown
  have hwritten := writtenBy_advance i p f table remaining
  rw [hwritten.committedAt_eq]
  by_cases hne : j = i
  · subst hne
    rcases ownAt_advance hown with hold | ⟨old, hseen, -, rfl⟩
    · exact h j n version hold
    · rw [hkey]
      rw [seenAt_eq] at hseen
      cases hversion : ownAt j table n with
      | none =>
          rw [hversion, Option.none_or] at hseen
          exact ⟨old, hseen, rfl⟩
      | some version =>
          rw [hversion, Option.some_or] at hseen
          obtain rfl := Option.some.inj hseen
          exact h j n version hversion
  · rw [hwritten.ownAt_eq j hne] at hown
    exact h j n version hown

theorem insertsOnly_insert (h : InsertsOnly table) (i : ι) (row : ρ) :
    InsertsOnly (insert i row table) := by
  intro j n version hown
  rw [committedAt_insert]
  by_cases hne : j = i
  · subst hne
    rw [ownAt_insert] at hown
    split at hown
    · rename_i hn
      rw [hn, committedAt_length]
    · exact h j n version hown
  · rw [ownAt_insert_of_ne hne] at hown
    exact h j n version hown

/-- How a table changes for the others while one transaction takes a step. -/
structure Evolves (key : ρ → κ) (i : ι) (table other : Table ι ρ) : Prop where
  own : ∀ j, j ≠ i → ownAt j other = ownAt j table
  key : ∀ n row, committedAt other n = some row →
    ∃ old, committedAt table n = some old ∧ key old = key row

theorem WrittenBy.evolves {other : Table ι ρ} (h : WrittenBy i table other) (key : ρ → κ) :
    Evolves key i table other :=
  ⟨h.ownAt_eq, fun _ row hrow => ⟨row, by rw [← h.committedAt_eq]; exact hrow, rfl⟩⟩

theorem evolves_commit (h : UpdatesOnly key table) (i : ι) :
    Evolves key i table (ReadCommitted.commit i table) := by
  refine ⟨fun j hne => ownAt_commit_of_ne hne table, fun n row hrow => ?_⟩
  rw [committedAt_commit] at hrow
  cases hown : ownAt i table n with
  | none =>
      rw [hown, Option.none_or] at hrow
      exact ⟨row, hrow, rfl⟩
  | some version =>
      rw [hown, Option.some_or] at hrow
      obtain rfl := Option.some.inj hrow
      exact h i n version hown

theorem Assigned.evolve {q : ρ → Prop} {other : Table ι ρ} {remaining : Option (List ℕ)}
    (h : Assigned j p q table remaining) (hevolve : Evolves key i table other) (hne : j ≠ i)
    (hp : ∀ row old, key old = key row → p row = p old) : Assigned j p q other remaining := by
  refine ⟨h.covered.congr (hevolve.own j hne) fun n row hrow hmatch => ?_, ?_⟩
  · obtain ⟨old, hold, hkey⟩ := hevolve.key n row hrow
    exact ⟨old, hold, by rw [← hp row old hkey]; exact hmatch⟩
  · rw [hevolve.own j hne]
    exact h.own

end

/-! ## What a commit adds -/

/-- A commit of inserted rows that fail a test. -/
theorem filter_committed_commit {q : ρ → Bool}
    (h : ∀ n version, ownAt i table n = some version →
      committedAt table n = none ∧ q version = false) :
    (committed (commit i table)).filter q = (committed table).filter q := by
  induction table with
  | nil => rfl
  | cons cell table ih =>
      have htail := ih fun n version hown => h (n + 1) version hown
      rw [commit, List.map_cons, committed_cons, committed_cons, List.filter_append,
        List.filter_append, ← commit, htail]
      congr 1
      rw [Cell.committed_commit]
      cases hown : cell.own i with
      | none => rfl
      | some version =>
          obtain ⟨hnone, hq⟩ := h 0 version hown
          have hcell : cell.committed = none := hnone
          simp [hcell, hq]

/-- A commit of inserted rows one of which passes the test. -/
theorem perm_filter_committed_commit {q : ρ → Bool} {n : ℕ} {row : ρ}
    (hown : ownAt i table n = some row) (hq : q row)
    (h : ∀ m version, ownAt i table m = some version →
      committedAt table m = none ∧ (q version → m = n)) :
    ((committed (commit i table)).filter q).Perm (row :: (committed table).filter q) := by
  induction table generalizing n with
  | nil => simp [ownAt] at hown
  | cons cell table ih =>
      rw [commit, List.map_cons, committed_cons, committed_cons, List.filter_append,
        List.filter_append, ← commit]
      cases n with
      | zero =>
          have hcell : cell.own i = some row := hown
          have hnone : cell.committed = none := (h 0 row hown).1
          have htail : (committed (commit i table)).filter q = (committed table).filter q := by
            refine filter_committed_commit fun m version hversion => ?_
            obtain ⟨hnew, hpos⟩ := h (m + 1) version hversion
            refine ⟨hnew, Bool.eq_false_iff.mpr fun hpass => ?_⟩
            exact absurd (hpos hpass) (Nat.succ_ne_zero m)
          rw [htail, Cell.committed_commit, hcell, hnone]
          simp [hq]
      | succ n =>
          have htail := ih (n := n) hown fun m version hversion => by
            obtain ⟨hnew, hpos⟩ := h (m + 1) version hversion
            exact ⟨hnew, fun hpass => Nat.succ.inj (hpos hpass)⟩
          have hhead : (cell.commit i).committed.toList.filter q =
              cell.committed.toList.filter q := by
            rw [Cell.committed_commit]
            cases hcell : cell.own i with
            | none => rfl
            | some version =>
                obtain ⟨hnone, hpos⟩ := h 0 version hcell
                have hcommitted : cell.committed = none := hnone
                have hfail : q version = false :=
                  Bool.eq_false_iff.mpr fun hpass => absurd (hpos hpass).symm (Nat.succ_ne_zero n)
                simp [hcommitted, hfail]
          rw [hhead]
          exact (htail.append_left _).trans List.perm_middle

/-! ## What a commit overwrites -/

/-- Every committed row that the transaction has a version of passes the test. -/
def overwrites (i : ι) (p : ρ → Bool) (table : Table ι ρ) : Bool :=
  table.all fun cell => (cell.own i).isNone || cell.committed.all p

theorem overwrites_spec (h : overwrites i p table = true) {n : ℕ} {version old : ρ}
    (hown : ownAt i table n = some version) (hold : committedAt table n = some old) :
    p old = true := by
  obtain ⟨cell, hcell, hversion⟩ := Option.bind_eq_some_iff.mp hown
  have hcommitted : cell.committed = some old := by simpa [committedAt, hcell] using hold
  have hall := List.all_eq_true.mp h cell (List.mem_of_getElem? hcell)
  simpa [hversion, hcommitted] using hall

end Library.ReadCommitted

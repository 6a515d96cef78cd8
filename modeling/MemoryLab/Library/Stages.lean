import Mathlib.Data.List.Basic
import Mathlib.Tactic

/-! # Searching in stages

A list of tests is tried in order, each on every row before the next one. A test can fail, and
then the search does. -/

namespace Library.Stages

variable {ρ : Type*}

/-- Whether some row passes, up to the first one that does. -/
def anyTest (test : ρ → Option Bool) : List ρ → Option Bool
  | [] => some false
  | row :: rows =>
    match test row with
    | none => none
    | some true => some true
    | some false => anyTest test rows

/-- The first row that passes. -/
def findTest (test : ρ → Option Bool) : List ρ → Option (Option ρ)
  | [] => some none
  | row :: rows =>
    match test row with
    | none => none
    | some true => some (some row)
    | some false => findTest test rows

/-- The first row of the first stage that has one. -/
def search (rows : List ρ) : List (ρ → Option Bool) → Option (Option ρ)
  | [] => some none
  | stage :: stages =>
    match findTest stage rows with
    | none => none
    | some none => search rows stages
    | some (some row) => some (some row)

/-- A test that does not fail on some rows. -/
def Decides (test : ρ → Option Bool) (p : ρ → Bool) (rows : List ρ) : Prop :=
  ∀ row ∈ rows, test row = some (p row)

variable {test : ρ → Option Bool} {p : ρ → Bool} {rows : List ρ}

theorem Decides.tail {row : ρ} (h : Decides test p (row :: rows)) : Decides test p rows :=
  fun other hother => h other (List.mem_cons_of_mem row hother)

theorem anyTest_of_decides (h : Decides test p rows) : anyTest test rows = some (rows.any p) := by
  induction rows with
  | nil => rfl
  | cons row rows ih =>
      rw [anyTest, h row List.mem_cons_self, List.any_cons]
      cases p row with
      | true => rfl
      | false => simpa using ih h.tail

theorem findTest_of_decides (h : Decides test p rows) :
    findTest test rows = some (rows.find? p) := by
  induction rows with
  | nil => rfl
  | cons row rows ih =>
      rw [findTest, h row List.mem_cons_self, List.find?_cons]
      cases p row with
      | true => rfl
      | false => exact ih h.tail

/-- The first stage, once it is decided: its row, or what the later stages find. -/
theorem search_cons_of_decides {stages : List (ρ → Option Bool)} (h : Decides test p rows) :
    search rows (test :: stages) =
      match rows.find? p with
      | some row => some (some row)
      | none => search rows stages := by
  rw [search, findTest_of_decides h]
  cases rows.find? p <;> rfl

/-- Tests that decide stage by stage find what their tiers find. -/
theorem search_of_decides {stages : List (ρ → Option Bool)} {tiers : List (ρ → Bool)}
    (h : List.Forall₂ (fun test p => Decides test p rows) stages tiers) :
    search rows stages = some (tiers.findSome? fun tier => rows.find? tier) := by
  induction h with
  | nil => rfl
  | @cons stage tier stages tiers hstage _ ih =>
      rw [search_cons_of_decides hstage, List.findSome?_cons, ih]
      cases rows.find? tier <;> rfl

/-! ## Tiers -/

/-- A row of the lowest tier that any of the rows is in. -/
def Lowest (tiers : List (ρ → Bool)) (rows : List ρ) (row : ρ) : Prop :=
  row ∈ rows ∧ ∃ lower tier higher, tiers = lower ++ tier :: higher ∧ tier row = true ∧
    ∀ other ∈ rows, ∀ below ∈ lower, below other = false

/-- What a search by tiers is to return. -/
structure Tiered (tiers : List (ρ → Bool)) (rows : List ρ) (result : Option ρ) : Prop where
  isSome_iff : result.isSome ↔ ∃ row ∈ rows, ∃ tier ∈ tiers, tier row = true
  lowest : ∀ row, result = some row → Lowest tiers rows row

theorem tiered_nil : Tiered [] rows none where
  isSome_iff := by simp
  lowest := by simp

/-- The first row of the first tier that has one. -/
theorem tiered_cons {tier : ρ → Bool} {tiers : List (ρ → Bool)} {result : Option ρ}
    (h : rows.find? tier = none → Tiered tiers rows result) :
    Tiered (tier :: tiers) rows ((rows.find? tier).or result) := by
  cases hfind : rows.find? tier with
  | some row =>
      have htier := List.find?_some hfind
      have hmem := List.mem_of_find?_eq_some hfind
      refine ⟨iff_of_true rfl ⟨row, hmem, tier, List.mem_cons_self, htier⟩, ?_⟩
      intro other hother
      obtain rfl : row = other := by simpa using hother
      exact ⟨hmem, [], tier, tiers, rfl, htier, fun _ _ _ hbelow => nomatch hbelow⟩
  | none =>
      obtain ⟨hsome, hlowest⟩ := h hfind
      have hnone : ∀ row ∈ rows, tier row = false := by
        simpa using List.find?_eq_none.mp hfind
      refine ⟨?_, ?_⟩
      · rw [Option.none_or, hsome]
        constructor
        · rintro ⟨row, hrow, other, hother, htrue⟩
          exact ⟨row, hrow, other, List.mem_cons_of_mem tier hother, htrue⟩
        · rintro ⟨row, hrow, other, hother, htrue⟩
          rcases List.mem_cons.mp hother with rfl | hother
          · simp [hnone row hrow] at htrue
          · exact ⟨row, hrow, other, hother, htrue⟩
      · intro row hrow
        obtain ⟨hmem, lower, found, higher, rfl, hfound, hbelow⟩ := hlowest row hrow
        refine ⟨hmem, tier :: lower, found, higher, rfl, hfound, fun other hother below hmem => ?_⟩
        rcases List.mem_cons.mp hmem with rfl | hmem
        · exact hnone other hother
        · exact hbelow other hother below hmem

/-- A stage that is decided once no earlier one has a row. -/
theorem exists_search_cons {stages : List (ρ → Option Bool)} {tiers : List (ρ → Bool)}
    (hdecides : Decides test p rows)
    (hrest : (∀ row ∈ rows, p row = false) →
      ∃ result, search rows stages = some result ∧ Tiered tiers rows result) :
    ∃ result, search rows (test :: stages) = some result ∧ Tiered (p :: tiers) rows result := by
  rw [search_cons_of_decides hdecides]
  cases hfind : rows.find? p with
  | some row =>
      refine ⟨some row, rfl, ?_⟩
      have htiered : Tiered (p :: tiers) rows ((rows.find? p).or none) :=
        tiered_cons fun hnone => by simp [hfind] at hnone
      rwa [hfind] at htiered
  | none =>
      obtain ⟨result, hresult, htiered⟩ := hrest (by simpa using hfind)
      refine ⟨result, hresult, ?_⟩
      have hcons : Tiered (p :: tiers) rows ((rows.find? p).or result) :=
        tiered_cons fun _ => htiered
      rwa [hfind, Option.none_or] at hcons

end Library.Stages

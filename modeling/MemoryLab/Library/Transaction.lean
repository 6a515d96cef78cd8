import Mathlib.Tactic

/-! # Transactions that may fail at any point

A fault strikes right before one of the statements, or at the commit when its place is the
number of statements. A transaction that fails anywhere leaves nothing behind. -/

namespace Library.Transaction

variable {σ ε : Type*}

abbrev Statement (σ ε : Type*) := σ → Except ε σ

/-- Where a transaction is struck, and with what. -/
abbrev Fault (ε : Type*) := Option (ℕ × ε)

def execute (statements : List (Statement σ ε)) (s : σ) : Except ε σ :=
  statements.foldlM (fun s statement => statement s) s

def transact (fault : Fault ε) (statements : List (Statement σ ε)) (s : σ) : Except ε σ :=
  match fault with
  | none => execute statements s
  | some (place, error) =>
    if statements.length < place then execute statements s
    else match execute (statements.take place) s with
      | .error first => .error first
      | .ok _ => .error error

/-- No fault strikes the first statements or the commit after them. -/
def Spares (fault : Fault ε) (count : ℕ) : Prop :=
  ∀ place error, fault = some (place, error) → count < place

theorem spares_none (count : ℕ) : Spares (none : Fault ε) count := by
  intro place error h
  cases h

theorem spares_some {place count : ℕ} {error : ε} :
    Spares (some (place, error)) count ↔ count < place := by
  simp [Spares]

instance (fault : Fault ε) (count : ℕ) : Decidable (Spares fault count) :=
  match fault with
  | none => .isTrue (spares_none count)
  | some _ => decidable_of_iff _ spares_some.symm

/-! ## Executing statements -/

@[simp] theorem execute_nil (s : σ) : execute ([] : List (Statement σ ε)) s = .ok s := rfl

theorem execute_cons (statement : Statement σ ε) (statements : List (Statement σ ε)) (s : σ) :
    execute (statement :: statements) s = statement s >>= execute statements := by
  rw [execute, List.foldlM_cons]
  rfl

theorem execute_append (first second : List (Statement σ ε)) (s : σ) :
    execute (first ++ second) s = execute first s >>= execute second := by
  rw [execute, List.foldlM_append]
  rfl

theorem exists_of_isOk {α : Type*} {result : Except ε α} (h : result.isOk = true) :
    ∃ a, result = .ok a := by
  cases result with
  | error error => cases h
  | ok a => exact ⟨a, rfl⟩

/-- A result that is checked was returned. -/
theorem exists_of_toOption_any {α : Type*} {result : Except ε α} {p : α → Bool}
    (h : result.toOption.any p = true) : ∃ a, result = .ok a ∧ p a = true := by
  cases result with
  | error error => cases h
  | ok a => exact ⟨a, rfl, h⟩

theorem bind_eq_ok.{u, v} {ε : Type u} {α β : Type v} {first : Except ε α} {next : α → Except ε β}
    {b : β} :
    first >>= next = .ok b ↔ ∃ a, first = .ok a ∧ next a = .ok b := by
  cases first with
  | error error => simp [bind, Except.bind]
  | ok a => simp [bind, Except.bind]

theorem execute_cons_eq_ok {statement : Statement σ ε} {statements : List (Statement σ ε)}
    {s t : σ} :
    execute (statement :: statements) s = .ok t ↔
      ∃ next, statement s = .ok next ∧ execute statements next = .ok t := by
  rw [execute_cons, bind_eq_ok]

theorem execute_append_eq_ok {first second : List (Statement σ ε)} {s t : σ} :
    execute (first ++ second) s = .ok t ↔
      ∃ next, execute first s = .ok next ∧ execute second next = .ok t := by
  rw [execute_append, bind_eq_ok]

/-- A reflexive and transitive relation that every statement respects. -/
theorem execute_relates {R : σ → σ → Prop} (hrefl : ∀ s, R s s)
    (htrans : ∀ first second third, R first second → R second third → R first third)
    {statements : List (Statement σ ε)}
    (hstep : ∀ statement ∈ statements, ∀ s t, statement s = .ok t → R s t) {s t : σ}
    (h : execute statements s = .ok t) : R s t := by
  induction statements generalizing s with
  | nil =>
      obtain rfl := Except.ok.inj h
      exact hrefl s
  | cons statement statements ih =>
      obtain ⟨next, hnext, hrest⟩ := execute_cons_eq_ok.mp h
      refine htrans s next t (hstep statement List.mem_cons_self s next hnext) (ih ?_ hrest)
      exact fun other hother => hstep other (List.mem_cons_of_mem _ hother)

/-! ## Transactions -/

/-- A transaction commits when it is spared and its statements go through. -/
theorem transact_eq_ok_iff {fault : Fault ε} {statements : List (Statement σ ε)} {s t : σ} :
    transact fault statements s = .ok t ↔
      Spares fault statements.length ∧ execute statements s = .ok t := by
  unfold transact
  split
  · simp [spares_none]
  · rw [spares_some]
    split
    · rename_i hplace
      simp [hplace]
    · rename_i hplace
      split <;> simp [hplace]

theorem transact_relates {R : σ → σ → Prop} (hrefl : ∀ s, R s s)
    (htrans : ∀ first second third, R first second → R second third → R first third)
    {fault : Fault ε} {statements : List (Statement σ ε)}
    (hstep : ∀ statement ∈ statements, ∀ s t, statement s = .ok t → R s t) {s t : σ}
    (h : transact fault statements s = .ok t) : R s t :=
  execute_relates hrefl htrans hstep (transact_eq_ok_iff.mp h).2

end Library.Transaction

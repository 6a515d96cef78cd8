import Mathlib.Tactic

/-! # Statements on one connection

A statement that fails aborts the open transaction, and every later statement of it fails. -/

namespace Library

variable {σ ε α : Type*}

/-- What the statements of the open transaction see, and whether one of them has failed. -/
structure Connection (σ : Type*) where
  state : σ
  aborted : Bool := false
deriving DecidableEq

inductive Failure (ε : Type*) where
  | statement (error : ε)
  | inFailedTransaction
deriving DecidableEq

def Connection.run (conn : Connection σ) (statement : σ → Except ε (α × σ)) :
    Except (Failure ε) α × Connection σ :=
  if conn.aborted then (.error .inFailedTransaction, conn)
  else match statement conn.state with
    | .ok (a, next) => (.ok a, ⟨next, false⟩)
    | .error error => (.error (.statement error), ⟨conn.state, true⟩)

theorem Connection.run_of_aborted {conn : Connection σ} (h : conn.aborted = true)
    (statement : σ → Except ε (α × σ)) :
    conn.run statement = (.error .inFailedTransaction, conn) := by
  simp [run, h]

/-- No statement of a transaction that goes on is refused for an earlier one. -/
theorem Connection.run_ne_inFailedTransaction (s : σ) (statement : σ → Except ε (α × σ)) :
    ((⟨s, false⟩ : Connection σ).run statement).1 ≠ .error .inFailedTransaction := by
  unfold run
  simp only [Bool.false_eq_true, if_false]
  split <;> simp

end Library

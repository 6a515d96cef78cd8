import MemoryLab.Verification.Decisions.Links

/-! # The status of a superseded decision

The status and the pointer back are set together by the creation that supersedes. Callers may
also give a status of their own. -/

namespace MemoryLab.Decisions

open Library Library.Rows Library.Runs

def DecisionRow.Agrees (row : DecisionRow) : Prop :=
  row.decisionStatus = .superseded ↔ row.supersededByDecisionId ≠ none

def StatusAgrees (decisionId : DecisionId) (nodes : List DecisionRow) : Prop :=
  ∀ row ∈ nodes, row.decisionId = decisionId → row.Agrees

/-- A status that the call gives to the decision says `superseded` where the decision has been
superseded, and nowhere else. -/
def KeepsToLink (decisionId : DecisionId) (nodes : List DecisionRow) :
    DecisionOperation → Prop
  | .createDecision payload .. =>
    newDecisionId nodes = decisionId → payload.decisionStatus ≠ .superseded
  | .updateStatus target decisionStatus workspaceId _ =>
    target = decisionId → ∀ row ∈ nodes, atDecision target workspaceId row = true →
      (decisionStatus = .superseded ↔ row.supersededByDecisionId ≠ none)

theorem agrees_supersede (newId : DecisionId) (now : Timestamp) (row : DecisionRow) :
    (supersede newId now row).Agrees :=
  iff_of_true rfl (Option.some_ne_none newId)

theorem agrees_row {payload : DecisionCreate} (h : payload.decisionStatus ≠ .superseded)
    (decisionId : DecisionId) (workspaceId : Option WorkspaceId)
    (createdBySubject : Option Text) (now : Timestamp) :
    (payload.row decisionId workspaceId createdBySubject now).Agrees :=
  iff_of_false h fun hlink => hlink rfl

variable {nodes : List DecisionRow} {decisionId : DecisionId}

theorem StatusAgrees.update (h : StatusAgrees decisionId nodes) {p : DecisionRow → Bool}
    {f : DecisionRow → DecisionRow} (hid : ∀ row, (f row).decisionId = row.decisionId)
    (hf : ∀ row ∈ nodes, p row = true → row.decisionId = decisionId → (f row).Agrees) :
    StatusAgrees decisionId (updateWhere p f nodes) := by
  intro row hmem hrow
  obtain ⟨old, hold, ⟨hp, rfl⟩ | ⟨-, rfl⟩⟩ := mem_updateWhere.mp hmem
  · exact hf old hold hp ((hid old).symm.trans hrow)
  · exact h row hold hrow

theorem statusAgrees_step (h : StatusAgrees decisionId nodes) {operation : DecisionOperation}
    (hkeeps : KeepsToLink decisionId nodes operation) :
    StatusAgrees decisionId (step nodes operation) := by
  have heffect := step_effect nodes operation
  generalize step nodes operation = next at heffect
  cases heffect with
  | rejected => exact h
  | @created payload workspaceId createdBySubject now =>
      have hinsert : StatusAgrees decisionId
          (nodes ++ [payload.row (newDecisionId nodes) workspaceId createdBySubject now]) := by
        intro row hmem hrow
        rcases List.mem_append.mp hmem with hold | hnew
        · exact h row hold hrow
        · rw [List.mem_singleton.mp hnew] at hrow ⊢
          exact agrees_row (hkeeps hrow) ..
      rw [withDecision, markSuperseded.eq_def]
      cases payload.supersedesDecisionId with
      | none => exact hinsert
      | some target =>
          exact hinsert.update (fun _ => rfl) fun row _ _ _ => agrees_supersede _ now row
  | @updated target decisionStatus workspaceId now =>
      refine h.update (fun _ => rfl) fun row hmem hat hrow => ?_
      exact hkeeps ((atDecision_iff.mp hat).1.symm.trans hrow) row hmem hat

/-- As long as no caller gives a decision a status that its link does not bear out, it is
`superseded` exactly when a decision supersedes it. -/
theorem always_statusAgrees {operations : List DecisionOperation}
    (h : Guarded step (KeepsToLink decisionId) [] operations) :
    Always step (StatusAgrees decisionId) [] operations :=
  h.always (fun _ hmem => absurd hmem List.not_mem_nil)
    fun _ _ hagrees hkeeps => statusAgrees_step hagrees hkeeps

/-- Decision 1 is reversed, and then superseded by decision 2. -/
theorem always_statusAgrees_reversed :
    Always step (StatusAgrees 1) []
      [.createDecision (decision none) (some 1) none 10, .updateStatus 1 .reversed (some 1) 20,
       .createDecision (decision (some 1)) (some 1) none 30] := by
  refine always_statusAgrees ⟨fun _ => ?_, fun _ => ?_, fun _ => ?_, trivial⟩
  · decide
  · decide +kernel
  · decide

/-- `superseded` is one of the statuses that a caller may set. -/
theorem not_statusAgrees_set :
    ¬ ∀ decisionId, StatusAgrees decisionId (run step []
      [.createDecision (decision none) (some 1) none 10,
       .updateStatus 1 .superseded (some 1) 20]) := by
  intro h
  have hrow := h 1
  revert hrow
  unfold StatusAgrees DecisionRow.Agrees
  decide +kernel

end MemoryLab.Decisions

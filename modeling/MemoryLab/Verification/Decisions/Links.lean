import MemoryLab.Library.PointerChain
import MemoryLab.Library.Runs
import MemoryLab.Model.Decisions

/-! # The two directions of a supersession

A creation writes one pointer forward and one back. The pointer back is overwritten when a
decision is superseded again, and that is the only way the directions come apart. -/

namespace MemoryLab.Decisions

open Library Library.Rows Library.Runs Library.Pointers

/-! ## The pointers of a table -/

def PointsTo (pointer : DecisionRow → Option DecisionId) (nodes : List DecisionRow)
    (x y : DecisionId) : Prop :=
  ∃ row ∈ nodes, row.decisionId = x ∧ pointer row = some y

/-- `x.supersedes = y`. -/
def Supersedes : List DecisionRow → DecisionId → DecisionId → Prop :=
  PointsTo (·.supersedesDecisionId)

/-- `y.superseded_by = x`. -/
def SupersededBy : List DecisionRow → DecisionId → DecisionId → Prop :=
  PointsTo (·.supersededByDecisionId)

def Symmetric (nodes : List DecisionRow) : Prop :=
  ∀ x y, Supersedes nodes x y ↔ SupersededBy nodes y x

def decisionIds (nodes : List DecisionRow) : List DecisionId := nodes.map (·.decisionId)

variable {nodes : List DecisionRow} {pointer : DecisionRow → Option DecisionId} {x y : DecisionId}

theorem pointsTo_nil : ¬ PointsTo pointer [] x y := by
  rintro ⟨row, hmem, -⟩
  cases hmem

theorem pointsTo_append_singleton {row : DecisionRow} :
    PointsTo pointer (nodes ++ [row]) x y ↔
      PointsTo pointer nodes x y ∨ (row.decisionId = x ∧ pointer row = some y) := by
  simp [PointsTo, or_and_right, exists_or]

theorem pointsTo_updateWhere {p : DecisionRow → Bool} {f : DecisionRow → DecisionRow}
    (hid : ∀ row, (f row).decisionId = row.decisionId)
    (hpointer : ∀ row, pointer (f row) = pointer row) :
    PointsTo pointer (updateWhere p f nodes) x y ↔ PointsTo pointer nodes x y := by
  constructor
  · rintro ⟨row, hmem, hx, hy⟩
    obtain ⟨old, hold, ⟨-, rfl⟩ | ⟨-, rfl⟩⟩ := mem_updateWhere.mp hmem
    · exact ⟨old, hold, (hid old).symm.trans hx, (hpointer old).symm.trans hy⟩
    · exact ⟨row, hold, hx, hy⟩
  · rintro ⟨row, hmem, hx, hy⟩
    cases hp : p row with
    | true =>
        exact ⟨f row, mem_updateWhere.mpr ⟨row, hmem, .inl ⟨hp, rfl⟩⟩, (hid row).trans hx,
          (hpointer row).trans hy⟩
    | false => exact ⟨row, mem_updateWhere.mpr ⟨row, hmem, .inr ⟨hp, rfl⟩⟩, hx, hy⟩

theorem decisionIds_updateWhere {p : DecisionRow → Bool} {f : DecisionRow → DecisionRow}
    (hid : ∀ row, (f row).decisionId = row.decisionId) :
    decisionIds (updateWhere p f nodes) = decisionIds nodes :=
  map_updateWhere (fun row : DecisionRow => row.decisionId) hid nodes

theorem PointsTo.mem_left (h : PointsTo pointer nodes x y) : x ∈ decisionIds nodes := by
  obtain ⟨row, hmem, rfl, -⟩ := h
  exact List.mem_map_of_mem hmem

theorem newDecisionId_notMem (nodes : List DecisionRow) :
    newDecisionId nodes ∉ decisionIds nodes :=
  freshId_notMem _

/-! ## One call -/

def Accepted (nodes : List DecisionRow) : DecisionOperation → Prop
  | .createDecision payload workspaceId createdBySubject _ =>
    missingSuperseded payload workspaceId nodes = none ∧
      (payload.texts ++ createdBySubject.toList).all storable
  | .updateStatus decisionId _ workspaceId _ => nodes.any (atDecision decisionId workspaceId)

/-- The table after an accepted creation. -/
def withDecision (nodes : List DecisionRow) (payload : DecisionCreate)
    (workspaceId : Option WorkspaceId) (createdBySubject : Option Text) (now : Timestamp) :
    List DecisionRow :=
  markSuperseded payload.supersedesDecisionId workspaceId (newDecisionId nodes) now
    (nodes ++ [payload.row (newDecisionId nodes) workspaceId createdBySubject now])

inductive StepEffect (nodes : List DecisionRow) : DecisionOperation → List DecisionRow → Prop
  | rejected {operation} (h : ¬ Accepted nodes operation) : StepEffect nodes operation nodes
  | created {payload workspaceId createdBySubject now}
      (h : Accepted nodes (.createDecision payload workspaceId createdBySubject now)) :
      StepEffect nodes (.createDecision payload workspaceId createdBySubject now)
        (withDecision nodes payload workspaceId createdBySubject now)
  | updated {decisionId decisionStatus workspaceId now}
      (h : Accepted nodes (.updateStatus decisionId decisionStatus workspaceId now)) :
      StepEffect nodes (.updateStatus decisionId decisionStatus workspaceId now)
        (updateWhere (atDecision decisionId workspaceId) (setStatus decisionStatus now) nodes)

theorem createDecision_eq (payload : DecisionCreate) (workspaceId : Option WorkspaceId)
    (createdBySubject : Option Text) (now : Timestamp) (nodes : List DecisionRow) :
    StepEffect nodes (.createDecision payload workspaceId createdBySubject now)
      (step nodes (.createDecision payload workspaceId createdBySubject now)) := by
  simp only [step, createDecision]
  cases hmissing : missingSuperseded payload workspaceId nodes with
  | some missing =>
      refine .rejected fun h => ?_
      rw [h.1] at hmissing
      cases hmissing
  | none =>
      cases hstorable : (payload.texts ++ createdBySubject.toList).all storable with
      | false =>
          refine .rejected fun h => ?_
          rw [h.2] at hstorable
          cases hstorable
      | true => exact .created ⟨hmissing, hstorable⟩

theorem updateStatus_eq (decisionId : DecisionId) (decisionStatus : DecisionStatus)
    (workspaceId : Option WorkspaceId) (now : Timestamp) (nodes : List DecisionRow) :
    StepEffect nodes (.updateStatus decisionId decisionStatus workspaceId now)
      (step nodes (.updateStatus decisionId decisionStatus workspaceId now)) := by
  simp only [step, updateStatus]
  cases hfind : nodes.find? (atDecision decisionId workspaceId) with
  | none =>
      refine .rejected fun h => ?_
      obtain ⟨row, hmem, hrow⟩ := List.any_eq_true.mp h
      exact List.find?_eq_none.mp hfind row hmem hrow
  | some row =>
      refine .updated (List.any_eq_true.mpr ⟨row, ?_, List.find?_some hfind⟩)
      exact List.mem_of_find?_eq_some hfind

theorem step_effect (nodes : List DecisionRow) (operation : DecisionOperation) :
    StepEffect nodes operation (step nodes operation) := by
  cases operation with
  | createDecision => exact createDecision_eq ..
  | updateStatus => exact updateStatus_eq ..

theorem accepted_exists {payload : DecisionCreate} {workspaceId : Option WorkspaceId}
    {createdBySubject : Option Text} {now : Timestamp} {target : DecisionId}
    (h : Accepted nodes (.createDecision payload workspaceId createdBySubject now))
    (htarget : payload.supersedesDecisionId = some target) :
    ∃ row ∈ nodes, atDecision target workspaceId row = true := by
  have hmissing := h.1
  rw [missingSuperseded, htarget, Option.filter_eq_none_iff] at hmissing
  simpa using hmissing target rfl

theorem atDecision_iff {decisionId : DecisionId} {workspaceId : Option WorkspaceId}
    {row : DecisionRow} :
    atDecision decisionId workspaceId row = true ↔
      row.decisionId = decisionId ∧ visibleTo workspaceId row = true := by
  rw [atDecision, Bool.and_eq_true, beq_iff_eq]

/-! ## The pointers after a call -/

theorem supersedes_setStatus {p : DecisionRow → Bool} {decisionStatus : DecisionStatus}
    {now : Timestamp} :
    Supersedes (updateWhere p (setStatus decisionStatus now) nodes) = Supersedes nodes := by
  ext x y
  exact pointsTo_updateWhere (fun _ => rfl) fun _ => rfl

theorem supersededBy_setStatus {p : DecisionRow → Bool} {decisionStatus : DecisionStatus}
    {now : Timestamp} :
    SupersededBy (updateWhere p (setStatus decisionStatus now) nodes) = SupersededBy nodes := by
  ext x y
  exact pointsTo_updateWhere (fun _ => rfl) fun _ => rfl

theorem supersedes_withDecision {payload : DecisionCreate} {workspaceId : Option WorkspaceId}
    {createdBySubject : Option Text} {now : Timestamp} :
    Supersedes (withDecision nodes payload workspaceId createdBySubject now) x y ↔
      Supersedes nodes x y ∨
        (x = newDecisionId nodes ∧ payload.supersedesDecisionId = some y) := by
  have hinsert : Supersedes
      (nodes ++ [payload.row (newDecisionId nodes) workspaceId createdBySubject now]) x y ↔
        Supersedes nodes x y ∨
          (x = newDecisionId nodes ∧ payload.supersedesDecisionId = some y) := by
    rw [Supersedes, pointsTo_append_singleton, eq_comm (a := x)]
    rfl
  rw [← hinsert, withDecision, markSuperseded.eq_def]
  cases payload.supersedesDecisionId with
  | none => exact Iff.rfl
  | some target => exact pointsTo_updateWhere (fun _ => rfl) fun _ => rfl

theorem decisionIds_withDecision (payload : DecisionCreate) (workspaceId : Option WorkspaceId)
    (createdBySubject : Option Text) (now : Timestamp) (nodes : List DecisionRow) :
    decisionIds (withDecision nodes payload workspaceId createdBySubject now) =
      decisionIds nodes ++ [newDecisionId nodes] := by
  have hinsert : decisionIds
      (nodes ++ [payload.row (newDecisionId nodes) workspaceId createdBySubject now]) =
        decisionIds nodes ++ [newDecisionId nodes] := by
    rw [decisionIds, List.map_append]
    rfl
  rw [← hinsert, withDecision, markSuperseded.eq_def]
  cases payload.supersedesDecisionId with
  | none => rfl
  | some target => exact decisionIds_updateWhere fun _ => rfl

/-- The row with the identifier of the superseded decision is the row that was looked up. -/
theorem atDecision_inserted (hnodup : (decisionIds nodes).Nodup) {payload : DecisionCreate}
    {workspaceId : Option WorkspaceId} {createdBySubject : Option Text} {now : Timestamp}
    {target : DecisionId}
    (h : Accepted nodes (.createDecision payload workspaceId createdBySubject now))
    (htarget : payload.supersedesDecisionId = some target) :
    ∀ row ∈ nodes ++ [payload.row (newDecisionId nodes) workspaceId createdBySubject now],
      atDecision target workspaceId row = true ↔ row.decisionId = target := by
  intro row hmem
  refine ⟨fun hat => (atDecision_iff.mp hat).1, fun hid => ?_⟩
  obtain ⟨found, hfound, hat⟩ := accepted_exists h htarget
  have hfoundId := (atDecision_iff.mp hat).1
  rcases List.mem_append.mp hmem with hold | hnew
  · rwa [List.inj_on_of_nodup_map hnodup hold hfound (hid.trans hfoundId.symm)]
  · rw [List.mem_singleton.mp hnew] at hid
    refine absurd ?_ (newDecisionId_notMem nodes)
    exact List.mem_map.mpr ⟨found, hfound, hfoundId.trans hid.symm⟩

theorem supersededBy_withDecision (hnodup : (decisionIds nodes).Nodup)
    {payload : DecisionCreate} {workspaceId : Option WorkspaceId}
    {createdBySubject : Option Text} {now : Timestamp}
    (h : Accepted nodes (.createDecision payload workspaceId createdBySubject now)) :
    SupersededBy (withDecision nodes payload workspaceId createdBySubject now) y x ↔
      (payload.supersedesDecisionId = some y ∧ x = newDecisionId nodes) ∨
        (payload.supersedesDecisionId ≠ some y ∧ SupersededBy nodes y x) := by
  have hinsert : SupersededBy
      (nodes ++ [payload.row (newDecisionId nodes) workspaceId createdBySubject now]) y x ↔
        SupersededBy nodes y x := by
    rw [SupersededBy, pointsTo_append_singleton, or_iff_left]
    rintro ⟨-, hpointer⟩
    cases hpointer
  rw [withDecision, markSuperseded.eq_def]
  cases htarget : payload.supersedesDecisionId with
  | none => simpa using hinsert
  | some target =>
      have hat := atDecision_inserted hnodup h htarget
      rw [← hinsert]
      constructor
      · rintro ⟨row, hmem, hy, hx⟩
        obtain ⟨old, hold, ⟨hmatch, rfl⟩ | ⟨hmatch, rfl⟩⟩ := mem_updateWhere.mp hmem
        · refine .inl ⟨congrArg some ?_, (Option.some.inj hx).symm⟩
          exact ((hat old hold).mp hmatch).symm.trans hy
        · refine .inr ⟨fun heq => ?_, row, hold, hy, hx⟩
          rw [(hat row hold).mpr (hy.trans (Option.some.inj heq).symm)] at hmatch
          cases hmatch
      · rintro (⟨heq, rfl⟩ | ⟨hne, row, hmem, hy, hx⟩)
        · obtain ⟨found, hfound, hfoundAt⟩ := accepted_exists h htarget
          refine ⟨supersede (newDecisionId nodes) now found, mem_updateWhere.mpr ⟨found,
            List.mem_append_left _ hfound, .inl ⟨hfoundAt, rfl⟩⟩, ?_, rfl⟩
          exact (atDecision_iff.mp hfoundAt).1.trans (Option.some.inj heq)
        · refine ⟨row, mem_updateWhere.mpr ⟨row, hmem, .inr ⟨?_, rfl⟩⟩, hy, hx⟩
          rw [← Bool.not_eq_true, hat row hmem, hy]
          rintro rfl
          exact hne rfl

/-! ## What every reachable table meets -/

/-- Superseded decisions are there, point back to one of those that supersede them, and no
decision supersedes itself through others. -/
structure Linked (nodes : List DecisionRow) : Prop where
  nodup : (decisionIds nodes).Nodup
  target_mem : ∀ x y, Supersedes nodes x y → y ∈ decisionIds nodes
  sound : ∀ x y, SupersededBy nodes y x → Supersedes nodes x y
  marked : ∀ x y, Supersedes nodes x y → ∃ z, SupersededBy nodes y z
  acyclic : Acyclic (Supersedes nodes)

theorem linked_nil : Linked [] where
  nodup := List.nodup_nil
  target_mem _ _ h := absurd h pointsTo_nil
  sound _ _ h := absurd h pointsTo_nil
  marked _ _ h := absurd h pointsTo_nil
  acyclic := acyclic_of_forall_not fun _ _ => pointsTo_nil

theorem Linked.withDecision (hlinked : Linked nodes) {payload : DecisionCreate}
    {workspaceId : Option WorkspaceId} {createdBySubject : Option Text} {now : Timestamp}
    (h : Accepted nodes (.createDecision payload workspaceId createdBySubject now)) :
    Linked (withDecision nodes payload workspaceId createdBySubject now) := by
  have hnew := newDecisionId_notMem nodes
  have htarget : ∀ y, payload.supersedesDecisionId = some y → y ∈ decisionIds nodes := by
    intro y hy
    obtain ⟨row, hmem, hat⟩ := accepted_exists h hy
    exact List.mem_map.mpr ⟨row, hmem, (atDecision_iff.mp hat).1⟩
  have hmem : ∀ x y, Supersedes (Decisions.withDecision nodes payload workspaceId createdBySubject
      now) x y → y ∈ decisionIds nodes := by
    intro x y hxy
    rcases supersedes_withDecision.mp hxy with hold | ⟨-, hy⟩
    · exact hlinked.target_mem x y hold
    · exact htarget y hy
  constructor
  · rw [decisionIds_withDecision]
    exact List.Nodup.append hlinked.nodup (List.nodup_singleton _)
      (List.disjoint_singleton.mpr hnew)
  · intro x y hxy
    rw [decisionIds_withDecision]
    exact List.mem_append_left _ (hmem x y hxy)
  · intro x y hyx
    rw [supersedes_withDecision]
    rcases (supersededBy_withDecision hlinked.nodup h).mp hyx with ⟨hy, hx⟩ | ⟨-, hold⟩
    · exact .inr ⟨hx, hy⟩
    · exact .inl (hlinked.sound x y hold)
  · intro x y hxy
    by_cases hy : payload.supersedesDecisionId = some y
    · exact ⟨_, (supersededBy_withDecision hlinked.nodup h).mpr (.inl ⟨hy, rfl⟩)⟩
    · rcases supersedes_withDecision.mp hxy with hold | ⟨-, hnow⟩
      · obtain ⟨z, hz⟩ := hlinked.marked x y hold
        exact ⟨z, (supersededBy_withDecision hlinked.nodup h).mpr (.inr ⟨hy, hz⟩)⟩
      · exact absurd hnow hy
  · refine hlinked.acyclic.extend (x := newDecisionId nodes) ?_ ?_
    · intro x y hxy
      exact (supersedes_withDecision.mp hxy).imp_right And.left
    · intro x hx
      exact hnew (hmem x _ hx)

theorem linked_step (hlinked : Linked nodes) (operation : DecisionOperation) :
    Linked (step nodes operation) := by
  have heffect := step_effect nodes operation
  generalize step nodes operation = next at heffect
  cases heffect with
  | rejected => exact hlinked
  | created h => exact hlinked.withDecision h
  | @updated decisionId decisionStatus workspaceId now h =>
      have hids : decisionIds (updateWhere (atDecision decisionId workspaceId)
          (setStatus decisionStatus now) nodes) = decisionIds nodes :=
        decisionIds_updateWhere fun _ => rfl
      constructor
      · rw [hids]
        exact hlinked.nodup
      · rw [supersedes_setStatus, hids]
        exact hlinked.target_mem
      · rw [supersedes_setStatus, supersededBy_setStatus]
        exact hlinked.sound
      · rw [supersedes_setStatus, supersededBy_setStatus]
        exact hlinked.marked
      · rw [supersedes_setStatus]
        exact hlinked.acyclic

theorem linked_run (operations : List DecisionOperation) : Linked (run step [] operations) :=
  run_of_invariant linked_nil (fun _ operation h => linked_step h operation) operations

/-! ## Symmetry along runs -/

/-- The call supersedes a decision that some decision superseded before. -/
def SupersedesAgain (nodes : List DecisionRow) : DecisionOperation → Prop
  | .createDecision payload workspaceId createdBySubject now =>
    Accepted nodes (.createDecision payload workspaceId createdBySubject now) ∧
      ∃ target, payload.supersedesDecisionId = some target ∧ ∃ x, SupersededBy nodes target x
  | .updateStatus .. => False

theorem symmetric_withDecision_iff (hlinked : Linked nodes) (hsymmetric : Symmetric nodes)
    {payload : DecisionCreate} {workspaceId : Option WorkspaceId}
    {createdBySubject : Option Text} {now : Timestamp}
    (h : Accepted nodes (.createDecision payload workspaceId createdBySubject now)) :
    Symmetric (withDecision nodes payload workspaceId createdBySubject now) ↔
      ¬ SupersedesAgain nodes (.createDecision payload workspaceId createdBySubject now) := by
  constructor
  · rintro hafter ⟨-, target, htarget, x, hback⟩
    have hx : Supersedes nodes x target := (hsymmetric x target).mpr hback
    have hkept := (hafter x target).mp (supersedes_withDecision.mpr (.inl hx))
    rcases (supersededBy_withDecision hlinked.nodup h).mp hkept with ⟨-, hnew⟩ | ⟨hne, -⟩
    · exact newDecisionId_notMem nodes (hnew ▸ hx.mem_left)
    · exact hne htarget
  · intro honce x y
    rw [supersedes_withDecision, supersededBy_withDecision hlinked.nodup h, hsymmetric x y]
    constructor
    · rintro (hback | ⟨hx, hy⟩)
      · exact .inr ⟨fun hy => honce ⟨h, y, hy, x, hback⟩, hback⟩
      · exact .inl ⟨hy, hx⟩
    · rintro (⟨hy, hx⟩ | ⟨-, hback⟩)
      · exact .inr ⟨hx, hy⟩
      · exact .inl hback

theorem symmetric_step_iff (hlinked : Linked nodes) (hsymmetric : Symmetric nodes)
    (operation : DecisionOperation) :
    Symmetric (step nodes operation) ↔ ¬ SupersedesAgain nodes operation := by
  have heffect := step_effect nodes operation
  generalize step nodes operation = next at heffect
  cases heffect with
  | rejected h =>
      refine iff_of_true hsymmetric fun hagain => ?_
      cases operation with
      | createDecision => exact h hagain.1
      | updateStatus => exact hagain
  | created h => exact symmetric_withDecision_iff hlinked hsymmetric h
  | updated =>
      refine iff_of_true (fun x y => ?_) id
      rw [supersedes_setStatus, supersededBy_setStatus]
      exact hsymmetric x y

/-- From an empty store, the links are symmetric in every state of a run exactly when no
decision is superseded twice. -/
theorem always_symmetric_iff (operations : List DecisionOperation) :
    Always step Symmetric [] operations ↔
      Guarded step (fun nodes operation => ¬ SupersedesAgain nodes operation) [] operations :=
  always_iff_guarded linked_nil (fun _ _ => iff_of_false pointsTo_nil pointsTo_nil)
    (fun _ operation h => linked_step h operation)
    (fun _ operation hlinked h => symmetric_step_iff hlinked h operation) operations

def decision (supersedesDecisionId : Option DecisionId) : DecisionCreate :=
  { title := "Use Postgres".toList, decisionReason := "One store".toList, supersedesDecisionId }

/-- Decisions 2 and 3 both supersede decision 1, which points back to the last of them. -/
theorem not_symmetric_twice :
    ¬ Symmetric (run step []
      [.createDecision (decision none) (some 1) none 10,
       .createDecision (decision (some 1)) (some 1) none 20,
       .createDecision (decision (some 1)) (some 1) none 30]) := by
  intro h
  have hforward := (h 2 1).mp (by unfold Supersedes PointsTo; decide +kernel)
  revert hforward
  unfold SupersededBy PointsTo
  decide +kernel

end MemoryLab.Decisions

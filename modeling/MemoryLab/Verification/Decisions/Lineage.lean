import MemoryLab.Verification.Decisions.Links

/-! # Reading a lineage

The rows of the two recursive queries are the chains of pointers from the decision, cut after
ten. The flag says that a chain has ten decisions, not that it goes on. -/

namespace MemoryLab.Decisions

open Relation Library Library.Rows Library.Runs Library.Pointers

/-! ## The recursive queries -/

def Visible (workspaceId : Option WorkspaceId) (nodes : List DecisionRow)
    (decisionId : DecisionId) : Prop :=
  ∃ row ∈ nodes, atDecision decisionId workspaceId row = true

def nextDecision (pointer : DecisionRow → Option DecisionId) (workspaceId : Option WorkspaceId)
    (nodes : List DecisionRow) (decisionId : DecisionId) : Option DecisionId :=
  (nodes.find? (atDecision decisionId workspaceId)).bind pointer

variable {nodes : List DecisionRow} {pointer : DecisionRow → Option DecisionId}
  {workspaceId : Option WorkspaceId} {decisionId : DecisionId}

theorem depth_le_of_mem_lineageRounds {depth rounds : ℕ} {working : List DecisionRow}
    {row : DecisionRow × ℕ}
    (h : row ∈ lineageRounds pointer workspaceId nodes depth rounds working) : depth ≤ row.2 := by
  induction rounds generalizing depth working with
  | zero => cases h
  | succ rounds ih =>
      rcases List.mem_append.mp h with hfirst | hrest
      · obtain ⟨other, -, rfl⟩ := List.mem_map.mp hfirst
        exact le_rfl
      · exact (Nat.le_succ depth).trans (ih hrest)

theorem pairwise_lineageRounds (depth rounds : ℕ) (working : List DecisionRow) :
    (lineageRounds pointer workspaceId nodes depth rounds working).Pairwise
      fun first second => first.2 ≤ second.2 := by
  induction rounds generalizing depth working with
  | zero => exact List.Pairwise.nil
  | succ rounds ih =>
      refine List.pairwise_append.mpr ⟨?_, ih (depth + 1) _, ?_⟩
      · rw [List.pairwise_map]
        exact List.pairwise_of_forall fun _ _ => le_rfl
      · intro first hfirst second hsecond
        obtain ⟨other, -, rfl⟩ := List.mem_map.mp hfirst
        exact (Nat.le_succ depth).trans (depth_le_of_mem_lineageRounds hsecond)

theorem mem_of_mem_pointedTo {target : Option DecisionId} {row : DecisionRow}
    (h : row ∈ pointedTo workspaceId nodes target) : row ∈ nodes := by
  cases target with
  | none => cases h
  | some target => exact List.mem_of_mem_filter h

theorem mem_of_mem_lineageRounds {depth rounds : ℕ} {working : List DecisionRow}
    (hworking : ∀ row ∈ working, row ∈ nodes) {row : DecisionRow × ℕ}
    (h : row ∈ lineageRounds pointer workspaceId nodes depth rounds working) : row.1 ∈ nodes := by
  induction rounds generalizing depth working with
  | zero => cases h
  | succ rounds ih =>
      rcases List.mem_append.mp h with hfirst | hrest
      · obtain ⟨other, hother, rfl⟩ := List.mem_map.mp hfirst
        exact hworking other hother
      · refine ih (fun next hnext => ?_) hrest
        obtain ⟨other, -, hpointed⟩ := List.mem_flatMap.mp hnext
        exact mem_of_mem_pointedTo hpointed

/-- An identifier selects one row. -/
theorem filter_atDecision (hnodup : (decisionIds nodes).Nodup) {row : DecisionRow}
    (hmem : row ∈ nodes) (hat : atDecision decisionId workspaceId row = true) :
    nodes.filter (atDecision decisionId workspaceId) = [row] := by
  refine filter_eq_singleton (List.Nodup.of_map _ hnodup) hmem hat fun other hother hotherAt => ?_
  refine List.inj_on_of_nodup_map hnodup hother hmem ?_
  exact (atDecision_iff.mp hotherAt).1.trans (atDecision_iff.mp hat).1.symm

theorem find?_atDecision (hnodup : (decisionIds nodes).Nodup) {row : DecisionRow}
    (hmem : row ∈ nodes) (hat : atDecision decisionId workspaceId row = true) :
    nodes.find? (atDecision decisionId workspaceId) = some row := by
  rw [← List.head?_filter, filter_atDecision hnodup hmem hat]
  rfl

theorem lineageRounds_nil (depth rounds : ℕ) :
    lineageRounds pointer workspaceId nodes depth rounds [] = [] := by
  induction rounds generalizing depth with
  | zero => rfl
  | succ rounds ih => exact ih (depth + 1)

/-- The rounds walk along the pointers, one decision a round. -/
theorem lineageRounds_follow (hnodup : (decisionIds nodes).Nodup)
    (hclosed : ∀ id target, Visible workspaceId nodes id →
      nextDecision pointer workspaceId nodes id = some target → Visible workspaceId nodes target)
    {target : Option DecisionId} (htarget : ∀ id, target = some id → Visible workspaceId nodes id)
    (depth rounds : ℕ) :
    (lineageRounds pointer workspaceId nodes depth rounds
        (pointedTo workspaceId nodes target)).map (fun row => (row.1.decisionId, row.2)) =
      (follow (nextDecision pointer workspaceId nodes) rounds target).zipIdx depth := by
  induction rounds generalizing target depth with
  | zero => rfl
  | succ rounds ih =>
      cases target with
      | none =>
          rw [pointedTo, lineageRounds_nil]
          rfl
      | some id =>
          obtain ⟨row, hmem, hat⟩ := htarget id rfl
          have hnext : nextDecision pointer workspaceId nodes id = pointer row := by
            rw [nextDecision, find?_atDecision hnodup hmem hat]
            rfl
          have htail := @ih (pointer row)
            (fun other hother => hclosed id other ⟨row, hmem, hat⟩ (hnext.trans hother))
            (depth + 1)
          rw [pointedTo, filter_atDecision hnodup hmem hat, lineageRounds, List.flatMap_singleton,
            List.map_append, htail, follow, List.zipIdx_cons, hnext]
          exact congrArg (fun first => (first, depth) :: _) (atDecision_iff.mp hat).1

/-! ## The response -/

def queryRows (role : LineageRole) (rows : List (DecisionRow × ℕ)) : List LineageRow :=
  rows.map fun row => { role, node := lineageNode row.1, depth := row.2 }

theorem filter_queryRows_self (role : LineageRole) (rows : List (DecisionRow × ℕ)) :
    (queryRows role rows).filter (·.role == role) = queryRows role rows := by
  rw [List.filter_eq_self]
  intro row hmem
  obtain ⟨old, -, rfl⟩ := List.mem_map.mp hmem
  exact beq_self_eq_true role

theorem filter_queryRows_other {role other : LineageRole} (h : other ≠ role)
    (rows : List (DecisionRow × ℕ)) :
    (queryRows other rows).filter (·.role == role) = [] := by
  rw [List.filter_eq_nil_iff]
  intro row hmem
  obtain ⟨old, -, rfl⟩ := List.mem_map.mp hmem
  rwa [beq_iff_eq]

theorem sortOn_queryRows (role : LineageRole) {rows : List (DecisionRow × ℕ)}
    (h : rows.Pairwise fun first second => first.2 ≤ second.2) :
    sortOn (fun row : LineageRow => toLex (row.role.rank, row.depth)) (queryRows role rows) =
      queryRows role rows := by
  refine List.Pairwise.insertionSort_eq ?_
  rw [queryRows, List.pairwise_map]
  refine h.imp fun hle => ?_
  exact Prod.Lex.toLex_le_toLex.mpr (.inr ⟨rfl, hle⟩)

theorem filter_lineageRows (decisionId : DecisionId) (workspaceId : Option WorkspaceId)
    (nodes : List DecisionRow) :
    (lineageRows decisionId workspaceId nodes).filter (·.role == .ancestor) =
        queryRows .ancestor
          (lineageQuery (·.supersedesDecisionId) decisionId workspaceId nodes) ∧
      (lineageRows decisionId workspaceId nodes).filter (·.role == .descendant) =
        queryRows .descendant
          (lineageQuery (·.supersededByDecisionId) decisionId workspaceId nodes) := by
  rw [lineageRows, filter_sortOn, filter_sortOn, List.filter_append, List.filter_append]
  constructor
  · refine (congrArg (sortOn _) (congrArg₂ (· ++ ·) (filter_queryRows_self .ancestor _)
      (filter_queryRows_other (by decide) _))).trans ?_
    rw [List.append_nil]
    exact sortOn_queryRows .ancestor (pairwise_lineageRounds ..)
  · refine (congrArg (sortOn _) (congrArg₂ (· ++ ·) (filter_queryRows_other (by decide) _)
      (filter_queryRows_self .descendant _))).trans ?_
    rw [List.nil_append]
    exact sortOn_queryRows .descendant (pairwise_lineageRounds ..)

theorem le_foldr_max {n : ℕ} (hn : 0 < n) (depths : List ℕ) :
    n ≤ depths.foldr max 0 ↔ ∃ depth ∈ depths, n ≤ depth := by
  induction depths with
  | nil => simp; omega
  | cons depth depths ih => simp [ih]

theorem mem_lineageRows {row : LineageRow} :
    row ∈ lineageRows decisionId workspaceId nodes ↔
      row ∈ queryRows .ancestor
          (lineageQuery (·.supersedesDecisionId) decisionId workspaceId nodes) ∨
        row ∈ queryRows .descendant
          (lineageQuery (·.supersededByDecisionId) decisionId workspaceId nodes) := by
  rw [lineageRows, mem_sortOn]
  exact List.mem_append

theorem exists_depth_queryRows (role : LineageRole) (rows : List (DecisionRow × ℕ)) (n : ℕ) :
    (∃ row ∈ queryRows role rows, n ≤ row.depth) ↔ ∃ row ∈ rows, n ≤ row.2 := by
  simp [queryRows]

/-! ## The relation behind the pointers -/

/-- A decision that supersedes another one lives in the same workspace. -/
def SameWorkspace (nodes : List DecisionRow) : Prop :=
  ∀ first ∈ nodes, ∀ second ∈ nodes, first.supersedesDecisionId = some second.decisionId →
    second.workspaceId = first.workspaceId

def DecisionOperation.CarriesWorkspace : DecisionOperation → Prop
  | .createDecision _ workspaceId .. => workspaceId ≠ none
  | .updateStatus .. => True

theorem SameWorkspace.update (h : SameWorkspace nodes) {p : DecisionRow → Bool}
    {f : DecisionRow → DecisionRow} (hid : ∀ row, (f row).decisionId = row.decisionId)
    (hpointer : ∀ row, (f row).supersedesDecisionId = row.supersedesDecisionId)
    (hworkspace : ∀ row, (f row).workspaceId = row.workspaceId) :
    SameWorkspace (updateWhere p f nodes) := by
  have hold : ∀ row ∈ updateWhere p f nodes, ∃ old ∈ nodes, row.decisionId = old.decisionId ∧
      row.supersedesDecisionId = old.supersedesDecisionId ∧
      row.workspaceId = old.workspaceId := by
    intro row hmem
    obtain ⟨old, hold, ⟨-, rfl⟩ | ⟨-, rfl⟩⟩ := mem_updateWhere.mp hmem
    · exact ⟨old, hold, hid old, hpointer old, hworkspace old⟩
    · exact ⟨row, hold, rfl, rfl, rfl⟩
  intro first hfirst second hsecond hlink
  obtain ⟨first', hfirst', -, hpointer', hws⟩ := hold first hfirst
  obtain ⟨second', hsecond', hid', -, hws'⟩ := hold second hsecond
  rw [hws, hws']
  exact h first' hfirst' second' hsecond' (by rw [← hpointer', hlink, hid'])

theorem visibleTo_some {w : WorkspaceId} {row : DecisionRow} :
    visibleTo (some w) row = true ↔ row.workspaceId = some w := by
  simp [visibleTo]

theorem sameWorkspace_step (hlinked : Linked nodes) (h : SameWorkspace nodes)
    {operation : DecisionOperation} (hcarries : operation.CarriesWorkspace) :
    SameWorkspace (step nodes operation) := by
  have heffect := step_effect nodes operation
  generalize step nodes operation = next at heffect
  cases heffect with
  | rejected => exact h
  | updated => exact h.update (fun _ => rfl) (fun _ => rfl) fun _ => rfl
  | @created payload workspaceId createdBySubject now haccepted =>
      obtain ⟨w, rfl⟩ := Option.ne_none_iff_exists'.mp hcarries
      have hnew := newDecisionId_notMem nodes
      have hinsert : SameWorkspace
          (nodes ++ [payload.row (newDecisionId nodes) (some w) createdBySubject now]) := by
        intro first hfirst second hsecond hlink
        rcases List.mem_append.mp hfirst with hold | hnewFirst
        · have hmem : second.decisionId ∈ decisionIds nodes :=
            hlinked.target_mem first.decisionId _ ⟨first, hold, rfl, hlink⟩
          rcases List.mem_append.mp hsecond with hold' | hnewSecond
          · exact h first hold second hold' hlink
          · rw [List.mem_singleton.mp hnewSecond] at hmem
            exact absurd hmem hnew
        · rw [List.mem_singleton.mp hnewFirst] at hlink ⊢
          have hat := (atDecision_inserted hlinked.nodup haccepted hlink second hsecond).mpr rfl
          exact visibleTo_some.mp (atDecision_iff.mp hat).2
      rw [withDecision, markSuperseded.eq_def]
      cases payload.supersedesDecisionId with
      | none => exact hinsert
      | some target =>
          exact hinsert.update (fun _ => rfl) (fun _ => rfl) fun _ => rfl

theorem sameWorkspace_run {operations : List DecisionOperation}
    (hcarries : ∀ operation ∈ operations, operation.CarriesWorkspace) :
    SameWorkspace (run step [] operations) := by
  suffices h : ∀ {nodes}, Linked nodes → SameWorkspace nodes →
      SameWorkspace (run step nodes operations) from
    h linked_nil fun _ hmem => absurd hmem List.not_mem_nil
  induction operations with
  | nil => exact fun _ h => h
  | cons operation operations ih =>
      intro nodes hlinked h
      exact ih (fun other hother => hcarries other (List.mem_cons_of_mem _ hother))
        (linked_step hlinked operation)
        (sameWorkspace_step hlinked h (hcarries operation List.mem_cons_self))

theorem symmetric_of_injective (hlinked : Linked nodes)
    (honce : ∀ x y z, Supersedes nodes x z → Supersedes nodes y z → x = y) :
    Symmetric nodes := by
  intro x y
  refine ⟨fun hxy => ?_, hlinked.sound x y⟩
  obtain ⟨z, hz⟩ := hlinked.marked x y hxy
  rwa [honce x z y hxy (hlinked.sound z y hz)]

/-- What a decision points to, for one whose identifier selects a visible row. -/
theorem nextDecision_eq_some (hnodup : (decisionIds nodes).Nodup) {x y : DecisionId}
    (hvisible : Visible workspaceId nodes x) :
    nextDecision pointer workspaceId nodes x = some y ↔ PointsTo pointer nodes x y := by
  obtain ⟨row, hmem, hat⟩ := hvisible
  rw [nextDecision, find?_atDecision hnodup hmem hat, Option.bind_some]
  constructor
  · intro hpointer
    exact ⟨row, hmem, (atDecision_iff.mp hat).1, hpointer⟩
  · rintro ⟨other, hother, hid, hpointer⟩
    rwa [List.inj_on_of_nodup_map hnodup hmem hother ((atDecision_iff.mp hat).1.trans hid.symm)]

theorem visible_of_supersedes (hlinked : Linked nodes)
    (hworkspace : workspaceId = none ∨ SameWorkspace nodes) {x y : DecisionId}
    (hxy : Supersedes nodes x y) :
    Visible workspaceId nodes x ↔ Visible workspaceId nodes y := by
  have hnodup := hlinked.nodup
  obtain ⟨second, hsecond, hsecondId⟩ := List.mem_map.mp (hlinked.target_mem x y hxy)
  obtain ⟨first, hfirst, hfirstId, hlink⟩ := hxy
  have hsame : visibleTo workspaceId second = visibleTo workspaceId first := by
    rcases hworkspace with rfl | hsame
    · rfl
    · have hpointer := hlink.trans (congrArg some hsecondId.symm)
      rw [visibleTo, visibleTo, hsame first hfirst second hsecond hpointer]
  have hiff : ∀ {row : DecisionRow} {id : DecisionId}, row ∈ nodes → row.decisionId = id →
      (Visible workspaceId nodes id ↔ visibleTo workspaceId row = true) := by
    intro row id hmem hid
    constructor
    · rintro ⟨other, hother, hat⟩
      obtain ⟨hotherId, hvisible⟩ := atDecision_iff.mp hat
      rwa [List.inj_on_of_nodup_map hnodup hmem hother (hid.trans hotherId.symm)]
    · intro hvisible
      exact ⟨row, hmem, atDecision_iff.mpr ⟨hid, hvisible⟩⟩
  rw [hiff hfirst hfirstId, hiff hsecond hsecondId, hsame]

theorem finds_ancestors (hlinked : Linked nodes)
    (hworkspace : workspaceId = none ∨ SameWorkspace nodes) :
    Finds (nextDecision (·.supersedesDecisionId) workspaceId nodes) (Supersedes nodes)
      (Visible workspaceId nodes) where
  next_iff _ hx _ := nextDecision_eq_some hlinked.nodup hx
  closed _ _ hx hxy := (visible_of_supersedes hlinked hworkspace hxy).mp hx

theorem finds_descendants (hlinked : Linked nodes) (hsymmetric : Symmetric nodes)
    (hworkspace : workspaceId = none ∨ SameWorkspace nodes) :
    Finds (nextDecision (·.supersededByDecisionId) workspaceId nodes) (flip (Supersedes nodes))
      (Visible workspaceId nodes) where
  next_iff x hx y := (nextDecision_eq_some hlinked.nodup hx).trans (hsymmetric y x).symm
  closed _ _ hy hxy := (visible_of_supersedes hlinked hworkspace hxy).mpr hy

/-! ## Exactness -/

/-- The decisions of both chains up to distance ten, in order, and whether there are more. -/
structure LineageExact (nodes : List DecisionRow) (decisionId : DecisionId)
    (lineage : DecisionLineageResponse) : Prop where
  ancestors : ∀ k x, (lineage.ancestors.map (·.decisionId))[k]? = some x ↔
    k < 10 ∧ Path (Supersedes nodes) (k + 1) decisionId x
  descendants : ∀ k x, (lineage.descendants.map (·.decisionId))[k]? = some x ↔
    k < 10 ∧ Path (Supersedes nodes) (k + 1) x decisionId
  nodup_ancestors : (lineage.ancestors.map (·.decisionId)).Nodup
  nodup_descendants : (lineage.descendants.map (·.decisionId)).Nodup
  stored : ∀ node ∈ lineage.ancestors ++ lineage.descendants,
    ∃ row ∈ nodes, node = lineageNode row
  truncated : lineage.depthLimitReached = true ↔
    (∃ x, TransGen (Supersedes nodes) decisionId x ∧
      x ∉ lineage.ancestors.map (·.decisionId)) ∨
    ∃ x, TransGen (Supersedes nodes) x decisionId ∧
      x ∉ lineage.descendants.map (·.decisionId)

/-- A chain of supersessions of this length leads from or to the decision. -/
def Reaches (nodes : List DecisionRow) (decisionId : DecisionId) (n : ℕ) : Prop :=
  (∃ x, Path (Supersedes nodes) n decisionId x) ∨ ∃ x, Path (Supersedes nodes) n x decisionId

theorem Reaches.of_succ {n : ℕ} (h : Reaches nodes decisionId (n + 1)) :
    Reaches nodes decisionId n := by
  rcases h with ⟨x, hpath⟩ | ⟨x, hpath⟩
  · obtain ⟨y, hpath, -⟩ := path_add.mp hpath
    exact .inl ⟨y, hpath⟩
  · obtain ⟨y, -, hpath⟩ := hpath
    exact .inr ⟨y, hpath⟩

theorem map_decisionId_queryRows (role : LineageRole) (rows : List (DecisionRow × ℕ)) :
    ((queryRows role rows).map (·.node)).map (·.decisionId) =
      (rows.map fun row => (row.1.decisionId, row.2)).map Prod.fst := by
  simp only [queryRows, List.map_map]
  rfl

/-- One side of a lineage, read through a pointer that finds a relation. -/
structure SideExact (R : DecisionId → DecisionId → Prop) (decisionId : DecisionId)
    (rows : List (DecisionRow × ℕ)) (side : List DecisionId) : Prop where
  position : ∀ k x, side[k]? = some x ↔ k < 10 ∧ Path R (k + 1) decisionId x
  nodup : side.Nodup
  beyond : (∃ x, TransGen R decisionId x ∧ x ∉ side) ↔ ∃ x, Path R 11 decisionId x
  deep : (∃ row ∈ rows, 10 ≤ row.2) ↔ ∃ x, Path R 10 decisionId x

theorem lineageQuery_exact (hlinked : Linked nodes) {R : DecisionId → DecisionId → Prop}
    (hfinds : Finds (nextDecision pointer workspaceId nodes) R (Visible workspaceId nodes))
    (hacyclic : Acyclic R) (hvisible : Visible workspaceId nodes decisionId) (role : LineageRole) :
    SideExact R decisionId (lineageQuery pointer decisionId workspaceId nodes)
      (((queryRows role (lineageQuery pointer decisionId workspaceId nodes)).map
        (·.node)).map (·.decisionId)) := by
  have hnext : ∀ id target, Visible workspaceId nodes id →
      nextDecision pointer workspaceId nodes id = some target →
        Visible workspaceId nodes target := by
    intro id target hid htarget
    exact hfinds.closed id target hid ((hfinds.next_iff id hid target).mp htarget)
  have hrows : (lineageQuery pointer decisionId workspaceId nodes).map
      (fun row => (row.1.decisionId, row.2)) =
        (follow (nextDecision pointer workspaceId nodes) maxLineageDepth
          (nextDecision pointer workspaceId nodes decisionId)).zipIdx 1 :=
    lineageRounds_follow hlinked.nodup hnext (hnext decisionId · hvisible) 1 maxLineageDepth
  rw [map_decisionId_queryRows]
  refine ⟨?_, ?_, ?_, ?_⟩
  · intro k x
    rw [hrows, List.zipIdx_map_fst]
    exact getElem?_follow hfinds hvisible maxLineageDepth k x
  · rw [hrows, List.zipIdx_map_fst]
    exact nodup_follow hfinds hacyclic hvisible maxLineageDepth
  · rw [hrows, List.zipIdx_map_fst]
    exact exists_notMem_follow hfinds hacyclic hvisible maxLineageDepth
  · have hdepth : (∃ row ∈ lineageQuery pointer decisionId workspaceId nodes, 10 ≤ row.2) ↔
        ∃ pair ∈ (lineageQuery pointer decisionId workspaceId nodes).map
          (fun row => (row.1.decisionId, row.2)), 10 ≤ pair.2 := by
      simp only [List.mem_map, exists_exists_and_eq_and]
    rw [hdepth, hrows]
    constructor
    · rintro ⟨⟨x, depth⟩, hmem, hle⟩
      rw [List.mem_zipIdx_iff_le_and_getElem?_sub] at hmem
      have hposition := (getElem?_follow hfinds hvisible maxLineageDepth _ x).mp hmem.2
      have hlast : depth - 1 = 9 := by
        have := hposition.1
        simp only [maxLineageDepth] at this
        omega
      rw [hlast] at hposition
      exact ⟨x, hposition.2⟩
    · rintro ⟨x, hpath⟩
      refine ⟨(x, 10), List.mem_zipIdx_iff_le_and_getElem?_sub.mpr ⟨Nat.le_add_left 1 9, ?_⟩,
        le_rfl⟩
      exact (getElem?_follow hfinds hvisible maxLineageDepth 9 x).mpr ⟨by decide, hpath⟩

/-- The response carries both queries, and the flag the depth they reach. -/
theorem getLineage_eq (hvisible : Visible workspaceId nodes decisionId) :
    ∃ lineage, getLineage decisionId workspaceId nodes = .ok lineage ∧
      lineage.ancestors = (queryRows .ancestor
        (lineageQuery (·.supersedesDecisionId) decisionId workspaceId nodes)).map (·.node) ∧
      lineage.descendants = (queryRows .descendant
        (lineageQuery (·.supersededByDecisionId) decisionId workspaceId nodes)).map (·.node) ∧
      (lineage.depthLimitReached = true ↔
        (∃ row ∈ lineageQuery (·.supersedesDecisionId) decisionId workspaceId nodes,
          10 ≤ row.2) ∨
        ∃ row ∈ lineageQuery (·.supersededByDecisionId) decisionId workspaceId nodes,
          10 ≤ row.2) := by
  obtain ⟨row, hmem, hat⟩ := hvisible
  obtain ⟨hancestors, hdescendants⟩ := filter_lineageRows decisionId workspaceId nodes
  cases hfind : nodes.find? (atDecision decisionId workspaceId) with
  | none => exact absurd hat (List.find?_eq_none.mp hfind row hmem)
  | some base =>
      simp only [getLineage, hfind]
      refine ⟨_, rfl, congrArg _ hancestors, congrArg _ hdescendants, ?_⟩
      rw [decide_eq_true_iff, le_foldr_max (by decide)]
      simp only [List.mem_map, exists_exists_and_eq_and, mem_lineageRows, or_and_right, exists_or]
      exact or_congr (exists_depth_queryRows ..) (exists_depth_queryRows ..)

theorem stored_queryRows {role : LineageRole} {node : LineageNode}
    (h : node ∈ (queryRows role (lineageQuery pointer decisionId workspaceId nodes)).map
      (·.node)) : ∃ row ∈ nodes, node = lineageNode row := by
  obtain ⟨row, hrow, rfl⟩ := List.mem_map.mp h
  obtain ⟨old, hold, rfl⟩ := List.mem_map.mp hrow
  exact ⟨old.1, mem_of_mem_lineageRounds (fun _ => mem_of_mem_pointedTo) hold, rfl⟩

theorem getLineage_spec (hlinked : Linked nodes)
    (hworkspace : workspaceId = none ∨ SameWorkspace nodes)
    (honce : ∀ x y z, Supersedes nodes x z → Supersedes nodes y z → x = y)
    (hvisible : Visible workspaceId nodes decisionId) :
    ∃ lineage, getLineage decisionId workspaceId nodes = .ok lineage ∧
      (LineageExact nodes decisionId lineage ↔
        (Reaches nodes decisionId 10 → Reaches nodes decisionId 11)) := by
  have hsymmetric := symmetric_of_injective hlinked honce
  have hup := lineageQuery_exact hlinked (finds_ancestors hlinked hworkspace) hlinked.acyclic
    hvisible .ancestor
  have hdown := lineageQuery_exact hlinked (finds_descendants hlinked hsymmetric hworkspace)
    (acyclic_flip hlinked.acyclic) hvisible .descendant
  obtain ⟨lineage, hok, hancestors, hdescendants, hflag⟩ := getLineage_eq hvisible
  rw [← hancestors] at hup
  rw [← hdescendants] at hdown
  have hreached : lineage.depthLimitReached = true ↔ Reaches nodes decisionId 10 := by
    rw [hflag, hup.deep, hdown.deep, Reaches]
    simp only [path_flip]
  have hbeyond : ((∃ x, TransGen (Supersedes nodes) decisionId x ∧
        x ∉ lineage.ancestors.map (·.decisionId)) ∨
      ∃ x, TransGen (Supersedes nodes) x decisionId ∧
        x ∉ lineage.descendants.map (·.decisionId)) ↔ Reaches nodes decisionId 11 := by
    have hswap := hdown.beyond
    simp only [path_flip, transGen_flip] at hswap
    rw [hup.beyond, hswap, Reaches]
  refine ⟨lineage, hok, fun hexact hten => ?_, fun hmore => ?_⟩
  · exact hbeyond.mp (hexact.truncated.mp (hreached.mpr hten))
  · refine ⟨hup.position, fun k x => ?_, hup.nodup, hdown.nodup, ?_, ?_⟩
    · rw [hdown.position k x, path_flip]
    · intro node hmem
      rcases List.mem_append.mp hmem with hmem | hmem
      · rw [hancestors] at hmem
        exact stored_queryRows hmem
      · rw [hdescendants] at hmem
        exact stored_queryRows hmem
    · rw [hreached, hbeyond]
      exact ⟨hmore, Reaches.of_succ⟩

/-- In a reachable store where no decision is superseded twice, a lineage is exact unless the
longest chain from the decision ends with the tenth one. -/
theorem lineageExact_iff {operations : List DecisionOperation}
    (hworkspace : workspaceId = none ∨ ∀ operation ∈ operations, operation.CarriesWorkspace)
    (honce : ∀ x y z, Supersedes (run step [] operations) x z →
      Supersedes (run step [] operations) y z → x = y)
    (hvisible : Visible workspaceId (run step [] operations) decisionId) :
    ∃ lineage, getLineage decisionId workspaceId (run step [] operations) = .ok lineage ∧
      (LineageExact (run step [] operations) decisionId lineage ↔
        (Reaches (run step [] operations) decisionId 10 →
          Reaches (run step [] operations) decisionId 11)) :=
  getLineage_spec (linked_run operations) (hworkspace.imp_right sameWorkspace_run) honce hvisible

/-- Each of so many decisions supersedes the one before it. -/
def createChain (length : ℕ) : List DecisionOperation :=
  (List.range length).map fun k =>
    .createDecision (decision (if k = 0 then none else some k)) (some 1) none (10 * k)

theorem createChain_carriesWorkspace {length : ℕ} :
    ∀ operation ∈ createChain length, operation.CarriesWorkspace := by
  intro operation hmem
  obtain ⟨k, -, rfl⟩ := List.mem_map.mp hmem
  exact Option.some_ne_none 1

theorem supersedes_injective_of_rows
    (h : ∀ first ∈ nodes, ∀ second ∈ nodes, first.supersedesDecisionId ≠ none →
      first.supersedesDecisionId = second.supersedesDecisionId →
        first.decisionId = second.decisionId) :
    ∀ x y z, Supersedes nodes x z → Supersedes nodes y z → x = y := by
  rintro x y z ⟨first, hfirst, rfl, hz⟩ ⟨second, hsecond, rfl, hz'⟩
  refine h first hfirst second hsecond (fun hnone => ?_) (hz.trans hz'.symm)
  exact Option.some_ne_none z (hz.symm.trans hnone)

/-- Two decisions are far from ten. -/
theorem lineageExact_iff_two :
    ∃ lineage, getLineage 2 (some 1) (run step [] (createChain 2)) = .ok lineage ∧
      (LineageExact (run step [] (createChain 2)) 2 lineage ↔
        (Reaches (run step [] (createChain 2)) 2 10 →
          Reaches (run step [] (createChain 2)) 2 11)) :=
  lineageExact_iff (.inr createChain_carriesWorkspace)
    (supersedes_injective_of_rows (by decide +kernel)) (by unfold Visible; decide +kernel)

theorem Path.add_le {R : ℕ → ℕ → Prop} (h : ∀ a b, R a b → b < a) {n a b : ℕ}
    (hpath : Path R n a b) : b + n ≤ a := by
  induction n generalizing a with
  | zero => exact (congrArg (b ≤ ·) hpath).mpr le_rfl
  | succ n ih =>
      obtain ⟨c, hac, hpath⟩ := hpath
      have := h a c hac
      have := ih hpath
      omega

theorem path_of_consecutive {R : ℕ → ℕ → Prop} {a n : ℕ}
    (h : ∀ i < n, R (a + i + 1) (a + i)) : Path R n (a + n) a := by
  induction n with
  | zero => rfl
  | succ n ih =>
      exact ⟨a + n, h n n.lt_succ_self, ih fun i hi => h i (hi.trans n.lt_succ_self)⟩

/-- The eleventh decision of a chain has ten ancestors, which are all listed. -/
theorem not_lineageExact_eleven :
    (∀ x y z, Supersedes (run step [] (createChain 11)) x z →
      Supersedes (run step [] (createChain 11)) y z → x = y) ∧
    ∃ lineage, getLineage 11 (some 1) (run step [] (createChain 11)) = .ok lineage ∧
      ¬ LineageExact (run step [] (createChain 11)) 11 lineage := by
  have honce : ∀ x y z, Supersedes (run step [] (createChain 11)) x z →
      Supersedes (run step [] (createChain 11)) y z → x = y :=
    supersedes_injective_of_rows (by decide +kernel)
  have hedge : ∀ i < 10, Supersedes (run step [] (createChain 11)) (1 + i + 1) (1 + i) := by
    unfold Supersedes PointsTo
    decide +kernel
  have hrows : ∀ row ∈ run step [] (createChain 11), row.decisionId ≤ 11 ∧
      ∀ target, row.supersedesDecisionId = some target →
        0 < target ∧ target < row.decisionId := by
    decide +kernel
  have hbound : ∀ x y : ℕ, Supersedes (run step [] (createChain 11)) x y →
      x ≤ 11 ∧ 0 < y ∧ y < x := by
    rintro x y ⟨row, hmem, rfl, htarget⟩
    exact ⟨(hrows row hmem).1, (hrows row hmem).2 y htarget⟩
  have hend : ¬ Reaches (run step [] (createChain 11)) 11 11 := by
    rintro (⟨x, hpath⟩ | ⟨x, hpath⟩)
    · obtain ⟨y, hpath', hlast⟩ := (path_add (m := 10) (n := 1)).mp hpath
      have := (hbound y x (path_one.mp hlast)).2
      have := Path.add_le (fun a b hab => (hbound a b hab).2.2) hpath'
      omega
    · obtain ⟨y, hfirst, hpath'⟩ := (path_add (m := 1) (n := 10)).mp hpath
      have := hbound x y (path_one.mp hfirst)
      have := Path.add_le (fun a b hab => (hbound a b hab).2.2) hpath'
      omega
  have hvisible : Visible (some 1) (run step [] (createChain 11)) 11 := by
    unfold Visible
    decide +kernel
  obtain ⟨lineage, hok, hiff⟩ := getLineage_spec (linked_run (createChain 11))
    (.inr (sameWorkspace_run createChain_carriesWorkspace)) honce hvisible
  refine ⟨honce, lineage, hok, fun hexact => hend (hiff.mp hexact (.inl ⟨1, ?_⟩))⟩
  exact path_of_consecutive hedge

end MemoryLab.Decisions

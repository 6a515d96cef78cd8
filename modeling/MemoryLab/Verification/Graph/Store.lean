import MemoryLab.Library.Runs
import MemoryLab.Model.EdgeOperations

/-! # What the indexes on edges guarantee, and what an insert leaves -/

namespace MemoryLab.HubEdges

open Library Library.Rows Library.Runs EdgeInference

/-! ## The indexes -/

/-- The entry of a row in the unique index on active keys. -/
def activeKey (row : HubEdge) : Option Text := if isActive row then some row.edgeKey else none

structure StoreValid (edges : List HubEdge) : Prop where
  ids : (edges.map (·.id)).Nodup
  keys : (edges.filterMap activeKey).Nodup

theorem storeValid_nil : StoreValid [] :=
  ⟨List.nodup_nil, List.nodup_nil⟩

theorem activeWithKey_eq_none {db : Database} {edgeKey : Text} :
    activeWithKey db edgeKey = none ↔ edgeKey ∉ db.hubEdges.filterMap activeKey := by
  rw [activeWithKey, List.find?_eq_none, List.mem_filterMap]
  constructor
  · rintro h ⟨row, hrow, hkey⟩
    refine h row hrow ?_
    unfold activeKey at hkey
    split at hkey
    · rename_i hactive
      simp [holdsKey, hactive, Option.some.inj hkey]
    · cases hkey
  · intro h row hrow hholds
    simp only [holdsKey, Bool.and_eq_true, beq_iff_eq] at hholds
    exact h ⟨row, hrow, by rw [activeKey, if_pos hholds.1, hholds.2]⟩

theorem activeWithKey_spec {db : Database} {edgeKey : Text} {row : HubEdge}
    (h : activeWithKey db edgeKey = some row) :
    row ∈ db.hubEdges ∧ isActive row = true ∧ row.edgeKey = edgeKey := by
  have hholds := List.find?_some h
  simp only [holdsKey, Bool.and_eq_true, beq_iff_eq] at hholds
  exact ⟨List.mem_of_find?_eq_some h, hholds⟩

/-- At most one active row holds a key. -/
theorem StoreValid.holder_unique {edges : List HubEdge} (h : StoreValid edges) {a b : HubEdge}
    (ha : a ∈ edges) (hb : b ∈ edges) (hactive : isActive a = true) (hactive' : isActive b = true)
    (hkey : a.edgeKey = b.edgeKey) : a = b := by
  have hsome : activeKey a = some a.edgeKey := by rw [activeKey, if_pos hactive]
  have hsome' : activeKey b = some a.edgeKey := by rw [activeKey, if_pos hactive', hkey]
  have hkeys := h.keys
  clear h
  induction edges with
  | nil => cases ha
  | cons row edges ih =>
      have htail : (edges.filterMap activeKey).Nodup := by
        rw [List.filterMap_cons] at hkeys
        split at hkeys
        · exact hkeys
        · exact (List.nodup_cons.mp hkeys).2
      have hhead : ∀ {c d : HubEdge}, d ∈ edges → activeKey c = some a.edgeKey →
          activeKey d = some a.edgeKey → row ≠ c := by
        rintro c d hd hc hsame rfl
        rw [List.filterMap_cons_some hc, List.nodup_cons] at hkeys
        exact hkeys.1 (List.mem_filterMap.mpr ⟨d, hd, hsame⟩)
      rcases List.mem_cons.mp ha with harow | haedges
      · rcases List.mem_cons.mp hb with hbrow | hbedges
        · exact harow.trans hbrow.symm
        · exact (hhead hbedges hsome hsome' harow.symm).elim
      · rcases List.mem_cons.mp hb with hbrow | hbedges
        · exact (hhead haedges hsome' hsome hbrow.symm).elim
        · exact ih haedges hbedges htail

theorem StoreValid.eq_of_id {edges : List HubEdge} (h : StoreValid edges) {a b : HubEdge}
    (ha : a ∈ edges) (hb : b ∈ edges) (hid : a.id = b.id) : a = b :=
  List.inj_on_of_nodup_map h.ids ha hb hid

/-! ### The indexes after a statement -/

theorem StoreValid.append {edges : List HubEdge} (h : StoreValid edges) {row : HubEdge}
    (hid : row.id = freshId (edges.map (·.id))) (hkey : row.edgeKey ∉ edges.filterMap activeKey) :
    StoreValid (edges ++ [row]) := by
  constructor
  · rw [List.map_append, List.map_singleton]
    refine h.ids.append (List.nodup_singleton _) ?_
    rw [List.disjoint_singleton, hid]
    exact freshId_notMem _
  · rw [List.filterMap_append]
    refine h.keys.append ?_ ?_
    · cases hactive : isActive row <;> simp [activeKey, hactive]
    · cases hactive : isActive row <;> simp [activeKey, hactive, hkey]

/-- An assignment that leaves identifiers, keys and archival dates alone. -/
theorem StoreValid.updateWhere {edges : List HubEdge} (h : StoreValid edges) {p : HubEdge → Bool}
    {f : HubEdge → HubEdge} (hf : ∀ row, (f row).id = row.id ∧ activeKey (f row) = activeKey row) :
    StoreValid (Rows.updateWhere p f edges) := by
  constructor
  · rw [map_updateWhere HubEdge.id (fun row => (hf row).1)]
    exact h.ids
  · have hkeys : (Rows.updateWhere p f edges).filterMap activeKey = edges.filterMap activeKey := by
      rw [Rows.updateWhere, List.filterMap_map]
      refine List.filterMap_congr fun row _ => ?_
      by_cases hp : p row = true <;> simp [hp, (hf row).2]
    rw [hkeys]
    exact h.keys

theorem filterMap_archive (p : HubEdge → Bool) (now : Timestamp) (edges : List HubEdge) :
    ((Rows.updateWhere p (setArchived now) edges).filterMap activeKey).Sublist
      (edges.filterMap activeKey) := by
  induction edges with
  | nil => exact List.Sublist.slnil
  | cons row edges ih =>
      rw [Rows.updateWhere] at ih
      rw [Rows.updateWhere, List.map_cons]
      by_cases hp : p row = true
      · have hnone : activeKey (setArchived now row) = none := rfl
        rw [if_pos hp, List.filterMap_cons_none hnone, List.filterMap_cons]
        split
        · exact ih
        · exact ih.cons _
      · rw [if_neg hp, List.filterMap_cons, List.filterMap_cons]
        split
        · exact ih
        · exact ih.cons_cons _

theorem StoreValid.archive {edges : List HubEdge} (h : StoreValid edges) (p : HubEdge → Bool)
    (now : Timestamp) : StoreValid (Rows.updateWhere p (setArchived now) edges) := by
  constructor
  · have hids : (Rows.updateWhere p (setArchived now) edges).map (·.id) = edges.map (·.id) :=
      map_updateWhere HubEdge.id (by intro _; rfl) _
    rw [hids]
    exact h.ids
  · exact h.keys.sublist (filterMap_archive p now edges)

/-! ## An inserted row -/

theorem named_spec {α : Type} {name : α → String} {values : List α} {text : Text} {value : α}
    (h : named name values text = some value) : text = (name value).toList := by
  have hname := List.find?_some h
  exact (beq_iff_eq.mp hname).symm

/-- The columns of a row that an `INSERT` makes. -/
structure Inserted (values : EdgeValues) (edges : List HubEdge) (row : HubEdge) : Prop where
  source : Uuid.parse values.sourceHubId = some row.sourceHubId
  target : Uuid.parse values.targetHubId = some row.targetHubId
  type : values.type = (EdgeType.name row.type).toList
  edgeKey : row.edgeKey = values.edgeKey
  status : row.status = values.status
  active : isActive row = true
  id : row.id = freshId (edges.map (·.id))

theorem EdgeValues.inserted {values : EdgeValues} {db : Database} {now : Timestamp} {row : HubEdge}
    (h : values.row db now = .ok row) : Inserted values db.hubEdges row := by
  unfold EdgeValues.row at h
  split at h
  · rename_i source target hsource htarget
    split at h
    · cases h
    · split at h
      · cases h
      · rename_i type htype
        split at h
        · cases h
        · cases h
          exact ⟨hsource, htarget, named_spec htype, rfl, rfl, rfl, rfl⟩
  · cases h

theorem appendEdge_spec {db next : Database} {row stored : HubEdge}
    (h : appendEdge db row = .ok (next, stored)) :
    next = { db with hubEdges := db.hubEdges ++ [row] } ∧ stored = row := by
  unfold appendEdge at h
  split at h
  · cases h
    exact ⟨rfl, rfl⟩
  · cases h

/-! ## The effect of each operation -/

/-- A row is added under a key that no active row holds. -/
structure Appends (db next : Database) (row : HubEdge) : Prop where
  next_eq : next = { db with hubEdges := db.hubEdges ++ [row] }
  free : row.edgeKey ∉ db.hubEdges.filterMap activeKey
  id : row.id = freshId (db.hubEdges.map (·.id))

theorem Appends.storeValid {db next : Database} {row : HubEdge} (h : Appends db next row)
    (hvalid : StoreValid db.hubEdges) : StoreValid next.hubEdges := by
  rw [h.next_eq]
  exact hvalid.append h.id h.free

def CreateRequest.values (request : CreateRequest) (status : EdgeStatus) (origin : EdgeOrigin) :
    EdgeValues :=
  { sourceHubId := request.sourceHubId, targetHubId := request.targetHubId,
    workspaceId := request.workspaceId, type := request.edgeType, status, origin,
    confidence := request.confidence, reason := request.reason, note := request.note,
    weight := request.weight,
    edgeKey := computeEdgeKey request.sourceHubId request.targetHubId request.edgeType,
    createdBy := request.createdBy }

theorem createEdge_effect {db next : Database} {now : Timestamp} {request : CreateRequest}
    {row : HubEdge} (h : createEdge db now request = .ok (next, row)) :
    ∃ status origin, named EdgeStatus.name validStatuses request.status = some status ∧
      Inserted (request.values status origin) db.hubEdges row ∧ Appends db next row := by
  unfold createEdge at h
  split at h
  · cases h
  · split at h
    · cases h
    · rename_i status hstatus
      split at h
      · cases h
      · rename_i origin horigin
        dsimp only at h
        split at h
        · cases h
        · split at h
          · cases h
          · rename_i inserted hinserted
            split at h
            · cases h
            · rename_i hfree
              obtain ⟨hnext, rfl⟩ := appendEdge_spec h
              have hrow := EdgeValues.inserted hinserted
              refine ⟨status, origin, hstatus, hrow, hnext, ?_, hrow.id⟩
              rw [hrow.edgeKey]
              exact activeWithKey_eq_none.mp (by simpa using hfree)

def ReviewRequest.values (request : ReviewRequest) (status : EdgeStatus) (origin : EdgeOrigin)
    (confidence : Option ℚ) : EdgeValues :=
  { sourceHubId := request.sourceHubId, targetHubId := request.targetHubId,
    workspaceId := request.workspaceId, type := request.edgeType, status, origin, confidence,
    reason := request.reason, note := request.note, weight := some 1,
    edgeKey := computeEdgeKey request.sourceHubId request.targetHubId request.edgeType,
    createdBy := some request.createdBy }

def ReviewRequest.edgeKey (request : ReviewRequest) : Text :=
  computeEdgeKey request.sourceHubId request.targetHubId request.edgeType

/-- The active row of the pair's key is assigned, or a row is added under the key. -/
theorem upsertReviewed_effect {db next : Database} {now : Timestamp} {request : ReviewRequest}
    {status : EdgeStatus} {origin : EdgeOrigin} {confidence : Option ℚ}
    {assign : HubEdge → HubEdge} {stored : HubEdge}
    (h : upsertReviewed db now request status origin confidence assign = .ok (next, stored)) :
    ∃ row, Inserted (request.values status origin confidence) db.hubEdges row ∧
      ((∃ existing, activeWithKey db request.edgeKey = some existing ∧
          stored = assign existing ∧ next = { db with
            hubEdges := updateWhere (fun row => row.id == existing.id) assign db.hubEdges }) ∨
        (activeWithKey db request.edgeKey = none ∧ stored = row ∧ Appends db next row)) := by
  unfold upsertReviewed at h
  dsimp only at h
  split at h
  · cases h
  · split at h
    · cases h
    · rename_i row hrow
      have hinserted := EdgeValues.inserted hrow
      refine ⟨row, hinserted, ?_⟩
      split at h
      · rename_i existing hexisting
        cases h
        exact .inl ⟨existing, hexisting, rfl, rfl⟩
      · rename_i hnone
        obtain ⟨hnext, rfl⟩ := appendEdge_spec h
        refine .inr ⟨hnone, rfl, hnext, ?_, hinserted.id⟩
        rw [hinserted.edgeKey]
        exact activeWithKey_eq_none.mp hnone

theorem updateEdge_effect {db next : Database} {now : Timestamp} {edgeId : EdgeId}
    {updates : EdgeUpdates} {workspaceId : Option WorkspaceId} {row : Option HubEdge}
    (h : updateEdge db now edgeId updates workspaceId = .ok (next, row)) :
    next = db ∨ next = { db with
      hubEdges := updateWhere (matchesEdge edgeId workspaceId)
        (updates.assign (updates.type.bind (named EdgeType.name allTypes))
          (updates.status.bind (named EdgeStatus.name validStatuses)) now) db.hubEdges } := by
  unfold updateEdge at h
  split at h
  · cases h
    exact .inl rfl
  · dsimp only at h
    split at h
    · cases h
    · split at h
      · cases h
      · split at h
        · cases h
        · split at h
          · cases h
          · cases h
            exact .inr rfl

/-- A proposal is skipped when its key is held, and inserted otherwise. -/
theorem persistProposal_effect {now : Timestamp} {workspaceId : WorkspaceId} {createdBy : Text}
    {before after : Database × PersistCounts} {proposal : EdgeProposal}
    (h : persistProposal now workspaceId createdBy before proposal = .ok after) :
    after.1 = before.1 ∨
      (activeWithKey before.1 proposal.edgeKey = none ∧
        ∃ row, Inserted (proposalValues proposal workspaceId createdBy) before.1.hubEdges row ∧
          Appends before.1 after.1 row) := by
  unfold persistProposal at h
  dsimp only at h
  split at h
  · cases h
  · rename_i row hrow
    have hinserted := EdgeValues.inserted hrow
    split at h
    · cases h
      exact .inl rfl
    · rename_i hheld
      have hnone : activeWithKey before.1 proposal.edgeKey = none := by simpa using hheld
      cases happend : appendEdge before.1 row with
      | error error =>
          rw [happend] at h
          cases h
      | ok outcome =>
          obtain ⟨hnext, -⟩ := appendEdge_spec happend
          rw [happend] at h
          cases h
          refine .inr ⟨hnone, row, hinserted, hnext, ?_, hinserted.id⟩
          rw [hinserted.edgeKey]
          exact activeWithKey_eq_none.mp hnone

theorem runEdgeInference_effect {db next : Database} {now : Timestamp} {workspaceId : WorkspaceId}
    {settings : InferenceSettings} {report : InferenceReport}
    (h : runEdgeInference db now workspaceId settings = .ok (next, report)) :
    next = db ∨ ∃ counts, persistEdgeProposals db now (inferredProposals db workspaceId settings)
      workspaceId producerVersion = .ok (next, counts) := by
  unfold runEdgeInference at h
  dsimp only at h
  split at h
  · cases h
    exact .inl rfl
  · cases hpersist : persistEdgeProposals db now (inferredProposals db workspaceId settings)
        workspaceId producerVersion with
    | error error =>
        rw [hpersist] at h
        cases h
    | ok outcome =>
        rw [hpersist] at h
        cases h
        exact .inr ⟨outcome.2, rfl⟩

/-! ## The indexes along a run -/

theorem committedOr_of {ε α : Type} {P : Database → Prop} {db : Database}
    {result : Except ε (Database × α)} (hdb : P db)
    (h : ∀ next outcome, result = .ok (next, outcome) → P next) : P (committedOr db result) := by
  cases result with
  | error error => exact hdb
  | ok outcome => exact h outcome.1 outcome.2 rfl

theorem activeKey_eq {a b : HubEdge} (harchived : a.archivedAt = b.archivedAt)
    (hkey : a.edgeKey = b.edgeKey) : activeKey a = activeKey b := by
  rw [activeKey, activeKey, isActive, isActive, harchived, hkey]

theorem storeValid_upsertReviewed {db next : Database} {now : Timestamp} {request : ReviewRequest}
    {status : EdgeStatus} {origin : EdgeOrigin} {confidence : Option ℚ}
    {assign : HubEdge → HubEdge} {stored : HubEdge}
    (hassign : ∀ row, (assign row).id = row.id ∧ activeKey (assign row) = activeKey row)
    (h : upsertReviewed db now request status origin confidence assign = .ok (next, stored))
    (hvalid : StoreValid db.hubEdges) : StoreValid next.hubEdges := by
  obtain ⟨row, -, ⟨existing, -, -, hnext⟩ | ⟨-, -, hnext⟩⟩ := upsertReviewed_effect h
  · rw [hnext]
    exact hvalid.updateWhere hassign
  · exact hnext.storeValid hvalid

theorem storeValid_persist {db next : Database} {now : Timestamp} {proposals : List EdgeProposal}
    {workspaceId : WorkspaceId} {createdBy : Text} {counts : PersistCounts}
    (h : persistEdgeProposals db now proposals workspaceId createdBy = .ok (next, counts))
    (hvalid : StoreValid db.hubEdges) : StoreValid next.hubEdges := by
  refine foldlM_invariant (P := fun progress => StoreValid progress.1.hubEdges) h hvalid ?_
  intro before after proposal _ hbefore hstep
  rcases persistProposal_effect hstep with hsame | ⟨-, row, -, hnext⟩
  · rw [hsame]
    exact hbefore
  · exact hnext.storeValid hbefore

/-- Every operation keeps the indexes. -/
theorem storeValid_edgeStep {db : Database} (hvalid : StoreValid db.hubEdges)
    (operation : EdgeOperation) : StoreValid (edgeStep db operation).hubEdges := by
  cases operation with
  | create now request =>
      refine committedOr_of (P := fun next => StoreValid next.hubEdges) hvalid ?_
      intro next row h
      obtain ⟨status, origin, -, -, hnext⟩ := createEdge_effect h
      exact hnext.storeValid hvalid
  | update now edgeId updates workspaceId =>
      refine committedOr_of (P := fun next => StoreValid next.hubEdges) hvalid ?_
      intro next row h
      rcases updateEdge_effect h with rfl | rfl
      · exact hvalid
      · exact hvalid.updateWhere fun row => ⟨rfl, activeKey_eq rfl rfl⟩
  | archive now edgeId workspaceId => exact hvalid.archive _ now
  | approve now request confidence =>
      refine committedOr_of (P := fun next => StoreValid next.hubEdges) hvalid ?_
      intro next row h
      refine storeValid_upsertReviewed ?_ h hvalid
      exact fun row => ⟨rfl, activeKey_eq rfl rfl⟩
  | reject now request =>
      refine committedOr_of (P := fun next => StoreValid next.hubEdges) hvalid ?_
      intro next row h
      refine storeValid_upsertReviewed ?_ h hvalid
      exact fun row => ⟨rfl, activeKey_eq rfl rfl⟩
  | persist now proposals workspaceId createdBy =>
      refine committedOr_of (P := fun next => StoreValid next.hubEdges) hvalid ?_
      intro next counts h
      exact storeValid_persist h hvalid
  | produce now workspaceId settings =>
      refine committedOr_of (P := fun next => StoreValid next.hubEdges) hvalid ?_
      intro next report h
      rcases runEdgeInference_effect h with rfl | ⟨counts, hpersist⟩
      · exact hvalid
      · exact storeValid_persist hpersist hvalid
  | elsewhere other => exact hvalid

end MemoryLab.HubEdges

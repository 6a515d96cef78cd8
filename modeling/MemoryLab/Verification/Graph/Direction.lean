import MemoryLab.Verification.Graph.EdgeKeys

/-! # The direction of a reviewed edge -/

namespace MemoryLab.HubEdges

open Library Library.Rows

/-! ## One review -/

inductive Review where
  | approve (confidence : Option ℚ)
  | reject
deriving DecidableEq

def Review.status : Review → EdgeStatus
  | .approve _ => .approved
  | .reject => .rejected

def reviewEdge (db : Database) (now : Timestamp) (request : ReviewRequest) :
    Review → Except EdgeError (Database × HubEdge)
  | .approve confidence => approveInferredEdge db now request confidence
  | .reject => rejectInferredEdge db now request

/-- The columns that say which edge a row is. -/
structure SameEdge (a b : HubEdge) : Prop where
  id : a.id = b.id
  source : a.sourceHubId = b.sourceHubId
  target : a.targetHubId = b.targetHubId
  workspace : a.workspaceId = b.workspaceId
  type : a.type = b.type
  edgeKey : a.edgeKey = b.edgeKey
  archivedAt : a.archivedAt = b.archivedAt

/-- A review assigns the row that holds its key, or adds a row. -/
inductive Reviewed (db : Database) (request : ReviewRequest) (review : Review) :
    Database → HubEdge → Prop where
  | assigned (existing : HubEdge) (assign : HubEdge → HubEdge)
      (hexisting : activeWithKey db request.edgeKey = some existing)
      (hassign : ∀ row, SameEdge (assign row) row ∧ (assign row).status = review.status) :
      Reviewed db request review { db with
        hubEdges := updateWhere (fun row => row.id == existing.id) assign db.hubEdges }
        (assign existing)
  | added (next : Database) (row : HubEdge) (origin : EdgeOrigin) (confidence : Option ℚ)
      (hfree : activeWithKey db request.edgeKey = none)
      (hrow : Inserted (request.values review.status origin confidence) db.hubEdges row)
      (hnext : Appends db next row) : Reviewed db request review next row

theorem reviewed {db next : Database} {now : Timestamp} {request : ReviewRequest}
    {review : Review} {row : HubEdge} (h : reviewEdge db now request review = .ok (next, row)) :
    Reviewed db request review next row := by
  cases review with
  | approve confidence =>
      obtain ⟨inserted, hinserted, ⟨existing, hexisting, rfl, rfl⟩ | ⟨hfree, rfl, hnext⟩⟩ :=
        upsertReviewed_effect h
      · exact .assigned existing _ hexisting fun row => ⟨⟨rfl, rfl, rfl, rfl, rfl, rfl, rfl⟩, rfl⟩
      · exact .added next _ _ _ hfree hinserted hnext
  | reject =>
      obtain ⟨inserted, hinserted, ⟨existing, hexisting, rfl, rfl⟩ | ⟨hfree, rfl, hnext⟩⟩ :=
        upsertReviewed_effect h
      · exact .assigned existing _ hexisting fun row => ⟨⟨rfl, rfl, rfl, rfl, rfl, rfl, rfl⟩, rfl⟩
      · exact .added next _ _ _ hfree hinserted hnext

/-! ## Direction -/

/-- The stored row runs as the review says, and opposite rows of the type are as they were. -/
structure DirectionKept (db next : Database) (source target : HubId) (edgeType : Text)
    (row : HubEdge) : Prop where
  runsFrom : row.sourceHubId = source
  runsTo : row.targetHubId = target
  stored : row ∈ next.hubEdges
  opposite : ∀ edge ∈ db.hubEdges, edge.sourceHubId = target → edge.targetHubId = source →
    (EdgeType.name edge.type).toList = edgeType → edge ∈ next.hubEdges

/-- The active rows under the key of a review run in its direction. -/
def SameDirection (db : Database) (request : ReviewRequest) (source target : HubId) : Prop :=
  ∀ edge ∈ db.hubEdges, holdsKey request.edgeKey edge = true →
    edge.sourceHubId = source ∧ edge.targetHubId = target

instance (db : Database) (request : ReviewRequest) (source target : HubId) :
    Decidable (SameDirection db request source target) :=
  inferInstanceAs (Decidable (∀ _ ∈ _, _))

theorem mem_updateWhere_id {edges : List HubEdge} {existing edge : HubEdge}
    {assign : HubEdge → HubEdge} (hedge : edge ∈ edges) (hid : edge.id ≠ existing.id) :
    edge ∈ updateWhere (fun row => row.id == existing.id) assign edges :=
  mem_updateWhere.mpr ⟨edge, hedge, .inr ⟨beq_eq_false_iff_ne.mpr hid, rfl⟩⟩

/-- A review keeps direction exactly when no active row holds its key the other way round. -/
theorem directionKept_iff {db next : Database} {now : Timestamp} {request : ReviewRequest}
    {review : Review} {row : HubEdge} {source target : HubId} (hvalid : StoreValid db.hubEdges)
    (hsource : Uuid.parse request.sourceHubId = some source)
    (htarget : Uuid.parse request.targetHubId = some target) (hne : source ≠ target)
    (h : reviewEdge db now request review = .ok (next, row)) :
    DirectionKept db next source target request.edgeType row ↔
      SameDirection db request source target := by
  cases reviewed h with
  | assigned existing assign hexisting hassign =>
      obtain ⟨hmem, hactive, hkey⟩ := activeWithKey_spec hexisting
      have hsame := (hassign existing).1
      constructor
      · intro hkept edge hedge hholds
        simp only [holdsKey, Bool.and_eq_true, beq_iff_eq] at hholds
        rw [hvalid.holder_unique hedge hmem hholds.1 hactive (hholds.2.trans hkey.symm)]
        exact ⟨hsame.source.symm.trans hkept.runsFrom, hsame.target.symm.trans hkept.runsTo⟩
      · intro hdirection
        have hholds : holdsKey request.edgeKey existing = true := by simp [holdsKey, hactive, hkey]
        obtain ⟨hfrom, hto⟩ := hdirection existing hmem hholds
        refine ⟨hsame.source.trans hfrom, hsame.target.trans hto, ?_, ?_⟩
        · exact mem_updateWhere.mpr ⟨existing, hmem, .inl ⟨beq_self_eq_true _, rfl⟩⟩
        · intro edge hedge hback _ _
          refine mem_updateWhere_id hedge fun hid => hne ?_
          rw [← hfrom, ← hvalid.eq_of_id hedge hmem hid, hback]
  | added _ _ origin confidence hfree hrow hnext =>
      refine iff_of_true ⟨?_, ?_, ?_, ?_⟩ ?_
      · exact Option.some.inj (hrow.source.symm.trans hsource)
      · exact Option.some.inj (hrow.target.symm.trans htarget)
      · rw [hnext.next_eq]
        exact List.mem_append_right _ (List.mem_singleton_self row)
      · intro edge hedge _ _ _
        rw [hnext.next_eq]
        exact List.mem_append_left _ hedge
      · intro edge hedge hholds
        exact absurd hholds (List.find?_eq_none.mp hfree edge hedge)

theorem directionKept_launch :
    let request : ReviewRequest :=
      { sourceHubId := (Uuid.mk 10).text, targetHubId := (Uuid.mk 11).text,
        edgeType := "parent".toList }
    ∃ next row, reviewEdge twoHubs 1 request .reject = .ok (next, row) ∧
      DirectionKept twoHubs next ⟨10⟩ ⟨11⟩ "parent".toList row := by
  intro request
  have hok : (reviewEdge twoHubs 1 request .reject).isOk = true := by decide +kernel
  cases h : reviewEdge twoHubs 1 request .reject with
  | error error =>
      rw [h] at hok
      cases hok
  | ok outcome =>
      obtain ⟨next, row⟩ := outcome
      refine ⟨next, row, rfl, (directionKept_iff ?_ ?_ ?_ ?_ h).mpr ?_⟩
      · exact storeValid_nil
      · exact Uuid.parse_text _
      · exact Uuid.parse_text _
      · decide
      · exact List.forall_mem_nil _

/-- Approving `s` as the parent of `t` re-statuses the edge that says the opposite. -/
theorem not_directionKept_opposite :
    let existing : HubEdge :=
      { id := 1, sourceHubId := ⟨11⟩, targetHubId := ⟨10⟩, workspaceId := some 1, type := .parent,
        status := .rejected, origin := .inferredRejected,
        edgeKey := computeEdgeKey (Uuid.mk 11).text (Uuid.mk 10).text "parent".toList,
        createdAt := 1, updatedAt := 1 }
    let db := { twoHubs with hubEdges := [existing] }
    let request : ReviewRequest :=
      { sourceHubId := (Uuid.mk 10).text, targetHubId := (Uuid.mk 11).text,
        edgeType := "parent".toList }
    ∃ next row, reviewEdge db 2 request (.approve none) = .ok (next, row) ∧
      row.sourceHubId = ⟨11⟩ ∧ row.targetHubId = ⟨10⟩ ∧ existing ∉ next.hubEdges ∧
      ¬ DirectionKept db next ⟨10⟩ ⟨11⟩ "parent".toList row := by
  intro existing db request
  have hresult : (reviewEdge db 2 request (.approve none)).toOption.map
      (fun outcome => (outcome.2.sourceHubId, outcome.2.targetHubId,
        decide (existing ∈ outcome.1.hubEdges))) = some (⟨11⟩, ⟨10⟩, false) := by decide +kernel
  cases h : reviewEdge db 2 request (.approve none) with
  | error error =>
      rw [h] at hresult
      cases hresult
  | ok outcome =>
      obtain ⟨next, row⟩ := outcome
      rw [h] at hresult
      simp only [Except.toOption, Option.map_some, Option.some.injEq, Prod.mk.injEq,
        decide_eq_false_iff_not] at hresult
      obtain ⟨hfrom, hto, hmem⟩ := hresult
      refine ⟨next, row, rfl, hfrom, hto, hmem, fun hkept => ?_⟩
      have hsame : (⟨10⟩ : HubId) = ⟨11⟩ := hkept.runsFrom.symm.trans hfrom
      revert hsame
      decide

end MemoryLab.HubEdges

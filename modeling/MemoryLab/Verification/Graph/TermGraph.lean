import MemoryLab.Model.HubTermGraph
import MemoryLab.Verification.Graph.Direction

/-! # Whether reviewed edges are walked -/

namespace MemoryLab.HubTermGraph

open Library Library.Rows HubEdges

/-! ## What a loaded graph answers -/

theorem mem_foldl_union {α β : Type*} [DecidableEq β] {f : α → Finset β} {items : List α}
    {start : Finset β} {b : β} :
    b ∈ items.foldl (fun all item => all ∪ f item) start ↔
      b ∈ start ∨ ∃ item ∈ items, b ∈ f item := by
  induction items generalizing start with
  | nil => simp
  | cons item items ih =>
      rw [List.foldl_cons, ih, Finset.mem_union, List.exists_mem_cons_iff, or_assoc]

theorem mem_getNeighbors {graph : TermGraph} {inner : Text → ℚ → Finset Text} {node : Text}
    {minConfidence : ℚ} {term : Text} :
    term ∈ getNeighbors graph inner node minConfidence ↔
      term ∈ inner node minConfidence ∨
        ∃ edge ∈ graph.edges, term ∈ edgeTerms graph.hubTerms node minConfidence edge := by
  rw [getNeighbors, Finset.mem_union, mem_foldl_union, or_comm]
  simp

/-- The state is within the row limits of the loader. -/
structure WithinLimits (db : Database) (workspaceId : WorkspaceId) : Prop where
  hubs : (db.hubs.filter (isListed workspaceId)).length ≤ maxHubs
  edges : (db.hubEdges.filter (isWalked workspaceId)).length ≤ maxEdges

def edgeOf (row : HubEdge) : HubId × HubId × ℚ :=
  (row.sourceHubId, row.targetHubId, row.confidence.getD 1)

theorem mem_loadEdges {db : Database} {workspaceId : WorkspaceId}
    (h : (db.hubEdges.filter (isWalked workspaceId)).length ≤ maxEdges)
    {edge : HubId × HubId × ℚ} :
    edge ∈ loadEdges db workspaceId ↔
      ∃ row ∈ db.hubEdges.filter (isWalked workspaceId), edge = edgeOf row := by
  rw [loadEdges, List.take_of_length_le (by rwa [List.length_insertionSort]), List.mem_map]
  constructor
  · rintro ⟨row, hrow, rfl⟩
    exact ⟨row, (List.mem_insertionSort _).mp hrow, rfl⟩
  · rintro ⟨row, hrow, rfl⟩
    exact ⟨row, (List.mem_insertionSort _).mpr hrow, rfl⟩

/-! ## A review and the walked rows -/

/-- A term that the graph gives without the row of a key: the inner graph has it, or another
walked row leads to it. -/
def SuppliedWithout (db : Database) (workspaceId : WorkspaceId) (edgeKey : Text)
    (inner : Text → ℚ → Finset Text) (node : Text) (minConfidence : ℚ) (term : Text) : Prop :=
  term ∈ inner node minConfidence ∨
    ∃ row ∈ db.hubEdges, isWalked workspaceId row = true ∧ holdsKey edgeKey row = false ∧
      term ∈ edgeTerms (loadHubTerms db workspaceId) node minConfidence (edgeOf row)

/-- A reviewed row is not walked, and the walked rows of other keys stay. -/
theorem walked_review {db next : Database} {now : Timestamp} {request : ReviewRequest}
    {review : Review} {row : HubEdge} (hvalid : StoreValid db.hubEdges)
    (h : reviewEdge db now request review = .ok (next, row)) (workspaceId : WorkspaceId) :
    next.hubEdges.filter (isWalked workspaceId) =
      db.hubEdges.filter fun row => isWalked workspaceId row && !holdsKey request.edgeKey row := by
  have hunwalked : ∀ row : HubEdge, row.status = review.status →
      isWalked workspaceId row = false := by
    intro row hstatus
    cases review <;> simp [isWalked, hstatus, Review.status]
  cases reviewed h with
  | assigned existing assign hexisting hassign =>
      obtain ⟨hmem, hactive, hkey⟩ := activeWithKey_spec hexisting
      dsimp only
      rw [filter_updateWhere_of_not fun row _ _ => hunwalked _ (hassign row).2]
      refine List.filter_congr fun row hrow => ?_
      cases hwalked : isWalked workspaceId row with
      | false => rfl
      | true =>
          have hiff : (row.id == existing.id) = true ↔ holdsKey request.edgeKey row = true := by
            constructor
            · intro hid
              rw [hvalid.eq_of_id hrow hmem (beq_iff_eq.mp hid)]
              simp [holdsKey, hactive, hkey]
            · intro hholds
              simp only [holdsKey, Bool.and_eq_true, beq_iff_eq] at hholds
              rw [hvalid.holder_unique hrow hmem hholds.1 hactive (hholds.2.trans hkey.symm)]
              exact beq_self_eq_true _
          rw [Bool.eq_iff_iff.mpr hiff]
  | added _ _ origin confidence hfree hrow hnext =>
      have hnew : [row].filter (isWalked workspaceId) = [] := by
        rw [List.filter_singleton, hunwalked row hrow.status]
        rfl
      rw [hnext.next_eq]
      dsimp only
      rw [List.filter_append, hnew, List.append_nil]
      refine List.filter_congr fun row hrow => ?_
      have hnone : holdsKey request.edgeKey row = false := by
        simpa using List.find?_eq_none.mp hfree row hrow
      rw [hnone, Bool.not_false, Bool.and_true]

theorem hubs_review {db next : Database} {now : Timestamp} {request : ReviewRequest}
    {review : Review} {row : HubEdge} (h : reviewEdge db now request review = .ok (next, row)) :
    next.hubs = db.hubs := by
  cases reviewed h with
  | assigned existing assign hexisting hassign => rfl
  | added _ _ origin confidence hfree hrow hnext => rw [hnext.next_eq]

theorem withinLimits_review {db next : Database} {now : Timestamp} {request : ReviewRequest}
    {review : Review} {row : HubEdge} {workspaceId : WorkspaceId} (hvalid : StoreValid db.hubEdges)
    (hlimits : WithinLimits db workspaceId)
    (h : reviewEdge db now request review = .ok (next, row)) : WithinLimits next workspaceId := by
  constructor
  · rw [hubs_review h]
    exact hlimits.hubs
  · rw [walked_review hvalid h]
    refine (List.Sublist.length_le ?_).trans hlimits.edges
    exact List.monotone_filter_right _ fun row hrow => (Bool.and_eq_true_iff.mp hrow).1

/-- After a review the graph answers what it is supplied without the reviewed row. -/
theorem mem_neighbors_review {db next : Database} {now : Timestamp} {request : ReviewRequest}
    {review : Review} {row : HubEdge} {workspaceId : WorkspaceId} (hvalid : StoreValid db.hubEdges)
    (hlimits : WithinLimits db workspaceId)
    (h : reviewEdge db now request review = .ok (next, row)) (inner : Text → ℚ → Finset Text)
    (node : Text) (minConfidence : ℚ) (term : Text) :
    term ∈ getNeighbors (load next workspaceId) inner node minConfidence ↔
      SuppliedWithout db workspaceId request.edgeKey inner node minConfidence term := by
  have hterms : loadHubTerms next workspaceId = loadHubTerms db workspaceId := by
    rw [loadHubTerms, loadHubTerms, hubs_review h]
  rw [mem_getNeighbors, SuppliedWithout]
  refine or_congr_right ?_
  have hedges {edge : HubId × HubId × ℚ} : edge ∈ loadEdges next workspaceId ↔
      ∃ row ∈ next.hubEdges.filter (isWalked workspaceId), edge = edgeOf row :=
    mem_loadEdges (withinLimits_review hvalid hlimits h).edges
  simp only [load, hterms, hedges, walked_review hvalid h, List.mem_filter, Bool.and_eq_true,
    Bool.not_eq_true']
  constructor
  · rintro ⟨-, ⟨row, ⟨hrow, hwalked, hkey⟩, rfl⟩, hterm⟩
    exact ⟨row, hrow, hwalked, hkey, hterm⟩
  · rintro ⟨row, hrow, hwalked, hkey, hterm⟩
    exact ⟨_, ⟨row, ⟨hrow, hwalked, hkey⟩, rfl⟩, hterm⟩

/-! ## Approval and rejection -/

/-- A term that reaches the source of an approval and not its target, whose terms are given. -/
structure ApprovalCase (db : Database) (request : ReviewRequest) (confidence : Option ℚ)
    (workspaceId : WorkspaceId) (minConfidence : ℚ) (hubA hubB : Hub) (node : Text) : Prop where
  source : Uuid.parse request.sourceHubId = some hubA.hubId
  target : Uuid.parse request.targetHubId = some hubB.hubId
  workspace : request.workspaceId = some workspaceId
  listedA : hubA ∈ db.hubs ∧ isListed workspaceId hubA = true
  listedB : hubB ∈ db.hubs ∧ isListed workspaceId hubB = true
  titles : hubA.title.strip ≠ [] ∧ hubB.title.strip ≠ []
  confident : ∀ value ∈ confidence, minConfidence ≤ value
  reaches : node ∈ termsOf hubA.title hubA.aliases
  avoids : matchesTerms node.strip.lower (termsOf hubB.title hubB.aliases) = false

/-- After the approval the terms of the target are neighbours; after a rejection that follows they
are not all, unless they are supplied without the reviewed row. -/
structure WalkedWhileApproved (db next : Database) (request : ReviewRequest)
    (confidence : Option ℚ) (workspaceId : WorkspaceId) (inner : Text → ℚ → Finset Text)
    (minConfidence : ℚ) : Prop where
  approved : ∀ hubA hubB node,
    ApprovalCase db request confidence workspaceId minConfidence hubA hubB node →
      ∀ term ∈ termsOf hubB.title hubB.aliases,
        term ∈ getNeighbors (load next workspaceId) inner node minConfidence
  rejected : ∀ now last row, rejectInferredEdge next now request = .ok (last, row) →
    ∀ hubA hubB node,
      ApprovalCase db request confidence workspaceId minConfidence hubA hubB node →
        (∀ term ∈ termsOf hubB.title hubB.aliases,
          term ∈ getNeighbors (load last workspaceId) inner node minConfidence) →
        ∀ term ∈ termsOf hubB.title hubB.aliases,
          SuppliedWithout next workspaceId request.edgeKey inner node minConfidence term

/-- An approved edge is walked exactly when the graph is supplied with its terms otherwise. -/
theorem walkedWhileApproved_iff {db next : Database} {now : Timestamp} {request : ReviewRequest}
    {confidence : Option ℚ} {row : HubEdge} {workspaceId : WorkspaceId}
    (hvalid : StoreValid db.hubEdges) (hlimits : WithinLimits db workspaceId)
    (h : approveInferredEdge db now request confidence = .ok (next, row))
    (inner : Text → ℚ → Finset Text) (minConfidence : ℚ) :
    WalkedWhileApproved db next request confidence workspaceId inner minConfidence ↔
      ∀ hubA hubB node,
        ApprovalCase db request confidence workspaceId minConfidence hubA hubB node →
          ∀ term ∈ termsOf hubB.title hubB.aliases,
            SuppliedWithout db workspaceId request.edgeKey inner node minConfidence term := by
  have happrove : reviewEdge db now request (.approve confidence) = .ok (next, row) := h
  have hneighbors := mem_neighbors_review hvalid hlimits happrove inner
  constructor
  · intro hwalked hubA hubB node hcase term hterm
    exact (hneighbors node minConfidence term).mp (hwalked.approved hubA hubB node hcase term hterm)
  · intro hsupplied
    refine ⟨fun hubA hubB node hcase term hterm => ?_, ?_⟩
    · exact (hneighbors node minConfidence term).mpr (hsupplied hubA hubB node hcase term hterm)
    · intro later last rejected hreject hubA hubB node _ hall term hterm
      have hnext : StoreValid next.hubEdges := by
        have hstep := storeValid_edgeStep hvalid (.approve now request confidence)
        rwa [edgeStep, h] at hstep
      have hreview : reviewEdge next later request .reject = .ok (last, rejected) := hreject
      exact (mem_neighbors_review hnext (withinLimits_review hvalid hlimits happrove) hreview inner
        node minConfidence term).mp (hall term hterm)

def approvePair : ReviewRequest :=
  { sourceHubId := (Uuid.mk 10).text, targetHubId := (Uuid.mk 11).text,
    edgeType := "related".toList, workspaceId := some 1 }

/-- Two hubs that another curated edge joins. -/
def joinedHubs : Database :=
  { twoHubs with hubEdges := [
      { id := 1, sourceHubId := ⟨10⟩, targetHubId := ⟨11⟩, workspaceId := some 1, type := .parent,
        status := .manual, origin := .manual,
        edgeKey := computeEdgeKey (Uuid.mk 10).text (Uuid.mk 11).text "parent".toList,
        createdAt := 1, updatedAt := 1 }] }

theorem walkedWhileApproved_launch :
    ∃ next row, approveInferredEdge joinedHubs 2 approvePair none = .ok (next, row) ∧
      WalkedWhileApproved joinedHubs next approvePair none 1 (fun _ _ => ∅) (7 / 10) := by
  have hok : (approveInferredEdge joinedHubs 2 approvePair none).isOk = true := by decide +kernel
  cases h : approveInferredEdge joinedHubs 2 approvePair none with
  | error error =>
      rw [h] at hok
      cases hok
  | ok outcome =>
      obtain ⟨next, row⟩ := outcome
      refine ⟨next, row, rfl, (walkedWhileApproved_iff ?_ ?_ h _ _).mpr ?_⟩
      · exact ⟨by decide, by decide +kernel⟩
      · exact ⟨by decide +kernel, by decide +kernel⟩
      · intro hubA hubB node hcase term hterm
        have hnode : ∀ hubA ∈ twoHubs.hubs, ∀ hubB ∈ twoHubs.hubs,
            some hubA.hubId = Uuid.parse approvePair.sourceHubId →
            some hubB.hubId = Uuid.parse approvePair.targetHubId →
              termsOf hubA.title hubA.aliases = {"alpha".toList} ∧
                termsOf hubB.title hubB.aliases = {"beta".toList} := by decide +kernel
        obtain ⟨hA, hB⟩ := hnode hubA hcase.listedA.1 hubB hcase.listedB.1 hcase.source.symm
          hcase.target.symm
        have hreaches := hcase.reaches
        rw [hA, Finset.mem_singleton] at hreaches
        rw [hB, Finset.mem_singleton] at hterm
        rw [hreaches, hterm]
        refine .inr ⟨_, List.mem_singleton_self _, ?_, ?_, ?_⟩
        all_goals decide +kernel

/-- The only edge between two hubs is approved and not walked. -/
theorem not_walkedWhileApproved_approved :
    ∃ next row, approveInferredEdge twoHubs 2 approvePair none = .ok (next, row) ∧
      ¬ WalkedWhileApproved twoHubs next approvePair none 1 (fun _ _ => ∅) (7 / 10) := by
  have hresult : (approveInferredEdge twoHubs 2 approvePair none).toOption.map
      (fun outcome => decide ("beta".toList ∈ getNeighbors (load outcome.1 1) (fun _ _ => ∅)
        "alpha".toList (7 / 10))) = some false := by decide +kernel
  cases h : approveInferredEdge twoHubs 2 approvePair none with
  | error error =>
      rw [h] at hresult
      cases hresult
  | ok outcome =>
      obtain ⟨next, row⟩ := outcome
      rw [h] at hresult
      simp only [Except.toOption, Option.map_some, Option.some.injEq, decide_eq_false_iff_not]
        at hresult
      refine ⟨next, row, rfl, fun hwalked => hresult ?_⟩
      let hubA : Hub := ⟨⟨10⟩, some 1, true, "alpha".toList, [], []⟩
      let hubB : Hub := ⟨⟨11⟩, some 1, true, "beta".toList, [], []⟩
      have hcase : ApprovalCase twoHubs approvePair none 1 (7 / 10) hubA hubB "alpha".toList :=
        ⟨Uuid.parse_text _, Uuid.parse_text _, rfl, by decide, by decide, by decide +kernel,
          by simp, by decide +kernel, by decide +kernel⟩
      exact hwalked.approved hubA hubB "alpha".toList hcase "beta".toList (by decide +kernel)

end MemoryLab.HubTermGraph

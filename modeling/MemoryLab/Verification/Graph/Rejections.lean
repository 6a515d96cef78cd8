import MemoryLab.Verification.Graph.Direction

/-! # What the producer leaves of a rejected pair -/

namespace MemoryLab.HubEdges

open Library Library.Rows Library.Runs EdgeInference

/-! ## Keys that are held -/

def heldKeys (db : Database) : List Text := db.hubEdges.filterMap activeKey

theorem Appends.heldKeys {db next : Database} {row : HubEdge} (h : Appends db next row)
    {edgeKey : Text} (hheld : edgeKey ∈ heldKeys db) : edgeKey ∈ heldKeys next := by
  rw [HubEdges.heldKeys, h.next_eq, List.filterMap_append]
  exact List.mem_append_left _ hheld

theorem heldKeys_updateWhere {db : Database} {p : HubEdge → Bool} {f : HubEdge → HubEdge}
    (hf : ∀ row, activeKey (f row) = activeKey row) :
    heldKeys { db with hubEdges := updateWhere p f db.hubEdges } = heldKeys db := by
  rw [heldKeys, heldKeys, updateWhere, List.filterMap_map]
  refine List.filterMap_congr fun row _ => ?_
  by_cases hp : p row = true <;> simp [hp, hf]

theorem SameEdge.activeKey {a b : HubEdge} (h : SameEdge a b) : activeKey a = activeKey b :=
  activeKey_eq h.archivedAt h.edgeKey

theorem heldKeys_review {db next : Database} {now : Timestamp} {request : ReviewRequest}
    {review : Review} {row : HubEdge} (h : reviewEdge db now request review = .ok (next, row))
    {edgeKey : Text} (hheld : edgeKey ∈ heldKeys db) : edgeKey ∈ heldKeys next := by
  cases reviewed h with
  | assigned existing assign hexisting hassign =>
      rw [heldKeys_updateWhere fun row => (hassign row).1.activeKey]
      exact hheld
  | added _ _ origin confidence hfree hrow hnext => exact hnext.heldKeys hheld

theorem heldKeys_persist {db next : Database} {now : Timestamp} {proposals : List EdgeProposal}
    {workspaceId : WorkspaceId} {createdBy : Text} {counts : PersistCounts}
    (h : persistEdgeProposals db now proposals workspaceId createdBy = .ok (next, counts))
    {edgeKey : Text} (hheld : edgeKey ∈ heldKeys db) : edgeKey ∈ heldKeys next := by
  refine foldlM_invariant (P := fun progress => edgeKey ∈ heldKeys progress.1) h hheld ?_
  intro before after proposal _ hbefore hstep
  rcases persistProposal_effect hstep with hsame | ⟨-, row, -, hnext⟩
  · rw [hsame]
    exact hbefore
  · exact hnext.heldKeys hbefore

/-- Only an archival frees a key. -/
theorem heldKeys_edgeStep {db : Database} {operation : EdgeOperation} {edgeKey : Text}
    (hheld : edgeKey ∈ heldKeys db)
    (harchive : ∀ now edgeId workspaceId, operation = .archive now edgeId workspaceId →
      ∀ row ∈ db.hubEdges, matchesEdge edgeId workspaceId row = true →
        holdsKey edgeKey row = false) : edgeKey ∈ heldKeys (edgeStep db operation) := by
  cases operation with
  | create now request =>
      refine committedOr_of (P := fun next => edgeKey ∈ heldKeys next) hheld ?_
      intro next row h
      obtain ⟨status, origin, -, -, hnext⟩ := createEdge_effect h
      exact hnext.heldKeys hheld
  | update now edgeId updates workspaceId =>
      refine committedOr_of (P := fun next => edgeKey ∈ heldKeys next) hheld ?_
      intro next row h
      rcases updateEdge_effect h with rfl | rfl
      · exact hheld
      · rw [heldKeys_updateWhere]
        · exact hheld
        · exact fun row => activeKey_eq rfl rfl
  | archive now edgeId workspaceId =>
      obtain ⟨row, hrow, hkey⟩ := List.mem_filterMap.mp hheld
      refine List.mem_filterMap.mpr ⟨row, mem_updateWhere.mpr ⟨row, hrow, .inr ⟨?_, rfl⟩⟩, hkey⟩
      by_contra hselected
      rw [Bool.not_eq_false, Bool.and_eq_true] at hselected
      have hfree := harchive now edgeId workspaceId rfl row hrow hselected.1
      rw [activeKey, if_pos hselected.2, Option.some.injEq] at hkey
      simp [holdsKey, hselected.2, hkey] at hfree
  | approve now request confidence =>
      refine committedOr_of (P := fun next => edgeKey ∈ heldKeys next) hheld ?_
      intro next row h
      have hreview : reviewEdge db now request (.approve confidence) = .ok (next, row) := h
      exact heldKeys_review hreview hheld
  | reject now request =>
      refine committedOr_of (P := fun next => edgeKey ∈ heldKeys next) hheld ?_
      intro next row h
      have hreview : reviewEdge db now request .reject = .ok (next, row) := h
      exact heldKeys_review hreview hheld
  | persist now proposals workspaceId createdBy =>
      refine committedOr_of (P := fun next => edgeKey ∈ heldKeys next) hheld ?_
      intro next counts h
      exact heldKeys_persist h hheld
  | produce now workspaceId settings =>
      refine committedOr_of (P := fun next => edgeKey ∈ heldKeys next) hheld ?_
      intro next report h
      rcases runEdgeInference_effect h with rfl | ⟨counts, hpersist⟩
      · exact hheld
      · exact heldKeys_persist hpersist hheld
  | elsewhere other => exact hheld

/-! ## Producer runs -/

/-- Two identifiers in either order. -/
def isPair (a b source target : HubId) : Bool :=
  (source == a && target == b) || (source == b && target == a)

def joins (a b : HubId) (row : HubEdge) : Bool := isPair a b row.sourceHubId row.targetHubId

def relatedKey (a b : HubId) : Text := computeEdgeKey a.text b.text proposedEdgeType

theorem relatedKey_eq_of_isPair {a b source target : HubId} (h : isPair a b source target = true) :
    computeEdgeKey source.text target.text proposedEdgeType = relatedKey a b := by
  simp only [isPair, Bool.or_eq_true, Bool.and_eq_true, beq_iff_eq] at h
  rcases h with ⟨rfl, rfl⟩ | ⟨rfl, rfl⟩
  · rfl
  · exact computeEdgeKey_comm _ _ _

/-- While its key is held, no edge of a pair comes from the producer's proposals. -/
theorem persist_of_held {db next : Database} {now : Timestamp} {proposals : List EdgeProposal}
    {workspaceId : WorkspaceId} {createdBy : Text} {counts : PersistCounts} {a b : HubId}
    (h : persistEdgeProposals db now proposals workspaceId createdBy = .ok (next, counts))
    (hproducible : ∀ proposal ∈ proposals, Producible proposal)
    (hheld : relatedKey a b ∈ heldKeys db) :
    ∀ row ∈ next.hubEdges, joins a b row = true → row ∈ db.hubEdges := by
  refine (foldlM_invariant (P := fun progress => relatedKey a b ∈ heldKeys progress.1 ∧
    ∀ row ∈ progress.1.hubEdges, joins a b row = true → row ∈ db.hubEdges) h
    ⟨hheld, fun row hrow _ => hrow⟩ ?_).2
  rintro before after proposal hproposal ⟨hbefore, hrows⟩ hstep
  rcases persistProposal_effect hstep with hsame | ⟨hnone, row, hrow, hnext⟩
  · rw [hsame]
    exact ⟨hbefore, hrows⟩
  · refine ⟨hnext.heldKeys hbefore, fun other hother hjoins => ?_⟩
    rw [hnext.next_eq] at hother
    rcases List.mem_append.mp hother with hold | hnew
    · exact hrows other hold hjoins
    · rw [List.mem_singleton.mp hnew] at hjoins
      obtain ⟨hsource, htarget, htype⟩ := hproducible proposal hproposal
      have hkey : proposal.edgeKey = relatedKey a b := by
        have hfrom : proposal.sourceHubId = row.sourceHubId.text :=
          (Uuid.canonical_iff hrow.source).mp hsource
        have hto : proposal.targetHubId = row.targetHubId.text :=
          (Uuid.canonical_iff hrow.target).mp htarget
        rw [EdgeProposal.edgeKey, hfrom, hto, htype, relatedKey_eq_of_isPair hjoins]
      rw [hkey] at hnone
      exact absurd hbefore (activeWithKey_eq_none.mp hnone)

/-! ## Rejections that stand -/

/-- Whether a call names a pair of hubs under the producer's type. -/
def namesPair (a b : HubId) (source target edgeType : Text) : Bool :=
  edgeType == proposedEdgeType &&
    match Uuid.parse source, Uuid.parse target with
    | some source, some target => isPair a b source target
    | _, _ => false

/-- Whether a rejection of the pair stands after an operation: an accepted approval or creation
of the pair ends it. -/
def standsAfter (a b : HubId) (db : Database) (stands : Bool) : EdgeOperation → Bool
  | .reject now request => stands ||
      (rejectInferredEdge db now request).isOk &&
        namesPair a b request.sourceHubId request.targetHubId request.edgeType
  | .approve now request confidence => stands &&
      !((approveInferredEdge db now request confidence).isOk &&
        namesPair a b request.sourceHubId request.targetHubId request.edgeType)
  | .create now request => stands &&
      !((createEdge db now request).isOk &&
        namesPair a b request.sourceHubId request.targetHubId request.edgeType)
  | _ => stands

def trackedStep (a b : HubId) (s : Database × Bool) (operation : EdgeOperation) : Database × Bool :=
  (edgeStep s.1 operation, standsAfter a b s.1 s.2 operation)

/-- The operations of the producer: its runs, and proposals as it makes them. -/
def IsProducer : EdgeOperation → Prop
  | .produce .. => True
  | .persist _ proposals _ _ => ∀ proposal ∈ proposals, Producible proposal
  | _ => False

/-- The producer makes no edge of the pair inferred while a rejection stands. -/
def NotResurrected (a b : HubId) (s : Database × Bool) (operation : EdgeOperation) : Prop :=
  s.2 = true → IsProducer operation →
    ∀ row ∈ (edgeStep s.1 operation).hubEdges, joins a b row = true → isActive row = true →
      row.status = .inferred → row ∈ s.1.hubEdges

/-- The first rejection spells the hubs as the database does, and no archival takes the row that
holds the pair's key while a rejection stands. -/
def KeepsRejection (a b : HubId) (s : Database × Bool) : EdgeOperation → Prop
  | .reject now request => s.2 = false → (rejectInferredEdge s.1 now request).isOk = true →
      namesPair a b request.sourceHubId request.targetHubId request.edgeType = true →
        Spelled request.sourceHubId request.targetHubId
  | .archive _ edgeId workspaceId => s.2 = true →
      ∀ row ∈ s.1.hubEdges, matchesEdge edgeId workspaceId row = true →
        holdsKey (relatedKey a b) row = false
  | _ => True

instance (a b : HubId) (s : Database × Bool) : (operation : EdgeOperation) →
    Decidable (KeepsRejection a b s operation)
  | .reject .. => inferInstanceAs (Decidable (_ → _))
  | .archive .. => inferInstanceAs (Decidable (_ → _))
  | .create .. => .isTrue trivial
  | .update .. => .isTrue trivial
  | .approve .. => .isTrue trivial
  | .persist .. => .isTrue trivial
  | .produce .. => .isTrue trivial
  | .elsewhere .. => .isTrue trivial

/-- The memory of a rejection: some active row holds the pair's key. -/
def Remembered (a b : HubId) (s : Database × Bool) : Prop :=
  s.2 = true → relatedKey a b ∈ heldKeys s.1

/-- A rejection under the database's spelling leaves a row under the pair's key. -/
theorem held_of_reject {db next : Database} {now : Timestamp} {request : ReviewRequest}
    {row : HubEdge} {a b : HubId} (h : rejectInferredEdge db now request = .ok (next, row))
    (hnames : namesPair a b request.sourceHubId request.targetHubId request.edgeType = true)
    (hspelled : Spelled request.sourceHubId request.targetHubId) :
    relatedKey a b ∈ heldKeys next := by
  have hkey : request.edgeKey = relatedKey a b := by
    obtain ⟨⟨source, hsource⟩, ⟨target, htarget⟩⟩ := hspelled
    simp only [namesPair, hsource, htarget, Uuid.parse_text, Bool.and_eq_true, beq_iff_eq] at hnames
    rw [ReviewRequest.edgeKey, hsource, htarget, hnames.1, relatedKey_eq_of_isPair hnames.2]
  rw [← hkey]
  have hreview : reviewEdge db now request .reject = .ok (next, row) := h
  cases reviewed hreview with
  | assigned existing assign hexisting hassign =>
      rw [heldKeys_updateWhere fun row => (hassign row).1.activeKey]
      by_contra hnone
      rw [activeWithKey_eq_none.mpr hnone] at hexisting
      cases hexisting
  | added _ _ origin confidence hfree hrow hnext =>
      refine List.mem_filterMap.mpr ⟨row, ?_, ?_⟩
      · rw [hnext.next_eq]
        exact List.mem_append_right _ (List.mem_singleton_self row)
      · rw [activeKey, if_pos hrow.active, hrow.edgeKey]
        rfl

theorem remembered_trackedStep {a b : HubId} {s : Database × Bool} {operation : EdgeOperation}
    (hs : Remembered a b s) (hkeeps : KeepsRejection a b s operation) :
    Remembered a b (trackedStep a b s operation) := by
  intro hafter
  by_cases hstands : s.2 = true
  · refine heldKeys_edgeStep (hs hstands) ?_
    rintro now edgeId workspaceId rfl
    exact hkeeps hstands
  · rw [Bool.not_eq_true] at hstands
    cases operation with
    | reject now request =>
        simp only [trackedStep, standsAfter, hstands, Bool.false_or, Bool.and_eq_true] at hafter
        cases h : rejectInferredEdge s.1 now request with
        | error error =>
            rw [h] at hafter
            exact Bool.noConfusion hafter.1
        | ok outcome =>
            have hheld := held_of_reject h hafter.2 (hkeeps hstands hafter.1 hafter.2)
            simpa only [trackedStep, edgeStep, h, committedOr] using hheld
    | create now request => simp [trackedStep, standsAfter, hstands] at hafter
    | approve now request confidence => simp [trackedStep, standsAfter, hstands] at hafter
    | update now edgeId updates workspaceId => simp [trackedStep, standsAfter, hstands] at hafter
    | archive now edgeId workspaceId => simp [trackedStep, standsAfter, hstands] at hafter
    | persist now proposals workspaceId createdBy =>
        simp [trackedStep, standsAfter, hstands] at hafter
    | produce now workspaceId settings => simp [trackedStep, standsAfter, hstands] at hafter
    | elsewhere other => simp [trackedStep, standsAfter, hstands] at hafter

theorem notResurrected_of_remembered {a b : HubId} {s : Database × Bool} (hs : Remembered a b s)
    (operation : EdgeOperation) : NotResurrected a b s operation := by
  intro hstands hproducer
  have hheld := hs hstands
  suffices hrows : ∀ row ∈ (edgeStep s.1 operation).hubEdges, joins a b row = true →
      row ∈ s.1.hubEdges by
    exact fun row hrow hjoins _ _ => hrows row hrow hjoins
  cases operation with
  | produce now workspaceId settings =>
      refine committedOr_of (P := fun next => ∀ row ∈ next.hubEdges, joins a b row = true →
        row ∈ s.1.hubEdges) (fun row hrow _ => hrow) ?_
      intro next report h
      rcases runEdgeInference_effect h with rfl | ⟨counts, hpersist⟩
      · exact fun row hrow _ => hrow
      · exact persist_of_held hpersist producible_of_inferred hheld
  | persist now proposals workspaceId createdBy =>
      refine committedOr_of (P := fun next => ∀ row ∈ next.hubEdges, joins a b row = true →
        row ∈ s.1.hubEdges) (fun row hrow _ => hrow) ?_
      intro next counts h
      exact persist_of_held h hproducer hheld
  | _ => exact hproducer.elim

/-- A rejection that is remembered is never undone by the producer, over whole runs. -/
theorem guarded_notResurrected {a b : HubId} {db : Database} {operations : List EdgeOperation}
    (h : Guarded (trackedStep a b) (KeepsRejection a b) (db, false) operations) :
    Guarded (trackedStep a b) (NotResurrected a b) (db, false) operations := by
  have hstart : Remembered a b (db, false) := fun hstands => Bool.noConfusion hstands
  exact h.mono hstart (fun s operation hs hkeeps => remembered_trackedStep hs hkeeps)
    fun s operation hs _ => notResurrected_of_remembered hs operation

/-- Two hubs that share one content. -/
def sharingHubs : Database :=
  { twoHubs with hubContent := [⟨⟨10⟩, 1, some 1, 0⟩, ⟨⟨11⟩, 1, some 1, 0⟩] }

def rejectPair : ReviewRequest :=
  { sourceHubId := (Uuid.mk 10).text, targetHubId := (Uuid.mk 11).text,
    edgeType := proposedEdgeType }

theorem guarded_notResurrected_launch :
    Guarded (trackedStep ⟨10⟩ ⟨11⟩) (NotResurrected ⟨10⟩ ⟨11⟩) (sharingHubs, false)
      [.reject 1 rejectPair, .update 2 1 { status := some "needs_review".toList } none,
        .produce 3 1 { minShared := 1 }] :=
  guarded_notResurrected (by decide +kernel)

/-- The rejected row is archived, and the producer proposes the pair again. -/
theorem not_guarded_notResurrected_archived :
    ¬ Guarded (trackedStep ⟨10⟩ ⟨11⟩) (NotResurrected ⟨10⟩ ⟨11⟩) (sharingHubs, false)
      [.reject 1 rejectPair, .archive 2 1 none, .produce 3 1 { minShared := 1 }] := by
  rintro ⟨-, -, h, -⟩
  have hstands : (trackedStep ⟨10⟩ ⟨11⟩ (trackedStep ⟨10⟩ ⟨11⟩ (sharingHubs, false)
      (.reject 1 rejectPair)) (.archive 2 1 none)).2 = true := by decide +kernel
  have hrows := h hstands trivial
  revert hrows
  decide +kernel

end MemoryLab.HubEdges

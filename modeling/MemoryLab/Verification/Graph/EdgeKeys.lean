import MemoryLab.Verification.Graph.Proposals
import MemoryLab.Verification.Graph.Store

/-! # Keys, pairs and archival of stored edges -/

namespace MemoryLab.HubEdges

open Library Library.Rows Library.Runs EdgeInference

/-! ## Keys and spellings -/

theorem computeEdgeKey_comm (source target edgeType : Text) :
    computeEdgeKey source target edgeType = computeEdgeKey target source edgeType := by
  unfold computeEdgeKey
  rw [Text.sortPair_comm]

/-- Without bars in the identifiers a key gives its three parts back. -/
theorem computeEdgeKey_inj {s t s' t' type type' : Text} (hs : '|' ∉ s) (ht : '|' ∉ t)
    (hs' : '|' ∉ s') (ht' : '|' ∉ t') :
    computeEdgeKey s t type = computeEdgeKey s' t' type' ↔
      Text.sortPair s t = Text.sortPair s' t' ∧ type = type' := by
  constructor
  · intro h
    have hparts : ∀ {a b : Text}, '|' ∉ a → '|' ∉ b →
        '|' ∉ (Text.sortPair a b).1 ∧ '|' ∉ (Text.sortPair a b).2 := by
      intro a b ha hb
      rcases Text.sortPair_eq a b with hpair | hpair
      · rw [hpair]
        exact ⟨ha, hb⟩
      · rw [hpair]
        exact ⟨hb, ha⟩
    have hleft := hparts hs ht
    have hright := hparts hs' ht'
    unfold computeEdgeKey at h
    obtain ⟨hfirst, hrest⟩ := Text.append_sep_inj hleft.1 hright.1 h
    obtain ⟨hsecond, htype⟩ := Text.append_sep_inj hleft.2 hright.2 hrest
    exact ⟨Prod.ext hfirst hsecond, htype⟩
  · rintro ⟨hpair, rfl⟩
    unfold computeEdgeKey
    rw [hpair]

/-- A key computed from spellings is the key of the stored columns exactly when both spellings are
the database's own. -/
theorem computeEdgeKey_text_iff {source target edgeType : Text} {u v : HubId}
    (hsource : Uuid.parse source = some u) (htarget : Uuid.parse target = some v) :
    computeEdgeKey source target edgeType = computeEdgeKey u.text v.text edgeType ↔
      Uuid.Canonical source ∧ Uuid.Canonical target := by
  rw [computeEdgeKey_inj (Uuid.bar_notMem_of_parse hsource) (Uuid.bar_notMem_of_parse htarget)
    (Uuid.bar_notMem_of_parse (Uuid.parse_text u)) (Uuid.bar_notMem_of_parse (Uuid.parse_text v)),
    Text.sortPair_eq_iff]
  constructor
  · rintro ⟨⟨rfl, rfl⟩ | ⟨rfl, rfl⟩, -⟩
    · exact ⟨Uuid.canonical_text u, Uuid.canonical_text v⟩
    · exact ⟨Uuid.canonical_text v, Uuid.canonical_text u⟩
  · rintro ⟨hs, ht⟩
    exact ⟨.inl ⟨(Uuid.canonical_iff hsource).mp hs, (Uuid.canonical_iff htarget).mp ht⟩, rfl⟩

/-! ## Rows -/

def columnsKey (row : HubEdge) : Text :=
  computeEdgeKey row.sourceHubId.text row.targetHubId.text (EdgeType.name row.type).toList

structure KeyedRow (row : HubEdge) : Prop where
  key : row.edgeKey = columnsKey row
  archived : row.status = .archived ↔ isActive row = false

/-- Two rows of one type that join the same hubs, in either direction. -/
def SamePair (a b : HubEdge) : Prop :=
  a.type = b.type ∧ ((a.sourceHubId = b.sourceHubId ∧ a.targetHubId = b.targetHubId) ∨
    (a.sourceHubId = b.targetHubId ∧ a.targetHubId = b.sourceHubId))

instance : DecidableRel SamePair := fun _ _ => inferInstanceAs (Decidable (_ ∧ _))

structure Represented (edges : List HubEdge) : Prop where
  keyed : ∀ row ∈ edges, KeyedRow row
  distinct : edges.Pairwise fun a b => isActive a = true → isActive b = true → ¬ SamePair a b

theorem columnsKey_eq_of_samePair {a b : HubEdge} (h : SamePair a b) :
    columnsKey a = columnsKey b := by
  unfold columnsKey
  obtain ⟨htype, ⟨hsource, htarget⟩ | ⟨hsource, htarget⟩⟩ := h
  · rw [htype, hsource, htarget]
  · rw [htype, hsource, htarget, computeEdgeKey_comm]

/-- Among keyed rows the index on active keys tells pairs apart. -/
theorem StoreValid.represented {edges : List HubEdge} (h : StoreValid edges)
    (hkeyed : ∀ row ∈ edges, KeyedRow row) : Represented edges := by
  refine ⟨hkeyed, ?_⟩
  refine (List.pairwise_filterMap.mp h.keys).imp_of_mem ?_
  intro a b ha hb hne hactive hactive' hsame
  refine hne a.edgeKey (by rw [activeKey, if_pos hactive]) b.edgeKey
    (by rw [activeKey, if_pos hactive']) ?_
  rw [(hkeyed a ha).key, (hkeyed b hb).key, columnsKey_eq_of_samePair hsame]

/-! ## Inserted and updated rows -/

theorem KeyedRow.inserted {values : EdgeValues} {edges : List HubEdge} {row : HubEdge}
    (h : Inserted values edges row)
    (hkey : values.edgeKey = computeEdgeKey values.sourceHubId values.targetHubId values.type)
    (hsource : Uuid.Canonical values.sourceHubId) (htarget : Uuid.Canonical values.targetHubId)
    (hstatus : values.status ≠ .archived) : KeyedRow row := by
  constructor
  · rw [h.edgeKey, hkey, (computeEdgeKey_text_iff h.source h.target).mpr ⟨hsource, htarget⟩, h.type]
    rfl
  · rw [h.status, h.active]
    exact iff_of_false hstatus Bool.noConfusion

/-- An assignment that keeps the columns of the key and the archival of an active row. -/
theorem KeyedRow.assign {row : HubEdge} (h : KeyedRow row) {f : HubEdge → HubEdge}
    (hcolumns : (f row).edgeKey = row.edgeKey ∧ columnsKey (f row) = columnsKey row)
    (harchived : (f row).status = .archived ↔ isActive (f row) = false) : KeyedRow (f row) :=
  ⟨by rw [hcolumns.1, hcolumns.2]; exact h.key, harchived⟩

theorem keyed_append {db next : Database} {row : HubEdge} (h : Appends db next row)
    (hkeyed : ∀ row ∈ db.hubEdges, KeyedRow row) (hrow : KeyedRow row) :
    ∀ row ∈ next.hubEdges, KeyedRow row := by
  rw [h.next_eq]
  intro other hother
  rcases List.mem_append.mp hother with hold | hnew
  · exact hkeyed other hold
  · rw [List.mem_singleton.mp hnew]
    exact hrow

/-! ## The operations that keep the representation -/

/-- The identifiers of a call are spelled as the database spells them. -/
def Spelled (source target : Text) : Prop := Uuid.Canonical source ∧ Uuid.Canonical target

instance (source target : Text) : Decidable (Spelled source target) :=
  inferInstanceAs (Decidable (_ ∧ _))

/-- An update names the row's own type, and the archived status exactly for an archived row. -/
def KeepsRow (updates : EdgeUpdates) (row : HubEdge) : Prop :=
  (∀ type ∈ updates.type, type = (EdgeType.name row.type).toList) ∧
    ∀ status ∈ updates.status, status = "archived".toList ↔ isActive row = false

instance (updates : EdgeUpdates) (row : HubEdge) : Decidable (KeepsRow updates row) :=
  inferInstanceAs (Decidable (_ ∧ _))

/-- What an accepted operation has to meet. -/
def KeepsRepresentation (db : Database) : EdgeOperation → Prop
  | .create now request => (createEdge db now request).isOk = true →
      Spelled request.sourceHubId request.targetHubId ∧ request.status ≠ "archived".toList
  | .update now edgeId updates workspaceId =>
      (updateEdge db now edgeId updates workspaceId).isOk = true →
        ∀ row ∈ db.hubEdges, matchesEdge edgeId workspaceId row = true → KeepsRow updates row
  | .approve now request confidence => (approveInferredEdge db now request confidence).isOk = true →
      Spelled request.sourceHubId request.targetHubId
  | .reject now request => (rejectInferredEdge db now request).isOk = true →
      Spelled request.sourceHubId request.targetHubId
  | .persist now proposals workspaceId createdBy =>
      (persistEdgeProposals db now proposals workspaceId createdBy).isOk = true →
        ∀ proposal ∈ proposals, (activeWithKey db proposal.edgeKey).isSome = true ∨
          Spelled proposal.sourceHubId proposal.targetHubId
  | .archive .. | .produce .. | .elsewhere .. => True

instance (db : Database) : (operation : EdgeOperation) →
    Decidable (KeepsRepresentation db operation)
  | .create .. => inferInstanceAs (Decidable (_ → _))
  | .update .. => inferInstanceAs (Decidable (_ → _))
  | .approve .. => inferInstanceAs (Decidable (_ → _))
  | .reject .. => inferInstanceAs (Decidable (_ → _))
  | .persist .. => inferInstanceAs (Decidable (_ → _))
  | .archive .. => .isTrue trivial
  | .produce .. => .isTrue trivial
  | .elsewhere .. => .isTrue trivial

theorem keyed_upsertReviewed {db next : Database} {now : Timestamp} {request : ReviewRequest}
    {status : EdgeStatus} {origin : EdgeOrigin} {confidence : Option ℚ}
    {assign : HubEdge → HubEdge} {stored : HubEdge} (hstatus : status ≠ .archived)
    (hassign : ∀ row, (assign row).edgeKey = row.edgeKey ∧
      columnsKey (assign row) = columnsKey row ∧
      (assign row).status = status ∧ isActive (assign row) = isActive row)
    (h : upsertReviewed db now request status origin confidence assign = .ok (next, stored))
    (hspelled : Spelled request.sourceHubId request.targetHubId) (hvalid : StoreValid db.hubEdges)
    (hkeyed : ∀ row ∈ db.hubEdges, KeyedRow row) : ∀ row ∈ next.hubEdges, KeyedRow row := by
  obtain ⟨row, hrow, ⟨existing, hexisting, -, hnext⟩ | ⟨-, -, hnext⟩⟩ := upsertReviewed_effect h
  · obtain ⟨hmem, hactive, -⟩ := activeWithKey_spec hexisting
    rw [hnext]
    intro other hother
    obtain ⟨old, hold, ⟨hid, rfl⟩ | ⟨-, rfl⟩⟩ := mem_updateWhere.mp hother
    · obtain ⟨hkey, hcolumns, hnew, harchived⟩ := hassign old
      refine (hkeyed old hold).assign ⟨hkey, hcolumns⟩ ?_
      rw [hnew, harchived, hvalid.eq_of_id hold hmem (beq_iff_eq.mp hid), hactive]
      exact iff_of_false hstatus Bool.noConfusion
    · exact hkeyed other hold
  · exact keyed_append hnext hkeyed (KeyedRow.inserted hrow rfl hspelled.1 hspelled.2 hstatus)

theorem keyed_update {updates : EdgeUpdates} {row : HubEdge} (h : KeyedRow row)
    (hkeeps : KeepsRow updates row) (now : Timestamp) :
    KeyedRow (updates.assign (updates.type.bind (named EdgeType.name allTypes))
      (updates.status.bind (named EdgeStatus.name validStatuses)) now row) := by
  have htype : (updates.type.bind (named EdgeType.name allTypes)).getD row.type = row.type := by
    cases hgiven : updates.type with
    | none => rfl
    | some type =>
        rw [Option.bind_some, hkeeps.1 type hgiven]
        cases row.type <;> rfl
  refine h.assign ⟨rfl, ?_⟩ ?_
  · unfold columnsKey
    rw [EdgeUpdates.assign, htype]
  · cases hgiven : updates.status with
    | none => exact h.archived
    | some text =>
        have hiff := hkeeps.2 text hgiven
        cases hnamed : named EdgeStatus.name validStatuses text with
        | none => simpa [EdgeUpdates.assign, hnamed, isActive] using h.archived
        | some status =>
            have htext := named_spec hnamed
            simp only [EdgeUpdates.assign, Option.bind_some, hnamed, Option.getD_some]
            rw [htext] at hiff
            refine Iff.trans ?_ hiff
            cases status <;> decide

theorem keyed_persist {db next : Database} {now : Timestamp} {proposals : List EdgeProposal}
    {workspaceId : WorkspaceId} {createdBy : Text} {counts : PersistCounts}
    (h : persistEdgeProposals db now proposals workspaceId createdBy = .ok (next, counts))
    (hspelled : ∀ proposal ∈ proposals, (activeWithKey db proposal.edgeKey).isSome = true ∨
      Spelled proposal.sourceHubId proposal.targetHubId)
    (hkeyed : ∀ row ∈ db.hubEdges, KeyedRow row) : ∀ row ∈ next.hubEdges, KeyedRow row := by
  -- a key that is held before the proposals stays held while they are inserted
  refine (foldlM_invariant (P := fun progress =>
    (∀ row ∈ progress.1.hubEdges, KeyedRow row) ∧
      ∃ added, progress.1.hubEdges = db.hubEdges ++ added)
    h ⟨hkeyed, [], (List.append_nil _).symm⟩ ?_).1
  rintro before after proposal hproposal ⟨hbefore, added, hadded⟩ hstep
  rcases persistProposal_effect hstep with hsame | ⟨hnone, row, hrow, hnext⟩
  · rw [hsame]
    exact ⟨hbefore, added, hadded⟩
  · refine ⟨keyed_append hnext hbefore ?_, added ++ [row], ?_⟩
    · rcases hspelled proposal hproposal with hheld | ⟨hsource, htarget⟩
      · rw [activeWithKey, hadded, List.find?_append, Option.or_eq_none_iff] at hnone
        rw [activeWithKey, hnone.1] at hheld
        cases hheld
      · exact KeyedRow.inserted hrow rfl hsource htarget EdgeStatus.noConfusion
    · rw [hnext.next_eq]
      dsimp only
      rw [hadded, List.append_assoc]

/-! ## The representation along a run -/

theorem keyed_edgeStep {db : Database} {operation : EdgeOperation} (hvalid : StoreValid db.hubEdges)
    (hkeyed : ∀ row ∈ db.hubEdges, KeyedRow row) (hkeeps : KeepsRepresentation db operation) :
    ∀ row ∈ (edgeStep db operation).hubEdges, KeyedRow row := by
  cases operation with
  | create now request =>
      refine committedOr_of (P := fun next => ∀ row ∈ next.hubEdges, KeyedRow row) hkeyed ?_
      intro next row h
      obtain ⟨⟨hsource, htarget⟩, hstatus⟩ := hkeeps (by rw [h]; rfl)
      obtain ⟨status, origin, hnamed, hrow, hnext⟩ := createEdge_effect h
      refine keyed_append hnext hkeyed (KeyedRow.inserted hrow rfl hsource htarget ?_)
      rintro rfl
      exact hstatus (named_spec hnamed)
  | update now edgeId updates workspaceId =>
      refine committedOr_of (P := fun next => ∀ row ∈ next.hubEdges, KeyedRow row) hkeyed ?_
      intro next row h
      have hrows := hkeeps (by rw [h]; rfl)
      rcases updateEdge_effect h with rfl | rfl
      · exact hkeyed
      · intro other hother
        obtain ⟨old, hold, ⟨hmatches, rfl⟩ | ⟨-, rfl⟩⟩ := mem_updateWhere.mp hother
        · exact keyed_update (hkeyed old hold) (hrows old hold hmatches) now
        · exact hkeyed other hold
  | archive now edgeId workspaceId =>
      refine forall_updateWhere hkeyed fun row hrow => hrow.assign ⟨rfl, rfl⟩ ?_
      exact iff_of_true rfl rfl
  | approve now request confidence =>
      refine committedOr_of (P := fun next => ∀ row ∈ next.hubEdges, KeyedRow row) hkeyed ?_
      intro next row h
      refine keyed_upsertReviewed EdgeStatus.noConfusion ?_ h
        (hkeeps (by rw [h]; rfl)) hvalid hkeyed
      exact fun row => ⟨rfl, rfl, rfl, rfl⟩
  | reject now request =>
      refine committedOr_of (P := fun next => ∀ row ∈ next.hubEdges, KeyedRow row) hkeyed ?_
      intro next row h
      refine keyed_upsertReviewed EdgeStatus.noConfusion ?_ h
        (hkeeps (by rw [h]; rfl)) hvalid hkeyed
      exact fun row => ⟨rfl, rfl, rfl, rfl⟩
  | persist now proposals workspaceId createdBy =>
      refine committedOr_of (P := fun next => ∀ row ∈ next.hubEdges, KeyedRow row) hkeyed ?_
      intro next counts h
      exact keyed_persist h (hkeeps (by rw [h]; rfl)) hkeyed
  | produce now workspaceId settings =>
      refine committedOr_of (P := fun next => ∀ row ∈ next.hubEdges, KeyedRow row) hkeyed ?_
      intro next report h
      rcases runEdgeInference_effect h with rfl | ⟨counts, hpersist⟩
      · exact hkeyed
      · refine keyed_persist hpersist (fun proposal hproposal => .inr ?_) hkeyed
        have hproducible := producible_of_inferred proposal hproposal
        exact ⟨hproducible.source, hproducible.target⟩
  | elsewhere other => exact hkeyed

/-- From an empty table, operations that keep the representation keep it throughout. -/
theorem always_represented {db : Database} (hempty : db.hubEdges = [])
    {operations : List EdgeOperation} (h : Guarded edgeStep KeepsRepresentation db operations) :
    Always edgeStep (fun db => Represented db.hubEdges) db operations := by
  have hstart : StoreValid db.hubEdges ∧ ∀ row ∈ db.hubEdges, KeyedRow row := by
    rw [hempty]
    exact ⟨storeValid_nil, List.forall_mem_nil _⟩
  refine (h.always (P := fun db => StoreValid db.hubEdges ∧ ∀ row ∈ db.hubEdges, KeyedRow row)
    hstart ?_).mono fun db hdb => hdb.1.represented hdb.2
  intro db operation hdb hkeeps
  exact ⟨storeValid_edgeStep hdb.1 operation, keyed_edgeStep hdb.1 hdb.2 hkeeps⟩

def twoHubs : Database :=
  { hubs := [⟨⟨10⟩, some 1, true, "alpha".toList, [], []⟩,
      ⟨⟨11⟩, some 1, true, "beta".toList, [], []⟩] }

theorem always_represented_curation :
    Always edgeStep (fun db => Represented db.hubEdges) twoHubs
      [.create 1
          { sourceHubId := (Uuid.mk 10).text, targetHubId := (Uuid.mk 11).text,
            edgeType := "parent".toList },
        .reject 2
          { sourceHubId := (Uuid.mk 11).text, targetHubId := (Uuid.mk 10).text,
            edgeType := "related".toList },
        .archive 3 1 none] :=
  always_represented rfl (by decide +kernel)

/-- One hub pair under two spellings gets two active edges. -/
theorem not_represented_respelled :
    let source := "0000000000000000000000000000000a".toList
    let target := "0000000000000000000000000000000b".toList
    let respelled := "0000000000000000000000000000000A".toList
    ¬ Always edgeStep (fun db => Represented db.hubEdges) twoHubs
      [.create 1
          { sourceHubId := source, targetHubId := target, edgeType := "related".toList },
        .create 2
          { sourceHubId := respelled, targetHubId := target, edgeType := "related".toList }] := by
  intro source target respelled h
  have hdistinct := h.last.distinct
  revert hdistinct
  decide +kernel

end MemoryLab.HubEdges

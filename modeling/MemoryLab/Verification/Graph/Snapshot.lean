import MemoryLab.Model.GraphSnapshot

/-! # What a snapshot shows of other workspaces -/

namespace MemoryLab.GraphSnapshot

open Library Library.Rows HubEdges

/-! ## The rows of a workspace -/

def isOwn (workspaceId : WorkspaceId) (owner : Option WorkspaceId) : Bool :=
  owner == some workspaceId

/-- The state that holds the workspace's rows and no others. -/
def ownTables (workspaceId : WorkspaceId) (db : GraphTables) : GraphTables :=
  { contentItems := db.contentItems.filter fun row => isOwn workspaceId row.workspaceId
    contentChunks := db.contentChunks.filter fun row => isOwn workspaceId row.workspaceId
    hubs := db.hubs.filter fun row => isOwn workspaceId row.workspaceUuid
    hubContent := db.hubContent.filter fun row => isOwn workspaceId row.workspaceId
    edges := db.edges.filter fun row => isOwn workspaceId row.workspaceId
    hubEdges := db.hubEdges.filter fun row => isOwn workspaceId row.workspaceId
    aliases := db.aliases.filter fun row => isOwn workspaceId row.workspaceId
    aliasCandidates := db.aliasCandidates.filter fun row => isOwn workspaceId row.workspaceId }

/-- Hubs, edges, contents and hub links of a snapshot belong to the workspace. -/
structure Belongs (workspaceId : WorkspaceId) (snapshot : RepositoryGraphSnapshot) : Prop where
  hubs : ∀ record ∈ snapshot.hubs, record.workspaceUuid = some workspaceId
  graphEdges : ∀ record ∈ snapshot.graphEdges, record.workspaceId = some workspaceId
  hubEdges : ∀ record ∈ snapshot.hubEdges, record.workspaceId = some workspaceId
  contentRecords : ∀ record ∈ snapshot.contentRecords, record.workspaceId = some workspaceId
  hubContentLinks : ∀ record ∈ snapshot.hubContentLinks, record.workspaceId = some workspaceId

/-- A workspace's snapshots show its own rows, and are what its own rows alone give. -/
structure Isolated (db : GraphTables) (workspaceId : WorkspaceId) : Prop where
  belongs : ∀ options now snapshot, readSnapshot db workspaceId options now = some snapshot →
    Belongs workspaceId snapshot
  reads : ∀ options now, readSnapshot db workspaceId options now =
    readSnapshot (ownTables workspaceId db) workspaceId options now
  responses : ∀ includeInferred includeCurated now,
    getGraphSnapshot db workspaceId includeInferred includeCurated now =
      getGraphSnapshot (ownTables workspaceId db) workspaceId includeInferred includeCurated now

/-- Two states that agree on the workspace's rows give it the same snapshots. -/
theorem Isolated.readSnapshot_eq {db other : GraphTables} {workspaceId : WorkspaceId}
    (hdb : Isolated db workspaceId) (hother : Isolated other workspaceId)
    (hagree : ownTables workspaceId db = ownTables workspaceId other) (options : SnapshotOptions)
    (now : Timestamp) :
    readSnapshot db workspaceId options now = readSnapshot other workspaceId options now := by
  rw [hdb.reads, hother.reads, hagree]

/-! ## One table -/

section Table

variable {ρ β κ : Type*} [LinearOrder κ] {key : ρ → κ} {own shown : ρ → Bool}

theorem filter_shown_eq {rows : List ρ} (h : ∀ row ∈ rows, shown row = true → own row = true) :
    (sortOn key rows).filter shown = (sortOn key (rows.filter own)).filter shown := by
  rw [filter_sortOn, filter_sortOn, List.filter_filter]
  have hfilter : rows.filter shown = rows.filter fun row => shown row && own row := by
    refine List.filter_congr fun row hrow => ?_
    cases hshown : shown row with
    | true => rw [h row hrow hshown, Bool.true_and]
    | false => rw [Bool.false_and]
  rw [hfilter]

theorem own_of_length_shown_eq {rows : List ρ}
    (h : ((sortOn key rows).filter shown).length =
      ((sortOn key (rows.filter own)).filter shown).length) :
    ∀ row ∈ rows, shown row = true → own row = true := by
  intro row hrow hshown
  rw [filter_sortOn, filter_sortOn, List.filter_filter, sortOn, sortOn, List.length_insertionSort,
    List.length_insertionSort] at h
  have hboth := forall_of_length_filter_eq
    (fun row _ hboth => (Bool.and_eq_true_iff.mp hboth).1) h.symm row hrow hshown
  exact (Bool.and_eq_true_iff.mp hboth).2

/-- A table shows what its own rows show exactly when every shown row is one of them. -/
theorem map_shown_eq_iff (record : ρ → β) (rows : List ρ) :
    ((sortOn key rows).filter shown).map record =
        ((sortOn key (rows.filter own)).filter shown).map record ↔
      ∀ row ∈ rows, shown row = true → own row = true := by
  constructor
  · intro h
    have hlength := congrArg List.length h
    rw [List.length_map, List.length_map] at hlength
    exact own_of_length_shown_eq hlength
  · intro h
    rw [filter_shown_eq h]

theorem map_sortOn_eq_iff (record : ρ → β) (rows : List ρ) :
    (sortOn key rows).map record = (sortOn key (rows.filter own)).map record ↔
      ∀ row ∈ rows, own row = true := by
  have h : ((sortOn key rows).filter fun _ => true).map record =
      ((sortOn key (rows.filter own)).filter fun _ => true).map record ↔
        ∀ row ∈ rows, true = true → own row = true := map_shown_eq_iff record rows
  simpa using h

end Table

/-! ## Alias candidates -/

theorem mapM_aliasCandidate_eq_none {rows : List AliasCandidate} :
    rows.mapM aliasCandidate = none ↔ ∃ row ∈ rows, row.score = none := by
  induction rows with
  | nil => simp
  | cons row rows ih =>
      rw [List.mapM_cons, List.exists_mem_cons_iff, ← ih]
      cases hscore : row.score with
      | none => simp [aliasCandidate, hscore]
      | some score =>
          have hrow : aliasCandidate row ≠ none := by simp [aliasCandidate, hscore]
          obtain ⟨record, hrecord⟩ := Option.ne_none_iff_exists'.mp hrow
          cases rows.mapM aliasCandidate <;> simp [hrecord]

theorem length_of_mapM {ρ β : Type*} {f : ρ → Option β} {rows : List ρ} {records : List β}
    (h : rows.mapM f = some records) : records.length = rows.length := by
  induction rows generalizing records with
  | nil =>
      rw [List.mapM_nil] at h
      cases h
      rfl
  | cons row rows ih =>
      rw [List.mapM_cons] at h
      cases hrow : f row with
      | none =>
          rw [hrow] at h
          cases h
      | some record =>
          cases hrows : rows.mapM f with
          | none =>
              rw [hrow, hrows] at h
              cases h
          | some rest =>
              rw [hrow, hrows] at h
              cases h
              rw [List.length_cons, List.length_cons, ih hrows]

/-- A pending candidate of the workspace has no score, so that no snapshot can be read. -/
def Unscored (db : GraphTables) (workspaceId : WorkspaceId) : Prop :=
  ∃ row ∈ db.aliasCandidates, isPending row = true ∧ isOwn workspaceId row.workspaceId = true ∧
    row.score = none

/-- The rows that snapshots show all belong to the workspace. -/
structure OnlyOwn (db : GraphTables) (workspaceId : WorkspaceId) : Prop where
  contentItems : ∀ row ∈ db.contentItems, isOwn workspaceId row.workspaceId = true
  contentChunks : ∀ row ∈ db.contentChunks, isOwn workspaceId row.workspaceId = true
  hubs : ∀ row ∈ db.hubs, isOwn workspaceId row.workspaceUuid = true
  hubContent : ∀ row ∈ db.hubContent, isOwn workspaceId row.workspaceId = true
  edges : ∀ row ∈ db.edges, isOwn workspaceId row.workspaceId = true
  hubEdges : ∀ row ∈ db.hubEdges, isShownEdge row = true → isOwn workspaceId row.workspaceId = true
  aliases : ∀ row ∈ db.aliases, isOwn workspaceId row.workspaceId = true
  aliasCandidates : Unscored db workspaceId ∨
    ∀ row ∈ db.aliasCandidates, isPending row = true → isOwn workspaceId row.workspaceId = true

theorem aliasCandidates_eq_iff (db : GraphTables) (workspaceId : WorkspaceId) :
    aliasCandidates db.aliasCandidates =
        aliasCandidates (ownTables workspaceId db).aliasCandidates ↔
      Unscored db workspaceId ∨ ∀ row ∈ db.aliasCandidates, isPending row = true →
        isOwn workspaceId row.workspaceId = true := by
  unfold aliasCandidates ownTables
  dsimp only
  constructor
  · intro h
    rw [or_iff_not_imp_left]
    intro hscored
    generalize hmine : (sortOn (fun row : AliasCandidate => [row.termA, row.termB])
      (db.aliasCandidates.filter fun row => isOwn workspaceId row.workspaceId)).filter
        isPending = mine at h
    cases hrecords : mine.mapM aliasCandidate with
    | none =>
        obtain ⟨row, hrow, hscore⟩ := mapM_aliasCandidate_eq_none.mp hrecords
        rw [← hmine, List.mem_filter, mem_sortOn, List.mem_filter] at hrow
        exact absurd ⟨row, hrow.1.1, hrow.2, hrow.1.2, hscore⟩ hscored
    | some records =>
        rw [hrecords] at h
        have hlength := (length_of_mapM h).symm.trans (length_of_mapM hrecords)
        rw [← hmine] at hlength
        exact own_of_length_shown_eq hlength
  · rintro (⟨row, hrow, hpending, hown, hscore⟩ | hown)
    · have hnone {rows : List AliasCandidate} (hmem : row ∈ rows) :
          ((sortOn (fun row : AliasCandidate => [row.termA, row.termB]) rows).filter
            isPending).mapM aliasCandidate = none := by
        refine mapM_aliasCandidate_eq_none.mpr ⟨row, ?_, hscore⟩
        exact List.mem_filter.mpr ⟨mem_sortOn.mpr hmem, hpending⟩
      rw [hnone hrow, hnone (List.mem_filter.mpr ⟨hrow, hown⟩)]
    · rw [filter_shown_eq hown]

/-! ## Isolation -/

theorem OnlyOwn.belongs {db : GraphTables} {workspaceId : WorkspaceId}
    (h : OnlyOwn db workspaceId) {options : SnapshotOptions} {now : Timestamp}
    {snapshot : RepositoryGraphSnapshot}
    (hread : readSnapshot db workspaceId options now = some snapshot) :
    Belongs workspaceId snapshot := by
  obtain ⟨candidates, -, rfl⟩ := Option.map_eq_some_iff.mp hread
  have hrecords {ρ β : Type} {f : ρ → β} {rows : List ρ} {owner : ρ → Option WorkspaceId}
      {shownBy : β → Option WorkspaceId} (hsame : ∀ row, shownBy (f row) = owner row)
      (hown : ∀ row ∈ rows, isOwn workspaceId (owner row) = true) :
      ∀ record ∈ rows.map f, shownBy record = some workspaceId := by
    intro record hrecord
    obtain ⟨row, hrow, rfl⟩ := List.mem_map.mp hrecord
    rw [hsame, beq_iff_eq.mp (hown row hrow)]
  refine ⟨?_, ?_, ?_, ?_, ?_⟩
  · exact hrecords (fun _ => rfl) fun row hrow => h.hubs row (mem_sortOn.mp hrow)
  · exact hrecords (fun _ => rfl) fun row hrow => h.edges row (mem_sortOn.mp hrow)
  · refine hrecords (fun _ => rfl) fun row hrow => ?_
    rw [List.mem_filter, mem_sortOn] at hrow
    exact h.hubEdges row hrow.1 hrow.2
  · exact hrecords (fun _ => rfl) fun row hrow => h.contentItems row (mem_sortOn.mp hrow)
  · refine hrecords (fun _ => rfl) fun row hrow => ?_
    exact h.hubContent row (mem_sortOn.mp (List.mem_of_mem_filter hrow))

theorem OnlyOwn.readSnapshot_eq {db : GraphTables} {workspaceId : WorkspaceId}
    (h : OnlyOwn db workspaceId) (options : SnapshotOptions) (now : Timestamp) :
    readSnapshot db workspaceId options now =
      readSnapshot (ownTables workspaceId db) workspaceId options now := by
  have hcontents : contentRecords db.contentItems =
      contentRecords (ownTables workspaceId db).contentItems :=
    (map_sortOn_eq_iff _ _).mpr h.contentItems
  have hchunks : chunkStates db.contentChunks =
      chunkStates (ownTables workspaceId db).contentChunks :=
    (map_sortOn_eq_iff _ _).mpr h.contentChunks
  have hhubs : hubRecords db.hubs = hubRecords (ownTables workspaceId db).hubs :=
    (map_sortOn_eq_iff _ _).mpr h.hubs
  have hlinks : hubLinks db.hubContent options.hubId =
      hubLinks (ownTables workspaceId db).hubContent options.hubId :=
    (map_shown_eq_iff _ _).mpr fun row hrow _ => h.hubContent row hrow
  have hedges : graphEdges db.edges = graphEdges (ownTables workspaceId db).edges :=
    (map_sortOn_eq_iff _ _).mpr h.edges
  have hhubEdges : GraphSnapshot.hubEdges db.hubEdges =
      GraphSnapshot.hubEdges (ownTables workspaceId db).hubEdges :=
    (map_shown_eq_iff _ _).mpr h.hubEdges
  have haliases : aliasRecords db.aliases = aliasRecords (ownTables workspaceId db).aliases :=
    (map_sortOn_eq_iff _ _).mpr h.aliases
  have hcandidates := (aliasCandidates_eq_iff db workspaceId).mpr h.aliasCandidates
  unfold readSnapshot
  rw [hcontents, hchunks, hhubs, hlinks, hedges, hhubEdges, haliases, hcandidates]

theorem Isolated.onlyOwn {db : GraphTables} {workspaceId : WorkspaceId}
    (h : Isolated db workspaceId) : OnlyOwn db workspaceId := by
  have hsnapshot := h.reads { includeAliasCandidates := false } 0
  have hcandidates : aliasCandidates db.aliasCandidates =
      aliasCandidates (ownTables workspaceId db).aliasCandidates := by
    have hread := congrArg (Option.map (·.aliasCandidates)) (h.reads {} 0)
    simpa [readSnapshot, Function.comp_def] using hread
  simp only [readSnapshot, Bool.false_eq_true, if_false, Option.map_some, Option.some.injEq,
    RepositoryGraphSnapshot.mk.injEq] at hsnapshot
  obtain ⟨-, -, hcontents, hchunks, hhubs, hlinks, hedges, hhubEdges, haliases, -⟩ := hsnapshot
  refine ⟨?_, ?_, ?_, ?_, ?_, ?_, ?_, ?_⟩
  · exact (map_sortOn_eq_iff _ _).mp hcontents
  · exact (map_sortOn_eq_iff _ _).mp hchunks
  · exact (map_sortOn_eq_iff _ _).mp hhubs
  · exact fun row hrow => (map_shown_eq_iff _ _).mp hlinks row hrow rfl
  · exact (map_sortOn_eq_iff _ _).mp hedges
  · exact (map_shown_eq_iff _ _).mp hhubEdges
  · exact (map_sortOn_eq_iff _ _).mp haliases
  · exact (aliasCandidates_eq_iff db workspaceId).mp hcandidates

/-- Snapshots are isolated exactly when the tables show nothing of other workspaces. -/
theorem snapshots_isolated_iff (db : GraphTables) (workspaceId : WorkspaceId) :
    Isolated db workspaceId ↔ OnlyOwn db workspaceId := by
  refine ⟨Isolated.onlyOwn, fun h => ⟨fun _ _ _ => h.belongs, h.readSnapshot_eq, ?_⟩⟩
  intro includeInferred includeCurated now
  rw [getGraphSnapshot, getGraphSnapshot, h.readSnapshot_eq]

/-- A hub of another workspace is shown. -/
theorem not_isolated_foreign :
    let foreign : HubRow :=
      { hubId := ⟨11⟩, workspaceUuid := some 2, active := true, title := "beta".toList,
        aliases := [], relatedTerms := [] }
    ¬ Isolated { hubs := [foreign] } 1 := by
  intro foreign h
  obtain hbelongs := h.belongs {} 0 _ rfl
  have hworkspace := hbelongs.hubs (hubRecord foreign) List.mem_cons_self
  revert hworkspace
  decide

end MemoryLab.GraphSnapshot

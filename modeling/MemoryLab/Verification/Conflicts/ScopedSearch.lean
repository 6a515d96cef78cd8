import MemoryLab.Verification.Conflicts.Detector

/-! # Searching one scope

The statement compares the stored slug with the normal form of the scope that is asked for,
the detector the normal form of the marker in the text. A row that only the second accepts is
found without a scope and lost with it. -/

namespace MemoryLab.Conflicts

open Library Library.Rows ContextPack

/-! ## Rows by stored scope and text -/

/-- What the scope of a row depends on. -/
structure Shape where
  storedScope : Option Text
  text : Text

def Shape.row (shape : Shape) : ConflictSourceRow :=
  { contentId := none, workspaceId := none, text := shape.text,
    currentStateScope := shape.storedScope }

/-- The scope of the detector. -/
def Shape.scope (shape : Shape) : Text := rowScope shape.row

def shapeOf (row : JoinedRow) : Shape := ⟨row.1.1.currentStateScope, chunkText row⟩

/-- The statement keeps the row if the detector puts it into the scope. Without a scope it keeps
every row, and nothing is then left to select. -/
def Shape.KeptFor (scope : Text) (shape : Shape) : Prop :=
  if scope = [] then shape.scope = normalizeScope (some scope)
  else shape.scope = normalizeScope (some scope) →
    shape.storedScope = none ∨ shape.storedScope = some (normalizeScope (some scope))

theorem rowScope_conflictSourceRow (row : JoinedRow) :
    rowScope (conflictSourceRow row) = (shapeOf row).scope :=
  rfl

/-! ## The rows of the two searches -/

variable {db : Database} {query : SourceQuery} {scope : Text}

/-- The conditions of the statement besides the one on the scope. -/
def selectsOtherwise (query : SourceQuery) (row : JoinedRow) : Bool :=
  row.1.1.workspaceId == some query.workspaceId &&
    (query.types.isEmpty || row.1.1.memoryType.any (·.label.toList ∈ query.types)) &&
    query.matchesText row

theorem selects_eq (query : SourceQuery) (row : JoinedRow) :
    query.selects row = (query.matchesScope row.1.1 && selectsOtherwise query row) := by
  rw [SourceQuery.selects, selectsOtherwise]
  cases query.matchesScope row.1.1 <;> simp

theorem selectedRows_some (db : Database) (query : SourceQuery) (scope : Text) :
    selectedRows db { query with scope := some scope } =
      (selectedRows db { query with scope := none }).filter fun row =>
        SourceQuery.matchesScope { query with scope := some scope } row.1.1 := by
  rw [selectedRows, selectedRows, filter_sortOn, List.filter_filter]
  refine congrArg (sortOn sourceOrder) (List.filter_congr fun row _ => ?_)
  rw [selects_eq, selects_eq]
  rfl

theorem matchesScope_some (query : SourceQuery) (hne : scope ≠ []) (item : ContentItem) :
    SourceQuery.matchesScope { query with scope := some scope } item = true ↔
      item.currentStateScope = none ∨
        item.currentStateScope = some (normalizeScope (some scope)) := by
  simp [SourceQuery.matchesScope, hne]

/-- The rows that the detector gets. -/
def rowsFor (db : Database) (query : SourceQuery) : List ConflictSourceRow :=
  (selectedRows db query).map conflictSourceRow

theorem rowsFor_some (db : Database) (query : SourceQuery) (scope : Text) :
    rowsFor db { query with scope := some scope } =
      ((selectedRows db { query with scope := none }).filter fun row =>
        SourceQuery.matchesScope { query with scope := some scope } row.1.1).map
          conflictSourceRow := by
  rw [rowsFor, selectedRows_some]

/-- The rows of the workspace have one of the shapes. -/
def HasShapes (A : Shape → Prop) (db : Database) (workspaceId : WorkspaceId) : Prop :=
  ∀ row ∈ sourceRows db, row.1.1.workspaceId = some workspaceId → A (shapeOf row)

theorem HasShapes.selected {A : Shape → Prop} (query : SourceQuery)
    (h : HasShapes A db query.workspaceId) {row : JoinedRow} (hmem : row ∈ selectedRows db query) :
    A (shapeOf row) := by
  obtain ⟨hrow, hselects⟩ := List.mem_filter.mp (mem_sortOn.mp hmem)
  rw [selects_eq, selectsOtherwise, Bool.and_eq_true, Bool.and_eq_true, Bool.and_eq_true,
    beq_iff_eq] at hselects
  exact h row hrow hselects.2.1.1

/-- Where the statement keeps what the detector wants, both searches parse the same rows. -/
theorem parseRows_rowsFor_some (hne : scope ≠ [])
    (hkept : ∀ row ∈ selectedRows db { query with scope := none }, (shapeOf row).KeptFor scope)
    (memoryType : Option Text) :
    parseRows (rowsFor db { query with scope := some scope }) query.workspaceId (some scope)
        memoryType =
      (parseRows (rowsFor db { query with scope := none }) query.workspaceId none
        memoryType).filter fun item => decide (item.scope = normalizeScope (some scope)) := by
  rw [parseRows_some hne, parseRows_none, parseRows_none, rowsFor_some, rowsFor]
  simp only [List.filter_map, List.filter_filter, List.map_map]
  refine congrArg (List.map (parseRow ∘ conflictSourceRow)) (List.filter_congr fun row hrow => ?_)
  by_cases hscope : (shapeOf row).scope = normalizeScope (some scope)
  · have hshape := hkept row hrow
    rw [Shape.KeptFor, if_neg hne] at hshape
    have hmatches := (matchesScope_some query hne row.1.1).mpr (hshape hscope)
    rw [hmatches, Bool.and_true]
  · simp [rowScope_conflictSourceRow, hscope]

/-! ## The two answers -/

variable {sha256Hex : Text → Text} {includeResolved : Bool} {limit : ℤ}

/-- The candidates of a search that no limit cuts. -/
def searchCandidates (sha256Hex : Text → Text) (db : Database) (query : SourceQuery)
    (includeResolved : Bool) : List ConflictCandidate :=
  orderedCandidates sha256Hex (rowsFor db query) query.workspaceId query.scope query.memoryType
    includeResolved

/-- Neither the limit on the rows nor the one on the candidates binds. -/
structure Unbound (sha256Hex : Text → Text) (db : Database) (query : SourceQuery)
    (includeResolved : Bool) (limit : ℤ) : Prop where
  rows_le : (selectedRows db query).length ≤ sourceLimit limit
  candidates_le : (searchCandidates sha256Hex db query includeResolved).length ≤
    safeLimit (safeLimit limit)

theorem search_eq_of_unbound (h : Unbound sha256Hex db query includeResolved limit) :
    searchConflictCandidates sha256Hex db query includeResolved limit =
      if query.parameters.all storable then
        .ok { conflicts := searchCandidates sha256Hex db query includeResolved,
              count := (searchCandidates sha256Hex db query includeResolved).length,
              workspaceId := query.workspaceId }
      else .error .invalidText := by
  have hcandidates : detectConflictCandidates sha256Hex
      (((selectedRows db query).take (sourceLimit limit)).map conflictSourceRow)
      query.workspaceId query.scope query.memoryType includeResolved (safeLimit limit) =
        searchCandidates sha256Hex db query includeResolved := by
    rw [List.take_of_length_le h.rows_le, detectConflictCandidates]
    exact List.take_of_length_le h.candidates_le
  rw [searchConflictCandidates, fetchRows]
  split
  · rename_i hfetch
    split at hfetch
    · cases hfetch
    · rename_i hstorable
      cases hfetch
      rw [if_neg hstorable]
  · rename_i rows hfetch
    split at hfetch
    · rename_i hstorable
      cases hfetch
      rw [if_pos hstorable, hcandidates]
    · cases hfetch

/-- Candidates of different scopes have different identifiers: their hashes do not collide. -/
def ScopesApart (sha256Hex : Text → Text) (db : Database) (query : SourceQuery)
    (includeResolved : Bool) : Prop :=
  ∀ first ∈ rawCandidates sha256Hex (rowsFor db query) query.workspaceId query.scope
      query.memoryType includeResolved,
    ∀ second ∈ rawCandidates sha256Hex (rowsFor db query) query.workspaceId query.scope
        query.memoryType includeResolved,
      first.candidateId = second.candidateId → first.scope = second.scope

def inScope (scope : Text) (found : ConflictCandidate) : Bool :=
  found.scope = normalizeScope (some scope)

theorem filter_searchCandidates
    (hapart : ScopesApart sha256Hex db { query with scope := none } includeResolved)
    (scope : Text) :
    (searchCandidates sha256Hex db { query with scope := none } includeResolved).filter
        (inScope scope) =
      sortOn ConflictCandidate.rank (distinctOn (·.candidateId)
        (scopeCandidates sha256Hex query.workspaceId (normalizeScope (some scope))
          ((parseRows (rowsFor db { query with scope := none }) query.workspaceId none
            query.memoryType).filter fun item =>
              decide (item.scope = normalizeScope (some scope))) includeResolved)) := by
  rw [searchCandidates, orderedCandidates, filter_sortOn, filter_distinctOn_of_mem]
  · exact congrArg (sortOn _) (congrArg (distinctOn _) (filter_rawCandidates _))
  · intro first hfirst second hsecond hid
    rw [inScope, inScope, hapart first hfirst second hsecond hid]

theorem rowsFor_empty (db : Database) (query : SourceQuery) :
    rowsFor db { query with scope := some [] } = rowsFor db { query with scope := none } := by
  rw [rowsFor_some, List.filter_eq_self.mpr, rowsFor]
  exact fun _ _ => rfl

theorem parseRows_rowsFor_empty
    (hkept : ∀ row ∈ selectedRows db { query with scope := none }, (shapeOf row).KeptFor [])
    (memoryType : Option Text) :
    parseRows (rowsFor db { query with scope := some [] }) query.workspaceId (some [])
        memoryType =
      (parseRows (rowsFor db { query with scope := none }) query.workspaceId none
        memoryType).filter fun item => decide (item.scope = normalizeScope (some [])) := by
  rw [rowsFor_empty, parseRows_empty, parseRows_none]
  refine (List.filter_eq_self.mpr ?_).symm
  intro item hitem
  obtain ⟨source, hsource, rfl⟩ := List.mem_map.mp hitem
  obtain ⟨row, hrow, rfl⟩ := List.mem_map.mp (List.mem_of_mem_filter hsource)
  have hshape := hkept row hrow
  rw [Shape.KeptFor, if_pos rfl] at hshape
  rw [parseRow_scope, rowScope_conflictSourceRow, hshape, decide_eq_true_iff]

/-- Where the statement keeps what the detector wants, one search is the other one filtered. -/
theorem searchCandidates_some
    (hapart : ScopesApart sha256Hex db { query with scope := none } includeResolved)
    (hkept : ∀ row ∈ selectedRows db { query with scope := none }, (shapeOf row).KeptFor scope) :
    searchCandidates sha256Hex db { query with scope := some scope } includeResolved =
      (searchCandidates sha256Hex db { query with scope := none } includeResolved).filter
        (inScope scope) := by
  have hparsed : parseRows (rowsFor db { query with scope := some scope }) query.workspaceId
      (some scope) query.memoryType =
        (parseRows (rowsFor db { query with scope := none }) query.workspaceId none
          query.memoryType).filter fun item =>
            decide (item.scope = normalizeScope (some scope)) := by
    by_cases hne : scope = []
    · subst hne
      exact parseRows_rowsFor_empty hkept query.memoryType
    · exact parseRows_rowsFor_some hne hkept query.memoryType
  rw [filter_searchCandidates hapart, searchCandidates, orderedCandidates,
    rawCandidates_of_scope (normalizeScope (some scope)), hparsed]
  intro item hitem
  rw [hparsed] at hitem
  exact of_decide_eq_true (List.mem_filter.mp hitem).2

/-! ## Two current contents of one shape -/

section TwoContents

variable (shape : Shape)

def currentContent (contentId : ContentId) : ContentItem :=
  { contentId, workspaceId := some 1, classifyConfidence := some 0, isCurrent := some true,
    currentStateScope := shape.storedScope }

def onlyChunk (contentId : ContentId) : ContentChunkRow :=
  { chunkId := contentId, contentId, workspaceId := some 1, chunkIndex := 0,
    chunkText := shape.text }

def twoContents : Database :=
  { contentItems := [currentContent shape 1, currentContent shape 2],
    contentChunks := [onlyChunk shape 1, onlyChunk shape 2] }

def contentRow (contentId : ContentId) : JoinedRow :=
  ((currentContent shape contentId, some (onlyChunk shape contentId)), none)

theorem sourceRows_twoContents :
    sourceRows (twoContents shape) = [contentRow shape 1, contentRow shape 2] :=
  rfl

theorem selectedRows_twoContents :
    selectedRows (twoContents shape) { workspaceId := 1 } =
      [contentRow shape 1, contentRow shape 2] :=
  rfl

def twoRows : List ConflictSourceRow :=
  [conflictSourceRow (contentRow shape 1), conflictSourceRow (contentRow shape 2)]

theorem rowsFor_twoContents : rowsFor (twoContents shape) { workspaceId := 1 } = twoRows shape := by
  rw [rowsFor, selectedRows_twoContents]
  rfl

theorem parseRows_twoRows :
    parseRows (twoRows shape) 1 none none = (twoRows shape).map parseRow := by
  rw [parseRows_none]
  rfl

theorem scope_of_mem_twoRows {item : ParsedRow} (h : item ∈ (twoRows shape).map parseRow) :
    item.scope = shape.scope := by
  simp only [twoRows, List.map_cons, List.map_nil, List.mem_cons, List.not_mem_nil,
    or_false] at h
  rcases h with rfl | rfl
  all_goals
    rw [parseRow_scope, rowScope_conflictSourceRow]
    rfl

theorem highConf_contentRow (contentId : ContentId) :
    (parseRow (conflictSourceRow (contentRow shape contentId))).row.highConf = false :=
  decide_eq_false (by norm_num [minHighConf])

theorem anchorCandidates_twoRows (sha256Hex : Text → Text) (scope : Text) :
    ∃ found, anchorCandidates sha256Hex 1 scope ((twoRows shape).map parseRow) = [found] := by
  have hgroups : activeGroups ((twoRows shape).map parseRow) =
      [((none, none), twoRows shape)] := rfl
  rw [anchorCandidates, hgroups]
  exact ⟨_, rfl⟩

/-- The two contents conflict, whatever their text says. -/
theorem rawCandidates_twoContents (sha256Hex : Text → Text) (includeResolved : Bool) :
    ∃ found, found.scope = shape.scope ∧
      rawCandidates sha256Hex (rowsFor (twoContents shape) { workspaceId := 1 }) 1 none none
        includeResolved = [found] := by
  obtain ⟨found, hfound⟩ := anchorCandidates_twoRows shape sha256Hex shape.scope
  have hraw : rawCandidates sha256Hex (twoRows shape) 1 none none includeResolved = [found] := by
    rw [rawCandidates_of_scope shape.scope, parseRows_twoRows,
      scopeCandidates_of_lowConf, hfound]
    · simp only [twoRows, List.map_cons, List.map_nil, List.mem_cons, List.not_mem_nil, or_false]
      rintro item (rfl | rfl) <;> exact highConf_contentRow shape _
    · rw [parseRows_twoRows]
      exact fun item => scope_of_mem_twoRows shape
  refine ⟨found, scope_of_mem_anchorCandidates (hfound ▸ List.mem_singleton_self found), ?_⟩
  rw [rowsFor_twoContents, hraw]

end TwoContents

/-! ## Exactness -/

/-- The answer to the search of a scope is the part of the whole answer with that scope. -/
def SearchesAgree (sha256Hex : Text → Text) (db : Database) (query : SourceQuery)
    (includeResolved : Bool) (limit : ℤ) (scope : Text) : Prop :=
  ∀ narrow whole,
    searchConflictCandidates sha256Hex db { query with scope := some scope } includeResolved
      limit = .ok narrow →
    searchConflictCandidates sha256Hex db { query with scope := none } includeResolved
      limit = .ok whole →
    narrow.conflicts = whole.conflicts.filter (inScope scope)

theorem conflicts_of_unbound {answer : ConflictSearchResponse}
    (h : Unbound sha256Hex db query includeResolved limit)
    (hok : searchConflictCandidates sha256Hex db query includeResolved limit = .ok answer) :
    answer.conflicts = searchCandidates sha256Hex db query includeResolved := by
  rw [search_eq_of_unbound h] at hok
  split at hok
  · cases hok
    rfl
  · cases hok

theorem SearchesAgree.candidates
    (h : SearchesAgree sha256Hex db query includeResolved limit scope)
    (hnarrow : Unbound sha256Hex db { query with scope := some scope } includeResolved limit)
    (hwhole : Unbound sha256Hex db { query with scope := none } includeResolved limit)
    (hstorable : query.parameters.all storable = true) :
    searchCandidates sha256Hex db { query with scope := some scope } includeResolved =
      (searchCandidates sha256Hex db { query with scope := none } includeResolved).filter
        (inScope scope) :=
  h _ _ ((search_eq_of_unbound hnarrow).trans (if_pos hstorable))
    ((search_eq_of_unbound hwhole).trans (if_pos hstorable))

theorem searchesAgree_of_kept
    (hnarrow : Unbound sha256Hex db { query with scope := some scope } includeResolved limit)
    (hwhole : Unbound sha256Hex db { query with scope := none } includeResolved limit)
    (hapart : ScopesApart sha256Hex db { query with scope := none } includeResolved)
    (hkept : ∀ row ∈ selectedRows db { query with scope := none }, (shapeOf row).KeptFor scope) :
    SearchesAgree sha256Hex db query includeResolved limit scope := by
  intro narrow whole hok hok'
  rw [conflicts_of_unbound hnarrow hok, conflicts_of_unbound hwhole hok',
    searchCandidates_some hapart hkept]

theorem searchCandidates_empty (query : SourceQuery) :
    searchCandidates sha256Hex db { query with scope := some [] } includeResolved =
      searchCandidates sha256Hex db { query with scope := none } includeResolved := by
  rw [searchCandidates, searchCandidates, rowsFor_empty, orderedCandidates, orderedCandidates,
    rawCandidates, rawCandidates, parseRows_empty]

theorem rowsFor_twoContents_some {shape : Shape} (hne : scope ≠ [])
    (hstored : ¬ (shape.storedScope = none ∨
      shape.storedScope = some (normalizeScope (some scope)))) :
    rowsFor (twoContents shape) { workspaceId := 1, scope := some scope } = [] := by
  refine (rowsFor_some (twoContents shape) { workspaceId := 1 } scope).trans ?_
  rw [List.map_eq_nil_iff, List.filter_eq_nil_iff]
  intro row hrow hmatches
  have hstoredRow := (matchesScope_some { workspaceId := 1 } hne row.1.1).mp hmatches
  have hmem : row ∈ [contentRow shape 1, contentRow shape 2] :=
    selectedRows_twoContents shape ▸ hrow
  rcases List.mem_pair.mp hmem with rfl | rfl <;> exact hstored hstoredRow

/-- The search for a scope loses the two contents, or the search without one is not narrowed. -/
theorem searchCandidates_twoContents {shape : Shape} (h : ¬ shape.KeptFor scope)
    (sha256Hex : Text → Text) :
    ∃ found, found.scope = shape.scope ∧
      searchCandidates sha256Hex (twoContents shape) { workspaceId := 1 } true = [found] ∧
      searchCandidates sha256Hex (twoContents shape) { workspaceId := 1, scope := some scope }
        true = if scope = [] then [found] else [] := by
  obtain ⟨found, hscope, hraw⟩ := rawCandidates_twoContents shape sha256Hex true
  have hwhole : searchCandidates sha256Hex (twoContents shape) { workspaceId := 1 } true =
      [found] := by
    rw [searchCandidates, orderedCandidates, hraw]
    rfl
  refine ⟨found, hscope, hwhole, ?_⟩
  split
  · rename_i hempty
    subst hempty
    exact (searchCandidates_empty { workspaceId := 1 }).trans hwhole
  · rename_i hne
    rw [Shape.KeptFor, if_neg hne, Classical.not_imp] at h
    rw [searchCandidates, rowsFor_twoContents_some hne h.2]
    rfl

theorem hasShapes_twoContents {A : Shape → Prop} {shape : Shape} (h : A shape) :
    HasShapes A (twoContents shape) 1 := by
  intro row hrow _
  rw [sourceRows_twoContents] at hrow
  rcases List.mem_pair.mp hrow with rfl | rfl <;> exact h

theorem scopesApart_twoContents {shape : Shape} (sha256Hex : Text → Text) :
    ScopesApart sha256Hex (twoContents shape) { workspaceId := 1 } true := by
  obtain ⟨found, -, hraw⟩ := rawCandidates_twoContents shape sha256Hex true
  intro first hfirst second hsecond _
  rw [hraw, List.mem_singleton] at hfirst hsecond
  rw [hfirst, hsecond]

theorem unbound_twoContents {shape : Shape} (h : ¬ shape.KeptFor scope)
    (sha256Hex : Text → Text) :
    Unbound sha256Hex (twoContents shape) { workspaceId := 1, scope := some scope } true 10 ∧
      Unbound sha256Hex (twoContents shape) { workspaceId := 1 } true 10 := by
  obtain ⟨found, -, hwhole, hnarrow⟩ := searchCandidates_twoContents h sha256Hex
  have hrows : ∀ query, (selectedRows (twoContents shape) query).length ≤ sourceLimit 10 := by
    intro query
    rw [selectedRows, sortOn, List.length_insertionSort]
    refine (List.length_filter_le _ _).trans ?_
    rw [sourceRows_twoContents]
    exact Nat.le_add_left 2 98
  refine ⟨⟨hrows _, ?_⟩, ⟨hrows _, ?_⟩⟩
  · rw [hnarrow]
    split <;> simp [safeLimit]
  · rw [hwhole]
    simp [safeLimit]

theorem not_searchesAgree_twoContents {shape : Shape} (h : ¬ shape.KeptFor scope)
    (sha256Hex : Text → Text) :
    ¬ SearchesAgree sha256Hex (twoContents shape) { workspaceId := 1 } true 10 scope := by
  intro hagree
  obtain ⟨found, hscope, hwhole, hnarrow⟩ := searchCandidates_twoContents h sha256Hex
  obtain ⟨hunbound, hunbound'⟩ := unbound_twoContents h sha256Hex
  have hcandidates := hagree.candidates hunbound hunbound' rfl
  rw [hwhole, hnarrow, List.filter_singleton] at hcandidates
  by_cases hne : scope = []
  · rw [if_pos hne] at hcandidates
    rw [Shape.KeptFor, if_pos hne, ← hscope] at h
    simp [inScope, h] at hcandidates
  · rw [if_neg hne] at hcandidates
    rw [Shape.KeptFor, if_neg hne, Classical.not_imp, ← hscope] at h
    simp [inScope, h.1] at hcandidates

/-- Over the rows of some stored scopes and texts, searching one scope is searching all and
keeping that scope, exactly when the statement keeps each of these rows that the detector puts
into the scope. -/
theorem scopedSearch_iff (sha256Hex : Text → Text) (scope : Text) (A : Shape → Prop) :
    (∀ db query includeResolved limit, HasShapes A db query.workspaceId →
      Unbound sha256Hex db { query with scope := some scope } includeResolved limit →
      Unbound sha256Hex db { query with scope := none } includeResolved limit →
      ScopesApart sha256Hex db { query with scope := none } includeResolved →
        SearchesAgree sha256Hex db query includeResolved limit scope) ↔
    ∀ shape, A shape → shape.KeptFor scope := by
  constructor
  · intro hagree shape hshape
    by_contra hlost
    obtain ⟨hunbound, hunbound'⟩ := unbound_twoContents hlost sha256Hex
    exact not_searchesAgree_twoContents hlost sha256Hex
      (hagree (twoContents shape) { workspaceId := 1 } true 10 (hasShapes_twoContents hshape)
        hunbound hunbound' (scopesApart_twoContents sha256Hex))
  · intro hkept db query includeResolved limit hshapes hnarrow hwhole hapart
    refine searchesAgree_of_kept hnarrow hwhole hapart fun row hrow => hkept _ ?_
    exact HasShapes.selected { query with scope := none } hshapes hrow

/-- A scope that slugs may hold. -/
def Shape.Stored (shape : Shape) : Prop :=
  ∀ scope, shape.storedScope = some scope →
    ∃ value, ScopePipeline.slugifyScope value = scope

/-- The slug `api.v2` is stored with its dot, and looked up as `api-v2`. -/
theorem not_searchesAgree_dotted :
    ¬ ∀ sha256Hex db query includeResolved limit scope,
      HasShapes Shape.Stored db query.workspaceId →
      Unbound sha256Hex db { query with scope := some scope } includeResolved limit →
      Unbound sha256Hex db { query with scope := none } includeResolved limit →
      ScopesApart sha256Hex db { query with scope := none } includeResolved →
        SearchesAgree sha256Hex db query includeResolved limit scope := by
  intro hagree
  have hlost : ¬ Shape.KeptFor "api.v2".toList ⟨some "api.v2".toList, "Rate limits".toList⟩ := by
    unfold Shape.KeptFor
    decide +kernel
  have hstored : Shape.Stored ⟨some "api.v2".toList, "Rate limits".toList⟩ := by
    rintro scope heq
    exact ⟨some "api.v2".toList, (by decide +kernel : _ = "api.v2".toList).trans
      (Option.some.inj heq)⟩
  obtain ⟨hunbound, hunbound'⟩ := unbound_twoContents hlost id
  exact not_searchesAgree_twoContents hlost id
    (hagree id _ { workspaceId := 1 } true 10 "api.v2".toList (hasShapes_twoContents hstored)
      hunbound hunbound' (scopesApart_twoContents id))

end MemoryLab.Conflicts

import MemoryLab.Verification.ContextPack.Builder

/-! # The id of a pack and the order of its rows

The id is made of the contents that the sections end up with. Rows are deduplicated, keeping the
first of a key, before the sections are sorted and cut. -/

namespace MemoryLab.ContextPackBuilder

open Library Library.Rows

variable {convert : Conversions} {request : BuildRequest} {workspaceId : Text}

/-! ## Contents of the sections -/

def ContextPackEvidenceRef.place (ref : ContextPackEvidenceRef) : Text × Option Text :=
  (ref.contentId, ref.chunkId)

/-- It does not matter which of the references with one key a section keeps. -/
def StableSection {κ lab : Type} [LinearOrder κ] (sortKey : ContextPackEvidenceRef → κ)
    (label : ContextPackEvidenceRef → lab) (limit : ℕ) (refs : List ContextPackEvidenceRef) :
    Prop :=
  StableCut sortKey label limit (·.dedupeKey) refs

theorem mem_of_mem_refSection {κ : Type} [LinearOrder κ] {sortKey : ContextPackEvidenceRef → κ}
    {limit : ℕ} {refs : List ContextPackEvidenceRef} {ref : ContextPackEvidenceRef}
    (h : ref ∈ refSection sortKey limit refs) : ref ∈ refs :=
  mem_of_mem_distinctOn (mem_sortOn.mp (List.mem_of_mem_take h))

/-- The id of a conflict is part of its sort key, so the conflicts that are kept have the same
ids in every order. -/
theorem map_idText_conflictSection {limit : ℕ} {conflicts other : List ConflictDict}
    (h : other.Perm conflicts) :
    (conflictSection limit other).map (·.idText) =
      (conflictSection limit conflicts).map (·.idText) := by
  have hkeys := map_sortOn_of_perm ConflictDict.conflictSortKey (h.map ConflictDict.identified)
  have hid : ∀ rows : List ConflictDict, rows.map (·.idText) =
      (rows.map ConflictDict.conflictSortKey).map fun key => (ofLex (ofLex (ofLex key).2).2).2 :=
    fun rows => by rw [List.map_map]; rfl
  have htake : (conflictSection limit other).map ConflictDict.conflictSortKey =
      (conflictSection limit conflicts).map ConflictDict.conflictSortKey := by
    rw [conflictSection, conflictSection, List.map_take, List.map_take, hkeys]
  rw [hid, hid, htake]

theorem sortOn_place_eq_iff {refs other : List ContextPackEvidenceRef}
    (hchunk : ∀ ref ∈ refs, ref.chunkId ≠ some []) :
    sortOn (fun entry : Text × Option Text => toLex (entry.1, entry.2.getD []))
        (refs.map (·.place)) =
      sortOn (fun entry : Text × Option Text => toLex (entry.1, entry.2.getD []))
        (other.map (·.place)) ↔ (refs.map (·.place)).Perm (other.map (·.place)) := by
  apply sortOn_eq_iff_perm
  intro a ha b hb heq
  obtain ⟨first, hfirst, rfl⟩ := List.mem_map.mp ha
  obtain ⟨second, hsecond, rfl⟩ := List.mem_map.mp hb
  have hne := hchunk first hfirst
  have hne' := hchunk second hsecond
  simp only [EmbeddingLike.apply_eq_iff_eq, Prod.mk.injEq, ContextPackEvidenceRef.place] at heq ⊢
  refine ⟨heq.1, ?_⟩
  cases hc : first.chunkId <;> cases hc' : second.chunkId <;> simp_all

theorem sortOn_id_eq_iff {left right : List Text} :
    sortOn id left = sortOn id right ↔ left.Perm right :=
  sortOn_eq_iff_perm fun _ _ _ _ h => h

/-! ## Packs of permuted rows -/

section Order

variable {supporting current : List PackRow} {conflicts : List ConflictDict} {pack : ContextPack}

/-- The references of the rows that are evidence. -/
def supportRefs (convert : Conversions) (supporting : List PackRow) :
    List ContextPackEvidenceRef :=
  converted (supportRef convert) supporting

def stateRefs (convert : Conversions) (current : List PackRow) : List ContextPackEvidenceRef :=
  converted (stateRef convert) current

/-- What order leaves free is harmless in every section. -/
structure StableRows (convert : Conversions) (limit : ℕ) (supporting current : List PackRow) :
    Prop where
  supporting : StableSection (·.evidenceSortKey) (·.place) limit (supportRefs convert supporting)
  signals : StableSection (·.currentSortKey) (·.contentId) limit
    ((stateRefs convert current).filter (·.isSignal))
  stale : StableSection (·.staleSortKey) (·.contentId) limit
    ((stateRefs convert current).filter (·.isStale))

/-- The id of a pack is the same for every order of the rows, whatever the hash. -/
def OrderFree (convert : Conversions) (workspaceId : Text) (request : BuildRequest)
    (supporting current : List PackRow) (conflicts : List ConflictDict) (pack : ContextPack) :
    Prop :=
  ∀ (dumps : IdPayload → Text) (sha256Hex : Text → Text) (supporting' current' : List PackRow)
    (conflicts' : List ConflictDict) (pack' : ContextPack), supporting'.Perm supporting →
    current'.Perm current → conflicts'.Perm conflicts →
    buildContextPack convert request supporting' current' conflicts' = .ok pack' →
      makeContextPackId dumps sha256Hex (stableIdPayload workspaceId request pack') =
        makeContextPackId dumps sha256Hex (stableIdPayload workspaceId request pack)

theorem payload_eq_of_orderFree
    (h : OrderFree convert workspaceId request supporting current conflicts pack)
    {supporting' current' : List PackRow} {conflicts' : List ConflictDict} {pack' : ContextPack}
    (hsupporting : supporting'.Perm supporting) (hcurrent : current'.Perm current)
    (hconflicts : conflicts'.Perm conflicts)
    (hpack : buildContextPack convert request supporting' current' conflicts' = .ok pack') :
    stableIdPayload workspaceId request pack' = stableIdPayload workspaceId request pack := by
  by_contra hne
  have hid := h (fun payload =>
    if payload = stableIdPayload workspaceId request pack then ['0'] else ['1']) id supporting'
    current' conflicts' pack' hsupporting hcurrent hconflicts hpack
  simp [makeContextPackId, hne] at hid

theorem chunkId_ne_of_mem {limit : ℕ} {rows : List PackRow} {refs : List ContextPackEvidenceRef}
    (hrefs : rows.mapM (supportRef convert) = .ok refs) :
    ∀ ref ∈ refSection (·.evidenceSortKey) limit refs, ref.chunkId ≠ some [] := by
  intro ref href
  rw [← converted_eq hrefs] at href
  obtain ⟨row, -, hrow⟩ := exists_of_mem_converted (mem_of_mem_refSection href)
  exact chunkId_ne_of_evidenceFromItem hrow

theorem payload_eq_of_stableRows
    (hbuilt : buildContextPack convert request supporting current conflicts = .ok pack)
    (h : StableRows convert request.limit supporting current)
    {supporting' current' : List PackRow} {conflicts' : List ConflictDict} {pack' : ContextPack}
    (hsupporting : supporting'.Perm supporting) (hcurrent : current'.Perm current)
    (hconflicts : conflicts'.Perm conflicts)
    (hpack : buildContextPack convert request supporting' current' conflicts' = .ok pack') :
    stableIdPayload workspaceId request pack' = stableIdPayload workspaceId request pack := by
  obtain ⟨sRefs, tRefs, _, hs, ht, -, rfl⟩ := buildContextPack_eq_ok.mp hbuilt
  obtain ⟨sRefs', tRefs', _, hs', ht', -, rfl⟩ := buildContextPack_eq_ok.mp hpack
  obtain ⟨hsupport, hsignals, hstale⟩ := h
  rw [supportRefs, converted_eq hs] at hsupport
  rw [stateRefs, converted_eq ht] at hsignals hstale
  have hsPerm : sRefs'.Perm sRefs := perm_of_mapM hsupporting hs hs'
  have htPerm : tRefs'.Perm tRefs := perm_of_mapM hcurrent ht ht'
  have hplaces := perm_firstLabels_iff.mpr hsupport sRefs' hsPerm
  have hsignalIds := perm_firstLabels_iff.mpr hsignals _ (htPerm.filter (·.isSignal))
  have hstaleIds := perm_firstLabels_iff.mpr hstale _ (htPerm.filter (·.isStale))
  simp only [stableIdPayload, packOf, IdPayload.mk.injEq, true_and]
  refine ⟨(sortOn_place_eq_iff (chunkId_ne_of_mem hs')).mpr hplaces,
    sortOn_id_eq_iff.mpr hsignalIds, ?_, sortOn_id_eq_iff.mpr hstaleIds⟩
  rw [map_idText_conflictSection hconflicts]

theorem stableRows_of_orderFree
    (hbuilt : buildContextPack convert request supporting current conflicts = .ok pack)
    (h : OrderFree convert workspaceId request supporting current conflicts pack) :
    StableRows convert request.limit supporting current := by
  obtain ⟨sRefs, tRefs, cRefs, hs, ht, hc, rfl⟩ := buildContextPack_eq_ok.mp hbuilt
  refine ⟨?_, ?_, ?_⟩
  · rw [supportRefs, converted_eq hs, StableSection, ← perm_firstLabels_iff]
    intro other hother
    obtain ⟨rows, hrows, hmap⟩ := exists_perm_of_mapM hs hother
    have hpayload := payload_eq_of_orderFree h hrows (List.Perm.refl _) (List.Perm.refl _)
      (buildContextPack_eq_ok.mpr ⟨other, tRefs, cRefs, hmap, ht, hc, rfl⟩)
    exact (sortOn_place_eq_iff (chunkId_ne_of_mem hmap)).mp (congrArg IdPayload.supporting hpayload)
  · rw [stateRefs, converted_eq ht, StableSection, ← perm_firstLabels_iff]
    intro part hpart
    obtain ⟨other, hother, rfl⟩ := exists_perm_of_filter hpart
    obtain ⟨rows, hrows, hmap⟩ := exists_perm_of_mapM ht hother
    have hpayload := payload_eq_of_orderFree h (List.Perm.refl _) hrows (List.Perm.refl _)
      (buildContextPack_eq_ok.mpr ⟨sRefs, other, cRefs, hs, hmap, hc, rfl⟩)
    exact sortOn_id_eq_iff.mp (congrArg IdPayload.current hpayload)
  · rw [stateRefs, converted_eq ht, StableSection, ← perm_firstLabels_iff]
    intro part hpart
    obtain ⟨other, hother, rfl⟩ := exists_perm_of_filter hpart
    obtain ⟨rows, hrows, hmap⟩ := exists_perm_of_mapM ht hother
    have hpayload := payload_eq_of_orderFree h (List.Perm.refl _) hrows (List.Perm.refl _)
      (buildContextPack_eq_ok.mpr ⟨sRefs, other, cRefs, hs, hmap, hc, rfl⟩)
    exact sortOn_id_eq_iff.mp (congrArg IdPayload.stale hpayload)

/-- The id of a pack does not depend on the order of the rows exactly when it does not matter
which reference of a dedupe key is kept. -/
theorem packId_orderFree_iff (convert : Conversions) (workspaceId : Text)
    (request : BuildRequest) (supporting current : List PackRow) (conflicts : List ConflictDict)
    (pack : ContextPack)
    (hbuilt : buildContextPack convert request supporting current conflicts = .ok pack) :
    OrderFree convert workspaceId request supporting current conflicts pack ↔
      StableRows convert request.limit supporting current := by
  constructor
  · exact stableRows_of_orderFree hbuilt
  · intro h dumps sha256Hex supporting' current' conflicts' pack' hsupporting hcurrent
      hconflicts hpack
    rw [payload_eq_of_stableRows hbuilt h hsupporting hcurrent hconflicts hpack]

end Order

/-! ## Duplicates at the cut -/

/-- Integers are numbers, and nothing else is converted. -/
def plainConversions : Conversions :=
  { toFloat := fun
      | .int n => some n
      | _ => none
    toBool := fun _ => none
    toText := fun _ => [] }

def rankedRow (contentId : String) (rank : ℤ) : PackRow :=
  { evidenceId := some ("ev_" ++ contentId).toList, contentId := some contentId.toList,
    rank := some rank }

def rankedRef (contentId : String) (rank : ℤ) : ContextPackEvidenceRef :=
  refOf plainConversions (rankedRow contentId rank) [] (some "support".toList)
    ⟨none, none, none, none, none⟩

def oneOf : BuildRequest := { query := some "q".toList, limit := 1 }

/-- The pack of rows of evidence alone. -/
def rankedPack (refs : List ContextPackEvidenceRef) : ContextPack := packOf oneOf refs [] [] []

theorem packId_orderFree_iff_twoRows :
    OrderFree plainConversions [] oneOf [rankedRow "a" 1, rankedRow "b" 2] [] []
        (rankedPack [rankedRef "a" 1, rankedRef "b" 2]) ↔
      StableRows plainConversions 1 [rankedRow "a" 1, rankedRow "b" 2] [] :=
  packId_orderFree_iff plainConversions [] oneOf _ [] [] _
    (buildContextPack_eq_ok.mpr ⟨_, [], [], rfl, rfl, rfl, rfl⟩)

/-- The first of two references with one key decides whether their content is kept. -/
theorem not_packId_orderFree :
    ¬ ∀ (convert : Conversions) (workspaceId : Text) (request : BuildRequest)
      (supporting current : List PackRow) (conflicts : List ConflictDict) (pack : ContextPack),
      buildContextPack convert request supporting current conflicts = .ok pack →
        OrderFree convert workspaceId request supporting current conflicts pack := by
  intro h
  have hpayload := payload_eq_of_orderFree
    (h plainConversions [] oneOf [rankedRow "a" 5, rankedRow "a" 1, rankedRow "b" 3] [] []
      (rankedPack [rankedRef "a" 5, rankedRef "a" 1, rankedRef "b" 3])
      (buildContextPack_eq_ok.mpr ⟨_, [], [], rfl, rfl, rfl, rfl⟩))
    (List.Perm.swap _ _ _) (List.Perm.refl _) (List.Perm.refl _)
    (buildContextPack_eq_ok.mpr
      ⟨[rankedRef "a" 1, rankedRef "a" 5, rankedRef "b" 3], [], [], rfl, rfl, rfl, rfl⟩)
  have hplaces := congrArg IdPayload.supporting hpayload
  revert hplaces
  decide +kernel

end MemoryLab.ContextPackBuilder

import MemoryLab.Model.ContextPack

/-! # How often a section lists a content

A section keeps one entry of every key. The key of a row with a chunk names the chunk, so the
rows of one item share it; the key of a row without one names its rank, so they do not. -/

namespace MemoryLab.ContextPack

open Library Library.Rows

/-! ## The rows of one item -/

def headChunks (db : Database) (item : ContentItem) : List ContentChunkRow :=
  db.contentChunks.filter (headChunkOf item)

def anchorsOf (db : Database) (item : ContentItem) : List CurrentStateAnchor :=
  db.anchors.filter (anchorOf item)

/-- The keys that the statement relies on. -/
structure Keyed (db : Database) : Prop where
  contentId_nodup : db.contentIds.Nodup
  one_head : ∀ item ∈ db.contentItems, (headChunks db item).length ≤ 1

theorem filter_joinedRows (q : ContentItem → Bool) (items : List ContentItem) (db : Database) :
    (joinedRows items db).filter (fun row => q row.1.1) = joinedRows (items.filter q) db := by
  have houter := filter_leftJoin (p := fun row anchor => anchorOf row.1 anchor)
    (fun row => q row.1) (leftJoin headChunkOf items db.contentChunks) db.anchors
  rw [filter_leftJoin q] at houter
  exact houter

theorem joinedRows_singleton {db : Database} {item : ContentItem}
    (h : (headChunks db item).length ≤ 1) :
    joinedRows [item] db = leftJoin (fun row anchor => anchorOf row.1 anchor)
      [(item, (headChunks db item).head?)] db.anchors := by
  rw [joinedRows, leftJoin_singleton h]
  rfl

theorem length_joinedRows_singleton {db : Database} {item : ContentItem}
    (h : (headChunks db item).length ≤ 1) :
    (joinedRows [item] db).length = max 1 (anchorsOf db item).length := by
  rw [joinedRows_singleton h, length_leftJoin_singleton]
  rfl

theorem fst_of_mem_joinedRows {db : Database} {item : ContentItem}
    (h : (headChunks db item).length ≤ 1) {row : JoinedRow} (hmem : row ∈ joinedRows [item] db) :
    row.1 = (item, (headChunks db item).head?) := by
  rw [joinedRows_singleton h] at hmem
  exact List.mem_singleton.mp (fst_of_mem_leftJoin hmem)

theorem Keyed.filter_contentItems {db : Database} (h : Keyed db) {item : ContentItem}
    (hitem : item ∈ db.contentItems) :
    db.contentItems.filter (hasContentId item.contentId) = [item] := by
  have hnodup := List.nodup_map_iff_inj_on h.contentId_nodup.of_map |>.mp h.contentId_nodup
  rw [← List.perm_singleton]
  refine (List.perm_ext_iff_of_nodup (h.contentId_nodup.of_map.filter _)
    (List.nodup_singleton item)).mpr fun other => ?_
  rw [List.mem_filter, List.mem_singleton]
  constructor
  · rintro ⟨hother, hid⟩
    exact hnodup other hother item hitem (beq_iff_eq.mp hid)
  · rintro rfl
    exact ⟨hitem, beq_self_eq_true _⟩

/-! ## Entries -/

def JoinedRow.marked (mark : Bool) (row : JoinedRow) : Bool := row.1.1.isCurrent == some mark

def JoinedRow.ofContent (contentId : ContentId) (row : JoinedRow) : Bool :=
  hasContentId contentId row.1.1

def refOf (row : JoinedRow × ℕ) : ContextPackEvidenceRef :=
  evidenceFromItem (numberedRow row.1 row.2) (some "current_state")

/-- The entries with a mark, before they are sorted. -/
def markedRefs (mark : Bool) (rows : List CurrentStateRow) : List ContextPackEvidenceRef :=
  dedupeRefs ((rows.map (evidenceFromItem · (some "current_state"))).filter
    (·.isCurrent == some mark))

theorem perm_currentRefs (rows : List CurrentStateRow) :
    (currentRefs rows).Perm (markedRefs true rows) :=
  List.perm_insertionSort _ _

theorem perm_staleRefs {rows : List CurrentStateRow}
    (h : ∀ row ∈ rows, row.isCurrent = none → row.csSupersedesContentId = none) :
    (staleRefs rows).Perm (markedRefs false rows) := by
  have hfilter : (rows.map (evidenceFromItem · (some "current_state"))).filter (·.isStale) =
      (rows.map (evidenceFromItem · (some "current_state"))).filter
        (·.isCurrent == some false) := by
    refine List.filter_congr fun ref href => ?_
    obtain ⟨row, hrow, rfl⟩ := List.mem_map.mp href
    rcases hmark : row.isCurrent with _ | _ | _
    · simp [ContextPackEvidenceRef.isStale, ContextPackEvidenceRef.isSignal, evidenceFromItem,
        hmark, h row hrow hmark]
    · simp [ContextPackEvidenceRef.isStale, ContextPackEvidenceRef.isSignal, evidenceFromItem,
        hmark]
    · simp [ContextPackEvidenceRef.isStale, ContextPackEvidenceRef.isSignal, evidenceFromItem,
        hmark]
  rw [staleRefs, hfilter]
  exact List.perm_insertionSort _ _

/-- The entries of one content come from its rows. -/
theorem filter_markedRefs (mark : Bool) (contentId : ContentId) (rows : List JoinedRow) :
    (markedRefs mark (numberRows rows)).filter (·.contentId == contentId) =
      distinctOn (·.dedupeKey) (((rows.zipIdx 1).filter fun row =>
        row.1.ofContent contentId && row.1.marked mark).map refOf) := by
  have hkey : ∀ a b : ContextPackEvidenceRef, a.dedupeKey = b.dedupeKey →
      (a.contentId == contentId) = (b.contentId == contentId) := by
    intro a b h
    have hid : a.contentId = b.contentId := congrArg Prod.fst h
    rw [hid]
  rw [markedRefs, dedupeRefs, filter_distinctOn hkey, numberRows, List.map_map,
    List.filter_map, List.filter_map, List.filter_filter]
  rfl

theorem filter_zipIdx (q : JoinedRow → Bool) (rows : List JoinedRow) :
    ((rows.zipIdx 1).filter fun row => q row.1).map (·.1) = rows.filter q := by
  conv_rhs => rw [← List.zipIdx_map_fst 1 rows, List.filter_map]
  rfl

theorem count_markedRefs (mark : Bool) (contentId : ContentId) (rows : List JoinedRow) :
    ((markedRefs mark (numberRows rows)).map (·.contentId)).count contentId =
      ((markedRefs mark (numberRows rows)).filter (·.contentId == contentId)).length := by
  rw [List.count_eq_countP, List.countP_map, List.countP_eq_length_filter]
  rfl

theorem mem_marked {mark : Bool} {contentId : ContentId} {rows : List JoinedRow}
    {row : JoinedRow × ℕ} (h : row ∈ (rows.zipIdx 1).filter fun row =>
      row.1.ofContent contentId && row.1.marked mark) :
    row.1 ∈ rows.filter fun row => row.ofContent contentId && row.marked mark := by
  rw [← filter_zipIdx]
  exact List.mem_map_of_mem h

/-- Rows without a chunk are listed each. -/
theorem count_markedRefs_of_no_chunk {mark : Bool} {contentId : ContentId}
    {rows : List JoinedRow}
    (h : ∀ row ∈ rows.filter fun row => row.ofContent contentId && row.marked mark,
      row.1.2 = none) :
    ((markedRefs mark (numberRows rows)).map (·.contentId)).count contentId =
      (rows.filter fun row => row.ofContent contentId && row.marked mark).length := by
  have hranks : (((rows.zipIdx 1).filter fun row =>
      row.1.ofContent contentId && row.1.marked mark).map (·.2)).Nodup := by
    refine List.Nodup.sublist (List.filter_sublist.map _) ?_
    rw [List.zipIdx_map_snd]
    exact List.nodup_range'
  rw [count_markedRefs, filter_markedRefs, distinctOn_of_nodup, List.length_map,
    ← filter_zipIdx, List.length_map]
  rw [List.map_map]
  refine List.Nodup.map_on (fun first hfirst second hsecond heq => ?_) hranks.of_map
  refine List.inj_on_of_nodup_map hranks hfirst hsecond ?_
  have hevidence := congrArg (·.2.2.2) heq
  simp only [Function.comp, ContextPackEvidenceRef.dedupeKey, refOf, evidenceFromItem,
    numberedRow, h _ (mem_marked hfirst), h _ (mem_marked hsecond)] at hevidence
  exact (EvidenceId.ofRank.inj hevidence).2

/-- Rows with one chunk are listed once. -/
theorem count_markedRefs_of_chunk {mark : Bool} {contentId : ContentId}
    {rows : List JoinedRow} {chunk : ContentChunkRow}
    (hne : (rows.filter fun row => row.ofContent contentId && row.marked mark) ≠ [])
    (h : ∀ row ∈ rows.filter fun row => row.ofContent contentId && row.marked mark,
      row.1.2 = some chunk) :
    ((markedRefs mark (numberRows rows)).map (·.contentId)).count contentId = 1 := by
  rw [count_markedRefs, filter_markedRefs]
  refine length_distinctOn_of_forall_eq (k := (contentId, some chunk.chunkId,
    some "current_state", .ofChunk contentId chunk.chunkId)) ?_ fun ref href => ?_
  · intro hnil
    rw [← filter_zipIdx, List.map_eq_nil_iff.mp hnil] at hne
    exact hne rfl
  · obtain ⟨row, hrow, rfl⟩ := List.mem_map.mp href
    have hmem := mem_marked hrow
    have hid : row.1.1.1.contentId = contentId :=
      beq_iff_eq.mp (Bool.and_eq_true_iff.mp (List.mem_filter.mp hmem).2).1
    simp [ContextPackEvidenceRef.dedupeKey, refOf, evidenceFromItem, numberedRow, h _ hmem, hid]

/-! ## Listings -/

/-- How often an item is listed: once under its first chunk, else once for every anchor. -/
def listings (db : Database) (item : ContentItem) : ℕ :=
  if headChunks db item = [] then max 1 (anchorsOf db item).length else 1

theorem listings_eq_one_iff {db : Database} {item : ContentItem} :
    listings db item = 1 ↔ headChunks db item ≠ [] ∨ (anchorsOf db item).length ≤ 1 := by
  unfold listings
  split
  · rename_i hnil
    simp only [hnil, ne_eq, not_true_eq_false, false_or]
    omega
  · rename_i hne
    simp [hne]

/-- The items with a mark that the statement selects under a scope. -/
def CurrentStateQuery.wants (query : CurrentStateQuery) (scope : Text) (mark : Bool)
    (item : ContentItem) : Bool :=
  item.workspaceId == some query.workspaceId && query.asksFor item &&
    item.currentStateScope == some scope && item.isCurrent == some mark

theorem item_mem_of_matching {db : Database} {query : CurrentStateQuery} {row : JoinedRow}
    (h : row ∈ matchingRows db query) : row.1.1 ∈ db.contentItems := by
  have hrow := (List.mem_filter.mp ((List.mem_insertionSort _).mp h)).1
  exact fst_of_mem_leftJoin (fst_of_mem_leftJoin hrow)

theorem count_unlisted {db : Database} {query : CurrentStateQuery} {contentId : ContentId}
    (h : contentId ∉ db.contentIds) (mark : Bool) :
    ((markedRefs mark (numberRows (matchingRows db query))).map (·.contentId)).count contentId =
      0 := by
  have hnone : ((matchingRows db query).filter fun row =>
      row.ofContent contentId && row.marked mark) = [] := by
    refine List.filter_eq_nil_iff.mpr fun row hrow hkept => h ?_
    have hid : row.1.1.contentId = contentId := beq_iff_eq.mp (Bool.and_eq_true_iff.mp hkept).1
    exact hid ▸ List.mem_map_of_mem (item_mem_of_matching hrow)
  rw [count_markedRefs_of_no_chunk, hnone]
  · rfl
  · intro row hrow
    rw [hnone] at hrow
    cases hrow

theorem Keyed.count_kept {db : Database} (h : Keyed db) {item : ContentItem}
    (hitem : item ∈ db.contentItems) (keeps : ContentItem → Bool) :
    ((db.contentItems.filter keeps).map (·.contentId)).count item.contentId =
      if keeps item then 1 else 0 := by
  have hkept : (db.contentItems.filter keeps).filter (hasContentId item.contentId) =
      [item].filter keeps := by
    rw [List.filter_comm, h.filter_contentItems hitem]
  rw [List.count_eq_countP, List.countP_map, List.countP_eq_length_filter]
  refine (congrArg List.length hkept).trans ?_
  cases hkeep : keeps item <;> simp [hkeep]

section Listed

variable {db : Database} {query : CurrentStateQuery} {scope : Text}
  (hscope : query.scope = some scope) (hne : scope ≠ [])
include hscope hne

theorem selects_marked_iff {row : JoinedRow} {mark : Bool} :
    (query.selects row && row.marked mark) = query.wants scope mark row.1.1 := by
  obtain ⟨⟨item, chunk⟩, anchor⟩ := row
  have hmatches : query.matchesText ((item, chunk), anchor) =
      (item.currentStateScope == some scope) := by
    rw [CurrentStateQuery.matchesText, hscope, Option.filter_some, if_pos (by simpa using hne)]
  rw [CurrentStateQuery.selects, CurrentStateQuery.wants, hmatches]
  simp only [JoinedRow.marked]
  rcases hmark : item.isCurrent with _ | current
  · simp
  · simp

theorem perm_matchingRows (hkeyed : Keyed db) {item : ContentItem}
    (hitem : item ∈ db.contentItems) (mark : Bool) :
    ((matchingRows db query).filter fun row =>
      row.ofContent item.contentId && row.marked mark).Perm
      (if query.wants scope mark item then joinedRows [item] db else []) := by
  refine ((List.perm_insertionSort _ _).filter _).trans (List.Perm.of_eq ?_)
  have hrows := filter_joinedRows (hasContentId item.contentId) db.contentItems db
  rw [hkeyed.filter_contentItems hitem] at hrows
  rw [List.filter_filter]
  have hcongr : ∀ row : JoinedRow,
      ((row.ofContent item.contentId && row.marked mark) && query.selects row) =
        (query.wants scope mark row.1.1 && hasContentId item.contentId row.1.1) := by
    intro row
    rw [← selects_marked_iff hscope hne, Bool.and_comm, JoinedRow.ofContent]
    ac_rfl
  rw [List.filter_congr fun row _ => hcongr row, ← List.filter_filter, hrows]
  have hfst : ∀ row ∈ joinedRows [item] db, query.wants scope mark row.1.1 =
      query.wants scope mark item := by
    intro row hrow
    rw [fst_of_mem_joinedRows (hkeyed.one_head item hitem) hrow]
  rw [List.filter_congr hfst]
  cases query.wants scope mark item with
  | false => simp
  | true => simp

/-- What is listed of one item. -/
theorem count_listed (hkeyed : Keyed db) {item : ContentItem} (hitem : item ∈ db.contentItems)
    (mark : Bool) :
    ((markedRefs mark (numberRows (matchingRows db query))).map (·.contentId)).count
      item.contentId = if query.wants scope mark item then listings db item else 0 := by
  have hone := hkeyed.one_head item hitem
  have hperm := perm_matchingRows hscope hne hkeyed hitem mark
  cases hwants : query.wants scope mark item with
  | false =>
      rw [hwants, if_neg Bool.false_ne_true] at hperm
      rw [count_markedRefs_of_no_chunk, hperm.eq_nil]
      · rfl
      · intro row hrow
        rw [hperm.eq_nil] at hrow
        cases hrow
  | true =>
      rw [hwants, if_pos rfl] at hperm
      have hchunk : ∀ row ∈ (matchingRows db query).filter fun row =>
          row.ofContent item.contentId && row.marked mark,
          row.1.2 = (headChunks db item).head? := by
        intro row hrow
        rw [fst_of_mem_joinedRows hone (hperm.mem_iff.mp hrow)]
      rw [if_pos rfl, listings]
      rcases hheads : headChunks db item with _ | ⟨chunk, rest⟩
      · rw [hheads] at hchunk
        rw [count_markedRefs_of_no_chunk hchunk, hperm.length_eq,
          length_joinedRows_singleton hone, if_pos rfl]
      · rw [hheads] at hchunk
        rw [count_markedRefs_of_chunk _ hchunk, if_neg (List.cons_ne_nil _ _)]
        rw [ne_eq, ← List.length_eq_zero_iff, hperm.length_eq, length_joinedRows_singleton hone]
        omega

/-- A section lists exactly the items that some test keeps, each once. -/
theorem perm_listed_iff (hkeyed : Keyed db) (mark : Bool) (keeps : ContentItem → Bool) :
    ((markedRefs mark (numberRows (matchingRows db query))).map (·.contentId)).Perm
      ((db.contentItems.filter keeps).map (·.contentId)) ↔
      ∀ item ∈ db.contentItems, (if query.wants scope mark item then listings db item else 0) =
        if keeps item then 1 else 0 := by
  rw [List.perm_iff_count]
  constructor
  · intro hcount item hitem
    rw [← count_listed hscope hne hkeyed hitem, hcount, hkeyed.count_kept hitem]
  · intro hitems contentId
    by_cases hmem : contentId ∈ db.contentIds
    · obtain ⟨item, hitem, rfl⟩ := List.mem_map.mp hmem
      rw [count_listed hscope hne hkeyed hitem, hitems item hitem, hkeyed.count_kept hitem]
    · rw [count_unlisted hmem, List.count_eq_zero_of_not_mem]
      rintro hkept
      obtain ⟨item, hitem, rfl⟩ := List.mem_map.mp hkept
      exact hmem (List.mem_map_of_mem (List.mem_filter.mp hitem).1)

end Listed

end MemoryLab.ContextPack

import MemoryLab.Verification.ContextPack.Sections
import MemoryLab.Verification.Save.Consistency
import MemoryLab.Verification.Scope.Canonical

/-! # When a context pack finds what the resolver stored

The reader compares the scope as the caller spelled it, and an item without a first chunk is
listed once for every anchor. -/

namespace MemoryLab.ContextPack

open Library Library.Rows Library.Runs Adapter Resolver ScopePipeline

/-! ## Stored marks -/

structure RowMarked (item : ContentItem) : Prop where
  scope : ∀ scope, item.currentStateScope = some scope → CanonicalSlug scope
  mark : item.isCurrent = none → item.csSupersedesContentId = none

/-- What calls leave behind for the reader. -/
structure Marked (db : Database) : Prop where
  anchors : AnchorScopesCanonical db
  rows : ∀ item ∈ db.contentItems, RowMarked item

/-- No call has run on the database yet. -/
structure Unresolved (db : Database) : Prop where
  anchors : db.anchors = []
  rows : ∀ item ∈ db.contentItems, item.isCurrent = none ∧ item.currentStateScope = none ∧
    item.csSupersedesContentId = none

theorem Unresolved.marked {db : Database} (h : Unresolved db) : Marked db := by
  refine ⟨fun anchor hmem => ?_, fun item hitem => ?_⟩
  · rw [h.anchors] at hmem
    cases hmem
  · obtain ⟨-, hscope, hsupersedes⟩ := h.rows item hitem
    refine ⟨fun scope hsome => ?_, fun _ => hsupersedes⟩
    rw [hscope] at hsome
    cases hsome

theorem resolveStep_marked {db : Database} (h : Marked db) (call : ResolveCall) :
    Marked (resolveStep db call) := by
  have hcanonical := resolveScope_canonical h.anchors call.args.scopeRequest
  refine ⟨resolveStep_scopesCanonical h.anchors call, resolveStep_rows h.rows call ?_ ?_ ?_⟩
  · exact fun item hitem => ⟨fun scope hsome => Option.some.inj hsome ▸ hcanonical, hitem.mark⟩
  · exact fun item _ => ⟨fun scope hsome => Option.some.inj hsome ▸ hcanonical, by
      simp [setNotCurrent]⟩
  · exact fun _ _ item _ => ⟨fun scope hsome => Option.some.inj hsome ▸ hcanonical, by
      simp [setCurrent]⟩

/-- The first chunk of a content is unique. -/
theorem keyed_of_consistent {db : Database} (h : Consistent db) : Keyed db := by
  refine ⟨h.contentId_nodup, fun item _ => ?_⟩
  have hindex : ∀ index ∈ (headChunks db item).map (·.chunkIndex), index = 0 := by
    intro index hmem
    obtain ⟨chunk, hchunk, rfl⟩ := List.mem_map.mp hmem
    have hhead := (List.mem_filter.mp hchunk).2
    simp only [headChunkOf, Bool.and_eq_true, beq_iff_eq] at hhead
    exact hhead.2
  have hsublist : (headChunks db item).Sublist
      (db.contentChunks.filter (ofContent item.contentId)) := by
    refine List.monotone_filter_right _ fun chunk hchunk => ?_
    simp only [headChunkOf, Bool.and_eq_true] at hchunk
    exact hchunk.1.1
  have hnodup := h.chunk_unique item.contentId
  rw [storedBody, List.map_map] at hnodup
  have hheads := hnodup.sublist (hsublist.map _)
  have hreplicate := List.eq_replicate_of_mem hindex
  rw [List.length_map] at hreplicate
  exact List.nodup_replicate.mp (hreplicate ▸ hheads)

/-! ## The request -/

theorem storable_strip {text : Text} : storable text.strip = storable text := by
  have hmem : Char.ofNat 0 ∈ text.strip ↔ Char.ofNat 0 ∈ text :=
    ⟨fun h => (Text.stripChars_infix _ _).subset h, fun h => Text.mem_stripChars h (by decide)⟩
  simp only [storable, hmem]

theorem slugifyScope_strip (text : Text) :
    slugifyScope (some text.strip) = slugifyScope (some text) := by
  have hstrip : text.strip.strip = text.strip := (Text.trimmed_stripChars _ _).stripChars_eq
  simp only [slugifyScope, Option.getD_some, hstrip]

section Request

variable {request normalized : ContextPackBuildRequest}
  (hvalid : request.validateAndNormalize = .ok normalized)
include hvalid

theorem eq_normalize : normalized = request.normalize := by
  unfold ContextPackBuildRequest.validateAndNormalize at hvalid
  dsimp only at hvalid
  split at hvalid
  · cases hvalid
  · split at hvalid
    · cases hvalid
    · split at hvalid
      · cases hvalid
      · exact (Except.ok.inj hvalid).symm

theorem storable_memoryTypes :
    ∀ text ∈ normalized.resolvedMemoryTypes.getD [], storable text = true := by
  have hknown : ∀ text ∈ memoryTypeValues, storable text = true := by decide
  have heq := eq_normalize hvalid
  unfold ContextPackBuildRequest.validateAndNormalize at hvalid
  dsimp only at hvalid
  split at hvalid
  · cases hvalid
  · split at hvalid
    · cases hvalid
    · split at hvalid
      · cases hvalid
      · rename_i hnone
        rw [← heq, not_not, List.filter_eq_nil_iff] at hnone
        intro text hmem
        exact hknown text (by simpa using hnone text hmem)

theorem scope_normalized {h : Text} (hscope : request.scope = some h) (hblank : h.strip ≠ []) :
    normalized.scope = some h.strip := by
  rw [eq_normalize hvalid, ContextPackBuildRequest.normalize, hscope]
  simp [clean, hblank]

end Request

/-! ## Reading -/

/-- Neither the statement's limit nor the one of a section cuts anything off. -/
structure NoLimitBinds (db : Database) (query : CurrentStateQuery) : Prop where
  rows : (matchingRows db query).length ≤ query.rowLimit
  current : (currentRefs (numberRows (matchingRows db query))).length ≤ query.limit
  stale : (staleRefs (numberRows (matchingRows db query))).length ≤ query.limit

/-- The two sections list exactly the items of the scope, by their marks, each once. -/
structure Finds (db : Database) (query : CurrentStateQuery) (scope : Text)
    (sections : CurrentStateSections) : Prop where
  current : (sections.currentStateSignals.map (·.contentId)).Perm
    ((db.contentItems.filter (query.wants scope true)).map (·.contentId))
  stale : (sections.staleOrSupersededItems.map (·.contentId)).Perm
    ((db.contentItems.filter (query.wants scope false)).map (·.contentId))

/-- The text can be passed, and every marked item of the slug is stored under the very text
and has a first chunk, or else one anchor at most. -/
structure Findable (db : Database) (query : CurrentStateQuery) (text : Text) : Prop where
  storable : storable text = true
  items : ∀ item ∈ db.contentItems, ∀ mark,
    query.wants (slugifyScope (some text)) mark item = true →
    text.strip = slugifyScope (some text) ∧
      (headChunks db item ≠ [] ∨ (anchorsOf db item).length ≤ 1)

section Reading

variable {db : Database} {query : CurrentStateQuery} {scope : Text}
  (hscope : query.scope = some scope) (hne : scope ≠ [])
include hscope hne

theorem finds_iff_listings (hkeyed : Keyed db) (hmarked : Marked db) (target : Text) :
    Finds db query target ⟨currentRefs (numberRows (matchingRows db query)),
        staleRefs (numberRows (matchingRows db query))⟩ ↔
      ∀ item ∈ db.contentItems, ∀ mark,
        (if query.wants scope mark item then listings db item else 0) =
          if query.wants target mark item then 1 else 0 := by
  have hstale : ∀ row ∈ numberRows (matchingRows db query),
      row.isCurrent = none → row.csSupersedesContentId = none := by
    intro row hrow
    obtain ⟨numbered, hnumbered, rfl⟩ := List.mem_map.mp hrow
    exact (hmarked.rows _ (item_mem_of_matching (List.fst_mem_of_mem_zipIdx hnumbered))).mark
  have hcurrent := (perm_currentRefs (numberRows (matchingRows db query))).map (·.contentId)
  have hsuperseded := (perm_staleRefs hstale).map (·.contentId)
  constructor
  · rintro ⟨hlisted, hlisted'⟩ item hitem mark
    cases mark with
    | false =>
        exact (perm_listed_iff hscope hne hkeyed false _).mp (hsuperseded.symm.trans hlisted')
          item hitem
    | true =>
        exact (perm_listed_iff hscope hne hkeyed true _).mp (hcurrent.symm.trans hlisted)
          item hitem
  · intro hitems
    refine ⟨hcurrent.trans ?_, hsuperseded.trans ?_⟩
    · exact (perm_listed_iff hscope hne hkeyed true _).mpr fun item hitem =>
        hitems item hitem true
    · exact (perm_listed_iff hscope hne hkeyed false _).mpr fun item hitem =>
        hitems item hitem false

end Reading

theorem wants_strip_eq {db : Database} (hmarked : Marked db) {query : CurrentStateQuery}
    {text : Text} {item : ContentItem} (hitem : item ∈ db.contentItems) {mark : Bool}
    (h : query.wants text.strip mark item = true) :
    text.strip = slugifyScope (some text) := by
  simp only [CurrentStateQuery.wants, Bool.and_eq_true, beq_iff_eq] at h
  rw [← slugifyScope_strip]
  exact ((hmarked.rows item hitem).scope _ h.1.2).slugify_eq.symm

/-- The listings are right exactly when the spelling and the rows of every item are. -/
theorem listings_iff {db : Database} (hmarked : Marked db) {query : CurrentStateQuery}
    {text : Text} {item : ContentItem} (hitem : item ∈ db.contentItems) (mark : Bool) :
    (if query.wants text.strip mark item then listings db item else 0) =
        (if query.wants (slugifyScope (some text)) mark item then 1 else 0) ↔
      (query.wants (slugifyScope (some text)) mark item = true →
        text.strip = slugifyScope (some text) ∧
          (headChunks db item ≠ [] ∨ (anchorsOf db item).length ≤ 1)) := by
  by_cases hspelled : text.strip = slugifyScope (some text)
  · rw [← listings_eq_one_iff, hspelled]
    cases query.wants (slugifyScope (some text)) mark item <;> simp
  · have hunlisted : query.wants text.strip mark item = false := by
      by_contra hwants
      exact hspelled (wants_strip_eq hmarked hitem (by simpa using hwants))
    rw [hunlisted]
    cases query.wants (slugifyScope (some text)) mark item <;> simp [hspelled]

section Request

variable {request normalized : ContextPackBuildRequest} {text : Text}
  (hvalid : request.validateAndNormalize = .ok normalized) (hscope : request.scope = some text)
  (hblank : text.strip ≠ []) (workspaceId : WorkspaceId)
include hvalid hscope hblank

theorem all_storable_iff :
    (normalized.currentStateQuery workspaceId).textParameters.all storable = true ↔
      storable text = true := by
  have hnormalized := scope_normalized hvalid hscope hblank
  rw [CurrentStateQuery.textParameters, List.all_append, Bool.and_eq_true]
  have htypes : ((normalized.currentStateQuery workspaceId).memoryTypes.getD []).all storable =
      true := List.all_eq_true.mpr (storable_memoryTypes hvalid)
  have hone : ((normalized.currentStateQuery workspaceId).scope.filter (· ≠ [])).or
      ((normalized.currentStateQuery workspaceId).query.filter (· ≠ [])) = some text.strip := by
    simp [ContextPackBuildRequest.currentStateQuery, hnormalized, hblank]
  rw [hone]
  simp [htypes, storable_strip]

/-- What the two sections are when no limit binds. -/
theorem currentStateForRequest_eq {db : Database}
    (hinclude : request.includeCurrentState = true)
    (hlimits : NoLimitBinds db (normalized.currentStateQuery workspaceId)) :
    currentStateForRequest db normalized workspaceId =
      if storable text then
        .ok ⟨currentRefs (numberRows (matchingRows db (normalized.currentStateQuery workspaceId))),
          staleRefs (numberRows (matchingRows db (normalized.currentStateQuery workspaceId)))⟩
      else .error .invalidText := by
  have hinclude' : normalized.includeCurrentState = true := by
    rw [eq_normalize hvalid]
    exact hinclude
  rw [currentStateForRequest, if_pos hinclude', fetchCurrentStateRows]
  simp only [all_storable_iff hvalid hscope hblank workspaceId]
  split
  · rw [List.take_of_length_le hlimits.rows]
    simp only [Except.map, currentStateSections]
    have hcurrent : (currentRefs (numberRows
        (matchingRows db (normalized.currentStateQuery workspaceId)))).length ≤
          normalized.limit := hlimits.current
    have hstale : (staleRefs (numberRows
        (matchingRows db (normalized.currentStateQuery workspaceId)))).length ≤
          normalized.limit := hlimits.stale
    rw [List.take_of_length_le hcurrent, List.take_of_length_le hstale]
  · rfl

theorem finds_iff_findable {db : Database} (hkeyed : Keyed db) (hmarked : Marked db)
    (hinclude : request.includeCurrentState = true)
    (hlimits : NoLimitBinds db (normalized.currentStateQuery workspaceId)) :
    (∃ sections, currentStateForRequest db normalized workspaceId = .ok sections ∧
      Finds db (normalized.currentStateQuery workspaceId) (slugifyScope (some text)) sections) ↔
      Findable db (normalized.currentStateQuery workspaceId) text := by
  rw [currentStateForRequest_eq hvalid hscope hblank workspaceId hinclude hlimits]
  have hquery : (normalized.currentStateQuery workspaceId).scope = some text.strip :=
    scope_normalized hvalid hscope hblank
  have hlistings := finds_iff_listings hquery hblank hkeyed hmarked (slugifyScope (some text))
  constructor
  · rintro ⟨sections, hok, hfinds⟩
    split at hok
    · rename_i hstorable
      cases hok
      refine ⟨hstorable, fun item hitem mark => ?_⟩
      exact (listings_iff hmarked hitem mark).mp (hlistings.mp hfinds item hitem mark)
    · cases hok
  · intro hfindable
    refine ⟨_, if_pos hfindable.storable, hlistings.mpr fun item hitem mark => ?_⟩
    exact (listings_iff hmarked hitem mark).mpr (hfindable.items item hitem mark)

end Request

/-! ## Runs -/

end MemoryLab.ContextPack

import MemoryLab.Model.AskSeam
import MemoryLab.Verification.ContextPack.PackId

/-! # Evidence through the pack

An item comes back from its own dump. The pack keeps every item in its place, for the ranks
grow along the list and no content occurs twice. -/

namespace MemoryLab.AskSeam

open Library Library.Rows ContextPackBuilder Evidence

variable {convert : Conversions}

/-! ## Dumps -/

@[simp] theorem textField_ofText (name : String) (value : Option Text) :
    textField name (.ofText value) = .ok value := by
  cases value <;> rfl

@[simp] theorem floatField_ofRat (name : String) (value : Option ℚ) :
    floatField convert name (.ofRat value) = .ok value := by
  cases value <;> rfl

@[simp] theorem boolField_ofBool (name : String) (value : Option Bool) :
    boolField convert name (.ofBool value) = .ok value := by
  cases value <;> rfl

@[simp] theorem dictField_ofDict (name : String) (value : Option PyDict) :
    dictField name ((value.map PyValue.dict).getD .none) = .ok value := by
  cases value <;> rfl

@[simp] theorem listField_ofList (name : String) (value : Option (List PyValue)) :
    listField name ((value.map PyValue.list).getD .none) = .ok value := by
  cases value <;> rfl

/-- A dump gives its item back. -/
theorem itemOfDict_dump (item : EvidenceItem) : itemOfDict convert (dump item) = .ok item := by
  unfold itemOfDict
  simp only [Transaction.bind_eq_ok]
  exact ⟨_, rfl, _, rfl, _, rfl, _, textField_ofText _ _, _, rfl, _, floatField_ofRat _ _, _, rfl,
    _, rfl, _, textField_ofText _ _, _, textField_ofText _ _, _, dictField_ofDict _ _,
    _, textField_ofText _ _, _, textField_ofText _ _, _, listField_ofList _ _,
    _, dictField_ofDict _ _, _, floatField_ofRat _ _, _, floatField_ofRat _ _,
    _, textField_ofText _ _, _, textField_ofText _ _, _, boolField_ofBool _ _,
    _, textField_ofText _ _, _, textField_ofText _ _, rfl⟩

/-! ## Metadata -/

def merged (item : EvidenceItem) : PyDict := (itemForContextPack item).mergedMetadata none

theorem merged_get_original (item : EvidenceItem) :
    (merged item).get originalAskEvidenceKey = .dict (dump item) := by
  have hown : (merged item).get originalAskEvidenceKey =
      ((item.metadata.getD []).put originalAskEvidenceKey (.dict (dump item))).get
        originalAskEvidenceKey :=
    get_mergedMetadata (by decide) List.not_mem_nil
  rw [hown, PyDict.get_put_self]

/-- A key outside the provenance has the item's own value. -/
theorem merged_get (name : String) (item : EvidenceItem)
    (hname : name ∉ originalAskEvidenceKey :: provenanceKeys) :
    (merged item).get name = (item.metadata.getD []).get name := by
  rw [List.mem_cons, not_or] at hname
  have hown : (merged item).get name =
      ((item.metadata.getD []).put originalAskEvidenceKey (.dict (dump item))).get name :=
    get_mergedMetadata hname.2 List.not_mem_nil
  rw [hown, PyDict.get_put_of_ne hname.1]

def IsText (value : PyValue) : Prop := value = .none ∨ ∃ s, value = .str s

def IsNumber (convert : Conversions) (value : PyValue) : Prop :=
  value = .none ∨ (∃ x, value = .float (.finite x)) ∨ (convert.toFloat value).isSome

def IsFlag (convert : Conversions) (value : PyValue) : Prop :=
  value = .none ∨ (∃ b, value = .bool b) ∨ (convert.toBool value).isSome

theorem exists_textField_iff (name : String) {value : PyValue} :
    (∃ s, textField name value = .ok s) ↔ IsText value := by
  cases value <;> simp [textField, IsText]

theorem exists_floatField_iff (name : String) {value : PyValue} :
    (∃ x, floatField convert name value = .ok x) ↔ IsNumber convert value := by
  unfold floatField
  split
  · simp [IsNumber]
  · simp [IsNumber]
  · rename_i hnone hfinite
    cases hconvert : convert.toFloat value with
    | none => simpa [IsNumber, hconvert] using ⟨hnone, hfinite⟩
    | some x => simp [IsNumber, hconvert]

theorem exists_boolField_iff (name : String) {value : PyValue} :
    (∃ b, boolField convert name value = .ok b) ↔ IsFlag convert value := by
  unfold boolField
  split
  · simp [IsFlag]
  · simp [IsFlag]
  · rename_i hnone hbool
    cases hconvert : convert.toBool value with
    | none => simpa [IsFlag, hconvert] using ⟨hnone, hbool false, hbool true⟩
    | some b => simp [IsFlag, hconvert]

/-- The metadata of an item has the types of the fields that a reference takes from it. -/
structure Accepted (convert : Conversions) (item : EvidenceItem) : Prop where
  memoryType : IsText ((item.metadata.getD []).get "memory_type")
  memorySubType : IsText ((item.metadata.getD []).get "memory_sub_type")
  classifyConfidence : IsNumber convert ((item.metadata.getD []).get "classify_confidence")
  isCurrent : item.isCurrent = none → IsFlag convert ((item.metadata.getD []).get "is_current")
  currentStateScope : item.currentStateScope.getD [] = [] →
    IsText ((item.metadata.getD []).get "current_state_scope")

theorem exists_textOr_iff (name : String) (metadata : PyDict) {value : Option Text} :
    (∃ s, textOr name value metadata = .ok s) ↔
      (value.getD [] = [] → IsText (metadata.get name)) := by
  rw [← exists_textField_iff name, textOr]
  cases value with
  | none => simp
  | some s => by_cases hs : s = [] <;> simp [Option.filter_some, hs]

theorem exists_boolOr_iff (name : String) (metadata : PyDict) {value : Option Bool} :
    (∃ b, boolOr convert name value metadata = .ok b) ↔
      (value = none → IsFlag convert (metadata.get name)) := by
  rw [← exists_boolField_iff name]
  cases value <;> simp [boolOr]

/-- The record of an item is made exactly when its metadata is accepted. -/
theorem exists_checks_iff {item : EvidenceItem} :
    (∃ fields, Checks convert (itemForContextPack item) (merged item) fields) ↔
      Accepted convert item := by
  have htype := merged_get "memory_type" item (by decide)
  have hsub := merged_get "memory_sub_type" item (by decide)
  have hconf := merged_get "classify_confidence" item (by decide)
  have hcurrent := merged_get "is_current" item (by decide)
  have hscope := merged_get "current_state_scope" item (by decide)
  constructor
  · rintro ⟨fields, h⟩
    refine ⟨?_, ?_, ?_, ?_, ?_⟩
    · exact htype ▸ (exists_textOr_iff _ _).mp ⟨_, h.memoryType⟩ rfl
    · exact hsub ▸ (exists_textOr_iff _ _).mp ⟨_, h.memorySubType⟩ rfl
    · exact hconf ▸ (exists_floatField_iff _).mp ⟨_, h.classifyConfidence⟩
    · exact hcurrent ▸ (exists_boolOr_iff _ _).mp ⟨_, h.isCurrent⟩
    · exact hscope ▸ (exists_textOr_iff _ _).mp ⟨_, h.currentStateScope⟩
  · intro h
    obtain ⟨memoryType, htype⟩ :=
      (exists_textOr_iff "memory_type" (merged item)).mpr fun _ => htype ▸ h.memoryType
    obtain ⟨memorySubType, hsub⟩ :=
      (exists_textOr_iff "memory_sub_type" (merged item)).mpr fun _ => hsub ▸ h.memorySubType
    obtain ⟨classifyConfidence, hconf⟩ :=
      (exists_floatField_iff "classify_confidence").mpr (hconf.symm ▸ h.classifyConfidence)
    obtain ⟨isCurrent, hcurrent⟩ :=
      (exists_boolOr_iff "is_current" (merged item)).mpr fun hnone => hcurrent ▸ h.isCurrent hnone
    obtain ⟨scope, hscope⟩ :=
      (exists_textOr_iff "current_state_scope" (merged item)).mpr fun hempty =>
        hscope ▸ h.currentStateScope hempty
    exact ⟨⟨memoryType, memorySubType, classifyConfidence, isCurrent, scope⟩,
      ⟨htype, hsub, hconf, hcurrent, hscope⟩⟩

/-! ## References -/

theorem supportRef_itemForContextPack {item : EvidenceItem} {ref : ContextPackEvidenceRef}
    (h : supportRef convert (itemForContextPack item) = .ok ref) :
    supportRefToEvidenceItem convert ref = .ok item ∧ ref.rank = some item.rank ∧
      ref.contentId = item.contentId.strip := by
  obtain ⟨fields, -, rfl⟩ := evidenceFromItem_eq_ok.mp h
  refine ⟨?_, rfl, rfl⟩
  have hmetadata : (refOf convert (itemForContextPack item) (merged item) (some "support".toList)
      fields).metadata = some (merged item) := by
    have hne : merged item ≠ [] := by
      intro hnil
      have hget := merged_get_original item
      rw [hnil] at hget
      cases hget
    simp [refOf, Option.filter_some, hne]
  change supportRefToEvidenceItem convert
    (refOf convert (itemForContextPack item) (merged item) _ fields) = .ok item
  rw [supportRefToEvidenceItem, hmetadata, Option.getD_some, merged_get_original]
  exact itemOfDict_dump item

/-- Items whose ranks grow along the list, one for each content. -/
structure Numbered (items : List EvidenceItem) : Prop where
  ranks : items.Pairwise fun a b => a.rank < b.rank
  contents : (items.map (·.contentId)).Nodup
  clean : ∀ item ∈ items, item.contentId.strip = item.contentId

theorem evidenceSortKey_le {a b : ContextPackEvidenceRef}
    (h : a.rank.getD 1000000 < b.rank.getD 1000000) : a.evidenceSortKey ≤ b.evidenceSortKey :=
  (Prod.Lex.toLex_lt_toLex.mpr (.inl h)).le

/-- A section keeps the references of numbered items as they are. -/
theorem refSection_of_numbered {items : List EvidenceItem} {refs : List ContextPackEvidenceRef}
    {limit : ℕ} (hnumbered : Numbered items) (hlength : items.length ≤ limit)
    (hrefs : (items.map itemForContextPack).mapM (supportRef convert) = .ok refs) :
    refSection (·.evidenceSortKey) limit refs = refs := by
  have hitems : items.mapM (fun item => supportRef convert (itemForContextPack item)) = .ok refs :=
    by rwa [List.mapM_map] at hrefs
  have hrank : refs.map (·.rank) = items.map (some ·.rank) :=
    map_eq_of_mapM hitems fun _ _ href => (supportRef_itemForContextPack href).2.1
  have hcontent : refs.map (·.contentId) = items.map (·.contentId.strip) :=
    map_eq_of_mapM hitems fun _ _ href => (supportRef_itemForContextPack href).2.2
  have hkeys : (refs.map (·.dedupeKey)).Nodup := by
    have hclean := List.map_congr_left hnumbered.clean
    rw [hclean] at hcontent
    refine List.Nodup.of_map Prod.fst ?_
    rw [List.map_map]
    exact hcontent ▸ hnumbered.contents
  have hsorted : refs.Pairwise fun a b => a.evidenceSortKey ≤ b.evidenceSortKey := by
    have hranks : (refs.map (·.rank)).Pairwise fun a b => a.getD 1000000 < b.getD 1000000 := by
      rw [hrank]
      exact List.pairwise_map.mpr hnumbered.ranks
    exact (List.pairwise_map.mp hranks).imp evidenceSortKey_le
  have hlen : refs.length ≤ limit := by
    have hcongr := congrArg List.length hrank
    rw [List.length_map, List.length_map] at hcongr
    omega
  rw [refSection, distinctOn_of_nodup hkeys, sortOn, List.Pairwise.insertionSort_eq hsorted,
    List.take_of_length_le hlen]

/-! ## The pack -/

/-- A request for a pack is valid unless its query is blank. -/
theorem exists_validate_iff {query : Text} {limit : ℕ} (hlimit : 1 ≤ limit ∧ limit ≤ 50) :
    (∃ request, (askPackRequest query limit).validate = .ok request) ↔
      (query = [] ∨ query.strip ≠ []) := by
  have hrange : ¬ (limit < 1 ∨ 50 < limit) := by omega
  rw [askPackRequest, BuildRequest.validate,
    ContextPack.ContextPackBuildRequest.validateAndNormalize, if_neg hrange]
  by_cases hquery : query = []
  · subst hquery
    exact iff_of_true ⟨_, rfl⟩ (.inl rfl)
  · by_cases hstrip : query.strip = []
    · have hclean : ContextPack.clean (some query) = none := by
        simp [ContextPack.clean, hstrip]
      refine iff_of_false ?_ (by simp [hquery, hstrip])
      rintro ⟨request, hrequest⟩
      simp [hquery, ContextPack.ContextPackBuildRequest.normalize, hclean] at hrequest
    · have hclean : ContextPack.clean (some query) = some query.strip := by
        simp [ContextPack.clean, hstrip, Option.filter_some]
      refine iff_of_true ?_ (.inr hstrip)
      simp only [hquery, if_false, ContextPack.ContextPackBuildRequest.normalize, hclean]
      exact ⟨_, rfl⟩

/-- Numbered items come back unchanged exactly when each of them is accepted. -/
theorem throughPack_eq_iff {query : Text} {limit : ℕ} {items : List EvidenceItem}
    (hlimit : 1 ≤ limit ∧ limit ≤ 50) (hnumbered : Numbered items)
    (hlength : items.length ≤ limit) :
    throughPack convert query items limit = .ok items ↔
      (query = [] ∨ query.strip ≠ []) ∧ ∀ item ∈ items, Accepted convert item := by
  have hmade (item : EvidenceItem) :
      (∃ ref, supportRef convert (itemForContextPack item) = .ok ref) ↔ Accepted convert item := by
    rw [← exists_checks_iff]
    constructor
    · rintro ⟨ref, href⟩
      obtain ⟨fields, hchecks, -⟩ := evidenceFromItem_eq_ok.mp href
      exact ⟨fields, hchecks⟩
    · rintro ⟨fields, hchecks⟩
      exact ⟨_, evidenceFromItem_eq_ok.mpr ⟨fields, hchecks, rfl⟩⟩
  have hall : (∃ refs, (items.map itemForContextPack).mapM (supportRef convert) = .ok refs) ↔
      ∀ item ∈ items, Accepted convert item := by
    rw [List.mapM_map, exists_mapM_iff]
    exact forall₂_congr fun item _ => hmade item
  constructor
  · intro h
    obtain ⟨pack, hpack, -⟩ := Transaction.bind_eq_ok.mp h
    obtain ⟨request, hrequest, hbuild⟩ := Transaction.bind_eq_ok.mp hpack
    obtain ⟨refs, -, -, hrefs, -, -, -⟩ := buildContextPack_eq_ok.mp hbuild
    exact ⟨(exists_validate_iff hlimit).mp ⟨request, hrequest⟩, hall.mp ⟨refs, hrefs⟩⟩
  · rintro ⟨hquery, haccepted⟩
    obtain ⟨request, hrequest⟩ := (exists_validate_iff hlimit).mpr hquery
    obtain ⟨hrequestLimit, -, hcounter⟩ := limit_of_validate hrequest
    obtain ⟨refs, hrefs⟩ := hall.mpr haccepted
    have hnone : counterSection convert request (conflictSection request.limit []) = .ok [] := by
      rw [counterSection, hcounter]
      rfl
    have hstate : ([] : List PackRow).mapM (stateRef convert) = .ok [] := rfl
    have hbuild := buildContextPack_eq_ok.mpr ⟨refs, [], [], hrefs, hstate, hnone, rfl⟩
    have hsection : refSection (·.evidenceSortKey) request.limit refs = refs :=
      refSection_of_numbered hnumbered (hrequestLimit ▸ hlength) hrefs
    refine Transaction.bind_eq_ok.mpr
      ⟨_, Transaction.bind_eq_ok.mpr ⟨request, hrequest, hbuild⟩, ?_⟩
    rw [evidenceItemsFromSupportingContextPack, packOf, hsection]
    rw [List.mapM_map, mapM_eq_ok_iff] at hrefs
    exact mapM_eq_ok_iff.mpr
      (hrefs.imp fun _ _ href => (supportRef_itemForContextPack href).1).flip

/-! ## The evidence of an answer -/

theorem numbered_nil : Numbered [] := ⟨.nil, .nil, fun _ hitem => absurd hitem List.not_mem_nil⟩

theorem numbered_cons {item : EvidenceItem} {items : List EvidenceItem}
    (hrank : ∀ other ∈ items, item.rank < other.rank)
    (hcontent : ∀ other ∈ items, other.contentId ≠ item.contentId)
    (hclean : item.contentId.strip = item.contentId) (h : Numbered items) :
    Numbered (item :: items) where
  ranks := List.pairwise_cons.mpr ⟨hrank, h.ranks⟩
  contents := by
    rw [List.map_cons, List.nodup_cons]
    refine ⟨fun hmem => ?_, h.contents⟩
    obtain ⟨other, hother, hsame⟩ := List.mem_map.mp hmem
    exact hcontent other hother hsame
  clean := by
    intro other hother
    rcases List.mem_cons.mp hother with rfl | hother
    · exact hclean
    · exact h.clean other hother

/-- The loop numbers its items after the ones before it, and skips the contents it has seen. -/
theorem numbered_normalizeFrom (limit : ℕ) (seen : List Text) (rank : ℕ)
    (rows : List EvidenceRow) :
    Numbered (normalizeFrom limit seen rank rows) ∧
      ∀ item ∈ normalizeFrom limit seen rank rows,
        (rank : ℤ) < item.rank ∧ item.contentId ∉ seen := by
  induction rows generalizing seen rank with
  | nil => exact ⟨numbered_nil, fun _ hitem => absurd hitem List.not_mem_nil⟩
  | cons row rows ih =>
      rw [normalizeFrom]
      split
      · exact ih seen rank
      · rename_i hskip
        push Not at hskip
        obtain ⟨hnumbered, hafter⟩ := ih (row.itemContentId :: seen) (rank + 1)
        constructor
        · refine numbered_cons (fun other hother => ?_) (fun other hother => ?_) ?_ hnumbered
          · exact (hafter other hother).1
          · exact fun hsame => (hafter other hother).2 (hsame ▸ List.mem_cons_self)
          · exact (Text.trimmed_stripChars Text.isSpace _).stripChars_eq
        · intro item hitem
          rcases List.mem_cons.mp hitem with rfl | hitem
          · exact ⟨by simp [EvidenceRow.toItem], hskip.2.2⟩
          · obtain ⟨hrank, hseen⟩ := hafter item hitem
            exact ⟨by omega, fun hmem => hseen (List.mem_cons_of_mem _ hmem)⟩

theorem length_normalizeFrom_le (limit : ℕ) (seen : List Text) (rank : ℕ)
    (rows : List EvidenceRow) : (normalizeFrom limit seen rank rows).length ≤ rows.length := by
  induction rows generalizing seen rank with
  | nil => exact le_rfl
  | cons row rows ih =>
      rw [normalizeFrom]
      split
      · exact (ih seen rank).trans (Nat.le_succ _)
      · exact Nat.succ_le_succ (ih _ _)

@[simp] theorem rank_annotate (rows : Dict Text CurrentState) (item : EvidenceItem) :
    (annotate rows item).rank = item.rank := by
  unfold annotate
  split <;> rfl

@[simp] theorem contentId_annotate (rows : Dict Text CurrentState) (item : EvidenceItem) :
    (annotate rows item).contentId = item.contentId := by
  unfold annotate
  split <;> rfl

theorem numbered_map_annotate {rows : Dict Text CurrentState} {items : List EvidenceItem}
    (h : Numbered items) : Numbered (items.map (annotate rows)) where
  ranks := by simpa [List.pairwise_map] using h.ranks
  contents := by simpa [List.map_map, Function.comp_def] using h.contents
  clean := by simpa using h.clean

@[simp] theorem rank_ranked (items : List EvidenceItem) (entry : EvidenceItem × ℕ) :
    (ranked items entry).rank = entry.2 := by
  unfold ranked
  dsimp only
  split <;> rfl

@[simp] theorem contentId_ranked (items : List EvidenceItem) (entry : EvidenceItem × ℕ) :
    (ranked items entry).contentId = entry.1.contentId := by
  unfold ranked
  dsimp only
  split <;> rfl

theorem map_contentId_reordered (items : List EvidenceItem) :
    (reordered items).map (·.contentId) = (sortOn (demoted items) items).map (·.contentId) := by
  rw [reordered, List.map_map]
  have hranked : (fun item : EvidenceItem => item.contentId) ∘ ranked items =
      (fun item : EvidenceItem => item.contentId) ∘ Prod.fst :=
    funext (contentId_ranked items)
  rw [hranked, ← List.map_map, List.zipIdx_map_fst]

theorem map_rank_reordered (items : List EvidenceItem) :
    (reordered items).map (·.rank) = (List.range' 1 items.length).map Int.ofNat := by
  rw [reordered, List.map_map]
  have hranked : (fun item : EvidenceItem => item.rank) ∘ ranked items = Int.ofNat ∘ Prod.snd :=
    funext (rank_ranked items)
  rw [hranked, ← List.map_map, List.zipIdx_map_snd, (perm_sortOn items).length_eq]

/-- A new order is numbered anew. -/
theorem numbered_reordered {items : List EvidenceItem} (h : Numbered items) :
    Numbered (reordered items) where
  ranks := by
    apply (List.pairwise_map (R := (· < ·))).mp
    rw [map_rank_reordered, List.pairwise_map]
    exact (List.pairwise_lt_range' 1).imp Int.ofNat_lt.mpr
  contents := by
    rw [map_contentId_reordered]
    exact ((perm_sortOn items).map _).nodup_iff.mpr h.contents
  clean := by
    intro item hitem
    have hcontent : item.contentId ∈ items.map (·.contentId) := by
      have hperm : (sortOn (demoted items) items).Perm items := perm_sortOn items
      apply (hperm.map (·.contentId)).subset
      exact map_contentId_reordered items ▸ List.mem_map_of_mem hitem
    obtain ⟨old, hold, hsame⟩ := List.mem_map.mp hcontent
    exact hsame ▸ h.clean old hold

theorem length_reordered (items : List EvidenceItem) :
    (reordered items).length = items.length := by
  rw [reordered, List.length_map, List.length_zipIdx, (perm_sortOn items).length_eq]

section Enrichment

variable {reader : StateReader} {databaseUrl : Option Text} {query : Text}
  {evidence : List EvidenceItem}

/-- The enrichment changes nothing, annotates, or also puts the items in a new order. -/
theorem enrich_cases {P : List EvidenceItem → Prop} (hsame : P evidence)
    (hannotate : ∀ rows, P (evidence.map (annotate rows)))
    (hreorder : ∀ items, P items → P (reordered items)) :
    P (enrichEvidenceWithCurrentState reader databaseUrl query evidence) := by
  rw [enrichEvidenceWithCurrentState]
  split
  · exact hsame
  · split
    · exact hsame
    · rename_i rows _
      split
      · exact hsame
      · rw [enrichWith]
        split
        · exact hannotate rows
        · split
          · exact hreorder _ (hannotate rows)
          · exact hannotate rows

theorem numbered_enrich (h : Numbered evidence) :
    Numbered (enrichEvidenceWithCurrentState reader databaseUrl query evidence) :=
  enrich_cases h (fun _ => numbered_map_annotate h) fun _ => numbered_reordered

theorem length_enrich_le {limit : ℕ} (h : evidence.length ≤ limit) :
    (enrichEvidenceWithCurrentState reader databaseUrl query evidence).length ≤ limit := by
  apply enrich_cases (P := fun items => items.length ≤ limit) h
  · intro rows
    rwa [List.length_map]
  · intro items hitems
    rwa [length_reordered]

end Enrichment

theorem topK_policyForIntent (intent : Text) (requestedTopK : ℤ) :
    1 ≤ (policyForIntent intent requestedTopK).topK ∧
      (policyForIntent intent requestedTopK).topK ≤ 10 := by
  unfold policyForIntent
  dsimp only
  split
  · dsimp only
    omega
  · split
    · dsimp only
      omega
    · split
      · dsimp only
        omega
      · dsimp only
        omega

theorem numbered_askEvidence (reader : StateReader) (databaseUrl : Option Text) (query : Text)
    (policy : ReasoningPolicy) (results : List EvidenceRow) :
    Numbered (askEvidence reader databaseUrl query policy results) :=
  numbered_enrich (numbered_normalizeFrom _ _ _ _).1

theorem length_askEvidence_le (reader : StateReader) (databaseUrl : Option Text) (query : Text)
    (policy : ReasoningPolicy) (results : List EvidenceRow) :
    (askEvidence reader databaseUrl query policy results).length ≤ policy.topK := by
  apply length_enrich_le
  exact (length_normalizeFrom_le _ _ _ _).trans (List.length_take_le _ _)

/-- The seam gives the evidence of an answer back unchanged exactly when the query is not blank
and the metadata of every item is accepted. -/
theorem throughPack_lossless_iff (convert : Conversions) (reader : StateReader)
    (databaseUrl : Option Text) (query intent : Text) (requestedTopK : ℤ)
    (results : List EvidenceRow) :
    let policy := policyForIntent intent requestedTopK
    let evidence := askEvidence reader databaseUrl query policy results
    throughPack convert query evidence policy.topK = .ok evidence ↔
      (query = [] ∨ query.strip ≠ []) ∧ ∀ item ∈ evidence, Accepted convert item := by
  intro policy evidence
  obtain ⟨hlow, hhigh⟩ := topK_policyForIntent intent requestedTopK
  exact throughPack_eq_iff ⟨hlow, hhigh.trans (by decide)⟩
    (numbered_askEvidence reader databaseUrl query policy results)
    (length_askEvidence_le reader databaseUrl query policy results)

def untypedRow : EvidenceRow :=
  { contentId := some ['a'], text := some ['x'],
    metadata := .dict [("memory_type".toList, .int 3)] }

/-- A memory type in the metadata that is no text lets the pack fail. -/
theorem not_throughPack_lossless :
    ¬ ∀ (convert : Conversions) (reader : StateReader) (databaseUrl : Option Text)
      (query intent : Text) (requestedTopK : ℤ) (results : List EvidenceRow),
      let policy := policyForIntent intent requestedTopK
      let evidence := askEvidence reader databaseUrl query policy results
      throughPack convert query evidence policy.topK = .ok evidence := by
  intro h
  have hback := h plainConversions (fun _ => none) none ['q'] "find".toList 5 [untypedRow]
  have haccepted := ((throughPack_eq_iff (by decide) (numbered_askEvidence _ _ _ _ _)
    (length_askEvidence_le _ _ _ _ _)).mp hback).2
  have hitem := haccepted (untypedRow.toItem 320 ['a'] ['x'] 1) (.head _)
  have htype : ((untypedRow.toItem 320 ['a'] ['x'] 1).metadata.getD []).get "memory_type" =
      .int 3 := rfl
  rcases htype ▸ hitem.memoryType with hnone | ⟨s, hs⟩
  · cases hnone
  · cases hs

end MemoryLab.AskSeam

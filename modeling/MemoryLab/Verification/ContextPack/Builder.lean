import MemoryLab.Library.Selection
import MemoryLab.Library.Transaction
import MemoryLab.Model.ContextPackBuilder

/-! # What the builder returns -/

namespace MemoryLab.ContextPackBuilder

open Library Library.Rows

variable {convert : Conversions}

/-! ## Requests -/

theorem limit_of_validate {request normalized : BuildRequest}
    (h : request.validate = .ok normalized) :
    normalized.limit = request.limit ∧ 1 ≤ request.limit ∧
      normalized.includeCounterfindings = request.includeCounterfindings := by
  rw [BuildRequest.validate] at h
  split at h
  · rename_i normal hnormal
    cases h
    rw [ContextPack.ContextPackBuildRequest.validateAndNormalize] at hnormal
    split at hnormal
    · cases hnormal
    · rename_i hrange
      dsimp only at hnormal
      split at hnormal
      · cases hnormal
      · split at hnormal
        · cases hnormal
        · cases hnormal
          exact ⟨rfl, by omega, rfl⟩
  · cases h

/-! ## Metadata -/

def provenanceKeys : List String :=
  ["retrieval_mode", "retrieval_path", "embedding_status", "distance", "score_kind"]

theorem map_fst_provenance (row : PackRow) : row.provenance.map (·.1) = provenanceKeys := rfl

/-- A key outside the provenance and the added metadata has the row's own value. -/
theorem get_mergedMetadata {row : PackRow} {metadata : Option PyDict} {name : String}
    (hname : name ∉ provenanceKeys) (hmetadata : name.toList ∉ (metadata.getD []).map (·.1)) :
    (row.mergedMetadata metadata).get name = (row.metadata.getD []).get name := by
  rw [PackRow.mergedMetadata]
  refine (PyDict.get_update_of_notMem fun hmem => hmetadata ?_).trans
    (PyDict.get_foldl_putSome (map_fst_provenance row ▸ hname))
  obtain ⟨entry, hentry, hkey⟩ := List.mem_map.mp hmem
  exact List.mem_map.mpr ⟨entry, List.mem_of_mem_filter hentry, hkey⟩

/-! ## References -/

/-- The values of a reference that its record checks. -/
structure CheckedFields where
  memoryType : Option Text
  memorySubType : Option Text
  classifyConfidence : Option ℚ
  isCurrent : Option Bool
  currentStateScope : Option Text

/-- The checks of a record, on a row and its metadata. -/
structure Checks (convert : Conversions) (row : PackRow) (merged : PyDict)
    (fields : CheckedFields) : Prop where
  memoryType : textOr "memory_type" row.memoryType merged = .ok fields.memoryType
  memorySubType : textOr "memory_sub_type" row.memorySubType merged = .ok fields.memorySubType
  classifyConfidence : floatOr convert "classify_confidence" row.classifyConfidence merged =
    .ok fields.classifyConfidence
  isCurrent : boolOr convert "is_current" row.isCurrent merged = .ok fields.isCurrent
  currentStateScope :
    textOr "current_state_scope" row.currentStateScope merged = .ok fields.currentStateScope

/-- The reference of a row whose fields have been checked. -/
def refOf (convert : Conversions) (row : PackRow) (merged : PyDict) (role : Option Text)
    (fields : CheckedFields) : ContextPackEvidenceRef :=
  let contentId := (row.contentId.getD []).strip
  let chunkId := cleanStr row.chunkId
  { evidenceId := (cleanStr row.evidenceId).getD
      ("ev_".toList ++ contentId ++ ['_'] ++ chunkId.getD "content".toList),
    contentId, chunkId, rank := row.rank,
    snippet := (orElse row.snippet row.text).getD [], score := row.score,
    scoreKind := row.scoreKind, memoryType := fields.memoryType,
    memorySubType := fields.memorySubType, classifyConfidence := fields.classifyConfidence,
    isCurrent := fields.isCurrent, currentStateScope := fields.currentStateScope,
    csSupersedesContentId := supersedesOr convert row.csSupersedesContentId merged,
    role := orElse role row.role, source := orElse row.source row.retrievalPath,
    metadata := some merged |>.filter (!·.isEmpty) }

/-- A row makes a reference exactly when its fields pass the checks. -/
theorem evidenceFromItem_eq_ok {row : PackRow} {metadata : Option PyDict} {role : Option Text}
    {ref : ContextPackEvidenceRef} :
    evidenceFromItem convert row metadata role = .ok ref ↔
      ∃ fields, Checks convert row (row.mergedMetadata metadata) fields ∧
        ref = refOf convert row (row.mergedMetadata metadata) role fields := by
  rw [evidenceFromItem]
  simp only [Transaction.bind_eq_ok]
  constructor
  · rintro ⟨memoryType, htype, memorySubType, hsub, classifyConfidence, hconf, isCurrent,
      hcurrent, currentStateScope, hscope, href⟩
    exact ⟨⟨memoryType, memorySubType, classifyConfidence, isCurrent, currentStateScope⟩,
      ⟨htype, hsub, hconf, hcurrent, hscope⟩, (Except.ok.inj href).symm⟩
  · rintro ⟨fields, h, rfl⟩
    exact ⟨_, h.memoryType, _, h.memorySubType, _, h.classifyConfidence, _, h.isCurrent, _,
      h.currentStateScope, rfl⟩

theorem chunkId_ne_of_evidenceFromItem {row : PackRow} {metadata : Option PyDict}
    {role : Option Text} {ref : ContextPackEvidenceRef}
    (h : evidenceFromItem convert row metadata role = .ok ref) : ref.chunkId ≠ some [] := by
  obtain ⟨fields, -, rfl⟩ := evidenceFromItem_eq_ok.mp h
  intro hchunk
  have hfilter := (Option.filter_eq_some_iff.mp hchunk).2
  simp at hfilter

/-- The keys of the metadata that a reference takes its fields from. -/
def fieldKeys : List String :=
  ["memory_type", "memory_sub_type", "classify_confidence", "is_current", "current_state_scope"]

theorem textOr_of_none {name : String} {value : Option Text} {merged : PyDict}
    (h : merged.get name = .none) : textOr name value merged = .ok (value.filter (· ≠ [])) := by
  rw [textOr, h]
  split
  · rename_i s hs
    rw [hs]
  · rename_i hnone
    rw [hnone]
    rfl

/-- Metadata without these keys does not fail a row. -/
theorem exists_evidenceFromItem {row : PackRow} {metadata : Option PyDict} {role : Option Text}
    (h : ∀ name ∈ fieldKeys, (row.mergedMetadata metadata).get name = .none) :
    ∃ ref, evidenceFromItem convert row metadata role = .ok ref := by
  have hconfidence : floatOr convert "classify_confidence" row.classifyConfidence
      (row.mergedMetadata metadata) = .ok row.classifyConfidence := by
    unfold floatOr
    rw [h _ (by decide)]
    cases row.classifyConfidence <;> rfl
  have hcurrent : boolOr convert "is_current" row.isCurrent (row.mergedMetadata metadata) =
      .ok row.isCurrent := by
    unfold boolOr
    rw [h _ (by decide)]
    cases row.isCurrent <;> rfl
  exact ⟨_, evidenceFromItem_eq_ok.mpr ⟨⟨_, _, _, _, _⟩,
    ⟨textOr_of_none (h _ (by decide)), textOr_of_none (h _ (by decide)), hconfidence, hcurrent,
      textOr_of_none (h _ (by decide))⟩, rfl⟩⟩

/-! ## Packs -/

/-- The pack of references that are made. -/
def packOf (request : BuildRequest) (supportRefs stateRefs : List ContextPackEvidenceRef)
    (conflicts : List ConflictDict) (counterfindings : List ContextPackEvidenceRef) :
    ContextPack :=
  { supportingEvidence := refSection (·.evidenceSortKey) request.limit supportRefs,
    currentStateSignals :=
      refSection (·.currentSortKey) request.limit (stateRefs.filter (·.isSignal)),
    staleOrSupersededItems :=
      refSection (·.staleSortKey) request.limit (stateRefs.filter (·.isStale)),
    conflictCandidates := conflicts, counterfindings := counterfindings.take request.limit }

theorem buildContextPack_eq_ok {request : BuildRequest} {supporting current : List PackRow}
    {conflicts : List ConflictDict} {pack : ContextPack} :
    buildContextPack convert request supporting current conflicts = .ok pack ↔
      ∃ supportRefs stateRefs counterfindings,
        supporting.mapM (supportRef convert) = .ok supportRefs ∧
        current.mapM (stateRef convert) = .ok stateRefs ∧
        counterSection convert request (conflictSection request.limit conflicts) =
          .ok counterfindings ∧
        pack = packOf request supportRefs stateRefs (conflictSection request.limit conflicts)
          counterfindings := by
  rw [buildContextPack]
  simp only [Transaction.bind_eq_ok]
  constructor
  · rintro ⟨supportRefs, hsupport, stateRefs, hstate, counterfindings, hcounter, hpack⟩
    exact ⟨supportRefs, stateRefs, counterfindings, hsupport, hstate, hcounter,
      (Except.ok.inj hpack).symm⟩
  · rintro ⟨supportRefs, stateRefs, counterfindings, hsupport, hstate, hcounter, rfl⟩
    exact ⟨supportRefs, hsupport, stateRefs, hstate, counterfindings, hcounter, rfl⟩

end MemoryLab.ContextPackBuilder

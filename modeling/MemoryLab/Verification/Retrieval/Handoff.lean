import MemoryLab.Model.PersistenceHandoff

/-! # The boundary between persisted records and the context package

A package uses records of its workspace only, and of their metadata the safe keys only. -/

namespace MemoryLab.PersistenceHandoff

open Library Library.Rows Persistence SearchByPurpose

variable {V : Type} {py : Values V}

/-! ## The workspace -/

/-- The record names the requested workspace, spaces around it apart. -/
def OfWorkspace (py : Values V) (workspaceId : Text) (record : Record V) : Prop :=
  ∃ own, py.asText (recordField py record "workspace_id".toList) = some own ∧
    own.strip = workspaceId.strip

/-- A result without anything of a record in it. -/
structure Refused (result : HandoffResult V) : Prop where
  ok : result.ok = false
  candidates : result.candidates = []
  handoffCandidates : result.handoffCandidates = []
  ranked : result.ranked = none
  contextPackage : result.contextPackage = none

theorem refused_failure (status : HandoffStatus) (workspaceId : Text)
    (errors : List HandoffError) : Refused (failure status workspaceId errors : HandoffResult V) :=
  ⟨rfl, rfl, rfl, rfl, rfl⟩

theorem ofWorkspace_iff {workspaceId : Text} {record : Record V} :
    inWorkspace py workspaceId record = true ↔ OfWorkspace py workspaceId record := by
  simp [inWorkspace, OfWorkspace, Option.any_eq_true]

theorem ofWorkspace_of_candidate {request : PersistenceRetrievalCandidateRequest V}
    {record : Record V} {candidate : PersistenceRetrievalCandidate V}
    (h : candidateFromRecord py request record = .ok candidate) :
    OfWorkspace py request.workspaceId record := by
  rw [← ofWorkspace_iff]
  unfold candidateFromRecord at h
  split at h
  · cases h
  · rename_i hworkspace
    simpa using hworkspace

/-- One record that cannot be used refuses them all. -/
theorem buildCandidates_refused_or (request : PersistenceRetrievalCandidateRequest V) :
    Refused (buildCandidates py request) ∨
      ∃ records, recordsFromRequest request = .ok records ∧
        ∀ record ∈ records, OfWorkspace py request.workspaceId record := by
  unfold buildCandidates
  split
  · exact .inl (refused_failure _ _ _)
  · cases hrecords : recordsFromRequest request with
    | error error => exact .inl (refused_failure _ _ _)
    | ok records =>
        dsimp only
        split
        · exact .inl (refused_failure _ _ _)
        · exact .inl (refused_failure _ _ _)
        · rename_i hnone _
          refine .inr ⟨records, rfl, fun record hrecord => ?_⟩
          cases hcandidate : candidateFromRecord py request record with
          | ok candidate => exact ofWorkspace_of_candidate hcandidate
          | error error =>
              have hmem := List.filterMap_eq_nil_iff.mp hnone
                (candidateFromRecord py request record)
                (List.mem_map_of_mem hrecord)
              rw [hcandidate] at hmem
              cases hmem

theorem buildContextPackage_refused_or (request : PersistenceRetrievalCandidateRequest V) :
    Refused (buildContextPackage py request) ∨
      ∃ records, recordsFromRequest request = .ok records ∧
        ∀ record ∈ records, OfWorkspace py request.workspaceId record := by
  have hcandidates : Refused (buildCandidates py request) ∨ _ := buildCandidates_refused_or request
  rcases hcandidates with hrefused | hrecords
  · have hpackage : buildContextPackage py request = buildCandidates py request := by
      simp [buildContextPackage, hrefused.ok]
    rw [hpackage]
    exact .inl hrefused
  · exact .inr hrecords

/-! ## The metadata -/

/-- Two records that differ at most in metadata outside the safe keys. -/
structure SameRecord (py : Values V) (record other : Record V) : Prop where
  fields : ∀ name, name ≠ "metadata".toList →
    recordField py record name = recordField py other name
  metadata : ∀ key ∈ safeMetadataKeys,
    Dict.get? key (recordMetadata py record) = Dict.get? key (recordMetadata py other)

inductive SameReply (py : Values V) : BackendReply V → BackendReply V → Prop where
  | result {value other : List (Record V)} (h : List.Forall₂ (SameRecord py) value other) :
      SameReply py (.result value) (.result other)
  | failed (error : Option PersistenceError) : SameReply py (.failed error) (.failed error)
  | notOk (error : Option Text) : SameReply py (.notOk error) (.notOk error)
  | other {value other : List (Record V)} (h : List.Forall₂ (SameRecord py) value other) :
      SameReply py (.other value) (.other other)

/-- Two requests whose records, supplied or listed, differ at most in such metadata. -/
structure SameRequest (py : Values V) (request other : PersistenceRetrievalCandidateRequest V) :
    Prop where
  options : other = { request with records := other.records, backend := other.backend }
  records : List.Forall₂ (SameRecord py) request.records other.records
  backend : Option.Rel (fun backend backend' =>
    Option.Rel (fun list list' => ∀ workspaceId, SameReply py (list workspaceId)
      (list' workspaceId))
      backend.listContentRecords backend'.listContentRecords) request.backend other.backend

theorem SameRecord.metadataValue {record other : Record V} (h : SameRecord py record other)
    (key : String) (hkey : key.toList ∈ safeMetadataKeys) :
    metadataValue py (recordMetadata py record) key =
      metadataValue py (recordMetadata py other) key := by
  rw [PersistenceHandoff.metadataValue, h.metadata _ hkey, PersistenceHandoff.metadataValue]

theorem SameRecord.safeMetadata {record other : Record V} (h : SameRecord py record other) :
    safeMetadata (recordMetadata py record) = safeMetadata (recordMetadata py other) := by
  refine List.filterMap_congr fun key hkey => ?_
  rw [h.metadata key hkey]

theorem SameRecord.purposeText {record other : Record V} (h : SameRecord py record other)
    (title : Text) :
    purposeText py title (recordMetadata py record) =
      purposeText py title (recordMetadata py other) := by
  have hdomain := h.metadataValue "domain" (by decide)
  have htier := h.metadataValue "tier_recommendation" (by decide)
  have hrole := h.metadataValue "source_ref_role" (by decide)
  have htags := h.metadataValue "tags" (by decide)
  simp only [PersistenceHandoff.purposeText, List.map_cons, List.map_nil, hdomain, htier, hrole,
    htags]

theorem SameRecord.suppliedCandidate {record other : Record V} (h : SameRecord py record other)
    (contentId : Text) (snippetChars : ℤ) :
    suppliedCandidate py record contentId snippetChars =
      suppliedCandidate py other contentId snippetChars := by
  have htext := h.fields "text".toList (by decide)
  have hcontent := h.fields "content".toList (by decide)
  have htitle := h.fields "title".toList (by decide)
  have hdomain := h.metadataValue "domain" (by decide)
  have htags := h.metadataValue "tags" (by decide)
  have hscore := h.metadataValue "scoring_composite" (by decide)
  have htier := h.metadataValue "tier_recommendation" (by decide)
  simp only [PersistenceHandoff.suppliedCandidate, htext, hcontent, htitle, hdomain, htags, hscore,
    htier, h.safeMetadata, h.purposeText]

theorem SameRecord.candidateFromRecord {record other : Record V} (h : SameRecord py record other)
    (request : PersistenceRetrievalCandidateRequest V) :
    candidateFromRecord py request record = candidateFromRecord py request other := by
  have hworkspace := h.fields "workspace_id".toList (by decide)
  have hcontentId : contentIdField py record = contentIdField py other := by
    simp only [contentIdField, h.fields "content_id".toList (by decide),
      h.fields "record_id".toList (by decide), h.fields "item_id".toList (by decide)]
  rw [PersistenceHandoff.candidateFromRecord, PersistenceHandoff.candidateFromRecord, inWorkspace,
    inWorkspace, hworkspace, hcontentId]
  split
  · rfl
  · split
    · rfl
    · rw [h.suppliedCandidate]

/-- Two results of a listing that fail alike or differ at most in such metadata. -/
inductive SameRecords (py : Values V) :
    Except HandoffError (List (Record V)) → Except HandoffError (List (Record V)) → Prop where
  | error (error : HandoffError) : SameRecords py (.error error) (.error error)
  | ok {records others : List (Record V)} (h : List.Forall₂ (SameRecord py) records others) :
      SameRecords py (.ok records) (.ok others)

theorem SameReply.recordsOfReply {reply reply' : BackendReply V} (h : SameReply py reply reply') :
    SameRecords py (recordsOfReply reply) (recordsOfReply reply') := by
  cases h with
  | result h => exact .ok h
  | other h => exact .ok h
  | notOk error => exact .error _
  | failed error => cases error <;> exact .error _

theorem listedRecords_congr {backend backend' : Option (Backend V)}
    (h : Option.Rel (fun backend backend' => Option.Rel (fun list list' => ∀ workspaceId,
      SameReply py (list workspaceId) (list' workspaceId)) backend.listContentRecords
        backend'.listContentRecords) backend backend') (workspaceId : Text) :
    SameRecords py (listedRecords workspaceId backend) (listedRecords workspaceId backend') := by
  cases h with
  | none => exact .error _
  | @some backend backend' h =>
      obtain ⟨list⟩ := backend
      obtain ⟨list'⟩ := backend'
      cases h with
      | none => exact .error _
      | some h => exact (h workspaceId.strip).recordsOfReply

theorem recordsFromRequest_congr {request other : PersistenceRetrievalCandidateRequest V}
    (h : SameRequest py request other) :
    SameRecords py (recordsFromRequest request) (recordsFromRequest other) := by
  have huse : other.useBackend = request.useBackend := by rw [h.options]
  have hworkspace : other.workspaceId = request.workspaceId := by rw [h.options]
  have hempty : other.records = [] ↔ request.records = [] := by
    rw [← List.length_eq_zero_iff, ← List.length_eq_zero_iff, h.records.length_eq]
  unfold recordsFromRequest
  rw [huse, hworkspace]
  by_cases hrecords : request.records = []
  · rw [if_neg (not_not.mpr hrecords), if_neg (not_not.mpr (hempty.mpr hrecords))]
    split
    · exact .ok .nil
    · exact listedRecords_congr h.backend request.workspaceId
  · rw [if_pos hrecords, if_pos (mt hempty.mp hrecords)]
    exact .ok h.records

/-- Only the workspace and the snippet length of a request matter to one record. -/
theorem SameRequest.candidateFromRecord_eq {request other : PersistenceRetrievalCandidateRequest V}
    (h : SameRequest py request other) :
    candidateFromRecord py other = candidateFromRecord py request := by
  rw [h.options]
  rfl

theorem buildCandidates_congr {request other : PersistenceRetrievalCandidateRequest V}
    (h : SameRequest py request other) : buildCandidates py request = buildCandidates py other := by
  have hworkspace : other.workspaceId = request.workspaceId := by rw [h.options]
  have hrecords := recordsFromRequest_congr h
  unfold buildCandidates
  rw [hworkspace, h.candidateFromRecord_eq]
  generalize recordsFromRequest request = records at hrecords
  generalize recordsFromRequest other = others at hrecords
  cases hrecords with
  | error error => rfl
  | @ok records others hsame =>
      have hmap : others.map (candidateFromRecord py request) =
          records.map (candidateFromRecord py request) :=
        Forall₂.map_eq (fun record other h => (h.candidateFromRecord request).symm) hsame
      dsimp only
      rw [hmap]

theorem buildContextPackage_congr {request other : PersistenceRetrievalCandidateRequest V}
    (h : SameRequest py request other) :
    buildContextPackage py request = buildContextPackage py other := by
  unfold buildContextPackage
  rw [← buildCandidates_congr h, h.options]

/-- A request is refused, or all its records are of its workspace; and metadata outside the safe
keys changes nothing. -/
theorem handoff_boundary (py : Values V) :
    (∀ request, Refused (buildContextPackage py request) ∨
      ∃ records, recordsFromRequest request = .ok records ∧
        ∀ record ∈ records, OfWorkspace py request.workspaceId record) ∧
    ∀ request other, SameRequest py request other →
      buildContextPackage py request = buildContextPackage py other :=
  ⟨buildContextPackage_refused_or, fun _ _ => buildContextPackage_congr⟩

end MemoryLab.PersistenceHandoff

import MemoryLab.Library.Transaction
import MemoryLab.Model.GovernancePersistence
import MemoryLab.Verification.Persistence.Isolation

/-! # A governance state that is put and read back -/

namespace MemoryLab.Persistence

open Library Library.Rows Governance

variable {M : Type}

/-- A state that passes the checks, with identifiers in canonical text. -/
structure CanonicalState (M : Type) where
  state : GovernanceState M
  workspaceId : Uuid
  contentId : Option Uuid
  valid : validateGovernanceState state = []
  workspace_text : state.recordRef.workspaceId = workspaceId.text
  content_text : state.recordRef.contentId = contentId.map (·.text)

/-- A provenance whose missing metadata is the empty mapping. -/
def withMapping [EmptyCollection M] (provenance : GovernanceProvenance M) :
    GovernanceProvenance M :=
  { provenance with metadata := some (provenance.metadata.getD ∅) }

/-- Equal states, where a missing metadata mapping is the empty one. -/
def SameState [EmptyCollection M] (first second : GovernanceState M) : Prop :=
  { first with provenance := withMapping first.provenance } =
    { second with provenance := withMapping second.provenance }

/-! ## Checks -/

theorem distinctOn_eq_nil {α : Type} [DecidableEq α] {xs : List α} :
    distinctOn id xs = [] ↔ xs = [] := by
  cases xs with
  | nil => simp [distinctOn, distinctAfter]
  | cons x xs => simp [distinctOn, distinctAfter]

theorem required_eq_nil {fieldName : String} {value : Text} :
    required fieldName value = [] ↔ value.strip ≠ [] := by
  simp [required, hasText]

theorem CanonicalState.record_text (s : CanonicalState M) :
    s.state.recordRef.recordId.strip ≠ [] := by
  have h := s.valid
  simp only [validateGovernanceState, distinctOn_eq_nil, validateRecordRef,
    List.append_eq_nil_iff, required_eq_nil] at h
  exact h.1.1.1.1.1

theorem Uuid.strip_text_ne_nil (u : Uuid) : u.text.strip ≠ [] := by
  rw [Uuid.strip_text]
  exact u.text_ne_nil

/-! ## In memory -/

namespace Memory

theorem getGovernanceState_put (store : StateStore M) (s : CanonicalState M) :
    getGovernanceState (putGovernanceState store s.state).1 s.state.recordRef.workspaceId
      s.state.recordRef.recordId = .ok s.state := by
  have hworkspace : s.state.recordRef.workspaceId.strip ≠ [] := by
    rw [s.workspace_text]
    exact Uuid.strip_text_ne_nil _
  have hput : putGovernanceState store s.state =
      (store.set (stateKey s.state) s.state, .ok s.state) := by
    simp only [putGovernanceState, s.valid]
  rw [hput, getGovernanceState, if_neg hworkspace, if_neg s.record_text, Dict.set]
  simp only [stateKey, Dict.get?_modify_self]

end Memory

/-! ## In the database -/

namespace Postgres

variable [EmptyCollection M]

theorem validateWorkspaceUuid_text (u : Uuid) : validateWorkspaceUuid u.text = .ok () := by
  rw [validateWorkspaceUuid, if_neg (Uuid.strip_text_ne_nil u), validateUuid, Uuid.strip_text,
    if_pos u.isConstructible_text]

theorem validateRef_text {ref : GovernanceRecordRef} {workspaceId : Uuid} {contentId : Option Uuid}
    (hcontent : ref.contentId = contentId.map (·.text)) :
    validateRef ref workspaceId.text = .ok () := by
  rw [validateRef, validateWorkspaceUuid_text, hcontent]
  cases contentId with
  | none => rfl
  | some id =>
      have hid : (some id.text).filter (fun value => decide (value ≠ [])) = some id.text := by
        simp [Option.filter, id.text_ne_nil]
      simp only [Option.map_some, validateContentUuid, hid, validateUuid, Uuid.strip_text,
        id.isConstructible_text]
      rfl

theorem castUuid_text (contentId : Option Uuid) :
    castUuid (contentId.map (·.text)) = some contentId := by
  cases contentId with
  | none => rfl
  | some id => simp [castUuid, id.parse_text]

/-- The texts of a provenance. -/
def provenanceTexts (provenance : GovernanceProvenance M) : List Text :=
  [provenance.sourceType, provenance.sourceId, provenance.sourceLabel, provenance.createdBy,
    provenance.traceId, provenance.createdAt]

def metadataOf (provenance : GovernanceProvenance M) : M := provenance.metadata.getD ∅

theorem jsonbProvenance_toDict (env : Environment M) (provenance : GovernanceProvenance M) :
    jsonbProvenance env (provenanceToDict provenance) =
      if (provenanceTexts provenance).all storable then
        (env.jsonb (metadataOf provenance)).map fun kept =>
          { provenanceToDict provenance with metadata := some kept }
      else none := by
  have htexts : presentTexts [some provenance.sourceType, some provenance.sourceId,
      some provenance.sourceLabel, some provenance.createdBy, some provenance.traceId,
      some provenance.createdAt] = provenanceTexts provenance := rfl
  simp only [jsonbProvenance, provenanceToDict, htexts, metadataOf]
  cases (provenanceTexts provenance).all storable <;> rfl

/-- What the tables take: the row of the workspace, the content, the words of the columns with a
`CHECK`, and the texts. -/
structure Takes (db : GovernanceStore M) (s : CanonicalState M) : Prop where
  workspace : (∃ row ∈ db.workspaces, s.workspaceId = row.workspaceId) ∨
    ∀ row ∈ db.workspaces, row.slug ≠ workspaceSlug s.workspaceId.text
  content : ∀ id, s.contentId = some id → ∃ item ∈ db.contentItems, item.contentId = id
  status : s.state.status ∈ governanceStatuses
  tier : s.state.tier ∈ governanceTiers
  texts : ∀ text ∈ stateTexts s.state ++ provenanceTexts s.state.provenance,
    storable text = true

/-- The states that come back as they were put. -/
structure Kept (env : Environment M) (db : GovernanceStore M) (s : CanonicalState M) : Prop where
  takes : Takes db s
  metadata : env.jsonb (metadataOf s.state.provenance) = some (metadataOf s.state.provenance)
  sourceRef : s.state.recordRef.sourceRef = none

/-- The row that a put writes. -/
def stateRow (s : CanonicalState M) (kept : M) : StoredGovernanceState M where
  workspaceId := s.workspaceId
  recordId := s.state.recordRef.recordId
  recordType := s.state.recordRef.recordType
  contentId := s.contentId
  status := s.state.status
  tier := s.state.tier
  provenance := { provenanceToDict s.state.provenance with metadata := some kept }
  supersedes := s.state.supersedes
  supersededBy := s.state.supersededBy
  stateReason := s.state.stateReason
  limitations := s.state.limitations
  nonClaims := s.state.nonClaims
  mode := s.state.mode

theorem takes_of_writeState {env : Environment M} {db next : GovernanceStore M}
    {s : CanonicalState M} (h : writeState env db s.state = .ok next) :
    Takes db s ∧ ∃ kept known, env.jsonb (metadataOf s.state.provenance) = some kept ∧
      next = upsertState { db with toPostgresStore := known } (stateRow s kept) := by
  rw [writeState, s.workspace_text, s.content_text, s.workspaceId.parse_text, castUuid_text] at h
  dsimp only at h
  split at h
  · cases h
  · rename_i known hknown
    have hslug := ensureWorkspace_isOk_iff.mp (by rw [hknown]; rfl)
    simp only [Option.some.injEq] at hslug
    split at h
    · cases h
    · rename_i hcolumns
      rw [jsonbProvenance_toDict] at h
      split at h
      · cases h
      · rename_i provenance hprovenance
        split at h
        · cases h
        · rename_i hwords
          split at h
          · cases h
          · rename_i hcontent
            split at hprovenance
            · rename_i htexts
              obtain ⟨kept, hkept, rfl⟩ := Option.map_eq_some_iff.mp hprovenance
              cases h
              rw [not_or, not_not, not_not] at hwords
              refine ⟨⟨hslug, ?_, hwords.1, hwords.2, ?_⟩, kept, known, hkept, rfl⟩
              · intro id hid
                simpa [hid] using hcontent
              · intro text htext
                rcases List.mem_append.mp htext with htext | htext
                · exact List.all_eq_true.mp (by simpa using hcolumns) text htext
                · exact List.all_eq_true.mp htexts text htext
            · cases hprovenance

theorem Takes.writeState {env : Environment M} {db : GovernanceStore M} {s : CanonicalState M}
    (h : Takes db s) {kept : M}
    (hkept : env.jsonb (metadataOf s.state.provenance) = some kept) :
    ∃ known, writeState env db s.state =
      .ok (upsertState { db with toPostgresStore := known } (stateRow s kept)) := by
  have hslug : (ensureWorkspace db.toPostgresStore s.workspaceId s.workspaceId.text).isOk = true :=
    ensureWorkspace_isOk_iff.mpr (by simpa using h.workspace)
  obtain ⟨known, hknown⟩ := Transaction.exists_of_isOk hslug
  have hcolumns : (stateTexts s.state).all storable = true :=
    List.all_eq_true.mpr fun text htext => h.texts text (List.mem_append_left _ htext)
  have hprovenance : (provenanceTexts s.state.provenance).all storable = true :=
    List.all_eq_true.mpr fun text htext => h.texts text (List.mem_append_right _ htext)
  have hcontent : s.contentId.any (fun id => !db.contentItems.any (·.contentId == id)) = false := by
    cases hid : s.contentId with
    | none => rfl
    | some id =>
        obtain ⟨item, hitem, hsame⟩ := h.content id hid
        have hany : db.contentItems.any (·.contentId == id) = true :=
          List.any_eq_true.mpr ⟨item, hitem, by simp [hsame]⟩
        simp [hany]
  refine ⟨known, ?_⟩
  rw [Postgres.writeState, s.workspace_text, s.content_text, s.workspaceId.parse_text,
    castUuid_text]
  dsimp only
  rw [hknown, jsonbProvenance_toDict, hcolumns, if_pos hprovenance, hkept]
  simp [h.status, h.tier, hcontent, stateRow]

/-! ### Reading a written row -/

omit [EmptyCollection M] in
theorem find?_upsertState (db : GovernanceStore M) (row : StoredGovernanceState M) :
    (upsertState db row).governanceStates.find? (hasRecordKey row.workspaceId row.recordId) =
      some row := by
  have hself : hasRecordKey row.workspaceId row.recordId row = true := by simp [hasRecordKey]
  unfold upsertState
  split
  · rename_i hany
    exact find?_updateWhere_const hself hany
  · rename_i hnone
    simp only [List.find?_append, List.find?_eq_none.mpr (by simpa using hnone)]
    simp [hself]

theorem getGovernanceState_upsertState (db : GovernanceStore M) (s : CanonicalState M) (kept : M) :
    getGovernanceState (upsertState db (stateRow s kept)) s.state.recordRef.workspaceId
      s.state.recordRef.recordId = .ok (loadedState (stateRow s kept)) := by
  have hfound := find?_upsertState db (stateRow s kept)
  simp only [stateRow] at hfound
  rw [getGovernanceState, s.workspace_text, validateWorkspaceUuid_text]
  simp only [if_neg s.record_text, Uuid.parse_text, stateRow, hfound]

/-- What comes back is the state without its source reference, and with the metadata that the
column keeps. -/
theorem sameState_loadedState {s : CanonicalState M} {kept : M} :
    SameState (loadedState (stateRow s kept)) s.state ↔
      kept = metadataOf s.state.provenance ∧ s.state.recordRef.sourceRef = none := by
  obtain ⟨⟨⟨recordId, recordType, workspaceId, contentId, sourceRef⟩, status, tier, provenance,
    supersedes, supersededBy, stateReason, limitations, nonClaims, mode⟩, workspace, content,
    hvalid, hworkspace, hcontent⟩ := s
  simp only at hworkspace hcontent
  subst hworkspace hcontent
  simp [SameState, withMapping, loadedState, stateRow, provenanceFromMapping, provenanceToDict,
    metadataOf, eq_comm, and_comm]

theorem putGovernanceState_of_writeState {env : Environment M} {db : GovernanceStore M}
    (s : CanonicalState M) :
    putGovernanceState env db s.state =
      match writeState env db s.state with
      | .error _ => (db, .error operationFailed)
      | .ok next => (next, .ok s.state) := by
  have hids : validateRef s.state.recordRef s.workspaceId.text = .ok () :=
    validateRef_text s.content_text
  rw [← s.workspace_text] at hids
  cases hwrite : writeState env db s.state with
  | error error => simp only [putGovernanceState, s.valid, hids, hwrite]
  | ok next => simp only [putGovernanceState, s.valid, hids, hwrite]

end Postgres

/-! ## The round trip -/

section RoundTrip

variable [EmptyCollection M]

/-- After a put of the state, both backends return it. -/
def RoundTrips (env : Environment M) (memory : StateStore M) (db : GovernanceStore M)
    (state : GovernanceState M) : Prop :=
  (∃ loaded, (Memory.putGovernanceState memory state).2 = .ok state ∧
    Memory.getGovernanceState (Memory.putGovernanceState memory state).1
      state.recordRef.workspaceId state.recordRef.recordId = .ok loaded ∧
        SameState loaded state) ∧
  ∃ loaded, (Postgres.putGovernanceState env db state).2 = .ok state ∧
    Postgres.getGovernanceState (Postgres.putGovernanceState env db state).1
      state.recordRef.workspaceId state.recordRef.recordId = .ok loaded ∧
        SameState loaded state

theorem kept_of_roundTrips {env : Environment M} {memory : StateStore M} {db : GovernanceStore M}
    {s : CanonicalState M} (h : RoundTrips env memory db s.state) : Postgres.Kept env db s := by
  obtain ⟨-, loaded, hput, hget, hsame⟩ := h
  rw [Postgres.putGovernanceState_of_writeState] at hput hget
  cases hwrite : Postgres.writeState env db s.state with
  | error error =>
      rw [hwrite] at hput
      cases hput
  | ok next =>
      rw [hwrite] at hget
      obtain ⟨htakes, kept, known, hkept, rfl⟩ := Postgres.takes_of_writeState hwrite
      rw [Postgres.getGovernanceState_upsertState] at hget
      cases hget
      obtain ⟨rfl, hsource⟩ := Postgres.sameState_loadedState.mp hsame
      exact ⟨htakes, hkept, hsource⟩

/-- A state comes back from both backends exactly when the tables take it, the column keeps its
metadata and it has no source reference. -/
theorem roundTrips_iff_kept (env : Environment M) (memory : StateStore M) (db : GovernanceStore M)
    (s : CanonicalState M) :
    RoundTrips env memory db s.state ↔ Postgres.Kept env db s := by
  constructor
  · exact kept_of_roundTrips
  · intro h
    obtain ⟨known, hwrite⟩ := h.takes.writeState h.metadata
    refine ⟨⟨s.state, ?_, Memory.getGovernanceState_put memory s, rfl⟩, ?_⟩
    · simp [Memory.putGovernanceState, s.valid]
    · rw [Postgres.putGovernanceState_of_writeState, hwrite]
      exact ⟨_, rfl, Postgres.getGovernanceState_upsertState _ s _,
        Postgres.sameState_loadedState.mpr ⟨rfl, h.sourceRef⟩⟩

end RoundTrip

/-! ## A source reference -/

def sourcedState : CanonicalState (List ℕ) where
  state :=
    { recordRef :=
        { recordId := ['r'], recordType := ['t'], workspaceId := (⟨1⟩ : Uuid).text
          sourceRef := some ['s'] }
      status := "active".toList
      tier := "persistent".toList
      provenance :=
        { sourceType := ['a'], sourceId := ['b'], sourceLabel := ['c'], createdBy := ['d']
          traceId := ['e'], createdAt := ['f'] }
      mode := ['m'] }
  workspaceId := ⟨1⟩
  contentId := none
  valid := by decide +kernel
  workspace_text := rfl
  content_text := rfl

/-- An empty database takes the state and loses its source reference. -/
theorem not_roundTrips_sourceRef : ¬ ∀ (env : Environment (List ℕ)) (memory : StateStore (List ℕ))
    (db : GovernanceStore (List ℕ)) (s : CanonicalState (List ℕ)),
      RoundTrips env memory db s.state := by
  intro h
  have hkept := kept_of_roundTrips (h ⟨some, fun _ => true⟩ [] {} sourcedState)
  exact nomatch hkept.sourceRef

end MemoryLab.Persistence

import MemoryLab.Model.Persistence
import MemoryLab.Verification.Storable

/-! # What a put changes of other workspaces -/

namespace MemoryLab.Persistence

open Library Library.Rows

variable {M : Type}

/-! ## In memory -/

namespace Memory

/-- A put for one workspace leaves what another reads. -/
theorem reads_putContentRecord (store : MemoryStore M) (supplied : SuppliedRecord M) (other : Text)
    (hother : requiredId (workspaceField supplied) ≠ some other.strip) :
    (∀ contentId, getContentRecord (putContentRecord store supplied).1 other contentId =
        getContentRecord store other contentId) ∧
      listContentRecords (putContentRecord store supplied).1 other =
        listContentRecords store other := by
  unfold putContentRecord
  split
  · exact ⟨fun _ => rfl, rfl⟩
  · rename_i workspaceId hworkspace
    split
    · exact ⟨fun _ => rfl, rfl⟩
    · rename_i contentId hcontent
      have hne : other.strip ≠ workspaceId := by
        rintro rfl
        exact hother hworkspace
      constructor
      · intro wanted
        have hkey : (other.strip, wanted.strip) ≠ (workspaceId, contentId) :=
          fun hsame => hne (Prod.mk.inj hsame).1
        rw [getContentRecord, getContentRecord, Dict.set, Dict.get?_modify_of_ne hkey]
      · have hq : ((workspaceId, contentId).1 == other.strip) = false :=
          beq_eq_false_iff_ne.mpr fun hsame => hne hsame.symm
        have hfilter : ((Dict.modify (workspaceId, contentId) (fun _ => supplied) store).filter
            fun entry => entry.1.1 == other.strip) =
              store.filter fun entry => entry.1.1 == other.strip :=
          Dict.filter_modify (q := fun key : Text × Text => key.1 == other.strip) hq
        rw [listContentRecords, listContentRecords, filter_sortOn, filter_sortOn, Dict.set, hfilter]

end Memory

/-! ## In the database -/

namespace Postgres

/-- What the reads of a workspace depend on. -/
theorem reads_of_joined {db next : PostgresStore M} {other : Text}
    (h : ∀ workspace, Uuid.parse other = some workspace → ∀ p : StoredContent M → Bool,
      joined next (fun item => item.workspaceId == some workspace && p item) =
        joined db fun item => item.workspaceId == some workspace && p item) :
    (∀ contentId, getContentRecord next other contentId = getContentRecord db other contentId) ∧
      listContentRecords next other = listContentRecords db other := by
  constructor
  · intro contentId
    unfold getContentRecord
    split
    · rfl
    · split
      · rename_i workspace content hworkspace hcontent
        rw [h workspace hworkspace fun item => item.contentId == content]
      · rfl
  · unfold listContentRecords
    split
    · rfl
    · split
      · rfl
      · split
        · rename_i workspace hworkspace
          have hall := h workspace hworkspace fun _ => true
          simp only [Bool.and_true] at hall
          rw [hall]
        · rfl

/-- A put of a record takes a content of another workspace over. -/
def TakesOver (db : PostgresStore M) (record : ContentPersistenceRecord M) : Prop :=
  ∃ row ∈ db.contentItems, Uuid.parse record.contentId = some row.contentId ∧
    row.workspaceId ≠ none ∧ row.workspaceId ≠ Uuid.parse record.workspaceId

/-- The records that the database takes. -/
structure Writable (env : Environment M) (db : PostgresStore M)
    (record : ContentPersistenceRecord M) : Prop where
  casts : (Uuid.parse record.workspaceId).isSome = true ∧
    (Uuid.parse record.contentId).isSome = true
  slug : (∃ row ∈ db.workspaces, Uuid.parse record.workspaceId = some row.workspaceId) ∨
    ∀ row ∈ db.workspaces, row.slug ≠ workspaceSlug record.workspaceId
  storable : storable record.text = true ∧ storable (record.title.getD []) = true ∧
    storable (record.governanceStateId.getD []) = true
  metadata : (env.jsonb record.metadata).isSome = true
  embeds : record.text ≠ [] → env.embeds record.text = true

/-- The records that the backend takes. -/
structure Accepted (env : Environment M) (db : PostgresStore M)
    (record : ContentPersistenceRecord M) : Prop where
  constructible : Uuid.isConstructible record.workspaceId.strip = true ∧
    Uuid.isConstructible record.contentId.strip = true
  writable : Writable env db record

theorem validateId_eq_ok {value : Text} {fieldName : String} :
    validateId value fieldName = .ok () ↔ Uuid.isConstructible value.strip = true := by
  unfold validateId validateUuid
  split
  · rename_i hblank
    rw [hblank]
    exact iff_of_false nofun (by decide)
  · split
    · rename_i hvalid
      exact iff_of_true rfl hvalid
    · rename_i hinvalid
      exact iff_of_false nofun hinvalid

theorem validateIds_eq_ok {workspaceId contentId : Text} :
    validateIds workspaceId contentId = .ok () ↔
      Uuid.isConstructible workspaceId.strip = true ∧
        Uuid.isConstructible contentId.strip = true := by
  unfold validateIds
  split
  · rename_i error herror
    refine iff_of_false nofun fun h => ?_
    rw [validateId_eq_ok.mpr h.1] at herror
    cases herror
  · rename_i hworkspace
    rw [validateId_eq_ok, validateId_eq_ok.mp hworkspace]
    exact (and_iff_right rfl).symm

/-- What an accepted put leaves. -/
structure Written (db next : PostgresStore M) (record : ContentPersistenceRecord M)
    (row : StoredContent M) : Prop where
  items : next.contentItems = (upsertContent db row).contentItems
  workspace : Uuid.parse record.workspaceId = row.workspaceId
  content : Uuid.parse record.contentId = some row.contentId
  chunks : ∃ added : List StoredChunk, (∀ chunk ∈ added, chunk.contentId = row.contentId) ∧
    next.contentChunks = db.contentChunks.filter (fun chunk => !isBody row.contentId chunk) ++ added

theorem ensureWorkspace_frame {db known : PostgresStore M} {workspaceId : Uuid} {spelled : Text}
    (h : ensureWorkspace db workspaceId spelled = .ok known) :
    known.contentItems = db.contentItems ∧ known.contentChunks = db.contentChunks := by
  unfold ensureWorkspace at h
  split at h
  · cases h
    exact ⟨rfl, rfl⟩
  · split at h
    · cases h
    · cases h
      exact ⟨rfl, rfl⟩

theorem upsertContent_congr {db known : PostgresStore M} (h : known.contentItems = db.contentItems)
    (row : StoredContent M) :
    (upsertContent known row).contentItems = (upsertContent db row).contentItems := by
  unfold upsertContent
  rw [h]
  split <;> rfl

theorem upsertContent_chunks (db : PostgresStore M) (row : StoredContent M) :
    (upsertContent db row).contentChunks = db.contentChunks := by
  unfold upsertContent
  split <;> rfl

theorem persistBodyChunks_effect {env : Environment M} {db next : PostgresStore M}
    {contentId workspaceId : Uuid} {text : Text}
    (h : persistBodyChunks env db contentId workspaceId text = .ok next) :
    next.contentItems = db.contentItems ∧ ∃ added : List StoredChunk,
      (∀ chunk ∈ added, chunk.contentId = contentId) ∧
        next.contentChunks =
          db.contentChunks.filter (fun chunk => !isBody contentId chunk) ++ added := by
  unfold persistBodyChunks at h
  dsimp only at h
  split at h
  · cases h
    exact ⟨rfl, [], List.forall_mem_nil _, (List.append_nil _).symm⟩
  · split at h
    · cases h
    · split at h
      · cases h
      · cases h
        refine ⟨rfl, _, ?_, rfl⟩
        intro chunk hchunk
        rw [List.mem_singleton.mp hchunk]

theorem written_of_writeContent {env : Environment M} {db next : PostgresStore M}
    {record : ContentPersistenceRecord M} (h : writeContent env db record = .ok next) :
    ∃ row, Written db next record row := by
  unfold writeContent at h
  split at h
  · rename_i workspaceId contentId hworkspace hcontent
    split at h
    · cases h
    · rename_i known hknown
      obtain ⟨hitems, hchunks⟩ := ensureWorkspace_frame hknown
      split at h
      · cases h
      · split at h
        · cases h
        · obtain ⟨hnext, added, hadded, hwritten⟩ := persistBodyChunks_effect h
          rw [upsertContent_chunks, hchunks] at hwritten
          refine ⟨_, hnext.trans (upsertContent_congr hitems _), hworkspace, hcontent, ?_⟩
          exact ⟨added, hadded, hwritten⟩
  · cases h

theorem ensureWorkspace_isOk_iff {db : PostgresStore M} {workspaceId : Uuid} {spelled : Text} :
    (ensureWorkspace db workspaceId spelled).isOk = true ↔
      (∃ row ∈ db.workspaces, some workspaceId = some row.workspaceId) ∨
        ∀ row ∈ db.workspaces, row.slug ≠ workspaceSlug spelled := by
  unfold ensureWorkspace
  split
  · rename_i hknown
    obtain ⟨row, hrow, hid⟩ := List.any_eq_true.mp hknown
    exact iff_of_true rfl (.inl ⟨row, hrow, congrArg some (beq_iff_eq.mp hid).symm⟩)
  · rename_i hunknown
    have hnone : ¬ ∃ row ∈ db.workspaces, some workspaceId = some row.workspaceId := by
      rintro ⟨row, hrow, hid⟩
      exact hunknown (List.any_eq_true.mpr ⟨row, hrow, beq_iff_eq.mpr (Option.some.inj hid).symm⟩)
    split
    · rename_i htaken
      obtain ⟨row, hrow, hslug⟩ := List.any_eq_true.mp htaken
      refine iff_of_false nofun (not_or.mpr ⟨hnone, fun hfree => ?_⟩)
      exact hfree row hrow (beq_iff_eq.mp hslug)
    · rename_i hfree
      refine iff_of_true rfl (.inr fun row hrow hslug => hfree ?_)
      exact List.any_eq_true.mpr ⟨row, hrow, beq_iff_eq.mpr hslug⟩

theorem persistBodyChunks_isOk_iff {env : Environment M} {db : PostgresStore M}
    {contentId workspaceId : Uuid} {text : Text} :
    (persistBodyChunks env db contentId workspaceId text).isOk = true ↔
      storable text = true ∧ (text ≠ [] → env.embeds text = true) := by
  unfold persistBodyChunks
  dsimp only
  split
  · rename_i hempty
    rw [hempty]
    exact iff_of_true rfl ⟨rfl, fun hne => absurd rfl hne⟩
  · rename_i hne
    cases hstorable : storable text with
    | false => exact iff_of_false nofun (by simp)
    | true =>
        cases hembeds : env.embeds text with
        | false => exact iff_of_false nofun (by simp [hne])
        | true => exact iff_of_true rfl (by simp)

theorem writable_of_writeContent {env : Environment M} {db next : PostgresStore M}
    {record : ContentPersistenceRecord M} (h : writeContent env db record = .ok next) :
    Writable env db record := by
  unfold writeContent at h
  split at h
  · rename_i workspaceId contentId hworkspace hcontent
    split at h
    · cases h
    · rename_i known hknown
      split at h
      · cases h
      · rename_i htexts
        split at h
        · cases h
        · rename_i metadata hmetadata
          have hslug := ensureWorkspace_isOk_iff.mp (by rw [hknown]; rfl)
          have hbody := persistBodyChunks_isOk_iff.mp (by rw [h]; rfl)
          simp only [Bool.not_eq_true', Bool.not_eq_false, Bool.and_eq_true] at htexts
          refine ⟨⟨by rw [hworkspace]; rfl, by rw [hcontent]; rfl⟩, ?_,
            ⟨hbody.1, htexts.1.2, htexts.2⟩, by rw [hmetadata]; rfl, hbody.2⟩
          rwa [hworkspace]
  · cases h

theorem Writable.isOk {env : Environment M} {db : PostgresStore M}
    {record : ContentPersistenceRecord M} (h : Writable env db record) :
    (writeContent env db record).isOk = true := by
  obtain ⟨workspaceId, hworkspace⟩ := Option.isSome_iff_exists.mp h.casts.1
  obtain ⟨contentId, hcontent⟩ := Option.isSome_iff_exists.mp h.casts.2
  obtain ⟨metadata, hmetadata⟩ := Option.isSome_iff_exists.mp h.metadata
  have hslug := h.slug
  rw [hworkspace] at hslug
  have hknown := ensureWorkspace_isOk_iff.mpr hslug
  unfold writeContent
  rw [hworkspace, hcontent]
  dsimp only
  cases hensure : ensureWorkspace db workspaceId record.workspaceId with
  | error error =>
      rw [hensure] at hknown
      cases hknown
  | ok known =>
      dsimp only
      rw [storable_take h.storable.1, h.storable.2.1, h.storable.2.2, hmetadata]
      exact persistBodyChunks_isOk_iff.mpr ⟨h.storable.1, h.embeds⟩

/-- The put succeeds exactly on the accepted records. -/
theorem putContentRecord_isOk_iff (env : Environment M) (db : PostgresStore M)
    (supplied : SuppliedRecord M) :
    (putContentRecord env db supplied).2.isOk = true ↔
      Accepted env db (normalizeContentRecord supplied) := by
  unfold putContentRecord
  dsimp only
  split
  · rename_i error herror
    refine iff_of_false nofun fun h => ?_
    rw [validateIds_eq_ok.mpr h.constructible] at herror
    cases herror
  · rename_i hids
    split
    · rename_i error herror
      refine iff_of_false nofun fun h => ?_
      have hok := h.writable.isOk
      rw [herror] at hok
      cases hok
    · rename_i next hnext
      exact iff_of_true rfl ⟨validateIds_eq_ok.mp hids, writable_of_writeContent hnext⟩

theorem putContentRecord_of_accepted {env : Environment M} {db : PostgresStore M}
    {supplied : SuppliedRecord M} (h : Accepted env db (normalizeContentRecord supplied)) :
    ∃ row,
      Written db (putContentRecord env db supplied).1 (normalizeContentRecord supplied) row := by
  have hok := (putContentRecord_isOk_iff env db supplied).mpr h
  revert hok
  unfold putContentRecord
  dsimp only
  split
  · exact nofun
  · split
    · exact nofun
    · rename_i next hnext
      exact fun _ => written_of_writeContent hnext

/-- A put that is refused leaves the state. -/
theorem putContentRecord_of_not_accepted {env : Environment M} {db : PostgresStore M}
    {supplied : SuppliedRecord M} (h : ¬ Accepted env db (normalizeContentRecord supplied)) :
    (putContentRecord env db supplied).1 = db := by
  have hrefused := mt (putContentRecord_isOk_iff env db supplied).mp h
  revert hrefused
  unfold putContentRecord
  dsimp only
  split
  · exact fun _ => rfl
  · split
    · exact fun _ => rfl
    · exact fun hrefused => absurd rfl hrefused

/-! ### Reads after a put -/

theorem mem_upsertContent {db : PostgresStore M} {row item : StoredContent M}
    (h : item ∈ (upsertContent db row).contentItems) (hid : item.contentId = row.contentId) :
    item = row := by
  unfold upsertContent at h
  split at h
  · obtain ⟨old, hold, ⟨-, rfl⟩ | ⟨hother, rfl⟩⟩ := mem_updateWhere.mp h
    · rfl
    · exact absurd hid (beq_eq_false_iff_ne.mp hother)
  · rename_i hnone
    rcases List.mem_append.mp h with hold | hnew
    · have hany : (db.contentItems.any (·.contentId == row.contentId)) = true :=
        List.any_eq_true.mpr ⟨item, hold, beq_iff_eq.mpr hid⟩
      exact absurd hany hnone
    · exact List.mem_singleton.mp hnew

theorem filter_upsertContent {db : PostgresStore M} {row : StoredContent M}
    {q : StoredContent M → Bool} (hrow : q row = false)
    (hold : ∀ item ∈ db.contentItems, item.contentId = row.contentId → q item = false) :
    (upsertContent db row).contentItems.filter q = db.contentItems.filter q := by
  unfold upsertContent
  split
  · exact filter_updateWhere fun item hitem hid => ⟨hold item hitem (beq_iff_eq.mp hid), hrow⟩
  · simp [hrow]

/-- A put leaves what a workspace reads unless it takes a content of it over. -/
theorem Written.joined_eq {db next : PostgresStore M} {record : ContentPersistenceRecord M}
    {row : StoredContent M} (h : Written db next record row) {workspace : Uuid}
    (hworkspace : row.workspaceId ≠ some workspace)
    (hforeign : ∀ item ∈ db.contentItems, item.contentId = row.contentId →
      item.workspaceId ≠ some workspace) (p : StoredContent M → Bool) :
    joined next (fun item => item.workspaceId == some workspace && p item) =
      joined db fun item => item.workspaceId == some workspace && p item := by
  have hrow : (row.workspaceId == some workspace && p row) = false := by
    rw [beq_eq_false_iff_ne.mpr hworkspace, Bool.false_and]
  have hold : ∀ item ∈ db.contentItems, item.contentId = row.contentId →
      (item.workspaceId == some workspace && p item) = false := by
    intro item hitem hid
    rw [beq_eq_false_iff_ne.mpr (hforeign item hitem hid), Bool.false_and]
  obtain ⟨added, hadded, hchunks⟩ := h.chunks
  rw [joined, joined, h.items, filter_upsertContent hrow hold, hchunks]
  refine leftJoin_congr fun item hitem => ?_
  have hne : item.contentId ≠ row.contentId := by
    intro hid
    rw [List.mem_filter] at hitem
    rw [hold item hitem.1 hid] at hitem
    exact Bool.noConfusion hitem.2
  have hnone : added.filter (isBody item.contentId) = [] := by
    refine List.filter_eq_nil_iff.mpr fun chunk hchunk => ?_
    simp [isBody, hadded chunk hchunk, hne.symm]
  rw [List.filter_append, hnone, List.append_nil, List.filter_filter]
  refine List.filter_congr fun chunk _ => ?_
  cases hbody : isBody item.contentId chunk with
  | false => rfl
  | true =>
      have hother : isBody row.contentId chunk = false := by
        simp only [isBody, Bool.and_eq_true, beq_iff_eq] at hbody
        simp [isBody, hbody.1, hne]
      rw [hother]
      rfl

theorem getContentRecord_text (db : PostgresStore M) (workspace content : Uuid) :
    getContentRecord db workspace.text content.text =
      match (joined db fun item =>
          item.workspaceId == some workspace && item.contentId == content).head? with
      | some row => .ok (loadedRecord row)
      | none => .error notFound := by
  have hids : validateIds workspace.text content.text = .ok () := by
    rw [validateIds_eq_ok, Uuid.strip_text, Uuid.strip_text]
    exact ⟨Uuid.isConstructible_text workspace, Uuid.isConstructible_text content⟩
  cases hrow : (joined db fun item =>
      item.workspaceId == some workspace && item.contentId == content).head? with
  | none => simp [getContentRecord, hids, Uuid.parse_text, hrow]
  | some row => simp [getContentRecord, hids, Uuid.parse_text, hrow]

theorem getContentRecord_isOk_iff (db : PostgresStore M) (workspace content : Uuid) :
    (getContentRecord db workspace.text content.text).isOk = true ↔
      ∃ item ∈ db.contentItems, item.workspaceId = some workspace ∧ item.contentId = content := by
  rw [getContentRecord_text]
  split
  · rename_i row hrow
    have hmem := fst_of_mem_leftJoin (List.mem_of_head? hrow)
    rw [List.mem_filter, Bool.and_eq_true, beq_iff_eq, beq_iff_eq] at hmem
    exact iff_of_true rfl ⟨row.1, hmem⟩
  · rename_i hnone
    refine iff_of_false nofun ?_
    rintro ⟨item, hitem, hworkspace, hcontent⟩
    rw [List.head?_eq_none_iff, joined, leftJoin_eq_nil, List.filter_eq_nil_iff] at hnone
    exact hnone item hitem (by simp [hworkspace, hcontent])

end Postgres

/-! ## Both backends -/

/-- A put of a record leaves what every other workspace reads. -/
structure Isolated (env : Environment M) (memory : MemoryStore M) (db : PostgresStore M)
    (supplied : SuppliedRecord M) : Prop where
  memory : ∀ other, Memory.requiredId (Memory.workspaceField supplied) ≠ some other.strip →
    (∀ contentId,
      Memory.getContentRecord (Memory.putContentRecord memory supplied).1 other contentId =
        Memory.getContentRecord memory other contentId) ∧
      Memory.listContentRecords (Memory.putContentRecord memory supplied).1 other =
        Memory.listContentRecords memory other
  postgres : ∀ other,
    Uuid.parse (Postgres.normalizeContentRecord supplied).workspaceId ≠ Uuid.parse other →
    (∀ contentId,
      Postgres.getContentRecord (Postgres.putContentRecord env db supplied).1 other contentId =
        Postgres.getContentRecord db other contentId) ∧
      Postgres.listContentRecords (Postgres.putContentRecord env db supplied).1 other =
        Postgres.listContentRecords db other

open Postgres in
/-- The backends are isolated exactly when the database, if it accepts the record, has no content
of another workspace under the record's identifier. -/
theorem backends_isolated_iff (env : Environment M) (memory : MemoryStore M) (db : PostgresStore M)
    (supplied : SuppliedRecord M) :
    Isolated env memory db supplied ↔
      (Accepted env db (normalizeContentRecord supplied) →
        ¬ TakesOver db (normalizeContentRecord supplied)) := by
  constructor
  · rintro h haccepted ⟨item, hitem, hcontent, hsome, hforeign⟩
    obtain ⟨workspace, hworkspace⟩ := Option.ne_none_iff_exists'.mp hsome
    obtain ⟨row, hwritten⟩ := putContentRecord_of_accepted haccepted
    have hother : Uuid.parse (normalizeContentRecord supplied).workspaceId ≠
        Uuid.parse workspace.text := by
      rw [Uuid.parse_text, ← hworkspace]
      exact hforeign.symm
    have hreads := (h.postgres workspace.text hother).1 item.contentId.text
    have hbefore := (getContentRecord_isOk_iff db workspace item.contentId).mpr
      ⟨item, hitem, hworkspace, rfl⟩
    rw [← hreads, getContentRecord_isOk_iff] at hbefore
    obtain ⟨after, hafter, howner, hid⟩ := hbefore
    rw [hwritten.items] at hafter
    have hrow : after = row := by
      refine mem_upsertContent hafter (hid.trans ?_)
      exact Option.some.inj (hcontent.symm.trans hwritten.content)
    rw [hrow, ← hwritten.workspace] at howner
    exact hother (howner.trans (Uuid.parse_text workspace).symm)
  · intro h
    refine ⟨Memory.reads_putContentRecord memory supplied, fun other hother => ?_⟩
    by_cases haccepted : Accepted env db (normalizeContentRecord supplied)
    · obtain ⟨row, hwritten⟩ := putContentRecord_of_accepted haccepted
      refine reads_of_joined fun workspace hworkspace p => hwritten.joined_eq ?_ ?_ p
      · rw [← hwritten.workspace, ← hworkspace]
        exact hother
      · intro item hitem hid howner
        refine h haccepted ⟨item, hitem, hwritten.content.trans (congrArg some hid.symm), ?_, ?_⟩
        · rw [howner]
          exact Option.some_ne_none workspace
        · rw [howner, ← hworkspace]
          exact hother.symm
    · rw [putContentRecord_of_not_accepted haccepted]
      exact ⟨fun _ => rfl, rfl⟩

/-- A content of workspace 1 is put again for workspace 2. -/
theorem not_isolated_collision :
    let env : Environment Unit := ⟨some, fun _ => true⟩
    let db : PostgresStore Unit :=
      { contentItems := [{ contentId := ⟨7⟩, workspaceId := some ⟨1⟩, contentMetadata := () }] }
    let record : ContentPersistenceRecord Unit :=
      { contentId := (Uuid.mk 7).text, workspaceId := (Uuid.mk 2).text, text := "beta".toList,
        metadata := () }
    ¬ Isolated env [] db (.record record) := by
  intro env db record h
  have hreads := (h.postgres (Uuid.mk 1).text (by decide +kernel)).1 (Uuid.mk 7).text
  have hok := congrArg Except.isOk hreads
  revert hok
  decide +kernel

end MemoryLab.Persistence

import MemoryLab.Model.BodyWriters
import MemoryLab.Verification.Save.Readers

/-! # When a put replaces the whole body

A put rewrites the chunk with index 0 and leaves the hash alone. The chunks after it are those
that a save has stored, so they decide what the body is afterwards. -/

namespace MemoryLab.BodyWriters

open Library Library.Rows Library.Transaction Library.Runs Adapter Persistence CanonicalBody
  ContentReaders

variable {M : Type}

/-! ## Statements of a put -/

section Statements

variable {env : PutEnvironment M} {record : ContentPersistenceRecord M} {contentId : ContentId}
  {workspaceId : WorkspaceId} {db next : Database} {text : Text}

/-- What the database asks of the columns of a put. -/
structure Upserts (env : PutEnvironment M) (db : Database) (record : ContentPersistenceRecord M)
    (contentId : ContentId) (workspaceId : WorkspaceId) : Prop where
  summary : storable (record.text.take 300) = true
  title : storable (record.title.getD []) = true
  state : storable (record.governanceStateId.getD []) = true
  metadata : (env.jsonb record.metadata).isSome = true
  unclashed : hashClashes db contentId workspaceId = false

theorem hashClashes_of_notMem (h : contentId ∉ db.contentIds) :
    hashClashes db contentId workspaceId = false := by
  have hnone : db.contentItems.filter (hasContentId contentId) = [] := by
    refine List.filter_eq_nil_iff.mpr fun item hitem hid => h ?_
    rw [hasContentId, beq_iff_eq] at hid
    rw [← hid]
    exact List.mem_map_of_mem hitem
  rw [hashClashes, hnone, List.any_nil]

theorem upsertContent_isOk :
    (upsertContent env record contentId workspaceId db).isOk = true ↔
      Upserts env db record contentId workspaceId := by
  unfold upsertContent
  split
  · rename_i hstorable
    refine iff_of_false (by simp [Except.isOk, Except.toBool]) fun h => ?_
    simp [h.summary, h.title, h.state] at hstorable
  · rename_i hstorable
    simp only [Bool.not_eq_true', Bool.not_eq_false, Bool.and_eq_true] at hstorable
    split
    · rename_i hmetadata
      refine iff_of_false (by simp [Except.isOk, Except.toBool]) fun h => ?_
      have hsome := h.metadata
      rw [Option.isNone_iff_eq_none.mp hmetadata] at hsome
      cases hsome
    · rename_i hmetadata
      have hsome : (env.jsonb record.metadata).isSome = true := by
        rwa [Option.isNone_iff_eq_none, ← ne_eq, Option.ne_none_iff_isSome] at hmetadata
      split
      · split
        · rename_i hclashes
          refine iff_of_false (by simp [Except.isOk, Except.toBool]) fun h => ?_
          rw [h.unclashed] at hclashes
          cases hclashes
        · rename_i hclashes
          exact iff_of_true rfl ⟨hstorable.1.1, hstorable.1.2, hstorable.2, hsome,
            by simpa using hclashes⟩
      · rename_i hnew
        exact iff_of_true rfl ⟨hstorable.1.1, hstorable.1.2, hstorable.2, hsome,
          hashClashes_of_notMem hnew⟩

theorem upsertContent_ok (h : upsertContent env record contentId workspaceId db = .ok next) :
    next.contentChunks = db.contentChunks ∧ contentId ∈ next.contentIds ∧
      ∀ other ∈ db.contentIds, other ∈ next.contentIds := by
  unfold upsertContent at h
  split at h
  · cases h
  · split at h
    · cases h
    · split at h
      · rename_i hmem
        split at h
        · cases h
        · cases h
          have hids : (updateWhere (hasContentId contentId)
              (setRecord workspaceId (summaryOf record.text)) db.contentItems).map
                (·.contentId) = db.contentIds :=
            map_updateWhere (f := setRecord workspaceId (summaryOf record.text))
              ContentItem.contentId (fun _ => rfl) _
          refine ⟨rfl, ?_, fun other hother => ?_⟩
          · rwa [Database.contentIds, hids]
          · rwa [Database.contentIds, hids]
      · cases h
        refine ⟨rfl, ?_, fun other hother => ?_⟩
        · simp [Database.contentIds]
        · rw [Database.contentIds] at hother
          simp [Database.contentIds, List.mem_map.mp hother]

theorem storedBody_deleteFirstChunk (h : deleteFirstChunk contentId db = .ok next) :
    storedBody next contentId = (storedBody db contentId).filter (fun row => row.1 != 0) ∧
      ∀ other, other ≠ contentId → storedBody next other = storedBody db other := by
  cases h
  refine ⟨?_, fun other hother => ?_⟩
  · rw [storedBody, storedBody, List.filter_filter, List.filter_map, List.filter_filter]
    congr 1
    refine List.filter_congr fun chunk _ => ?_
    cases hof : ofContent contentId chunk <;> simp [isFirstChunk, hof, bne]
  · rw [storedBody, storedBody, List.filter_filter]
    congr 1
    refine List.filter_congr fun chunk _ => ?_
    by_cases hchunk : chunk.contentId = other
    · simp [isFirstChunk, ofContent, hchunk, hother]
    · simp [ofContent, hchunk]

/-- The body that a put leaves: its own chunk comes after those it does not delete. -/
structure Puts (contentId : ContentId) (text : Text) (db next : Database) : Prop where
  body : storedBody next contentId =
    (storedBody db contentId).filter (fun row => row.1 != 0) ++ recordRows text
  bodies : ∀ other, other ≠ contentId → storedBody next other = storedBody db other
  stored : contentId ∈ next.contentIds
  contentIds : ∀ other ∈ db.contentIds, other ∈ next.contentIds

theorem forall_recordRows_storable :
    (∀ row ∈ recordRows text, storable row.2 = true) ↔ storable text = true := by
  unfold recordRows
  split
  · rename_i hempty
    simp [hempty, storable]
  · simp

theorem execute_put_ok (h : execute (putStatements env db record contentId workspaceId) db =
    .ok next) :
    Upserts env db record contentId workspaceId ∧ storable record.text = true ∧
      Puts contentId record.text db next := by
  obtain ⟨known, hknown, h⟩ := execute_cons_eq_ok.mp h
  cases hknown
  obtain ⟨upserted, hupsert, h⟩ := execute_cons_eq_ok.mp h
  have hupserts : Upserts env db record contentId workspaceId :=
    upsertContent_isOk.mp (by rw [hupsert]; rfl)
  obtain ⟨hchunks, hmem, hids⟩ := upsertContent_ok hupsert
  obtain ⟨deleted, hdelete, hinsert⟩ := execute_cons_eq_ok.mp h
  obtain ⟨hbody, hbodies⟩ := storedBody_deleteFirstChunk hdelete
  obtain ⟨hstorable, hstores⟩ := execute_chunks_ok hinsert
  have hsame : storedBody upserted = storedBody db := by
    funext other
    rw [storedBody, storedBody, hchunks]
  have hdeleted : deleted.contentIds = upserted.contentIds := by
    cases hdelete
    rfl
  refine ⟨hupserts, forall_recordRows_storable.mp hstorable, ?_, fun other hother => ?_, ?_,
    fun other hother => ?_⟩
  · rw [hstores.body, if_pos rfl, hbody, hsame]
  · rw [hstores.body, if_neg hother, List.append_nil, hbodies other hother, hsame]
  · rwa [hstores.contentIds, hdeleted]
  · rw [hstores.contentIds, hdeleted]
    exact hids other hother

theorem exists_execute_put (h : Upserts env db record contentId workspaceId)
    (hstorable : storable record.text = true) :
    ∃ next, execute (putStatements env db record contentId workspaceId) db = .ok next := by
  obtain ⟨upserted, hupsert⟩ := exists_of_isOk (upsertContent_isOk.mpr h)
  obtain ⟨deleted, hdelete⟩ : ∃ deleted, deleteFirstChunk contentId upserted = .ok deleted :=
    ⟨_, rfl⟩
  have hmem : contentId ∈ deleted.contentIds := by
    cases hdelete
    exact (upsertContent_ok hupsert).2.1
  have hindex : 0 ∉ (storedBody deleted contentId).map (·.1) := by
    rw [(storedBody_deleteFirstChunk hdelete).1]
    simp
  have hinsert : ∃ next, execute ((recordRows record.text).flatMap
      (chunkStatements contentId (some workspaceId) env.embedText
        (freshId (db.contentChunks.map (·.chunkId))))) deleted = .ok next := by
    unfold recordRows
    split
    · exact ⟨deleted, rfl⟩
    · rw [List.flatMap_singleton]
      exact exists_chunkStatements (some workspaceId) env.embedText _ hstorable hmem hindex
  obtain ⟨next, hnext⟩ := hinsert
  refine ⟨next, execute_cons_eq_ok.mpr ⟨db, rfl, execute_cons_eq_ok.mpr ⟨upserted, hupsert, ?_⟩⟩⟩
  exact execute_cons_eq_ok.mpr ⟨deleted, hdelete, hnext⟩

/-- The statements of a put, with the embedding of its chunk. -/
def putStatementCount (env : PutEnvironment M) (text : Text) : ℕ :=
  3 + if text = [] then 0 else if (env.embedText text).isSome then 2 else 1

theorem length_putStatements :
    (putStatements env db record contentId workspaceId).length =
      putStatementCount env record.text := by
  rw [putStatements, persistBodyChunks, List.length_cons, List.length_cons, List.length_cons,
    putStatementCount, recordRows]
  split
  · rfl
  · cases hembed : env.embedText record.text <;> simp [chunkStatements, hembed]

end Statements

/-! ## One put -/

/-- A put that the checks and the database let through, and whose transaction is spared. -/
structure Accepted (env : PutEnvironment M) (db : Database) (record : ContentPersistenceRecord M)
    (workspaceId contentId : Uuid) : Prop where
  ids : Postgres.validateIds record.workspaceId record.contentId = .ok ()
  workspace : Uuid.parse record.workspaceId = some workspaceId
  content : Uuid.parse record.contentId = some contentId
  upserts : Upserts env db record (contentIdOf contentId) workspaceId.bits.toNat
  storable_text : storable record.text = true
  spared : Spares env.fault (putStatementCount env record.text)

section Put

variable {env : PutEnvironment M} {db : Database} {supplied : SuppliedRecord M}

/-- An accepted put answers with the record. -/
theorem put_of_accepted {workspaceId contentId : Uuid}
    (h : Accepted env db (Postgres.normalizeContentRecord supplied) workspaceId contentId) :
    ∃ next, putContentRecord env db supplied =
        (next, .ok (Postgres.normalizeContentRecord supplied)) ∧
      Puts (contentIdOf contentId) (Postgres.normalizeContentRecord supplied).text db next := by
  obtain ⟨next, hnext⟩ := exists_execute_put h.upserts h.storable_text
  have hcommits : transact env.fault (putStatements env db
      (Postgres.normalizeContentRecord supplied) (contentIdOf contentId)
        workspaceId.bits.toNat) db = .ok next :=
    transact_eq_ok_iff.mpr ⟨by rw [length_putStatements]; exact h.spared, hnext⟩
  refine ⟨next, ?_, (execute_put_ok hnext).2.2⟩
  simp only [putContentRecord, h.ids, h.workspace, h.content, hcommits]

/-- A put that is not accepted changes nothing and answers with an error. -/
theorem put_of_not_accepted (h : ∀ workspaceId contentId,
    ¬ Accepted env db (Postgres.normalizeContentRecord supplied) workspaceId contentId) :
    ∃ error, putContentRecord env db supplied = (db, .error error) := by
  unfold putContentRecord
  dsimp only
  split
  · exact ⟨_, rfl⟩
  · rename_i hids
    split
    · rename_i workspaceId contentId hworkspace hcontent
      split
      · exact ⟨_, rfl⟩
      · rename_i next hcommits
        obtain ⟨hspares, hexecute⟩ := transact_eq_ok_iff.mp hcommits
        obtain ⟨hupserts, hstorable, -⟩ := execute_put_ok hexecute
        rw [length_putStatements] at hspares
        exact (h workspaceId contentId
          ⟨hids, hworkspace, hcontent, hupserts, hstorable, hspares⟩).elim
    · exact ⟨_, rfl⟩

end Put

/-! ## The body after a put -/

section Body

variable {sha256Hex : Text → Text} {db next : Database} {contentId : ContentId} {text : Text}

/-- The stored chunks are the text of the record, and a reader that verifies the body
returns that text. -/
structure BodyReplaced (sha256Hex : Text → Text) (db : Database) (contentId : ContentId)
    (text : Text) : Prop where
  chunks : storedBody db contentId = recordRows text
  canonical : ∀ workspaceId expectedVersion answered owner body hash,
    getCanonicalBody sha256Hex db contentId workspaceId expectedVersion =
      some (.answer answered owner body hash .hashVerified) → body = some text

/-- What is verified out of the chunk of a record is the record's text. -/
theorem candidate_of_recordRows {stored : Option Text}
    (h : (reconstructCanonicalBody sha256Hex ((recordRows text).map fun row => ⟨row.1, row.2⟩)
      stored).fidelity = .hashVerified) :
    (reconstructCanonicalBody sha256Hex ((recordRows text).map fun row => ⟨row.1, row.2⟩)
      stored).candidate = some text := by
  revert h
  cases stored with
  | none => simp [reconstructCanonicalBody]
  | some stored =>
      unfold recordRows
      split
      · rename_i hempty
        simp only [List.map_nil, reconstructCanonicalBody, if_true, hempty]
        split <;> simp
      · simp only [List.map_cons, List.map_nil, reconstructCanonicalBody, List.cons_ne_nil,
          if_false]
        split
        · simp
        · split <;> simp [stitch]

/-- The chunks decide: no answer can be wrong when they are those of the record. -/
theorem bodyReplaced_iff :
    BodyReplaced sha256Hex db contentId text ↔ storedBody db contentId = recordRows text := by
  refine ⟨BodyReplaced.chunks, fun hchunks => ⟨hchunks, ?_⟩⟩
  intro workspaceId expectedVersion answered owner body hash hanswer
  have hsorted : (recordRows text).Pairwise fun a b => a.1 ≤ b.1 := by
    unfold recordRows
    split
    · exact List.Pairwise.nil
    · exact List.pairwise_singleton _ _
  obtain ⟨item, -, hitem⟩ := Option.map_eq_some_iff.mp hanswer
  dsimp only at hitem
  split at hitem
  · cases hitem
  · simp only [CanonicalBodyAnswer.answer.injEq] at hitem
    obtain ⟨-, -, hbody, -, hfidelity⟩ := hitem
    rw [chunksOf_eq hchunks hsorted] at hbody hfidelity
    rw [if_pos hfidelity, candidate_of_recordRows hfidelity] at hbody
    exact hbody.symm

theorem Puts.chunks_iff (h : Puts contentId text db next) :
    storedBody next contentId = recordRows text ↔ ∀ row ∈ storedBody db contentId, row.1 = 0 := by
  rw [h.body, List.append_left_eq_self, List.filter_eq_nil_iff]
  simp

end Body

/-! ## Runs -/

/-- The database and the text that each content was last put with. -/
structure Writing where
  database : Database := {}
  recorded : ContentId → Option Text := fun _ => none

/-- A put that answers with its record is remembered. -/
def remember (recorded : ContentId → Option Text) :
    Except PersistenceError (ContentPersistenceRecord M) → ContentId → Option Text
  | .error _ => recorded
  | .ok record => fun contentId =>
    if (Uuid.parse record.contentId).map contentIdOf = some contentId then some record.text
    else recorded contentId

def writeStep (sha256Hex : Text → Text) (s : Writing) (operation : Operation M) : Writing :=
  { database := write sha256Hex s.database operation
    recorded := match operation with
      | .create _ _ => s.recorded
      | .put env record => remember s.recorded (putContentRecord env s.database record).2 }

/-- Every content that was put has the body of its last put. -/
def BodiesReplaced (sha256Hex : Text → Text) (s : Writing) : Prop :=
  ∀ contentId text, s.recorded contentId = some text →
    BodyReplaced sha256Hex s.database contentId text

/-- A put that is accepted addresses a content without any chunk after the first one. -/
def addressesOneChunk (s : Writing) : Operation M → Prop
  | .create _ _ => True
  | .put env record => ∀ workspaceId contentId,
    Accepted env s.database (Postgres.normalizeContentRecord record) workspaceId contentId →
      ∀ row ∈ storedBody s.database (contentIdOf contentId), row.1 = 0

/-- Only stored contents have been put. -/
def RecordsStored (s : Writing) : Prop :=
  ∀ contentId, (s.recorded contentId).isSome = true → contentId ∈ s.database.contentIds

/-- A save stores the body of its own new content. -/
theorem create_keeps (sha256Hex : Text → Text) (db : Database) (args : SaveArgs)
    (env : SaveEnvironment) {contentId : ContentId} (h : contentId ∈ db.contentIds) :
    contentId ∈ (createContentMinimal sha256Hex db args env).1.contentIds ∧
      storedBody (createContentMinimal sha256Hex db args env).1 contentId =
        storedBody db contentId := by
  by_cases hinserts : Inserts sha256Hex db args env
  · have hsaved := savedRow_of_inserts hinserts
    have hne : contentId ≠ freshId db.contentIds := fun heq => freshId_notMem _ (heq ▸ h)
    refine ⟨?_, hsaved.bodies contentId hne⟩
    rw [contentIds_keys] at h ⊢
    rw [hsaved.keys, List.map_append]
    exact List.mem_append_left _ h
  · rw [(create_of_not_inserts hinserts).1]
    exact ⟨h, rfl⟩

section Step

variable {sha256Hex : Text → Text} {s : Writing}

theorem recorded_put {env : PutEnvironment M} {record : SuppliedRecord M}
    {workspaceId contentId : Uuid} (haccepted : Accepted env s.database
      (Postgres.normalizeContentRecord record) workspaceId contentId) (other : ContentId) :
    (writeStep sha256Hex s (.put env record)).recorded other =
      if other = contentIdOf contentId then some (Postgres.normalizeContentRecord record).text
      else s.recorded other := by
  obtain ⟨next, hput, -⟩ := put_of_accepted haccepted
  simp only [writeStep, hput, remember, haccepted.content, Option.map_some, Option.some.injEq,
    eq_comm]

theorem writeStep_of_not_accepted {env : PutEnvironment M} {record : SuppliedRecord M}
    (h : ∀ workspaceId contentId, ¬ Accepted env s.database
      (Postgres.normalizeContentRecord record) workspaceId contentId) :
    writeStep sha256Hex s (.put env record) = s := by
  obtain ⟨error, hput⟩ := put_of_not_accepted h
  simp only [writeStep, write, hput, remember]

theorem writeStep_recordsStored (h : RecordsStored s) (operation : Operation M) :
    RecordsStored (writeStep sha256Hex s operation) := by
  cases operation with
  | create args env =>
      intro contentId hrecorded
      exact (create_keeps sha256Hex s.database args env (h contentId hrecorded)).1
  | put env record =>
      by_cases haccepted : ∃ workspaceId contentId, Accepted env s.database
          (Postgres.normalizeContentRecord record) workspaceId contentId
      · obtain ⟨workspaceId, contentId, haccepted⟩ := haccepted
        obtain ⟨next, hput, hputs⟩ := put_of_accepted haccepted
        have hnext : (writeStep sha256Hex s (.put env record)).database = next := by
          rw [writeStep, write, hput]
        intro other hrecorded
        rw [recorded_put haccepted] at hrecorded
        rw [hnext]
        split at hrecorded
        · rename_i heq
          rw [heq]
          exact hputs.stored
        · exact hputs.contentIds other (h other hrecorded)
      · simp only [not_exists] at haccepted
        rwa [writeStep_of_not_accepted haccepted]

/-- A step keeps the bodies replaced exactly when it puts no record over further chunks. -/
theorem writeStep_bodiesReplaced_iff (hstored : RecordsStored s)
    (hreplaced : BodiesReplaced sha256Hex s) (operation : Operation M) :
    BodiesReplaced sha256Hex (writeStep sha256Hex s operation) ↔
      addressesOneChunk s operation := by
  cases operation with
  | create args env =>
      refine iff_of_true (fun contentId text hrecorded => bodyReplaced_iff.mpr ?_) trivial
      have hold : s.recorded contentId = some text := hrecorded
      have hmem := hstored contentId (by rw [hold]; rfl)
      have hkeeps := (create_keeps sha256Hex s.database args env hmem).2
      exact hkeeps.trans (hreplaced contentId text hrecorded).chunks
  | put env record =>
      by_cases haccepted : ∃ workspaceId contentId, Accepted env s.database
          (Postgres.normalizeContentRecord record) workspaceId contentId
      · obtain ⟨workspaceId, contentId, haccepted⟩ := haccepted
        obtain ⟨next, hput, hputs⟩ := put_of_accepted haccepted
        have hnext : (writeStep sha256Hex s (.put env record)).database = next := by
          rw [writeStep, write, hput]
        constructor
        · intro hafter otherWorkspace otherContent hother
          obtain rfl : contentId = otherContent :=
            Option.some.inj (haccepted.content.symm.trans hother.content)
          have hbody := hafter (contentIdOf contentId) _
            (by rw [recorded_put haccepted, if_pos rfl])
          rw [hnext, bodyReplaced_iff] at hbody
          exact hputs.chunks_iff.mp hbody
        · intro hone other text hrecorded
          rw [recorded_put haccepted] at hrecorded
          rw [hnext, bodyReplaced_iff]
          split at hrecorded
          · rename_i heq
            rw [heq, ← Option.some.inj hrecorded]
            exact hputs.chunks_iff.mpr (hone workspaceId contentId haccepted)
          · rename_i hne
            rw [hputs.bodies other hne]
            exact (hreplaced other text hrecorded).chunks
      · simp only [not_exists] at haccepted
        rw [writeStep_of_not_accepted haccepted]
        exact iff_of_true hreplaced fun workspaceId contentId h =>
          (haccepted workspaceId contentId h).elim

end Step

/-- Along every run of both writers, the contents that were put have the body of their last put
in every state exactly when no accepted put addresses a content with a chunk after the first. -/
theorem bodies_replaced_iff (sha256Hex : Text → Text) (operations : List (Operation M)) :
    Always (writeStep sha256Hex) (BodiesReplaced sha256Hex) {} operations ↔
      Guarded (writeStep sha256Hex) addressesOneChunk {} operations := by
  have hstored : RecordsStored {} := by
    intro contentId hrecorded
    cases hrecorded
  have hreplaced : BodiesReplaced sha256Hex {} := by
    intro contentId text hrecorded
    cases hrecorded
  exact always_iff_guarded hstored hreplaced
    (fun s operation h => writeStep_recordsStored h operation)
    (fun s operation hs hr => writeStep_bodiesReplaced_iff hs hr operation) operations

/-! ## A put over a longer body -/

/-- The first chunk of the long note. -/
def excerpt : Text := List.replicate 900 'a'

example : excerpt <+: longNote := by decide +kernel

def excerptRecord : SuppliedRecord Unit :=
  .record { contentId := "00000000-0000-0000-0000-000000000001".toList,
            workspaceId := "00000000-0000-0000-0000-000000000001".toList,
            text := excerpt, title := none, metadata := (), governanceStateId := none }

def saveThenPut : List (Operation Unit) :=
  [.create (noteArgs longNote) noteEnvironment, .put { jsonb := some } excerptRecord]

/-- The record is answered, and the reader still verifies the long note. -/
theorem not_bodiesReplaced_excerpt :
    ((run (writeStep id) {} saveThenPut).recorded 1 == some excerpt &&
      getCanonicalBody id (run (writeStep id) {} saveThenPut).database 1 none none ==
        some (.answer 1 (some 1) (some longNote) (some longNote) .hashVerified)) = true := by
  decide +kernel

theorem not_bodies_replaced :
    ¬ ∀ (sha256Hex : Text → Text) (operations : List (Operation Unit)),
      Always (writeStep sha256Hex) (BodiesReplaced sha256Hex) {} operations := by
  intro h
  have hreplaced : BodiesReplaced id (run (writeStep id) {} saveThenPut) := (h id saveThenPut).last
  have hverified := not_bodiesReplaced_excerpt
  rw [Bool.and_eq_true, beq_iff_eq, beq_iff_eq] at hverified
  have hbody := (hreplaced 1 excerpt hverified.1).canonical _ _ _ _ _ _ hverified.2
  have hlength := congrArg (Option.map List.length) hbody
  rw [Option.map_some, Option.map_some, longNote, excerpt, List.length_replicate,
    List.length_replicate] at hlength
  cases hlength

end MemoryLab.BodyWriters

import MemoryLab.Verification.Chunking.Trace
import MemoryLab.Verification.Save.Frame

/-! # How the body of a row is stored -/

namespace MemoryLab.Adapter

open Library Library.Rows Library.Transaction

/-- The stored chunks of a content, as they were inserted. -/
def storedBody (db : Database) (contentId : ContentId) : List (ℕ × Text) :=
  (db.contentChunks.filter (ofContent contentId)).map fun chunk =>
    (chunk.chunkIndex, chunk.chunkText)

/-- Nothing changes but the chunks of one content, which gain rows. -/
structure Stores (contentId : ContentId) (rows : List (ℕ × Text)) (db next : Database) :
    Prop where
  others : next = { db with contentChunks := next.contentChunks }
  body : ∀ other, storedBody next other =
    storedBody db other ++ if other = contentId then rows else []

theorem KeepsBodies.storedBody {db next : Database} (h : KeepsBodies db next) :
    storedBody next = storedBody db := by
  funext contentId
  rw [Adapter.storedBody, Adapter.storedBody, h.chunks]

theorem Stores.refl (contentId : ContentId) (db : Database) : Stores contentId [] db db :=
  ⟨rfl, by simp⟩

theorem Stores.trans {contentId : ContentId} {rows others : List (ℕ × Text)}
    {first second third : Database} (h : Stores contentId rows first second)
    (h' : Stores contentId others second third) :
    Stores contentId (rows ++ others) first third := by
  refine ⟨?_, fun other => ?_⟩
  · rw [h'.others, h.others]
  · rw [h'.body, h.body, List.append_assoc]
    split <;> simp

theorem Stores.contentItems {contentId : ContentId} {rows : List (ℕ × Text)}
    {db next : Database} (h : Stores contentId rows db next) :
    next.contentItems = db.contentItems := by
  rw [h.others]

theorem Stores.contentIds {contentId : ContentId} {rows : List (ℕ × Text)}
    {db next : Database} (h : Stores contentId rows db next) :
    next.contentIds = db.contentIds := by
  rw [Database.contentIds, h.contentItems, Database.contentIds]

/-! ## One chunk -/

theorem mem_storedBody_index {db : Database} {contentId : ContentId} {index : ℕ} :
    index ∈ (storedBody db contentId).map (·.1) ↔
      ∃ chunk ∈ db.contentChunks, ofContent contentId chunk = true ∧
        chunk.chunkIndex = index := by
  simp [storedBody, List.mem_filter, and_assoc]

theorem insertChunk_eq_ok {row : ContentChunkRow} {db next : Database} :
    insertChunk row db = .ok next ↔
      storable row.chunkText = true ∧ row.contentId ∈ db.contentIds ∧
        row.chunkIndex ∉ (storedBody db row.contentId).map (·.1) ∧
        next = { db with contentChunks := db.contentChunks ++ [row] } := by
  have hindex : (db.contentChunks.any fun chunk =>
      ofContent row.contentId chunk && chunk.chunkIndex == row.chunkIndex) = true ↔
      row.chunkIndex ∈ (storedBody db row.contentId).map (·.1) := by
    rw [mem_storedBody_index]
    simp
  unfold insertChunk
  split
  · rename_i hstorable
    simp_all
  · rename_i hstorable
    split
    · rename_i hmissing
      simp [hmissing]
    · rename_i hmem
      split
      · rename_i htaken
        simp [hindex.mp htaken]
      · rename_i hfree
        constructor
        · intro h
          cases h
          exact ⟨by simpa using hstorable, not_not.mp hmem, fun htaken =>
            hfree (hindex.mpr htaken), rfl⟩
        · rintro ⟨-, -, -, rfl⟩
          rfl

theorem stores_insertChunk (row : ContentChunkRow) (db : Database) :
    Stores row.contentId [(row.chunkIndex, row.chunkText)] db
      { db with contentChunks := db.contentChunks ++ [row] } := by
  refine ⟨rfl, fun other => ?_⟩
  by_cases hother : other = row.contentId
  · simp [storedBody, List.filter_append, ofContent, hother]
  · have hne : row.contentId ≠ other := fun heq => hother heq.symm
    simp [storedBody, List.filter_append, ofContent, hother, hne]

/-- An embedding is a column that the body does not have. -/
theorem stores_storeEmbedding (contentId : ContentId) {chunkId : ChunkId} {vector : List ℚ}
    {db next : Database} (h : storeEmbedding chunkId vector db = .ok next) :
    Stores contentId [] db next := by
  cases h
  refine ⟨rfl, fun other => ?_⟩
  let embed (chunk : ContentChunkRow) : ContentChunkRow :=
    if chunk.chunkId == chunkId then { chunk with embedding := some vector } else chunk
  have hcontent : ofContent other ∘ embed = ofContent other := by
    funext chunk
    simp only [Function.comp_apply, embed]
    split <;> rfl
  have hcolumns : (fun chunk : ContentChunkRow => (chunk.chunkIndex, chunk.chunkText)) ∘ embed =
      fun chunk => (chunk.chunkIndex, chunk.chunkText) := by
    funext chunk
    simp only [Function.comp_apply, embed]
    split <;> rfl
  calc (((db.contentChunks.map embed).filter (ofContent other)).map fun chunk =>
        (chunk.chunkIndex, chunk.chunkText))
      = storedBody db other := by
        rw [List.filter_map, List.map_map, hcontent, hcolumns, storedBody]
    _ = storedBody db other ++ if other = contentId then [] else [] := by simp

section Chunks

variable {contentId : ContentId} {workspaceId : Option WorkspaceId}
  {embedText : Text → Option (List ℚ)} {firstId : ChunkId}

theorem chunkStatements_ok {chunk : ℕ × Text} {db next : Database}
    (h : execute (chunkStatements contentId workspaceId embedText firstId chunk) db =
      .ok next) :
    storable chunk.2 = true ∧ Stores contentId [chunk] db next := by
  obtain ⟨inserted, hinsert, hembed⟩ := execute_cons_eq_ok.mp h
  obtain ⟨hstorable, -, -, rfl⟩ := insertChunk_eq_ok.mp hinsert
  refine ⟨hstorable, ?_⟩
  have hinserted : Stores contentId [chunk] db _ :=
    stores_insertChunk (chunkRow contentId workspaceId firstId chunk) db
  split at hembed
  · obtain ⟨embedded, hembedded, hnil⟩ := execute_cons_eq_ok.mp hembed
    cases hnil
    exact hinserted.trans (stores_storeEmbedding contentId hembedded)
  · cases hembed
    exact hinserted

theorem exists_chunkStatements (workspaceId : Option WorkspaceId)
    (embedText : Text → Option (List ℚ)) (firstId : ℕ) {chunk : ℕ × Text} {db : Database}
    (hstorable : storable chunk.2 = true) (hmem : contentId ∈ db.contentIds)
    (hindex : chunk.1 ∉ (storedBody db contentId).map (·.1)) :
    ∃ next, execute (chunkStatements contentId workspaceId embedText firstId chunk) db =
      .ok next := by
  unfold chunkStatements
  simp only [execute_cons_eq_ok, insertChunk_eq_ok]
  cases embedText chunk.2 with
  | none => exact ⟨_, _, ⟨hstorable, hmem, hindex, rfl⟩, rfl⟩
  | some vector => exact ⟨_, _, ⟨hstorable, hmem, hindex, rfl⟩, rfl⟩

/-! ## All chunks -/

theorem execute_chunks_ok {rows : List (ℕ × Text)} {db next : Database}
    (h : execute (rows.flatMap (chunkStatements contentId workspaceId embedText firstId)) db =
      .ok next) :
    (∀ row ∈ rows, storable row.2 = true) ∧ Stores contentId rows db next := by
  induction rows generalizing db with
  | nil =>
      cases h
      exact ⟨by simp, Stores.refl contentId _⟩
  | cons row rows ih =>
      rw [List.flatMap_cons] at h
      obtain ⟨middle, hfirst, hrest⟩ := execute_append_eq_ok.mp h
      obtain ⟨hstorable, hstores⟩ := chunkStatements_ok hfirst
      obtain ⟨hstorables, hstores'⟩ := ih hrest
      exact ⟨List.forall_mem_cons.mpr ⟨hstorable, hstorables⟩, hstores.trans hstores'⟩

theorem exists_execute_chunks (workspaceId : Option WorkspaceId)
    (embedText : Text → Option (List ℚ)) (firstId : ℕ) (db : Database) {rows : List (ℕ × Text)}
    (hstorable : ∀ row ∈ rows, storable row.2 = true) (hmem : contentId ∈ db.contentIds)
    (hnodup : ((storedBody db contentId ++ rows).map (·.1)).Nodup) :
    ∃ next, execute (rows.flatMap
      (chunkStatements contentId workspaceId embedText firstId)) db = .ok next := by
  induction rows generalizing db with
  | nil => exact ⟨_, rfl⟩
  | cons row rows ih =>
      have hindex : row.1 ∉ (storedBody db contentId).map (·.1) := by
        rw [List.map_append, List.nodup_append] at hnodup
        intro hrow
        exact hnodup.2.2 row.1 hrow row.1 (by simp) rfl
      obtain ⟨middle, hmiddle⟩ := exists_chunkStatements workspaceId embedText firstId
        (hstorable row List.mem_cons_self) hmem hindex
      have hstores := (chunkStatements_ok hmiddle).2
      obtain ⟨next, hnext⟩ := ih middle
        (fun other hother => hstorable other (List.mem_cons_of_mem _ hother))
        (by rwa [hstores.contentIds]) (by simpa [hstores.body] using hnodup)
      refine ⟨next, ?_⟩
      rw [List.flatMap_cons]
      exact execute_append_eq_ok.mpr ⟨middle, hmiddle, hnext⟩

end Chunks

/-! ## The transaction -/

theorem bodyRows_indices_nodup (content : Text) : ((bodyRows content).map (·.1)).Nodup := by
  have hchunks : ((bodyChunks content).map (·.1)).Nodup := by
    unfold bodyChunks
    dsimp only
    split
    · simp
    · rw [List.map_map]
      exact (Chunking.chunkContent_indices _ _).symm ▸ List.nodup_range
  exact hchunks.sublist (List.filter_sublist.map _)

/-- The old chunks of the content are gone, and everything else is as before. -/
structure Replaces (contentId : ContentId) (rows : List (ℕ × Text)) (db next : Database) :
    Prop where
  others : next = { db with contentChunks := next.contentChunks }
  body : storedBody next contentId = rows
  bodies : ∀ other, other ≠ contentId → storedBody next other = storedBody db other

theorem replaces_deleteChunks (contentId : ContentId) (db : Database) :
    Replaces contentId [] db { db with
      contentChunks := db.contentChunks.filter fun chunk => !ofContent contentId chunk } := by
  refine ⟨rfl, ?_, fun other hother => ?_⟩
  · simp [storedBody, List.filter_filter]
  · rw [storedBody, storedBody, List.filter_filter]
    congr 1
    refine List.filter_congr fun chunk _ => ?_
    by_cases hchunk : chunk.contentId = other <;> simp [ofContent, hchunk, hother]

theorem bodyStatements_ok {db next : Database} {args : SaveArgs} {env : SaveEnvironment}
    {contentId : ContentId}
    (h : execute (bodyStatements db args env contentId) db = .ok next) :
    (∀ row ∈ bodyRows args.body, storable row.2 = true) ∧
      Replaces contentId (bodyRows args.body) db next := by
  obtain ⟨deleted, hdelete, hinsert⟩ := execute_cons_eq_ok.mp h
  cases hdelete
  obtain ⟨hstorable, hstores⟩ := execute_chunks_ok hinsert
  have hreplaces := replaces_deleteChunks contentId db
  refine ⟨hstorable, ?_, ?_, fun other hother => ?_⟩
  · exact hstores.others
  · simpa [hreplaces.body] using hstores.body contentId
  · simpa [hother, hreplaces.bodies other hother] using hstores.body other

theorem exists_bodyStatements {db : Database} {args : SaveArgs} (env : SaveEnvironment)
    {contentId : ContentId} (hstorable : ∀ row ∈ bodyRows args.body, storable row.2 = true)
    (hmem : contentId ∈ db.contentIds) :
    ∃ next, execute (bodyStatements db args env contentId) db = .ok next := by
  have hreplaces := replaces_deleteChunks contentId db
  obtain ⟨next, hnext⟩ := exists_execute_chunks args.workspaceId env.embedText
    (freshId (db.contentChunks.map (·.chunkId)))
    { db with contentChunks := db.contentChunks.filter fun chunk => !ofContent contentId chunk }
    hstorable hmem (by simpa [hreplaces.body] using bodyRows_indices_nodup args.body)
  exact ⟨next, execute_cons_eq_ok.mpr ⟨_, rfl, hnext⟩⟩

end MemoryLab.Adapter

import MemoryLab.Verification.Embedding.Equations

/-! # When embeddings are best-effort

A vector that the column does not take fails a statement of a transaction that holds other
chunks. Nothing else that a provider does can lose a text or another chunk's embedding. -/

namespace MemoryLab.ChunkEmbedding

open Library Library.Rows

/-! ## The chunks of a save -/

/-- What a save has to keep of its chunks. -/
def rowTexts (store : ChunkStore) : List (ContentId × ℕ × Text) :=
  store.chunks.map fun row => (row.contentId, row.chunkIndex, row.chunkText)

/-- The chunks that a save writes. -/
def kept (chunks : List (ℕ × Text)) : List (ℕ × Text) :=
  chunks.filter fun chunk => decide (chunk.2 ≠ [])

/-- The `INSERT` of a chunk is accepted. -/
structure Fits (store : ChunkStore) (contentId : ContentId) (chunk : ℕ × Text) : Prop where
  storable : storable chunk.2 = true
  content : contentId ∈ store.contentIds
  free : ∀ text, (contentId, chunk.1, text) ∉ rowTexts store

section Writes

variable {env : Environment} {vectorEnabled : Bool} {store : ChunkStore}
  {contentId : ContentId} {workspaceId : Option WorkspaceId} {firstId : ChunkId}

@[simp] theorem rowTexts_embed (env : Environment) (store : ChunkStore) (chunkId : ChunkId)
    (text : Text) : rowTexts (store.embed env chunkId text) = rowTexts store := by
  unfold ChunkStore.embed
  split
  · exact map_updateWhere _ (f := setEmbedding _) (fun _ => rfl) store.chunks
  · rfl

@[simp] theorem contentIds_embed (env : Environment) (store : ChunkStore) (chunkId : ChunkId)
    (text : Text) : (store.embed env chunkId text).contentIds = store.contentIds := by
  unfold ChunkStore.embed
  split <;> rfl

theorem rowTexts_insert (store : ChunkStore) (row : EmbeddedChunk) :
    rowTexts { store with chunks := store.chunks ++ [row] } =
      rowTexts store ++ [(row.contentId, row.chunkIndex, row.chunkText)] := by
  simp [rowTexts]

theorem insertChunk_eq_ok_iff {row : EmbeddedChunk} {next : ChunkStore} :
    insertChunk store row = .ok next ↔
      Fits store row.contentId (row.chunkIndex, row.chunkText) ∧
        next = { store with chunks := store.chunks ++ [row] } := by
  have hfree : (store.chunks.any fun chunk => chunk.contentId == row.contentId &&
      chunk.chunkIndex == row.chunkIndex) = false ↔
        ∀ text, (row.contentId, row.chunkIndex, text) ∉ rowTexts store := by
    simp only [rowTexts, List.any_eq_false, Bool.and_eq_true, beq_iff_eq, List.mem_map,
      Prod.mk.injEq, not_exists, not_and]
    constructor
    · intro h text chunk hchunk hid hindex
      exact absurd hindex (h chunk hchunk hid)
    · intro h chunk hchunk hid hindex
      exact h chunk.chunkText chunk hchunk hid hindex rfl
  unfold insertChunk
  constructor
  · intro h
    split at h
    · cases h
    · rename_i hstorable
      split at h
      · cases h
      · rename_i hcontent
        split at h
        · cases h
        · rename_i htaken
          cases h
          exact ⟨⟨by simpa using hstorable, not_not.mp hcontent,
            hfree.mp (by simpa using htaken)⟩, rfl⟩
  · rintro ⟨hfits, rfl⟩
    rw [if_neg (by simp [hfits.storable]), if_neg (not_not.mpr hfits.content),
      if_neg (by rw [hfree.mpr hfits.free]; exact Bool.false_ne_true)]

theorem insertChunk_of_fits (row : EmbeddedChunk)
    (h : Fits store row.contentId (row.chunkIndex, row.chunkText)) :
    insertChunk store row = .ok { store with chunks := store.chunks ++ [row] } :=
  insertChunk_eq_ok_iff.mpr ⟨h, rfl⟩

/-- A chunk is written when its row fits and its vector is not rejected. -/
theorem writeChunk_ok (workspaceId : Option WorkspaceId) {chunk : ℕ × Text} (htext : chunk.2 ≠ [])
    (hfits : Fits store contentId chunk)
    (hvector : vectorEnabled = true → ¬ Rejected env (firstId + chunk.1) chunk.2)
    (result : MultiChunkWriteResult) :
    ∃ next, writeChunk env vectorEnabled contentId workspaceId firstId (store, result) chunk =
        .ok next ∧ rowTexts next.1 = rowTexts store ++ [(contentId, chunk.1, chunk.2)] ∧
      next.1.contentIds = store.contentIds := by
  unfold writeChunk
  rw [if_neg htext]
  have hinsert := insertChunk_of_fits (newRow contentId workspaceId firstId chunk) hfits
  have hrows := rowTexts_insert store (newRow contentId workspaceId firstId chunk)
  generalize hinserted : { store with
    chunks := store.chunks ++ [newRow contentId workspaceId firstId chunk] } = inserted
    at hinsert hrows
  have hids : inserted.contentIds = store.contentIds := by rw [← hinserted]
  simp only [hinsert, bind, Except.bind, pure, Except.pure]
  by_cases hasks : (vectorEnabled && env.backend.isSome) = true
  · obtain rfl := (Bool.and_eq_true_iff.mp hasks).1
    obtain ⟨warning, hstore⟩ := maybeStore_of_not_rejected inserted (hvector rfl)
    have hstored : maybeStoreChunkEmbedding env true
        (newRow contentId workspaceId firstId chunk).chunkId chunk.2 inserted =
          .ok (inserted.embed env (firstId + chunk.1) chunk.2, warning) := hstore
    rw [if_pos hasks, hstored]
    refine ⟨_, rfl, ?_, ?_⟩
    · rw [rowTexts_embed, hrows]
      rfl
    · rw [contentIds_embed, hids]
  · rw [if_neg hasks]
    exact ⟨_, rfl, hrows, hids⟩

theorem of_writeChunk_ok {chunk : ℕ × Text} (htext : chunk.2 ≠ [])
    {written next : ChunkStore × MultiChunkWriteResult}
    (h : writeChunk env vectorEnabled contentId workspaceId firstId written chunk = .ok next) :
    Fits written.1 contentId chunk ∧
      (vectorEnabled = true → ¬ Rejected env (firstId + chunk.1) chunk.2) := by
  unfold writeChunk at h
  rw [if_neg htext] at h
  obtain ⟨inserted, hinserted, h⟩ := Transaction.bind_eq_ok.mp h
  refine ⟨(insertChunk_eq_ok_iff.mp hinserted).1, fun henabled hrejected => ?_⟩
  have hbackend : env.backend.isSome = true := by
    obtain ⟨vector, hvector, -⟩ := hrejected
    exact Option.isSome_of_mem (Option.bind_eq_some_iff.mp hvector).choose_spec.1
  have hraises : maybeStoreChunkEmbedding env true
      (newRow contentId workspaceId firstId chunk).chunkId chunk.2 inserted =
        .error .invalidText := maybeStore_of_rejected hrejected
  rw [henabled, hbackend, Bool.and_true, if_pos rfl, hraises] at h
  cases h

/-- The loop raises nothing when all rows fit and no vector is rejected. -/
theorem writeChunks_ok (workspaceId : Option WorkspaceId) {chunks : List (ℕ × Text)}
    (hfits : ∀ chunk ∈ kept chunks, Fits store contentId chunk)
    (hindices : ((kept chunks).map (·.1)).Nodup)
    (hvectors : vectorEnabled = true →
      ∀ chunk ∈ kept chunks, ¬ Rejected env (firstId + chunk.1) chunk.2)
    (result : MultiChunkWriteResult) :
    ∃ next, chunks.foldlM (writeChunk env vectorEnabled contentId workspaceId firstId)
        (store, result) = .ok next ∧
      rowTexts next.1 =
        rowTexts store ++ (kept chunks).map fun chunk => (contentId, chunk.1, chunk.2) := by
  induction chunks generalizing store result with
  | nil => exact ⟨_, rfl, (List.append_nil _).symm⟩
  | cons chunk chunks ih =>
      by_cases htext : chunk.2 = []
      · have hkept : kept (chunk :: chunks) = kept chunks := by simp [kept, htext]
        rw [hkept] at hfits hindices hvectors ⊢
        rw [List.foldlM_cons, writeChunk, if_pos htext]
        exact ih hfits hindices hvectors result
      · have hkept : kept (chunk :: chunks) = chunk :: kept chunks := by simp [kept, htext]
        rw [hkept] at hfits hindices hvectors ⊢
        rw [List.map_cons, List.nodup_cons] at hindices
        obtain ⟨written, hwritten, hrows, hids⟩ := writeChunk_ok workspaceId htext
          (hfits chunk List.mem_cons_self)
          (fun henabled => hvectors henabled chunk List.mem_cons_self) result
        rw [List.foldlM_cons, hwritten]
        have hrest : ∀ other ∈ kept chunks, Fits written.1 contentId other := by
          intro other hother
          have hold := hfits other (List.mem_cons_of_mem chunk hother)
          refine ⟨hold.storable, hids ▸ hold.content, fun text hmem => ?_⟩
          rw [hrows, List.mem_append, List.mem_singleton, Prod.mk.injEq, Prod.mk.injEq] at hmem
          rcases hmem with hmem | ⟨-, hindex, -⟩
          · exact hold.free text hmem
          · exact hindices.1 (hindex ▸ List.mem_map_of_mem hother)
        obtain ⟨next, hnext, hfinal⟩ := ih hrest hindices.2
          (fun henabled other hother => hvectors henabled other (List.mem_cons_of_mem chunk hother))
          written.2
        refine ⟨next, hnext, ?_⟩
        rw [hfinal, hrows, List.map_cons, List.append_assoc]
        rfl

theorem of_writeChunks_ok {chunks : List (ℕ × Text)}
    {written next : ChunkStore × MultiChunkWriteResult}
    (h : chunks.foldlM (writeChunk env vectorEnabled contentId workspaceId firstId) written =
      .ok next) :
    (∀ chunk ∈ kept chunks, Fits written.1 contentId chunk) ∧
      ((kept chunks).map (·.1)).Nodup ∧
      (vectorEnabled = true →
        ∀ chunk ∈ kept chunks, ¬ Rejected env (firstId + chunk.1) chunk.2) := by
  induction chunks generalizing written with
  | nil => simp [kept]
  | cons chunk chunks ih =>
      rw [List.foldlM_cons] at h
      obtain ⟨middle, hmiddle, hrest⟩ := Transaction.bind_eq_ok.mp h
      obtain ⟨hfits, hindices, hvectors⟩ := ih hrest
      by_cases htext : chunk.2 = []
      · have hkept : kept (chunk :: chunks) = kept chunks := by simp [kept, htext]
        rw [writeChunk, if_pos htext] at hmiddle
        cases hmiddle
        rw [hkept]
        exact ⟨hfits, hindices, hvectors⟩
      · have hkept : kept (chunk :: chunks) = chunk :: kept chunks := by simp [kept, htext]
        obtain ⟨hfirst, hvector⟩ := of_writeChunk_ok htext hmiddle
        obtain ⟨after, hafter, hrows, hids⟩ := writeChunk_ok workspaceId htext
          hfirst hvector written.2
        rw [hmiddle] at hafter
        cases hafter
        rw [hkept, List.map_cons, List.nodup_cons, List.forall_mem_cons]
        refine ⟨⟨hfirst, fun other hother => ?_⟩, ⟨?_, hindices⟩, fun henabled => ?_⟩
        · have hlater := hfits other hother
          refine ⟨hlater.storable, hids ▸ hlater.content, fun text hmem => ?_⟩
          exact hlater.free text (hrows ▸ List.mem_append_left _ hmem)
        · intro hmem
          obtain ⟨other, hother, hindex⟩ := List.mem_map.mp hmem
          refine (hfits other hother).free chunk.2 ?_
          rw [hrows, hindex]
          exact List.mem_append_right _ (List.mem_singleton_self _)
        · exact List.forall_mem_cons.mpr ⟨hvector henabled, hvectors henabled⟩

end Writes

/-- A save raises nothing, and commits the text of every chunk that is not empty. -/
structure SavesTexts (env : Environment) (vectorEnabled : Bool) (store : ChunkStore)
    (contentId : ContentId) (workspaceId : Option WorkspaceId) (chunks : List (ℕ × Text)) :
    Prop where
  raises : (persistMultiChunks env vectorEnabled store contentId workspaceId chunks).isOk = true
  texts : ∀ chunk ∈ kept chunks, (contentId, chunk.1, chunk.2) ∈ rowTexts (committed store
    (persistMultiChunks env vectorEnabled store contentId workspaceId chunks))

/-- The chunks of a content that can be saved: the content exists, no two chunks share an index
and every text can be stored. -/
structure Savable (store : ChunkStore) (contentId : ContentId) (chunks : List (ℕ × Text)) :
    Prop where
  indices : ((kept chunks).map (·.1)).Nodup
  texts : ∀ chunk ∈ kept chunks, storable chunk.2 = true
  content : ∀ chunk ∈ kept chunks, contentId ∈ store.contentIds

/-- The identifier that the row of a chunk gets. -/
def ChunkStore.idOf (store : ChunkStore) (index : ℕ) : ChunkId := freshId store.chunkIds + index

theorem notMem_deleteChunks (store : ChunkStore) (contentId : ContentId) (index : ℕ)
    (text : Text) : (contentId, index, text) ∉ rowTexts (store.deleteChunks contentId) := by
  intro hmem
  obtain ⟨row, hrow, heq⟩ := List.mem_map.mp hmem
  have hother := (List.mem_filter.mp hrow).2
  rw [bne_iff_ne] at hother
  exact hother (Prod.mk.inj heq).1

theorem savesTexts_iff (env : Environment) (vectorEnabled : Bool) (store : ChunkStore)
    (contentId : ContentId) (workspaceId : Option WorkspaceId) (chunks : List (ℕ × Text)) :
    SavesTexts env vectorEnabled store contentId workspaceId chunks ↔
      Savable store contentId chunks ∧ (vectorEnabled = true →
        ∀ chunk ∈ kept chunks, ¬ Rejected env (store.idOf chunk.1) chunk.2) := by
  constructor
  · rintro ⟨hraises, -⟩
    obtain ⟨out, hout⟩ := Transaction.exists_of_isOk hraises
    obtain ⟨written, hwritten, -⟩ := Transaction.bind_eq_ok.mp hout
    obtain ⟨hfits, hindices, hvectors⟩ := of_writeChunks_ok hwritten
    exact ⟨⟨hindices, fun chunk hchunk => (hfits chunk hchunk).storable,
      fun chunk hchunk => (hfits chunk hchunk).content⟩, hvectors⟩
  · rintro ⟨hsavable, hvectors⟩
    have hfits : ∀ chunk ∈ kept chunks, Fits (store.deleteChunks contentId) contentId chunk :=
      fun chunk hchunk => ⟨hsavable.texts chunk hchunk, hsavable.content chunk hchunk,
        fun text => notMem_deleteChunks store contentId chunk.1 text⟩
    obtain ⟨written, hwritten, hrows⟩ := writeChunks_ok workspaceId hfits
      hsavable.indices hvectors {}
    have hpersist : persistMultiChunks env vectorEnabled store contentId workspaceId chunks =
        .ok (written.1, { written.2 with
          chunksWritten := (chunks.filter fun chunk => decide (chunk.2 ≠ [])).length }) := by
      exact Transaction.bind_eq_ok.mpr ⟨written, hwritten, rfl⟩
    refine ⟨by rw [hpersist]; rfl, fun chunk hchunk => ?_⟩
    rw [hpersist]
    refine (congrArg ((contentId, chunk.1, chunk.2) ∈ ·) hrows).mpr ?_
    exact List.mem_append_right _ (List.mem_map_of_mem hchunk)

/-! ## The backfill -/

/-- Every chunk that has no embedding, in the order of the selection. -/
def eligibleRows (store : ChunkStore) (workspaceId : Option WorkspaceId) : List EmbeddedChunk :=
  sortOn chunkOrder (store.chunks.filter (isEligible workspaceId))

section Backfill

variable {env : Environment} {store : ChunkStore}

theorem processBatch_ok {batch : List EmbeddedChunk}
    (hholds : ∀ row ∈ batch, store.Holds row.chunkId row.chunkText)
    (hvectors : ∀ row ∈ batch, ¬ Rejected env row.chunkId row.chunkText)
    (stats : BackfillStats) :
    ∃ next, processBatch env store stats batch =
      .ok (embedAll env store (batch.map (·.chunkId)), next) := by
  induction batch generalizing store stats with
  | nil => exact ⟨stats, by rw [List.map_nil, embedAll_nil]; rfl⟩
  | cons row batch ih =>
      obtain ⟨warning, hstore⟩ :=
        maybeStore_of_not_rejected store (hvectors row List.mem_cons_self)
      rw [embed_eq env (hholds row List.mem_cons_self)] at hstore
      obtain ⟨next, hnext⟩ := ih
        (fun other hother => (hholds other (List.mem_cons_of_mem row hother)).embedAll env _)
        (fun other hother => hvectors other (List.mem_cons_of_mem row hother))
        (stats.count row.chunkId warning)
      refine ⟨next, ?_⟩
      have hall := embedAll_append env store [row.chunkId] (batch.map (·.chunkId))
      rw [List.singleton_append] at hall
      rw [processBatch, hstore, List.map_cons, hall]
      exact hnext

theorem not_rejected_of_processBatch (store : ChunkStore) (stats : BackfillStats)
    {batch : List EmbeddedChunk}
    (h : (processBatch env store stats batch).isOk = true) :
    ∀ row ∈ batch, ¬ Rejected env row.chunkId row.chunkText := by
  induction batch generalizing store stats with
  | nil => exact fun row hrow => absurd hrow List.not_mem_nil
  | cons row batch ih =>
      by_cases hrejected : Rejected env row.chunkId row.chunkText
      · rw [processBatch, maybeStore_of_rejected hrejected] at h
        cases h
      · obtain ⟨warning, hstore⟩ := maybeStore_of_not_rejected store hrejected
        rw [processBatch, hstore] at h
        exact List.forall_mem_cons.mpr ⟨hrejected, ih _ _ h⟩

/-- Without a rejected vector every batch is committed, whatever its size. -/
theorem processRows_ok (batchSize : ℕ) (batch : List EmbeddedChunk) {rows : List EmbeddedChunk}
    (hholds : ∀ row ∈ batch ++ rows, store.Holds row.chunkId row.chunkText)
    (hvectors : ∀ row ∈ batch ++ rows, ¬ Rejected env row.chunkId row.chunkText)
    (stats : BackfillStats) :
    ∃ next, processRows env batchSize store stats batch rows =
      (embedAll env store ((batch ++ rows).map (·.chunkId)), .ok next) := by
  induction rows generalizing store stats batch with
  | nil =>
      rw [List.append_nil] at hholds hvectors ⊢
      by_cases hbatch : batch = []
      · subst hbatch
        exact ⟨stats, by rw [List.map_nil, embedAll_nil, processRows, if_pos rfl]⟩
      · obtain ⟨next, hnext⟩ := processBatch_ok hholds hvectors stats
        exact ⟨next, by rw [processRows, if_neg hbatch, hnext]⟩
  | cons row rows ih =>
      have hsplit : batch ++ row :: rows = (batch ++ [row]) ++ rows := by simp
      rw [hsplit] at hholds hvectors ⊢
      rw [processRows]
      split
      · obtain ⟨middle, hmiddle⟩ := processBatch_ok
          (fun other hother => hholds other (List.mem_append_left rows hother))
          (fun other hother => hvectors other (List.mem_append_left rows hother)) stats
        have hall := embedAll_append env store ((batch ++ [row]).map (·.chunkId))
          (rows.map (·.chunkId))
        rw [← List.map_append] at hall
        rw [hmiddle, hall]
        exact ih []
          (fun other hother => (hholds other (List.mem_append_right _ hother)).embedAll env _)
          (fun other hother => hvectors other (List.mem_append_right _ hother)) middle
      · exact ih (batch ++ [row]) hholds hvectors stats

theorem not_rejected_of_processRows {batchSize : ℕ} {batch rows : List EmbeddedChunk}
    {stats : BackfillStats}
    (h : (processRows env batchSize store stats batch rows).2.isOk = true) :
    ∀ row ∈ batch ++ rows, ¬ Rejected env row.chunkId row.chunkText := by
  induction rows generalizing store stats batch with
  | nil =>
      rw [List.append_nil]
      by_cases hbatch : batch = []
      · subst hbatch
        exact fun row hrow => absurd hrow List.not_mem_nil
      · rw [processRows, if_neg hbatch] at h
        refine not_rejected_of_processBatch store stats ?_
        split at h
        · cases h
        · rename_i hnext
          rw [hnext]
          rfl
  | cons row rows ih =>
      have hsplit : batch ++ row :: rows = (batch ++ [row]) ++ rows := by simp
      rw [hsplit]
      rw [processRows] at h
      split at h
      · split at h
        · cases h
        · rename_i hnext
          intro other hother
          rcases List.mem_append.mp hother with hother | hother
          · refine not_rejected_of_processBatch store stats ?_ other hother
            rw [hnext]
            rfl
          · exact ih h other hother
      · exact ih h

/-- A backfill raises nothing, and stores every usable vector of the chunks it selects. -/
structure StoresUsable (env : Environment) (options : BackfillOptions) (store : ChunkStore) :
    Prop where
  raises : (execute env options store).2.isOk = true
  vectors : ∀ row ∈ selectEligible store options, ∀ vector,
    usableVector env row.chunkId row.chunkText = some vector →
      setEmbedding vector row ∈ (execute env options store).1.chunks

theorem mem_eligibleRows {workspaceId : Option WorkspaceId} {row : EmbeddedChunk} :
    row ∈ eligibleRows store workspaceId ↔
      row ∈ store.chunks ∧ isEligible workspaceId row = true := by
  rw [eligibleRows, mem_sortOn, List.mem_filter]

theorem mem_eligibleRows_of_selected {options : BackfillOptions} {row : EmbeddedChunk}
    (h : row ∈ selectEligible store options) : row ∈ eligibleRows store options.workspaceId := by
  unfold selectEligible limited at h
  split at h
  · exact h
  · exact h
  · exact List.mem_of_mem_take h

theorem mem_of_mem_selectEligible {options : BackfillOptions} {row : EmbeddedChunk}
    (h : row ∈ selectEligible store options) : row ∈ store.chunks :=
  (mem_eligibleRows.mp (mem_eligibleRows_of_selected h)).1

theorem not_rejected_of_not_configured (h : isConfigured env = false) (chunkId : ChunkId)
    (text : Text) : ¬ Rejected env chunkId text := by
  rintro ⟨vector, hvector, -⟩
  obtain ⟨backend, hbackend, hgiven⟩ := Option.bind_eq_some_iff.mp hvector
  rw [isConfigured, hbackend, Option.any_some] at h
  rw [h] at hgiven
  cases hgiven

theorem usableVector_of_not_configured (h : isConfigured env = false) (chunkId : ChunkId)
    (text : Text) : usableVector env chunkId text = none := by
  unfold usableVector vectorFor
  cases hbackend : env.backend with
  | none => rfl
  | some backend =>
      rw [isConfigured, hbackend, Option.any_some] at h
      rw [Option.bind_some, h]
      rfl

/-- A run that raises nothing stores what is usable. -/
theorem execute_ok (env : Environment) (options : BackfillOptions) (hids : store.chunkIds.Nodup)
    (hvectors : ∀ row ∈ selectEligible store options, ¬ Rejected env row.chunkId row.chunkText) :
    ∃ stats, execute env options store =
      (embedAll env store ((selectEligible store options).map (·.chunkId)), .ok stats) := by
  unfold execute
  cases hconfigured : isConfigured env with
  | false =>
      refine ⟨{}, ?_⟩
      have hsame : embedAll env store ((selectEligible store options).map (·.chunkId)) = store := by
        rw [embedAll, List.map_congr_left fun row _ =>
          embedRow_of_not_usable env (usableVector_of_not_configured hconfigured _ _),
          List.map_id']
      rw [hsame]
      rfl
  | true =>
      exact processRows_ok _ []
        (fun row hrow => ChunkStore.holds_of_mem hids (mem_of_mem_selectEligible hrow)) hvectors _

theorem storesUsable_iff (hids : store.chunkIds.Nodup) (options : BackfillOptions) :
    StoresUsable env options store ↔
      ∀ row ∈ selectEligible store options, ¬ Rejected env row.chunkId row.chunkText := by
  constructor
  · rintro ⟨hraises, -⟩
    unfold execute at hraises
    cases hconfigured : isConfigured env with
    | false => exact fun row _ => not_rejected_of_not_configured hconfigured _ _
    | true =>
        rw [hconfigured] at hraises
        exact not_rejected_of_processRows hraises
  · intro hvectors
    obtain ⟨stats, hexecute⟩ := execute_ok env options hids hvectors
    refine ⟨by rw [hexecute]; rfl, fun row hrow vector husable => ?_⟩
    have hid : row.chunkId ∈ (selectEligible store options).map (·.chunkId) :=
      List.mem_map_of_mem hrow
    rw [hexecute, ← embedRow_of_usable env hid husable]
    exact List.mem_map_of_mem (mem_of_mem_selectEligible hrow)

end Backfill

/-! ## Embedding is best-effort -/

/-- No provider costs a save a text or a backfill a usable vector, unless the column rejects a
vector. -/
theorem bestEffort_iff (env : Environment) (vectorEnabled : Bool) {store : ChunkStore}
    (hids : store.chunkIds.Nodup) (contentId : ContentId) (workspaceId : Option WorkspaceId)
    (chunks : List (ℕ × Text)) (options : BackfillOptions) :
    (SavesTexts env vectorEnabled store contentId workspaceId chunks ↔
      Savable store contentId chunks ∧ (vectorEnabled = true →
        ∀ chunk ∈ kept chunks, ¬ Rejected env (store.idOf chunk.1) chunk.2)) ∧
    (StoresUsable env options store ↔
      ∀ row ∈ selectEligible store options, ¬ Rejected env row.chunkId row.chunkText) :=
  ⟨savesTexts_iff env vectorEnabled store contentId workspaceId chunks,
    storesUsable_iff hids options⟩

/-- The column takes finite floats only. -/
def finiteVector : List VectorValue → Option (List ℚ) :=
  List.mapM fun
    | .finite value => some value
    | .infinite => none
    | .nan => none

def constantVector (value : VectorValue) : List VectorValue := List.replicate 1536 value

/-- A provider that answers one text with a vector of NaNs, and other texts with ones. -/
def nanProvider : Environment where
  parseVector := finiteVector
  backend := some {
    isConfigured := true
    embedText := fun _ text => some {
      vector := constantVector (if text = "second".toList then .nan else .finite 1)
      dimensions := 1536 } }

/-- Two chunks of a content that await their embeddings. -/
def twoChunks : ChunkStore where
  contentIds := [1]
  chunks := [
    { chunkId := 1, contentId := 1, workspaceId := none, chunkIndex := 0,
      chunkText := "first".toList },
    { chunkId := 2, contentId := 1, workspaceId := none, chunkIndex := 1,
      chunkText := "second".toList }]

theorem rejected_second (chunkId : ChunkId) : Rejected nanProvider chunkId "second".toList :=
  ⟨constantVector .nan, rfl, rfl⟩

theorem finiteVector_replicate (n : ℕ) (value : ℚ) :
    finiteVector (List.replicate n (.finite value)) = some (List.replicate n value) := by
  induction n with
  | zero => rfl
  | succ n ih =>
      rw [finiteVector] at ih ⊢
      rw [List.replicate_succ, List.mapM_cons, ih]
      rfl

theorem finiteVector_constantVector (value : ℚ) :
    finiteVector (constantVector (.finite value)) = some (List.replicate 1536 value) :=
  finiteVector_replicate 1536 value

theorem usable_first (chunkId : ChunkId) :
    usableVector nanProvider chunkId "first".toList = some (List.replicate 1536 1) := by
  have hvector : vectorFor nanProvider chunkId "first".toList =
      some (constantVector (.finite 1)) := rfl
  have hparse : nanProvider.parseVector = finiteVector := rfl
  rw [usableVector, hvector, Option.bind_some, hparse, finiteVector_constantVector]

/-- The first chunk alone is embedded. -/
theorem bestEffort_limited : StoresUsable nanProvider { limit := some 1 } twoChunks := by
  refine (bestEffort_iff nanProvider true (show twoChunks.chunkIds.Nodup by decide) 1 none
    [] _).2.mpr ?_
  have hselected : selectEligible twoChunks { limit := some 1 } = twoChunks.chunks.take 1 := by
    decide
  rw [hselected]
  intro row hrow
  obtain rfl := List.mem_singleton.mp hrow
  exact not_rejected_of_usable (usable_first 1)

theorem not_bestEffort :
    (¬ ∀ (env : Environment) (vectorEnabled : Bool) (store : ChunkStore) (contentId : ContentId)
      (workspaceId : Option WorkspaceId) (chunks : List (ℕ × Text)),
        Savable store contentId chunks →
          SavesTexts env vectorEnabled store contentId workspaceId chunks) ∧
    ¬ ∀ (env : Environment) (options : BackfillOptions) (store : ChunkStore),
      store.chunkIds.Nodup → StoresUsable env options store := by
  constructor
  · intro hall
    have hsaves := hall nanProvider true twoChunks 1 none
      [(0, "first".toList), (1, "second".toList)]
      ⟨by decide, by decide, by decide⟩
    have hnot := ((savesTexts_iff ..).mp hsaves).2 rfl (1, "second".toList) (by decide)
    exact hnot (rejected_second _)
  · intro hall
    have hstores := hall nanProvider {} twoChunks (by decide)
    have hnot := (storesUsable_iff (by decide) {}).mp hstores
    exact hnot (twoChunks.chunks.getLast (by decide)) (by decide) (rejected_second _)

end MemoryLab.ChunkEmbedding

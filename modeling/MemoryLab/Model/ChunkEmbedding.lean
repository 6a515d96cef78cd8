import MemoryLab.Model.Schema

/-! # Embeddings of chunks

A save embeds the chunks that it writes, and the backfill those that have no embedding. The
provider is asked outside the database, the vector is stored inside the transaction at hand. -/

namespace MemoryLab.ChunkEmbedding

open Library Library.Rows

/-- What a float of a vector may be. -/
inductive VectorValue where
  | finite (value : ℚ)
  | infinite
  | nan
deriving DecidableEq

structure EmbeddingResponse where
  vector : List VectorValue := []
  dimensions : ℤ := 0
  degraded : Bool := false
  failureReason : Option String := none
deriving DecidableEq

def EmbeddingResponse.isOk (response : EmbeddingResponse) : Bool :=
  !response.degraded && !response.vector.isEmpty

/-- A provider: it may answer two chunks of one text differently, and `none` is an exception. -/
structure EmbeddingBackend where
  isConfigured : Bool
  embedText : ChunkId → Text → Option EmbeddingResponse

/-- The provider, if there is one, and the input function of the `vector(1536)` column. -/
structure Environment where
  backend : Option EmbeddingBackend
  parseVector : List VectorValue → Option (List ℚ)

structure EmbeddedChunk extends ContentChunkRow where
  embeddingStatus : Option String := none
deriving DecidableEq

/-- The table of chunks, and the contents that it may refer to. -/
structure ChunkStore where
  contentIds : List ContentId
  chunks : List EmbeddedChunk
deriving DecidableEq

def setEmbedding (vector : List ℚ) (row : EmbeddedChunk) : EmbeddedChunk :=
  { row with embedding := some vector, embeddingStatus := some "embedded" }

def ChunkStore.updateEmbedding (store : ChunkStore) (chunkId : ChunkId) (vector : List ℚ) :
    ChunkStore :=
  { store with
    chunks := updateWhere (fun row => row.chunkId == chunkId) (setEmbedding vector) store.chunks }

/-- `_maybe_store_chunk_embedding`: the warning, if any. Only the call of the provider is
guarded; a vector that the column does not take fails the `UPDATE`. -/
def maybeStoreChunkEmbedding (env : Environment) (vectorEnabled : Bool) (chunkId : ChunkId)
    (text : Text) (store : ChunkStore) : Except DbError (ChunkStore × Option String) :=
  if !vectorEnabled then .ok (store, some "provider_disabled")
  else match env.backend with
    | none => .ok (store, some "provider_disabled")
    | some backend =>
      if !backend.isConfigured then .ok (store, some "provider_disabled")
      else match backend.embedText chunkId text with
        | none => .ok (store, some "embedding_exception")
        | some response =>
          if !response.isOk || response.dimensions != 1536 then
            .ok (store, some (response.failureReason.getD "embedding_degraded"))
          else match env.parseVector response.vector with
            | none => .error .invalidText
            | some vector => .ok (store.updateEmbedding chunkId vector, none)

/-! ## The chunks of a save -/

structure MultiChunkWriteResult where
  chunksWritten : ℕ := 0
  embeddingsAttempted : ℕ := 0
  embeddingsStored : ℕ := 0
  warnings : List String := []
deriving DecidableEq

def insertChunk (store : ChunkStore) (row : EmbeddedChunk) : Except DbError ChunkStore :=
  if !storable row.chunkText then .error .invalidText
  else if row.contentId ∉ store.contentIds then .error .foreignKeyViolation
  else if store.chunks.any fun chunk => chunk.contentId == row.contentId &&
      chunk.chunkIndex == row.chunkIndex then .error .uniqueViolation
  else .ok { store with chunks := store.chunks ++ [row] }

/-- What one embedding adds to the result. -/
def MultiChunkWriteResult.count (result : MultiChunkWriteResult) (index : ℕ)
    (warning : Option String) : MultiChunkWriteResult :=
  { result with
    embeddingsAttempted := result.embeddingsAttempted + 1
    embeddingsStored := result.embeddingsStored + if warning.isNone then 1 else 0
    warnings := result.warnings ++ match warning with
      | none => []
      | some warning =>
        if warning = "provider_disabled" then [] else [s!"chunk[{index}]: {warning}"] }

/-- The row of one chunk, under an identifier drawn for it. -/
def newRow (contentId : ContentId) (workspaceId : Option WorkspaceId) (firstId : ChunkId)
    (chunk : ℕ × Text) : EmbeddedChunk :=
  { chunkId := firstId + chunk.1, contentId, workspaceId, chunkIndex := chunk.1,
    chunkText := chunk.2 }

/-- One round of the loop: an empty chunk is skipped. -/
def writeChunk (env : Environment) (vectorEnabled : Bool) (contentId : ContentId)
    (workspaceId : Option WorkspaceId) (firstId : ChunkId)
    (written : ChunkStore × MultiChunkWriteResult) (chunk : ℕ × Text) :
    Except DbError (ChunkStore × MultiChunkWriteResult) :=
  if chunk.2 = [] then .ok written
  else do
    let row := newRow contentId workspaceId firstId chunk
    let inserted ← insertChunk written.1 row
    if vectorEnabled && env.backend.isSome then
      let (next, warning) ←
        maybeStoreChunkEmbedding env vectorEnabled row.chunkId chunk.2 inserted
      return (next, written.2.count chunk.1 warning)
    else return (inserted, written.2)

def ChunkStore.deleteChunks (store : ChunkStore) (contentId : ContentId) : ChunkStore :=
  { store with chunks := store.chunks.filter fun row => row.contentId != contentId }

/-- `persist_multi_chunks`, inside the transaction of its caller. -/
def persistMultiChunks (env : Environment) (vectorEnabled : Bool) (store : ChunkStore)
    (contentId : ContentId) (workspaceId : Option WorkspaceId) (chunks : List (ℕ × Text)) :
    Except DbError (ChunkStore × MultiChunkWriteResult) := do
  let firstId := freshId (store.chunks.map (·.chunkId))
  let (written, result) ← chunks.foldlM
    (writeChunk env vectorEnabled contentId workspaceId firstId)
    (store.deleteChunks contentId, {})
  return (written,
    { result with chunksWritten := (chunks.filter fun chunk => decide (chunk.2 ≠ [])).length })

/-- The transaction of the caller: an exception rolls it back. -/
def committed {α : Type} (store : ChunkStore) (outcome : Except DbError (ChunkStore × α)) :
    ChunkStore :=
  match outcome with
  | .ok (next, _) => next
  | .error _ => store

/-! ## The backfill -/

structure BackfillOptions where
  workspaceId : Option WorkspaceId := none
  batchSize : ℤ := 100
  limit : Option ℕ := none
deriving DecidableEq

/-- The number of a batch's chunks that were tried, stored and failed, and the warnings. -/
structure BackfillStats where
  eligible : ℕ := 0
  attempted : ℕ := 0
  stored : ℕ := 0
  failed : ℕ := 0
  warnings : List (ChunkId × String) := []
deriving DecidableEq

def isEligible (workspaceId : Option WorkspaceId) (row : EmbeddedChunk) : Bool :=
  (row.embeddingStatus == none || row.embeddingStatus == some "failed") &&
    row.chunkText != [] && workspaceId.all fun workspaceId => row.workspaceId == some workspaceId

/-- `ORDER BY content_id, chunk_index`. -/
def chunkOrder (row : EmbeddedChunk) : ℕ ×ₗ ℕ := toLex (row.contentId, row.chunkIndex)

/-- `LIMIT`, unless the limit is absent or zero. -/
def limited {α : Type} (limit : Option ℕ) (rows : List α) : List α :=
  match limit with
  | none => rows
  | some 0 => rows
  | some limit => rows.take limit

def selectEligible (store : ChunkStore) (options : BackfillOptions) : List EmbeddedChunk :=
  limited options.limit
    (sortOn chunkOrder (store.chunks.filter (isEligible options.workspaceId)))

def BackfillStats.count (stats : BackfillStats) (chunkId : ChunkId) (warning : Option String) :
    BackfillStats :=
  match warning with
  | none => { stats with attempted := stats.attempted + 1, stored := stats.stored + 1 }
  | some warning =>
    { stats with
      attempted := stats.attempted + 1
      failed := stats.failed + 1
      warnings := stats.warnings ++ [(chunkId,
        if warning = "provider_disabled" then "provider_disabled mid-run" else warning)] }

/-- `_process_batch`: the commit is at its end. -/
def processBatch (env : Environment) :
    ChunkStore → BackfillStats → List EmbeddedChunk → Except DbError (ChunkStore × BackfillStats)
  | store, stats, [] => .ok (store, stats)
  | store, stats, row :: batch => do
    let (next, warning) ←
      maybeStoreChunkEmbedding env true row.chunkId row.chunkText store
    processBatch env next (stats.count row.chunkId warning) batch

/-- The loop over the selected rows: what is committed in the end, and the statistics unless
some batch raises. -/
def processRows (env : Environment) (batchSize : ℕ) :
    ChunkStore → BackfillStats → List EmbeddedChunk → List EmbeddedChunk →
      ChunkStore × Except DbError BackfillStats
  | store, stats, batch, [] =>
    if batch = [] then (store, .ok stats)
    else match processBatch env store stats batch with
      | .error error => (store, .error error)
      | .ok (next, stats) => (next, .ok stats)
  | store, stats, batch, row :: rows =>
    if batchSize ≤ (batch ++ [row]).length then
      match processBatch env store stats (batch ++ [row]) with
      | .error error => (store, .error error)
      | .ok (next, stats) => processRows env batchSize next stats [] rows
    else processRows env batchSize store stats (batch ++ [row]) rows

def isConfigured (env : Environment) : Bool := env.backend.any (·.isConfigured)

/-- `EmbeddingBackfillRunner.execute`. -/
def execute (env : Environment) (options : BackfillOptions) (store : ChunkStore) :
    ChunkStore × Except DbError BackfillStats :=
  if !isConfigured env then (store, .ok {})
  else
    let rows := selectEligible store options
    processRows env (max 1 options.batchSize).toNat store { eligible := rows.length } [] rows

/-- The table after so many runs. -/
def afterRuns (env : Environment) (options : BackfillOptions) (store : ChunkStore) :
    ℕ → ChunkStore
  | 0 => store
  | n + 1 => (execute env options (afterRuns env options store n)).1

end MemoryLab.ChunkEmbedding

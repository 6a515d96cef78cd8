import MemoryLab.Library.Transaction
import MemoryLab.Model.ChunkEmbedding

/-! # What becomes of one chunk's embedding -/

namespace MemoryLab.ChunkEmbedding

open Library Library.Rows

/-- The vector that the provider gives for a chunk, if the `UPDATE` is reached. -/
def vectorFor (env : Environment) (chunkId : ChunkId) (text : Text) :
    Option (List VectorValue) :=
  env.backend.bind fun backend =>
    if backend.isConfigured then
      ((backend.embedText chunkId text).filter fun response =>
        response.isOk && response.dimensions == 1536).map (·.vector)
    else none

/-- The column does not take the vector of the chunk. -/
def Rejected (env : Environment) (chunkId : ChunkId) (text : Text) : Prop :=
  ∃ vector, vectorFor env chunkId text = some vector ∧ env.parseVector vector = none

/-- The vector that is stored for a chunk: the provider gives it, and the column takes it. -/
def usableVector (env : Environment) (chunkId : ChunkId) (text : Text) : Option (List ℚ) :=
  (vectorFor env chunkId text).bind env.parseVector

def ChunkStore.embed (env : Environment) (store : ChunkStore) (chunkId : ChunkId)
    (text : Text) : ChunkStore :=
  match usableVector env chunkId text with
  | some vector => store.updateEmbedding chunkId vector
  | none => store

section Spec

variable {env : Environment} {chunkId : ChunkId} {text : Text} {store : ChunkStore}

theorem not_rejected_of_usable {vector : List ℚ}
    (h : usableVector env chunkId text = some vector) : ¬ Rejected env chunkId text := by
  rintro ⟨given, hgiven, hnone⟩
  rw [usableVector, hgiven, Option.bind_some, hnone] at h
  cases h

/-- A vector that the column does not take is the only thing that raises. -/
theorem maybeStore_of_rejected (h : Rejected env chunkId text) :
    maybeStoreChunkEmbedding env true chunkId text store = .error .invalidText := by
  obtain ⟨vector, hvector, hnone⟩ := h
  obtain ⟨backend, hbackend, hgiven⟩ := Option.bind_eq_some_iff.mp hvector
  split at hgiven
  · rename_i hconfigured
    obtain ⟨response, hresponse, rfl⟩ := Option.map_eq_some_iff.mp hgiven
    obtain ⟨hembed, hok⟩ := Option.filter_eq_some_iff.mp hresponse
    rw [Bool.and_eq_true, beq_iff_eq] at hok
    simp [maybeStoreChunkEmbedding, hbackend, hconfigured, hembed, hok.1, hok.2, hnone]
  · cases hgiven

theorem maybeStore_of_not_rejected (store : ChunkStore) (h : ¬ Rejected env chunkId text) :
    ∃ warning, maybeStoreChunkEmbedding env true chunkId text store =
      .ok (store.embed env chunkId text, warning) := by
  unfold maybeStoreChunkEmbedding ChunkStore.embed usableVector
  cases hbackend : env.backend with
  | none => simp [vectorFor, hbackend]
  | some backend =>
      cases hconfigured : backend.isConfigured with
      | false => simp [vectorFor, hbackend, hconfigured]
      | true =>
          cases hembed : backend.embedText chunkId text with
          | none => simp [vectorFor, hbackend, hconfigured, hembed]
          | some response =>
              cases hok : response.isOk && response.dimensions == 1536 with
              | false =>
                  have hnone : vectorFor env chunkId text = none := by
                    simp only [vectorFor, hbackend, hconfigured, hembed, Option.bind_some,
                      if_true, Option.filter_some, hok, Bool.false_eq_true, if_false,
                      Option.map_none]
                  have hdegraded : (!response.isOk || response.dimensions != 1536) = true := by
                    rw [bne, ← Bool.not_and, hok, Bool.not_false]
                  simp only [hconfigured, hembed, hdegraded, hnone, Bool.not_true,
                    Bool.false_eq_true, if_false, if_true, Option.bind_none]
                  exact ⟨_, rfl⟩
              | true =>
                  have hvector : vectorFor env chunkId text = some response.vector := by
                    simp only [vectorFor, hbackend, hconfigured, hembed, Option.bind_some,
                      if_true, Option.filter_some, hok, Option.map_some]
                  have hgood : (!response.isOk || response.dimensions != 1536) = false := by
                    rw [bne, ← Bool.not_and, hok, Bool.not_true]
                  cases hparse : env.parseVector response.vector with
                  | none => exact absurd ⟨response.vector, hvector, hparse⟩ h
                  | some vector =>
                      simp only [hconfigured, hembed, hgood, hvector, hparse, Bool.not_true,
                        Bool.false_eq_true, if_false, Option.bind_some]
                      exact ⟨_, rfl⟩

end Spec

/-! ## A run over some rows -/

/-- A row after the embeddings of some chunks were tried. -/
def embedRow (env : Environment) (ids : List ChunkId) (row : EmbeddedChunk) : EmbeddedChunk :=
  if row.chunkId ∈ ids then
    match usableVector env row.chunkId row.chunkText with
    | some vector => setEmbedding vector row
    | none => row
  else row

def embedAll (env : Environment) (store : ChunkStore) (ids : List ChunkId) : ChunkStore :=
  { store with chunks := store.chunks.map (embedRow env ids) }

def ChunkStore.chunkIds (store : ChunkStore) : List ChunkId := store.chunks.map (·.chunkId)

section Rows

variable (env : Environment)

theorem embedRow_nil (row : EmbeddedChunk) : embedRow env [] row = row := by
  simp [embedRow]

@[simp] theorem chunkId_embedRow (ids : List ChunkId) (row : EmbeddedChunk) :
    (embedRow env ids row).chunkId = row.chunkId := by
  unfold embedRow
  split
  · split <;> rfl
  · rfl

@[simp] theorem chunkText_embedRow (ids : List ChunkId) (row : EmbeddedChunk) :
    (embedRow env ids row).chunkText = row.chunkText := by
  unfold embedRow
  split
  · split <;> rfl
  · rfl

theorem embedRow_append (first second : List ChunkId) (row : EmbeddedChunk) :
    embedRow env (first ++ second) row = embedRow env second (embedRow env first row) := by
  by_cases hfirst : row.chunkId ∈ first <;> by_cases hsecond : row.chunkId ∈ second <;>
    cases husable : usableVector env row.chunkId row.chunkText <;>
      simp [embedRow, hfirst, hsecond, husable, setEmbedding]

theorem embedRow_of_usable {ids : List ChunkId} {row : EmbeddedChunk} {vector : List ℚ}
    (hmem : row.chunkId ∈ ids) (h : usableVector env row.chunkId row.chunkText = some vector) :
    embedRow env ids row = setEmbedding vector row := by
  simp [embedRow, hmem, h]

theorem embedRow_of_not_usable {ids : List ChunkId} {row : EmbeddedChunk}
    (h : usableVector env row.chunkId row.chunkText = none) : embedRow env ids row = row := by
  simp [embedRow, h]

theorem embedAll_nil (store : ChunkStore) : embedAll env store [] = store := by
  rw [embedAll, List.map_congr_left fun row _ => embedRow_nil env row, List.map_id']

theorem embedAll_append (store : ChunkStore) (first second : List ChunkId) :
    embedAll env store (first ++ second) = embedAll env (embedAll env store first) second := by
  simp only [embedAll, List.map_map]
  congr 1
  exact List.map_congr_left fun row _ => embedRow_append env first second row

@[simp] theorem chunkIds_embedAll (store : ChunkStore) (ids : List ChunkId) :
    (embedAll env store ids).chunkIds = store.chunkIds := by
  rw [ChunkStore.chunkIds, embedAll, List.map_map]
  exact List.map_congr_left fun row _ => chunkId_embedRow env ids row

/-- The chunk with this identifier has this text. -/
def ChunkStore.Holds (store : ChunkStore) (chunkId : ChunkId) (text : Text) : Prop :=
  ∀ row ∈ store.chunks, row.chunkId = chunkId → row.chunkText = text

theorem ChunkStore.holds_of_mem {store : ChunkStore} (hids : store.chunkIds.Nodup)
    {row : EmbeddedChunk} (hmem : row ∈ store.chunks) : store.Holds row.chunkId row.chunkText := by
  intro other hother hid
  rw [List.inj_on_of_nodup_map hids hother hmem hid]

theorem ChunkStore.Holds.embedAll {store : ChunkStore} {chunkId : ChunkId} {text : Text}
    (h : store.Holds chunkId text) (ids : List ChunkId) :
    (embedAll env store ids).Holds chunkId text := by
  intro row hrow hid
  obtain ⟨old, hold, rfl⟩ := List.mem_map.mp hrow
  rw [chunkId_embedRow] at hid
  rw [chunkText_embedRow]
  exact h old hold hid

theorem embed_eq {store : ChunkStore} {chunkId : ChunkId} {text : Text}
    (h : store.Holds chunkId text) :
    store.embed env chunkId text = ChunkEmbedding.embedAll env store [chunkId] := by
  have hrow : ∀ row ∈ store.chunks, row.chunkId = chunkId →
      usableVector env row.chunkId row.chunkText = usableVector env chunkId text := by
    intro row hmem hid
    rw [h row hmem hid, hid]
  unfold ChunkStore.embed ChunkEmbedding.embedAll
  cases husable : usableVector env chunkId text with
  | none =>
      refine congrArg (ChunkStore.mk store.contentIds) ?_
      refine ((List.map_congr_left fun row hmem => ?_).trans (List.map_id' _)).symm
      by_cases hid : row.chunkId = chunkId
      · exact embedRow_of_not_usable env ((hrow row hmem hid).trans husable)
      · simp [embedRow, hid]
  | some vector =>
      refine congrArg (ChunkStore.mk store.contentIds) (List.map_congr_left fun row hmem => ?_)
      by_cases hid : row.chunkId = chunkId
      · rw [embedRow_of_usable env (by simp [hid]) ((hrow row hmem hid).trans husable)]
        simp [hid]
      · simp [embedRow, hid]

end Rows

end MemoryLab.ChunkEmbedding

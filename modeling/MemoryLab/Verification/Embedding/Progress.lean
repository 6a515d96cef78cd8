import MemoryLab.Library.Backlog
import MemoryLab.Verification.Embedding.BestEffort

/-! # What repeated backfills reach

A chunk on which the provider fails stays eligible, and is selected again. -/

namespace MemoryLab.ChunkEmbedding

open Library Library.Rows Library.Backlog

/-- The provider gives a vector for a chunk, and the column takes it. -/
def succeeds (env : Environment) (row : EmbeddedChunk) : Bool :=
  (usableVector env row.chunkId row.chunkText).isSome

section Runs

variable {env : Environment} {store : ChunkStore} {workspaceId : Option WorkspaceId}

theorem nodup_eligibleRows (workspaceId : Option WorkspaceId) (hids : store.chunkIds.Nodup) :
    (eligibleRows store workspaceId).Nodup :=
  (perm_sortOn _).nodup_iff.mpr ((List.Nodup.of_map _ hids).filter _)

theorem not_isEligible_setEmbedding (vector : List ℚ) (row : EmbeddedChunk) :
    isEligible workspaceId (setEmbedding vector row) = false := by
  simp [isEligible, setEmbedding]

/-- What the embeddings of some selected chunks leave of the queue. -/
theorem eligibleRows_embedAll (hids : store.chunkIds.Nodup) {selected : List EmbeddedChunk}
    (hselected : ∀ row ∈ selected, row ∈ store.chunks) :
    eligibleRows (embedAll env store (selected.map (·.chunkId))) workspaceId =
      (eligibleRows store workspaceId).filter
        fun row => decide (row ∉ selected.filter (succeeds env)) := by
  have hmem : ∀ row ∈ store.chunks, row.chunkId ∈ selected.map (·.chunkId) → row ∈ selected := by
    intro row hrow hid
    obtain ⟨other, hother, hsame⟩ := List.mem_map.mp hid
    have hsame : other = row := List.inj_on_of_nodup_map hids (hselected other hother) hrow hsame
    rw [← hsame]
    exact hother
  have hqueue := queue_map chunkOrder (isEligible workspaceId)
    (fun row => decide (row ∈ selected.filter (succeeds env)))
    (embedRow env (selected.map (·.chunkId))) store.chunks ?_ ?_
  · rw [eligibleRows, eligibleRows, embedAll, hqueue]
    simp only [decide_not]
  · intro row _ hhandled
    obtain ⟨hrow, hsucceeds⟩ := List.mem_filter.mp (of_decide_eq_true hhandled)
    obtain ⟨vector, husable⟩ := Option.isSome_iff_exists.mp hsucceeds
    have hid : row.chunkId ∈ selected.map (·.chunkId) := List.mem_map_of_mem hrow
    rw [embedRow_of_usable env hid husable, not_isEligible_setEmbedding]
  · intro row hrow hrest
    cases husable : usableVector env row.chunkId row.chunkText with
    | none => exact embedRow_of_not_usable env husable
    | some vector =>
        have hother : row.chunkId ∉ selected.map (·.chunkId) := fun hid =>
          of_decide_eq_false hrest
            (List.mem_filter.mpr ⟨hmem row hrow hid, by simp [succeeds, husable]⟩)
        simp [embedRow, hother]

/-- A provider that fails on some chunks, and on the others gives what the column takes. -/
def NeverRejected (env : Environment) (store : ChunkStore) (workspaceId : Option WorkspaceId) :
    Prop :=
  ∀ row ∈ eligibleRows store workspaceId, ¬ Rejected env row.chunkId row.chunkText

/-- What some runs do to the table. -/
structure Backfilled (env : Environment) (limit : ℕ) (workspaceId : Option WorkspaceId)
    (store next : ChunkStore) (n : ℕ) : Prop where
  embeds : ∃ ids, next = embedAll env store ids
  queue_eq : eligibleRows next workspaceId =
    passes (succeeds env) limit (eligibleRows store workspaceId) n

theorem NeverRejected.of_backfilled {limit n : ℕ} {next : ChunkStore}
    (h : NeverRejected env store workspaceId)
    (hnext : Backfilled env limit workspaceId store next n) :
    NeverRejected env next workspaceId := by
  intro row hrow
  rw [hnext.queue_eq] at hrow
  exact h row ((passes_sublist _ n).subset hrow)

theorem selectEligible_eq {options : BackfillOptions} {limit : ℕ} (hlimit : 1 ≤ limit)
    (hoptions : options.limit = some limit) :
    selectEligible store options = (eligibleRows store options.workspaceId).take limit := by
  obtain ⟨rest, rfl⟩ := Nat.exists_eq_add_of_le' hlimit
  rw [selectEligible, hoptions]
  rfl

theorem backfilled_afterRuns {options : BackfillOptions} {limit : ℕ} (hlimit : 1 ≤ limit)
    (hoptions : options.limit = some limit) (hids : store.chunkIds.Nodup)
    (hnever : NeverRejected env store options.workspaceId) (n : ℕ) :
    Backfilled env limit options.workspaceId store (afterRuns env options store n) n := by
  induction n with
  | zero => exact ⟨⟨[], (embedAll_nil env store).symm⟩, rfl⟩
  | succ n ih =>
      obtain ⟨ids, hcurrent⟩ := ih.embeds
      generalize hafter : afterRuns env options store n = current at ih hcurrent
      have hcurrentIds : current.chunkIds.Nodup := by
        rw [hcurrent, chunkIds_embedAll]
        exact hids
      have hselected : ∀ row ∈ selectEligible current options, row ∈ current.chunks :=
        fun row hrow => mem_of_mem_selectEligible hrow
      have hgood := hnever.of_backfilled ih
      obtain ⟨stats, hexecute⟩ := execute_ok env options hcurrentIds
        fun row hrow => hgood row (mem_eligibleRows_of_selected hrow)
      rw [afterRuns, hafter, hexecute]
      constructor
      · refine ⟨ids ++ (selectEligible current options).map (·.chunkId), ?_⟩
        rw [embedAll_append, ← hcurrent]
      · rw [eligibleRows_embedAll hcurrentIds hselected, selectEligible_eq hlimit hoptions,
          filter_notMem_eq_pass (nodup_eligibleRows _ hcurrentIds), ih.queue_eq, passes_succ']

theorem setEmbedding_mem_iff {ids : List ChunkId} (hids : store.chunkIds.Nodup)
    {row : EmbeddedChunk} (hrow : row ∈ eligibleRows store workspaceId) {vector : List ℚ}
    (husable : usableVector env row.chunkId row.chunkText = some vector) :
    setEmbedding vector row ∈ (embedAll env store ids).chunks ↔
      row ∉ eligibleRows (embedAll env store ids) workspaceId := by
  obtain ⟨hmem, heligible⟩ := mem_eligibleRows.mp hrow
  have hafter : (embedAll env store ids).chunkIds.Nodup := by
    rw [chunkIds_embedAll]
    exact hids
  constructor
  · intro hstored hqueued
    have hsame : setEmbedding vector row = row :=
      List.inj_on_of_nodup_map hafter hstored (mem_eligibleRows.mp hqueued).1 rfl
    rw [← hsame, not_isEligible_setEmbedding] at heligible
    cases heligible
  · intro hgone
    have himage : embedRow env ids row ∈ (embedAll env store ids).chunks :=
      List.mem_map_of_mem hmem
    by_cases hid : row.chunkId ∈ ids
    · rw [embedRow_of_usable env hid husable] at himage
      exact himage
    · have hsame : embedRow env ids row = row := by simp [embedRow, hid]
      rw [hsame] at himage
      exact absurd (mem_eligibleRows.mpr ⟨himage, heligible⟩) hgone

/-- Some number of runs stores an embedding for every eligible chunk on which the provider
succeeds. -/
def Finishes (env : Environment) (options : BackfillOptions) (store : ChunkStore) : Prop :=
  ∃ n, ∀ row ∈ eligibleRows store options.workspaceId, ∀ vector,
    usableVector env row.chunkId row.chunkText = some vector →
      setEmbedding vector row ∈ (afterRuns env options store n).chunks

/-- How many chunks on which the provider fails are selected before a chunk. -/
def failingAhead (env : Environment) (store : ChunkStore) (workspaceId : Option WorkspaceId)
    (row : EmbeddedChunk) : ℕ :=
  badAhead (succeeds env) row (eligibleRows store workspaceId)

theorem backfills_iff {options : BackfillOptions} {limit : ℕ} (hlimit : 1 ≤ limit)
    (hoptions : options.limit = some limit) (hids : store.chunkIds.Nodup)
    (hnever : NeverRejected env store options.workspaceId) :
    Finishes env options store ↔
      ∀ row ∈ eligibleRows store options.workspaceId, succeeds env row = true →
        failingAhead env store options.workspaceId row < limit := by
  have hdrains := drains_iff (succeeds env) limit
    (nodup_eligibleRows options.workspaceId hids)
  refine Iff.trans (exists_congr fun n => ?_) hdrains
  have hbackfilled := backfilled_afterRuns hlimit hoptions hids hnever n
  obtain ⟨ids, hnext⟩ := hbackfilled.embeds
  refine forall₂_congr fun row hrow => ?_
  rw [← hbackfilled.queue_eq, hnext, succeeds, Option.isSome_iff_exists]
  constructor
  · rintro hstored ⟨vector, husable⟩
    exact (setEmbedding_mem_iff hids hrow husable).mp (hstored vector husable)
  · intro hgone vector husable
    exact (setEmbedding_mem_iff hids hrow husable).mpr (hgone ⟨vector, husable⟩)

end Runs

/-! ## Progress of the backfill -/

/-- Repeated runs finish when fewer failing chunks than a run takes are ahead of every chunk on
which the provider succeeds. -/
theorem finishes_iff {env : Environment} {options : BackfillOptions} {store : ChunkStore}
    {limit : ℕ} (hlimit : 1 ≤ limit) (hoptions : options.limit = some limit)
    (hids : store.chunkIds.Nodup)
    (hnever : NeverRejected env store options.workspaceId) :
    Finishes env options store ↔
      ∀ row ∈ eligibleRows store options.workspaceId, succeeds env row = true →
        failingAhead env store options.workspaceId row < limit :=
  backfills_iff hlimit hoptions hids hnever

/-- A provider that raises on one chunk. -/
def failingProvider (failing : ChunkId) : Environment where
  parseVector := finiteVector
  backend := some {
    isConfigured := true
    embedText := fun chunkId _ =>
      if chunkId = failing then none
      else some { vector := constantVector (.finite 1), dimensions := 1536 } }

theorem usable_of_ne {chunkId failing : ChunkId} (h : chunkId ≠ failing) (text : Text) :
    usableVector (failingProvider failing) chunkId text = some (List.replicate 1536 1) := by
  have hvector : vectorFor (failingProvider failing) chunkId text =
      some (constantVector (.finite 1)) := by
    simp only [vectorFor, failingProvider, Option.bind_some, if_true, if_neg h]
    rfl
  have hparse : (failingProvider failing).parseVector = finiteVector := rfl
  rw [usableVector, hvector, Option.bind_some, hparse, finiteVector_constantVector]

theorem neverRejected_failingProvider (failing : ChunkId) (store : ChunkStore)
    (workspaceId : Option WorkspaceId) :
    NeverRejected (failingProvider failing) store workspaceId := by
  intro row _
  by_cases h : row.chunkId = failing
  · rintro ⟨vector, hvector, -⟩
    simp [vectorFor, failingProvider, h] at hvector
  · exact not_rejected_of_usable (usable_of_ne h row.chunkText)

/-- Runs that take two chunks get past one that fails. -/
theorem finishes_takingTwo : Finishes (failingProvider 1) { limit := some 2 } twoChunks := by
  refine (finishes_iff (by decide) rfl (by decide) (neverRejected_failingProvider 1 _ _)).mpr ?_
  exact fun row hrow _ => badAhead_lt_length hrow

/-- Runs that take one chunk take the failing one again and again. -/
theorem not_finishes_takingOne :
    ¬ ∀ (env : Environment) (options : BackfillOptions) (store : ChunkStore) (limit : ℕ),
      1 ≤ limit → options.limit = some limit → store.chunkIds.Nodup →
        NeverRejected env store options.workspaceId → Finishes env options store := by
  intro hall
  have hfinishes := hall (failingProvider 1) { limit := some 1 } twoChunks 1 le_rfl rfl
    (by decide) (neverRejected_failingProvider 1 _ _)
  have hahead := (backfills_iff le_rfl rfl (by decide) (neverRejected_failingProvider 1 _ _)).mp
    hfinishes (twoChunks.chunks.getLast (by decide)) (by decide)
  have hsucceeds : succeeds (failingProvider 1) (twoChunks.chunks.getLast (by decide)) = true :=
    Option.isSome_of_mem (usable_of_ne (by decide) _)
  exact absurd (hahead hsucceeds) (by decide)

end MemoryLab.ChunkEmbedding

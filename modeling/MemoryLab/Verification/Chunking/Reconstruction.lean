import MemoryLab.Library.Rows
import MemoryLab.Model.CanonicalBody

/-! # Bodies from untrusted rows

Whatever the rows hold, only the hash promotes what is stitched from them. -/

namespace MemoryLab.CanonicalBody

open Library Library.Rows Chunking

section Order

variable {rows other : List PersistedChunk}

theorem validateIndexSet_perm (h : other.Perm rows) :
    validateIndexSet other = validateIndexSet rows := by
  have hindices := h.map PersistedChunk.index
  have hsorted : (other.map (·.index)).insertionSort (· ≤ ·) =
      (rows.map (·.index)).insertionSort (· ≤ ·) :=
    List.Perm.eq_of_pairwise' (List.pairwise_insertionSort _ _) (List.pairwise_insertionSort _ _)
      ((List.perm_insertionSort _ _).trans (hindices.trans (List.perm_insertionSort _ _).symm))
  simp only [validateIndexSet, hindices.dedup.length_eq, hindices.length_eq, hsorted]

theorem nodup_of_validateIndexSet (h : validateIndexSet rows = none) :
    (rows.map (·.index)).Nodup := by
  unfold validateIndexSet at h
  dsimp only at h
  split at h
  · cases h
  · rename_i hlength
    exact List.dedup_eq_self.mp ((List.dedup_sublist _).eq_of_length (not_not.mp hlength))

/-- A sound index set puts the rows into one order. -/
theorem insertionSort_perm (hperm : other.Perm rows) (h : validateIndexSet rows = none) :
    other.insertionSort (·.index ≤ ·.index) = rows.insertionSort (·.index ≤ ·.index) :=
  (sortOn_eq_of_perm hperm.symm (nodup_of_validateIndexSet h)).symm

end Order

variable {Hash : Type*} [DecidableEq Hash] (sha256Hex : Text → Hash)

theorem reconstruct_perm {rows other : List PersistedChunk} (h : other.Perm rows)
    (stored : Option Hash) (overlapChars maxChunksGuard : ℤ) :
    reconstructCanonicalBody sha256Hex other stored overlapChars maxChunksGuard =
      reconstructCanonicalBody sha256Hex rows stored overlapChars maxChunksGuard := by
  cases stored with
  | none => rfl
  | some stored =>
      have hempty : other = [] ↔ rows = [] := by
        rw [← List.length_eq_zero_iff, ← List.length_eq_zero_iff, h.length_eq]
      simp only [reconstructCanonicalBody, validateIndexSet_perm h, hempty, h.length_eq]
      cases hvalid : validateIndexSet rows with
      | some reason => rfl
      | none => rw [insertionSort_perm h hvalid]

/-- A body that is returned has the stored hash. -/
theorem hash_of_candidate {rows : List PersistedChunk} {stored : Option Hash}
    {overlapChars maxChunksGuard : ℤ} {candidate : Text}
    (h : (reconstructCanonicalBody sha256Hex rows stored overlapChars maxChunksGuard).candidate =
      some candidate) : stored = some (sha256Hex candidate) := by
  unfold reconstructCanonicalBody at h
  cases stored with
  | none => cases h
  | some stored =>
      dsimp only at h
      split at h
      · split at h
        · rename_i hhash
          rw [hhash, ← Option.some.inj h]
        · cases h
      · split at h
        · cases h
        · split at h
          · rename_i hhash
            rw [← hhash, ← Option.some.inj h]
          · cases h

/-- No wrong body is ever returned, and the order of the rows does not matter. -/
theorem reconstruct_failsClosed (hinj : Function.Injective sha256Hex)
    (rows : List PersistedChunk) (overlapChars maxChunksGuard : ℤ) (body : Text) :
    ((reconstructCanonicalBody sha256Hex rows (some (sha256Hex body)) overlapChars
        maxChunksGuard).candidate = none ∨
      (reconstructCanonicalBody sha256Hex rows (some (sha256Hex body)) overlapChars
        maxChunksGuard).candidate = some body) ∧
    ∀ other : List PersistedChunk, other.Perm rows →
      reconstructCanonicalBody sha256Hex other (some (sha256Hex body)) overlapChars
          maxChunksGuard =
        reconstructCanonicalBody sha256Hex rows (some (sha256Hex body)) overlapChars
          maxChunksGuard := by
  constructor
  · cases hcandidate : (reconstructCanonicalBody sha256Hex rows (some (sha256Hex body))
      overlapChars maxChunksGuard).candidate with
    | none => exact .inl rfl
    | some candidate =>
        have hhash := Option.some.inj (hash_of_candidate sha256Hex hcandidate)
        exact .inr (congrArg some (hinj hhash).symm)
  · exact fun other hperm => reconstruct_perm sha256Hex hperm _ overlapChars maxChunksGuard

/-- Rows of a body in the wrong order. -/
theorem reconstruct_failsClosed_reversed :
    reconstructCanonicalBody id [⟨1, ['b']⟩, ⟨0, ['a']⟩] (some ['a', 'b']) 80 1000 =
      reconstructCanonicalBody id [⟨0, ['a']⟩, ⟨1, ['b']⟩] (some ['a', 'b']) 80 1000 :=
  (reconstruct_failsClosed id Function.injective_id [⟨0, ['a']⟩, ⟨1, ['b']⟩] 80 1000
    ['a', 'b']).2 _ (List.Perm.swap _ _ _)

end MemoryLab.CanonicalBody

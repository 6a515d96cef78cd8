import MemoryLab.Model.ScopePipeline

/-! # The best candidate of a ranking

The loop keeps the first candidate of the highest score so far, and whether another candidate has
that score too. -/

namespace MemoryLab.ScopePipeline

open Library

variable {α : Type*}

/-- What the loop variables say of the entries that were read. -/
structure Leader.Tracks (leader : Leader α) (seen : List (α × ℤ)) : Prop where
  nonneg : 0 ≤ leader.bestScore
  upper : ∀ entry ∈ seen, entry.2 ≤ leader.bestScore
  best : leader.bestScore = 0 ∧ leader.best = none ∧ leader.tied = false ∨
    0 < leader.bestScore ∧ ∃ a, leader.best = some a ∧ (a, leader.bestScore) ∈ seen ∧
      (leader.tied = true ↔ ∃ entry ∈ seen, entry.2 = leader.bestScore ∧ entry.1 ≠ a)

theorem Leader.tracks_nil : ({} : Leader α).Tracks [] where
  nonneg := le_rfl
  upper := by simp
  best := .inl ⟨rfl, rfl, rfl⟩

section Loop

variable [DecidableEq α]

theorem Leader.Tracks.step {leader : Leader α} {seen : List (α × ℤ)} (h : leader.Tracks seen)
    (entry : α × ℤ) : (leader.step entry).Tracks (seen ++ [entry]) := by
  have hnonneg := h.nonneg
  by_cases hpos : entry.2 ≤ 0
  · -- The entry is passed over.
    rw [Leader.step, if_pos hpos]
    refine ⟨hnonneg, ?_, ?_⟩
    · intro other hother
      rcases List.mem_append.mp hother with hother | hother
      · exact h.upper other hother
      · rw [List.mem_singleton.mp hother]
        omega
    · rcases h.best with hnone | ⟨hscore, a, hbest, hmem, htied⟩
      · exact .inl hnone
      · refine .inr ⟨hscore, a, hbest, List.mem_append_left _ hmem, ?_⟩
        have hlower : entry.2 ≠ leader.bestScore := by omega
        simp [htied, or_and_right, exists_or, hlower]
  · by_cases hlead : leader.bestScore < entry.2
    · -- A higher score starts anew.
      rw [Leader.step, if_neg hpos, if_pos hlead]
      refine ⟨by dsimp only; omega, ?_, .inr ⟨by dsimp only; omega, entry.1, rfl, by simp, ?_⟩⟩
      · intro other hother
        rcases List.mem_append.mp hother with hother | hother
        · exact (h.upper other hother).trans hlead.le
        · rw [List.mem_singleton.mp hother]
      · constructor
        · intro hfalse
          cases hfalse
        · rintro ⟨other, hother, hscore, hne⟩
          rcases List.mem_append.mp hother with hother | hother
          · have := h.upper other hother
            dsimp only at hscore
            omega
          · exact absurd (by rw [List.mem_singleton.mp hother]) hne
    · have hupper : ∀ other ∈ seen ++ [entry], other.2 ≤ leader.bestScore := by
        intro other hother
        rcases List.mem_append.mp hother with hother | hother
        · exact h.upper other hother
        · rw [List.mem_singleton.mp hother]
          omega
      obtain ⟨hscore, a, hbest, hmem, htied⟩ := h.best.resolve_left (by rintro ⟨hzero, _⟩; omega)
      by_cases htie : entry.2 = leader.bestScore ∧ some entry.1 ≠ leader.best
      · -- Another candidate has the score of the best one.
        rw [Leader.step, if_neg hpos, if_neg hlead, if_pos htie]
        refine ⟨hnonneg, hupper,
          .inr ⟨hscore, a, hbest, List.mem_append_left _ hmem, ?_⟩⟩
        have hother : entry.1 ≠ a := by
          rintro rfl
          exact htie.2 hbest.symm
        simp only [true_iff]
        exact ⟨entry, by simp, htie.1, hother⟩
      · rw [Leader.step, if_neg hpos, if_neg hlead, if_neg htie]
        refine ⟨hnonneg, hupper,
          .inr ⟨hscore, a, hbest, List.mem_append_left _ hmem, ?_⟩⟩
        have hsame : entry.2 = leader.bestScore → entry.1 = a := by
          intro hequal
          simpa [hequal, hbest] using htie
        rw [htied]
        constructor
        · rintro ⟨other, hother, hrest⟩
          exact ⟨other, List.mem_append_left _ hother, hrest⟩
        · rintro ⟨other, hother, hequal, hne⟩
          rcases List.mem_append.mp hother with hother | hother
          · exact ⟨other, hother, hequal, hne⟩
          · rw [List.mem_singleton.mp hother] at hequal hne
            exact absurd (hsame hequal) hne

theorem Leader.Tracks.foldl {leader : Leader α} {seen : List (α × ℤ)} (h : leader.Tracks seen)
    (scored : List (α × ℤ)) : (scored.foldl Leader.step leader).Tracks (seen ++ scored) := by
  induction scored generalizing leader seen with
  | nil => simpa using h
  | cons entry scored ih =>
      have hrest := ih (h.step entry)
      rwa [List.append_assoc] at hrest

end Loop

/-- The candidate is the only one that has the highest score, and that score is positive. -/
def UniqueTop (scored : List (α × ℤ)) (c : α) : Prop :=
  ∃ top, 0 < top ∧ (c, top) ∈ scored ∧ (∀ entry ∈ scored, entry.2 ≤ top) ∧
    ∀ entry ∈ scored, entry.2 = top → entry.1 = c

theorem uniqueTop_of_perm {scored other : List (α × ℤ)} (h : scored.Perm other) {c : α}
    (hc : UniqueTop scored c) : UniqueTop other c := by
  obtain ⟨top, hpos, hmem, hupper, honly⟩ := hc
  exact ⟨top, hpos, h.mem_iff.mp hmem, fun entry hentry => hupper entry (h.mem_iff.mpr hentry),
    fun entry hentry => honly entry (h.mem_iff.mpr hentry)⟩

theorem uniqueBest_eq_some_iff [DecidableEq α] {scored : List (α × ℤ)} {c : α} :
    uniqueBest scored = some c ↔ UniqueTop scored c := by
  have h := Leader.tracks_nil.foldl scored
  rw [List.nil_append] at h
  rw [uniqueBest]
  generalize scored.foldl Leader.step {} = final at h
  rcases h.best with ⟨hzero, hbest, htied⟩ | ⟨hpos, a, hbest, hmem, htied⟩
  · rw [hbest]
    simp only [htied]
    constructor
    · intro hnone
      cases hnone
    · rintro ⟨top, hpos, hmem, _⟩
      have := h.upper _ hmem
      dsimp only at this
      omega
  · have htop : ∀ {top : ℤ}, (∃ b, (b, top) ∈ scored) → (∀ entry ∈ scored, entry.2 ≤ top) →
        top = final.bestScore := by
      rintro top ⟨b, hb⟩ hupper
      exact le_antisymm (h.upper _ hb) (hupper _ hmem)
    constructor
    · intro hsome
      split at hsome
      · cases hsome
      · rename_i hsingle
        obtain rfl : a = c := by simpa [hbest] using hsome
        refine ⟨final.bestScore, hpos, hmem, h.upper, fun entry hentry hscore => ?_⟩
        by_contra hne
        exact hsingle (htied.mpr ⟨entry, hentry, hscore, hne⟩)
    · rintro ⟨top, _, hc, hupper, honly⟩
      obtain rfl := htop ⟨c, hc⟩ hupper
      have hac : a = c := honly _ hmem rfl
      rw [if_neg, hbest, hac]
      rw [htied]
      rintro ⟨entry, hentry, hscore, hne⟩
      exact hne ((honly entry hentry hscore).trans hac.symm)

/-- The ranking names the candidate that alone has the highest score, if that is positive, and
no candidate otherwise, in whatever order the entries come. -/
theorem uniqueBest_spec [DecidableEq α] (scored : List (α × ℤ)) :
    (∀ c, uniqueBest scored = some c ↔ UniqueTop scored c) ∧
      (uniqueBest scored = none ↔ ∀ c, ¬ UniqueTop scored c) ∧
      ∀ other, scored.Perm other → uniqueBest other = uniqueBest scored := by
  refine ⟨fun c => uniqueBest_eq_some_iff, ?_, fun other hperm => ?_⟩
  · rw [Option.eq_none_iff_forall_ne_some]
    exact forall_congr' fun c => not_congr uniqueBest_eq_some_iff
  · apply Option.ext
    intro c
    rw [uniqueBest_eq_some_iff, uniqueBest_eq_some_iff]
    exact ⟨uniqueTop_of_perm hperm.symm, uniqueTop_of_perm hperm⟩

end MemoryLab.ScopePipeline

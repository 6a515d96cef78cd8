import MemoryLab.Verification.Resolver.Equations
import MemoryLab.Verification.Scope.Slug

/-! # Every stored scope is a canonical slug -/

namespace MemoryLab.ScopePipeline

open Library Library.Rows

/-! ## Candidates -/

theorem Leader.step_best {α : Type*} [DecidableEq α] (leader : Leader α) (entry : α × ℤ) :
    (leader.step entry).best = leader.best ∨ (leader.step entry).best = some entry.1 := by
  unfold Leader.step
  split_ifs
  · exact .inl rfl
  · exact .inr rfl
  · exact .inl rfl
  · exact .inl rfl

theorem foldl_step_best {α : Type*} [DecidableEq α] (scored : List (α × ℤ)) (leader : Leader α)
    {a : α} (h : (scored.foldl Leader.step leader).best = some a) :
    leader.best = some a ∨ a ∈ scored.map (·.1) := by
  induction scored generalizing leader with
  | nil => exact .inl h
  | cons entry scored ih =>
      rcases ih (leader.step entry) h with hbest | hmem
      · rcases leader.step_best entry with hsame | hentry
        · exact .inl (hsame ▸ hbest)
        · rw [hentry] at hbest
          exact .inr (by simp [Option.some.inj hbest])
      · exact .inr (List.mem_cons_of_mem _ hmem)

theorem uniqueBest_mem {α : Type*} [DecidableEq α] {scored : List (α × ℤ)} {a : α}
    (h : uniqueBest scored = some a) : a ∈ scored.map (·.1) := by
  unfold uniqueBest at h
  dsimp only at h
  split at h
  · cases h
  · exact (foldl_step_best scored {} h).resolve_left (by simp)

/-- The lineage tier finds scopes of anchors. -/
theorem matchLineageScope_mem {anchors : List CurrentStateAnchor} {workspaceId : WorkspaceId}
    {contentText scope : Text}
    (h : matchLineageScope anchors workspaceId contentText = some scope) :
    ∃ anchor ∈ anchors, anchor.scope = scope := by
  unfold matchLineageScope at h
  dsimp only at h
  split at h
  · cases h
  · have hmem := uniqueBest_mem h
    rw [List.map_map, List.mem_map] at hmem
    obtain ⟨candidate, hcandidate, rfl⟩ := hmem
    have hlineage := List.mem_of_mem_take (List.mem_filter.mp hcandidate).1
    rw [List.mem_insertionSort, List.mem_dedup, List.mem_map] at hlineage
    obtain ⟨anchor, hanchor, rfl⟩ := hlineage
    exact ⟨anchor, (List.mem_filter.mp hanchor).1, rfl⟩

theorem matchHubScope_slug {hubs : List Hub} {workspaceId : WorkspaceId}
    {contentText scope : Text} (h : matchHubScope hubs workspaceId contentText = some scope) :
    ∃ title, scope = slugifyScope title := by
  unfold matchHubScope at h
  dsimp only at h
  split at h
  · cases h
  · split at h
    · split at h
      · cases h
      · cases h
        exact ⟨_, rfl⟩
    · cases h

/-! ## The pipeline -/

def AnchorScopesCanonical (db : Database) : Prop :=
  ∀ anchor ∈ db.anchors, CanonicalSlug anchor.scope

theorem resolveScope_of_hint (db : Database) {request : ScopeRequest}
    (h : nonBlank request.scopeHint = true) :
    resolveScope db request = ⟨slugifyScope request.scopeHint, .scopeHint⟩ := by
  rw [resolveScope, if_pos h]

theorem resolveScope_canonical {db : Database} (h : AnchorScopesCanonical db)
    (request : ScopeRequest) : CanonicalSlug (resolveScope db request).scope := by
  unfold resolveScope
  dsimp only
  split
  · exact slugifyScope_canonical _
  · split
    · exact slugifyScope_canonical _
    · split
      · rename_i scope hlineage
        obtain ⟨hsome, -⟩ := Option.filter_eq_some_iff.mp hlineage
        obtain ⟨workspaceId, -, hmatch⟩ := Option.bind_eq_some_iff.mp hsome
        split at hmatch
        · cases hmatch
        · obtain ⟨anchor, hanchor, rfl⟩ := matchLineageScope_mem hmatch
          exact h anchor hanchor
      · rename_i scope _ hhub
        obtain ⟨hsome, -⟩ := Option.filter_eq_some_iff.mp hhub
        obtain ⟨workspaceId, -, hmatch⟩ := Option.bind_eq_some_iff.mp hsome
        split at hmatch
        · cases hmatch
        · obtain ⟨title, rfl⟩ := matchHubScope_slug hmatch
          exact slugifyScope_canonical _
      · split_ifs
        · exact slugifyScope_canonical _
        · exact slugifyScope_canonical _
        · exact canonicalSlug_global

end MemoryLab.ScopePipeline

namespace MemoryLab.Resolver

open Library Library.Rows ScopePipeline

/-- A resolver call stores no scope but a canonical one. -/
theorem resolveStep_scopesCanonical {db : Database} (h : AnchorScopesCanonical db)
    (call : ResolveCall) : AnchorScopesCanonical (resolveStep db call) := by
  by_cases htakes : ∃ admitted stateIdentity, TakesOver db call.args admitted stateIdentity
  · obtain ⟨admitted, stateIdentity, htakes⟩ := htakes
    rw [htakes.resolveStep_eq]
    intro anchor hmem
    rcases List.mem_append.mp hmem with hmem | hmem
    · rcases mem_supersedeActive.mp hmem with ⟨hold, -⟩ | ⟨old, hold, -, rfl⟩
      · exact h anchor hold
      · exact h old hold
    · rw [List.mem_singleton.mp hmem]
      exact resolveScope_canonical h call.args.scopeRequest
  · generalize hnext : resolveStep db call = next
    have heffect : StepEffect db call.now call.args next := hnext ▸ resolveStep_effect db call
    cases heffect with
    | unchanged => exact h
    | grouped => exact h
    | refreshed => exact h
    | tookOver _ htook => exact (htakes ⟨_, _, htook⟩).elim

end MemoryLab.Resolver

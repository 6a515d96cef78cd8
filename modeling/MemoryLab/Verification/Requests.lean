import MemoryLab.Library.Runs
import MemoryLab.Verification.Save.Consistency
import MemoryLab.Verification.Tiers.Frame

/-! # What every request keeps -/

namespace MemoryLab.Adapter

open Library Library.Rows Library.Transaction Resolver

theorem summarize_decorates {db next : Database} {fault : Fault DbError} {args : PromoteArgs}
    {workspaceId : WorkspaceId} {created : SaveResponse}
    (h : summarize db fault args workspaceId created = .ok next) : Decorates db next := by
  unfold summarize at h
  split at h
  · refine transact_decorates (fun statement hmem _ _ => ?_) h
    rw [List.mem_singleton] at hmem
    subst hmem
    exact setQuickSummary_decorates
  · cases h
    exact Decorates.refl db

/-- A promotion leaves what its save leaves, up to the summary, or nothing. -/
theorem promote_preserves {P : Database → Prop}
    (hdecorates : ∀ db next, Decorates db next → P db → P next) {contentHashOf : Text → Text}
    {db : Database} {args : PromoteArgs} {env : PromoteEnvironment} (hdb : P db)
    (hcreate : P (createContentMinimal contentHashOf db args.saveArgs
      env.toSaveEnvironment).1) :
    P (trustedPromoteCurrentState contentHashOf db args env).1 := by
  unfold trustedPromoteCurrentState
  split
  · exact hdb
  · split
    · exact hdb
    · dsimp only
      generalize createContentMinimal contentHashOf db args.saveArgs env.toSaveEnvironment =
        outcome at hcreate ⊢
      obtain ⟨next, error | created⟩ := outcome
      · exact hcreate
      · dsimp only
        split
        · exact hcreate
        · rename_i summarized hsummarize
          have hsummarized := hdecorates _ _ (summarize_decorates hsummarize) hcreate
          split
          · exact hsummarized
          · exact hsummarized

theorem serve_consistent (contentHashOf : Text → Text) {db : Database} (h : Consistent db)
    (request : Request) : Consistent (serve contentHashOf db request) := by
  cases request with
  | save args env => exact createContentMinimal_consistent contentHashOf h args env
  | promote args env =>
      exact promote_preserves (fun _ _ hdecorates => hdecorates.consistent) h
        (createContentMinimal_consistent contentHashOf h _ _)
  | resolve call => exact resolveStep_consistent h call
  | tier operation => exact (TierOperations.tierStep_decorates db operation).consistent h

/-! ## One active anchor -/

theorem createContentMinimal_singleActive (contentHashOf : Text → Text) {db : Database}
    (h : SingleActive db.anchors) (args : SaveArgs) (env : SaveEnvironment) :
    SingleActive (createContentMinimal contentHashOf db args env).1.anchors :=
  create_preserves (P := fun db => SingleActive db.anchors)
    (fun _ _ hdecorates hsingle => hdecorates.anchors ▸ hsingle)
    (fun db call => (resolveStep_effect db call).singleActive) (fun _ => h)
    (fun _ hwritten hsingle => hwritten.anchors ▸ hsingle) h

theorem serve_singleActive (contentHashOf : Text → Text) {db : Database}
    (h : SingleActive db.anchors) (request : Request) :
    SingleActive (serve contentHashOf db request).anchors := by
  cases request with
  | save args env => exact createContentMinimal_singleActive contentHashOf h args env
  | promote args env =>
      exact promote_preserves (P := fun db => SingleActive db.anchors)
        (fun _ _ hdecorates hsingle => hdecorates.anchors ▸ hsingle) h
        (createContentMinimal_singleActive contentHashOf h _ _)
  | resolve call => exact (resolveStep_effect db call).singleActive h
  | tier operation =>
      exact (TierOperations.tierStep_decorates db operation).anchors ▸ h

end MemoryLab.Adapter

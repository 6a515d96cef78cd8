import MemoryLab.Verification.Promotion.Equations

/-! # When a promotion restores a content

Promoting a content again inserts its row again, which the index on the hashes of a workspace
does not let through. -/

namespace MemoryLab.Adapter

open Library Library.Rows Library.Transaction Library.Runs Resolver

/-- No transaction of the promotion is struck. -/
structure Faultless (env : PromoteEnvironment) : Prop where
  save : env.faults = {}
  before : env.beforeFault = none
  summary : env.summaryFault = none
  chain : env.chainFault = none

/-- The row of a content in a workspace, with its body. -/
structure HoldsContent (contentHashOf : Text → Text) (db : Database) (workspaceId : WorkspaceId)
    (content : Text) (item : ContentItem) : Prop where
  mem : item ∈ db.contentItems
  workspace : item.workspaceId = some workspaceId
  hash : item.contentHash = some (contentHashOf content)
  body : storedBody db item.contentId = bodyRows content

/-- The promotion answers, and its content is the content of the one active anchor of its
key. -/
def RestoresContent (contentHashOf : Text → Text) (db : Database) (args : PromoteArgs)
    (env : PromoteEnvironment) : Prop :=
  ∃ workspaceId next response, args.workspaceId = some workspaceId ∧
    trustedPromoteCurrentState contentHashOf db args env = (next, .ok response) ∧
    ∃ anchor item, activeOf (args.key workspaceId) next.anchors = [anchor] ∧
      anchor.contentId = some item.contentId ∧
      HoldsContent contentHashOf next workspaceId args.content item

/-- The promotion names a workspace and an identity, its texts can be stored, and no row of the
workspace has the hash of its content. -/
structure Unsaved (contentHashOf : Text → Text) (db : Database) (args : PromoteArgs) : Prop where
  workspace : args.workspaceId.isSome = true
  identity : args.stateIdentity ≠ []
  storable_identity : storable args.stateIdentity = true
  storable_scope : storable args.scope = true
  storable_subject : storable (args.createdBySubject.getD []) = true
  storable_summary : storable (args.quickSummary.getD []) = true
  storable_rows : ∀ row ∈ bodyRows args.content, storable row.2 = true
  fresh : ∀ item ∈ db.contentItems, item.contentHash = some (contentHashOf args.content) →
    item.workspaceId ≠ args.workspaceId

/-! ## One promotion -/

section Promotion

variable {contentHashOf : Text → Text} {db : Database} {args : PromoteArgs}
  {env : PromoteEnvironment}

theorem Faultless.undisturbed (h : Faultless env) (db : Database) (args : PromoteArgs) :
    Undisturbed db args env := by
  rw [Undisturbed, h.save]
  exact ⟨spares_none _, rfl⟩

theorem Unsaved.inserts (h : Unsaved contentHashOf db args) (hfaultless : Faultless env) :
    Inserts contentHashOf db args.saveArgs env.toSaveEnvironment where
  trusted := trustError_promote h.identity
  lookup := by intro hskip; cases hskip
  persists := shouldPersist_promote args _
  insert := by rw [hfaultless.save]; exact spares_none _
  storable_subject := h.storable_subject
  unique := hashTaken_eq_false.mpr fun _ => h.fresh

theorem Unsaved.commits (h : Unsaved contentHashOf db args) (hfaultless : Faultless env) :
    CommitsBody args.saveArgs env.toSaveEnvironment where
  scores := by rw [hfaultless.save]; exact spares_none _
  body := by rw [hfaultless.save]; exact spares_none _
  storable_rows := h.storable_rows

/-- A promotion of a content that the workspace does not have goes through. -/
theorem Unsaved.promote_ok (h : Unsaved contentHashOf db args) (hfaultless : Faultless env) :
    ∃ next response, trustedPromoteCurrentState contentHashOf db args env =
      (next, .ok response) := by
  obtain ⟨workspaceId, hworkspace⟩ := Option.isSome_iff_exists.mp h.workspace
  have hlist : listCurrentStateAnchors db env.beforeFault args.query =
      .ok (anchorRows db args.query) :=
    (listCurrentStateAnchors_eq_ok args.query hworkspace).mpr
      ⟨h.storable_scope, h.storable_identity, by rw [hfaultless.before]; exact spares_none _, rfl⟩
  obtain ⟨written, -, hstore⟩ := storeContent_of_commits (h.inserts hfaultless).persists
    (freshId_mem_insertedRow contentHashOf db args.saveArgs env.toSaveEnvironment)
    (h.commits hfaultless)
  obtain ⟨summarized, hsummarize⟩ := exists_summarize
    (enrich written args.saveArgs env.toSaveEnvironment (freshId db.contentIds)).1 workspaceId
    (enrich written args.saveArgs env.toSaveEnvironment (freshId db.contentIds)).2
    h.storable_summary
  obtain ⟨chain, hchain⟩ : ∃ chain, currentStateSupersessionChain summarized env.chainFault
      (args.key workspaceId) = .ok chain := currentStateSupersessionChain_eq_ok.mpr
    ⟨h.storable_identity, by rw [hfaultless.chain]; exact spares_none _⟩
  rw [← hfaultless.summary] at hsummarize
  unfold PromoteArgs.key at hchain
  unfold trustedPromoteCurrentState
  simp only [hworkspace, hlist, create_of_inserts (h.inserts hfaultless), hstore, hsummarize,
    hchain]
  exact ⟨_, _, rfl⟩

theorem Promoted.unsaved {workspaceId : WorkspaceId} {next : Database}
    {response : PromoteResponse}
    (h : Promoted contentHashOf db args env workspaceId next response) :
    Unsaved contentHashOf db args where
  workspace := by rw [h.workspace]; rfl
  identity := h.identity
  storable_identity := h.storable_identity
  storable_scope := h.storable_scope
  storable_subject := h.inserts.storable_subject
  storable_summary := h.storable_summary
  storable_rows := h.commits.storable_rows
  fresh := hashTaken_eq_false.mp h.inserts.unique (by
    simp only [PromoteArgs.saveArgs, h.workspace, Option.isSome_some])

/-- The new row of a promotion holds its content. -/
theorem Promoted.holdsContent {workspaceId : WorkspaceId} {next : Database}
    {response : PromoteResponse}
    (h : Promoted contentHashOf db args env workspaceId next response) :
    ∃ item, item.contentId = freshId db.contentIds ∧
      HoldsContent contentHashOf next workspaceId args.content item := by
  obtain ⟨written, hwritten, hcreate⟩ := h.written
  have hkeeps : KeepsBodies written next := by
    refine KeepsBodies.trans ?_ h.saved.toKeepsBodies
    rw [hcreate]
    exact enrich_keepsBodies ..
  have hkey : (freshId db.contentIds, some workspaceId, some (contentHashOf args.content)) ∈
      next.contentItems.map rowKey := by
    rw [hkeeps.rows, hwritten.keys, ← h.workspace]
    simp [insertedRow, newContentItem, rowKey, PromoteArgs.saveArgs, SaveArgs.body]
  obtain ⟨item, hitem, hrow⟩ := List.mem_map.mp hkey
  simp only [rowKey, Prod.mk.injEq] at hrow
  refine ⟨item, hrow.1, hitem, hrow.2.1, hrow.2.2, ?_⟩
  rw [hkeeps.storedBody, hrow.1, hwritten.body]

theorem restoresContent_iff (hstored : AnchorsStored db) (hfaultless : Faultless env) :
    RestoresContent contentHashOf db args env ↔ Unsaved contentHashOf db args := by
  constructor
  · rintro ⟨-, next, response, -, hok, -⟩
    obtain ⟨workspaceId, hpromoted⟩ := promoted_of_ok hok
    exact hpromoted.unsaved
  · intro hunsaved
    obtain ⟨next, response, hok⟩ := hunsaved.promote_ok hfaultless
    obtain ⟨workspaceId, hpromoted⟩ := promoted_of_ok hok
    obtain ⟨item, hid, hholds⟩ := hpromoted.holdsContent
    obtain ⟨classified, -, htakes, hanchors⟩ :=
      hpromoted.takesOver hstored (hfaultless.undisturbed db args)
    have hactive := activeOf_takeOver_self htakes env.now
      (promotedScope classified args (freshId db.contentIds))
    rw [← hanchors] at hactive
    refine ⟨workspaceId, next, response, hpromoted.workspace, hok, _, item, hactive, ?_, hholds⟩
    rw [hid]
    rfl

end Promotion

/-! ## Histories -/

/-- A faultless promotion restores its content. -/
def restores (contentHashOf : Text → Text) (db : Database) : Request → Prop
  | .promote args env => Faultless env → RestoresContent contentHashOf db args env
  | _ => True

/-- A faultless promotion's content is not saved yet. -/
def unsaved (contentHashOf : Text → Text) (db : Database) : Request → Prop
  | .promote args env => Faultless env → Unsaved contentHashOf db args
  | _ => True

/-- Along any history, every faultless promotion leaves its content active exactly when no row
of its workspace has the hash of that content when its turn comes. -/
theorem promotions_restore_iff (contentHashOf : Text → Text) {db : Database}
    (hconsistent : Consistent db) (requests : List Request) :
    Guarded (serve contentHashOf) (restores contentHashOf) db requests ↔
      Guarded (serve contentHashOf) (unsaved contentHashOf) db requests := by
  refine guarded_congr hconsistent (fun db request h => serve_consistent contentHashOf h request)
    (fun db request h => ?_) requests
  cases request with
  | promote args env =>
      exact forall_congr' fun hfaultless => restoresContent_iff h.anchor_content hfaultless
  | save args env => exact Iff.rfl
  | resolve call => exact Iff.rfl
  | tier operation => exact Iff.rfl

/-- Two contents are promoted one after the other. -/
theorem promotions_restore_launch :
    let promote (content : String) : Request :=
      .promote { content := content.toList, workspaceId := some 1, memoryType := .decision,
                 stateIdentity := "launch".toList }
        { event := { scores := ⟨1, 1, 1, 1⟩ } }
    Guarded (serve id) (restores id) {} [promote "June", promote "July"] := by
  intro promote
  refine (promotions_restore_iff id consistent_empty _).mpr ⟨fun _ => ?_, fun _ => ?_, trivial⟩
  · exact ⟨rfl, by decide, by decide, by decide, by decide, by decide, by decide +kernel,
      by decide⟩
  · exact ⟨rfl, by decide, by decide, by decide, by decide, by decide, by decide +kernel,
      by decide +kernel⟩

/-- The first content is promoted again, which the index refuses. -/
theorem not_restores_again :
    let args (content : String) : PromoteArgs :=
      { content := content.toList, workspaceId := some 1, memoryType := .decision,
        stateIdentity := "launch".toList }
    let env : PromoteEnvironment := { event := { scores := ⟨1, 1, 1, 1⟩ } }
    let promote (content : String) : Request := .promote (args content) env
    ¬ Guarded (serve id) (restores id) {} [promote "June", promote "July", promote "June"] := by
  intro args env promote h
  obtain ⟨-, next, response, -, hok, -⟩ := h.2.2.1 ⟨rfl, rfl, rfl, rfl⟩
  have herror : (trustedPromoteCurrentState id
      (serve id (serve id {} (promote "June")) (promote "July")) (args "June") env).2 =
      .error (.database .uniqueViolation) := by decide +kernel
  rw [hok] at herror
  cases herror

end MemoryLab.Adapter

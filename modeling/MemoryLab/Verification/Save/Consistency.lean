import MemoryLab.Verification.Save.Equations

/-! # A save keeps what the schema declares -/

namespace MemoryLab.Adapter

open Library Library.Rows Library.Transaction Resolver

/-- The keys and references that the migrations declare. -/
structure Consistent (db : Database) : Prop where
  contentId_nodup : db.contentIds.Nodup
  hash_unique : ∀ first ∈ db.contentItems.map rowKey, ∀ second ∈ db.contentItems.map rowKey,
    first.2.1.isSome = true → first.2.2.isSome = true → first.2 = second.2 → first = second
  chunk_content : ∀ contentId, contentId ∉ db.contentIds → storedBody db contentId = []
  chunk_unique : ∀ contentId, ((storedBody db contentId).map (·.1)).Nodup
  anchor_content : AnchorsStored db

theorem consistent_empty : Consistent {} := by
  refine ⟨List.nodup_nil, by simp, fun _ _ => rfl, fun _ => List.nodup_nil, ?_⟩
  intro anchor hmem
  cases hmem

theorem KeepsBodies.consistent {db next : Database} (h : KeepsBodies db next)
    (hconsistent : Consistent db) (hanchors : AnchorsStored next) : Consistent next where
  contentId_nodup := h.contentIds ▸ hconsistent.contentId_nodup
  hash_unique := h.rows ▸ hconsistent.hash_unique
  chunk_content := h.storedBody ▸ h.contentIds ▸ hconsistent.chunk_content
  chunk_unique := h.storedBody ▸ hconsistent.chunk_unique
  anchor_content := hanchors

theorem Decorates.anchorsStored {db next : Database} (h : Decorates db next)
    (hstored : AnchorsStored db) : AnchorsStored next := by
  intro anchor hmem contentId hcontent
  rw [h.contentIds]
  exact hstored anchor (h.anchors ▸ hmem) contentId hcontent

theorem Decorates.consistent {db next : Database} (h : Decorates db next)
    (hconsistent : Consistent db) : Consistent next :=
  h.toKeepsBodies.consistent hconsistent (h.anchorsStored hconsistent.anchor_content)

theorem contentIds_keys (db : Database) :
    db.contentIds = (db.contentItems.map rowKey).map (·.1) := by
  rw [List.map_map]
  rfl

theorem hashTaken_eq_false {db : Database} {args : SaveArgs} {contentHash : Text} :
    hashTaken db args contentHash = false ↔
      (args.workspaceId.isSome = true → ∀ item ∈ db.contentItems,
        item.contentHash = some contentHash → item.workspaceId ≠ args.workspaceId) := by
  cases hworkspace : args.workspaceId.isSome <;>
    simp [hashTaken, hasContentHash, hworkspace, List.any_eq_false]

theorem insertedRow_contentIds (contentHashOf : Text → Text) (db : Database) (args : SaveArgs)
    (env : SaveEnvironment) :
    (insertedRow contentHashOf db args env).contentIds =
      db.contentIds ++ [freshId db.contentIds] := by
  simp [insertedRow, Database.contentIds, newContentItem]

theorem insertedRow_consistent {contentHashOf : Text → Text} {db : Database} {args : SaveArgs}
    {env : SaveEnvironment} (hunique : hashTaken db args (contentHashOf args.body) = false)
    (h : Consistent db) : Consistent (insertedRow contentHashOf db args env) := by
  have hkeys : (insertedRow contentHashOf db args env).contentItems.map rowKey =
      db.contentItems.map rowKey ++
        [(freshId db.contentIds, args.workspaceId, some (contentHashOf args.body))] := by
    simp [insertedRow, rowKey, newContentItem]
  have hnew : args.workspaceId.isSome = true → ∀ key ∈ db.contentItems.map rowKey,
      key.2 ≠ (args.workspaceId, some (contentHashOf args.body)) := by
    rintro hworkspace key hkey heq
    obtain ⟨item, hitem, rfl⟩ := List.mem_map.mp hkey
    simp only [rowKey, Prod.mk.injEq] at heq
    exact hashTaken_eq_false.mp hunique hworkspace item hitem heq.2 heq.1
  refine ⟨?_, ?_, fun contentId hcontent => ?_, h.chunk_unique,
    fun anchor hmem contentId hcontent => ?_⟩
  · rw [insertedRow_contentIds]
    exact h.contentId_nodup.append (List.nodup_singleton _)
      (List.disjoint_singleton.mpr (freshId_notMem _))
  · rw [hkeys]
    intro first hfirst second hsecond hworkspace hhash heq
    rcases List.mem_append.mp hfirst with hfirst | hfirst <;>
      rcases List.mem_append.mp hsecond with hsecond | hsecond
    · exact h.hash_unique first hfirst second hsecond hworkspace hhash heq
    · rw [List.mem_singleton] at hsecond
      subst hsecond
      exact (hnew (by rw [← hworkspace, heq]) first hfirst heq).elim
    · rw [List.mem_singleton] at hfirst
      subst hfirst
      exact (hnew hworkspace second hsecond heq.symm).elim
    · rw [List.mem_singleton] at hfirst hsecond
      rw [hfirst, hsecond]
  · refine h.chunk_content contentId fun hmem => hcontent ?_
    rw [insertedRow_contentIds]
    exact List.mem_append_left _ hmem
  · rw [insertedRow_contentIds]
    exact List.mem_append_left _ (h.anchor_content anchor hmem contentId hcontent)

theorem Written.contentIds {db written : Database} {contentId : ContentId}
    {rows : List (ℕ × Text)} (h : Written db written contentId rows) :
    written.contentIds = db.contentIds := by
  rw [contentIds_keys, contentIds_keys, h.keys]

theorem Written.consistent {db written : Database} {contentId : ContentId} {content : Text}
    (h : Written db written contentId (bodyRows content)) (hmem : contentId ∈ db.contentIds)
    (hconsistent : Consistent db) : Consistent written := by
  refine ⟨h.contentIds ▸ hconsistent.contentId_nodup, h.keys ▸ hconsistent.hash_unique,
    fun other hother => ?_, fun other => ?_, fun anchor hanchor other hcontent => ?_⟩
  · rw [h.contentIds] at hother
    rw [h.bodies other fun heq => hother (heq ▸ hmem)]
    exact hconsistent.chunk_content other hother
  · by_cases hother : other = contentId
    · rw [hother, h.body]
      exact bodyRows_indices_nodup content
    · rw [h.bodies other hother]
      exact hconsistent.chunk_unique other
  · rw [h.contentIds]
    exact hconsistent.anchor_content anchor (h.anchors ▸ hanchor) other hcontent

/-! ## The save -/

theorem resolveStep_consistent {db : Database} (h : Consistent db) (call : ResolveCall) :
    Consistent (resolveStep db call) :=
  (resolveStep_keepsBodies db call).consistent h
    ((resolveStep_effect db call).anchorsStored h.anchor_content)

theorem freshId_mem_insertedRow (contentHashOf : Text → Text) (db : Database)
    (args : SaveArgs) (env : SaveEnvironment) :
    freshId db.contentIds ∈ (insertedRow contentHashOf db args env).contentIds := by
  rw [insertedRow_contentIds]
  exact List.mem_append_right _ (List.mem_singleton_self _)

/-- The rule for what a save keeps: it survives the insertion of the row, the commit of the
body, decorating statements and resolver calls. -/
theorem create_preserves {P : Database → Prop}
    (hdecorates : ∀ db next, Decorates db next → P db → P next)
    (hresolve : ∀ db call, P db → P (resolveStep db call))
    {contentHashOf : Text → Text} {db : Database} {args : SaveArgs} {env : SaveEnvironment}
    (hinsert : Inserts contentHashOf db args env → P (insertedRow contentHashOf db args env))
    (hwrite : ∀ written, Written (insertedRow contentHashOf db args env) written
      (freshId db.contentIds) (bodyRows args.body) →
      P (insertedRow contentHashOf db args env) → P written) (hdb : P db) :
    P (createContentMinimal contentHashOf db args env).1 := by
  by_cases hinserts : Inserts contentHashOf db args env
  · rw [create_of_inserts hinserts]
    by_cases hcommits : CommitsBody args env
    · obtain ⟨written, hwritten, hstore⟩ := storeContent_of_commits hinserts.persists
        (freshId_mem_insertedRow contentHashOf db args env) hcommits
      rw [hstore]
      exact enrich_preserves hdecorates hresolve (hwrite written hwritten (hinsert hinserts)) args
        env _
    · obtain ⟨left, error, hleft, hstore⟩ := storeContent_of_not_commits
        (insertedRow contentHashOf db args env) (freshId db.contentIds) hcommits
      rw [hstore]
      exact hdecorates _ _ hleft (hinsert hinserts)
  · rw [(create_of_not_inserts hinserts).1]
    exact hdb

theorem createContentMinimal_consistent (contentHashOf : Text → Text) {db : Database}
    (h : Consistent db) (args : SaveArgs) (env : SaveEnvironment) :
    Consistent (createContentMinimal contentHashOf db args env).1 :=
  create_preserves (fun _ _ hdecorates => hdecorates.consistent)
    (fun _ call hdb => resolveStep_consistent hdb call)
    (fun hinserts => insertedRow_consistent hinserts.unique h)
    (fun _ hwritten => hwritten.consistent (freshId_mem_insertedRow ..)) h

end MemoryLab.Adapter

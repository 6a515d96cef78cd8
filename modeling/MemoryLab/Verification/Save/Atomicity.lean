import MemoryLab.Verification.Requests

/-! # When a row and its body are saved together

The row is committed before its body, and the lookup for duplicates asks for the row only. -/

namespace MemoryLab.Adapter

open Library Library.Rows Library.Transaction Library.Runs Resolver

/-- Every row with the hash of the content is an old one, or its body is stored. -/
def AtomicSave (contentHashOf : Text → Text) (db : Database) (args : SaveArgs)
    (env : SaveEnvironment) : Prop :=
  let next := (createContentMinimal contentHashOf db args env).1
  ∀ item ∈ next.contentItems, item.workspaceId = args.workspaceId →
    item.contentHash = some (contentHashOf args.body) →
    item.contentId ∈ db.contentIds ∨ storedBody next item.contentId = bodyRows args.body

/-- A save that inserts its row has no chunk to store or commits all of them. -/
def SavesBody (contentHashOf : Text → Text) (db : Database) (args : SaveArgs)
    (env : SaveEnvironment) : Prop :=
  Inserts contentHashOf db args env → bodyRows args.body = [] ∨ CommitsBody args env

/-- Every row with a hash has the body of a content with that hash. -/
def BodiesStored (contentHashOf : Text → Text) (db : Database) : Prop :=
  ∀ item ∈ db.contentItems, ∀ contentHash, item.contentHash = some contentHash →
    ∃ content, contentHashOf content = contentHash ∧
      storedBody db item.contentId = bodyRows content

/-- Every duplicate answer points at a row of that hash whose body is stored. -/
def DuplicatesStored (contentHashOf : Text → Text) (db : Database) : Prop :=
  ∀ args env response, (createContentMinimal contentHashOf db args env).2 = .ok response →
    response.duplicate = true →
    response.persisted = true ∧ ∃ item ∈ db.contentItems,
      response.contentId = some item.contentId ∧
      item.contentHash = some (contentHashOf args.body) ∧
      ∃ content, contentHashOf content = contentHashOf args.body ∧
        storedBody db item.contentId = bodyRows content

/-! ## One save -/

/-- The state after a save that inserted its row. -/
structure SavedRow (contentHashOf : Text → Text) (db : Database) (args : SaveArgs)
    (env : SaveEnvironment) (next : Database) : Prop where
  keys : next.contentItems.map rowKey = db.contentItems.map rowKey ++
    [(freshId db.contentIds, args.workspaceId, some (contentHashOf args.body))]
  bodies : ∀ other, other ≠ freshId db.contentIds → storedBody next other = storedBody db other
  committed : CommitsBody args env → storedBody next (freshId db.contentIds) = bodyRows args.body
  lost : ¬ CommitsBody args env →
    storedBody next (freshId db.contentIds) = storedBody db (freshId db.contentIds)

theorem savedRow_of_inserts {contentHashOf : Text → Text} {db : Database} {args : SaveArgs}
    {env : SaveEnvironment} (h : Inserts contentHashOf db args env) :
    SavedRow contentHashOf db args env (createContentMinimal contentHashOf db args env).1 := by
  have hkeys : (insertedRow contentHashOf db args env).contentItems.map rowKey =
      db.contentItems.map rowKey ++
        [(freshId db.contentIds, args.workspaceId, some (contentHashOf args.body))] := by
    simp [insertedRow, rowKey, newContentItem]
  rw [create_of_inserts h]
  by_cases hcommits : CommitsBody args env
  · obtain ⟨written, hwritten, hstore⟩ := storeContent_of_commits h.persists
      (freshId_mem_insertedRow contentHashOf db args env) hcommits
    have hkeeps := enrich_keepsBodies written args env (freshId db.contentIds)
    rw [hstore]
    refine ⟨?_, fun other hother => ?_, fun _ => ?_, fun hlost => (hlost hcommits).elim⟩
    · rw [hkeeps.rows, hwritten.keys, hkeys]
    · rw [hkeeps.storedBody, hwritten.bodies other hother]
      rfl
    · rw [hkeeps.storedBody, hwritten.body]
  · obtain ⟨left, error, hleft, hstore⟩ := storeContent_of_not_commits
      (insertedRow contentHashOf db args env) (freshId db.contentIds) hcommits
    rw [hstore]
    refine ⟨?_, fun other _ => ?_, fun hcommitted => (hcommits hcommitted).elim, fun _ => ?_⟩
    · rw [hleft.rows, hkeys]
    · rw [hleft.storedBody]
      rfl
    · rw [hleft.storedBody]
      rfl

/-- The new row has the body that the save gave it. -/
theorem SavedRow.body_iff {contentHashOf : Text → Text} {db next : Database} {args : SaveArgs}
    {env : SaveEnvironment} (h : SavedRow contentHashOf db args env next)
    (hconsistent : Consistent db) :
    storedBody next (freshId db.contentIds) = bodyRows args.body ↔
      bodyRows args.body = [] ∨ CommitsBody args env := by
  by_cases hcommits : CommitsBody args env
  · exact iff_of_true (h.committed hcommits) (.inr hcommits)
  · rw [h.lost hcommits, hconsistent.chunk_content _ (freshId_notMem _), or_iff_left hcommits]
    exact eq_comm

theorem atomicSave_iff (contentHashOf : Text → Text) {db : Database}
    (hconsistent : Consistent db) (args : SaveArgs) (env : SaveEnvironment) :
    AtomicSave contentHashOf db args env ↔ SavesBody contentHashOf db args env := by
  by_cases hinserts : Inserts contentHashOf db args env
  · have hsaved := savedRow_of_inserts hinserts
    rw [SavesBody, forall_prop_of_true hinserts, ← hsaved.body_iff hconsistent]
    unfold AtomicSave
    dsimp only
    generalize (createContentMinimal contentHashOf db args env).1 = next at hsaved ⊢
    constructor
    · intro hatomic
      have hkey : (freshId db.contentIds, args.workspaceId, some (contentHashOf args.body)) ∈
          next.contentItems.map rowKey := by
        rw [hsaved.keys]
        exact List.mem_append_right _ (List.mem_singleton_self _)
      obtain ⟨item, hitem, hrow⟩ := List.mem_map.mp hkey
      simp only [rowKey, Prod.mk.injEq] at hrow
      have hbody := hatomic item hitem hrow.2.1 hrow.2.2
      rw [hrow.1] at hbody
      exact hbody.resolve_left (freshId_notMem _)
    · intro hbody item hitem _ _
      have hkey : rowKey item ∈ next.contentItems.map rowKey := List.mem_map_of_mem hitem
      rw [hsaved.keys] at hkey
      rcases List.mem_append.mp hkey with hold | hnew
      · refine .inl ?_
        rw [contentIds_keys]
        exact List.mem_map_of_mem (f := fun key => key.1) hold
      · rw [List.mem_singleton] at hnew
        simp only [rowKey, Prod.mk.injEq] at hnew
        exact .inr (hnew.1 ▸ hbody)
  · refine iff_of_true (fun item hitem _ _ => .inl ?_) fun h => (hinserts h).elim
    rw [(create_of_not_inserts hinserts).1] at hitem
    exact List.mem_map_of_mem hitem

/-! ## Runs -/

theorem bodiesStored_iff_keys {contentHashOf : Text → Text} {db : Database} :
    BodiesStored contentHashOf db ↔
      ∀ key ∈ db.contentItems.map rowKey, ∀ contentHash, key.2.2 = some contentHash →
        ∃ content, contentHashOf content = contentHash ∧
          storedBody db key.1 = bodyRows content := by
  simp [BodiesStored, rowKey]

theorem KeepsBodies.bodiesStored {contentHashOf : Text → Text} {db next : Database}
    (h : KeepsBodies db next) (hstored : BodiesStored contentHashOf db) :
    BodiesStored contentHashOf next := by
  rw [bodiesStored_iff_keys] at hstored ⊢
  rw [h.rows, h.storedBody]
  exact hstored

theorem create_bodiesStored {contentHashOf : Text → Text} {db : Database}
    (hconsistent : Consistent db) (hstored : BodiesStored contentHashOf db) {args : SaveArgs}
    {env : SaveEnvironment} (hsaves : SavesBody contentHashOf db args env) :
    BodiesStored contentHashOf (createContentMinimal contentHashOf db args env).1 := by
  by_cases hinserts : Inserts contentHashOf db args env
  · have hsaved := savedRow_of_inserts hinserts
    have hbody := (hsaved.body_iff hconsistent).mpr (hsaves hinserts)
    rw [bodiesStored_iff_keys] at hstored ⊢
    intro key hkey contentHash hhash
    rw [hsaved.keys] at hkey
    rcases List.mem_append.mp hkey with hold | hnew
    · have hne : key.1 ≠ freshId db.contentIds := by
        intro heq
        refine freshId_notMem db.contentIds ?_
        rw [← heq, contentIds_keys]
        exact List.mem_map_of_mem (f := fun key => key.1) hold
      rw [hsaved.bodies key.1 hne]
      exact hstored key hold contentHash hhash
    · rw [List.mem_singleton] at hnew
      subst hnew
      exact ⟨args.body, Option.some.inj hhash, hbody⟩
  · rw [(create_of_not_inserts hinserts).1]
    exact hstored

/-- The condition on a request: its save, if it has one, stores the body. -/
def savesBody (contentHashOf : Text → Text) (db : Database) : Request → Prop
  | .save args env => SavesBody contentHashOf db args env
  | .promote args env => SavesBody contentHashOf db args.saveArgs env.toSaveEnvironment
  | _ => True

theorem serve_bodiesStored {contentHashOf : Text → Text} {db : Database}
    (hconsistent : Consistent db) (hstored : BodiesStored contentHashOf db) {request : Request}
    (hsaves : savesBody contentHashOf db request) :
    BodiesStored contentHashOf (serve contentHashOf db request) := by
  cases request with
  | save args env => exact create_bodiesStored hconsistent hstored hsaves
  | promote args env =>
      exact promote_preserves (fun _ _ hdecorates => hdecorates.toKeepsBodies.bodiesStored)
        hstored (create_bodiesStored hconsistent hstored hsaves)
  | resolve call =>
      exact (resolveStep_keepsBodies db call).bodiesStored hstored
  | tier operation =>
      exact (TierOperations.tierStep_decorates db operation).toKeepsBodies.bodiesStored hstored

/-- Only the lookup answers with a duplicate. -/
theorem create_duplicate {contentHashOf : Text → Text} {db : Database} {args : SaveArgs}
    {env : SaveEnvironment} {response : SaveResponse}
    (h : (createContentMinimal contentHashOf db args env).2 = .ok response)
    (hduplicate : response.duplicate = true) :
    response.persisted = true ∧ ∃ item ∈ db.contentItems,
      response.contentId = some item.contentId ∧
        item.contentHash = some (contentHashOf args.body) := by
  unfold createContentMinimal at h
  split at h
  · cases h
  · dsimp only at h
    split at h
    · cases h
    · rename_i existing hlookup
      cases h
      refine ⟨rfl, ?_⟩
      unfold lookupDuplicate at hlookup
      split at hlookup
      · cases hlookup
      · cases hselect : transact env.faults.lookup selectOnly db with
        | error error =>
            rw [hselect] at hlookup
            cases hlookup
        | ok next =>
            rw [hselect, transact_selectOnly hselect] at hlookup
            obtain ⟨item, hfind, rfl⟩ := Option.map_eq_some_iff.mp (Except.ok.inj hlookup)
            have hhash := List.find?_some hfind
            simp only [hasContentHash, Bool.and_eq_true, beq_iff_eq] at hhash
            exact ⟨item, List.mem_of_find?_eq_some hfind, rfl, hhash.1⟩
    · split at h
      · cases h
        cases hduplicate
      · split at h
        · cases h
        · rw [(storeContent_ok h).2] at hduplicate
          cases hduplicate

theorem BodiesStored.duplicatesStored {contentHashOf : Text → Text} {db : Database}
    (h : BodiesStored contentHashOf db) : DuplicatesStored contentHashOf db := by
  intro args env response hresponse hduplicate
  obtain ⟨hpersisted, item, hitem, hcontent, hhash⟩ := create_duplicate hresponse hduplicate
  obtain ⟨content, hcontentHash, hbody⟩ := h item hitem _ hhash
  exact ⟨hpersisted, item, hitem, hcontent, hhash, content, hcontentHash, hbody⟩

/-- A save is atomic exactly when it inserts no row, has no chunk to store, or commits the
scores and every chunk; along requests whose saves are, every row keeps a stored body and
every duplicate answer points at one. -/
theorem save_atomic_iff (contentHashOf : Text → Text) :
    (∀ db, Consistent db → ∀ args env,
      AtomicSave contentHashOf db args env ↔ SavesBody contentHashOf db args env) ∧
    ∀ db, Consistent db → BodiesStored contentHashOf db → ∀ requests,
      Guarded (serve contentHashOf) (savesBody contentHashOf) db requests →
      Always (serve contentHashOf)
        (fun db => BodiesStored contentHashOf db ∧ DuplicatesStored contentHashOf db)
        db requests := by
  refine ⟨fun db hconsistent => atomicSave_iff contentHashOf hconsistent, ?_⟩
  intro db hconsistent hstored requests hguarded
  have halways : Always (serve contentHashOf)
      (fun db => Consistent db ∧ BodiesStored contentHashOf db) db requests :=
    hguarded.always ⟨hconsistent, hstored⟩ fun db request h hsaves =>
      ⟨serve_consistent contentHashOf h.1 request, serve_bodiesStored h.1 h.2 hsaves⟩
  exact halways.mono fun db h => ⟨h.2, h.2.duplicatesStored⟩

/-- A note is saved and sent again. -/
theorem save_atomic_note :
    let args : SaveArgs := { content := some "note".toList, workspaceId := some 1 }
    let env : SaveEnvironment := { event := { scores := ⟨1, 1, 1, 1⟩ } }
    AtomicSave id {} args env ∧
      Always (serve id) (fun db => BodiesStored id db ∧ DuplicatesStored id db) {}
        [.save args env, .save args env] := by
  intro args env
  have hrows : ∀ row ∈ bodyRows args.body, storable row.2 = true := by decide +kernel
  have hsaves (db : Database) : SavesBody id db args env :=
    fun _ => .inr ⟨spares_none _, spares_none _, hrows⟩
  have hempty : BodiesStored id {} := by simp [BodiesStored]
  exact ⟨((save_atomic_iff id).1 {} consistent_empty args env).mpr (hsaves {}),
    (save_atomic_iff id).2 {} consistent_empty hempty _ ⟨hsaves _, hsaves _, trivial⟩⟩

/-- A content with a NUL is refused, and the same content sent again is answered as a
persisted duplicate of a row without a body. -/
theorem not_atomic_nul :
    let args : SaveArgs := { content := some [Char.ofNat 0], workspaceId := some 1 }
    let env : SaveEnvironment := { event := { scores := ⟨1, 1, 1, 1⟩ } }
    let next := (createContentMinimal id {} args env).1
    ¬ AtomicSave id {} args env ∧
      (createContentMinimal id {} args env).2 = .error (.database .invalidText) ∧
      (createContentMinimal id next args env).2 = .ok (duplicateResponse args 1) ∧
      bodyRows args.body = [(0, [Char.ofNat 0])] ∧ storedBody next 1 = [] := by
  unfold AtomicSave
  decide +kernel

end MemoryLab.Adapter

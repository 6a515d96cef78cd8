import MemoryLab.Verification.Requests
import MemoryLab.Verification.Scope.Canonical

/-! # What one promotion does -/

namespace MemoryLab.Adapter

open Library Library.Rows Library.Transaction Resolver ScopePipeline

/-! ## Reading anchors -/

/-- The anchors that a join shows are the ones that were joined. -/
theorem mem_withContent {db : Database} {anchors : List CurrentStateAnchor}
    {row : CurrentStateAnchor × Option ContentItem} (h : row ∈ withContent db anchors) :
    row.1 ∈ anchors := by
  obtain ⟨anchor, hanchor, hrow⟩ := List.mem_flatMap.mp h
  split at hrow
  · rw [List.mem_singleton.mp hrow]
    exact hanchor
  · obtain ⟨item, -, rfl⟩ := List.mem_map.mp hrow
    exact hanchor

theorem exists_mem_withContent (db : Database) {anchors : List CurrentStateAnchor}
    {anchor : CurrentStateAnchor} (h : anchor ∈ anchors) :
    ∃ row ∈ withContent db anchors, row.1 = anchor := by
  cases hmatching : db.contentItems.filter fun item =>
      anchor.contentId == some item.contentId with
  | nil =>
      refine ⟨(anchor, none), List.mem_flatMap.mpr ⟨anchor, h, ?_⟩, rfl⟩
      rw [hmatching]
      exact List.mem_singleton_self _
  | cons item items =>
      refine ⟨(anchor, some item), List.mem_flatMap.mpr ⟨anchor, h, ?_⟩, rfl⟩
      rw [hmatching]
      exact List.mem_map_of_mem List.mem_cons_self

/-- The rows that a query shows. -/
def anchorRows (db : Database) (query : AnchorsQuery) : List AnchorView :=
  ((withContent db (db.anchors.filter query.selects)).insertionSort listOrder).map anchorView

theorem listCurrentStateAnchors_eq_ok {db : Database} {fault : Fault DbError}
    (query : AnchorsQuery) {workspaceId : WorkspaceId}
    (hworkspace : query.workspaceId = some workspaceId) {views : List AnchorView} :
    listCurrentStateAnchors db fault query = .ok views ↔
      storable query.scope = true ∧ storable (query.stateIdentity.getD []) = true ∧
        Spares fault 1 ∧ views = anchorRows db query := by
  unfold listCurrentStateAnchors
  rw [if_neg (by simp [hworkspace])]
  split
  · rename_i hstorable
    simp only [Bool.not_eq_true', Bool.and_eq_false_iff] at hstorable
    rcases hstorable with hstorable | hstorable <;> simp [hstorable]
  · rename_i hstorable
    simp only [Bool.not_eq_true', Bool.not_eq_false, Bool.and_eq_true] at hstorable
    cases hselect : transact fault selectOnly db with
    | error error =>
        have hfault : ¬ Spares fault 1 := fun hspares => by
          rw [transact_eq_ok_iff.mpr ⟨hspares, rfl⟩] at hselect
          cases hselect
        simp [Except.map, hfault]
    | ok next =>
        have hspares : Spares fault 1 := (transact_eq_ok_iff.mp hselect).1
        simp only [Except.map, transact_selectOnly hselect, Except.ok.injEq, hstorable, hspares,
          true_and, anchorRows]
        exact eq_comm

theorem mem_anchorRows {db : Database} {query : AnchorsQuery} {view : AnchorView}
    (h : view ∈ anchorRows db query) :
    ∃ anchor ∈ db.anchors, query.selects anchor = true ∧
      view.anchorId = anchor.anchorId ∧ view.contentId = anchor.contentId := by
  obtain ⟨row, hrow, rfl⟩ := List.mem_map.mp h
  have hmem := List.mem_filter.mp (mem_withContent ((List.mem_insertionSort _).mp hrow))
  exact ⟨row.1, hmem.1, hmem.2, rfl, rfl⟩

theorem exists_mem_anchorRows {db : Database} {query : AnchorsQuery}
    {anchor : CurrentStateAnchor} (hmem : anchor ∈ db.anchors)
    (hselects : query.selects anchor = true) :
    ∃ view ∈ anchorRows db query, view.anchorId = anchor.anchorId := by
  obtain ⟨row, hrow, rfl⟩ :=
    exists_mem_withContent db (List.mem_filter.mpr ⟨hmem, hselects⟩)
  exact ⟨anchorView row, List.mem_map_of_mem ((List.mem_insertionSort _).mpr hrow), rfl⟩

/-- The key that a promotion replaces under. -/
def PromoteArgs.key (args : PromoteArgs) (workspaceId : WorkspaceId) : StateKey :=
  ⟨workspaceId, args.memoryType, args.stateIdentity⟩

/-- A promotion's query selects the active anchors of its key that have its scope. -/
theorem query_selects_iff {args : PromoteArgs} {workspaceId : WorkspaceId}
    (hworkspace : args.workspaceId = some workspaceId) (hidentity : args.stateIdentity ≠ [])
    {anchor : CurrentStateAnchor} :
    args.query.selects anchor = true ↔
      anchor.hasKey (args.key workspaceId) = true ∧ anchor.isActive = true ∧
        anchor.scope = args.scope := by
  have hsome : args.query.identity = some args.stateIdentity := by
    simp [AnchorsQuery.identity, PromoteArgs.query, hidentity]
  simp only [AnchorsQuery.selects, hsome, Option.all_some, Bool.and_eq_true, beq_iff_eq,
    CurrentStateAnchor.hasKey, PromoteArgs.key]
  simp only [PromoteArgs.query, hworkspace, Option.all_some, beq_iff_eq, Option.some.injEq]
  constructor
  · rintro ⟨⟨⟨⟨hw, hs⟩, ha⟩, hm⟩, hi⟩
    exact ⟨⟨⟨hw.symm, hm.symm⟩, hi⟩, ha, hs⟩
  · rintro ⟨⟨⟨hw, hm⟩, hi⟩, ha, hs⟩
    exact ⟨⟨⟨⟨hw.symm, hs⟩, ha⟩, hm.symm⟩, hi⟩

/-! ## The stages after the body -/

/-- The classification that a promotion dictates. -/
def promotedClassification (args : PromoteArgs) : ClassificationResult :=
  { memoryType := args.memoryType, memorySubType := some "trusted_current_state".toList,
    confidence := 1, signals := ["trusted_current_state_promotion".toList] }

def promotedMeta (args : PromoteArgs) : ClassifyMeta :=
  { memoryType := args.memoryType, memorySubType := some "trusted_current_state".toList,
    classifyConfidence := 1, classifyMode := trustedClassifierVersion,
    signals := ["trusted_current_state_promotion".toList], projectTopic := none,
    domainHint := none }

def promoteRequest (args : PromoteArgs) (contentId : ContentId) : ResolveArgs :=
  resolveArgs args.saveArgs contentId (promotedMeta args)

def promoteCall (args : PromoteArgs) (workspaceId : WorkspaceId) (contentId : ContentId) :
    AdmittedCall :=
  ⟨1, workspaceId, contentId, args.memoryType⟩

/-- The statements of a promotion's classification: only the first, when the content has one. -/
def classifyCount (db : Database) (args : PromoteArgs) : ℕ :=
  if hasActiveClassification db (freshId db.contentIds) args.memoryType trustedClassifierVersion
  then 1 else 4

/-- No fault strikes the classification or the resolver. -/
def Undisturbed (db : Database) (args : PromoteArgs) (env : PromoteEnvironment) : Prop :=
  Spares env.faults.classify (classifyCount db args) ∧ env.faults.resolver = none

section Stages

variable {db : Database} {args : PromoteArgs} {env : SaveEnvironment} {workspaceId : WorkspaceId}
  {contentId : ContentId}

theorem forcedClassification_promote :
    forcedClassification args.saveArgs = some (promotedClassification args) := by
  simp [forcedClassification, PromoteArgs.saveArgs, promotedClassification]

/-- The statements of a promotion's classification go through. -/
theorem exists_classifyStatements (db : Database) (contentId : ContentId)
    (hworkspace : args.workspaceId = some workspaceId) :
    ∃ next, execute
      (if hasActiveClassification db contentId args.memoryType trustedClassifierVersion = true
        then selectOnly
        else classifyStatements (promotedClassification args) trustedClassifierVersion
          args.saveArgs.workspaceId contentId) db = .ok next := by
  have hsubType : storable "trusted_current_state".toList = true := by decide
  have hsignal : storable "trusted_current_state_promotion".toList = true := by decide
  have hnil : storable [] = true := by decide
  split
  · exact ⟨db, rfl⟩
  · simp only [classifyStatements, PromoteArgs.saveArgs, hworkspace, promotedClassification,
      Option.filter_none, List.cons_append, List.nil_append, execute_cons_eq_ok,
      updateClassification, Option.getD_some, hsubType, Bool.not_true, Bool.false_eq_true,
      if_false, deactivateClassifications, insertClassification, Option.getD_none, hnil,
      List.all_cons, hsignal, List.all_nil, Bool.and_self, execute_nil, Except.ok.injEq,
      exists_eq_left', exists_eq']

theorem length_classifyStatements (db : Database) (contentId : ContentId)
    (hworkspace : args.workspaceId = some workspaceId) :
    (if hasActiveClassification db contentId args.memoryType trustedClassifierVersion = true
      then selectOnly
      else classifyStatements (promotedClassification args) trustedClassifierVersion
        args.saveArgs.workspaceId contentId).length =
      if hasActiveClassification db contentId args.memoryType trustedClassifierVersion then 1
      else 4 := by
  split
  · rfl
  · simp [classifyStatements, PromoteArgs.saveArgs, hworkspace, promotedClassification]

/-- The classification of a promotion is written unless a fault strikes it. -/
theorem runClassifyAndWrite_promote (db : Database) (env : SaveEnvironment)
    (contentId : ContentId) (hworkspace : args.workspaceId = some workspaceId) :
    (runClassifyAndWrite db args.saveArgs env contentId).2 =
      if Spares env.faults.classify (if hasActiveClassification db contentId args.memoryType
        trustedClassifierVersion then 1 else 4) then some (promotedMeta args) else none := by
  obtain ⟨next, hnext⟩ := exists_classifyStatements db contentId hworkspace
  rw [← length_classifyStatements db contentId hworkspace]
  unfold runClassifyAndWrite
  simp only [forcedClassification_promote, Option.isSome_some, if_true, Option.some_or]
  split
  · rename_i error herror
    rw [if_neg]
    intro hspares
    have hok := transact_eq_ok_iff.mpr ⟨hspares, hnext⟩
    exact absurd (hok.symm.trans herror) (by simp)
  · rename_i classified hclassified
    exact (if_pos (transact_eq_ok_iff.mp hclassified).1).symm

/-- A promotion's content is new, so its resolver call takes the key over. -/
theorem promote_takesOver (hworkspace : args.workspaceId = some workspaceId)
    (hidentity : args.stateIdentity ≠ []) (hstorable : storable args.stateIdentity = true)
    (hfresh : ∀ anchor ∈ db.anchors, anchor.contentId ≠ some contentId)
    (hmem : contentId ∈ db.contentIds) :
    TakesOver db (promoteRequest args contentId) (promoteCall args workspaceId contentId)
      args.stateIdentity where
  admission := admission_eq_ok_iff.mpr
    ⟨hworkspace, rfl, rfl, rfl, by norm_num [promoteCall, minConfidence], by
      simp [promoteRequest, resolveArgs, allowedSetBy]⟩
  identity := by
    simp [ResolveArgs.identity, promoteRequest, resolveArgs, PromoteArgs.saveArgs, hidentity]
  storable_identity := hstorable
  storable_subType := by
    simp only [promoteRequest, resolveArgs, promotedMeta]
    decide
  none_active := selectExistingSame_eq_none.mpr fun anchor hactive =>
    hfresh anchor (mem_activeOf.mp hactive).1
  content_mem := hmem

/-- The scope that a promotion's anchor is stored under. -/
def promotedScope (db : Database) (args : PromoteArgs) (contentId : ContentId) :
    ScopeResolution :=
  resolveScope db (promoteRequest args contentId).scopeRequest

/-- Undisturbed, the later stages take the key over. -/
theorem enrich_anchors_undisturbed (hworkspace : args.workspaceId = some workspaceId)
    (hidentity : args.stateIdentity ≠ []) (hstorable : storable args.stateIdentity = true)
    (hfresh : ∀ anchor ∈ db.anchors, anchor.contentId ≠ some contentId)
    (hmem : contentId ∈ db.contentIds)
    (hclassify : Spares env.faults.classify (if hasActiveClassification db contentId
      args.memoryType trustedClassifierVersion then 1 else 4))
    (hresolver : env.faults.resolver = none) :
    ∃ classified, Decorates db classified ∧
      TakesOver classified (promoteRequest args contentId)
        (promoteCall args workspaceId contentId) args.stateIdentity ∧
      (enrich db args.saveArgs env contentId).1.anchors =
        (takeOver classified env.now (promoteRequest args contentId)
          (promoteCall args workspaceId contentId) args.stateIdentity
          (promotedScope classified args contentId)).anchors := by
  have hdecorates := runClassifyAndWrite_decorates db args.saveArgs env contentId
  have hmeta := runClassifyAndWrite_promote db env contentId hworkspace
  rw [if_pos hclassify] at hmeta
  refine ⟨(runClassifyAndWrite db args.saveArgs env contentId).1, hdecorates, ?_⟩
  have htakes := promote_takesOver hworkspace hidentity hstorable
    (fun anchor hanchor => hfresh anchor (hdecorates.anchors ▸ hanchor))
    (by rwa [hdecorates.contentIds])
  refine ⟨htakes, ?_⟩
  have hresolve : (resolveCurrentState (runClassifyAndWrite db args.saveArgs env contentId).1
      args.saveArgs env contentId (some (promotedMeta args))).1 =
      resolveStep _ ⟨env.now, promoteRequest args contentId⟩ :=
    resolveCurrentState_eq (by norm_num [promotedMeta]) hresolver _ _ _
  rw [enrich_anchors, hmeta, hresolve, htakes.resolveStep_eq]
  rfl

/-- Disturbed, they leave the anchors alone. -/
theorem enrich_anchors_disturbed (hworkspace : args.workspaceId = some workspaceId)
    (h : ¬ (Spares env.faults.classify (if hasActiveClassification db contentId
      args.memoryType trustedClassifierVersion then 1 else 4) ∧ env.faults.resolver = none)) :
    (enrich db args.saveArgs env contentId).1.anchors = db.anchors := by
  have hdecorates := runClassifyAndWrite_decorates db args.saveArgs env contentId
  rw [enrich_anchors]
  by_cases hresolver : env.faults.resolver = none
  · have hmeta := runClassifyAndWrite_promote db env contentId hworkspace
    rw [if_neg fun hspares => h ⟨hspares, hresolver⟩] at hmeta
    rw [hmeta]
    exact hdecorates.anchors
  · rw [resolveCurrentState_of_fault hresolver]
    exact hdecorates.anchors

end Stages

/-! ## The promotion -/

/-- What a promotion that answers did. -/
structure Promoted (contentHashOf : Text → Text) (db : Database) (args : PromoteArgs)
    (env : PromoteEnvironment) (workspaceId : WorkspaceId) (next : Database)
    (response : PromoteResponse) : Prop where
  workspace : args.workspaceId = some workspaceId
  identity : args.stateIdentity ≠ []
  storable_identity : storable args.stateIdentity = true
  storable_scope : storable args.scope = true
  storable_summary : storable (args.quickSummary.getD []) = true
  inserts : Inserts contentHashOf db args.saveArgs env.toSaveEnvironment
  commits : CommitsBody args.saveArgs env.toSaveEnvironment
  saved : Decorates (createContentMinimal contentHashOf db args.saveArgs
    env.toSaveEnvironment).1 next
  created : response.created.contentId = some (freshId db.contentIds)
  previousAnchorId : response.previousAnchorId =
    (anchorRows db args.query).head?.map (·.anchorId)
  previousContentId : response.previousContentId =
    (anchorRows db args.query).head?.bind (·.contentId)
  readback : response.readback = args.query

theorem identity_of_trustError {args : PromoteArgs} (h : args.saveArgs.trustError = none) :
    args.stateIdentity ≠ [] := by
  rintro hnil
  simp [SaveArgs.trustError, SaveArgs.identity, PromoteArgs.saveArgs, hnil] at h

theorem trustError_promote {args : PromoteArgs} (h : args.stateIdentity ≠ []) :
    args.saveArgs.trustError = none := by
  simp [SaveArgs.trustError, SaveArgs.identity, PromoteArgs.saveArgs, h]

theorem shouldPersist_promote (args : PromoteArgs) (env : SaveEnvironment) :
    (tierDecision args.saveArgs env).shouldPersist = true := by
  simp [tierDecision, PromoteArgs.saveArgs]

/-- A forced save answers only after its body is committed. -/
theorem create_ok_of_forced {contentHashOf : Text → Text} {db : Database} {args : PromoteArgs}
    {env : SaveEnvironment} {response : SaveResponse}
    (h : (createContentMinimal contentHashOf db args.saveArgs env).2 = .ok response) :
    Inserts contentHashOf db args.saveArgs env ∧ CommitsBody args.saveArgs env ∧
      response.contentId = some (freshId db.contentIds) := by
  by_cases hinserts : Inserts contentHashOf db args.saveArgs env
  · rw [create_of_inserts hinserts] at h
    refine ⟨hinserts, ?_, (storeContent_ok h).1⟩
    by_contra hcommits
    obtain ⟨left, error, -, hstore⟩ := storeContent_of_not_commits
      (insertedRow contentHashOf db args.saveArgs env) (freshId db.contentIds) hcommits
    rw [hstore] at h
    cases h
  · rcases (create_of_not_inserts hinserts).2 response h with hskip | hpersists
    · cases hskip
    · rw [shouldPersist_promote] at hpersists
      cases hpersists

theorem currentStateSupersessionChain_eq_ok {db : Database} {fault : Fault DbError}
    {key : StateKey} :
    (∃ chain, currentStateSupersessionChain db fault key = .ok chain) ↔
      storable key.stateIdentity = true ∧ Spares fault 1 := by
  unfold currentStateSupersessionChain
  split
  · rename_i hstorable
    simp_all
  · rename_i hstorable
    cases hselect : transact fault selectOnly db with
    | error error =>
        have hfault : ¬ Spares fault 1 := fun hspares => by
          rw [transact_eq_ok_iff.mpr ⟨hspares, rfl⟩] at hselect
          cases hselect
        simp [Except.map, hfault]
    | ok next =>
        have hspares : Spares fault 1 := (transact_eq_ok_iff.mp hselect).1
        simp only [Bool.not_eq_true', Bool.not_eq_false] at hstorable
        simp [Except.map, hspares, hstorable]

theorem setQuickSummary_eq_ok (contentId : ContentId) (quickSummary : Text)
    (workspaceId : WorkspaceId) (db : Database) :
    (∃ next, setQuickSummary contentId quickSummary workspaceId db = .ok next) ↔
      storable quickSummary = true := by
  unfold setQuickSummary
  split
  · rename_i hstorable
    simp_all
  · rename_i hstorable
    simpa using hstorable

theorem storable_of_summarize {db next : Database} {fault : Fault DbError} {args : PromoteArgs}
    {workspaceId : WorkspaceId} {created : SaveResponse} {contentId : ContentId}
    (hcreated : created.contentId = some contentId)
    (h : summarize db fault args workspaceId created = .ok next) :
    storable (args.quickSummary.getD []) = true := by
  unfold summarize at h
  cases hsummary : args.quickSummary.filter (· ≠ []) with
  | none =>
      cases hquick : args.quickSummary with
      | none => rfl
      | some quickSummary =>
          rw [hquick] at hsummary
          have hnil : quickSummary = [] := by simpa using hsummary
          rw [hnil]
          rfl
  | some quickSummary =>
      rw [hsummary, hcreated] at h
      have hexecute := (transact_eq_ok_iff.mp h).2
      rw [execute_singleton] at hexecute
      rw [(Option.filter_eq_some_iff.mp hsummary).1, Option.getD_some]
      exact (setQuickSummary_eq_ok _ _ _ _).mp ⟨next, hexecute⟩

theorem exists_summarize (db : Database) {args : PromoteArgs} (workspaceId : WorkspaceId)
    (created : SaveResponse) (hstorable : storable (args.quickSummary.getD []) = true) :
    ∃ next, summarize db none args workspaceId created = .ok next := by
  unfold summarize
  split
  · rename_i quickSummary contentId hsummary hcontent
    rw [(Option.filter_eq_some_iff.mp hsummary).1, Option.getD_some] at hstorable
    obtain ⟨next, hnext⟩ :=
      (setQuickSummary_eq_ok contentId quickSummary workspaceId db).mpr hstorable
    exact ⟨next, transact_eq_ok_iff.mpr ⟨spares_none _, by rw [execute_singleton, hnext]⟩⟩
  · exact ⟨db, rfl⟩

/-- A promotion that answers went through all of its stages. -/
theorem promoted_of_ok {contentHashOf : Text → Text} {db next : Database} {args : PromoteArgs}
    {env : PromoteEnvironment} {response : PromoteResponse}
    (h : trustedPromoteCurrentState contentHashOf db args env = (next, .ok response)) :
    ∃ workspaceId, Promoted contentHashOf db args env workspaceId next response := by
  unfold trustedPromoteCurrentState at h
  split at h
  · cases h
  · rename_i workspaceId hworkspace
    split at h
    · cases h
    · rename_i views hlist
      obtain ⟨hscope, hidentity, -, rfl⟩ :=
        (listCurrentStateAnchors_eq_ok args.query hworkspace).mp hlist
      dsimp only at h
      cases hcreate : createContentMinimal contentHashOf db args.saveArgs
          env.toSaveEnvironment with
      | mk saved outcome =>
          rw [hcreate] at h
          cases outcome with
          | error error => cases h
          | ok created =>
              dsimp only at h
              obtain ⟨hinserts, hcommits, hcontent⟩ := create_ok_of_forced (congrArg (·.2) hcreate)
              split at h
              · cases h
              · rename_i summarized hsummarize
                split at h
                · cases h
                · cases h
                  refine ⟨workspaceId, hworkspace, identity_of_trustError hinserts.trusted,
                    hidentity, hscope, storable_of_summarize hcontent hsummarize, hinserts,
                    hcommits, ?_, hcontent, rfl, rfl, rfl⟩
                  rw [hcreate]
                  exact summarize_decorates hsummarize

section Promoted

variable {contentHashOf : Text → Text} {db next : Database} {args : PromoteArgs}
  {env : PromoteEnvironment} {workspaceId : WorkspaceId} {response : PromoteResponse}

theorem Promoted.written (h : Promoted contentHashOf db args env workspaceId next response) :
    ∃ written, Written (insertedRow contentHashOf db args.saveArgs env.toSaveEnvironment) written
      (freshId db.contentIds) (bodyRows args.content) ∧
      (createContentMinimal contentHashOf db args.saveArgs env.toSaveEnvironment).1 =
        (enrich written args.saveArgs env.toSaveEnvironment (freshId db.contentIds)).1 := by
  obtain ⟨written, hwritten, hstore⟩ := storeContent_of_commits h.inserts.persists
    (freshId_mem_insertedRow contentHashOf db args.saveArgs env.toSaveEnvironment) h.commits
  exact ⟨written, hwritten, by rw [create_of_inserts h.inserts, hstore]⟩

/-- An undisturbed promotion takes its key over. -/
theorem Promoted.takesOver (h : Promoted contentHashOf db args env workspaceId next response)
    (hstored : AnchorsStored db) (hundisturbed : Undisturbed db args env) :
    ∃ classified, classified.anchors = db.anchors ∧
      TakesOver classified (promoteRequest args (freshId db.contentIds))
        (promoteCall args workspaceId (freshId db.contentIds)) args.stateIdentity ∧
      next.anchors = (takeOver classified env.now (promoteRequest args (freshId db.contentIds))
        (promoteCall args workspaceId (freshId db.contentIds)) args.stateIdentity
        (promotedScope classified args (freshId db.contentIds))).anchors := by
  obtain ⟨written, hwritten, hcreate⟩ := h.written
  have hanchors : written.anchors = db.anchors := hwritten.anchors
  have hhistory : written.classificationHistory = db.classificationHistory := hwritten.history
  have hfresh : ∀ anchor ∈ written.anchors,
      anchor.contentId ≠ some (freshId db.contentIds) := by
    intro anchor hanchor hcontent
    rw [hanchors] at hanchor
    exact freshId_notMem _ (hstored anchor hanchor _ hcontent)
  have hclassify : Spares env.faults.classify (if hasActiveClassification written
      (freshId db.contentIds) args.memoryType trustedClassifierVersion then 1 else 4) := by
    rw [hasActiveClassification, hhistory]
    exact hundisturbed.1
  obtain ⟨classified, hdecorates, htakes, htaken⟩ := enrich_anchors_undisturbed h.workspace
    h.identity h.storable_identity hfresh
    (by rw [hwritten.contentIds]; exact freshId_mem_insertedRow ..) hclassify hundisturbed.2
  refine ⟨classified, hdecorates.anchors.trans hanchors, htakes, ?_⟩
  rw [h.saved.anchors, hcreate, htaken]

/-- A disturbed promotion leaves the anchors alone. -/
theorem Promoted.anchors_disturbed
    (h : Promoted contentHashOf db args env workspaceId next response)
    (hdisturbed : ¬ Undisturbed db args env) : next.anchors = db.anchors := by
  obtain ⟨written, hwritten, hcreate⟩ := h.written
  have hanchors : written.anchors = db.anchors := hwritten.anchors
  have hhistory : written.classificationHistory = db.classificationHistory := hwritten.history
  rw [h.saved.anchors, hcreate, enrich_anchors_disturbed h.workspace ?_, hanchors]
  rw [hasActiveClassification, hhistory]
  exact hdisturbed

end Promoted

end MemoryLab.Adapter

import MemoryLab.Model.Promotion
import MemoryLab.Verification.Resolver.Equations

/-! # What the stages of a save leave alone -/

namespace MemoryLab.Adapter

open Library Library.Rows Library.Transaction

/-- The columns that say whose content a row is. -/
def rowKey (item : ContentItem) : ContentId × Option WorkspaceId × Option Text :=
  (item.contentId, item.workspaceId, item.contentHash)

/-- The rows keep their keys and the chunks are the same. -/
structure KeepsBodies (db next : Database) : Prop where
  rows : next.contentItems.map rowKey = db.contentItems.map rowKey
  chunks : next.contentChunks = db.contentChunks

/-- Only columns beside the keys of the rows, and tables beside chunks and anchors, change. -/
structure Decorates (db next : Database) : Prop extends KeepsBodies db next where
  anchors : next.anchors = db.anchors

theorem KeepsBodies.trans {first second third : Database} (h : KeepsBodies first second)
    (h' : KeepsBodies second third) : KeepsBodies first third :=
  ⟨h'.rows.trans h.rows, h'.chunks.trans h.chunks⟩

theorem KeepsBodies.contentIds {db next : Database} (h : KeepsBodies db next) :
    next.contentIds = db.contentIds := by
  have hids (items : List ContentItem) :
      items.map (·.contentId) = (items.map rowKey).map (·.1) := by
    rw [List.map_map]
    rfl
  rw [Database.contentIds, Database.contentIds, hids, hids, h.rows]

theorem Decorates.refl (db : Database) : Decorates db db := ⟨⟨rfl, rfl⟩, rfl⟩

theorem Decorates.trans (first second third : Database) (h : Decorates first second)
    (h' : Decorates second third) : Decorates first third :=
  ⟨h.toKeepsBodies.trans h'.toKeepsBodies, h'.anchors.trans h.anchors⟩

theorem decorates_updateWhere (db : Database) (p : ContentItem → Bool)
    {f : ContentItem → ContentItem} (hf : ∀ item, rowKey (f item) = rowKey item) :
    Decorates db { db with contentItems := updateWhere p f db.contentItems } :=
  ⟨⟨map_updateWhere rowKey hf _, rfl⟩, rfl⟩

/-! ## Statements -/

theorem updateScores_decorates {event : IngestionEvent} {decision : TierRouter.TierDecision}
    {now : Timestamp} {contentId : ContentId} {db next : Database}
    (h : updateScores event decision now contentId db = .ok next) : Decorates db next := by
  unfold updateScores at h
  split at h
  · cases h
  · split at h
    · cases h
    · cases h
      exact decorates_updateWhere db _ fun _ => rfl

theorem updateClassification_decorates {result : ClassificationResult} {contentId : ContentId}
    {db next : Database} (h : updateClassification result contentId db = .ok next) :
    Decorates db next := by
  unfold updateClassification at h
  split at h
  · cases h
  · cases h
    exact decorates_updateWhere db _ fun _ => rfl

theorem insertClassification_decorates {result : ClassificationResult} {version : String}
    {workspaceId : WorkspaceId} {contentId : ContentId} {db next : Database}
    (h : insertClassification result version workspaceId contentId db = .ok next) :
    Decorates db next := by
  unfold insertClassification at h
  split at h
  · cases h
  · cases h
    exact ⟨⟨rfl, rfl⟩, rfl⟩

theorem linkDomain_decorates {domainHint : Text} {statement : Statement Database DbError}
    (hmem : statement ∈ linkDomain domainHint) {db next : Database}
    (h : statement db = .ok next) : Decorates db next := by
  simp only [linkDomain, List.mem_cons, List.not_mem_nil, or_false] at hmem
  rcases hmem with rfl | rfl
  · split at h
    · cases h
    · cases h
      exact Decorates.refl _
  · cases h
    exact Decorates.refl _

theorem updateTags_decorates {annotated : AnnotationResult} {contentId : ContentId}
    {db next : Database} (h : updateTags annotated contentId db = .ok next) :
    Decorates db next := by
  unfold updateTags at h
  split at h
  · cases h
  · cases h
    exact decorates_updateWhere db _ fun _ => rfl

theorem setQuickSummary_decorates {contentId : ContentId} {quickSummary : Text}
    {workspaceId : WorkspaceId} {db next : Database}
    (h : setQuickSummary contentId quickSummary workspaceId db = .ok next) :
    Decorates db next := by
  unfold setQuickSummary at h
  split at h
  · cases h
  · cases h
    exact decorates_updateWhere db _ fun _ => rfl

theorem classifyStatements_decorate {result : ClassificationResult} {version : String}
    {workspaceId : Option WorkspaceId} {contentId : ContentId}
    {statement : Statement Database DbError}
    (hmem : statement ∈ classifyStatements result version workspaceId contentId)
    {db next : Database} (h : statement db = .ok next) : Decorates db next := by
  simp only [classifyStatements, List.mem_append, List.mem_cons, List.not_mem_nil,
    or_false] at hmem
  rcases hmem with (rfl | rfl | rfl) | hmem
  · cases h
    exact Decorates.refl _
  · exact updateClassification_decorates h
  · cases h
    exact ⟨⟨rfl, rfl⟩, rfl⟩
  · cases workspaceId with
    | none => cases hmem
    | some workspaceId =>
        rcases List.mem_cons.mp hmem with rfl | hmem
        · exact insertClassification_decorates h
        · split at hmem
          · split at hmem
            · exact linkDomain_decorates hmem h
            · cases hmem
          · cases hmem

theorem transact_decorates {fault : Fault DbError}
    {statements : List (Statement Database DbError)}
    (hstep : ∀ statement ∈ statements, ∀ db next, statement db = .ok next → Decorates db next)
    {db next : Database} (h : transact fault statements db = .ok next) : Decorates db next :=
  transact_relates Decorates.refl Decorates.trans hstep h

theorem selectOnly_decorates {statement : Statement Database DbError}
    (hmem : statement ∈ selectOnly) {db next : Database} (h : statement db = .ok next) :
    Decorates db next := by
  rw [selectOnly, List.mem_singleton] at hmem
  subst hmem
  cases h
  exact Decorates.refl _

/-- A transaction that only reads. -/
theorem transact_selectOnly {fault : Fault DbError} {db next : Database}
    (h : transact fault selectOnly db = .ok next) : next = db := by
  have hexecute := (transact_eq_ok_iff.mp h).2
  exact (Except.ok.inj hexecute).symm

/-! ## Stages -/

theorem runClassifyAndWrite_decorates (db : Database) (args : SaveArgs) (env : SaveEnvironment)
    (contentId : ContentId) : Decorates db (runClassifyAndWrite db args env contentId).1 := by
  unfold runClassifyAndWrite
  dsimp only
  generalize (if (forcedClassification args).isSome = true then trustedClassifierVersion
    else heuristicClassifierVersion) = version
  split
  · exact Decorates.refl db
  · split
    · exact Decorates.refl db
    · rename_i next hnext
      refine transact_decorates (fun statement hmem _ _ => ?_) hnext
      split at hmem
      · exact selectOnly_decorates hmem
      · exact classifyStatements_decorate hmem

theorem annotateContent_decorates (db : Database) (env : SaveEnvironment)
    (contentId : ContentId) : Decorates db (annotateContent db env contentId).1 := by
  unfold annotateContent
  split
  · exact Decorates.refl db
  · split
    · exact Decorates.refl db
    · split
      · exact Decorates.refl db
      · rename_i next hnext
        refine transact_decorates (fun statement hmem _ _ => ?_) hnext
        rw [List.mem_singleton] at hmem
        subst hmem
        exact updateTags_decorates

theorem emitEvent_decorates {db next : Database} {event : EventId → TierTransitionEvent}
    {written : TierTransitionEvent}
    (h : TierOperations.emitEvent db event = .ok (next, written)) : Decorates db next := by
  unfold TierOperations.emitEvent at h
  dsimp only at h
  split at h
  · cases h
  · cases h
    exact ⟨⟨rfl, rfl⟩, rfl⟩

theorem persistEscalation_decorates {db next : Database} {now : Timestamp}
    {plan : TierOperations.EscalationPlan} {info : TierOperations.EscalationMeta}
    (h : TierOperations.persistEscalation db now plan = .ok (next, info)) :
    Decorates db next := by
  unfold TierOperations.persistEscalation at h
  dsimp only at h
  split at h
  · cases h
  · split at h
    · split at h
      · cases h
      · rename_i hevent
        cases h
        refine Decorates.trans _ _ _ ?_ (emitEvent_decorates hevent)
        exact ⟨⟨map_updateWhere rowKey (by intro _; rfl) _, rfl⟩, rfl⟩
    · cases h
      exact ⟨⟨map_updateWhere rowKey (by intro _; rfl) _, rfl⟩, rfl⟩

theorem evaluateAndEscalate_decorates (db : Database) (args : SaveArgs) (env : SaveEnvironment)
    (contentId : ContentId) : Decorates db (evaluateAndEscalate db args env contentId).1 := by
  unfold evaluateAndEscalate
  split
  · split
    · exact Decorates.refl db
    · rename_i hpersist
      exact persistEscalation_decorates hpersist
  · exact Decorates.refl db

/-! ## The resolver's stage -/

theorem rowKey_markCurrent (scope stateIdentity : Text) (supersedes : Option ContentId)
    (contentId : ContentId) (items : List ContentItem) :
    (Resolver.markCurrent scope stateIdentity supersedes contentId items).map rowKey =
      items.map rowKey :=
  map_updateWhere _ (by intro _; rfl) items

theorem rowKey_markSuperseded (scope : Text) (supersedes : Option ContentId)
    (items : List ContentItem) :
    (Resolver.markSuperseded scope supersedes items).map rowKey = items.map rowKey := by
  cases supersedes with
  | none => rfl
  | some previous => exact map_updateWhere _ (by intro _; rfl) items

theorem resolveStep_keepsBodies (db : Database) (call : Resolver.ResolveCall) :
    KeepsBodies db (Resolver.resolveStep db call) := by
  generalize hnext : Resolver.resolveStep db call = next
  have heffect : Resolver.StepEffect db call.now call.args next :=
    hnext ▸ Resolver.resolveStep_effect db call
  cases heffect with
  | unchanged => exact ⟨rfl, rfl⟩
  | grouped => exact ⟨map_updateWhere _ (by intro _; rfl) _, rfl⟩
  | refreshed => exact ⟨rowKey_markCurrent .., rfl⟩
  | tookOver =>
      exact ⟨(rowKey_markCurrent ..).trans (rowKey_markSuperseded ..), rfl⟩

/-- With enough confidence and no fault, the resolver's stage is one resolver call. -/
theorem resolveCurrentState_eq {info : ClassifyMeta} {env : SaveEnvironment}
    (hconfident : 7 / 10 ≤ info.classifyConfidence) (hfault : env.faults.resolver = none)
    (db : Database) (args : SaveArgs) (contentId : ContentId) :
    (resolveCurrentState db args env contentId (some info)).1 =
      Resolver.resolveStep db ⟨env.now, resolveArgs args contentId info⟩ := by
  unfold resolveCurrentState Resolver.resolveStep
  simp only [Option.filter_some, hconfident, decide_true, if_true, hfault, Option.isSome_none,
    Bool.false_eq_true, if_false]
  split <;> rename_i hresolve <;> rw [hresolve]

theorem resolveCurrentState_of_fault {env : SaveEnvironment}
    (hfault : env.faults.resolver ≠ none) (db : Database) (args : SaveArgs)
    (contentId : ContentId) (info : Option ClassifyMeta) :
    (resolveCurrentState db args env contentId info).1 = db := by
  unfold resolveCurrentState
  split
  · rfl
  · rw [if_pos (Option.isSome_iff_ne_none.mpr hfault)]

/-- The resolver's stage is one resolver call, or nothing. -/
theorem resolveCurrentState_step (db : Database) (args : SaveArgs) (env : SaveEnvironment)
    (contentId : ContentId) (info : Option ClassifyMeta) :
    (resolveCurrentState db args env contentId info).1 = db ∨
      ∃ call, (resolveCurrentState db args env contentId info).1 =
        Resolver.resolveStep db call := by
  by_cases hfault : env.faults.resolver = none
  · cases info with
    | none => exact .inl rfl
    | some info =>
        by_cases hconfident : 7 / 10 ≤ info.classifyConfidence
        · exact .inr ⟨_, resolveCurrentState_eq hconfident hfault db args contentId⟩
        · refine .inl ?_
          simp only [resolveCurrentState, Option.filter_some, hconfident, decide_false,
            Bool.false_eq_true, if_false]
  · exact .inl (resolveCurrentState_of_fault hfault db args contentId info)

theorem enrich_anchors (db : Database) (args : SaveArgs) (env : SaveEnvironment)
    (contentId : ContentId) :
    (enrich db args env contentId).1.anchors =
      (resolveCurrentState (runClassifyAndWrite db args env contentId).1 args env contentId
        (runClassifyAndWrite db args env contentId).2).1.anchors :=
  (evaluateAndEscalate_decorates _ args env contentId).anchors.trans
    (annotateContent_decorates _ env contentId).anchors

/-- Whatever decorating stages and resolver calls keep, the later stages keep. -/
theorem enrich_preserves {P : Database → Prop}
    (hdecorates : ∀ db next, Decorates db next → P db → P next)
    (hresolve : ∀ db call, P db → P (Resolver.resolveStep db call)) {db : Database} (hdb : P db)
    (args : SaveArgs) (env : SaveEnvironment) (contentId : ContentId) :
    P (enrich db args env contentId).1 := by
  have hclassified := hdecorates _ _ (runClassifyAndWrite_decorates db args env contentId) hdb
  have hresolved : P (resolveCurrentState (runClassifyAndWrite db args env contentId).1 args env
      contentId (runClassifyAndWrite db args env contentId).2).1 := by
    rcases resolveCurrentState_step (runClassifyAndWrite db args env contentId).1 args env
      contentId (runClassifyAndWrite db args env contentId).2 with hsame | ⟨call, hstep⟩
    · rw [hsame]
      exact hclassified
    · rw [hstep]
      exact hresolve _ call hclassified
  have hannotated := hdecorates _ _ (annotateContent_decorates _ env contentId) hresolved
  exact hdecorates _ _ (evaluateAndEscalate_decorates _ args env contentId) hannotated

theorem enrich_keepsBodies (db : Database) (args : SaveArgs) (env : SaveEnvironment)
    (contentId : ContentId) : KeepsBodies db (enrich db args env contentId).1 :=
  enrich_preserves (P := KeepsBodies db) (fun _ _ hdecorates hkeeps =>
    hkeeps.trans hdecorates.toKeepsBodies) (fun db call hkeeps =>
    hkeeps.trans (resolveStep_keepsBodies db call)) ⟨rfl, rfl⟩ args env contentId

end MemoryLab.Adapter

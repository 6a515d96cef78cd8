import MemoryLab.Verification.Promotion.Equations

/-! # When the answer of a promotion agrees with what it did

The answer looks the key up under the scope as the caller spelled it, while the anchors are
stored under its slug and superseded by key alone. -/

namespace MemoryLab.Adapter

open Library Library.Rows Library.Transaction Library.Runs Resolver ScopePipeline

/-- The active anchors of a key that a step retired. -/
def retired (key : StateKey) (anchors others : List CurrentStateAnchor) :
    List CurrentStateAnchor :=
  (activeOf key anchors).filter fun anchor => others.any fun other =>
    other.anchorId == anchor.anchorId && other.stateStatus == .superseded

/-- The anchor and the content that an answer names as replaced, if it names any. -/
def PromoteResponse.named (response : PromoteResponse) :
    List (Option AnchorId × Option ContentId) :=
  if response.previousAnchorId = none ∧ response.previousContentId = none then []
  else [(response.previousAnchorId, response.previousContentId)]

/-- The answer names exactly the anchors that were superseded, the new active anchor supersedes
the named content, and reading the anchors back finds it. -/
structure Coherent (key : StateKey) (db next : Database) (response : PromoteResponse) :
    Prop where
  named : response.named =
    (retired key db.anchors next.anchors).map fun anchor => (some anchor.anchorId, anchor.contentId)
  active : ∃ anchor ∈ activeOf key next.anchors,
    anchor.contentId = response.created.contentId ∧
    anchor.supersedesContentId = response.previousContentId ∧
    ∃ views, listCurrentStateAnchors next none response.readback = .ok views ∧
      ∃ view ∈ views, view.anchorId = anchor.anchorId

/-- The scope of the promotion is its own slug, and the active anchor of the key has it. -/
structure SpelledAlike (db : Database) (args : PromoteArgs) (workspaceId : WorkspaceId) :
    Prop where
  slug : slugifyScope (some args.scope) = args.scope
  stored : ∀ anchor ∈ activeOf (args.key workspaceId) db.anchors, anchor.scope = args.scope

/-! ## The anchors before -/

section Before

variable {db : Database} {args : PromoteArgs} {workspaceId : WorkspaceId}
  (hworkspace : args.workspaceId = some workspaceId) (hidentity : args.stateIdentity ≠ [])
include hworkspace hidentity

/-- An active anchor under the promotion's scope is the one that the answer names. -/
theorem head_anchorRows (hsingle : SingleActive db.anchors) {anchor : CurrentStateAnchor}
    (hactive : anchor ∈ activeOf (args.key workspaceId) db.anchors)
    (hscope : anchor.scope = args.scope) :
    (anchorRows db args.query).head?.map (·.anchorId) = some anchor.anchorId ∧
      (anchorRows db args.query).head?.bind (·.contentId) = anchor.contentId := by
  obtain ⟨hmem, hkey, hisActive⟩ := mem_activeOf.mp hactive
  obtain ⟨view, hview, -⟩ := exists_mem_anchorRows hmem
    ((query_selects_iff hworkspace hidentity).mpr ⟨hkey, hisActive, hscope⟩)
  cases hrows : anchorRows db args.query with
  | nil =>
      rw [hrows] at hview
      cases hview
  | cons first rows =>
      obtain ⟨other, hother, hselects, hid, hcontent⟩ :=
        mem_anchorRows (hrows ▸ List.mem_cons_self : first ∈ anchorRows db args.query)
      obtain ⟨hkey', hisActive', -⟩ := (query_selects_iff hworkspace hidentity).mp hselects
      have hsame : other = anchor := by
        have hmem' := mem_activeOf.mpr ⟨hother, hkey', hisActive'⟩
        rw [activeOf_eq_singleton (hsingle _) hactive, List.mem_singleton] at hmem'
        exact hmem'
      rw [hsame] at hid hcontent
      exact ⟨congrArg some hid, hcontent⟩

/-- Without one the answer names nothing. -/
theorem anchorRows_eq_nil
    (hscope : ∀ anchor ∈ activeOf (args.key workspaceId) db.anchors, anchor.scope ≠ args.scope) :
    anchorRows db args.query = [] := by
  rw [List.eq_nil_iff_forall_not_mem]
  intro view hview
  obtain ⟨anchor, hmem, hselects, -⟩ := mem_anchorRows hview
  obtain ⟨hkey, hisActive, heq⟩ := (query_selects_iff hworkspace hidentity).mp hselects
  exact hscope anchor (mem_activeOf.mpr ⟨hmem, hkey, hisActive⟩) heq

end Before

/-! ## One promotion -/

/-- Taking a key over retires every active anchor of it. -/
theorem retired_takeOver {db classified : Database} {request : ResolveArgs}
    {call : AdmittedCall} {stateIdentity : Text} (hanchors : classified.anchors = db.anchors)
    (htakes : TakesOver classified request call stateIdentity) (now : Timestamp)
    (scope : ScopeResolution) :
    retired (call.key stateIdentity) db.anchors
      (takeOver classified now request call stateIdentity scope).anchors =
      activeOf (call.key stateIdentity) db.anchors := by
  refine List.filter_eq_self.mpr fun anchor hactive => ?_
  rw [← hanchors] at hactive
  obtain ⟨hmem, hkey, hisActive⟩ := mem_activeOf.mp hactive
  have hcontent := selectExistingSame_eq_none.mp htakes.none_active anchor hactive
  have hretire : toSupersede (call.key stateIdentity) call.contentId anchor = true := by
    simp [toSupersede, hkey, hisActive, hcontent]
  refine List.any_eq_true.mpr ⟨setSuperseded now anchor, List.mem_append_left _
    (mem_supersedeActive.mpr (.inr ⟨anchor, hmem, hretire, rfl⟩)), ?_⟩
  simp [setSuperseded]

/-- The new anchor has the scope that the caller spelled exactly when that is its own slug. -/
theorem promotedScope_eq_iff {db : Database} (hcanonical : AnchorScopesCanonical db)
    (args : PromoteArgs) (contentId : ContentId) :
    (promotedScope db args contentId).scope = args.scope ↔
      slugifyScope (some args.scope) = args.scope := by
  constructor
  · intro heq
    have hslug := resolveScope_canonical hcanonical (promoteRequest args contentId).scopeRequest
    exact CanonicalSlug.slugify_eq (heq ▸ hslug)
  · intro hslug
    have hblank : nonBlank (some args.scope) = true := by
      simpa [nonBlank] using (slugifyScope_eq_self_iff.mp hslug).strip_ne_nil
    have hhint : resolveScope db (promoteRequest args contentId).scopeRequest =
        ⟨slugifyScope (some args.scope), .scopeHint⟩ := resolveScope_of_hint db hblank
    rw [promotedScope, hhint]
    exact hslug

section Promotion

variable {contentHashOf : Text → Text} {db next : Database} {args : PromoteArgs}
  {env : PromoteEnvironment} {workspaceId : WorkspaceId} {response : PromoteResponse}
  (h : Promoted contentHashOf db args env workspaceId next response)
include h

theorem Promoted.named_eq_nil
    (hscope : ∀ anchor ∈ activeOf (args.key workspaceId) db.anchors, anchor.scope ≠ args.scope) :
    response.named = [] := by
  have hrows := anchorRows_eq_nil h.workspace h.identity hscope
  rw [PromoteResponse.named, if_pos]
  rw [h.previousAnchorId, h.previousContentId, hrows]
  exact ⟨rfl, rfl⟩

theorem Promoted.named_eq_singleton (hsingle : SingleActive db.anchors)
    {anchor : CurrentStateAnchor}
    (hactive : anchor ∈ activeOf (args.key workspaceId) db.anchors)
    (hscope : anchor.scope = args.scope) :
    response.named = [(some anchor.anchorId, anchor.contentId)] ∧
      response.previousContentId = anchor.contentId := by
  obtain ⟨hid, hcontent⟩ := head_anchorRows h.workspace h.identity hsingle hactive hscope
  rw [← h.previousAnchorId] at hid
  rw [← h.previousContentId] at hcontent
  refine ⟨?_, hcontent⟩
  rw [PromoteResponse.named, hid, hcontent, if_neg]
  rintro ⟨hnone, -⟩
  cases hnone

/-- Reading the anchors back shows the only active anchor of the key when the scope is its. -/
theorem Promoted.readback_iff {anchor : CurrentStateAnchor}
    (hactive : activeOf (args.key workspaceId) next.anchors = [anchor]) :
    (∃ views, listCurrentStateAnchors next none response.readback = .ok views ∧
      ∃ view ∈ views, view.anchorId = anchor.anchorId) ↔ anchor.scope = args.scope := by
  have hlist : listCurrentStateAnchors next none args.query =
      .ok (anchorRows next args.query) :=
    (listCurrentStateAnchors_eq_ok args.query h.workspace).mpr
      ⟨h.storable_scope, h.storable_identity, spares_none _, rfl⟩
  rw [h.readback, hlist]
  constructor
  · rintro ⟨views, hviews, view, hview, -⟩
    rw [← Except.ok.inj hviews] at hview
    obtain ⟨other, hother, hselects, -⟩ := mem_anchorRows hview
    obtain ⟨hkey, hisActive, hscope⟩ := (query_selects_iff h.workspace h.identity).mp hselects
    have hmem := mem_activeOf.mpr ⟨hother, hkey, hisActive⟩
    rw [hactive, List.mem_singleton] at hmem
    rw [← hmem, hscope]
  · intro hscope
    have hmem : anchor ∈ activeOf (args.key workspaceId) next.anchors := by
      rw [hactive]
      exact List.mem_singleton_self _
    obtain ⟨hanchor, hkey, hisActive⟩ := mem_activeOf.mp hmem
    exact ⟨_, rfl, exists_mem_anchorRows hanchor
      ((query_selects_iff h.workspace h.identity).mpr ⟨hkey, hisActive, hscope⟩)⟩

theorem Promoted.coherent_of_undisturbed_iff (hstored : AnchorsStored db)
    (hsingle : SingleActive db.anchors) (hcanonical : AnchorScopesCanonical db)
    (hundisturbed : Undisturbed db args env) :
    Coherent (args.key workspaceId) db next response ↔ SpelledAlike db args workspaceId := by
  obtain ⟨classified, hanchors, htakes, hnext⟩ := h.takesOver hstored hundisturbed
  set scope := promotedScope classified args (freshId db.contentIds) with hscope
  set new := takeOverAnchor classified env.now (promoteRequest args (freshId db.contentIds))
    (promoteCall args workspaceId (freshId db.contentIds)) args.stateIdentity scope with hnew
  have hactive : activeOf (args.key workspaceId) next.anchors = [new] := by
    rw [hnext]
    exact activeOf_takeOver_self htakes env.now scope
  have hretired : retired (args.key workspaceId) db.anchors next.anchors =
      activeOf (args.key workspaceId) db.anchors := by
    rw [hnext]
    exact retired_takeOver hanchors htakes env.now scope
  have hcontent : new.contentId = response.created.contentId := by
    rw [h.created]
    rfl
  have hsupersedes : new.supersedesContentId =
      selectPrevious (args.key workspaceId) db.anchors := by
    rw [← hanchors]
    rfl
  have hspelled : new.scope = args.scope ↔ slugifyScope (some args.scope) = args.scope :=
    promotedScope_eq_iff (fun anchor hmem => hcanonical anchor (hanchors ▸ hmem)) args _
  have hreadback := h.readback_iff hactive
  constructor
  · rintro ⟨hnamed, anchor, hmem, -, -, hviews⟩
    rw [hactive, List.mem_singleton] at hmem
    subst hmem
    refine ⟨hspelled.mp (hreadback.mp hviews), fun old hold => ?_⟩
    by_contra hne
    have hall : ∀ other ∈ activeOf (args.key workspaceId) db.anchors,
        other.scope ≠ args.scope := by
      intro other hother
      rw [activeOf_eq_singleton (hsingle _) hold, List.mem_singleton] at hother
      rwa [hother]
    rw [h.named_eq_nil hall, hretired, activeOf_eq_singleton (hsingle _) hold] at hnamed
    cases hnamed
  · rintro ⟨hslug, hold⟩
    have hviews := hreadback.mpr (hspelled.mpr hslug)
    have hmem : new ∈ activeOf (args.key workspaceId) next.anchors := by
      rw [hactive]
      exact List.mem_singleton_self _
    cases hbefore : activeOf (args.key workspaceId) db.anchors with
    | nil =>
        have hrows : anchorRows db args.query = [] :=
          anchorRows_eq_nil h.workspace h.identity (by rw [hbefore]; simp)
        refine ⟨?_, new, hmem, hcontent, ?_, hviews⟩
        · rw [hretired, hbefore]
          exact h.named_eq_nil (by rw [hbefore]; simp)
        · rw [hsupersedes, selectPrevious_of_nil hbefore, h.previousContentId, hrows]
          rfl
    | cons anchor rest =>
        have hanchor : anchor ∈ activeOf (args.key workspaceId) db.anchors := by
          rw [hbefore]
          exact List.mem_cons_self
        obtain ⟨hnamed, hprevious⟩ := h.named_eq_singleton hsingle hanchor (hold anchor hanchor)
        refine ⟨?_, new, hmem, hcontent, ?_, hviews⟩
        · rw [hretired, activeOf_eq_singleton (hsingle _) hanchor, hnamed]
          rfl
        · rw [hsupersedes, hsingle.selectPrevious_eq hanchor, hprevious]

/-- The answer of a promotion is coherent exactly when no fault keeps the key from being taken
over and the scope is spelled as it is stored. -/
theorem Promoted.coherent_iff (hstored : AnchorsStored db) (hsingle : SingleActive db.anchors)
    (hcanonical : AnchorScopesCanonical db) :
    Coherent (args.key workspaceId) db next response ↔
      Undisturbed db args env ∧ SpelledAlike db args workspaceId := by
  by_cases hundisturbed : Undisturbed db args env
  · rw [h.coherent_of_undisturbed_iff hstored hsingle hcanonical hundisturbed,
      and_iff_right hundisturbed]
  · refine iff_of_false ?_ fun hboth => hundisturbed hboth.1
    rintro ⟨-, anchor, hmem, hcontent, -⟩
    rw [h.anchors_disturbed hundisturbed] at hmem
    rw [h.created] at hcontent
    exact freshId_notMem _ (hstored anchor (mem_activeOf.mp hmem).1 _ hcontent)

end Promotion

/-! ## Histories -/

theorem serve_scopesCanonical (contentHashOf : Text → Text) {db : Database}
    (h : AnchorScopesCanonical db) (request : Request) :
    AnchorScopesCanonical (serve contentHashOf db request) := by
  have hdecorates : ∀ db next, Decorates db next → AnchorScopesCanonical db →
      AnchorScopesCanonical next :=
    fun db next hdecorates h anchor hmem => h anchor (hdecorates.anchors ▸ hmem)
  have hcreate (args : SaveArgs) (env : SaveEnvironment) :
      AnchorScopesCanonical (createContentMinimal contentHashOf db args env).1 :=
    create_preserves hdecorates (fun _ call h => resolveStep_scopesCanonical h call) (fun _ => h)
      (fun _ hwritten h anchor hmem => h anchor (hwritten.anchors ▸ hmem)) h
  cases request with
  | save args env => exact hcreate args env
  | promote args env => exact promote_preserves hdecorates h (hcreate _ _)
  | resolve call => exact resolveStep_scopesCanonical h call
  | tier operation => exact hdecorates _ _ (TierOperations.tierStep_decorates db operation) h

/-- In every state that requests reach, a promotion that answers does so coherently exactly when
it is undisturbed, its scope is its own slug, and the active anchor of its key has that
scope. -/
theorem promotions_coherent_iff (contentHashOf : Text → Text) {db : Database}
    (hconsistent : Consistent db) (hanchors : db.anchors = []) (requests : List Request) :
    Always (serve contentHashOf) (fun db => ∀ args env workspaceId next response,
      args.workspaceId = some workspaceId →
      trustedPromoteCurrentState contentHashOf db args env = (next, .ok response) →
      (Coherent (args.key workspaceId) db next response ↔
        Undisturbed db args env ∧ SpelledAlike db args workspaceId)) db requests := by
  have hinvariant : Always (serve contentHashOf)
      (fun db => Consistent db ∧ SingleActive db.anchors ∧ AnchorScopesCanonical db)
      db requests := by
    have hsingle : SingleActive db.anchors := by
      intro key
      simp [hanchors, activeOf]
    have hcanonical : AnchorScopesCanonical db := by
      intro anchor hmem
      rw [hanchors] at hmem
      cases hmem
    exact always_of_invariant ⟨hconsistent, hsingle, hcanonical⟩ (fun db request h =>
      ⟨serve_consistent contentHashOf h.1 request, serve_singleActive contentHashOf h.2.1 request,
        serve_scopesCanonical contentHashOf h.2.2 request⟩) requests
  refine hinvariant.mono fun db h args env workspaceId next response hworkspace hok => ?_
  obtain ⟨workspaceId', hpromoted⟩ := promoted_of_ok hok
  obtain rfl := Option.some.inj (hworkspace.symm.trans hpromoted.workspace)
  exact hpromoted.coherent_iff h.1.anchor_content h.2.1 h.2.2

/-- A promotion in an empty database leaves one anchor. -/
example :
    let args : PromoteArgs :=
      { content := "June".toList, workspaceId := some 1, memoryType := .decision,
        stateIdentity := "launch".toList }
    (serve id {} (.promote args { event := { scores := ⟨1, 1, 1, 1⟩ } })).anchors.length = 1 := by
  decide +kernel

theorem exists_of_isSome (outcome : Database × Except SaveError PromoteResponse)
    (h : outcome.2.toOption.isSome = true) : ∃ response, outcome = (outcome.1, .ok response) := by
  obtain ⟨next, error | response⟩ := outcome
  · cases h
  · exact ⟨response, rfl⟩

/-- A second promotion under the identity's own slug. -/
theorem promotions_coherent_launch :
    let args (content : String) : PromoteArgs :=
      { content := content.toList, workspaceId := some 1, memoryType := .decision,
        stateIdentity := "launch".toList }
    let env : PromoteEnvironment := { event := { scores := ⟨1, 1, 1, 1⟩ } }
    let db := serve id {} (.promote (args "June") env)
    ∃ next response,
      trustedPromoteCurrentState id db (args "July") env = (next, .ok response) ∧
      Coherent ((args "July").key 1) db next response := by
  intro args env db
  obtain ⟨response, hok⟩ := exists_of_isSome
    (trustedPromoteCurrentState id db (args "July") env) (by decide +kernel)
  refine ⟨_, response, hok, ?_⟩
  have hlast := (promotions_coherent_iff id consistent_empty rfl
    [.promote (args "June") env]).last
  refine (hlast (args "July") env 1 _ response rfl hok).mpr ⟨⟨spares_none _, rfl⟩, ?_, ?_⟩
  · decide +kernel
  · decide +kernel

/-- Under the hint `Launch Plan` the second promotion names nothing as replaced, and its readback
finds nothing. -/
theorem not_coherent_spelling :
    let args (content : String) : PromoteArgs :=
      { content := content.toList, workspaceId := some 1, memoryType := .decision,
        stateIdentity := "launch".toList, scopeHint := some "Launch Plan".toList }
    let env : PromoteEnvironment := { event := { scores := ⟨1, 1, 1, 1⟩ } }
    let db := serve id {} (.promote (args "June") env)
    ∃ next response,
      trustedPromoteCurrentState id db (args "July") env = (next, .ok response) ∧
      response.named = [] ∧
      retired ((args "July").key 1) db.anchors next.anchors ≠ [] ∧
      ¬ Coherent ((args "July").key 1) db next response := by
  intro args env db
  obtain ⟨response, hok⟩ := exists_of_isSome
    (trustedPromoteCurrentState id db (args "July") env) (by decide +kernel)
  obtain ⟨workspaceId, hpromoted⟩ := promoted_of_ok hok
  have hrows : anchorRows db (args "July").query = [] := by decide +kernel
  have hnamed : response.named = [] := by
    simp [PromoteResponse.named, hpromoted.previousAnchorId, hpromoted.previousContentId, hrows]
  have hretired : retired ((args "July").key 1) db.anchors
      (trustedPromoteCurrentState id db (args "July") env).1.anchors ≠ [] := by decide +kernel
  refine ⟨_, response, hok, hnamed, hretired, fun hcoherent => hretired ?_⟩
  have hmap := hcoherent.named
  rw [hnamed] at hmap
  exact List.map_eq_nil_iff.mp hmap.symm

end MemoryLab.Adapter

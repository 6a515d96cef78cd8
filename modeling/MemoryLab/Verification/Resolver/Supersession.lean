import MemoryLab.Library.PointerChain
import MemoryLab.Verification.Resolver.Invariants

/-! # The supersession pointers

Every pointer on a content row is the pointer of some anchor. The anchors only ever gain
pointers, and a content that is made active for the first time has none coming in. -/

namespace MemoryLab.Resolver

open Library Library.Rows Library.Runs Library.Pointers ScopePipeline

/-- The pointer on a content row. -/
def Points (items : List ContentItem) (first second : ContentId) : Prop :=
  ∃ item ∈ items, item.contentId = first ∧ item.csSupersedesContentId = some second

/-- Some anchor of the first content was inserted over the second one. -/
def Supersedes (anchors : List CurrentStateAnchor) (first second : ContentId) : Prop :=
  ∃ anchor ∈ anchors, anchor.contentId = some first ∧ anchor.supersedesContentId = some second

/-- A call takes a key over for a content that an earlier call superseded. -/
def Reactivates (db : Database) (args : ResolveArgs) : Prop :=
  ∃ call stateIdentity, TakesOver db args call stateIdentity ∧
    ∃ contentId, Supersedes db.anchors contentId call.contentId

theorem Supersedes.of_supersedeActive {key : StateKey} {contentId : ContentId} {now : Timestamp}
    {anchors : List CurrentStateAnchor} {first second : ContentId}
    (h : Supersedes (supersedeActive key contentId now anchors) first second) :
    Supersedes anchors first second := by
  obtain ⟨anchor, hmem, hfirst, hsecond⟩ := h
  rcases mem_supersedeActive.mp hmem with ⟨hold, -⟩ | ⟨old, hold, -, rfl⟩
  · exact ⟨anchor, hold, hfirst, hsecond⟩
  · exact ⟨old, hold, hfirst, hsecond⟩

theorem Supersedes.supersedeActive {key : StateKey} {contentId : ContentId} {now : Timestamp}
    {anchors : List CurrentStateAnchor} {first second : ContentId}
    (h : Supersedes anchors first second) :
    Supersedes (supersedeActive key contentId now anchors) first second := by
  obtain ⟨anchor, hmem, hfirst, hsecond⟩ := h
  cases hretire : toSupersede key contentId anchor with
  | false => exact ⟨anchor, mem_supersedeActive.mpr (.inl ⟨hmem, hretire⟩), hfirst, hsecond⟩
  | true =>
      exact ⟨setSuperseded now anchor,
        mem_supersedeActive.mpr (.inr ⟨anchor, hmem, hretire, rfl⟩), hfirst, hsecond⟩

theorem supersedes_takeOver {db : Database} {now : Timestamp} {args : ResolveArgs}
    {call : AdmittedCall} {stateIdentity : Text} {scope : ScopeResolution}
    {first second : ContentId} :
    Supersedes (takeOver db now args call stateIdentity scope).anchors first second ↔
      Supersedes db.anchors first second ∨
        (first = call.contentId ∧
          selectPrevious (call.key stateIdentity) db.anchors = some second) := by
  constructor
  · rintro ⟨anchor, hmem, hfirst, hsecond⟩
    rcases List.mem_append.mp hmem with hmem | hmem
    · exact .inl (Supersedes.of_supersedeActive ⟨anchor, hmem, hfirst, hsecond⟩)
    · obtain rfl := List.mem_singleton.mp hmem
      exact .inr ⟨(Option.some.inj hfirst).symm, hsecond⟩
  · rintro (h | ⟨rfl, hprevious⟩)
    · obtain ⟨anchor, hmem, hfirst, hsecond⟩ := h.supersedeActive
      exact ⟨anchor, List.mem_append_left _ hmem, hfirst, hsecond⟩
    · exact ⟨_, List.mem_append_right _ (List.mem_singleton_self _), rfl, hprevious⟩

/-! ## One call -/

/-- The anchors' pointers close no cycle, and the rows' pointers are among them. -/
structure PointersTraced (db : Database) : Prop where
  acyclic : Acyclic (Supersedes db.anchors)
  traced : ∀ first second, Points db.contentItems first second →
    Supersedes db.anchors first second

theorem PointersTraced.points_acyclic {db : Database} (h : PointersTraced db) :
    Acyclic (Points db.contentItems) :=
  h.acyclic.mono h.traced

theorem pointersTraced_refreshed {db : Database} (h : PointersTraced db) {key : StateKey}
    {contentId : ContentId} {existing : CurrentStateAnchor}
    (hexisting : selectExistingSame key contentId db.anchors = some existing)
    (scope stateIdentity : Text) :
    PointersTraced { db with
      contentItems := markCurrent scope stateIdentity existing.supersedesContentId contentId
        db.contentItems } := by
  refine ⟨h.acyclic, ?_⟩
  rintro first second ⟨item, hitem, hfirst, hsecond⟩
  obtain ⟨hactive, hcontent⟩ := selectExistingSame_some hexisting
  obtain ⟨old, hold, ⟨hmatch, rfl⟩ | ⟨-, rfl⟩⟩ := mem_updateWhere.mp hitem
  · refine ⟨existing, (mem_activeOf.mp hactive).1, ?_, hsecond⟩
    rw [hcontent, ← hfirst]
    exact congrArg some (beq_iff_eq.mp hmatch).symm
  · exact h.traced first second ⟨item, hold, hfirst, hsecond⟩

theorem pointersTraced_takeOver {db : Database} {args : ResolveArgs} {call : AdmittedCall}
    {stateIdentity : Text} (htakes : TakesOver db args call stateIdentity) (now : Timestamp)
    (scope : ScopeResolution) (h : PointersTraced db) (hfresh : ¬ Reactivates db args) :
    PointersTraced (takeOver db now args call stateIdentity scope) := by
  refine ⟨h.acyclic.extend (x := call.contentId) ?_ ?_, ?_⟩
  · intro first second hafter
    exact (supersedes_takeOver.mp hafter).imp_right fun hnew => hnew.1
  · intro first hafter
    rcases supersedes_takeOver.mp hafter with hold | ⟨-, hprevious⟩
    · exact hfresh ⟨call, stateIdentity, htakes, first, hold⟩
    · exact selectPrevious_ne htakes hprevious
  · rintro first second ⟨item, hitem, hfirst, hsecond⟩
    rw [takeOver_contentItems htakes] at hitem
    obtain ⟨old, hold, rfl⟩ := List.mem_map.mp hitem
    rw [supersedes_takeOver]
    unfold takeOverRow at hfirst hsecond
    split at hsecond
    · rename_i hcall
      rw [if_pos hcall] at hfirst
      exact .inr ⟨hfirst.symm.trans hcall, hsecond⟩
    · rename_i hcall
      rw [if_neg hcall] at hfirst
      refine .inl (h.traced first second ⟨old, hold, ?_, ?_⟩)
      · split at hfirst <;> exact hfirst
      · split at hsecond <;> exact hsecond

theorem pointersTraced_step {db : Database} (h : PointersTraced db) (call : ResolveCall)
    (hfresh : ¬ Reactivates db call.args) : PointersTraced (resolveStep db call) := by
  generalize hnext : resolveStep db call = next
  have heffect : StepEffect db call.now call.args next := hnext ▸ resolveStep_effect db call
  cases heffect with
  | unchanged => exact h
  | grouped =>
      refine ⟨h.acyclic, ?_⟩
      rintro first second ⟨item, hitem, hfirst, hsecond⟩
      obtain ⟨old, hold, ⟨-, rfl⟩ | ⟨-, rfl⟩⟩ := mem_updateWhere.mp hitem
      · exact h.traced first second ⟨old, hold, hfirst, hsecond⟩
      · exact h.traced first second ⟨item, hold, hfirst, hsecond⟩
  | refreshed _ _ hexisting => exact pointersTraced_refreshed h hexisting _ _
  | tookOver scope htakes => exact pointersTraced_takeOver htakes _ scope h hfresh

/-! ## Runs -/

/-- From empty anchors, the pointers close no cycle while no call makes a content active that
an earlier call superseded. -/
theorem always_points_acyclic {db : Database} (hanchors : db.anchors = [])
    (hunset : ∀ item ∈ db.contentItems, item.csSupersedesContentId = none)
    {calls : List ResolveCall}
    (hfresh : Guarded resolveStep (fun db call => ¬ Reactivates db call.args) db calls) :
    Always resolveStep (fun db => Acyclic (Points db.contentItems)) db calls := by
  have hstart : PointersTraced db := by
    refine ⟨acyclic_of_forall_not ?_, ?_⟩
    · rintro first second ⟨anchor, hmem, -⟩
      rw [hanchors] at hmem
      cases hmem
    · rintro first second ⟨item, hitem, -, hpointer⟩
      rw [hunset item hitem] at hpointer
      cases hpointer
  exact (hfresh.always hstart fun db call h => pointersTraced_step h call).mono
    fun db => PointersTraced.points_acyclic

/-- Content 2 replaces content 1, which no call resolves again. -/
theorem always_points_acyclic_launch :
    let call (contentId : ContentId) : ResolveCall :=
      ⟨10, { workspaceId := some 1, contentId := some contentId, memoryType := some .anchor,
             classifyConfidence := some 1, stateIdentity := some "launch".toList }⟩
    Always resolveStep (fun db => Acyclic (Points db.contentItems))
      { contentItems := [{ contentId := 1, workspaceId := some 1 },
          { contentId := 2, workspaceId := some 1 }] }
      [call 1, call 2] := by
  intro call
  refine always_points_acyclic rfl (by simp) ⟨?_, ?_, trivial⟩
  · rintro ⟨admitted, stateIdentity, -, first, anchor, hmem, -⟩
    cases hmem
  · rintro ⟨admitted, stateIdentity, -, first, anchor, hmem, -, hpointer⟩
    have hall : ∀ anchor ∈ (resolveStep
        { contentItems := [{ contentId := 1, workspaceId := some 1 },
            { contentId := 2, workspaceId := some 1 }] } (call 1)).anchors,
        anchor.supersedesContentId = none := by decide +kernel
    rw [hall anchor hmem] at hpointer
    cases hpointer

/-- Content 1 is promoted, replaced by content 2, and promoted again. -/
theorem points_cycle_reactivated :
    let call (contentId : ContentId) : ResolveCall :=
      ⟨10, { workspaceId := some 1, contentId := some contentId, memoryType := some .anchor,
             classifyConfidence := some 1, stateIdentity := some "launch".toList }⟩
    ¬ Acyclic (Points (run resolveStep
      { contentItems := [{ contentId := 1, workspaceId := some 1 },
          { contentId := 2, workspaceId := some 1 }] }
      [call 1, call 2, call 1]).contentItems) := by
  intro call hacyclic
  refine hacyclic 1 (.tail (.single (b := 2) ?_) ?_)
  · unfold Points
    decide +kernel
  · unfold Points
    decide +kernel

end MemoryLab.Resolver

import MemoryLab.Verification.Resolver.Invariants

/-! # When the mark on a content row mirrors its anchors

A content can be active under several keys, while every call marks it from the point of view
of its own key. -/

namespace MemoryLab.Resolver

open Library Library.Rows Library.Runs ScopePipeline

/-- The mark that the migration declares: true with an active anchor, false with retired
anchors only, unset without any. -/
structure Mirrored (anchors : List CurrentStateAnchor) (item : ContentItem) : Prop where
  current : item.isCurrent = some true ↔ ActiveIn anchors item.contentId
  superseded : item.isCurrent = some false ↔
    ReferencedIn anchors item.contentId ∧ ¬ ActiveIn anchors item.contentId

def Mirrors (db : Database) : Prop := ∀ item ∈ db.contentItems, Mirrored db.anchors item

/-- A call takes a key over while the content it supersedes is active under another key. -/
def RetiresShared (db : Database) (args : ResolveArgs) : Prop :=
  ∃ call stateIdentity, TakesOver db args call stateIdentity ∧
    ∃ anchor ∈ activeOf (call.key stateIdentity) db.anchors, ∃ contentId,
      anchor.contentId = some contentId ∧
        ActiveElsewhere (call.key stateIdentity) db.anchors contentId

theorem mirrored_of_current {anchors : List CurrentStateAnchor} {item : ContentItem}
    (hcurrent : item.isCurrent = some true) (hactive : ActiveIn anchors item.contentId) :
    Mirrored anchors item :=
  ⟨iff_of_true hcurrent hactive, by simp [hcurrent, hactive]⟩

theorem mirrored_of_superseded {anchors : List CurrentStateAnchor} {item : ContentItem}
    (hcurrent : item.isCurrent = some false) (hreferenced : ReferencedIn anchors item.contentId)
    (hactive : ¬ ActiveIn anchors item.contentId) : Mirrored anchors item :=
  ⟨by simp [hcurrent, hactive], iff_of_true hcurrent ⟨hreferenced, hactive⟩⟩

theorem Mirrored.congr {anchors others : List CurrentStateAnchor} {item other : ContentItem}
    (h : Mirrored anchors item) (hcurrent : other.isCurrent = item.isCurrent)
    (hreferenced : ReferencedIn others other.contentId ↔ ReferencedIn anchors item.contentId)
    (hactive : ActiveIn others other.contentId ↔ ActiveIn anchors item.contentId) :
    Mirrored others other :=
  ⟨by rw [hcurrent, hactive, h.current], by rw [hcurrent, hreferenced, hactive, h.superseded]⟩

/-! ## One call -/

theorem mirrors_grouped {db : Database} (h : Mirrors db) (contentId : ContentId) (scope : Text) :
    Mirrors { db with
      contentItems := updateWhere (hasContentId contentId) (setScope scope) db.contentItems } := by
  intro item hitem
  obtain ⟨old, hold, ⟨-, rfl⟩ | ⟨-, rfl⟩⟩ := mem_updateWhere.mp hitem
  · exact (h old hold).congr rfl Iff.rfl Iff.rfl
  · exact h item hold

theorem mirrors_refreshed {db : Database} (h : Mirrors db) {key : StateKey}
    {contentId : ContentId} {existing : CurrentStateAnchor}
    (hexisting : selectExistingSame key contentId db.anchors = some existing)
    (scope stateIdentity : Text) (supersedes : Option ContentId) :
    Mirrors { db with
      contentItems := markCurrent scope stateIdentity supersedes contentId db.contentItems } := by
  obtain ⟨hactive, hcontent⟩ := selectExistingSame_some hexisting
  obtain ⟨hmem, -, hactive⟩ := mem_activeOf.mp hactive
  intro item hitem
  obtain ⟨old, hold, ⟨hmatch, rfl⟩ | ⟨-, rfl⟩⟩ := mem_updateWhere.mp hitem
  · refine mirrored_of_current rfl ⟨existing, hmem, hactive, ?_⟩
    rw [hcontent]
    exact congrArg some (beq_iff_eq.mp hmatch).symm
  · exact h item hold

section TakeOver

variable {db : Database} {args : ResolveArgs} {call : AdmittedCall} {stateIdentity : Text}
  (htakes : TakesOver db args call stateIdentity) (now : Timestamp) (scope : ScopeResolution)
include htakes

theorem mirrors_takeOver (hsingle : SingleActive db.anchors) (h : Mirrors db)
    (hshared : ¬ RetiresShared db args) :
    Mirrors (takeOver db now args call stateIdentity scope) := by
  intro item hitem
  rw [takeOver_contentItems htakes] at hitem
  obtain ⟨old, hold, rfl⟩ := List.mem_map.mp hitem
  unfold takeOverRow
  split
  · rename_i hcall
    refine mirrored_of_current rfl ?_
    exact (activeIn_takeOver htakes now scope).mpr (.inl hcall)
  · rename_i hcall
    split
    · rename_i hprevious
      obtain ⟨anchor, hactive, hcontent⟩ := selectPrevious_mem hprevious
      refine mirrored_of_superseded rfl ?_ ?_
      · exact (referencedIn_takeOver db now args call stateIdentity scope).mpr
          (.inr ⟨anchor, (mem_activeOf.mp hactive).1, hcontent⟩)
      · intro hafter
        have helsewhere := ((activeIn_takeOver htakes now scope).mp hafter).resolve_left hcall
        exact hshared ⟨call, stateIdentity, htakes, anchor, hactive, _, hcontent, helsewhere⟩
    · rename_i hprevious
      refine (h old hold).congr rfl ?_ (activeIn_takeOver_of_ne htakes now scope hsingle hcall
        hprevious)
      rw [referencedIn_takeOver, or_iff_right hcall]

/-- The superseded row is marked false whatever other keys say about it. -/
theorem not_retiresShared_of_mirrors (hstored : AnchorsStored db)
    (hsingle : SingleActive db.anchors)
    (h : Mirrors (takeOver db now args call stateIdentity scope)) :
    ¬ RetiresShared db args := by
  rintro ⟨call', stateIdentity', htakes', anchor, hactive, contentId, hcontent, helsewhere⟩
  obtain rfl := Except.ok.inj (htakes.admission.symm.trans htakes'.admission)
  obtain rfl := Option.some.inj (htakes.identity.symm.trans htakes'.identity)
  have hprevious := hsingle.selectPrevious_eq hactive
  rw [hcontent] at hprevious
  have hne : contentId ≠ call.contentId := by
    rintro rfl
    exact selectPrevious_ne htakes hprevious
  obtain ⟨item, hitem, rfl⟩ :=
    List.mem_map.mp (hstored anchor (mem_activeOf.mp hactive).1 contentId hcontent)
  have hrow : setNotCurrent scope.scope item ∈
      (takeOver db now args call stateIdentity scope).contentItems := by
    rw [takeOver_contentItems htakes]
    exact List.mem_map.mpr ⟨item, hitem, by simp [takeOverRow, hne, hprevious]⟩
  exact ((h _ hrow).superseded.mp rfl).2
    ((activeIn_takeOver htakes now scope).mpr (.inr helsewhere))

end TakeOver

theorem mirrors_step_iff {db : Database} (hstored : AnchorsStored db)
    (hsingle : SingleActive db.anchors) (h : Mirrors db) (call : ResolveCall) :
    Mirrors (resolveStep db call) ↔ ¬ RetiresShared db call.args := by
  by_cases htakes : ∃ admitted stateIdentity, TakesOver db call.args admitted stateIdentity
  · obtain ⟨admitted, stateIdentity, htakes⟩ := htakes
    rw [htakes.resolveStep_eq]
    exact ⟨not_retiresShared_of_mirrors htakes _ _ hstored hsingle,
      mirrors_takeOver htakes _ _ hsingle h⟩
  · refine iff_of_true ?_ fun ⟨admitted, stateIdentity, hshared, _⟩ =>
      htakes ⟨admitted, stateIdentity, hshared⟩
    generalize hnext : resolveStep db call = next
    have heffect : StepEffect db call.now call.args next := hnext ▸ resolveStep_effect db call
    cases heffect with
    | unchanged => exact h
    | grouped => exact mirrors_grouped h _ _
    | refreshed _ _ hexisting => exact mirrors_refreshed h hexisting _ _ _
    | tookOver _ htook => exact (htakes ⟨_, _, htook⟩).elim

/-! ## Runs -/

/-- From empty anchors, the marks mirror the anchors throughout a run exactly when no call of
the run supersedes a content that is active under another key. -/
theorem always_mirrors_iff {db : Database} (hanchors : db.anchors = [])
    (hunset : ∀ item ∈ db.contentItems, item.isCurrent = none) (calls : List ResolveCall) :
    Always resolveStep Mirrors db calls ↔
      Guarded resolveStep (fun db call => ¬ RetiresShared db call.args) db calls := by
  have hmirrors : Mirrors db := fun item hitem => by
    constructor <;> simp [hunset item hitem, ActiveIn, ReferencedIn, hanchors]
  refine always_iff_guarded (I := fun db => AnchorsStored db ∧ SingleActive db.anchors)
    ⟨?_, ?_⟩ hmirrors ?_ ?_ calls
  · intro anchor hmem
    rw [hanchors] at hmem
    cases hmem
  · intro key
    simp [hanchors, activeOf]
  · exact fun db call h =>
      ⟨(resolveStep_effect db call).anchorsStored h.1,
        (resolveStep_effect db call).singleActive h.2⟩
  · exact fun db call h hmirrors => mirrors_step_iff h.1 h.2 hmirrors call

theorem always_mirrors_firstCall :
    Always resolveStep Mirrors { contentItems := [{ contentId := 1, workspaceId := some 1 }] }
      [⟨10, { workspaceId := some 1, contentId := some 1, memoryType := some .anchor,
              classifyConfidence := some 1, stateIdentity := some "launch".toList }⟩] := by
  refine (always_mirrors_iff rfl (by simp) _).mpr ⟨?_, trivial⟩
  rintro ⟨call, stateIdentity, -, anchor, hactive, -⟩
  cases hactive

/-- Content 1 is active under two keys, and content 2 replaces it under one of them. -/
theorem not_mirrors_sharedContent :
    let call (contentId : ContentId) (stateIdentity : String) : ResolveCall :=
      ⟨10, { workspaceId := some 1, contentId := some contentId, memoryType := some .anchor,
             classifyConfidence := some 1, stateIdentity := some stateIdentity.toList }⟩
    ¬ Always resolveStep Mirrors
      { contentItems := [{ contentId := 1, workspaceId := some 1 },
          { contentId := 2, workspaceId := some 1 }] }
      [call 1 "launch", call 1 "pricing", call 2 "launch"] := by
  intro call h
  have hlast := h.last
  set final := run resolveStep _ [call 1 "launch", call 1 "pricing", call 2 "launch"]
    with hfinal
  have hrow : ∃ item ∈ final.contentItems, item.contentId = 1 ∧ item.isCurrent = some false := by
    rw [hfinal]
    decide +kernel
  have hactive : ∃ anchor ∈ final.anchors, anchor.isActive = true ∧
      anchor.contentId = some 1 := by
    rw [hfinal]
    decide +kernel
  obtain ⟨item, hitem, hcontent, hcurrent⟩ := hrow
  have hnotActive := ((hlast item hitem).superseded.mp hcurrent).2
  rw [hcontent] at hnotActive
  exact hnotActive hactive

end MemoryLab.Resolver

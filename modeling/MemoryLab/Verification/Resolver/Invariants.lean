import MemoryLab.Verification.Resolver.Equations

/-! # Invariants of the anchor table

What a call does to the active anchors and to the contents that anchors refer to. -/

namespace MemoryLab.Resolver

open Library Library.Rows Library.Runs ScopePipeline

/-! ## One active anchor -/

def SingleActive (anchors : List CurrentStateAnchor) : Prop :=
  ∀ key, (activeOf key anchors).length ≤ 1

/-- The reference that the schema declares. -/
def AnchorsStored (db : Database) : Prop :=
  ∀ anchor ∈ db.anchors, ∀ contentId, anchor.contentId = some contentId →
    contentId ∈ db.contentIds

theorem activeOf_eq_singleton {key : StateKey} {anchors : List CurrentStateAnchor}
    (h : (activeOf key anchors).length ≤ 1) {anchor : CurrentStateAnchor}
    (hmem : anchor ∈ activeOf key anchors) : activeOf key anchors = [anchor] := by
  rcases hactive : activeOf key anchors with _ | ⟨first, rest⟩
  · rw [hactive] at hmem
    cases hmem
  · rw [hactive, List.length_cons] at h
    obtain rfl : rest = [] := List.length_eq_zero_iff.mp (by omega)
    rw [hactive, List.mem_singleton] at hmem
    rw [hmem]

theorem SingleActive.selectPrevious_eq {anchors : List CurrentStateAnchor}
    (h : SingleActive anchors) {key : StateKey} {anchor : CurrentStateAnchor}
    (hmem : anchor ∈ activeOf key anchors) : selectPrevious key anchors = anchor.contentId :=
  selectPrevious_of_singleton (activeOf_eq_singleton (h key) hmem)

theorem StepEffect.singleActive {db next : Database} {now : Timestamp} {args : ResolveArgs}
    (h : StepEffect db now args next) (hsingle : SingleActive db.anchors) :
    SingleActive next.anchors := by
  intro key
  cases h with
  | unchanged => exact hsingle key
  | grouped => exact hsingle key
  | refreshed => exact hsingle key
  | @tookOver call stateIdentity scope htakes =>
      by_cases hkey : key = call.key stateIdentity
      · subst hkey
        rw [activeOf_takeOver_self htakes]
        rfl
      · rw [activeOf_takeOver_other hkey]
        exact hsingle key

theorem StepEffect.anchorsStored {db next : Database} {now : Timestamp} {args : ResolveArgs}
    (h : StepEffect db now args next) (hstored : AnchorsStored db) : AnchorsStored next := by
  intro anchor hmem contentId hcontent
  rw [h.contentIds]
  cases h with
  | unchanged => exact hstored anchor hmem contentId hcontent
  | grouped => exact hstored anchor hmem contentId hcontent
  | refreshed => exact hstored anchor hmem contentId hcontent
  | tookOver scope htakes =>
      rcases List.mem_append.mp hmem with hmem | hmem
      · rcases mem_supersedeActive.mp hmem with ⟨hold, -⟩ | ⟨old, hold, -, rfl⟩
        · exact hstored anchor hold contentId hcontent
        · exact hstored old hold contentId hcontent
      · obtain rfl := List.mem_singleton.mp hmem
        obtain rfl := Option.some.inj hcontent
        exact htakes.content_mem

/-- Sequential calls never leave a key with two active anchors. -/
theorem run_singleActive {db : Database} (h : SingleActive db.anchors)
    (calls : List ResolveCall) : SingleActive (run resolveStep db calls).anchors :=
  run_of_invariant (P := fun db => SingleActive db.anchors) h
    (fun db call => (resolveStep_effect db call).singleActive) calls

/-! ## References -/

def ReferencedIn (anchors : List CurrentStateAnchor) (contentId : ContentId) : Prop :=
  ∃ anchor ∈ anchors, anchor.contentId = some contentId

def ActiveIn (anchors : List CurrentStateAnchor) (contentId : ContentId) : Prop :=
  ∃ anchor ∈ anchors, anchor.isActive = true ∧ anchor.contentId = some contentId

/-- Active under another key. -/
def ActiveElsewhere (key : StateKey) (anchors : List CurrentStateAnchor)
    (contentId : ContentId) : Prop :=
  ∃ anchor ∈ anchors, anchor.isActive = true ∧ anchor.contentId = some contentId ∧
    anchor.hasKey key = false

theorem ActiveElsewhere.activeIn {key : StateKey} {anchors : List CurrentStateAnchor}
    {contentId : ContentId} (h : ActiveElsewhere key anchors contentId) :
    ActiveIn anchors contentId := by
  obtain ⟨anchor, hmem, hactive, hcontent, -⟩ := h
  exact ⟨anchor, hmem, hactive, hcontent⟩

theorem referencedIn_takeOver (db : Database) (now : Timestamp) (args : ResolveArgs)
    (call : AdmittedCall) (stateIdentity : Text) (scope : ScopeResolution)
    {contentId : ContentId} :
    ReferencedIn (takeOver db now args call stateIdentity scope).anchors contentId ↔
      contentId = call.contentId ∨ ReferencedIn db.anchors contentId := by
  constructor
  · rintro ⟨anchor, hmem, hcontent⟩
    rcases List.mem_append.mp hmem with hmem | hmem
    · rcases mem_supersedeActive.mp hmem with ⟨hold, -⟩ | ⟨old, hold, -, rfl⟩
      · exact .inr ⟨anchor, hold, hcontent⟩
      · exact .inr ⟨old, hold, hcontent⟩
    · obtain rfl := List.mem_singleton.mp hmem
      exact .inl (Option.some.inj hcontent).symm
  · rintro (rfl | ⟨anchor, hmem, hcontent⟩)
    · exact ⟨_, List.mem_append_right _ (List.mem_singleton_self _), rfl⟩
    · cases hretire : toSupersede (call.key stateIdentity) call.contentId anchor with
      | false =>
          exact ⟨anchor, List.mem_append_left _
            (mem_supersedeActive.mpr (.inl ⟨hmem, hretire⟩)), hcontent⟩
      | true =>
          exact ⟨setSuperseded now anchor, List.mem_append_left _
            (mem_supersedeActive.mpr (.inr ⟨anchor, hmem, hretire, rfl⟩)), hcontent⟩

section TakeOver

variable {db : Database} {args : ResolveArgs} {call : AdmittedCall} {stateIdentity : Text}
  (h : TakesOver db args call stateIdentity) (now : Timestamp) (scope : ScopeResolution)
include h

/-- Taking a key over ends every activity under that key but the new one. -/
theorem activeIn_takeOver {contentId : ContentId} :
    ActiveIn (takeOver db now args call stateIdentity scope).anchors contentId ↔
      contentId = call.contentId ∨
        ActiveElsewhere (call.key stateIdentity) db.anchors contentId := by
  constructor
  · rintro ⟨anchor, hmem, hactive, hcontent⟩
    rcases List.mem_append.mp hmem with hmem | hmem
    · rcases mem_supersedeActive.mp hmem with ⟨hold, hkept⟩ | ⟨old, -, -, rfl⟩
      · refine .inr ⟨anchor, hold, hactive, hcontent, ?_⟩
        by_contra hkey
        rw [Bool.not_eq_false] at hkey
        have hne := selectExistingSame_eq_none.mp h.none_active anchor
          (mem_activeOf.mpr ⟨hold, hkey, hactive⟩)
        simp [toSupersede, hkey, hactive, hne] at hkept
      · simp at hactive
    · obtain rfl := List.mem_singleton.mp hmem
      exact .inl (Option.some.inj hcontent).symm
  · rintro (rfl | ⟨anchor, hmem, hactive, hcontent, hkey⟩)
    · exact ⟨_, List.mem_append_right _ (List.mem_singleton_self _), rfl, rfl⟩
    · exact ⟨anchor, List.mem_append_left _
        (mem_supersedeActive.mpr (.inl ⟨hmem, by simp [toSupersede, hkey]⟩)), hactive, hcontent⟩

/-- With one active anchor a key, only the superseded content can stop being active. -/
theorem activeIn_takeOver_of_ne {contentId : ContentId} (hsingle : SingleActive db.anchors)
    (hcall : contentId ≠ call.contentId)
    (hprevious : selectPrevious (call.key stateIdentity) db.anchors ≠ some contentId) :
    ActiveIn (takeOver db now args call stateIdentity scope).anchors contentId ↔
      ActiveIn db.anchors contentId := by
  rw [activeIn_takeOver h]
  refine ⟨fun hactive => (hactive.resolve_left hcall).activeIn, ?_⟩
  rintro ⟨anchor, hmem, hactive, hcontent⟩
  refine .inr ⟨anchor, hmem, hactive, hcontent, ?_⟩
  by_contra hkey
  rw [Bool.not_eq_false] at hkey
  refine hprevious ?_
  rw [hsingle.selectPrevious_eq (mem_activeOf.mpr ⟨hmem, hkey, hactive⟩), hcontent]

end TakeOver

/-! ## Content rows of a call that takes over -/

/-- A content row after a call took its key over. -/
def takeOverRow (call : AdmittedCall) (stateIdentity scope : Text)
    (supersedes : Option ContentId) (item : ContentItem) : ContentItem :=
  if item.contentId = call.contentId then setCurrent scope stateIdentity supersedes item
  else if supersedes = some item.contentId then setNotCurrent scope item
  else item

theorem takeOver_contentItems {db : Database} {args : ResolveArgs} {call : AdmittedCall}
    {stateIdentity : Text} (h : TakesOver db args call stateIdentity) (now : Timestamp)
    (scope : ScopeResolution) :
    (takeOver db now args call stateIdentity scope).contentItems =
      db.contentItems.map (takeOverRow call stateIdentity scope.scope
        (selectPrevious (call.key stateIdentity) db.anchors)) := by
  have hne := selectPrevious_ne h
  simp only [takeOver, markCurrent, markSuperseded]
  cases hprevious : selectPrevious (call.key stateIdentity) db.anchors with
  | none =>
      refine List.map_congr_left fun item _ => ?_
      by_cases hcall : item.contentId = call.contentId <;>
        simp [takeOverRow, hasContentId, hcall]
  | some previous =>
      have hne' : previous ≠ call.contentId := fun heq => hne (by rw [hprevious, heq])
      simp only [updateWhere, List.map_map]
      refine List.map_congr_left fun item _ => ?_
      by_cases hcall : item.contentId = call.contentId
      · have : call.contentId ≠ previous := hne'.symm
        simp [takeOverRow, hasContentId, hcall, this]
      · by_cases hitem : item.contentId = previous
        · simp [takeOverRow, hasContentId, setNotCurrent, hitem, hne']
        · have : previous ≠ item.contentId := fun heq => hitem heq.symm
          simp [takeOverRow, hasContentId, hcall, hitem, this]

end MemoryLab.Resolver

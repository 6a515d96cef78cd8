import MemoryLab.Model.Resolver
import MemoryLab.Library.Runs

/-! # What one resolver call can do -/

namespace MemoryLab.Resolver

open Library Library.Rows ScopePipeline

/-- What an admitted call was given. -/
structure AdmittedCall.OfArgs (call : AdmittedCall) (args : ResolveArgs) : Prop where
  workspaceId : args.workspaceId = some call.workspaceId
  contentId : args.contentId = some call.contentId
  memoryType : args.memoryType = some call.memoryType
  classifyConfidence : args.classifyConfidence = some call.classifyConfidence
  confident : minConfidence ≤ call.classifyConfidence
  setBy : args.setBy ∈ allowedSetBy

theorem admission_eq_ok_iff {args : ResolveArgs} {call : AdmittedCall} :
    args.admission = .ok call ↔ call.OfArgs args := by
  unfold ResolveArgs.admission
  constructor
  · intro h
    split at h
    · cases h
    · rename_i confidence hconfidence
      split at h
      · cases h
      · rename_i hle
        split at h
        · cases h
        · rename_i workspaceId hworkspace
          split at h
          · cases h
          · rename_i contentId hcontent
            split at h
            · cases h
            · rename_i memoryType htype
              split at h
              · cases h
              · rename_i hsetBy
                cases h
                exact ⟨hworkspace, hcontent, htype, hconfidence, not_lt.mp hle,
                  not_not.mp hsetBy⟩
  · intro h
    simp only [h.classifyConfidence, not_lt.mpr h.confident, h.workspaceId, h.contentId,
      h.memoryType, h.setBy, not_true_eq_false, if_false]

/-- A call takes its key over: it is admitted with an identity, no active anchor of the key
has its content yet, and the database accepts its rows. -/
structure TakesOver (db : Database) (args : ResolveArgs) (call : AdmittedCall)
    (stateIdentity : Text) : Prop where
  admission : args.admission = .ok call
  identity : args.identity = some stateIdentity
  storable_identity : storable stateIdentity = true
  storable_subType : storable (args.memorySubType.getD []) = true
  none_active : selectExistingSame (call.key stateIdentity) call.contentId db.anchors = none
  content_mem : call.contentId ∈ db.contentIds

/-- The anchor that a call inserts when it takes its key over. -/
def takeOverAnchor (db : Database) (now : Timestamp) (args : ResolveArgs) (call : AdmittedCall)
    (stateIdentity : Text) (scope : ScopeResolution) : CurrentStateAnchor :=
  let key := call.key stateIdentity
  newAnchor args call stateIdentity scope (selectPrevious key db.anchors) now
    (freshId ((supersedeActive key call.contentId now db.anchors).map (·.anchorId)))

/-- The database after a call takes its key over. -/
def takeOver (db : Database) (now : Timestamp) (args : ResolveArgs) (call : AdmittedCall)
    (stateIdentity : Text) (scope : ScopeResolution) : Database :=
  let key := call.key stateIdentity
  let supersedes := selectPrevious key db.anchors
  { db with
    anchors := supersedeActive key call.contentId now db.anchors ++
      [takeOverAnchor db now args call stateIdentity scope],
    contentItems := markCurrent scope.scope stateIdentity supersedes call.contentId
      (markSuperseded scope.scope supersedes db.contentItems) }

/-- Every effect of a call. -/
inductive StepEffect (db : Database) (now : Timestamp) (args : ResolveArgs) :
    Database → Prop where
  | unchanged : StepEffect db now args db
  | grouped {call : AdmittedCall} {scope : Text} (hadmission : args.admission = .ok call)
      (hidentity : args.identity = none) :
      StepEffect db now args { db with
        contentItems := updateWhere (hasContentId call.contentId) (setScope scope)
          db.contentItems }
  | refreshed {call : AdmittedCall} {stateIdentity scope : Text}
      {existing : CurrentStateAnchor} (hadmission : args.admission = .ok call)
      (hidentity : args.identity = some stateIdentity)
      (hexisting : selectExistingSame (call.key stateIdentity) call.contentId db.anchors =
        some existing) :
      StepEffect db now args { db with
        contentItems := markCurrent scope stateIdentity existing.supersedesContentId
          call.contentId db.contentItems }
  | tookOver {call : AdmittedCall} {stateIdentity : Text} (scope : ScopeResolution)
      (htakes : TakesOver db args call stateIdentity) :
      StepEffect db now args (takeOver db now args call stateIdentity scope)

/-- The transaction of a call with an identity, whatever scope it was given. -/
theorem resolveIdentity_effect {db next : Database} {now : Timestamp} {args : ResolveArgs}
    {call : AdmittedCall} {stateIdentity : Text} {scope : ScopeResolution}
    {resolution : CurrentStateResolution} (hadmission : args.admission = .ok call)
    (hidentity : args.identity = some stateIdentity)
    (h : resolveIdentity db now args call stateIdentity scope = .ok (next, resolution)) :
    StepEffect db now args next := by
  unfold resolveIdentity at h
  dsimp only at h
  split at h
  · cases h
  · rename_i hstorable
    split at h
    · rename_i existing hexisting
      cases h
      exact .refreshed hadmission hidentity hexisting
    · rename_i hnone
      split at h
      · cases h
      · rename_i hsub
        split at h
        · cases h
        · rename_i hmem
          cases h
          exact .tookOver scope ⟨hadmission, hidentity, by simpa using hstorable,
            by simpa using hsub, hnone, not_not.mp hmem⟩

theorem resolveStep_effect (db : Database) (call : ResolveCall) :
    StepEffect db call.now call.args (resolveStep db call) := by
  unfold resolveStep resolveCurrentStateAfterIngest
  cases hadmission : call.args.admission with
  | error reason => exact .unchanged
  | ok admitted =>
      cases hidentity : call.args.identity with
      | none => exact .grouped hadmission hidentity
      | some stateIdentity =>
          dsimp only
          cases hresolve : resolveIdentity db call.now call.args admitted stateIdentity
              (resolveScope db call.args.scopeRequest) with
          | error error => exact .unchanged
          | ok outcome => exact resolveIdentity_effect hadmission hidentity hresolve

/-- A call that takes over does so under the scope its pipeline found. -/
theorem TakesOver.resolveIdentity_eq {db : Database} {args : ResolveArgs} {call : AdmittedCall}
    {stateIdentity : Text} (h : TakesOver db args call stateIdentity) (now : Timestamp)
    (scope : ScopeResolution) :
    ∃ resolution, resolveIdentity db now args call stateIdentity scope =
      .ok (takeOver db now args call stateIdentity scope, resolution) := by
  unfold resolveIdentity
  simp only [h.storable_identity, h.storable_subType, h.none_active, h.content_mem,
    Bool.not_true, Bool.false_eq_true, not_true_eq_false, if_false]
  exact ⟨_, rfl⟩

theorem TakesOver.resolveStep_eq {db : Database} {call : ResolveCall} {admitted : AdmittedCall}
    {stateIdentity : Text} (h : TakesOver db call.args admitted stateIdentity) :
    resolveStep db call = takeOver db call.now call.args admitted stateIdentity
      (resolveScope db call.args.scopeRequest) := by
  obtain ⟨resolution, hresolve⟩ :=
    h.resolveIdentity_eq call.now (resolveScope db call.args.scopeRequest)
  simp only [resolveStep, resolveCurrentStateAfterIngest, h.admission, h.identity, hresolve]

/-- The rule for content rows: what survives the three assignments with the scope that the
pipeline found survives the call. -/
theorem resolveStep_rows {P : ContentItem → Prop} {db : Database}
    (hrows : ∀ item ∈ db.contentItems, P item) (call : ResolveCall)
    (hscope : ∀ item, P item → P (setScope (resolveScope db call.args.scopeRequest).scope item))
    (hsuperseded : ∀ item, P item →
      P (setNotCurrent (resolveScope db call.args.scopeRequest).scope item))
    (hcurrent : ∀ stateIdentity supersedes item, P item →
      P (setCurrent (resolveScope db call.args.scopeRequest).scope stateIdentity supersedes item)) :
    ∀ item ∈ (resolveStep db call).contentItems, P item := by
  unfold resolveStep resolveCurrentStateAfterIngest
  cases hadmission : call.args.admission with
  | error reason => exact hrows
  | ok admitted =>
      cases hidentity : call.args.identity with
      | none => exact forall_updateWhere hrows hscope
      | some stateIdentity =>
          dsimp only
          generalize resolveScope db call.args.scopeRequest = scope at hsuperseded hcurrent
          cases hresolve : resolveIdentity db call.now call.args admitted stateIdentity scope with
          | error error => exact hrows
          | ok outcome =>
              unfold resolveIdentity at hresolve
              dsimp only at hresolve
              split at hresolve
              · cases hresolve
              · split at hresolve
                · cases hresolve
                  exact forall_updateWhere hrows (hcurrent _ _)
                · split at hresolve
                  · cases hresolve
                  · split at hresolve
                    · cases hresolve
                    · cases hresolve
                      refine forall_updateWhere ?_ (hcurrent _ _)
                      unfold markSuperseded
                      split
                      · exact forall_updateWhere hrows hsuperseded
                      · exact hrows

/-! ## Anchors -/

/-- The active anchors of a key. -/
def activeOf (key : StateKey) (anchors : List CurrentStateAnchor) : List CurrentStateAnchor :=
  anchors.filter fun anchor => anchor.hasKey key && anchor.isActive

theorem mem_activeOf {key : StateKey} {anchors : List CurrentStateAnchor}
    {anchor : CurrentStateAnchor} :
    anchor ∈ activeOf key anchors ↔
      anchor ∈ anchors ∧ anchor.hasKey key = true ∧ anchor.isActive = true := by
  simp [activeOf, List.mem_filter]

theorem activeOf_append (key : StateKey) (first second : List CurrentStateAnchor) :
    activeOf key (first ++ second) = activeOf key first ++ activeOf key second :=
  List.filter_append ..

theorem hasKey_unique {key other : StateKey} {anchor : CurrentStateAnchor}
    (h : anchor.hasKey key = true) (h' : anchor.hasKey other = true) : key = other := by
  obtain ⟨w, m, s⟩ := key
  obtain ⟨w', m', s'⟩ := other
  simp only [CurrentStateAnchor.hasKey, Bool.and_eq_true, beq_iff_eq] at h h'
  obtain ⟨⟨rfl, rfl⟩, hs⟩ := h
  obtain ⟨⟨rfl, rfl⟩, hs'⟩ := h'
  rw [hs] at hs'
  cases hs'
  rfl

@[simp] theorem hasKey_setSuperseded (key : StateKey) (now : Timestamp)
    (anchor : CurrentStateAnchor) : (setSuperseded now anchor).hasKey key = anchor.hasKey key :=
  rfl

@[simp] theorem contentId_setSuperseded (now : Timestamp) (anchor : CurrentStateAnchor) :
    (setSuperseded now anchor).contentId = anchor.contentId := rfl

@[simp] theorem supersedesContentId_setSuperseded (now : Timestamp)
    (anchor : CurrentStateAnchor) :
    (setSuperseded now anchor).supersedesContentId = anchor.supersedesContentId := rfl

@[simp] theorem isActive_setSuperseded (now : Timestamp) (anchor : CurrentStateAnchor) :
    (setSuperseded now anchor).isActive = false := rfl

theorem hasKey_takeOverAnchor (db : Database) (now : Timestamp) (args : ResolveArgs)
    (call : AdmittedCall) (stateIdentity : Text) (scope : ScopeResolution) :
    (takeOverAnchor db now args call stateIdentity scope).hasKey (call.key stateIdentity) =
      true := by
  simp [takeOverAnchor, newAnchor, CurrentStateAnchor.hasKey, AdmittedCall.key]

theorem isActive_takeOverAnchor (db : Database) (now : Timestamp) (args : ResolveArgs)
    (call : AdmittedCall) (stateIdentity : Text) (scope : ScopeResolution) :
    (takeOverAnchor db now args call stateIdentity scope).isActive = true := rfl

/-- An anchor after the supersession is an old one that was kept, or one that was retired. -/
theorem mem_supersedeActive {key : StateKey} {contentId : ContentId} {now : Timestamp}
    {anchors : List CurrentStateAnchor} {anchor : CurrentStateAnchor} :
    anchor ∈ supersedeActive key contentId now anchors ↔
      (anchor ∈ anchors ∧ toSupersede key contentId anchor = false) ∨
        ∃ old ∈ anchors, toSupersede key contentId old = true ∧ anchor = setSuperseded now old := by
  rw [supersedeActive, mem_updateWhere]
  constructor
  · rintro ⟨old, hold, ⟨h, rfl⟩ | ⟨h, rfl⟩⟩
    · exact .inr ⟨old, hold, h, rfl⟩
    · exact .inl ⟨hold, h⟩
  · rintro (⟨hold, h⟩ | ⟨old, hold, h, rfl⟩)
    · exact ⟨anchor, hold, .inr ⟨h, rfl⟩⟩
    · exact ⟨old, hold, .inl ⟨h, rfl⟩⟩

theorem selectExistingSame_eq_none {key : StateKey} {contentId : ContentId}
    {anchors : List CurrentStateAnchor} :
    selectExistingSame key contentId anchors = none ↔
      ∀ anchor ∈ activeOf key anchors, anchor.contentId ≠ some contentId := by
  simp only [selectExistingSame, List.find?_eq_none, mem_activeOf, Bool.and_eq_true,
    beq_iff_eq]
  constructor
  · rintro h anchor ⟨hmem, hkey, hactive⟩ hcontent
    exact h anchor hmem ⟨⟨hkey, hactive⟩, hcontent⟩
  · rintro h anchor hmem ⟨⟨hkey, hactive⟩, hcontent⟩
    exact h anchor ⟨hmem, hkey, hactive⟩ hcontent

theorem selectExistingSame_some {key : StateKey} {contentId : ContentId}
    {anchors : List CurrentStateAnchor} {existing : CurrentStateAnchor}
    (h : selectExistingSame key contentId anchors = some existing) :
    existing ∈ activeOf key anchors ∧ existing.contentId = some contentId := by
  have hmem := List.mem_of_find?_eq_some h
  have hp := List.find?_some h
  simp only [Bool.and_eq_true, beq_iff_eq] at hp
  exact ⟨mem_activeOf.mpr ⟨hmem, hp.1.1, hp.1.2⟩, hp.2⟩

/-- When the new content is active nowhere under the key, the key is cleared. -/
theorem activeOf_supersedeActive_self {key : StateKey} {contentId : ContentId}
    {anchors : List CurrentStateAnchor} (now : Timestamp)
    (hnone : selectExistingSame key contentId anchors = none) :
    activeOf key (supersedeActive key contentId now anchors) = [] := by
  rw [activeOf, List.filter_eq_nil_iff]
  intro anchor hmem hactive
  rw [Bool.and_eq_true] at hactive
  rcases mem_supersedeActive.mp hmem with ⟨hold, hkept⟩ | ⟨old, -, -, rfl⟩
  · have hne := selectExistingSame_eq_none.mp hnone anchor
      (mem_activeOf.mpr ⟨hold, hactive⟩)
    simp [toSupersede, hactive, hne] at hkept
  · simp at hactive

theorem activeOf_supersedeActive_other {key other : StateKey} (hne : other ≠ key)
    (contentId : ContentId) (now : Timestamp) (anchors : List CurrentStateAnchor) :
    activeOf other (supersedeActive key contentId now anchors) = activeOf other anchors := by
  induction anchors with
  | nil => rfl
  | cons anchor anchors ih =>
      have ih' : List.filter (fun anchor => anchor.hasKey other && anchor.isActive)
          (supersedeActive key contentId now anchors) =
          List.filter (fun anchor => anchor.hasKey other && anchor.isActive) anchors := ih
      by_cases h : toSupersede key contentId anchor = true
      · have hother : anchor.hasKey other = false := by
          simp only [toSupersede, Bool.and_eq_true] at h
          by_contra hboth
          exact hne (hasKey_unique (by simpa using hboth) h.1.1)
        simp [activeOf, supersedeActive, updateWhere, h, hother] at ih' ⊢
        exact ih'
      · simp [activeOf, supersedeActive, updateWhere, h, List.filter_cons] at ih' ⊢
        rw [ih']

/-- A key that is taken over has the new anchor as its only active one. -/
theorem activeOf_takeOver_self {db : Database} {args : ResolveArgs} {call : AdmittedCall}
    {stateIdentity : Text} (h : TakesOver db args call stateIdentity) (now : Timestamp)
    (scope : ScopeResolution) :
    activeOf (call.key stateIdentity) (takeOver db now args call stateIdentity scope).anchors =
      [takeOverAnchor db now args call stateIdentity scope] := by
  have hnew : activeOf (call.key stateIdentity)
      [takeOverAnchor db now args call stateIdentity scope] =
      [takeOverAnchor db now args call stateIdentity scope] := by
    simp [activeOf, hasKey_takeOverAnchor, isActive_takeOverAnchor]
  rw [takeOver, activeOf_append, activeOf_supersedeActive_self now h.none_active, hnew,
    List.nil_append]

theorem activeOf_takeOver_other {call : AdmittedCall} {stateIdentity : Text} {other : StateKey}
    (hne : other ≠ call.key stateIdentity) (db : Database) (now : Timestamp)
    (args : ResolveArgs) (scope : ScopeResolution) :
    activeOf other (takeOver db now args call stateIdentity scope).anchors =
      activeOf other db.anchors := by
  have hother : (takeOverAnchor db now args call stateIdentity scope).hasKey other = false := by
    by_contra hkey
    exact hne (hasKey_unique (by simpa using hkey) (hasKey_takeOverAnchor ..))
  have hnew : activeOf other [takeOverAnchor db now args call stateIdentity scope] = [] := by
    simp [activeOf, hother]
  rw [takeOver, activeOf_append, activeOf_supersedeActive_other hne, hnew, List.append_nil]

/-! ## The superseded content -/

theorem selectPrevious_mem {key : StateKey} {anchors : List CurrentStateAnchor}
    {previous : ContentId} (h : selectPrevious key anchors = some previous) :
    ∃ anchor ∈ activeOf key anchors, anchor.contentId = some previous := by
  obtain ⟨anchor, hfirst, hcontent⟩ := Option.bind_eq_some_iff.mp h
  have hmem := List.mem_filter.mp (selectFirst_mem hfirst)
  simp only [Bool.and_eq_true] at hmem
  exact ⟨anchor, mem_activeOf.mpr ⟨hmem.1, hmem.2.1⟩, hcontent⟩

theorem selectPrevious_of_nil {key : StateKey} {anchors : List CurrentStateAnchor}
    (h : activeOf key anchors = []) : selectPrevious key anchors = none := by
  cases hprevious : selectPrevious key anchors with
  | none => rfl
  | some previous =>
      obtain ⟨anchor, hmem, -⟩ := selectPrevious_mem hprevious
      rw [h] at hmem
      cases hmem

/-- A single active anchor is the one whose content is superseded. -/
theorem selectPrevious_of_singleton {key : StateKey} {anchors : List CurrentStateAnchor}
    {anchor : CurrentStateAnchor} (h : activeOf key anchors = [anchor]) :
    selectPrevious key anchors = anchor.contentId := by
  have hrows : anchors.filter (fun anchor =>
      anchor.hasKey key && anchor.isActive && anchor.contentId.isSome) =
      [anchor].filter (·.contentId.isSome) := by
    rw [← h, activeOf, List.filter_filter]
    exact List.filter_congr fun other _ => Bool.and_comm _ _
  rw [selectPrevious, hrows]
  cases hcontent : anchor.contentId with
  | none => simp [selectFirst, hcontent]
  | some contentId => simp [selectFirst, hcontent]

theorem selectPrevious_ne {db : Database} {args : ResolveArgs} {call : AdmittedCall}
    {stateIdentity : Text} (h : TakesOver db args call stateIdentity) :
    selectPrevious (call.key stateIdentity) db.anchors ≠ some call.contentId := by
  intro hprevious
  obtain ⟨anchor, hmem, hcontent⟩ := selectPrevious_mem hprevious
  exact selectExistingSame_eq_none.mp h.none_active anchor hmem hcontent

/-! ## Content rows -/

theorem contentIds_markCurrent (scope stateIdentity : Text) (supersedes : Option ContentId)
    (contentId : ContentId) (items : List ContentItem) :
    (markCurrent scope stateIdentity supersedes contentId items).map (·.contentId) =
      items.map (·.contentId) :=
  map_updateWhere _ (by intro _; rfl) items

theorem contentIds_markSuperseded (scope : Text) (supersedes : Option ContentId)
    (items : List ContentItem) :
    (markSuperseded scope supersedes items).map (·.contentId) = items.map (·.contentId) := by
  cases supersedes with
  | none => rfl
  | some previous => exact map_updateWhere _ (by intro _; rfl) items

theorem StepEffect.contentIds {db next : Database} {now : Timestamp} {args : ResolveArgs}
    (h : StepEffect db now args next) : next.contentIds = db.contentIds := by
  cases h with
  | unchanged => rfl
  | grouped => exact map_updateWhere _ (by intro _; rfl) _
  | refreshed => exact contentIds_markCurrent ..
  | tookOver => exact (contentIds_markCurrent ..).trans (contentIds_markSuperseded ..)

end MemoryLab.Resolver

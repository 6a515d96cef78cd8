import MemoryLab.Verification.Resolver.Equations

/-! # What one resolver call leaves alone -/

namespace MemoryLab.Resolver

open Library Library.Rows ScopePipeline

/-- The key that a call names, when it names one. -/
def ResolveArgs.key? (args : ResolveArgs) : Option StateKey :=
  match args.workspaceId, args.memoryType, args.identity with
  | some workspaceId, some memoryType, some stateIdentity =>
      some ⟨workspaceId, memoryType, stateIdentity⟩
  | _, _, _ => none

theorem AdmittedCall.OfArgs.key?_eq {args : ResolveArgs} {call : AdmittedCall}
    (h : call.OfArgs args) {stateIdentity : Text} (hidentity : args.identity = some stateIdentity) :
    args.key? = some (call.key stateIdentity) := by
  simp [ResolveArgs.key?, h.workspaceId, h.memoryType, hidentity, AdmittedCall.key]

theorem ResolveArgs.identity_of_key? {args : ResolveArgs} {key : StateKey}
    (h : args.key? = some key) : args.identity = some key.stateIdentity := by
  unfold ResolveArgs.key? at h
  split at h
  · rename_i hidentity
    cases h
    exact hidentity
  · cases h

/-! ## Rows before and after -/

/-- A content row under a call that only groups. -/
structure GroupedRow (args : ResolveArgs) (old new : ContentItem) : Prop where
  others : new = { old with currentStateScope := new.currentStateScope }
  scope : new.currentStateScope ≠ old.currentStateScope → args.contentId = some old.contentId

/-- A content row under a call with a key. -/
structure ResolvedRow (args : ResolveArgs) (key : StateKey) (anchors : List CurrentStateAnchor)
    (old new : ContentItem) : Prop where
  contentId : new.contentId = old.contentId
  changed : new ≠ old → args.contentId = some old.contentId ∨
    ∃ anchor ∈ activeOf key anchors, anchor.contentId = some old.contentId

/-- An anchor under a call with a key. -/
structure KeyedAnchor (key : StateKey) (old new : CurrentStateAnchor) : Prop where
  anchorId : new.anchorId = old.anchorId
  changed : new ≠ old → old.hasKey key = true ∧ new.hasKey key = true

theorem GroupedRow.refl (args : ResolveArgs) (item : ContentItem) : GroupedRow args item item :=
  ⟨rfl, fun h => (h rfl).elim⟩

theorem ResolvedRow.refl (args : ResolveArgs) (key : StateKey)
    (anchors : List CurrentStateAnchor) (item : ContentItem) :
    ResolvedRow args key anchors item item :=
  ⟨rfl, fun h => (h rfl).elim⟩

theorem KeyedAnchor.refl (key : StateKey) (anchor : CurrentStateAnchor) :
    KeyedAnchor key anchor anchor :=
  ⟨rfl, fun h => (h rfl).elim⟩

theorem supersedeActive_keyed (key : StateKey) (contentId : ContentId) (now : Timestamp)
    (anchors : List CurrentStateAnchor) :
    List.Forall₂ (KeyedAnchor key) anchors (supersedeActive key contentId now anchors) := by
  refine forall₂_updateWhere (KeyedAnchor.refl key) fun anchor _ h => ⟨rfl, fun _ => ?_⟩
  simp only [toSupersede, Bool.and_eq_true] at h
  exact ⟨h.1.1, h.1.1⟩

theorem markCurrent_resolved {args : ResolveArgs} {contentId : ContentId}
    (hcontent : args.contentId = some contentId) (key : StateKey)
    (anchors : List CurrentStateAnchor) (scope stateIdentity : Text)
    (supersedes : Option ContentId) (items : List ContentItem) :
    List.Forall₂ (ResolvedRow args key anchors) items
      (markCurrent scope stateIdentity supersedes contentId items) := by
  refine forall₂_updateWhere (ResolvedRow.refl args key anchors) fun item _ h =>
    ⟨rfl, fun _ => .inl ?_⟩
  rw [hcontent, beq_iff_eq.mp h]

theorem markSuperseded_resolved (args : ResolveArgs) (key : StateKey)
    (anchors : List CurrentStateAnchor) (scope : Text) (items : List ContentItem) :
    List.Forall₂ (ResolvedRow args key anchors) items
      (markSuperseded scope (selectPrevious key anchors) items) := by
  cases hprevious : selectPrevious key anchors with
  | none => exact Forall₂.refl' (ResolvedRow.refl args key anchors) items
  | some previous =>
      refine forall₂_updateWhere (ResolvedRow.refl args key anchors) fun item _ h =>
        ⟨rfl, fun _ => .inr ?_⟩
      rw [beq_iff_eq.mp h]
      exact selectPrevious_mem hprevious

theorem ResolvedRow.trans {args : ResolveArgs} {key : StateKey}
    {anchors : List CurrentStateAnchor} {first second third : ContentItem}
    (h : ResolvedRow args key anchors first second)
    (h' : ResolvedRow args key anchors second third) :
    ResolvedRow args key anchors first third := by
  refine ⟨h'.contentId.trans h.contentId, fun hne => ?_⟩
  by_cases hsame : second = first
  · subst hsame
    exact h'.changed hne
  · exact h.changed hsame

/-! ## The call -/

/-- A call without an identity. -/
theorem StepEffect.grouped_frame {db next : Database} {now : Timestamp} {args : ResolveArgs}
    (h : StepEffect db now args next) (hidentity : args.identity = none) :
    next.anchors = db.anchors ∧
      List.Forall₂ (GroupedRow args) db.contentItems next.contentItems := by
  cases h with
  | unchanged => exact ⟨rfl, Forall₂.refl' (GroupedRow.refl args) _⟩
  | grouped hadmission =>
      refine ⟨rfl, forall₂_updateWhere (GroupedRow.refl args) fun item _ hmatch =>
        ⟨rfl, fun _ => ?_⟩⟩
      rw [(admission_eq_ok_iff.mp hadmission).contentId, beq_iff_eq.mp hmatch]
  | refreshed _ hsome => rw [hidentity] at hsome; cases hsome
  | tookOver _ htakes =>
      have hsome := htakes.identity
      rw [hidentity] at hsome
      cases hsome

/-- A call that names a key. -/
theorem StepEffect.keyed_frame {db next : Database} {now : Timestamp} {args : ResolveArgs}
    {key : StateKey} (h : StepEffect db now args next) (hkey : args.key? = some key) :
    (∃ kept added, next.anchors = kept ++ added ∧
      List.Forall₂ (KeyedAnchor key) db.anchors kept ∧
      ∀ anchor ∈ added, anchor.hasKey key = true) ∧
    List.Forall₂ (ResolvedRow args key db.anchors) db.contentItems next.contentItems := by
  have hkept : ∃ kept added, db.anchors = kept ++ added ∧
      List.Forall₂ (KeyedAnchor key) db.anchors kept ∧
      ∀ anchor ∈ added, anchor.hasKey key = true :=
    ⟨db.anchors, [], by simp, Forall₂.refl' (KeyedAnchor.refl key) _, by simp⟩
  cases h with
  | unchanged => exact ⟨hkept, Forall₂.refl' (ResolvedRow.refl args key _) _⟩
  | grouped _ hnone => rw [ResolveArgs.identity_of_key? hkey] at hnone; cases hnone
  | refreshed hadmission hidentity hexisting =>
      exact ⟨hkept, markCurrent_resolved (admission_eq_ok_iff.mp hadmission).contentId ..⟩
  | tookOver scope htakes =>
      have hargs := admission_eq_ok_iff.mp htakes.admission
      obtain rfl := Option.some.inj ((hargs.key?_eq htakes.identity).symm.trans hkey)
      refine ⟨⟨_, _, rfl, supersedeActive_keyed .., ?_⟩, ?_⟩
      · intro anchor hmem
        rw [List.mem_singleton.mp hmem]
        exact hasKey_takeOverAnchor ..
      · refine Forall₂.trans' ?_ (markSuperseded_resolved args _ db.anchors _ _)
          (markCurrent_resolved hargs.contentId _ _ _ _ _ _)
        exact fun _ _ _ => ResolvedRow.trans

/-- Grouping never touches an anchor or a current-state mark, and a keyed call stays with the
anchors of its key and the two content rows it is about. -/
theorem resolveStep_frame (db : Database) (call : ResolveCall) :
    (call.args.identity = none →
      (resolveStep db call).anchors = db.anchors ∧
        List.Forall₂ (GroupedRow call.args) db.contentItems
          (resolveStep db call).contentItems) ∧
    ∀ key, call.args.key? = some key →
      (∃ kept added, (resolveStep db call).anchors = kept ++ added ∧
        List.Forall₂ (KeyedAnchor key) db.anchors kept ∧
        ∀ anchor ∈ added, anchor.hasKey key = true) ∧
      List.Forall₂ (ResolvedRow call.args key db.anchors) db.contentItems
        (resolveStep db call).contentItems :=
  ⟨(resolveStep_effect db call).grouped_frame, fun _ => (resolveStep_effect db call).keyed_frame⟩

/-- Content 2 is grouped, then takes the key of content 1 over. -/
theorem resolveStep_frame_launch :
    let launch (contentId : ContentId) (stateIdentity : Option Text) : ResolveCall :=
      ⟨10, { workspaceId := some 1, contentId := some contentId, memoryType := some .anchor,
             classifyConfidence := some 1, stateIdentity }⟩
    let db := resolveStep { contentItems := [{ contentId := 1, workspaceId := some 1 },
      { contentId := 2, workspaceId := some 1 }] }
      (launch 1 (some "launch".toList))
    (resolveStep db (launch 2 none)).anchors = db.anchors ∧
      List.Forall₂ (ResolvedRow (launch 2 (some "launch".toList)).args
          ⟨1, .anchor, "launch".toList⟩ db.anchors) db.contentItems
        (resolveStep db (launch 2 (some "launch".toList))).contentItems :=
  ⟨((resolveStep_frame _ _).1 (by rfl)).1, ((resolveStep_frame _ _).2 _ (by rfl)).2⟩

end MemoryLab.Resolver

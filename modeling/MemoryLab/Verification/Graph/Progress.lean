import MemoryLab.Verification.Graph.Rejections

/-! # What repeated runs of the producer reach -/

namespace MemoryLab.EdgeInference

open Library Library.Rows Library.Runs HubEdges

variable {db : Database} {workspaceId : WorkspaceId} {settings : InferenceSettings}
  {proposal : EdgeProposal} {proposals : List EdgeProposal} {now : Timestamp} {createdBy key : Text}

/-! ## One proposal -/

/-- The text of a stored hub. -/
def NamesHub (db : Database) (hubId : Text) : Prop := ∃ hub ∈ db.hubs, hubId = hub.hubId.text

theorem storable_uuid (u : Uuid) : storable u.text = true := by
  simp only [storable, decide_eq_true_eq]
  intro hmem
  rcases Uuid.mem_text hmem with hhyphen | ⟨d, hd, hdigit⟩
  · exact absurd hhyphen (by decide)
  · revert hdigit
    interval_cases d <;> decide

theorem Proposed.storable_edgeKey (h : Proposed (NamesHub db) proposal) :
    storable proposal.edgeKey = true := by
  obtain ⟨source, -, hsource⟩ := h.source
  obtain ⟨target, -, htarget⟩ := h.target
  have htype : storable proposal.edgeType = true := by
    rw [h.type]
    decide
  have hkey {a b : Text} (ha : storable a = true) (hb : storable b = true) :
      storable (a ++ '|' :: (b ++ '|' :: proposal.edgeType)) = true := by
    rw [storable_append, storable_cons, storable_append, storable_cons, ha, hb, htype]
    decide
  rw [EdgeProposal.edgeKey, computeEdgeKey]
  rcases Text.sortPair_eq proposal.sourceHubId proposal.targetHubId with hpair | hpair
  · rw [hpair, hsource, htarget]
    exact hkey (storable_uuid _) (storable_uuid _)
  · rw [hpair, hsource, htarget]
    exact hkey (storable_uuid _) (storable_uuid _)

theorem Proposed.row_isOk (h : Proposed (NamesHub db) proposal) (workspaceId : WorkspaceId)
    (hcreator : storable createdBy = true) (before : Database) (now : Timestamp) :
    ∃ row, (proposalValues proposal workspaceId createdBy).row before now = .ok row ∧
      hasHub db row.sourceHubId = true ∧ hasHub db row.targetHubId = true := by
  obtain ⟨source, hsource, hsourceText⟩ := h.source
  obtain ⟨target, htarget, htargetText⟩ := h.target
  have hrules : storable ("[".toList ++ ['+'].intercalate proposal.detectionRules ++ "] ".toList ++
      proposal.reason) = true := by
    rw [storable_append, storable_append, storable_append, h.reason,
      storable_intercalate (by decide) h.rules]
    decide
  have hreason := storable_take hrules 500
  have htexts : allStorable [some proposal.edgeKey,
      (proposalValues proposal workspaceId createdBy).reason, none, some createdBy] = true := by
    simp only [allStorable, proposalValues, List.all_cons, List.all_nil, Option.all_some,
      Option.all_none, h.storable_edgeKey, hcreator, hreason, Bool.and_self]
  have htype : named EdgeType.name allTypes proposal.edgeType = some .related := by
    rw [h.type]
    decide
  have hsourceParsed : Uuid.parse (proposalValues proposal workspaceId createdBy).sourceHubId =
      some source.hubId := by
    rw [proposalValues, hsourceText, Uuid.parse_text]
  have htargetParsed : Uuid.parse (proposalValues proposal workspaceId createdBy).targetHubId =
      some target.hubId := by
    rw [proposalValues, htargetText, Uuid.parse_text]
  have hhas {hub : Hub} (hhub : hub ∈ db.hubs) : hasHub db hub.hubId = true := by
    rw [hasHub, List.any_eq_true]
    exact ⟨hub, hhub, by simp⟩
  cases hrow : (proposalValues proposal workspaceId createdBy).row before now with
  | error error =>
      unfold EdgeValues.row at hrow
      rw [hsourceParsed, htargetParsed] at hrow
      simp only [proposalValues] at htexts hrow
      simp only [htexts, htype, h.confidence, Bool.not_true, Bool.false_eq_true, if_false] at hrow
      cases hrow
  | ok row =>
      have hinserted := EdgeValues.inserted hrow
      have hsourceRow := Option.some.inj (hsourceParsed.symm.trans hinserted.source)
      have htargetRow := Option.some.inj (htargetParsed.symm.trans hinserted.target)
      exact ⟨row, rfl, hsourceRow ▸ hhas hsource, htargetRow ▸ hhas htarget⟩

/-- A proposal's key is held afterwards, and no other key besides those held before. -/
structure Holds (before next : Database) (keys : List Text) : Prop where
  next_eq : ∃ edges, next = { before with hubEdges := edges }
  held : ∀ key, key ∈ heldKeys next ↔ key ∈ heldKeys before ∨ key ∈ keys

theorem Holds.refl (db : Database) : Holds db db [] := ⟨⟨db.hubEdges, rfl⟩, by simp⟩

theorem Holds.trans {before mid next : Database} {keys more : List Text} (h : Holds before mid keys)
    (h' : Holds mid next more) : Holds before next (keys ++ more) := by
  obtain ⟨edges, hedges⟩ := h.next_eq
  obtain ⟨edges', hedges'⟩ := h'.next_eq
  refine ⟨⟨edges', ?_⟩, fun key => ?_⟩
  · rw [hedges', hedges]
  · rw [h'.held, h.held, List.mem_append, or_assoc]

theorem Proposed.persist (h : Proposed (NamesHub db) proposal)
    (hcreator : storable createdBy = true)
    {before : Database × PersistCounts} (hhubs : before.1.hubs = db.hubs) :
    ∃ after, persistProposal now workspaceId createdBy before proposal = .ok after ∧
      Holds before.1 after.1 [proposal.edgeKey] := by
  obtain ⟨row, hrow, hsource, htarget⟩ := h.row_isOk workspaceId hcreator before.1 now
  have hinserted := EdgeValues.inserted hrow
  cases hactive : activeWithKey before.1 proposal.edgeKey with
  | some existing =>
      refine ⟨(before.1, { before.2 with skippedExisting := before.2.skippedExisting + 1 }),
        by simp [persistProposal, hrow, hactive], ⟨⟨before.1.hubEdges, rfl⟩, fun key => ?_⟩⟩
      have hheld : proposal.edgeKey ∈ heldKeys before.1 := by
        by_contra hnone
        rw [activeWithKey_eq_none.mpr hnone] at hactive
        cases hactive
      simp only [List.mem_singleton]
      exact ⟨.inl, fun hkey => hkey.elim id fun heq => heq ▸ hheld⟩
  | none =>
      have happend : appendEdge before.1 row =
          .ok ({ before.1 with hubEdges := before.1.hubEdges ++ [row] }, row) := by
        have hsource' : hasHub before.1 row.sourceHubId = true := by
          rw [hasHub, hhubs]
          exact hsource
        have htarget' : hasHub before.1 row.targetHubId = true := by
          rw [hasHub, hhubs]
          exact htarget
        simp [appendEdge, hsource', htarget']
      refine ⟨({ before.1 with hubEdges := before.1.hubEdges ++ [row] },
          { before.2 with inserted := before.2.inserted + 1 }),
        by simp [persistProposal, hrow, hactive, happend, Except.map],
          ⟨⟨before.1.hubEdges ++ [row], rfl⟩, fun key => ?_⟩⟩
      have hkey : activeKey row = some proposal.edgeKey := by
        rw [activeKey, if_pos hinserted.active, hinserted.edgeKey]
        rfl
      simp [heldKeys, List.filterMap_append, hkey]

/-! ## A run -/

theorem persist_holds (h : ∀ proposal ∈ proposals, Proposed (NamesHub db) proposal)
    (hcreator : storable createdBy = true) {before : Database × PersistCounts}
    (hhubs : before.1.hubs = db.hubs) :
    ∃ after, proposals.foldlM (persistProposal now workspaceId createdBy) before = .ok after ∧
      Holds before.1 after.1 (proposals.map (·.edgeKey)) := by
  induction proposals generalizing before with
  | nil => exact ⟨before, rfl, Holds.refl before.1⟩
  | cons proposal proposals ih =>
      obtain ⟨mid, hmid, hfirst⟩ := (h proposal List.mem_cons_self).persist hcreator hhubs
      obtain ⟨edges, hedges⟩ := hfirst.next_eq
      have hsame : mid.1.hubs = db.hubs := by
        rw [hedges]
        exact hhubs
      obtain ⟨after, hafter, hrest⟩ :=
        ih (fun other hother => h other (List.mem_cons_of_mem proposal hother)) hsame
      refine ⟨after, ?_, hfirst.trans hrest⟩
      rw [List.foldlM_cons, hmid]
      exact hafter

theorem edgeStep_produce (hlive : settings.dryRun = false) :
    Holds db (edgeStep db (.produce now workspaceId settings))
      ((inferredProposals db workspaceId settings).map (·.edgeKey)) := by
  have hproposed : ∀ proposal ∈ inferredProposals db workspaceId settings,
      Proposed (NamesHub db) proposal := fun proposal hproposal =>
    proposed_of_merged (fun hub hhub => ⟨hub, hhub, rfl⟩) proposal (List.mem_of_mem_take hproposal)
  have hpersist : ∃ after, persistEdgeProposals db now
      (inferredProposals db workspaceId settings) workspaceId producerVersion = .ok after ∧ _ :=
    persist_holds hproposed (by decide) rfl
  obtain ⟨after, hafter, hholds⟩ := hpersist
  have hrun : edgeStep db (.produce now workspaceId settings) = after.1 := by
    simp only [edgeStep, runEdgeInference, hlive, hafter]
    rfl
  rw [hrun]
  exact hholds

/-! ## Repeated runs -/

/-- Runs of the producer at some times, with nothing in between. -/
def produced (db : Database) (workspaceId : WorkspaceId) (settings : InferenceSettings)
    (times : List Timestamp) : Database :=
  run edgeStep db (times.map fun now => .produce now workspaceId settings)

/-- Runs after the first add nothing. -/
theorem produced_holds (hlive : settings.dryRun = false) {times : List Timestamp}
    (htimes : times ≠ []) :
    Holds db (produced db workspaceId settings times)
      ((inferredProposals db workspaceId settings).map (·.edgeKey)) := by
  induction times generalizing db with
  | nil => exact absurd rfl htimes
  | cons now times ih =>
      have hfirst : Holds db (edgeStep db (.produce now workspaceId settings)) _ :=
        edgeStep_produce hlive
      cases times with
      | nil => exact hfirst
      | cons later times =>
          obtain ⟨edges, hedges⟩ := hfirst.next_eq
          have hrest := @ih (edgeStep db (.produce now workspaceId settings))
            (List.cons_ne_nil later times)
          have hsame : inferredProposals (edgeStep db (.produce now workspaceId settings))
              workspaceId settings = inferredProposals db workspaceId settings := by
            rw [hedges]
            rfl
          rw [hsame] at hrest
          have hboth := hfirst.trans hrest
          exact ⟨hboth.next_eq, fun key => (hboth.held key).trans
            (by rw [List.mem_append, or_self])⟩

theorem keyed_mergedByKey (proposals : List EdgeProposal) :
    ((mergedByKey proposals).map (·.1)).Nodup ∧
      ∀ entry ∈ mergedByKey proposals, entry.2.edgeKey = entry.1 := by
  refine List.foldlRecOn (motive := fun dict : Dict Text EdgeProposal =>
    (dict.map (·.1)).Nodup ∧ ∀ entry ∈ dict, entry.2.edgeKey = entry.1) proposals _
    ⟨by simp, List.forall_mem_nil _⟩ ?_
  intro dict hdict proposal _
  have hnodup : ((dict.modify proposal.edgeKey (mergeInto proposal)).map (·.1)).Nodup :=
    Dict.keys_modify_nodup hdict.1
  refine ⟨hnodup, fun entry hentry => ?_⟩
  have hget := (Dict.mem_iff_get? hnodup).mp hentry
  by_cases hkey : entry.1 = proposal.edgeKey
  · rw [hkey, Dict.get?_modify_self] at hget
    rw [← Option.some.inj hget, hkey]
    exact edgeKey_mergeInto fun existing hexisting =>
      hdict.2 _ ((Dict.mem_iff_get? hdict.1).mpr hexisting)
  · rw [Dict.get?_modify_of_ne hkey] at hget
    exact hdict.2 entry ((Dict.mem_iff_get? hdict.1).mpr hget)

/-- The merged proposals have different keys. -/
theorem nodup_mergedKeys (proposals : List EdgeProposal) :
    ((mergeProposals proposals).map (·.edgeKey)).Nodup := by
  obtain ⟨hnodup, hkeys⟩ := keyed_mergedByKey proposals
  have hsame : ((mergedByKey proposals).map (·.2)).map (·.edgeKey) =
      (mergedByKey proposals).map (·.1) := by
    rw [List.map_map]
    exact List.map_congr_left hkeys
  have hperm : (mergeProposals proposals).Perm ((mergedByKey proposals).map (·.2)) :=
    List.perm_insertionSort _ _
  rw [(hperm.map _).nodup_iff, hsame]
  exact hnodup

/-- Every proposal of a list has an edge that is not archived. -/
def AllHeld (db : Database) (proposals : List EdgeProposal) : Prop :=
  ∀ proposal ∈ proposals, proposal.edgeKey ∈ heldKeys db

/-- Runs never reach a key beyond the window. -/
theorem held_beyond (hlive : settings.dryRun = false) {times : List Timestamp}
    (hproposal : proposal ∈ (mergedProposals db workspaceId settings).drop
      settings.maxProposals.toNat) :
    proposal.edgeKey ∈ heldKeys (produced db workspaceId settings times) ↔
      proposal.edgeKey ∈ heldKeys db := by
  cases times with
  | nil => exact Iff.rfl
  | cons now times =>
      rw [(produced_holds hlive (List.cons_ne_nil now times)).held]
      refine or_iff_left fun hwindow => ?_
      have hnodup : ((mergedProposals db workspaceId settings).map (·.edgeKey)).Nodup :=
        nodup_mergedKeys _
      rw [← List.take_append_drop settings.maxProposals.toNat
        (mergedProposals db workspaceId settings), List.map_append, List.nodup_append'] at hnodup
      exact hnodup.2.2 hwindow (List.mem_map_of_mem hproposal)

/-- A run stores the proposals of its window, and nothing more is ever stored. -/
theorem progress {times : List Timestamp} (hlive : settings.dryRun = false) (htimes : times ≠ []) :
    AllHeld (produced db workspaceId settings times)
        ((mergedProposals db workspaceId settings).take settings.maxProposals.toNat) ∧
      (AllHeld (produced db workspaceId settings times)
          (mergedProposals db workspaceId settings) ↔
        AllHeld db
          ((mergedProposals db workspaceId settings).drop settings.maxProposals.toNat)) := by
  have hwindow : AllHeld (produced db workspaceId settings times)
      ((mergedProposals db workspaceId settings).take settings.maxProposals.toNat) := by
    intro proposal hproposal
    rw [(produced_holds hlive htimes).held]
    exact .inr (List.mem_map_of_mem hproposal)
  refine ⟨hwindow, fun h proposal hproposal => ?_, fun h proposal hproposal => ?_⟩
  · exact (held_beyond hlive hproposal).mp (h proposal (List.mem_of_mem_drop hproposal))
  · rw [← List.take_append_drop settings.maxProposals.toNat
      (mergedProposals db workspaceId settings), List.mem_append] at hproposal
    rcases hproposal with hproposal | hproposal
    · exact hwindow proposal hproposal
    · exact (held_beyond hlive hproposal).mpr (h proposal hproposal)

theorem progress_sharingHubs :
    AllHeld (produced sharingHubs 1 { minShared := 1 } [3, 4])
      (mergedProposals sharingHubs 1 { minShared := 1 }) := by
  refine (progress rfl (List.cons_ne_nil 3 [4])).2.mpr fun proposal hproposal => ?_
  have hnone : (mergedProposals sharingHubs 1 { minShared := 1 }).drop 50 = [] := by decide +kernel
  replace hproposal : proposal ∈ (mergedProposals sharingHubs 1 { minShared := 1 }).drop 50 :=
    hproposal
  rw [hnone] at hproposal
  cases hproposal

/-- Three hubs that share one content, and a window of one proposal. -/
def threeHubs : Database :=
  { hubs := [⟨⟨10⟩, some 1, true, "alpha".toList, [], []⟩,
      ⟨⟨11⟩, some 1, true, "beta".toList, [], []⟩,
      ⟨⟨12⟩, some 1, true, "gamma".toList, [], []⟩]
    hubContent := [⟨⟨10⟩, 1, some 1, 0⟩, ⟨⟨11⟩, 1, some 1, 0⟩, ⟨⟨12⟩, 1, some 1, 0⟩] }

/-- The proposal that is stored first keeps the others out of the window for ever. -/
theorem not_progress_threeHubs :
    ¬ ∀ (db : Database) (workspaceId : WorkspaceId) (settings : InferenceSettings),
      1 ≤ settings.maxProposals → settings.dryRun = false →
        ∃ times, AllHeld (produced db workspaceId settings times)
          (mergedProposals db workspaceId settings) := by
  intro h
  obtain ⟨times, hall⟩ := h threeHubs 1 { minShared := 1, maxProposals := 1 } le_rfl rfl
  have hbeyond :
      (mergedProposals threeHubs 1 { minShared := 1, maxProposals := 1 }).drop 1 ≠ [] := by
    decide +kernel
  obtain ⟨proposal, hproposal⟩ := List.exists_mem_of_ne_nil _ hbeyond
  have hheld := (held_beyond rfl hproposal).mp (hall proposal (List.mem_of_mem_drop hproposal))
  cases hheld

end MemoryLab.EdgeInference

import MemoryLab.Verification.Answer.Ask
import MemoryLab.Verification.Answer.Traversal
import MemoryLab.Verification.Conflicts.Sides
import MemoryLab.Verification.ContextPack.SectionFlags

/-! # What reasoning over a workspace rests on

Every row that a pack is made of is one of the workspace, so are the references of a response, and
its steps name these references. -/

namespace MemoryLab.Reasoning

open Library Library.Rows ContextPackBuilder
open GraphSnapshot (idText)

/-! ## The rows of a pack -/

/-- The references of a pack, in the order in which they are collected. -/
def packRefs (pack : ContextPack) : List ContextPackEvidenceRef :=
  pack.supportingEvidence ++ pack.currentStateSignals ++ pack.counterfindings ++
    pack.staleOrSupersededItems

/-- The reference is made from a row of a kind. -/
def MadeFrom (convert : Conversions) (P : PackRow → Prop) (ref : ContextPackEvidenceRef) : Prop :=
  ∃ row metadata role, P row ∧ evidenceFromItem convert row metadata role = .ok ref

/-- A pack whose references and conflicts come from rows of a kind. -/
structure MadeOf (convert : Conversions) (P : PackRow → Prop) (pack : ContextPack) : Prop where
  refs : ∀ ref ∈ packRefs pack, MadeFrom convert P ref
  conflicts : ∀ conflict ∈ pack.conflictCandidates, ∀ row ∈ conflict.evidence, P row

section Rows

variable {convert : Conversions} {P : PackRow → Prop}

theorem madeFrom_of_mapM {f : PackRow → Except BuildError ContextPackEvidenceRef}
    {rows : List PackRow} {refs : List ContextPackEvidenceRef}
    (hf : ∀ row ref, f row = .ok ref → P row → MadeFrom convert P ref)
    (hrows : ∀ row ∈ rows, P row) (h : rows.mapM f = .ok refs) :
    ∀ ref ∈ refs, MadeFrom convert P ref := by
  intro ref href
  obtain ⟨row, hrow, hmade⟩ := Forall₂.exists_of_mem (mapM_eq_ok_iff.mp h) href
  exact hf row ref hmade (hrows row hrow)

theorem madeFrom_counterfindings {conflicts : List ConflictDict}
    {refs : List ContextPackEvidenceRef}
    (hconflicts : ∀ conflict ∈ conflicts, ∀ row ∈ conflict.evidence, P row)
    (h : counterfindingsFromConflicts convert conflicts = .ok refs) :
    ∀ ref ∈ refs, MadeFrom convert P ref := by
  obtain ⟨parts, hparts, hrefs⟩ := Transaction.bind_eq_ok.mp h
  obtain rfl := Except.ok.inj hrefs
  intro ref href
  obtain ⟨part, hpart, hmem⟩ := List.mem_flatten.mp (mem_of_mem_distinctOn (mem_sortOn.mp href))
  obtain ⟨conflict, hconflict, hmade⟩ := Forall₂.exists_of_mem (mapM_eq_ok_iff.mp hparts) hpart
  refine madeFrom_of_mapM ?_ ?_ hmade ref hmem
  · intro row made hrow hP
    exact ⟨row, _, _, hP, hrow⟩
  · intro row hrow
    exact hconflicts conflict hconflict row (List.mem_of_mem_filter hrow)

theorem evidence_identified (conflict : ConflictDict) :
    conflict.identified.evidence = conflict.evidence := by
  rw [ConflictDict.identified]
  split <;> rfl

theorem madeOf_buildContextPack {request : BuildRequest} {supporting current : List PackRow}
    {conflicts : List ConflictDict} {pack : ContextPack}
    (hsupporting : ∀ row ∈ supporting, P row) (hcurrent : ∀ row ∈ current, P row)
    (hconflicts : ∀ conflict ∈ conflicts, ∀ row ∈ conflict.evidence, P row)
    (h : buildContextPack convert request supporting current conflicts = .ok pack) :
    MadeOf convert P pack := by
  obtain ⟨supportRefs, stateRefs, counterfindings, hsupport, hstate, hcounter, rfl⟩ :=
    buildContextPack_eq_ok.mp h
  have hkept : ∀ conflict ∈ conflictSection request.limit conflicts,
      ∀ row ∈ conflict.evidence, P row := by
    intro conflict hconflict
    obtain ⟨original, horiginal, rfl⟩ :=
      List.mem_map.mp (mem_sortOn.mp (List.mem_of_mem_take hconflict))
    rw [evidence_identified]
    exact hconflicts original horiginal
  have hsupportRefs : ∀ ref ∈ supportRefs, MadeFrom convert P ref :=
    madeFrom_of_mapM (fun row ref hrow hP => ⟨row, _, _, hP, hrow⟩) hsupporting hsupport
  have hstateRefs : ∀ ref ∈ stateRefs, MadeFrom convert P ref :=
    madeFrom_of_mapM (fun row ref hrow hP => ⟨row, _, _, hP, hrow⟩) hcurrent hstate
  have hcounterRefs : ∀ ref ∈ counterfindings, MadeFrom convert P ref := by
    rw [counterSection] at hcounter
    split at hcounter
    · exact madeFrom_counterfindings hkept hcounter
    · obtain rfl := Except.ok.inj hcounter
      simp
  refine ⟨?_, hkept⟩
  intro ref href
  simp only [packRefs, packOf, List.mem_append] at href
  rcases href with ((href | href) | href) | href
  · exact hsupportRefs ref (mem_of_mem_refSection href)
  · exact hstateRefs ref (List.mem_of_mem_filter (mem_of_mem_refSection href))
  · exact hcounterRefs ref (List.mem_of_mem_take href)
  · exact hstateRefs ref (List.mem_of_mem_filter (mem_of_mem_refSection href))

/-! ## Ids of references -/

theorem contentId_of_made {row : PackRow} {metadata : Option PyDict} {role : Option Text}
    {ref : ContextPackEvidenceRef} (h : evidenceFromItem convert row metadata role = .ok ref) :
    ref.contentId = (row.contentId.getD []).strip := by
  obtain ⟨fields, -, rfl⟩ := evidenceFromItem_eq_ok.mp h
  rfl

theorem trimmed_cleanStr {value : Option Text} {s : Text} (h : cleanStr value = some s) :
    Text.Trimmed Text.isSpace s ∧ s ≠ [] := by
  obtain ⟨hmap, hne⟩ := Option.filter_eq_some_iff.mp h
  obtain ⟨original, -, rfl⟩ := Option.map_eq_some_iff.mp hmap
  exact ⟨Text.trimmed_stripChars _ _, by simpa using hne⟩

/-- An id is not blank, and there are no blanks around it. -/
theorem evidenceId_of_made {row : PackRow} {metadata : Option PyDict} {role : Option Text}
    {ref : ContextPackEvidenceRef} (h : evidenceFromItem convert row metadata role = .ok ref) :
    ref.evidenceId ≠ [] ∧ ref.evidenceId.strip = ref.evidenceId := by
  obtain ⟨fields, -, rfl⟩ := evidenceFromItem_eq_ok.mp h
  simp only [refOf]
  cases hown : cleanStr row.evidenceId with
  | some id =>
      obtain ⟨htrimmed, hne⟩ := trimmed_cleanStr hown
      exact ⟨hne, htrimmed.stripChars_eq⟩
  | none =>
      have htail : Text.Trimmed Text.isSpace ((cleanStr row.chunkId).getD "content".toList) ∧
          (cleanStr row.chunkId).getD "content".toList ≠ [] := by
        cases hchunk : cleanStr row.chunkId with
        | some chunkId => exact trimmed_cleanStr hchunk
        | none => exact ⟨⟨by decide, by decide⟩, by decide⟩
      generalize (cleanStr row.chunkId).getD "content".toList = tail at htail ⊢
      rw [Option.getD_none]
      refine ⟨by simp, ?_⟩
      apply Text.Trimmed.stripChars_eq
      refine ⟨fun _ => ?_, fun hne => ?_⟩
      · simp [Text.isSpace]
      · rw [List.getLast_append_of_ne_nil _ htail.2]
        exact htail.1.last htail.2

end Rows

/-! ## The rows of a workspace -/

section Workspace

open ContextPackService Conflicts

variable {env : PackEnvironment} {db : Database} {request : BuildRequest}
  {workspaceId : WorkspaceId}

/-- `ev_<content>_…` or `cs_<content>_…`. -/
def NamesContent (contentId : ContentId) (id : Text) : Prop :=
  ∃ lead ∈ ["ev_".toList, "cs_".toList], lead ++ (idText contentId ++ ['_']) <+: id

/-- The content of the row is one of the workspace, and it is the one that the row's id names. -/
def OwnRow (db : Database) (workspaceId : WorkspaceId) (row : PackRow) : Prop :=
  ∃ item ∈ db.contentItems, item.workspaceId = some workspaceId ∧
    row.contentId = some (idText item.contentId) ∧
    ∃ id, row.evidenceId = some id ∧ NamesContent item.contentId id

theorem ownRow_supporting {options : Retrieval.SearchOptions} {rows : List PackRow}
    (hdict : ∀ row, (env.rowDict row).contentId = some (idText row.contentId))
    (h : supportingRows env db request workspaceId options = .ok rows) :
    ∀ row ∈ rows, OwnRow db workspaceId row := by
  rw [supportingRows] at h
  split at h
  · obtain ⟨results, hresults, hrows⟩ := Transaction.bind_eq_ok.mp h
    obtain rfl := Except.ok.inj hrows
    have hpermitted := Retrieval.permitted_search rfl (mapError_eq_ok.mp hresults)
    intro row hrow
    obtain ⟨item, hitem, rfl⟩ := List.mem_map.mp hrow
    obtain ⟨found, hfound, rank, rfl⟩ :=
      Ask.mem_normalizeFrom (List.mem_of_mem_take hitem)
    obtain ⟨result, hresult, rfl⟩ := List.mem_map.mp hfound
    obtain ⟨-, content, hcontent, hid⟩ := hpermitted result hresult
    have hitemId : (env.rowDict result).itemContentId = idText result.contentId := by
      simp [Evidence.EvidenceRow.itemContentId, hdict, Evidence.orElse, Evidence.orText,
        Option.filter_some, Ask.idText_ne_nil, Ask.strip_idText]
    have hnames : NamesContent content.contentId ((env.rowDict result).toItem 320
        (env.rowDict result).itemContentId (env.rowDict result).itemText rank).evidenceId := by
      refine ⟨"ev_".toList, by simp, ?_⟩
      rw [hitemId, hid]
      simp only [Evidence.EvidenceRow.toItem]
      split <;> simp
    refine ⟨content, hcontent.mem, hcontent.workspace, ?_, _, ?_, hnames⟩
    · rw [attachContentMetadata, hid, ← hitemId]
      split <;> rfl
    · rw [attachContentMetadata]
      split <;> rfl
  · obtain rfl := Except.ok.inj h
    simp

theorem ownRow_current {rows : List PackRow}
    (h : currentStateRows env db request workspaceId = .ok rows) :
    ∀ row ∈ rows, OwnRow db workspaceId row := by
  rw [currentStateRows] at h
  split at h
  · obtain ⟨results, hresults, hrows⟩ := Transaction.bind_eq_ok.mp h
    obtain rfl := Except.ok.inj hrows
    have hfetch := mapError_eq_ok.mp hresults
    rw [ContextPack.fetchCurrentStateRows] at hfetch
    split at hfetch
    · obtain rfl := Except.ok.inj hfetch
      intro row hrow
      obtain ⟨numbered, hnumbered, rfl⟩ := List.mem_map.mp hrow
      obtain ⟨⟨joined, rank⟩, hjoined, rfl⟩ := List.mem_map.mp hnumbered
      have hmem := List.mem_of_mem_take (List.fst_mem_of_mem_zipIdx hjoined)
      obtain ⟨hselected, hselects⟩ := List.mem_filter.mp ((List.mem_insertionSort _).mp hmem)
      simp only [ContextPack.CurrentStateQuery.selects, Bool.and_eq_true, beq_iff_eq] at hselects
      refine ⟨joined.1.1, ?_, hselects.1.1.1, rfl, _, rfl, "cs_".toList, by simp, ?_⟩
      · exact fst_of_mem_leftJoin (fst_of_mem_leftJoin hselected)
      · simp only [ContextPack.numberedRow]
        split <;> simp [Answer.currentStateText]
    · cases hfetch
  · obtain rfl := Except.ok.inj h
    simp

/-- The evidence of a candidate is of rows that the rules read together. -/
theorem evidence_scopeCandidates {sha256Hex : Text → Text} {scope : Text}
    {items : List ParsedRow} {includeResolved : Bool} {found : ConflictCandidate}
    (h : found ∈ scopeCandidates sha256Hex workspaceId scope items includeResolved) :
    ∀ ref ∈ found.evidence, ∃ item ∈ items, ∃ role, ref = item.row.evidence role := by
  have hcandidate : ∀ {roles : List (ConflictSourceRow × EvidenceRole)},
      found.evidence = (roles.map fun entry => entry.1.evidence entry.2) →
      (∀ entry ∈ roles, ∃ item ∈ items, item.row = entry.1) →
      ∀ ref ∈ found.evidence, ∃ item ∈ items, ∃ role, ref = item.row.evidence role := by
    intro roles hroles hrows ref href
    rw [hroles] at href
    obtain ⟨entry, hentry, rfl⟩ := List.mem_map.mp href
    obtain ⟨item, hitem, hrow⟩ := hrows entry hentry
    exact ⟨item, hitem, entry.2, by rw [hrow]⟩
  simp only [scopeCandidates, List.mem_append] at h
  rcases h with ((h | h) | h) | h
  · obtain ⟨item, hitem, hfound⟩ := List.mem_flatMap.mp h
    rw [List.mem_append, Option.mem_toList, Option.mem_toList, counterfindingCandidate,
      contradictionCandidate] at hfound
    rcases hfound with hfound | hfound
    · split at hfound
      · cases hfound
      · obtain ⟨target, htarget, rfl⟩ := Option.map_eq_some_iff.mp hfound
        refine hcandidate rfl ?_
        intro entry hentry
        simp only [List.mem_append, List.mem_cons, List.not_mem_nil, or_false,
          List.mem_map] at hentry
        rcases hentry with (rfl | rfl) | ⟨support, hsupport, rfl⟩
        · exact (targetOf_eq_some htarget).1
        · exact ⟨item, hitem, rfl⟩
        · exact mem_supportRows (List.mem_of_mem_filter hsupport)
    · split at hfound
      · cases hfound
      · obtain ⟨target, htarget, rfl⟩ := Option.map_eq_some_iff.mp hfound
        refine hcandidate rfl ?_
        simpa using ⟨(targetOf_eq_some htarget).1, item, hitem, rfl⟩
  · obtain ⟨-, item, hitem, -, superseded, stale, -, hstale, rfl⟩ :=
      mem_supersessionCandidates.mp h
    refine hcandidate rfl ?_
    simpa using ⟨⟨item, hitem, rfl⟩, List.mem_map.mp (List.mem_of_find?_eq_some hstale)⟩
  · obtain ⟨group, hgroup, hfound⟩ := List.mem_filterMap.mp h
    obtain ⟨-, hrows⟩ := Dict.mem_groupBy.mp hgroup
    have hactive : ∀ row ∈ group.2, ∃ item ∈ items, item.row = row := by
      intro row hrow
      rw [hrows] at hrow
      have hkept := mem_of_mem_distinctOn (List.mem_of_mem_filter hrow)
      exact List.mem_map.mp (List.mem_of_mem_filter hkept)
    dsimp only at hfound
    split at hfound
    · rename_i first second rest hgroup
      obtain rfl := Option.some.inj hfound
      refine hcandidate rfl ?_
      simpa using ⟨hactive first (by simp [hgroup]), hactive second (by simp [hgroup])⟩
    · cases hfound
  · obtain ⟨kind, obj, pos, neg, hpos, hneg, rfl⟩ := mem_claimCandidates.mp h
    obtain ⟨statement, hstated, -, rfl⟩ := exists_of_lastStated hpos
    obtain ⟨against, hagainst, -, rfl⟩ := exists_of_lastStated hneg
    refine hcandidate rfl ?_
    simpa using ⟨row_of_mem_statements hstated, row_of_mem_statements hagainst⟩

theorem own_of_mem_fetchRows {query : SourceQuery} {limit : ℕ} {rows : List ConflictSourceRow}
    (h : fetchRows db query limit = .ok rows) :
    ∀ row ∈ rows, ∃ item ∈ db.contentItems, item.workspaceId = some query.workspaceId ∧
      row.contentId = some item.contentId := by
  rw [fetchRows] at h
  split at h
  · obtain rfl := Except.ok.inj h
    intro row hrow
    obtain ⟨joined, hjoined, rfl⟩ := List.mem_map.mp hrow
    obtain ⟨hsource, hselects⟩ := List.mem_filter.mp (mem_sortOn.mp (List.mem_of_mem_take hjoined))
    simp only [SourceQuery.selects, Bool.and_eq_true, beq_iff_eq] at hselects
    exact ⟨joined.1.1, item_of_mem_sourceRows hsource, hselects.1.1.1, rfl⟩
  · cases h

theorem ownRow_conflicts {conflicts : List ConflictDict}
    (h : conflictRows env db request workspaceId = .ok conflicts) :
    ∀ conflict ∈ conflicts, ∀ row ∈ conflict.evidence, OwnRow db workspaceId row := by
  rw [conflictRows] at h
  split at h
  · obtain ⟨response, hresponse, hconflicts⟩ := Transaction.bind_eq_ok.mp h
    obtain rfl := Except.ok.inj hconflicts
    have hsearch := mapError_eq_ok.mp hresponse
    rw [searchConflicts, searchConflictCandidates] at hsearch
    split at hsearch
    · cases hsearch
    · rename_i rows hrows
      obtain rfl := Except.ok.inj hsearch
      intro conflict hconflict row hrow
      obtain ⟨found, hfound, rfl⟩ := List.mem_map.mp hconflict
      obtain ⟨ref, href, rfl⟩ := List.mem_map.mp hrow
      have hraw := mem_of_mem_distinctOn (mem_sortOn.mp (List.mem_of_mem_take hfound))
      obtain ⟨scope, hscope⟩ := mem_rawCandidates_iff.mp hraw
      obtain ⟨item, hitem, role, rfl⟩ := evidence_scopeCandidates hscope ref href
      have hstanding := standing_of_mem_readTogether hitem
      obtain ⟨content, hcontent, hworkspace, hid⟩ :=
        own_of_mem_fetchRows hrows item.row hstanding.mem
      refine ⟨content, hcontent, hworkspace, ?_, _, rfl, "ev_".toList, by simp, ?_⟩
      · simp [evidenceRow, ConflictSourceRow.evidence, hid]
      · simp [ConflictSourceRow.evidence, hid]
  · obtain rfl := Except.ok.inj h
    simp

/-- Whatever a pack for a workspace refers to is content of the workspace. -/
theorem madeOf_buildContextPackForRequest {options : Retrieval.SearchOptions}
    {pack : ContextPack}
    (hdict : ∀ row, (env.rowDict row).contentId = some (idText row.contentId))
    (h : buildContextPackForRequest env db request workspaceId options = .ok pack) :
    MadeOf env.convert (OwnRow db workspaceId) pack := by
  obtain ⟨supporting, hsupporting, h⟩ := Transaction.bind_eq_ok.mp h
  obtain ⟨current, hcurrent, h⟩ := Transaction.bind_eq_ok.mp h
  obtain ⟨conflicts, hconflicts, h⟩ := Transaction.bind_eq_ok.mp h
  apply madeOf_buildContextPack (ownRow_supporting hdict hsupporting) (ownRow_current hcurrent) _
    (mapError_eq_ok.mp h)
  intro conflict hconflict
  split at hconflict
  · exact ownRow_conflicts hconflicts conflict hconflict
  · cases hconflict

/-- Stripping leaves the id as the name of its content. -/
theorem NamesContent.strip {contentId : ContentId} {id : Text} (h : NamesContent contentId id) :
    NamesContent contentId id.strip := by
  obtain ⟨lead, hlead, rest, rfl⟩ := h
  have hblank : ∀ c ∈ lead ++ (idText contentId ++ ['_']), Text.isSpace c = false := by
    intro c hc
    rw [List.mem_append, List.mem_append, List.mem_singleton] at hc
    rcases hc with hc | hc | rfl
    · simp only [List.mem_cons, List.not_mem_nil, or_false] at hlead
      rcases hlead with rfl | rfl
      · obtain rfl | rfl | rfl : c = 'e' ∨ c = 'v' ∨ c = '_' := by simpa using hc
        all_goals rfl
      · obtain rfl | rfl | rfl : c = 'c' ∨ c = 's' ∨ c = '_' := by simpa using hc
        all_goals rfl
    · rcases Uuid.mem_text hc with rfl | ⟨d, hd, rfl⟩
      · rfl
      · exact (Uuid.hexChar_spec hd).2.2.2.2.2.2
    · rfl
  obtain ⟨front, back, hstrip, hfront, -⟩ :=
    @Text.strip_append [] (lead ++ (idText contentId ++ ['_'])) rest (by simp) hblank
  rw [List.suffix_nil] at hfront
  rw [hfront, List.nil_append, List.nil_append] at hstrip
  exact ⟨lead, hlead, back, hstrip.symm⟩

theorem own_of_madeFrom {convert : Conversions} {ref : ContextPackEvidenceRef}
    (h : MadeFrom convert (OwnRow db workspaceId) ref) :
    ∃ item ∈ db.contentItems, item.workspaceId = some workspaceId ∧
      ref.contentId = idText item.contentId ∧ NamesContent item.contentId ref.evidenceId := by
  obtain ⟨row, metadata, role, ⟨item, hitem, hworkspace, hcontent, id, hid, hnames⟩, hmade⟩ := h
  refine ⟨item, hitem, hworkspace, ?_, ?_⟩
  · rw [contentId_of_made hmade, hcontent, Option.getD_some, Ask.strip_idText]
  · obtain ⟨fields, -, rfl⟩ := evidenceFromItem_eq_ok.mp hmade
    have hstrip := hnames.strip
    have hne : id.strip ≠ [] := by
      obtain ⟨lead, -, hlead⟩ := hstrip
      exact fun hnil => by simp [hnil] at hlead
    have hclean : cleanStr row.evidenceId = some id.strip := by
      simp [cleanStr, hid, Option.filter_some, hne]
    rw [refOf, hclean]
    exact hstrip

end Workspace

/-! ## Responses -/

/-- What a response tells about the content of a workspace. -/
structure Grounded (db : Database) (workspaceId : WorkspaceId) (maxHops : ℤ)
    (refs : List Answer.EvidenceRef) (steps : List ReasoningTraversalStep) : Prop where
  own : ∀ ref ∈ refs, ∃ item ∈ db.contentItems, item.workspaceId = some workspaceId ∧
    ref.contentId = idText item.contentId ∧ NamesContent item.contentId ref.evidenceId
  apart : (refs.map (·.evidenceId)).Nodup
  ownSteps : ∀ step ∈ steps, ∀ id ∈ step.evidenceIds, ∃ item ∈ db.contentItems,
    item.workspaceId = some workspaceId ∧ NamesContent item.contentId id
  shown : ∀ step ∈ steps, step.relation ≠ .surfacesUnresolvedConflictCandidate →
    ∀ id ∈ step.evidenceIds, ∃ ref ∈ refs, ref.evidenceId = id
  reached : 3 ≤ maxHops → ∀ ref ∈ refs, ∃ step ∈ steps, step.evidenceIds = [ref.evidenceId]

section Grounding

variable {convert : Conversions} {db : Database} {workspaceId : WorkspaceId} {pack : ContextPack}

theorem mem_names {relation : Relation} (hne : relation ≠ .surfacesUnresolvedConflictCandidate)
    {ids : List Text} (h : ids ∈ relation.names pack) :
    ∀ id ∈ ids, ∃ ref ∈ packRefs pack, ref.evidenceId = id := by
  have hsingle : ∀ {refs : List ContextPackEvidenceRef}, refs ⊆ packRefs pack →
      ids ∈ refs.map (fun ref => [ref.evidenceId]) →
        ∀ id ∈ ids, ∃ ref ∈ packRefs pack, ref.evidenceId = id := by
    intro refs hsub hids id hid
    obtain ⟨ref, href, rfl⟩ := List.mem_map.mp hids
    exact ⟨ref, hsub href, (List.mem_singleton.mp hid).symm⟩
  have hsupport : pack.supportingEvidence ⊆ packRefs pack := by
    intro ref href
    simp [packRefs, href]
  cases relation with
  | buildsContextPack =>
      intro id hid
      rw [List.mem_singleton.mp h] at hid
      obtain ⟨ref, href, rfl⟩ := List.mem_map.mp hid
      exact ⟨ref, hsupport href, rfl⟩
  | includesSupportingEvidence => exact hsingle hsupport h
  | includedViaHubLink =>
      exact hsingle (fun _ href => hsupport (List.mem_of_mem_filter href)) h
  | includedViaGraphExpansion =>
      exact hsingle (fun _ href => hsupport (List.mem_of_mem_filter href)) h
  | hasCurrentStateSignal =>
      exact hsingle (fun ref href => by simp [packRefs, href]) h
  | hasStaleOrSupersededSignal =>
      exact hsingle (fun ref href => by simp [packRefs, href]) h
  | surfacesUnresolvedConflictCandidate => exact absurd rfl hne
  | includesCounterfindingEvidence =>
      exact hsingle (fun ref href => by simp [packRefs, href]) h

/-- Every reference is named by itself under one of the relations. -/
theorem exists_relation_names {ref : ContextPackEvidenceRef} (h : ref ∈ packRefs pack) :
    ∃ relation : Relation, [ref.evidenceId] ∈ relation.names pack := by
  simp only [packRefs, List.mem_append] at h
  rcases h with ((h | h) | h) | h
  · exact ⟨.includesSupportingEvidence, List.mem_map_of_mem h⟩
  · exact ⟨.hasCurrentStateSignal, List.mem_map_of_mem h⟩
  · exact ⟨.includesCounterfindingEvidence, List.mem_map_of_mem h⟩
  · exact ⟨.hasStaleOrSupersededSignal, List.mem_map_of_mem h⟩

theorem mem_named {steps : List ReasoningTraversalStep} {relation : Relation} {ids : List Text} :
    ids ∈ named relation steps ↔
      ∃ step ∈ steps, step.relation = relation ∧ step.evidenceIds = ids := by
  simp [named, and_assoc]

theorem Traverses.mem_names {maxHops : ℤ} {steps : List ReasoningTraversalStep}
    (h : Traverses pack maxHops steps) {step : ReasoningTraversalStep} (hstep : step ∈ steps) :
    step.evidenceIds ∈ step.relation.names pack := by
  have hmem := (h.names step.relation).subset (mem_named.mpr ⟨step, hstep, rfl, rfl⟩)
  split at hmem
  · exact hmem
  · cases hmem

/-- What every reference of the collected ones is: one of the pack, and no two of one id. -/
theorem collected_spec (hids : ∀ ref ∈ packRefs pack,
      ref.evidenceId ≠ [] ∧ ref.evidenceId.strip = ref.evidenceId) :
    ((Answer.collectEvidenceRefs (answerPack pack)).map (·.evidenceId)).Nodup ∧
      (∀ ref ∈ Answer.collectEvidenceRefs (answerPack pack),
        ∃ original ∈ packRefs pack, answerRef original = ref) ∧
      ∀ original ∈ packRefs pack, ∃ ref ∈ Answer.collectEvidenceRefs (answerPack pack),
        ref.evidenceId = original.evidenceId := by
  have hconcat : (answerPack pack).supportingEvidence ++ (answerPack pack).currentStateSignals ++
      (answerPack pack).counterfindings ++ (answerPack pack).staleOrSupersededItems =
        (packRefs pack).map answerRef := by
    simp [answerPack, packRefs]
  have hkey : ∀ ref ∈ packRefs pack, (answerRef ref).key = ref.evidenceId := by
    intro ref href
    obtain ⟨hne, hstrip⟩ := hids ref href
    simp [Answer.EvidenceRef.key, Answer.EvidenceRef.id, answerRef, hstrip, hne]
  have hperm : (Answer.collectEvidenceRefs (answerPack pack)).Perm
      (distinctOn Answer.EvidenceRef.key
        (((packRefs pack).map answerRef).filter (·.key ≠ []))) := by
    rw [Answer.collectEvidenceRefs, hconcat]
    exact List.perm_insertionSort _ _
  have horigin : ∀ ref ∈ Answer.collectEvidenceRefs (answerPack pack),
      ∃ original ∈ packRefs pack, answerRef original = ref := by
    intro ref href
    have hmem := mem_of_mem_distinctOn (hperm.subset href)
    exact List.mem_map.mp (List.mem_of_mem_filter hmem)
  have hsame : ∀ ref ∈ Answer.collectEvidenceRefs (answerPack pack), ref.key = ref.evidenceId := by
    intro ref href
    obtain ⟨original, horiginal, rfl⟩ := horigin ref href
    exact hkey original horiginal
  refine ⟨?_, horigin, ?_⟩
  · rw [← List.map_congr_left hsame]
    exact (hperm.map _).nodup_iff.mpr (nodup_distinctOn _)
  · intro original horiginal
    have hmem : answerRef original ∈ ((packRefs pack).map answerRef).filter (·.key ≠ []) := by
      apply List.mem_filter.mpr ⟨List.mem_map_of_mem horiginal, _⟩
      simpa [hkey original horiginal] using (hids original horiginal).1
    have hkept : ∃ ref ∈ distinctOn Answer.EvidenceRef.key
        (((packRefs pack).map answerRef).filter (·.key ≠ [])),
        ref.key = (answerRef original).key := exists_mem_distinctOn hmem
    obtain ⟨ref, href, heq⟩ := hkept
    have hcollected := hperm.symm.subset href
    exact ⟨ref, hcollected, by rw [← hsame ref hcollected, heq, hkey original horiginal]⟩

theorem grounded_of_madeOf {packId : Text} {scope : Option Text} {maxHops : ℤ}
    (h : MadeOf convert (OwnRow db workspaceId) pack) :
    Grounded db workspaceId maxHops (Answer.collectEvidenceRefs (answerPack pack))
      (buildTraversalSteps convert packId scope pack maxHops) := by
  have hids : ∀ ref ∈ packRefs pack,
      ref.evidenceId ≠ [] ∧ ref.evidenceId.strip = ref.evidenceId := by
    intro ref href
    obtain ⟨row, metadata, role, -, hmade⟩ := h.refs ref href
    exact evidenceId_of_made hmade
  obtain ⟨hnodup, horigin, hkept⟩ := collected_spec hids
  have htraverses := traverses_buildTraversalSteps convert packId scope pack maxHops
  have hown : ∀ ref ∈ packRefs pack, ∃ item ∈ db.contentItems,
      item.workspaceId = some workspaceId ∧ ref.contentId = idText item.contentId ∧
        NamesContent item.contentId ref.evidenceId :=
    fun ref href => own_of_madeFrom (h.refs ref href)
  refine ⟨?_, hnodup, ?_, ?_, ?_⟩
  · intro ref href
    obtain ⟨original, horiginal, rfl⟩ := horigin ref href
    exact hown original horiginal
  · intro step hstep id hid
    have hnames := htraverses.mem_names hstep
    by_cases hconflict : step.relation = .surfacesUnresolvedConflictCandidate
    · rw [hconflict] at hnames
      obtain ⟨conflict, hmem, hids⟩ := List.mem_map.mp hnames
      rw [← hids, conflictEvidenceIds, List.mem_filterMap] at hid
      obtain ⟨row, hrow, hsome⟩ := hid
      obtain ⟨item, hitem, hworkspace, -, own, hown, hnamed⟩ := h.conflicts conflict hmem row hrow
      rw [(Option.filter_eq_some_iff.mp hsome).1] at hown
      obtain rfl := Option.some.inj hown
      exact ⟨item, hitem, hworkspace, hnamed⟩
    · obtain ⟨ref, href, rfl⟩ := mem_names hconflict hnames id hid
      obtain ⟨item, hitem, hworkspace, -, hnamed⟩ := hown ref href
      exact ⟨item, hitem, hworkspace, hnamed⟩
  · intro step hstep hne id hid
    obtain ⟨original, horiginal, rfl⟩ := mem_names hne (htraverses.mem_names hstep) id hid
    exact hkept original horiginal
  · intro hhops ref href
    obtain ⟨original, horiginal, rfl⟩ := horigin ref href
    obtain ⟨relation, hnames⟩ := exists_relation_names horiginal
    have hwithin : (relation.hop : ℤ) ≤ clampHops maxHops := by
      have hthree : clampHops maxHops = 3 := by
        rw [clampHops]
        split <;> omega
      rw [hthree]
      cases relation <;> decide
    have hperm := htraverses.names relation
    rw [if_pos hwithin] at hperm
    obtain ⟨step, hstep, -, hstepIds⟩ := mem_named.mp (hperm.symm.subset hnames)
    exact ⟨step, hstep, hstepIds⟩

end Grounding

theorem madeOf_packForRequest {env : ReasoningEnvironment} {db : Database}
    {workspaceId : WorkspaceId} {request : ReasoningRequest} {options : Retrieval.SearchOptions}
    {built : BuildRequest} {pack : ContextPack}
    (hdict : ∀ row, (env.pack.rowDict row).contentId = some (idText row.contentId))
    (h : packForRequest env workspaceId request db options = .ok (built, pack)) :
    MadeOf env.pack.convert (OwnRow db workspaceId) pack := by
  obtain ⟨valid, hvalid, h⟩ := Transaction.bind_eq_ok.mp h
  obtain ⟨made, hmade, h⟩ := Transaction.bind_eq_ok.mp h
  obtain ⟨rfl, rfl⟩ := Prod.mk.inj (Except.ok.inj h)
  exact madeOf_buildContextPackForRequest hdict hmade

/-- Traversals, explanations and answers for a workspace tell of its own content only, show all
evidence that a step names, and reach all of it within three hops. -/
theorem reasoning_grounded (env : ReasoningEnvironment)
    (hdict : ∀ row, (env.pack.rowDict row).contentId = some (idText row.contentId))
    (db : Database) (workspaceId : WorkspaceId) (request : ReasoningRequest)
    (backend : Option Answer.LLMBackend) :
    (∀ kind response, reasonForRequest env workspaceId request backend kind db = .ok response →
      Grounded db workspaceId request.maxHops response.evidenceRefs response.traversalSteps) ∧
    ∀ enabled response, answerForRequest env workspaceId request backend enabled db =
        .ok response →
      Grounded db workspaceId request.maxHops response.answer.evidenceRefs
        response.traversalSteps := by
  constructor
  · intro kind response h
    obtain ⟨⟨built, pack⟩, hpack, h⟩ := Transaction.bind_eq_ok.mp h
    obtain rfl := Except.ok.inj h
    exact grounded_of_madeOf (madeOf_packForRequest hdict hpack)
  · intro enabled response h
    obtain ⟨⟨built, pack⟩, hpack, h⟩ := Transaction.bind_eq_ok.mp h
    obtain rfl := Except.ok.inj h
    have hrefs : (answerContextPack env workspaceId request backend enabled built
        pack).answer.evidenceRefs = Answer.collectEvidenceRefs (answerPack pack) := by
      simp only [answerContextPack, Answer.answerContextPack]
      split <;> rfl
    rw [hrefs]
    exact grounded_of_madeOf (madeOf_packForRequest hdict hpack)

/-- One current content of the first workspace, and one of another. -/
def launchDatabase : Database :=
  { contentItems :=
      [{ contentId := 1, workspaceId := some 1, isCurrent := some true,
         currentStateScope := some "launch".toList },
       { contentId := 2, workspaceId := some 2, isCurrent := some true,
         currentStateScope := some "launch".toList }] }

theorem reasoning_grounded_launch :
    let env : ReasoningEnvironment :=
      { pack := ContextPackService.plainEnvironment, dumps := fun _ => []
        words := ⟨fun c => c.isAlphanum || c == '_', fun _ _ => rfl⟩, configuredBackend := none }
    let request : ReasoningRequest :=
      { scope := some "launch".toList, includeSupportingEvidence := false,
        includeConflicts := false, includeCounterfindings := false }
    ∃ response, reasonForRequest env 1 request none "traverse".toList launchDatabase =
        .ok response ∧ response.evidenceRefs.length = 1 ∧
      Grounded launchDatabase 1 2 response.evidenceRefs response.traversalSteps := by
  intro env request
  have hrun : (reasonForRequest env 1 request none "traverse".toList
      launchDatabase).toOption.any fun response => response.evidenceRefs.length = 1 := by
    decide +kernel
  obtain ⟨response, hok, hlength⟩ := Transaction.exists_of_toOption_any hrun
  exact ⟨response, hok, by simpa using hlength,
    (reasoning_grounded env (fun _ => rfl) launchDatabase 1 request none).1 _ response hok⟩

end MemoryLab.Reasoning

import MemoryLab.Verification.Conflicts.IngestLimit

/-! # Opposing claims of the newest content

Rows are read newest first, and of the rows that make one claim the last one is kept. -/

namespace MemoryLab.Conflicts

open Library Library.Rows ContextPack

/-! ## The row that is kept -/

section Claims

variable {sha256Hex : Text → Text} {workspaceId : WorkspaceId} {scope : Text}
  {items : List ParsedRow} {kind : ClaimKind} {obj : Text} {polarity : Polarity}
  {found : ConflictCandidate}

abbrev Statement := OpposingClaimMarker × ConflictSourceRow

def Statement.makes (kind : ClaimKind) (obj : Text) (polarity : Polarity)
    (statement : Statement) : Bool :=
  decide ((statement.1.kind, statement.1.obj) = (kind, obj)) &&
    decide (statement.1.polarity = polarity)

/-- The row of the last statement of a claim. -/
def lastStated (statements : List Statement) (kind : ClaimKind) (obj : Text)
    (polarity : Polarity) : Option ConflictSourceRow :=
  (statements.filter (Statement.makes kind obj polarity)).getLast?.map (·.2)

def recordClaim (claims : Dict (ClaimKind × Text) (Dict Polarity ConflictSourceRow))
    (statement : Statement) : Dict (ClaimKind × Text) (Dict Polarity ConflictSourceRow) :=
  Dict.modify (statement.1.kind, statement.1.obj)
    (fun old => Dict.set statement.1.polarity statement.2 (old.getD [])) claims

theorem claimRows_eq : claimRows items = (statements items).foldl recordClaim [] :=
  rfl

theorem get?_recordClaims (statements : List Statement) :
    Dict.get? polarity ((Dict.get? (kind, obj) (statements.foldl recordClaim [])).getD []) =
      lastStated statements kind obj polarity := by
  induction statements using List.reverseRecOn with
  | nil => rfl
  | append_singleton statements statement ih =>
      rw [List.foldl_append, List.foldl_cons, List.foldl_nil, recordClaim, lastStated,
        List.filter_append]
      by_cases hkey : (statement.1.kind, statement.1.obj) = (kind, obj)
      · rw [hkey, Dict.get?_modify_self, Option.getD_some]
        by_cases hpolarity : statement.1.polarity = polarity
        · rw [hpolarity, Dict.set, Dict.get?_modify_self]
          simp [Statement.makes, hkey, hpolarity]
        · rw [Dict.set, Dict.get?_modify_of_ne (Ne.symm hpolarity), ih]
          simp [Statement.makes, hpolarity, lastStated]
      · rw [Dict.get?_modify_of_ne (Ne.symm hkey), ih]
        simp [Statement.makes, hkey, lastStated]

theorem nodup_keys_claimRows : ((claimRows items).map (·.1)).Nodup := by
  rw [claimRows_eq]
  induction statements items using List.reverseRecOn with
  | nil => exact List.nodup_nil
  | append_singleton statements statement ih =>
      rw [List.foldl_append, List.foldl_cons, List.foldl_nil]
      exact Dict.keys_modify_nodup ih

def claimCandidate (sha256Hex : Text → Text) (workspaceId : WorkspaceId) (scope : Text)
    (kind : ClaimKind) (obj : Text) (pos neg : ConflictSourceRow) : ConflictCandidate :=
  candidate sha256Hex workspaceId scope .sameScopeOpposingClaim .unresolved
    (if pos.isCurrent == some true && neg.isCurrent == some true then .high else .medium) 80
    [pos] [neg] [(pos, .finding), (neg, .contradicting)]
    ["same_scope_opposing_claim_markers", "exact_normalized_object_match"]
    "same_scope_opposing_claim_v1" (.claim kind obj)

/-- The candidates of claims: the last statements of a claim and of its opposite. -/
theorem mem_claimCandidates :
    found ∈ claimCandidates sha256Hex workspaceId scope items ↔
      ∃ kind obj pos neg, lastStated (statements items) kind obj .positive = some pos ∧
        lastStated (statements items) kind obj .negative = some neg ∧
        found = claimCandidate sha256Hex workspaceId scope kind obj pos neg := by
  have hget : ∀ {kind obj polarities}, ((kind, obj), polarities) ∈ claimRows items →
      ∀ polarity, Dict.get? polarity polarities =
        lastStated (statements items) kind obj polarity := by
    intro kind obj polarities hmem polarity
    have hlookup := (Dict.mem_iff_get? nodup_keys_claimRows).mp hmem
    rw [← get?_recordClaims, ← claimRows_eq, hlookup, Option.getD_some]
  constructor
  · intro h
    obtain ⟨⟨⟨kind, obj⟩, polarities⟩, hmem, hentry⟩ := List.mem_filterMap.mp h
    dsimp only at hentry
    rw [hget hmem, hget hmem] at hentry
    cases hpos : lastStated (statements items) kind obj .positive with
    | none => simp [hpos] at hentry
    | some pos =>
        cases hneg : lastStated (statements items) kind obj .negative with
        | none => simp [hpos, hneg] at hentry
        | some neg =>
            simp only [hpos, hneg, Option.some.injEq] at hentry
            exact ⟨kind, obj, pos, neg, hpos, hneg, hentry.symm⟩
  · rintro ⟨kind, obj, pos, neg, hpos, hneg, rfl⟩
    cases hlookup : Dict.get? (kind, obj) (claimRows items) with
    | none =>
        rw [← get?_recordClaims, ← claimRows_eq, hlookup] at hpos
        cases hpos
    | some polarities =>
        have hmem := (Dict.mem_iff_get? nodup_keys_claimRows).mpr hlookup
        refine List.mem_filterMap.mpr ⟨((kind, obj), polarities), hmem, ?_⟩
        dsimp only
        rw [hget hmem, hget hmem, hpos, hneg]
        rfl

/-- A candidate of this type is one of claims. -/
theorem mem_claimCandidates_of_conflictType {includeResolved : Bool}
    (h : found ∈ scopeCandidates sha256Hex workspaceId scope items includeResolved)
    (htype : found.conflictType = .sameScopeOpposingClaim) :
    found ∈ claimCandidates sha256Hex workspaceId scope items := by
  simp only [scopeCandidates, List.mem_append] at h
  rcases h with ((h | h) | h) | h
  · obtain ⟨item, -, hitem⟩ := List.mem_flatMap.mp h
    rw [List.mem_append, Option.mem_toList, Option.mem_toList, counterfindingCandidate,
      contradictionCandidate] at hitem
    rcases hitem with hfound | hfound
    all_goals
      split at hfound
      · cases hfound
      · obtain ⟨target, -, rfl⟩ := Option.map_eq_some_iff.mp hfound
        cases htype
  · obtain ⟨item, -, hitem⟩ := List.mem_filterMap.mp h
    dsimp only at hitem
    split at hitem
    · cases hitem
    · obtain ⟨superseded, -, hstale⟩ := Option.bind_eq_some_iff.mp hitem
      obtain ⟨stale, -, rfl⟩ := Option.map_eq_some_iff.mp hstale
      cases htype
  · obtain ⟨⟨⟨groupType, stateIdentity⟩, groupRows⟩, -, hgroup⟩ := List.mem_filterMap.mp h
    rcases groupRows with _ | ⟨first, _ | ⟨second, rest⟩⟩
    · cases hgroup
    · cases hgroup
    · obtain rfl := Option.some.inj hgroup
      cases htype
  · exact h

theorem involves_claimCandidate {contentId : ContentId} {pos neg : ConflictSourceRow} :
    involves (claimCandidate sha256Hex workspaceId scope kind obj pos neg) contentId = true ↔
      pos.contentId = some contentId ∨ neg.contentId = some contentId := by
  simp [involves, claimCandidate, candidate, sortedIds, List.filterMap_cons]
  cases pos.contentId <;> cases neg.contentId <;> simp [eq_comm]

theorem escalating_claimCandidate {contentId : ContentId} {pos neg : ConflictSourceRow} :
    Escalating contentId (claimCandidate sha256Hex workspaceId scope kind obj pos neg) ↔
      pos.contentId = some contentId ∨ neg.contentId = some contentId := by
  refine ⟨fun h => involves_claimCandidate.mp h.involved,
    fun h => ⟨rfl, involves_claimCandidate.mpr h, ?_⟩⟩
  rw [claimCandidate, candidate]
  dsimp only
  split <;> exact nofun

end Claims

/-! ## The newest content -/

section Newest

variable {sha256Hex : Text → Text} {env : TtlEnvironment} {rows : List ConflictSourceRow}
  {workspaceId : WorkspaceId} {scope : Text} {kind : ClaimKind} {obj : Text}
  {polarity : Polarity} {contentId : ContentId}

/-- A content states a claim in a scope, in a row that is trusted. -/
def States (rows : List ConflictSourceRow) (workspaceId : WorkspaceId) (scope : Text)
    (kind : ClaimKind) (obj : Text) (polarity : Polarity) (contentId : ContentId) : Prop :=
  ∃ row ∈ rows, row.eligible workspaceId = true ∧ rowScope row = scope ∧ row.highConf = true ∧
    row.contentId = some contentId ∧ ∃ claim ∈ (extractMarkers row.text).opposingClaims,
      (claim.kind, claim.obj) = (kind, obj) ∧ claim.polarity = polarity

def scopeItems (rows : List ConflictSourceRow) (workspaceId : WorkspaceId) (scope : Text) :
    List ParsedRow :=
  (parseRows rows workspaceId none none).filter fun item => decide (item.scope = scope)

def scopeStatements (rows : List ConflictSourceRow) (workspaceId : WorkspaceId) (scope : Text) :
    List Statement :=
  statements (scopeItems rows workspaceId scope)

theorem concerns_none (row : ConflictSourceRow) :
    concerns workspaceId none row = row.eligible workspaceId := by
  rw [concerns, Option.filter_none, Option.all_none, Bool.and_true]

theorem scopeItems_eq :
    scopeItems rows workspaceId scope =
      (rows.filter fun row => row.eligible workspaceId && decide (rowScope row = scope)).map
        parseRow := by
  have hscope : (fun item : ParsedRow => decide (item.scope = scope)) ∘ parseRow =
      fun row => decide (rowScope row = scope) := by
    funext row
    rw [Function.comp_apply, parseRow_scope]
  rw [scopeItems, parseRows_none, List.filter_map, hscope, List.filter_filter]
  refine congrArg (List.map parseRow) (List.filter_congr fun row _ => ?_)
  rw [concerns_none, Bool.and_comm]

theorem states_iff :
    States rows workspaceId scope kind obj polarity contentId ↔
      ∃ statement ∈ scopeStatements rows workspaceId scope,
        statement.makes kind obj polarity = true ∧ statement.2.contentId = some contentId := by
  simp only [States, scopeStatements, statements, scopeItems_eq, Statement.makes,
    List.mem_flatMap, List.mem_filter, List.mem_map, Bool.and_eq_true, decide_eq_true_eq]
  constructor
  · rintro ⟨row, hrow, heligible, hscope, hconf, hcontent, claim, hclaim, hmakes⟩
    exact ⟨(claim, row), ⟨parseRow row, ⟨⟨row, ⟨hrow, heligible, hscope⟩, rfl⟩, hconf⟩, claim,
      hclaim, rfl⟩, hmakes, hcontent⟩
  · rintro ⟨_, ⟨_, ⟨⟨row, ⟨hrow, heligible, hscope⟩, rfl⟩, hconf⟩, claim, hclaim, rfl⟩, hmakes,
      hcontent⟩
    exact ⟨row, hrow, heligible, hscope, hconf, hcontent, claim, hclaim, hmakes⟩

/-- The rows of one content come before those of every other. -/
def Leads (contentId : ContentId) (rows : List ConflictSourceRow) : Prop :=
  rows.Pairwise fun a b => b.contentId = some contentId → a.contentId = some contentId

theorem Leads.statements (h : Leads contentId rows) :
    ((scopeStatements rows workspaceId scope).map (·.2)).Pairwise fun a b =>
      b.contentId = some contentId → a.contentId = some contentId := by
  have hitems : (scopeItems rows workspaceId scope).Pairwise fun a b =>
      b.row.contentId = some contentId → a.row.contentId = some contentId := by
    rw [scopeItems_eq, List.pairwise_map]
    exact h.filter _
  rw [List.pairwise_map, scopeStatements, Conflicts.statements, List.pairwise_flatMap]
  constructor
  · intro item _
    rw [List.pairwise_map]
    exact List.pairwise_of_forall fun _ _ hsame => hsame
  · refine (hitems.filter _).imp fun {a b} hab => ?_
    intro x hx y hy
    obtain ⟨_, -, rfl⟩ := List.mem_map.mp hx
    obtain ⟨_, -, rfl⟩ := List.mem_map.mp hy
    exact hab

variable {stated : List Statement} {row : ConflictSourceRow}

theorem exists_of_lastStated (h : lastStated stated kind obj polarity = some row) :
    ∃ statement ∈ stated, statement.makes kind obj polarity = true ∧ statement.2 = row := by
  obtain ⟨statement, hlast, rfl⟩ := Option.map_eq_some_iff.mp h
  obtain ⟨hmem, hmakes⟩ := List.mem_filter.mp (List.mem_of_getLast? hlast)
  exact ⟨statement, hmem, hmakes, rfl⟩

theorem lastStated_isSome {statement : Statement} (hmem : statement ∈ stated)
    (hmakes : statement.makes kind obj polarity = true) :
    ∃ row, lastStated stated kind obj polarity = some row := by
  have hne := List.ne_nil_of_mem (List.mem_filter.mpr ⟨hmem, hmakes⟩)
  exact ⟨_, by rw [lastStated, List.getLast?_eq_some_getLast hne, Option.map_some]⟩

/-- When the last statement of a claim is one of the first content, all of them are. -/
theorem forall_of_lastStated
    (hleads : (stated.map (·.2)).Pairwise fun a b =>
      b.contentId = some contentId → a.contentId = some contentId)
    (h : lastStated stated kind obj polarity = some row) (hrow : row.contentId = some contentId)
    {statement : Statement} (hmem : statement ∈ stated)
    (hmakes : statement.makes kind obj polarity = true) :
    statement.2.contentId = some contentId := by
  obtain ⟨last, hlast, rfl⟩ := Option.map_eq_some_iff.mp h
  obtain ⟨before, hsplit⟩ := List.getLast?_eq_some_iff.mp hlast
  have hmem' := List.mem_filter.mpr ⟨hmem, hmakes⟩
  have hpairwise := (List.pairwise_map.mp hleads).filter (Statement.makes kind obj polarity)
  rw [hsplit] at hmem' hpairwise
  rcases List.mem_append.mp hmem' with hbefore | hsame
  · exact (List.pairwise_append.mp hpairwise).2.2 statement hbefore last (by simp) hrow
  · rw [List.mem_singleton.mp hsame]
    exact hrow

theorem contentId_of_mem_scopeStatements {statement : Statement}
    (h : statement ∈ scopeStatements rows workspaceId scope) :
    ∃ contentId, statement.2.contentId = some contentId := by
  simp only [scopeStatements, statements, scopeItems_eq, List.mem_flatMap, List.mem_filter,
    List.mem_map] at h
  obtain ⟨_, ⟨⟨row, ⟨-, hrow⟩, rfl⟩, -⟩, claim, -, rfl⟩ := h
  rw [ConflictSourceRow.eligible, Bool.and_eq_true, Bool.and_eq_true] at hrow
  exact Option.isSome_iff_exists.mp hrow.1.1

theorem mem_rawCandidates {found : ConflictCandidate} :
    found ∈ rawCandidates sha256Hex rows workspaceId none none false ↔
      found ∈ scopeCandidates sha256Hex workspaceId found.scope
        (scopeItems rows workspaceId found.scope) false := by
  rw [scopeItems, ← filter_rawCandidates, List.mem_filter]
  simp

/-! ## Escalation of the newest content -/

def Polarity.opposite : Polarity → Polarity
  | positive => negative
  | negative => positive

/-- A content states a claim in its scope, and another content its opposite. -/
def Opposed (rows : List ConflictSourceRow) (workspaceId : WorkspaceId)
    (contentId : ContentId) : Prop :=
  ∃ scope kind obj polarity other, other ≠ contentId ∧
    States rows workspaceId scope kind obj polarity contentId ∧
    States rows workspaceId scope kind obj polarity.opposite other

/-- A content is alone with a claim in its scope that is opposed there. -/
def AloneOpposed (rows : List ConflictSourceRow) (workspaceId : WorkspaceId)
    (contentId : ContentId) : Prop :=
  ∃ scope kind obj polarity, States rows workspaceId scope kind obj polarity contentId ∧
    (∀ other, States rows workspaceId scope kind obj polarity other → other = contentId) ∧
    ∃ other, States rows workspaceId scope kind obj polarity.opposite other

/-- Candidates with one id are about one conflict: what the hash is for. -/
def IdsApart (sha256Hex : Text → Text) (rows : List ConflictSourceRow)
    (workspaceId : WorkspaceId) : Prop :=
  ∀ a ∈ rawCandidates sha256Hex rows workspaceId none none false,
    ∀ b ∈ rawCandidates sha256Hex rows workspaceId none none false,
      a.candidateId = b.candidateId →
        a.conflictType = b.conflictType ∧ a.scope = b.scope ∧
          ∀ contentId, involves a contentId = involves b contentId

theorem aloneOpposed_of_lastStated (hleads : Leads contentId rows)
    {other : ConflictSourceRow}
    (hrow : lastStated (scopeStatements rows workspaceId scope) kind obj polarity = some row)
    (hother : lastStated (scopeStatements rows workspaceId scope) kind obj polarity.opposite =
      some other)
    (hcontent : row.contentId = some contentId) : AloneOpposed rows workspaceId contentId := by
  obtain ⟨statement, hmem, hmakes, rfl⟩ := exists_of_lastStated hrow
  obtain ⟨against, hagainst, hmakesAgainst, rfl⟩ := exists_of_lastStated hother
  obtain ⟨otherId, hotherId⟩ := contentId_of_mem_scopeStatements hagainst
  refine ⟨scope, kind, obj, polarity, states_iff.mpr ⟨statement, hmem, hmakes, hcontent⟩, ?_,
    otherId, states_iff.mpr ⟨against, hagainst, hmakesAgainst, hotherId⟩⟩
  intro another hanother
  obtain ⟨again, hagain, hmakesAgain, hid⟩ := states_iff.mp hanother
  have hsame := forall_of_lastStated hleads.statements hrow hcontent hagain hmakesAgain
  exact Option.some.inj (hid.symm.trans hsame)

/-- The rows that are kept for a claim of one content alone. -/
theorem AloneOpposed.exists_mem_claimCandidates
    (h : AloneOpposed rows workspaceId contentId) (sha256Hex : Text → Text) :
    ∃ scope, ∃ found ∈ claimCandidates sha256Hex workspaceId scope
      (scopeItems rows workspaceId scope), Escalating contentId found := by
  obtain ⟨scope, kind, obj, polarity, hstates, halone, otherId, hother⟩ := h
  obtain ⟨statement, hmem, hmakes, -⟩ := states_iff.mp hstates
  obtain ⟨against, hagainst, hmakesAgainst, -⟩ := states_iff.mp hother
  obtain ⟨row, hrow⟩ := lastStated_isSome hmem hmakes
  obtain ⟨opposing, hopposing⟩ := lastStated_isSome hagainst hmakesAgainst
  have hcontent : row.contentId = some contentId := by
    obtain ⟨last, hlast, hmakesLast, rfl⟩ := exists_of_lastStated hrow
    obtain ⟨lastId, hlastId⟩ := contentId_of_mem_scopeStatements hlast
    rw [hlastId, halone lastId (states_iff.mpr ⟨last, hlast, hmakesLast, hlastId⟩)]
  refine ⟨scope, ?_⟩
  cases polarity with
  | positive =>
      exact ⟨_, mem_claimCandidates.mpr ⟨kind, obj, row, opposing, hrow, hopposing, rfl⟩,
        escalating_claimCandidate.mpr (.inl hcontent)⟩
  | negative =>
      exact ⟨_, mem_claimCandidates.mpr ⟨kind, obj, opposing, row, hopposing, hrow, rfl⟩,
        escalating_claimCandidate.mpr (.inr hcontent)⟩

theorem IdsApart.exists_escalating {scope : Text} {found : ConflictCandidate}
    (h : IdsApart sha256Hex rows workspaceId)
    (hfound : found ∈ claimCandidates sha256Hex workspaceId scope
      (scopeItems rows workspaceId scope))
    (hescalating : Escalating contentId found) :
    (escalatingCandidates sha256Hex rows workspaceId contentId).Nonempty := by
  obtain rfl := scope_of_mem_claimCandidates hfound
  have hraw : found ∈ rawCandidates sha256Hex rows workspaceId none none false :=
    mem_rawCandidates.mpr (List.mem_append_right _ hfound)
  obtain ⟨kept, hkept, hid⟩ : ∃ kept ∈ distinctOn (·.candidateId) (rawCandidates sha256Hex rows
      workspaceId none none false), kept.candidateId = found.candidateId :=
    exists_mem_distinctOn hraw
  have hkeptRaw := mem_of_mem_distinctOn hkept
  obtain ⟨htype, -, hinvolves⟩ := h kept hkeptRaw found hraw hid
  have hfoundType : found.conflictType = .sameScopeOpposingClaim := by
    obtain ⟨_, _, _, _, -, -, hfoundEq⟩ := mem_claimCandidates.mp hfound
    rw [hfoundEq]
    rfl
  obtain ⟨_, _, _, _, -, -, hkeptEq⟩ := mem_claimCandidates.mp
    (mem_claimCandidates_of_conflictType (mem_rawCandidates.mp hkeptRaw)
      (htype.trans hfoundType))
  refine ⟨kept, mem_sortOn.mpr hkept, ?_⟩
  have hinvolved := (hinvolves contentId).trans hescalating.involved
  rw [hkeptEq] at hinvolved ⊢
  exact escalating_claimCandidate.mpr (involves_claimCandidate.mp hinvolved)

/-- The newest content is escalated when it is alone with an opposed claim, or when another rule
finds it in a conflict. -/
theorem planOnIngest_isSome_of_leads (hleads : Leads contentId rows)
    (hapart : IdsApart sha256Hex rows workspaceId)
    (hlimit : (orderedCandidates sha256Hex rows workspaceId none none false).length ≤ 10) :
    (planOnIngest sha256Hex env rows workspaceId contentId).isSome ↔
      AloneOpposed rows workspaceId contentId ∨
        ∃ found ∈ escalatingCandidates sha256Hex rows workspaceId contentId,
          found.conflictType ≠ .sameScopeOpposingClaim := by
  have hplanned : (planOnIngest sha256Hex env rows workspaceId contentId).isSome ↔
      (escalatingCandidates sha256Hex rows workspaceId contentId).Nonempty := by
    rw [planOnIngest_isSome, List.take_of_length_le hlimit]
    rfl
  rw [hplanned]
  constructor
  · rintro ⟨found, hfound, hescalating⟩
    by_cases htype : found.conflictType = .sameScopeOpposingClaim
    · refine .inl ?_
      obtain ⟨kind, obj, pos, neg, hpos, hneg, hfoundEq⟩ := mem_claimCandidates.mp
        (mem_claimCandidates_of_conflictType
          (mem_rawCandidates.mp (mem_orderedCandidates hfound)) htype)
      rw [hfoundEq, escalating_claimCandidate] at hescalating
      rcases hescalating with hcontent | hcontent
      · exact aloneOpposed_of_lastStated hleads hpos hneg hcontent
      · exact aloneOpposed_of_lastStated hleads hneg hpos hcontent
    · exact .inr ⟨found, ⟨hfound, hescalating⟩, htype⟩
  · rintro (halone | ⟨found, hfound, -⟩)
    · obtain ⟨scope, found, hfound, hescalating⟩ :=
        halone.exists_mem_claimCandidates sha256Hex
      exact hapart.exists_escalating hfound hescalating
    · exact ⟨found, hfound⟩

/-- Every other content of the workspace is older. -/
def Newest (db : Database) (workspaceId : WorkspaceId) (contentId : ContentId) : Prop :=
  ∀ item ∈ db.contentItems, item.contentId = contentId →
    ∀ other ∈ db.contentItems, other.workspaceId = some workspaceId →
      other.contentId ≠ contentId → other.createdAt < item.createdAt

theorem item_of_mem_sourceRows {db : Database} {joined : JoinedRow}
    (h : joined ∈ sourceRows db) : joined.1.1 ∈ db.contentItems :=
  fst_of_mem_leftJoin (fst_of_mem_leftJoin h)

theorem Newest.leads {db : Database} (h : Newest db workspaceId contentId) :
    Leads contentId ((selectedRows db { workspaceId }).map conflictSourceRow) := by
  rw [Leads, List.pairwise_map]
  refine (pairwise_sortOn _).imp_of_mem fun {a b} ha hb hle => ?_
  have hmem : ∀ joined ∈ selectedRows db { workspaceId },
      joined.1.1 ∈ db.contentItems ∧ joined.1.1.workspaceId = some workspaceId := by
    intro joined hjoined
    obtain ⟨hrow, hselects⟩ := List.mem_filter.mp (mem_sortOn.mp hjoined)
    simp only [SourceQuery.selects, Bool.and_eq_true, beq_iff_eq] at hselects
    exact ⟨item_of_mem_sourceRows hrow, hselects.1.1.1⟩
  intro hcontent
  have hb' : b.1.1.contentId = contentId := Option.some.inj hcontent
  by_contra hother
  have hne : a.1.1.contentId ≠ contentId := fun heq => hother (congrArg some heq)
  have holder := h b.1.1 (hmem b hb).1 hb' a.1.1 (hmem a ha).1 (hmem a ha).2 hne
  have hcreated := (Prod.Lex.le_iff.mp hle).elim le_of_lt fun heq => le_of_eq heq.1
  exact absurd (OrderDual.toDual_le_toDual.mp hcreated) (not_le_of_gt holder)

/-- The newest content of a workspace, whose claim another content opposes, is escalated exactly
when no third content makes that claim, or when there is another conflict to escalate it for. -/
theorem freshClaim_escalated_iff (sha256Hex : Text → Text) (env : TtlEnvironment)
    (db : Database) (workspaceId : WorkspaceId) (contentId : ContentId)
    (rows : List ConflictSourceRow)
    (hrows : fetchRows db { workspaceId } ingestSourceLimit = .ok rows)
    (hsource : (selectedRows db { workspaceId }).length ≤ ingestSourceLimit)
    (hlimit : (orderedCandidates sha256Hex rows workspaceId none none false).length ≤ 10)
    (hapart : IdsApart sha256Hex rows workspaceId)
    (hnewest : Newest db workspaceId contentId) :
    (Opposed rows workspaceId contentId →
      (planOnIngest sha256Hex env rows workspaceId contentId).isSome) ↔
    (Opposed rows workspaceId contentId →
      AloneOpposed rows workspaceId contentId ∨
        ∃ found ∈ escalatingCandidates sha256Hex rows workspaceId contentId,
          found.conflictType ≠ .sameScopeOpposingClaim) := by
  have hstorable : ({ workspaceId } : SourceQuery).parameters.all storable = true := rfl
  have hfetched : rows = (selectedRows db { workspaceId }).map conflictSourceRow := by
    rw [fetchRows, if_pos hstorable, List.take_of_length_le hsource] at hrows
    exact (Except.ok.inj hrows).symm
  refine imp_congr_right fun _ => planOnIngest_isSome_of_leads ?_ hapart hlimit
  rw [hfetched]
  exact hnewest.leads

end Newest

/-! ## Two and three contents -/

theorem idsApart_of_length {sha256Hex : Text → Text} {rows : List ConflictSourceRow}
    {workspaceId : WorkspaceId}
    (h : (rawCandidates sha256Hex rows workspaceId none none false).length = 1) :
    IdsApart sha256Hex rows workspaceId := by
  obtain ⟨found, hfound⟩ := List.length_eq_one_iff.mp h
  intro a ha b hb _
  rw [hfound, List.mem_singleton] at ha hb
  simp [ha, hb]

def claimingItem (contentId : ContentId) : ContentItem :=
  { contentId, workspaceId := some 1, createdAt := contentId }

def claimingChunk (contentId : ContentId) (text : String) : ContentChunkRow :=
  { chunkId := contentId, contentId, workspaceId := some 1, chunkIndex := 0,
    chunkText := text.toList }

/-- Contents of one workspace, each with one claim, the later numbers later. -/
def claimingDatabase (claims : List (ContentId × String)) : Database :=
  { contentItems := claims.map fun claim => claimingItem claim.1,
    contentChunks := claims.map fun claim => claimingChunk claim.1 claim.2 }

def claimingRows (claims : List (ContentId × String)) : List ConflictSourceRow :=
  (selectedRows (claimingDatabase claims) { workspaceId := 1 }).map conflictSourceRow

theorem freshClaim_escalated_iff_two :
    (Opposed (claimingRows [(2, "must: cache"), (1, "must_not: cache")]) 1 2 →
      (planOnIngest id (fun _ => none) (claimingRows [(2, "must: cache"), (1, "must_not: cache")])
        1 2).isSome) ↔
    (Opposed (claimingRows [(2, "must: cache"), (1, "must_not: cache")]) 1 2 →
      AloneOpposed (claimingRows [(2, "must: cache"), (1, "must_not: cache")]) 1 2 ∨
        ∃ found ∈ escalatingCandidates id
            (claimingRows [(2, "must: cache"), (1, "must_not: cache")]) 1 2,
          found.conflictType ≠ .sameScopeOpposingClaim) :=
  freshClaim_escalated_iff id _ (claimingDatabase [(2, "must: cache"), (1, "must_not: cache")])
    1 2 _ rfl (by decide +kernel) (by decide +kernel)
    (idsApart_of_length (by decide +kernel)) (by unfold Newest; decide +kernel)

/-- The oldest of three contents repeats the claim of the newest. -/
def repeatedClaim : List (ContentId × String) :=
  [(3, "must: cache"), (2, "must_not: cache"), (1, "must: cache")]

theorem not_freshClaim_escalated_repeated :
    ¬ ∀ sha256Hex env db workspaceId contentId rows,
      fetchRows db { workspaceId } ingestSourceLimit = .ok rows →
      (selectedRows db { workspaceId }).length ≤ ingestSourceLimit →
      (orderedCandidates sha256Hex rows workspaceId none none false).length ≤ 10 →
      IdsApart sha256Hex rows workspaceId → Newest db workspaceId contentId →
      Opposed rows workspaceId contentId →
        (planOnIngest sha256Hex env rows workspaceId contentId).isSome := by
  intro hescalated
  have hopposed : Opposed (claimingRows repeatedClaim) 1 3 := by
    refine ⟨"global".toList, .must, "cache".toList, .positive, 2, by decide, ?_, ?_⟩
    all_goals
      unfold States
      decide +kernel
  have hplan := hescalated id (fun _ => none) (claimingDatabase repeatedClaim) 1 3
    (claimingRows repeatedClaim) rfl (by decide +kernel) (by decide +kernel)
    (idsApart_of_length (by decide +kernel)) (by unfold Newest; decide +kernel) hopposed
  revert hplan
  decide +kernel

end MemoryLab.Conflicts

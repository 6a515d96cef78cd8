import MemoryLab.Library.Merge
import MemoryLab.Model.GraphPreview

/-! # The strict preview search filters the annotating one -/

namespace MemoryLab.GraphPreview

open Library Library.Rows Decisions

section Strict

variable (db : PreviewDatabase) (workspaceId : WorkspaceId) (hubId : HubId)

def ownsHub : Bool :=
  db.hubs.any fun hub => hub.hubId == hubId && hub.workspaceUuid == some workspaceId

def linksContent (contentId : ContentId) : Bool :=
  db.hubContent.any fun link =>
    link.hubId == hubId && link.contentId == contentId && link.workspaceId == some workspaceId

def linksDecision (decisionId : DecisionId) : Bool :=
  db.decisions.any fun decision =>
    decision.decisionId == decisionId && decide (hubId ∈ decision.linkedHubIds)

/-- The workspace owns the hub, and a link of the workspace or of the decision leads to it. -/
def recognised (row : PreviewRow) : Bool :=
  ownsHub db workspaceId hubId &&
    (row.contentId.any (linksContent db workspaceId hubId) ||
      row.decisionId.any (linksDecision db hubId))

variable {db workspaceId hubId}

/-! ## Contents -/

theorem strictContentLink_eq (contentId : ContentId) :
    strictContentLink db (some workspaceId) hubId contentId =
      (ownsHub db workspaceId hubId && linksContent db workspaceId hubId contentId) := by
  rw [Bool.eq_iff_iff]
  simp only [strictContentLink, ownsHub, linksContent, List.any_eq_true, Bool.and_eq_true,
    beq_iff_eq, Option.all_some]
  constructor
  · rintro ⟨link, hlink, hub, hhub, ⟨⟨hid, hcontent⟩, hlinkHub⟩, hlinkOwner, howner⟩
    exact ⟨⟨hub, hhub, hid.trans hlinkHub, howner⟩, link, hlink, ⟨hlinkHub, hcontent⟩, hlinkOwner⟩
  · rintro ⟨⟨hub, hhub, hid, howner⟩, link, hlink, ⟨hlinkHub, hcontent⟩, hlinkOwner⟩
    exact ⟨link, hlink, hub, hhub, ⟨⟨hid.trans hlinkHub.symm, hcontent⟩, hlinkHub⟩, hlinkOwner,
      howner⟩

theorem recognised_groupedRow (query : Text) (rows : List JoinedRow) (row : JoinedRow) :
    recognised db workspaceId hubId (groupedRow db query rows row) =
      strictContentLink db (some workspaceId) hubId row.1.1.contentId := by
  rw [strictContentLink_eq]
  simp [recognised, groupedRow]

/-- The rows of a group are all of one content, so a condition on it keeps them all or none. -/
theorem groupedRow_filter {query : Text} {rows : List JoinedRow} {row : JoinedRow}
    {p : ContentId → Bool} (hrow : p row.1.1.contentId = true) :
    groupedRow db query (rows.filter fun other => p other.1.1.contentId) row =
      groupedRow db query rows row := by
  have hgroup : (rows.filter fun other => p other.1.1.contentId).filter
      (fun other => decide (groupKey db other = groupKey db row)) =
      rows.filter fun other => decide (groupKey db other = groupKey db row) := by
    rw [List.filter_filter]
    refine List.filter_congr fun other _ => ?_
    by_cases hkey : groupKey db other = groupKey db row
    · have hcontent : other.1.1.contentId = row.1.1.contentId := congrArg Prod.fst hkey
      simp [hkey, hcontent, hrow]
    · simp [hkey]
  rw [groupedRow, hgroup, groupedRow]

theorem contentRows_strict (query : Text) (nodeType : Option Text) :
    contentRows db query nodeType (some hubId) (some workspaceId) (some hubId) =
      (contentRows db query nodeType (some hubId) (some workspaceId) none).filter
        (recognised db workspaceId hubId) := by
  let p : ContentId → Bool := strictContentLink db (some workspaceId) hubId
  let rows := (joinedRows db (some hubId)).filter (contentWhere db query nodeType
    (some workspaceId))
  have hannotate : contentRows db query nodeType (some hubId) (some workspaceId) none =
      sortOn contentOrder ((distinctOn (groupKey db) rows).map (groupedRow db query rows)) := by
    simp [contentRows, rows]
  have hstrict : contentRows db query nodeType (some hubId) (some workspaceId) (some hubId) =
      sortOn contentOrder ((distinctOn (groupKey db)
        (rows.filter fun row => p row.1.1.contentId)).map
        (groupedRow db query (rows.filter fun row => p row.1.1.contentId))) := by
    simp only [contentRows, rows, List.filter_filter, Option.all_some, p, Bool.and_comm]
  have hkey : ∀ a b, groupKey db a = groupKey db b →
      p a.1.1.contentId = p b.1.1.contentId :=
    fun a b h => congrArg p (congrArg Prod.fst h)
  rw [hannotate, hstrict, filter_sortOn, List.filter_map, ← filter_distinctOn hkey]
  congr 1
  have hselect : ((recognised db workspaceId hubId) ∘ groupedRow db query rows) =
      fun row => p row.1.1.contentId :=
    funext fun row => recognised_groupedRow query rows row
  rw [hselect]
  refine List.map_congr_left fun row hrow => ?_
  exact groupedRow_filter (List.mem_filter.mp hrow).2

/-! ## Decisions -/

theorem recognised_decisionPreview {query : Text} {decision : DecisionRow}
    (hmem : decision ∈ db.decisions) :
    recognised db workspaceId hubId (decisionPreview query (some hubId) decision) =
      strictDecisionLink db (some workspaceId) hubId decision := by
  have hlinks : linksDecision db hubId decision.decisionId =
      decide (hubId ∈ decision.linkedHubIds) := by
    rw [Bool.eq_iff_iff]
    simp only [linksDecision, List.any_eq_true, Bool.and_eq_true, beq_iff_eq, decide_eq_true_eq]
    constructor
    · rintro ⟨other, hother, hid, hlinked⟩
      rw [← List.inj_on_of_nodup_map db.decisions_nodup hother hmem hid]
      exact hlinked
    · exact fun hlinked => ⟨decision, hmem, rfl, hlinked⟩
  simp [recognised, decisionPreview, hlinks, strictDecisionLink, ownsHub, Bool.and_comm]

theorem decisionRows_strict (query : Text) :
    decisionRows db query (some hubId) (some workspaceId) (some hubId) =
      (decisionRows db query (some hubId) (some workspaceId) none).filter
        (recognised db workspaceId hubId) := by
  rw [decisionRows, decisionRows, filter_sortOn, List.filter_map, List.filter_filter]
  congr 2
  refine List.filter_congr fun decision hmem => ?_
  rw [Function.comp_apply, recognised_decisionPreview hmem]
  simp [Bool.and_comm]

/-! ## Both -/

theorem pairwise_score_contentRows (query : Text) (nodeType : Option Text) (hub : Option HubId)
    (workspace : Option WorkspaceId) (strictHub : Option HubId) :
    (contentRows db query nodeType hub workspace strictHub).Pairwise fun a b =>
      OrderDual.toDual a.score ≤ OrderDual.toDual b.score :=
  (pairwise_sortOn _).imp fun {a b} (h : contentOrder a ≤ contentOrder b) =>
    Prod.Lex.monotone_fst _ _ h

theorem pairwise_score_decisionRows (query : Text) (hub : Option HubId)
    (workspace : Option WorkspaceId) (strictHub : Option HubId) :
    (decisionRows db query hub workspace strictHub).Pairwise fun a b =>
      OrderDual.toDual a.score ≤ OrderDual.toDual b.score :=
  (pairwise_sortOn _).imp fun {a b} (h : decisionOrder a ≤ decisionOrder b) =>
    Prod.Lex.monotone_fst _ _ h

/-- The results of both statements before any limit. -/
def allResults (db : PreviewDatabase) (query : Text) (nodeType : Option Text)
    (hub : Option HubId) (workspace : Option WorkspaceId) (strictHub : Option HubId) :
    List PreviewRow :=
  let results := contentRows db query nodeType hub workspace strictHub
  if nodeType = some "decision".toList then
    sortOn (fun row => OrderDual.toDual row.score)
      (results ++ decisionRows db query hub workspace strictHub)
  else results

/-- Cutting both statements and their merge is cutting the merge. -/
theorem mergedResults_eq (query : Text) (nodeType : Option Text) (hub : Option HubId) (limit : ℕ)
    (workspace : Option WorkspaceId) (strictHub : Option HubId) :
    mergedResults db query nodeType hub limit workspace strictHub =
      (allResults db query nodeType hub workspace strictHub).take limit := by
  unfold mergedResults allResults
  dsimp only
  split
  · exact take_sortOn_append (pairwise_score_contentRows query nodeType hub workspace strictHub)
      (pairwise_score_decisionRows query hub workspace strictHub) limit
  · rfl

theorem allResults_strict (query : Text) (nodeType : Option Text) :
    allResults db query nodeType (some hubId) (some workspaceId) (some hubId) =
      (allResults db query nodeType (some hubId) (some workspaceId) none).filter
        (recognised db workspaceId hubId) := by
  unfold allResults
  dsimp only
  rw [contentRows_strict, decisionRows_strict]
  split
  · rw [filter_sortOn, List.filter_append]
  · rfl

end Strict

/-- Given a hub, only a text that the database cannot hold is refused. -/
theorem searchGraphPreview_some (db : PreviewDatabase) (query : Text) (nodeType : Option Text)
    (hubId : HubId) (limit : ℕ) (workspace : Option WorkspaceId) (hubScope : HubScope) :
    searchGraphPreview db query nodeType (some hubId) limit workspace hubScope =
      if !(storable query.lower && nodeType.all storable) then .error (.database .invalidText)
      else
        let strictHub := strictHubOf (some hubId) hubScope
        let results := mergedResults db query nodeType (some hubId) limit workspace strictHub
        .ok ⟨results, results.length, workspace, strictHub⟩ := by
  rw [searchGraphPreview, if_neg fun h => Option.some_ne_none hubId h.2]

/-- For every limit, the strict search returns the first rows that the annotating search returns
without a limit and whose link to the hub it recognises. -/
theorem strict_eq_filter_annotate (db : PreviewDatabase) (query : Text) (nodeType : Option Text)
    (workspaceId : WorkspaceId) (hubId : HubId) :
    ∃ bound, ∀ unbounded ≥ bound, ∀ limit,
      (searchGraphPreview db query nodeType (some hubId) limit (some workspaceId) .strict).map
          (·.results) =
        (searchGraphPreview db query nodeType (some hubId) unbounded (some workspaceId)
          .annotate).map fun response =>
            (response.results.filter (recognised db workspaceId hubId)).take limit := by
  refine ⟨(allResults db query nodeType (some hubId) (some workspaceId) none).length, ?_⟩
  intro unbounded hbound limit
  have hall : (allResults db query nodeType (some hubId) (some workspaceId) none).take unbounded =
      allResults db query nodeType (some hubId) (some workspaceId) none :=
    List.take_of_length_le hbound
  rw [searchGraphPreview_some, searchGraphPreview_some]
  split
  · rfl
  · simp only [Except.map, mergedResults_eq, strictHubOf, hall, allResults_strict]

end MemoryLab.GraphPreview

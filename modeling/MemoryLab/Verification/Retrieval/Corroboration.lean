import MemoryLab.Verification.Ranking.Evidence
import MemoryLab.Verification.Retrieval.Scope

/-! # Hub corroboration of merged rows

The merge drops the hub rows of contents that it has already, so no row is both. -/

namespace MemoryLab.Retrieval

open Library Library.Rows
open CompositeRanker (SourcePath sourcePathForRow rankKey boostedScore)
open Library.Transaction (bind_eq_ok exists_of_toOption_any)

/-- A row as the ranker reads it. -/
def RetrievalRow.asRow (row : RetrievalRow) : CompositeRanker.Row RetrievalRow where
  distance := row.distance
  score := some row.score
  retrievalPath := row.retrievalPath.label
  graphMatch := .list row.graphMatch
  hubMatch := match row.hubMatch with
    | some hubId => .text hubId.text
    | none => .absent
  hubAliases := .list row.hubAliases
  hubRelatedTerms := .list row.hubRelatedTerms
  text := some row.text
  sourceQueries := row.sourceQueries
  graphRescue := row.graphRescue
  hubTitle := row.hubTitle
  rest := row

/-! ## The ranker -/

theorem mem_lexicalPaths (path : RetrievalPath) :
    path.label ∈ CompositeRanker.lexicalPaths ↔
      path = .contentChunkWorkspaceScoped ∨ path = .deterministicFallback := by
  cases path <;> decide

theorem mem_hubPaths (path : RetrievalPath) :
    path.label ∈ CompositeRanker.hubPaths ↔ path = .hubLinkWorkspaceScoped := by
  cases path <;> decide

theorem rankDistance_asRow (row : RetrievalRow) :
    CompositeRanker.rankDistance row.asRow = rankDistance row := by
  cases hdistance : row.distance with
  | some distance =>
      simp [CompositeRanker.rankDistance, rankDistance, RetrievalRow.asRow, hdistance]
  | none =>
      simp [CompositeRanker.rankDistance, rankDistance, RetrievalRow.asRow, hdistance,
        mem_lexicalPaths, CompositeRanker.hubOnlyDistance]

/-- Where the scores of the environment are those of the ranker, the search ranks as it does. -/
theorem rankByComposite_refines {env : Environment}
    (hscore : ∀ row query, env.compositeScore row query = boostedScore query row.asRow)
    (rows : List RetrievalRow) (query : Text) :
    rankByComposite env rows query =
      (CompositeRanker.rankByComposite (rows.map RetrievalRow.asRow) query).map fun ranked =>
        { ranked.rest with score := boostedScore query ranked.rest.asRow } := by
  have hkey (a b : RetrievalRow) :
      (orderBy (fun a b => decide (b ≤ a)) (env.compositeScore a query)
        (env.compositeScore b query) (rankDistance a ≤ rankDistance b) = true) ↔
        rankKey query a.asRow ≤ rankKey query b.asRow := by
    rw [rankKey, rankKey, Prod.Lex.toLex_le_toLex, hscore, hscore, rankDistance_asRow,
      rankDistance_asRow]
    simp only [orderBy, Bool.and_eq_true, Bool.or_eq_true, Bool.not_eq_true', decide_eq_true_eq,
      decide_eq_false_iff_not, not_le, neg_lt_neg_iff, neg_inj]
    constructor
    · rintro ⟨hle, hlt | hdistance⟩
      · exact .inl hlt
      · exact hle.lt_or_eq.imp id fun heq => ⟨heq.symm, hdistance⟩
    · rintro (hlt | ⟨heq, hdistance⟩)
      · exact ⟨hlt.le, .inl hlt⟩
      · exact ⟨heq.ge, .inr hdistance⟩
  have hsort := map_sortOn RetrievalRow.asRow
    (fun row => rfl : ∀ row : RetrievalRow, rankKey query row.asRow = rankKey query row.asRow) rows
  rw [CompositeRanker.rankByComposite_eq, ← hsort, List.map_map, List.map_map, rankByComposite,
    sortOn]
  simp only [hkey]
  refine List.map_congr_left fun row _ => ?_
  rw [hscore]
  rfl

/-! ## Rows of the earlier paths -/

/-- A row of the vector or of the lexical statement. -/
structure Unlinked (row : RetrievalRow) : Prop where
  hubMatch : row.hubMatch = none
  path : row.retrievalPath ≠ .hubLinkWorkspaceScoped

section Search

variable {env : Environment} {db : Database} {scope : SearchScope} {query : Text}
variable {options : SearchOptions}

theorem unlinked_lexical {rows : List RetrievalRow}
    (h : deterministicVectorSearch env db scope query = .ok rows) :
    ∀ row ∈ rows, Unlinked row := by
  have hrow (terms : List Text) (joined : JoinedChunk) : Unlinked (lexicalRow terms joined) :=
    ⟨rfl, by simp [lexicalRow]⟩
  unfold deterministicVectorSearch at h
  dsimp only at h
  split at h
  · obtain rfl := Except.ok.inj h
    exact List.forall_mem_nil _
  · split at h
    · cases h
    · obtain ⟨hubIds, -, h⟩ := bind_eq_ok.mp h
      obtain rfl := Except.ok.inj h
      exact List.forall_mem_map.mpr fun joined _ => hrow _ joined

theorem unlinked_knn {vector : List ℚ} {rows : List RetrievalRow}
    (h : pgvectorKnnSearch env db scope vector = .ok rows) : ∀ row ∈ rows, Unlinked row := by
  have hrow (joined : JoinedChunk) : Unlinked (knnRow env vector joined) :=
    ⟨rfl, by simp [knnRow]⟩
  unfold pgvectorKnnSearch at h
  split at h
  · cases h
  · obtain ⟨hubIds, -, h⟩ := bind_eq_ok.mp h
    obtain rfl := Except.ok.inj h
    exact List.forall_mem_map.mpr fun joined _ => hrow joined

theorem unlinked_earlierRows {results : List RetrievalRow}
    (h : earlierRows env db scope query options = .ok results) :
    ∀ row ∈ results, Unlinked row := by
  intro row hrow
  obtain ⟨original, hfound, hfollows⟩ := traced_earlierRows (fun q rows => unlinked_lexical)
    (fun vector rows => unlinked_knn) h row hrow
  refine ⟨hfollows.hubMatch.trans hfound.hubMatch, ?_⟩
  rcases hfollows.path with hpath | hpath | hpath <;> rw [hpath]
  · exact hfound.path
  · decide
  · decide

theorem path_of_mem_hubLinkedResults {recalled : List RetrievalRow}
    (h : hubLinkedResults env db scope query = .ok recalled) :
    ∀ row ∈ recalled, row.retrievalPath = .hubLinkWorkspaceScoped := by
  unfold hubLinkedResults at h
  split at h
  · obtain rfl := Except.ok.inj h
    exact List.forall_mem_nil _
  · obtain ⟨hub, -, h⟩ := bind_eq_ok.mp h
    cases hub with
    | none =>
        obtain rfl := Except.ok.inj h
        exact List.forall_mem_nil _
    | some hub =>
        dsimp only at h
        split_ifs at h
        · obtain rfl := Except.ok.inj h
          exact List.forall_mem_nil _
        · obtain rfl := Except.ok.inj h
          exact List.forall_mem_nil _
        · obtain rfl := Except.ok.inj h
          exact List.forall_mem_map.mpr fun _ _ => rfl

/-! ## Corroboration -/

/-- What a search returns of a content that the hub recall lists as well carries the hub and counts
as mixed, unless the hub recall returned it. -/
def Corroborated (env : Environment) (db : Database) (scope : SearchScope) (query : Text)
    (options : SearchOptions) : Prop :=
  ∀ results recalled, search env db scope query options = .ok results →
    hubLinkedResults env db scope query = .ok recalled →
    ∀ row ∈ results, row.retrievalPath ≠ .hubLinkWorkspaceScoped →
      ∀ linked ∈ recalled, linked.contentId = row.contentId →
        row.hubMatch = linked.hubMatch ∧ sourcePathForRow row.asRow = .mixed

/-- Outside the hub recall no returned row counts as mixed. -/
theorem not_mixed_of_search {results : List RetrievalRow}
    (h : search env db scope query options = .ok results) {row : RetrievalRow}
    (hrow : row ∈ results) : sourcePathForRow row.asRow ≠ .mixed := by
  obtain ⟨earlier, recalled, hearlier, hrecalled, rfl⟩ := search_eq_ok.mp h
  obtain ⟨original, horiginal, rfl⟩ := mem_rankByComposite.mp hrow
  unfold sourcePathForRow
  rcases mem_appendUnseen horiginal with horiginal | horiginal
  · have hnone := (unlinked_earlierRows hearlier original horiginal).hubMatch
    have hempty : ({ original with score := env.compositeScore original query } :
        RetrievalRow).asRow.hubMatch.asList = [] := by
      simp [RetrievalRow.asRow, hnone, CompositeRanker.ListValue.asList]
    split_ifs <;> first | contradiction | decide
  · have hpath := path_of_mem_hubLinkedResults hrecalled original horiginal
    have hhub : ({ original with score := env.compositeScore original query } :
        RetrievalRow).asRow.retrievalPath ∈ CompositeRanker.hubPaths :=
      (mem_hubPaths original.retrievalPath).mpr hpath
    rw [if_pos hhub]
    decide

/-- The hub survives the merge only where the hub recall lists nothing that is found already. -/
theorem corroborated_iff (env : Environment) (db : Database) (scope : SearchScope) (query : Text)
    (options : SearchOptions) :
    Corroborated env db scope query options ↔
      ∀ earlier recalled, earlierRows env db scope query options = .ok earlier →
        hubLinkedResults env db scope query = .ok recalled →
        ∀ row ∈ earlier, ∀ linked ∈ recalled, linked.contentId ≠ row.contentId := by
  constructor
  · intro h earlier recalled hearlier hrecalled row hrow linked hlinked hsame
    have hresult : _ ∈ rankByComposite env (appendUnseen earlier recalled) query :=
      mem_rankByComposite.mpr ⟨row, mem_appendUnseen_of_mem hrow, rfl⟩
    have hsearch := search_eq_ok.mpr ⟨earlier, recalled, hearlier, hrecalled, rfl⟩
    have hpath := (unlinked_earlierRows hearlier row hrow).path
    exact not_mixed_of_search hsearch hresult
      (h _ recalled hsearch hrecalled _ hresult hpath linked hlinked hsame).2
  · intro h results recalled hsearch hrecalled row hrow hpath linked hlinked hsame
    obtain ⟨earlier, recalled', hearlier, hrecalled', rfl⟩ := search_eq_ok.mp hsearch
    obtain rfl := Except.ok.inj (hrecalled.symm.trans hrecalled')
    obtain ⟨original, horiginal, rfl⟩ := mem_rankByComposite.mp hrow
    rcases mem_appendUnseen horiginal with horiginal | horiginal
    · exact absurd hsame (h earlier recalled hearlier hrecalled original horiginal linked hlinked)
    · exact absurd (path_of_mem_hubLinkedResults hrecalled original horiginal) hpath

end Search

/-- A hub that the query names, linked to a content that the query finds. -/
def namedPlan : Database :=
  { linkedPlan with
    hubs := [⟨⟨7⟩, some 1, true, "plan".toList, [], []⟩] }

theorem not_corroborated :
    ¬ ∀ env db scope query options, Corroborated env db scope query options := by
  intro h
  have hfound : (search offlineEnvironment namedPlan ⟨some 1, none, none⟩ "plan".toList
      {}).toOption.any (fun rows => rows.any fun row => row.contentId == 1 &&
        row.retrievalPath != .hubLinkWorkspaceScoped) = true := by decide +kernel
  have hlisted : (hubLinkedResults offlineEnvironment namedPlan ⟨some 1, none, none⟩
      "plan".toList).toOption.any (fun rows => rows.any fun row => row.contentId == 1) = true := by
    decide +kernel
  obtain ⟨results, hsearch, hfound⟩ := exists_of_toOption_any hfound
  obtain ⟨recalled, hrecalled, hlisted⟩ := exists_of_toOption_any hlisted
  simp only [List.any_eq_true, Bool.and_eq_true, beq_iff_eq, bne_iff_ne] at hfound hlisted
  obtain ⟨row, hrow, hcontent, hpath⟩ := hfound
  obtain ⟨linked, hlinked, hlinkedContent⟩ := hlisted
  have hmixed := h _ _ _ _ _ results recalled hsearch hrecalled row hrow hpath linked hlinked
    (hlinkedContent.trans hcontent.symm)
  exact not_mixed_of_search hsearch hrow hmixed.2

end MemoryLab.Retrieval

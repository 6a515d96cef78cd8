import Mathlib.Data.Char
import Mathlib.Data.List.Lex
import MemoryLab.Verification.Retrieval.Provenance

/-! # Scoped retrieval stays in its scope

A property of where a row comes from is one of its content and its workspace, so it holds of every
row that is returned once it holds of every row that a path finds. -/

namespace MemoryLab.Retrieval

open Library Library.Rows
open Library.Transaction (bind_eq_ok)

/-! ## Provenance -/

section Provenance

variable {Q : ContentId → Option WorkspaceId → Prop}

/-- Every row comes from where `Q` permits. -/
def AllFrom (Q : ContentId → Option WorkspaceId → Prop) (rows : List RetrievalRow) : Prop :=
  ∀ row ∈ rows, Q row.contentId row.workspaceId

/-- No stage of the merge changes where a row comes from. -/
theorem Traced.allFrom {rows : List RetrievalRow}
    (h : Traced (fun row => Q row.contentId row.workspaceId) rows) : AllFrom Q rows := by
  intro row hrow
  obtain ⟨original, hfound, hfollows⟩ := h row hrow
  rw [hfollows.contentId, hfollows.workspaceId]
  exact hfound

/-- What the adapter returns comes from where its three statements find rows. -/
theorem allFrom_search {env : Environment} {db : Database} {scope : SearchScope}
    {options : SearchOptions} {query : Text}
    (hlexical : ∀ q rows, deterministicVectorSearch env db scope q = .ok rows → AllFrom Q rows)
    (hknn : ∀ vector rows, pgvectorKnnSearch env db scope vector = .ok rows → AllFrom Q rows)
    (hhub : ∀ rows, hubLinkedResults env db scope query = .ok rows → AllFrom Q rows)
    {out : List RetrievalRow} (h : search env db scope query options = .ok out) :
    AllFrom Q out := by
  obtain ⟨results, recalled, hresults, hrecalled, rfl⟩ := search_eq_ok.mp h
  intro row hrow
  obtain ⟨original, horiginal, rfl⟩ := mem_rankByComposite.mp hrow
  rcases mem_appendUnseen horiginal with horiginal | horiginal
  · exact (traced_earlierRows hlexical hknn hresults).allFrom original horiginal
  · exact hhub recalled hrecalled original horiginal

end Provenance

/-! ## The scope -/

/-- The row of a content item that a scope permits in a workspace. -/
structure PermittedItem (db : Database) (scope : SearchScope) (workspaceId : WorkspaceId)
    (item : ContentItem) : Prop where
  mem : item ∈ db.contentItems
  workspace : item.workspaceId = some workspaceId
  memoryType : ∀ types, scope.memoryTypes = some types → types ≠ [] →
    ∃ type, item.memoryType = some type ∧ type.label.toList ∈ types
  hub : ∀ hubs, scope.allowedHubs = some hubs → hubs ≠ [] →
    ∃ link ∈ db.hubContent, link.contentId = item.contentId ∧
      ∃ hub ∈ hubs, Uuid.parse hub = some link.hubId

/-- Where the rows of a scoped search may come from. -/
def Permitted (db : Database) (scope : SearchScope) (workspaceId : WorkspaceId)
    (contentId : ContentId) (source : Option WorkspaceId) : Prop :=
  source = some workspaceId ∧
    ∃ item, PermittedItem db scope workspaceId item ∧ item.contentId = contentId

theorem asksFor_spec {scope : SearchScope} {item : ContentItem} (h : scope.asksFor item = true)
    (types : List Text) (htypes : scope.memoryTypes = some types) (hne : types ≠ []) :
    ∃ type, item.memoryType = some type ∧ type.label.toList ∈ types := by
  simpa [SearchScope.asksFor, htypes, hne, Option.filter, Option.any_eq_true] using h

theorem exists_of_mem_mapM {α β : Type} {f : α → Option β} {xs : List α} {ys : List β} {y : β}
    (h : xs.mapM f = some ys) (hy : y ∈ ys) : ∃ x ∈ xs, f x = some y := by
  induction xs generalizing ys with
  | nil =>
      obtain rfl : ys = [] := by simpa using h.symm
      cases hy
  | cons x xs ih =>
      rw [List.mapM_cons] at h
      obtain ⟨first, hfirst, h⟩ := Option.bind_eq_some_iff.mp h
      obtain ⟨rest, hrest, h⟩ := Option.bind_eq_some_iff.mp h
      obtain rfl : first :: rest = ys := by simpa using h
      rcases List.mem_cons.mp hy with rfl | hy
      · exact ⟨x, List.mem_cons_self, hfirst⟩
      · obtain ⟨z, hz, hfz⟩ := ih hrest hy
        exact ⟨z, List.mem_cons_of_mem x hz, hfz⟩

theorem hubIds_spec {scope : SearchScope} {hubIds : Option (List HubId)}
    (h : scope.hubIds = .ok hubIds) (hubs : List Text) (hhubs : scope.allowedHubs = some hubs)
    (hne : hubs ≠ []) :
    ∃ ids, hubIds = some ids ∧ ∀ id ∈ ids, ∃ hub ∈ hubs, Uuid.parse hub = some id := by
  simp only [SearchScope.hubIds, hhubs, Option.filter, hne, ne_eq, not_false_eq_true,
    decide_true, if_true] at h
  cases hids : hubs.mapM Uuid.parse with
  | none => simp [hids] at h
  | some ids =>
      rw [hids] at h
      exact ⟨ids, (Except.ok.inj h).symm, fun id hid => exists_of_mem_mapM hids hid⟩

section Paths

variable {env : Environment} {db : Database} {scope : SearchScope} {workspaceId : WorkspaceId}

/-- The condition that the lexical and the vector statement share. -/
theorem permitted_of_inScope (hworkspace : scope.workspaceId = some workspaceId)
    {hubIds : Option (List HubId)} (hhubs : scope.hubIds = .ok hubIds) {row : JoinedChunk}
    (hrow : row ∈ joinedChunks db) (hscope : inScope db scope hubIds row.2 = true) :
    Permitted db scope workspaceId row.2.contentId row.2.workspaceId := by
  obtain ⟨chunk, hchunk, hitem⟩ := List.mem_flatMap.mp hrow
  obtain ⟨item, hmem, rfl⟩ := List.mem_map.mp hitem
  simp only [inScope, SearchScope.ownedBy, hworkspace, Bool.and_eq_true, Option.all_some,
    beq_iff_eq] at hscope
  obtain ⟨⟨howned, hasks⟩, hlinked⟩ := hscope
  refine ⟨howned, item, ⟨(List.mem_filter.mp hmem).1, howned, asksFor_spec hasks, ?_⟩, rfl⟩
  intro hubs hsome hne
  obtain ⟨ids, rfl, hids⟩ := hubIds_spec hhubs hubs hsome hne
  simp only [Option.all_some, linkedToAny, List.any_eq_true, Bool.and_eq_true, decide_eq_true_eq,
    beq_iff_eq] at hlinked
  obtain ⟨link, hlink, hid, hcontent⟩ := hlinked
  exact ⟨link, hlink, hcontent, hids link.hubId hid⟩

theorem permitted_lexical (hworkspace : scope.workspaceId = some workspaceId) {query : Text}
    {rows : List RetrievalRow} (h : deterministicVectorSearch env db scope query = .ok rows) :
    AllFrom (Permitted db scope workspaceId) rows := by
  unfold deterministicVectorSearch at h
  dsimp only at h
  split at h
  · obtain rfl := Except.ok.inj h
    exact fun row hrow => absurd hrow List.not_mem_nil
  · split at h
    · cases h
    · obtain ⟨hubIds, hhubs, h⟩ := bind_eq_ok.mp h
      obtain rfl := Except.ok.inj h
      intro row hrow
      obtain ⟨joined, hjoined, rfl⟩ := List.mem_map.mp hrow
      have hkept := (List.mem_insertionSort _).mp (List.mem_of_mem_take hjoined)
      obtain ⟨hmem, hfilter⟩ := List.mem_filter.mp hkept
      rw [Bool.and_eq_true] at hfilter
      exact permitted_of_inScope hworkspace hhubs hmem hfilter.2

theorem permitted_knn (hworkspace : scope.workspaceId = some workspaceId) {vector : List ℚ}
    {rows : List RetrievalRow} (h : pgvectorKnnSearch env db scope vector = .ok rows) :
    AllFrom (Permitted db scope workspaceId) rows := by
  unfold pgvectorKnnSearch at h
  split at h
  · cases h
  · obtain ⟨hubIds, hhubs, h⟩ := bind_eq_ok.mp h
    obtain rfl := Except.ok.inj h
    intro row hrow
    obtain ⟨joined, hjoined, rfl⟩ := List.mem_map.mp hrow
    have hkept := (List.mem_insertionSort _).mp (List.mem_of_mem_take hjoined)
    obtain ⟨hmem, hfilter⟩ := List.mem_filter.mp hkept
    rw [Bool.and_eq_true] at hfilter
    exact permitted_of_inScope hworkspace hhubs hmem hfilter.2

theorem exists_link_of_mem_getHubContentIds {hubId : HubId} {contentId : ContentId}
    (h : contentId ∈ getHubContentIds db hubId workspaceId) :
    ∃ link ∈ db.hubContent, link.hubId = hubId ∧ link.contentId = contentId := by
  obtain ⟨link, hlink, hmem⟩ := List.mem_flatMap.mp h
  obtain ⟨item, -, rfl⟩ := List.mem_map.mp hmem
  obtain ⟨hmem, hfilter⟩ := List.mem_filter.mp hlink
  simp only [Bool.and_eq_true, beq_iff_eq] at hfilter
  exact ⟨link, hmem, hfilter.1, rfl⟩

theorem allowsHub_spec {hub : Hub} (h : allowsHub scope hub = true) (hubs : List Text)
    (hhubs : scope.allowedHubs = some hubs) : ∃ name ∈ hubs, Uuid.parse name = some hub.hubId := by
  simp only [allowsHub, hhubs, Option.all_some, decide_eq_true_eq, List.mem_map] at h
  obtain ⟨name, hname, hlower⟩ := h
  exact ⟨name, hname, Uuid.parse_of_lower hlower⟩

theorem permitted_hub (hworkspace : scope.workspaceId = some workspaceId) {query : Text}
    {rows : List RetrievalRow} (h : hubLinkedResults env db scope query = .ok rows) :
    AllFrom (Permitted db scope workspaceId) rows := by
  have hnil : AllFrom (Permitted db scope workspaceId) [] :=
    fun row hrow => absurd hrow List.not_mem_nil
  rw [hubLinkedResults, hworkspace] at h
  obtain ⟨matched, -, h⟩ := bind_eq_ok.mp h
  cases matched with
  | none =>
      obtain rfl := Except.ok.inj h
      exact hnil
  | some hub =>
      dsimp only at h
      split at h
      · obtain rfl := Except.ok.inj h
        exact hnil
      · rename_i hallows
        split at h
        · obtain rfl := Except.ok.inj h
          exact hnil
        · split at h
          · cases h
          · obtain rfl := Except.ok.inj h
            intro row hrow
            obtain ⟨joined, hjoined, rfl⟩ := List.mem_map.mp hrow
            have hkept := (List.mem_insertionSort _).mp (List.mem_of_mem_take hjoined)
            have hitem := fst_of_mem_leftJoin hkept
            obtain ⟨hmem, hfilter⟩ := List.mem_filter.mp hitem
            simp only [Bool.and_eq_true, beq_iff_eq, decide_eq_true_eq] at hfilter
            obtain ⟨⟨howned, hlinked⟩, hasks⟩ := hfilter
            refine ⟨howned, joined.1, ⟨hmem, howned, asksFor_spec hasks, ?_⟩, rfl⟩
            intro hubs hsome _
            obtain ⟨link, hlink, hhub, hcontent⟩ := exists_link_of_mem_getHubContentIds hlinked
            refine ⟨link, hlink, hcontent, ?_⟩
            rw [hhub]
            exact allowsHub_spec (by simpa using hallows) hubs hsome

/-- Whichever path found it, a returned row is one of the scope. -/
theorem permitted_search (hworkspace : scope.workspaceId = some workspaceId) {query : Text}
    {options : SearchOptions} {rows : List RetrievalRow}
    (h : search env db scope query options = .ok rows) :
    AllFrom (Permitted db scope workspaceId) rows :=
  allFrom_search (fun _ _ => permitted_lexical hworkspace) (fun _ _ => permitted_knn hworkspace)
    (fun _ => permitted_hub hworkspace) h

end Paths

/-- A search within a workspace and some hubs returns rows of that workspace, of the requested
types and linked to one of these hubs; without such links it returns nothing. -/
theorem search_stays_in_scope (env : Environment) (db : Database) (query : Text)
    (options : SearchOptions) (workspaceId : WorkspaceId) (memoryTypes : Option (List Text))
    (hubs : List Text) (hhubs : hubs ≠ []) (rows : List RetrievalRow)
    (h : search env db ⟨some workspaceId, memoryTypes, some hubs⟩ query options = .ok rows) :
    (∀ row ∈ rows, row.workspaceId = some workspaceId ∧
      ∃ item ∈ db.contentItems, item.contentId = row.contentId ∧
        item.workspaceId = some workspaceId ∧
        (∀ types, memoryTypes = some types → types ≠ [] →
          ∃ type, item.memoryType = some type ∧ type.label.toList ∈ types) ∧
        ∃ link ∈ db.hubContent, link.contentId = item.contentId ∧
          ∃ hub ∈ hubs, Uuid.parse hub = some link.hubId) ∧
    ((∀ link ∈ db.hubContent, ∀ hub ∈ hubs, Uuid.parse hub ≠ some link.hubId) → rows = []) := by
  have hall := permitted_search rfl h
  constructor
  · intro row hrow
    obtain ⟨hsource, item, hitem, hid⟩ := hall row hrow
    exact ⟨hsource, item, hitem.mem, hid, hitem.workspace, hitem.memoryType,
      hitem.hub hubs rfl hhubs⟩
  · intro hnone
    apply List.eq_nil_iff_forall_not_mem.mpr
    intro row hrow
    obtain ⟨-, item, hitem, -⟩ := hall row hrow
    obtain ⟨link, hlink, -, hub, hhub, hparse⟩ := hitem.hub hubs rfl hhubs
    exact hnone link hlink hub hhub hparse

def offlineEnvironment : Environment where
  chunkCreatedAt _ := 0
  distance _ _ := 0
  shortAliasMatches _ _ := false
  setOrder s := s.sort (· ≤ ·)
  compositeScore row _ := row.score
  embeddingBackend := ⟨false, fun _ => {}⟩

def linkedPlan : Database :=
  { contentItems := [{ contentId := 1, workspaceId := some 1, memoryType := some .decision },
      { contentId := 2, workspaceId := some 1, memoryType := some .decision }]
    contentChunks := [⟨1, 1, some 1, 0, "the plan".toList, none⟩,
      ⟨2, 2, some 1, 0, "a plan".toList, none⟩]
    hubContent := [{ hubId := ⟨7⟩, contentId := 1, workspaceId := some 1 }] }

theorem search_stays_in_scope_linkedPlan :
    ∃ rows, search offlineEnvironment linkedPlan
        ⟨some 1, some ["decision".toList], some [(Uuid.mk 7).text]⟩ "plan".toList {} = .ok rows ∧
      rows.map (·.contentId) = [1] ∧ ∀ row ∈ rows, row.workspaceId = some 1 := by
  have hrun : ((search offlineEnvironment linkedPlan
      ⟨some 1, some ["decision".toList], some [(Uuid.mk 7).text]⟩ "plan".toList {}).toOption.map
        fun rows => rows.map (·.contentId)) = some [1] := by decide +kernel
  cases hrows : search offlineEnvironment linkedPlan
      ⟨some 1, some ["decision".toList], some [(Uuid.mk 7).text]⟩ "plan".toList {} with
  | error error =>
      rw [hrows] at hrun
      cases hrun
  | ok rows =>
      rw [hrows] at hrun
      have hids : rows.map (·.contentId) = [1] := Option.some.inj hrun
      exact ⟨rows, rfl, hids, fun row hrow => ((search_stays_in_scope offlineEnvironment linkedPlan
        "plan".toList {} 1 (some ["decision".toList]) [(Uuid.mk 7).text] (by simp) rows hrows).1
          row hrow).1⟩

end MemoryLab.Retrieval

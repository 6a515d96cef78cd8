import MemoryLab.Library.Runs
import MemoryLab.Library.Transaction
import MemoryLab.Model.HybridSearch

/-! # Where the rows of a search come from

Merging, rescuing and boosting change neither the content nor the hub of a row, so every row of a
merged result goes back to a row that one of the searches has found. -/

namespace MemoryLab.Retrieval

open Library Library.Rows Library.Runs
open Library.Transaction (bind_eq_ok)

/-- A row as a later stage has it. -/
structure Follows (original row : RetrievalRow) : Prop where
  contentId : row.contentId = original.contentId
  workspaceId : row.workspaceId = original.workspaceId
  hubMatch : row.hubMatch = original.hubMatch
  path : row.retrievalPath = original.retrievalPath ∨
    row.retrievalPath = .graphRescueZeroResult ∨ row.retrievalPath = .graphRescueNonzero

@[simp] theorem Follows.refl (row : RetrievalRow) : Follows row row :=
  ⟨rfl, rfl, rfl, .inl rfl⟩

theorem Follows.trans {first second third : RetrievalRow} (h : Follows first second)
    (h' : Follows second third) : Follows first third where
  contentId := h'.contentId.trans h.contentId
  workspaceId := h'.workspaceId.trans h.workspaceId
  hubMatch := h'.hubMatch.trans h.hubMatch
  path := by
    rcases h'.path with hpath | hpath
    · rw [hpath]
      exact h.path
    · exact .inr hpath

/-! ## Stages that change one row -/

theorem follows_mergeGraphTerms (row : RetrievalRow) (graphTerms : List Text) (query : Text) :
    Follows row (mergeGraphTerms row graphTerms query) := by
  unfold mergeGraphTerms
  split
  · exact .refl row
  · exact ⟨rfl, rfl, rfl, .inl rfl⟩

theorem follows_boost (graphBoost : ℚ) (row : RetrievalRow) :
    Follows row (boost graphBoost row) := by
  unfold boost
  split
  · exact ⟨rfl, rfl, rfl, .inl rfl⟩
  · exact .refl row

theorem follows_setDefaults (mode status : Option String) (row : RetrievalRow) :
    Follows row (setDefaults mode status row) :=
  ⟨rfl, rfl, rfl, .inl rfl⟩

section Traced

variable {Found : RetrievalRow → Prop}

/-- Every row goes back to one that was found. -/
def Traced (Found : RetrievalRow → Prop) (rows : List RetrievalRow) : Prop :=
  ∀ row ∈ rows, ∃ original, Found original ∧ Follows original row

theorem traced_nil : Traced Found [] := List.forall_mem_nil _

theorem traced_of_forall {rows : List RetrievalRow} (h : ∀ row ∈ rows, Found row) :
    Traced Found rows :=
  fun row hrow => ⟨row, h row hrow, .refl row⟩

theorem Traced.append {rows others : List RetrievalRow} (h : Traced Found rows)
    (hothers : Traced Found others) : Traced Found (rows ++ others) := by
  intro row hrow
  exact (List.mem_append.mp hrow).elim (h row) (hothers row)

theorem traced_singleton {original row : RetrievalRow} (h : Found original)
    (hrow : Follows original row) : Traced Found [row] := by
  intro other hother
  rw [List.mem_singleton.mp hother]
  exact ⟨original, h, hrow⟩

theorem Traced.map {rows : List RetrievalRow} (h : Traced Found rows)
    {f : RetrievalRow → RetrievalRow} (hf : ∀ row, Follows row (f row)) :
    Traced Found (rows.map f) := by
  intro row hrow
  obtain ⟨earlier, hearlier, rfl⟩ := List.mem_map.mp hrow
  obtain ⟨original, hfound, hfollows⟩ := h earlier hearlier
  exact ⟨original, hfound, hfollows.trans (hf earlier)⟩

theorem Traced.enrich {found : List RetrievalRow} (h : Traced Found found) (row : RetrievalRow)
    {f : RetrievalRow → RetrievalRow} (hf : ∀ row, Follows row (f row)) :
    Traced Found (enrich found row f) := by
  apply h.map
  intro existing
  split
  · exact hf existing
  · exact .refl existing

theorem Traced.foldl {σ : Type*} (part : σ → List RetrievalRow) {rows : List RetrievalRow}
    (hrows : ∀ row ∈ rows, Found row) {start : σ} (hstart : Traced Found (part start))
    {step : σ → RetrievalRow → σ}
    (hstep : ∀ s row, Traced Found (part s) → Found row → Traced Found (part (step s row))) :
    Traced Found (part (rows.foldl step start)) := by
  induction rows generalizing start with
  | nil => exact hstart
  | cons row rows ih =>
      apply ih fun other hother => hrows other (List.mem_cons_of_mem _ hother)
      exact hstep start row hstart (hrows row List.mem_cons_self)

/-! ## Merging -/

section Merging

variable {workspaceId : Option WorkspaceId} {query : Text} {terms : List Text}

theorem traced_addResult (sourceQuery : Text) (rescued : Bool) (found : List RetrievalRow)
    (row : RetrievalRow) (hfound : Traced Found found) (hrow : Found row) :
    Traced Found (addResult workspaceId query terms sourceQuery rescued found row) := by
  unfold addResult
  split
  · exact hfound
  · dsimp only
    split
    · apply hfound.enrich
      intro existing
      refine .trans ?_ (follows_mergeGraphTerms _ _ _)
      exact ⟨rfl, rfl, rfl, .inl rfl⟩
    · refine hfound.append (traced_singleton hrow (.trans ?_ (follows_mergeGraphTerms _ _ _)))
      refine ⟨rfl, rfl, rfl, ?_⟩
      cases rescued <;> simp

theorem traced_addResults {sourceQuery : Text} {rescued : Bool} {found rows : List RetrievalRow}
    (hfound : Traced Found found) (hrows : ∀ row ∈ rows, Found row) :
    Traced Found (addResults workspaceId query terms sourceQuery rescued found rows) :=
  Traced.foldl id hrows hfound (traced_addResult sourceQuery rescued)

theorem traced_rescueCandidate (term : Text) (s : RescueState) (row : RetrievalRow)
    (hs : Traced Found s.found) (hrow : Found row) :
    Traced Found (rescueCandidate workspaceId query terms term s row).found := by
  unfold rescueCandidate
  split
  · exact hs
  · split
    · exact hs
    · dsimp only
      split
      · exact hs
      · split
        · exact hs.enrich row fun existing => follows_mergeGraphTerms _ _ _
        · refine hs.append (traced_singleton hrow (.trans ?_ (follows_mergeGraphTerms _ _ _)))
          exact ⟨rfl, rfl, rfl, .inr (.inr rfl)⟩

variable {vectorSearch : Text → Except DbError (List RetrievalRow)}

theorem traced_rescueZero
    (hsearch : ∀ q rows, vectorSearch q = .ok rows → ∀ row ∈ rows, Found row)
    {found next : List RetrievalRow} {term : Text} (hfound : Traced Found found)
    (h : rescueZero workspaceId query terms vectorSearch found term = .ok next) :
    Traced Found next := by
  obtain ⟨rows, hrows, hnext⟩ := bind_eq_ok.mp h
  obtain rfl := Except.ok.inj hnext
  exact traced_addResults hfound (hsearch _ rows hrows)

theorem traced_rescueTerm
    (hsearch : ∀ q rows, vectorSearch q = .ok rows → ∀ row ∈ rows, Found row)
    {s next : RescueState} {term : Text} (hs : Traced Found s.found)
    (h : rescueTerm workspaceId query terms vectorSearch s term = .ok next) :
    Traced Found next.found := by
  unfold rescueTerm at h
  split at h
  · obtain rfl := Except.ok.inj h
    exact hs
  · obtain ⟨rows, hrows, hnext⟩ := bind_eq_ok.mp h
    obtain rfl := Except.ok.inj hnext
    exact Traced.foldl RescueState.found (hsearch _ rows hrows) hs (traced_rescueCandidate term)

theorem traced_rescue
    (hsearch : ∀ q rows, vectorSearch q = .ok rows → ∀ row ∈ rows, Found row)
    {found out : List RetrievalRow} (hfound : Traced Found found)
    (h : rescue workspaceId query terms vectorSearch found = .ok out) : Traced Found out := by
  unfold rescue at h
  split at h
  · exact foldlM_invariant h traced_nil fun _ _ _ _ hs hstep => traced_rescueZero hsearch hs hstep
  · split at h
    · obtain ⟨s, hs, hout⟩ := bind_eq_ok.mp h
      obtain rfl := Except.ok.inj hout
      exact foldlM_invariant (P := fun s : RescueState => Traced Found s.found) hs hfound
        fun _ _ _ _ hs hstep => traced_rescueTerm hsearch hs hstep
    · obtain rfl := Except.ok.inj h
      exact hfound

/-- What a hybrid search returns was found by its vector search. -/
theorem traced_hybridSearch
    (hsearch : ∀ q rows, vectorSearch q = .ok rows → ∀ row ∈ rows, Found row) {graphBoost : ℚ}
    {out : List RetrievalRow}
    (h : hybridSearch workspaceId query terms vectorSearch graphBoost = .ok out) :
    Traced Found out := by
  obtain ⟨primary, hprimary, h⟩ := bind_eq_ok.mp h
  obtain ⟨found, hfound, hout⟩ := bind_eq_ok.mp h
  obtain rfl := Except.ok.inj hout
  have hprimaryRows : Traced Found (addResults workspaceId query terms query false [] primary) :=
    traced_addResults traced_nil (hsearch _ primary hprimary)
  have hboosted := (traced_rescue hsearch hprimaryRows hfound).map (follows_boost graphBoost)
  exact fun row hrow => hboosted row ((List.mem_insertionSort _).mp hrow)

end Merging

end Traced

/-! ## The adapter -/

theorem mem_appendUnseen {results rows : List RetrievalRow} {row : RetrievalRow}
    (h : row ∈ appendUnseen results rows) : row ∈ results ∨ row ∈ rows := by
  induction rows generalizing results with
  | nil => exact .inl h
  | cons first rows ih =>
      rw [appendUnseen, List.foldl_cons] at h
      split at h
      · exact (ih h).imp_right (List.mem_cons_of_mem first)
      · rcases ih h with hmem | hmem
        · rcases List.mem_append.mp hmem with hmem | hmem
          · exact .inl hmem
          · exact .inr (List.mem_singleton.mp hmem ▸ List.mem_cons_self)
        · exact .inr (List.mem_cons_of_mem first hmem)

theorem mem_appendUnseen_of_mem {results rows : List RetrievalRow} {row : RetrievalRow}
    (h : row ∈ results) : row ∈ appendUnseen results rows := by
  induction rows generalizing results with
  | nil => exact h
  | cons first rows ih =>
      rw [appendUnseen, List.foldl_cons]
      apply ih
      split
      · exact h
      · exact List.mem_append_left _ h

/-- What the vector, lexical and graph paths find. -/
def earlierRows (env : Environment) (db : Database) (scope : SearchScope) (query : Text)
    (options : SearchOptions) : Except DbError (List RetrievalRow) := do
  let embedding := queryEmbedding env query
  let merged ← hybridSearch scope.workspaceId query (newTerms env db scope options query)
    (vectorSearchFor env db scope embedding) options.graphBoost
  withLexical env db scope query embedding merged

section Adapter

variable {env : Environment} {db : Database} {scope : SearchScope} {query : Text}
variable {options : SearchOptions}

theorem search_eq_ok {out : List RetrievalRow} :
    search env db scope query options = .ok out ↔
      ∃ results recalled, earlierRows env db scope query options = .ok results ∧
        hubLinkedResults env db scope query = .ok recalled ∧
        out = rankByComposite env (appendUnseen results recalled) query := by
  constructor
  · intro h
    obtain ⟨merged, hmerged, h⟩ := bind_eq_ok.mp h
    obtain ⟨results, hresults, h⟩ := bind_eq_ok.mp h
    obtain ⟨recalled, hrecalled, hout⟩ := bind_eq_ok.mp h
    exact ⟨results, recalled, bind_eq_ok.mpr ⟨merged, hmerged, hresults⟩, hrecalled,
      (Except.ok.inj hout).symm⟩
  · rintro ⟨results, recalled, hresults, hrecalled, rfl⟩
    obtain ⟨merged, hmerged, hresults⟩ := bind_eq_ok.mp hresults
    exact bind_eq_ok.mpr ⟨merged, hmerged, bind_eq_ok.mpr ⟨results, hresults,
      bind_eq_ok.mpr ⟨recalled, hrecalled, rfl⟩⟩⟩

/-- The earlier paths return rows of the lexical and of the vector statement. -/
theorem traced_earlierRows {Found : RetrievalRow → Prop}
    (hlexical : ∀ q rows, deterministicVectorSearch env db scope q = .ok rows →
      ∀ row ∈ rows, Found row)
    (hknn : ∀ vector rows, pgvectorKnnSearch env db scope vector = .ok rows →
      ∀ row ∈ rows, Found row)
    {results : List RetrievalRow} (h : earlierRows env db scope query options = .ok results) :
    Traced Found results := by
  obtain ⟨merged, hmerged, hresults⟩ := bind_eq_ok.mp h
  generalize queryEmbedding env query = embedding at hmerged hresults
  have hmergedAll : Traced Found merged := by
    refine traced_hybridSearch (fun q rows hrows => ?_) hmerged
    cases embedding with
    | ok vector => exact hknn vector rows hrows
    | error reason => exact hlexical q rows hrows
  cases embedding with
  | error reason =>
      obtain rfl := Except.ok.inj hresults
      exact hmergedAll.map (follows_setDefaults _ _)
  | ok vector =>
      obtain ⟨lexical, hrows, hresults⟩ := bind_eq_ok.mp hresults
      obtain rfl := Except.ok.inj hresults
      intro row hrow
      rcases mem_appendUnseen hrow with hrow | hrow
      · exact hmergedAll.map (follows_setDefaults _ _) row hrow
      · exact (traced_of_forall (hlexical query lexical hrows)).map (follows_setDefaults _ _) row
          hrow

theorem mem_rankByComposite {rows : List RetrievalRow} {row : RetrievalRow} :
    row ∈ rankByComposite env rows query ↔
      ∃ original ∈ rows, row = { original with score := env.compositeScore original query } := by
  rw [rankByComposite, List.mem_map]
  constructor
  · rintro ⟨original, hmem, rfl⟩
    exact ⟨original, (List.mem_insertionSort _).mp hmem, rfl⟩
  · rintro ⟨original, hmem, rfl⟩
    exact ⟨original, (List.mem_insertionSort _).mpr hmem, rfl⟩

end Adapter

end MemoryLab.Retrieval

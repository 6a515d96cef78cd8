import MemoryLab.Model.ContextPackService
import MemoryLab.Verification.ContextPack.Builder

/-! # The sections under their flags

Counterfindings are taken from the conflicts after those were dropped for a flag of their own. -/

namespace MemoryLab.ContextPackService

open Library Library.Rows ContextPackBuilder

/-! ## Flags -/

structure Flags where
  supporting : Bool
  current : Bool
  conflicts : Bool
  counterfindings : Bool

def withFlags (request : BuildRequest) (flags : Flags) : BuildRequest :=
  { request with
    includeSupportingEvidence := flags.supporting, includeCurrentState := flags.current,
    includeConflicts := flags.conflicts, includeCounterfindings := flags.counterfindings }

def allOn : Flags := ⟨true, true, true, true⟩

/-- A section is empty without its flag, and with it no other flag changes the section. -/
structure Independent {α : Type} (build : Flags → Except ServiceError ContextPack)
    (flag : Flags → Bool) (part : ContextPack → List α) : Prop where
  same : ∀ flags other pack pack', build flags = .ok pack → build other = .ok pack' →
    flag flags = true → flag other = true → part pack = part pack'
  off : ∀ flags pack, build flags = .ok pack → flag flags = false → part pack = []

structure SectionsIndependent (build : Flags → Except ServiceError ContextPack) : Prop where
  supporting : Independent build (·.supporting) (·.supportingEvidence)
  signals : Independent build (·.current) (·.currentStateSignals)
  stale : Independent build (·.current) (·.staleOrSupersededItems)
  conflicts : Independent build (·.conflicts) (·.conflictCandidates)
  counterfindings : Independent build (·.counterfindings) (·.counterfindings)

/-- A section is independent that is made from a source of its own. -/
theorem Independent.of_source {α β : Type} {build : Flags → Except ServiceError ContextPack}
    {flag : Flags → Bool} {part : ContextPack → List α} {source : Except ServiceError β}
    (make : β → List α) (empty : β) (hempty : make empty = [])
    (h : ∀ flags pack, build flags = .ok pack →
      ∃ rows, (if flag flags then source else .ok empty) = .ok rows ∧ part pack = make rows) :
    Independent build flag part where
  same := by
    intro flags other pack pack' hpack hpack' hflag hflag'
    obtain ⟨rows, hrows, hpart⟩ := h flags pack hpack
    obtain ⟨rows', hrows', hpart'⟩ := h other pack' hpack'
    rw [if_pos hflag] at hrows
    rw [if_pos hflag'] at hrows'
    rw [hpart, hpart', Except.ok.inj (hrows.symm.trans hrows')]
  off := by
    intro flags pack hpack hflag
    obtain ⟨rows, hrows, hpart⟩ := h flags pack hpack
    rw [if_neg (by simp [hflag])] at hrows
    rw [hpart, ← Except.ok.inj hrows, hempty]

theorem mapError_eq_ok {ε ε' α : Type} {result : Except ε α} {f : ε → ε'} {a : α} :
    result.mapError f = .ok a ↔ result = .ok a := by
  cases result <;> simp [Except.mapError]

section Service

variable (env : PackEnvironment) (db : Database) (request : BuildRequest)
  (workspaceId : WorkspaceId) (options : Retrieval.SearchOptions)

/-! ## Sources -/

def supportRefs : Except ServiceError (List ContextPackEvidenceRef) := do
  let rows ← supportingRows env db request workspaceId options
  (rows.mapM (supportRef env.convert)).mapError .build

def stateRefs : Except ServiceError (List ContextPackEvidenceRef) := do
  let rows ← currentStateRows env db request workspaceId
  (rows.mapM (stateRef env.convert)).mapError .build

def packs (flags : Flags) : Except ServiceError ContextPack :=
  buildContextPackForRequest env db (withFlags request flags) workspaceId options

variable {env db request workspaceId options} {flags : Flags} {pack : ContextPack}

theorem supportRefs_withFlags :
    supportRefs env db (withFlags request flags) workspaceId options =
      if flags.supporting then supportRefs env db (withFlags request allOn) workspaceId options
      else .ok [] := by
  obtain ⟨supporting, current, conflicts, counterfindings⟩ := flags
  cases supporting <;> rfl

theorem stateRefs_withFlags :
    stateRefs env db (withFlags request flags) workspaceId =
      if flags.current then stateRefs env db (withFlags request allOn) workspaceId
      else .ok [] := by
  obtain ⟨supporting, current, conflicts, counterfindings⟩ := flags
  cases current <;> rfl

theorem conflictRows_withFlags :
    conflictRows env db (withFlags request flags) workspaceId =
      if flags.conflicts || flags.counterfindings then
        conflictRows env db (withFlags request allOn) workspaceId
      else .ok [] := by
  obtain ⟨supporting, current, conflicts, counterfindings⟩ := flags
  cases conflicts <;> cases counterfindings <;> rfl

/-- A pack is built from its sources. -/
theorem buildContextPackForRequest_eq_ok :
    buildContextPackForRequest env db request workspaceId options = .ok pack ↔
      ∃ supporting current found counterfindings,
        supportRefs env db request workspaceId options = .ok supporting ∧
        stateRefs env db request workspaceId = .ok current ∧
        conflictRows env db request workspaceId = .ok found ∧
        counterSection env.convert request
          (conflictSection request.limit (if request.includeConflicts then found else [])) =
            .ok counterfindings ∧
        pack = packOf request supporting current
          (conflictSection request.limit (if request.includeConflicts then found else []))
          counterfindings := by
  rw [buildContextPackForRequest, supportRefs, stateRefs]
  simp only [Transaction.bind_eq_ok, mapError_eq_ok, buildContextPack_eq_ok]
  constructor
  · rintro ⟨rows, hrows, states, hstates, found, hfound, supporting, current, counterfindings,
      hsupporting, hcurrent, hcounter, hpack⟩
    exact ⟨supporting, current, found, counterfindings, ⟨rows, hrows, hsupporting⟩,
      ⟨states, hstates, hcurrent⟩, hfound, hcounter, hpack⟩
  · rintro ⟨supporting, current, found, counterfindings, ⟨rows, hrows, hsupporting⟩,
      ⟨states, hstates, hcurrent⟩, hfound, hcounter, hpack⟩
    exact ⟨rows, hrows, states, hstates, found, hfound, supporting, current, counterfindings,
      hsupporting, hcurrent, hcounter, hpack⟩

/-! ## Sections with a source of their own -/

theorem independent_supporting :
    Independent (packs env db request workspaceId options) (·.supporting)
      (·.supportingEvidence) := by
  apply Independent.of_source (refSection (·.evidenceSortKey) request.limit) [] List.take_nil
  intro flags pack hpack
  obtain ⟨supporting, -, -, -, hsupporting, -, -, -, rfl⟩ :=
    buildContextPackForRequest_eq_ok.mp hpack
  exact ⟨supporting, supportRefs_withFlags ▸ hsupporting, rfl⟩

theorem independent_signals :
    Independent (packs env db request workspaceId options) (·.current)
      (·.currentStateSignals) := by
  apply Independent.of_source (fun refs : List ContextPackEvidenceRef =>
    refSection (·.currentSortKey) request.limit (refs.filter (·.isSignal))) [] List.take_nil
  intro flags pack hpack
  obtain ⟨-, current, -, -, -, hcurrent, -, -, rfl⟩ := buildContextPackForRequest_eq_ok.mp hpack
  exact ⟨current, stateRefs_withFlags ▸ hcurrent, rfl⟩

theorem independent_stale :
    Independent (packs env db request workspaceId options) (·.current)
      (·.staleOrSupersededItems) := by
  apply Independent.of_source (fun refs : List ContextPackEvidenceRef =>
    refSection (·.staleSortKey) request.limit (refs.filter (·.isStale))) [] List.take_nil
  intro flags pack hpack
  obtain ⟨-, current, -, -, -, hcurrent, -, -, rfl⟩ := buildContextPackForRequest_eq_ok.mp hpack
  exact ⟨current, stateRefs_withFlags ▸ hcurrent, rfl⟩

theorem independent_conflicts :
    Independent (packs env db request workspaceId options) (·.conflicts)
      (·.conflictCandidates) := by
  apply Independent.of_source (conflictSection request.limit) [] List.take_nil
  intro flags pack hpack
  obtain ⟨-, -, found, -, -, -, hfound, -, rfl⟩ := buildContextPackForRequest_eq_ok.mp hpack
  rw [conflictRows_withFlags] at hfound
  cases hflag : flags.conflicts with
  | false => exact ⟨[], rfl, by simp [packOf, withFlags, hflag]⟩
  | true =>
      rw [hflag] at hfound
      exact ⟨found, hfound, by simp [packOf, withFlags, hflag]⟩

end Service

/-! ## Counterfindings -/

section Counterfindings

variable {convert : Conversions}

/-- Whether a row of evidence is taken for a counterfinding. -/
def speaksAgainst (row : PackRow) : Bool := row.role.any (· ∈ counterRoles)

/-- Conflicts have no counterfindings exactly when none of their evidence speaks against them. -/
theorem counterfindings_eq_nil_iff {conflicts : List ConflictDict}
    {refs : List ContextPackEvidenceRef}
    (h : counterfindingsFromConflicts convert conflicts = .ok refs) :
    refs = [] ↔ ∀ conflict ∈ conflicts, ∀ row ∈ conflict.evidence, speaksAgainst row = false := by
  obtain ⟨parts, hparts, hrefs⟩ := Transaction.bind_eq_ok.mp h
  obtain rfl := (Except.ok.inj hrefs).symm
  have hempty : parts.map List.isEmpty =
      conflicts.map fun conflict => (conflict.evidence.filter speaksAgainst).isEmpty :=
    map_eq_of_mapM hparts fun conflict part hpart => isEmpty_of_mapM hpart
  have hsorted : sortOn (·.counterSortKey) (distinctOn (·.dedupeKey) parts.flatten) = [] ↔
      parts.flatten = [] := by
    rw [← List.length_eq_zero_iff, (perm_sortOn _).length_eq, List.length_eq_zero_iff,
      distinctOn_eq_nil_iff]
  have hparts : parts.flatten = [] ↔ ∀ flag ∈ parts.map List.isEmpty, flag = true := by
    rw [List.flatten_eq_nil_iff, List.forall_mem_map]
    simp only [List.isEmpty_iff]
  rw [hsorted, hparts, hempty, List.forall_mem_map]
  simp only [List.isEmpty_iff, List.filter_eq_nil_iff, Bool.not_eq_true]

/-- What the service makes of a candidate passes the checks of the records. -/
theorem exists_counterRefs (candidate : Conflicts.ConflictCandidate) :
    ∃ refs, counterRefs convert (conflictDict candidate).identified = .ok refs := by
  refine exists_mapM_iff.mpr fun row hrow => ?_
  have hevidence : (conflictDict candidate).identified.evidence =
      candidate.evidence.map evidenceRow := by
    rw [ConflictDict.identified]
    split <;> rfl
  obtain ⟨ref, -, rfl⟩ := List.mem_map.mp (hevidence ▸ List.mem_of_mem_filter hrow)
  refine exists_evidenceFromItem fun name hname => ?_
  have hkeys : ∀ name ∈ fieldKeys, name ∉ provenanceKeys ∧
      name.toList ∉ ["conflict_id".toList] := by decide
  exact get_mergedMetadata (hkeys name hname).1 (hkeys name hname).2

theorem exists_counterfindings {conflicts : List ConflictDict}
    (h : ∀ conflict ∈ conflicts, ∃ candidate, (conflictDict candidate).identified = conflict) :
    ∃ refs, counterfindingsFromConflicts convert conflicts = .ok refs := by
  have hrefs : ∀ conflict ∈ conflicts, ∃ refs, counterRefs convert conflict = .ok refs := by
    intro conflict hconflict
    obtain ⟨candidate, rfl⟩ := h conflict hconflict
    exact exists_counterRefs candidate
  obtain ⟨parts, hparts⟩ := exists_mapM_iff.mpr hrefs
  exact ⟨_, Transaction.bind_eq_ok.mpr ⟨parts, hparts, rfl⟩⟩

theorem mem_conflictSection {limit : ℕ} {candidates : List ConflictDict} {conflict : ConflictDict}
    (hlength : candidates.length ≤ limit) :
    conflict ∈ conflictSection limit candidates ↔
      ∃ candidate ∈ candidates, candidate.identified = conflict := by
  rw [conflictSection, List.take_of_length_le, mem_sortOn, List.mem_map]
  rwa [(perm_sortOn _).length_eq, List.length_map]

theorem speaksAgainst_evidenceRow (ref : Conflicts.ConflictEvidenceRef) :
    speaksAgainst (evidenceRow ref) = false ↔
      ref.role ≠ .counterfinding ∧ ref.role ≠ .contradicting := by
  have hrole (role : Conflicts.EvidenceRole) :
      (some role.label.toList).any (· ∈ counterRoles) = false ↔
        role ≠ .counterfinding ∧ role ≠ .contradicting := by
    cases role <;> decide
  exact hrole ref.role

end Counterfindings

section Service

variable {env : PackEnvironment} {db : Database} {request : BuildRequest}
  {workspaceId : WorkspaceId} {options : Retrieval.SearchOptions} {flags : Flags}
  {pack : ContextPack}

theorem conflictRows_allOn {found : List ConflictDict} :
    conflictRows env db (withFlags request allOn) workspaceId = .ok found ↔
      ∃ response, searchConflicts env db request workspaceId = .ok response ∧
        response.conflicts.map conflictDict = found := by
  have hon : conflictRows env db (withFlags request allOn) workspaceId =
      ((searchConflicts env db request workspaceId).mapError .database >>= fun response =>
        pure (response.conflicts.map conflictDict)) := rfl
  rw [hon]
  simp only [Transaction.bind_eq_ok, mapError_eq_ok, pure, Except.pure, Except.ok.injEq]

theorem length_of_searchConflicts {response : Conflicts.ConflictSearchResponse}
    (hlimit : 1 ≤ request.limit)
    (h : searchConflicts env db request workspaceId = .ok response) :
    response.conflicts.length ≤ request.limit := by
  rw [searchConflicts, Conflicts.searchConflictCandidates] at h
  split at h
  · cases h
  · cases h
    refine (List.length_take_le _ _).trans ?_
    unfold Conflicts.safeLimit
    omega

/-- The evidence of the conflicts that the search finds for a request speaks for neither side
of a counterfinding. -/
def NoCounterEvidence (env : PackEnvironment) (db : Database) (request : BuildRequest)
    (workspaceId : WorkspaceId) : Prop :=
  ∀ response, searchConflicts env db request workspaceId = .ok response →
    ∀ candidate ∈ response.conflicts, ∀ ref ∈ candidate.evidence,
      ref.role ≠ .counterfinding ∧ ref.role ≠ .contradicting

theorem noCounterEvidence_iff {response : Conflicts.ConflictSearchResponse}
    {refs : List ContextPackEvidenceRef} (hlimit : 1 ≤ request.limit)
    (hresponse : searchConflicts env db request workspaceId = .ok response)
    (hrefs : counterfindingsFromConflicts env.convert
      (conflictSection request.limit (response.conflicts.map conflictDict)) = .ok refs) :
    refs = [] ↔ NoCounterEvidence env db request workspaceId := by
  have hlength : (response.conflicts.map conflictDict).length ≤ request.limit := by
    rw [List.length_map]
    exact length_of_searchConflicts hlimit hresponse
  have hevidence (candidate : Conflicts.ConflictCandidate) :
      (conflictDict candidate).identified.evidence = candidate.evidence.map evidenceRow := by
    rw [ConflictDict.identified]
    split <;> rfl
  rw [counterfindings_eq_nil_iff hrefs]
  constructor
  · intro h response' hresponse' candidate hcandidate ref href
    obtain rfl := Except.ok.inj (hresponse.symm.trans hresponse')
    refine (speaksAgainst_evidenceRow ref).mp (h (conflictDict candidate).identified ?_ _ ?_)
    · exact (mem_conflictSection hlength).mpr ⟨_, List.mem_map_of_mem hcandidate, rfl⟩
    · exact hevidence candidate ▸ List.mem_map_of_mem href
  · intro h conflict hconflict row hrow
    obtain ⟨_, hdict, rfl⟩ := (mem_conflictSection hlength).mp hconflict
    obtain ⟨candidate, hcandidate, rfl⟩ := List.mem_map.mp hdict
    obtain ⟨ref, href, rfl⟩ := List.mem_map.mp (hevidence candidate ▸ hrow)
    exact (speaksAgainst_evidenceRow ref).mpr (h response hresponse candidate hcandidate ref href)

/-- Without such evidence every pack is built without counterfindings. -/
theorem counterfindings_of_noCounterEvidence (hlimit : 1 ≤ request.limit)
    (h : NoCounterEvidence env db request workspaceId)
    (hpack : packs env db request workspaceId options flags = .ok pack) :
    pack.counterfindings = [] := by
  obtain ⟨-, -, found, refs, -, -, hfound, hcounter, rfl⟩ :=
    buildContextPackForRequest_eq_ok.mp hpack
  have hrefs : refs = [] := by
    cases hflag : flags.counterfindings with
    | false =>
        rw [counterSection, if_neg (by simp [withFlags, hflag])] at hcounter
        exact (Except.ok.inj hcounter).symm
    | true =>
        rw [counterSection, if_pos (by simp [withFlags, hflag])] at hcounter
        rw [conflictRows_withFlags, hflag, Bool.or_true, if_pos rfl, conflictRows_allOn] at hfound
        obtain ⟨response, hresponse, rfl⟩ := hfound
        split at hcounter
        · exact (noCounterEvidence_iff hlimit hresponse hcounter).mpr h
        · exact (counterfindings_eq_nil_iff hcounter).mpr fun _ hconflict =>
            absurd (List.mem_of_mem_take hconflict) List.not_mem_nil
  change refs.take request.limit = []
  rw [hrefs, List.take_nil]

/-- The packs that are asked for counterfindings alone, with and without their conflicts. -/
theorem noCounterEvidence_of_independent (hlimit : 1 ≤ request.limit)
    (h : Independent (packs env db request workspaceId options) (·.counterfindings)
      (·.counterfindings)) :
    NoCounterEvidence env db request workspaceId := by
  intro response hresponse
  let conflicts := conflictSection request.limit (response.conflicts.map conflictDict)
  have hmade : ∀ conflict ∈ conflicts, ∃ candidate,
      (conflictDict candidate).identified = conflict := by
    intro conflict hconflict
    have hmem := mem_sortOn.mp (List.mem_of_mem_take hconflict)
    obtain ⟨_, hdict, rfl⟩ := List.mem_map.mp hmem
    obtain ⟨candidate, -, rfl⟩ := List.mem_map.mp hdict
    exact ⟨candidate, rfl⟩
  obtain ⟨refs, hrefs⟩ : ∃ refs, counterfindingsFromConflicts env.convert conflicts = .ok refs :=
    exists_counterfindings hmade
  have hfound := conflictRows_allOn.mpr ⟨response, hresponse, rfl⟩
  have hwith : packs env db request workspaceId options ⟨false, false, true, true⟩ =
      .ok (packOf request [] [] conflicts refs) :=
    buildContextPackForRequest_eq_ok.mpr ⟨[], [], _, refs, rfl, rfl, hfound, hrefs, rfl⟩
  have hnone : counterfindingsFromConflicts env.convert (conflictSection request.limit []) =
      .ok [] :=
    congrArg (counterfindingsFromConflicts env.convert) List.take_nil
  have hwithout : packs env db request workspaceId options ⟨false, false, false, true⟩ =
      .ok (packOf request [] [] (conflictSection request.limit []) []) :=
    buildContextPackForRequest_eq_ok.mpr ⟨[], [], _, [], rfl, rfl, hfound, hnone, rfl⟩
  have hsame : refs.take request.limit = [] :=
    (h.same _ _ _ _ hwith hwithout rfl rfl).trans List.take_nil
  have hnil : refs = [] := by
    rcases List.take_eq_nil_iff.mp hsame with hzero | hnil
    · omega
    · exact hnil
  exact (noCounterEvidence_iff hlimit hresponse hrefs).mp hnil response hresponse

end Service

def plainEnvironment : PackEnvironment :=
  { retrieval :=
      { chunkCreatedAt := fun _ => 0, distance := fun _ _ => 0,
        shortAliasMatches := fun _ _ => false, setOrder := fun _ => [],
        compositeScore := fun row _ => row.score,
        embeddingBackend := ⟨false, fun _ => {}⟩ }
    rowDict := fun row =>
      { contentId := some (GraphSnapshot.idText row.contentId), text := some row.text,
        score := some row.score }
    convert := ⟨fun _ => none, fun _ => none, fun _ => []⟩
    sha256Hex := id
    stateReasonText := fun _ => [] }

def globalRequest : BuildRequest := { scope := some "global".toList }

/-- Two contents that require the same thing and forbid it. -/
def opposingDatabase : Database :=
  { contentItems :=
      [{ contentId := 1, workspaceId := some 1 }, { contentId := 2, workspaceId := some 1 }],
    contentChunks :=
      [{ chunkId := 1, contentId := 1, workspaceId := some 1, chunkIndex := 0,
         chunkText := "must: cache".toList },
       { chunkId := 2, contentId := 2, workspaceId := some 1, chunkIndex := 0,
         chunkText := "must_not: cache".toList }] }

end MemoryLab.ContextPackService

import MemoryLab.Model.Ask
import MemoryLab.Verification.Answer.AskSeam
import MemoryLab.Verification.Answer.Citations
import MemoryLab.Verification.Retrieval.Scope

/-! # What an answer rests on

The rows of the retrieval carry nothing that the pack could refuse, so an answer fails only where
its search does. -/

namespace MemoryLab.Ask

open Library Library.Rows Evidence AskSeam
open Answer (WordClass accepts_of_providerBacked gateProviderAnswer)
open GraphSnapshot (idText)
open Retrieval (PermittedItem RetrievalRow permitted_search)

/-! ## Items of rows -/

theorem idText_ne_nil (id : ℕ) : idText id ≠ [] := Uuid.text_ne_nil _

theorem strip_idText (id : ℕ) : (idText id).strip = idText id := Uuid.strip_text _

/-- The keys that a reference takes from the metadata of an item. -/
def referenceKeys : List String :=
  ["memory_type", "memory_sub_type", "classify_confidence", "is_current", "current_state_scope"]

/-- An item whose metadata says nothing about its type or its state. -/
def Bare (item : EvidenceItem) : Prop :=
  ∀ name ∈ referenceKeys, (item.metadata.getD []).get name = .none

theorem getD_filter_isEmpty (dict : PyDict) :
    ((some dict).filter (!·.isEmpty)).getD [] = dict := by
  cases dict <;> rfl

theorem bare_toItem {row : EvidenceRow} (hmetadata : row.metadata = .none) (limit : ℕ)
    (contentId text : Text) (rank : ℕ) : Bare (row.toItem limit contentId text rank) := by
  intro name hname
  simp only [EvidenceRow.toItem, getD_filter_isEmpty, EvidenceRow.provenanceMetadata, hmetadata]
  rw [PyDict.get_foldl_putSome]
  · rfl
  · have hapart : ∀ name ∈ referenceKeys, ∀ path kind,
        name ∉ (row.provenance path kind).map (·.1) := by
      intro name hname path kind
      simp only [EvidenceRow.provenance, List.map_cons, List.map_nil]
      revert name
      decide
    exact hapart name hname _ _

section Accepted

variable {convert : ContextPackBuilder.Conversions}

theorem accepted_of_bare {item : EvidenceItem} (h : Bare item) : Accepted convert item where
  memoryType := .inl (h _ (by decide))
  memorySubType := .inl (h _ (by decide))
  classifyConfidence := .inl (h _ (by decide))
  isCurrent _ := .inl (h _ (by decide))
  currentStateScope _ := .inl (h _ (by decide))

theorem get_annotated {name : String} (item : EvidenceItem) (state : CurrentState)
    (hname : name ∉ ["is_current", "current_state_scope", "cs_supersedes_content_id"]) :
    ((annotated item state).metadata.getD []).get name = (item.metadata.getD []).get name := by
  simp only [List.mem_cons, List.not_mem_nil, or_false, not_or] at hname
  simp only [annotated, Option.getD_some]
  rw [PyDict.get_putSome_of_ne hname.2.2, PyDict.get_putSome_of_ne hname.2.1,
    PyDict.get_put_of_ne hname.1]

/-- The annotation adds the state of the content, of the types that the reference expects. -/
theorem accepted_annotated {item : EvidenceItem} (h : Bare item) {state : CurrentState}
    (hstate : state.isCurrent.isSome = true) : Accepted convert (annotated item state) where
  memoryType := .inl (by rw [get_annotated _ _ (by decide), h _ (by decide)])
  memorySubType := .inl (by rw [get_annotated _ _ (by decide), h _ (by decide)])
  classifyConfidence := .inl (by rw [get_annotated _ _ (by decide), h _ (by decide)])
  isCurrent hnone := by simp [show state.isCurrent = none from hnone] at hstate
  currentStateScope _ := by
    simp only [annotated, Option.getD_some]
    rw [PyDict.get_putSome_of_ne (by decide)]
    cases hscope : state.currentStateScope with
    | none =>
        refine .inl ?_
        simp only [PyDict.putSome, PyValue.ofText, Option.map_none, Option.getD_none,
          PyValue.isNone, if_true]
        rw [PyDict.get_put_of_ne (by decide), h _ (by decide)]
    | some scope =>
        refine .inr ⟨scope, ?_⟩
        simp [PyDict.putSome, PyValue.ofText, PyValue.isNone]

theorem accepted_annotate {item : EvidenceItem} (h : Bare item) (rows : Dict Text CurrentState) :
    Accepted convert (annotate rows item) := by
  unfold annotate
  split
  · rename_i state hstate
    exact accepted_annotated h (Option.filter_eq_some_iff.mp hstate).2
  · exact accepted_of_bare h

theorem accepted_ranked {items : List EvidenceItem} {entry : EvidenceItem × ℕ}
    (h : Accepted convert entry.1) : Accepted convert (ranked items entry) := by
  unfold ranked
  dsimp only
  split
  · exact ⟨h.memoryType, h.memorySubType, h.classifyConfidence, h.isCurrent, h.currentStateScope⟩
  · exact ⟨h.memoryType, h.memorySubType, h.classifyConfidence, h.isCurrent, h.currentStateScope⟩

end Accepted

/-! ## Where items come from -/

/-- An item is the one of a row, up to its rank and its state. -/
structure Reads (row : RetrievalRow) (item : EvidenceItem) : Prop where
  contentId : item.contentId = idText row.contentId
  snippet : item.snippet = cleanSnippet row.text.strip 320
  evidenceId : ∃ tail, item.evidenceId = "ev_".toList ++ (idText row.contentId ++ '_' :: tail)

theorem Reads.annotate {row : RetrievalRow} {item : EvidenceItem} (h : Reads row item)
    (rows : Dict Text CurrentState) : Reads row (annotate rows item) := by
  unfold Evidence.annotate
  split
  · exact ⟨h.contentId, h.snippet, h.evidenceId⟩
  · exact h

theorem Reads.ranked {row : RetrievalRow} {items : List EvidenceItem} {entry : EvidenceItem × ℕ}
    (h : Reads row entry.1) : Reads row (ranked items entry) := by
  unfold Evidence.ranked
  dsimp only
  split
  · exact ⟨h.contentId, h.snippet, h.evidenceId⟩
  · exact ⟨h.contentId, h.snippet, h.evidenceId⟩

theorem mem_reordered {items : List EvidenceItem} {item : EvidenceItem}
    (h : item ∈ reordered items) : ∃ old ∈ items, ∃ rank, item = ranked items (old, rank) := by
  obtain ⟨⟨old, rank⟩, hold, rfl⟩ := List.mem_map.mp h
  have hsorted : old ∈ sortOn (demoted items) items := List.fst_mem_of_mem_zipIdx hold
  exact ⟨old, (perm_sortOn items).subset hsorted, rank, rfl⟩

theorem mem_normalizeFrom {limit : ℕ} {seen : List Text} {rank : ℕ} {rows : List EvidenceRow}
    {item : EvidenceItem} (h : item ∈ normalizeFrom limit seen rank rows) :
    ∃ row ∈ rows, ∃ rank, item = row.toItem limit row.itemContentId row.itemText rank := by
  induction rows generalizing seen rank with
  | nil => cases h
  | cons row rows ih =>
      rw [normalizeFrom] at h
      split at h
      · obtain ⟨found, hfound, hitem⟩ := ih h
        exact ⟨found, .tail _ hfound, hitem⟩
      · rcases List.mem_cons.mp h with rfl | h
        · exact ⟨row, .head _, rank + 1, rfl⟩
        · obtain ⟨found, hfound, hitem⟩ := ih h
          exact ⟨found, .tail _ hfound, hitem⟩

section Service

variable {service : Service}

theorem itemContentId_evidenceRow (row : RetrievalRow) :
    (service.evidenceRow row).itemContentId = idText row.contentId := by
  simp [EvidenceRow.itemContentId, Service.evidenceRow, orElse, orText, Option.filter_some,
    idText_ne_nil, strip_idText]

theorem itemText_evidenceRow (row : RetrievalRow) :
    (service.evidenceRow row).itemText = row.text.strip := by
  by_cases htext : row.text = []
  · simp [EvidenceRow.itemText, Service.evidenceRow, orElse, orText, Option.filter_some, htext]
  · simp [EvidenceRow.itemText, Service.evidenceRow, orElse, orText, Option.filter_some, htext]

theorem reads_toItem (row : RetrievalRow) (rank : ℕ) :
    Reads row ((service.evidenceRow row).toItem 320 (idText row.contentId) row.text.strip rank)
    where
  contentId := rfl
  snippet := rfl
  evidenceId := by
    simp only [EvidenceRow.toItem]
    split
    · rename_i chunkId _
      exact ⟨chunkId, by simp⟩
    · exact ⟨(orText ((service.evidenceRow row).retrievalPath.getD none)
        "deterministic_db".toList).strip ++ '_' :: digits rank, by simp⟩

variable {request : Request} {query : Text} {results : List RetrievalRow}

theorem askEvidence_spec :
    ∀ item ∈ askEvidence service.reader service.databaseUrl query
      (service.policyFor request query) (results.map service.evidenceRow),
      Accepted service.convert item ∧ ∃ row ∈ results, Reads row item := by
  have hlimit : (service.policyFor request query).snippetCharLimit = 320 := by
    unfold Service.policyFor policyForIntent
    dsimp only
    split_ifs <;> rfl
  have hfresh : ∀ item ∈ normalizeEvidence ((results.map service.evidenceRow).take
      (service.policyFor request query).topK) 320,
      Bare item ∧ ∃ row ∈ results, Reads row item := by
    intro item hitem
    obtain ⟨found, hfound, rank, rfl⟩ := mem_normalizeFrom hitem
    obtain ⟨row, hrow, rfl⟩ := List.mem_map.mp (List.mem_of_mem_take hfound)
    rw [itemContentId_evidenceRow, itemText_evidenceRow]
    exact ⟨bare_toItem rfl _ _ _ _, row, hrow, reads_toItem row rank⟩
  rw [askEvidence, hlimit]
  apply enrich_cases (P := fun items => ∀ item ∈ items,
    Accepted service.convert item ∧ ∃ row ∈ results, Reads row item)
  · intro item hitem
    exact ⟨accepted_of_bare (hfresh item hitem).1, (hfresh item hitem).2⟩
  · intro rows item hitem
    obtain ⟨old, hold, rfl⟩ := List.mem_map.mp hitem
    obtain ⟨hbare, row, hrow, hreads⟩ := hfresh old hold
    exact ⟨accepted_annotate hbare rows, row, hrow, hreads.annotate rows⟩
  · intro items hitems item hitem
    obtain ⟨old, hold, rank, rfl⟩ := mem_reordered hitem
    obtain ⟨haccepted, row, hrow, hreads⟩ := hitems old hold
    exact ⟨accepted_ranked haccepted, row, hrow, hreads.ranked⟩

/-! ## Execution -/

/-- What holds of the evidence of an answer. -/
structure EvidenceSpec (service : Service) (topK : ℕ) (results : List RetrievalRow)
    (evidence : List EvidenceItem) : Prop where
  numbered : Numbered evidence
  length_le : evidence.length ≤ topK
  accepted : ∀ item ∈ evidence, Accepted service.convert item
  reads : ∀ item ∈ evidence, ∃ row ∈ results, Reads row item

theorem evidenceSpec (service : Service) (request : Request) (query : Text)
    (results : List RetrievalRow) :
    EvidenceSpec service (service.policyFor request query).topK results
      (service.relevantEvidence request query results) := by
  rw [Service.relevantEvidence]
  split
  · exact ⟨numbered_askEvidence _ _ _ _ _, length_askEvidence_le _ _ _ _ _,
      fun item hitem => (askEvidence_spec item hitem).1,
      fun item hitem => (askEvidence_spec item hitem).2⟩
  · exact ⟨numbered_nil, Nat.zero_le _, by simp, by simp⟩

theorem normalizedQuery_clean (request : AskRequest) :
    request.normalizedQuery = [] ∨ request.normalizedQuery.strip ≠ [] := by
  have hclean (s : Text) : s.strip = [] ∨ s.strip.strip ≠ [] := by
    have hagain : s.strip.strip = s.strip := (Text.trimmed_stripChars Text.isSpace s).stripChars_eq
    rw [hagain]
    exact em _
  unfold AskRequest.normalizedQuery
  dsimp only
  split_ifs
  · exact hclean _
  · exact hclean _
  · exact hclean _

/-- Where the search returns rows, the service answers. -/
theorem execute_eq (service : Service) (db : Database) (request : Request)
    (workspaceId : WorkspaceId) :
    service.execute db request workspaceId =
      ((service.searchRows db request workspaceId).mapError AskError.search).map fun results =>
        service.outcome request workspaceId results
          (service.relevantEvidence request request.normalizedQuery results) := by
  cases hrows : service.searchRows db request workspaceId with
  | error error =>
      rw [Service.execute, hrows]
      rfl
  | ok results =>
      have hspec := evidenceSpec service request request.normalizedQuery results
      obtain ⟨hlow, hhigh⟩ := topK_policyForIntent
        (detectIntent service.words request.normalizedQuery).intent.label.toList request.topK
      have hpack := (throughPack_eq_iff ⟨hlow, hhigh.trans (by decide)⟩ hspec.numbered
        hspec.length_le).mpr ⟨normalizedQuery_clean request.toAskRequest, hspec.accepted⟩
      refine Transaction.bind_eq_ok.mpr ⟨results, by rw [hrows]; rfl, ?_⟩
      refine Transaction.bind_eq_ok.mpr ⟨_, ?_, rfl⟩
      exact congrArg (Except.mapError AskError.pack) hpack

end Service

/-! ## Providers -/

/-- What of a response no provider has a say in. -/
structure Facts where
  intent : Intent
  confidence : ℚ
  citations : List Citation
  evidence : List EvidenceItem
  claims : List Claim
  insufficientEvidence : Bool
  workspaceId : WorkspaceId
  status : AskStatus

def AskResponse.facts (response : AskResponse) : Facts :=
  { intent := response.intent, confidence := response.confidence, citations := response.citations
    evidence := response.evidence, claims := response.claims
    insufficientEvidence := response.insufficientEvidence, workspaceId := response.workspaceId
    status := response.status }

theorem status_facts (response : AskResponse) : response.facts.status = response.status := rfl

theorem facts_withGateResult (response : AskResponse) (result : Answer.ProviderGateResult) :
    (withGateResult response result).facts = response.facts := by
  unfold withGateResult
  split <;> rfl

theorem facts_respond (service : Service) (request : Request) (workspaceId : WorkspaceId)
    (query : Text) (evidence : List EvidenceItem) :
    (service.respond request workspaceId query evidence).facts =
      (synthesizeAnswer request (detectIntent service.words query).intent evidence
        workspaceId).facts := by
  unfold Service.respond
  dsimp only
  split
  · exact facts_withGateResult _ _
  · rfl

/-- What of an event no provider has a say in. -/
def AskEvent.facts (event : AskEvent) :
    WorkspaceId × AuditPath × AskStatus × ℕ × Option RetrievalScope :=
  (event.workspaceId, event.retrievalPath, event.resultStatus, event.evidenceCount,
    event.requestedScope)

def AskOutcome.facts (outcome : AskOutcome) :=
  (outcome.response.facts, outcome.event.map (·.facts))

def Service.withProvider (service : Service) (enabled : Bool) (backend : Option Answer.LLMBackend) :
    Service :=
  { service with providerSynthesisEnabled := enabled, backend := backend }

theorem facts_outcome_withProvider (service : Service) (enabled : Bool)
    (backend : Option Answer.LLMBackend) (request : Request) (workspaceId : WorkspaceId)
    (results : List RetrievalRow) (evidence : List EvidenceItem) :
    ((service.withProvider enabled backend).outcome request workspaceId results evidence).facts =
      (service.outcome request workspaceId results evidence).facts := by
  have hresponse := (facts_respond (service.withProvider enabled backend) request workspaceId
    request.normalizedQuery evidence).trans
      (facts_respond service request workspaceId request.normalizedQuery evidence).symm
  have hstatus : ((service.withProvider enabled backend).respond request workspaceId
      request.normalizedQuery evidence).status =
        (service.respond request workspaceId request.normalizedQuery evidence).status := by
    rw [← status_facts, hresponse, status_facts]
  have hurl : (service.withProvider enabled backend).databaseUrl = service.databaseUrl := rfl
  simp only [AskOutcome.facts, Service.outcome, hurl, hresponse]
  split
  · rfl
  · simp only [Option.map_some, AskEvent.facts, askEvent, hstatus]

theorem gate_of_not_optedIn {words : WordClass} {request : Answer.GateRequest}
    (h : request.enableProviderSynthesis = false) :
    (gateProviderAnswer words request).mode = .deterministic := by
  simp [gateProviderAnswer, h]

theorem applyProviderAnswer_of_not_optedIn {words : WordClass} {enabled : Bool}
    {backend : Option Answer.LLMBackend} {response : AskResponse} {request : Request}
    (h : request.enableProviderSynthesis = false) (query : Text) (evidence : List EvidenceItem) :
    applyProviderAnswer words enabled backend response request query evidence = response := by
  rw [applyProviderAnswer, withGateResult, gate_of_not_optedIn (by exact h)]

/-- Whatever provider the service has, and whether it is enabled, an answer has the same
evidence, citations, claims, status and confidence; without the request's consent it is the same
answer. -/
theorem execute_withProvider (service : Service) (enabled : Bool)
    (backend : Option Answer.LLMBackend) (db : Database) (request : Request)
    (workspaceId : WorkspaceId) :
    ((service.withProvider enabled backend).execute db request workspaceId).map (·.facts) =
        (service.execute db request workspaceId).map (·.facts) ∧
      (request.enableProviderSynthesis = false →
        (service.withProvider enabled backend).execute db request workspaceId =
          service.execute db request workspaceId) := by
  have hrows : (service.withProvider enabled backend).searchRows db request workspaceId =
    service.searchRows db request workspaceId := rfl
  have hevidence (results : List RetrievalRow) : (service.withProvider enabled backend
      ).relevantEvidence request request.normalizedQuery results =
        service.relevantEvidence request request.normalizedQuery results := rfl
  rw [execute_eq, execute_eq, hrows]
  cases service.searchRows db request workspaceId with
  | error error =>
      simp only [Except.mapError, Except.map]
      exact ⟨trivial, fun _ => trivial⟩
  | ok results =>
      simp only [Except.mapError, Except.map, hevidence]
      have hfacts := facts_outcome_withProvider service enabled backend request workspaceId results
        (service.relevantEvidence request request.normalizedQuery results)
      refine ⟨by rw [hfacts], fun h => ?_⟩
      have hresponse (evidence : List EvidenceItem) : (service.withProvider enabled backend
          ).respond request workspaceId request.normalizedQuery evidence =
            service.respond request workspaceId request.normalizedQuery evidence := by
        have hwords : (service.withProvider enabled backend).words = service.words := rfl
        simp only [Service.respond, hwords, applyProviderAnswer_of_not_optedIn h]
      have hurl : (service.withProvider enabled backend).databaseUrl = service.databaseUrl := rfl
      simp only [Service.outcome, hresponse, hurl]

/-! ## Grounding -/

/-- A content that the request may be answered from. -/
structure InScope (db : Database) (request : Request) (workspaceId : WorkspaceId)
    (item : ContentItem) : Prop where
  mem : item ∈ db.contentItems
  workspace : item.workspaceId = some workspaceId
  memoryType : ∀ types, request.resolvedContentTypes = some types →
    ∃ type, item.memoryType = some type ∧ type.label.toList ∈ types
  hub : ∀ hubs, request.resolvedAllowedHubs = some hubs → ∃ link ∈ db.hubContent,
    link.contentId = item.contentId ∧ ∃ hub ∈ hubs, Uuid.parse hub = some link.hubId

/-- The text of an answer that no provider has worded. -/
def textOfClaims (claims : List Claim) : Text :=
  "Based only on retrieved workspace evidence: ".toList ++
    [' '].intercalate (claims.map fun c => '[' :: c.evidenceIds.flatten ++ "] ".toList ++ c.claim)

/-- A response cites contents of its scope, claims what it cites, and names nothing else. -/
structure Grounded (words : WordClass) (db : Database) (request : Request)
    (workspaceId : WorkspaceId) (response : AskResponse) : Prop where
  cited : ∀ citation ∈ response.citations, ∃ item, InScope db request workspaceId item ∧
    citation.contentId = idText item.contentId
  distinct : (response.citations.map (·.evidenceId)).Nodup
  claims : response.claims.map (·.evidenceIds) = response.citations.map ([·.evidenceId])
  bounded : (response.citations.length : ℤ) ≤ request.topK
  enough : response.status = .ok →
    max 1 (minEvidenceItems response.intent) ≤ response.citations.length
  refused : response.status ≠ .ok → response.citations = [] ∧ response.confidence = 0
  kept : response.status = .ok → response.mode ≠ .providerBacked →
    response.answer = textOfClaims response.claims
  named : response.mode = .providerBacked → ∀ contentId tail,
    Answer.Cites words response.answer (Answer.MintedId.evidence contentId tail).text →
      (Answer.MintedId.evidence contentId tail).text ∈ response.citations.map (·.evidenceId)

theorem resolved_ne_nil (request : AskCall) :
    (∀ types, request.resolvedContentTypes = some types → types ≠ []) ∧
      ∀ hubs, request.resolvedAllowedHubs = some hubs → hubs ≠ [] := by
  have hvalid := request.valid
  simp only [Request.accepted, Bool.and_eq_true, Option.all_eq_true] at hvalid
  have hscope := hvalid.1.2
  constructor
  · intro types htypes
    rcases Option.or_eq_some_iff.mp htypes with hscoped | ⟨-, hlegacy⟩
    · obtain ⟨scope, hsome, hcontent⟩ := Option.bind_eq_some_iff.mp hscoped
      have haccepted := hscope scope hsome
      simp only [RetrievalScope.accepted, Bool.and_eq_true, Option.all_eq_true] at haccepted
      exact of_decide_eq_true (haccepted.2 types hcontent).1
    · rw [Request.resolvedMemoryTypes] at hlegacy
      simpa using (Option.filter_eq_some_iff.mp hlegacy).2
  · intro hubs hhubs
    obtain ⟨scope, hsome, hallowed⟩ := Option.bind_eq_some_iff.mp hhubs
    have haccepted := hscope scope hsome
    simp only [RetrievalScope.accepted, Bool.and_eq_true, Option.all_eq_true] at haccepted
    simpa using haccepted.1 hubs hallowed

theorem topK_le (request : AskCall) (intent : Text) :
    ((policyForIntent intent request.topK).topK : ℤ) ≤ request.topK := by
  have hvalid := request.valid
  simp only [Request.accepted, Bool.and_eq_true, decide_eq_true_eq] at hvalid
  obtain ⟨⟨⟨hlow, hhigh⟩, -⟩, -⟩ := hvalid
  unfold policyForIntent
  dsimp only
  split_ifs <;> dsimp only <;> omega

/-! ### Identifiers of evidence -/

theorem length_idText (id : ℕ) : (idText id).length = 36 := by
  simp [idText, Uuid.text, Uuid.length_hexDigits]

/-- Evidence of different contents has different identifiers. -/
theorem nodup_evidenceIds {results : List RetrievalRow} {evidence : List EvidenceItem}
    (hnodup : (evidence.map (·.contentId)).Nodup)
    (hreads : ∀ item ∈ evidence, ∃ row ∈ results, Reads row item) :
    (evidence.map (·.evidenceId)).Nodup := by
  apply List.Nodup.map_on _ (List.Nodup.of_map _ hnodup)
  intro item hitem other hother hsame
  obtain ⟨row, -, hrow⟩ := hreads item hitem
  obtain ⟨next, -, hnext⟩ := hreads other hother
  obtain ⟨tail, htail⟩ := hrow.evidenceId
  obtain ⟨rest, hrest⟩ := hnext.evidenceId
  rw [htail, hrest] at hsame
  have hcontent : idText row.contentId = idText next.contentId :=
    (List.append_inj (List.append_cancel_left hsame)
      (by rw [length_idText, length_idText])).1
  apply List.inj_on_of_nodup_map hnodup hitem hother
  rw [hrow.contentId, hnext.contentId, hcontent]

/-! ### Responses -/

section Response

variable {service : Service} {db : Database} {workspaceId : WorkspaceId}
  {results : List RetrievalRow} {evidence : List EvidenceItem}

/-- What a response can be. -/
theorem respond_cases {request : Request} {query : Text} {P : AskResponse → Prop}
    (hunsupported : ∀ intent, P (unsupportedIntentResponse intent workspaceId))
    (hinsufficient : ∀ intent, P (insufficientEvidenceResponse intent evidence
      request.includeEvidence workspaceId))
    (hok : ∀ intent, max 1 (minEvidenceItems intent) ≤ evidence.length →
      P (applyProviderAnswer service.words service.providerSynthesisEnabled service.backend
        (successfulAskResponse intent evidence request.includeEvidence workspaceId)
        request query evidence)) :
    P (service.respond request workspaceId query evidence) := by
  rw [Service.respond]
  generalize (detectIntent service.words query).intent = intent
  by_cases hunknown : intent = .unknown ∨ request.normalizedQuery = []
  · have hstatus : (unsupportedIntentResponse intent workspaceId).status ≠ .ok := nofun
    rw [synthesizeAnswer, if_pos hunknown, if_neg hstatus]
    exact hunsupported intent
  · by_cases hfew : evidence.length < max 1 (minEvidenceItems intent)
    · have hstatus : (insufficientEvidenceResponse intent evidence request.includeEvidence
        workspaceId).status ≠ .ok := nofun
      rw [synthesizeAnswer, if_neg hunknown, if_pos hfew, if_neg hstatus]
      exact hinsufficient intent
    · have hstatus : (successfulAskResponse intent evidence request.includeEvidence
        workspaceId).status = .ok := rfl
      rw [synthesizeAnswer, if_neg hunknown, if_neg hfew, if_pos hstatus]
      exact hok intent (not_lt.mp hfew)

theorem inScope_of_mem {request : AskCall}
    (hresults : service.searchRows db request.toRequest workspaceId = .ok results)
    {row : RetrievalRow} (hrow : row ∈ results) :
    ∃ item, InScope db request.toRequest workspaceId item ∧ item.contentId = row.contentId := by
  obtain ⟨-, item, hitem, hid⟩ := permitted_search rfl hresults row hrow
  obtain ⟨htypes, hhubs⟩ := resolved_ne_nil request
  exact ⟨item, ⟨hitem.mem, hitem.workspace,
    fun types h => hitem.memoryType types h (htypes types h),
    fun hubs h => hitem.hub hubs h (hhubs hubs h)⟩, hid⟩

/-- The gate leaves the text, or puts one that it has accepted. -/
theorem withGateResult_answer (words : WordClass) (request : Answer.GateRequest)
    {response : AskResponse} (hmode : response.mode = .deterministic) :
    let next := withGateResult response (gateProviderAnswer words request)
    (next.mode ≠ .providerBacked → next.answer = response.answer) ∧
      (next.mode = .providerBacked → Answer.Accepts words request ∧
        next.answer = request.response.text.strip) := by
  intro next
  cases hgate : (gateProviderAnswer words request).mode with
  | deterministic => simp [next, withGateResult, hgate, hmode]
  | degraded => simp [next, withGateResult, hgate]
  | providerBacked =>
      have haccepts := accepts_of_providerBacked words hgate
      have hworded := (Answer.gateProviderAnswer_of_accepts words haccepts).2
      simp [next, withGateResult, hgate, haccepts, hworded]

theorem textOfClaims_claimsFromEvidence (evidence : List EvidenceItem) :
    textOfClaims (claimsFromEvidence evidence) = answerTextFromEvidence evidence := by
  have hlines : (claimsFromEvidence evidence).map (fun c =>
      '[' :: c.evidenceIds.flatten ++ "] ".toList ++ c.claim) =
        evidence.map fun e => '[' :: e.evidenceId ++ "] ".toList ++ e.snippet := by
    rw [claimsFromEvidence, List.map_map]
    apply List.map_congr_left
    simp
  unfold textOfClaims answerTextFromEvidence
  exact congrArg (fun lines => "Based only on retrieved workspace evidence: ".toList ++
    [' '].intercalate lines) hlines

theorem grounded_of_refused {words : WordClass} {request : Request} {response : AskResponse}
    (hpos : 0 ≤ request.topK) (hstatus : response.status ≠ .ok)
    (hmode : response.mode = .deterministic) (hcitations : response.citations = [])
    (hclaims : response.claims = []) (hconfidence : response.confidence = 0) :
    Grounded words db request workspaceId response where
  cited := by simp [hcitations]
  distinct := by simp [hcitations]
  claims := by simp [hcitations, hclaims]
  bounded := by simpa [hcitations] using hpos
  enough h := absurd h hstatus
  refused _ := ⟨hcitations, hconfidence⟩
  kept h := absurd h hstatus
  named h := by simp [hmode] at h

theorem grounded_withGateResult {request : AskCall} {topK : ℕ}
    (hresults : service.searchRows db request.toRequest workspaceId = .ok results)
    (hspec : EvidenceSpec service topK results evidence) (htopK : (topK : ℤ) ≤ request.topK)
    {intent : Intent} (henough : max 1 (minEvidenceItems intent) ≤ evidence.length)
    {response : AskResponse} (hresponse : response =
      successfulAskResponse intent evidence request.includeEvidence workspaceId)
    {gate : Answer.GateRequest} (hallowed : gate.allowedEvidenceIds = evidence.map (·.evidenceId)) :
    Grounded service.words db request.toRequest workspaceId
      (withGateResult response (gateProviderAnswer service.words gate)) := by
  have hfacts := facts_withGateResult response (gateProviderAnswer service.words gate)
  rw [congrArg AskResponse.facts hresponse] at hfacts
  have hmode : response.mode = .deterministic := congrArg AskResponse.mode hresponse
  have hanswer : response.answer = answerTextFromEvidence evidence :=
    congrArg AskResponse.answer hresponse
  obtain ⟨hkept, hnamed⟩ := withGateResult_answer service.words gate hmode
  generalize withGateResult response (gateProviderAnswer service.words gate) = next at *
  have hcitations : next.citations = citationsFromEvidence evidence :=
    congrArg Facts.citations hfacts
  have hclaims : next.claims = claimsFromEvidence evidence := congrArg Facts.claims hfacts
  have hstatus : next.status = .ok := congrArg Facts.status hfacts
  have hintent : next.intent = intent := congrArg Facts.intent hfacts
  have hids : next.citations.map (·.evidenceId) = evidence.map (·.evidenceId) := by
    simp [hcitations, citationsFromEvidence, Function.comp_def]
  have hlength : next.citations.length = evidence.length := by
    simp [hcitations, citationsFromEvidence]
  constructor
  · rw [hcitations]
    intro citation hcitation
    obtain ⟨item, hitem, rfl⟩ := List.mem_map.mp hcitation
    obtain ⟨row, hrow, hreads⟩ := hspec.reads item hitem
    obtain ⟨content, hcontent, hid⟩ := inScope_of_mem hresults hrow
    exact ⟨content, hcontent, hid ▸ hreads.contentId⟩
  · rw [hids]
    exact nodup_evidenceIds hspec.numbered.contents hspec.reads
  · simp [hcitations, hclaims, citationsFromEvidence, claimsFromEvidence]
  · rw [hlength]
    exact (Int.ofNat_le.mpr hspec.length_le).trans htopK
  · rw [hlength, hintent]
    exact fun _ => henough
  · exact fun hother => absurd hstatus hother
  · rw [hclaims, textOfClaims_claimsFromEvidence, ← hanswer]
    exact fun _ => hkept
  · intro hproviderBacked contentId tail hcites
    obtain ⟨haccepts, hworded⟩ := hnamed hproviderBacked
    rw [hworded] at hcites
    rw [hids, ← hallowed]
    exact haccepts.mem_allowed _ hcites

theorem grounded_respond {request : AskCall} {topK : ℕ}
    (hresults : service.searchRows db request.toRequest workspaceId = .ok results)
    (hspec : EvidenceSpec service topK results evidence) (htopK : (topK : ℤ) ≤ request.topK)
    (query : Text) :
    Grounded service.words db request.toRequest workspaceId
      (service.respond request.toRequest workspaceId query evidence) := by
  have hpos : 0 ≤ request.topK := (Int.natCast_nonneg topK).trans htopK
  apply respond_cases
  · exact fun intent => grounded_of_refused hpos nofun rfl rfl rfl rfl
  · exact fun intent => grounded_of_refused hpos nofun rfl rfl rfl rfl
  · exact fun intent henough => grounded_withGateResult hresults hspec htopK henough rfl rfl

end Response

/-! ## The audit -/

/-- An event says of a response what it is. -/
structure Audited (service : Service) (request : Request) (response : AskResponse)
    (event : AskEvent) : Prop where
  result : event.resultStatus = response.status ∧ event.resultMode = response.mode ∧
    event.degraded = response.degraded
  counted : response.status = .ok → event.evidenceCount = response.citations.length
  noContext : event.retrievalPath = .noContext ↔ event.evidenceCount = 0
  answered : response.status = .ok → event.retrievalPath ≠ .noContext
  rescued : event.retrievalPath ≠ .graphRescueZero
  provider : event.providerUsed = true → response.status = .ok ∧ event.degraded = false ∧
    request.enableProviderSynthesis = true ∧ service.providerSynthesisEnabled = true
  degraded : event.degraded = true ↔ response.failureReason.isSome = true
  unexplained : event.degradedReason = none

theorem deriveRetrievalPath_spec (metrics : Option StageMetrics) (count : ℕ) :
    (deriveRetrievalPath metrics count = .noContext ↔ count = 0) ∧
      deriveRetrievalPath metrics count ≠ .graphRescueZero := by
  unfold deriveRetrievalPath
  by_cases hcount : count = 0
  · simp [hcount]
  · have hpos : 0 < count := Nat.pos_of_ne_zero hcount
    rw [if_neg hcount]
    cases metrics with
    | none => simp [hcount]
    | some metrics =>
        dsimp only
        rw [if_pos hpos]
        split_ifs <;> simp [hcount]

theorem failureReason_gateProviderAnswer {words : WordClass} {request : Answer.GateRequest}
    (h : (gateProviderAnswer words request).mode = .degraded) :
    (gateProviderAnswer words request).failureReason.isSome = true := by
  unfold gateProviderAnswer at h ⊢
  dsimp only at h ⊢
  split_ifs at h ⊢
  all_goals rfl

theorem audited_of_refused {service : Service} {request : Request} {workspaceId : WorkspaceId}
    {results : List RetrievalRow} {evidence : List EvidenceItem} {response : AskResponse}
    (hstatus : response.status ≠ .ok) (hmode : response.mode = .deterministic)
    (hdegraded : response.degraded = true) (hreason : response.failureReason.isSome = true) :
    Audited service request response (askEvent request workspaceId results evidence response) where
  result := ⟨rfl, rfl, rfl⟩
  counted h := absurd h hstatus
  noContext := (deriveRetrievalPath_spec (stageMetrics results) evidence.length).1
  answered h := absurd h hstatus
  rescued := (deriveRetrievalPath_spec (stageMetrics results) evidence.length).2
  provider h := by simp [askEvent, hmode] at h
  degraded := iff_of_true hdegraded hreason
  unexplained := rfl

theorem audited_withGateResult {service : Service} {request : Request} {workspaceId : WorkspaceId}
    {results : List RetrievalRow} {evidence : List EvidenceItem} {intent : Intent}
    (hne : evidence ≠ []) {response : AskResponse} (hresponse : response =
      successfulAskResponse intent evidence request.includeEvidence workspaceId)
    {gate : Answer.GateRequest} (hoptedIn : gate.enableProviderSynthesis =
      request.enableProviderSynthesis)
    (henabled : gate.providerSynthesisEnabled = service.providerSynthesisEnabled) :
    let next := withGateResult response (gateProviderAnswer service.words gate)
    Audited service request next (askEvent request workspaceId results evidence next) := by
  intro next
  have hfacts := facts_withGateResult response (gateProviderAnswer service.words gate)
  rw [congrArg AskResponse.facts hresponse] at hfacts
  have hstatus : next.status = .ok := congrArg Facts.status hfacts
  have hcitations : next.citations = citationsFromEvidence evidence :=
    congrArg Facts.citations hfacts
  have hmode : response.mode = .deterministic := congrArg AskResponse.mode hresponse
  have hdegraded : response.degraded = false := congrArg AskResponse.degraded hresponse
  have hreason : response.failureReason = none := congrArg AskResponse.failureReason hresponse
  have hlength : evidence.length ≠ 0 := fun h => hne (List.length_eq_zero_iff.mp h)
  have hpath := deriveRetrievalPath_spec (stageMetrics results) evidence.length
  constructor
  · exact ⟨rfl, rfl, rfl⟩
  · intro _
    simp [askEvent, hcitations, citationsFromEvidence]
  · exact hpath.1
  · exact fun _ h => hlength (hpath.1.mp h)
  · exact hpath.2
  · intro hused
    have hbacked : next.mode = .providerBacked := by simpa [askEvent] using hused
    have haccepts := ((withGateResult_answer service.words gate hmode).2 hbacked).1
    refine ⟨hstatus, ?_, hoptedIn ▸ haccepts.optedIn, henabled ▸ haccepts.enabled⟩
    have hgate := (Answer.gateProviderAnswer_of_accepts service.words haccepts).1
    simp [next, askEvent, withGateResult, hgate, hdegraded]
  · cases hgate : (gateProviderAnswer service.words gate).mode with
    | deterministic => simp [next, askEvent, withGateResult, hgate, hdegraded, hreason]
    | providerBacked => simp [next, askEvent, withGateResult, hgate, hdegraded, hreason]
    | degraded =>
        have hfailure := failureReason_gateProviderAnswer hgate
        simp [next, askEvent, withGateResult, hgate, hfailure]
  · rfl

end MemoryLab.Ask

import Mathlib.Data.List.Flatten
import MemoryLab.Verification.Persistence.StateRoundTrip

/-! # The event stream of the two backends -/

namespace MemoryLab.Persistence

open Library Library.Rows Governance

variable {M : Type}

/-! ## Decoding a payload -/

theorem eventType_of_valid {event : GovernanceStateEventContract M}
    (h : validateGovernanceStateEventContract event = []) :
    event.eventType = stateEventType ∧ event.workspaceId ≠ [] ∧
      event.recordRef.workspaceId ≠ [] := by
  simp only [validateGovernanceStateEventContract, distinctOn_eq_nil, List.append_eq_nil_iff,
    validateRecordRef, required_eq_nil] at h
  obtain ⟨⟨⟨⟨⟨⟨⟨⟨-, href⟩, -⟩, hboundary⟩, htype⟩, -⟩, -⟩, -⟩, -⟩ := h
  refine ⟨?_, ?_, ?_⟩
  · by_contra hne
    rw [if_pos hne] at htype
    cases htype
  · intro hempty
    rw [hempty] at hboundary
    cases hboundary
  · intro hempty
    rw [hempty] at href
    exact href rfl

section Decoding

variable [EmptyCollection M]

/-- An event whose missing metadata is the empty mapping. -/
def withEventMapping (event : GovernanceStateEventContract M) : GovernanceStateEventContract M :=
  { event with provenance := withMapping event.provenance }

/-- Metadata that a JSON column gives back. -/
def JsonData (env : Environment M) (event : GovernanceStateEventContract M) : Prop :=
  env.jsonb (Postgres.metadataOf event.provenance) = some (Postgres.metadataOf event.provenance)

theorem textOr_of_ne_nil {first : Text} (h : first ≠ []) (second : Option Text) :
    Postgres.textOr (some first) second = first := by
  simp [Postgres.textOr, Option.filter, h]

/-- The payload of a valid event decodes to the event. -/
theorem governanceEventFromMapping_toDict {event : GovernanceStateEventContract M}
    (h : validateGovernanceStateEventContract event = []) :
    Postgres.governanceEventFromMapping (Postgres.governanceEventToDict event) =
      withEventMapping event := by
  obtain ⟨htype, hworkspace, href⟩ := eventType_of_valid h
  have hne : event.eventType ≠ [] := by
    rw [htype]
    decide
  simp only [Postgres.governanceEventFromMapping, Postgres.governanceEventToDict,
    textOr_of_ne_nil hworkspace, textOr_of_ne_nil href, textOr_of_ne_nil hne]
  rfl

theorem jsonbProvenance_eq_some {env : Environment M} {provenance : GovernanceProvenance M}
    {payload : ProvenanceMapping M}
    (hjson : env.jsonb (Postgres.metadataOf provenance) = some (Postgres.metadataOf provenance))
    (h : Postgres.jsonbProvenance env (Postgres.provenanceToDict provenance) = some payload) :
    payload = Postgres.provenanceToDict provenance := by
  rw [Postgres.jsonbProvenance_toDict, hjson] at h
  split at h
  · exact (Option.some.inj h).symm
  · cases h

/-- What the payload column holds of an event. -/
theorem jsonbEvent_eq_some {env : Environment M} {event : GovernanceStateEventContract M}
    {payload : EventMapping M} (hjson : JsonData env event)
    (h : Postgres.jsonbEvent env (Postgres.governanceEventToDict event) = some payload) :
    payload = Postgres.governanceEventToDict event := by
  rw [Postgres.jsonbEvent] at h
  split at h
  · cases h
  · obtain ⟨provenance, hprovenance, rfl⟩ := Option.map_eq_some_iff.mp h
    rw [jsonbProvenance_eq_some hjson hprovenance]
    rfl

end Decoding

/-! ## A run of appends -/

/-- A call, with the time and the identifier that the database would give its row. -/
structure Append (M : Type) where
  stamp : Postgres.Stamp
  event : GovernanceStateEventContract M
deriving DecidableEq

namespace Postgres

variable [EmptyCollection M]

/-- The store after a call, with the events whose append has reported success. -/
def appendStep (env : Environment M)
    (progress : GovernanceStore M × List (GovernanceStateEventContract M)) (call : Append M) :
    GovernanceStore M × List (GovernanceStateEventContract M) :=
  match appendGovernanceEvent env progress.1 call.stamp call.event with
  | (next, .ok event) => (next, progress.2 ++ [event])
  | (next, .error _) => (next, progress.2)

def appendAll (env : Environment M) (db : GovernanceStore M) (calls : List (Append M)) :
    GovernanceStore M × List (GovernanceStateEventContract M) :=
  calls.foldl (appendStep env) (db, [])

/-- The row of an appended event. -/
structure RowOf (env : Environment M) (call : Append M) (row : StoredGovernanceEvent M) : Prop where
  eventType : row.eventType = stateEventType
  workspace : row.workspaceId = Uuid.parse call.event.workspaceId
  recordId : row.recordId = some call.event.recordRef.recordId
  contentId : castUuid call.event.recordRef.contentId = some row.contentId
  previousTier : row.previousTier = call.event.previousTier
  triggerSource : row.triggerSource = .mcp
  createdAt : row.createdAt = call.stamp.createdAt
  payload : jsonbEvent env (governanceEventToDict call.event) = some row.eventPayload
  valid : validateGovernanceStateEventContract call.event = []

/-- An append inserts the row of its event, or reports an error and inserts none. -/
theorem appendGovernanceEvent_cases (env : Environment M) (db : GovernanceStore M)
    (call : Append M) :
    (∃ next row, appendGovernanceEvent env db call.stamp call.event = (next, .ok call.event) ∧
      next.governanceEvents = db.governanceEvents ++ [row] ∧ RowOf env call row) ∨
    ∃ error, appendGovernanceEvent env db call.stamp call.event = (db, .error error) := by
  rw [appendGovernanceEvent]
  split
  · rename_i hvalid
    split
    · split
      · exact .inr ⟨_, rfl⟩
      · split
        · exact .inr ⟨_, rfl⟩
        · rename_i next hwrite
          left
          rw [writeEvent] at hwrite
          split at hwrite
          · rename_i workspaceId contentId hworkspace hcontent
            split at hwrite
            · cases hwrite
            · split at hwrite
              · cases hwrite
              · rename_i payload hpayload
                split at hwrite
                · cases hwrite
                · cases hwrite
                  exact ⟨_, _, rfl, rfl, rfl, hworkspace.symm, rfl, hcontent, rfl, rfl, rfl,
                    hpayload, hvalid⟩
          · cases hwrite
    · exact .inr ⟨_, rfl⟩
  · exact .inr ⟨_, rfl⟩

/-- A run of appends adds the rows of the events that it has reported, in their order. -/
theorem appendAll_rows (env : Environment M) (db : GovernanceStore M) (calls : List (Append M)) :
    ∃ (kept : List (Append M)) (rows : List (StoredGovernanceEvent M)), kept.Sublist calls ∧
      (appendAll env db calls).2 = kept.map (·.event) ∧
        (appendAll env db calls).1.governanceEvents = db.governanceEvents ++ rows ∧
          List.Forall₂ (RowOf env) kept rows := by
  induction calls using List.reverseRecOn with
  | nil => exact ⟨[], [], List.Sublist.refl _, rfl, (List.append_nil _).symm, .nil⟩
  | append_singleton calls call ih =>
      obtain ⟨kept, rows, hkept, hdone, hrows, hall⟩ := ih
      have hstep : appendAll env db (calls ++ [call]) =
          appendStep env (appendAll env db calls) call := by
        simp [appendAll]
      rw [hstep]
      rcases appendGovernanceEvent_cases env (appendAll env db calls).1 call with
        ⟨next, row, happend, hnext, hrow⟩ | ⟨error, happend⟩
      · refine ⟨kept ++ [call], rows ++ [row], hkept.append_right [call], ?_, ?_, ?_⟩
        · simp [appendStep, happend, hdone]
        · simp [appendStep, happend, hnext, hrows]
        · exact List.rel_append hall (.cons hrow .nil)
      · refine ⟨kept, rows, hkept.trans (List.sublist_append_left _ _), ?_, ?_, hall⟩
        · simp [appendStep, happend, hdone]
        · simp [appendStep, happend, hrows]

theorem RowOf.decodes {env : Environment M} {call : Append M} {row : StoredGovernanceEvent M}
    (h : RowOf env call row) (hjson : JsonData env call.event) :
    governanceEventFromMapping row.eventPayload = withEventMapping call.event := by
  rw [jsonbEvent_eq_some hjson h.payload, governanceEventFromMapping_toDict h.valid]

/-- The events that a listing asks for. -/
def isWanted (workspaceId : Uuid) (recordId : Option Text)
    (event : GovernanceStateEventContract M) : Bool :=
  Uuid.parse event.workspaceId == some workspaceId &&
    recordId.all fun wanted => event.recordRef.recordId == wanted

theorem RowOf.isListed_eq {env : Environment M} {call : Append M} {row : StoredGovernanceEvent M}
    (h : RowOf env call row) (workspaceId : Uuid) (recordId : Option Text) :
    isListed workspaceId recordId row = isWanted workspaceId recordId call.event := by
  cases recordId with
  | none => simp [isListed, isWanted, h.workspace, h.eventType]
  | some wanted => simp [isListed, isWanted, h.workspace, h.eventType, h.recordId]

/-- Decoding the listed rows of a run gives its wanted events. -/
theorem map_filter_rows {env : Environment M} {kept : List (Append M)}
    {rows : List (StoredGovernanceEvent M)} (h : List.Forall₂ (RowOf env) kept rows)
    (hjson : ∀ call ∈ kept, JsonData env call.event) (workspaceId : Uuid)
    (recordId : Option Text) :
    (rows.filter (isListed workspaceId recordId)).map
        (fun row => governanceEventFromMapping row.eventPayload) =
      ((kept.map (·.event)).filter (isWanted workspaceId recordId)).map withEventMapping := by
  induction h with
  | nil => rfl
  | @cons call row kept rows hrow hrest ih =>
      have hhead := hjson call List.mem_cons_self
      have htail := ih fun other hother => hjson other (List.mem_cons_of_mem _ hother)
      rw [List.map_cons, List.filter_cons, List.filter_cons, hrow.isListed_eq]
      cases isWanted workspaceId recordId call.event with
      | true => simp [htail, hrow.decodes hhead]
      | false => simpa using htail

/-- What a listing returns is decided by the rows it selects. -/
theorem listGovernanceEvents_eq_ok {db : GovernanceStore M} {workspaceId : Text}
    {recordId : Option Text} {listed : List (GovernanceStateEventContract M)}
    (h : listGovernanceEvents db workspaceId recordId = .ok listed) :
    ∃ w, Uuid.parse workspaceId = some w ∧ ∀ other : GovernanceStore M,
      listGovernanceEvents other workspaceId recordId = .ok
        ((sortOn listingKey (other.governanceEvents.filter (isListed w recordId))).map fun row =>
          governanceEventFromMapping row.eventPayload) := by
  unfold listGovernanceEvents at h ⊢
  cases hvalid : validateWorkspaceUuid workspaceId with
  | error error =>
      rw [hvalid] at h
      cases h
  | ok _ =>
      rw [hvalid] at h
      simp only at h ⊢
      split at h
      · cases h
      · rename_i hrecord
        cases hparse : Uuid.parse workspaceId with
        | none =>
            rw [hparse] at h
            cases h
        | some w => exact ⟨w, rfl, fun other => by rw [if_neg hrecord]⟩

end Postgres

/-- Equal events, where a missing metadata mapping is the empty one. -/
def SameEvent [EmptyCollection M] (first second : GovernanceStateEventContract M) : Prop :=
  withEventMapping first = withEventMapping second

section Listings

/-- The key of an event in its workspace. -/
def recordKey (event : GovernanceStateEventContract M) : Text := event.recordRef.recordId.strip

namespace Memory

def appendAll (store : EventStore M) (events : List (GovernanceStateEventContract M)) :
    EventStore M :=
  events.foldl (fun store event => (appendGovernanceEvent store event).1) store

/-- Valid events are grouped by workspace and record. -/
theorem appendAll_of_valid {events : List (GovernanceStateEventContract M)}
    (h : ∀ event ∈ events, validateGovernanceStateEventContract event = []) :
    appendAll [] events = Dict.groupBy eventKey events := by
  induction events using List.reverseRecOn with
  | nil => rfl
  | append_singleton events event ih =>
      have hinit : ∀ other ∈ events, validateGovernanceStateEventContract other = [] :=
        fun other hother => h other (List.mem_append_left _ hother)
      have hvalid := h event (List.mem_append_right _ List.mem_cons_self)
      have hboundary : validateWorkspaceBoundary [event.recordRef] event.workspaceId = [] := by
        have hparts := hvalid
        simp only [validateGovernanceStateEventContract, distinctOn_eq_nil,
          List.append_eq_nil_iff] at hparts
        exact hparts.1.1.1.1.1.2
      have hlast : ∀ store : EventStore M, (appendGovernanceEvent store event).1 =
          store.modify (eventKey event) fun old => old.getD [] ++ [event] := by
        intro store
        simp only [appendGovernanceEvent, hvalid, hboundary]
      rw [appendAll, List.foldl_append, List.foldl_cons, List.foldl_nil, hlast,
        Dict.groupBy_append_singleton, ← ih hinit, appendAll]

/-- The record of the events in a bucket. -/
theorem recordKey_of_mem {events bucket : List (GovernanceStateEventContract M)}
    {key : Text × Text} (hbucket : (key, bucket) ∈ Dict.groupBy eventKey events)
    {event : GovernanceStateEventContract M} (h : event ∈ bucket) : recordKey event = key.2 := by
  obtain ⟨-, rfl⟩ := Dict.mem_groupBy.mp hbucket
  rw [List.mem_filter, decide_eq_true_eq] at h
  rw [← h.2]
  rfl

/-- What a bucket of a workspace holds of a record. -/
theorem filter_bucket {events bucket : List (GovernanceStateEventContract M)} {w r record : Text}
    (hbucket : ((w, record), bucket) ∈ Dict.groupBy eventKey events) :
    bucket.filter (fun event => decide (recordKey event = r)) =
      if decide ((w, record) = (w, r)) then bucket else [] := by
  have hrecord : ∀ event ∈ bucket, recordKey event = record :=
    fun event hevent => recordKey_of_mem hbucket hevent
  by_cases hr : record = r
  · rw [hr] at hrecord ⊢
    rw [decide_eq_true rfl, if_pos rfl, List.filter_eq_self]
    exact fun event hevent => decide_eq_true (hrecord event hevent)
  · rw [if_neg (by simpa using hr), List.filter_eq_nil_iff]
    intro event hevent
    rw [decide_eq_true_eq, hrecord event hevent]
    exact hr

/-- The listing of a workspace orders its events by their records. -/
theorem listGovernanceEvents_groupBy (events : List (GovernanceStateEventContract M)) (w : Uuid) :
    listGovernanceEvents (Dict.groupBy eventKey events) w.text =
      .ok (sortOn recordKey (events.filter fun event => event.workspaceId.strip == w.text)) := by
  rw [listGovernanceEvents, if_neg (Uuid.strip_text_ne_nil w), Uuid.strip_text]
  refine congrArg Except.ok (eq_sortOn ?_ fun r => ?_)
  · rw [List.pairwise_flatMap]
    constructor
    · rintro ⟨key, bucket⟩ hbucket
      have hgroup := mem_sortOn.mp (List.mem_of_mem_filter hbucket)
      refine List.pairwise_of_forall_mem_list fun first hfirst second hsecond => ?_
      rw [recordKey_of_mem hgroup hfirst, recordKey_of_mem hgroup hsecond]
    · refine List.Pairwise.imp_of_mem ?_ ((pairwise_sortOn _).filter _)
      rintro ⟨⟨w₁, r₁⟩, bucket₁⟩ ⟨⟨w₂, r₂⟩, bucket₂⟩ hbucket₁ hbucket₂ hle first hfirst second
        hsecond
      rw [List.mem_filter, mem_sortOn, beq_iff_eq] at hbucket₁ hbucket₂
      rw [recordKey_of_mem hbucket₁.1 hfirst, recordKey_of_mem hbucket₂.1 hsecond]
      obtain ⟨-, rfl⟩ := hbucket₁
      obtain ⟨-, rfl⟩ := hbucket₂
      by_contra hlt
      have hrecords : [r₂] < [r₁] := List.cons_lt_cons_iff.mpr (.inl (not_le.mp hlt))
      exact not_le_of_gt (List.cons_lt_cons_iff.mpr (.inr ⟨rfl, hrecords⟩)) hle
  · -- of the buckets only the one of the record holds its events
    have hbuckets : ∀ bucket ∈ (sortOn (fun bucket : (Text × Text) ×
        List (GovernanceStateEventContract M) => [bucket.1.1, bucket.1.2])
          (Dict.groupBy eventKey events)).filter (fun bucket => bucket.1.1 == w.text),
        bucket.2.filter (fun event => decide (recordKey event = r)) =
          if decide (bucket.1 = (w.text, r)) then bucket.2 else [] := by
      rintro ⟨⟨w', record⟩, bucket⟩ hbucket
      rw [List.mem_filter, mem_sortOn, beq_iff_eq] at hbucket
      obtain ⟨hgroup, rfl⟩ := hbucket
      exact filter_bucket hgroup
    have hone : (fun bucket : (Text × Text) × List (GovernanceStateEventContract M) =>
        decide (bucket.1 = (w.text, r)) && bucket.1.1 == w.text) =
          fun bucket => decide (bucket.1 = (w.text, r)) := by
      funext bucket
      by_cases hkey : bucket.1 = (w.text, r) <;> simp [hkey]
    have hevents : (fun event : GovernanceStateEventContract M =>
        decide (recordKey event = r) && event.workspaceId.strip == w.text) =
          fun event => decide (eventKey event = (w.text, r)) := by
      funext event
      rw [Bool.eq_iff_iff, Bool.and_eq_true, decide_eq_true_eq, decide_eq_true_eq, beq_iff_eq,
        eventKey, Prod.mk.injEq, recordKey]
      exact and_comm
    rw [List.filter_flatMap, List.flatMap_congr hbuckets, flatMap_ite, List.filter_filter, hone,
      filter_sortOn, Dict.filter_groupBy, List.filter_filter, hevents]
    split
    · rename_i hnil
      rw [hnil]
      rfl
    · exact List.flatMap_singleton ..

end Memory

theorem rowOf_valid [EmptyCollection M] {env : Environment M} {kept : List (Append M)}
    {rows : List (StoredGovernanceEvent M)} (h : List.Forall₂ (Postgres.RowOf env) kept rows) :
    ∀ call ∈ kept, validateGovernanceStateEventContract call.event = [] := by
  induction h with
  | nil => exact List.forall_mem_nil _
  | cons hrow _ ih => exact List.forall_mem_cons.mpr ⟨hrow.valid, ih⟩

theorem createdAt_rows [EmptyCollection M] {env : Environment M} {kept : List (Append M)}
    {rows : List (StoredGovernanceEvent M)} (h : List.Forall₂ (Postgres.RowOf env) kept rows) :
    rows.map (·.createdAt) = kept.map (·.stamp.createdAt) := by
  induction h with
  | nil => rfl
  | cons hrow _ ih => rw [List.map_cons, List.map_cons, ih, hrow.createdAt]

/-- Rows with growing times are listed as they were inserted. -/
theorem sortOn_listingKey {rows : List (StoredGovernanceEvent M)}
    (h : (rows.map (·.createdAt)).Pairwise (· < ·)) : sortOn Postgres.listingKey rows = rows := by
  refine List.Pairwise.insertionSort_eq ((List.pairwise_map.mp h).imp fun hlt => ?_)
  exact Prod.Lex.toLex_le_toLex.mpr (.inl hlt)

/-- What both listings of a workspace return after appends that the database has accepted: it
lists the events as they were appended, and the in-memory backend orders them by their records. -/
theorem listings_agree [EmptyCollection M] (env : Environment M) (db : GovernanceStore M)
    (hclean : ∀ row ∈ db.governanceEvents, row.eventType ≠ stateEventType)
    (calls : List (Append M))
    (htimes : (calls.map (·.stamp.createdAt)).Pairwise (· < ·))
    (hcanonical : ∀ call ∈ calls, Uuid.Canonical call.event.workspaceId)
    (hjson : ∀ call ∈ calls, JsonData env call.event)
    (haccepted : (Postgres.appendAll env db calls).2 = calls.map (·.event)) (w : Uuid) :
    ∃ listed kept, listed = ((calls.map (·.event)).filter fun event =>
        event.workspaceId == w.text).map withEventMapping ∧
      Postgres.listGovernanceEvents (Postgres.appendAll env db calls).1 w.text = .ok listed ∧
      Memory.listGovernanceEvents (Memory.appendAll [] (calls.map (·.event))) w.text = .ok kept ∧
      kept.map withEventMapping = sortOn recordKey listed := by
  obtain ⟨accepted, rows, haccepts, hdone, hrows, hall⟩ := Postgres.appendAll_rows env db calls
  -- every call was accepted, so it has its row
  have hsame : accepted = calls := by
    refine haccepts.eq_of_length ?_
    rw [← List.length_map (·.event), ← hdone, haccepted, List.length_map]
  subst hsame
  have hvalid : ∀ event ∈ accepted.map (·.event),
      validateGovernanceStateEventContract event = [] := by
    intro event hevent
    obtain ⟨call, hcall, rfl⟩ := List.mem_map.mp hevent
    exact rowOf_valid hall call hcall
  have hcanon : ∀ event ∈ accepted.map (·.event), Uuid.Canonical event.workspaceId := by
    intro event hevent
    obtain ⟨call, hcall, rfl⟩ := List.mem_map.mp hevent
    exact hcanonical call hcall
  have hwanted : ((accepted.map (·.event)).filter fun event => event.workspaceId == w.text) =
      (accepted.map (·.event)).filter (Postgres.isWanted w none) := by
    refine List.filter_congr fun event hevent => ?_
    obtain ⟨u, hu⟩ := hcanon event hevent
    simp only [Postgres.isWanted, hu, Uuid.parse_text, Option.all_none, Bool.and_true]
    rw [Bool.eq_iff_iff, beq_iff_eq, beq_iff_eq, Option.some.injEq]
    exact ⟨Uuid.text_injective, fun huw => congrArg Uuid.text huw⟩
  have hstripped : ((accepted.map (·.event)).filter fun event =>
      event.workspaceId.strip == w.text) =
        (accepted.map (·.event)).filter fun event => event.workspaceId == w.text := by
    refine List.filter_congr fun event hevent => ?_
    obtain ⟨u, hu⟩ := hcanon event hevent
    rw [hu, Uuid.strip_text]
  refine ⟨_, sortOn recordKey ((accepted.map (·.event)).filter fun event =>
    event.workspaceId == w.text), rfl, ?_, ?_, ?_⟩
  · have hnew := Postgres.map_filter_rows hall hjson w none
    have hold : db.governanceEvents.filter (Postgres.isListed w none) = [] := by
      rw [List.filter_eq_nil_iff]
      intro row hrow
      simp [Postgres.isListed, hclean row hrow]
    have hsorted : ((rows.filter (Postgres.isListed w none)).map (·.createdAt)).Pairwise
        (· < ·) := by
      rw [← createdAt_rows hall] at htimes
      exact htimes.sublist (List.filter_sublist.map _)
    rw [hwanted, ← hnew, Postgres.listGovernanceEvents, Postgres.validateWorkspaceUuid_text]
    simp only [Option.any_none, Bool.false_eq_true, if_false, Uuid.parse_text]
    rw [hrows, List.filter_append, hold, List.nil_append, sortOn_listingKey hsorted]
  · rw [Memory.appendAll_of_valid hvalid, Memory.listGovernanceEvents_groupBy, hstripped]
  · exact List.map_insertionSort _ _ _ _ fun _ _ _ _ => Iff.rfl

end Listings

/-! ## Two records -/

def recordEvent (recordId : Text) : GovernanceStateEventContract (List ℕ) where
  eventType := stateEventType
  workspaceId := (⟨1⟩ : Uuid).text
  recordRef := { recordId, recordType := ['t'], workspaceId := (⟨1⟩ : Uuid).text }
  provenance :=
    { sourceType := ['a'], sourceId := ['b'], sourceLabel := ['c'], createdBy := ['d']
      traceId := ['e'], createdAt := ['f'], metadata := some [] }
  mode := ['m']

def keepsMetadata : Environment (List ℕ) := ⟨some, fun _ => true⟩

/-- An event of record `b`, then one of record `a`. -/
def twoRecords : List (Append (List ℕ)) :=
  [⟨⟨1, ⟨1⟩⟩, recordEvent ['b']⟩, ⟨⟨2, ⟨2⟩⟩, recordEvent ['a']⟩]

theorem mem_twoRecords {call : Append (List ℕ)} (h : call ∈ twoRecords) :
    ∃ recordId, call.event = recordEvent recordId := by
  simp only [twoRecords, List.mem_cons, List.not_mem_nil, or_false] at h
  rcases h with rfl | rfl
  · exact ⟨_, rfl⟩
  · exact ⟨_, rfl⟩

theorem canonical_twoRecords : ∀ call ∈ twoRecords, Uuid.Canonical call.event.workspaceId := by
  intro call hcall
  obtain ⟨recordId, hevent⟩ := mem_twoRecords hcall
  rw [hevent]
  exact ⟨⟨1⟩, rfl⟩

theorem jsonData_twoRecords : ∀ call ∈ twoRecords, JsonData keepsMetadata call.event :=
  fun _ _ => rfl

theorem listings_agree_twoRecords : ∃ listed kept,
    listed = ((twoRecords.map (·.event)).filter fun event =>
      event.workspaceId == (⟨1⟩ : Uuid).text).map withEventMapping ∧
    Postgres.listGovernanceEvents (Postgres.appendAll keepsMetadata {} twoRecords).1
      (⟨1⟩ : Uuid).text = .ok listed ∧
    Memory.listGovernanceEvents (Memory.appendAll [] (twoRecords.map (·.event)))
      (⟨1⟩ : Uuid).text = .ok kept ∧
    kept.map withEventMapping = sortOn recordKey listed :=
  listings_agree keepsMetadata {} (List.forall_mem_nil _) twoRecords (by simp [twoRecords])
    canonical_twoRecords jsonData_twoRecords (by decide +kernel) ⟨1⟩

/-- The in-memory backend lists record `a` first. -/
theorem not_listings_equal : ¬ ∀ (env : Environment (List ℕ)) (calls : List (Append (List ℕ))),
    (calls.map (·.stamp.createdAt)).Pairwise (· < ·) →
    (∀ call ∈ calls, validateGovernanceStateEventContract call.event = []) →
    (∀ call ∈ calls, Uuid.Canonical call.event.workspaceId) → ∀ w : Uuid,
      Postgres.listGovernanceEvents (Postgres.appendAll env {} calls).1 w.text =
        Memory.listGovernanceEvents (Memory.appendAll [] (calls.map (·.event))) w.text := by
  intro h
  have hvalid : ∀ call ∈ twoRecords, validateGovernanceStateEventContract call.event = [] := by
    decide +kernel
  have hlists := h keepsMetadata twoRecords (by simp [twoRecords]) hvalid canonical_twoRecords ⟨1⟩
  have hrecords := congrArg (fun result => result.toOption.map fun events =>
    events.map (·.recordRef.recordId)) hlists
  revert hrecords
  decide +kernel

end MemoryLab.Persistence

import MemoryLab.Model.EscalationConcurrency
import MemoryLab.Library.Runs

/-! # Concurrent resolutions of one escalation

The status is read and checked before the first write, no lock is taken and the `UPDATE`s name
the row by its identifier only. A commit is safe while it overwrites no escalation that a
request has resolved, and a cleanup's while it overwrites no approved content. -/

namespace MemoryLab.Escalations

open Library ReadCommitted Runs TierOperations

variable {ι κ : Type*} [DecidableEq ι] [DecidableEq κ]

/-! ## Resolved once -/

def isHuman (event : TierTransitionEvent) : Bool := event.triggerType == .humanOverride

def humanEvents (events : List TierTransitionEvent) : List TierTransitionEvent :=
  events.filter isHuman

def System.Succeeded (s : System ι κ) (i : ι) : Prop :=
  ∃ row updated, s.resolving i = .succeeded row updated

instance (s : System ι κ) (i : ι) : Decidable (s.Succeeded i) :=
  match h : s.resolving i with
  | .succeeded row updated => isTrue ⟨row, updated, h⟩
  | .selectEscalation | .selectTier .. | .updateContent .. | .insertEvent .. | .updateEscalation ..
  | .resolved .. | .failed _ => isFalse fun ⟨_, _, heq⟩ => by rw [h] at heq; cases heq

/-- A resolved escalation has the decision's status, its content the decision's tier, and one
human tier event has been recorded. -/
structure Settled (request : ResolveRequest) (escalationId : EscalationId) (db : Database)
    (s : System ι κ) (row : Escalation) : Prop where
  status : ∀ found ∈ committed s.escalations, found.escalationId = escalationId →
    found.status = request.decision.newStatus
  tier : ∀ item ∈ committed s.contentItems, row.contentId = some item.contentId →
    item.tier = some request.decision.newTier
  event : ∃ event, row.contentId = some event.contentId ∧
    event.newTier = request.decision.newTier ∧
    (humanEvents (committed s.governanceEvents)).Perm (event :: humanEvents db.governanceEvents)

structure ResolvedOnce (requests : ι → ResolveRequest) (escalationId : EscalationId)
    (db : Database) (s : System ι κ) : Prop where
  single : ∀ i j, s.Succeeded i → s.Succeeded j → i = j
  settled : ∀ i row updated, s.resolving i = .succeeded row updated →
    Settled (requests i) escalationId db s row

def isUnresolved (row : Escalation) : Bool := row.status == .pending || row.status == .expired

/-- What a transaction overwrites when it commits: a request, which names a content, no
escalation that is resolved, and a cleanup neither that nor a content made persistent. -/
def SafeCommit (s : System ι κ) : Action ι κ → Prop
  | .resolve i =>
    match s.resolving i with
    | .resolved row _ =>
      row.contentId ≠ none ∧ overwrites (.inl i) isUnresolved s.escalations = true
    | _ => True
  | .cleanup c =>
    match (s.cleaning c).phase with
    | .finished =>
      overwrites (.inr c) isUnresolved s.escalations = true ∧
        overwrites (.inr c) (fun item => item.tier != some .persistent) s.contentItems = true
    | _ => True
  | .abortResolve _ => True
  | .abortCleanup _ => True

instance (s : System ι κ) (action : Action ι κ) : Decidable (SafeCommit s action) := by
  unfold SafeCommit
  cases action with
  | resolve i =>
      dsimp only
      split <;> infer_instance
  | cleanup c =>
      dsimp only
      split <;> infer_instance
  | abortResolve i => exact instDecidableTrue
  | abortCleanup c => exact instDecidableTrue

/-! ## What a transaction has written -/

def Unwritten {ρ : Type*} (t : ι ⊕ κ) (table : Table (ι ⊕ κ) ρ) : Prop :=
  ∀ n, ownAt t table n = none

/-- The `UPDATE` of a content by a request, so far. -/
def ContentAssigned (request : ResolveRequest) (t : ι ⊕ κ) (contentId : ContentId) :
    Table (ι ⊕ κ) ContentItem → Option (List ℕ) → Prop :=
  Assigned t (hasContentId contentId) fun item => item.tier = some request.decision.newTier

/-- The `UPDATE` of the escalation by a request, so far. -/
def EscalationAssigned (request : ResolveRequest) (t : ι ⊕ κ) (escalationId : EscalationId) :
    Table (ι ⊕ κ) Escalation → Option (List ℕ) → Prop :=
  Assigned t (hasEscalationId escalationId) fun row =>
    row.status = request.decision.newStatus ∧ row.escalationId = escalationId

/-- The only event that a request has inserted. -/
def EventInserted (request : ResolveRequest) (t : ι ⊕ κ) (contentId : ContentId)
    (events : Table (ι ⊕ κ) TierTransitionEvent) : Prop :=
  ∃ n event, ownAt t events n = some event ∧
    (∀ m other, ownAt t events m = some other → m = n) ∧
    isHuman event = true ∧ event.contentId = contentId ∧
    event.newTier = request.decision.newTier

/-- What a request has written when it reaches a phase. -/
def ResolvePhase.Holds (request : ResolveRequest) (escalationId : EscalationId) (t : ι ⊕ κ)
    (escalations : Table (ι ⊕ κ) Escalation) (items : Table (ι ⊕ κ) ContentItem)
    (events : Table (ι ⊕ κ) TierTransitionEvent) : ResolvePhase → Prop
  | .selectEscalation | .failed _ | .succeeded _ _ =>
      Unwritten t escalations ∧ Unwritten t items ∧ Unwritten t events
  | .selectTier row contentId =>
      Unwritten t escalations ∧ Unwritten t items ∧ Unwritten t events ∧
        row.contentId = some contentId
  | .updateContent row contentId _ targets =>
      Unwritten t escalations ∧ ContentAssigned request t contentId items targets ∧
        Unwritten t events ∧ row.contentId = some contentId
  | .insertEvent row contentId _ =>
      Unwritten t escalations ∧ ContentAssigned request t contentId items (some []) ∧
        Unwritten t events ∧ row.contentId = some contentId
  | .updateEscalation row targets =>
      EscalationAssigned request t escalationId escalations targets ∧
        ∀ contentId, row.contentId = some contentId →
          ContentAssigned request t contentId items (some []) ∧
            EventInserted request t contentId events
  | .resolved row _ =>
      EscalationAssigned request t escalationId escalations (some []) ∧
        (∃ n version, ownAt t escalations n = some version) ∧
        ∀ contentId, row.contentId = some contentId →
          ContentAssigned request t contentId items (some []) ∧
            EventInserted request t contentId events

/-- What a cleanup has written. -/
structure CleanupWrites (t : ι ⊕ κ) (items : Table (ι ⊕ κ) ContentItem)
    (events : Table (ι ⊕ κ) TierTransitionEvent) : Prop where
  tier : ∀ n item, ownAt t items n = some item → item.tier = some .archived
  event : ∀ n event, ownAt t events n = some event → isHuman event = false

section

variable {requests : ι → ResolveRequest} {escalationId : EscalationId} {request : ResolveRequest}
  {t u : ι ⊕ κ} {escalations escalations' : Table (ι ⊕ κ) Escalation}
  {items items' : Table (ι ⊕ κ) ContentItem} {events events' : Table (ι ⊕ κ) TierTransitionEvent}

theorem Unwritten.ne_some {ρ : Type*} {table : Table (ι ⊕ κ) ρ} (h : Unwritten t table) {n : ℕ}
    {row : ρ} : ownAt t table n ≠ some row := by
  rw [h n]
  exact nofun

theorem Unwritten.congr {ρ : Type*} {table other : Table (ι ⊕ κ) ρ} (h : Unwritten t table)
    (hown : ownAt t other = ownAt t table) : Unwritten t other := by
  intro n
  rw [hown]
  exact h n

theorem EventInserted.congr {contentId : ContentId} (h : EventInserted request t contentId events)
    (hown : ownAt t events' = ownAt t events) : EventInserted request t contentId events' := by
  unfold EventInserted
  rw [hown]
  exact h

theorem eventInserted_insert {i : ι} (h : Unwritten (.inl i : ι ⊕ κ) events) (contentId : ContentId)
    (previousTier : Option Tier) {eventId : EventId} :
    EventInserted request (.inl i) contentId
      (insert (.inl i) (resolveEvent request contentId previousTier eventId) events) := by
  refine ⟨events.length, _, by rw [ownAt_insert, if_pos rfl], fun m other hown => ?_, rfl, rfl, rfl⟩
  rw [ownAt_insert] at hown
  split at hown
  · assumption
  · exact (h.ne_some hown).elim

theorem ContentAssigned.evolve {contentId : ContentId} {targets : Option (List ℕ)}
    (h : ContentAssigned request t contentId items targets)
    (hitems : Evolves (·.contentId) u items items') (hne : t ≠ u) :
    ContentAssigned request t contentId items' targets :=
  Assigned.evolve h hitems hne fun row old hkey => by
    rw [hasContentId, hasContentId, hkey]

theorem EscalationAssigned.evolve {targets : Option (List ℕ)}
    (h : EscalationAssigned request t escalationId escalations targets)
    (hescalations : Evolves (·.escalationId) u escalations escalations') (hne : t ≠ u) :
    EscalationAssigned request t escalationId escalations' targets :=
  Assigned.evolve h hescalations hne fun row old hkey => by
    rw [hasEscalationId, hasEscalationId, hkey]

/-- What a request has written stands while other transactions take steps. -/
theorem ResolvePhase.Holds.evolve {phase : ResolvePhase}
    (h : phase.Holds request escalationId t escalations items events) (hne : t ≠ u)
    (hescalations : Evolves (·.escalationId) u escalations escalations')
    (hitems : Evolves (·.contentId) u items items') (hevents : ownAt t events' = ownAt t events) :
    phase.Holds request escalationId t escalations' items' events' := by
  have hrow : ownAt t escalations' = ownAt t escalations := hescalations.own t hne
  have hitem : ownAt t items' = ownAt t items := hitems.own t hne
  cases phase with
  | selectEscalation => exact ⟨h.1.congr hrow, h.2.1.congr hitem, h.2.2.congr hevents⟩
  | failed => exact ⟨h.1.congr hrow, h.2.1.congr hitem, h.2.2.congr hevents⟩
  | succeeded => exact ⟨h.1.congr hrow, h.2.1.congr hitem, h.2.2.congr hevents⟩
  | selectTier =>
      obtain ⟨hunresolved, hunassigned, huninserted, hcontent⟩ := h
      exact ⟨hunresolved.congr hrow, hunassigned.congr hitem, huninserted.congr hevents, hcontent⟩
  | updateContent =>
      obtain ⟨hunresolved, hassigned, huninserted, hcontent⟩ := h
      exact ⟨hunresolved.congr hrow, hassigned.evolve hitems hne, huninserted.congr hevents,
        hcontent⟩
  | insertEvent =>
      obtain ⟨hunresolved, hassigned, huninserted, hcontent⟩ := h
      exact ⟨hunresolved.congr hrow, hassigned.evolve hitems hne, huninserted.congr hevents,
        hcontent⟩
  | updateEscalation =>
      obtain ⟨hresolved, heffects⟩ := h
      refine ⟨hresolved.evolve hescalations hne, fun contentId hcontent => ?_⟩
      obtain ⟨hassigned, hinserted⟩ := heffects contentId hcontent
      exact ⟨hassigned.evolve hitems hne, hinserted.congr hevents⟩
  | resolved =>
      obtain ⟨hresolved, hwritten, heffects⟩ := h
      refine ⟨hresolved.evolve hescalations hne, ?_, fun contentId hcontent => ?_⟩
      · rw [hrow]
        exact hwritten
      · obtain ⟨hassigned, hinserted⟩ := heffects contentId hcontent
        exact ⟨hassigned.evolve hitems hne, hinserted.congr hevents⟩

theorem CleanupWrites.congr (h : CleanupWrites t items events)
    (hitems : ownAt t items' = ownAt t items) (hevents : ownAt t events' = ownAt t events) :
    CleanupWrites t items' events' := by
  refine ⟨?_, ?_⟩
  · rw [hitems]
    exact h.tier
  · rw [hevents]
    exact h.event

end

/-! ## Runs -/

/-- Escalations and contents are only updated, and events only inserted. -/
structure Keyed (s : System ι κ) : Prop where
  escalations : UpdatesOnly (·.escalationId) s.escalations
  contentItems : UpdatesOnly (·.contentId) s.contentItems
  governanceEvents : InsertsOnly s.governanceEvents

structure Invariant (requests : ι → ResolveRequest) (escalationId : EscalationId)
    (db : Database) (s : System ι κ) : Prop where
  keyed : Keyed s
  resolving : ∀ i, (s.resolving i).Holds (requests i) escalationId (.inl i) s.escalations
    s.contentItems s.governanceEvents
  cleaning : ∀ c, CleanupWrites (.inr c) s.contentItems s.governanceEvents
  resolvedOnce : ResolvedOnce requests escalationId db s
  untouched : (∀ i, ¬ s.Succeeded i) →
    humanEvents (committed s.governanceEvents) = humanEvents db.governanceEvents

/-- A statement of one transaction that commits nothing. -/
structure Writes (t : ι ⊕ κ) (s next : System ι κ) : Prop where
  keyed : Keyed next
  escalations : WrittenBy t s.escalations next.escalations
  contentItems : WrittenBy t s.contentItems next.contentItems
  governanceEvents : WrittenBy t s.governanceEvents next.governanceEvents
  resolving : next.resolving = s.resolving
  cleaning : next.cleaning = s.cleaning

section

variable {s next : System ι κ} {t : ι ⊕ κ} {i : ι} {row : Escalation}
  {requests : ι → ResolveRequest} {escalationId : EscalationId} {db : Database}

theorem Keyed.enter (h : Keyed s) (i : ι) (phase : ResolvePhase) : Keyed (s.enter i phase) :=
  ⟨h.escalations, h.contentItems, h.governanceEvents⟩

theorem Keyed.proceed (h : Keyed s) (c : κ) (progress : CleanupProgress) :
    Keyed (s.proceed c progress) :=
  ⟨h.escalations, h.contentItems, h.governanceEvents⟩

omit [DecidableEq κ] in
theorem Settled.enter (h : Settled (requests i) escalationId db s row) (j : ι)
    (phase : ResolvePhase) : Settled (requests i) escalationId db (s.enter j phase) row :=
  ⟨h.status, h.tier, h.event⟩

omit [DecidableEq ι] in
theorem Settled.proceed (h : Settled (requests i) escalationId db s row) (c : κ)
    (progress : CleanupProgress) :
    Settled (requests i) escalationId db (s.proceed c progress) row :=
  ⟨h.status, h.tier, h.event⟩

theorem Keyed.writes_nothing (h : Keyed s) (t : ι ⊕ κ) : Writes t s s :=
  ⟨h, .refl t _, .refl t _, .refl t _, rfl, rfl⟩

theorem Keyed.writes_escalations (h : Keyed s) (t : ι ⊕ κ) {p : Escalation → Bool}
    {f : Escalation → Escalation} (hf : ∀ row, (f row).escalationId = row.escalationId)
    (targets : Option (List ℕ)) :
    Writes t s { s with escalations := (advance t p f s.escalations targets).1 } :=
  ⟨⟨updatesOnly_advance h.escalations hf targets, h.contentItems, h.governanceEvents⟩,
    writtenBy_advance .., .refl t _, .refl t _, rfl, rfl⟩

theorem Keyed.writes_contentItems (h : Keyed s) (t : ι ⊕ κ) {p : ContentItem → Bool}
    {f : ContentItem → ContentItem} (hf : ∀ item, (f item).contentId = item.contentId)
    (targets : Option (List ℕ)) :
    Writes t s { s with contentItems := (advance t p f s.contentItems targets).1 } :=
  ⟨⟨h.escalations, updatesOnly_advance h.contentItems hf targets, h.governanceEvents⟩,
    .refl t _, writtenBy_advance .., .refl t _, rfl, rfl⟩

theorem Keyed.writes_event (h : Keyed s) (t : ι ⊕ κ) (event : TierTransitionEvent) :
    Writes t s { s with governanceEvents := insert t event s.governanceEvents } :=
  ⟨⟨h.escalations, h.contentItems, insertsOnly_insert h.governanceEvents t event⟩,
    .refl t _, .refl t _, writtenBy_insert t event _, rfl, rfl⟩

theorem Keyed.writes_abort (h : Keyed s) (t : ι ⊕ κ) : Writes t s (s.abort t) :=
  ⟨⟨h.escalations.abort t, h.contentItems.abort t, h.governanceEvents.abort t⟩,
    writtenBy_abort t _, writtenBy_abort t _, writtenBy_abort t _, rfl, rfl⟩

omit [DecidableEq ι] [DecidableEq κ] in
/-- The property depends on the committed rows and on which requests have succeeded. -/
theorem ResolvedOnce.congr (h : ResolvedOnce requests escalationId db s)
    (hescalations : committed next.escalations = committed s.escalations)
    (hitems : committed next.contentItems = committed s.contentItems)
    (hevents : committed next.governanceEvents = committed s.governanceEvents)
    (hresolving : ∀ i row updated, next.resolving i = .succeeded row updated →
      s.resolving i = .succeeded row updated) : ResolvedOnce requests escalationId db next := by
  refine ⟨?_, fun i row updated hsucceeded => ?_⟩
  · rintro i j ⟨row, updated, hi⟩ ⟨row', updated', hj⟩
    exact h.single i j ⟨row, updated, hresolving i row updated hi⟩
      ⟨row', updated', hresolving j row' updated' hj⟩
  · obtain ⟨hstatus, htier, hevent⟩ :=
      h.settled i row updated (hresolving i row updated hsucceeded)
    refine ⟨?_, ?_, ?_⟩
    · rw [hescalations]
      exact hstatus
    · rw [hitems]
      exact htier
    · rw [hevents]
      exact hevent

/-- A request goes to a phase that is not its success. -/
theorem Invariant.enter (h : Invariant requests escalationId db s)
    (hopen : ¬ s.Succeeded i) (hwrites : Writes (.inl i) s next) {phase : ResolvePhase}
    (hphase : ∀ row updated, phase ≠ .succeeded row updated)
    (hholds : phase.Holds (requests i) escalationId (.inl i) next.escalations next.contentItems
      next.governanceEvents) :
    Invariant requests escalationId db (next.enter i phase) := by
  have hsucceeded : ∀ j row updated,
      (next.enter i phase).resolving j = .succeeded row updated ↔
        s.resolving j = .succeeded row updated := by
    intro j row updated
    by_cases hj : j = i
    · subst hj
      simp only [System.enter, Function.update_self]
      exact ⟨fun heq => (hphase row updated heq).elim, fun heq => (hopen ⟨row, updated, heq⟩).elim⟩
    · simp only [System.enter, Function.update_of_ne hj, hwrites.resolving]
  refine ⟨hwrites.keyed.enter i phase, fun j => ?_, fun c => ?_, ?_, ?_⟩
  · by_cases hj : j = i
    · subst hj
      simpa [System.enter] using hholds
    · simp only [System.enter, Function.update_of_ne hj, hwrites.resolving]
      have hne : (Sum.inl j : ι ⊕ κ) ≠ .inl i := fun heq => hj (Sum.inl.inj heq)
      exact (h.resolving j).evolve hne (hwrites.escalations.evolves _)
        (hwrites.contentItems.evolves _) (hwrites.governanceEvents.ownAt_eq _ hne)
  · exact (h.cleaning c).congr (hwrites.contentItems.ownAt_eq _ Sum.inr_ne_inl)
      (hwrites.governanceEvents.ownAt_eq _ Sum.inr_ne_inl)
  · exact h.resolvedOnce.congr hwrites.escalations.committed_eq hwrites.contentItems.committed_eq
      hwrites.governanceEvents.committed_eq fun j row updated heq =>
        (hsucceeded j row updated).mp heq
  · intro hnone
    have hnone' : ∀ j, ¬ s.Succeeded j := by
      rintro j ⟨row, updated, heq⟩
      exact hnone j ⟨row, updated, (hsucceeded j row updated).mpr heq⟩
    rw [← h.untouched hnone']
    exact congrArg humanEvents hwrites.governanceEvents.committed_eq

theorem Invariant.fail (h : Invariant requests escalationId db s)
    (hopen : ¬ s.Succeeded i) (error : OperationError) :
    Invariant requests escalationId db (s.fail i error) := by
  refine h.enter hopen (h.keyed.writes_abort (.inl i)) (by simp) ⟨?_, ?_, ?_⟩
  · exact ownAt_abort (.inl i) s.escalations
  · exact ownAt_abort (.inl i) s.contentItems
  · exact ownAt_abort (.inl i) s.governanceEvents

theorem Invariant.proceed (h : Invariant requests escalationId db s) {c : κ}
    (hwrites : Writes (.inr c) s next)
    (hcleanup : CleanupWrites (.inr c) next.contentItems next.governanceEvents)
    (progress : CleanupProgress) :
    Invariant requests escalationId db (next.proceed c progress) := by
  refine ⟨hwrites.keyed.proceed c progress, fun i => ?_, fun d => ?_, ?_, ?_⟩
  · simp only [System.proceed, hwrites.resolving]
    exact (h.resolving i).evolve Sum.inl_ne_inr (hwrites.escalations.evolves _)
      (hwrites.contentItems.evolves _) (hwrites.governanceEvents.ownAt_eq _ Sum.inl_ne_inr)
  · by_cases hd : d = c
    · subst hd
      exact hcleanup
    · have hne : (Sum.inr d : ι ⊕ κ) ≠ .inr c := fun heq => hd (Sum.inr.inj heq)
      exact (h.cleaning d).congr (hwrites.contentItems.ownAt_eq _ hne)
        (hwrites.governanceEvents.ownAt_eq _ hne)
  · refine h.resolvedOnce.congr hwrites.escalations.committed_eq
      hwrites.contentItems.committed_eq hwrites.governanceEvents.committed_eq ?_
    intro i row updated heq
    rw [← hwrites.resolving]
    exact heq
  · intro hnone
    have hopen : ∀ i, ¬ s.Succeeded i := by
      rintro i ⟨row, updated, heq⟩
      refine hnone i ⟨row, updated, ?_⟩
      simp only [System.proceed, hwrites.resolving, heq]
    rw [← h.untouched hopen]
    exact congrArg humanEvents hwrites.governanceEvents.committed_eq

/-! ## Commits -/

theorem Keyed.commit (h : Keyed s) (t : ι ⊕ κ) : Keyed (s.commit t) :=
  ⟨h.escalations.commit t, h.contentItems.commit t, h.governanceEvents.commit t⟩

/-- What the others have written stands when a transaction commits. -/
theorem Invariant.resolving_commit (h : Invariant requests escalationId db s)
    (hne : .inl i ≠ t) :
    (s.resolving i).Holds (requests i) escalationId (.inl i) (s.commit t).escalations
      (s.commit t).contentItems (s.commit t).governanceEvents :=
  (h.resolving i).evolve hne (evolves_commit h.keyed.escalations t)
    (evolves_commit h.keyed.contentItems t) (ownAt_commit_of_ne hne s.governanceEvents)

theorem Invariant.cleaning_commit (h : Invariant requests escalationId db s) (c : κ) :
    CleanupWrites (.inr c) (s.commit t).contentItems (s.commit t).governanceEvents := by
  by_cases hne : .inr c = t
  · subst hne
    exact ⟨fun n item hown => by simp [System.commit] at hown,
      fun n event hown => by simp [System.commit] at hown⟩
  · exact (h.cleaning c).congr (ownAt_commit_of_ne hne s.contentItems)
      (ownAt_commit_of_ne hne s.governanceEvents)

theorem isUnresolved_eq_false {row : Escalation} {decision : Decision}
    (h : row.status = decision.newStatus) : isUnresolved row = false := by
  cases decision with
  | approve => simp [isUnresolved, h, Decision.newStatus]
  | reject => simp [isUnresolved, h, Decision.newStatus]

/-- A safe commit leaves the rows of a resolved escalation as they are. -/
theorem Settled.not_overwritten (h : Settled (requests i) escalationId db s row)
    (hkeyed : Keyed s) (hsafe : overwrites t isUnresolved s.escalations = true) {n : ℕ}
    {version : Escalation} (hown : ownAt t s.escalations n = some version) :
    version.escalationId ≠ escalationId := by
  intro hversion
  obtain ⟨old, hold, hkey⟩ := hkeyed.escalations t n version hown
  have hstatus := h.status old (mem_committed.mpr ⟨n, hold⟩) (hkey.trans hversion)
  have hunresolved := overwrites_spec hsafe hown hold
  rw [isUnresolved_eq_false hstatus] at hunresolved
  cases hunresolved

/-- A request commits safely only when none has succeeded. -/
theorem Invariant.not_succeeded (h : Invariant requests escalationId db s)
    {row updated : Escalation} (hphase : s.resolving i = .resolved row updated)
    (hsafe : overwrites (.inl i) isUnresolved s.escalations = true) (j : ι) :
    ¬ s.Succeeded j := by
  rintro ⟨row', updated', hj⟩
  have hholds := h.resolving i
  rw [hphase] at hholds
  obtain ⟨hassigned, ⟨n, version, hown⟩, -⟩ := hholds
  exact (h.resolvedOnce.settled j row' updated' hj).not_overwritten h.keyed hsafe hown
    (hassigned.own n version hown).2

theorem Invariant.settled_resolve (h : Invariant requests escalationId db s)
    {row updated : Escalation} (hphase : s.resolving i = .resolved row updated)
    (hcontent : row.contentId ≠ none)
    (hsafe : overwrites (.inl i) isUnresolved s.escalations = true) :
    Settled (requests i) escalationId db (s.commit (.inl i)) row := by
  have hholds := h.resolving i
  rw [hphase] at hholds
  obtain ⟨hassigned, -, heffects⟩ := hholds
  obtain ⟨contentId, hcontentId⟩ := Option.ne_none_iff_exists'.mp hcontent
  obtain ⟨hitems, n, event, hevent, honly, hhuman, hid, htier⟩ := heffects contentId hcontentId
  refine ⟨fun found hmem hfound => ?_, fun item hmem hitem => ?_, event, ?_, htier, ?_⟩
  · exact (hassigned.commit hmem (by simp [hasEscalationId, hfound])).1
  · have heq : item.contentId = contentId := Option.some.inj (hitem.symm.trans hcontentId)
    exact hitems.commit hmem (by simp [hasContentId, heq])
  · rw [hid]
    exact hcontentId
  · rw [← h.untouched (h.not_succeeded hphase hsafe)]
    exact perm_filter_committed_commit hevent hhuman fun m other hother =>
      ⟨h.keyed.governanceEvents _ m other hother, fun _ => honly m other hother⟩

theorem Invariant.commit_resolve (h : Invariant requests escalationId db s)
    {row updated : Escalation} (hphase : s.resolving i = .resolved row updated)
    (hcontent : row.contentId ≠ none)
    (hsafe : overwrites (.inl i) isUnresolved s.escalations = true) :
    Invariant requests escalationId db
      ((s.commit (.inl i)).enter i (.succeeded row updated)) := by
  have honly : ∀ j row' updated',
      ((s.commit (.inl i)).enter i (.succeeded row updated)).resolving j =
        .succeeded row' updated' → j = i := by
    intro j row' updated' hj
    by_contra hne
    simp only [System.enter, Function.update_of_ne hne] at hj
    exact h.not_succeeded hphase hsafe j ⟨row', updated', hj⟩
  refine ⟨(h.keyed.commit (.inl i)).enter i _, fun j => ?_, fun c => h.cleaning_commit c, ⟨?_, ?_⟩,
    ?_⟩
  · by_cases hne : j = i
    · subst hne
      simp only [System.enter, Function.update_self]
      exact ⟨ownAt_commit _ _, ownAt_commit _ _, ownAt_commit _ _⟩
    · simp only [System.enter, Function.update_of_ne hne]
      exact h.resolving_commit fun heq => hne (Sum.inl.inj heq)
  · rintro j k ⟨row₁, updated₁, hj⟩ ⟨row₂, updated₂, hk⟩
    rw [honly j row₁ updated₁ hj, honly k row₂ updated₂ hk]
  · intro j row' updated' hj
    obtain rfl := honly j row' updated' hj
    simp only [System.enter, Function.update_self, ResolvePhase.succeeded.injEq] at hj
    obtain ⟨rfl, rfl⟩ := hj
    exact (h.settled_resolve hphase hcontent hsafe).enter _ _
  · intro hnone
    exact (hnone i ⟨row, updated, by simp [System.enter]⟩).elim

/-- A cleanup leaves a settled escalation as it is. -/
theorem Invariant.settled_cleanup (h : Invariant requests escalationId db s) {c : κ}
    (hescalations : overwrites (.inr c) isUnresolved s.escalations = true)
    (hitems : overwrites (.inr c) (fun item => item.tier != some .persistent)
      s.contentItems = true) {row : Escalation}
    (hsettled : Settled (requests i) escalationId db s row) :
    Settled (requests i) escalationId db (s.commit (.inr c)) row := by
  refine ⟨fun found hmem hfound => ?_, fun item hmem hitem => ?_, ?_⟩
  · obtain ⟨n, hn⟩ := mem_committed.mp hmem
    rw [System.commit, committedAt_commit] at hn
    cases hown : ownAt (.inr c) s.escalations n with
    | none =>
        rw [hown, Option.none_or] at hn
        exact hsettled.status found (mem_committed.mpr ⟨n, hn⟩) hfound
    | some version =>
        rw [hown, Option.some_or] at hn
        obtain rfl := Option.some.inj hn
        exact (hsettled.not_overwritten h.keyed hescalations hown hfound).elim
  · obtain ⟨n, hn⟩ := mem_committed.mp hmem
    rw [System.commit, committedAt_commit] at hn
    cases hown : ownAt (.inr c) s.contentItems n with
    | none =>
        rw [hown, Option.none_or] at hn
        exact hsettled.tier item (mem_committed.mpr ⟨n, hn⟩) hitem
    | some version =>
        rw [hown, Option.some_or] at hn
        obtain rfl := Option.some.inj hn
        obtain ⟨old, hold, hkey⟩ := h.keyed.contentItems (.inr c) n version hown
        have htier := hsettled.tier old (mem_committed.mpr ⟨n, hold⟩)
          (hitem.trans (congrArg some hkey.symm))
        have hkept := overwrites_spec hitems hown hold
        rw [(h.cleaning c).tier n version hown]
        cases hdecision : (requests i).decision with
        | approve =>
            rw [htier, hdecision] at hkept
            simp [Decision.newTier] at hkept
        | reject => rfl
  · obtain ⟨event, hcontent, htier, hperm⟩ := hsettled.event
    refine ⟨event, hcontent, htier, ?_⟩
    have hsame : humanEvents (committed (s.commit (.inr c)).governanceEvents) =
        humanEvents (committed s.governanceEvents) :=
      filter_committed_commit fun n version hown =>
        ⟨h.keyed.governanceEvents _ n version hown, (h.cleaning c).event n version hown⟩
    rw [hsame]
    exact hperm

theorem Invariant.commit_cleanup (h : Invariant requests escalationId db s) {c : κ}
    (hescalations : overwrites (.inr c) isUnresolved s.escalations = true)
    (hitems : overwrites (.inr c) (fun item => item.tier != some .persistent)
      s.contentItems = true) (progress : CleanupProgress) :
    Invariant requests escalationId db ((s.commit (.inr c)).proceed c progress) := by
  refine ⟨(h.keyed.commit (.inr c)).proceed c progress, fun i => h.resolving_commit Sum.inl_ne_inr,
    fun d => h.cleaning_commit d, ⟨h.resolvedOnce.single, fun i row updated hi => ?_⟩, ?_⟩
  · have hsettled := h.resolvedOnce.settled i row updated hi
    exact (h.settled_cleanup hescalations hitems hsettled).proceed c progress
  · intro hnone
    rw [← h.untouched hnone]
    exact filter_committed_commit fun n version hown =>
      ⟨h.keyed.governanceEvents _ n version hown, (h.cleaning c).event n version hown⟩

/-! ## Statements -/

theorem Invariant.resolveStatement (h : Invariant requests escalationId db s)
    (hsafe : SafeCommit s (.resolve i)) :
    Invariant requests escalationId db (s.resolveStatement requests escalationId i) := by
  have hholds := h.resolving i
  unfold System.resolveStatement
  unfold SafeCommit at hsafe
  dsimp only at hsafe ⊢
  cases hphase : s.resolving i with
  | selectEscalation =>
      rw [hphase] at hholds
      obtain ⟨hunresolved, hunassigned, huninserted⟩ := hholds
      have hopen : ¬ s.Succeeded i := by simp [System.Succeeded, hphase]
      have hwrites := h.keyed.writes_nothing (.inl i)
      dsimp only
      split
      · exact h.fail hopen _
      · split
        · exact h.fail hopen _
        · split
          · exact h.fail hopen _
          · split
            · rename_i contentId hcontent
              exact h.enter hopen hwrites (by simp)
                ⟨hunresolved, hunassigned, huninserted, hcontent⟩
            · rename_i hcontent
              refine h.enter hopen hwrites (by simp) ⟨assigned_none hunresolved, ?_⟩
              intro contentId hsome
              rw [hcontent] at hsome
              cases hsome
  | selectTier row contentId =>
      rw [hphase] at hholds
      obtain ⟨hunresolved, hunassigned, huninserted, hcontent⟩ := hholds
      have hopen : ¬ s.Succeeded i := by simp [System.Succeeded, hphase]
      exact h.enter hopen (h.keyed.writes_nothing (.inl i)) (by simp)
        ⟨hunresolved, assigned_none hunassigned, huninserted, hcontent⟩
  | updateContent row contentId previousTier targets =>
      rw [hphase] at hholds
      obtain ⟨hunresolved, hassigned, huninserted, hcontent⟩ := hholds
      have hopen : ¬ s.Succeeded i := by simp [System.Succeeded, hphase]
      dsimp only
      split
      · rename_i htargets
        subst htargets
        exact h.enter hopen (h.keyed.writes_nothing (.inl i)) (by simp)
          ⟨hunresolved, hassigned, huninserted, hcontent⟩
      · have hwrites := h.keyed.writes_contentItems (.inl i) (p := hasContentId contentId)
          (f := assignTier (requests i).decision.newTier (requests i).decision.tierReason
            (requests i).now) (fun _ => rfl) targets
        refine h.enter hopen hwrites (by simp) ⟨hunresolved, ?_, huninserted, hcontent⟩
        exact Assigned.advance hassigned fun _ _ => rfl
  | insertEvent row contentId previousTier =>
      rw [hphase] at hholds
      obtain ⟨hunresolved, hassigned, huninserted, hcontent⟩ := hholds
      have hopen : ¬ s.Succeeded i := by simp [System.Succeeded, hphase]
      refine h.enter hopen (h.keyed.writes_event (.inl i) _) (by simp)
        ⟨assigned_none hunresolved, fun contentId' hcontent' => ?_⟩
      obtain rfl := Option.some.inj (hcontent.symm.trans hcontent')
      exact ⟨hassigned, eventInserted_insert huninserted _ _⟩
  | updateEscalation row targets =>
      rw [hphase] at hholds
      obtain ⟨hassigned, heffects⟩ := hholds
      have hopen : ¬ s.Succeeded i := by simp [System.Succeeded, hphase]
      dsimp only
      split
      · exact h.fail hopen _
      · split
        · rename_i htargets
          subst htargets
          split
          · rename_i updated hupdated
            obtain ⟨n, hown⟩ := mem_written.mp (List.mem_of_mem_head? hupdated)
            exact h.enter hopen (h.keyed.writes_nothing (.inl i)) (by simp)
              ⟨hassigned, ⟨n, updated, hown⟩, heffects⟩
          · exact h.fail hopen _
        · have hwrites := h.keyed.writes_escalations (.inl i) (p := hasEscalationId escalationId)
            (f := setResolved (requests i).decision (requests i).now (requests i).auth)
            (fun _ => rfl) targets
          refine h.enter hopen hwrites (by simp) ⟨?_, heffects⟩
          exact Assigned.advance hassigned fun row hmatch => ⟨rfl, beq_iff_eq.mp hmatch⟩
  | resolved row updated =>
      rw [hphase] at hsafe
      exact h.commit_resolve hphase hsafe.1 hsafe.2
  | succeeded row updated => exact h
  | failed error => exact h

theorem Invariant.cleanupStatement (h : Invariant requests escalationId db s)
    {cleanups : κ → CleanupRequest} {c : κ} (hsafe : SafeCommit s (.cleanup c)) :
    Invariant requests escalationId db (s.cleanupStatement cleanups c) := by
  have hcleanup := h.cleaning c
  have hproceed : ∀ progress, Invariant requests escalationId db (s.proceed c progress) :=
    h.proceed (h.keyed.writes_nothing (.inr c)) hcleanup
  unfold System.cleanupStatement
  unfold SafeCommit at hsafe
  dsimp only at hsafe ⊢
  cases hphase : (s.cleaning c).phase with
  | selectStale =>
      dsimp only
      split
      · exact hproceed _
      · exact hproceed _
  | expire stale targets =>
      cases stale with
      | nil => exact hproceed _
      | cons stalest stale =>
          dsimp only
          split
          · exact hproceed _
          · have hwrites := h.keyed.writes_escalations (.inr c) (p := hasEscalationId stalest)
              (f := setExpired) (fun _ => rfl) targets
            exact h.proceed hwrites hcleanup _
  | selectCandidates => exact hproceed _
  | selectPending item rest =>
      dsimp only
      split
      · exact hproceed _
      · exact hproceed _
  | selectHub item rest =>
      dsimp only
      split
      · exact hproceed _
      · exact hproceed _
  | selectDecision item rest =>
      dsimp only
      split
      · exact hproceed _
      · split
        · exact hproceed _
        · exact hproceed _
  | archive item rest targets =>
      dsimp only
      split
      · exact hproceed _
      · have hwrites := h.keyed.writes_contentItems (.inr c) (p := hasContentId item.contentId)
          (f := setArchived) (fun _ => rfl) targets
        refine h.proceed hwrites ⟨?_, ?_⟩ _
        · intro n version hown
          rcases ownAt_advance hown with hold | ⟨old, -, -, rfl⟩
          · exact hcleanup.tier n version hold
          · rfl
        · exact hcleanup.event
  | insertEvent item rest =>
      refine h.proceed (h.keyed.writes_event (.inr c) _) ⟨hcleanup.tier, ?_⟩ _
      intro n event hown
      rw [ownAt_insert] at hown
      split at hown
      · obtain rfl := Option.some.inj hown
        rfl
      · exact hcleanup.event n event hown
  | finished =>
      rw [hphase] at hsafe
      exact h.commit_cleanup hsafe.1 hsafe.2 _
  | committed => exact h
  | failed => exact h

theorem Invariant.step (h : Invariant requests escalationId db s)
    {cleanups : κ → CleanupRequest} {action : Action ι κ} (hsafe : SafeCommit s action) :
    Invariant requests escalationId db (s.step requests cleanups escalationId action) := by
  cases action with
  | resolve i => exact h.resolveStatement hsafe
  | cleanup c => exact h.cleanupStatement hsafe
  | abortResolve i =>
      unfold System.step
      dsimp only
      split
      · exact h
      · rename_i hphase
        refine h.fail ?_ _
        rintro ⟨row, updated, hsucceeded⟩
        exact hphase row updated hsucceeded
  | abortCleanup c =>
      unfold System.step
      dsimp only
      split
      · exact h
      · refine h.proceed (h.keyed.writes_abort (.inr c)) ⟨?_, ?_⟩ _
        · intro n item hown
          simp [System.abort] at hown
        · intro n event hown
          simp [System.abort] at hown

end

/-- In every interleaving whose commits are safe, the escalation is resolved at most once and
stays as it was resolved. -/
theorem always_resolvedOnce (requests : ι → ResolveRequest) (cleanups : κ → CleanupRequest)
    (escalationId : EscalationId) (db : Database) {actions : List (Action ι κ)}
    (hsafe : Guarded (System.step requests cleanups escalationId) SafeCommit
      (.ofDatabase cleanups db) actions) :
    Always (System.step requests cleanups escalationId) (ResolvedOnce requests escalationId db)
      (.ofDatabase cleanups db) actions := by
  have hstart : Invariant requests escalationId db (.ofDatabase (ι := ι) cleanups db) := by
    refine ⟨⟨versioned_ofRows _ _, versioned_ofRows _ _, versioned_ofRows _ _⟩, fun i => ?_,
      fun c => ⟨?_, ?_⟩, ⟨?_, ?_⟩, fun _ => ?_⟩
    · exact ⟨ownAt_ofRows _ _, ownAt_ofRows _ _, ownAt_ofRows _ _⟩
    · intro n item hown
      simp [System.ofDatabase] at hown
    · intro n event hown
      simp [System.ofDatabase] at hown
    · rintro i j ⟨row, updated, hi⟩
      cases hi
    · intro i row updated hi
      cases hi
    · simp [System.ofDatabase]
  exact (hsafe.always hstart fun s action h => h.step).mono fun s h => h.resolvedOnce

def launchDatabase : Database :=
  { contentItems := [{ contentId := 7, workspaceId := some 1, tier := some .conflicted }]
    escalations := [
      { escalationId := 5, workspaceId := 1, contentId := some 7, conflictContentId := none,
        conflictType := "direct_contradiction", severity := .requiresReview,
        conflictSummary := none, status := .pending, expiresAt := 100 }] }

/-- One reviewer approves and another rejects. -/
def launchRequests (i : Fin 2) : ResolveRequest :=
  ⟨50, ⟨"reviewer".toList, 1⟩, if i = 0 then .approve else .reject⟩

def launchCleanups (_ : Fin 1) : CleanupRequest := ⟨200, false, ⟨"operator".toList, 1⟩⟩

/-- The second reviewer comes after the first one has committed. -/
theorem always_resolvedOnce_launch :
    Always (System.step launchRequests launchCleanups 5)
      (ResolvedOnce launchRequests 5 launchDatabase) (.ofDatabase launchCleanups launchDatabase)
      (List.replicate 10 (.resolve 0) ++ .resolve 1 :: List.replicate 5 (.cleanup 0)) :=
  always_resolvedOnce launchRequests launchCleanups 5 launchDatabase (by decide +kernel)

/-- Both reviewers read the pending escalation before either commits. -/
theorem not_resolvedOnce_race :
    let s := run (System.step launchRequests launchCleanups 5)
      (.ofDatabase launchCleanups launchDatabase)
      (.resolve 1 :: List.replicate 10 (.resolve 0) ++ List.replicate 9 (.resolve 1) ++
        List.replicate 5 (.cleanup 0))
    (∀ i, s.Succeeded i) ∧ (∀ c, (s.cleaning c).phase = .committed) ∧
      ¬ ResolvedOnce launchRequests 5 launchDatabase s := by
  intro s
  have hsucceeded : ∀ i, s.Succeeded i := by decide +kernel
  refine ⟨hsucceeded, by decide +kernel, fun h => ?_⟩
  exact absurd (h.single 0 1 (hsucceeded 0) (hsucceeded 1)) (by decide)

end MemoryLab.Escalations

import MemoryLab.Library.Runs
import MemoryLab.Model.ClassifyConcurrency

/-! # The type of a content and its history

Whoever has written the content's row holds it until the commit, so the history is rewritten by
one transaction at a time, unless a run of the job goes on although its `UPDATE` found no row. -/

namespace MemoryLab.Classify

open Library Library.Rows ReadCommitted Runs Adapter

variable {κ : Type*} [DecidableEq κ]

/-- At most one classification of the content is active, and it names the content's type. -/
structure Agrees (contentId : ContentId) (s : System κ) : Prop where
  single : ((committed s.history).filter (isActiveOf contentId)).length ≤ 1
  same : ∀ row ∈ committed s.history, isActiveOf contentId row = true →
    ∀ item ∈ committed s.contentItems, item.contentId = contentId →
      item.memoryType = some row.memoryType

instance (contentId : ContentId) (s : System κ) : Decidable (Agrees contentId s) :=
  decidable_of_iff (((committed s.history).filter (isActiveOf contentId)).length ≤ 1 ∧
    ∀ row ∈ committed s.history, isActiveOf contentId row = true →
      ∀ item ∈ committed s.contentItems, item.contentId = contentId →
        item.memoryType = some row.memoryType) ⟨fun h => ⟨h.1, h.2⟩, fun h => ⟨h.1, h.2⟩⟩

/-- A run of the job that goes on to the history has written the content's row. -/
def SafeStep (s : System κ) : WriteAction κ → Prop
  | .next (.catchup k) =>
    s.phases (.catchup k) = .updateContent (some []) →
      written (.catchup k) s.contentItems ≠ []
  | .next .ingest => True
  | .abort _ => True

instance (s : System κ) (action : WriteAction κ) : Decidable (SafeStep s action) := by
  unfold SafeStep
  split <;> infer_instance

/-! ## What a transaction has written -/

def Unwritten {ρ : Type*} (w : Writer κ) (table : Table (Writer κ) ρ) : Prop :=
  ∀ n, ownAt w table n = none

/-- The rows of contents that a transaction has written are the content's, with its type. -/
def Typed (write : ClassificationWrite) (contentId : ContentId) (w : Writer κ)
    (items : Table (Writer κ) ContentItem) : Prop :=
  ∀ n version, ownAt w items n = some version →
    version.contentId = contentId ∧ version.memoryType = some write.result.memoryType

/-- The transaction holds the content's row, and has put its type into it. -/
def Locked (write : ClassificationWrite) (w : Writer κ) (position : ℕ)
    (items : Table (Writer κ) ContentItem) : Prop :=
  ∃ version, ownAt w items position = some version ∧
    version.memoryType = some write.result.memoryType

/-- The deactivation, so far. -/
def Deactivated (contentId : ContentId) (w : Writer κ) :
    Table (Writer κ) ClassificationRow → Option (List ℕ) → Prop :=
  Assigned w (isActiveOf contentId) fun row => row.isActiveClassification = false

/-- The history is rewritten: what was active has been written, and one new row is active. -/
structure Rewritten (write : ClassificationWrite) (contentId : ContentId) (w : Writer κ)
    (history : Table (Writer κ) ClassificationRow) : Prop where
  covered : Covered w (isActiveOf contentId) history (some [])
  active : ∃ m, ∀ n row, ownAt w history n = some row → isActiveOf contentId row = true →
    n = m ∧ row.memoryType = write.result.memoryType

/-- What a transaction has written when it reaches a phase; the content's row is at the
position. -/
def WritePhase.Holds (write : ClassificationWrite) (contentId : ContentId) (position : ℕ)
    (w : Writer κ) (items : Table (Writer κ) ContentItem)
    (history : Table (Writer κ) ClassificationRow) : WritePhase → Prop
  | .selectMemoryType | .selectHistory | .classified | .skipped | .failed =>
      Unwritten w items ∧ Unwritten w history
  | .updateClassified _ =>
      Unwritten w items ∧ Unwritten w history ∧ w ≠ .ingest ∧
        ∃ item, committedAt items position = some item ∧ item.memoryType ≠ none
  | .updateContent targets =>
      Typed write contentId w items ∧ Unwritten w history ∧
        (w = .ingest → Covered w (hasContentId contentId) items targets)
  | .deactivate targets =>
      Typed write contentId w items ∧ Locked write w position items ∧
        Deactivated contentId w history targets
  | .insertHistory =>
      Typed write contentId w items ∧ Locked write w position items ∧
        Deactivated contentId w history (some [])
  | .written =>
      Typed write contentId w items ∧ Locked write w position items ∧
        Rewritten write contentId w history

/-! ## Steps of the others -/

section

variable {write : ClassificationWrite} {contentId : ContentId} {position : ℕ} {w u : Writer κ}
  {items items' : Table (Writer κ) ContentItem}
  {history history' : Table (Writer κ) ClassificationRow} {phase : WritePhase}

theorem Unwritten.typed (h : Unwritten w items) : Typed write contentId w items := by
  intro n version hown
  rw [h n] at hown
  cases hown

theorem WritePhase.Holds.typed (h : phase.Holds write contentId position w items history) :
    Typed write contentId w items := by
  cases phase with
  | updateContent => exact h.1
  | deactivate => exact h.1
  | insertHistory => exact h.1
  | written => exact h.1
  | selectMemoryType => exact h.1.typed
  | selectHistory => exact h.1.typed
  | updateClassified => exact h.1.typed
  | classified => exact h.1.typed
  | skipped => exact h.1.typed
  | failed => exact h.1.typed

/-- How the tables change for a transaction while another takes a step. -/
structure Evolve (write : ClassificationWrite) (contentId : ContentId) (position : ℕ)
    (w : Writer κ) (items items' : Table (Writer κ) ContentItem)
    (history history' : Table (Writer κ) ClassificationRow) : Prop where
  ownItems : ownAt w items' = ownAt w items
  ownHistory : ownAt w history' = ownAt w history
  key : ∀ n row, committedAt items' n = some row → hasContentId contentId row = true →
    ∃ old, committedAt items n = some old ∧ hasContentId contentId old = true
  classified : ∀ item, committedAt items position = some item → item.memoryType ≠ none →
    ∃ item', committedAt items' position = some item' ∧ item'.memoryType ≠ none
  locked : Locked write w position items → committedAt history' = committedAt history

theorem Unwritten.congr {ρ : Type*} {table other : Table (Writer κ) ρ} (h : Unwritten w table)
    (hown : ownAt w other = ownAt w table) : Unwritten w other := by
  intro n
  rw [hown]
  exact h n

theorem Typed.congr (h : Typed write contentId w items)
    (hown : ownAt w items' = ownAt w items) : Typed write contentId w items' := by
  unfold Typed
  rw [hown]
  exact h

theorem Locked.congr (h : Locked write w position items)
    (hown : ownAt w items' = ownAt w items) : Locked write w position items' := by
  unfold Locked
  rw [hown]
  exact h

theorem covered_congr {targets : Option (List ℕ)}
    (h : Covered w (isActiveOf contentId) history targets)
    (hown : ownAt w history' = ownAt w history)
    (hcommitted : committedAt history' = committedAt history) :
    Covered w (isActiveOf contentId) history' targets :=
  h.congr hown fun n row hrow hp => ⟨row, by rw [← hcommitted]; exact hrow, hp⟩

theorem Deactivated.congr {targets : Option (List ℕ)}
    (h : Deactivated contentId w history targets) (hown : ownAt w history' = ownAt w history)
    (hcommitted : committedAt history' = committedAt history) :
    Deactivated contentId w history' targets := by
  refine ⟨covered_congr h.covered hown hcommitted, ?_⟩
  rw [hown]
  exact h.own

/-- What a transaction has written stands while another takes a step. -/
theorem WritePhase.Holds.evolve (h : phase.Holds write contentId position w items history)
    (hevolve : Evolve write contentId position w items items' history history') :
    phase.Holds write contentId position w items' history' := by
  have hi := hevolve.ownItems
  have hh := hevolve.ownHistory
  cases phase with
  | selectMemoryType => exact ⟨h.1.congr hi, h.2.congr hh⟩
  | selectHistory => exact ⟨h.1.congr hi, h.2.congr hh⟩
  | classified => exact ⟨h.1.congr hi, h.2.congr hh⟩
  | skipped => exact ⟨h.1.congr hi, h.2.congr hh⟩
  | failed => exact ⟨h.1.congr hi, h.2.congr hh⟩
  | updateClassified targets =>
      obtain ⟨hitems, hhistory, hjob, item, hitem, htype⟩ := h
      exact ⟨hitems.congr hi, hhistory.congr hh, hjob, hevolve.classified item hitem htype⟩
  | updateContent targets =>
      obtain ⟨htyped, hhistory, hcovered⟩ := h
      exact ⟨htyped.congr hi, hhistory.congr hh, fun hw => (hcovered hw).congr hi hevolve.key⟩
  | deactivate targets =>
      obtain ⟨htyped, hlocked, hdeactivated⟩ := h
      exact ⟨htyped.congr hi, hlocked.congr hi, hdeactivated.congr hh (hevolve.locked hlocked)⟩
  | insertHistory =>
      obtain ⟨htyped, hlocked, hdeactivated⟩ := h
      exact ⟨htyped.congr hi, hlocked.congr hi, hdeactivated.congr hh (hevolve.locked hlocked)⟩
  | written =>
      obtain ⟨htyped, hlocked, hcovered, hactive⟩ := h
      refine ⟨htyped.congr hi, hlocked.congr hi, ?_, ?_⟩
      · exact covered_congr hcovered hh (hevolve.locked hlocked)
      · rw [hh]
        exact hactive

end

/-! ## Runs -/

/-- The content's row is at the position, and the committed history agrees with it. -/
structure Invariant (writes : Writes κ) (contentId : ContentId) (position : ℕ) (s : System κ) :
    Prop where
  row : ∃ item, committedAt s.contentItems position = some item ∧ item.contentId = contentId
  only : ∀ n item, committedAt s.contentItems n = some item → item.contentId = contentId →
    n = position
  keyed : UpdatesOnly (·.contentId) s.contentItems
  holds : ∀ w, (s.phases w).Holds (writes.of w) contentId position w s.contentItems s.history
  single : ∀ n m row other, committedAt s.history n = some row →
    committedAt s.history m = some other → isActiveOf contentId row = true →
    isActiveOf contentId other = true → n = m
  same : ∀ n row, committedAt s.history n = some row → isActiveOf contentId row = true →
    ∀ item, committedAt s.contentItems position = some item →
      item.memoryType = some row.memoryType

section

variable {writes : Writes κ} {contentId : ContentId} {position : ℕ} {s next : System κ}
  {w : Writer κ}

theorem Invariant.agrees (h : Invariant writes contentId position s) : Agrees contentId s := by
  refine ⟨length_filter_committed_le_one h.single, fun row hrow hactive item hitem hid => ?_⟩
  · obtain ⟨n, hn⟩ := mem_committed.mp hrow
    obtain ⟨m, hm⟩ := mem_committed.mp hitem
    obtain rfl := h.only m item hm hid
    exact h.same n row hn hactive item hm

/-- A transaction enters a phase after a statement that commits nothing. -/
theorem Invariant.enter (h : Invariant writes contentId position s) (next : System κ)
    (hkeyed : UpdatesOnly (·.contentId) next.contentItems)
    (hitems : WrittenBy w s.contentItems next.contentItems)
    (hhistory : WrittenBy w s.history next.history) (hphases : next.phases = s.phases)
    (phase : WritePhase)
    (hholds : phase.Holds (writes.of w) contentId position w next.contentItems next.history) :
    Invariant writes contentId position (next.enter w phase) := by
  have hci := hitems.committedAt_eq
  have hch := hhistory.committedAt_eq
  refine ⟨?_, ?_, hkeyed, fun u => ?_, ?_, ?_⟩
  · simp only [System.enter, hci]
    exact h.row
  · simp only [System.enter, hci]
    exact h.only
  · by_cases hne : u = w
    · subst hne
      simp only [System.enter, Function.update_self]
      exact hholds
    · simp only [System.enter, Function.update_of_ne hne, hphases]
      refine (h.holds u).evolve ⟨hitems.ownAt_eq u hne, hhistory.ownAt_eq u hne, ?_, ?_, ?_⟩
      · intro n row hrow hp
        exact ⟨row, by rw [← hci]; exact hrow, hp⟩
      · intro item hitem htype
        exact ⟨item, by rw [hci]; exact hitem, htype⟩
      · exact fun _ => hch
  · simp only [System.enter, hch]
    exact h.single
  · simp only [System.enter, hci, hch]
    exact h.same

theorem Invariant.fail (h : Invariant writes contentId position s) (w : Writer κ) :
    Invariant writes contentId position (s.fail w) :=
  h.enter (s.abort w) (h.keyed.abort w) (writtenBy_abort w _) (writtenBy_abort w _) rfl .failed
    ⟨ownAt_abort w _, ownAt_abort w _⟩

theorem contentId_setClassification (result : ClassificationResult) (item : ContentItem) :
    (setClassification result item).contentId = item.contentId :=
  rfl

/-- A step of an `UPDATE` of contents. -/
theorem Invariant.advance_contents (h : Invariant writes contentId position s)
    (targets : Option (List ℕ)) (phase : WritePhase)
    (hholds : phase.Holds (writes.of w) contentId position w
      (advance w (updatedBy contentId w) (setClassification (writes.of w).result)
        s.contentItems targets).1 s.history) :
    Invariant writes contentId position (System.enter { s with
      contentItems := (advance w (updatedBy contentId w)
        (setClassification (writes.of w).result) s.contentItems targets).1 } w phase) :=
  h.enter { s with contentItems := (advance w (updatedBy contentId w)
      (setClassification (writes.of w).result) s.contentItems targets).1 }
    (updatesOnly_advance h.keyed (contentId_setClassification (writes.of w).result) targets)
    (writtenBy_advance ..) (.refl w _) rfl phase hholds

/-- A step of a statement about the history. -/
theorem Invariant.write_history (h : Invariant writes contentId position s)
    {history : Table (Writer κ) ClassificationRow} (hwritten : WrittenBy w s.history history)
    (phase : WritePhase)
    (hholds : phase.Holds (writes.of w) contentId position w s.contentItems history) :
    Invariant writes contentId position (System.enter { s with history } w phase) :=
  h.enter { s with history } h.keyed (.refl w _) hwritten rfl phase hholds

/-- A transaction that has written nothing commits. -/
theorem Invariant.commit_unwritten (h : Invariant writes contentId position s)
    (hitems : Unwritten w s.contentItems) (hhistory : Unwritten w s.history) :
    Invariant writes contentId position ((s.commit w).enter w .classified) := by
  exact h.enter (s.commit w) (h.keyed.commit w) (writtenBy_commit_of_ownAt_eq_none hitems)
    (writtenBy_commit_of_ownAt_eq_none hhistory) rfl .classified
    ⟨ownAt_commit w _, ownAt_commit w _⟩

/-- Only one transaction holds the content's row. -/
theorem Locked.unique {write write' : ClassificationWrite} {u : Writer κ}
    (h : Locked write w position s.contentItems) (h' : Locked write' u position s.contentItems) :
    u = w := by
  obtain ⟨version, hversion, -⟩ := h
  obtain ⟨version', hversion', -⟩ := h'
  by_contra hne
  rw [ownAt_of_ne hne hversion] at hversion'
  cases hversion'

/-- The transaction that has rewritten the history commits. -/
theorem Invariant.commit_written (h : Invariant writes contentId position s)
    (hphase : s.phases w = .written) :
    Invariant writes contentId position ((s.commit w).enter w .classified) := by
  have hholds := h.holds w
  rw [hphase] at hholds
  obtain ⟨htyped, hlocked, hcovered, m, hactive⟩ := hholds
  obtain ⟨version, hversion, htype⟩ := hlocked
  have hitem : committedAt (ReadCommitted.commit w s.contentItems) position = some version := by
    rw [committedAt_commit, hversion, Option.some_or]
  -- an active row of the new history is the one that was inserted
  have honly : ∀ n row, committedAt (ReadCommitted.commit w s.history) n = some row →
      isActiveOf contentId row = true →
        n = m ∧ row.memoryType = (writes.of w).result.memoryType := by
    intro n row hrow hrowActive
    rw [committedAt_commit] at hrow
    cases hown : ownAt w s.history n with
    | some own =>
        rw [hown, Option.some_or] at hrow
        obtain rfl := Option.some.inj hrow
        exact hactive n own hown hrowActive
    | none =>
        rw [hown, Option.none_or] at hrow
        rcases hcovered [] rfl n row hrow hrowActive with hnil | ⟨own, hsome⟩
        · cases hnil
        · rw [hown] at hsome
          cases hsome
  have hkeys := evolves_commit h.keyed w
  refine ⟨⟨version, hitem, (htyped position version hversion).1⟩, fun n item hn hid => ?_,
    h.keyed.commit w, fun u => ?_, fun n k row other hn hk hrow hother => ?_,
    fun n row hn hrow item hcommitted => ?_⟩
  · obtain ⟨old, hold, hkey⟩ := hkeys.key n item hn
    exact h.only n old hold (hkey.trans hid)
  · by_cases hne : u = w
    · subst hne
      simp only [System.enter, Function.update_self]
      exact ⟨ownAt_commit u _, ownAt_commit u _⟩
    · simp only [System.enter, Function.update_of_ne hne]
      refine (h.holds u).evolve ⟨ownAt_commit_of_ne hne _, ownAt_commit_of_ne hne _, ?_, ?_, ?_⟩
      · intro n row hrow hp
        obtain ⟨old, hold, hkey⟩ := hkeys.key n row hrow
        exact ⟨old, hold, by rw [hasContentId, hkey]; exact hp⟩
      · intro item _ _
        exact ⟨version, hitem, by rw [htype]; exact Option.some_ne_none _⟩
      · intro hother
        exact absurd (Locked.unique ⟨version, hversion, htype⟩ hother) hne
  · rw [(honly n row hn hrow).1, (honly k other hk hother).1]
  · obtain rfl := Option.some.inj (hitem.symm.trans hcommitted)
    rw [htype, (honly n row hn hrow).2]

/-! ## Statements -/

/-- An `UPDATE` of contents takes a step. -/
theorem Typed.advance {write : ClassificationWrite}
    (htyped : Typed write contentId w s.contentItems)
    (targets : Option (List ℕ)) :
    Typed write contentId w (ReadCommitted.advance w (updatedBy contentId w)
      (setClassification write.result) s.contentItems targets).1 := by
  intro n version hown
  rcases ownAt_advance hown with hold | ⟨old, -, hp, rfl⟩
  · exact htyped n version hold
  · refine ⟨?_, rfl⟩
    cases w with
    | ingest => exact beq_iff_eq.mp hp
    | catchup k => exact beq_iff_eq.mp ((Bool.and_eq_true ..).mp hp).1

/-- What is written in the content's row keeps it locked. -/
theorem Invariant.locked (h : Invariant writes contentId position s)
    (htyped : Typed (writes.of w) contentId w s.contentItems) {n : ℕ} {version : ContentItem}
    (hown : ownAt w s.contentItems n = some version) :
    Locked (writes.of w) w position s.contentItems := by
  obtain ⟨old, hold, hkey⟩ := h.keyed w n version hown
  obtain ⟨hid, htype⟩ := htyped n version hown
  obtain rfl := h.only n old hold (hkey.trans hid)
  exact ⟨version, hown, htype⟩

/-- What has a type is not written by the job. -/
theorem Invariant.unwritten_advance (h : Invariant writes contentId position s)
    (hitems : Unwritten w s.contentItems) (hjob : w ≠ .ingest) {item : ContentItem}
    (hitem : committedAt s.contentItems position = some item) (htype : item.memoryType ≠ none)
    (targets : Option (List ℕ)) :
    Unwritten w (advance w (updatedBy contentId w) (setClassification (writes.of w).result)
      s.contentItems targets).1 := by
  intro n
  rw [Option.eq_none_iff_forall_ne_some]
  intro version hown
  rcases ownAt_advance hown with hold | ⟨old, hseen, hp, -⟩
  · rw [hitems n] at hold
    cases hold
  · rw [seenAt_eq, hitems n, Option.none_or] at hseen
    cases w with
    | ingest => exact hjob rfl
    | catchup k =>
        obtain ⟨hid, hempty⟩ := (Bool.and_eq_true ..).mp hp
        obtain rfl := h.only n old hseen (beq_iff_eq.mp hid)
        obtain rfl := Option.some.inj (hitem.symm.trans hseen)
        exact htype (Option.isNone_iff_eq_none.mp hempty)

/-- A transaction whose `UPDATE` of contents is complete holds the content's row. -/
theorem Invariant.locked_of_updated (h : Invariant writes contentId position s)
    (htyped : Typed (writes.of w) contentId w s.contentItems)
    (hcovered : w = .ingest → Covered w (hasContentId contentId) s.contentItems (some []))
    (hwritten : ∀ k, w = .catchup k → written (.catchup k) s.contentItems ≠ []) :
    Locked (writes.of w) w position s.contentItems := by
  cases w with
  | ingest =>
      obtain ⟨item, hitem, hid⟩ := h.row
      rcases hcovered rfl [] rfl position item hitem (beq_iff_eq.mpr hid) with hnil | ⟨own, hown⟩
      · cases hnil
      · exact h.locked htyped hown
  | catchup k =>
      obtain ⟨version, hversion⟩ := List.exists_mem_of_ne_nil _ (hwritten k rfl)
      obtain ⟨n, hown⟩ := mem_written.mp hversion
      exact h.locked htyped hown

theorem Invariant.statement (h : Invariant writes contentId position s)
    (workspaceId : WorkspaceId) (hsafe : SafeStep s (.next w)) :
    Invariant writes contentId position (s.statement writes workspaceId contentId w) := by
  have hholds := h.holds w
  have hstay : ∀ phase : WritePhase,
      phase.Holds (writes.of w) contentId position w s.contentItems s.history →
        Invariant writes contentId position (s.enter w phase) := fun phase =>
    h.enter s h.keyed (.refl w _) (.refl w _) rfl phase
  unfold System.statement
  dsimp only
  cases hphase : s.phases w with
  | selectMemoryType =>
      rw [hphase] at hholds
      dsimp only
      split
      · exact hstay _ hholds
      · exact hstay _ hholds
  | selectHistory =>
      rw [hphase] at hholds
      obtain ⟨hitems, hhistory⟩ := hholds
      dsimp only
      split
      · rename_i hsame
        cases w with
        | ingest => exact hstay _ ⟨hitems, hhistory⟩
        | catchup k =>
            refine hstay _ ⟨hitems, hhistory, nofun, ?_⟩
            rw [seenBy_of_ownAt_eq_none hhistory, List.any_eq_true] at hsame
            obtain ⟨row, hrow, hmatch⟩ := hsame
            obtain ⟨n, hn⟩ := mem_committed.mp hrow
            obtain ⟨item, hitem, -⟩ := h.row
            have hactive : isActiveOf contentId row = true := by
              simp only [isSameActive, isActiveOf, Bool.and_eq_true] at hmatch ⊢
              exact ⟨hmatch.1.1.1, hmatch.2⟩
            refine ⟨item, hitem, ?_⟩
            rw [h.same n row hn hactive item hitem]
            exact Option.some_ne_none _
      · exact hstay _ ⟨hitems.typed, hhistory, fun _ => covered_none w _ _⟩
  | updateClassified targets =>
      rw [hphase] at hholds
      obtain ⟨hitems, hhistory, hjob, item, hitem, htype⟩ := hholds
      dsimp only
      split
      · exact h.fail w
      · split
        · exact h.commit_unwritten hitems hhistory
        · have hnone := h.unwritten_advance hitems hjob hitem htype targets
          have hwritten := writtenBy_advance w (updatedBy contentId w)
            (setClassification (writes.of w).result) s.contentItems targets
          exact h.advance_contents targets _
            ⟨hnone, hhistory, hjob, item, hwritten.committedAt_eq ▸ hitem, htype⟩
  | updateContent targets =>
      rw [hphase] at hholds
      obtain ⟨htyped, hhistory, hcovered⟩ := hholds
      dsimp only
      split
      · exact h.fail w
      · split
        · rename_i htargets
          subst htargets
          have hlocked := h.locked_of_updated htyped hcovered fun k hk => by
            subst hk
            exact hsafe hphase
          exact hstay _ ⟨htyped, hlocked, assigned_none hhistory⟩
        · refine h.advance_contents targets _ ⟨htyped.advance targets, hhistory, fun hw => ?_⟩
          subst hw
          exact (hcovered rfl).advance
  | deactivate targets =>
      rw [hphase] at hholds
      obtain ⟨htyped, hlocked, hdeactivated⟩ := hholds
      dsimp only
      split
      · rename_i htargets
        subst htargets
        exact hstay _ ⟨htyped, hlocked, hdeactivated⟩
      · exact h.write_history (writtenBy_advance ..) _
          ⟨htyped, hlocked, Assigned.advance hdeactivated fun _ _ => rfl⟩
  | insertHistory =>
      rw [hphase] at hholds
      obtain ⟨htyped, hlocked, hdeactivated⟩ := hholds
      dsimp only
      split
      · exact h.fail w
      · refine h.write_history (writtenBy_insert ..) _
          ⟨htyped, hlocked, hdeactivated.covered.insert _, s.history.length, ?_⟩
        intro n row hown hactive
        rw [ownAt_insert] at hown
        split at hown
        · obtain rfl := Option.some.inj hown
          exact ⟨‹_›, rfl⟩
        · have hinactive := hdeactivated.own n row hown
          rw [isActiveOf, hinactive, Bool.and_false] at hactive
          cases hactive
  | written => exact h.commit_written hphase
  | classified => exact h
  | skipped => exact h
  | failed => exact h

theorem Invariant.step (h : Invariant writes contentId position s) (workspaceId : WorkspaceId)
    {action : WriteAction κ} (hsafe : SafeStep s action) :
    Invariant writes contentId position (s.step writes workspaceId contentId action) := by
  cases action with
  | next w => exact h.statement workspaceId hsafe
  | abort w =>
      unfold System.step
      dsimp only
      split
      · exact h
      · exact h.fail w

end

/-- In every interleaving in which each run of the job that rewrites the history has written
the content's type, the history names that type, and once. -/
theorem always_agrees (writes : Writes κ) (workspaceId : WorkspaceId) (contentId : ContentId)
    (db : Database) (hkeys : db.contentIds.Nodup)
    (hitem : ∃ item ∈ db.contentItems, item.contentId = contentId ∧ item.memoryType = none)
    (hhistory : ∀ row ∈ db.classificationHistory, row.contentId ≠ contentId)
    {actions : List (WriteAction κ)}
    (hsafe : Guarded (System.step writes workspaceId contentId) SafeStep (.ofDatabase db)
      actions) :
    Always (System.step writes workspaceId contentId) (Agrees contentId) (.ofDatabase db)
      actions := by
  obtain ⟨item, hmem, hid, -⟩ := hitem
  obtain ⟨position, hposition⟩ := List.mem_iff_getElem?.mp hmem
  have hnone : ∀ n row, committedAt (ofRows (ι := Writer κ) db.classificationHistory) n =
      some row → isActiveOf contentId row = true → False := by
    intro n row hrow hactive
    rw [committedAt_ofRows] at hrow
    exact hhistory row (List.mem_of_getElem? hrow) (beq_iff_eq.mp
      ((Bool.and_eq_true ..).mp hactive).1)
  have hstart : Invariant writes contentId position (.ofDatabase db) := by
    refine ⟨⟨item, by simp [System.ofDatabase, hposition], hid⟩, fun n other hn hother => ?_,
      versioned_ofRows _ _, fun w => ?_, fun n m row other hn hm hrow => ?_,
      fun n row hn hrow => ?_⟩
    · simp only [System.ofDatabase, committedAt_ofRows] at hn
      have hlt : n < db.contentIds.length := by
        rw [Database.contentIds, List.length_map]
        exact (List.getElem?_eq_some_iff.mp hn).1
      refine (List.getElem?_inj hlt hkeys).mp ?_
      simp [Database.contentIds, hn, hposition, hother, hid]
    · cases w with
      | ingest => exact ⟨ownAt_ofRows _ _, ownAt_ofRows _ _⟩
      | catchup k => exact ⟨ownAt_ofRows _ _, ownAt_ofRows _ _⟩
    · exact (hnone n row hn hrow).elim
    · exact (hnone n row hn hrow).elim
  exact (hsafe.always hstart fun s action h => h.step workspaceId).mono fun s h => h.agrees

/-! ## A save beside a run of the job -/

def untypedDatabase : Database :=
  { contentItems := [{ contentId := 7, workspaceId := some 1 }] }

/-- The save is told that the content is an anchor, the job takes it for a decision. -/
def anchorWrites : Writes (Fin 1) :=
  { ingest := ⟨{ memoryType := .anchor, confidence := 1 }, trustedClassifierVersion⟩,
    catchup := fun _ => { memoryType := .decision, confidence := 72 / 100 } }

def ingestSteps : List (WriteAction (Fin 1)) := List.replicate 9 (.next .ingest)

def catchupSteps : List (WriteAction (Fin 1)) := List.replicate 10 (.next (.catchup 0))

theorem always_agrees_anchor :
    Always (System.step anchorWrites 1 7) (Agrees 7) (.ofDatabase untypedDatabase)
      (ingestSteps ++ catchupSteps) :=
  always_agrees anchorWrites 1 7 untypedDatabase (by decide)
    ⟨{ contentId := 7, workspaceId := some 1 }, List.mem_singleton_self _, rfl, rfl⟩
    (fun _ hrow => nomatch hrow) (by decide +kernel)

/-- The job reads that there is no type before the save commits one. -/
theorem not_agrees_race :
    let s := Runs.run (System.step anchorWrites 1 7) (.ofDatabase untypedDatabase)
      (.next (.catchup 0) :: .next (.catchup 0) :: ingestSteps ++ catchupSteps)
    s.phases .ingest = .classified ∧ (∀ k, s.phases (.catchup k) = .classified) ∧
      ¬ Agrees 7 s := by
  decide +kernel

end MemoryLab.Classify

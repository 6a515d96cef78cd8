import MemoryLab.Library.Runs
import MemoryLab.Model.ScorerCircuit

/-! # The scorer's circuit stays open -/

namespace MemoryLab.Scorer

open Library
open Library.Runs

/-! ## What a step does to the circuit -/

/-- The process from which an outcome's failure is recorded, when one is. -/
def failingFrom (p : Process) : Outcome → Option Process
  | .responded true failureReason _ =>
    if failureReason.any (· ∈ transientCodes) then some p else none
  | .responded false _ serializable => if serializable then none else some (recordSuccess p)
  | .raised => some p

/-- The time at which a step opens the circuit. -/
def opensAt (config : CircuitConfig) (p : Process) : Label → Option ℚ
  | .record call clock _ =>
    match stageOf p call with
    | some (.answered outcome) =>
      match failingFrom p outcome with
      | some p =>
        if config.failureThreshold ≤ (recentFailures config p clock.first).length then
          some clock.second
        else none
      | none => none
    | _ => none
  | _ => none

/-- The time at which a call passes the check of the circuit. -/
def passesAt (p : Process) : Label → Option ℚ
  | .check call content _ clock db =>
    if stageOf p call ≠ none ∨ content.strip = [] then none
    else if (isCircuitOpen p clock db).1 then none else some clock.third
  | _ => none


variable {config : CircuitConfig} {p : Process} {labels : List Label} {label : Label}
  {clock : Clock} {db : DatabaseAccess} {outcome : Outcome} {deadline t now : ℚ} {call : ℕ}

def Label.clock? : Label → Option Clock
  | .check _ _ _ clock _ => some clock
  | .record _ clock _ => some clock
  | .answer _ _ => none

/-- The clock never goes back from one step to a later one. -/
def Ordered (labels : List Label) : Prop :=
  (labels.filterMap Label.clock?).Pairwise fun a b => a.third ≤ b.first

instance (labels : List Label) : Decidable (Ordered labels) :=
  inferInstanceAs (Decidable (List.Pairwise _ _))

/-- The process, with the end of the latest opening's window. -/
structure Tracked where
  process : Process
  deadline : Option ℚ := none

def trackedStep (config : CircuitConfig) (s : Tracked) (label : Label) : Tracked where
  process := step config s.process label
  deadline := match opensAt config s.process label with
    | some t => some (t + config.openDurationSeconds)
    | none => s.deadline

/-- The outcomes for which the backend's success is recorded. -/
def Outcome.succeeds : Outcome → Bool
  | .responded degraded _ _ => !degraded
  | .raised => false

/-- The step records a success of its call. -/
def recordsSuccess (p : Process) (call : ℕ) : Bool :=
  match stageOf p call with
  | some (.answered outcome) => outcome.succeeds
  | _ => false

/-- A success recorded within the window finds a row that lasts as long, and a check within the
window reads the clock before the deadline in memory or reaches the database. -/
def Keeps (s : Tracked) : Label → Prop
  | .record call clock _ =>
    recordsSuccess s.process call = true → ∀ deadline ∈ s.deadline, clock.first < deadline →
      ∃ row ∈ s.process.circuitState, deadline ≤ row.expiresAt
  | .check _ _ _ clock db =>
    ∀ deadline ∈ s.deadline, clock.third < deadline →
      clock.first < s.process.circuitOpenUntil ∨ db = .reachable
  | .answer _ _ => True

instance Keeps.decidable (s : Tracked) : (label : Label) → Decidable (Keeps s label)
  | .record call clock _ => inferInstanceAs (Decidable
      (recordsSuccess s.process call = true → ∀ deadline ∈ s.deadline, clock.first < deadline →
        ∃ row ∈ s.process.circuitState, deadline ≤ row.expiresAt))
  | .check _ _ _ clock db => inferInstanceAs (Decidable
      (∀ deadline ∈ s.deadline, clock.third < deadline →
        clock.first < s.process.circuitOpenUntil ∨ db = .reachable))
  | .answer _ _ => instDecidableTrue

/-! ## What keeps the circuit open -/

/-- The window is covered by the deadline in memory or by the row in the table. -/
def Covers (deadline : ℚ) (p : Process) : Prop :=
  deadline ≤ p.circuitOpenUntil ∨
    ∃ row, p.circuitState = some row ∧ deadline ≤ row.expiresAt

theorem Covers.setStage {stage : Stage} (h : Covers deadline p) :
    Covers deadline (p.setStage call stage) := h

theorem covers_syncCircuitFromDb
    (h : ∃ row, p.circuitState = some row ∧ deadline ≤ row.expiresAt) :
    Covers deadline (syncCircuitFromDb p now db) := by
  unfold syncCircuitFromDb
  split
  · split
    · exact .inr h
    · exact .inr h
  · exact .inr h

theorem covers_isCircuitOpen (h : Covers deadline p) (hearly : clock.third < deadline) :
    Covers deadline (isCircuitOpen p clock db).2 := by
  have hfirst : clock.first < deadline :=
    (clock.ordered.1.trans clock.ordered.2).trans_lt hearly
  rw [isCircuitOpen]
  split
  · exact h
  · rename_i hover
    have hrow := h.resolve_left fun hmemory => hover (hfirst.trans_le hmemory)
    exact covers_syncCircuitFromDb hrow

/-- Within the window a check that sees the deadline finds the circuit open. -/
theorem isCircuitOpen_of_covers (h : Covers deadline p) (hearly : clock.third < deadline)
    (hsees : clock.first < p.circuitOpenUntil ∨ db = .reachable) :
    (isCircuitOpen p clock db).1 = true := by
  rw [isCircuitOpen]
  split
  · rfl
  · rename_i hover
    have hfirst : clock.first < deadline :=
      (clock.ordered.1.trans clock.ordered.2).trans_lt hearly
    obtain ⟨row, hrow, hlasts⟩ := h.resolve_left fun hmemory => hover (hfirst.trans_le hmemory)
    have hahead : clock.third < row.expiresAt := hearly.trans_le hlasts
    simp [syncCircuitFromDb, hsees.resolve_left hover, hrow, clock.ordered.2.trans_lt hahead,
      hahead]

theorem covers_recordFailure (h : Covers deadline p)
    (hopening : deadline ≤ clock.second + config.openDurationSeconds) :
    Covers deadline (recordFailure config p clock db) := by
  rw [recordFailure]
  split
  · exact .inl hopening
  · exact h

theorem covers_recordOutcome (h : Covers deadline p)
    (hopening : deadline ≤ clock.second + config.openDurationSeconds)
    (hsuccess : outcome.succeeds = true →
      ∃ row, p.circuitState = some row ∧ deadline ≤ row.expiresAt) :
    Covers deadline (recordOutcome config p clock db outcome).1 := by
  cases outcome with
  | raised => exact covers_recordFailure h hopening
  | responded degraded failureReason serializable =>
      cases degraded with
      | true =>
          rw [recordOutcome]
          split
          · exact covers_recordFailure h hopening
          · exact h
      | false =>
          have hreset : Covers deadline (recordSuccess p) := .inr (hsuccess rfl)
          cases serializable with
          | true => exact hreset
          | false => exact covers_recordFailure hreset hopening

theorem recordOutcome_of_failingFrom {q : Process} (h : failingFrom p outcome = some q) :
    (recordOutcome config p clock db outcome).1 = recordFailure config q clock db := by
  cases outcome with
  | raised =>
      cases h
      rfl
  | responded degraded failureReason serializable =>
      cases degraded with
      | true =>
          simp only [failingFrom] at h
          split at h
          · rename_i htransient
            cases h
            rw [recordOutcome, if_pos htransient]
          · cases h
      | false =>
          cases serializable with
          | true => cases h
          | false =>
              cases h
              rfl

/-! ## One step -/

theorem clock_of_opensAt (h : opensAt config p label = some t) :
    ∃ clock, label.clock? = some clock ∧ t = clock.second := by
  cases label with
  | check => cases h
  | answer => cases h
  | record call clock db =>
      simp only [opensAt] at h
      split at h
      · split at h
        · split at h
          · exact ⟨clock, rfl, (Option.some.inj h).symm⟩
          · cases h
        · cases h
      · cases h

/-- Within the window of an opening, the latest opening's window is still running, and covered. -/
structure Held (deadline : ℚ) (s : Tracked) : Prop where
  running : ∃ latest, s.deadline = some latest ∧ deadline ≤ latest
  covered : Covers deadline s.process

theorem Held.step {s : Tracked} (h : Held deadline s) (hguard : Keeps s label)
    (hclock : ∀ clock, label.clock? = some clock →
      clock.third < deadline ∧ deadline ≤ clock.second + config.openDurationSeconds) :
    Held deadline (trackedStep config s label) := by
  obtain ⟨latest, hlatest, hle⟩ := h.running
  constructor
  · rw [trackedStep]
    cases hopens : opensAt config s.process label with
    | none => exact h.running
    | some t =>
        refine ⟨t + config.openDurationSeconds, rfl, ?_⟩
        cases label with
        | check => cases hopens
        | answer => cases hopens
        | record call clock db =>
            obtain ⟨opening, hopening, rfl⟩ := clock_of_opensAt hopens
            exact (hclock opening hopening).2
  · show Covers deadline (Scorer.step config s.process label)
    cases label with
    | answer call outcome =>
        rw [Scorer.step]
        split
        · exact h.covered.setStage
        · exact h.covered
    | check call content configured clock db =>
        have hcovered : Covers deadline (isCircuitOpen s.process clock db).2 :=
          covers_isCircuitOpen h.covered (hclock clock rfl).1
        rw [Scorer.step]
        split
        · exact h.covered
        · split
          · exact h.covered.setStage
          · split
            · rename_i p hopen
              rw [hopen] at hcovered
              exact hcovered.setStage
            · rename_i p hopen
              rw [hopen] at hcovered
              split <;> exact hcovered.setStage
    | record call clock db =>
        obtain ⟨hearly, hopening⟩ := hclock clock rfl
        rw [Scorer.step]
        split
        · rename_i outcome hstage
          refine Covers.setStage (covers_recordOutcome h.covered hopening fun hsuccess => ?_)
          have hfirst : clock.first < latest :=
            (clock.ordered.1.trans clock.ordered.2).trans_lt (hearly.trans_le hle)
          have hrecords : recordsSuccess s.process call = true := by
            rw [recordsSuccess, hstage]
            exact hsuccess
          obtain ⟨row, hrow, hlasts⟩ := hguard hrecords latest hlatest hfirst
          exact ⟨row, hrow, hle.trans hlasts⟩
        · exact h.covered

/-- An opening covers its window. -/
theorem held_of_opensAt {s : Tracked} (h : opensAt config s.process label = some t) :
    Held (t + config.openDurationSeconds) (trackedStep config s label) := by
  refine ⟨⟨_, by rw [trackedStep, h], le_rfl⟩, .inl ?_⟩
  show t + config.openDurationSeconds ≤ (Scorer.step config s.process label).circuitOpenUntil
  cases label with
  | check => cases h
  | answer => cases h
  | record call clock db =>
      simp only [opensAt] at h
      split at h
      · rename_i outcome hstage
        split at h
        · rename_i q hfailing
          split at h
          · rename_i hopens
            cases h
            rw [Scorer.step, hstage]
            show _ ≤ (recordOutcome config s.process clock db outcome).1.circuitOpenUntil
            rw [recordOutcome_of_failingFrom hfailing, recordFailure, if_pos hopens]
            exact le_rfl
          · cases h
        · cases h
      · cases h

/-! ## The run -/

theorem process_run (s : Tracked) (labels : List Label) :
    (run (trackedStep config) s labels).process = run (step config) s.process labels := by
  induction labels generalizing s with
  | nil => rfl
  | cons label labels ih => exact ih (trackedStep config s label)

theorem Held.run {s : Tracked} (h : Held deadline s)
    (hguard : Guarded (trackedStep config) Keeps s labels)
    (hclock : ∀ label ∈ labels, ∀ clock, label.clock? = some clock →
      clock.third < deadline ∧ deadline ≤ clock.second + config.openDurationSeconds) :
    Held deadline (run (trackedStep config) s labels) := by
  induction labels generalizing s with
  | nil => exact h
  | cons label labels ih =>
      have hnext := h.step hguard.1 (hclock label List.mem_cons_self)
      exact ih hnext hguard.2 fun other hother => hclock other (List.mem_cons_of_mem label hother)

/-- The clock's readings between two steps lie between theirs. -/
theorem Ordered.between {before middle after : List Label} {a b : Label} {first last : Clock}
    (h : Ordered (before ++ a :: (middle ++ b :: after))) (ha : a.clock? = some first)
    (hb : b.clock? = some last) :
    ∀ label ∈ middle, ∀ clock, label.clock? = some clock →
      first.third ≤ clock.first ∧ clock.third ≤ last.first := by
  intro label hlabel clock hclock
  have hmem : clock ∈ middle.filterMap Label.clock? :=
    List.mem_filterMap.mpr ⟨label, hlabel, hclock⟩
  rw [Ordered, List.filterMap_append, List.filterMap_cons_some ha, List.filterMap_append,
    List.filterMap_cons_some hb] at h
  have htail := List.pairwise_cons.mp (List.pairwise_append.mp h).2.1
  have hrest := List.pairwise_append.mp htail.2
  exact ⟨htail.1 clock (List.mem_append_left _ hmem),
    hrest.2.2 clock hmem last List.mem_cons_self⟩

/-- No call passes the check within the window of an opening. -/
theorem stays_open {before middle after : List Label} {a b : Label}
    (hguard : Guarded (trackedStep config) Keeps ⟨p, none⟩ labels) (hclock : Ordered labels)
    (hlabels : labels = before ++ a :: (middle ++ b :: after))
    (hopens : opensAt config (run (step config) p before) a = some t)
    (hpasses : passesAt (run (step config) p (before ++ a :: middle)) b = some now) :
    t + config.openDurationSeconds ≤ now := by
  subst hlabels
  by_contra hwithin
  cases b with
  | answer => cases hpasses
  | record => cases hpasses
  | check call content configured clock db =>
      simp only [passesAt] at hpasses
      split at hpasses
      · cases hpasses
      · split at hpasses
        · cases hpasses
        · rename_i hclosed
          cases hpasses
          obtain ⟨opening, hopening, rfl⟩ := clock_of_opensAt hopens
          obtain ⟨-, hguarda⟩ := guarded_append.mp hguard
          obtain ⟨hmiddle, hcheck⟩ := guarded_append.mp hguarda.2
          have hprocess : (run (trackedStep config) ⟨p, none⟩ before).process =
              run (step config) p before := process_run ⟨p, none⟩ before
          rw [← hprocess] at hopens
          have hbetween := hclock.between hopening rfl
          have hheld := (held_of_opensAt hopens).run hmiddle fun label hlabel other hother => by
            obtain ⟨hafter, hbefore⟩ := hbetween label hlabel other hother
            have hreadings := other.ordered
            have hlast := clock.ordered
            have hfirst := opening.ordered
            constructor <;> linarith
          have hstate : (run (trackedStep config) (trackedStep config
              (run (trackedStep config) ⟨p, none⟩ before) a) middle).process =
                run (step config) p (before ++ a :: middle) := by
            rw [process_run, trackedStep]
            dsimp only
            rw [hprocess]
            simp [run]
          obtain ⟨latest, hlatest, hle⟩ := hheld.running
          have hcovered := hheld.covered
          have hsees := hcheck.1 latest hlatest ((not_le.mp hwithin).trans_le hle)
          rw [hstate] at hcovered hsees
          exact hclosed (isCircuitOpen_of_covers hcovered (not_le.mp hwithin) hsees)

def clockAt (time : ℚ) : Clock := ⟨time, time, time, le_rfl, le_rfl⟩

/-- Four overlapping calls: three fail, and the first answers late. -/
def lateSuccess (db : DatabaseAccess) : List Label :=
  let checks := [0, 1, 2, 3].map fun call => .check call "text".toList true (clockAt 0) db
  let answers := [.answer 0 (.responded false none true), .answer 1 .raised, .answer 2 .raised,
    .answer 3 .raised]
  checks ++ answers ++ [.record 1 (clockAt 1) db, .record 2 (clockAt 2) db,
    .record 3 (clockAt 3) db, .record 0 (clockAt 4) db]

theorem stays_open_reachable :
    (passesAt (run (step {}) {} ((lateSuccess .reachable).take 10 ++
      .record 3 (clockAt 3) .reachable :: [.record 0 (clockAt 4) .reachable]))
        (.check 4 "text".toList true (clockAt 303) .reachable)).isSome = true ∧
          (3 : ℚ) + 300 ≤ 303 := by
  have hpasses : passesAt (run (step {}) {} ((lateSuccess .reachable).take 10 ++
      .record 3 (clockAt 3) .reachable :: [.record 0 (clockAt 4) .reachable]))
        (.check 4 "text".toList true (clockAt 303) .reachable) = some 303 := by decide +kernel
  have hguard : Guarded (trackedStep {}) Keeps ⟨{}, none⟩
      (lateSuccess .reachable ++ [.check 4 "text".toList true (clockAt 303) .reachable]) := by
    decide +kernel
  have hordered : Ordered
      (lateSuccess .reachable ++ [.check 4 "text".toList true (clockAt 303) .reachable]) := by
    decide +kernel
  exact ⟨by rw [hpasses]; rfl, stays_open hguard hordered rfl (by decide +kernel) hpasses⟩

/-- Without a database, the late success closes the circuit within its window. -/
theorem not_stays_open_lateSuccess :
    ¬ ∀ (config : CircuitConfig) (p : Process) (before middle : List Label) (a b : Label)
      (t now : ℚ), Ordered (before ++ a :: (middle ++ [b])) →
        opensAt config (run (step config) p before) a = some t →
          passesAt (run (step config) p (before ++ a :: middle)) b = some now →
            t + config.openDurationSeconds ≤ now := by
  intro h
  have hopens : opensAt {} (run (step {}) {} ((lateSuccess .notConfigured).take 10))
      (.record 3 (clockAt 3) .notConfigured) = some 3 := by decide +kernel
  have hpasses : passesAt (run (step {}) {} ((lateSuccess .notConfigured).take 10 ++
      .record 3 (clockAt 3) .notConfigured :: [.record 0 (clockAt 4) .notConfigured]))
        (.check 4 "text".toList true (clockAt 5) .notConfigured) = some 5 := by decide +kernel
  have hordered : Ordered ((lateSuccess .notConfigured).take 10 ++
      .record 3 (clockAt 3) .notConfigured :: ([.record 0 (clockAt 4) .notConfigured] ++
        [.check 4 "text".toList true (clockAt 5) .notConfigured])) := by decide +kernel
  have hlate := h {} {} _ _ _ _ 3 5 hordered hopens hpasses
  norm_num at hlate

end MemoryLab.Scorer

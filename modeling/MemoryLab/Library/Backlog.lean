import MemoryLab.Library.Rows

/-! # Queues that are worked off from the front

A pass takes the first rows of a queue. It is done with the good ones, and puts the others back
where they were. -/

namespace Library.Backlog

open Rows

variable {ρ : Type*} (good : ρ → Bool) (limit : ℕ)

def pass (queue : List ρ) : List ρ :=
  (queue.take limit).filter (fun row => !good row) ++ queue.drop limit

def passes (queue : List ρ) (n : ℕ) : List ρ := (pass good limit)^[n] queue

/-- How many bad rows a row has ahead of it. -/
def badAhead [DecidableEq ρ] (row : ρ) (queue : List ρ) : ℕ :=
  (queue.takeWhile fun other => decide (other ≠ row)).countP fun other => !good other

variable {good limit}

theorem passes_succ (queue : List ρ) (n : ℕ) :
    passes good limit queue (n + 1) = passes good limit (pass good limit queue) n := rfl

theorem passes_succ' (queue : List ρ) (n : ℕ) :
    passes good limit queue (n + 1) = pass good limit (passes good limit queue n) :=
  Function.iterate_succ_apply' _ _ _

theorem pass_sublist (queue : List ρ) : (pass good limit queue).Sublist queue := by
  calc (pass good limit queue).Sublist (queue.take limit ++ queue.drop limit) :=
        List.filter_sublist.append_right _
    _ = queue := List.take_append_drop limit queue

theorem passes_sublist (queue : List ρ) (n : ℕ) :
    (passes good limit queue n).Sublist queue := by
  induction n with
  | zero => exact List.Sublist.refl queue
  | succ n ih =>
      rw [passes_succ']
      exact (pass_sublist _).trans ih

/-- A pass takes out the good rows among the first. -/
theorem filter_notMem_eq_pass [DecidableEq ρ] {queue : List ρ} (hnodup : queue.Nodup) :
    queue.filter (fun row => decide (row ∉ (queue.take limit).filter good)) =
      pass good limit queue := by
  have hsplit : queue = queue.take limit ++ queue.drop limit :=
    (List.take_append_drop limit queue).symm
  have hapart : ∀ row ∈ queue.drop limit, row ∉ queue.take limit := by
    intro row hdrop htake
    rw [hsplit] at hnodup
    exact (List.nodup_append.mp hnodup).2.2 row htake row hdrop rfl
  have hfirst : (queue.take limit).filter
      (fun row => decide (row ∉ (queue.take limit).filter good)) =
        (queue.take limit).filter fun row => !good row := by
    refine List.filter_congr fun row hrow => ?_
    simp [hrow]
  have hlast : (queue.drop limit).filter
      (fun row => decide (row ∉ (queue.take limit).filter good)) = queue.drop limit := by
    refine List.filter_eq_self.mpr fun row hrow => ?_
    simp [hapart row hrow]
  calc queue.filter (fun row => decide (row ∉ (queue.take limit).filter good))
      = (queue.take limit ++ queue.drop limit).filter
          fun row => decide (row ∉ (queue.take limit).filter good) := by rw [← hsplit]
    _ = pass good limit queue := by rw [List.filter_append, hfirst, hlast, pass]

theorem notMem_passes_of_le {queue : List ρ} {row : ρ} {first last : ℕ} (hle : first ≤ last)
    (h : row ∉ passes good limit queue first) : row ∉ passes good limit queue last := by
  induction last, hle using Nat.le_induction with
  | base => exact h
  | succ last _ ih =>
      rw [passes_succ']
      exact fun hmem => ih ((pass_sublist _).subset hmem)

/-! ## The rows ahead of one -/

section Ahead

variable {before after : List ρ} {row : ρ}

/-- A row outside the first ones keeps what is ahead of it, up to the good rows. -/
theorem pass_of_le (h : limit ≤ before.length) :
    pass good limit (before ++ row :: after) = pass good limit before ++ row :: after := by
  rw [pass, List.take_append_of_le_length h, List.drop_append_of_le_length h, pass,
    List.append_assoc]

theorem notMem_pass (hgood : good row = true) (h : before.length < limit)
    (hafter : row ∉ after) : row ∉ pass good limit (before ++ row :: after) := by
  obtain ⟨rest, rfl⟩ := Nat.exists_eq_add_of_lt h
  rw [pass, List.mem_append, not_or]
  constructor
  · simp [hgood]
  · have hdrop : (before ++ row :: after).drop (before.length + rest + 1) = after.drop rest := by
      rw [add_assoc, ← List.drop_drop, List.drop_left, List.drop_succ_cons]
    rw [hdrop]
    exact fun hmem => hafter (List.mem_of_mem_drop hmem)

/-- Only good rows leave a queue. -/
theorem countP_pass (queue : List ρ) :
    (pass good limit queue).countP (fun row => !good row) =
      queue.countP fun row => !good row := by
  conv_rhs => rw [← List.take_append_drop limit queue]
  rw [pass, List.countP_append, List.countP_append, List.countP_filter]
  simp

/-- A pass over a queue that holds too few bad rows to fill it is done with some row. -/
theorem length_pass_lt {queue : List ρ} (hlimit : limit ≤ queue.length)
    (hbad : queue.countP (fun row => !good row) < limit) :
    (pass good limit queue).length < queue.length := by
  have hkept : ((queue.take limit).filter fun row => !good row).length < limit := by
    rw [← List.countP_eq_length_filter]
    exact (List.Sublist.countP_le (List.take_sublist limit queue)).trans_lt hbad
  rw [pass, List.length_append, List.length_drop]
  omega

theorem notMem_passes (hgood : good row = true) (hbefore : row ∉ before) (hafter : row ∉ after)
    (hbad : before.countP (fun row => !good row) < limit) :
    row ∉ passes good limit (before ++ row :: after) (before.length + 1) := by
  induction hlength : before.length using Nat.strong_induction_on generalizing before with
  | h length ih =>
      subst hlength
      by_cases hlimit : limit ≤ before.length
      · rw [passes_succ, pass_of_le hlimit]
        have hshorter := length_pass_lt hlimit hbad
        refine notMem_passes_of_le hshorter (ih _ hshorter ?_ ?_ rfl)
        · exact fun hmem => hbefore ((pass_sublist before).subset hmem)
        · rw [countP_pass]
          exact hbad
      · refine notMem_passes_of_le (Nat.le_add_left 1 _) ?_
        exact notMem_pass hgood (not_le.mp hlimit) hafter

/-- Enough bad rows ahead of a row are selected by every pass. -/
theorem mem_passes (hbad : limit ≤ before.countP fun row => !good row) (n : ℕ) :
    row ∈ passes good limit (before ++ row :: after) n := by
  induction n generalizing before with
  | zero => exact List.mem_append_right before List.mem_cons_self
  | succ n ih =>
      rw [passes_succ, pass_of_le (hbad.trans List.countP_le_length)]
      refine ih ?_
      rw [countP_pass]
      exact hbad

end Ahead

/-! ## Every row -/

section Drains

variable [DecidableEq ρ] {queue : List ρ} {row : ρ}

theorem badAhead_split {before after : List ρ} (h : row ∉ before) :
    badAhead good row (before ++ row :: after) = before.countP fun other => !good other := by
  have hbefore : ∀ other ∈ before, decide (other ≠ row) = true := fun other hother =>
    decide_eq_true (ne_of_mem_of_not_mem hother h)
  rw [badAhead, List.takeWhile_append_of_pos hbefore, List.takeWhile_cons_of_neg (by simp),
    List.append_nil]

theorem badAhead_lt_length (h : row ∈ queue) : badAhead good row queue < queue.length := by
  induction queue with
  | nil => cases h
  | cons first rest ih =>
      by_cases hfirst : first = row
      · simp [badAhead, hfirst]
      · have hrest := ih ((List.mem_cons.mp h).resolve_left (Ne.symm hfirst))
        rw [badAhead, List.takeWhile_cons_of_pos (by simp [hfirst]), List.countP_cons,
          List.length_cons]
        unfold badAhead at hrest
        split <;> omega

theorem handled_of_badAhead_lt (hnodup : queue.Nodup) (hmem : row ∈ queue)
    (hgood : good row = true) (hbad : badAhead good row queue < limit) :
    row ∉ passes good limit queue queue.length := by
  obtain ⟨before, after, rfl⟩ := List.append_of_mem hmem
  have hsplit := List.nodup_append.mp hnodup
  have hbefore : row ∉ before := fun h => hsplit.2.2 row h row List.mem_cons_self rfl
  have hafter : row ∉ after := (List.nodup_cons.mp hsplit.2.1).1
  rw [badAhead_split hbefore] at hbad
  have hturn : before.length + 1 ≤ (before ++ row :: after).length := by simp
  exact notMem_passes_of_le hturn (notMem_passes hgood hbefore hafter hbad)

theorem badAhead_lt_of_handled (hnodup : queue.Nodup) (hmem : row ∈ queue) {n : ℕ}
    (h : row ∉ passes good limit queue n) : badAhead good row queue < limit := by
  obtain ⟨before, after, rfl⟩ := List.append_of_mem hmem
  have hsplit := List.nodup_append.mp hnodup
  have hbefore : row ∉ before := fun h => hsplit.2.2 row h row List.mem_cons_self rfl
  rw [badAhead_split hbefore]
  exact not_le.mp fun hbad => h (mem_passes hbad n)

/-- A queue is worked off when no good row has too many bad ones ahead of it. -/
theorem drains_iff (good : ρ → Bool) (limit : ℕ) (hnodup : queue.Nodup) :
    (∃ n, ∀ row ∈ queue, good row = true → row ∉ passes good limit queue n) ↔
      ∀ row ∈ queue, good row = true → badAhead good row queue < limit := by
  constructor
  · rintro ⟨n, hn⟩ row hmem hgood
    exact badAhead_lt_of_handled hnodup hmem (hn row hmem hgood)
  · exact fun h => ⟨queue.length, fun row hmem hgood =>
      handled_of_badAhead_lt hnodup hmem hgood (h row hmem hgood)⟩

end Drains

/-! ## The rows of a table that are pending -/

/-- What handles some rows of a table takes them out of the queue of the pending ones. -/
theorem queue_map {κ : Type*} [LinearOrder κ] (key : ρ → κ) (pending handled : ρ → Bool)
    (f : ρ → ρ) (rows : List ρ)
    (hhandled : ∀ row ∈ rows, handled row = true → pending (f row) = false)
    (hrest : ∀ row ∈ rows, handled row = false → f row = row) :
    sortOn key ((rows.map f).filter pending) =
      (sortOn key (rows.filter pending)).filter fun row => !handled row := by
  rw [filter_sortOn]
  congr 1
  induction rows with
  | nil => rfl
  | cons row rows ih =>
      have htail := ih (fun other hother => hhandled other (List.mem_cons_of_mem row hother))
        fun other hother => hrest other (List.mem_cons_of_mem row hother)
      rw [List.map_cons, List.filter_cons, List.filter_cons, htail]
      cases hrow : handled row with
      | false =>
          rw [hrest row List.mem_cons_self hrow]
          cases hpending : pending row <;> simp [hrow]
      | true =>
          rw [hhandled row List.mem_cons_self hrow]
          cases hpending : pending row <;> simp [hrow]

end Library.Backlog

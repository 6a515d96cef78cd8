import Mathlib.Data.Finset.Card
import Mathlib.Data.Set.Card
import Mathlib.Logic.Relation

/-! # Components by breadth-first search

One search for every element that no earlier search saw. All searches share what was seen. -/

namespace Library.Components

variable {α : Type*}

/-- What steps lead to. -/
def component (next : α → List α) (start : α) : Set α :=
  {a | Relation.ReflTransGen (fun b c => c ∈ next b) start a}

variable {next : α → List α}

theorem mem_component_self (start : α) : start ∈ component next start := Relation.ReflTransGen.refl

theorem mem_component_symm (hsymm : ∀ a b, b ∈ next a → a ∈ next b) {a b : α}
    (h : b ∈ component next a) : a ∈ component next b := by
  induction h with
  | refl => exact mem_component_self a
  | tail _ hstep ih => exact Relation.ReflTransGen.head (hsymm _ _ hstep) ih

theorem component_eq (hsymm : ∀ a b, b ∈ next a → a ∈ next b) {a b : α}
    (h : b ∈ component next a) : component next b = component next a := by
  ext c
  constructor
  · exact fun hc => h.trans hc
  · exact fun hc => (mem_component_symm hsymm h).trans hc

theorem component_subset {nodes : Set α} (h : ∀ a ∈ nodes, ∀ b ∈ next a, b ∈ nodes) {a : α}
    (ha : a ∈ nodes) : component next a ⊆ nodes := by
  intro b hb
  induction hb with
  | refl => exact ha
  | tail _ hstep ih => exact h _ ih _ hstep

/-! ## One search -/

/-- The queue of a search, with everything that was in a queue so far. -/
structure Front (α : Type*) where
  queue : List α
  seen : List α

variable [DecidableEq α]

def Front.add (front : Front α) (a : α) : Front α :=
  if a ∈ front.seen then front else ⟨front.queue ++ [a], a :: front.seen⟩

/-- Counts what it takes from the queue. The first argument bounds the number of turns. -/
def drain (next : α → List α) : ℕ → Front α → ℕ → Option (List α × ℕ)
  | _, ⟨[], seen⟩, size => some (seen, size)
  | 0, ⟨_ :: _, _⟩, _ => none
  | turns + 1, ⟨a :: queue, seen⟩, size =>
    drain next turns ((next a).foldl Front.add ⟨queue, seen⟩) (size + 1)

/-- The elements of a list that were not seen are seen and queued. -/
theorem foldl_add (front : Front α) (items : List α) : ∃ new : List α,
    (items.foldl Front.add front).queue = front.queue ++ new ∧ new.Nodup ∧
      (∀ a, a ∈ new ↔ a ∈ items ∧ a ∉ front.seen) ∧
      ∀ a, a ∈ (items.foldl Front.add front).seen ↔ a ∈ front.seen ∨ a ∈ items := by
  induction items generalizing front with
  | nil => exact ⟨[], by simp, by simp, by simp, by simp⟩
  | cons item items ih =>
      rw [List.foldl_cons]
      by_cases hitem : item ∈ front.seen
      · rw [Front.add, if_pos hitem]
        obtain ⟨new, hqueue, hnodup, hnew, hseen⟩ := ih front
        refine ⟨new, hqueue, hnodup, fun a => ?_, fun a => ?_⟩
        · rw [hnew, List.mem_cons]
          constructor
          · exact fun ⟨ha, hfresh⟩ => ⟨.inr ha, hfresh⟩
          · rintro ⟨rfl | ha, hfresh⟩
            · exact absurd hitem hfresh
            · exact ⟨ha, hfresh⟩
        · rw [hseen, List.mem_cons]
          constructor
          · exact fun h => h.imp_right .inr
          · rintro (ha | rfl | ha)
            · exact .inl ha
            · exact .inl hitem
            · exact .inr ha
      · obtain ⟨new, hqueue, hnodup, hnew, hseen⟩ :=
          ih ⟨front.queue ++ [item], item :: front.seen⟩
        rw [Front.add, if_neg hitem]
        refine ⟨item :: new, by rw [hqueue, List.append_assoc]; rfl, ?_, fun a => ?_, fun a => ?_⟩
        · exact List.nodup_cons.mpr ⟨fun h => ((hnew item).mp h).2 (by simp), hnodup⟩
        · rw [List.mem_cons, hnew, List.mem_cons, List.mem_cons, not_or]
          constructor
          · rintro (rfl | ⟨ha, _, hfresh⟩)
            · exact ⟨.inl rfl, hitem⟩
            · exact ⟨.inr ha, hfresh⟩
          · rintro ⟨rfl | ha, hfresh⟩
            · exact .inl rfl
            · by_cases heq : a = item
              · exact .inl heq
              · exact .inr ⟨ha, heq, hfresh⟩
        · rw [hseen, List.mem_cons, List.mem_cons, or_assoc, or_left_comm]

/-- A search on the way. The elements of `done` were taken from the queue. -/
structure Draining (next : α → List α) (start : α) (before done : List α) (front : Front α) :
    Prop where
  seen : ∀ a, a ∈ front.seen ↔ a ∈ before ∨ a ∈ done ++ front.queue
  fresh : ∀ a ∈ done ++ front.queue, a ∉ before
  nodup : (done ++ front.queue).Nodup
  reached : ∀ a ∈ done ++ front.queue, a ∈ component next start
  closed : ∀ a ∈ done, ∀ b ∈ next a, b ∈ front.seen
  start : start ∈ done ++ front.queue

omit [DecidableEq α] in
theorem draining_start {start : α} {before : List α} (h : start ∉ before) :
    Draining next start before [] ⟨[start], start :: before⟩ where
  seen a := by simp [or_comm]
  fresh a ha := by
    rw [List.nil_append, List.mem_singleton] at ha
    rwa [ha]
  nodup := by simp
  reached a ha := by
    rw [List.nil_append, List.mem_singleton] at ha
    rw [ha]
    exact mem_component_self start
  closed := by simp
  start := by simp

theorem Draining.step {start node : α} {before done queue seen : List α}
    (h : Draining next start before done ⟨node :: queue, seen⟩) :
    Draining next start before (done ++ [node])
      ((next node).foldl Front.add ⟨queue, seen⟩) := by
  obtain ⟨new, hqueue, hnodup, hnew, hseen⟩ := foldl_add ⟨queue, seen⟩ (next node)
  have hlist : (done ++ [node]) ++ ((next node).foldl Front.add ⟨queue, seen⟩).queue =
      (done ++ node :: queue) ++ new := by
    simp [hqueue]
  have hbefore : ∀ a ∈ new, a ∉ before ∧ a ∉ done ++ node :: queue := fun a ha =>
    not_or.mp ((h.seen a).not.mp ((hnew a).mp ha).2)
  constructor
  · intro a
    rw [hseen, hlist, List.mem_append, hnew, ← or_assoc, ← h.seen a]
    by_cases hold : a ∈ seen
    · simp [hold]
    · simp [hold]
  · intro a ha
    rw [hlist] at ha
    rcases List.mem_append.mp ha with ha | ha
    · exact h.fresh a ha
    · exact (hbefore a ha).1
  · rw [hlist, List.nodup_append]
    exact ⟨h.nodup, hnodup, fun a ha b hb heq => (hbefore b hb).2 (heq ▸ ha)⟩
  · intro a ha
    rw [hlist] at ha
    rcases List.mem_append.mp ha with ha | ha
    · exact h.reached a ha
    · have hnode : node ∈ component next start := h.reached node (by simp)
      exact Relation.ReflTransGen.tail hnode ((hnew a).mp ha).1
  · intro a ha b hb
    rw [hseen]
    rcases List.mem_append.mp ha with ha | ha
    · exact .inl (h.closed a ha b hb)
    · rw [List.mem_singleton.mp ha] at hb
      exact .inr hb
  · rw [hlist]
    exact List.mem_append_left _ h.start

/-- A search that is through has taken the component from the queue. -/
theorem Draining.coe_toFinset {start : α} {before done seen : List α}
    (hsymm : ∀ a b, b ∈ next a → a ∈ next b) (hbefore : ∀ a ∈ before, ∀ b ∈ next a, b ∈ before)
    (h : Draining next start before done ⟨[], seen⟩) :
    (done.toFinset : Set α) = component next start := by
  have hseen := h.seen
  have hfresh := h.fresh
  simp only [List.append_nil] at hseen hfresh
  apply Set.Subset.antisymm
  · intro a ha
    exact h.reached a (by simpa using ha)
  · apply component_subset
    · intro a ha b hb
      rw [Finset.mem_coe, List.mem_toFinset] at ha ⊢
      rcases (hseen b).mp (h.closed a ha b hb) with hb' | hb'
      · exact absurd (hbefore b hb' a (hsymm a b hb)) (hfresh a ha)
      · exact hb'
    · simpa using h.start

theorem Draining.length_eq {start : α} {before done seen : List α}
    (hsymm : ∀ a b, b ∈ next a → a ∈ next b) (hbefore : ∀ a ∈ before, ∀ b ∈ next a, b ∈ before)
    (h : Draining next start before done ⟨[], seen⟩) :
    done.length = (component next start).ncard := by
  have hnodup : done.Nodup := by simpa using h.nodup
  rw [← h.coe_toFinset hsymm hbefore, Set.ncard_coe_finset, List.toFinset_card_of_nodup hnodup]

/-- What was in the queue is in the component, each element once. -/
theorem Draining.length_le {start : α} {before done : List α} {front : Front α} {nodes : Finset α}
    (h : Draining next start before done front) (hnodes : component next start ⊆ nodes) :
    (done ++ front.queue).length ≤ nodes.card := by
  rw [← List.toFinset_card_of_nodup h.nodup]
  apply Finset.card_le_card
  intro a ha
  exact hnodes (h.reached a (List.mem_toFinset.mp ha))

omit [DecidableEq α] in
theorem drain_nil (turns : ℕ) (seen : List α) (size : ℕ) [DecidableEq α] :
    drain next turns ⟨[], seen⟩ size = some (seen, size) := by
  cases turns <;> rfl

/-- A search with enough turns ends. It sees its component and has the component's size. -/
theorem drain_spec {start : α} {before : List α} {nodes : Finset α}
    (hsymm : ∀ a b, b ∈ next a → a ∈ next b) (hbefore : ∀ a ∈ before, ∀ b ∈ next a, b ∈ before)
    (hnodes : component next start ⊆ nodes) {turns : ℕ} {done : List α} {front : Front α}
    (h : Draining next start before done front) (hturns : nodes.card ≤ turns + done.length) :
    ∃ seen, drain next turns front done.length = some (seen, (component next start).ncard) ∧
      ∀ a, a ∈ seen ↔ a ∈ before ∨ a ∈ component next start := by
  induction turns generalizing done front with
  | zero =>
      obtain ⟨queue, seen⟩ := front
      have hlength := h.length_le hnodes
      rw [List.length_append] at hlength
      dsimp only at hlength
      have hqueue : queue = [] := List.eq_nil_of_length_eq_zero (by omega)
      subst hqueue
      refine ⟨seen, ?_, fun a => ?_⟩
      · rw [drain_nil, h.length_eq hsymm hbefore]
      · have hseen := h.seen a
        rwa [List.append_nil, ← List.mem_toFinset (l := done), ← Finset.mem_coe,
          h.coe_toFinset hsymm hbefore] at hseen
  | succ turns ih =>
      obtain ⟨queue, seen⟩ := front
      cases queue with
      | nil =>
          refine ⟨seen, ?_, fun a => ?_⟩
          · rw [drain_nil, h.length_eq hsymm hbefore]
          · have hseen := h.seen a
            rwa [List.append_nil, ← List.mem_toFinset (l := done), ← Finset.mem_coe,
              h.coe_toFinset hsymm hbefore] at hseen
      | cons node queue =>
          have hstep := ih h.step (by rw [List.length_append, List.length_singleton]; omega)
          rwa [List.length_append, List.length_singleton] at hstep

/-! ## All searches -/

/-- The largest size that a search comes to. -/
def largest (next : α → List α) (turns : ℕ) : List α → List α → ℕ → Option ℕ
  | [], _, size => some size
  | start :: starts, seen, size =>
    if start ∈ seen then largest next turns starts seen size
    else match drain next turns ⟨[start], start :: seen⟩ 0 with
      | none => none
      | some (seen, found) => largest next turns starts seen (max size found)

/-- The size is a bound for the components of some elements, and the size of one of them. -/
structure Largest (next : α → List α) (elements : Set α) (size : ℕ) : Prop where
  le : ∀ a ∈ elements, (component next a).ncard ≤ size
  attained : size = 0 ∨ ∃ a ∈ elements, (component next a).ncard = size

omit [DecidableEq α] in
theorem Largest.union {elements : Set α} {size : ℕ} (h : Largest next elements size)
    (hsymm : ∀ a b, b ∈ next a → a ∈ next b) (start : α) :
    Largest next (elements ∪ component next start)
      (max size (component next start).ncard) := by
  constructor
  · rintro a (ha | ha)
    · exact le_max_of_le_left (h.le a ha)
    · rw [component_eq hsymm ha]
      exact le_max_right _ _
  · rcases le_total (component next start).ncard size with hle | hle
    · rw [max_eq_left hle]
      exact h.attained.imp_right fun ⟨a, ha, heq⟩ => ⟨a, .inl ha, heq⟩
    · rw [max_eq_right hle]
      exact .inr ⟨start, .inr (mem_component_self start), rfl⟩

/-- With enough turns the searches from all nodes end, with the size of a largest component. -/
theorem largest_spec {nodes : Finset α} (hsymm : ∀ a b, b ∈ next a → a ∈ next b)
    (hnodes : ∀ a ∈ nodes, ∀ b ∈ next a, b ∈ nodes) {starts seen : List α} {size : ℕ}
    (hcover : ∀ a, a ∈ nodes ↔ a ∈ seen ∨ a ∈ starts)
    (hseen : ∀ a ∈ seen, ∀ b ∈ next a, b ∈ seen) (h : Largest next {a | a ∈ seen} size) :
    ∃ result, largest next nodes.card starts seen size = some result ∧
      Largest next nodes result := by
  induction starts generalizing seen size with
  | nil =>
      have hsame : (nodes : Set α) = {a | a ∈ seen} := by
        ext a
        simpa using hcover a
      exact ⟨size, rfl, hsame ▸ h⟩
  | cons start starts ih =>
      rw [largest]
      by_cases hstart : start ∈ seen
      · rw [if_pos hstart]
        refine ih (fun a => ?_) hseen h
        rw [hcover, List.mem_cons]
        constructor
        · rintro (ha | rfl | ha)
          · exact .inl ha
          · exact .inl hstart
          · exact .inr ha
        · exact fun ha => ha.imp_right .inr
      · have hmem : start ∈ nodes := (hcover start).mpr (.inr (by simp))
        have hsubset : component next start ⊆ nodes := component_subset hnodes hmem
        obtain ⟨seen', hdrain, hseen'⟩ := drain_spec hsymm hseen hsubset
          (draining_start hstart) (Nat.le_add_right _ _)
        rw [List.length_nil] at hdrain
        rw [if_neg hstart, hdrain]
        refine ih (fun a => ?_) (fun a ha b hb => ?_) ?_
        · rw [hcover, hseen', List.mem_cons, or_assoc]
          constructor
          · rintro (ha | rfl | ha)
            · exact .inl ha
            · exact .inr (.inl (mem_component_self a))
            · exact .inr (.inr ha)
          · rintro (ha | ha | ha)
            · exact .inl ha
            · exact (hcover a).mp (hsubset ha) |>.imp_right (by simp)
            · exact .inr (.inr ha)
        · rw [hseen'] at ha ⊢
          rcases ha with ha | ha
          · exact .inl (hseen a ha b hb)
          · exact .inr (ha.tail hb)
        · have hunion : {a | a ∈ seen'} = {a | a ∈ seen} ∪ component next start := by
            ext a
            exact hseen' a
          rw [hunion]
          exact h.union hsymm start

end Library.Components

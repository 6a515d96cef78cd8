import Mathlib.Data.List.Nodup
import Mathlib.Tactic

/-! # Dictionaries in insertion order

A key keeps the place of its first entry when its value is replaced. -/

namespace Library

abbrev Dict (κ β : Type*) := List (κ × β)

namespace Dict

variable {κ β : Type*} [DecidableEq κ]

def get? (k : κ) (dict : Dict κ β) : Option β :=
  (dict.find? fun entry => entry.1 == k).map (·.2)

/-- Sets the value of a key from the one it had. -/
def modify (k : κ) (f : Option β → β) : Dict κ β → Dict κ β
  | [] => [(k, f none)]
  | entry :: dict => if entry.1 = k then (k, f (some entry.2)) :: dict else entry :: modify k f dict

def set (k : κ) (value : β) (dict : Dict κ β) : Dict κ β := modify k (fun _ => value) dict

/-- `dict.setdefault(key(x), []).append(x)` over a list. -/
def groupBy {α : Type*} (key : α → κ) (xs : List α) : Dict κ (List α) :=
  xs.foldl (fun dict x => modify (key x) (fun old => old.getD [] ++ [x]) dict) []

variable {k : κ} {f : Option β → β} {dict : Dict κ β}

theorem mem_modify {entry : κ × β} (h : entry ∈ modify k f dict) :
    entry ∈ dict ∨ entry.1 = k := by
  induction dict with
  | nil =>
      rw [modify, List.mem_singleton] at h
      exact .inr (by rw [h])
  | cons first dict ih =>
      rw [modify] at h
      split at h
      · rcases List.mem_cons.mp h with rfl | h
        · exact .inr rfl
        · exact .inl (List.mem_cons_of_mem _ h)
      · rcases List.mem_cons.mp h with rfl | h
        · exact .inl List.mem_cons_self
        · exact (ih h).imp_left (List.mem_cons_of_mem _)

/-- A property of every value, the new one included. -/
theorem forall_modify {P : β → Prop} (h : ∀ entry ∈ dict, P entry.2)
    (hf : ∀ old, (∀ value, old = some value → P value) → P (f old)) :
    ∀ entry ∈ modify k f dict, P entry.2 := by
  induction dict with
  | nil =>
      intro entry hentry
      rw [modify, List.mem_singleton] at hentry
      rw [hentry]
      exact hf none fun _ hnone => nomatch hnone
  | cons first dict ih =>
      intro entry hentry
      have hfirst := h first List.mem_cons_self
      have hrest := fun other hother => h other (List.mem_cons_of_mem first hother)
      rw [modify] at hentry
      split at hentry
      · rcases List.mem_cons.mp hentry with rfl | hentry
        · refine hf (some first.2) fun value hvalue => ?_
          rw [← Option.some.inj hvalue]
          exact hfirst
        · exact hrest entry hentry
      · rcases List.mem_cons.mp hentry with rfl | hentry
        · exact hfirst
        · exact ih hrest entry hentry

theorem keys_modify_nodup (h : (dict.map (·.1)).Nodup) :
    ((modify k f dict).map (·.1)).Nodup := by
  induction dict with
  | nil => exact List.nodup_singleton k
  | cons entry dict ih =>
      rw [List.map_cons, List.nodup_cons] at h
      rw [modify]
      by_cases hkey : entry.1 = k
      · rw [if_pos hkey, List.map_cons, List.nodup_cons, ← hkey]
        exact h
      · rw [if_neg hkey, List.map_cons, List.nodup_cons]
        refine ⟨fun hmem => ?_, ih h.2⟩
        obtain ⟨other, hother, hsame⟩ := List.mem_map.mp hmem
        rcases mem_modify hother with hold | hnew
        · exact h.1 (List.mem_map.mpr ⟨other, hold, hsame⟩)
        · exact hkey (hsame.symm.trans hnew)

/-- The entries of other keys stay as they are. -/
theorem filter_modify {q : κ → Bool} (hq : q k = false) :
    (modify k f dict).filter (fun entry => q entry.1) = dict.filter fun entry => q entry.1 := by
  induction dict with
  | nil => simp [modify, hq]
  | cons entry dict ih =>
      rw [modify]
      by_cases hkey : entry.1 = k
      · simp [hkey, hq]
      · rw [if_neg hkey, List.filter_cons, List.filter_cons, ih]

theorem get?_modify_of_ne {key : κ} (h : key ≠ k) : get? key (modify k f dict) = get? key dict := by
  induction dict with
  | nil => simp [get?, modify, h.symm]
  | cons entry dict ih =>
      simp only [get?] at ih ⊢
      rw [modify]
      by_cases hkey : entry.1 = k
      · simp [hkey, h.symm]
      · rw [if_neg hkey, List.find?_cons, List.find?_cons]
        cases entry.1 == key with
        | true => rfl
        | false => exact ih

theorem get?_modify_self : get? k (modify k f dict) = some (f (get? k dict)) := by
  induction dict with
  | nil => simp [get?, modify]
  | cons entry dict ih =>
      simp only [get?] at ih ⊢
      rw [modify]
      by_cases hkey : entry.1 = k
      · simp [hkey]
      · have hbeq : (entry.1 == k) = false := by simpa using hkey
        rw [if_neg hkey, List.find?_cons, List.find?_cons, hbeq]
        exact ih

theorem mem_iff_get? (h : (dict.map (·.1)).Nodup) {value : β} :
    (k, value) ∈ dict ↔ get? k dict = some value := by
  induction dict with
  | nil => simp [get?]
  | cons entry dict ih =>
      rw [List.map_cons, List.nodup_cons] at h
      have ih := ih h.2
      simp only [get?] at ih ⊢
      by_cases hkey : entry.1 = k
      · have hnone : (k, value) ∉ dict := fun hmem =>
          h.1 (List.mem_map.mpr ⟨(k, value), hmem, hkey.symm⟩)
        obtain ⟨key, old⟩ := entry
        subst hkey
        simp [hnone, eq_comm]
      · have hne : (k, value) ≠ entry := fun heq => hkey (by rw [← heq])
        simpa [hkey, hne] using ih

/-- The entry of a key after it is set. -/
theorem filter_modify_self :
    (modify k f dict).filter (fun entry => decide (entry.1 = k)) =
      match dict.filter (fun entry => decide (entry.1 = k)) with
      | [] => [(k, f none)]
      | entry :: rest => (k, f (some entry.2)) :: rest := by
  induction dict with
  | nil => simp [modify]
  | cons entry dict ih =>
      rw [modify]
      by_cases hkey : entry.1 = k
      · simp [hkey]
      · rw [if_neg hkey, List.filter_cons_of_neg (by simpa using hkey), ih,
          List.filter_cons_of_neg (by simpa using hkey)]

/-! ## Grouping -/

section GroupBy

variable {α : Type*} {key : α → κ}

theorem groupBy_append_singleton (xs : List α) (x : α) :
    groupBy key (xs ++ [x]) =
      modify (key x) (fun old => old.getD [] ++ [x]) (groupBy key xs) := by
  rw [groupBy, List.foldl_append]
  rfl

/-- The group of a key holds the elements with that key, in order. -/
theorem filter_groupBy (xs : List α) (k : κ) :
    (groupBy key xs).filter (fun entry => decide (entry.1 = k)) =
      if xs.filter (fun x => decide (key x = k)) = [] then []
      else [(k, xs.filter fun x => decide (key x = k))] := by
  induction xs using List.reverseRecOn with
  | nil => rfl
  | append_singleton xs x ih =>
      rw [groupBy_append_singleton, List.filter_append]
      by_cases hx : key x = k
      · have hlast : [x].filter (fun x => decide (key x = k)) = [x] := by simp [hx]
        subst hx
        rw [filter_modify_self, ih, hlast]
        by_cases hnil : xs.filter (fun y => decide (key y = key x)) = []
        · rw [if_pos hnil, hnil]
          rfl
        · rw [if_neg hnil, if_neg (List.append_ne_nil_of_right_ne_nil _ (List.cons_ne_nil x []))]
          rfl
      · have hlast : [x].filter (fun x => decide (key x = k)) = [] := by simp [hx]
        rw [filter_modify (q := fun other => decide (other = k)) (by simpa using hx), ih, hlast,
          List.append_nil]

theorem mem_groupBy {xs : List α} {group : List α} :
    (k, group) ∈ groupBy key xs ↔ group ≠ [] ∧ group = xs.filter fun x => decide (key x = k) := by
  have hmem : (k, group) ∈ groupBy key xs ↔
      (k, group) ∈ (groupBy key xs).filter fun entry => decide (entry.1 = k) := by
    simp [List.mem_filter]
  rw [hmem, filter_groupBy]
  split
  · rename_i hnil
    rw [hnil]
    simp
  · rename_i hne
    rw [List.mem_singleton, Prod.mk.injEq]
    constructor
    · rintro ⟨-, rfl⟩
      exact ⟨hne, rfl⟩
    · rintro ⟨-, rfl⟩
      exact ⟨rfl, rfl⟩

/-- Elements with one key make one group. -/
theorem groupBy_of_forall_eq {xs : List α} (h : ∀ x ∈ xs, key x = k) :
    groupBy key xs = if xs = [] then [] else [(k, xs)] := by
  have hall : ∀ entry ∈ groupBy key xs, decide (entry.1 = k) = true := by
    rintro ⟨k', group⟩ hentry
    obtain ⟨hne, rfl⟩ := mem_groupBy.mp hentry
    obtain ⟨x, hx⟩ := List.exists_mem_of_ne_nil _ hne
    rw [List.mem_filter, decide_eq_true_eq] at hx
    rw [decide_eq_true_eq, ← hx.2, h x hx.1]
  have hself : xs.filter (fun x => decide (key x = k)) = xs :=
    List.filter_eq_self.mpr fun x hx => by simp [h x hx]
  rw [← List.filter_eq_self.mpr hall, filter_groupBy, hself]

end GroupBy

end Dict

end Library

import Mathlib.Data.List.Nodup
import Mathlib.Logic.Relation

/-! # Chains of pointers

Pointers are the edges of a relation; a chain that comes back to where it was is a cycle of
its transitive closure. -/

namespace Library.Pointers

open Relation

variable {α : Type*} {R S : α → α → Prop}

def Acyclic (R : α → α → Prop) : Prop := ∀ a, ¬ TransGen R a a

theorem acyclic_of_forall_not (h : ∀ a b, ¬ R a b) : Acyclic R := by
  intro a hcycle
  obtain ⟨b, hab, -⟩ := TransGen.head'_iff.mp hcycle
  exact h a b hab

theorem Acyclic.mono (h : Acyclic R) (hle : ∀ a b, S a b → R a b) : Acyclic S :=
  fun a hcycle => h a (TransGen.mono hle a a hcycle)

/-- A chain that starts away from a node without incoming edges stays away from it. -/
theorem transGen_avoiding {x : α} (hnew : ∀ a b, S a b → R a b ∨ a = x) (hx : ∀ a, ¬ S a x)
    {a b : α} (h : TransGen S a b) (ha : a ≠ x) : TransGen R a b := by
  induction h using TransGen.head_induction_on with
  | single hab => exact .single ((hnew _ _ hab).resolve_right ha)
  | head hac _ ih =>
      refine .head ((hnew _ _ hac).resolve_right ha) (ih ?_)
      rintro rfl
      exact hx _ hac

/-- New edges that all leave a node nothing points to close no cycle. -/
theorem Acyclic.extend (h : Acyclic R) {x : α} (hnew : ∀ a b, S a b → R a b ∨ a = x)
    (hx : ∀ a, ¬ S a x) : Acyclic S := by
  intro a hcycle
  have hne : a ≠ x := by
    rintro rfl
    obtain ⟨b, -, hba⟩ := TransGen.tail'_iff.mp hcycle
    exact hx b hba
  exact h a (transGen_avoiding hnew hx hcycle hne)

/-! ## Distances -/

/-- So many pointers lead from one node to another. -/
def Path (R : α → α → Prop) : ℕ → α → α → Prop
  | 0, a, b => a = b
  | n + 1, a, b => ∃ c, R a c ∧ Path R n c b

theorem transGen_iff_path {a b : α} : TransGen R a b ↔ ∃ n, Path R (n + 1) a b := by
  constructor
  · intro h
    induction h using TransGen.head_induction_on with
    | single hab => exact ⟨0, _, hab, rfl⟩
    | head hac _ ih =>
        obtain ⟨n, hpath⟩ := ih
        exact ⟨n + 1, _, hac, hpath⟩
  · rintro ⟨n, hpath⟩
    induction n generalizing a with
    | zero =>
        obtain ⟨c, hac, rfl⟩ := hpath
        exact .single hac
    | succ n ih =>
        obtain ⟨c, hac, hpath⟩ := hpath
        exact .head hac (ih hpath)

theorem path_add {m n : ℕ} {a b : α} :
    Path R (m + n) a b ↔ ∃ c, Path R m a c ∧ Path R n c b := by
  induction m generalizing a with
  | zero => simp [Path]
  | succ m ih =>
      rw [Nat.succ_add]
      constructor
      · rintro ⟨d, had, hpath⟩
        obtain ⟨c, hleft, hright⟩ := ih.mp hpath
        exact ⟨c, ⟨d, had, hleft⟩, hright⟩
      · rintro ⟨c, ⟨d, had, hleft⟩, hright⟩
        exact ⟨d, had, ih.mpr ⟨c, hleft, hright⟩⟩

theorem path_one {a b : α} : Path R 1 a b ↔ R a b := by
  simp [Path]

theorem path_flip {n : ℕ} {a b : α} : Path (flip R) n a b ↔ Path R n b a := by
  induction n generalizing b with
  | zero => exact eq_comm
  | succ n ih =>
      rw [path_add, Path]
      exact exists_congr fun c => and_comm.trans (and_congr path_one ih)

theorem transGen_flip {a b : α} : TransGen (flip R) a b ↔ TransGen R b a :=
  transGen_swap

theorem acyclic_flip (h : Acyclic R) : Acyclic (flip R) :=
  fun a hcycle => h a (transGen_swap.mp hcycle)

/-! ## Following one pointer after another -/

section Follow

variable {next : α → Option α} {V : α → Prop}

def follow (next : α → Option α) : ℕ → Option α → List α
  | 0, _ => []
  | _ + 1, none => []
  | n + 1, some a => a :: follow next n (next a)

/-- The function finds the pointer of every node of a set that pointers do not leave. -/
structure Finds (next : α → Option α) (R : α → α → Prop) (V : α → Prop) : Prop where
  next_iff : ∀ a, V a → ∀ b, next a = some b ↔ R a b
  closed : ∀ a b, V a → R a b → V b

theorem getElem?_follow (h : Finds next R V) {a : α} (ha : V a) (n k : ℕ) (b : α) :
    (follow next n (next a))[k]? = some b ↔ k < n ∧ Path R (k + 1) a b := by
  induction n generalizing a k with
  | zero => simp [follow]
  | succ n ih =>
      cases hnext : next a with
      | none =>
          refine iff_of_false (by simp [follow]) ?_
          rintro ⟨-, c, hac, -⟩
          rw [(h.next_iff a ha c).mpr hac] at hnext
          cases hnext
      | some c =>
          have hac := (h.next_iff a ha c).mp hnext
          have honly : ∀ d, R a d → d = c := by
            intro d had
            exact Option.some.inj (((h.next_iff a ha d).mpr had).symm.trans hnext)
          rw [follow]
          cases k with
          | zero =>
              rw [List.getElem?_cons_zero, path_one, Option.some.injEq]
              constructor
              · rintro rfl
                exact ⟨Nat.succ_pos n, hac⟩
              · rintro ⟨-, hab⟩
                exact (honly b hab).symm
          | succ k =>
              rw [List.getElem?_cons_succ, ih (h.closed a c ha hac), Nat.add_lt_add_iff_right]
              refine and_congr_right fun _ => ⟨fun hpath => ⟨c, hac, hpath⟩, ?_⟩
              rintro ⟨d, had, hpath⟩
              rwa [honly d had] at hpath

theorem mem_follow (h : Finds next R V) {a : α} (ha : V a) {n : ℕ} {b : α} :
    b ∈ follow next n (next a) ↔ ∃ k < n, Path R (k + 1) a b := by
  rw [List.mem_iff_getElem?]
  simp only [getElem?_follow h ha]

/-- Where no pointers form a cycle, a node is at one distance from another. -/
theorem path_length_unique (h : Finds next R V) (hacyclic : Acyclic R) {a b : α} (ha : V a)
    {j k : ℕ} (hj : Path R j a b) (hk : Path R k a b) : j = k := by
  wlog hle : j ≤ k
  · exact (this h hacyclic ha hk hj (Nat.le_of_not_le hle)).symm
  induction j generalizing a k with
  | zero =>
      cases k with
      | zero => rfl
      | succ k =>
          obtain rfl : a = b := hj
          exact absurd (transGen_iff_path.mpr ⟨k, hk⟩) (hacyclic a)
  | succ j ih =>
      obtain ⟨k, rfl⟩ := Nat.exists_eq_succ_of_ne_zero (Nat.ne_zero_of_lt hle)
      obtain ⟨c, hac, hj⟩ := hj
      obtain ⟨d, had, hk⟩ := hk
      obtain rfl : c = d := Option.some.inj
        (((h.next_iff a ha c).mpr hac).symm.trans ((h.next_iff a ha d).mpr had))
      have := ih (h.closed a c ha hac) hj hk (by omega)
      omega

theorem nodup_follow (h : Finds next R V) (hacyclic : Acyclic R) {a : α} (ha : V a) (n : ℕ) :
    (follow next n (next a)).Nodup := by
  rw [List.nodup_iff_getElem?_ne_getElem?]
  intro j k hjk hk heq
  have hsome := List.getElem?_eq_getElem hk
  have hj := (getElem?_follow h ha n j _).mp (heq.trans hsome)
  have hk := (getElem?_follow h ha n k _).mp hsome
  have := path_length_unique h hacyclic ha hj.2 hk.2
  omega

/-- Something is out of reach exactly when the pointers lead one step further. -/
theorem exists_notMem_follow (h : Finds next R V) (hacyclic : Acyclic R) {a : α} (ha : V a)
    (n : ℕ) :
    (∃ b, TransGen R a b ∧ b ∉ follow next n (next a)) ↔ ∃ b, Path R (n + 1) a b := by
  constructor
  · rintro ⟨b, hreach, hout⟩
    obtain ⟨k, hpath⟩ := transGen_iff_path.mp hreach
    have hk : n ≤ k := by
      by_contra hlt
      exact hout ((mem_follow h ha).mpr ⟨k, Nat.lt_of_not_le hlt, hpath⟩)
    obtain ⟨m, rfl⟩ := Nat.exists_eq_add_of_le hk
    rw [Nat.add_right_comm] at hpath
    obtain ⟨c, hleft, -⟩ := path_add.mp hpath
    exact ⟨c, hleft⟩
  · rintro ⟨b, hpath⟩
    refine ⟨b, transGen_iff_path.mpr ⟨n, hpath⟩, fun hmem => ?_⟩
    obtain ⟨k, hk, hshort⟩ := (mem_follow h ha).mp hmem
    have := path_length_unique h hacyclic ha hpath hshort
    omega

end Follow

end Library.Pointers

import MemoryLab.Verification.Graph.CoMembership

/-! # The merge of proposals

The merge writes the rules of a dropped proposal into the kept one, which may be read again later
under another reference or the same. -/

namespace MemoryLab.EdgeInference.Texts

open Library

/-! ## What the loop keeps -/

/-- How often a key was read. -/
def readings (heap : ℕ → EdgeProposal) (done : List ℕ) (key : Text) : ℕ :=
  done.countP fun ref => (heap ref).edgeKey = key

/-- What an entry of the dictionary says of the proposals that were read. -/
structure Kept (heap : ℕ → EdgeProposal) (done : List ℕ) (state : MergeState)
    (entry : Text × ℕ) : Prop where
  mem : entry.2 ∈ done
  key : (heap entry.2).edgeKey = entry.1
  confidence : ∀ ref ∈ done, (heap ref).edgeKey = entry.1 →
    (heap ref).confidence ≤ (heap entry.2).confidence
  rules : ∀ ref ∈ done, (heap ref).edgeKey = entry.1 →
    ∀ rule ∈ (heap ref).detectionRules, rule ∈ (state.heap entry.2).detectionRules
  canonical : 2 ≤ readings heap done entry.1 →
    (state.heap entry.2).detectionRules.Pairwise Before

/-- The state after some references were read. -/
structure Merged (heap : ℕ → EdgeProposal) (done : List ℕ) (state : MergeState) : Prop where
  key : ∀ ref, (state.heap ref).edgeKey = (heap ref).edgeKey
  confidence : ∀ ref, (state.heap ref).confidence = (heap ref).confidence
  own : ∀ ref, ∀ rule ∈ (heap ref).detectionRules, rule ∈ (state.heap ref).detectionRules
  given : ∀ ref, ∀ rule ∈ (state.heap ref).detectionRules, rule ∈ (heap ref).detectionRules ∨
    ∃ other ∈ done, (heap other).edgeKey = (heap ref).edgeKey ∧
      rule ∈ (heap other).detectionRules
  untouched : ∀ ref, readings heap done (heap ref).edgeKey ≤ 1 → state.heap ref = heap ref
  nodup : (state.merged.map (·.1)).Nodup
  found : ∀ ref ∈ done, ∃ kept, ((heap ref).edgeKey, kept) ∈ state.merged
  kept : ∀ entry ∈ state.merged, Kept heap done state entry

variable {heap : ℕ → EdgeProposal} {done : List ℕ} {state : MergeState}

theorem merged_nil (heap : ℕ → EdgeProposal) : Merged heap [] { heap } where
  key _ := rfl
  confidence _ := rfl
  own _ _ h := h
  given _ _ h := .inl h
  untouched _ _ := rfl
  nodup := List.nodup_nil
  found := by simp
  kept := by simp

theorem readings_append_singleton (heap : ℕ → EdgeProposal) (done : List ℕ) (ref : ℕ)
    (key : Text) : readings heap (done ++ [ref]) key =
      readings heap done key + if (heap ref).edgeKey = key then 1 else 0 := by
  simp [readings, List.countP_append, List.countP_singleton]

theorem readings_pos {ref : ℕ} (h : ref ∈ done) : 0 < readings heap done (heap ref).edgeKey :=
  List.countP_pos_iff.mpr ⟨ref, h, by simp⟩

theorem mem_set_iff {κ β : Type*} [DecidableEq κ] {dict : Dict κ β}
    (h : (dict.map (·.1)).Nodup) {k : κ} {value : β} {entry : κ × β} :
    entry ∈ Dict.set k value dict ↔ entry = (k, value) ∨ entry.1 ≠ k ∧ entry ∈ dict := by
  obtain ⟨key, old⟩ := entry
  rw [Dict.set, Dict.mem_iff_get? (Dict.keys_modify_nodup h)]
  by_cases hkey : key = k
  · subst hkey
    rw [Dict.get?_modify_self]
    simp [eq_comm]
  · rw [Dict.get?_modify_of_ne hkey, ← Dict.mem_iff_get? h]
    simp [hkey]

/-- An entry of another key is as it was. -/
theorem Kept.of_ne {entry : Text × ℕ} (h : Kept heap done state entry) {ref : ℕ}
    (hkey : (heap ref).edgeKey ≠ entry.1) {next : MergeState}
    (hnext : next.heap entry.2 = state.heap entry.2) :
    Kept heap (done ++ [ref]) next entry where
  mem := List.mem_append_left _ h.mem
  key := h.key
  confidence := by
    intro other hother hsame
    rcases List.mem_append.mp hother with hother | hother
    · exact h.confidence other hother hsame
    · rw [List.mem_singleton.mp hother] at hsame
      exact absurd hsame hkey
  rules := by
    intro other hother hsame rule hrule
    rw [hnext]
    rcases List.mem_append.mp hother with hother | hother
    · exact h.rules other hother hsame rule hrule
    · rw [List.mem_singleton.mp hother] at hsame
      exact absurd hsame hkey
  canonical := by
    rw [readings_append_singleton, if_neg hkey, hnext]
    exact h.canonical

theorem given_append {ref other : ℕ} {rule : Text}
    (h : rule ∈ (heap ref).detectionRules ∨ ∃ other ∈ done,
      (heap other).edgeKey = (heap ref).edgeKey ∧ rule ∈ (heap other).detectionRules) :
    rule ∈ (heap ref).detectionRules ∨ ∃ found ∈ done ++ [other],
      (heap found).edgeKey = (heap ref).edgeKey ∧ rule ∈ (heap found).detectionRules := by
  rcases h with h | ⟨found, hfound, hrest⟩
  · exact .inl h
  · exact .inr ⟨found, List.mem_append_left _ hfound, hrest⟩

/-- The first proposal of a key is entered. -/
theorem Merged.enter (h : Merged heap done state) {ref : ℕ}
    (hnone : ∀ kept, ((heap ref).edgeKey, kept) ∉ state.merged) :
    Merged heap (done ++ [ref])
      { state with merged := state.merged.set (heap ref).edgeKey ref } where
  key := h.key
  confidence := h.confidence
  own := h.own
  given other rule hrule := given_append (h.given other rule hrule)
  untouched := by
    intro other hreadings
    rw [readings_append_singleton] at hreadings
    exact h.untouched other (by omega)
  nodup := Dict.keys_modify_nodup h.nodup
  found := by
    intro other hother
    simp only [mem_set_iff h.nodup]
    by_cases hkey : (heap other).edgeKey = (heap ref).edgeKey
    · exact ⟨ref, .inl (by rw [hkey])⟩
    · rcases List.mem_append.mp hother with hother | hother
      · obtain ⟨kept, hkept⟩ := h.found other hother
        exact ⟨kept, .inr ⟨hkey, hkept⟩⟩
      · exact absurd (by rw [List.mem_singleton.mp hother]) hkey
  kept := by
    intro entry hentry
    rcases (mem_set_iff h.nodup).mp hentry with rfl | ⟨hkey, hentry⟩
    · have hfirst : ∀ other ∈ done ++ [ref], (heap other).edgeKey = (heap ref).edgeKey →
          other = ref := by
        intro other hother hsame
        rcases List.mem_append.mp hother with hother | hother
        · obtain ⟨kept, hkept⟩ := h.found other hother
          exact absurd (hsame ▸ hkept) (hnone kept)
        · exact List.mem_singleton.mp hother
      refine ⟨by simp, rfl, ?_, ?_, ?_⟩
      · intro other hother hsame
        rw [hfirst other hother hsame]
      · intro other hother hsame rule hrule
        rw [hfirst other hother hsame] at hrule
        exact h.own ref rule hrule
      · intro hreadings
        rw [readings_append_singleton, if_pos rfl] at hreadings
        obtain ⟨other, hother, hsame⟩ := List.countP_pos_iff.mp
          (show 0 < readings heap done (heap ref).edgeKey by dsimp only at hreadings; omega)
        obtain ⟨kept, hkept⟩ := h.found other hother
        exact absurd (of_decide_eq_true hsame ▸ hkept) (hnone kept)
    · exact (h.kept entry hentry).of_ne hkey.symm rfl

/-- The state after one of two proposals of a key was kept, and took the rules of the other. -/
def MergeState.keep (state : MergeState) (key : Text) (keep other : ℕ) : MergeState :=
  { heap := Function.update state.heap keep
      { state.heap keep with
        detectionRules := sorted
          ((state.heap keep).detectionRules ++ (state.heap other).detectionRules).dedup
        reason := (state.heap keep).reason ++ "; ".toList ++ (state.heap other).reason }
    merged := state.merged.set key keep }

theorem Merged.kept_or_dropped (h : Merged heap done state) {ref existing keep other : ℕ}
    (hexisting : ((heap ref).edgeKey, existing) ∈ state.merged)
    (hchoice : keep = ref ∧ other = existing ∨ keep = existing ∧ other = ref)
    (hconfidence : (heap other).confidence ≤ (heap keep).confidence) :
    Merged heap (done ++ [ref]) (state.keep (heap ref).edgeKey keep other) := by
  have hfirst := h.kept _ hexisting
  have hkeep : (heap keep).edgeKey = (heap ref).edgeKey := by
    rcases hchoice with ⟨rfl, rfl⟩ | ⟨rfl, rfl⟩
    · rfl
    · exact hfirst.key
  have hother : (heap other).edgeKey = (heap ref).edgeKey := by
    rcases hchoice with ⟨rfl, rfl⟩ | ⟨rfl, rfl⟩
    · exact hfirst.key
    · rfl
  have hotherMem : other ∈ done ++ [ref] := by
    rcases hchoice with ⟨rfl, rfl⟩ | ⟨rfl, rfl⟩
    · exact List.mem_append_left _ hfirst.mem
    · simp
  have hheap : ∀ found, (heap found).edgeKey ≠ (heap ref).edgeKey →
      (state.keep (heap ref).edgeKey keep other).heap found = state.heap found := by
    intro found hne
    refine Function.update_of_ne ?_ _ _
    rintro rfl
    exact hne hkeep
  have hrules : ∀ rule, rule ∈
      ((state.keep (heap ref).edgeKey keep other).heap keep).detectionRules ↔
        rule ∈ (state.heap keep).detectionRules ∨ rule ∈ (state.heap other).detectionRules := by
    intro rule
    simp [MergeState.keep, mem_sorted]
  have hsame : ∀ found, found = keep ∨
      (state.keep (heap ref).edgeKey keep other).heap found = state.heap found := by
    intro found
    by_cases hfound : found = keep
    · exact .inl hfound
    · exact .inr (Function.update_of_ne hfound _ _)
  refine ⟨?_, ?_, ?_, ?_, ?_, Dict.keys_modify_nodup h.nodup, ?_, ?_⟩
  · intro found
    rcases hsame found with rfl | hfound
    · simpa [MergeState.keep, EdgeProposal.edgeKey] using h.key found
    · rw [hfound]
      exact h.key found
  · intro found
    rcases hsame found with rfl | hfound
    · simpa [MergeState.keep] using h.confidence found
    · rw [hfound]
      exact h.confidence found
  · intro found rule hrule
    rcases hsame found with rfl | hfound
    · exact (hrules rule).mpr (.inl (h.own found rule hrule))
    · rw [hfound]
      exact h.own found rule hrule
  · intro found rule hrule
    rcases hsame found with rfl | hfound
    · rcases (hrules rule).mp hrule with hrule | hrule
      · exact given_append (h.given found rule hrule)
      · rcases h.given other rule hrule with hrule | ⟨later, hlater, hkey, hrule⟩
        · exact .inr ⟨other, hotherMem, hother.trans hkeep.symm, hrule⟩
        · exact .inr ⟨later, List.mem_append_left _ hlater,
            hkey.trans (hother.trans hkeep.symm), hrule⟩
    · rw [hfound] at hrule
      exact given_append (h.given found rule hrule)
  · intro found hreadings
    rw [readings_append_singleton] at hreadings
    by_cases hkey : (heap ref).edgeKey = (heap found).edgeKey
    · have hexistingKey : (heap existing).edgeKey = (heap found).edgeKey := hfirst.key.trans hkey
      have hpos : 0 < readings heap done (heap existing).edgeKey := readings_pos hfirst.mem
      rw [hexistingKey] at hpos
      rw [if_pos hkey] at hreadings
      omega
    · rw [hheap found (Ne.symm hkey)]
      exact h.untouched found (by omega)
  · intro found hfound
    change ∃ kept, _ ∈ state.merged.set (heap ref).edgeKey keep
    simp only [mem_set_iff h.nodup]
    by_cases hkey : (heap found).edgeKey = (heap ref).edgeKey
    · exact ⟨keep, .inl (by rw [hkey])⟩
    · rcases List.mem_append.mp hfound with hfound | hfound
      · obtain ⟨kept, hkept⟩ := h.found found hfound
        exact ⟨kept, .inr ⟨hkey, hkept⟩⟩
      · exact absurd (by rw [List.mem_singleton.mp hfound]) hkey
  · intro entry hentry
    rcases (mem_set_iff h.nodup).mp hentry with rfl | ⟨hkey, hentry⟩
    · have hexistingLe : (heap existing).confidence ≤ (heap keep).confidence := by
        rcases hchoice with ⟨rfl, rfl⟩ | ⟨rfl, rfl⟩
        · exact hconfidence
        · exact le_rfl
      have hrefLe : (heap ref).confidence ≤ (heap keep).confidence := by
        rcases hchoice with ⟨rfl, rfl⟩ | ⟨rfl, rfl⟩
        · exact le_rfl
        · exact hconfidence
      have hunion : ∀ rule, rule ∈ (state.heap existing).detectionRules ∨
          rule ∈ (state.heap ref).detectionRules → rule ∈
            ((state.keep (heap ref).edgeKey keep other).heap keep).detectionRules := by
        intro rule hrule
        rw [hrules]
        rcases hchoice with ⟨rfl, rfl⟩ | ⟨rfl, rfl⟩
        · exact hrule.symm
        · exact hrule
      refine ⟨?_, hkeep, ?_, ?_, ?_⟩
      · rcases hchoice with ⟨rfl, rfl⟩ | ⟨rfl, rfl⟩
        · simp
        · exact List.mem_append_left _ hfirst.mem
      · intro found hfound hkey
        rcases List.mem_append.mp hfound with hfound | hfound
        · exact (hfirst.confidence found hfound hkey).trans hexistingLe
        · rw [List.mem_singleton.mp hfound]
          exact hrefLe
      · intro found hfound hkey rule hrule
        apply hunion
        rcases List.mem_append.mp hfound with hfound | hfound
        · exact .inl (hfirst.rules found hfound hkey rule hrule)
        · rw [List.mem_singleton.mp hfound] at hrule
          exact .inr (h.own ref rule hrule)
      · intro _
        simp only [MergeState.keep, Function.update_self]
        exact pairwise_before_sorted (List.nodup_dedup _)
    · have hne : (heap entry.2).edgeKey ≠ (heap ref).edgeKey := by
        rw [(h.kept entry hentry).key]
        exact hkey
      exact (h.kept entry hentry).of_ne hkey.symm (hheap entry.2 hne)

theorem Merged.step (h : Merged heap done state) (ref : ℕ) :
    Merged heap (done ++ [ref]) (state.step ref) := by
  rw [MergeState.step, h.key ref]
  cases hfound : state.merged.get? (heap ref).edgeKey with
  | none =>
      apply h.enter
      intro kept hkept
      rw [Dict.mem_iff_get? h.nodup, hfound] at hkept
      cases hkept
  | some existing =>
      have hexisting := (Dict.mem_iff_get? h.nodup).mpr hfound
      by_cases hconfidence : (heap ref).confidence > (heap existing).confidence
      · have hnow : (state.heap ref).confidence > (state.heap existing).confidence := by
          rwa [h.confidence, h.confidence]
        simp only [if_pos hnow]
        exact h.kept_or_dropped hexisting (.inl ⟨rfl, rfl⟩) hconfidence.le
      · have hnow : ¬ (state.heap ref).confidence > (state.heap existing).confidence := by
          rwa [h.confidence, h.confidence]
        simp only [if_neg hnow]
        exact h.kept_or_dropped hexisting (.inr ⟨rfl, rfl⟩) (not_lt.mp hconfidence)

theorem Merged.foldl (h : Merged heap done state) (refs : List ℕ) :
    Merged heap (done ++ refs) (refs.foldl MergeState.step state) := by
  induction refs generalizing done state with
  | nil => simpa using h
  | cons ref refs ih =>
      have hrest := ih (h.step ref)
      rwa [List.append_assoc] at hrest

/-! ## The merged list -/

/-- One proposal for every key, with the highest confidence and all rules of the key, in order. -/
structure MergeOf (given result : List EdgeProposal) : Prop where
  nodup : (result.map EdgeProposal.edgeKey).Nodup
  keys : ∀ key, (∃ p ∈ result, p.edgeKey = key) ↔ ∃ q ∈ given, q.edgeKey = key
  confidence : ∀ p ∈ result,
    IsGreatest {c | ∃ q ∈ given, q.edgeKey = p.edgeKey ∧ q.confidence = c} p.confidence
  rules : ∀ p ∈ result, ∀ rule, rule ∈ p.detectionRules ↔
    ∃ q ∈ given, q.edgeKey = p.edgeKey ∧ rule ∈ q.detectionRules
  sorted : result.Pairwise fun p q => q.confidence < p.confidence ∨
    p.confidence = q.confidence ∧ Before p.edgeKey q.edgeKey

/-- The fields that the merge is about. -/
def mergedFields (proposal : EdgeProposal) : Text × ℚ × List Text :=
  (proposal.edgeKey, proposal.confidence, proposal.detectionRules)

theorem proposalOrder_total (p q : EdgeProposal) : proposalOrder p q ∨ proposalOrder q p := by
  rcases lt_trichotomy p.confidence q.confidence with hlt | heq | hgt
  · exact .inr (.inl hlt)
  · exact (Text.le_total p.edgeKey q.edgeKey).imp (fun h => .inr ⟨heq, h⟩)
      fun h => .inr ⟨heq.symm, h⟩
  · exact .inl (.inl hgt)

theorem proposalOrder_trans {p q r : EdgeProposal} (h : proposalOrder p q)
    (h' : proposalOrder q r) : proposalOrder p r := by
  rcases h with h | ⟨heq, h⟩
  · rcases h' with h' | ⟨heq', _⟩
    · exact .inl (h'.trans h)
    · exact .inl (heq' ▸ h)
  · rcases h' with h' | ⟨heq', h'⟩
    · exact .inl (heq ▸ h')
    · exact .inr ⟨heq.trans heq', Text.le_trans h h'⟩

/-- The state that the loop ends in. -/
def finalState (heap : ℕ → EdgeProposal) (refs : List ℕ) : MergeState :=
  refs.foldl MergeState.step { heap }

theorem merged_finalState (heap : ℕ → EdgeProposal) (refs : List ℕ) :
    Merged heap refs (finalState heap refs) := by
  simpa [finalState] using (merged_nil heap).foldl refs

theorem mem_mergeProposals {heap : ℕ → EdgeProposal} {lists : List (List ℕ)} {p : EdgeProposal} :
    p ∈ mergeProposals heap lists ↔ ∃ entry ∈ (finalState heap lists.flatten).merged,
      (finalState heap lists.flatten).heap entry.2 = p := by
  rw [mergeProposals, List.mem_insertionSort, List.mem_map]
  rfl

theorem edgeKey_of_entry {heap : ℕ → EdgeProposal} {refs : List ℕ} {entry : Text × ℕ}
    (h : entry ∈ (finalState heap refs).merged) :
    ((finalState heap refs).heap entry.2).edgeKey = entry.1 :=
  ((merged_finalState heap refs).key entry.2).trans ((merged_finalState heap refs).kept entry h).key

theorem nodup_edgeKey_mergeProposals (heap : ℕ → EdgeProposal) (lists : List (List ℕ)) :
    ((mergeProposals heap lists).map EdgeProposal.edgeKey).Nodup := by
  have hkeys : ((finalState heap lists.flatten).merged.map fun entry =>
      (finalState heap lists.flatten).heap entry.2).map EdgeProposal.edgeKey =
        (finalState heap lists.flatten).merged.map (·.1) := by
    rw [List.map_map]
    exact List.map_congr_left fun entry hentry => edgeKey_of_entry hentry
  have hperm := (List.perm_insertionSort proposalOrder
    ((finalState heap lists.flatten).merged.map fun entry =>
      (finalState heap lists.flatten).heap entry.2)).map EdgeProposal.edgeKey
  rw [hkeys] at hperm
  exact hperm.nodup_iff.mpr (merged_finalState heap lists.flatten).nodup

theorem mergeOf_mergeProposals (heap : ℕ → EdgeProposal) (lists : List (List ℕ)) :
    MergeOf (lists.flatten.map heap) (mergeProposals heap lists) where
  nodup := nodup_edgeKey_mergeProposals heap lists
  keys := by
    have h := merged_finalState heap lists.flatten
    intro key
    constructor
    · rintro ⟨p, hp, rfl⟩
      obtain ⟨entry, hentry, rfl⟩ := mem_mergeProposals.mp hp
      exact ⟨heap entry.2, List.mem_map_of_mem (h.kept entry hentry).mem, (h.key entry.2).symm⟩
    · rintro ⟨q, hq, rfl⟩
      obtain ⟨ref, href, rfl⟩ := List.mem_map.mp hq
      obtain ⟨kept, hkept⟩ := h.found ref href
      exact ⟨_, mem_mergeProposals.mpr ⟨_, hkept, rfl⟩, edgeKey_of_entry hkept⟩
  confidence := by
    have h := merged_finalState heap lists.flatten
    intro p hp
    obtain ⟨entry, hentry, rfl⟩ := mem_mergeProposals.mp hp
    have hkept := h.kept entry hentry
    constructor
    · exact ⟨heap entry.2, List.mem_map_of_mem hkept.mem, (h.key entry.2).symm,
        (h.confidence entry.2).symm⟩
    · rintro c ⟨q, hq, hkey, rfl⟩
      obtain ⟨ref, href, rfl⟩ := List.mem_map.mp hq
      rw [h.confidence]
      exact hkept.confidence ref href (hkey.trans (edgeKey_of_entry hentry))
  rules := by
    have h := merged_finalState heap lists.flatten
    intro p hp rule
    obtain ⟨entry, hentry, rfl⟩ := mem_mergeProposals.mp hp
    have hkept := h.kept entry hentry
    constructor
    · intro hrule
      rcases h.given entry.2 rule hrule with hrule | ⟨ref, href, hkey, hrule⟩
      · exact ⟨heap entry.2, List.mem_map_of_mem hkept.mem, (h.key entry.2).symm, hrule⟩
      · exact ⟨heap ref, List.mem_map_of_mem href, hkey.trans (h.key entry.2).symm, hrule⟩
    · rintro ⟨q, hq, hkey, hrule⟩
      obtain ⟨ref, href, rfl⟩ := List.mem_map.mp hq
      exact hkept.rules ref href (hkey.trans (edgeKey_of_entry hentry)) rule hrule
  sorted := by
    have : Std.Total proposalOrder := ⟨proposalOrder_total⟩
    have : IsTrans EdgeProposal proposalOrder := ⟨fun _ _ _ => proposalOrder_trans⟩
    have hsorted : (mergeProposals heap lists).Pairwise proposalOrder :=
      List.pairwise_insertionSort proposalOrder _
    have hdistinct : (mergeProposals heap lists).Pairwise fun p q => p.edgeKey ≠ q.edgeKey :=
      List.pairwise_map.mp (nodup_edgeKey_mergeProposals heap lists)
    refine (hsorted.and hdistinct).imp ?_
    rintro p q ⟨hlt | ⟨heq, hle⟩, hne⟩
    · exact .inl hlt
    · exact .inr ⟨heq, hle, hne⟩

/-! ## The order of the lists -/

theorem eq_of_countP_le_one {α : Type*} {p : α → Bool} {xs : List α} (h : xs.countP p ≤ 1)
    {a b : α} (ha : a ∈ xs) (hb : b ∈ xs) (hpa : p a = true) (hpb : p b = true) : a = b := by
  have hall : ∀ c ∈ xs, p c = true → c ∈ xs.filter p := fun c hc hpc => by simp [hc, hpc]
  rw [List.countP_eq_length_filter] at h
  cases hfound : xs.filter p with
  | nil => simpa [hfound] using hall a ha hpa
  | cons c rest =>
      obtain rfl : rest = [] := by simpa [hfound] using h
      have hac := hall a ha hpa
      have hbc := hall b hb hpb
      rw [hfound, List.mem_singleton] at hac hbc
      rw [hac, hbc]

theorem mergedFields_eq {heap : ℕ → EdgeProposal} {lists others : List (List ℕ)}
    (hperm : others.flatten.Perm lists.flatten) {p q : EdgeProposal}
    (hp : p ∈ mergeProposals heap lists) (hq : q ∈ mergeProposals heap others)
    (hkey : p.edgeKey = q.edgeKey) : mergedFields p = mergedFields q := by
  have hgiven : ∀ r, r ∈ lists.flatten.map heap ↔ r ∈ others.flatten.map heap :=
    fun r => ((hperm.map heap).mem_iff).symm
  have hconfidence : p.confidence = q.confidence := by
    have hset : {c | ∃ r ∈ lists.flatten.map heap, r.edgeKey = p.edgeKey ∧ r.confidence = c} =
        {c | ∃ r ∈ others.flatten.map heap, r.edgeKey = q.edgeKey ∧ r.confidence = c} := by
      simp only [hgiven, hkey]
    exact ((mergeOf_mergeProposals heap lists).confidence p hp).unique
      (hset ▸ (mergeOf_mergeProposals heap others).confidence q hq)
  have hmem : ∀ rule, rule ∈ p.detectionRules ↔ rule ∈ q.detectionRules := by
    intro rule
    rw [(mergeOf_mergeProposals heap lists).rules p hp,
      (mergeOf_mergeProposals heap others).rules q hq]
    simp only [hgiven, hkey]
  obtain ⟨entry, hentry, rfl⟩ := mem_mergeProposals.mp hp
  obtain ⟨other, hother, rfl⟩ := mem_mergeProposals.mp hq
  have h := merged_finalState heap lists.flatten
  have h' := merged_finalState heap others.flatten
  have hentries : entry.1 = other.1 := by
    rw [← edgeKey_of_entry hentry, ← edgeKey_of_entry hother, hkey]
  have hreadings : readings heap others.flatten other.1 =
      readings heap lists.flatten entry.1 := by
    rw [hentries]
    exact hperm.countP_eq _
  have hrules : ((finalState heap lists.flatten).heap entry.2).detectionRules =
      ((finalState heap others.flatten).heap other.2).detectionRules := by
    by_cases hmany : 2 ≤ readings heap lists.flatten entry.1
    · have hleft := (h.kept entry hentry).canonical hmany
      have hright := (h'.kept other hother).canonical (hreadings ▸ hmany)
      have hrulesPerm := (List.perm_ext_iff_of_nodup (hleft.imp fun h => h.2)
        (hright.imp fun h => h.2)).mpr hmem
      exact hrulesPerm.eq_of_pairwise (fun _ _ _ _ hab hba => absurd hba hab.asymm) hleft hright
    · -- The key was read once, and nothing was written.
      have honly : entry.2 = other.2 := by
        refine eq_of_countP_le_one (not_lt.mp hmany) (h.kept entry hentry).mem
          (hperm.mem_iff.mp (h'.kept other hother).mem) ?_ ?_
        · simpa using (h.kept entry hentry).key
        · simpa [hentries] using (h'.kept other hother).key
      rw [h.untouched entry.2 (by rw [(h.kept entry hentry).key]; omega),
        h'.untouched other.2 (by rw [(h'.kept other hother).key]; omega), honly]
  rw [mergedFields, mergedFields, hkey, hconfidence, hrules]

theorem mergedFields_of_perm {heap : ℕ → EdgeProposal} {lists others : List (List ℕ)}
    (hperm : others.flatten.Perm lists.flatten) :
    (mergeProposals heap others).map mergedFields = (mergeProposals heap lists).map mergedFields := by
  have hnodup : ∀ lists, ((mergeProposals heap lists).map mergedFields).Nodup := by
    intro lists
    have hkeys : ((mergeProposals heap lists).map mergedFields).map (·.1) =
        (mergeProposals heap lists).map EdgeProposal.edgeKey := by
      rw [List.map_map]
      rfl
    exact List.Nodup.of_map (·.1) (hkeys ▸ nodup_edgeKey_mergeProposals heap lists)
  have hsub : ∀ {lists others : List (List ℕ)}, others.flatten.Perm lists.flatten →
      ∀ fields ∈ (mergeProposals heap others).map mergedFields,
        fields ∈ (mergeProposals heap lists).map mergedFields := by
    intro lists others hperm fields hfields
    obtain ⟨q, hq, rfl⟩ := List.mem_map.mp hfields
    obtain ⟨r, hr, hrkey⟩ := ((mergeOf_mergeProposals heap others).keys q.edgeKey).mp ⟨q, hq, rfl⟩
    obtain ⟨p, hp, hkey⟩ := ((mergeOf_mergeProposals heap lists).keys q.edgeKey).mpr
      ⟨r, (hperm.map heap).mem_iff.mp hr, hrkey⟩
    exact List.mem_map.mpr ⟨p, hp, mergedFields_eq hperm hp hq hkey⟩
  have hsorted : ∀ lists, ((mergeProposals heap lists).map mergedFields).Pairwise
      fun f g => g.2.1 < f.2.1 ∨ f.2.1 = g.2.1 ∧ Before f.1 g.1 :=
    fun lists => List.pairwise_map.mpr (mergeOf_mergeProposals heap lists).sorted
  have hfields := (List.perm_ext_iff_of_nodup (hnodup others) (hnodup lists)).mpr
    fun fields => ⟨hsub hperm fields, hsub hperm.symm fields⟩
  refine hfields.eq_of_pairwise ?_ (hsorted others) (hsorted lists)
  rintro f g _ _ (hlt | ⟨heq, hbefore⟩) (hlt' | ⟨heq', hbefore'⟩)
  · exact absurd hlt' hlt.not_gt
  · exact absurd heq' hlt.ne
  · exact absurd heq hlt'.ne
  · exact absurd hbefore' hbefore.asymm

/-! ## The producer and the merge -/

/-- Two hubs that share enough contents have one proposal, and others none, where rows without a
hub or a content are no memberships; the merge of proposals has one for every key, whatever the
order of the lists. -/
theorem coMembership_and_merge :
    (∀ (memberships : List (Text × Text)) (minShared : ℤ),
      (∀ proposal ∈ proposeFromCoMembership memberships minShared,
        Before proposal.sourceHubId proposal.targetHubId) ∧
      ∀ a b, a ≠ b → (proposeFromCoMembership memberships minShared).countP (Joins a b) =
        if max 1 minShared ≤ (sharedContents memberships a b).card then 1 else 0) ∧
    ∀ (heap : ℕ → EdgeProposal) (lists : List (List ℕ)),
      MergeOf (lists.flatten.map heap) (mergeProposals heap lists) ∧
      ∀ others : List (List ℕ), others.flatten.Perm lists.flatten →
        (mergeProposals heap others).map mergedFields =
          (mergeProposals heap lists).map mergedFields :=
  ⟨fun _ _ => ⟨fun _ => before_of_mem_coMembership, fun _ _ => countP_coMembership⟩,
    fun heap lists => ⟨mergeOf_mergeProposals heap lists, fun _ => mergedFields_of_perm⟩⟩

/-- Two hubs that are linked to the empty content identifier have no proposal. -/
theorem not_countP_coMembership_of_rows :
    ¬ ∀ (memberships : List (Text × Text)) (minShared : ℤ) (a b : Text), a ≠ b →
      (proposeFromCoMembership memberships minShared).countP (Joins a b) =
        if max 1 minShared ≤ (((memberships.map (·.2)).toFinset.filter fun content =>
          (a, content) ∈ memberships ∧ (b, content) ∈ memberships).card : ℤ) then 1 else 0 := by
  intro h
  have hpair := h [("a".toList, []), ("b".toList, [])] 1 "a".toList "b".toList (by decide)
  revert hpair
  decide

end MemoryLab.EdgeInference.Texts

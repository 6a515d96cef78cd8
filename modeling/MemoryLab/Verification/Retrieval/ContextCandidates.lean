import MemoryLab.Model.SearchByPurpose

/-! # The context package against its evidence

The text is within its budget, and the evidence is distinct and ordered. What evidence quotes can
be missing from the text: a block is cut with its header, and loses the blanks at its end. -/

namespace MemoryLab.SearchByPurpose

open Library Library.Rows TierRouter

/-! ## Joined texts -/

section Joining

variable {separator : String} {parts : List Text} {part : Text}

@[simp] theorem joinWith_nil : joinWith separator [] = [] := rfl

@[simp] theorem joinWith_singleton : joinWith separator [part] = part :=
  List.intercalate_singleton

theorem joinWith_concat (hne : parts ≠ []) :
    joinWith separator (parts ++ [part]) =
      joinWith separator parts ++ (separator.toList ++ part) := by
  induction parts with
  | nil => exact absurd rfl hne
  | cons first parts ih =>
      cases parts with
      | nil => simp [joinWith, List.intercalate_cons_cons]
      | cons next parts =>
          have hrest := ih (List.cons_ne_nil next parts)
          simp only [joinWith, List.cons_append, List.intercalate_cons_cons] at hrest ⊢
          rw [hrest]
          simp only [List.append_assoc]

theorem prefix_joinWith_cons : part <+: joinWith separator (part :: parts) := by
  cases parts with
  | nil => simp
  | cons next parts =>
      rw [joinWith, List.intercalate_cons_cons, List.append_assoc]
      exact List.prefix_append _ _

theorem infix_joinWith (h : part ∈ parts) : part <:+: joinWith separator parts := by
  induction parts with
  | nil => cases h
  | cons first parts ih =>
      cases parts with
      | nil =>
          rw [List.mem_singleton.mp h, joinWith_singleton]
      | cons next parts =>
          rw [joinWith, List.intercalate_cons_cons]
          rcases List.mem_cons.mp h with rfl | hrest
          · rw [List.append_assoc]
            exact (List.prefix_append _ _).isInfix
          · exact (ih hrest).trans (List.suffix_append _ _).isInfix

end Joining

variable {V : Type} {env : Environment V} {request : ContextCandidateBuildRequest V}

/-! ## What is selected -/

/-- The candidates the loop runs over. -/
def selected (request : ContextCandidateBuildRequest V) : List (RankedContextCandidate V) :=
  (dedupeRanked request.rankedCandidates).take request.maxCandidates.toNat

/-- The snippet of a candidate, cut to the length of snippets. -/
def cutSnippet (request : ContextCandidateBuildRequest V) (ranked : RankedContextCandidate V) :
    Text :=
  ranked.candidate.shown.strip.take request.snippetChars.toNat

/-- The block of a candidate before any budget. -/
def blockOf (env : Environment V) (request : ContextCandidateBuildRequest V) (index : ℕ)
    (ranked : RankedContextCandidate V) : Text :=
  formatBlock index (evidenceKey env request.query ranked.itemId ranked.rank) ranked
    (cutSnippet request ranked)

/-- The blocks of some candidates, from a number on. -/
def blocksFrom (env : Environment V) (request : ContextCandidateBuildRequest V) (index : ℕ)
    (items : List (RankedContextCandidate V)) : List Text :=
  (items.zipIdx index).map fun entry => blockOf env request entry.2 entry.1

theorem nodup_dedupeRanked (candidates : List (RankedContextCandidate V)) :
    ((dedupeRanked candidates).map (·.itemId)).Nodup :=
  ((perm_sortOn _).map _).nodup_iff.mpr (nodup_distinctOn _)

theorem nodup_selected : ((selected request).map (·.itemId)).Nodup := by
  rw [selected, List.map_take]
  exact (nodup_dedupeRanked _).sublist (List.take_sublist _ _)

theorem score_le_of_rankKey {first second : RankedContextCandidate V}
    (h : rankKey first ≤ rankKey second) : second.score ≤ first.score := by
  rw [rankKey, rankKey, Prod.Lex.toLex_le_toLex] at h
  rcases h with hlt | ⟨heq, _⟩
  · exact neg_le_neg_iff.mp hlt.le
  · exact neg_le_neg_iff.mp heq.le

theorem descending_selected :
    (selected request).Pairwise fun first second => second.score ≤ first.score := by
  have hsorted : (dedupeRanked request.rankedCandidates).Pairwise
      fun first second => rankKey first ≤ rankKey second := pairwise_sortOn _
  exact (hsorted.imp score_le_of_rankKey).sublist (List.take_sublist _ _)

/-! ## One block -/

/-- How a block begins, up to the id of its item. -/
def heading (index : ℕ) (key itemId : Text) : Text :=
  "[".toList ++ digits index ++ "] evidence_key=".toList ++ key ++ " item_id=".toList ++ itemId

/-- The text of a block before it is stripped. -/
theorem formatBlock_eq_strip (index : ℕ) (key : Text) (ranked : RankedContextCandidate V)
    (snippet : Text) :
    ∃ between, formatBlock index key ranked snippet =
      Text.strip (heading index key ranked.itemId ++ (between ++ snippet)) := by
  let first := "[".toList ++ digits index ++ "] evidence_key=".toList ++ key ++
    " item_id=".toList ++ ranked.itemId ++ " rank=".toList ++ digits ranked.rank ++
    " score=".toList ++ fixed 4 ranked.score
  let others := ("reason=".toList ++ ranked.reason) :: if ranked.limitations = [] then []
    else ["limitations=".toList ++ joinWith "," ranked.limitations]
  have hlines : formatBlock index key ranked snippet =
      Text.strip (joinWith "\n" ((first :: others) ++ [snippet])) := rfl
  have hfirst : first = heading index key ranked.itemId ++
      (" rank=".toList ++ digits ranked.rank ++ " score=".toList ++ fixed 4 ranked.score) := by
    simp only [first, heading, List.append_assoc]
  obtain ⟨rest, hrest⟩ : first <+: joinWith "\n" (first :: others) := prefix_joinWith_cons
  refine ⟨" rank=".toList ++ digits ranked.rank ++ " score=".toList ++ fixed 4 ranked.score ++
    rest ++ "\n".toList, ?_⟩
  rw [hlines, joinWith_concat (List.cons_ne_nil _ _), ← hrest, hfirst]
  simp only [List.append_assoc]

theorem formatBlock_ne_nil (index : ℕ) (key : Text) (ranked : RankedContextCandidate V)
    (snippet : Text) : formatBlock index key ranked snippet ≠ [] := by
  obtain ⟨between, hblock⟩ := formatBlock_eq_strip index key ranked snippet
  rw [hblock]
  exact Text.strip_ne_nil ⟨'[', List.mem_cons_self, by decide⟩

/-- Stripping leaves a snippet that does not end in a blank at the end of its block. -/
theorem formatBlock_eq_append (index : ℕ) (key : Text) (ranked : RankedContextCandidate V)
    {snippet : Text} (hne : snippet ≠ []) (hlast : ¬ Text.isSpace (snippet.getLast hne)) :
    ∃ between, formatBlock index key ranked snippet =
      heading index key ranked.itemId ++ (between ++ snippet) := by
  obtain ⟨between, hblock⟩ := formatBlock_eq_strip index key ranked snippet
  refine ⟨between, hblock.trans (Text.Trimmed.stripChars_eq ⟨fun _ => ?_, fun _ => ?_⟩)⟩
  · exact (by decide : ¬ Text.isSpace '[' = true)
  · rw [List.getLast_append_of_right_ne_nil _ _ (by simp [hne]),
      List.getLast_append_of_right_ne_nil _ _ hne]
    exact hlast

/-! ## One round of the loop -/

/-- The reference to a candidate with the given snippet. -/
def refOf (env : Environment V) (request : ContextCandidateBuildRequest V) (index : ℕ)
    (ranked : RankedContextCandidate V) (snippet : Text) : ContextEvidenceRef V :=
  ⟨index, evidenceKey env request.query ranked.itemId ranked.rank, ranked.itemId, ranked.rank,
    ranked.score, snippet, ranked.candidate.sourceMetadata, ranked.reason, ranked.limitations⟩

/-- The text with one more block is within the budget. -/
def FitsWith (request : ContextCandidateBuildRequest V) (parts : List Text) (block : Text) :
    Prop :=
  ((joinWith "\n\n" (parts ++ [block])).length : ℤ) ≤ request.maxContextChars

section Round

variable {index : ℕ} {ranked : RankedContextCandidate V}
  {s : PackState V} (rest : List (RankedContextCandidate V))

theorem packLoop_of_fitsWith (h : FitsWith request s.parts (blockOf env request index ranked)) :
    ∃ limitations, packLoop env request index (ranked :: rest) s =
      packLoop env request (index + 1) rest
        { s with
          refs := s.refs ++ [refOf env request index ranked (cutSnippet request ranked)]
          parts := s.parts ++ [blockOf env request index ranked]
          limitations := limitations } := by
  rw [packLoop]
  exact ⟨_, if_neg (not_lt.mpr h)⟩

theorem packLoop_of_exhausted (h : ¬ FitsWith request s.parts (blockOf env request index ranked))
    (hparts : s.parts ≠ []) :
    (packLoop env request index (ranked :: rest) s).refs = s.refs ∧
      (packLoop env request index (ranked :: rest) s).parts = s.parts := by
  have hstop : packLoop env request index (ranked :: rest) s = _ :=
    (if_pos (not_le.mp h)).trans (if_pos hparts)
  rw [hstop]
  exact ⟨rfl, rfl⟩

theorem packLoop_of_first (h : ¬ FitsWith request s.parts (blockOf env request index ranked))
    (hparts : s.parts = []) :
    (packLoop env request index (ranked :: rest) s).refs = s.refs ++ [refOf env request index
        ranked ((cutSnippet request ranked).take request.maxContextChars.toNat)] ∧
      (packLoop env request index (ranked :: rest) s).parts =
        s.parts ++ [(blockOf env request index ranked).take request.maxContextChars.toNat] := by
  have hstop : packLoop env request index (ranked :: rest) s = _ :=
    (if_pos (not_le.mp h)).trans (if_neg (not_not.mpr hparts))
  rw [hstop]
  exact ⟨rfl, rfl⟩

end Round

/-! ## The budget -/

/-- The loop has packed these candidates, in this order, within the budget. -/
structure PackedWithin (request : ContextCandidateBuildRequest V)
    (packed : List (RankedContextCandidate V)) (s : PackState V) : Prop where
  ids : s.refs.map (·.itemId) = packed.map (·.itemId)
  scores : s.refs.map (·.score) = packed.map (·.score)
  within : ((joinWith "\n\n" s.parts).length : ℤ) ≤ request.maxContextChars

theorem packedWithin_packLoop (env : Environment V) (hbudget : 0 ≤ request.maxContextChars)
    (index : ℕ) (items : List (RankedContextCandidate V))
    {before : List (RankedContextCandidate V)} {s : PackState V}
    (h : PackedWithin request before s) :
    ∃ packed, packed <+: before ++ items ∧
      PackedWithin request packed (packLoop env request index items s) := by
  induction items generalizing before index s with
  | nil => exact ⟨before, List.prefix_append _ _, h⟩
  | cons ranked items ih =>
      by_cases hfits : FitsWith request s.parts (blockOf env request index ranked)
      · obtain ⟨limitations, hround⟩ := packLoop_of_fitsWith items hfits
        rw [hround, List.append_cons]
        apply ih
        exact ⟨by simp [h.ids, refOf], by simp [h.scores, refOf], hfits⟩
      · by_cases hparts : s.parts = []
        · obtain ⟨hrefs, hround⟩ := packLoop_of_first items hfits hparts
          refine ⟨before ++ [ranked], by simp, by simp [hrefs, h.ids, refOf],
            by simp [hrefs, h.scores, refOf], ?_⟩
          rw [hround, hparts, List.nil_append, joinWith_singleton, List.length_take]
          omega
        · obtain ⟨hrefs, hround⟩ := packLoop_of_exhausted items hfits hparts
          refine ⟨before, List.prefix_append _ _, by rw [hrefs, h.ids], by rw [hrefs, h.scores], ?_⟩
          rw [hround]
          exact h.within

/-- What holds of the sizes of every package and of its evidence. -/
structure WithinBudget (request : ContextCandidateBuildRequest V)
    (package : ContextCandidatePackage V) : Prop where
  length_eq : package.contextText.length = package.totalContextChars
  total_le : (package.totalContextChars : ℤ) ≤ request.maxContextChars
  evidence_le : (package.evidence.length : ℤ) ≤ request.maxCandidates
  distinct : (package.evidence.map (·.itemId)).Nodup
  descending : package.evidence.Pairwise fun first second => second.score ≤ first.score

theorem withinBudget_build (hcandidates : 0 ≤ request.maxCandidates)
    (hbudget : 0 ≤ request.maxContextChars) :
    WithinBudget request (buildContextCandidates env request) := by
  have hstart : PackedWithin request [] ({} : PackState V) := ⟨rfl, rfl, by simpa using hbudget⟩
  obtain ⟨packed, hfront, hpacked⟩ :=
    packedWithin_packLoop env hbudget 1 (selected request) hstart
  rw [List.nil_append] at hfront
  have hids : (buildContextCandidates env request).evidence.map (·.itemId) =
      packed.map (·.itemId) := hpacked.ids
  have hscores : (buildContextCandidates env request).evidence.map (·.score) =
      packed.map (·.score) := hpacked.scores
  refine ⟨rfl, hpacked.within, ?_, ?_, ?_⟩
  · have hlength := congrArg List.length hids
    have hselected : (selected request).length ≤ request.maxCandidates.toNat :=
      List.length_take_le _ _
    have hle := hfront.length_le
    rw [List.length_map, List.length_map] at hlength
    omega
  · rw [hids]
    exact nodup_selected.sublist (hfront.sublist.map _)
  · have hsorted : (packed.map (·.score)).Pairwise fun first second => second ≤ first :=
      List.pairwise_map.mpr (descending_selected.sublist hfront.sublist)
    rw [← hscores] at hsorted
    exact List.pairwise_map.mp hsorted

/-! ## What evidence quotes -/

/-- Every snippet of the evidence occurs in the text. -/
def SnippetsOccur (package : ContextCandidatePackage V) : Prop :=
  ∀ ref ∈ package.evidence, ref.snippet <:+: package.contextText

/-- No block that fits ends its snippet in a blank, and a first block that does not fit leaves
nothing of its snippet. -/
structure KeepsSnippets (env : Environment V) (request : ContextCandidateBuildRequest V) :
    Prop where
  solid : ∀ before ranked after, selected request = before ++ ranked :: after →
    FitsWith request (blocksFrom env request 1 before)
      (blockOf env request (before.length + 1) ranked) →
    ∀ hne : cutSnippet request ranked ≠ [],
      ¬ Text.isSpace ((cutSnippet request ranked).getLast hne)
  first : ∀ ranked after, selected request = ranked :: after →
    ¬ FitsWith request [] (blockOf env request 1 ranked) →
    (cutSnippet request ranked).take request.maxContextChars.toNat = []

/-- Each reference quotes a part of the text. -/
def Quoted (s : PackState V) : Prop := ∀ ref ∈ s.refs, ∃ part ∈ s.parts, ref.snippet <:+: part

theorem blocksFrom_concat (index : ℕ) (before : List (RankedContextCandidate V))
    (ranked : RankedContextCandidate V) :
    blocksFrom env request index (before ++ [ranked]) =
      blocksFrom env request index before ++
        [blockOf env request (index + before.length) ranked] := by
  simp [blocksFrom, List.zipIdx_append]

theorem eq_nil_of_blocksFrom {index : ℕ} {before : List (RankedContextCandidate V)}
    (h : blocksFrom env request index before = []) : before = [] := by
  simpa [blocksFrom] using h

theorem cutSnippet_infix_blockOf {index : ℕ} {ranked : RankedContextCandidate V}
    (h : ∀ hne : cutSnippet request ranked ≠ [],
      ¬ Text.isSpace ((cutSnippet request ranked).getLast hne)) :
    cutSnippet request ranked <:+: blockOf env request index ranked := by
  by_cases hne : cutSnippet request ranked = []
  · rw [hne]
    exact List.nil_infix
  · obtain ⟨between, hblock⟩ := formatBlock_eq_append index
      (evidenceKey env request.query ranked.itemId ranked.rank) ranked hne (h hne)
    rw [blockOf, hblock, ← List.append_assoc]
    exact (List.suffix_append _ _).isInfix

theorem Quoted.concat {refs : List (ContextEvidenceRef V)} {parts limitations : List Text}
    {truncated truncated' : Bool} {limitations' : List Text} {ref : ContextEvidenceRef V}
    {part : Text} (h : Quoted ⟨refs, parts, limitations, truncated⟩)
    (hpart : ref.snippet <:+: part) :
    Quoted ⟨refs ++ [ref], parts ++ [part], limitations', truncated'⟩ := by
  intro other hother
  rcases List.mem_append.mp hother with hold | hnew
  · obtain ⟨old, hold, hquote⟩ := h other hold
    exact ⟨old, List.mem_append_left _ hold, hquote⟩
  · rw [List.mem_singleton.mp hnew]
    exact ⟨part, List.mem_append_right _ List.mem_cons_self, hpart⟩

theorem quoted_packLoop (hkeeps : KeepsSnippets env request)
    (before : List (RankedContextCandidate V)) {items : List (RankedContextCandidate V)}
    {s : PackState V}
    (hsplit : selected request = before ++ items)
    (hparts : s.parts = blocksFrom env request 1 before) (h : Quoted s) :
    Quoted (packLoop env request (before.length + 1) items s) := by
  induction items generalizing before s with
  | nil => exact h
  | cons ranked items ih =>
      by_cases hfits : FitsWith request s.parts (blockOf env request (before.length + 1) ranked)
      · obtain ⟨limitations, hround⟩ := packLoop_of_fitsWith items hfits
        have hsolid := hkeeps.solid before ranked items hsplit (hparts ▸ hfits)
        rw [hround]
        have hnext := ih (before ++ [ranked])
          (s := ⟨s.refs ++ [refOf env request (before.length + 1) ranked
            (cutSnippet request ranked)],
            s.parts ++ [blockOf env request (before.length + 1) ranked], limitations,
            s.truncated⟩)
          (by simpa using hsplit)
          (by rw [blocksFrom_concat, hparts, Nat.add_comm 1])
          (h.concat (cutSnippet_infix_blockOf hsolid))
        simpa using hnext
      · by_cases hempty : s.parts = []
        · obtain ⟨hrefs, hround⟩ := packLoop_of_first items hfits hempty
          have hbefore : before = [] := eq_nil_of_blocksFrom (hparts.symm.trans hempty)
          subst hbefore
          have hnothing := hkeeps.first ranked items hsplit (by simpa [hempty] using hfits)
          intro ref href
          rw [hrefs, List.mem_append, List.mem_singleton] at href
          rw [hround]
          rcases href with hold | rfl
          · obtain ⟨part, hpart, hquote⟩ := h ref hold
            exact ⟨part, List.mem_append_left _ hpart, hquote⟩
          · refine ⟨_, List.mem_append_right _ List.mem_cons_self, ?_⟩
            rw [refOf, hnothing]
            exact List.nil_infix
        · obtain ⟨hrefs, hround⟩ := packLoop_of_exhausted items hfits hempty
          intro ref href
          rw [hrefs] at href
          rw [hround]
          exact h ref href

theorem snippetsOccur_of_keepsSnippets (hkeeps : KeepsSnippets env request) :
    SnippetsOccur (buildContextCandidates env request) := by
  intro ref href
  have hquoted : Quoted (packLoop env request 1 (selected request) {}) :=
    quoted_packLoop hkeeps [] rfl rfl (by simp [Quoted])
  obtain ⟨part, hpart, hquote⟩ := hquoted ref href
  exact hquote.trans (infix_joinWith hpart)

/-! ## An item whose id fills the budget -/

/-- One candidate with an id of the given length and a text that no heading holds. -/
def longItem (V : Type) (width : ℕ) : RankedContextCandidate V :=
  { itemId := List.replicate width 'a'
    rank := 1
    score := 0
    scoreComponents := []
    reason := []
    limitations := []
    matchedTerms := []
    candidate := { itemId := List.replicate width 'a', text := ['~'] }
    purpose := [] }

theorem notMem_heading {key : Text} (width : ℕ) (hkey : '~' ∉ key) :
    '~' ∉ heading 1 key (List.replicate width 'a') := by
  have hfront : '~' ∉ "[".toList ++ digits 1 ++ "] evidence_key=".toList := by
    decide +kernel
  have hmiddle : '~' ∉ " item_id=".toList := by decide
  have hid : '~' ∉ List.replicate width 'a' := fun hmem =>
    absurd (List.eq_of_mem_replicate hmem) (by decide)
  intro hmem
  rcases List.mem_append.mp hmem with hmem | hmem
  · rcases List.mem_append.mp hmem with hmem | hmem
    · rcases List.mem_append.mp hmem with hmem | hmem
      · exact hfront hmem
      · exact hkey hmem
    · exact hmiddle hmem
  · exact hid hmem

theorem notMem_evidenceKey (query itemId : Text) (rank : ℕ)
    (h : ∀ text, '~' ∉ env.digest12 text) : '~' ∉ evidenceKey env query itemId rank := by
  intro hmem
  have hname : '~' ∉ "B23-EVID-".toList := by decide
  rcases List.mem_append.mp hmem with hmem | hmem
  · exact hname hmem
  · exact h _ hmem

theorem lt_length_heading (key : Text) (width : ℕ) :
    width < (heading 1 key (List.replicate width 'a')).length := by
  simp only [heading, List.length_append, List.length_replicate]
  have hopen : 0 < "[".toList.length := by decide
  omega

/-- The item is cut within its heading, so that nothing of its text is left. -/
theorem not_snippetsOccur_longItem (h : ∀ text, '~' ∉ env.digest12 text)
    {maxCandidates maxContextChars snippetChars : ℕ} (hcandidates : maxCandidates ≠ 0)
    (hbudget : maxContextChars ≠ 0) (hsnippet : snippetChars ≠ 0) :
    ¬ SnippetsOccur (buildContextCandidates env
      ⟨[], [longItem V maxContextChars], maxCandidates, maxContextChars, snippetChars⟩) := by
  let request : ContextCandidateBuildRequest V :=
    ⟨[], [longItem V maxContextChars], maxCandidates, maxContextChars, snippetChars⟩
  have hselected : selected request = [longItem V maxContextChars] := by
    obtain ⟨n, rfl⟩ := Nat.exists_eq_succ_of_ne_zero hcandidates
    simp [selected, request, dedupeRanked, sortOn, distinctOn, distinctAfter]
  have hcut : cutSnippet request (longItem V maxContextChars) = ['~'] := by
    have hshown : (longItem V maxContextChars).candidate.shown.strip = ['~'] := rfl
    rw [cutSnippet, hshown]
    apply List.take_of_length_le
    simp [request]
    omega
  let key := evidenceKey env [] (longItem V maxContextChars).itemId 1
  let front := heading 1 key (longItem V maxContextChars).itemId
  obtain ⟨between, hbetween⟩ : ∃ between, formatBlock 1 key (longItem V maxContextChars) ['~'] =
      front ++ (between ++ ['~']) := formatBlock_eq_append 1 key _ (by decide) (by decide)
  have hblock : blockOf env request 1 (longItem V maxContextChars) =
      front ++ (between ++ ['~']) := by
    rw [blockOf, hcut]
    exact hbetween
  have hlength : maxContextChars < front.length := lt_length_heading key maxContextChars
  have hover : ¬ FitsWith request [] (blockOf env request 1 (longItem V maxContextChars)) := by
    rw [FitsWith, hblock, List.nil_append, joinWith_singleton, List.length_append]
    simp only [request]
    omega
  obtain ⟨hrefs, hparts⟩ := packLoop_of_first (s := {}) [] hover rfl
  intro hoccur
  have hevidence : (buildContextCandidates env request).evidence = [refOf env request 1
      (longItem V maxContextChars) (['~'].take maxContextChars)] := by
    rw [← hcut]
    exact (congrArg (fun items => (packLoop env request 1 items {}).refs) hselected).trans hrefs
  have htext : (buildContextCandidates env request).contextText = front.take maxContextChars := by
    have hcontext : (buildContextCandidates env request).contextText = joinWith "\n\n"
        (packLoop env request 1 [longItem V maxContextChars] {}).parts :=
      congrArg (fun items => joinWith "\n\n" (packLoop env request 1 items {}).parts) hselected
    rw [hcontext, hparts, List.nil_append, joinWith_singleton, hblock]
    exact List.take_append_of_le_length hlength.le
  have hquote := hoccur _ (by rw [hevidence]; exact List.mem_cons_self)
  rw [htext, refOf, List.take_of_length_le (Nat.one_le_iff_ne_zero.mpr hbudget)] at hquote
  have hmem : '~' ∈ front.take maxContextChars := hquote.subset List.mem_cons_self
  exact notMem_heading maxContextChars (notMem_evidenceKey _ _ _ h) (List.mem_of_mem_take hmem)

/-! ## When a package quotes what it holds -/

theorem not_fitsWith_of_zero {parts : List Text} {block : Text} (hne : block ≠ [])
    (hzero : request.maxContextChars = 0) : ¬ FitsWith request parts block := by
  intro hfits
  have hpart : block <:+: joinWith "\n\n" (parts ++ [block]) :=
    infix_joinWith (List.mem_append_right _ List.mem_cons_self)
  have hle := hpart.length_le
  have hpos := List.length_pos_iff.mpr hne
  rw [FitsWith] at hfits
  omega

theorem keepsSnippets_of_size_zero
    (h : request.maxCandidates = 0 ∨ request.maxContextChars = 0 ∨ request.snippetChars = 0) :
    KeepsSnippets env request := by
  rcases h with hzero | hzero | hzero
  · have hselected : selected request = [] := by simp [selected, hzero]
    refine ⟨fun before ranked after hsplit => ?_, fun ranked after hsplit => ?_⟩
    · rw [hselected] at hsplit
      simp at hsplit
    · rw [hselected] at hsplit
      cases hsplit
  · refine ⟨fun before ranked _ _ hfits => ?_, fun _ _ _ _ => by simp [hzero]⟩
    exact absurd hfits (not_fitsWith_of_zero (formatBlock_ne_nil _ _ _ _) hzero)
  · have hcut : ∀ ranked, cutSnippet request ranked = [] := by simp [cutSnippet, hzero]
    exact ⟨fun _ ranked _ _ _ hne => absurd (hcut ranked) hne, fun ranked _ _ _ => by simp [hcut]⟩

/-- The package of a request is within its budget and holds what its evidence quotes. -/
def Packages (env : Environment V) (request : ContextCandidateBuildRequest V) : Prop :=
  WithinBudget request (buildContextCandidates env request) ∧
    SnippetsOccur (buildContextCandidates env request)

/-- Every package is within its budget. With some size zero every package holds what its evidence
quotes, with other sizes some package does not; a package does whose blocks keep their snippets. -/
theorem packages_iff (env : Environment V)
    (hhex : ∀ text, ∀ digit ∈ env.digest12 text, digit ∈ "0123456789abcdef".toList)
    (maxCandidates maxContextChars snippetChars : ℕ) :
    ((∀ query candidates,
        Packages env ⟨query, candidates, maxCandidates, maxContextChars, snippetChars⟩) ↔
      maxCandidates = 0 ∨ maxContextChars = 0 ∨ snippetChars = 0) ∧
    ∀ query candidates,
      let request : ContextCandidateBuildRequest V :=
        ⟨query, candidates, maxCandidates, maxContextChars, snippetChars⟩
      WithinBudget request (buildContextCandidates env request) ∧
        (KeepsSnippets env request → Packages env request) := by
  have hbudget : ∀ query candidates, WithinBudget (V := V)
      ⟨query, candidates, maxCandidates, maxContextChars, snippetChars⟩
      (buildContextCandidates env
        ⟨query, candidates, maxCandidates, maxContextChars, snippetChars⟩) :=
    fun _ _ => withinBudget_build (Int.natCast_nonneg _) (Int.natCast_nonneg _)
  refine ⟨⟨fun hall => ?_, fun hzero query candidates => ?_⟩, fun query candidates => ?_⟩
  · by_contra hpositive
    simp only [not_or] at hpositive
    have hdigest : ∀ text, '~' ∉ env.digest12 text := fun text hmem =>
      absurd (hhex text '~' hmem) (by decide)
    exact not_snippetsOccur_longItem hdigest hpositive.1 hpositive.2.1 hpositive.2.2
      (hall [] [longItem V maxContextChars]).2
  · refine ⟨hbudget query candidates, snippetsOccur_of_keepsSnippets ?_⟩
    apply keepsSnippets_of_size_zero
    simpa using hzero
  · exact ⟨hbudget query candidates, fun hkeeps =>
      ⟨hbudget query candidates, snippetsOccur_of_keepsSnippets hkeeps⟩⟩

/-- The digits are those of `b23|greeting|a|1`. -/
def sampleEnvironment : Environment Text :=
  ⟨id, Char.isAlphanum, fun _ => "7ca9f9822397".toList⟩

def sampleRanked : RankedContextCandidate Text :=
  { itemId := "a".toList
    rank := 1
    score := 1 / 2
    scoreComponents := []
    reason := "purpose=answer".toList
    limitations := []
    matchedTerms := []
    candidate := { itemId := "a".toList, text := "hello world".toList }
    purpose := "answer".toList }

theorem keepsSnippets_sample :
    KeepsSnippets sampleEnvironment ⟨"greeting".toList, [sampleRanked], 8, 4000, 600⟩ := by
  refine ⟨fun before ranked after hsplit _ hne => ?_, fun ranked after hsplit hover => ?_⟩
  · have hranked : ranked ∈ [sampleRanked] := by
      have hmem : ranked ∈ selected (V := Text)
          ⟨"greeting".toList, [sampleRanked], 8, 4000, 600⟩ := by
        rw [hsplit]
        simp
      exact hmem
    obtain rfl := List.mem_singleton.mp hranked
    revert hne
    decide
  · cases hsplit
    exact absurd (by unfold FitsWith; decide +kernel) hover

theorem hexadecimal_sample : ∀ text, ∀ digit ∈ sampleEnvironment.digest12 text,
    digit ∈ "0123456789abcdef".toList := by
  intro text digit hdigit
  have hall : "7ca9f9822397".toList.all
      (fun digit => decide (digit ∈ "0123456789abcdef".toList)) = true := by decide
  exact of_decide_eq_true (List.all_eq_true.mp hall digit hdigit)

theorem packages_iff_sample :
    Packages sampleEnvironment ⟨"greeting".toList, [sampleRanked], 8, 4000, 600⟩ :=
  ((packages_iff sampleEnvironment hexadecimal_sample 8 4000 600).2 _ _).2 keepsSnippets_sample

/-- The snippet `hello ` is quoted with its blank, which its block has lost. -/
theorem not_packages : ¬ ∀ query candidates (maxCandidates maxContextChars snippetChars : ℕ),
    Packages sampleEnvironment
      ⟨query, candidates, maxCandidates, maxContextChars, snippetChars⟩ := by
  intro hall
  have hoccur := (hall "greeting".toList [sampleRanked] 8 4000 6).2
  have hnot : ¬ SnippetsOccur (buildContextCandidates sampleEnvironment
      ⟨"greeting".toList, [sampleRanked], 8, 4000, 6⟩) := by
    unfold SnippetsOccur
    decide +kernel
  exact hnot hoccur

end MemoryLab.SearchByPurpose

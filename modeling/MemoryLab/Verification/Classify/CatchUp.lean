import MemoryLab.Verification.Classify.Backlog
import MemoryLab.Verification.Classify.Phrases
import MemoryLab.Verification.Save.Readers
import MemoryLab.Verification.Scope.Texts

/-! # The job beside the save

The job reads joined chunks where a save reads the body. -/

namespace MemoryLab.Classify

open Library Library.Rows Adapter Chunking ContentReaders Resolver ScopePipeline

/-! ## The tables -/

def plainText (text : Text) : Bool :=
  !text.isEmpty && text.length ≤ 80 && !text.contains '\n'

theorem plain_literal {pattern : String} (h : plainText pattern.toList = true) :
    (literal pattern).Plain := by
  simp only [plainText, Bool.and_eq_true, Bool.not_eq_true', decide_eq_true_eq] at h
  refine ⟨?_, by simpa [literal] using h.1.2, ?_⟩
  · simpa [literal] using h.1.1
  · intro p hp
    obtain ⟨letter, hletter, rfl⟩ := List.mem_map.mp hp
    have hline := h.2
    rw [List.contains_eq_mem, decide_eq_false_iff_not] at hline
    rw [beq_eq_false_iff_ne]
    rintro rfl
    exact hline hletter

/-- What the sub types are told by. -/
def subTypePatterns : List (List String) :=
  [["schema apply", "_schema_apply_pass", "schema_apply"],
    ["v0.1.0", "0.1.0b", "released:", "shipped:"],
    ["scorecard", "layer score", "score updated"],
    ["schema", "migration", "architecture"],
    ["scorecard", "layer score", "% headline", "layer scores"]]

theorem plain_signals (type : MemoryType) : ∃ texts,
    Text.Spelled ((keywordSignals type).flatMap (·.1)) texts ∧
      (texts.all fun text => plainText text && minTermLen ≤ Text.visibleCount text) = true := by
  cases type
  all_goals
    apply Exists.intro
    apply And.intro
    · simp only [keywordSignals, Text.Spelled, List.flatMap]
      repeat' constructor
    · decide +kernel

theorem plain_domains : ∃ texts, Text.Spelled (domainKeywords.flatMap (·.2)) texts ∧
    texts.all plainText = true := by
  apply Exists.intro
  apply And.intro
  · simp only [domainKeywords, Text.Spelled, List.flatMap]
    repeat' constructor
  · decide +kernel

theorem plain_subTypes : ∃ texts, Text.Spelled subTypePatterns.flatten texts ∧
    texts.all plainText = true := by
  apply Exists.intro
  apply And.intro
  · simp only [subTypePatterns, Text.Spelled]
    repeat' constructor
  · decide +kernel

theorem plain_keyword {type : MemoryType} {group : List String × ℚ}
    (hgroup : group ∈ keywordSignals type) {pattern : String} (hpattern : pattern ∈ group.1) :
    plainText pattern.toList = true ∧ minTermLen ≤ Text.visibleCount pattern.toList := by
  obtain ⟨texts, hspelled, hall⟩ := plain_signals type
  have hmem := hspelled.mem (List.mem_flatMap.mpr ⟨group, hgroup, hpattern⟩)
  simpa using List.all_eq_true.mp hall _ hmem

theorem plain_domain {entry : String × List String} (hentry : entry ∈ domainKeywords)
    {pattern : String} (hpattern : pattern ∈ entry.2) : plainText pattern.toList = true := by
  obtain ⟨texts, hspelled, hall⟩ := plain_domains
  exact List.all_eq_true.mp hall _ (hspelled.mem (List.mem_flatMap.mpr ⟨entry, hentry, hpattern⟩))

theorem plain_subType {patterns : List String} (hmem : patterns ∈ subTypePatterns)
    {pattern : String} (hpattern : pattern ∈ patterns) : plainText pattern.toList = true := by
  obtain ⟨texts, hspelled, hall⟩ := plain_subTypes
  exact List.all_eq_true.mp hall _ (hspelled.mem (List.mem_flatten.mpr ⟨patterns, hmem, hpattern⟩))

theorem plain_projects : ∀ entry ∈ projectPatterns, entry.1.Plain := by
  intro entry hentry
  have hall : (projectPatterns.all fun entry => !entry.1.isEmpty &&
      decide (entry.1.length ≤ 80) && entry.1.all fun p => !p '\n') = true := by
    decide +kernel
  have hplain := List.all_eq_true.mp hall entry hentry
  rw [Bool.and_eq_true, Bool.and_eq_true, Bool.not_eq_true', List.isEmpty_eq_false_iff,
    decide_eq_true_eq, List.all_eq_true] at hplain
  exact ⟨hplain.1.1, hplain.1.2, fun p hp => by simpa using hplain.2 p hp⟩

/-! ## What the classifier depends on -/

/-- Two texts in which the same plain phrases are found. -/
def SameFound (found found' : Phrase → Bool) : Prop :=
  ∀ phrase : Phrase, phrase.Plain → found phrase = found' phrase

section Congruence

variable {found found' : Phrase → Bool}

theorem SameFound.literal (h : SameFound found found') {pattern : String}
    (hplain : plainText pattern.toList = true) :
    found (Classify.literal pattern) = found' (Classify.literal pattern) :=
  h _ (plain_literal hplain)

theorem SameFound.firedPattern (h : SameFound found found') {type : MemoryType}
    {group : List String × ℚ} (hgroup : group ∈ keywordSignals type) :
    Classify.firedPattern found group = Classify.firedPattern found' group :=
  List.find?_congr fun _ hpattern => h.literal (plain_keyword hgroup hpattern).1

theorem SameFound.rawScore (h : SameFound found found') (args : ClassifyArgs) :
    Classify.rawScore found args = Classify.rawScore found' args := by
  funext type
  have hfilter : (keywordSignals type).filter (fun group =>
      (Classify.firedPattern found group).isSome) = (keywordSignals type).filter fun group =>
        (Classify.firedPattern found' group).isSome :=
    List.filter_congr fun group hgroup => by rw [h.firedPattern hgroup]
  rw [Classify.rawScore, Classify.rawScore, keywordScore, keywordScore, hfilter]

theorem SameFound.firedSignals (h : SameFound found found') (args : ClassifyArgs)
    (type : MemoryType) :
    Classify.firedSignals found args type = Classify.firedSignals found' args type := by
  rw [Classify.firedSignals, Classify.firedSignals,
    List.filterMap_congr fun group hgroup => h.firedPattern hgroup]

theorem SameFound.anyFound (h : SameFound found found') {patterns : List String}
    (hplain : ∀ pattern ∈ patterns, plainText pattern.toList = true) :
    Classify.anyFound found patterns = Classify.anyFound found' patterns := by
  rw [Bool.eq_iff_iff, Classify.anyFound, Classify.anyFound, List.any_eq_true, List.any_eq_true]
  refine exists_congr fun pattern => and_congr_right fun hpattern => ?_
  rw [h.literal (hplain pattern hpattern)]

theorem SameFound.classifySubtype (h : SameFound found found') (type : MemoryType) :
    Classify.classifySubtype found type = Classify.classifySubtype found' type := by
  have hany : ∀ patterns ∈ subTypePatterns,
      Classify.anyFound found patterns = Classify.anyFound found' patterns := fun patterns hmem =>
    h.anyFound fun _ hpattern => plain_subType hmem hpattern
  cases type with
  | milestone =>
      simp only [Classify.classifySubtype]
      rw [hany ["schema apply", "_schema_apply_pass", "schema_apply"] (by simp [subTypePatterns]),
        hany ["v0.1.0", "0.1.0b", "released:", "shipped:"] (by simp [subTypePatterns]),
        hany ["scorecard", "layer score", "score updated"] (by simp [subTypePatterns])]
  | decision =>
      simp only [Classify.classifySubtype]
      rw [hany ["schema", "migration", "architecture"] (by simp [subTypePatterns])]
  | evidence =>
      simp only [Classify.classifySubtype]
      rw [hany ["scorecard", "layer score", "% headline", "layer scores"]
        (by simp [subTypePatterns])]
  | principle => rfl
  | anchor => rfl
  | planRoadmap => rfl
  | rawMemory => rfl

theorem SameFound.extractProjectTopic (h : SameFound found found') :
    Classify.extractProjectTopic found = Classify.extractProjectTopic found' := by
  rw [Classify.extractProjectTopic, Classify.extractProjectTopic,
    List.find?_congr fun entry hentry => h entry.1 (plain_projects entry hentry)]

theorem SameFound.extractDomainHint (h : SameFound found found') (topicTags : List Text) :
    Classify.extractDomainHint found topicTags = Classify.extractDomainHint found' topicTags := by
  have hcount : domainKeywords.foldl (countDomain found) (none, 0) =
      domainKeywords.foldl (countDomain found') (none, 0) := by
    refine List.foldl_ext _ _ _ fun best entry hentry => ?_
    have hfilter : entry.2.filter (fun keyword => found (Classify.literal keyword)) =
        entry.2.filter fun keyword => found' (Classify.literal keyword) :=
      List.filter_congr fun keyword hkeyword =>
        h.literal (plain_domain hentry hkeyword)
    rw [countDomain, countDomain, hfilter]
  rw [Classify.extractDomainHint, Classify.extractDomainHint, hcount]

/-- The classification depends on the phrases that are found. -/
theorem SameFound.classifyFound (h : SameFound found found') (order : TypeOrder)
    (args : ClassifyArgs) :
    Classify.classifyFound found order args = Classify.classifyFound found' order args := by
  rw [Classify.classifyFound, Classify.classifyFound, bestType, bestType, h.rawScore,
    h.firedSignals, h.classifySubtype, h.extractProjectTopic, h.extractDomainHint]

end Congruence

/-! ## The two classifications -/

section Classification

variable {order : TypeOrder} {tier : Option Text} {content : Text}

/-- The classification by the phrases that the chunks leave whole. -/
def classifyChunks (order : TypeOrder) (tier : Option Text) (content : Text) :
    ClassificationResult :=
  classifyFound (foundInChunks content) order { content, tier }

theorem classifyFound_content (found : Phrase → Bool) (order : TypeOrder)
    (content other : Text) :
    classifyFound found order { content, tier } =
      classifyFound found order { content := other, tier } :=
  rfl

theorem classify_joinedBody (hjoined : joinedBody content ≠ []) :
    classify order { content := joinedBody content, tier } = classifyChunks order tier content := by
  have hsame : SameFound (occursIn (fullText { content := joinedBody content, tier }))
      (foundInChunks content) := fun phrase hplain => hplain.occursIn_joinedBody tier content
  rw [classify, if_neg (fun hnil => hjoined hnil.1), hsame.classifyFound, classifyChunks,
    classifyFound_content]

/-! ## What is sure of a text -/

theorem exists_keyword {found : Phrase → Bool} {type : MemoryType} {args : ClassifyArgs}
    (hnode : args.nodeType = none) (h : 0 < rawScore found args type) :
    ∃ pattern : String, found (literal pattern) = true ∧ plainText pattern.toList = true ∧
      minTermLen ≤ Text.visibleCount pattern.toList := by
  by_contra hnone
  push Not at hnone
  have hempty : (keywordSignals type).filter (fun group =>
      (firedPattern found group).isSome) = [] := by
    refine List.filter_eq_nil_iff.mpr fun group hgroup hfired => ?_
    obtain ⟨pattern, hpattern⟩ := Option.isSome_iff_exists.mp hfired
    have hmem := List.mem_of_find?_eq_some hpattern
    obtain ⟨hplain, hvisible⟩ := plain_keyword hgroup hmem
    have hfound := List.find?_some hpattern
    exact absurd (hnone pattern hfound hplain) (by omega)
  have hzero : keywordScore found type = 0 := by
    rw [keywordScore, hempty]
    rfl
  have hboost : boostedType args = none := by
    rw [boostedType, hnode]
    rfl
  simp [rawScore, hzero, hboost] at h

/-- One type with a middling score is enough for confidence. -/
theorem confident_of_score {found : Phrase → Bool} {args : ClassifyArgs} {type : MemoryType}
    (hmem : type ∈ order.types) (h : 3 ≤ rawScore found args type) :
    Resolver.minConfidence ≤ (classifyFound found order args).confidence := by
  have hbest : 3 ≤ rawScore found args (bestType found order args) := by
    rw [bestType]
    cases hmax : order.types.argmax (rawScore found args) with
    | none =>
        rw [List.argmax_eq_none.mp hmax] at hmem
        cases hmem
    | some best => exact h.trans (List.le_of_mem_argmax hmem hmax)
  have hscore : ¬ rawScore found args (bestType found order args) < minScoreThreshold :=
    not_lt.mpr (le_trans (by norm_num [minScoreThreshold]) hbest)
  rw [classifyFound, if_neg hscore]
  dsimp only
  unfold rawScoreToConfidence
  split_ifs <;> norm_num [Resolver.minConfidence]

theorem literal_matches {pattern : String} {word : Text} (h : (literal pattern).Matches word) :
    word = pattern.toList := by
  have hforall := List.forall₂_map_left_iff.mp h
  have heq := hforall.imp fun letter c hc => (beq_iff_eq.mp hc).symm
  exact (List.forall₂_eq_eq_eq ▸ heq : pattern.toList = word).symm

/-- A text that is classified with confidence shows enough to be told from others. -/
theorem visible_of_confidence {text : Text} (h : Resolver.minConfidence ≤
    (classify order { content := text, tier }).confidence) :
    minTermLen ≤ Text.visibleCount text.strip.lower := by
  rw [Text.visibleCount_lower_strip]
  have hfound : ∃ type, 0 < rawScore (occursIn (fullText { content := text, tier }))
      { content := text, tier } type := by
    unfold classify at h
    split at h
    · exact absurd h (by norm_num [Resolver.minConfidence])
    · unfold classifyFound at h
      dsimp only at h
      split at h
      · exact absurd h (by norm_num [Resolver.minConfidence])
      · rename_i hscore
        refine ⟨_, lt_of_lt_of_le ?_ (not_lt.mp hscore)⟩
        norm_num [minScoreThreshold]
  obtain ⟨type, hpos⟩ := hfound
  obtain ⟨pattern, hpattern, hplain, hvisible⟩ := exists_keyword rfl hpos
  rw [(plain_literal hplain).occursIn_fullText] at hpattern
  obtain ⟨word, hmatches, hpart⟩ := occursIn_iff.mp hpattern
  rw [literal_matches hmatches] at hpart
  exact hvisible.trans (Text.visibleCount_le_of_infix hpart)

end Classification

/-! ## The two outcomes -/

/-- The chunks of a body as the database holds them. -/
structure StoresBody (db : Database) (contentId : ContentId) (content : Text) : Prop where
  texts : ∀ row ∈ db.contentChunks, storable row.chunkText = true
  body : storedBody db contentId = bodyRows content

/-- For every candidate whose stored body is the content, the job computes what a save
without a scope hint does. -/
def CatchesUpAsIngest (order : TypeOrder) (tier : Option Tier) (content : Text) : Prop :=
  ∀ (db : Database) (limit : ℕ) (workspaceId : Option WorkspaceId),
    ∀ candidate ∈ selectCandidates db limit workspaceId,
      StoresBody db candidate.contentId content →
      candidate.tier = tier.map (·.label.toList) →
      ∀ args : SaveArgs, args.content = some content → args.workspaceId = candidate.workspaceId →
        nonBlank args.scopeHint = false →
        ∀ outcome, catchupOutcome order db candidate = some outcome →
          outcome = ingestOutcome order db args candidate.contentId candidate.tier

section Outcomes

variable {order : TypeOrder} {tier : Option Tier} {content : Text}

theorem contentText_of_mem {db : Database} {limit : ℕ} {workspaceId : Option WorkspaceId}
    {candidate : CatchupCandidate} (h : candidate ∈ selectCandidates db limit workspaceId)
    (hbody : storedBody db candidate.contentId = bodyRows content) :
    candidate.contentText = joinedBody content := by
  obtain ⟨item, -, rfl⟩ := List.mem_map.mp h
  exact aggregatedText_eq hbody (pairwise_bodyRows content)

/-- What both ask about a text. -/
def questionOf (workspaceId : Option WorkspaceId) (result : ClassificationResult) :
    ScopeRequest :=
  { workspaceId, projectTopic := result.projectTopic, domainHint := result.domainHint }

/-- The scope of a text with this classification. -/
def scopeOfText (db : Database) (workspaceId : Option WorkspaceId)
    (result : ClassificationResult) (text : Text) : Option Text :=
  if result.confidence < minConfidence then none
  else workspaceId.map fun _ => (resolveScope db ((questionOf workspaceId result).about text)).scope

theorem scopeOf_catchupArgs (db : Database) (candidate : CatchupCandidate)
    (result : ClassificationResult) :
    scopeOf db (catchupArgs candidate result) =
      scopeOfText db candidate.workspaceId result candidate.contentText := by
  unfold scopeOf scopeOfText ResolveArgs.admission
  by_cases hlow : result.confidence < minConfidence
  · simp [catchupArgs, hlow]
  · cases hworkspace : candidate.workspaceId with
    | none => simp [catchupArgs, hlow, hworkspace]
    | some workspaceId =>
        simp only [catchupArgs, hlow, hworkspace, if_false]
        rfl

theorem resolveScope_blank_hint (db : Database) (request : ScopeRequest)
    (h : nonBlank request.scopeHint = false) :
    resolveScope db request = resolveScope db { request with scopeHint := none } := by
  simp only [resolveScope, h, nonBlank_none, Bool.false_eq_true, if_false]

theorem scopeOf_resolveArgs (db : Database) {args : SaveArgs} (contentId : ContentId)
    (result : ClassificationResult) (hcontent : args.content = some content)
    (hhint : nonBlank args.scopeHint = false) :
    scopeOf db (resolveArgs args contentId (classifyMeta result)) =
      scopeOfText db args.workspaceId result content := by
  have hbody : args.body = content := by
    rw [SaveArgs.body, hcontent, Option.getD_some]
  have hscope : resolveScope db (resolveArgs args contentId (classifyMeta result)).scopeRequest =
      resolveScope db ((questionOf args.workspaceId result).about content) := by
    rw [resolveScope_blank_hint db _ hhint, ← hbody]
    rfl
  unfold scopeOf scopeOfText ResolveArgs.admission
  rw [hscope]
  by_cases hlow : result.confidence < minConfidence
  · simp [resolveArgs, classifyMeta, hlow]
  · cases hworkspace : args.workspaceId with
    | none => simp [resolveArgs, classifyMeta, hlow, hworkspace]
    | some workspaceId =>
        simp only [resolveArgs, classifyMeta, hlow, hworkspace, if_false]
        rfl

/-! ## A database for two texts -/

/-- One row without a type, its stored body, and one hub. -/
def stagedDatabase (tier : Option Tier) (content : Text) (hub : Hub) : Database :=
  { contentItems := [{ contentId := 1, workspaceId := some 1, tier }],
    contentChunks := (bodyRows content).map fun row =>
      { chunkId := row.1, contentId := 1, workspaceId := some 1, chunkIndex := row.1,
        chunkText := row.2 },
    hubs := [hub] }

def stagedCandidate (tier : Option Tier) (content : Text) : CatchupCandidate :=
  { contentId := 1, workspaceId := some 1, contentText := joinedBody content,
    tier := tier.map (·.label.toList), compositeScore := none }

theorem storedBody_staged (tier : Option Tier) (content : Text) (hub : Hub) :
    storedBody (stagedDatabase tier content hub) 1 = bodyRows content := by
  rw [storedBody, stagedDatabase, List.filter_eq_self.mpr, List.map_map]
  · exact List.map_id _
  · intro chunk hchunk
    obtain ⟨row, -, rfl⟩ := List.mem_map.mp hchunk
    rfl

theorem mem_selectCandidates_staged (tier : Option Tier) (content : Text) (hub : Hub) :
    stagedCandidate tier content ∈
      selectCandidates (stagedDatabase tier content hub) 1 none := by
  have htext := aggregatedText_eq (storedBody_staged tier content hub) (pairwise_bodyRows content)
  refine List.mem_map.mpr ⟨{ contentId := 1, workspaceId := some 1, tier }, ?_, ?_⟩
  · exact List.mem_singleton_self _
  · simp only [stagedCandidate, htext]
    rfl

theorem storesBody_staged {tier : Option Tier} {hub : Hub} (hcr : '\r' ∉ content)
    (hvisible : content.strip ≠ []) (hguard : (chunkText content).degraded = false)
    (hstorable : storable content = true) :
    StoresBody (stagedDatabase tier content hub) 1 content := by
  refine ⟨fun chunk hchunk => ?_, storedBody_staged tier content hub⟩
  obtain ⟨row, hrow, rfl⟩ := List.mem_map.mp hchunk
  have hpart := infix_of_mem_bodyRows hcr hvisible hguard hrow
  simp only [storable, decide_eq_true_eq] at hstorable ⊢
  exact fun hnul => hstorable (hpart.subset hnul)

/-- A body that is stored holds no character that a database refuses. -/
theorem StoresBody.storable_content {db : Database} {contentId : ContentId}
    (h : StoresBody db contentId content) (hcr : '\r' ∉ content) (hvisible : content.strip ≠ [])
    (hguard : (chunkText content).degraded = false) : storable content = true := by
  rw [storable, decide_eq_true_eq]
  intro hnul
  obtain ⟨row, hrow, hmem⟩ := exists_row_of_mem hcr hvisible hguard hnul
  rw [← h.body] at hrow
  obtain ⟨chunk, hchunk, rfl⟩ := List.mem_map.mp hrow
  have htext := h.texts chunk (List.mem_filter.mp hchunk).1
  rw [storable, decide_eq_true_eq] at htext
  exact htext hmem

/-! ## When the job agrees with the save -/

theorem catchupOutcome_eq {db : Database} {candidate : CatchupCandidate}
    (htext : candidate.contentText = joinedBody content)
    (hjoined : (joinedBody content).strip ≠ []) :
    catchupOutcome order db candidate =
      some ⟨classifyChunks order candidate.tier content,
        scopeOfText db candidate.workspaceId (classifyChunks order candidate.tier content)
          (joinedBody content)⟩ := by
  have hne : joinedBody content ≠ [] := by
    intro hnil
    rw [hnil] at hjoined
    exact hjoined rfl
  rw [catchupOutcome, htext, if_neg hjoined]
  dsimp only
  rw [scopeOf_catchupArgs, classify_joinedBody hne, htext]

theorem ingestOutcome_eq {db : Database} {args : SaveArgs} (contentId : ContentId)
    (tierText : Option Text) (hcontent : args.content = some content)
    (hhint : nonBlank args.scopeHint = false) :
    ingestOutcome order db args contentId tierText =
      ⟨classify order { content, tier := tierText },
        scopeOfText db args.workspaceId
          (classify order { content, tier := tierText }) content⟩ := by
  have hbody : args.body = content := by
    rw [SaveArgs.body, hcontent, Option.getD_some]
  rw [ingestOutcome, hbody, scopeOf_resolveArgs db contentId _ hcontent hhint]

/-- What the job and a save compute for the staged row. -/
theorem CatchesUpAsIngest.staged (h : CatchesUpAsIngest order tier content) (hub : Hub)
    (hcr : '\r' ∉ content) (hvisible : content.strip ≠ [])
    (hguard : (chunkText content).degraded = false) (hstorable : storable content = true) :
    classifyChunks order (tier.map (·.label.toList)) content =
        classify order { content, tier := tier.map (·.label.toList) } ∧
      scopeOfText (stagedDatabase tier content hub) (some 1)
          (classify order { content, tier := tier.map (·.label.toList) }) (joinedBody content) =
        scopeOfText (stagedDatabase tier content hub) (some 1)
          (classify order { content, tier := tier.map (·.label.toList) }) content := by
  have hjoined : (joinedBody content).strip ≠ [] :=
    fun hnil => hvisible ((joinedBody_strip_eq_nil_iff hcr fun _ => hguard).mp hnil)
  have hsame := h (stagedDatabase tier content hub) 1 none (stagedCandidate tier content)
    (mem_selectCandidates_staged tier content hub)
    (storesBody_staged hcr hvisible hguard hstorable) rfl
    { content := some content, workspaceId := some 1 } rfl rfl nonBlank_none _
    (catchupOutcome_eq rfl hjoined)
  rw [ingestOutcome_eq _ _ rfl nonBlank_none, Outcome.mk.injEq] at hsame
  obtain ⟨hclassification, hscope⟩ := hsame
  refine ⟨hclassification, ?_⟩
  rw [show classifyChunks order (stagedCandidate tier content).tier content = _ from
    hclassification] at hscope
  exact hscope

theorem CatchesUpAsIngest.scopesAgree (h : CatchesUpAsIngest order tier content)
    (hcr : '\r' ∉ content) (hvisible : content.strip ≠ [])
    (hguard : (chunkText content).degraded = false) (hstorable : storable content = true)
    (hconfident : ¬ (classify order
      { content, tier := tier.map (·.label.toList) }).confidence < minConfidence) :
    ScopesAgree (joinedBody content) content := by
  have hstaged := fun hub => h.staged hub hcr hvisible hguard hstorable
  by_contra hscopes
  have hjoined : joinedBody content ≠ [] := by
    intro hnil
    have hblank := joinedBody_strip_eq_nil_iff hcr fun _ => hguard
    rw [hnil] at hblank
    exact hvisible (hblank.mp rfl)
  have hsame := (classify_joinedBody hjoined).trans (hstaged (namedHub 1 [] [])).1
  have hleft := visible_of_confidence (hsame ▸ not_lt.mp hconfident)
  have hright := visible_of_confidence (not_lt.mp hconfident)
  obtain ⟨hub, hdiffer⟩ := exists_hub_of_not_agree hscopes
    (show (questionOf (some 1) (classify order
      { content, tier := tier.map (·.label.toList) })).workspaceId = some 1 from rfl)
    nonBlank_none hleft hright
  have hequal := (hstaged hub).2
  rw [scopeOfText, scopeOfText, if_neg hconfident, if_neg hconfident] at hequal
  exact hdiffer (stagedDatabase tier content hub) rfl rfl (Option.some.inj hequal)

end Outcomes

/-! ## A short note, and a marker that a cut makes -/

def tableOrder : TypeOrder := typeOrder

def shortNote : Text := "we decided".toList

example : (classify tableOrder { content := shortNote }).memoryType = .decision := by
  decide +kernel

/-- Without spaces the second chunk starts after exactly 820 characters. -/
def cutMarker : Text :=
  "plan:".toList ++ List.replicate 815 'a' ++ "scope=beta".toList ++ List.replicate 90 'b'

theorem confident_cutMarker : ¬ (classify tableOrder
    { content := cutMarker, tier := (none : Option Tier).map (·.label.toList) }).confidence <
      minConfidence := by
  have hscore : 3 ≤ rawScore (occursIn (fullText { content := cutMarker }))
      { content := cutMarker } .planRoadmap := by
    decide +kernel
  rw [Option.map_none, classify, if_neg (by decide +kernel)]
  exact not_lt.mpr (confident_of_score (by decide) hscore)

end MemoryLab.Classify

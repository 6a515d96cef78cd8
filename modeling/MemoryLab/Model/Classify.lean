import Mathlib.Data.List.MinMax
import MemoryLab.Model.Save

/-! # The heuristic classifier

Keyword groups are scored over the lower-case text. A Python set has no fixed order, so the
order in which the types are compared is an argument. -/

namespace MemoryLab.Classify

open Library Adapter

/-! ## Phrases -/

/-- What is looked for in a text: a class for each of its characters. -/
abbrev Phrase := List (Char → Bool)

def literal (pattern : String) : Phrase := pattern.toList.map fun letter c => c == letter

/-- A letter of a pattern compared without case: besides its two cases, `i` matches the dotted
capital and the dotless small letter. -/
def equalsIgnoringCase (letter c : Char) : Bool :=
  c.toLower == letter || (letter == 'i' && c.toNat ∈ [0x130, 0x131])

def anyCase (pattern : String) : Phrase := pattern.toList.map equalsIgnoringCase

def startsWith : Phrase → Text → Bool
  | [], _ => true
  | _ :: _, [] => false
  | p :: ps, c :: cs => p c && startsWith ps cs

/-- `pattern in text`, or `re.search` of a pattern of single characters. -/
def occursIn (text : Text) (phrase : Phrase) : Bool := text.tails.any (startsWith phrase)

/-! ## Signal tables -/

def keywordSignals : MemoryType → List (List String × ℚ)
  | .milestone =>
    [(["_schema_apply_pass", "_design_pass", "_review_pass", "_implementation_pass",
        "_apply_pass", "schema_apply_pass", "gate_pass", "gate: pass",
        "_implementation_pass"], 3),
      (["go_classify", "go_current_state", "go_context_brain", "go_retrieval", "go_auth",
        "go_conflict", "go_ingestion", "go_tier", "go_graph"], 2),
      (["v0.1.0", "0.1.0b", "released:", "public release", "publicly released", "shipped:",
        "package published"], 2),
      (["migration boundary", "migrations applied", "schema apply complete"], 1),
      (["milestone:", "gate complete", "gate closed", "phase complete", "stage complete"], 2)]
  | .decision =>
    [(["we decided", "decision:", "architectural decision", "decided to use",
        "decided to go with", "we chose", "chosen:"], 3),
      (["supersedes", "superseded by", "reversed decision", "option a —", "option b —",
        "option c —", "option a:", "option b:", "option c:"], 2),
      (["rejected:", "accepted over", "trade-off", "tradeoff", "alternative considered",
        "instead of using"], 2),
      (["rationale:", "decision made", "we will use", "chosen approach"], 1)]
  | .principle =>
    [(["principle:", "invariant:", "doctrine:", "policy:"], 3),
      (["must not", "must never", "forbidden:", "never:", "prohibited:",
        "ownership invariant", "critical invariant"], 2),
      (["principle", "invariant", "governance rule", "design principle",
        "architectural principle"], 2),
      (["always:", "never write", "do not write", "do not call", "do not modify",
        "do not expose"], 1)]
  | .anchor =>
    [(["current state", "current-state", "is_current", "canonical state", "active anchor",
        "state anchor"], 3),
      (["canonical:", "authoritative:", "source of truth", "checkpoint:", "current scope",
        "current canonical"], 2),
      (["anchor:", "current_state_scope", "is current for", "scope anchor"], 1)]
  | .evidence =>
    [(["smoke_001", "smoke_002", "smoke_003", "30/30", "smoke checks", "smoke test",
        "checks passed", "all checks pass"], 3),
      (["scorecard", "layer scores", "layer score", "% headline", "full cb score", "score:"], 3),
      (["evidence:", "validated:", "verified:", "test result", "test passed", "tests pass",
        "confirmed:"], 2),
      (["pass:", "fail:", "check_id", "n/n pass", "checks", "test run"], 2),
      (["unit test", "integration test", "pytest result", "assertion", "assert fails"], 1)]
  | .planRoadmap =>
    [(["next gate:", "next gates:", "recommended next gate", "open gates:", "gate sequence:",
        "pending gates"], 3),
      (["roadmap:", "implementation plan:", "migration plan:", "proposed:", "planned work:",
        "plan:"], 3),
      (["upcoming:", "future work", "to-do:", "todo:", "planned:", "in progress"], 2),
      (["next step", "stage plan", "phase plan", "work ahead"], 1)]
  | .rawMemory => []

def nodeTypeBoost : List (String × MemoryType) :=
  [("milestone", .milestone), ("event", .milestone), ("decision", .decision),
    ("fact", .evidence), ("hypothesis", .evidence), ("source", .evidence),
    ("concept", .principle), ("playbook", .planRoadmap), ("task", .planRoadmap),
    ("raw_note", .rawMemory)]

def domainKeywords : List (String × List String) :=
  [("schema", ["schema", "migration", "alter table", "create table", "index"]),
    ("api", ["endpoint", "router", "fastapi", "http", "post /", "get /"]),
    ("retrieval", ["retrieval", "vector search", "embedding", "similarity", "semantic"]),
    ("ingestion", ["ingestion", "ingest", "scorer", "classify", "pipeline", "chunk"]),
    ("auth", ["auth", "authentication", "api_key", "workspace_member", "subject"]),
    ("governance", ["governance", "gate", "constitutional", "policy", "rule_id"])]

def isJoiner (c : Char) : Bool := c ∈ ['_', '-']

def projectPatterns : List (Phrase × String) :=
  [(anyCase "context" ++ [isJoiner] ++ anyCase "brain", "context_brain_memory_lab"),
    (anyCase "memory" ++ [isJoiner] ++ anyCase "lab", "context_brain_memory_lab"),
    (anyCase "context brain", "context_brain_memory_lab"),
    (anyCase "cb" ++ [isJoiner] ++ anyCase "memory", "context_brain_memory_lab")]

def minScoreThreshold : ℚ := 2

/-! ## Scores -/

structure ClassifyArgs where
  content : Text
  title : Text := []
  nodeType : Option Text := none
  tier : Option Text := none
  topicTags : List Text := []
deriving DecidableEq

/-- The order in which the scores of the types are compared. -/
structure TypeOrder where
  types : List MemoryType
  perm : types.Perm [.milestone, .decision, .principle, .anchor, .evidence, .planRoadmap]

def fullText (args : ClassifyArgs) : Text := Text.lower (args.title ++ '\n' :: args.content)

section Scores

variable (found : Phrase → Bool)

/-- The first pattern of a group that is found: a group fires at most once. -/
def firedPattern (group : List String × ℚ) : Option String :=
  group.1.find? fun pattern => found (literal pattern)

def keywordScore (type : MemoryType) : ℚ :=
  (((keywordSignals type).filter fun group => (firedPattern found group).isSome).map (·.2)).sum

def boostedType (args : ClassifyArgs) : Option MemoryType :=
  args.nodeType.bind fun nodeType =>
    (nodeTypeBoost.find? fun boost => boost.1.toList == nodeType).map (·.2)

/-- Types that rarely survive in content that is not kept. -/
def penalized (args : ClassifyArgs) (type : MemoryType) : Bool :=
  (args.tier == some "transient".toList || args.tier == some "ephemeral".toList) &&
    (type == .milestone || type == .principle)

def rawScore (args : ClassifyArgs) (type : MemoryType) : ℚ :=
  let score := keywordScore found type + if boostedType args = some type then 3 / 2 else 0
  if penalized args type then score / 2 else score

def firedSignals (args : ClassifyArgs) (type : MemoryType) : List Text :=
  ((keywordSignals type).filterMap (firedPattern found)).map (·.toList) ++
    if boostedType args = some type then ["node_type:".toList ++ args.nodeType.getD []] else []

/-! ## Hints -/

def anyFound (patterns : List String) : Bool := patterns.any fun pattern => found (literal pattern)

def classifySubtype : MemoryType → Option Text
  | .milestone =>
    if anyFound found ["schema apply", "_schema_apply_pass", "schema_apply"] then
      some "schema_apply".toList
    else if anyFound found ["v0.1.0", "0.1.0b", "released:", "shipped:"] then
      some "release_milestone".toList
    else if anyFound found ["scorecard", "layer score", "score updated"] then
      some "scorecard_update".toList
    else some "governance_milestone".toList
  | .decision =>
    if anyFound found ["schema", "migration", "architecture"] then some "schema_design".toList
    else none
  | .principle => some "architecture_principle".toList
  | .anchor => some "current_state_anchor".toList
  | .evidence =>
    if anyFound found ["scorecard", "layer score", "% headline", "layer scores"] then
      some "scorecard_update".toList
    else some "implementation_evidence".toList
  | .planRoadmap => some "roadmap_plan".toList
  | .rawMemory => none

def extractProjectTopic : Option Text :=
  (projectPatterns.find? fun entry => found entry.1).map (·.2.toList)

/-- The loop variables of the domain's count. -/
def countDomain (best : Option String × ℕ) (entry : String × List String) :
    Option String × ℕ :=
  let count := (entry.2.filter fun keyword => found (literal keyword)).length
  if best.2 < count then (some entry.1, count) else best

def domainOfTags (topicTags : List Text) : Option Text :=
  if topicTags = [] then none
  else
    let tagBlob := Text.lower ([' '].intercalate topicTags)
    (domainKeywords.find? fun entry => anyFound (occursIn tagBlob) entry.2).map (·.1.toList)

def extractDomainHint (topicTags : List Text) : Option Text :=
  (domainOfTags topicTags).or
    (let best := domainKeywords.foldl (countDomain found) (none, 0)
    if 2 ≤ best.2 then best.1.map (·.toList) else none)

def rawScoreToConfidence (score : ℚ) : ℚ :=
  if 7 ≤ score then 93 / 100
  else if 5 ≤ score then 85 / 100
  else if 3 ≤ score then 72 / 100
  else 62 / 100

/-! ## The classification -/

def bestType (order : TypeOrder) (args : ClassifyArgs) : MemoryType :=
  (order.types.argmax (rawScore found args)).getD .rawMemory

/-- The classification of a text of which is known what is found in it. -/
def classifyFound (order : TypeOrder) (args : ClassifyArgs) : ClassificationResult :=
  let type := bestType found order args
  let signals := firedSignals found args type
  if rawScore found args type < minScoreThreshold then
    { memoryType := .rawMemory, memorySubType := none, confidence := 45 / 100,
      signals := if signals = [] then ["fallback:below_threshold".toList] else signals,
      projectTopic := extractProjectTopic found,
      domainHint := extractDomainHint found args.topicTags }
  else
    { memoryType := type, memorySubType := classifySubtype found type,
      confidence := rawScoreToConfidence (rawScore found args type), signals,
      projectTopic := extractProjectTopic found,
      domainHint := extractDomainHint found args.topicTags }

end Scores

def classify (order : TypeOrder) (args : ClassifyArgs) : ClassificationResult :=
  if args.content = [] ∧ args.title = [] then
    { memoryType := .rawMemory, confidence := 45 / 100,
      signals := ["fallback:empty_content".toList] }
  else classifyFound (occursIn (fullText args)) order args

end MemoryLab.Classify

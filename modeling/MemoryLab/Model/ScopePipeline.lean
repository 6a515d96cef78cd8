import MemoryLab.Library.Regex
import MemoryLab.Model.Schema

/-! # The scope resolver pipeline

The first tier that yields a scope wins: the explicit hint, an in-text marker, the lineage of
active anchors, a hub alias, the classification's topic, its domain, and `global`. -/

namespace MemoryLab.ScopePipeline

open Library Library.Pattern

def maxScopeLen : ℕ := 120
def maxCandidateRows : ℕ := 200
def minTermLen : ℕ := 3
def minWeakHits : ℕ := 2

def globalScope : Text := "global".toList

inductive ScopeSource where
  | scopeHint
  | marker
  | lineage
  | hubAlias
  | classifyMetadata
  | keywordHeuristic
  | globalFallback
deriving DecidableEq

def ScopeSource.label : ScopeSource → String
  | scopeHint => "scope_hint"
  | marker => "marker"
  | lineage => "lineage"
  | hubAlias => "hub_alias"
  | classifyMetadata => "classify_metadata"
  | keywordHeuristic => "keyword_heuristic"
  | globalFallback => "global_fallback"

structure ScopeResolution where
  scope : Text
  source : ScopeSource
deriving DecidableEq

/-! ## Slugs -/

def isAlnum (c : Char) : Bool := ('a' ≤ c && c ≤ 'z') || ('0' ≤ c && c ≤ '9')

/-- The characters a slug keeps. -/
def isSlugChar (c : Char) : Bool := isAlnum c || c ∈ ['.', '_', ':', '/', '-']

/-- The characters stripped from the ends of a slug. -/
def isSlugEdge (c : Char) : Bool := c ∈ ['-', '.', '_', ':', '/']

def isQuote (c : Char) : Bool := c ∈ ['`', '\'', '"', '<', '>']

def slugifyScope (value : Option Text) : Text :=
  let raw := (value.getD []).strip.lower
  if raw = [] then globalScope
  else
    let unquoted := raw.filter fun c => !isQuote c
    let dashed := Text.subRuns (fun c => !isSlugChar c) ['-'] unquoted
    let collapsed := (Text.subRuns (· == '-') ['-'] dashed).stripChars isSlugEdge
    let cut := Text.stripChars isSlugEdge (collapsed.take maxScopeLen)
    if cut = [] then globalScope else cut

/-! ## The marker tier -/

/-- A letter of a marker keyword, compared without case: besides the two cases of the letter
itself, the long s folds to `s`. -/
def eqIgnoreCase (letter c : Char) : Bool := c.toLower == letter || (letter == 's' && c == 'ſ')

/-- `\s*keyword\s*[:=]\s*`. -/
def markerPattern (keyword : Text) : Pattern :=
  seq (many Text.isSpace) (seq (word eqIgnoreCase keyword)
    (seq (many Text.isSpace) (seq (one (· ∈ [':', '='])) (many Text.isSpace))))

/-- The group `([^\n#;]+)` after the first way to read the marker that leaves it a value. -/
def markerAt (keyword s : Text) : Option Text :=
  ((markerPattern keyword).remainders s).findSome? fun rest =>
    let value := rest.takeWhile fun c => c ∉ ['\n', '#', ';']
    if value = [] then none else some value

/-- `re.search` with `^` in multi-line mode. -/
def searchMarker (keyword : Text) : Bool → Text → Option Text
  | lineStart, [] => if lineStart then markerAt keyword [] else none
  | lineStart, c :: cs =>
    match if lineStart then markerAt keyword (c :: cs) else none with
    | some value => some value
    | none => searchMarker keyword (c == '\n') cs

def markerKeywords : List Text :=
  ["current_state_scope".toList, "current-state-scope".toList, "scope".toList, "anchor".toList]

def extractMarker (contentText : Option Text) : Option Text :=
  markerKeywords.findSome? fun keyword => searchMarker keyword true (contentText.getD [])

/-! ## Ranking candidates -/

/-- The loop variables of `_unique_best`. -/
structure Leader (α : Type*) where
  best : Option α := none
  bestScore : ℤ := 0
  tied : Bool := false

def Leader.step {α : Type*} [DecidableEq α] (leader : Leader α) (entry : α × ℤ) : Leader α :=
  if entry.2 ≤ 0 then leader
  else if leader.bestScore < entry.2 then ⟨some entry.1, entry.2, false⟩
  else if entry.2 = leader.bestScore ∧ some entry.1 ≠ leader.best then
    { leader with tied := true }
  else leader

/-- The highest-scoring candidate, unless nothing scored or the top is tied. -/
def uniqueBest {α : Type*} [DecidableEq α] (scored : List (α × ℤ)) : Option α :=
  let final := scored.foldl Leader.step {}
  if final.tied then none else final.best

/-! ## The database tiers -/

def contentTokens (contentText : Text) : List Text :=
  (contentText.lower.splitOnP fun c => !isAlnum c).filter fun token => 2 ≤ token.length

def termInText (term textLower : Text) : Bool :=
  let term := term.strip.lower
  if term.length < minTermLen then false else Text.occursBounded isAlnum term false textLower

def lineageScore (tokens : List Text) (scope : Text) : ℤ :=
  let scopeTokens := (scope.splitOnP isSlugEdge).filter fun token => 2 ≤ token.length
  if scopeTokens = [] then 0
  else if scopeTokens.all (· ∈ tokens) then scopeTokens.length else 0

/-- `SELECT DISTINCT scope … ORDER BY scope LIMIT 200` over a workspace's active anchors. -/
def lineageScopes (anchors : List CurrentStateAnchor) (workspaceId : WorkspaceId) : List Text :=
  let scopes := (anchors.filter fun anchor => anchor.workspaceId == workspaceId &&
    anchor.stateStatus == .active && anchor.scope != globalScope).map (·.scope)
  (scopes.dedup.insertionSort fun a b => a.le b).take maxCandidateRows

def matchLineageScope (anchors : List CurrentStateAnchor) (workspaceId : WorkspaceId)
    (contentText : Text) : Option Text :=
  let tokens := contentTokens contentText
  if tokens = [] then none
  else
    let candidates := (lineageScopes anchors workspaceId).filter (· ≠ [])
    uniqueBest (candidates.map fun scope => (scope, lineageScore tokens scope))

def matchHubScope (hubs : List Hub) (workspaceId : WorkspaceId) (contentText : Text) :
    Option Text :=
  let textLower := contentText.lower
  if textLower.strip = [] then none
  else
    let rows := ((hubs.filter fun hub => hub.active && hub.workspaceUuid == some workspaceId
      ).insertionSort fun a b => a.title.le b.title).take maxCandidateRows
    let scored := rows.filterMap fun hub =>
      let strong := ((hub.title :: hub.aliases).filter (termInText · textLower)).length
      let weak := (hub.relatedTerms.filter (termInText · textLower)).length
      if 1 ≤ strong ∨ minWeakHits ≤ weak then some (hub.title, ((strong * 2 + weak : ℕ) : ℤ))
      else none
    match uniqueBest scored with
    | some title => if title = [] then none else some (slugifyScope (some title))
    | none => none

/-- What `resolve_scope` is asked. -/
structure ScopeRequest where
  workspaceId : Option WorkspaceId
  contentText : Option Text := none
  scopeHint : Option Text := none
  projectTopic : Option Text := none
  domainHint : Option Text := none
deriving DecidableEq

/-- Python truth of a text that holds more than white space. -/
def nonBlank (text : Option Text) : Bool := (text.getD []).strip ≠ []

/-- A scope that a database tier found, unless it is the fallback's. -/
def specificScope (scope : Option Text) : Option Text :=
  scope.filter fun scope => scope ≠ [] ∧ scope ≠ globalScope

def resolveScope (db : Database) (request : ScopeRequest) : ScopeResolution :=
  if nonBlank request.scopeHint then ⟨slugifyScope request.scopeHint, .scopeHint⟩
  else
    let marker := extractMarker request.contentText
    if nonBlank marker then ⟨slugifyScope marker, .marker⟩
    else
      let text := (request.contentText.getD []).strip
      let lineage := request.workspaceId.bind fun workspaceId =>
        if text = [] then none else matchLineageScope db.anchors workspaceId text
      let hub := request.workspaceId.bind fun workspaceId =>
        if text = [] then none else matchHubScope db.hubs workspaceId text
      match specificScope lineage, specificScope hub with
      | some scope, _ => ⟨scope, .lineage⟩
      | none, some scope => ⟨scope, .hubAlias⟩
      | none, none =>
        if nonBlank request.projectTopic then
          ⟨slugifyScope request.projectTopic, .classifyMetadata⟩
        else if nonBlank request.domainHint then
          ⟨slugifyScope request.domainHint, .keywordHeuristic⟩
        else ⟨globalScope, .globalFallback⟩

end MemoryLab.ScopePipeline

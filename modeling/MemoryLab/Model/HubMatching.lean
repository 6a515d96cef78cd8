import MemoryLab.Library.Stages
import MemoryLab.Model.CurrentStateEnrichment
import MemoryLab.Model.Retrieval

/-! # Matching a query against the hubs

Aliases are spliced into a `LIKE` pattern or into a regular expression of the database. -/

namespace MemoryLab.HubMatching

open Library
open Evidence (isTermChar)

def frontBound : Text := "(^|[^a-z0-9])".toList
def backBound : Text := "([^a-z0-9]|$)".toList

def boundedExpression (word : Text) : Text := frontBound ++ word ++ backBound

def regexMetacharacters : List Char :=
  ['\\', '^', '$', '.', '[', ']', '(', ')', '*', '+', '?', '{', '}', '|']

/-- `~` of the database: whether an expression matches somewhere in a text, unless it is
invalid. A word without metacharacters stands for itself between the two bounds. -/
structure PgRegex where
  search : Text → Text → Option Bool
  search_word : ∀ word text, (∀ c ∈ word, c ∉ regexMetacharacters) →
    search (boundedExpression word) text = some (Text.occursBounded isTermChar word false text)

def likeContains (word text : Text) : Bool :=
  (Pattern.ofLike ('%' :: word ++ ['%'])).matchesAll text

inductive MatchError where
  | invalidText
  | invalidRegex
deriving DecidableEq

section Matching

variable (pg : PgRegex)

def longAliasMatches (q a : Text) : Bool :=
  6 ≤ a.length && likeContains a.lower q

def shortAliasMatches (q a : Text) : Option Bool :=
  if 3 ≤ a.length ∧ a.length ≤ 5 then pg.search (boundedExpression a.lower) q
  else some false

/-- The statements of `match_query`, in the order in which they are tried. -/
def hubStages (q : Text) : List (Hub → Option Bool) :=
  [fun hub => some (hub.title.lower == q),
    fun hub => some (hub.aliases.any (·.lower == q)),
    fun hub => some (hub.aliases.any (longAliasMatches q)),
    fun hub => Stages.anyTest (shortAliasMatches pg q) hub.aliases,
    fun hub => some (hub.relatedTerms.any (·.lower == q))]

def matchQuery (db : Database) (query : Text) (workspaceId : Option WorkspaceId) :
    Except MatchError (Option Hub) :=
  let q := query.strip.lower
  if !storable q then .error .invalidText
  else
    match Stages.search (Retrieval.visibleHubs db workspaceId) (hubStages pg q) with
    | none => .error .invalidRegex
    | some hub => .ok hub

end Matching

end MemoryLab.HubMatching

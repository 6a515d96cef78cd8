import MemoryLab.Library.Rows
import MemoryLab.Model.Evidence

/-! # Current state on evidence

Items are annotated with the state of their contents, and superseded ones are put last. -/

namespace MemoryLab.Evidence

open Library Library.Rows

def historicalTerms : List Text :=
  ["previously".toList, "before".toList, "earlier".toList, "originally".toList,
    "used to".toList, "history".toList, "historical".toList, "historically".toList,
    "at first".toList, "in the past".toList, "old decision".toList, "first decision".toList]

def isTermChar (c : Char) : Bool := ('a' ≤ c && c ≤ 'z') || ('0' ≤ c && c ≤ '9')

def isHistoricalQuery (query : Text) : Bool :=
  let text := query.strip.lower
  text ≠ [] && historicalTerms.any fun term => Text.occursBounded isTermChar term false text

/-- The fields of a content row that the resolver owns. -/
structure CurrentState where
  isCurrent : Option Bool
  currentStateScope : Option Text := none
  csSupersedesContentId : Option Text := none
deriving DecidableEq

/-- What the statement returns for a list of contents, unless it fails. -/
abbrev StateReader := List Text → Option (Dict Text CurrentState)

def annotated (item : EvidenceItem) (state : CurrentState) : EvidenceItem :=
  let metadata := (item.metadata.getD []).put "is_current" (.ofBool state.isCurrent)
  let metadata := PyDict.putSome metadata
    ("current_state_scope", .ofText state.currentStateScope)
  let metadata := PyDict.putSome metadata
    ("cs_supersedes_content_id", .ofText state.csSupersedesContentId)
  { item with
    isCurrent := state.isCurrent, currentStateScope := state.currentStateScope,
    csSupersedesContentId := state.csSupersedesContentId, metadata := some metadata }

/-- The item with its content's state, where the state says whether it is current. -/
def annotate (rows : Dict Text CurrentState) (item : EvidenceItem) : EvidenceItem :=
  match (Dict.get? item.contentId rows).filter (·.isCurrent.isSome) with
  | some state => annotated item state
  | none => item

def scopesWithCurrent (items : List EvidenceItem) : List Text :=
  (items.filter (·.isCurrent == some true)).filterMap fun item =>
    item.currentStateScope.filter (· ≠ [])

def demoted (items : List EvidenceItem) (item : EvidenceItem) : Bool :=
  item.isCurrent == some false && item.currentStateScope.any (· ∈ scopesWithCurrent items)

def demotionReason (item : EvidenceItem) : Text :=
  "Demoted below the current item of current-state scope '".toList ++
    item.currentStateScope.getD "None".toList ++ "': this item was superseded.".toList

def ranked (items : List EvidenceItem) (entry : EvidenceItem × ℕ) : EvidenceItem :=
  let item := { entry.1 with rank := entry.2 }
  if demoted items entry.1 then { item with rankingReason := some (demotionReason entry.1) }
  else item

/-- The items in their new order, with new ranks. -/
def reordered (items : List EvidenceItem) : List EvidenceItem :=
  ((sortOn (demoted items) items).zipIdx 1).map (ranked items)

/-- The part of the function that runs when rows were read. -/
def enrichWith (rows : Dict Text CurrentState) (query : Text) (evidence : List EvidenceItem) :
    List EvidenceItem :=
  let items := evidence.map (annotate rows)
  if isHistoricalQuery query then items
  else if items.any (demoted items) then reordered items
  else items

def enrichEvidenceWithCurrentState (reader : StateReader) (databaseUrl : Option Text)
    (query : Text) (evidence : List EvidenceItem) : List EvidenceItem :=
  if evidence.isEmpty || (databaseUrl.filter (· ≠ [])).isNone then evidence
  else
    match reader (evidence.map (·.contentId)) with
    | none => evidence
    | some rows => if rows.isEmpty then evidence else enrichWith rows query evidence

end MemoryLab.Evidence

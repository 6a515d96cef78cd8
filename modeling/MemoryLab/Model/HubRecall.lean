import MemoryLab.Model.GraphHealth

/-! # The recall of hubs

A key that an item may lack is an option. The value `None` reads as false. -/

namespace MemoryLab.HubRecall

open Library
open EdgeInference (sorted)
open GraphHealth (GraphHealthWarning str)

inductive IndexingStatus where
  | unknown
  | pending
  | indexing
  | searchable
  | blockedEmpty
  | blockedQuality
  | blockedReextract
  | failed
  | stale
deriving DecidableEq

def IndexingStatus.value : IndexingStatus → Text
  | unknown => "unknown".toList
  | pending => "pending".toList
  | indexing => "indexing".toList
  | searchable => "searchable".toList
  | blockedEmpty => "blocked_empty".toList
  | blockedQuality => "blocked_quality".toList
  | blockedReextract => "blocked_reextract".toList
  | failed => "failed".toList
  | stale => "stale".toList

def IndexingStatus.all : List IndexingStatus :=
  [unknown, pending, indexing, searchable, blockedEmpty, blockedQuality, blockedReextract, failed,
    stale]

structure ContentItem where
  contentId : Option Text := none
  saved : Option Bool := none
  searchable : Option Bool := none
  graphReachable : Option Bool := none
  indexingStatus : Option Text := none
deriving DecidableEq

def statusOf (item : ContentItem) : IndexingStatus :=
  match item.indexingStatus.filter (· ≠ []) with
  | some raw => (IndexingStatus.all.find? (·.value = raw)).getD .unknown
  | none => if item.searchable.getD false then .searchable else .unknown

structure HubRecallFinding where
  hubId : Text
  contentId : Text
  saved : Bool
  searchable : Bool
  hubLinked : Bool
  graphReachable : Bool
  retrievalObserved : Option Bool
  indexingStatus : IndexingStatus
  warningCodes : List Text
deriving DecidableEq

structure HubRecallMetrics where
  hubId : Option Text
  linkedCount : ℕ
  searchableLinkedCount : ℕ
  retrievalObservedCount : ℕ
  retrievalObservedAvailable : Bool
  hubLinkedNotSearchableCount : ℕ
  hubLinkedNotRetrievedCount : ℕ
deriving DecidableEq

structure HubRecallHealthReport where
  hubId : Option Text
  score : ℤ
  metrics : HubRecallMetrics
  findings : List HubRecallFinding
  warnings : List GraphHealthWarning
  limitations : List Text
deriving DecidableEq

def hubLinkedNotSearchable : Text := "HUB_LINKED_NOT_SEARCHABLE".toList

def hubLinkedNotRetrieved : Text := "HUB_LINKED_NOT_RETRIEVED".toList

abbrev Observations := Dict (Text × Text) Bool

/-- A later item of the same identifier takes the place of an earlier one. -/
def contentById (items : List ContentItem) : Dict Text ContentItem :=
  items.foldl (fun dict item => dict.set (str item.contentId) item) []

def itemOf (contents : Dict Text ContentItem) (contentId : Text) : ContentItem :=
  (contents.get? contentId).getD { contentId := some contentId, saved := some false }

def isSearchable (contents : Dict Text ContentItem) (contentId : Text) : Bool :=
  (itemOf contents contentId).searchable.getD false

/-- The accumulators of the loop over the links. -/
structure Scan where
  linkedCount : ℕ := 0
  searchableLinkedCount : ℕ := 0
  retrievalObservedCount : ℕ := 0
  notSearchable : List HubRecallFinding := []
  notRetrieved : List HubRecallFinding := []

def codesOf (searchable : Bool) (observed : Option Bool) : List Text :=
  (if searchable then [] else [hubLinkedNotSearchable]) ++
    (if observed = some false then [hubLinkedNotRetrieved] else [])

def findingOf (contents : Dict Text ContentItem) (observations : Observations)
    (link : Text × Text) : HubRecallFinding :=
  let item := itemOf contents link.2
  let searchable := item.searchable.getD false
  let observed := observations.get? link
  { hubId := link.1, contentId := link.2,
    saved := item.saved.getD (contents.get? link.2).isSome, searchable, hubLinked := true,
    graphReachable := item.graphReachable.getD false, retrievalObserved := observed,
    indexingStatus := statusOf item, warningCodes := codesOf searchable observed }

def Scan.step (contents : Dict Text ContentItem) (observations : Observations) (scan : Scan)
    (link : Text × Text) : Scan :=
  let finding := findingOf contents observations link
  { linkedCount := scan.linkedCount + 1
    searchableLinkedCount := scan.searchableLinkedCount + if finding.searchable then 1 else 0
    retrievalObservedCount :=
      scan.retrievalObservedCount + if finding.retrievalObserved = some true then 1 else 0
    notSearchable := scan.notSearchable ++
      if hubLinkedNotSearchable ∈ finding.warningCodes then [finding] else []
    notRetrieved := scan.notRetrieved ++
      if hubLinkedNotRetrieved ∈ finding.warningCodes then [finding] else [] }

/-- The links of one hub, or of all. -/
def scopedLinks (hubLinks : Dict Text (List Text)) (hubId : Option Text) : Dict Text (List Text) :=
  hubLinks.filter fun entry => hubId.all (entry.1 == ·)

def linksOf (hubLinks : Dict Text (List Text)) : List (Text × Text) :=
  (sorted (hubLinks.map (·.1))).flatMap fun hub =>
    (sorted ((hubLinks.get? hub).getD [])).map fun contentId => (hub, contentId)

def score (scan : Scan) (retrievalAvailable : Bool) : ℤ :=
  if scan.linkedCount = 0 then 0
  else
    let searchableScore :=
      TierRouter.roundHalfEven (10 * ((scan.searchableLinkedCount : ℚ) / scan.linkedCount))
    let retrievalScore :=
      if retrievalAvailable then
        TierRouter.roundHalfEven (10 * ((scan.retrievalObservedCount : ℚ) / scan.linkedCount))
      else 5
    let invisiblePenaltyFree := if scan.notSearchable.length = 0 then 5 else 0
    max 0 (min 25 (searchableScore + retrievalScore + invisiblePenaltyFree))

def warningOf (hubId : Option Text) (code message : Text) (findings : List HubRecallFinding) :
    List GraphHealthWarning :=
  if findings = [] then []
  else [{ code, message, affectedContentIds := sorted (findings.map (·.contentId)).dedup, hubId }]

def evaluate (contentItems : List ContentItem) (hubLinks : Dict Text (List Text))
    (observations : Observations) (hubId : Option Text) : HubRecallHealthReport :=
  let links := linksOf (scopedLinks hubLinks hubId)
  let scan := links.foldl (Scan.step (contentById contentItems) observations) {}
  let available := !observations.isEmpty
  let hubId := hubId.filter (· ≠ [])
  { hubId
    score := score scan available
    metrics :=
      { hubId, linkedCount := scan.linkedCount,
        searchableLinkedCount := scan.searchableLinkedCount,
        retrievalObservedCount := scan.retrievalObservedCount,
        retrievalObservedAvailable := available,
        hubLinkedNotSearchableCount := scan.notSearchable.length,
        hubLinkedNotRetrievedCount := scan.notRetrieved.length }
    findings := scan.notSearchable ++ scan.notRetrieved
    warnings :=
      warningOf hubId hubLinkedNotSearchable
        "Hub-linked content is saved/linked but not searchable.".toList scan.notSearchable ++
      warningOf hubId hubLinkedNotRetrieved
        "Hub-linked content was not observed in provided retrieval evidence.".toList
        scan.notRetrieved
    limitations :=
      if scan.linkedCount ≠ 0 ∧ available = false then ["retrieval_observed_not_available".toList]
      else [] }

end MemoryLab.HubRecall

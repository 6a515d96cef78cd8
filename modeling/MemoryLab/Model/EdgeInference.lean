import MemoryLab.Library.Dict
import MemoryLab.Model.HubEdges

/-! # The producer of inferred edges

Confidences are exact: the code rounds sums of hundredths to three digits. -/

namespace MemoryLab.EdgeInference

open Library Library.Rows HubEdges

def producerVersion : Text := "edge_inference_v1".toList

def proposedEdgeType : Text := "related".toList

def baseConfidence : ℚ := 75 / 100

def confidenceStep : ℚ := 1 / 100

def confidenceCap : ℚ := 95 / 100

def noiseTags : List Text :=
  ["placeholder".toList, "system_generated".toList, "no_content".toList, "fallback".toList]

def isSeparator (c : Char) : Bool := c ∈ ['_', '-', '/']

def normalizeTerm (term : Text) : Text :=
  (Text.subRuns Text.isSpace [' '] (Text.subRuns isSeparator [' '] term.strip.lower)).strip

/-! ## Proposals -/

structure EdgeProposal where
  sourceHubId : Text
  targetHubId : Text
  edgeType : Text
  confidence : ℚ
  reason : Text
  detectionRules : List Text := []
  evidenceCount : ℕ := 0
deriving DecidableEq

def EdgeProposal.edgeKey (proposal : EdgeProposal) : Text :=
  computeEdgeKey proposal.sourceHubId proposal.targetHubId proposal.edgeType

def scaledConfidence (evidence : ℕ) (threshold : ℤ) : ℚ :=
  min confidenceCap (baseConfidence + confidenceStep * ((evidence : ℤ) - threshold : ℤ))

def pairProposal (hubA hubB : Text) (evidence : ℕ) (threshold : ℤ) (rule reason : Text) :
    EdgeProposal :=
  let (source, target) := Text.sortPair hubA hubB
  { sourceHubId := source, targetHubId := target, edgeType := proposedEdgeType,
    confidence := scaledConfidence evidence threshold, reason, detectionRules := [rule],
    evidenceCount := evidence }

/-- `itertools.combinations(items, 2)`. -/
def combinations {α : Type} : List α → List (α × α)
  | [] => []
  | a :: rest => rest.map (fun b => (a, b)) ++ combinations rest

def addTo {α : Type} [DecidableEq α] (value : α) (values : Option (List α)) : List α :=
  (values.getD []).insert value

def sorted (texts : List Text) : List Text := texts.insertionSort fun a b => a.le b

def contentsByHub (memberships : List (Text × ContentId)) : Dict Text (List ContentId) :=
  memberships.foldl
    (fun dict row => if row.1 = [] then dict else dict.modify row.1 (addTo row.2)) []

def proposeFromCoMembership (memberships : List (Text × ContentId)) (minShared : ℤ) :
    List EdgeProposal :=
  let contents := contentsByHub memberships
  (combinations (sorted (contents.map (·.1)))).filterMap fun (hubA, hubB) =>
    let inA := (contents.get? hubA).getD []
    let inB := (contents.get? hubB).getD []
    let shared := (inA.filter (· ∈ inB)).length
    if (shared : ℤ) < max 1 minShared then none
    else some (pairProposal hubA hubB shared minShared "co_membership_v1".toList
      ("co_membership: ".toList ++ (toString shared).toList ++ " shared content items".toList))

/-- A hub as the producer reads it. -/
structure HubTerms where
  hubId : Text
  title : Text
  aliases : List Text
  relatedTerms : List Text
deriving DecidableEq

def normalizedTerms (terms : List Text) : List Text :=
  ((terms.map normalizeTerm).dedup).filter (· ≠ [])

def hubTermIndex (hubs : List HubTerms) : Dict Text (List Text) :=
  hubs.foldl (fun dict hub =>
    let terms := normalizedTerms (hub.title :: (hub.aliases ++ hub.relatedTerms))
    if terms = [] then dict else dict.set hub.hubId terms) []

/-- The hubs that one content mentions. -/
def mentionedHubs (index : Dict Text (List Text)) (tags : List Text) : List Text :=
  let tags := normalizedTerms (tags.filter fun tag => tag ≠ [] ∧ tag ∉ noiseTags)
  sorted ((index.filter fun entry => entry.2.any (· ∈ tags)).map (·.1))

def pairDocs (index : Dict Text (List Text)) (contents : List (ContentId × List Text)) :
    Dict (Text × Text) (List ContentId) :=
  contents.foldl (fun docs content =>
    (combinations (mentionedHubs index content.2)).foldl
      (fun docs pair => docs.modify pair (addTo content.1)) docs) []

def proposeFromTagAlignment (hubs : List HubTerms) (contents : List (ContentId × List Text))
    (minCooccur : ℤ) : List EdgeProposal :=
  let index := hubTermIndex hubs
  if index.length < 2 then []
  else (pairDocs index contents).filterMap fun ((hubA, hubB), docs) =>
    if (docs.length : ℤ) < max 1 minCooccur then none
    else some (pairProposal hubA hubB docs.length minCooccur "tag_alignment_v1".toList
      ("tag_alignment: co-mentioned in ".toList ++ (toString docs.length).toList ++
        " documents".toList))

/-- The proposal of higher confidence, with the rules of both. -/
def mergeInto (proposal : EdgeProposal) : Option EdgeProposal → EdgeProposal
  | none => proposal
  | some existing =>
    let (keep, other) := if proposal.confidence > existing.confidence then (proposal, existing)
      else (existing, proposal)
    { keep with
      detectionRules := sorted (keep.detectionRules ++ other.detectionRules).dedup
      reason := keep.reason ++ "; ".toList ++ other.reason }

/-- `(-confidence, edge_key)`. -/
def proposalOrder (a b : EdgeProposal) : Prop :=
  b.confidence < a.confidence ∨ (a.confidence = b.confidence ∧ a.edgeKey.le b.edgeKey = true)

instance : DecidableRel proposalOrder := fun _ _ => inferInstanceAs (Decidable (_ ∨ _))

def mergeProposals (proposals : List EdgeProposal) : List EdgeProposal :=
  let merged : Dict Text EdgeProposal :=
    proposals.foldl (fun dict proposal => dict.modify proposal.edgeKey (mergeInto proposal)) []
  (merged.map (·.2)).insertionSort proposalOrder

/-! ## Reading a workspace -/

def fetchMemberships (db : Database) (workspaceId : WorkspaceId) : List (Text × ContentId) :=
  (db.hubContent.filter fun link =>
    link.workspaceId == some workspaceId && db.hubs.any fun hub =>
      hub.hubId == link.hubId && hub.workspaceUuid == some workspaceId && hub.active).map
    fun link => (link.hubId.text, link.contentId)

def fetchHubs (db : Database) (workspaceId : WorkspaceId) : List HubTerms :=
  (db.hubs.filter fun hub => hub.workspaceUuid == some workspaceId && hub.active).map fun hub =>
    { hubId := hub.hubId.text, title := hub.title, aliases := hub.aliases,
      relatedTerms := hub.relatedTerms }

def fetchTaggedContents (db : Database) (workspaceId : WorkspaceId) :
    List (ContentId × List Text) :=
  (db.contentItems.filter fun item =>
    item.workspaceId == some workspaceId && !item.topicTags.isEmpty &&
      item.tier != some .archived && item.tier != some .conflicted).map
    fun item => (item.contentId, item.topicTags)

/-! ## Persisting proposals -/

structure PersistCounts where
  inserted : ℕ := 0
  skippedExisting : ℕ := 0
deriving DecidableEq

def proposalValues (proposal : EdgeProposal) (workspaceId : WorkspaceId) (createdBy : Text) :
    EdgeValues :=
  { sourceHubId := proposal.sourceHubId, targetHubId := proposal.targetHubId,
    workspaceId := some workspaceId, type := proposal.edgeType, status := .inferred,
    origin := .aiSuggested, confidence := some proposal.confidence,
    reason := some (("[".toList ++ ['+'].intercalate proposal.detectionRules ++ "] ".toList ++
      proposal.reason).take 500),
    note := none, weight := some 1, edgeKey := proposal.edgeKey, createdBy := some createdBy }

/-- `INSERT … ON CONFLICT (edge_key) WHERE archived_at IS NULL DO NOTHING`. -/
def persistProposal (now : Timestamp) (workspaceId : WorkspaceId) (createdBy : Text)
    (progress : Database × PersistCounts) (proposal : EdgeProposal) :
    Except EdgeError (Database × PersistCounts) :=
  let (db, counts) := progress
  match (proposalValues proposal workspaceId createdBy).row db now with
  | .error error => .error (.database error)
  | .ok row =>
    if (activeWithKey db proposal.edgeKey).isSome then
      .ok (db, { counts with skippedExisting := counts.skippedExisting + 1 })
    else (appendEdge db row).map fun outcome =>
      (outcome.1, { counts with inserted := counts.inserted + 1 })

def persistEdgeProposals (db : Database) (now : Timestamp) (proposals : List EdgeProposal)
    (workspaceId : WorkspaceId) (createdBy : Text) : Except EdgeError (Database × PersistCounts) :=
  proposals.foldlM (persistProposal now workspaceId createdBy) (db, {})

structure InferenceSettings where
  minShared : ℤ := 3
  minCooccur : ℤ := 3
  maxProposals : ℤ := 50
  dryRun : Bool := false
deriving DecidableEq

structure InferenceReport where
  dryRun : Bool
  hubsConsidered : ℕ
  membershipRows : ℕ
  taggedContentRows : ℕ
  proposalsCoMembership : ℕ
  proposalsTagAlignment : ℕ
  proposals : List EdgeProposal
  counts : PersistCounts
deriving DecidableEq

def inferredProposals (db : Database) (workspaceId : WorkspaceId) (settings : InferenceSettings) :
    List EdgeProposal :=
  (mergeProposals
    (proposeFromCoMembership (fetchMemberships db workspaceId) settings.minShared ++
      proposeFromTagAlignment (fetchHubs db workspaceId) (fetchTaggedContents db workspaceId)
        settings.minCooccur)).take settings.maxProposals.toNat

def runEdgeInference (db : Database) (now : Timestamp) (workspaceId : WorkspaceId)
    (settings : InferenceSettings) : Except EdgeError (Database × InferenceReport) :=
  let memberships := fetchMemberships db workspaceId
  let hubs := fetchHubs db workspaceId
  let contents := fetchTaggedContents db workspaceId
  let proposals := inferredProposals db workspaceId settings
  let report : InferenceReport :=
    { dryRun := settings.dryRun, hubsConsidered := hubs.length,
      membershipRows := memberships.length, taggedContentRows := contents.length,
      proposalsCoMembership := (proposeFromCoMembership memberships settings.minShared).length,
      proposalsTagAlignment :=
        (proposeFromTagAlignment hubs contents settings.minCooccur).length,
      proposals, counts := {} }
  if settings.dryRun then .ok (db, report)
  else (persistEdgeProposals db now proposals workspaceId producerVersion).map fun outcome =>
    (outcome.1, { report with counts := outcome.2 })

end MemoryLab.EdgeInference

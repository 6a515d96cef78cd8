import Mathlib.Data.Prod.Lex
import MemoryLab.Library.Regex
import MemoryLab.Model.Decisions

/-! # The preview search over contents and decisions -/

namespace MemoryLab.GraphPreview

open Library Library.Rows Decisions

/-- The tables of the search: `content_items` with the column `node_type`, `cb_decision_nodes`
with its primary key. -/
structure PreviewDatabase extends Database where
  nodeTypes : ContentId → Text
  decisions : List DecisionRow
  decisions_nodup : (decisions.map (·.decisionId)).Nodup

inductive HubScope where
  | annotate
  | strict
deriving DecidableEq

inductive PreviewSource where
  | contentItem
  | decisionNode
deriving DecidableEq

structure PreviewRow where
  contentId : Option ContentId
  decisionId : Option DecisionId
  nodeType : Text
  quickSummary : Option Text
  hubMatch : Bool
  loadFullContentRecommended : Bool
  score : ℕ
  source : PreviewSource
deriving DecidableEq

structure PreviewResponse where
  results : List PreviewRow
  count : ℕ
  workspaceId : Option WorkspaceId
  scopeApplied : Option HubId
deriving DecidableEq

inductive PreviewError where
  | valueError (message : String)
  | database (error : DbError)
deriving DecidableEq

/-- `LOWER(COALESCE(column, '')) LIKE '%query%'`. -/
def likeQuery (query : Text) (column : Option Text) : Bool :=
  (Pattern.ofLike ('%' :: Text.lower query ++ ['%'])).matchesAll (Text.lower (column.getD []))

/-- `CASE WHEN … THEN 2 ELSE 1 END`. -/
def titleScore (query : Text) (title : Option Text) : ℕ := if likeQuery query title then 2 else 1

/-! ## Contents -/

/-- An item with one of its chunks and, where a hub is given, one of its links to it. -/
abbrev JoinedRow := (ContentItem × Option ContentChunkRow) × Option HubContentRow

def chunkOf (item : ContentItem) (chunk : ContentChunkRow) : Bool :=
  chunk.contentId == item.contentId

def linkOf (hubId : HubId) (row : ContentItem × Option ContentChunkRow) (link : HubContentRow) :
    Bool :=
  link.contentId == row.1.contentId && link.hubId == hubId

section Search

variable (db : PreviewDatabase) (query : Text) (nodeType : Option Text) (hubId : Option HubId)
  (limit : ℕ) (workspaceId : Option WorkspaceId)

def joinedRows : List JoinedRow :=
  let rows := leftJoin chunkOf db.contentItems db.contentChunks
  match hubId with
  | some hubId => leftJoin (linkOf hubId) rows db.hubContent
  | none => rows.map fun row => (row, none)

/-- `EXISTS (SELECT 1 FROM cb_hub_content sc JOIN cb_hubs sh …)`. -/
def strictContentLink (hubId : HubId) (contentId : ContentId) : Bool :=
  db.hubContent.any fun sc => db.hubs.any fun sh =>
    sh.hubId == sc.hubId && sc.contentId == contentId && sc.hubId == hubId &&
      workspaceId.all fun w => sc.workspaceId == some w && sh.workspaceUuid == some w

/-- The conditions that both scopes put on a joined row. -/
def contentWhere (row : JoinedRow) : Bool :=
  let ((item, chunk), _) := row
  (likeQuery query item.quickSummary || likeQuery query (chunk.map (·.chunkText))) &&
    (nodeType.filter (· ≠ [])).all (db.nodeTypes item.contentId == ·) &&
    workspaceId.all fun w => item.workspaceId == some w

/-- `GROUP BY ci.content_id, ci.node_type, ci.quick_summary`. -/
def groupKey (row : JoinedRow) : ContentId × Text × Option Text :=
  (row.1.1.contentId, db.nodeTypes row.1.1.contentId, row.1.1.quickSummary)

def groupedRow (rows : List JoinedRow) (row : JoinedRow) : PreviewRow :=
  let group := rows.filter fun other => decide (groupKey db other = groupKey db row)
  let item := row.1.1
  { contentId := some item.contentId
    decisionId := none
    nodeType := db.nodeTypes item.contentId
    quickSummary := item.quickSummary
    hubMatch := group.any (·.2.isSome)
    loadFullContentRecommended := decide (item.quickSummary.getD [] = [])
    score := (group.map fun other => titleScore query other.1.1.quickSummary).foldr max 0
    source := .contentItem }

/-- `ORDER BY score DESC, ci.content_id`. -/
def contentOrder (row : PreviewRow) : ℕᵒᵈ ×ₗ ContentId :=
  toLex (OrderDual.toDual row.score, row.contentId.getD 0)

def contentRows (strictHub : Option HubId) : List PreviewRow :=
  let rows := (joinedRows db hubId).filter fun row =>
    contentWhere db query nodeType workspaceId row &&
      strictHub.all fun hub => strictContentLink db workspaceId hub row.1.1.contentId
  sortOn contentOrder ((distinctOn (groupKey db) rows).map (groupedRow db query rows))

/-! ## Decisions -/

def strictDecisionLink (hubId : HubId) (decision : DecisionRow) : Bool :=
  decide (hubId ∈ decision.linkedHubIds) && db.hubs.any fun sh =>
    sh.hubId == hubId && workspaceId.all fun w => sh.workspaceUuid == some w

def decisionWhere (decision : DecisionRow) : Bool :=
  (likeQuery query (some decision.title) || likeQuery query (some decision.decisionReason) ||
    likeQuery query decision.decisionContext || likeQuery query decision.whyThisMatters) &&
    workspaceId.all fun w => decision.workspaceId == some w

def decisionPreview (decision : DecisionRow) : PreviewRow where
  contentId := none
  decisionId := some decision.decisionId
  nodeType := "decision".toList
  quickSummary := some decision.title
  hubMatch := hubId.any (· ∈ decision.linkedHubIds)
  loadFullContentRecommended := true
  score := titleScore query (some decision.title)
  source := .decisionNode

/-- `ORDER BY score DESC, decision_id`. -/
def decisionOrder (row : PreviewRow) : ℕᵒᵈ ×ₗ DecisionId :=
  toLex (OrderDual.toDual row.score, row.decisionId.getD 0)

/-- The statement of `search_preview` without its limit. -/
def decisionRows (strictHub : Option HubId) : List PreviewRow :=
  let rows := db.decisions.filter fun decision =>
    decisionWhere query workspaceId decision &&
      strictHub.all fun hub => strictDecisionLink db workspaceId hub decision
  sortOn decisionOrder (rows.map (decisionPreview query hubId))

/-! ## The search -/

def strictHubOf (hubScope : HubScope) : Option HubId :=
  match hubScope with
  | .strict => hubId
  | .annotate => none

/-- Contents first, then decisions, by falling score. -/
def mergedResults (strictHub : Option HubId) : List PreviewRow :=
  let results := (contentRows db query nodeType hubId workspaceId strictHub).take limit
  if nodeType = some "decision".toList then
    let decisions := (decisionRows db query hubId workspaceId strictHub).take limit
    (sortOn (fun row => OrderDual.toDual row.score) (results ++ decisions)).take limit
  else results

/-- `search_graph_preview`. -/
def searchGraphPreview (hubScope : HubScope) : Except PreviewError PreviewResponse :=
  if hubScope = .strict ∧ hubId = none then
    .error (.valueError "hub_scope=strict requires hub_id")
  else if !(storable query.lower && nodeType.all storable) then
    .error (.database .invalidText)
  else
    let strictHub := strictHubOf hubId hubScope
    let results := mergedResults db query nodeType hubId limit workspaceId strictHub
    .ok ⟨results, results.length, workspaceId, strictHub⟩

end Search

end MemoryLab.GraphPreview

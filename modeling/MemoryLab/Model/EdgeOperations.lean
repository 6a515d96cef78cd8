import MemoryLab.Model.EdgeInference

/-! # Sequences of edge operations

Operations on edges run one after another; between two of them every other table may change. -/

namespace MemoryLab.HubEdges

open Library EdgeInference

inductive EdgeOperation where
  | create (now : Timestamp) (request : CreateRequest)
  | update (now : Timestamp) (edgeId : EdgeId) (updates : EdgeUpdates)
      (workspaceId : Option WorkspaceId)
  | archive (now : Timestamp) (edgeId : EdgeId) (workspaceId : Option WorkspaceId)
  | approve (now : Timestamp) (request : ReviewRequest) (confidence : Option ℚ)
  | reject (now : Timestamp) (request : ReviewRequest)
  | persist (now : Timestamp) (proposals : List EdgeProposal) (workspaceId : WorkspaceId)
      (createdBy : Text)
  | produce (now : Timestamp) (workspaceId : WorkspaceId) (settings : InferenceSettings)
  | elsewhere (other : Database)

/-- The database after an operation: an error rolls the transaction back. -/
def committedOr {ε α : Type} (db : Database) : Except ε (Database × α) → Database
  | .ok (next, _) => next
  | .error _ => db

def edgeStep (db : Database) : EdgeOperation → Database
  | .create now request => committedOr db (createEdge db now request)
  | .update now edgeId updates workspaceId =>
    committedOr db (updateEdge db now edgeId updates workspaceId)
  | .archive now edgeId workspaceId => (archiveEdge db now edgeId workspaceId).1
  | .approve now request confidence =>
    committedOr db (approveInferredEdge db now request confidence)
  | .reject now request => committedOr db (rejectInferredEdge db now request)
  | .persist now proposals workspaceId createdBy =>
    committedOr db (persistEdgeProposals db now proposals workspaceId createdBy)
  | .produce now workspaceId settings =>
    committedOr db (runEdgeInference db now workspaceId settings)
  | .elsewhere other => { other with hubEdges := db.hubEdges }

end MemoryLab.HubEdges

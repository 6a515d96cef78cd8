import MemoryLab.Library.Components
import MemoryLab.Model.EdgeInference
import MemoryLab.Model.TierRouter

/-! # The health of the graph

A set of Python is a list without repetition. Shares are exact before they are rounded. -/

namespace MemoryLab.GraphHealth

open Library
open EdgeInference (addTo sorted)

structure GraphHealthWarning where
  code : Text
  severity : Text := "warning".toList
  message : Text
  affectedContentIds : List Text := []
  affectedNodeIds : List Text := []
  hubId : Option Text := none
deriving DecidableEq

/-! ## Edges -/

/-- The shapes that an edge comes in. A value is a text or `None`. -/
inductive EdgeShape where
  | mapping (fields : Dict Text (Option Text))
  | sequence (items : List (Option Text))
  | other
deriving DecidableEq

/-- The `ValueError` of an edge of another shape. -/
structure UnsupportedEdge where
  edge : EdgeShape
deriving DecidableEq

/-- `str`. -/
def str (value : Option Text) : Text := value.getD "None".toList

/-- `first or second`. -/
def orElse (first second : Option Text) : Option Text :=
  if first.any (· ≠ []) then first else second

def field (fields : Dict Text (Option Text)) (key : String) : Option Text :=
  (fields.get? key.toList).join

def edgeNodes : EdgeShape → Except UnsupportedEdge (Text × Text)
  | .mapping fields =>
    .ok (str (orElse (orElse (field fields "from_node") (field fields "source")) (field fields "a")),
      str (orElse (orElse (field fields "to_node") (field fields "target")) (field fields "b")))
  | .sequence (first :: second :: _) => .ok (str first, str second)
  | edge => .error ⟨edge⟩

/-! ## Metrics -/

structure TopologyMetrics where
  nodeCount : ℕ := 0
  edgeCount : ℕ := 0
  isolatedNodeCount : ℕ := 0
  lowDegreeNodeCount : ℕ := 0
  largestComponentSize : ℕ := 0
  largestComponentCoverage : ℚ := 0
deriving DecidableEq

/-- What the loop over the edges builds. -/
structure Topology where
  nodeSet : List Text
  adjacency : Dict Text (List Text) := []
  edgeCount : ℕ := 0

def Topology.addEdge (topology : Topology) (edge : Text × Text) : Topology :=
  let (a, b) := edge
  { nodeSet := (topology.nodeSet.insert a).insert b
    adjacency := (topology.adjacency.modify a (addTo b)).modify b (addTo a)
    edgeCount := topology.edgeCount + 1 }

def neighbours (adjacency : Dict Text (List Text)) (node : Text) : List Text :=
  (adjacency.get? node).getD []

/-- No search takes more nodes from its queue than there are. -/
def largestComponentSize (nodeSet : List Text) (adjacency : Dict Text (List Text)) : Option ℕ :=
  Components.largest (fun node => sorted (neighbours adjacency node)) nodeSet.length
    (sorted nodeSet) [] 0

def topologyMetrics (topology : Topology) : Option TopologyMetrics :=
  if topology.nodeSet = [] then some {}
  else
    let degrees := topology.nodeSet.map fun node => (neighbours topology.adjacency node).length
    (largestComponentSize topology.nodeSet topology.adjacency).map fun largest =>
      { nodeCount := topology.nodeSet.length
        edgeCount := topology.edgeCount
        isolatedNodeCount := degrees.countP (· = 0)
        lowDegreeNodeCount := degrees.countP (· ≤ 1)
        largestComponentSize := largest
        largestComponentCoverage :=
          TierRouter.roundHalfEven ((largest : ℚ) / topology.nodeSet.length * 10000) / 10000 }

def computeTopologyMetrics (nodes : List Text) (edges : List EdgeShape) :
    Except UnsupportedEdge (Option TopologyMetrics) :=
  (edges.mapM edgeNodes).map fun pairs =>
    topologyMetrics (pairs.foldl Topology.addEdge { nodeSet := nodes.dedup })

end MemoryLab.GraphHealth

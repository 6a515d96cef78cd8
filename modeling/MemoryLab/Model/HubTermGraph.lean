import MemoryLab.Model.HubEdges

/-! # Hubs as a graph of terms

The graph is read once for a workspace; terms are answered from memory afterwards. -/

namespace MemoryLab.HubTermGraph

open Library HubEdges

def maxHubs : ℕ := 500

def maxEdges : ℕ := 2000

def termsOf (title : Text) (aliases : List Text) : Finset Text :=
  (((title :: aliases).filter (·.strip ≠ [])).map (·.strip.lower)).toFinset

def isTokenChar (c : Char) : Bool := ('a' ≤ c && c ≤ 'z') || ('0' ≤ c && c ≤ '9')

def tokens (term : Text) : List Text :=
  (term.lower.splitOnP (!isTokenChar ·)).filter (3 ≤ ·.length)

structure TermGraph where
  hubTerms : List (HubId × Finset Text)
  edges : List (HubId × HubId × ℚ)

/-! ## Reading a workspace -/

def isListed (workspaceId : WorkspaceId) (hub : Hub) : Bool :=
  hub.active && hub.workspaceUuid == some workspaceId

def isWalked (workspaceId : WorkspaceId) (row : HubEdge) : Bool :=
  row.status == .manual && isActive row && row.workspaceId == some workspaceId

def loadHubTerms (db : Database) (workspaceId : WorkspaceId) : List (HubId × Finset Text) :=
  (((db.hubs.filter (isListed workspaceId)).insertionSort
    fun a b => a.hubId.bits ≤ b.hubId.bits).take maxHubs).map
      fun hub => (hub.hubId, termsOf hub.title hub.aliases)

def loadEdges (db : Database) (workspaceId : WorkspaceId) : List (HubId × HubId × ℚ) :=
  (((db.hubEdges.filter (isWalked workspaceId)).insertionSort
    fun a b => a.id ≤ b.id).take maxEdges).map
      fun row => (row.sourceHubId, row.targetHubId, row.confidence.getD 1)

def load (db : Database) (workspaceId : WorkspaceId) : TermGraph :=
  { hubTerms := loadHubTerms db workspaceId, edges := loadEdges db workspaceId }

/-! ## Neighbours of a term -/

def isSingleWord (needle : Text) : Bool := ' ' ∉ needle && 3 ≤ needle.length

def matchesTerms (needle : Text) (terms : Finset Text) : Bool :=
  needle ∈ terms || (isSingleWord needle && decide (∃ term ∈ terms, needle ∈ tokens term))

def hubsMatching (hubTerms : List (HubId × Finset Text)) (term : Text) : List HubId :=
  let needle := term.strip.lower
  if needle = [] then []
  else (hubTerms.filter fun entry => matchesTerms needle entry.2).map (·.1)

/-- The end of an edge that is not matched, when the other is. -/
def otherEnd (matched : List HubId) (source target : HubId) : Option HubId :=
  if source ∈ matched ∧ target ∉ matched then some target
  else if target ∈ matched ∧ source ∉ matched then some source
  else none

def termsAt (hubTerms : List (HubId × Finset Text)) (hubId : HubId) : Finset Text :=
  ((hubTerms.find? fun entry => entry.1 == hubId).map (·.2)).getD ∅

/-- The terms that one edge adds. -/
def edgeTerms (hubTerms : List (HubId × Finset Text)) (node : Text) (minConfidence : ℚ)
    (edge : HubId × HubId × ℚ) : Finset Text :=
  let (source, target, confidence) := edge
  if confidence < minConfidence then ∅
  else match otherEnd (hubsMatching hubTerms node) source target with
  | some other => termsAt hubTerms other
  | none => ∅

def getNeighbors (graph : TermGraph) (inner : Text → ℚ → Finset Text) (node : Text)
    (minConfidence : ℚ) : Finset Text :=
  graph.edges.foldl (fun neighbors edge =>
    neighbors ∪ edgeTerms graph.hubTerms node minConfidence edge) ∅ ∪ inner node minConfidence

end MemoryLab.HubTermGraph

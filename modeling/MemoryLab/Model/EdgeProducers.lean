import MemoryLab.Model.EdgeInference

/-! # The producers of edges on texts

The identifiers are the texts that the producers are called with, and the merge writes into the
proposals that it was given. -/

namespace MemoryLab.EdgeInference.Texts

open Library

/-! ## Shared contents -/

/-- Rows without a hub or a content are passed over. -/
def contentsByHub (memberships : List (Text × Text)) : Dict Text (List Text) :=
  memberships.foldl
    (fun dict row => if row.1 = [] ∨ row.2 = [] then dict else dict.modify row.1 (addTo row.2)) []

def coMembershipProposal (contents : Dict Text (List Text)) (minShared : ℤ)
    (pair : Text × Text) : Option EdgeProposal :=
  let inA := (contents.get? pair.1).getD []
  let inB := (contents.get? pair.2).getD []
  let shared := (inA.filter (· ∈ inB)).length
  if (shared : ℤ) < max 1 minShared then none
  else some (pairProposal pair.1 pair.2 shared minShared "co_membership_v1".toList
    ("co_membership: ".toList ++ (toString shared).toList ++ " shared content items".toList))

def proposeFromCoMembership (memberships : List (Text × Text)) (minShared : ℤ) :
    List EdgeProposal :=
  let contents := contentsByHub memberships
  (combinations (sorted (contents.map (·.1)))).filterMap (coMembershipProposal contents minShared)

/-! ## Shared tags -/

def pairDocs (index : Dict Text (List Text)) (contents : List (Text × List Text)) :
    Dict (Text × Text) (List Text) :=
  contents.foldl (fun docs content =>
    (combinations (mentionedHubs index content.2)).foldl
      (fun docs pair => docs.modify pair (addTo content.1)) docs) []

def tagAlignmentProposal (minCooccur : ℤ) (entry : (Text × Text) × List Text) :
    Option EdgeProposal :=
  if (entry.2.length : ℤ) < max 1 minCooccur then none
  else some (pairProposal entry.1.1 entry.1.2 entry.2.length minCooccur "tag_alignment_v1".toList
    ("tag_alignment: co-mentioned in ".toList ++ (toString entry.2.length).toList ++
      " documents".toList))

def proposeFromTagAlignment (hubs : List HubTerms) (contents : List (Text × List Text))
    (minCooccur : ℤ) : List EdgeProposal :=
  let index := hubTermIndex hubs
  if index.length < 2 then []
  else (pairDocs index contents).filterMap (tagAlignmentProposal minCooccur)

/-! ## The merge -/

/-- The proposals by reference, and the reference that each key has. -/
structure MergeState where
  heap : ℕ → EdgeProposal
  merged : Dict Text ℕ := []

/-- One turn of the inner loop: what is kept is written to. -/
def MergeState.step (state : MergeState) (proposal : ℕ) : MergeState :=
  let key := (state.heap proposal).edgeKey
  match state.merged.get? key with
  | none => { state with merged := state.merged.set key proposal }
  | some existing =>
    let (keep, other) :=
      if (state.heap proposal).confidence > (state.heap existing).confidence then
        (proposal, existing)
      else (existing, proposal)
    let kept := state.heap keep
    { heap := Function.update state.heap keep
        { kept with
          detectionRules := sorted (kept.detectionRules ++ (state.heap other).detectionRules).dedup
          reason := kept.reason ++ "; ".toList ++ (state.heap other).reason }
      merged := state.merged.set key keep }

/-- `merge_proposals`, on lists of references that may repeat. -/
def mergeProposals (heap : ℕ → EdgeProposal) (proposalLists : List (List ℕ)) : List EdgeProposal :=
  let final := proposalLists.flatten.foldl MergeState.step { heap }
  (final.merged.map fun entry => final.heap entry.2).insertionSort proposalOrder

end MemoryLab.EdgeInference.Texts

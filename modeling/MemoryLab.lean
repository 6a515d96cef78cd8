import MemoryLab.Model.CanonicalBody
import MemoryLab.Verification.Chunking.RoundTrip
import MemoryLab.Verification.Resolver.Frame
import MemoryLab.Verification.Resolver.Mirror
import MemoryLab.Verification.Resolver.Supersession
import MemoryLab.Verification.Resolver.Concurrency
import MemoryLab.Verification.Tiers.Terminal
import MemoryLab.Verification.Tiers.DryRun
import MemoryLab.Verification.Tiers.Escalations
import MemoryLab.Verification.Save.Atomicity
import MemoryLab.Verification.Promotion.Rollback
import MemoryLab.Verification.Promotion.Coherence
import MemoryLab.Verification.ContextPack.Retrieval
import MemoryLab.Verification.Graph.Rejections
import MemoryLab.Verification.Graph.Progress
import MemoryLab.Verification.Graph.TermGraph
import MemoryLab.Verification.Graph.Snapshot
import MemoryLab.Verification.Persistence.Isolation
import MemoryLab.Verification.Decisions.Status
import MemoryLab.Verification.Decisions.Lineage
import MemoryLab.Verification.Conflicts.ScopedSearch
import MemoryLab.Verification.Conflicts.ScopeMarkers
import MemoryLab.Verification.Conflicts.FreshClaims
import MemoryLab.Verification.Conflicts.Sides
import MemoryLab.Verification.Scope.OwnLine
import MemoryLab.Verification.Answer.InScopePreference
import MemoryLab.Verification.ContextPack.PackId
import MemoryLab.Verification.Answer.AskSeam
import MemoryLab.Verification.ContextPack.SectionFlags
import MemoryLab.Verification.Save.Readers
import MemoryLab.Verification.Classify.CatchUp
import MemoryLab.Verification.Classify.Concurrency
import MemoryLab.Verification.Answer.Citations
import MemoryLab.Verification.Retrieval.Scope
import MemoryLab.Verification.Auth.Soundness
import MemoryLab.Verification.Auth.Agreement
import MemoryLab.Verification.Persistence.StateRoundTrip
import MemoryLab.Verification.Persistence.EventStream
import MemoryLab.Verification.Tiers.Rollback
import MemoryLab.Verification.Circuit.Cooldown
import MemoryLab.Verification.Circuit.Probe
import MemoryLab.Verification.Circuit.Execution
import MemoryLab.Verification.Circuit.Scorer
import MemoryLab.Verification.Classify.Backlog
import MemoryLab.Verification.Embedding.Progress
import MemoryLab.Verification.Chunking.Redundancy
import MemoryLab.Verification.Chunking.Coverage
import MemoryLab.Verification.Chunking.Reconstruction
import MemoryLab.Verification.Classify.Determinism
import MemoryLab.Library.Layers
import MemoryLab.Model.GraphSearch
import MemoryLab.Verification.Retrieval.Expansion
import MemoryLab.Verification.Retrieval.Admission
import MemoryLab.Verification.Retrieval.ListingOrder
import MemoryLab.Verification.Ranking.Evidence
import MemoryLab.Verification.Retrieval.Corroboration
import MemoryLab.Verification.Retrieval.Preview
import MemoryLab.Verification.Retrieval.Handoff
import MemoryLab.Verification.Resolver.FailingTier
import MemoryLab.Verification.Persistence.Replacement
import MemoryLab.Verification.Graph.ReadOnlySql
import MemoryLab.Verification.Retrieval.HubMatching
import MemoryLab.Verification.Answer.StructuredValidation
import MemoryLab.Verification.Answer.JsonCompletion
import MemoryLab.Verification.Graph.TagAlignment
import MemoryLab.Verification.Mcp.Errors
import MemoryLab.Verification.Scope.UniqueBest
import MemoryLab.Verification.Graph.Topology
import MemoryLab.Verification.Graph.AliasHygiene
import MemoryLab.Verification.Graph.HubRecall
import MemoryLab.Verification.Tiers.RoutingPlan
import MemoryLab.Verification.Graph.Normalisers
import MemoryLab.Verification.Retrieval.ContextCandidates
import MemoryLab.Verification.Retrieval.Knn
import MemoryLab.Verification.Answer.Ask
import MemoryLab.Verification.Answer.Traversal
import MemoryLab.Verification.Answer.Grounding

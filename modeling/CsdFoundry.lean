import CsdFoundry.Storage.Install
import CsdFoundry.Temporal.Store
import CsdFoundry.Storage.Chain
import CsdFoundry.Temporal.Invariant
import CsdFoundry.Temporal.Interference
import CsdFoundry.Temporal.Execution
import CsdFoundry.Temporal.Agreement
import CsdFoundry.Temporal.Recovery
import CsdFoundry.Temporal.Isolation
import CsdFoundry.Temporal.Service
import CsdFoundry.Temporal.Exclusivity
import CsdFoundry.Kernel.Models
import CsdFoundry.Kernel.Temporal
import CsdFoundry.Kernel.Transitions
import CsdFoundry.Kernel.Invariants
import CsdFoundry.Kernel.TemporalInvariants
import CsdFoundry.Kernel.Oracle
import CsdFoundry.Kernel.Candidates
import CsdFoundry.Kernel.Acceptance
import CsdFoundry.Kernel.Agreement
import CsdFoundry.Kernel.Reassessment
import CsdFoundry.Kernel.Determinacy
import CsdFoundry.Kernel.Exactness
import CsdFoundry.Registry.Contracts
import CsdFoundry.Registry.Invariant
import CsdFoundry.Assumptions.Lifecycle
import CsdFoundry.Assumptions.Transition
import CsdFoundry.Assumptions.History
import CsdFoundry.AlternativeModels.Lifecycle
import CsdFoundry.Registry.Execution
import CsdFoundry.Registry.Snapshot
import CsdFoundry.Registry.Interference
import CsdFoundry.Registry.Governed
import CsdFoundry.AlternativeModels.Transition
import CsdFoundry.Registry.Governance
import CsdFoundry.Registry.Admission
import CsdFoundry.Registry.History
import CsdFoundry.Registry.SnapshotOrder
import CsdFoundry.Registry.Lifecycles
import CsdFoundry.Registry.Typed
import CsdFoundry.Storage.Confined
import CsdFoundry.Registry.Exactness
import CsdFoundry.Registry.Acceptance
import CsdFoundry.Admission.Canonicalization
import CsdFoundry.Admission.Contracts
import CsdFoundry.Admission.Store
import CsdFoundry.Admission.Engine
import CsdFoundry.Admission.Normal
import CsdFoundry.Admission.Identity
import CsdFoundry.Admission.Coercion
import CsdFoundry.Admission.Signatures
import CsdFoundry.Admission.Evaluation
import CsdFoundry.Admission.Receipts
import CsdFoundry.Admission.Invariant
import CsdFoundry.Admission.Reconstruction
import CsdFoundry.Admission.Execution
import CsdFoundry.Admission.Acceptance
import CsdFoundry.Admission.Totality
import CsdFoundry.Search.DepthFirst
import CsdFoundry.Kernel.Weakening
import CsdFoundry.Kernel.Convergence
import CsdFoundry.Kernel.Independence
import CsdFoundry.Kernel.Runs
import CsdFoundry.AlternativeModels.History
import CsdFoundry.AlternativeModels.Use
import CsdFoundry.Storage.Roles
import CsdFoundry.Synthesis.PublicationStore
import CsdFoundry.Synthesis.Claims
import CsdFoundry.Synthesis.Attempts
import CsdFoundry.Synthesis.Publications
import CsdFoundry.Synthesis.Shards
import CsdFoundry.Synthesis.Merge
import CsdFoundry.Synthesis.MergeUnion
import CsdFoundry.Synthesis.Merkle
import CsdFoundry.Synthesis.MerkleForest
import CsdFoundry.Synthesis.MerkleRuns
import CsdFoundry.Synthesis.Reconciliation
import CsdFoundry.Synthesis.Placement
import CsdFoundry.Synthesis.Corpus
import CsdFoundry.Synthesis.Groups
import CsdFoundry.Synthesis.Samples
import CsdFoundry.Synthesis.Streams
import CsdFoundry.Synthesis.Topology
import CsdFoundry.Synthesis.Resolution
import CsdFoundry.Policy.Contracts
import CsdFoundry.Policy.Overlap
import CsdFoundry.Policy.Values
import CsdFoundry.Policy.Envelope
import CsdFoundry.Policy.Ledger
import CsdFoundry.Policy.Resolution
import CsdFoundry.Policy.Activation
import CsdFoundry.Policy.Publication
import CsdFoundry.Policy.Roles
import CsdFoundry.Policy.SeparationOfDuty
import CsdFoundry.Encoding.Utf8
import CsdFoundry.Encoding.Scanner
import CsdFoundry.Encoding.Tokens
import CsdFoundry.Encoding.RoundTrip
import CsdFoundry.Governance.Canonicalization
import CsdFoundry.Governance.NormalForm
import CsdFoundry.Governance.Structure
import CsdFoundry.Synthesis.CanonicalValues
import CsdFoundry.Synthesis.CanonicalEncoding
import CsdFoundry.Synthesis.Refilling
import CsdFoundry.Synthesis.CanonicalRoundTrip
import CsdFoundry.Synthesis.ChoicePaths
import CsdFoundry.Synthesis.ChoicePrimitives
import CsdFoundry.Synthesis.ChoiceRecords
import CsdFoundry.Synthesis.ChoiceLedger
import CsdFoundry.Encoding.Weight
import CsdFoundry.Synthesis.ChoiceBounds
import CsdFoundry.Synthesis.ChoiceBytes
import CsdFoundry.Synthesis.ChoiceEncoding
import CsdFoundry.Synthesis.ChoiceReplay
import CsdFoundry.Synthesis.ChoiceSessions
import CsdFoundry.Scenarios.Rendering
import CsdFoundry.Scenarios.Families
import CsdFoundry.Scenarios.Splits
import CsdFoundry.Scenarios.Surface
import CsdFoundry.Scenarios.Labels
import CsdFoundry.Scenarios.Digests
import CsdFoundry.Scenarios.Partition
import CsdFoundry.Evidence.Lifecycle
import CsdFoundry.Storage.Confined
import CsdFoundry.Registry.TypedRuns
import CsdFoundry.Search.Live
import CsdFoundry.Assumptions.DependencyReceipt
import CsdFoundry.Registry.Entities
import CsdFoundry.Assumptions.DependencyValidation
import CsdFoundry.Evidence.Authority
import CsdFoundry.Projection.Expiry
import CsdFoundry.Projection.Adapter
import CsdFoundry.Generation.View
import CsdFoundry.Generation.Heads
import CsdFoundry.Projection.Staging
import CsdFoundry.Projection.Completeness
import CsdFoundry.Bisection
import CsdFoundry.Synthesis.ChoiceWeights
import CsdFoundry.Synthesis.ChoiceMessages
import CsdFoundry.Empirical.Responses
import CsdFoundry.Empirical.MacroAccuracy
import CsdFoundry.Governance.ErrorClosure
import CsdFoundry.Policy.Chain
import CsdFoundry.Policy.Selection
import CsdFoundry.Synthesis.ShardAlgebra
import CsdFoundry.Policy.Denial
import CsdFoundry.Projection.Dependents
import CsdFoundry.KeyedSort
import CsdFoundry.Synthesis.Identities
import CsdFoundry.Synthesis.IdentityLedgers
import CsdFoundry.Synthesis.Supersession
import CsdFoundry.AlternativeModels.RoundTrip
import CsdFoundry.Assumptions.Confirmation
import CsdFoundry.Policy.Store
import CsdFoundry.Policy.StoreFrame
import CsdFoundry.AlternativeModels.Difference
import CsdFoundry.Positions
import CsdFoundry.AlternativeModels.DifferencePositions
import CsdFoundry.AlternativeModels.DifferencePaths
import CsdFoundry.AlternativeModels.DifferenceExactness

import CsdFoundry.Registry.Appended
import CsdFoundry.Projection.Impact

/-! The staged projection adapters: the committed registry is cloned into a store of the attempt,
explicit events are applied to the clone, and then the expiry events that are due. The intent and
impact resolvers are functions of the staged clone: they read it and write nothing. The staging
store is the in-memory one, the default of `staging_store_factory`. -/
namespace CsdFoundry.Projection
open Registry Storage
open Evidence (EvidenceAuthorityPolicy EvidenceAuthorityDecision)
open Policy (texts digestValue domainDigest)
open Temporal (isToken ClockClaim SemanticProjectionReceipt)

variable {D : Type} [LinearOrder D] [DigestText D] [Sha256 D]

/-! ### Staging -/

/-- The place of an event: `(_event_entity_id(event), _event_sequence(event))`. -/
def position (event : RegistryEvent D) : String ×ₗ Nat :=
  toLex (event.entityId, event.entitySequence)

/-- `_canonical_events`. -/
def canonicalEvents (type : RegistryType) (events : List (RegistryEvent D)) :
    Except RegistryError (List (RegistryEvent D)) := do
  let _ ← Results.collect (events.map (eventEntityId type))
  if (events.map position).Nodup then
    .ok (events.insertionSort (fun a b => position a ≤ position b))
  else .error (fail type "PROJECTION_DUPLICATE_EVENT_POSITION")

/-- `_clone_store`, into the store that is run on. -/
def cloneStore (histories : List (List (RegistryEvent D))) : RegistryM D Unit :=
  appendAll histories.flatten

structure Staging (D : Type) [LinearOrder D] [DigestText D] [Sha256 D] (type : RegistryType)
    (Decision Impact : Type) where
  planner : ExpiryPlanner D type Decision
  impact : State D type → State D type → RegistryEvent D → RegistryM D Impact

section Stage
variable {type : RegistryType} {Decision Impact Bindings : Type}
  (staging : Staging D type Decision Impact)

/-- The impact of an event on what was there before it. -/
def impactOf (previous : Option (State D type)) (current : State D type) (event : RegistryEvent D) :
    RegistryM D (Option Impact) :=
  match previous with
  | none => pure none
  | some previous => do
      let operation ← lift (eventOperation type event)
      if operation ∈ impactOperations type then
        return some (← staging.impact previous current event)
      else return none

/-- One round of `_apply_events`. -/
def applyEvent (event : RegistryEvent D) : RegistryM D (Decision × Option Impact) := do
  let entityId ← lift (eventEntityId type event)
  let previous ← entityError (project type (← reconstructEntity type entityId))
  let decision ← lift (staging.planner.require event previous)
  let current ← entityError (reduce type previous event)
  let _ ← append event
  return (decision, ← impactOf staging previous current event)

/-- `_apply_events`. -/
def applyEvents : List (RegistryEvent D) → RegistryM D (List (Decision × Option Impact))
  | [] => pure []
  | event :: events => do
      let outcome ← applyEvent staging event
      return outcome :: (← applyEvents events)

structure Staged (D : Type) [DigestText D] (type : RegistryType) (Decision Impact Bindings : Type)
    where
  explicit : List (RegistryEvent D)
  expiry : ExpiryPlan D type
  outcomes : List (Decision × Option Impact)
  bindings : Bindings
  projectedRoot : D

/-- What an adapter does in the store of the attempt. `resolve` stands for the intent resolver,
which reads the clone, and `verify` for the checks of what it resolved. -/
def stage (resolve : RegistryStore D → Except RegistryError (List (RegistryEvent D)))
    (verify : List (RegistryEvent D) → Except RegistryError Bindings) (sequence : Nat)
    (sourceDigest : String) (histories : List (List (RegistryEvent D))) :
    RegistryM D (Staged D type Decision Impact Bindings) := do
  cloneStore histories
  let resolved ← (.read .os resolve : RegistryM D (List (RegistryEvent D)))
  let explicit ← lift (canonicalEvents type resolved)
  let bindings ← lift (verify explicit)
  let first ← applyEvents staging explicit
  let expiry ← staging.planner.plan (live type) sequence sourceDigest
  let second ← applyEvents staging expiry.events
  let projectedRoot := (← snapshot type).rootDigest
  return ⟨explicit, expiry, first ++ second, bindings, projectedRoot⟩

end Stage

/-- `InMemoryRegistryStore`: the program has a store of its own, and nobody else has it. -/
def inMemory {α : Type} (p : RegistryM D α) : Except RegistryError α := (p.exec .initial).1

/-! ### Plans -/

/-- What a projection is asked for. Of the validated event only the digest is read. -/
structure ProjectionRequest (D : Type) where
  claim : ClockClaim D
  validatedEventDigest : D
  semanticReceipt : SemanticProjectionReceipt D

/-- `_verify_context`. -/
def verifyContext (type : RegistryType) (request : ProjectionRequest D) :
    Except RegistryError Unit := do
  Results.ensure (request.claim.validatedEventDigest = request.validatedEventDigest)
    (fail type "PROJECTION_EVENT_MISMATCH")
  Results.ensure (request.semanticReceipt.clockClaimDigest = request.claim.digest)
    (fail type "PROJECTION_SEMANTIC_CLAIM_MISMATCH")
  Results.ensure (request.semanticReceipt.validatedEventDigest = request.validatedEventDigest)
    (fail type "PROJECTION_SEMANTIC_EVENT_MISMATCH")
  Results.ensure (request.semanticReceipt.projectionSequence = request.claim.proposedSequence)
    (fail type "PROJECTION_SEMANTIC_SEQUENCE_MISMATCH")

/-- `_projection_source_digest`. -/
def projectionSourceDigest (type : RegistryType) (request : ProjectionRequest D) : D :=
  domainDigest (match type with
    | .evidenceUnit => "EVIDENCE_PROJECTION_SOURCE"
    | .assumption => "ASSUMPTION_PROJECTION_SOURCE"
    | .alternativeModel => "ALTERNATIVE_MODEL_PROJECTION_SOURCE")
    (.obj [("clock_claim_digest", digestValue request.claim.digest),
      ("semantic_receipt_digest", digestValue request.semanticReceipt.digest),
      ("validated_event_digest", digestValue request.validatedEventDigest)])

/-- What the plans of the three registries have in common. -/
structure ProjectionPlan (D : Type) [DigestText D] (Impact : Type) where
  clockClaimDigest : D
  validatedEventDigest : D
  semanticReceiptDigest : D
  clockSequence : Nat
  predecessorRootDigest : D
  projectedRootDigest : D
  events : List (RegistryEvent D)
  impactReceipts : List Impact
  expiryPlanDigest : D

def ProjectionPlan.eventDigests {Impact : Type} (plan : ProjectionPlan D Impact) : Json :=
  .arr (plan.events.map fun event => digestValue event.digest)

section Project
variable {type : RegistryType} {Decision Impact Bindings : Type}
  (staging : Staging D type Decision Impact)

/-- The plan of what was staged. -/
def planOf (request : ProjectionRequest D) (predecessorRoot : D)
    (staged : Staged D type Decision Impact Bindings) : ProjectionPlan D Impact where
  clockClaimDigest := request.claim.digest
  validatedEventDigest := request.validatedEventDigest
  semanticReceiptDigest := request.semanticReceipt.digest
  clockSequence := request.claim.proposedSequence
  predecessorRootDigest := predecessorRoot
  projectedRootDigest := staged.projectedRoot
  events := staged.explicit ++ staged.expiry.events
  impactReceipts := staged.outcomes.filterMap (·.2)
  expiryPlanDigest := staged.expiry.planDigest

/-- The part of `project` that reads the committed store, and what is staged on it. -/
def projectStaged (resolve : RegistryStore D → Except RegistryError (List (RegistryEvent D)))
    (verify : D → List (RegistryEvent D) → Except RegistryError Bindings)
    (request : ProjectionRequest D) (committedStore : CommittedStore D) :
    RegistryM D (ProjectionPlan D Impact × Staged D type Decision Impact Bindings) := do
  let predecessorRoot := (← committedStore.snapshot).rootDigest
  let histories ← committedStore.reconstructSnapshot
  let staged ← lift (inMemory (stage staging resolve (verify predecessorRoot)
    request.claim.proposedSequence (DigestText.text (projectionSourceDigest type request)) histories))
  return (planOf request predecessorRoot staged, staged)

end Project

/-- `_verify_event_bindings`, with what the module checks of one event. -/
def verifyEach (verify : RegistryEvent D → Except RegistryError Unit)
    (events : List (RegistryEvent D)) : Except RegistryError Unit := do
  let _ ← Results.collect (events.map verify)
  .ok ()

/-! ### Evidence -/

structure StagedEvidenceProjectionAdapter (D : Type) [DigestText D] where
  authorityPolicy : EvidenceAuthorityPolicy D
  expiryAuthorityId : String
  intentResolver : ProjectionRequest D → RegistryStore D →
    Except RegistryError (List (RegistryEvent D))
  impactResolver : ImpactResolver D .evidenceUnit

structure EvidenceProjectionPlan (D : Type) [DigestText D] extends
    ProjectionPlan D (EvidenceImpactReceipt D) where
  authorityPolicyDigest : D
  authorityDecisions : List (EvidenceAuthorityDecision D)

def EvidenceProjectionPlan.planDigest (plan : EvidenceProjectionPlan D) : D :=
  domainDigest "EVIDENCE_PROJECTION_PLAN" (.obj [("authority_decision_digests",
      .arr (plan.authorityDecisions.map fun decision => digestValue decision.decisionDigest)),
    ("authority_policy_digest", digestValue plan.authorityPolicyDigest),
    ("clock_claim_digest", digestValue plan.clockClaimDigest),
    ("clock_sequence", .int plan.clockSequence), ("event_digests", plan.eventDigests),
    ("expiry_plan_digest", digestValue plan.expiryPlanDigest), ("impact_receipt_digests",
      .arr (plan.impactReceipts.map fun receipt => digestValue receipt.receiptDigest)),
    ("predecessor_root_digest", digestValue plan.predecessorRootDigest),
    ("projected_root_digest", digestValue plan.projectedRootDigest),
    ("schema_version", .str "evidence-projection-plan/1"),
    ("semantic_receipt_digest", digestValue plan.semanticReceiptDigest),
    ("validated_event_digest", digestValue plan.validatedEventDigest)])

namespace StagedEvidenceProjectionAdapter
variable (adapter : StagedEvidenceProjectionAdapter D)

def staging : Staging D .evidenceUnit (EvidenceAuthorityDecision D) (EvidenceImpactReceipt D) where
  planner := evidenceExpiryPlanner adapter.authorityPolicy adapter.expiryAuthorityId
  impact := evidenceImpact adapter.impactResolver

/-- Explicit evidence events carry the clock and the source digest of the projection. -/
def verifyEventBindings (request : ProjectionRequest D) : List (RegistryEvent D) →
    Except RegistryError Unit :=
  verifyEach fun event => do
    Results.ensure (event.clockSequence = request.claim.proposedSequence)
      (fail .evidenceUnit "PROJECTION_EVENT_CLOCK_MISMATCH")
    Results.ensure (event.sourceReceiptDigest =
      DigestText.text (projectionSourceDigest .evidenceUnit request))
      (fail .evidenceUnit "PROJECTION_EVENT_SOURCE_MISMATCH")

def project (request : ProjectionRequest D) (committedStore : CommittedStore D) :
    RegistryM D (EvidenceProjectionPlan D) := do
  lift (verifyContext .evidenceUnit request)
  let (plan, staged) ← projectStaged adapter.staging (adapter.intentResolver request)
    (fun _ => verifyEventBindings request) request committedStore
  return { plan with
    authorityPolicyDigest := adapter.authorityPolicy.policyDigest
    authorityDecisions := staged.outcomes.map (·.1) }

end StagedEvidenceProjectionAdapter

/-- Explicit events of the other registries are of the registry and at the clock. -/
def verifyEventBindings (type : RegistryType) (request : ProjectionRequest D) :
    List (RegistryEvent D) → Except RegistryError Unit :=
  verifyEach fun event => do
    Results.ensure (event.registryType = type) (fail type "PROJECTION_EVENT_REGISTRY_TYPE_INVALID")
    Results.ensure (event.clockSequence = request.claim.proposedSequence)
      (fail type "PROJECTION_EVENT_CLOCK_MISMATCH")

/-- `payload.get("operation") == "ADMIT"`. -/
def isAdmission (event : RegistryEvent D) : Bool := event.payload.get "operation" = .str "ADMIT"

/-! ### Assumptions -/

/-- What the adapter reads of a governed ADMIT authorization. -/
structure GovernedAdmitAuthorization (D : Type) where
  assumptionId : String
  candidateEntitySequence : Nat
  candidatePredecessorEventDigest : D
  eventSequence : Nat
  admittingAuthorityId : String
  assumptionRegistryRoot : D
  evidenceRegistryRoot : D
  dependencyReceiptDigest : D
  authorizationDigest : D

structure StagedAssumptionProjectionAdapter (D : Type) [DigestText D] where
  expiryAuthority : ExpiryAuthority D
  intentResolver : ProjectionRequest D → D → RegistryStore D →
    Except RegistryError (List (RegistryEvent D))
  impactResolver : ImpactResolver D .assumption

structure AssumptionProjectionPlan (D : Type) [DigestText D] extends
    ProjectionPlan D (AssumptionImpactReceipt D) where
  evidenceRootDigest : D

def AssumptionProjectionPlan.planDigest (plan : AssumptionProjectionPlan D) : D :=
  domainDigest "ASSUMPTION_PROJECTION_PLAN" (.obj [
    ("clock_claim_digest", digestValue plan.clockClaimDigest),
    ("clock_sequence", .int plan.clockSequence), ("event_digests", plan.eventDigests),
    ("evidence_root_digest", digestValue plan.evidenceRootDigest),
    ("expiry_plan_digest", digestValue plan.expiryPlanDigest), ("impact_receipt_digests",
      .arr (plan.impactReceipts.map fun receipt => digestValue receipt.receiptDigest)),
    ("predecessor_root_digest", digestValue plan.predecessorRootDigest),
    ("projected_root_digest", digestValue plan.projectedRootDigest),
    ("schema_version", .str "assumption-projection-plan/1"),
    ("semantic_receipt_digest", digestValue plan.semanticReceiptDigest),
    ("validated_event_digest", digestValue plan.validatedEventDigest)])

namespace StagedAssumptionProjectionAdapter
variable (adapter : StagedAssumptionProjectionAdapter D)

def staging : Staging D .assumption Unit (AssumptionImpactReceipt D) where
  planner := assumptionExpiryPlanner adapter.expiryAuthority
  impact := assumptionImpact adapter.impactResolver

/-- `_verify_governed_evidence_shape`. -/
def verifyGovernedEvidenceShape (evidenceRoot : D) (seen : List String) :
    List (GovernedAdmitAuthorization D) → Except RegistryError Unit
  | [] => .ok ()
  | authorization :: rest => do
      Results.ensure (authorization.assumptionId ∉ seen)
        (fail .assumption "PROJECTION_GOVERNED_EVIDENCE_DUPLICATE")
      Results.ensure (authorization.evidenceRegistryRoot = evidenceRoot)
        (fail .assumption "PROJECTION_EVIDENCE_ROOT_MISMATCH")
      verifyGovernedEvidenceShape evidenceRoot (authorization.assumptionId :: seen) rest

/-- The binding of one explicit ADMIT event. -/
def verifyGovernedAdmit (evidenceRoot predecessorRoot : D) (event : RegistryEvent D)
    (authorization : GovernedAdmitAuthorization D) : Except RegistryError Unit := do
  Results.ensure (event.entityId = authorization.assumptionId)
    (fail .assumption "PROJECTION_ADMIT_IDENTITY_MISMATCH")
  Results.ensure (event.entitySequence = authorization.candidateEntitySequence)
    (fail .assumption "PROJECTION_ADMIT_SEQUENCE_MISMATCH")
  Results.ensure (event.previousEntityEventDigest =
    some authorization.candidatePredecessorEventDigest)
    (fail .assumption "PROJECTION_ADMIT_PREDECESSOR_MISMATCH")
  Results.ensure (event.clockSequence = authorization.eventSequence)
    (fail .assumption "PROJECTION_ADMIT_CLOCK_MISMATCH")
  Results.ensure (event.payload.get "admitting_authority_id" =
    .str authorization.admittingAuthorityId) (fail .assumption "PROJECTION_ADMIT_AUTHORITY_MISMATCH")
  Results.ensure (predecessorRoot = authorization.assumptionRegistryRoot)
    (fail .assumption "PROJECTION_ADMIT_ROOT_MISMATCH")
  Results.ensure (evidenceRoot = authorization.evidenceRegistryRoot)
    (fail .assumption "PROJECTION_ADMIT_EVIDENCE_ROOT_MISMATCH")
  Results.ensure (event.sourceReceiptDigest =
    DigestText.text authorization.dependencyReceiptDigest)
    (fail .assumption "PROJECTION_ADMIT_SOURCE_MISMATCH")
  Results.ensure (event.payload.get "admission_receipt_digest" =
    digestValue authorization.authorizationDigest)
    (fail .assumption "PROJECTION_ADMISSION_RECEIPT_MISMATCH")

/-- `_verify_governed_admit_bindings`. -/
def verifyGovernedAdmitBindings (governedEvidence : List (GovernedAdmitAuthorization D))
    (evidenceRoot predecessorRoot : D) : List (RegistryEvent D) → Except RegistryError Unit :=
  verifyEach fun event =>
    if isAdmission event = true then
      match Keyed.find (·.assumptionId) governedEvidence event.entityId with
      | none => .error (fail .assumption "PROJECTION_ADMIT_EVIDENCE_MISSING")
      | some authorization => verifyGovernedAdmit evidenceRoot predecessorRoot event authorization
    else .ok ()

def project (request : ProjectionRequest D) (committedStore : CommittedStore D)
    (evidenceRootDigest : D) (governedEvidence : List (GovernedAdmitAuthorization D)) :
    RegistryM D (AssumptionProjectionPlan D) := do
  lift (verifyContext .assumption request)
  lift (verifyGovernedEvidenceShape evidenceRootDigest [] governedEvidence)
  let (plan, _) ← projectStaged adapter.staging
    (adapter.intentResolver request evidenceRootDigest)
    (fun predecessorRoot explicit => do
      verifyEventBindings .assumption request explicit
      verifyGovernedAdmitBindings governedEvidence evidenceRootDigest predecessorRoot explicit)
    request committedStore
  return { plan with evidenceRootDigest := evidenceRootDigest }

end StagedAssumptionProjectionAdapter

/-! ### Alternative models -/

deriving instance DecidableEq for StructuralDifferenceReceipt

/-- What the adapter reads of a governed authorization. -/
structure GovernedAlternativeModelAuthorization (D : Type) where
  modelId : String
  candidateEntitySequence : Nat
  candidatePredecessorEventDigest : D
  eventSequence : Nat
  admittingAuthorityId : String
  alternativeModelRegistryRoot : D
  authorizationDigest : D
  structuralDifferenceReceipt : StructuralDifferenceReceipt

structure ComparisonReceipt (D : Type) where
  structuralDifferenceReceipt : StructuralDifferenceReceipt
  comparisonDigest : D

structure StagedAlternativeModelProjectionAdapter (D : Type) [DigestText D] where
  expiryAuthority : ExpiryAuthority D
  intentResolver : ProjectionRequest D → RegistryStore D →
    Except RegistryError (List (RegistryEvent D))
  impactResolver : ImpactResolver D .alternativeModel

structure AlternativeModelProjectionPlan (D : Type) [DigestText D] extends
    ProjectionPlan D (AlternativeModelImpactReceipt D) where
  evidenceRootDigest : D
  assumptionRootDigest : D
  admitComparisonBindings : List (String × D)

def AlternativeModelProjectionPlan.planDigest (plan : AlternativeModelProjectionPlan D) : D :=
  domainDigest "ALTERNATIVE_MODEL_PROJECTION_PLAN" (.obj [("admit_comparison_bindings",
      .arr (plan.admitComparisonBindings.map fun binding =>
        .arr [.str binding.1, digestValue binding.2])),
    ("assumption_root_digest", digestValue plan.assumptionRootDigest),
    ("clock_claim_digest", digestValue plan.clockClaimDigest),
    ("clock_sequence", .int plan.clockSequence), ("event_digests", plan.eventDigests),
    ("evidence_root_digest", digestValue plan.evidenceRootDigest),
    ("expiry_plan_digest", digestValue plan.expiryPlanDigest), ("impact_receipt_digests",
      .arr (plan.impactReceipts.map fun receipt => digestValue receipt.receiptDigest)),
    ("predecessor_root_digest", digestValue plan.predecessorRootDigest),
    ("projected_root_digest", digestValue plan.projectedRootDigest),
    ("schema_version", .str "alternative-model-projection-plan/1"),
    ("semantic_receipt_digest", digestValue plan.semanticReceiptDigest),
    ("validated_event_digest", digestValue plan.validatedEventDigest)])

namespace StagedAlternativeModelProjectionAdapter
variable (adapter : StagedAlternativeModelProjectionAdapter D)

def staging : Staging D .alternativeModel Unit (AlternativeModelImpactReceipt D) where
  planner := alternativeModelExpiryPlanner adapter.expiryAuthority
  impact := alternativeModelImpact adapter.impactResolver

/-- The binding of one explicit ADMIT event. -/
def verifyGovernedAdmit (predecessorRoot : D) (event : RegistryEvent D)
    (governed : GovernedAlternativeModelAuthorization D × ComparisonReceipt D) :
    Except RegistryError (String × D) := do
  Results.ensure (event.entityId = governed.1.modelId)
    (fail .alternativeModel "PROJECTION_ADMIT_IDENTITY_MISMATCH")
  Results.ensure (event.entitySequence = governed.1.candidateEntitySequence)
    (fail .alternativeModel "PROJECTION_ADMIT_SEQUENCE_MISMATCH")
  Results.ensure (event.previousEntityEventDigest = some governed.1.candidatePredecessorEventDigest)
    (fail .alternativeModel "PROJECTION_ADMIT_PREDECESSOR_MISMATCH")
  Results.ensure (event.clockSequence = governed.1.eventSequence)
    (fail .alternativeModel "PROJECTION_ADMIT_CLOCK_MISMATCH")
  Results.ensure (event.payload.get "admitting_authority_id" = .str governed.1.admittingAuthorityId)
    (fail .alternativeModel "PROJECTION_ADMIT_AUTHORITY_MISMATCH")
  Results.ensure (predecessorRoot = governed.1.alternativeModelRegistryRoot)
    (fail .alternativeModel "PROJECTION_ADMIT_ROOT_MISMATCH")
  Results.ensure (event.sourceReceiptDigest = DigestText.text governed.1.authorizationDigest)
    (fail .alternativeModel "PROJECTION_ADMIT_SOURCE_MISMATCH")
  Results.ensure (governed.2.structuralDifferenceReceipt = governed.1.structuralDifferenceReceipt)
    (.governed "ALT_MODEL_PROJECTION_COMPARISON_RECEIPT_MISMATCH" (some event.entityId))
  .ok (event.entityId, governed.2.comparisonDigest)

/-- `_verify_governed_admit_bindings`. -/
def verifyGovernedAdmitBindings
    (governedAdmitEvidence : List (GovernedAlternativeModelAuthorization D × ComparisonReceipt D))
    (predecessorRoot : D) (events : List (RegistryEvent D)) :
    Except RegistryError (List (String × D)) := do
  Results.ensure ((governedAdmitEvidence.map (·.1.modelId)).Nodup)
    (fail .alternativeModel "PROJECTION_GOVERNED_EVIDENCE_DUPLICATE")
  let bindings ← Results.collect ((events.filter isAdmission).map fun event =>
    match Keyed.find (·.1.modelId) governedAdmitEvidence event.entityId with
    | none => .error (fail .alternativeModel "PROJECTION_ADMIT_EVIDENCE_MISSING")
    | some governed => verifyGovernedAdmit predecessorRoot event governed)
  .ok (bindings.insertionSort fun a b => toLex a ≤ toLex b)

def project (request : ProjectionRequest D) (committedStore : CommittedStore D)
    (evidenceRootDigest assumptionRootDigest : D)
    (governedAdmitEvidence : List (GovernedAlternativeModelAuthorization D × ComparisonReceipt D)) :
    RegistryM D (AlternativeModelProjectionPlan D) := do
  lift (verifyContext .alternativeModel request)
  let (plan, staged) ← projectStaged adapter.staging (adapter.intentResolver request)
    (fun predecessorRoot explicit => do
      verifyEventBindings .alternativeModel request explicit
      verifyGovernedAdmitBindings governedAdmitEvidence predecessorRoot explicit)
    request committedStore
  return { plan with
    evidenceRootDigest := evidenceRootDigest
    assumptionRootDigest := assumptionRootDigest
    admitComparisonBindings := staged.bindings }

end StagedAlternativeModelProjectionAdapter
end CsdFoundry.Projection

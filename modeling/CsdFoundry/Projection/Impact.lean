import CsdFoundry.AlternativeModels.Use
import CsdFoundry.Registry.Governed
import CsdFoundry.Projection.Expiry

/-! Impact receipts: what an event that ends or weakens an entity affects, as far as the staged
registry shows it. -/
namespace CsdFoundry.Projection
open Registry Storage
open Evidence (EvidenceUnit)
open Assumptions (Assumption)
open AlternativeModels (AlternativeModel)
open Policy (texts digestValue domainDigest)
open Temporal (isToken)

/-- The rounds of `_dependent_ids`: each adds the entities that depend on one of the last round.
Every round but the last adds one at least, so that there are no more rounds than entities. -/
def affectedFrom (states : List (String × List String)) :
    Nat → List String → List String → List String
  | 0, affected, _ => affected
  | rounds + 1, affected, frontier =>
      let nextFrontier := (states.filter fun state => state.1 ∉ affected ∧
        ∃ dependency ∈ state.2, dependency ∈ frontier).map (·.1)
      affectedFrom states rounds (affected ++ nextFrontier) nextFrontier

variable {D : Type} [LinearOrder D] [DigestText D] [Sha256 D]

/-- The current projections of a registry, by entity. -/
def projections (type : RegistryType) : RegistryM D (List (State D type)) := do
  let histories ← reconstructSnapshot type
  let states ← entityError (Results.collect (histories.map (project type)))
  return Keyed.entries State.entityId (states.filterMap id)

/-- The entities that depend on this one, directly or not. -/
def affectedIds (type : RegistryType) (dependencyIds : State D type → List String)
    (entityId : String) : RegistryM D (Finset String) := do
  let states ← projections type
  return (affectedFrom (states.map fun state => (state.entityId, dependencyIds state))
    states.length [] [entityId]).toFinset

/-- `_dependent_ids` of evidence. -/
def evidenceDependentIds (evidenceId : String) : RegistryM D (List String) := do
  return sortedSet (← affectedIds .evidenceUnit EvidenceUnit.dependencyIds evidenceId)

/-- `_dependent_ids` of assumptions, which leaves the trigger out. -/
def assumptionDependentIds (assumptionId : String) : RegistryM D (List String) := do
  return sortedSet ((← affectedIds .assumption Assumption.assumptionDependencyIds assumptionId).erase
    assumptionId)

/-- A tuple that was sorted as a set: `_require_tokens`. -/
def requireTokens (type : RegistryType) (values : List String) (name : String) :
    Except RegistryError Unit :=
  if SortedTokens values then .ok () else .error (fail type name)

def requireToken (type : RegistryType) (value name : String) : Except RegistryError Unit :=
  if isToken value = true then .ok () else .error (fail type name)

def canonicalSet (values : List String) : List String := sortedSet values.toFinset

/-- `_IMPACT_OPERATIONS`. -/
def impactOperations : RegistryType → List String
  | .evidenceUnit => ["CHALLENGE", "EXPIRE", "INVALIDATE", "SUPERSEDE"]
  | .assumption | .alternativeModel =>
      ["CHALLENGE", "RESOLVE_CHALLENGES", "CONFIRM", "REJECT", "EXPIRE", "SUPERSEDE"]

/-- `_event_operation`. -/
def eventOperation (type : RegistryType) (event : RegistryEvent D) : Except RegistryError String :=
  (requiredToken event.payload "operation" "PROJECTION_EVENT_OPERATION_INVALID").mapError (fail type)

/-! ### Evidence -/

structure EvidenceImpactReceipt (D : Type) where
  evidenceId : String
  previousStatus : String
  currentStatus : String
  triggerEventDigest : D
  affectedDependencyIds : List String
  candidateBasisIds : List String
  candidateSemanticObjectIds : List String
  evidenceRegistryRootDigest : D
  deriving DecidableEq

def EvidenceImpactReceipt.postInit (receipt : EvidenceImpactReceipt D) :
    Except RegistryError Unit := do
  requireToken .evidenceUnit receipt.evidenceId "IMPACT_ID_INVALID"
  requireTokens .evidenceUnit receipt.affectedDependencyIds "IMPACT_DEPENDENCIES_INVALID"
  requireTokens .evidenceUnit receipt.candidateBasisIds "IMPACT_BASES_INVALID"
  requireTokens .evidenceUnit receipt.candidateSemanticObjectIds "IMPACT_OBJECTS_INVALID"

def EvidenceImpactReceipt.receiptDigest (receipt : EvidenceImpactReceipt D) : D :=
  domainDigest "EVIDENCE_IMPACT_RECEIPT" (.obj [
    ("affected_dependency_ids", texts receipt.affectedDependencyIds),
    ("candidate_basis_ids", texts receipt.candidateBasisIds),
    ("candidate_semantic_object_ids", texts receipt.candidateSemanticObjectIds),
    ("completeness_boundary", .str ("Known transitive evidence dependents plus resolver-supplied " ++
      "candidate CSD references; substantive survival is decided by the semantic projector.")),
    ("current_status", .str receipt.currentStatus), ("evidence_id", .str receipt.evidenceId),
    ("evidence_registry_root_digest", digestValue receipt.evidenceRegistryRootDigest),
    ("impact_kind", .str "REASSESSMENT_REQUIRED"), ("previous_status", .str receipt.previousStatus),
    ("schema_version", .str "evidence-impact-receipt/1"),
    ("trigger_event_digest", digestValue receipt.triggerEventDigest)])

/-- An impact resolver reads the staged store. -/
abbrev ImpactResolver (D : Type) [DigestText D] (type : RegistryType) : Type :=
  State D type → RegistryEvent D → RegistryStore D →
    Except RegistryError (List String × List String)

/-- `EmptyEvidenceImpactResolver` and its two siblings. -/
def emptyImpactResolver (type : RegistryType) : ImpactResolver D type := fun _ _ _ => .ok ([], [])

def evidenceImpact (impactResolver : ImpactResolver D .evidenceUnit)
    (previous current : EvidenceUnit D) (event : RegistryEvent D) :
    RegistryM D (EvidenceImpactReceipt D) := do
  let (bases, objects) ← (.read .os (impactResolver current event) :
    RegistryM D (List String × List String))
  let affected ← evidenceDependentIds event.entityId
  let root := (← snapshot .evidenceUnit).rootDigest
  let receipt : EvidenceImpactReceipt D := {
    evidenceId := event.entityId
    previousStatus := previous.status.text
    currentStatus := current.status.text
    triggerEventDigest := event.digest
    affectedDependencyIds := affected
    candidateBasisIds := canonicalSet bases
    candidateSemanticObjectIds := canonicalSet objects
    evidenceRegistryRootDigest := root }
  lift receipt.postInit
  return receipt

/-! ### Assumptions -/

structure AssumptionImpactReceipt (D : Type) where
  assumptionId : String
  previousStatus : String
  currentStatus : String
  triggerEventDigest : D
  affectedAssumptionIds : List String
  assumptionRegistryRootDigest : D
  deriving DecidableEq

def AssumptionImpactReceipt.postInit (receipt : AssumptionImpactReceipt D) :
    Except RegistryError Unit := do
  requireToken .assumption receipt.assumptionId "IMPACT_ID_INVALID"
  requireTokens .assumption receipt.affectedAssumptionIds "IMPACT_DEPENDENCIES_INVALID"

def AssumptionImpactReceipt.receiptDigest (receipt : AssumptionImpactReceipt D) : D :=
  domainDigest "ASSUMPTION_IMPACT_RECEIPT" (.obj [
    ("affected_assumption_ids", texts receipt.affectedAssumptionIds),
    ("assumption_id", .str receipt.assumptionId),
    ("assumption_registry_root_digest", digestValue receipt.assumptionRegistryRootDigest),
    ("completeness_boundary", .str ("Reverse transitive closure over assumption_dependency_ids; " ++
      "substantive survival is decided by the semantic projector.")),
    ("current_status", .str receipt.currentStatus), ("impact_kind", .str "REASSESSMENT_REQUIRED"),
    ("previous_status", .str receipt.previousStatus),
    ("schema_version", .str "assumption-impact-receipt/1"),
    ("trigger_event_digest", digestValue receipt.triggerEventDigest)])

def assumptionStandingText : Assumptions.Standing → String
  | .proposed => "PROPOSED"
  | .admitted => "ADMITTED"
  | .confirmed => "CONFIRMED"
  | .rejected => "REJECTED"
  | .expired => "EXPIRED"
  | .superseded => "SUPERSEDED"

/-- `Assumption.status`. -/
def assumptionStatus (assumption : Assumption D) : String :=
  if assumption.activeChallenges = [] then assumptionStandingText assumption.standing
  else "CHALLENGED"

def assumptionImpact (impactResolver : ImpactResolver D .assumption)
    (previous current : Assumption D) (event : RegistryEvent D) :
    RegistryM D (AssumptionImpactReceipt D) := do
  let _ ← (.read .os (impactResolver current event) : RegistryM D (List String × List String))
  let affected ← assumptionDependentIds event.entityId
  let root := (← snapshot .assumption).rootDigest
  let receipt : AssumptionImpactReceipt D := {
    assumptionId := event.entityId
    previousStatus := assumptionStatus previous
    currentStatus := assumptionStatus current
    triggerEventDigest := event.digest
    affectedAssumptionIds := affected
    assumptionRegistryRootDigest := root }
  lift receipt.postInit
  return receipt

/-! ### Alternative models -/

structure AlternativeModelImpactReceipt (D : Type) where
  modelId : String
  previousStatus : String
  currentStatus : String
  triggerEventDigest : D
  scopeIds : List String
  assumptionIds : List String
  evidenceIds : List String
  alternativeModelRegistryRootDigest : D
  deriving DecidableEq

def AlternativeModelImpactReceipt.postInit (receipt : AlternativeModelImpactReceipt D) :
    Except RegistryError Unit := do
  requireToken .alternativeModel receipt.modelId "IMPACT_ID_INVALID"
  requireTokens .alternativeModel receipt.scopeIds "IMPACT_SCOPE_IDS_INVALID"
  requireTokens .alternativeModel receipt.assumptionIds "IMPACT_ASSUMPTION_IDS_INVALID"
  requireTokens .alternativeModel receipt.evidenceIds "IMPACT_EVIDENCE_IDS_INVALID"

def AlternativeModelImpactReceipt.receiptDigest (receipt : AlternativeModelImpactReceipt D) : D :=
  domainDigest "ALTERNATIVE_MODEL_IMPACT_RECEIPT" (.obj [
    ("alternative_model_registry_root_digest",
      digestValue receipt.alternativeModelRegistryRootDigest),
    ("assumption_ids", texts receipt.assumptionIds),
    ("completeness_boundary", .str ("Declared model-local D4 impact surface (scope, assumption, " ++
      "evidence identifiers) for the affected model only; no cross-model dependency or " ++
      "transitive-closure claims are made.")),
    ("current_status", .str receipt.currentStatus), ("evidence_ids", texts receipt.evidenceIds),
    ("impact_kind", .str "REASSESSMENT_REQUIRED"), ("model_id", .str receipt.modelId),
    ("previous_status", .str receipt.previousStatus),
    ("schema_version", .str "alternative-model-impact-receipt/1"),
    ("scope_ids", texts receipt.scopeIds),
    ("trigger_event_digest", digestValue receipt.triggerEventDigest)])

/-- `AlternativeModel.status`. -/
def alternativeModelStatus (model : AlternativeModel D) : String :=
  match model.standing with
  | .challenged => "CHALLENGED"
  | .separation status => status.value

def alternativeModelImpact (impactResolver : ImpactResolver D .alternativeModel)
    (previous current : AlternativeModel D) (event : RegistryEvent D) :
    RegistryM D (AlternativeModelImpactReceipt D) := do
  let _ ← (.read .os (impactResolver current event) : RegistryM D (List String × List String))
  let root := (← snapshot .alternativeModel).rootDigest
  let receipt : AlternativeModelImpactReceipt D := {
    modelId := event.entityId
    previousStatus := alternativeModelStatus previous
    currentStatus := alternativeModelStatus current
    triggerEventDigest := event.digest
    scopeIds := canonicalSet current.scopeIds
    assumptionIds := canonicalSet current.assumptionIds
    evidenceIds := canonicalSet current.evidenceIds
    alternativeModelRegistryRootDigest := root }
  lift receipt.postInit
  return receipt

end CsdFoundry.Projection

import CsdFoundry.Registry.Payload

/-! The alternative-model lifecycle: one event applied to the projection of the events
before it. UNVERIFIED is the standing after an ADMIT. -/
namespace CsdFoundry.AlternativeModels
open Registry
open Temporal (isToken)

inductive SeparationStatus where
  | proposed
  | unverified
  | admitted
  | confirmed
  | rejected
  | expired
  | superseded
  deriving DecidableEq

/-- `_TERMINAL_STANDINGS`. -/
def SeparationStatus.terminal : SeparationStatus → Bool
  | .rejected | .expired | .superseded => true
  | .proposed | .unverified | .admitted | .confirmed => false

/-- `_CHALLENGEABLE_STANDINGS`. -/
def SeparationStatus.challengeable : SeparationStatus → Bool
  | .unverified | .admitted | .confirmed => true
  | .proposed | .rejected | .expired | .superseded => false

structure AlternativeModelChallenge (D : Type) where
  challengeId : String
  challengerAuthorityId : String
  reasonCode : String
  challengeReceiptDigest : String
  openedAtSequence : Nat
  openingEventDigest : D
  deriving DecidableEq

structure AlternativeModel (D : Type) where
  modelId : String
  modelVersion : String
  primaryModelId : String
  graphDigest : String
  declaredDifferenceDigest : String
  challengeBasisCode : String
  scopeIds : List String
  assumptionIds : List String
  evidenceIds : List String
  proposerAuthorityId : String
  admittingAuthorityId : Option String
  confirmingAuthorityId : Option String
  materiality : String
  separationStatus : SeparationStatus
  validFromSequence : Nat
  expiresAtSequence : Option Nat
  activeChallenges : List (AlternativeModelChallenge D)
  supersededById : Option String
  limitations : List String
  maximumReuseClass : String
  proposalSourceReceiptDigest : String
  currentSourceReceiptDigest : String
  currentEventDigest : D
  currentEntitySequence : Nat
  lastClockSequence : Nat
  deriving DecidableEq

def materialities : List String := ["ADVISORY", "MATERIAL", "CRITICAL"]

def reuseClasses : List String := ["D0", "D1", "D2", "D3", "BENCHMARK"]

def resolutionOutcomes : List String := ["UPHOLD", "INVALIDATE"]

def payloadSchemaVersion : String := "alternative-model-event/1"

namespace AlternativeModel
variable {D : Type}

def terminal (m : AlternativeModel D) : Bool := m.separationStatus.terminal

def activeChallengeIds (m : AlternativeModel D) : List String :=
  m.activeChallenges.map (·.challengeId)

/-- `sorted(..., key=challenge_id)`. -/
def byChallengeId (challenges : List (AlternativeModelChallenge D)) :
    List (AlternativeModelChallenge D) :=
  challenges.insertionSort (fun a b => a.challengeId ≤ b.challengeId)

def optionalToken (value : Option String) (code : String) : Except String Unit :=
  check (∀ token ∈ value, isToken token = true) code

def checkExpiry (m : AlternativeModel D) : Except String Unit :=
  match m.expiresAtSequence with
  | none => .ok ()
  | some expires =>
      check (m.validFromSequence < expires) "ALTERNATIVE_MODEL_EXPIRY_NOT_AFTER_VALID_FROM"

def checkChallenges (m : AlternativeModel D) : Except String Unit := do
  check (m.activeChallengeIds.Pairwise (· ≤ ·)) "ALTERNATIVE_MODEL_CHALLENGES_NOT_CANONICAL"
  check m.activeChallengeIds.Nodup "ALTERNATIVE_MODEL_CHALLENGE_ID_DUPLICATE"
  check (m.activeChallenges = [] ∨ m.separationStatus.challengeable = true)
    "ALTERNATIVE_MODEL_CHALLENGE_STANDING_INVALID"

def checkSupersession (m : AlternativeModel D) : Except String Unit := do
  check (m.separationStatus = .superseded → m.supersededById ≠ none ∧ m.supersededById ≠ some "")
    "ALTERNATIVE_MODEL_SUPERSESSION_MISSING"
  check (m.separationStatus ≠ .superseded → m.supersededById = none)
    "ALTERNATIVE_MODEL_SUPERSESSION_UNEXPECTED"
  check (m.supersededById ≠ some m.modelId) "ALTERNATIVE_MODEL_SELF_SUPERSESSION"

/-- `AlternativeModel.__post_init__`, which also runs in `replace`. -/
def postInit [DecidableEq D] [DigestText D] (m : AlternativeModel D) : Except String Unit := do
  check (isToken m.modelId = true) "ALTERNATIVE_MODEL_ID_INVALID"
  check (isToken m.modelVersion = true) "ALTERNATIVE_MODEL_VERSION_INVALID"
  check (isToken m.primaryModelId = true) "ALTERNATIVE_MODEL_PRIMARY_INVALID"
  check (DigestText.isDigest D m.graphDigest = true) "ALTERNATIVE_MODEL_GRAPH_DIGEST_INVALID"
  check (DigestText.isDigest D m.declaredDifferenceDigest = true)
    "ALTERNATIVE_MODEL_DIFFERENCE_DIGEST_INVALID"
  check (isToken m.challengeBasisCode = true) "ALTERNATIVE_MODEL_CHALLENGE_BASIS_INVALID"
  requireSortedTokens m.scopeIds "ALTERNATIVE_MODEL_SCOPE_IDS_INVALID" false
  requireSortedTokens m.assumptionIds "ALTERNATIVE_MODEL_ASSUMPTION_IDS_INVALID" true
  requireSortedTokens m.evidenceIds "ALTERNATIVE_MODEL_EVIDENCE_IDS_INVALID" true
  check (isToken m.proposerAuthorityId = true) "ALTERNATIVE_MODEL_PROPOSER_INVALID"
  optionalToken m.admittingAuthorityId "ALTERNATIVE_MODEL_ADMITTING_INVALID"
  optionalToken m.confirmingAuthorityId "ALTERNATIVE_MODEL_CONFIRMING_INVALID"
  check (m.materiality ∈ materialities) "ALTERNATIVE_MODEL_MATERIALITY_INVALID"
  check (1 ≤ m.validFromSequence) "ALTERNATIVE_MODEL_VALID_FROM_INVALID"
  checkExpiry m
  checkChallenges m
  checkSupersession m
  requireSortedTokens m.limitations "ALTERNATIVE_MODEL_LIMITATIONS_INVALID" true
  check (m.maximumReuseClass ∈ reuseClasses) "ALTERNATIVE_MODEL_REUSE_CLASS_INVALID"
  check (DigestText.isDigest D m.proposalSourceReceiptDigest = true)
    "ALTERNATIVE_MODEL_PROPOSAL_RECEIPT_INVALID"
  check (DigestText.isDigest D m.currentSourceReceiptDigest = true)
    "ALTERNATIVE_MODEL_CURRENT_RECEIPT_INVALID"
  check (1 ≤ m.currentEntitySequence) "ALTERNATIVE_MODEL_ENTITY_SEQUENCE_INVALID"
  check (1 ≤ m.lastClockSequence) "ALTERNATIVE_MODEL_CLOCK_INVALID"

/-- `AlternativeModel(...)`. -/
def create [DecidableEq D] [DigestText D] (m : AlternativeModel D) :
    Except String (AlternativeModel D) := do
  postInit m
  .ok m

end AlternativeModel

variable {D : Type} [DecidableEq D] [DigestText D] [Sha256 D]

/-- `_event_value`. -/
def eventValue (event : RegistryEvent D) : Except String Unit := do
  check (event.registryType = .alternativeModel) "ALTERNATIVE_MODEL_REGISTRY_TYPE_INVALID"
  check (event.projectionPhase = .alternativeModelRegistry)
    "ALTERNATIVE_MODEL_PROJECTION_PHASE_INVALID"
  check (event.payloadSchemaVersion = payloadSchemaVersion)
    "ALTERNATIVE_MODEL_PAYLOAD_VERSION_INVALID"

def verifyChain (previous : Option (AlternativeModel D)) (event : RegistryEvent D) :
    Except String Unit :=
  match previous with
  | none =>
      check (event.entitySequence = 1 ∧ event.previousEntityEventDigest = none)
        "ALTERNATIVE_MODEL_GENESIS_LINK_INVALID"
  | some previous => do
      check (event.entityId = previous.modelId) "ALTERNATIVE_MODEL_IDENTITY_CHANGED"
      check (event.entitySequence = previous.currentEntitySequence + 1)
        "ALTERNATIVE_MODEL_ENTITY_SEQUENCE_NOT_SUCCESSOR"
      check (event.previousEntityEventDigest = some previous.currentEventDigest)
        "ALTERNATIVE_MODEL_PREDECESSOR_MISMATCH"
      check (previous.lastClockSequence < event.clockSequence)
        "ALTERNATIVE_MODEL_CLOCK_NOT_ADVANCING"
      check (event.digest ≠ previous.currentEventDigest) "ALTERNATIVE_MODEL_EVENT_IDENTITY_REUSED"

def keys (event : RegistryEvent D) (expected : List String) : Except String Unit :=
  requireExactKeys event.payload expected "ALTERNATIVE_MODEL_PAYLOAD_KEYS_INVALID"

def propose (event : RegistryEvent D) : Except String (AlternativeModel D) := do
  keys event ["operation", "model_version", "primary_model_id", "graph_digest",
    "declared_difference_digest", "challenge_basis_code", "scope_ids", "assumption_ids",
    "evidence_ids", "proposer_authority_id", "materiality", "valid_from_sequence",
    "expires_at_sequence", "limitations", "maximum_reuse_class"]
  let modelVersion ← requiredToken event.payload "model_version" "ALTERNATIVE_MODEL_VERSION_INVALID"
  let primaryModelId ← requiredToken event.payload "primary_model_id"
    "ALTERNATIVE_MODEL_PRIMARY_INVALID"
  let graphDigest ← requiredDigest D event.payload "graph_digest"
    "ALTERNATIVE_MODEL_GRAPH_DIGEST_INVALID"
  let declaredDifferenceDigest ← requiredDigest D event.payload "declared_difference_digest"
    "ALTERNATIVE_MODEL_DIFFERENCE_DIGEST_INVALID"
  let challengeBasisCode ← requiredToken event.payload "challenge_basis_code"
    "ALTERNATIVE_MODEL_CHALLENGE_BASIS_INVALID"
  let scopeIds ← requiredTokenTuple event.payload "scope_ids"
    "ALTERNATIVE_MODEL_SCOPE_IDS_INVALID" false
  let assumptionIds ← requiredTokenTuple event.payload "assumption_ids"
    "ALTERNATIVE_MODEL_ASSUMPTION_IDS_INVALID" true
  let evidenceIds ← requiredTokenTuple event.payload "evidence_ids"
    "ALTERNATIVE_MODEL_EVIDENCE_IDS_INVALID" true
  let proposerAuthorityId ← requiredToken event.payload "proposer_authority_id"
    "ALTERNATIVE_MODEL_PROPOSER_INVALID"
  let materiality ← requiredToken event.payload "materiality"
    "ALTERNATIVE_MODEL_MATERIALITY_INVALID"
  check (materiality ∈ materialities) "ALTERNATIVE_MODEL_MATERIALITY_INVALID"
  let validFromSequence ← requiredPositiveInt event.payload "valid_from_sequence"
    "ALTERNATIVE_MODEL_VALID_FROM_INVALID"
  let expiresAtSequence ← optionalPositiveInt event.payload "expires_at_sequence"
    "ALTERNATIVE_MODEL_EXPIRES_INVALID"
  check (∀ expires ∈ expiresAtSequence, validFromSequence < expires)
    "ALTERNATIVE_MODEL_EXPIRY_NOT_AFTER_VALID_FROM"
  let limitations ← requiredTokenTuple event.payload "limitations"
    "ALTERNATIVE_MODEL_LIMITATIONS_INVALID" true
  let maximumReuseClass ← requiredToken event.payload "maximum_reuse_class"
    "ALTERNATIVE_MODEL_REUSE_CLASS_INVALID"
  check (maximumReuseClass ∈ reuseClasses) "ALTERNATIVE_MODEL_REUSE_CLASS_INVALID"
  AlternativeModel.create {
    modelId := event.entityId
    modelVersion := modelVersion
    primaryModelId := primaryModelId
    graphDigest := graphDigest
    declaredDifferenceDigest := declaredDifferenceDigest
    challengeBasisCode := challengeBasisCode
    scopeIds := scopeIds
    assumptionIds := assumptionIds
    evidenceIds := evidenceIds
    proposerAuthorityId := proposerAuthorityId
    admittingAuthorityId := none
    confirmingAuthorityId := none
    materiality := materiality
    separationStatus := .proposed
    validFromSequence := validFromSequence
    expiresAtSequence := expiresAtSequence
    activeChallenges := []
    supersededById := none
    limitations := limitations
    maximumReuseClass := maximumReuseClass
    proposalSourceReceiptDigest := event.sourceReceiptDigest
    currentSourceReceiptDigest := event.sourceReceiptDigest
    currentEventDigest := event.digest
    currentEntitySequence := event.entitySequence
    lastClockSequence := event.clockSequence }

/-- What an operation replaces. A field that is `none` keeps its value, but for the
replacement id, which `_advance` always sets. -/
structure Change (D : Type) where
  separationStatus : Option SeparationStatus := none
  admittingAuthorityId : Option String := none
  confirmingAuthorityId : Option String := none
  activeChallenges : Option (List (AlternativeModelChallenge D)) := none
  supersededById : Option String := none

/-- The record that `_advance` builds. -/
def advanced (previous : AlternativeModel D) (event : RegistryEvent D) (change : Change D) :
    AlternativeModel D :=
  { previous with
    separationStatus := change.separationStatus.getD previous.separationStatus
    admittingAuthorityId := change.admittingAuthorityId.or previous.admittingAuthorityId
    confirmingAuthorityId := change.confirmingAuthorityId.or previous.confirmingAuthorityId
    activeChallenges := change.activeChallenges.getD previous.activeChallenges
    supersededById := change.supersededById
    currentSourceReceiptDigest := event.sourceReceiptDigest
    currentEventDigest := event.digest
    currentEntitySequence := event.entitySequence
    lastClockSequence := event.clockSequence }

def advance (previous : AlternativeModel D) (event : RegistryEvent D) (change : Change D) :
    Except String (AlternativeModel D) :=
  AlternativeModel.create (advanced previous event change)

def admitModel (previous : AlternativeModel D) (event : RegistryEvent D) :
    Except String (AlternativeModel D) := do
  check (previous.separationStatus = .proposed) "ALTERNATIVE_MODEL_ADMIT_TRANSITION_INVALID"
  keys event ["operation", "admitting_authority_id"]
  let authority ← requiredToken event.payload "admitting_authority_id"
    "ALTERNATIVE_MODEL_ADMITTING_INVALID"
  advance previous event
    { separationStatus := some .unverified, admittingAuthorityId := some authority }

def confirm (previous : AlternativeModel D) (event : RegistryEvent D) :
    Except String (AlternativeModel D) := do
  check (previous.separationStatus.challengeable = true)
    "ALTERNATIVE_MODEL_CONFIRM_TRANSITION_INVALID"
  check (previous.activeChallenges = []) "ALTERNATIVE_MODEL_CONFIRM_WITH_ACTIVE_CHALLENGES"
  keys event ["operation", "confirming_authority_id"]
  let authority ← requiredToken event.payload "confirming_authority_id"
    "ALTERNATIVE_MODEL_CONFIRMING_INVALID"
  advance previous event
    { separationStatus := some .confirmed, confirmingAuthorityId := some authority }

def challenge (previous : AlternativeModel D) (event : RegistryEvent D) :
    Except String (AlternativeModel D) := do
  check (previous.separationStatus.challengeable = true)
    "ALTERNATIVE_MODEL_CHALLENGE_TRANSITION_INVALID"
  keys event ["operation", "challenge_id", "challenger_authority_id", "challenge_reason_code",
    "challenge_receipt_digest"]
  let challengeId ← requiredToken event.payload "challenge_id"
    "ALTERNATIVE_MODEL_CHALLENGE_ID_INVALID"
  check (challengeId ∉ previous.activeChallengeIds) "ALTERNATIVE_MODEL_CHALLENGE_ID_REUSED"
  let challengerAuthorityId ← requiredToken event.payload "challenger_authority_id"
    "ALTERNATIVE_MODEL_CHALLENGER_INVALID"
  let reasonCode ← requiredToken event.payload "challenge_reason_code"
    "ALTERNATIVE_MODEL_CHALLENGE_REASON_INVALID"
  let challengeReceiptDigest ← requiredDigest D event.payload "challenge_receipt_digest"
    "ALTERNATIVE_MODEL_CHALLENGE_RECEIPT_INVALID"
  let opened : AlternativeModelChallenge D := {
    challengeId := challengeId
    challengerAuthorityId := challengerAuthorityId
    reasonCode := reasonCode
    challengeReceiptDigest := challengeReceiptDigest
    openedAtSequence := event.clockSequence
    openingEventDigest := event.digest }
  advance previous event {
    activeChallenges := some
      (AlternativeModel.byChallengeId (previous.activeChallenges ++ [opened])) }

def resolveChallenges (previous : AlternativeModel D) (event : RegistryEvent D) :
    Except String (AlternativeModel D) := do
  check (previous.separationStatus.challengeable = true)
    "ALTERNATIVE_MODEL_RESOLUTION_TRANSITION_INVALID"
  check (previous.activeChallenges ≠ []) "ALTERNATIVE_MODEL_RESOLUTION_WITHOUT_ACTIVE_CHALLENGE"
  keys event ["operation", "resolution_outcome", "resolver_authority_id",
    "resolution_receipt_digest", "resolution_basis_code", "resolved_challenge_ids",
    "replacement_model_id"]
  let outcome ← requiredToken event.payload "resolution_outcome"
    "ALTERNATIVE_MODEL_RESOLUTION_OUTCOME_INVALID"
  check (outcome ∈ resolutionOutcomes) "ALTERNATIVE_MODEL_RESOLUTION_OUTCOME_INVALID"
  let _ ← requiredToken event.payload "resolver_authority_id" "ALTERNATIVE_MODEL_RESOLVER_INVALID"
  let _ ← requiredDigest D event.payload "resolution_receipt_digest"
    "ALTERNATIVE_MODEL_RESOLUTION_RECEIPT_INVALID"
  let _ ← requiredToken event.payload "resolution_basis_code"
    "ALTERNATIVE_MODEL_RESOLUTION_BASIS_INVALID"
  let resolvedIds ← requiredTokenTuple event.payload "resolved_challenge_ids"
    "ALTERNATIVE_MODEL_RESOLVED_CHALLENGES_INVALID" false
  check (∀ id ∈ resolvedIds, id ∈ previous.activeChallengeIds)
    "ALTERNATIVE_MODEL_RESOLUTION_CHALLENGE_UNKNOWN"
  check (event.payload.get "replacement_model_id" = .null)
    "ALTERNATIVE_MODEL_REPLACEMENT_UNEXPECTED"
  if outcome = "INVALIDATE" then
    advance previous event { separationStatus := some .rejected, activeChallenges := some [] }
  else
    advance previous event {
      activeChallenges := some
        (previous.activeChallenges.filter (fun item => item.challengeId ∉ resolvedIds)) }

def reject (previous : AlternativeModel D) (event : RegistryEvent D) :
    Except String (AlternativeModel D) := do
  check (previous.separationStatus = .proposed ∨ previous.separationStatus.challengeable = true)
    "ALTERNATIVE_MODEL_REJECT_TRANSITION_INVALID"
  keys event ["operation", "rejecting_authority_id", "reason_code"]
  let _ ← requiredToken event.payload "rejecting_authority_id" "ALTERNATIVE_MODEL_REJECTING_INVALID"
  let _ ← requiredToken event.payload "reason_code" "ALTERNATIVE_MODEL_REASON_CODE_INVALID"
  advance previous event { separationStatus := some .rejected, activeChallenges := some [] }

def expire (previous : AlternativeModel D) (event : RegistryEvent D) :
    Except String (AlternativeModel D) := do
  check (previous.separationStatus.challengeable = true)
    "ALTERNATIVE_MODEL_EXPIRE_TRANSITION_INVALID"
  keys event ["operation", "expiry_authority_id", "expiry_receipt_digest"]
  let _ ← requiredToken event.payload "expiry_authority_id"
    "ALTERNATIVE_MODEL_EXPIRY_AUTHORITY_INVALID"
  let _ ← requiredDigest D event.payload "expiry_receipt_digest"
    "ALTERNATIVE_MODEL_EXPIRY_RECEIPT_INVALID"
  match previous.expiresAtSequence with
  | none => throw "ALTERNATIVE_MODEL_EXPIRY_NOT_DECLARED"
  | some expires => check (expires ≤ event.clockSequence) "ALTERNATIVE_MODEL_EXPIRY_PREMATURE"
  advance previous event { separationStatus := some .expired, activeChallenges := some [] }

def supersede (previous : AlternativeModel D) (event : RegistryEvent D) :
    Except String (AlternativeModel D) := do
  check (previous.separationStatus = .proposed ∨ previous.separationStatus.challengeable = true)
    "ALTERNATIVE_MODEL_SUPERSEDE_TRANSITION_INVALID"
  keys event ["operation", "replacement_model_id", "superseding_authority_id",
    "supersession_receipt_digest", "reason_code"]
  let replacement ← requiredToken event.payload "replacement_model_id"
    "ALTERNATIVE_MODEL_REPLACEMENT_ID_INVALID"
  check (replacement ≠ previous.modelId) "ALTERNATIVE_MODEL_SELF_SUPERSESSION"
  let _ ← requiredToken event.payload "superseding_authority_id"
    "ALTERNATIVE_MODEL_SUPERSEDING_INVALID"
  let _ ← requiredDigest D event.payload "supersession_receipt_digest"
    "ALTERNATIVE_MODEL_SUPERSESSION_RECEIPT_INVALID"
  let _ ← requiredToken event.payload "reason_code" "ALTERNATIVE_MODEL_REASON_CODE_INVALID"
  advance previous event {
    separationStatus := some .superseded
    activeChallenges := some []
    supersededById := some replacement }

/-- The operation handlers of a model that has been proposed. -/
def operate (operation : String) (previous : AlternativeModel D) (event : RegistryEvent D) :
    Except String (AlternativeModel D) :=
  match operation with
  | "PROPOSE" => .error "ALTERNATIVE_MODEL_DUPLICATE_PROPOSAL"
  | "ADMIT" => admitModel previous event
  | "CONFIRM" => confirm previous event
  | "CHALLENGE" => challenge previous event
  | "RESOLVE_CHALLENGES" => resolveChallenges previous event
  | "REJECT" => reject previous event
  | "EXPIRE" => expire previous event
  | "SUPERSEDE" => supersede previous event
  | _ => .error "ALTERNATIVE_MODEL_OPERATION_UNSUPPORTED"

def reduceAlternativeModel (previous : Option (AlternativeModel D)) (event : RegistryEvent D) :
    Except String (AlternativeModel D) := do
  eventValue event
  let operation ← requiredToken event.payload "operation" "ALTERNATIVE_MODEL_OPERATION_INVALID"
  verifyChain previous event
  match previous with
  | none =>
      check (operation = "PROPOSE") "ALTERNATIVE_MODEL_FIRST_OPERATION_NOT_PROPOSE"
      propose event
  | some previous =>
      check (previous.terminal = false) "ALTERNATIVE_MODEL_TERMINAL_IDENTITY_REUSE"
      operate operation previous event

/-- The loop of `project_alternative_model_history`. -/
def projectFrom (state : Option (AlternativeModel D)) :
    List (RegistryEvent D) → Except String (Option (AlternativeModel D))
  | [] => .ok state
  | event :: events => do
      let next ← reduceAlternativeModel state event
      projectFrom (some next) events

def projectAlternativeModelHistory (events : List (RegistryEvent D)) :
    Except String (Option (AlternativeModel D)) :=
  projectFrom none events

end CsdFoundry.AlternativeModels

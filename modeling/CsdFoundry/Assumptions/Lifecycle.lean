import CsdFoundry.Registry.Payload

/-! The assumption lifecycle: one event applied to the projection of the events before it. -/
namespace CsdFoundry.Assumptions
open Registry
open Temporal (isToken)

inductive Standing where
  | proposed
  | admitted
  | confirmed
  | rejected
  | expired
  | superseded
  deriving DecidableEq

/-- `_TERMINAL_STANDINGS`. -/
def Standing.terminal : Standing → Bool
  | .rejected | .expired | .superseded => true
  | .proposed | .admitted | .confirmed => false

/-- `_ACTIVE_STANDINGS`. -/
def Standing.active : Standing → Bool
  | .admitted | .confirmed => true
  | .proposed | .rejected | .expired | .superseded => false

structure AssumptionChallenge (D : Type) where
  challengeId : String
  challengerAuthorityId : String
  reasonCode : String
  challengeReceiptDigest : String
  openedAtSequence : Nat
  openingEventDigest : D
  deriving DecidableEq

structure Assumption (D : Type) where
  assumptionId : String
  propositionId : String
  scopeIds : List String
  materiality : String
  proposerAuthorityId : String
  admittingAuthorityId : Option String
  confirmingAuthorityId : Option String
  proposedAtSequence : Nat
  validFromSequence : Nat
  expiresAtSequence : Option Nat
  assumptionDependencyIds : List String
  evidenceDependencyIds : List String
  limitations : List String
  maximumReuseClass : String
  standing : Standing
  activeChallenges : List (AssumptionChallenge D)
  supersededById : Option String
  proposalSourceReceiptDigest : String
  currentSourceReceiptDigest : String
  currentEventDigest : D
  currentEntitySequence : Nat
  lastClockSequence : Nat
  deriving DecidableEq

def materialities : List String := ["ADVISORY", "MATERIAL", "CRITICAL"]

def reuseClasses : List String := ["D0", "D1", "D2", "D3", "BENCHMARK"]

def resolutionOutcomes : List String := ["RETURN_TO_ADMITTED", "CONFIRM", "REJECT", "SUPERSEDE"]

def payloadSchemaVersion : String := "assumption-event/1"

namespace Assumption
variable {D : Type}

def terminal (a : Assumption D) : Bool := a.standing.terminal

def activeChallengeIds (a : Assumption D) : List String := a.activeChallenges.map (·.challengeId)

/-- `sorted(..., key=challenge_id)`. -/
def byChallengeId (challenges : List (AssumptionChallenge D)) : List (AssumptionChallenge D) :=
  challenges.insertionSort (fun a b => a.challengeId ≤ b.challengeId)

/-- `AssumptionChallenge.__post_init__`, less the type of the event digest. -/
def checkChallenge [DigestText D] (c : AssumptionChallenge D) : Except String Unit := do
  check (isToken c.challengeId = true) "ASSUMPTION_CHALLENGE_ID_INVALID"
  check (isToken c.challengerAuthorityId = true) "ASSUMPTION_CHALLENGER_AUTHORITY_INVALID"
  check (isToken c.reasonCode = true) "ASSUMPTION_CHALLENGE_REASON_INVALID"
  check (DigestText.isDigest D c.challengeReceiptDigest = true)
    "ASSUMPTION_CHALLENGE_RECEIPT_INVALID"
  check (1 ≤ c.openedAtSequence) "ASSUMPTION_CHALLENGE_SEQUENCE_INVALID"

def optionalToken (value : Option String) (code : String) : Except String Unit :=
  check (∀ token ∈ value, isToken token = true) code

def checkExpiry (a : Assumption D) : Except String Unit :=
  match a.expiresAtSequence with
  | none => .ok ()
  | some expires =>
      check (a.validFromSequence < expires) "ASSUMPTION_EXPIRY_NOT_AFTER_VALID_FROM"

def checkChallenges [DecidableEq D] (a : Assumption D) : Except String Unit := do
  check (a.activeChallenges = byChallengeId a.activeChallenges)
    "ASSUMPTION_CHALLENGES_NOT_CANONICAL"
  check a.activeChallengeIds.Nodup "ASSUMPTION_CHALLENGE_ID_DUPLICATE"
  check (a.activeChallenges = [] ∨ a.standing.active = true) "ASSUMPTION_CHALLENGE_STANDING_INVALID"

def checkSupersession (a : Assumption D) : Except String Unit :=
  if a.standing = .superseded then
    match a.supersededById with
    | none => .error "ASSUMPTION_REPLACEMENT_ID_REQUIRED"
    | some replacement => do
        check (isToken replacement = true) "ASSUMPTION_REPLACEMENT_ID_INVALID"
        check (replacement ≠ a.assumptionId) "ASSUMPTION_SELF_SUPERSESSION"
  else check (a.supersededById = none) "ASSUMPTION_REPLACEMENT_ID_UNEXPECTED"

/-- `Assumption.__post_init__`, which also runs in `replace`. -/
def postInit [DecidableEq D] [DigestText D] (a : Assumption D) : Except String Unit := do
  check (isToken a.assumptionId = true) "ASSUMPTION_ID_INVALID"
  check (isToken a.propositionId = true) "ASSUMPTION_PROPOSITION_INVALID"
  requireSortedTokens a.scopeIds "ASSUMPTION_SCOPE_INVALID" false
  check (a.materiality ∈ materialities) "ASSUMPTION_MATERIALITY_INVALID"
  check (isToken a.proposerAuthorityId = true) "ASSUMPTION_PROPOSER_AUTHORITY_INVALID"
  optionalToken a.admittingAuthorityId "ASSUMPTION_ADMITTING_AUTHORITY_INVALID"
  optionalToken a.confirmingAuthorityId "ASSUMPTION_CONFIRMING_AUTHORITY_INVALID"
  check (1 ≤ a.proposedAtSequence) "ASSUMPTION_PROPOSED_SEQUENCE_INVALID"
  check (a.proposedAtSequence ≤ a.validFromSequence) "ASSUMPTION_VALIDITY_PRECEDES_PROPOSAL"
  checkExpiry a
  requireSortedTokens a.assumptionDependencyIds "ASSUMPTION_DEPENDENCIES_INVALID" true
  requireSortedTokens a.evidenceDependencyIds "ASSUMPTION_EVIDENCE_DEPENDENCIES_INVALID" true
  check (a.assumptionId ∉ a.assumptionDependencyIds) "ASSUMPTION_SELF_DEPENDENCY"
  requireSortedTokens a.limitations "ASSUMPTION_LIMITATIONS_INVALID" true
  check (a.maximumReuseClass ∈ reuseClasses) "ASSUMPTION_REUSE_CLASS_INVALID"
  checkChallenges a
  checkSupersession a
  check (DigestText.isDigest D a.proposalSourceReceiptDigest = true)
    "ASSUMPTION_PROPOSAL_RECEIPT_INVALID"
  check (DigestText.isDigest D a.currentSourceReceiptDigest = true)
    "ASSUMPTION_CURRENT_RECEIPT_INVALID"
  check (1 ≤ a.currentEntitySequence) "ASSUMPTION_ENTITY_SEQUENCE_INVALID"
  check (1 ≤ a.lastClockSequence) "ASSUMPTION_CLOCK_SEQUENCE_INVALID"

/-- `Assumption(...)`. -/
def create [DecidableEq D] [DigestText D] (a : Assumption D) : Except String (Assumption D) := do
  postInit a
  .ok a

end Assumption

variable {D : Type} [DecidableEq D] [DigestText D] [Sha256 D]

/-- `_event_value`. -/
def eventValue (event : RegistryEvent D) : Except String Unit := do
  check (event.registryType = .assumption) "ASSUMPTION_REGISTRY_TYPE_INVALID"
  check (event.projectionPhase = .assumptionRegistry) "ASSUMPTION_PROJECTION_PHASE_INVALID"
  check (event.payloadSchemaVersion = payloadSchemaVersion) "ASSUMPTION_PAYLOAD_VERSION_INVALID"

def verifyChain (previous : Option (Assumption D)) (event : RegistryEvent D) :
    Except String Unit :=
  match previous with
  | none =>
      check (event.entitySequence = 1 ∧ event.previousEntityEventDigest = none)
        "ASSUMPTION_GENESIS_LINK_INVALID"
  | some previous => do
      check (event.entityId = previous.assumptionId) "ASSUMPTION_IDENTITY_CHANGED"
      check (event.entitySequence = previous.currentEntitySequence + 1)
        "ASSUMPTION_ENTITY_SEQUENCE_NOT_SUCCESSOR"
      check (event.previousEntityEventDigest = some previous.currentEventDigest)
        "ASSUMPTION_PREDECESSOR_MISMATCH"
      check (previous.lastClockSequence < event.clockSequence) "ASSUMPTION_CLOCK_NOT_ADVANCING"
      check (event.digest ≠ previous.currentEventDigest) "ASSUMPTION_EVENT_IDENTITY_REUSED"

def keys (event : RegistryEvent D) (expected : List String) : Except String Unit :=
  requireExactKeys event.payload expected "ASSUMPTION_PAYLOAD_KEYS_INVALID"

def requiredReuseClass (payload : JsonObject) : Except String String :=
  match payload.get "maximum_reuse_class" with
  | .str value =>
      if value ∈ reuseClasses then .ok value else .error "ASSUMPTION_REUSE_CLASS_INVALID"
  | _ => .error "ASSUMPTION_REUSE_CLASS_INVALID"

def propose (event : RegistryEvent D) : Except String (Assumption D) := do
  keys event ["operation", "proposition_id", "scope_ids", "materiality", "proposer_authority_id",
    "proposed_at_sequence", "valid_from_sequence", "expires_at_sequence",
    "assumption_dependency_ids", "evidence_dependency_ids", "limitations", "maximum_reuse_class"]
  let proposedAtSequence ← requiredPositiveInt event.payload "proposed_at_sequence"
    "ASSUMPTION_PROPOSED_SEQUENCE_INVALID"
  check (proposedAtSequence = event.clockSequence) "ASSUMPTION_PROPOSAL_CLOCK_MISMATCH"
  let materiality ← requiredToken event.payload "materiality" "ASSUMPTION_MATERIALITY_INVALID"
  check (materiality ∈ materialities) "ASSUMPTION_MATERIALITY_INVALID"
  let propositionId ← requiredToken event.payload "proposition_id" "ASSUMPTION_PROPOSITION_INVALID"
  let scopeIds ← requiredTokenTuple event.payload "scope_ids" "ASSUMPTION_SCOPE_INVALID" false
  let proposerAuthorityId ← requiredToken event.payload "proposer_authority_id"
    "ASSUMPTION_PROPOSER_AUTHORITY_INVALID"
  let validFromSequence ← requiredPositiveInt event.payload "valid_from_sequence"
    "ASSUMPTION_VALID_FROM_SEQUENCE_INVALID"
  let expiresAtSequence ← optionalPositiveInt event.payload "expires_at_sequence"
    "ASSUMPTION_EXPIRY_SEQUENCE_INVALID"
  let assumptionDependencyIds ← requiredTokenTuple event.payload "assumption_dependency_ids"
    "ASSUMPTION_DEPENDENCIES_INVALID" true
  let evidenceDependencyIds ← requiredTokenTuple event.payload "evidence_dependency_ids"
    "ASSUMPTION_EVIDENCE_DEPENDENCIES_INVALID" true
  let limitations ← requiredTokenTuple event.payload "limitations"
    "ASSUMPTION_LIMITATIONS_INVALID" true
  let maximumReuseClass ← requiredReuseClass event.payload
  Assumption.create {
    assumptionId := event.entityId
    propositionId := propositionId
    scopeIds := scopeIds
    materiality := materiality
    proposerAuthorityId := proposerAuthorityId
    admittingAuthorityId := none
    confirmingAuthorityId := none
    proposedAtSequence := proposedAtSequence
    validFromSequence := validFromSequence
    expiresAtSequence := expiresAtSequence
    assumptionDependencyIds := assumptionDependencyIds
    evidenceDependencyIds := evidenceDependencyIds
    limitations := limitations
    maximumReuseClass := maximumReuseClass
    standing := .proposed
    activeChallenges := []
    supersededById := none
    proposalSourceReceiptDigest := event.sourceReceiptDigest
    currentSourceReceiptDigest := event.sourceReceiptDigest
    currentEventDigest := event.digest
    currentEntitySequence := event.entitySequence
    lastClockSequence := event.clockSequence }

/-- What an operation replaces. A field that is `none` keeps its value, but for the
replacement id, which `_advance` always sets. -/
structure Change (D : Type) where
  standing : Option Standing := none
  admittingAuthorityId : Option String := none
  confirmingAuthorityId : Option String := none
  activeChallenges : Option (List (AssumptionChallenge D)) := none
  supersededById : Option String := none

/-- The record that `_advance` builds. -/
def advanced (previous : Assumption D) (event : RegistryEvent D) (change : Change D) :
    Assumption D :=
  { previous with
    standing := change.standing.getD previous.standing
    admittingAuthorityId := change.admittingAuthorityId.or previous.admittingAuthorityId
    confirmingAuthorityId := change.confirmingAuthorityId.or previous.confirmingAuthorityId
    activeChallenges := change.activeChallenges.getD previous.activeChallenges
    supersededById := change.supersededById
    currentSourceReceiptDigest := event.sourceReceiptDigest
    currentEventDigest := event.digest
    currentEntitySequence := event.entitySequence
    lastClockSequence := event.clockSequence }

def advance (previous : Assumption D) (event : RegistryEvent D) (change : Change D) :
    Except String (Assumption D) :=
  Assumption.create (advanced previous event change)

def admitAssumption (previous : Assumption D) (event : RegistryEvent D) : Except String (Assumption D) := do
  check (previous.standing = .proposed) "ASSUMPTION_ADMIT_TRANSITION_INVALID"
  keys event ["operation", "admitting_authority_id", "admission_receipt_digest"]
  let authority ← requiredToken event.payload "admitting_authority_id"
    "ASSUMPTION_ADMITTING_AUTHORITY_INVALID"
  let _ ← requiredDigest D event.payload "admission_receipt_digest"
    "ASSUMPTION_ADMISSION_RECEIPT_INVALID"
  advance previous event { standing := some .admitted, admittingAuthorityId := some authority }

def confirm (previous : Assumption D) (event : RegistryEvent D) :
    Except String (Assumption D) := do
  check (previous.standing = .admitted) "ASSUMPTION_CONFIRM_TRANSITION_INVALID"
  check (previous.activeChallenges = []) "ASSUMPTION_CONFIRM_WITH_ACTIVE_CHALLENGES"
  keys event ["operation", "confirming_authority_id", "confirmation_receipt_digest"]
  let authority ← requiredToken event.payload "confirming_authority_id"
    "ASSUMPTION_CONFIRMING_AUTHORITY_INVALID"
  let _ ← requiredDigest D event.payload "confirmation_receipt_digest"
    "ASSUMPTION_CONFIRMATION_RECEIPT_INVALID"
  advance previous event { standing := some .confirmed, confirmingAuthorityId := some authority }

def challenge (previous : Assumption D) (event : RegistryEvent D) :
    Except String (Assumption D) := do
  check (previous.standing.active = true) "ASSUMPTION_CHALLENGE_TRANSITION_INVALID"
  keys event ["operation", "challenge_id", "challenger_authority_id", "challenge_reason_code",
    "challenge_receipt_digest"]
  let challengeId ← requiredToken event.payload "challenge_id" "ASSUMPTION_CHALLENGE_ID_INVALID"
  check (challengeId ∉ previous.activeChallengeIds) "ASSUMPTION_CHALLENGE_ID_REUSED"
  let challengerAuthorityId ← requiredToken event.payload "challenger_authority_id"
    "ASSUMPTION_CHALLENGER_AUTHORITY_INVALID"
  let reasonCode ← requiredToken event.payload "challenge_reason_code"
    "ASSUMPTION_CHALLENGE_REASON_INVALID"
  let challengeReceiptDigest ← requiredDigest D event.payload "challenge_receipt_digest"
    "ASSUMPTION_CHALLENGE_RECEIPT_INVALID"
  let opened : AssumptionChallenge D := {
    challengeId := challengeId
    challengerAuthorityId := challengerAuthorityId
    reasonCode := reasonCode
    challengeReceiptDigest := challengeReceiptDigest
    openedAtSequence := event.clockSequence
    openingEventDigest := event.digest }
  Assumption.checkChallenge opened
  advance previous event
    { activeChallenges := some (Assumption.byChallengeId (previous.activeChallenges ++ [opened])) }

/-- The replacement that a resolution names, by its outcome. -/
def resolutionReplacement (previous : Assumption D) (event : RegistryEvent D) (outcome : String) :
    Except String (Option String) := do
  if outcome = "SUPERSEDE" then
    let replacement ← requireToken "ASSUMPTION_REPLACEMENT_ID_INVALID"
      (event.payload.get "replacement_assumption_id")
    check (replacement ≠ previous.assumptionId) "ASSUMPTION_SELF_SUPERSESSION"
    return some replacement
  else
    check (event.payload.get "replacement_assumption_id" = .null)
      "ASSUMPTION_REPLACEMENT_ID_UNEXPECTED"
    return none

def resolutionStanding (outcome : String) : Standing :=
  if outcome = "RETURN_TO_ADMITTED" then .admitted
  else if outcome = "CONFIRM" then .confirmed
  else if outcome = "REJECT" then .rejected
  else .superseded

def resolveChallenges (previous : Assumption D) (event : RegistryEvent D) :
    Except String (Assumption D) := do
  check (previous.standing.active = true) "ASSUMPTION_RESOLUTION_TRANSITION_INVALID"
  check (previous.activeChallenges ≠ []) "ASSUMPTION_RESOLUTION_WITHOUT_ACTIVE_CHALLENGE"
  keys event ["operation", "resolution_outcome", "resolver_authority_id",
    "resolution_receipt_digest", "resolution_basis_code", "resolved_challenge_ids",
    "replacement_assumption_id"]
  let outcome ← requiredToken event.payload "resolution_outcome"
    "ASSUMPTION_RESOLUTION_OUTCOME_INVALID"
  check (outcome ∈ resolutionOutcomes) "ASSUMPTION_RESOLUTION_OUTCOME_INVALID"
  let _ ← requiredToken event.payload "resolver_authority_id"
    "ASSUMPTION_RESOLVER_AUTHORITY_INVALID"
  let _ ← requiredDigest D event.payload "resolution_receipt_digest"
    "ASSUMPTION_RESOLUTION_RECEIPT_INVALID"
  let _ ← requiredToken event.payload "resolution_basis_code" "ASSUMPTION_RESOLUTION_BASIS_INVALID"
  let resolvedIds ← requiredTokenTuple event.payload "resolved_challenge_ids"
    "ASSUMPTION_RESOLVED_CHALLENGES_INVALID" false
  check (∀ id ∈ resolvedIds, id ∈ previous.activeChallengeIds)
    "ASSUMPTION_RESOLUTION_CHALLENGE_UNKNOWN"
  let replacement ← resolutionReplacement previous event outcome
  let remaining := previous.activeChallenges.filter (fun item => item.challengeId ∉ resolvedIds)
  let standing := resolutionStanding outcome
  advance previous event {
    standing := some standing
    activeChallenges := some (if standing.terminal = true then [] else remaining)
    supersededById := replacement }

def reject (previous : Assumption D) (event : RegistryEvent D) : Except String (Assumption D) := do
  check (previous.standing = .proposed ∨ previous.standing.active = true)
    "ASSUMPTION_REJECT_TRANSITION_INVALID"
  keys event ["operation", "rejecting_authority_id", "rejection_receipt_digest", "reason_code"]
  let _ ← requiredToken event.payload "rejecting_authority_id"
    "ASSUMPTION_REJECTING_AUTHORITY_INVALID"
  let _ ← requiredDigest D event.payload "rejection_receipt_digest"
    "ASSUMPTION_REJECTION_RECEIPT_INVALID"
  let _ ← requiredToken event.payload "reason_code" "ASSUMPTION_REASON_CODE_INVALID"
  advance previous event { standing := some .rejected, activeChallenges := some [] }

def expire (previous : Assumption D) (event : RegistryEvent D) : Except String (Assumption D) := do
  check (previous.standing.active = true) "ASSUMPTION_EXPIRE_TRANSITION_INVALID"
  keys event ["operation", "expiry_authority_id", "expiry_receipt_digest"]
  let _ ← requiredToken event.payload "expiry_authority_id" "ASSUMPTION_EXPIRY_AUTHORITY_INVALID"
  let _ ← requiredDigest D event.payload "expiry_receipt_digest"
    "ASSUMPTION_EXPIRY_RECEIPT_INVALID"
  match previous.expiresAtSequence with
  | none => throw "ASSUMPTION_EXPIRY_NOT_DECLARED"
  | some expires => check (expires ≤ event.clockSequence) "ASSUMPTION_EXPIRY_PREMATURE"
  advance previous event { standing := some .expired, activeChallenges := some [] }

def supersede (previous : Assumption D) (event : RegistryEvent D) :
    Except String (Assumption D) := do
  check (previous.standing = .proposed ∨ previous.standing.active = true)
    "ASSUMPTION_SUPERSEDE_TRANSITION_INVALID"
  keys event ["operation", "replacement_assumption_id", "superseding_authority_id",
    "supersession_receipt_digest", "reason_code"]
  let replacement ← requiredToken event.payload "replacement_assumption_id"
    "ASSUMPTION_REPLACEMENT_ID_INVALID"
  check (replacement ≠ previous.assumptionId) "ASSUMPTION_SELF_SUPERSESSION"
  let _ ← requiredToken event.payload "superseding_authority_id"
    "ASSUMPTION_SUPERSEDING_AUTHORITY_INVALID"
  let _ ← requiredDigest D event.payload "supersession_receipt_digest"
    "ASSUMPTION_SUPERSESSION_RECEIPT_INVALID"
  let _ ← requiredToken event.payload "reason_code" "ASSUMPTION_REASON_CODE_INVALID"
  advance previous event {
    standing := some .superseded
    activeChallenges := some []
    supersededById := some replacement }

/-- The operation handlers of an assumption that has been proposed. -/
def operate (operation : String) (previous : Assumption D) (event : RegistryEvent D) :
    Except String (Assumption D) :=
  match operation with
  | "PROPOSE" => .error "ASSUMPTION_DUPLICATE_PROPOSAL"
  | "ADMIT" => admitAssumption previous event
  | "CONFIRM" => confirm previous event
  | "CHALLENGE" => challenge previous event
  | "RESOLVE_CHALLENGES" => resolveChallenges previous event
  | "REJECT" => reject previous event
  | "EXPIRE" => expire previous event
  | "SUPERSEDE" => supersede previous event
  | _ => .error "ASSUMPTION_OPERATION_UNSUPPORTED"

def reduceAssumption (previous : Option (Assumption D)) (event : RegistryEvent D) :
    Except String (Assumption D) := do
  eventValue event
  let operation ← requiredToken event.payload "operation" "ASSUMPTION_OPERATION_INVALID"
  verifyChain previous event
  match previous with
  | none =>
      check (operation = "PROPOSE") "ASSUMPTION_FIRST_OPERATION_NOT_PROPOSE"
      propose event
  | some previous =>
      check (previous.terminal = false) "ASSUMPTION_TERMINAL_IDENTITY_REUSE"
      operate operation previous event

/-- The loop of `project_assumption_history`. -/
def projectFrom (state : Option (Assumption D)) :
    List (RegistryEvent D) → Except String (Option (Assumption D))
  | [] => .ok state
  | event :: events => do
      let next ← reduceAssumption state event
      projectFrom (some next) events

def projectAssumptionHistory (events : List (RegistryEvent D)) :
    Except String (Option (Assumption D)) :=
  projectFrom none events

end CsdFoundry.Assumptions

import CsdFoundry.Registry.Payload

/-! The lifecycle of an evidence unit: one event applied to the projection of the events before
it. -/
namespace CsdFoundry.Evidence
open Registry
open Temporal (isToken)

inductive EvidenceStatus where
  | registered
  | verified
  | challenged
  | expired
  | invalidated
  | rejected
  | superseded
  deriving DecidableEq

/-- `_TERMINAL_STATUSES`. -/
def EvidenceStatus.terminal : EvidenceStatus → Bool
  | .expired | .invalidated | .rejected | .superseded => true
  | .registered | .verified | .challenged => false

def EvidenceStatus.text : EvidenceStatus → String
  | .registered => "REGISTERED"
  | .verified => "VERIFIED"
  | .challenged => "CHALLENGED"
  | .expired => "EXPIRED"
  | .invalidated => "INVALIDATED"
  | .rejected => "REJECTED"
  | .superseded => "SUPERSEDED"

structure EvidenceUnit (D : Type) where
  evidenceId : String
  propositionId : String
  scopeIds : List String
  sourceId : String
  issuerAuthorityId : String
  verifierAuthorityId : Option String
  issuedAtSequence : Nat
  validFromSequence : Nat
  expiresAtSequence : Option Nat
  dependencyIds : List String
  limitations : List String
  maximumReuseClass : String
  status : EvidenceStatus
  activeChallengeDigest : Option String
  supersededById : Option String
  registrationSourceReceiptDigest : String
  currentSourceReceiptDigest : String
  currentEventDigest : D
  currentEntitySequence : Nat
  lastClockSequence : Nat
  deriving DecidableEq

def reuseClasses : List String := ["D0", "D1", "D2", "D3", "BENCHMARK"]

def payloadSchemaVersion : String := "evidence-unit-event/1"

namespace EvidenceUnit
variable {D : Type}

def terminal (unit : EvidenceUnit D) : Bool := unit.status.terminal

def checkExpiry (unit : EvidenceUnit D) : Except String Unit :=
  match unit.expiresAtSequence with
  | none => .ok ()
  | some expires => check (unit.validFromSequence < expires) "EVIDENCE_EXPIRY_NOT_AFTER_VALID_FROM"

def checkChallenge [DigestText D] (unit : EvidenceUnit D) : Except String Unit :=
  if unit.status = .challenged then
    check (∃ digest ∈ unit.activeChallengeDigest, DigestText.isDigest D digest = true)
      "EVIDENCE_CHALLENGE_DIGEST_INVALID"
  else check (unit.activeChallengeDigest = none) "EVIDENCE_CHALLENGE_DIGEST_UNEXPECTED"

def checkSupersession (unit : EvidenceUnit D) : Except String Unit :=
  if unit.status = .superseded then
    match unit.supersededById with
    | none => .error "EVIDENCE_REPLACEMENT_ID_REQUIRED"
    | some replacement => do
        check (isToken replacement = true) "EVIDENCE_REPLACEMENT_ID_INVALID"
        check (replacement ≠ unit.evidenceId) "EVIDENCE_SELF_SUPERSESSION"
  else check (unit.supersededById = none) "EVIDENCE_REPLACEMENT_ID_UNEXPECTED"

/-- `EvidenceUnit.__post_init__`, which also runs in `replace`. -/
def postInit [DigestText D] (unit : EvidenceUnit D) : Except String Unit := do
  check (isToken unit.evidenceId = true) "EVIDENCE_ID_INVALID"
  check (isToken unit.propositionId = true) "EVIDENCE_PROPOSITION_INVALID"
  check (isToken unit.sourceId = true) "EVIDENCE_SOURCE_INVALID"
  check (isToken unit.issuerAuthorityId = true) "EVIDENCE_ISSUER_AUTHORITY_INVALID"
  check (∀ token ∈ unit.verifierAuthorityId, isToken token = true)
    "EVIDENCE_VERIFIER_AUTHORITY_INVALID"
  requireSortedTokens unit.scopeIds "EVIDENCE_SCOPE_INVALID" false
  requireSortedTokens unit.dependencyIds "EVIDENCE_DEPENDENCIES_INVALID" true
  requireSortedTokens unit.limitations "EVIDENCE_LIMITATIONS_INVALID" true
  check (unit.evidenceId ∉ unit.dependencyIds) "EVIDENCE_SELF_DEPENDENCY"
  check (1 ≤ unit.issuedAtSequence) "EVIDENCE_ISSUED_SEQUENCE_INVALID"
  check (unit.issuedAtSequence ≤ unit.validFromSequence) "EVIDENCE_VALIDITY_PRECEDES_ISSUANCE"
  checkExpiry unit
  check (unit.maximumReuseClass ∈ reuseClasses) "EVIDENCE_REUSE_CLASS_INVALID"
  checkChallenge unit
  checkSupersession unit
  check (DigestText.isDigest D unit.registrationSourceReceiptDigest = true)
    "EVIDENCE_REGISTRATION_RECEIPT_INVALID"
  check (DigestText.isDigest D unit.currentSourceReceiptDigest = true)
    "EVIDENCE_CURRENT_RECEIPT_INVALID"
  check (1 ≤ unit.currentEntitySequence) "EVIDENCE_ENTITY_SEQUENCE_INVALID"
  check (1 ≤ unit.lastClockSequence) "EVIDENCE_CLOCK_SEQUENCE_INVALID"

/-- `EvidenceUnit(...)`. -/
def create [DigestText D] (unit : EvidenceUnit D) : Except String (EvidenceUnit D) := do
  postInit unit
  .ok unit

end EvidenceUnit

variable {D : Type} [DecidableEq D] [DigestText D] [Sha256 D]

/-- `_event_value`. -/
def eventValue (event : RegistryEvent D) : Except String Unit := do
  check (event.registryType = .evidenceUnit) "EVIDENCE_REGISTRY_TYPE_INVALID"
  check (event.projectionPhase = .evidenceRegistry) "EVIDENCE_PROJECTION_PHASE_INVALID"
  check (event.payloadSchemaVersion = payloadSchemaVersion) "EVIDENCE_PAYLOAD_VERSION_INVALID"

def verifyChain (previous : Option (EvidenceUnit D)) (event : RegistryEvent D) :
    Except String Unit :=
  match previous with
  | none =>
      check (event.entitySequence = 1 ∧ event.previousEntityEventDigest = none)
        "EVIDENCE_GENESIS_LINK_INVALID"
  | some previous => do
      check (event.entityId = previous.evidenceId) "EVIDENCE_IDENTITY_CHANGED"
      check (event.entitySequence = previous.currentEntitySequence + 1)
        "EVIDENCE_ENTITY_SEQUENCE_NOT_SUCCESSOR"
      check (event.previousEntityEventDigest = some previous.currentEventDigest)
        "EVIDENCE_PREDECESSOR_MISMATCH"
      check (previous.lastClockSequence < event.clockSequence) "EVIDENCE_CLOCK_NOT_ADVANCING"
      check (event.digest ≠ previous.currentEventDigest) "EVIDENCE_EVENT_IDENTITY_REUSED"

def keys (event : RegistryEvent D) (expected : List String) : Except String Unit :=
  requireExactKeys event.payload expected "EVIDENCE_PAYLOAD_KEYS_INVALID"

def requiredReuseClass (payload : JsonObject) : Except String String :=
  match payload.get "maximum_reuse_class" with
  | .str value => if value ∈ reuseClasses then .ok value else .error "EVIDENCE_REUSE_CLASS_INVALID"
  | _ => .error "EVIDENCE_REUSE_CLASS_INVALID"

def register (event : RegistryEvent D) : Except String (EvidenceUnit D) := do
  keys event ["operation", "proposition_id", "scope_ids", "source_id", "issuer_authority_id",
    "issued_at_sequence", "valid_from_sequence", "expires_at_sequence", "dependency_ids",
    "limitations", "maximum_reuse_class"]
  let issuedAtSequence ← requiredPositiveInt event.payload "issued_at_sequence"
    "EVIDENCE_ISSUED_SEQUENCE_INVALID"
  check (issuedAtSequence = event.clockSequence) "EVIDENCE_ISSUANCE_CLOCK_MISMATCH"
  let propositionId ← requiredToken event.payload "proposition_id" "EVIDENCE_PROPOSITION_INVALID"
  let scopeIds ← requiredTokenTuple event.payload "scope_ids" "EVIDENCE_SCOPE_INVALID" false
  let sourceId ← requiredToken event.payload "source_id" "EVIDENCE_SOURCE_INVALID"
  let issuerAuthorityId ← requiredToken event.payload "issuer_authority_id"
    "EVIDENCE_ISSUER_AUTHORITY_INVALID"
  let validFromSequence ← requiredPositiveInt event.payload "valid_from_sequence"
    "EVIDENCE_VALID_FROM_SEQUENCE_INVALID"
  let expiresAtSequence ← optionalPositiveInt event.payload "expires_at_sequence"
    "EVIDENCE_EXPIRY_SEQUENCE_INVALID"
  let dependencyIds ← requiredTokenTuple event.payload "dependency_ids"
    "EVIDENCE_DEPENDENCIES_INVALID" true
  let limitations ← requiredTokenTuple event.payload "limitations" "EVIDENCE_LIMITATIONS_INVALID" true
  let maximumReuseClass ← requiredReuseClass event.payload
  EvidenceUnit.create {
    evidenceId := event.entityId
    propositionId := propositionId
    scopeIds := scopeIds
    sourceId := sourceId
    issuerAuthorityId := issuerAuthorityId
    verifierAuthorityId := none
    issuedAtSequence := issuedAtSequence
    validFromSequence := validFromSequence
    expiresAtSequence := expiresAtSequence
    dependencyIds := dependencyIds
    limitations := limitations
    maximumReuseClass := maximumReuseClass
    status := .registered
    activeChallengeDigest := none
    supersededById := none
    registrationSourceReceiptDigest := event.sourceReceiptDigest
    currentSourceReceiptDigest := event.sourceReceiptDigest
    currentEventDigest := event.digest
    currentEntitySequence := event.entitySequence
    lastClockSequence := event.clockSequence }

/-- What an operation replaces. The verifier is kept when there is none. -/
structure Change where
  status : EvidenceStatus
  verifierAuthorityId : Option String := none
  activeChallengeDigest : Option String := none
  supersededById : Option String := none

/-- The record that `_advance` builds. -/
def advanced (previous : EvidenceUnit D) (event : RegistryEvent D) (change : Change) :
    EvidenceUnit D :=
  { previous with
    verifierAuthorityId := change.verifierAuthorityId.or previous.verifierAuthorityId
    status := change.status
    activeChallengeDigest := change.activeChallengeDigest
    supersededById := change.supersededById
    currentSourceReceiptDigest := event.sourceReceiptDigest
    currentEventDigest := event.digest
    currentEntitySequence := event.entitySequence
    lastClockSequence := event.clockSequence }

def advance (previous : EvidenceUnit D) (event : RegistryEvent D) (change : Change) :
    Except String (EvidenceUnit D) :=
  EvidenceUnit.create (advanced previous event change)

def verify (previous : EvidenceUnit D) (event : RegistryEvent D) : Except String (EvidenceUnit D) := do
  check (previous.status = .registered) "EVIDENCE_VERIFY_TRANSITION_INVALID"
  keys event ["operation", "verifier_authority_id"]
  let verifier ← requiredToken event.payload "verifier_authority_id"
    "EVIDENCE_VERIFIER_AUTHORITY_INVALID"
  advance previous event { status := .verified, verifierAuthorityId := some verifier }

def reject (previous : EvidenceUnit D) (event : RegistryEvent D) : Except String (EvidenceUnit D) := do
  check (previous.status = .registered) "EVIDENCE_REJECT_TRANSITION_INVALID"
  keys event ["operation", "rejecting_authority_id", "reason_code"]
  let _ ← requiredToken event.payload "rejecting_authority_id" "EVIDENCE_REJECTING_AUTHORITY_INVALID"
  let _ ← requiredToken event.payload "reason_code" "EVIDENCE_REASON_CODE_INVALID"
  advance previous event { status := .rejected }

def challenge (previous : EvidenceUnit D) (event : RegistryEvent D) :
    Except String (EvidenceUnit D) := do
  check (previous.status = .verified) "EVIDENCE_CHALLENGE_TRANSITION_INVALID"
  keys event ["operation", "challenger_authority_id", "challenge_reason_code",
    "challenge_receipt_digest"]
  let _ ← requiredToken event.payload "challenger_authority_id"
    "EVIDENCE_CHALLENGER_AUTHORITY_INVALID"
  let _ ← requiredToken event.payload "challenge_reason_code" "EVIDENCE_CHALLENGE_REASON_INVALID"
  let challengeDigest ← requiredDigest D event.payload "challenge_receipt_digest"
    "EVIDENCE_CHALLENGE_DIGEST_INVALID"
  advance previous event { status := .challenged, activeChallengeDigest := some challengeDigest }

def resolutionStatus (resolution : String) : Except String EvidenceStatus :=
  if resolution = "UPHOLD" then .ok .verified
  else if resolution = "INVALIDATE" then .ok .invalidated
  else .error "EVIDENCE_RESOLUTION_INVALID"

def resolveChallenge (previous : EvidenceUnit D) (event : RegistryEvent D) :
    Except String (EvidenceUnit D) := do
  check (previous.status = .challenged) "EVIDENCE_CHALLENGE_RESOLUTION_TRANSITION_INVALID"
  keys event ["operation", "resolution", "resolver_authority_id", "resolution_receipt_digest"]
  let _ ← requiredToken event.payload "resolver_authority_id" "EVIDENCE_RESOLVER_AUTHORITY_INVALID"
  let _ ← requiredDigest D event.payload "resolution_receipt_digest"
    "EVIDENCE_RESOLUTION_DIGEST_INVALID"
  let resolution ← requiredToken event.payload "resolution" "EVIDENCE_RESOLUTION_INVALID"
  let status ← resolutionStatus resolution
  advance previous event { status := status }

def expire (previous : EvidenceUnit D) (event : RegistryEvent D) : Except String (EvidenceUnit D) := do
  check (previous.status = .verified ∨ previous.status = .challenged)
    "EVIDENCE_EXPIRE_TRANSITION_INVALID"
  keys event ["operation", "expiry_authority_id"]
  let _ ← requiredToken event.payload "expiry_authority_id" "EVIDENCE_EXPIRY_AUTHORITY_INVALID"
  match previous.expiresAtSequence with
  | none => throw "EVIDENCE_EXPIRY_NOT_DECLARED"
  | some expires => check (expires ≤ event.clockSequence) "EVIDENCE_EXPIRY_PREMATURE"
  advance previous event { status := .expired }

def invalidate (previous : EvidenceUnit D) (event : RegistryEvent D) :
    Except String (EvidenceUnit D) := do
  check (previous.status = .verified ∨ previous.status = .challenged)
    "EVIDENCE_INVALIDATE_TRANSITION_INVALID"
  keys event ["operation", "invalidating_authority_id", "reason_code"]
  let _ ← requiredToken event.payload "invalidating_authority_id"
    "EVIDENCE_INVALIDATING_AUTHORITY_INVALID"
  let _ ← requiredToken event.payload "reason_code" "EVIDENCE_REASON_CODE_INVALID"
  advance previous event { status := .invalidated }

def supersede (previous : EvidenceUnit D) (event : RegistryEvent D) :
    Except String (EvidenceUnit D) := do
  check (previous.status = .verified ∨ previous.status = .challenged)
    "EVIDENCE_SUPERSEDE_TRANSITION_INVALID"
  keys event ["operation", "replacement_evidence_id", "superseding_authority_id", "reason_code"]
  let replacement ← requiredToken event.payload "replacement_evidence_id"
    "EVIDENCE_REPLACEMENT_ID_INVALID"
  check (replacement ≠ previous.evidenceId) "EVIDENCE_SELF_SUPERSESSION"
  let _ ← requiredToken event.payload "superseding_authority_id"
    "EVIDENCE_SUPERSEDING_AUTHORITY_INVALID"
  let _ ← requiredToken event.payload "reason_code" "EVIDENCE_REASON_CODE_INVALID"
  advance previous event { status := .superseded, supersededById := some replacement }

/-- The operation handlers of a registered unit. -/
def operate (operation : String) (previous : EvidenceUnit D) (event : RegistryEvent D) :
    Except String (EvidenceUnit D) :=
  match operation with
  | "REGISTER" => .error "EVIDENCE_DUPLICATE_REGISTRATION"
  | "VERIFY" => verify previous event
  | "REJECT" => reject previous event
  | "CHALLENGE" => challenge previous event
  | "RESOLVE_CHALLENGE" => resolveChallenge previous event
  | "EXPIRE" => expire previous event
  | "INVALIDATE" => invalidate previous event
  | "SUPERSEDE" => supersede previous event
  | _ => .error "EVIDENCE_OPERATION_UNSUPPORTED"

def reduceEvidence (previous : Option (EvidenceUnit D)) (event : RegistryEvent D) :
    Except String (EvidenceUnit D) := do
  eventValue event
  let operation ← requiredToken event.payload "operation" "EVIDENCE_OPERATION_INVALID"
  verifyChain previous event
  match previous with
  | none =>
      check (operation = "REGISTER") "EVIDENCE_FIRST_OPERATION_NOT_REGISTER"
      register event
  | some previous =>
      check (previous.terminal = false) "EVIDENCE_TERMINAL_IDENTITY_REUSE"
      operate operation previous event

/-- The loop of `project_evidence_history`. -/
def projectFrom (state : Option (EvidenceUnit D)) :
    List (RegistryEvent D) → Except String (Option (EvidenceUnit D))
  | [] => .ok state
  | event :: events => do
      let next ← reduceEvidence state event
      projectFrom (some next) events

def projectEvidenceHistory (events : List (RegistryEvent D)) :
    Except String (Option (EvidenceUnit D)) :=
  projectFrom none events

/-! ### What an accepted event does -/

variable {previous unit : EvidenceUnit D} {event : RegistryEvent D} {change : Change}

omit [DecidableEq D] [Sha256 D] in
theorem create_ok {made : EvidenceUnit D} (created : EvidenceUnit.create unit = .ok made) :
    made = unit := by
  unfold EvidenceUnit.create at created
  obtain ⟨-, -, same⟩ := except_bind_ok.mp created
  exact (Except.ok.inj same).symm

/-- The event challenges, and says why. -/
def Challenges (event : RegistryEvent D) : Prop :=
  event.payload.get "operation" = .str "CHALLENGE" ∧
    ∃ reason, event.payload.get "challenge_reason_code" = .str reason ∧ isToken reason = true

omit [DecidableEq D] in
/-- An advance keeps the identity and what was registered, and moves to the event. -/
structure Advances (previous : EvidenceUnit D) (event : RegistryEvent D) (unit : EvidenceUnit D) :
    Prop where
  evidenceId : unit.evidenceId = previous.evidenceId
  scopeIds : unit.scopeIds = previous.scopeIds
  currentEventDigest : unit.currentEventDigest = event.digest
  currentEntitySequence : unit.currentEntitySequence = event.entitySequence
  lastClockSequence : unit.lastClockSequence = event.clockSequence
  expiresAtSequence : unit.expiresAtSequence = previous.expiresAtSequence
  challenged : unit.status = .challenged → Challenges event

omit [DecidableEq D] in
theorem advance_ok (advances : advance previous event change = .ok unit)
    (challenged : change.status = .challenged → Challenges event) : Advances previous event unit := by
  obtain rfl := create_ok advances
  exact ⟨rfl, rfl, rfl, rfl, rfl, rfl, challenged⟩

omit [DecidableEq D] in
theorem verify_ok (done : verify previous event = .ok unit) : Advances previous event unit := by
  simp only [verify, except_bind_ok] at done
  obtain ⟨-, -, -, -, verifier, -, advances⟩ := done
  exact advance_ok advances nofun

omit [DecidableEq D] in
theorem reject_ok (done : reject previous event = .ok unit) : Advances previous event unit := by
  simp only [reject, except_bind_ok] at done
  obtain ⟨-, -, -, -, -, -, -, -, advances⟩ := done
  exact advance_ok advances nofun

omit [DecidableEq D] in
theorem challenge_ok (operation : event.payload.get "operation" = .str "CHALLENGE")
    (done : challenge previous event = .ok unit) : Advances previous event unit := by
  simp only [challenge, except_bind_ok] at done
  obtain ⟨-, -, -, -, -, -, reason, given, digest, -, advances⟩ := done
  exact advance_ok advances fun _ => ⟨operation, reason, requireToken_ok given⟩

omit [DecidableEq D] in
theorem resolveChallenge_ok (done : resolveChallenge previous event = .ok unit) :
    Advances previous event unit := by
  simp only [resolveChallenge, except_bind_ok] at done
  obtain ⟨-, -, -, -, -, -, -, -, resolution, -, status, resolved, advances⟩ := done
  refine advance_ok advances fun same => ?_
  change status = .challenged at same
  subst same
  unfold resolutionStatus at resolved
  split at resolved
  · cases resolved
  · split at resolved <;> cases resolved

omit [DecidableEq D] in
theorem expire_ok (done : expire previous event = .ok unit) : Advances previous event unit := by
  simp only [expire, except_bind_ok] at done
  obtain ⟨-, -, -, -, -, -, timed⟩ := done
  split at timed
  · cases timed
  · obtain ⟨-, -, advances⟩ := except_bind_ok.mp timed
    exact advance_ok advances nofun

omit [DecidableEq D] in
theorem invalidate_ok (done : invalidate previous event = .ok unit) : Advances previous event unit := by
  simp only [invalidate, except_bind_ok] at done
  obtain ⟨-, -, -, -, -, -, -, -, advances⟩ := done
  exact advance_ok advances nofun

omit [DecidableEq D] in
theorem supersede_ok (done : supersede previous event = .ok unit) : Advances previous event unit := by
  simp only [supersede, except_bind_ok] at done
  obtain ⟨-, -, -, -, replacement, -, -, -, -, -, -, -, advances⟩ := done
  exact advance_ok advances nofun

omit [DecidableEq D] in
theorem operate_ok {operation : String} (named : event.payload.get "operation" = .str operation)
    (done : operate operation previous event = .ok unit) : Advances previous event unit := by
  unfold operate at done
  split at done
  case h_1 => cases done
  case h_2 => exact verify_ok done
  case h_3 => exact reject_ok done
  case h_4 => exact challenge_ok named done
  case h_5 => exact resolveChallenge_ok done
  case h_6 => exact expire_ok done
  case h_7 => exact invalidate_ok done
  case h_8 => exact supersede_ok done
  case h_9 => cases done

/-- What a registration makes. -/
structure Registers (event : RegistryEvent D) (unit : EvidenceUnit D) : Prop where
  evidenceId : unit.evidenceId = event.entityId
  operation : event.payload.get "operation" = .str "REGISTER"
  scopes : requiredTokenTuple event.payload "scope_ids" "EVIDENCE_SCOPE_INVALID" false = .ok unit.scopeIds
  first : event.entitySequence = 1
  genesis : event.previousEntityEventDigest = none
  currentEventDigest : unit.currentEventDigest = event.digest
  currentEntitySequence : unit.currentEntitySequence = event.entitySequence
  lastClockSequence : unit.lastClockSequence = event.clockSequence
  status : unit.status = .registered

theorem reduceEvidence_none_ok (accepted : reduceEvidence none event = .ok unit) :
    Registers event unit := by
  simp only [reduceEvidence, except_bind_ok, check_ok] at accepted
  obtain ⟨-, -, name, operation, done, chained, -, rfl, registered⟩ := accepted
  simp only [verifyChain, check_ok] at chained
  simp only [register, except_bind_ok, check_ok] at registered
  obtain ⟨-, -, issued, -, -, -, proposition, -, scopes, given, source, -, issuer, -, validFrom, -,
    expires, -, dependencies, -, limitations, -, reuse, -, created⟩ := registered
  obtain rfl := create_ok created
  exact ⟨rfl, (requireToken_ok operation).1, given, chained.1, chained.2, rfl, rfl, rfl, rfl⟩

/-- An accepted event that follows another one. -/
structure Follows (previous : EvidenceUnit D) (event : RegistryEvent D) (unit : EvidenceUnit D) :
    Prop where
  advances : Advances previous event unit
  identity : event.entityId = previous.evidenceId
  successor : event.entitySequence = previous.currentEntitySequence + 1
  predecessor : event.previousEntityEventDigest = some previous.currentEventDigest
  clock : previous.lastClockSequence < event.clockSequence
  registered : event.payload.get "operation" ≠ .str "REGISTER"

theorem reduceEvidence_some_ok (accepted : reduceEvidence (some previous) event = .ok unit) :
    Follows previous event unit := by
  simp only [reduceEvidence, except_bind_ok, check_ok] at accepted
  obtain ⟨-, -, name, operation, done, chained, -, live, operated⟩ := accepted
  simp only [verifyChain, except_bind_ok, check_ok] at chained
  obtain ⟨-, identity, -, successor, -, predecessor, -, clock, -⟩ := chained
  have named := (requireToken_ok operation).1
  refine ⟨operate_ok named operated, identity, successor, predecessor, clock, fun registers => ?_⟩
  obtain rfl := Json.str.inj (named.symm.trans registers)
  cases operated

omit [DecidableEq D] [Sha256 D] in
theorem eventValue_type (checked : eventValue event = .ok ()) :
    event.registryType = .evidenceUnit := by
  simp only [eventValue, except_bind_ok, check_ok] at checked
  obtain ⟨-, typed, -⟩ := checked
  exact typed

end CsdFoundry.Evidence

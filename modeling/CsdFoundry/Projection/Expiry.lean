import CsdFoundry.Evidence.Authority
import CsdFoundry.Registry.Entities
import CsdFoundry.Results

/-! The expiry planners of the three registries. What they differ in is an `ExpiryPlanner`. -/
namespace CsdFoundry.Projection
open Registry Storage
open Evidence (EvidenceUnit EvidenceAuthorityPolicy EvidenceAuthorityDecision)
open Evidence.EvidenceAuthorityResolver (requireAuthority)
open Assumptions (Assumption)
open AlternativeModels (AlternativeModel)
open Policy (digestValue domainDigest)
open Temporal (isToken)

/-- The first word of the codes of a projection module. -/
def codeName : RegistryType → String
  | .evidenceUnit => "EVIDENCE"
  | .assumption => "ASSUMPTION"
  | .alternativeModel => "ALT_MODEL"

/-- The exceptions of the projection modules. -/
def fail (type : RegistryType) (name : String) : RegistryError :=
  .governed (codeName type ++ "_" ++ name) none

def payloadSchemaVersion : RegistryType → String
  | .evidenceUnit => Evidence.payloadSchemaVersion
  | .assumption => Assumptions.payloadSchemaVersion
  | .alternativeModel => AlternativeModels.payloadSchemaVersion

/-- `{"VERIFIED", "CHALLENGED"}` of evidence, and `_EXPIRABLE_STANDINGS`. -/
def expirable {D : Type} : {type : RegistryType} → State D type → Bool
  | .evidenceUnit, state => match EvidenceUnit.status state with
    | .verified | .challenged => true
    | .registered | .expired | .invalidated | .rejected | .superseded => false
  | .assumption, state => match Assumption.standing state with
    | .admitted | .confirmed => true
    | .proposed | .rejected | .expired | .superseded => false
  | .alternativeModel, state => match AlternativeModel.separationStatus state with
    | .unverified | .admitted | .confirmed => true
    | .proposed | .rejected | .expired | .superseded => false

variable {D : Type}

/-- The declared expiry sequence has come. -/
def Due {type : RegistryType} (state : State D type) (clockSequence : Nat) : Prop :=
  ∃ expires ∈ state.expiresAtSequence, expires ≤ clockSequence

instance {type : RegistryType} (state : State D type) (clockSequence : Nat) :
    Decidable (Due state clockSequence) :=
  match decided : state.expiresAtSequence with
  | none => .isFalse (by simp [Due, decided])
  | some expires => decidable_of_iff (expires ≤ clockSequence) (by simp [Due, decided])

/-- `_eligible_for_expiry`. -/
def eligibleForExpiry {type : RegistryType} (state : Option (State D type)) (clockSequence : Nat) :
    Bool :=
  match state with
  | none => false
  | some state => expirable state && (state.lastClockSequence < clockSequence : Bool) &&
      (Due state clockSequence : Bool)

variable [LinearOrder D] [DigestText D] [Sha256 D]

/-- The reads that the planners and the adapters make of a registry store. -/
structure CommittedStore (D : Type) [LinearOrder D] [DigestText D] [Sha256 D] where
  snapshot : RegistryM D (RegistrySnapshot D)
  reconstructSnapshot : RegistryM D (List (List (RegistryEvent D)))

/-- A registry in its own store. -/
def live (type : RegistryType) : CommittedStore D := ⟨snapshot type, reconstructSnapshot type⟩

/-- `authorize` gives the payload of the EXPIRE event, or declines. `policy` is what the plan
says of the authority policy. -/
structure ExpiryPlanner (D : Type) [DigestText D] (type : RegistryType) (Decision : Type) where
  expiryAuthorityId : String
  policy : JsonObject
  authorize : State D type → Nat → Except RegistryError (Option JsonObject)
  require : RegistryEvent D → Option (State D type) → Except RegistryError Decision

/-- The events are listed by entity, each once. -/
structure ExpiryPlan (D : Type) [DigestText D] (type : RegistryType) where
  clockSequence : Nat
  predecessorRootDigest : D
  policy : JsonObject
  expiryAuthorityId : String
  sourceReceiptDigest : String
  events : List (RegistryEvent D)
  ordered : events.Pairwise (fun a b => a.entityId < b.entityId)

namespace ExpiryPlan
variable {type : RegistryType} (plan : ExpiryPlan D type)

def planDomain : RegistryType → String
  | .evidenceUnit => "EVIDENCE_EXPIRY_PLAN"
  | .assumption => "ASSUMPTION_EXPIRY_PLAN"
  | .alternativeModel => "ALTERNATIVE_MODEL_EXPIRY_PLAN"

def schemaVersion : RegistryType → String
  | .evidenceUnit => "evidence-expiry-plan/1"
  | .assumption => "assumption-expiry-plan/1"
  | .alternativeModel => "alternative-model-expiry-plan/1"

def planDigest : D :=
  domainDigest (planDomain type) (.obj (plan.policy ++ [("clock_sequence", .int plan.clockSequence),
    ("event_digests", .arr (plan.events.map fun event => digestValue event.digest)),
    ("expiry_authority_id", .str plan.expiryAuthorityId),
    ("predecessor_root_digest", digestValue plan.predecessorRootDigest),
    ("schema_version", .str (schemaVersion type)),
    ("source_receipt_digest", .str plan.sourceReceiptDigest)]))

omit [LinearOrder D] [Sha256 D] in
/-- `build`, whose `__post_init__` may raise. -/
def build (type : RegistryType) (clockSequence : Nat) (predecessorRootDigest : D)
    (policy : JsonObject) (expiryAuthorityId sourceReceiptDigest : String)
    (events : List (RegistryEvent D)) : Except RegistryError (ExpiryPlan D type) :=
  if isToken expiryAuthorityId = true then
    if ordered : events.Pairwise (fun a b => a.entityId < b.entityId) then
      .ok ⟨clockSequence, predecessorRootDigest, policy, expiryAuthorityId, sourceReceiptDigest,
        events, ordered⟩
    else .error (fail type "EXPIRY_EVENT_ORDER_INVALID")
  else .error (fail type "EXPIRY_AUTHORITY_INVALID")

end ExpiryPlan

/-- `_event_entity_id`. -/
def eventEntityId (type : RegistryType) (event : RegistryEvent D) : Except RegistryError String :=
  if isToken event.entityId = true then .ok event.entityId
  else .error (fail type "PROJECTION_EVENT_ID_INVALID")

namespace ExpiryPlanner
variable {type : RegistryType} {Decision : Type} (planner : ExpiryPlanner D type Decision)

/-- The EXPIRE event of one entity, unless the authority declines. -/
def expiryEvent (state : State D type) (clockSequence : Nat) (sourceReceiptDigest : String) :
    Except RegistryError (Option (RegistryEvent D)) := do
  match ← planner.authorize state clockSequence with
  | none => .ok none
  | some payload => do
      let event ← RegistryEvent.build type state.entityId (state.currentEntitySequence + 1)
        (some state.currentEventDigest) clockSequence sourceReceiptDigest (payloadSchemaVersion type)
        payload
      let _ ← planner.require event (some state)
      let _ ← (reduce type (some state) event).mapError .entity
      .ok (some event)

def planEntity (history : List (RegistryEvent D)) (clockSequence : Nat)
    (sourceReceiptDigest : String) : Except RegistryError (Option (RegistryEvent D)) := do
  let state ← (project type history).mapError .entity
  match state with
  | none => .ok none
  | some state =>
      if eligibleForExpiry (some state) clockSequence = true then
        planner.expiryEvent state clockSequence sourceReceiptDigest
      else .ok none

/-- The loop over the histories. -/
def planEvents (clockSequence : Nat) (sourceReceiptDigest : String) :
    List (List (RegistryEvent D)) → Except RegistryError (List (RegistryEvent D))
  | [] => .ok []
  | history :: histories => do
      let planned ← planner.planEntity history clockSequence sourceReceiptDigest
      let rest ← planEvents clockSequence sourceReceiptDigest histories
      .ok (planned.toList ++ rest)

def byEntityId (events : List (RegistryEvent D)) : List (RegistryEvent D) :=
  events.insertionSort (fun a b => a.entityId ≤ b.entityId)

def plan (store : CommittedStore D) (clockSequence : Nat) (sourceReceiptDigest : String) :
    RegistryM D (ExpiryPlan D type) := do
  .require (DigestText.isDigest D sourceReceiptDigest = true) (fail type "EXPIRY_SOURCE_INVALID")
  let predecessorRoot := (← store.snapshot).rootDigest
  let histories ← store.reconstructSnapshot
  let planned ← lift (planner.planEvents clockSequence sourceReceiptDigest histories)
  let _ ← lift (Results.collect (planned.map (eventEntityId type)))
  lift (ExpiryPlan.build type clockSequence predecessorRoot planner.policy planner.expiryAuthorityId
    sourceReceiptDigest (byEntityId planned))

end ExpiryPlanner

/-! ### The three planners -/

/-- `AssumptionExpiryAuthorization` and `AlternativeModelExpiryAuthorization`. -/
structure ExpiryAuthorization (D : Type) where
  entityId : String
  clockSequence : Nat
  expiryAuthorityId : String
  expiryReceiptDigest : D
  named : isToken entityId = true
  positive : 1 ≤ clockSequence
  authority : isToken expiryAuthorityId = true

/-- An expiry authority, which may decline. -/
structure ExpiryAuthority (D : Type) where
  expiryAuthorityId : String
  expiryAuthorization : String → Nat → Except RegistryError (Option (ExpiryAuthorization D))

omit [LinearOrder D] [Sha256 D] in
/-- The payload of an EXPIRE event is taken from an authorization of exactly this expiry. -/
def ExpiryAuthority.authorize (authority : ExpiryAuthority D) (type : RegistryType)
    (mismatch : String) (entityId : String) (clockSequence : Nat) :
    Except RegistryError (Option JsonObject) := do
  match ← authority.expiryAuthorization entityId clockSequence with
  | none => .ok none
  | some authorization =>
      if authorization.entityId ≠ entityId then .error (fail type mismatch)
      else if authorization.clockSequence ≠ clockSequence then
        .error (fail type "EXPIRY_AUTH_CLOCK_MISMATCH")
      else if authorization.expiryAuthorityId ≠ authority.expiryAuthorityId then
        .error (fail type "EXPIRY_AUTH_AUTHORITY_MISMATCH")
      else .ok (some [("expiry_authority_id", .str authorization.expiryAuthorityId),
        ("expiry_receipt_digest", digestValue authorization.expiryReceiptDigest),
        ("operation", .str "EXPIRE")])

/-- `EvidenceExpiryPlanner`: the authority policy permits the expiry, or the planner raises. -/
def evidenceExpiryPlanner (policy : EvidenceAuthorityPolicy D) (expiryAuthorityId : String) :
    ExpiryPlanner D .evidenceUnit (EvidenceAuthorityDecision D) where
  expiryAuthorityId := expiryAuthorityId
  policy := [("authority_policy_digest", digestValue policy.policyDigest)]
  authorize _ _ := .ok (some [("expiry_authority_id", .str expiryAuthorityId),
    ("operation", .str "EXPIRE")])
  require event previous := requireAuthority policy event previous

def assumptionExpiryPlanner (authority : ExpiryAuthority D) : ExpiryPlanner D .assumption Unit where
  expiryAuthorityId := authority.expiryAuthorityId
  policy := [("authority_policy_digest", .null)]
  authorize state clockSequence :=
    authority.authorize .assumption "EXPIRY_AUTH_ASSUMPTION_MISMATCH" state.entityId clockSequence
  require _ _ := .ok ()

def alternativeModelExpiryPlanner (authority : ExpiryAuthority D) :
    ExpiryPlanner D .alternativeModel Unit where
  expiryAuthorityId := authority.expiryAuthorityId
  policy := []
  authorize state clockSequence :=
    authority.authorize .alternativeModel "EXPIRY_AUTH_MODEL_MISMATCH" state.entityId clockSequence
  require _ _ := .ok ()

end CsdFoundry.Projection

import Mathlib.Data.Prod.Lex
import Mathlib.Data.List.Lex
import CsdFoundry.Evidence.Lifecycle
import CsdFoundry.Policy.Values

/-! Who may make an evidence event: a committed policy of grants, and the decision about one
event under it. -/
namespace CsdFoundry.Evidence
open Registry
open Policy (texts digestValue domainDigest)

/-- One grant of an operation; no scopes stand for all scopes. -/
structure EvidenceAuthorityGrant where
  operation : String
  authorityId : String
  scopeIds : List String
  deriving DecidableEq

namespace EvidenceAuthorityGrant

/-- The order of the dataclass. -/
def key (grant : EvidenceAuthorityGrant) : String ×ₗ String ×ₗ List String :=
  toLex (grant.operation, toLex (grant.authorityId, grant.scopeIds))

def toJsonValue (grant : EvidenceAuthorityGrant) : Json :=
  .obj [("authority_id", .str grant.authorityId), ("operation", .str grant.operation),
    ("scope_ids", texts grant.scopeIds)]

end EvidenceAuthorityGrant

structure EvidenceAuthorityPolicy (D : Type) where
  policyId : String
  committedAtSequence : Nat
  authorityRootDigest : D
  grants : List EvidenceAuthorityGrant
  canonical : grants.Pairwise (fun a b => a.key < b.key)
  nonempty : grants ≠ []

namespace EvidenceAuthorityPolicy
variable {D : Type} (policy : EvidenceAuthorityPolicy D)

def policyDigest [DigestText D] [Sha256 D] : D :=
  domainDigest "EVIDENCE_AUTHORITY_POLICY" (.obj [
    ("authority_root_digest", digestValue policy.authorityRootDigest),
    ("committed_at_sequence", .int policy.committedAtSequence),
    ("grants", .arr (policy.grants.map (·.toJsonValue))), ("policy_id", .str policy.policyId),
    ("schema_version", .str "evidence-authority-policy/1")])

def permits (operation authorityId : String) (scopeIds : List String) : Bool :=
  policy.grants.any fun grant => grant.operation = operation ∧ grant.authorityId = authorityId ∧
    (grant.scopeIds = [] ∨ ∀ scope ∈ scopeIds, scope ∈ grant.scopeIds)

end EvidenceAuthorityPolicy

/-- The digest of the policy and of its authority root are read off the policy. -/
structure EvidenceAuthorityDecision (D : Type) where
  allowed : Bool
  code : String
  operation : String
  evidenceId : String
  authorityId : String
  scopeIds : List String
  eventDigest : D
  policyDigest : D
  authorityRootDigest : D
  deriving DecidableEq

def EvidenceAuthorityDecision.decisionDigest {D : Type} [DigestText D] [Sha256 D]
    (decision : EvidenceAuthorityDecision D) : D :=
  domainDigest "EVIDENCE_AUTHORITY_DECISION" (.obj [("allowed", .bool decision.allowed),
    ("authority_id", .str decision.authorityId),
    ("authority_root_digest", digestValue decision.authorityRootDigest),
    ("code", .str decision.code), ("event_digest", digestValue decision.eventDigest),
    ("evidence_id", .str decision.evidenceId), ("operation", .str decision.operation),
    ("policy_digest", digestValue decision.policyDigest),
    ("schema_version", .str "evidence-authority-decision/1"),
    ("scope_ids", texts decision.scopeIds)])

/-- `_OPERATION_AUTHORITY_FIELD`. -/
def operationAuthorityField : String → Option String
  | "REGISTER" => some "issuer_authority_id"
  | "VERIFY" => some "verifier_authority_id"
  | "REJECT" => some "rejecting_authority_id"
  | "CHALLENGE" => some "challenger_authority_id"
  | "RESOLVE_CHALLENGE" => some "resolver_authority_id"
  | "EXPIRE" => some "expiry_authority_id"
  | "INVALIDATE" => some "invalidating_authority_id"
  | "SUPERSEDE" => some "superseding_authority_id"
  | _ => none

namespace EvidenceAuthorityResolver
variable {D : Type} [DigestText D] [Sha256 D] (policy : EvidenceAuthorityPolicy D)

def decision (allowed : Bool) (code operation authorityId : String) (scopeIds : List String)
    (event : RegistryEvent D) : EvidenceAuthorityDecision D where
  allowed := allowed
  code := code
  operation := operation
  evidenceId := event.entityId
  authorityId := authorityId
  scopeIds := scopeIds
  eventDigest := event.digest
  policyDigest := policy.policyDigest
  authorityRootDigest := policy.authorityRootDigest

/-- The decision once the scopes are known. -/
def evaluateScopes (operation authorityId : String) (scopeIds : List String)
    (event : RegistryEvent D) : EvidenceAuthorityDecision D :=
  if event.clockSequence < policy.committedAtSequence then
    decision policy false "EVIDENCE_AUTHORITY_POLICY_NOT_EFFECTIVE" operation authorityId scopeIds event
  else if policy.permits operation authorityId scopeIds = true then
    decision policy true "EVIDENCE_AUTHORITY_PERMITTED" operation authorityId scopeIds event
  else decision policy false "EVIDENCE_AUTHORITY_DENIED" operation authorityId scopeIds event

/-- The scopes are those that a REGISTER names, and later those of the unit. -/
def evaluateAuthority (operation authorityId : String) (event : RegistryEvent D)
    (previous : Option (EvidenceUnit D)) : Except String (EvidenceAuthorityDecision D) :=
  if operation = "REGISTER" then do
    let scopeIds ← requiredTokenTuple event.payload "scope_ids" "EVIDENCE_SCOPE_INVALID" false
    .ok (evaluateScopes policy operation authorityId scopeIds event)
  else match previous with
    | none => .ok (decision policy false "EVIDENCE_AUTHORITY_PREVIOUS_STATE_MISSING" operation
        authorityId [] event)
    | some previous => .ok (evaluateScopes policy operation authorityId previous.scopeIds event)

def evaluate (event : RegistryEvent D) (previous : Option (EvidenceUnit D)) :
    Except String (EvidenceAuthorityDecision D) := do
  check (event.registryType = .evidenceUnit) "EVIDENCE_REGISTRY_TYPE_INVALID"
  check (event.payloadSchemaVersion = payloadSchemaVersion) "EVIDENCE_PAYLOAD_SCHEMA_INVALID"
  let operation ← requiredToken event.payload "operation" "EVIDENCE_OPERATION_INVALID"
  match operationAuthorityField operation with
  | none => .ok (decision policy false "EVIDENCE_AUTHORITY_OPERATION_UNSUPPORTED" operation
      "authority:unknown" [] event)
  | some authorityField => do
      let authorityId ← requiredToken event.payload authorityField
        "EVIDENCE_OPERATION_AUTHORITY_MISSING"
      evaluateAuthority policy operation authorityId event previous

/-- `require`, whose exception names the authority that was denied. -/
def requireAuthority (event : RegistryEvent D) (previous : Option (EvidenceUnit D)) :
    Except RegistryError (EvidenceAuthorityDecision D) := do
  let decision ← (evaluate policy event previous).mapError fun code => .governed code none
  if decision.allowed = true then .ok decision
  else .error (.governed decision.code (some decision.authorityId))

end EvidenceAuthorityResolver
end CsdFoundry.Evidence

import CsdFoundry.Policy.Contracts

/-! The canonical values of the policy contracts and the digests over them. -/
namespace CsdFoundry.Policy

def texts (items : List String) : Json := .arr (items.map .str)

def digestValue [DigestText D] (value : D) : Json := .str (DigestText.text value)

def optionalDigestValue [DigestText D] : Option D → Json
  | none => .null
  | some value => digestValue value

def optionalSequence : Option Nat → Json
  | none => .null
  | some sequence => .int sequence

/-- `_domain_digest`. -/
def domainDigest [Sha256 D] (domain : String) (value : Json) : D :=
  Sha256.sha256 domain [.json value]

/-- `_set_digest`. -/
def setDigest [Sha256 D] (domain : String) (values : List Json) : D :=
  domainDigest domain (.obj [("members", .arr values)])

theorem domainDigest_inj [Sha256 D] {domain : String} {a b : Json}
    (same : (domainDigest domain a : D) = domainDigest domain b) : a = b := by
  obtain ⟨-, fields⟩ := Sha256.collision_free same
  simpa using fields

theorem digestValue_inj [DigestText D] {a b : D} (same : digestValue a = digestValue b) : a = b :=
  DigestText.text_injective (Json.str.inj same)

variable (D : Type) [Sha256 D] [DigestText D]

namespace AssumptionAuthorityGrant

def unsignedValue (grant : AssumptionAuthorityGrant) : Json :=
  .obj [("action", .str grant.action.text),
    ("assumption_materialities", texts (grant.assumptionMaterialities.map (·.text))),
    ("authority_id", .str grant.authorityId),
    ("challenge_materialities", texts (grant.challengeMaterialities.map (·.text))),
    ("effective_from_sequence", .int grant.effectiveFromSequence),
    ("effective_until_sequence", optionalSequence grant.effectiveUntilSequence),
    ("grant_id", .str grant.grantId),
    ("schema_version", .str "assumption-authority-grant/1"),
    ("scope_ids", texts grant.scopeIds)]

def grantDigest (grant : AssumptionAuthorityGrant) : D :=
  domainDigest "ASSUMPTION_AUTHORITY_GRANT" grant.unsignedValue

def toJsonValue (grant : AssumptionAuthorityGrant) : Json :=
  .obj [("action", .str grant.action.text),
    ("assumption_materialities", texts (grant.assumptionMaterialities.map (·.text))),
    ("authority_id", .str grant.authorityId),
    ("challenge_materialities", texts (grant.challengeMaterialities.map (·.text))),
    ("effective_from_sequence", .int grant.effectiveFromSequence),
    ("effective_until_sequence", optionalSequence grant.effectiveUntilSequence),
    ("grant_digest", digestValue (grant.grantDigest D)),
    ("grant_id", .str grant.grantId),
    ("schema_version", .str "assumption-authority-grant/1"),
    ("scope_ids", texts grant.scopeIds)]

end AssumptionAuthorityGrant

namespace AssumptionSeparationDutyRule

def unsignedValue (rule : AssumptionSeparationDutyRule) : Json :=
  .obj [("action", .str rule.action.text),
    ("assumption_materialities", texts (rule.assumptionMaterialities.map (·.text))),
    ("conflicting_roles", texts (rule.conflictingRoles.map (·.text))),
    ("rule_id", .str rule.ruleId),
    ("schema_version", .str "assumption-separation-duty-rule/1"),
    ("scope_ids", texts rule.scopeIds)]

def ruleDigest (rule : AssumptionSeparationDutyRule) : D :=
  domainDigest "ASSUMPTION_SEPARATION_DUTY_RULE" rule.unsignedValue

def toJsonValue (rule : AssumptionSeparationDutyRule) : Json :=
  .obj [("action", .str rule.action.text),
    ("assumption_materialities", texts (rule.assumptionMaterialities.map (·.text))),
    ("conflicting_roles", texts (rule.conflictingRoles.map (·.text))),
    ("rule_digest", digestValue (rule.ruleDigest D)),
    ("rule_id", .str rule.ruleId),
    ("schema_version", .str "assumption-separation-duty-rule/1"),
    ("scope_ids", texts rule.scopeIds)]

end AssumptionSeparationDutyRule

namespace AssumptionDutyException

def unsignedValue (exception : AssumptionDutyException) : Json :=
  .obj [("action", .str exception.action.text),
    ("assumption_ids", texts exception.assumptionIds),
    ("assumption_materialities", texts (exception.assumptionMaterialities.map (·.text))),
    ("authority_id", .str exception.authorityId),
    ("conflicting_roles", texts (exception.conflictingRoles.map (·.text))),
    ("effective_from_sequence", .int exception.effectiveFromSequence),
    ("effective_until_sequence", .int exception.effectiveUntilSequence),
    ("exception_id", .str exception.exceptionId),
    ("reason_code", .str exception.reasonCode),
    ("rule_id", .str exception.ruleId),
    ("schema_version", .str "assumption-duty-exception/1"),
    ("scope_ids", texts exception.scopeIds)]

def exceptionDigest (exception : AssumptionDutyException) : D :=
  domainDigest "ASSUMPTION_DUTY_EXCEPTION" exception.unsignedValue

def toJsonValue (exception : AssumptionDutyException) : Json :=
  .obj [("action", .str exception.action.text),
    ("assumption_ids", texts exception.assumptionIds),
    ("assumption_materialities", texts (exception.assumptionMaterialities.map (·.text))),
    ("authority_id", .str exception.authorityId),
    ("conflicting_roles", texts (exception.conflictingRoles.map (·.text))),
    ("effective_from_sequence", .int exception.effectiveFromSequence),
    ("effective_until_sequence", .int exception.effectiveUntilSequence),
    ("exception_digest", digestValue (exception.exceptionDigest D)),
    ("exception_id", .str exception.exceptionId),
    ("reason_code", .str exception.reasonCode),
    ("rule_id", .str exception.ruleId),
    ("schema_version", .str "assumption-duty-exception/1"),
    ("scope_ids", texts exception.scopeIds)]

end AssumptionDutyException

variable {D}

namespace AssumptionAuthorityPolicy

def grantSetDigest (policy : AssumptionAuthorityPolicy D) : D :=
  setDigest "ASSUMPTION_AUTHORITY_GRANT_SET" (policy.grants.map (·.toJsonValue D))

def separationDutyRuleSetDigest (policy : AssumptionAuthorityPolicy D) : D :=
  setDigest "ASSUMPTION_SEPARATION_DUTY_RULE_SET"
    (policy.separationDutyRules.map (·.toJsonValue D))

def exceptionSetDigest (policy : AssumptionAuthorityPolicy D) : D :=
  setDigest "ASSUMPTION_DUTY_EXCEPTION_SET" (policy.dutyExceptions.map (·.toJsonValue D))

/-- The members after `policy_id`. -/
def trailingMembers (policy : AssumptionAuthorityPolicy D) : List (String × Json) :=
  [("schema_version", .str "assumption-authority-policy/1"),
    ("separation_duty_rule_set_digest", digestValue policy.separationDutyRuleSetDigest),
    ("separation_duty_rules", .arr (policy.separationDutyRules.map (·.toJsonValue D)))]

/-- The members before `policy_digest` in canonical order. -/
def leadingMembers (policy : AssumptionAuthorityPolicy D) : List (String × Json) :=
  [("authority_root_digest", digestValue policy.authorityRootDigest),
    ("duty_exceptions", .arr (policy.dutyExceptions.map (·.toJsonValue D))),
    ("exception_set_digest", digestValue policy.exceptionSetDigest),
    ("grant_set_digest", digestValue policy.grantSetDigest),
    ("grants", .arr (policy.grants.map (·.toJsonValue D)))]

def policyDigest (policy : AssumptionAuthorityPolicy D) : D :=
  domainDigest "ASSUMPTION_AUTHORITY_POLICY"
    (.obj (policy.leadingMembers ++ ("policy_id", .str policy.policyId) :: policy.trailingMembers))

def toJsonValue (policy : AssumptionAuthorityPolicy D) : Json :=
  .obj (policy.leadingMembers ++ ("policy_digest", digestValue policy.policyDigest) ::
    ("policy_id", .str policy.policyId) :: policy.trailingMembers)

end AssumptionAuthorityPolicy
end CsdFoundry.Policy

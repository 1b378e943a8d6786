import CsdFoundry.Policy.Values

/-! The signing envelope of a policy generation, its ledger entry, and the chain of entries. -/
namespace CsdFoundry.Policy
open Temporal (isToken)

inductive ApprovalClass where
  | dutyException
  | standard
  deriving DecidableEq

def ApprovalClass.text : ApprovalClass → String
  | dutyException => "DUTY_EXCEPTION"
  | standard => "STANDARD"

/-- The class that a number of duty exceptions calls for. -/
def ApprovalClass.expected (exceptionCount : Nat) : ApprovalClass :=
  if exceptionCount = 0 then .standard else .dutyException

@[ext] structure AssumptionPolicyApprovalRule where
  approvalClass : ApprovalClass
  eligibleSignerIds : List String
  requiredSignatureCount : Nat
  requiredSignerIds : List String
  eligible : requireTokens eligibleSignerIds false = true
  positive : 1 ≤ requiredSignatureCount
  attainable : requiredSignatureCount ≤ eligibleSignerIds.length
  required : requireTokens requiredSignerIds true = true
  requiredEligible : ∀ signer ∈ requiredSignerIds, signer ∈ eligibleSignerIds
  fitting : requiredSignerIds.length ≤ requiredSignatureCount

instance : DecidableEq AssumptionPolicyApprovalRule := fun _ _ =>
  decidable_of_iff _ AssumptionPolicyApprovalRule.ext_iff.symm

/-- One rule of each class, in the order of their texts, that for exceptions the stronger. -/
@[ext] structure AssumptionPolicyApprovalPolicy (D : Type) where
  approvalPolicyId : String
  authorityRootDigest : D
  rules : List AssumptionPolicyApprovalRule
  named : isToken approvalPolicyId = true
  classes : rules.map (·.approvalClass) = [.dutyException, .standard]
  stronger : ∀ duty ∈ rules, ∀ standard ∈ rules, duty.approvalClass = .dutyException →
    standard.approvalClass = .standard →
    standard.requiredSignatureCount < duty.requiredSignatureCount ∧
    (∀ signer ∈ standard.requiredSignerIds, signer ∈ duty.requiredSignerIds) ∧
    ∀ signer ∈ duty.eligibleSignerIds, signer ∈ standard.eligibleSignerIds

instance {D : Type} [DecidableEq D] : DecidableEq (AssumptionPolicyApprovalPolicy D) := fun _ _ =>
  decidable_of_iff _ AssumptionPolicyApprovalPolicy.ext_iff.symm

@[ext] structure AssumptionPolicySignatureProfile (D : Type) where
  algorithmProfiles : List (String × String)
  requiredAuthorityScope : String
  keyAuthorityRootDigest : D
  pinned : algorithmProfiles ≠ []
  tokens : ∀ item ∈ algorithmProfiles, isToken item.1 = true ∧ isToken item.2 = true
  ordered : (algorithmProfiles.map (·.1)).Pairwise (· < ·)
  scope : isToken requiredAuthorityScope = true

instance {D : Type} [DecidableEq D] : DecidableEq (AssumptionPolicySignatureProfile D) := fun _ _ =>
  decidable_of_iff _ AssumptionPolicySignatureProfile.ext_iff.symm

structure AssumptionChallengeClassificationPolicy where
  reasonRules : List (String × Materiality)
  tokens : ∀ item ∈ reasonRules, isToken item.1 = true
  ordered : (reasonRules.map (·.1)).Pairwise (· < ·)
  deriving DecidableEq

/-- Every policy-generation fact that signers approve, without the signatures. -/
@[ext] structure AssumptionPolicySigningPayload (D : Type) where
  policyId : String
  policyDigest : D
  predecessorPolicyDigest : Option D
  predecessorCommitReceiptDigest : Option D
  authorityRootDigest : D
  grantSetDigest : D
  separationDutyRuleSetDigest : D
  exceptionSetDigest : D
  exceptionCount : Nat
  approvalClass : ApprovalClass
  effectiveFromSequence : Nat
  approvalPolicyDigest : D
  signatureProfileDigest : D
  challengeClassificationPolicyDigest : D
  named : isToken policyId = true
  complete : predecessorPolicyDigest = none ↔ predecessorCommitReceiptDigest = none
  classed : approvalClass = .expected exceptionCount

instance {D : Type} [DecidableEq D] : DecidableEq (AssumptionPolicySigningPayload D) := fun _ _ =>
  decidable_of_iff _ AssumptionPolicySigningPayload.ext_iff.symm

structure AssumptionAuthorityPolicyCommitV3 (D : Type) where
  signingPayloadDigest : D
  signatureSetDigest : D
  deriving DecidableEq

@[ext] structure AssumptionPolicyActivationProofV2 (D : Type) where
  signingPayloadDigest : D
  policyCommitReceiptDigest : D
  approvalPolicyDigest : D
  approvalRuleDigest : D
  signatureProfileDigest : D
  challengeClassificationPolicyDigest : D
  authorityRootDigest : D
  signatureSetDigest : D
  validSignerIds : List String
  rejectedSignerCodes : List String
  signers : requireTokens validSignerIds false = true
  rejections : requireTokens rejectedSignerCodes true = true

instance {D : Type} [DecidableEq D] :
    DecidableEq (AssumptionPolicyActivationProofV2 D) := fun _ _ =>
  decidable_of_iff _ AssumptionPolicyActivationProofV2.ext_iff.symm

variable {D : Type} [Sha256 D] [DigestText D]

/-! ### Canonical values -/

namespace AssumptionPolicyApprovalRule

def unsignedMembers (rule : AssumptionPolicyApprovalRule) : List (String × Json) :=
  [("approval_class", .str rule.approvalClass.text),
    ("eligible_signer_ids", texts rule.eligibleSignerIds),
    ("required_signature_count", .int rule.requiredSignatureCount),
    ("required_signer_ids", texts rule.requiredSignerIds)]

def ruleDigest (D : Type) [Sha256 D] (rule : AssumptionPolicyApprovalRule) : D :=
  domainDigest "ASSUMPTION_POLICY_APPROVAL_RULE"
    (.obj (rule.unsignedMembers ++ [("schema_version", .str "assumption-policy-approval-rule/1")]))

def toJsonValue (D : Type) [Sha256 D] [DigestText D] (rule : AssumptionPolicyApprovalRule) : Json :=
  .obj (rule.unsignedMembers ++ [("rule_digest", digestValue (rule.ruleDigest D)),
    ("schema_version", .str "assumption-policy-approval-rule/1")])

end AssumptionPolicyApprovalRule

namespace AssumptionPolicyApprovalPolicy

def unsignedMembers (policy : AssumptionPolicyApprovalPolicy D) : List (String × Json) :=
  [("approval_policy_id", .str policy.approvalPolicyId),
    ("authority_root_digest", digestValue policy.authorityRootDigest),
    ("rules", .arr (policy.rules.map (·.toJsonValue D))),
    ("schema_version", .str "assumption-policy-approval-policy/1")]

def approvalPolicyDigest (policy : AssumptionPolicyApprovalPolicy D) : D :=
  domainDigest "ASSUMPTION_POLICY_APPROVAL_POLICY" (.obj policy.unsignedMembers)

def toJsonValue (policy : AssumptionPolicyApprovalPolicy D) : Json :=
  .obj (("approval_policy_digest", digestValue policy.approvalPolicyDigest) ::
    policy.unsignedMembers)

/-- `rule_for`; there is a rule of either class. -/
def ruleFor (policy : AssumptionPolicyApprovalPolicy D) (approvalClass : ApprovalClass) :
    Except PolicyError AssumptionPolicyApprovalRule :=
  match policy.rules.find? fun rule => rule.approvalClass = approvalClass with
  | some rule => .ok rule
  | none => .error (.execution "ASSUMPTION_APPROVAL_POLICY_RULE_MISSING")

end AssumptionPolicyApprovalPolicy

namespace AssumptionPolicySignatureProfile

def trailingMembers (profile : AssumptionPolicySignatureProfile D) : List (String × Json) :=
  [("required_authority_scope", .str profile.requiredAuthorityScope),
    ("schema_version", .str "assumption-policy-signature-profile/1"),
    ("signature_record_semantics_version", .str "signature-record/1"),
    ("signature_set_schema_version", .str "signature-set/1")]

def leadingMembers (profile : AssumptionPolicySignatureProfile D) : List (String × Json) :=
  [("algorithm_profiles", .arr (profile.algorithmProfiles.map fun (algorithm, verification) =>
      .obj [("algorithm", .str algorithm), ("verification_profile", .str verification)])),
    ("duplicate_signer_rule", .str "ONE_SIGNER_ONE_VOTE"),
    ("key_authority_root_digest", digestValue profile.keyAuthorityRootDigest)]

def profileDigest (profile : AssumptionPolicySignatureProfile D) : D :=
  domainDigest "ASSUMPTION_POLICY_SIGNATURE_PROFILE"
    (.obj (profile.leadingMembers ++ profile.trailingMembers))

def toJsonValue (profile : AssumptionPolicySignatureProfile D) : Json :=
  .obj (profile.leadingMembers ++ ("profile_digest", digestValue profile.profileDigest) ::
    profile.trailingMembers)

end AssumptionPolicySignatureProfile

namespace AssumptionChallengeClassificationPolicy

def unsignedMembers (policy : AssumptionChallengeClassificationPolicy) : List (String × Json) :=
  [("reason_rules", .arr (policy.reasonRules.map fun (reason, materiality) =>
      .obj [("materiality", .str materiality.text), ("reason_code", .str reason)])),
    ("schema_version", .str "assumption-challenge-classification-policy/1"),
    ("unknown_reason_behavior", .str "FAIL_CLOSED_AS_CRITICAL")]

def policyDigest (D : Type) [Sha256 D] (policy : AssumptionChallengeClassificationPolicy) : D :=
  domainDigest "ASSUMPTION_CHALLENGE_CLASSIFICATION_POLICY" (.obj policy.unsignedMembers)

def toJsonValue (D : Type) [Sha256 D] [DigestText D]
    (policy : AssumptionChallengeClassificationPolicy) : Json :=
  .obj (("policy_digest", digestValue (policy.policyDigest D)) :: policy.unsignedMembers)

end AssumptionChallengeClassificationPolicy

namespace AssumptionPolicySigningPayload

def unsignedMembers (payload : AssumptionPolicySigningPayload D) : List (String × Json) :=
  [("approval_class", .str payload.approvalClass.text),
    ("approval_policy_digest", digestValue payload.approvalPolicyDigest),
    ("authority_root_digest", digestValue payload.authorityRootDigest),
    ("challenge_classification_policy_digest",
      digestValue payload.challengeClassificationPolicyDigest),
    ("effective_from_sequence", .int payload.effectiveFromSequence),
    ("exception_count", .int payload.exceptionCount),
    ("exception_set_digest", digestValue payload.exceptionSetDigest),
    ("grant_set_digest", digestValue payload.grantSetDigest),
    ("policy_digest", digestValue payload.policyDigest),
    ("policy_id", .str payload.policyId),
    ("predecessor_commit_receipt_digest", optionalDigestValue payload.predecessorCommitReceiptDigest),
    ("predecessor_policy_digest", optionalDigestValue payload.predecessorPolicyDigest),
    ("schema_version", .str "assumption-policy-signing-payload/1"),
    ("separation_duty_rule_set_digest", digestValue payload.separationDutyRuleSetDigest),
    ("signature_profile_digest", digestValue payload.signatureProfileDigest)]

def signingPayloadDigest (payload : AssumptionPolicySigningPayload D) : D :=
  domainDigest "ASSUMPTION_POLICY_SIGNING_PAYLOAD" (.obj payload.unsignedMembers)

def toJsonValue (payload : AssumptionPolicySigningPayload D) : Json :=
  .obj (payload.unsignedMembers ++
    [("signing_payload_digest", digestValue payload.signingPayloadDigest)])

end AssumptionPolicySigningPayload

namespace AssumptionAuthorityPolicyCommitV3

def unsignedMembers (commit : AssumptionAuthorityPolicyCommitV3 D) : List (String × Json) :=
  [("schema_version", .str "assumption-authority-policy-commit/3"),
    ("signature_set_digest", digestValue commit.signatureSetDigest),
    ("signing_payload_digest", digestValue commit.signingPayloadDigest)]

def commitReceiptDigest (commit : AssumptionAuthorityPolicyCommitV3 D) : D :=
  domainDigest "ASSUMPTION_AUTHORITY_POLICY_COMMIT_V3" (.obj commit.unsignedMembers)

def toJsonValue (commit : AssumptionAuthorityPolicyCommitV3 D) : Json :=
  .obj (("commit_receipt_digest", digestValue commit.commitReceiptDigest) :: commit.unsignedMembers)

end AssumptionAuthorityPolicyCommitV3

namespace AssumptionPolicyActivationProofV2

def unsignedMembers (proof : AssumptionPolicyActivationProofV2 D) : List (String × Json) :=
  [("approval_policy_digest", digestValue proof.approvalPolicyDigest),
    ("approval_rule_digest", digestValue proof.approvalRuleDigest),
    ("authority_root_digest", digestValue proof.authorityRootDigest),
    ("challenge_classification_policy_digest",
      digestValue proof.challengeClassificationPolicyDigest),
    ("policy_commit_receipt_digest", digestValue proof.policyCommitReceiptDigest),
    ("rejected_signer_codes", texts proof.rejectedSignerCodes),
    ("schema_version", .str "assumption-policy-activation-proof/2"),
    ("signature_profile_digest", digestValue proof.signatureProfileDigest),
    ("signature_set_digest", digestValue proof.signatureSetDigest),
    ("signing_payload_digest", digestValue proof.signingPayloadDigest),
    ("valid_signer_ids", texts proof.validSignerIds)]

def activationProofDigest (proof : AssumptionPolicyActivationProofV2 D) : D :=
  domainDigest "ASSUMPTION_POLICY_ACTIVATION_PROOF_V2" (.obj proof.unsignedMembers)

def toJsonValue (proof : AssumptionPolicyActivationProofV2 D) : Json :=
  .obj (("activation_proof_digest", digestValue proof.activationProofDigest) ::
    proof.unsignedMembers)

end AssumptionPolicyActivationProofV2

end CsdFoundry.Policy

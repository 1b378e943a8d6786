import CsdFoundry.Policy.Ledger
import CsdFoundry.Policy.Overlap
import Mathlib

/-! The preparation of a policy generation: bindings, signatures, signer authority, quorum. -/
namespace CsdFoundry.Policy
open Temporal (isToken)
variable {D : Type} [Sha256 D] [DigestText D] [DecidableEq D]

/-! ### Strict Base64 -/

def base64Alphabet : List Char :=
  "ABCDEFGHIJKLMNOPQRSTUVWXYZabcdefghijklmnopqrstuvwxyz0123456789+/".toList

def sextet (character : Char) : Option Nat :=
  if character ∈ base64Alphabet then some (base64Alphabet.idxOf character) else none

def octet (value : Nat) : UInt8 := UInt8.ofNat (value % 256)

/-- `base64.b64decode(.., validate=True)` of ASCII characters, as the interpreter of the workflows
(3.11) has it: quads, the last one padded where it is short. Padding after a complete quad is not
an error there, however long it is. -/
def b64decode : List Char → Option (List UInt8)
  | [] => some []
  | [a, b, '=', '='] => do
      let a ← sextet a
      let b ← sextet b
      return [octet (a * 4 + b / 16)]
  | [a, b, c, '='] => do
      let a ← sextet a
      let b ← sextet b
      let c ← sextet c
      return [octet (a * 4 + b / 16), octet (b * 16 + c / 4)]
  | a :: b :: c :: d :: rest => do
      let a ← sextet a
      let b ← sextet b
      let c ← sextet c
      let d ← sextet d
      let bytes ← if rest.all (· == '=') then some [] else b64decode rest
      return octet (a * 4 + b / 16) :: octet (b * 16 + c / 4) :: octet (c * 64 + d) :: bytes
  | _ => none

/-! ### The signature set and the boundaries -/

/-- A signature as the closed schema of the set admits it. -/
structure SignatureRecord where
  signerId : String
  keyId : String
  algorithm : String
  signedDigest : String
  signatureBase64 : String
  authorityScope : String
  deriving DecidableEq

structure SignatureSet (D : Type) where
  digest : D
  signatures : List SignatureRecord

/-- `_ProcessingSignatureRecord`. -/
structure ProcessingSignatureRecord extends SignatureRecord where
  signatureBytes : List UInt8
  verificationProfile : String

structure ResolvedAssumptionPolicyVerificationKey (D : Type) where
  keyId : String
  algorithm : String
  publicKeyBytes : List UInt8
  keyAuthorityRootDigest : D

structure ResolvedAssumptionPolicySignerAuthority (D : Type) where
  signerId : String
  keyId : String
  authorityRootDigest : D
  authorityScopes : List String
  algorithms : List String
  validFromSequence : Nat
  validUntilSequence : Option Nat
  revocationSequence : Option Nat

/-- The resolvers and the verifier. `none` and `false` stand for a raise too: the preparer takes
both the same way. -/
structure ReferenceAssumptionPolicyActivationPreparer (D : Type) where
  resolveKey : String → String → D → Option (ResolvedAssumptionPolicyVerificationKey D)
  resolveAuthority : String → String → D → Option (ResolvedAssumptionPolicySignerAuthority D)
  supports : String → String → Bool
  verify : String → String → List UInt8 → String → List UInt8 → Bool

/-- The arguments of `prepare`. -/
structure PreparationRequest (D : Type) where
  policy : AssumptionAuthorityPolicy D
  signingPayload : AssumptionPolicySigningPayload D
  commit : AssumptionAuthorityPolicyCommitV3 D
  approvalPolicy : AssumptionPolicyApprovalPolicy D
  signatureProfile : AssumptionPolicySignatureProfile D
  challengePolicy : AssumptionChallengeClassificationPolicy
  signatureSet : SignatureSet D

/-! ### The stages -/

/-- `raise AssumptionPolicyActivationDenied(code=exc.code, stage=..) from exc`. -/
def staged (stage : String) : Except PolicyError α → Except PolicyError α
  | .ok value => .ok value
  | .error (.activation code) => .error (.denied code stage)
  | .error (.execution code) => .error (.denied code stage)
  | .error other => .error other

theorem staged_ok {stage : String} {result : Except PolicyError α} {a : α} :
    staged stage result = .ok a ↔ result = .ok a := by
  cases result with
  | ok value => rfl
  | error error => cases error <;> simp [staged]

/-- `_validate_v3_envelope_bindings`. -/
def validateV3EnvelopeBindings (request : PreparationRequest D) : Except PolicyError Unit := do
  let policy := request.policy
  let payload := request.signingPayload
  let denied (code : String) : PolicyError := .denied code "COMMIT_BINDINGS"
  require (payload.policyId = policy.policyId) (denied "ASSUMPTION_POLICY_PAYLOAD_POLICY_ID_MISMATCH")
  require (payload.policyDigest = policy.policyDigest)
    (denied "ASSUMPTION_POLICY_PAYLOAD_POLICY_DIGEST_MISMATCH")
  require (payload.authorityRootDigest = policy.authorityRootDigest)
    (denied "ASSUMPTION_POLICY_PAYLOAD_AUTHORITY_ROOT_MISMATCH")
  require (payload.grantSetDigest = policy.grantSetDigest)
    (denied "ASSUMPTION_POLICY_PAYLOAD_GRANT_SET_MISMATCH")
  require (payload.separationDutyRuleSetDigest = policy.separationDutyRuleSetDigest)
    (denied "ASSUMPTION_POLICY_PAYLOAD_DUTY_RULE_SET_MISMATCH")
  require (payload.exceptionSetDigest = policy.exceptionSetDigest)
    (denied "ASSUMPTION_POLICY_PAYLOAD_EXCEPTION_SET_MISMATCH")
  require (payload.exceptionCount = policy.dutyExceptions.length)
    (denied "ASSUMPTION_POLICY_PAYLOAD_EXCEPTION_COUNT_MISMATCH")
  require (payload.approvalPolicyDigest = request.approvalPolicy.approvalPolicyDigest)
    (denied "ASSUMPTION_POLICY_PAYLOAD_APPROVAL_POLICY_MISMATCH")
  require (payload.signatureProfileDigest = request.signatureProfile.profileDigest)
    (denied "ASSUMPTION_POLICY_PAYLOAD_SIGNATURE_PROFILE_MISMATCH")
  require (payload.challengeClassificationPolicyDigest = request.challengePolicy.policyDigest D)
    (denied "ASSUMPTION_POLICY_PAYLOAD_CHALLENGE_POLICY_MISMATCH")
  require (request.approvalPolicy.authorityRootDigest = policy.authorityRootDigest)
    (denied "ASSUMPTION_POLICY_PAYLOAD_APPROVAL_ROOT_MISMATCH")
  require (request.signatureProfile.keyAuthorityRootDigest = policy.authorityRootDigest)
    (denied "ASSUMPTION_POLICY_PAYLOAD_SIGNATURE_ROOT_MISMATCH")
  require (request.commit.signingPayloadDigest = payload.signingPayloadDigest)
    (denied "ASSUMPTION_POLICY_COMMIT_PAYLOAD_MISMATCH")
  require (request.commit.signatureSetDigest = request.signatureSet.digest)
    (denied "ASSUMPTION_POLICY_COMMIT_SIGNATURE_SET_MISMATCH")

/-- `_parse_one_signature`. The schema of the set has checked the fields and their types. -/
def parseOneSignature (request : PreparationRequest D) (raw : SignatureRecord) :
    Except PolicyError ProcessingSignatureRecord := do
  let denied (code : String) : PolicyError :=
    .denied code "SIGNATURE_SET_SCHEMA_AND_CANONICAL_FORM"
  require (raw.signedDigest = DigestText.text request.signingPayload.signingPayloadDigest)
    (denied "ASSUMPTION_POLICY_SIGNATURE_TARGET_MISMATCH")
  match request.signatureProfile.algorithmProfiles.find? fun item => item.1 = raw.algorithm with
  | none => throw (denied "ASSUMPTION_POLICY_SIGNATURE_ALGORITHM_NOT_PINNED")
  | some (_, verificationProfile) =>
      require (raw.authorityScope = request.signatureProfile.requiredAuthorityScope)
        (denied "ASSUMPTION_POLICY_SIGNATURE_AUTHORITY_SCOPE_INVALID")
      -- A text outside ASCII is a ValueError, which the handler of the decoder does not catch.
      require (∀ character ∈ raw.signatureBase64.toList, character.toNat < 128)
        (.uncaught "string argument should contain only ASCII characters")
      match b64decode raw.signatureBase64.toList with
      | none => throw (denied "ASSUMPTION_POLICY_SIGNATURE_ENCODING_INVALID")
      | some bytes =>
          require (bytes ≠ []) (denied "ASSUMPTION_POLICY_SIGNATURE_ENCODING_INVALID")
          return { raw with signatureBytes := bytes, verificationProfile := verificationProfile }

/-- The loop of `_parse_and_canonicalize_signatures`. -/
def parseSignatures (request : PreparationRequest D) :
    List String → List SignatureRecord → Except PolicyError (List ProcessingSignatureRecord)
  | _, [] => .ok []
  | seen, raw :: rest => do
      let record ← parseOneSignature request raw
      require (record.signerId ∉ seen)
        (.denied "ASSUMPTION_POLICY_DUPLICATE_SIGNER_RECORD" "SIGNATURE_SET_SCHEMA_AND_CANONICAL_FORM")
      let others ← parseSignatures request (record.signerId :: seen) rest
      return record :: others

def ProcessingSignatureRecord.sortKey (record : ProcessingSignatureRecord) : List String :=
  [record.signerId, record.keyId, record.algorithm, record.signedDigest, record.authorityScope,
    record.signatureBase64]

/-- `_parse_and_canonicalize_signatures`. -/
def parseAndCanonicalizeSignatures (request : PreparationRequest D) :
    Except PolicyError (List ProcessingSignatureRecord) := do
  require (request.signatureSet.signatures ≠ [])
    (.denied "ASSUMPTION_POLICY_SIGNATURE_SET_INVALID" "SIGNATURE_SET_SCHEMA_AND_CANONICAL_FORM")
  let parsed ← parseSignatures request [] request.signatureSet.signatures
  return parsed.mergeSort fun a b => a.sortKey ≤ b.sortKey

namespace ReferenceAssumptionPolicyActivationPreparer

/-- `_verify_one_record`: the code that rejects the record, or none. -/
def verifyOneRecord (preparer : ReferenceAssumptionPolicyActivationPreparer D)
    (request : PreparationRequest D) (record : ProcessingSignatureRecord) : Option String :=
  let keyRoot := request.signatureProfile.keyAuthorityRootDigest
  match preparer.resolveKey record.keyId record.algorithm keyRoot with
  | none => some "ASSUMPTION_POLICY_SIGNER_UNKNOWN"
  | some key =>
      if key.keyId ≠ record.keyId then some "ASSUMPTION_POLICY_KEY_ID_MISMATCH"
      else if key.algorithm ≠ record.algorithm then
        some "ASSUMPTION_POLICY_KEY_ALGORITHM_INCOMPATIBLE"
      else if key.keyAuthorityRootDigest ≠ keyRoot then
        some "ASSUMPTION_POLICY_KEY_AUTHORITY_ROOT_MISMATCH"
      else if preparer.supports record.algorithm record.verificationProfile = false then
        some "ASSUMPTION_POLICY_SIGNATURE_PROFILE_UNSUPPORTED"
      else if preparer.verify record.algorithm record.verificationProfile key.publicKeyBytes
          record.signedDigest record.signatureBytes = false then
        some "ASSUMPTION_POLICY_SIGNATURE_INVALID"
      else
        let authorityRoot := request.signingPayload.authorityRootDigest
        let effective := request.signingPayload.effectiveFromSequence
        match preparer.resolveAuthority record.signerId record.keyId authorityRoot with
        | none => some "ASSUMPTION_POLICY_SIGNER_UNAUTHORIZED"
        | some authority =>
            if authority.signerId ≠ record.signerId ∨ authority.keyId ≠ record.keyId then
              some "ASSUMPTION_POLICY_SIGNER_KEY_MISMATCH"
            else if authority.authorityRootDigest ≠ authorityRoot then
              some "ASSUMPTION_POLICY_SIGNER_AUTHORITY_ROOT_MISMATCH"
            else if record.algorithm ∉ authority.algorithms then
              some "ASSUMPTION_POLICY_SIGNER_ALGORITHM_UNAUTHORIZED"
            else if request.signatureProfile.requiredAuthorityScope ∉ authority.authorityScopes then
              some "ASSUMPTION_POLICY_SIGNER_SCOPE_INVALID"
            else if effective < authority.validFromSequence then
              some "ASSUMPTION_POLICY_KEY_NOT_YET_VALID"
            else if authority.validUntilSequence.any (· ≤ effective) then
              some "ASSUMPTION_POLICY_KEY_EXPIRED"
            else if authority.revocationSequence.any (· ≤ effective) then
              some "ASSUMPTION_POLICY_KEY_REVOKED"
            else none

/-- `_verify_signatures_and_authority`: the valid signers and the codes of the other records. -/
def verifySignaturesAndAuthority (preparer : ReferenceAssumptionPolicyActivationPreparer D)
    (request : PreparationRequest D) (records : List ProcessingSignatureRecord) :
    List String × List String :=
  let valid := records.filter fun record => preparer.verifyOneRecord request record = none
  let rejected := records.filterMap (preparer.verifyOneRecord request)
  ((valid.map (·.signerId)).toFinset.sort, rejected.toFinset.sort)

end ReferenceAssumptionPolicyActivationPreparer

/-- `_validate_approval_threshold`. -/
def validateApprovalThreshold (approvalPolicy : AssumptionPolicyApprovalPolicy D)
    (signingPayload : AssumptionPolicySigningPayload D) (validSignerIds : List String) :
    Except PolicyError Unit := do
  let denied (code : String) : PolicyError := .denied code "THRESHOLD_AND_REQUIRED_SIGNERS"
  let rule ← staged "THRESHOLD_AND_REQUIRED_SIGNERS"
    (approvalPolicy.ruleFor signingPayload.approvalClass)
  let signers := validSignerIds.toFinset
  require (signers ⊆ rule.eligibleSignerIds.toFinset)
    (denied "ASSUMPTION_APPROVAL_SIGNER_INELIGIBLE")
  require (rule.requiredSignatureCount ≤ signers.card)
    (denied "ASSUMPTION_APPROVAL_THRESHOLD_NOT_MET")
  require (rule.requiredSignerIds.toFinset ⊆ signers)
    (denied "ASSUMPTION_APPROVAL_REQUIRED_SIGNER_MISSING")

/-- `AssumptionPolicyActivationProofV2.build` of the results of the verification. -/
def buildActivationProof (request : PreparationRequest D) (approvalRule : AssumptionPolicyApprovalRule)
    (valid rejected : List String) : Except PolicyError (AssumptionPolicyActivationProofV2 D) :=
  let signers := valid.toFinset.sort
  let rejections := rejected.toFinset.sort
  if signed : requireTokens signers false = true then
    if coded : requireTokens rejections true = true then
      .ok {
        signingPayloadDigest := request.signingPayload.signingPayloadDigest
        policyCommitReceiptDigest := request.commit.commitReceiptDigest
        approvalPolicyDigest := request.approvalPolicy.approvalPolicyDigest
        approvalRuleDigest := approvalRule.ruleDigest D
        signatureProfileDigest := request.signatureProfile.profileDigest
        challengeClassificationPolicyDigest := request.challengePolicy.policyDigest D
        authorityRootDigest := request.policy.authorityRootDigest
        signatureSetDigest := request.commit.signatureSetDigest
        validSignerIds := signers
        rejectedSignerCodes := rejections
        signers := signed
        rejections := coded }
    else .error (.activation "ASSUMPTION_ACTIVATION_PROOF_V2_REJECTIONS_INVALID")
  else .error (.activation "ASSUMPTION_ACTIVATION_PROOF_V2_SIGNERS_INVALID")

/-- `prepare`. The entry of the result stands for `PreparedPolicyActivation`, whose digest is a
function of it. -/
def ReferenceAssumptionPolicyActivationPreparer.prepare
    (preparer : ReferenceAssumptionPolicyActivationPreparer D) (request : PreparationRequest D) :
    Except PolicyError (AssumptionPolicyLedgerEntryV3 D) := do
  staged "POLICY_STRUCTURE_AND_OVERLAP" (validatePolicyOverlap request.policy)
  validateV3EnvelopeBindings request
  let approvalRule ← staged "RESOLVE_APPROVAL_PROFILE_CLASSIFICATION_AND_SIGNATURE_SET"
    (request.approvalPolicy.ruleFor request.signingPayload.approvalClass)
  let records ← parseAndCanonicalizeSignatures request
  let (validSignerIds, rejectedSignerCodes) := preparer.verifySignaturesAndAuthority request records
  validateApprovalThreshold request.approvalPolicy request.signingPayload validSignerIds
  staged "ACTIVATION_PROOF_AND_ENTRY" do
    let proof ← buildActivationProof request approvalRule validSignerIds rejectedSignerCodes
    AssumptionPolicyLedgerEntryV3.build {
      policy := request.policy
      signingPayload := request.signingPayload
      policyCommit := request.commit
      approvalPolicy := request.approvalPolicy
      signatureProfile := request.signatureProfile
      challengeClassificationPolicy := request.challengePolicy
      activationProof := proof }

/-! ### The quorum -/

/-- The recorded signers are eligible under the rule of the entry's class, enough, and include the
required ones. -/
def CarriesQuorum (entry : AssumptionPolicyLedgerEntryV3 D) : Prop :=
  ∃ rule, entry.approvalPolicy.ruleFor entry.signingPayload.approvalClass = .ok rule ∧
    (∀ signer ∈ entry.activationProof.validSignerIds, signer ∈ rule.eligibleSignerIds) ∧
    rule.requiredSignatureCount ≤ entry.activationProof.validSignerIds.length ∧
    ∀ signer ∈ rule.requiredSignerIds, signer ∈ entry.activationProof.validSignerIds

omit [Sha256 D] [DigestText D] [DecidableEq D] in
theorem AssumptionPolicyActivationProofV2.distinctSigners
    (proof : AssumptionPolicyActivationProofV2 D) : proof.validSignerIds.Nodup := by
  have valid := proof.signers
  simp only [requireTokens, Bool.and_eq_true, decide_eq_true_eq] at valid
  exact valid.1.2.imp ne_of_lt

omit [Sha256 D] [DigestText D] [DecidableEq D] in
theorem validateApprovalThreshold_ok {approvalPolicy : AssumptionPolicyApprovalPolicy D}
    {signingPayload : AssumptionPolicySigningPayload D} {validSignerIds : List String} :
    validateApprovalThreshold approvalPolicy signingPayload validSignerIds = .ok () ↔
      ∃ rule, approvalPolicy.ruleFor signingPayload.approvalClass = .ok rule ∧
        validSignerIds.toFinset ⊆ rule.eligibleSignerIds.toFinset ∧
        rule.requiredSignatureCount ≤ validSignerIds.toFinset.card ∧
        rule.requiredSignerIds.toFinset ⊆ validSignerIds.toFinset := by
  rw [validateApprovalThreshold, bind_ok]
  simp only [staged_ok, require_bind_ok, require_ok]

/-- The threshold check of the preparer decides the quorum of an entry. -/
theorem carriesQuorum_iff {entry : AssumptionPolicyLedgerEntryV3 D} :
    CarriesQuorum entry ↔ validateApprovalThreshold entry.approvalPolicy entry.signingPayload
      entry.activationProof.validSignerIds = .ok () := by
  rw [validateApprovalThreshold_ok, CarriesQuorum,
    List.toFinset_card_of_nodup entry.activationProof.distinctSigners]
  simp only [Finset.subset_iff, List.mem_toFinset]

omit [DecidableEq D] in
theorem buildActivationProof_signers {request : PreparationRequest D}
    {approvalRule : AssumptionPolicyApprovalRule} {valid rejected : List String}
    {proof : AssumptionPolicyActivationProofV2 D}
    (built : buildActivationProof request approvalRule valid rejected = .ok proof) :
    proof.validSignerIds.toFinset = valid.toFinset := by
  rw [buildActivationProof] at built
  split at built
  · split at built
    · cases built
      simp
    · cases built
  · cases built

theorem AssumptionPolicyLedgerEntryV3.build_ok {envelope : PolicyEnvelope D}
    {entry : AssumptionPolicyLedgerEntryV3 D}
    (built : AssumptionPolicyLedgerEntryV3.build envelope = .ok entry) :
    entry.toPolicyEnvelope = envelope := by
  rw [AssumptionPolicyLedgerEntryV3.build] at built
  split at built
  · cases built
    rfl
  · cases built

/-- A prepared entry has the policy that was checked for overlap, and its quorum. -/
theorem prepare_ok {preparer : ReferenceAssumptionPolicyActivationPreparer D}
    {request : PreparationRequest D} {entry : AssumptionPolicyLedgerEntryV3 D}
    (prepared : preparer.prepare request = .ok entry) :
    validatePolicyOverlap entry.policy = .ok () ∧ CarriesQuorum entry := by
  rw [ReferenceAssumptionPolicyActivationPreparer.prepare, bind_ok] at prepared
  obtain ⟨_, overlap, prepared⟩ := prepared
  obtain ⟨_, -, prepared⟩ := bind_ok.mp prepared
  obtain ⟨approvalRule, -, prepared⟩ := bind_ok.mp prepared
  obtain ⟨records, -, prepared⟩ := bind_ok.mp prepared
  obtain ⟨_, threshold, prepared⟩ := bind_ok.mp prepared
  obtain ⟨proof, proved, built⟩ := bind_ok.mp (staged_ok.mp prepared)
  have same := AssumptionPolicyLedgerEntryV3.build_ok built
  have signers := buildActivationProof_signers proved
  rw [carriesQuorum_iff, same]
  refine ⟨staged_ok.mp overlap, ?_⟩
  rw [validateApprovalThreshold_ok] at threshold ⊢
  rw [signers]
  exact threshold

end CsdFoundry.Policy

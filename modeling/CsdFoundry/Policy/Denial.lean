import CsdFoundry.Policy.Threshold

/-! When a preparation fails by a typed denial only. The resolvers and the verifier are code of
others, which may raise and may return any object. -/
namespace CsdFoundry.Policy
open Results
variable {D : Type} [Sha256 D] [DigestText D] [DecidableEq D]

/-! ### Collaborators -/

/-- What a call comes to: an exception, an object of another class (`None` too), or one of the
class that is asked for. -/
inductive Reply (α : Type) where
  | raised
  | foreign
  | found (value : α)

/-- The resolvers and the verifier, which may answer each record in another way. A resolver may
find an instance that no constructor has filled: nothing can be read from it. -/
structure Collaborators (D : Type) where
  resolveKey : Nat → String → String → D →
    Reply (Option (ResolvedAssumptionPolicyVerificationKey D))
  resolveAuthority : Nat → String → String → D →
    Reply (Option (ResolvedAssumptionPolicySignerAuthority D))
  supports : Nat → String → String → Reply Bool
  verify : Nat → String → String → List UInt8 → String → List UInt8 → Reply Bool

namespace Collaborators

/-- The second half of `_verify_one_record`. -/
def checkAuthority (collaborators : Collaborators D) (turn : Nat) (request : PreparationRequest D)
    (record : ProcessingSignatureRecord) : Except PolicyError (Option String) :=
  let authorityRoot := request.signingPayload.authorityRootDigest
  let effective := request.signingPayload.effectiveFromSequence
  match collaborators.resolveAuthority turn record.signerId record.keyId authorityRoot with
  | .raised => .ok (some "ASSUMPTION_POLICY_SIGNER_UNAUTHORIZED")
  | .foreign => .ok (some "ASSUMPTION_POLICY_SIGNER_UNAUTHORIZED")
  | .found none => .error (.uncaught "AttributeError")
  | .found (some authority) =>
      .ok (if authority.signerId ≠ record.signerId ∨ authority.keyId ≠ record.keyId then
          some "ASSUMPTION_POLICY_SIGNER_KEY_MISMATCH"
        else if authority.authorityRootDigest ≠ authorityRoot then
          some "ASSUMPTION_POLICY_SIGNER_AUTHORITY_ROOT_MISMATCH"
        else if record.algorithm ∉ authority.algorithms then
          some "ASSUMPTION_POLICY_SIGNER_ALGORITHM_UNAUTHORIZED"
        else if request.signatureProfile.requiredAuthorityScope ∉ authority.authorityScopes then
          some "ASSUMPTION_POLICY_SIGNER_SCOPE_INVALID"
        else if effective < authority.validFromSequence then
          some "ASSUMPTION_POLICY_KEY_NOT_YET_VALID"
        else if authority.validUntilSequence.any (· ≤ effective) then
          some "ASSUMPTION_POLICY_KEY_EXPIRED"
        else if authority.revocationSequence.any (· ≤ effective) then
          some "ASSUMPTION_POLICY_KEY_REVOKED"
        else none)

/-- `_verify_one_record`. The handlers stand around the calls; the fields of an answer are read
outside of them. -/
def verifyOneRecord (collaborators : Collaborators D) (turn : Nat) (request : PreparationRequest D)
    (record : ProcessingSignatureRecord) : Except PolicyError (Option String) :=
  let keyRoot := request.signatureProfile.keyAuthorityRootDigest
  match collaborators.resolveKey turn record.keyId record.algorithm keyRoot with
  | .raised => .ok (some "ASSUMPTION_POLICY_SIGNER_UNKNOWN")
  | .foreign => .ok (some "ASSUMPTION_POLICY_SIGNER_UNKNOWN")
  | .found none => .error (.uncaught "AttributeError")
  | .found (some key) =>
      if key.keyId ≠ record.keyId then .ok (some "ASSUMPTION_POLICY_KEY_ID_MISMATCH")
      else if key.algorithm ≠ record.algorithm then
        .ok (some "ASSUMPTION_POLICY_KEY_ALGORITHM_INCOMPATIBLE")
      else if key.keyAuthorityRootDigest ≠ keyRoot then
        .ok (some "ASSUMPTION_POLICY_KEY_AUTHORITY_ROOT_MISMATCH")
      else
        match collaborators.supports turn record.algorithm record.verificationProfile with
        | .found true =>
            match collaborators.verify turn record.algorithm record.verificationProfile
                key.publicKeyBytes record.signedDigest record.signatureBytes with
            | .found true => collaborators.checkAuthority turn request record
            | _ => .ok (some "ASSUMPTION_POLICY_SIGNATURE_INVALID")
        | _ => .ok (some "ASSUMPTION_POLICY_SIGNATURE_PROFILE_UNSUPPORTED")

/-- The loop of `_verify_signatures_and_authority`. -/
def verifyRecords (collaborators : Collaborators D) (request : PreparationRequest D) :
    Nat → List ProcessingSignatureRecord → Except PolicyError (List String × List String)
  | _, [] => .ok ([], [])
  | turn, record :: rest => do
      let code ← collaborators.verifyOneRecord turn request record
      let (valid, rejected) ← verifyRecords collaborators request (turn + 1) rest
      match code with
      | none => return (record.signerId :: valid, rejected)
      | some code => return (valid, code :: rejected)

local instance stringLe_trans : IsTrans String (· ≤ ·) := inferInstance

local instance stringLe_antisymm : @Std.Antisymm String (· ≤ ·) := inferInstance

/-- `_verify_signatures_and_authority`. -/
def verifySignaturesAndAuthority (collaborators : Collaborators D) (request : PreparationRequest D)
    (records : List ProcessingSignatureRecord) : Except PolicyError (List String × List String) := do
  let (valid, rejected) ← collaborators.verifyRecords request 0 records
  return (valid.toFinset.sort, rejected.toFinset.sort)

/-- `prepare`. -/
def prepare (collaborators : Collaborators D) (request : PreparationRequest D) :
    Except PolicyError (AssumptionPolicyLedgerEntryV3 D) := do
  staged "POLICY_STRUCTURE_AND_OVERLAP" (validatePolicyOverlap request.policy)
  validateV3EnvelopeBindings request
  let approvalRule ← staged "RESOLVE_APPROVAL_PROFILE_CLASSIFICATION_AND_SIGNATURE_SET"
    (request.approvalPolicy.ruleFor request.signingPayload.approvalClass)
  let records ← parseAndCanonicalizeSignatures request
  let (validSignerIds, rejectedSignerCodes) ←
    collaborators.verifySignaturesAndAuthority request records
  validateApprovalThreshold request.approvalPolicy request.signingPayload validSignerIds
  staged "ACTIVATION_PROOF_AND_ENTRY" do
    let proof ← buildActivationProof request approvalRule validSignerIds rejectedSignerCodes
    AssumptionPolicyLedgerEntryV3.build {
      policy := request.policy
      signingPayload := request.signingPayload
      policyCommit := request.commit
      approvalPolicy := request.approvalPolicy
      signatureProfile := request.signatureProfile
      challengeClassificationPolicy := request.challengePolicy
      activationProof := proof }

/-- Collaborators that answer every record alike, with checked instances or not at all. -/
def steady (preparer : ReferenceAssumptionPolicyActivationPreparer D) : Collaborators D where
  resolveKey _ keyId algorithm root :=
    match preparer.resolveKey keyId algorithm root with
    | some key => .found (some key)
    | none => .foreign
  resolveAuthority _ signerId keyId root :=
    match preparer.resolveAuthority signerId keyId root with
    | some authority => .found (some authority)
    | none => .foreign
  supports _ algorithm profile := .found (preparer.supports algorithm profile)
  verify _ algorithm profile key digest signature :=
    .found (preparer.verify algorithm profile key digest signature)

variable {preparer : ReferenceAssumptionPolicyActivationPreparer D}
  {collaborators : Collaborators D} {request : PreparationRequest D}
  {record : ProcessingSignatureRecord} {turn : Nat}

omit [Sha256 D] [DigestText D] in
theorem verifyOneRecord_steady :
    (steady preparer).verifyOneRecord turn request record =
      .ok (preparer.verifyOneRecord request record) := by
  rw [verifyOneRecord, ReferenceAssumptionPolicyActivationPreparer.verifyOneRecord]
  cases resolved : preparer.resolveKey record.keyId record.algorithm
      request.signatureProfile.keyAuthorityRootDigest with
  | none => simp only [steady, resolved]
  | some key =>
      simp only [steady, resolved]
      by_cases keyId : key.keyId ≠ record.keyId
      · rw [if_pos keyId, if_pos keyId]
      rw [if_neg keyId, if_neg keyId]
      by_cases algorithm : key.algorithm ≠ record.algorithm
      · rw [if_pos algorithm, if_pos algorithm]
      rw [if_neg algorithm, if_neg algorithm]
      by_cases root : key.keyAuthorityRootDigest ≠ request.signatureProfile.keyAuthorityRootDigest
      · rw [if_pos root, if_pos root]
      rw [if_neg root, if_neg root]
      cases preparer.supports record.algorithm record.verificationProfile with
      | false => rfl
      | true =>
          cases preparer.verify record.algorithm record.verificationProfile key.publicKeyBytes
              record.signedDigest record.signatureBytes with
          | false => rfl
          | true =>
              simp only [checkAuthority, Bool.true_eq_false, if_false]
              cases preparer.resolveAuthority record.signerId record.keyId
                  request.signingPayload.authorityRootDigest with
              | none => rfl
              | some authority => rfl

omit [Sha256 D] [DigestText D] in
theorem verifyRecords_steady {records : List ProcessingSignatureRecord} :
    (steady preparer).verifyRecords request turn records =
      .ok ((records.filter fun record => preparer.verifyOneRecord request record = none).map
          (·.signerId), records.filterMap (preparer.verifyOneRecord request)) := by
  induction records generalizing turn with
  | nil => rfl
  | cons record rest ih =>
      rw [verifyRecords, verifyOneRecord_steady, ih]
      cases passed : preparer.verifyOneRecord request record with
      | none =>
          rw [List.filter_cons_of_pos (by simp [passed]), List.filterMap_cons_none passed]
          rfl
      | some code =>
          rw [List.filter_cons_of_neg (by simp [passed]), List.filterMap_cons_some passed]
          rfl

/-- Steady collaborators prepare what the preparer of pure functions prepares. -/
theorem prepare_steady : (steady preparer).prepare request = preparer.prepare request := by
  have verified : ∀ records, (steady preparer).verifySignaturesAndAuthority request records =
      .ok (preparer.verifySignaturesAndAuthority request records) := by
    intro records
    rw [verifySignaturesAndAuthority, verifyRecords_steady]
    rfl
  rw [prepare, ReferenceAssumptionPolicyActivationPreparer.prepare]
  simp only [verified]
  rfl

end Collaborators

/-! ### Denials -/

def PolicyError.IsDenial (error : PolicyError) : Prop := ∃ code stage, error = .denied code stage

/-- The contract errors that a stage turns into a denial. -/
def PolicyError.IsContractError (error : PolicyError) : Prop :=
  ∃ code, error = .activation code ∨ error = .execution code

open PolicyError

theorem raises_require {kind : PolicyError → Prop} {condition : Prop} [Decidable condition]
    {otherwise : PolicyError} (held : kind otherwise) :
    Raises kind (require condition otherwise) := by
  intro error raised
  rw [require] at raised
  split_ifs at raised
  cases raised
  exact held

theorem raises_require_bind {kind : PolicyError → Prop} {condition : Prop} [Decidable condition]
    {otherwise : PolicyError} {next : Unit → Except PolicyError α} (held : kind otherwise) :
    Raises kind (require condition otherwise >>= next) ↔ (condition → Raises kind (next ())) := by
  rw [require]
  split_ifs with met
  · change Raises kind (next ()) ↔ _
    simp [met]
  · change Raises kind (.error otherwise) ↔ _
    simp [raises_error, held, met]

theorem raises_staged {stage : String} {result : Except PolicyError α}
    (contract : Raises IsContractError result) : Raises IsDenial (staged stage result) := by
  cases result with
  | ok value => exact raises_ok value
  | error error =>
      obtain ⟨code, rfl | rfl⟩ := contract error rfl
      · exact raises_error.mpr ⟨code, stage, rfl⟩
      · exact raises_error.mpr ⟨code, stage, rfl⟩

omit [Sha256 D] [DigestText D] [DecidableEq D] in
theorem raises_refusePairs {overlap : α → α → Bool} {code : String} {items : List α} :
    Raises IsContractError (refusePairs overlap (.activation code) items) := by
  induction items with
  | nil => exact raises_ok ()
  | cons left rest ih =>
      rw [refusePairs, raises_bind]
      exact ⟨raises_require ⟨code, .inl rfl⟩, fun _ _ => ih⟩

omit [Sha256 D] [DigestText D] [DecidableEq D] in
theorem raises_validatePolicyOverlap {policy : AssumptionAuthorityPolicy D} :
    Raises IsContractError (validatePolicyOverlap policy) := by
  rw [validatePolicyOverlap, raises_bind]
  exact ⟨raises_refusePairs, fun _ _ => raises_refusePairs⟩

variable {request : PreparationRequest D}

theorem raises_bindings : Raises IsDenial (validateV3EnvelopeBindings request) := by
  simp only [validateV3EnvelopeBindings, raises_bind]
  have denied : ∀ (condition : Prop) [Decidable condition] (code : String),
      Raises IsDenial (require condition (.denied code "COMMIT_BINDINGS")) :=
    fun _ _ code => raises_require ⟨code, _, rfl⟩
  simp only [denied, implies_true, and_self]

omit [Sha256 D] [DigestText D] [DecidableEq D] in
/-- There is a rule of every class. -/
theorem exists_ruleFor (policy : AssumptionPolicyApprovalPolicy D) (approvalClass : ApprovalClass) :
    ∃ rule, policy.ruleFor approvalClass = .ok rule := by
  have listed : approvalClass ∈ policy.rules.map (·.approvalClass) := by
    rw [policy.classes]
    cases approvalClass <;> decide
  obtain ⟨rule, member, same⟩ := List.mem_map.mp listed
  cases found : policy.rules.find? fun rule => rule.approvalClass = approvalClass with
  | none => exact absurd (decide_eq_true same) (List.find?_eq_none.mp found rule member)
  | some chosen =>
      rw [AssumptionPolicyApprovalPolicy.ruleFor, found]
      exact ⟨chosen, rfl⟩

omit [Sha256 D] [DigestText D] [DecidableEq D] in
theorem raises_ruleFor {policy : AssumptionPolicyApprovalPolicy D} {approvalClass : ApprovalClass} :
    Raises IsContractError (policy.ruleFor approvalClass) := by
  obtain ⟨rule, ruled⟩ := exists_ruleFor policy approvalClass
  rw [ruled]
  exact raises_ok rule

omit [Sha256 D] [DigestText D] [DecidableEq D] in
theorem raises_threshold {approvalPolicy : AssumptionPolicyApprovalPolicy D}
    {signingPayload : AssumptionPolicySigningPayload D} {validSignerIds : List String} :
    Raises IsDenial (validateApprovalThreshold approvalPolicy signingPayload validSignerIds) := by
  simp only [validateApprovalThreshold, raises_bind]
  have denied : ∀ (condition : Prop) [Decidable condition] (code : String),
      Raises IsDenial (require condition (.denied code "THRESHOLD_AND_REQUIRED_SIGNERS")) :=
    fun _ _ code => raises_require ⟨code, _, rfl⟩
  simp only [denied, raises_staged raises_ruleFor, implies_true, and_self]

theorem raises_build {envelope : PolicyEnvelope D} :
    Raises IsContractError (AssumptionPolicyLedgerEntryV3.build envelope) := by
  have checked : Raises IsContractError envelope.postInit := by
    rw [PolicyEnvelope.postInit, raises_bind]
    exact ⟨raises_ruleFor, fun _ _ => raises_require ⟨_, .inl rfl⟩⟩
  rw [AssumptionPolicyLedgerEntryV3.build]
  split
  · exact raises_ok _
  · rename_i error failed
    exact raises_error.mpr (checked error failed)

omit [DecidableEq D] in
theorem raises_proof {approvalRule : AssumptionPolicyApprovalRule} {valid rejected : List String} :
    Raises IsContractError (buildActivationProof request approvalRule valid rejected) := by
  rw [buildActivationProof]
  split
  · split
    · exact raises_ok _
    · exact raises_error.mpr ⟨_, .inl rfl⟩
  · exact raises_error.mpr ⟨_, .inl rfl⟩

/-! ### Signatures -/

def Ascii (text : String) : Prop := ∀ character ∈ text.toList, character.toNat < 128

instance (text : String) : Decidable (Ascii text) :=
  inferInstanceAs (Decidable (∀ character ∈ text.toList, character.toNat < 128))

/-- The signature passes the checks that stand before the decoder. -/
structure Addressed (request : PreparationRequest D) (raw : SignatureRecord) : Prop where
  target : raw.signedDigest = DigestText.text request.signingPayload.signingPayloadDigest
  pinned : ∃ item ∈ request.signatureProfile.algorithmProfiles, item.1 = raw.algorithm
  scope : raw.authorityScope = request.signatureProfile.requiredAuthorityScope

/-- The parser gets past these signatures: all of them parse, for different signers. -/
structure Passes (request : PreparationRequest D) (signatures : List SignatureRecord) : Prop where
  parsed : ∀ raw ∈ signatures, ∃ record, parseOneSignature request raw = .ok record
  distinct : (signatures.map (·.signerId)).Nodup

/-- Every signature that the decoder is given is an ASCII text. -/
def DecodesAscii (request : PreparationRequest D) : Prop :=
  ∀ front raw back, request.signatureSet.signatures = front ++ raw :: back →
    Passes request front → Addressed request raw → Ascii raw.signatureBase64

/-- The check of the decoder, whose failure is not a denial. -/
theorem raises_uncaught_bind {condition : Prop} [Decidable condition] {message : String}
    {next : Unit → Except PolicyError α} :
    Raises IsDenial (require condition (.uncaught message) >>= next) ↔
      condition ∧ Raises IsDenial (next ()) := by
  have escapes : ¬ IsDenial (.uncaught message) := by
    rintro ⟨code, stage, same⟩
    cases same
  rw [require]
  split_ifs with met
  · change Raises IsDenial (next ()) ↔ _
    simp [met]
  · change Raises IsDenial (.error _) ↔ _
    simp [raises_error, escapes, met]

theorem isDenial (code stage : String) : IsDenial (.denied code stage) := ⟨code, stage, rfl⟩

omit [DecidableEq D] in
theorem raises_parseOneSignature {raw : SignatureRecord} :
    Raises IsDenial (parseOneSignature request raw) ↔
      (Addressed request raw → Ascii raw.signatureBase64) := by
  unfold parseOneSignature
  rw [raises_require_bind (isDenial _ _)]
  constructor
  · intro raises addressed
    have step := raises addressed.target
    obtain ⟨item, member, named⟩ := addressed.pinned
    cases pinned : request.signatureProfile.algorithmProfiles.find? fun item =>
        item.1 = raw.algorithm with
    | none => exact absurd (decide_eq_true named) (List.find?_eq_none.mp pinned item member)
    | some profile =>
        simp only [pinned, raises_require_bind (isDenial _ _), raises_uncaught_bind] at step
        exact (step addressed.scope).1
  · intro ascii target
    split
    · exact raises_error.mpr (isDenial _ _)
    · rename_i verificationProfile pinned
      simp only [raises_require_bind (isDenial _ _), raises_uncaught_bind]
      intro scope
      have named := List.find?_some pinned
      have addressed : Addressed request raw :=
        ⟨target, ⟨_, List.mem_of_find?_eq_some pinned, of_decide_eq_true named⟩, scope⟩
      refine ⟨ascii addressed, ?_⟩
      split
      · exact raises_error.mpr (isDenial _ _)
      · exact (raises_require_bind (isDenial _ _)).mpr fun _ => raises_ok _

omit [DecidableEq D] in
/-- The loop over the signatures, after some signers have been seen. -/
theorem raises_parseSignatures {seen : List String} {signatures : List SignatureRecord} :
    Raises IsDenial (parseSignatures request seen signatures) ↔
      ∀ front raw back, signatures = front ++ raw :: back → Passes request front →
        (∀ other ∈ front, other.signerId ∉ seen) → Addressed request raw →
          Ascii raw.signatureBase64 := by
  induction signatures generalizing seen with
  | nil => simp [parseSignatures, raises_ok]
  | cons raw rest ih =>
      rw [parseSignatures, raises_bind, raises_parseOneSignature]
      simp only [raises_require_bind (isDenial _ _), raises_bind, ih]
      constructor
      · rintro ⟨here, later⟩ front other back shape passes apart addressed
        cases front with
        | nil =>
            obtain ⟨rfl, rfl⟩ := List.cons.inj shape
            exact here addressed
        | cons first front =>
            obtain ⟨rfl, rfl⟩ := List.cons.inj shape
            obtain ⟨record, parsed⟩ := passes.parsed raw List.mem_cons_self
            have signer := signerId_of_ok parsed
            have single : raw.signerId ∉ front.map (·.signerId) :=
              (List.nodup_cons.mp passes.distinct).1
            have distinct := (List.nodup_cons.mp passes.distinct).2
            have fresh : record.signerId ∉ seen := by
              rw [signer]
              exact apart raw List.mem_cons_self
            refine (later record parsed fresh).1 front other back rfl ⟨?_, distinct⟩ ?_ addressed
            · exact fun item member => passes.parsed item (List.mem_cons_of_mem _ member)
            · intro item member known
              rcases List.mem_cons.mp known with same | older
              · apply single
                rw [← signer, ← same]
                exact List.mem_map_of_mem member
              · exact apart item (List.mem_cons_of_mem _ member) older
      · intro ascii
        refine ⟨ascii [] raw rest rfl ⟨List.forall_mem_nil _, List.nodup_nil⟩
          (List.forall_mem_nil _), ?_⟩
        intro record parsed fresh
        have signer := signerId_of_ok parsed
        refine ⟨?_, fun _ _ => raises_ok _⟩
        rintro front other back rfl passes apart addressed
        refine ascii (raw :: front) other back rfl ⟨?_, ?_⟩ ?_ addressed
        · exact List.forall_mem_cons.mpr ⟨⟨record, parsed⟩, passes.parsed⟩
        · rw [List.map_cons, List.nodup_cons]
          refine ⟨?_, passes.distinct⟩
          intro repeated
          obtain ⟨item, member, same⟩ := List.mem_map.mp repeated
          apply apart item member
          rw [same, signer]
          exact List.mem_cons_self
        · refine List.forall_mem_cons.mpr ⟨signer ▸ fresh, ?_⟩
          exact fun item member known => apart item member (List.mem_cons_of_mem _ known)

omit [DecidableEq D] in
theorem raises_parse :
    Raises IsDenial (parseAndCanonicalizeSignatures request) ↔ DecodesAscii request := by
  rw [parseAndCanonicalizeSignatures, raises_require_bind (isDenial _ _), raises_bind,
    raises_parseSignatures]
  constructor
  · intro raises front raw back shape passes addressed
    have some : request.signatureSet.signatures ≠ [] := by
      rw [shape]
      simp
    exact (raises some).1 front raw back shape passes (by simp) addressed
  · intro ascii _
    exact ⟨fun front raw back shape passes _ => ascii front raw back shape passes,
      fun _ _ => raises_ok _⟩

/-! ### Verification -/

/-- The verification of a record reads an instance that no constructor has filled. -/
inductive ReadsUnset (collaborators : Collaborators D) (request : PreparationRequest D) (turn : Nat)
    (record : ProcessingSignatureRecord) : Prop where
  | key (resolved : collaborators.resolveKey turn record.keyId record.algorithm
      request.signatureProfile.keyAuthorityRootDigest = .found none)
  | authority (key : ResolvedAssumptionPolicyVerificationKey D)
      (resolved : collaborators.resolveKey turn record.keyId record.algorithm
        request.signatureProfile.keyAuthorityRootDigest = .found (some key))
      (keyId : key.keyId = record.keyId) (algorithm : key.algorithm = record.algorithm)
      (root : key.keyAuthorityRootDigest = request.signatureProfile.keyAuthorityRootDigest)
      (supported : collaborators.supports turn record.algorithm record.verificationProfile =
        .found true)
      (verified : collaborators.verify turn record.algorithm record.verificationProfile
        key.publicKeyBytes record.signedDigest record.signatureBytes = .found true)
      (authorized : collaborators.resolveAuthority turn record.signerId record.keyId
        request.signingPayload.authorityRootDigest = .found none)

variable {collaborators : Collaborators D} {record : ProcessingSignatureRecord} {turn : Nat}

omit [Sha256 D] [DigestText D] in
theorem verifyOneRecord_unset (unset : ReadsUnset collaborators request turn record) :
    collaborators.verifyOneRecord turn request record = .error (.uncaught "AttributeError") := by
  rw [Collaborators.verifyOneRecord]
  cases unset with
  | key resolved => simp only [resolved]
  | authority key resolved keyId algorithm root supported verified authorized =>
      simp only [resolved, keyId, algorithm, root, supported, verified, ne_eq, not_true_eq_false,
        if_false, Collaborators.checkAuthority, authorized]

omit [Sha256 D] [DigestText D] in
theorem verifyOneRecord_set (set : ¬ ReadsUnset collaborators request turn record) :
    ∃ code, collaborators.verifyOneRecord turn request record = .ok code := by
  rw [Collaborators.verifyOneRecord]
  cases resolved : collaborators.resolveKey turn record.keyId record.algorithm
      request.signatureProfile.keyAuthorityRootDigest with
  | raised => exact ⟨_, rfl⟩
  | foreign => exact ⟨_, rfl⟩
  | found value =>
      cases value with
      | none => exact absurd (.key resolved) set
      | some key =>
          by_cases keyId : key.keyId = record.keyId
          · by_cases algorithm : key.algorithm = record.algorithm
            · by_cases root : key.keyAuthorityRootDigest =
                request.signatureProfile.keyAuthorityRootDigest
              · simp only [keyId, algorithm, root, ne_eq, not_true_eq_false, if_false]
                split
                · rename_i supported
                  split
                  · rename_i verified
                    rw [Collaborators.checkAuthority]
                    split
                    · exact ⟨_, rfl⟩
                    · exact ⟨_, rfl⟩
                    · rename_i authorized
                      exact absurd (.authority key resolved keyId algorithm root supported verified
                        authorized) set
                    · exact ⟨_, rfl⟩
                  · exact ⟨_, rfl⟩
                · exact ⟨_, rfl⟩
              · simp only [keyId, algorithm, ne_eq, not_true_eq_false, root, not_false_eq_true,
                  if_true, if_false]
                exact ⟨_, rfl⟩
            · simp only [keyId, ne_eq, not_true_eq_false, algorithm, not_false_eq_true, if_true,
                if_false]
              exact ⟨_, rfl⟩
          · simp only [ne_eq, keyId, not_false_eq_true, if_true]
            exact ⟨_, rfl⟩

omit [Sha256 D] [DigestText D] in
/-- The loop over the records, from a turn on. -/
theorem raises_verifyRecords {records : List ProcessingSignatureRecord} :
    Raises IsDenial (collaborators.verifyRecords request turn records) ↔
      ∀ i record, records[i]? = some record → ¬ ReadsUnset collaborators request (turn + i) record := by
  induction records generalizing turn with
  | nil => simp [Collaborators.verifyRecords, raises_ok]
  | cons first rest ih =>
      rw [Collaborators.verifyRecords]
      by_cases unset : ReadsUnset collaborators request turn first
      · rw [verifyOneRecord_unset unset]
        refine iff_of_false ?_ (fun set => set 0 first rfl unset)
        intro raises
        obtain ⟨code, stage, same⟩ := (raises_bind.mp raises).1 _ rfl
        cases same
      · obtain ⟨code, verified⟩ := verifyOneRecord_set unset
        rw [verified, raises_bind]
        have settled : ∀ counted : List String × List String,
            Raises IsDenial (match counted with
              | (valid, rejected) => match code with
                | none => (return (first.signerId :: valid, rejected) :
                    Except PolicyError (List String × List String))
                | some code => return (valid, code :: rejected)) := by
          intro counted
          cases code with
          | none => exact raises_ok _
          | some code => exact raises_ok _
        constructor
        · rintro ⟨-, raises⟩ i record place
          have later := ih.mp (raises_bind.mp (raises code rfl)).1
          cases i with
          | zero =>
              cases place
              exact unset
          | succ i =>
              have set := later i record place
              rwa [Nat.add_right_comm] at set
        · intro set
          refine ⟨raises_ok _, ?_⟩
          rintro _ ⟨⟩
          refine raises_bind.mpr ⟨ih.mpr ?_, fun counted _ => settled counted⟩
          intro i record place
          have later := set (i + 1) record place
          rwa [← Nat.add_assoc, Nat.add_right_comm] at later

/-! ### Preparation -/

/-- What a preparation needs of its inputs so that it cannot fail but by a denial: once the policy
and the bindings have passed, every signature text that is decoded is ASCII, and no instance that
is read is unset. -/
structure FailsClosed (collaborators : Collaborators D) (request : PreparationRequest D) : Prop where
  ascii : validatePolicyOverlap request.policy = .ok () →
    validateV3EnvelopeBindings request = .ok () → DecodesAscii request
  set : validatePolicyOverlap request.policy = .ok () →
    validateV3EnvelopeBindings request = .ok () →
    ∀ records, parseAndCanonicalizeSignatures request = .ok records →
      ∀ turn record, records[turn]? = some record →
        ¬ ReadsUnset collaborators request turn record

omit [Sha256 D] [DigestText D] in
theorem raises_verifySignaturesAndAuthority {records : List ProcessingSignatureRecord} :
    Raises IsDenial (collaborators.verifySignaturesAndAuthority request records) ↔
      ∀ turn record, records[turn]? = some record →
        ¬ ReadsUnset collaborators request turn record := by
  rw [Collaborators.verifySignaturesAndAuthority, raises_bind, raises_verifyRecords]
  simp only [Nat.zero_add]
  exact and_iff_left fun _ _ => raises_ok _

theorem raises_prepare :
    Raises IsDenial (collaborators.prepare request) ↔ FailsClosed collaborators request := by
  rw [Collaborators.prepare, raises_bind]
  constructor
  · rintro ⟨-, raises⟩
    obtain ⟨rule, ruled⟩ :=
      exists_ruleFor request.approvalPolicy request.signingPayload.approvalClass
    have reached := fun overlap bound => raises_bind.mp
      ((raises_bind.mp ((raises_bind.mp (raises () (staged_ok.mpr overlap))).2 () bound)).2 rule
        (staged_ok.mpr ruled))
    refine ⟨fun overlap bound => raises_parse.mp (reached overlap bound).1, ?_⟩
    intro overlap bound records parsed
    exact raises_verifySignaturesAndAuthority.mp
      (raises_bind.mp ((reached overlap bound).2 records parsed)).1
  · intro closed
    refine ⟨raises_staged raises_validatePolicyOverlap, fun _ overlap => ?_⟩
    refine raises_bind.mpr ⟨raises_bindings, fun _ bound => ?_⟩
    refine raises_bind.mpr ⟨raises_staged raises_ruleFor, fun rule _ => ?_⟩
    refine raises_bind.mpr ⟨raises_parse.mpr (closed.ascii (staged_ok.mp overlap) bound), ?_⟩
    intro records parsed
    refine raises_bind.mpr ⟨raises_verifySignaturesAndAuthority.mpr
      (closed.set (staged_ok.mp overlap) bound records parsed), fun counted _ => ?_⟩
    refine raises_bind.mpr ⟨raises_threshold, fun _ _ => raises_staged ?_⟩
    exact raises_bind.mpr ⟨raises_proof, fun _ _ => raises_build⟩

/-- A preparation returns or denies exactly when its inputs fail closed. -/
theorem prepare_denies_iff (collaborators : Collaborators D) (request : PreparationRequest D) :
    ((∃ entry, collaborators.prepare request = .ok entry) ∨
      ∃ code stage, collaborators.prepare request = .error (.denied code stage)) ↔
    FailsClosed collaborators request := by
  rw [← raises_prepare]
  cases prepared : collaborators.prepare request with
  | ok entry => exact iff_of_true (.inl ⟨entry, rfl⟩) (raises_ok entry)
  | error error => simp [raises_error, IsDenial]

section Run

omit [DecidableEq D] in
theorem sampleSignature_escapes (signatures : List SignatureRecord) :
    parseOneSignature (sampleRequest signatures : PreparationRequest D)
        (sampleSignature D "alice" "éééé") =
      .error (.uncaught "string argument should contain only ASCII characters") := by
  have found : ((sampleRequest signatures : PreparationRequest D).signatureProfile.algorithmProfiles.find?
      fun item => item.1 = (sampleSignature D "alice" "éééé").algorithm) =
        some ("ed25519", "profile-1") := rfl
  have beyond : ¬ ∀ character ∈ (sampleSignature D "alice" "éééé").signatureBase64.toList,
      character.toNat < 128 := by
    change ¬ ∀ character ∈ "éééé".toList, character.toNat < 128
    simp only [String.reduceToList, List.mem_cons, List.not_mem_nil, or_false, or_self, forall_eq]
    decide
  have target : (sampleSignature D "alice" "éééé").signedDigest = DigestText.text
      (sampleRequest signatures : PreparationRequest D).signingPayload.signingPayloadDigest := rfl
  have scope : (sampleSignature D "alice" "éééé").authorityScope =
      (sampleRequest signatures : PreparationRequest D).signatureProfile.requiredAuthorityScope := rfl
  unfold parseOneSignature
  simp only [found, require, if_pos target, if_pos scope, if_neg beyond]
  rfl

/-- A signature text outside ASCII escapes the handler of the decoder. -/
theorem non_ascii_escapes :
    (Collaborators.steady trustingPreparer).prepare
        (sampleRequest [sampleSignature (List Nat) "alice" "éééé"] : PreparationRequest (List Nat)) =
      .error (.uncaught "string argument should contain only ASCII characters") := by
  have ruled : (sampleRequest [sampleSignature (List Nat) "alice" "éééé"] :
      PreparationRequest (List Nat)).approvalPolicy.ruleFor .standard =
        .ok (sampleRule .standard 2 (by decide) (by decide)) := rfl
  have parsed : parseAndCanonicalizeSignatures
      (sampleRequest [sampleSignature (List Nat) "alice" "éééé"] : PreparationRequest (List Nat)) =
        .error (.uncaught "string argument should contain only ASCII characters") := by
    have listed : (sampleRequest [sampleSignature (List Nat) "alice" "éééé"] :
        PreparationRequest (List Nat)).signatureSet.signatures =
          [sampleSignature (List Nat) "alice" "éééé"] := rfl
    rw [parseAndCanonicalizeSignatures, listed, require, if_pos (List.cons_ne_nil _ _),
      parseSignatures, sampleSignature_escapes]
    rfl
  rw [Collaborators.prepare, sampleRequest_overlap, sampleRequest_bound, parsed]
  exact congrArg (fun ruling => _ >>= fun _ => ruling) rfl

end Run

end CsdFoundry.Policy

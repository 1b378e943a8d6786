import CsdFoundry.Policy.Publication
import CsdFoundry.Results

/-! The threshold of an activation is sound: the signers that are counted are those of the valid
signatures, each once, whatever the order in which the signatures are listed. -/
namespace CsdFoundry.Policy
variable {D : Type} [Sha256 D] [DigestText D] [DecidableEq D]

/-- The key that the resolver gives verifies the signature over the signing payload. -/
structure Signed (preparer : ReferenceAssumptionPolicyActivationPreparer D)
    (request : PreparationRequest D) (raw : SignatureRecord) (verificationProfile : String)
    (bytes : List UInt8) (key : ResolvedAssumptionPolicyVerificationKey D) : Prop where
  target : raw.signedDigest = DigestText.text request.signingPayload.signingPayloadDigest
  pinned : (raw.algorithm, verificationProfile) ∈ request.signatureProfile.algorithmProfiles
  decoded : b64decode raw.signatureBase64.toList = some bytes
  resolved : preparer.resolveKey raw.keyId raw.algorithm
    request.signatureProfile.keyAuthorityRootDigest = some key
  keyId : key.keyId = raw.keyId
  algorithm : key.algorithm = raw.algorithm
  root : key.keyAuthorityRootDigest = request.signatureProfile.keyAuthorityRootDigest
  supported : preparer.supports raw.algorithm verificationProfile = true
  verified : preparer.verify raw.algorithm verificationProfile key.publicKeyBytes raw.signedDigest
    bytes = true

/-- The authority that the resolver gives lets the signer sign at the effective sequence. -/
structure Authorized (preparer : ReferenceAssumptionPolicyActivationPreparer D)
    (request : PreparationRequest D) (raw : SignatureRecord)
    (authority : ResolvedAssumptionPolicySignerAuthority D) : Prop where
  resolved : preparer.resolveAuthority raw.signerId raw.keyId
    request.signingPayload.authorityRootDigest = some authority
  signer : authority.signerId = raw.signerId
  key : authority.keyId = raw.keyId
  root : authority.authorityRootDigest = request.signingPayload.authorityRootDigest
  algorithm : raw.algorithm ∈ authority.algorithms
  scope : request.signatureProfile.requiredAuthorityScope ∈ authority.authorityScopes
  started : authority.validFromSequence ≤ request.signingPayload.effectiveFromSequence
  unexpired : ∀ limit ∈ authority.validUntilSequence,
    request.signingPayload.effectiveFromSequence < limit
  unrevoked : ∀ revocation ∈ authority.revocationSequence,
    request.signingPayload.effectiveFromSequence < revocation

/-- The signature counts for its signer. -/
def Counted (preparer : ReferenceAssumptionPolicyActivationPreparer D)
    (request : PreparationRequest D) (raw : SignatureRecord) : Prop :=
  (∃ verificationProfile bytes key, Signed preparer request raw verificationProfile bytes key) ∧
    ∃ authority, Authorized preparer request raw authority

/-! ### Parsing -/

variable {request : PreparationRequest D} {raw : SignatureRecord}
  {record : ProcessingSignatureRecord}

/-- What one parsed signature is. -/
structure Parsed (request : PreparationRequest D) (raw : SignatureRecord)
    (record : ProcessingSignatureRecord) : Prop where
  same : record.toSignatureRecord = raw
  target : raw.signedDigest = DigestText.text request.signingPayload.signingPayloadDigest
  pinned : request.signatureProfile.algorithmProfiles.find? (fun item => item.1 = raw.algorithm) =
    some (raw.algorithm, record.verificationProfile)
  scope : raw.authorityScope = request.signatureProfile.requiredAuthorityScope
  decoded : b64decode raw.signatureBase64.toList = some record.signatureBytes

omit [DecidableEq D] in
theorem parsed_of_ok (parsed : parseOneSignature request raw = .ok record) :
    Parsed request raw record := by
  unfold parseOneSignature at parsed
  obtain ⟨target, parsed⟩ := require_bind_ok.mp parsed
  cases pinned : request.signatureProfile.algorithmProfiles.find? fun item =>
      item.1 = raw.algorithm with
  | none => simp [pinned, throw, throwThe, MonadExceptOf.throw] at parsed
  | some item =>
      obtain ⟨algorithm, verificationProfile⟩ := item
      have named : algorithm = raw.algorithm := by simpa using List.find?_some pinned
      subst named
      simp only [pinned, require_bind_ok] at parsed
      obtain ⟨scope, -, parsed⟩ := parsed
      cases decoded : b64decode raw.signatureBase64.toList with
      | none => simp [decoded, throw, throwThe, MonadExceptOf.throw] at parsed
      | some bytes =>
          simp only [decoded, require_bind_ok] at parsed
          obtain ⟨-, made⟩ := parsed
          cases made
          exact ⟨rfl, target, pinned, scope, decoded⟩

omit [DecidableEq D] in
theorem signerId_of_ok (parsed : parseOneSignature request raw = .ok record) :
    record.signerId = raw.signerId := by
  rw [(parsed_of_ok parsed).same]

omit [DecidableEq D] in
/-- All signatures parse, and no signer signs twice. -/
theorem parseSignatures_ok {seen : List String} {signatures : List SignatureRecord}
    {records : List ProcessingSignatureRecord} :
    parseSignatures request seen signatures = .ok records ↔
      signatures.map (parseOneSignature request) = records.map .ok ∧
        (signatures.map (·.signerId)).Nodup ∧ ∀ raw ∈ signatures, raw.signerId ∉ seen := by
  induction signatures generalizing seen records with
  | nil => simp [parseSignatures, eq_comm]
  | cons raw rest ih =>
      rw [parseSignatures, bind_ok, List.map_cons, eq_comm, List.map_eq_cons_iff, List.map_cons,
        List.nodup_cons]
      constructor
      · rintro ⟨record, parsed, checked⟩
        obtain ⟨fresh, checked⟩ := require_bind_ok.mp checked
        obtain ⟨others, later, made⟩ := bind_ok.mp checked
        cases made
        obtain ⟨results, distinct, apart⟩ := ih.mp later
        have signer := signerId_of_ok parsed
        refine ⟨⟨record, others, rfl, parsed.symm, results.symm⟩, ⟨?_, distinct⟩, ?_⟩
        · intro repeated
          obtain ⟨other, member, same⟩ := List.mem_map.mp repeated
          apply apart other member
          rw [same, signer]
          exact List.mem_cons_self
        · intro other member
          rcases List.mem_cons.mp member with rfl | among
          · rwa [← signer]
          · exact fun known => apart other among (List.mem_cons_of_mem _ known)
      · rintro ⟨⟨record, others, rfl, parsed, results⟩, ⟨single, distinct⟩, apart⟩
        have signer := signerId_of_ok parsed.symm
        refine ⟨record, parsed.symm, require_bind_ok.mpr ⟨?_, bind_ok.mpr ⟨others, ?_, rfl⟩⟩⟩
        · rw [signer]
          exact apart raw List.mem_cons_self
        · refine ih.mpr ⟨results.symm, distinct, ?_⟩
          intro other member known
          rcases List.mem_cons.mp known with same | older
          · apply single
            rw [← signer, ← same]
            exact List.mem_map_of_mem member
          · exact apart other (List.mem_cons_of_mem _ member) older

/-! ### Verification -/

variable {preparer : ReferenceAssumptionPolicyActivationPreparer D}

omit [DecidableEq D] in
/-- An algorithm has one pinned profile. -/
theorem Parsed.profile_unique (parsed : Parsed request raw record) {verificationProfile : String}
    (pinned : (raw.algorithm, verificationProfile) ∈ request.signatureProfile.algorithmProfiles) :
    verificationProfile = record.verificationProfile := by
  have distinct : (request.signatureProfile.algorithmProfiles.map (·.1)).Nodup :=
    request.signatureProfile.ordered.imp fun less => ne_of_lt less
  have found := List.mem_of_find?_eq_some parsed.pinned
  exact congrArg Prod.snd (List.inj_on_of_nodup_map distinct pinned found rfl)

/-- One check of a record. -/
theorem reject_none {rejects : Prop} [Decidable rejects] {code : String} {next : Option String} :
    (if rejects then some code else next) = none ↔ ¬ rejects ∧ next = none := by
  split_ifs with rejected
  · simp [rejected]
  · simp [rejected]

/-- No code rejects the record of a signature exactly when the signature counts. -/
theorem verifyOneRecord_none (parsed : Parsed request raw record) :
    preparer.verifyOneRecord request record = none ↔ Counted preparer request raw := by
  have found := List.mem_of_find?_eq_some parsed.pinned
  obtain ⟨rfl, target, -, -, decoded⟩ := id parsed
  unfold ReferenceAssumptionPolicyActivationPreparer.verifyOneRecord
  constructor
  · intro passed
    cases resolved : preparer.resolveKey record.keyId record.algorithm
        request.signatureProfile.keyAuthorityRootDigest with
    | none => simp [resolved] at passed
    | some key =>
        simp only [resolved, reject_none, ne_eq, not_not, Bool.not_eq_false] at passed
        obtain ⟨keyId, algorithm, root, supported, verified, passed⟩ := passed
        refine ⟨⟨record.verificationProfile, record.signatureBytes, key, target, found, decoded,
          resolved, keyId, algorithm, root, supported, verified⟩, ?_⟩
        cases authorized : preparer.resolveAuthority record.signerId record.keyId
            request.signingPayload.authorityRootDigest with
        | none => simp [authorized] at passed
        | some authority =>
            simp only [authorized, reject_none, not_or, not_not, not_lt, Option.any_eq_true,
              not_exists, not_and, decide_eq_true_eq, not_le, and_true] at passed
            obtain ⟨⟨signer, key⟩, root, listed, scope, started, expired, revoked⟩ := passed
            exact ⟨authority, authorized, signer, key, root, listed, scope, started, expired,
              revoked⟩
  · rintro ⟨⟨verificationProfile, bytes, key, signed⟩, authority, authorized⟩
    have profile := parsed.profile_unique signed.pinned
    have same : record.signatureBytes = bytes := Option.some.inj (decoded.symm.trans signed.decoded)
    subst profile same
    simp only [signed.resolved, reject_none, ne_eq, not_not, Bool.not_eq_false]
    refine ⟨signed.keyId, signed.algorithm, signed.root, signed.supported, signed.verified, ?_⟩
    simp only [authorized.resolved, reject_none, not_or, not_not, not_lt, Option.any_eq_true,
      not_exists, not_and, decide_eq_true_eq, not_le, and_true]
    exact ⟨⟨authorized.signer, authorized.key⟩, authorized.root, authorized.algorithm,
      authorized.scope, authorized.started, authorized.unexpired, authorized.unrevoked⟩

/-! ### Preparation -/

variable {entry : AssumptionPolicyLedgerEntryV3 D} {records others : List ProcessingSignatureRecord}

/-- The stages of a preparation that succeeds. -/
theorem prepare_iff : preparer.prepare request = .ok entry ↔
    validatePolicyOverlap request.policy = .ok () ∧ validateV3EnvelopeBindings request = .ok () ∧
    ∃ rule, request.approvalPolicy.ruleFor request.signingPayload.approvalClass = .ok rule ∧
    ∃ records, parseAndCanonicalizeSignatures request = .ok records ∧
      validateApprovalThreshold request.approvalPolicy request.signingPayload
        (preparer.verifySignaturesAndAuthority request records).1 = .ok () ∧
      ∃ proof, buildActivationProof request rule
          (preparer.verifySignaturesAndAuthority request records).1
          (preparer.verifySignaturesAndAuthority request records).2 = .ok proof ∧
        AssumptionPolicyLedgerEntryV3.build ⟨request.policy, request.signingPayload,
          request.commit, request.approvalPolicy, request.signatureProfile,
          request.challengePolicy, proof⟩ = .ok entry := by
  simp only [ReferenceAssumptionPolicyActivationPreparer.prepare, bind_ok, staged_ok,
    Unique.exists_iff]

omit [DecidableEq D] in
/-- The records of the signatures, whatever their order. -/
theorem parseAndCanonicalizeSignatures_ok
    (parsed : parseAndCanonicalizeSignatures request = .ok records) :
    ∃ listed, records.Perm listed ∧
      request.signatureSet.signatures.map (parseOneSignature request) = listed.map .ok ∧
      (request.signatureSet.signatures.map (·.signerId)).Nodup := by
  rw [parseAndCanonicalizeSignatures, require_bind_ok] at parsed
  obtain ⟨listed, made, same⟩ := bind_ok.mp parsed.2
  cases same
  obtain ⟨results, distinct, -⟩ := parseSignatures_ok.mp made
  exact ⟨listed, List.mergeSort_perm _ _, results, distinct⟩

/-- The signers that the verification finds valid. -/
theorem mem_verified {listed : List ProcessingSignatureRecord} (same : records.Perm listed)
    (results : request.signatureSet.signatures.map (parseOneSignature request) = listed.map .ok)
    {signer : String} :
    signer ∈ (preparer.verifySignaturesAndAuthority request records).1 ↔
      ∃ raw ∈ request.signatureSet.signatures, raw.signerId = signer ∧
        Counted preparer request raw := by
  simp only [ReferenceAssumptionPolicyActivationPreparer.verifySignaturesAndAuthority,
    Finset.mem_sort, List.mem_toFinset, List.mem_map, List.mem_filter, decide_eq_true_eq,
    same.mem_iff]
  constructor
  · rintro ⟨record, ⟨member, passed⟩, rfl⟩
    obtain ⟨raw, among, parsed⟩ := Results.mem_of_results results member
    exact ⟨raw, among, (signerId_of_ok parsed).symm,
      (verifyOneRecord_none (parsed_of_ok parsed)).mp passed⟩
  · rintro ⟨raw, among, rfl, counted⟩
    have image : parseOneSignature request raw ∈ listed.map .ok := by
      rw [← results]
      exact List.mem_map_of_mem among
    obtain ⟨record, member, parsed⟩ := List.mem_map.mp image
    exact ⟨record, ⟨member, (verifyOneRecord_none (parsed_of_ok parsed.symm)).mpr counted⟩,
      signerId_of_ok parsed.symm⟩

omit [Sha256 D] [DigestText D] in
theorem verifySignaturesAndAuthority_perm (same : records.Perm others) :
    preparer.verifySignaturesAndAuthority request records =
      preparer.verifySignaturesAndAuthority request others := by
  have valid := (same.filter fun record => preparer.verifyOneRecord request record = none).map
    (·.signerId)
  have rejected := same.filterMap (preparer.verifyOneRecord request)
  simp only [ReferenceAssumptionPolicyActivationPreparer.verifySignaturesAndAuthority,
    List.toFinset_eq_of_perm _ _ valid, List.toFinset_eq_of_perm _ _ rejected]

/-- The request with its signatures in another order. They are a set, which the digest of the set
is taken over in canonical order. -/
def PreparationRequest.listing (request : PreparationRequest D) (signatures : List SignatureRecord) :
    PreparationRequest D :=
  { request with signatureSet := ⟨request.signatureSet.digest, signatures⟩ }

omit [DecidableEq D] in
theorem parseAndCanonicalizeSignatures_perm {signatures : List SignatureRecord}
    (same : signatures.Perm request.signatureSet.signatures)
    (parsed : parseAndCanonicalizeSignatures request = .ok records) :
    ∃ others, parseAndCanonicalizeSignatures (request.listing signatures) = .ok others ∧
      records.Perm others := by
  have some := (require_bind_ok.mp parsed).1
  obtain ⟨listed, sorted, results, distinct⟩ := parseAndCanonicalizeSignatures_ok parsed
  have images := same.symm.map (parseOneSignature request)
  obtain ⟨others, others_results, others_same⟩ := Results.image_perm images results
  have nonempty : signatures ≠ [] := by
    rintro rfl
    exact some same.symm.eq_nil
  have made : parseSignatures (request.listing signatures) [] signatures = .ok others :=
    parseSignatures_ok.mpr ⟨others_results, (same.map (·.signerId)).nodup_iff.mpr distinct, by simp⟩
  refine ⟨others.mergeSort fun a b => a.sortKey ≤ b.sortKey, ?_, ?_⟩
  · exact require_bind_ok.mpr ⟨nonempty, bind_ok.mpr ⟨others, made, rfl⟩⟩
  · exact sorted.trans (others_same.trans (List.mergeSort_perm _ _).symm)

omit [Sha256 D] [DigestText D] [DecidableEq D] in
theorem ruleFor_ok {policy : AssumptionPolicyApprovalPolicy D} {approvalClass : ApprovalClass}
    {rule : AssumptionPolicyApprovalRule} (ruled : policy.ruleFor approvalClass = .ok rule) :
    rule ∈ policy.rules ∧ rule.approvalClass = approvalClass := by
  rw [AssumptionPolicyApprovalPolicy.ruleFor] at ruled
  split at ruled
  · rename_i found
    cases ruled
    exact ⟨List.mem_of_find?_eq_some found, by simpa using List.find?_some found⟩
  · cases ruled

/-- The rule of the class is met by the counted signers, who are distinct. -/
structure MeetsRule (signers : List String) (rule : AssumptionPolicyApprovalRule) : Prop where
  distinct : signers.Nodup
  enough : rule.requiredSignatureCount ≤ signers.length
  required : ∀ signer ∈ rule.requiredSignerIds, signer ∈ signers
  eligible : ∀ signer ∈ signers, signer ∈ rule.eligibleSignerIds

theorem prepare_listing {signatures : List SignatureRecord}
    (prepared : preparer.prepare request = .ok entry)
    (same : signatures.Perm request.signatureSet.signatures) :
    preparer.prepare (request.listing signatures) = .ok entry := by
  obtain ⟨overlap, bound, rule, ruled, records, parsed, threshold, proof, proved, built⟩ :=
    prepare_iff.mp prepared
  obtain ⟨others, reparsed, reordered⟩ := parseAndCanonicalizeSignatures_perm same parsed
  rw [verifySignaturesAndAuthority_perm reordered] at threshold proved
  exact prepare_iff.mpr
    ⟨overlap, bound, rule, ruled, others, reparsed, threshold, proof, proved, built⟩

/-- A preparation counts each signer of a valid signature once, meets the rule of its class with
them, and gives the same entry and proof for every order of the signatures. -/
theorem prepare_threshold (preparer : ReferenceAssumptionPolicyActivationPreparer D)
    (request : PreparationRequest D) (entry : AssumptionPolicyLedgerEntryV3 D)
    (prepared : preparer.prepare request = .ok entry) :
    (∀ signer, signer ∈ entry.activationProof.validSignerIds ↔
      ∃ raw ∈ request.signatureSet.signatures, raw.signerId = signer ∧
        Counted preparer request raw) ∧
    (request.signatureSet.signatures.map (·.signerId)).Nodup ∧
    (∃ rule ∈ request.approvalPolicy.rules,
      rule.approvalClass = request.signingPayload.approvalClass ∧
      MeetsRule entry.activationProof.validSignerIds rule) ∧
    ∀ signatures, signatures.Perm request.signatureSet.signatures →
      preparer.prepare (request.listing signatures) = .ok entry := by
  obtain ⟨-, -, rule, ruled, records, parsed, threshold, proof, proved, built⟩ :=
    prepare_iff.mp prepared
  have same := AssumptionPolicyLedgerEntryV3.build_ok built
  have recorded : entry.activationProof = proof := congrArg (·.activationProof) same
  have signers := buildActivationProof_signers proved
  obtain ⟨listed, sorted, results, distinct⟩ := parseAndCanonicalizeSignatures_ok parsed
  have members : ∀ signer, signer ∈ proof.validSignerIds ↔
      signer ∈ (preparer.verifySignaturesAndAuthority request records).1 := by
    intro signer
    rw [← List.mem_toFinset, signers, List.mem_toFinset]
  refine ⟨?_, distinct, ?_, fun _ => prepare_listing prepared⟩
  · intro signer
    rw [recorded, members, mem_verified sorted results]
  · obtain ⟨member, approvalClass⟩ := ruleFor_ok ruled
    obtain ⟨rule', ruled', eligible, enough, required⟩ := validateApprovalThreshold_ok.mp threshold
    cases Except.ok.inj (ruled.symm.trans ruled')
    rw [← signers] at eligible enough required
    rw [recorded]
    refine ⟨rule, member, approvalClass, proof.distinctSigners, ?_, ?_, ?_⟩
    · rwa [List.toFinset_card_of_nodup proof.distinctSigners] at enough
    · exact fun signer named => List.mem_toFinset.mp (required (List.mem_toFinset.mpr named))
    · exact fun signer counted => List.mem_toFinset.mp (eligible (List.mem_toFinset.mpr counted))

/-- An envelope that passes the checks is an entry. -/
theorem AssumptionPolicyLedgerEntryV3.build_bound {envelope : PolicyEnvelope D}
    (bound : envelope.postInit = .ok ()) :
    AssumptionPolicyLedgerEntryV3.build envelope = .ok ⟨envelope, bound⟩ := by
  rw [AssumptionPolicyLedgerEntryV3.build]
  split
  · rfl
  · rename_i failed
    cases bound.symm.trans failed

section Run

/-- Resolvers that know every key and every signer, and a verifier that accepts everything. -/
def trustingPreparer : ReferenceAssumptionPolicyActivationPreparer D where
  resolveKey keyId algorithm root := some ⟨keyId, algorithm, [1], root⟩
  resolveAuthority signerId keyId root :=
    some ⟨signerId, keyId, root, ["policy"], ["ed25519"], 0, none, none⟩
  supports _ _ := true
  verify _ _ _ _ _ := true

/-- A signature of a signer over the payload of the sample. -/
def sampleSignature (D : Type) [Sha256 D] [DigestText D] (signer text : String) :
    SignatureRecord where
  signerId := signer
  keyId := "key-1"
  algorithm := "ed25519"
  signedDigest := DigestText.text
    (sampleEnvelope ["alice", "bob"] (by decide) : PolicyEnvelope D).signingPayload.signingPayloadDigest
  signatureBase64 := text
  authorityScope := "policy"

/-- The request for the sample generation. -/
def sampleRequest (signatures : List SignatureRecord) : PreparationRequest D :=
  let envelope : PolicyEnvelope D := sampleEnvelope ["alice", "bob"] (by decide)
  ⟨envelope.policy, envelope.signingPayload, envelope.policyCommit, envelope.approvalPolicy,
    envelope.signatureProfile, envelope.challengeClassificationPolicy,
    ⟨domainDigest "ROOT" .null, signatures⟩⟩

omit [DecidableEq D] in
theorem sampleRequest_overlap (signatures : List SignatureRecord) :
    validatePolicyOverlap (sampleRequest signatures : PreparationRequest D).policy = .ok () := rfl

theorem sampleRequest_bound (signatures : List SignatureRecord) :
    validateV3EnvelopeBindings (sampleRequest signatures : PreparationRequest D) = .ok () := by
  simp only [validateV3EnvelopeBindings, require_bind_ok, require_ok]
  exact ⟨rfl, rfl, rfl, rfl, rfl, rfl, rfl, rfl, rfl, rfl, rfl, rfl, rfl, rfl⟩

omit [DecidableEq D] in
theorem sampleSignature_parsed (signatures : List SignatureRecord) (signer : String) :
    parseOneSignature (sampleRequest signatures : PreparationRequest D)
        (sampleSignature D signer "AAAA") =
      .ok ⟨sampleSignature D signer "AAAA", [0, 0, 0], "profile-1"⟩ := by
  have found : ((sampleRequest signatures : PreparationRequest D).signatureProfile.algorithmProfiles.find?
      fun item => item.1 = (sampleSignature D signer "AAAA").algorithm) =
        some ("ed25519", "profile-1") := rfl
  have decoded : b64decode (sampleSignature D signer "AAAA").signatureBase64.toList =
      some [0, 0, 0] := by
    change b64decode "AAAA".toList = _
    decide
  unfold parseOneSignature
  simp only [found, decoded, require_bind_ok]
  refine ⟨rfl, rfl, ?_, by decide, rfl⟩
  change ∀ character ∈ "AAAA".toList, _
  simp only [String.reduceToList, List.mem_cons, List.not_mem_nil, or_false, or_self, forall_eq]
  decide

omit [DecidableEq D] in
theorem sampleSignature_counted (signatures : List SignatureRecord) (signer : String) :
    Counted trustingPreparer (sampleRequest signatures : PreparationRequest D)
      (sampleSignature D signer "AAAA") := by
  have decoded : b64decode (sampleSignature D signer "AAAA").signatureBase64.toList =
      some [0, 0, 0] := by
    change b64decode "AAAA".toList = _
    decide
  constructor
  · exact ⟨"profile-1", [0, 0, 0], _, rfl, List.mem_cons_self, decoded, rfl, rfl, rfl, rfl, rfl, rfl⟩
  · exact ⟨_, rfl, rfl, rfl, rfl, List.mem_cons_self, List.mem_cons_self, Nat.zero_le _, nofun,
      nofun⟩

/-- The signatures of two signers, in descending order. -/
def sampleSignatures (D : Type) [Sha256 D] [DigestText D] : List SignatureRecord :=
  [sampleSignature D "bob" "AAAA", sampleSignature D "alice" "AAAA"]

def sampleRecords (D : Type) [Sha256 D] [DigestText D] : List ProcessingSignatureRecord :=
  [⟨sampleSignature D "bob" "AAAA", [0, 0, 0], "profile-1"⟩,
    ⟨sampleSignature D "alice" "AAAA", [0, 0, 0], "profile-1"⟩]

theorem sampleRecords_verified :
    trustingPreparer.verifySignaturesAndAuthority
      (sampleRequest (sampleSignatures D) : PreparationRequest D) (sampleRecords D) =
        (["alice", "bob"], []) := by
  have accepted : ∀ record ∈ sampleRecords D, trustingPreparer.verifyOneRecord
      (sampleRequest (sampleSignatures D) : PreparationRequest D) record = none := by
    intro record member
    rcases List.mem_pair.mp member with rfl | rfl
    · exact (verifyOneRecord_none (parsed_of_ok (sampleSignature_parsed _ "bob"))).mpr
        (sampleSignature_counted _ "bob")
    · exact (verifyOneRecord_none (parsed_of_ok (sampleSignature_parsed _ "alice"))).mpr
        (sampleSignature_counted _ "alice")
  have valid : (sampleRecords D).filter (fun record => trustingPreparer.verifyOneRecord
      (sampleRequest (sampleSignatures D) : PreparationRequest D) record = none) =
        sampleRecords D :=
    List.filter_eq_self.mpr fun record member => decide_eq_true (accepted record member)
  have rejected : (sampleRecords D).filterMap (trustingPreparer.verifyOneRecord
      (sampleRequest (sampleSignatures D) : PreparationRequest D)) = [] :=
    List.filterMap_eq_nil_iff.mpr accepted
  have sorted : (["bob", "alice"] : List String).toFinset.sort = ["alice", "bob"] := by
    rw [List.toFinset_eq_of_perm _ ["alice", "bob"] (.swap ..)]
    exact (List.toFinset_sort (· ≤ ·) (by decide)).mpr (by decide)
  rw [ReferenceAssumptionPolicyActivationPreparer.verifySignaturesAndAuthority, valid, rejected]
  exact Prod.ext sorted (by simp)

theorem sample_prepared :
    trustingPreparer.prepare (sampleRequest (sampleSignatures D) : PreparationRequest D) =
      .ok ⟨sampleEnvelope ["alice", "bob"] (by decide), sampleEnvelope_bound _⟩ := by
  have parsed : parseSignatures (sampleRequest (sampleSignatures D) : PreparationRequest D) []
      (sampleSignatures D) = .ok (sampleRecords D) := by
    have distinct : ((sampleSignatures D).map (·.signerId)).Nodup :=
      show ["bob", "alice"].Nodup by decide
    refine parseSignatures_ok.mpr ⟨?_, distinct, by simp⟩
    simp only [sampleSignatures, sampleRecords, List.map_cons, List.map_nil, sampleSignature_parsed]
  have verified : trustingPreparer.verifySignaturesAndAuthority
      (sampleRequest (sampleSignatures D) : PreparationRequest D)
      ((sampleRecords D).mergeSort fun a b => a.sortKey ≤ b.sortKey) = _ :=
    (verifySignaturesAndAuthority_perm (List.mergeSort_perm _ _)).trans sampleRecords_verified
  refine prepare_iff.mpr ⟨sampleRequest_overlap _, sampleRequest_bound _,
    sampleRule .standard 2 (by decide) (by decide), rfl, _,
    require_bind_ok.mpr ⟨List.cons_ne_nil _ _, bind_ok.mpr ⟨_, parsed, rfl⟩⟩, ?_, ?_⟩
  · rw [verified]
    exact validateApprovalThreshold_ok.mpr
      ⟨sampleRule .standard 2 (by decide) (by decide), rfl, by decide, by decide, by decide⟩
  · rw [verified]
    refine ⟨(sampleEnvelope ["alice", "bob"] (by decide)).activationProof, ?_, ?_⟩
    · have sorted : (["alice", "bob"] : List String).toFinset.sort = ["alice", "bob"] :=
        (List.toFinset_sort (· ≤ ·) (by decide)).mpr (by decide)
      have empty : ([] : List String).toFinset.sort = [] := by simp
      simp only [buildActivationProof, sorted, empty]
      rfl
    · exact AssumptionPolicyLedgerEntryV3.build_bound (sampleEnvelope_bound _)

theorem prepare_threshold_sample : ∃ entry : AssumptionPolicyLedgerEntryV3 (List Nat),
    entry.activationProof.validSignerIds = ["alice", "bob"] ∧
    (∀ signer, signer ∈ entry.activationProof.validSignerIds ↔
      ∃ raw ∈ sampleSignatures (List Nat), raw.signerId = signer ∧
        Counted trustingPreparer
          (sampleRequest (sampleSignatures (List Nat)) : PreparationRequest (List Nat)) raw) ∧
    trustingPreparer.prepare (sampleRequest (sampleSignatures (List Nat)).reverse) = .ok entry := by
  have prepared := sample_prepared (D := List Nat)
  obtain ⟨counted, -, -, listed⟩ := prepare_threshold trustingPreparer
    (sampleRequest (sampleSignatures (List Nat)) : PreparationRequest (List Nat)) _ prepared
  exact ⟨_, rfl, counted, listed _ (List.reverse_perm _)⟩

end Run

end CsdFoundry.Policy

import CsdFoundry.Policy.Activation
import CsdFoundry.Policy.Resolution

/-! The compare-and-append of prepared generations, and what the ledgers that it reaches carry. -/
namespace CsdFoundry.Policy
open Temporal (isToken)
variable {D : Type} [Sha256 D] [DigestText D] [DecidableEq D]

def AssumptionPolicyLedgerV3.empty : AssumptionPolicyLedgerV3 D := ⟨[], rfl⟩

/-- `ExpectedPolicyLedgerStateV3`: no head is named for the empty ledger alone. -/
structure ExpectedPolicyLedgerStateV3 (D : Type) [Sha256 D] [DigestText D] [DecidableEq D] where
  ledgerRootDigest : D
  headEntryDigest : Option D
  blind : headEntryDigest = none →
    ledgerRootDigest = (AssumptionPolicyLedgerV3.empty : AssumptionPolicyLedgerV3 D).ledgerRootDigest

/-- What `from_ledger` reads, as the pair that the comparison is on. -/
def observedState (ledger : AssumptionPolicyLedgerV3 D) : D × Option D :=
  (ledger.ledgerRootDigest, ledger.entries.getLast?.map (·.ledgerEntryDigest))

inductive AppendResult where
  | committed
  | idempotentAppend
  deriving DecidableEq

structure AssumptionPolicyActivationResult (D : Type) where
  appendResult : AppendResult
  policyCommitReceiptDigest : D
  ledgerEntryDigest : D
  predecessorLedgerRoot : D
  resultingLedgerRoot : D
  deriving DecidableEq

/-- `classify_exact_idempotence_v3`: whether the candidate is the entry again. The canonical bytes
are equal exactly when the canonical values are. -/
def classifyExactIdempotenceV3 (existing candidate : AssumptionPolicyLedgerEntryV3 D) :
    Except PolicyError Bool :=
  if existing.ledgerEntryDigest = candidate.ledgerEntryDigest ∧
      existing.toJsonValue = candidate.toJsonValue then .ok true
  else if existing.commitReceiptDigest = candidate.commitReceiptDigest then
    .error (.activation "ASSUMPTION_POLICY_ENTRY_V3_DIVERGENCE")
  else .ok false

/-- `raise AssumptionPolicyPublicationConflict(exc.code, exc.detail) from exc`. -/
def conflicted : Except PolicyError α → Except PolicyError α
  | .error (.activation code) => .error (.conflict code)
  | result => result

/-- The loop over the entries: whether the candidate is in the ledger. -/
def findRetry (candidate : AssumptionPolicyLedgerEntryV3 D) :
    List (AssumptionPolicyLedgerEntryV3 D) → Except PolicyError Bool
  | [] => .ok false
  | existing :: rest => do
      let retry ← conflicted (classifyExactIdempotenceV3 existing candidate)
      if retry then return true
      findRetry candidate rest

/-- The conflict of a state that is not the expected one. -/
def stateConflict (ledger : AssumptionPolicyLedgerV3 D)
    (expectedState : ExpectedPolicyLedgerStateV3 D) (candidate : AssumptionPolicyLedgerEntryV3 D) :
    PolicyError :=
  let payload := candidate.signingPayload
  if expectedState.headEntryDigest = none ∧ payload.predecessorPolicyDigest = none ∧
      payload.predecessorCommitReceiptDigest = none then
    .conflict "ASSUMPTION_POLICY_LEDGER_STATE_MISMATCH"
  else
    match ledger.entries.getLast? with
    | none => .conflict "ASSUMPTION_POLICY_LEDGER_STATE_MISMATCH"
    | some head =>
        if payload.predecessorPolicyDigest ≠ some head.policy.policyDigest ∨
            payload.predecessorCommitReceiptDigest ≠ some head.commitReceiptDigest then
          .conflict "ASSUMPTION_POLICY_CHAIN_V3_FORK"
        else .conflict "ASSUMPTION_POLICY_LEDGER_STATE_MISMATCH"

/-- The position of the candidate: after the head, or the genesis of the empty ledger. -/
def checkPosition (ledger : AssumptionPolicyLedgerV3 D)
    (candidate : AssumptionPolicyLedgerEntryV3 D) : Except PolicyError Unit :=
  match ledger.entries.getLast? with
  | some head => conflicted (validateSuccessorPositionV3 head candidate)
  | none => require (candidate.signingPayload.predecessorPolicyDigest = none ∧
      candidate.signingPayload.predecessorCommitReceiptDigest = none)
    (.conflict "ASSUMPTION_POLICY_LEDGER_GENESIS_INVALID")

def compareAndAppendPolicyEntryV3 (ledger : AssumptionPolicyLedgerV3 D)
    (expectedState : ExpectedPolicyLedgerStateV3 D) (candidate : AssumptionPolicyLedgerEntryV3 D) :
    Except PolicyError (AssumptionPolicyLedgerV3 D × AssumptionPolicyActivationResult D) := do
  let result (appendResult : AppendResult) (resulting : AssumptionPolicyLedgerV3 D) :
      AssumptionPolicyActivationResult D :=
    ⟨appendResult, candidate.commitReceiptDigest, candidate.ledgerEntryDigest,
      ledger.ledgerRootDigest, resulting.ledgerRootDigest⟩
  let retry ← findRetry candidate ledger.entries
  if retry then
    return (ledger, result .idempotentAppend ledger)
  require ((expectedState.ledgerRootDigest, expectedState.headEntryDigest) = observedState ledger)
    (stateConflict ledger expectedState candidate)
  checkPosition ledger candidate
  let updated ← AssumptionPolicyLedgerV3.build (ledger.entries ++ [candidate])
  return (updated, result .committed updated)

/-! ### Runs -/

/-- The ledgers that compare-and-append reaches from the empty one with candidates of a kind. -/
inductive Reached (admits : AssumptionPolicyLedgerEntryV3 D → Prop) :
    AssumptionPolicyLedgerV3 D → Prop where
  | empty : Reached admits .empty
  | append {ledger updated : AssumptionPolicyLedgerV3 D}
      {expectedState : ExpectedPolicyLedgerStateV3 D} {candidate : AssumptionPolicyLedgerEntryV3 D}
      {result : AssumptionPolicyActivationResult D} : Reached admits ledger → admits candidate →
      compareAndAppendPolicyEntryV3 ledger expectedState candidate = .ok (updated, result) →
      Reached admits updated

/-- One call leaves the ledger alone or adds the candidate to its entries. -/
theorem compareAndAppend_entries {ledger updated : AssumptionPolicyLedgerV3 D}
    {expectedState : ExpectedPolicyLedgerStateV3 D} {candidate : AssumptionPolicyLedgerEntryV3 D}
    {result : AssumptionPolicyActivationResult D}
    (appended : compareAndAppendPolicyEntryV3 ledger expectedState candidate =
      .ok (updated, result)) :
    updated = ledger ∨ updated.entries.Perm (ledger.entries ++ [candidate]) := by
  rw [compareAndAppendPolicyEntryV3, bind_ok] at appended
  obtain ⟨retry, -, appended⟩ := appended
  split at appended
  · cases appended
    exact .inl rfl
  · obtain ⟨-, appended⟩ := require_bind_ok.mp appended
    obtain ⟨_, -, appended⟩ := bind_ok.mp appended
    obtain ⟨built, rebuilt, same⟩ := bind_ok.mp appended
    cases same
    exact .inr (orderPolicyEntriesV3_spec (AssumptionPolicyLedgerV3.build_ok.mp rebuilt)).2

/-- What every candidate has, every entry of a reached ledger has. -/
theorem Reached.entries {admits : AssumptionPolicyLedgerEntryV3 D → Prop}
    {ledger : AssumptionPolicyLedgerV3 D} (reached : Reached admits ledger) :
    ∀ entry ∈ ledger.entries, admits entry := by
  induction reached with
  | empty =>
      intro entry member
      cases member
  | append earlier admitted appended ih =>
      intro entry member
      rcases compareAndAppend_entries appended with rfl | same
      · exact ih entry member
      · rcases List.mem_append.mp (same.mem_iff.mp member) with old | new
        · exact ih entry old
        · rw [List.mem_singleton.mp new]
          exact admitted

/-- The entries that the preparer returns. -/
def Prepared (preparer : ReferenceAssumptionPolicyActivationPreparer D)
    (entry : AssumptionPolicyLedgerEntryV3 D) : Prop :=
  ∃ request, preparer.prepare request = .ok entry

/-- The constructors of the entry and of the ledger leave the quorum to the preparer: the entries of
a ledger carry it exactly when they pass the preparer's own threshold check, as those do that any
preparer returned. -/
theorem carriesQuorum_exact :
    (∀ ledger : AssumptionPolicyLedgerV3 D, (∀ entry ∈ ledger.entries, CarriesQuorum entry) ↔
      ∀ entry ∈ ledger.entries, validateApprovalThreshold entry.approvalPolicy entry.signingPayload
        entry.activationProof.validSignerIds = .ok ()) ∧
    ∀ ledger : AssumptionPolicyLedgerV3 D,
      Reached (fun entry => ∃ preparer, Prepared preparer entry) ledger →
      ∀ entry ∈ ledger.entries, CarriesQuorum entry := by
  constructor
  · intro ledger
    simp only [carriesQuorum_iff]
  · intro ledger reached entry member
    obtain ⟨preparer, request, prepared⟩ := reached.entries entry member
    exact (prepare_ok prepared).2

/-! A first generation that two signers have to approve and that names one who is not eligible. -/

def sampleGrant : AssumptionAuthorityGrant where
  grantId := "grant-1"
  action := .confirm
  authorityId := "alice"
  scopeIds := ["scope-1"]
  assumptionMaterialities := [.advisory]
  challengeMaterialities := []
  effectiveFromSequence := 0
  effectiveUntilSequence := none
  named := by decide
  authority := by decide
  scopes := by decide
  materialities := by decide
  challenges := by decide
  resolving := by decide
  interval := by decide

def sampleRule (approvalClass : ApprovalClass) (count : Nat) (positive : 1 ≤ count)
    (attainable : count ≤ 3) : AssumptionPolicyApprovalRule where
  approvalClass := approvalClass
  eligibleSignerIds := ["alice", "bob", "carol"]
  requiredSignatureCount := count
  requiredSignerIds := []
  eligible := by decide
  positive := positive
  attainable := attainable
  required := by decide
  requiredEligible := by simp
  fitting := Nat.zero_le _

theorem twoSigners : 1 ≤ 2 := by decide

/-- The entry at a sequence, with the signers that its proof records. -/
def sampleEnvelope (signers : List String) (signed : requireTokens signers false = true) :
    PolicyEnvelope D :=
  let root : D := domainDigest "ROOT" .null
  let policy : AssumptionAuthorityPolicy D :=
    { policyId := "policy-1", authorityRootDigest := root, grants := [sampleGrant]
      separationDutyRules := [], dutyExceptions := [], named := by decide, granted := by decide
      grantsOrdered := by decide, rulesOrdered := by decide, exceptionsOrdered := by decide
      exceptionsValid := by simp }
  let standard := sampleRule .standard 2 twoSigners (by decide)
  let approvalPolicy : AssumptionPolicyApprovalPolicy D :=
    { approvalPolicyId := "approval-1", authorityRootDigest := root
      rules := [sampleRule .dutyException 3 (by decide) (by decide), standard]
      named := by decide, classes := rfl, stronger := by decide }
  let profile : AssumptionPolicySignatureProfile D :=
    { algorithmProfiles := [("ed25519", "profile-1")], requiredAuthorityScope := "policy"
      keyAuthorityRootDigest := root, pinned := by decide, tokens := by decide
      ordered := by decide, scope := by decide }
  let challenge : AssumptionChallengeClassificationPolicy :=
    { reasonRules := [], tokens := by simp, ordered := by decide }
  let payload : AssumptionPolicySigningPayload D :=
    { policyId := policy.policyId, policyDigest := policy.policyDigest
      predecessorPolicyDigest := none, predecessorCommitReceiptDigest := none
      authorityRootDigest := root, grantSetDigest := policy.grantSetDigest
      separationDutyRuleSetDigest := policy.separationDutyRuleSetDigest
      exceptionSetDigest := policy.exceptionSetDigest, exceptionCount := 0
      approvalClass := .standard, effectiveFromSequence := 1
      approvalPolicyDigest := approvalPolicy.approvalPolicyDigest
      signatureProfileDigest := profile.profileDigest
      challengeClassificationPolicyDigest := challenge.policyDigest D
      named := policy.named, complete := .rfl, classed := rfl }
  let commit : AssumptionAuthorityPolicyCommitV3 D := ⟨payload.signingPayloadDigest, root⟩
  let proof : AssumptionPolicyActivationProofV2 D :=
    { signingPayloadDigest := payload.signingPayloadDigest
      policyCommitReceiptDigest := commit.commitReceiptDigest
      approvalPolicyDigest := approvalPolicy.approvalPolicyDigest
      approvalRuleDigest := standard.ruleDigest D
      signatureProfileDigest := profile.profileDigest
      challengeClassificationPolicyDigest := challenge.policyDigest D
      authorityRootDigest := root, signatureSetDigest := commit.signatureSetDigest
      validSignerIds := signers, rejectedSignerCodes := []
      signers := signed, rejections := by decide }
  ⟨policy, payload, commit, approvalPolicy, profile, challenge, proof⟩

theorem sampleEnvelope_bound {signers : List String} (signed : requireTokens signers false = true) :
    (sampleEnvelope signers signed : PolicyEnvelope D).postInit = .ok () := by
  rw [PolicyEnvelope.postInit, bind_ok]
  refine ⟨sampleRule .standard 2 (by decide) (by decide), rfl, require_ok.mpr ⟨rfl, rfl, ?_⟩⟩
  simp [PolicyEnvelope.bindings, sampleEnvelope]

def forgedEntry : AssumptionPolicyLedgerEntryV3 D :=
  ⟨sampleEnvelope ["mallory"] (by decide), sampleEnvelope_bound _⟩

/-- A first generation on its own is in order. -/
theorem orderPolicyEntriesV3_genesis {entry : AssumptionPolicyLedgerEntryV3 D}
    (first : entry.signingPayload.predecessorCommitReceiptDigest = none) :
    orderPolicyEntriesV3 [entry] = .ok [entry] := by
  simp [orderPolicyEntriesV3, followChain, children, first, require, bind, Except.bind, pure,
    Except.pure]

def forgedLedger : AssumptionPolicyLedgerV3 D :=
  ⟨[forgedEntry], orderPolicyEntriesV3_genesis rfl⟩

/-- The expectation that the ledger is empty. -/
def ExpectedPolicyLedgerStateV3.empty : ExpectedPolicyLedgerStateV3 D :=
  ⟨(AssumptionPolicyLedgerV3.empty : AssumptionPolicyLedgerV3 D).ledgerRootDigest, none, fun _ => rfl⟩

theorem compareAndAppend_forged : ∃ result, compareAndAppendPolicyEntryV3
    (AssumptionPolicyLedgerV3.empty : AssumptionPolicyLedgerV3 D) .empty forgedEntry =
      .ok (forgedLedger, result) := by
  have built : AssumptionPolicyLedgerV3.build [(forgedEntry : AssumptionPolicyLedgerEntryV3 D)] =
      .ok forgedLedger :=
    AssumptionPolicyLedgerV3.build_ok.mpr (orderPolicyEntriesV3_genesis rfl)
  have positioned : checkPosition (AssumptionPolicyLedgerV3.empty : AssumptionPolicyLedgerV3 D)
      forgedEntry = .ok () := require_ok.mpr ⟨rfl, rfl⟩
  refine ⟨⟨.committed, forgedEntry.commitReceiptDigest, forgedEntry.ledgerEntryDigest,
    (AssumptionPolicyLedgerV3.empty : AssumptionPolicyLedgerV3 D).ledgerRootDigest,
    forgedLedger.ledgerRootDigest⟩, ?_⟩
  rw [compareAndAppendPolicyEntryV3]
  apply bind_ok.mpr
  refine ⟨false, rfl, require_bind_ok.mpr ⟨rfl, bind_ok.mpr ⟨(), positioned, ?_⟩⟩⟩
  exact bind_ok.mpr ⟨forgedLedger, built, rfl⟩

/-- A constructed ledger, which compare-and-append reaches, whose only entry lacks its quorum. -/
theorem forgedLedger_lacks_quorum :
    Reached (fun _ => True) (forgedLedger : AssumptionPolicyLedgerV3 (List Nat)) ∧
    ∃ entry ∈ (forgedLedger : AssumptionPolicyLedgerV3 (List Nat)).entries,
      ¬ CarriesQuorum entry := by
  obtain ⟨result, appended⟩ := compareAndAppend_forged (D := List Nat)
  refine ⟨.append .empty trivial appended, forgedEntry, List.mem_singleton.mpr rfl, ?_⟩
  rintro ⟨rule, ruled, eligible, -⟩
  have standard : rule = sampleRule .standard 2 (by decide) (by decide) :=
    (Except.ok.inj ruled).symm
  have among := eligible "mallory" (List.mem_singleton.mpr rfl)
  rw [standard] at among
  exact absurd among (by decide)

/-! ### Selection on a prepared policy -/

theorem selectApplicableGrantV3_ambiguous {ledger : AssumptionPolicyLedgerV3 D}
    {resolved : ResolvedPolicyAtSequence D} {source : AssumptionPolicyLedgerEntryV3 D}
    {request : SelectionRequest} {decision : GrantSelectionDecision D}
    (sourced : sourceEntryForResolution ledger resolved = .ok source)
    (selected : selectApplicableGrantV3 ledger resolved request = .ok decision)
    (ambiguous : decision.decisionType = .ambiguousGrants) : AmbiguousGrants source.policy := by
  obtain ⟨wellFormed, rfl⟩ := (selectApplicableGrantV3_ok sourced).mp selected
  match covered : source.policy.covering request resolved.eventSequence with
  | [] =>
      simp only [selectionOf, covered, decisionTypeOf] at ambiguous
      cases ambiguous
  | [grant] =>
      simp only [selectionOf, covered, decisionTypeOf] at ambiguous
      cases ambiguous
  | left :: right :: more =>
      rw [AssumptionAuthorityPolicy.covering] at covered
      have members : ∀ grant ∈ [left, right], grant ∈ source.policy.grants ∧
          grantCoversRequest grant request resolved.eventSequence = true := by
        intro grant among
        apply List.mem_filter.mp
        rw [covered]
        simp only [List.mem_cons, List.not_mem_nil, or_false] at among ⊢
        rcases among with rfl | rfl
        · exact .inl rfl
        · exact .inr (.inl rfl)
      have distinct : left ≠ right := by
        have ordered := (List.pairwise_map.mp source.policy.grantsOrdered).filter fun grant =>
          grantCoversRequest grant request resolved.eventSequence
        rw [covered, List.pairwise_cons] at ordered
        rintro rfl
        exact lt_irrefl _ (ordered.1 left List.mem_cons_self)
      obtain ⟨inLeft, leftCovers⟩ := members left List.mem_cons_self
      obtain ⟨inRight, rightCovers⟩ := members right (List.mem_cons_of_mem _ List.mem_cons_self)
      exact ⟨request, resolved.eventSequence, wellFormed, left, inLeft, right, inRight, distinct,
        leftCovers, rightCovers⟩

/-- The overlap check accepts exactly the policies without ambiguity, so the selection of a grant
of a prepared policy is never ambiguous. -/
theorem validatePolicyOverlap_exact :
    (∀ policy : AssumptionAuthorityPolicy D, validatePolicyOverlap policy = .ok () ↔
      ¬ AmbiguousGrants policy ∧ ¬ AmbiguousExceptions policy) ∧
    ∀ (preparer : ReferenceAssumptionPolicyActivationPreparer D)
      (ledger : AssumptionPolicyLedgerV3 D) (resolved : ResolvedPolicyAtSequence D) source request
      decision, Prepared preparer source → sourceEntryForResolution ledger resolved = .ok source →
      selectApplicableGrantV3 ledger resolved request = .ok decision →
      decision.decisionType ≠ .ambiguousGrants := by
  refine ⟨fun _ => validatePolicyOverlap_iff, ?_⟩
  rintro preparer ledger resolved source request decision ⟨preparation, prepared⟩ sourced selected
    ambiguous
  have overlap := (prepare_ok prepared).1
  exact (validatePolicyOverlap_iff.mp overlap).1
    (selectApplicableGrantV3_ambiguous sourced selected ambiguous)

end CsdFoundry.Policy

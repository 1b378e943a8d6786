import CsdFoundry.Policy.Envelope
import Mathlib.Data.List.Chain
import Mathlib.Data.List.Perm.Subperm

/-! The ledger of policy generations: entries that are linked by the commits they succeed, put
in the order of the links. -/
namespace CsdFoundry.Policy
variable {D : Type} [Sha256 D] [DigestText D] [DecidableEq D]

/-- The objects of a ledger entry. -/
structure PolicyEnvelope (D : Type) where
  policy : AssumptionAuthorityPolicy D
  signingPayload : AssumptionPolicySigningPayload D
  policyCommit : AssumptionAuthorityPolicyCommitV3 D
  approvalPolicy : AssumptionPolicyApprovalPolicy D
  signatureProfile : AssumptionPolicySignatureProfile D
  challengeClassificationPolicy : AssumptionChallengeClassificationPolicy
  activationProof : AssumptionPolicyActivationProofV2 D
  deriving DecidableEq

namespace PolicyEnvelope

/-- The digests among the `bindings` of the entry. -/
def bindings (envelope : PolicyEnvelope D) (rule : AssumptionPolicyApprovalRule) : List (D × D) :=
  let policy := envelope.policy
  let payload := envelope.signingPayload
  let commit := envelope.policyCommit
  let proof := envelope.activationProof
  [(payload.policyDigest, policy.policyDigest),
    (payload.authorityRootDigest, policy.authorityRootDigest),
    (payload.grantSetDigest, policy.grantSetDigest),
    (payload.separationDutyRuleSetDigest, policy.separationDutyRuleSetDigest),
    (payload.exceptionSetDigest, policy.exceptionSetDigest),
    (payload.approvalPolicyDigest, envelope.approvalPolicy.approvalPolicyDigest),
    (payload.signatureProfileDigest, envelope.signatureProfile.profileDigest),
    (payload.challengeClassificationPolicyDigest,
      envelope.challengeClassificationPolicy.policyDigest D),
    (commit.signingPayloadDigest, payload.signingPayloadDigest),
    (commit.signatureSetDigest, proof.signatureSetDigest),
    (proof.signingPayloadDigest, payload.signingPayloadDigest),
    (proof.policyCommitReceiptDigest, commit.commitReceiptDigest),
    (proof.approvalPolicyDigest, envelope.approvalPolicy.approvalPolicyDigest),
    (proof.approvalRuleDigest, rule.ruleDigest D),
    (proof.signatureProfileDigest, envelope.signatureProfile.profileDigest),
    (proof.challengeClassificationPolicyDigest,
      envelope.challengeClassificationPolicy.policyDigest D),
    (proof.authorityRootDigest, policy.authorityRootDigest),
    (proof.signatureSetDigest, commit.signatureSetDigest),
    (payload.authorityRootDigest, envelope.approvalPolicy.authorityRootDigest),
    (payload.authorityRootDigest, envelope.signatureProfile.keyAuthorityRootDigest)]

/-- The checks of `AssumptionPolicyLedgerEntryV3.__post_init__`. -/
def postInit (envelope : PolicyEnvelope D) : Except PolicyError Unit := do
  let rule ← envelope.approvalPolicy.ruleFor envelope.signingPayload.approvalClass
  require (envelope.signingPayload.policyId = envelope.policy.policyId ∧
      envelope.signingPayload.exceptionCount = envelope.policy.dutyExceptions.length ∧
      ∀ pair ∈ envelope.bindings rule, pair.1 = pair.2)
    (.activation "ASSUMPTION_POLICY_LEDGER_ENTRY_V3_BINDING_MISMATCH")

end PolicyEnvelope

structure AssumptionPolicyLedgerEntryV3 (D : Type) [Sha256 D] [DigestText D] [DecidableEq D]
    extends PolicyEnvelope D where
  bound : toPolicyEnvelope.postInit = .ok ()

namespace AssumptionPolicyLedgerEntryV3

theorem ext {a b : AssumptionPolicyLedgerEntryV3 D}
    (same : a.toPolicyEnvelope = b.toPolicyEnvelope) : a = b := by
  cases a
  cases b
  cases same
  rfl

instance : DecidableEq (AssumptionPolicyLedgerEntryV3 D) := fun a b =>
  decidable_of_iff (a.toPolicyEnvelope = b.toPolicyEnvelope) ⟨ext, congrArg _⟩

def build (envelope : PolicyEnvelope D) : Except PolicyError (AssumptionPolicyLedgerEntryV3 D) :=
  match bound : envelope.postInit with
  | .ok () => .ok ⟨envelope, bound⟩
  | .error error => .error error

def commitReceiptDigest (entry : AssumptionPolicyLedgerEntryV3 D) : D :=
  entry.policyCommit.commitReceiptDigest

def effectiveFromSequence (entry : AssumptionPolicyLedgerEntryV3 D) : Nat :=
  entry.signingPayload.effectiveFromSequence

def ledgerEntryDigest (entry : AssumptionPolicyLedgerEntryV3 D) : D :=
  domainDigest "ASSUMPTION_POLICY_LEDGER_ENTRY_V3" (.obj
    [("activation_proof", entry.activationProof.toJsonValue),
      ("approval_policy", entry.approvalPolicy.toJsonValue),
      ("challenge_classification_policy", entry.challengeClassificationPolicy.toJsonValue D),
      ("policy", entry.policy.toJsonValue),
      ("policy_commit", entry.policyCommit.toJsonValue),
      ("schema_version", .str "assumption-policy-ledger-entry/3"),
      ("signature_profile", entry.signatureProfile.toJsonValue),
      ("signing_payload", entry.signingPayload.toJsonValue)])

def toJsonValue (entry : AssumptionPolicyLedgerEntryV3 D) : Json :=
  .obj [("activation_proof", entry.activationProof.toJsonValue),
    ("approval_policy", entry.approvalPolicy.toJsonValue),
    ("challenge_classification_policy", entry.challengeClassificationPolicy.toJsonValue D),
    ("ledger_entry_digest", digestValue entry.ledgerEntryDigest),
    ("policy", entry.policy.toJsonValue),
    ("policy_commit", entry.policyCommit.toJsonValue),
    ("schema_version", .str "assumption-policy-ledger-entry/3"),
    ("signature_profile", entry.signatureProfile.toJsonValue),
    ("signing_payload", entry.signingPayload.toJsonValue)]

/-- Entries of one digest have one commit. -/
theorem commit_of_digest {a b : AssumptionPolicyLedgerEntryV3 D}
    (same : a.ledgerEntryDigest = b.ledgerEntryDigest) :
    a.commitReceiptDigest = b.commitReceiptDigest := by
  have values := domainDigest_inj same
  simp only [Json.obj.injEq, List.cons.injEq, Prod.mk.injEq, true_and] at values
  have commits : a.policyCommit.toJsonValue = b.policyCommit.toJsonValue := values.2.2.2.2.1
  simp only [AssumptionAuthorityPolicyCommitV3.toJsonValue, Json.obj.injEq, List.cons.injEq,
    Prod.mk.injEq, true_and] at commits
  exact digestValue_inj commits.1

end AssumptionPolicyLedgerEntryV3

/-- `validate_successor_position_v3`. -/
def validateSuccessorPositionV3 (head candidate : AssumptionPolicyLedgerEntryV3 D) :
    Except PolicyError Unit := do
  require (candidate.signingPayload.predecessorPolicyDigest = some head.policy.policyDigest ∧
      candidate.signingPayload.predecessorCommitReceiptDigest = some head.commitReceiptDigest)
    (.activation "ASSUMPTION_POLICY_CHAIN_V3_FORK")
  require (head.effectiveFromSequence < candidate.effectiveFromSequence)
    (.activation "ASSUMPTION_POLICY_LEDGER_V3_EFFECTIVE_SEQUENCE_NOT_INCREASING")

/-- The entries that succeed a commit: `children.get(digest, [])`. -/
def children (entries : List (AssumptionPolicyLedgerEntryV3 D)) (digest : D) :
    List (AssumptionPolicyLedgerEntryV3 D) :=
  entries.filter fun entry =>
    entry.signingPayload.predecessorCommitReceiptDigest = some digest

/-- The loop of `order_policy_entries_v3`, from one entry to its only successor. A turn takes one
commit that was not visited, so it ends before the fuel does. -/
def followChain (entries : List (AssumptionPolicyLedgerEntryV3 D)) :
    Nat → List D → AssumptionPolicyLedgerEntryV3 D →
    Except PolicyError (List (AssumptionPolicyLedgerEntryV3 D))
  | 0, _, _ => .error (.activation "ASSUMPTION_POLICY_LEDGER_V3_CYCLE")
  | fuel + 1, visited, current => do
      require (current.commitReceiptDigest ∉ visited)
        (.activation "ASSUMPTION_POLICY_LEDGER_V3_CYCLE")
      match children entries current.commitReceiptDigest with
      | [] => return [current]
      | [successor] =>
          validateSuccessorPositionV3 current successor
          let rest ← followChain entries fuel (current.commitReceiptDigest :: visited) successor
          return current :: rest
      | _ :: _ :: _ => throw (.activation "ASSUMPTION_POLICY_LEDGER_V3_CHAIN_FORK")

def orderPolicyEntriesV3 (entries : List (AssumptionPolicyLedgerEntryV3 D)) :
    Except PolicyError (List (AssumptionPolicyLedgerEntryV3 D)) :=
  match entries with
  | [] => .ok []
  | _ :: _ =>
      match entries.filter fun entry =>
          entry.signingPayload.predecessorCommitReceiptDigest = none with
      | [genesis] => do
          let ordered ← followChain entries (entries.length + 1) [] genesis
          require (ordered.length = entries.length)
            (.activation "ASSUMPTION_POLICY_LEDGER_V3_DISCONNECTED")
          return ordered
      | _ => .error (.activation "ASSUMPTION_POLICY_LEDGER_V3_GENESIS_INVALID")

/-- `AssumptionPolicyLedgerV3`: the entries are the chain in its order. -/
structure AssumptionPolicyLedgerV3 (D : Type) [Sha256 D] [DigestText D] [DecidableEq D] where
  entries : List (AssumptionPolicyLedgerEntryV3 D)
  canonical : orderPolicyEntriesV3 entries = .ok entries

namespace AssumptionPolicyLedgerV3

def ledgerRootDigest (ledger : AssumptionPolicyLedgerV3 D) : D :=
  domainDigest "ASSUMPTION_POLICY_LEDGER_V3" (.obj
    [("entries", .arr (ledger.entries.map (·.toJsonValue))),
      ("schema_version", .str "assumption-policy-ledger/3")])

def build (entries : List (AssumptionPolicyLedgerEntryV3 D)) :
    Except PolicyError (AssumptionPolicyLedgerV3 D) := do
  let ordered ← orderPolicyEntriesV3 entries
  if canonical : orderPolicyEntriesV3 ordered = .ok ordered then
    return ⟨ordered, canonical⟩
  else throw (.activation "ASSUMPTION_POLICY_LEDGER_V3_ENTRIES_NOT_CANONICAL")

end AssumptionPolicyLedgerV3

/-! ### The order of the links -/

/-- The candidate is a proper successor of the head. -/
def Succeeds (head candidate : AssumptionPolicyLedgerEntryV3 D) : Prop :=
  validateSuccessorPositionV3 head candidate = .ok ()

theorem Succeeds.later {head candidate : AssumptionPolicyLedgerEntryV3 D}
    (succeeds : Succeeds head candidate) :
    head.effectiveFromSequence < candidate.effectiveFromSequence := by
  rw [Succeeds, validateSuccessorPositionV3, require_bind_ok, require_ok] at succeeds
  exact succeeds.2

theorem mem_children {entries : List (AssumptionPolicyLedgerEntryV3 D)} {digest : D}
    {entry : AssumptionPolicyLedgerEntryV3 D} (member : entry ∈ children entries digest) :
    entry ∈ entries := List.mem_of_mem_filter member

theorem followChain_spec {entries : List (AssumptionPolicyLedgerEntryV3 D)} {fuel : Nat}
    {visited : List D} {current : AssumptionPolicyLedgerEntryV3 D}
    {path : List (AssumptionPolicyLedgerEntryV3 D)}
    (followed : followChain entries fuel visited current = .ok path) :
    ∃ rest, path = current :: rest ∧ path.IsChain Succeeds ∧ (∀ entry ∈ rest, entry ∈ entries) ∧
      (path.map (·.commitReceiptDigest)).Nodup ∧
      ∀ entry ∈ path, entry.commitReceiptDigest ∉ visited := by
  induction fuel generalizing visited current path with
  | zero => cases followed
  | succ fuel ih =>
      rw [followChain, require_bind_ok] at followed
      obtain ⟨fresh, followed⟩ := followed
      split at followed
      · cases followed
        refine ⟨[], rfl, .singleton _, by simp, by simp, ?_⟩
        intro entry member
        rw [List.mem_singleton.mp member]
        exact fresh
      · rename_i successor listed
        obtain ⟨_, succeeds, remaining⟩ := bind_ok.mp followed
        obtain ⟨more, walked, same⟩ := bind_ok.mp remaining
        cases same
        obtain ⟨rest, rfl, chain, among, distinct, apart⟩ := ih walked
        have child : successor ∈ entries := mem_children (by rw [listed]; exact List.mem_cons_self)
        refine ⟨successor :: rest, rfl, List.isChain_cons_cons.mpr ⟨succeeds, chain⟩, ?_, ?_, ?_⟩
        · intro entry member
          rcases List.mem_cons.mp member with rfl | later
          · exact child
          · exact among entry later
        · rw [List.map_cons, List.nodup_cons]
          refine ⟨?_, distinct⟩
          intro repeated
          obtain ⟨entry, member, same⟩ := List.mem_map.mp repeated
          apply apart entry member
          rw [same]
          exact List.mem_cons_self
        · intro entry member
          rcases List.mem_cons.mp member with rfl | later
          · exact fresh
          · exact fun seen => apart entry later (List.mem_cons_of_mem _ seen)
      · cases followed

/-- Lists that are permutations of each other have the same shape up to one element. -/
theorem perm_shape {a b : List α} (same : a.Perm b) :
    (a = [] ∧ b = []) ∨ (∃ x, a = [x] ∧ b = [x]) ∨
      (∃ x y xs, a = x :: y :: xs) ∧ ∃ x y xs, b = x :: y :: xs := by
  match a, b, same with
  | [], b, same => exact .inl ⟨rfl, same.symm.eq_nil⟩
  | [x], b, same => exact .inr (.inl ⟨x, rfl, List.perm_singleton.mp same.symm⟩)
  | x :: y :: xs, b, same =>
      have long := same.length_eq
      match b with
      | [] => simp at long
      | [z] => simp at long
      | z :: w :: zs => exact .inr (.inr ⟨⟨x, y, xs, rfl⟩, z, w, zs, rfl⟩)

theorem followChain_perm {entries other : List (AssumptionPolicyLedgerEntryV3 D)}
    (same : other.Perm entries) (fuel : Nat) (visited : List D)
    (current : AssumptionPolicyLedgerEntryV3 D) :
    followChain other fuel visited current = followChain entries fuel visited current := by
  induction fuel generalizing visited current with
  | zero => rfl
  | succ fuel ih =>
      rw [followChain, followChain]
      congr 1
      funext _
      have successors : (children other current.commitReceiptDigest).Perm
          (children entries current.commitReceiptDigest) := same.filter _
      rcases perm_shape successors with ⟨left, right⟩ | ⟨x, left, right⟩ |
        ⟨⟨x, y, xs, left⟩, z, w, zs, right⟩
      · rw [left, right]
      · rw [left, right]
        simp only [ih]
      · rw [left, right]

/-- The ledger is a set of linked entries: their order is that of the links. -/
theorem orderPolicyEntriesV3_perm {entries other : List (AssumptionPolicyLedgerEntryV3 D)}
    (same : other.Perm entries) : orderPolicyEntriesV3 other = orderPolicyEntriesV3 entries := by
  unfold orderPolicyEntriesV3
  have length := same.length_eq
  have geneses := same.filter fun entry : AssumptionPolicyLedgerEntryV3 D =>
    entry.signingPayload.predecessorCommitReceiptDigest = none
  cases other with
  | nil => rw [same.symm.eq_nil]
  | cons a as =>
      cases entries with
      | nil => cases same.eq_nil
      | cons b bs =>
          simp only [length, followChain_perm same]
          rcases perm_shape geneses with ⟨left, right⟩ | ⟨x, left, right⟩ |
            ⟨⟨x, y, xs, left⟩, z, w, zs, right⟩
          · rw [left, right]
          · rw [left, right]
          · rw [left, right]

structure Ordered (entries : List (AssumptionPolicyLedgerEntryV3 D)) : Prop where
  chain : entries.IsChain Succeeds
  distinct : (entries.map (·.commitReceiptDigest)).Nodup

theorem orderPolicyEntriesV3_spec {entries ordered : List (AssumptionPolicyLedgerEntryV3 D)}
    (succeeded : orderPolicyEntriesV3 entries = .ok ordered) :
    Ordered ordered ∧ ordered.Perm entries := by
  unfold orderPolicyEntriesV3 at succeeded
  split at succeeded
  · cases succeeded
    exact ⟨⟨.nil, List.nodup_nil⟩, .refl _⟩
  · rename_i entry more
    split at succeeded
    · rename_i genesis first
      obtain ⟨path, followed, succeeded⟩ := bind_ok.mp succeeded
      obtain ⟨complete, same⟩ := require_bind_ok.mp succeeded
      cases same
      obtain ⟨rest, rfl, chain, among, distinct, -⟩ := followChain_spec followed
      have start : genesis ∈ entry :: more := by
        apply List.mem_of_mem_filter
        rw [first]
        exact List.mem_cons_self
      have subset : genesis :: rest ⊆ entry :: more := by
        intro other member
        rcases List.mem_cons.mp member with rfl | later
        · exact start
        · exact among other later
      have once : (genesis :: rest).Nodup := distinct.of_map
      exact ⟨⟨chain, distinct⟩,
        (once.subperm subset).perm_of_length_le (le_of_eq complete.symm)⟩
    · cases succeeded

theorem orderPolicyEntriesV3_idem {entries ordered : List (AssumptionPolicyLedgerEntryV3 D)}
    (succeeded : orderPolicyEntriesV3 entries = .ok ordered) :
    orderPolicyEntriesV3 ordered = .ok ordered := by
  rw [orderPolicyEntriesV3_perm (orderPolicyEntriesV3_spec succeeded).2, succeeded]

namespace AssumptionPolicyLedgerV3

theorem ordered (ledger : AssumptionPolicyLedgerV3 D) : Ordered ledger.entries :=
  (orderPolicyEntriesV3_spec ledger.canonical).1

/-- `build` raises exactly when the order does. -/
theorem build_ok {entries : List (AssumptionPolicyLedgerEntryV3 D)}
    {ledger : AssumptionPolicyLedgerV3 D} :
    build entries = .ok ledger ↔ orderPolicyEntriesV3 entries = .ok ledger.entries := by
  rw [build, bind_ok]
  constructor
  · rintro ⟨ordered, succeeded, built⟩
    split at built
    · cases built
      exact succeeded
    · cases built
  · intro succeeded
    refine ⟨_, succeeded, ?_⟩
    rw [dif_pos ledger.canonical]
    rfl

theorem build_perm {entries other : List (AssumptionPolicyLedgerEntryV3 D)}
    (same : other.Perm entries) : build other = build entries := by
  rw [build, build, orderPolicyEntriesV3_perm same]

/-- The effective sequences increase along the ledger. -/
theorem ascending (ledger : AssumptionPolicyLedgerV3 D) :
    ledger.entries.Pairwise fun a b => a.effectiveFromSequence < b.effectiveFromSequence := by
  have chain : (ledger.entries.map (·.effectiveFromSequence)).IsChain (· < ·) :=
    List.isChain_map_of_isChain _ (fun _ _ succeeds => succeeds.later) ledger.ordered.chain
  exact List.pairwise_map.mp (List.isChain_iff_pairwise.mp chain)

end AssumptionPolicyLedgerV3
end CsdFoundry.Policy

import CsdFoundry.Digest
import Mathlib.Data.List.Sort

/-! The contracts of the temporal protocol, up to their canonical bytes: two
contracts are equal exactly when the stored files are. A digest field holds the
digest of the other fields, so it is a function here and not a component. -/
namespace CsdFoundry.Temporal

def tokenChars : List Char → Bool
  | [] => false
  | first :: rest => first.isAlphanum &&
      rest.all (fun c => c.isAlphanum || ['.', '_', ':', '/', '-'].contains c)

/-- `_TOKEN.fullmatch`. -/
def isToken (value : String) : Bool := tokenChars value.toList

/-- The schema pattern is searched for, so its `$` also matches before a final newline. -/
def schemaToken (value : String) : Bool :=
  isToken value || (value.toList.getLast? == some '\n' && tokenChars value.toList.dropLast)

structure ClockClaim (D : Type) where
  attemptId : String
  previousCommittedSequence : Nat
  previousCompletionDigest : Option D
  proposedSequence : Nat
  validatedEventDigest : D
  claimantId : String
  claimPolicyDigest : D
  successor : proposedSequence = previousCommittedSequence + 1
  deriving DecidableEq

structure ClockProjectionFailure (D : Type) where
  attemptId : String
  previousCommittedSequence : Nat
  previousCompletionDigest : Option D
  proposedSequence : Nat
  clockClaimDigest : D
  validatedEventDigest : D
  failurePhase : String
  failureCode : String
  failureDetailDigest : Option D
  recordedAgainstTick : Nat
  successor : proposedSequence = previousCommittedSequence + 1
  tick : recordedAgainstTick = previousCommittedSequence
  deriving DecidableEq

structure SemanticProjectionReceipt (D : Type) where
  clockClaimDigest : D
  validatedEventDigest : D
  projectionSequence : Nat
  preStateDigest : D
  postStateDigest : D
  semanticTraceDigest : D
  semanticPolicyDigest : D
  deriving DecidableEq

structure RegistryRootDigests (D : Type) where
  evidenceUnit : D
  assumption : D
  alternativeModel : D
  deriving DecidableEq

/-- The marker digests are a schema `SET`: canonical bytes list them sorted, once each. -/
structure ClockCompletionReceipt (D : Type) [LinearOrder D] where
  clockSequence : Nat
  previousCompletionDigest : Option D
  clockClaimDigest : D
  validatedEventDigest : D
  semanticProjectionReceiptDigest : D
  registryRootDigests : RegistryRootDigests D
  dispositionReceiptDigest : D
  quarantineEpoch : Nat
  quarantineMarkerDigests : List D
  completionPolicyDigest : D
  positive : 0 < clockSequence
  canonical : quarantineMarkerDigests.Pairwise (· < ·)
  deriving DecidableEq

variable {D : Type} [Sha256 D]
open Sha256

def ClockClaim.digest (c : ClockClaim D) : D :=
  sha256 "CLOCK_CLAIM" [.str "clock-claim/1", .str c.attemptId, .digest c.claimPolicyDigest,
    .str c.claimantId, .nat c.previousCommittedSequence, .optional c.previousCompletionDigest,
    .nat c.proposedSequence, .digest c.validatedEventDigest]

def ClockProjectionFailure.digest (f : ClockProjectionFailure D) : D :=
  sha256 "CLOCK_PROJECTION_FAILURE" [.str "clock-projection-failure/1", .str f.attemptId,
    .digest f.clockClaimDigest, .str f.failureCode, .optional f.failureDetailDigest,
    .str f.failurePhase, .nat f.previousCommittedSequence, .optional f.previousCompletionDigest,
    .nat f.proposedSequence, .nat f.recordedAgainstTick, .digest f.validatedEventDigest]

def SemanticProjectionReceipt.digest (r : SemanticProjectionReceipt D) : D :=
  sha256 "SEMANTIC_PROJECTION_RECEIPT" [.str "semantic-projection-receipt/1",
    .digest r.clockClaimDigest, .digest r.postStateDigest, .digest r.preStateDigest,
    .str "COMPLETED", .nat r.projectionSequence, .digest r.semanticPolicyDigest,
    .digest r.semanticTraceDigest, .digest r.validatedEventDigest]

def ClockCompletionReceipt.digest [LinearOrder D] (c : ClockCompletionReceipt D) : D :=
  sha256 "CLOCK_COMPLETION_RECEIPT" [.str "clock-completion-receipt/1",
    .digest c.clockClaimDigest, .nat c.clockSequence, .digest c.completionPolicyDigest,
    .digest c.dispositionReceiptDigest, .optional c.previousCompletionDigest,
    .nat c.quarantineEpoch, .digests c.quarantineMarkerDigests,
    .digest c.registryRootDigests.alternativeModel, .digest c.registryRootDigests.assumption,
    .digest c.registryRootDigests.evidenceUnit, .digest c.semanticProjectionReceiptDigest,
    .digest c.validatedEventDigest]

theorem ClockClaim.digest_inj {a b : ClockClaim D} (same : a.digest = b.digest) : a = b := by
  obtain ⟨-, fields⟩ := collision_free same
  cases a
  cases b
  simp only [List.cons.injEq, Field.str.injEq, Field.nat.injEq, Field.digest.injEq] at fields
  have previous := Field.optional_injective fields.2.2.2.2.2.1
  simp_all

theorem ClockProjectionFailure.digest_inj {a b : ClockProjectionFailure D}
    (same : a.digest = b.digest) : a = b := by
  obtain ⟨-, fields⟩ := collision_free same
  cases a
  cases b
  simp only [List.cons.injEq, Field.str.injEq, Field.nat.injEq, Field.digest.injEq] at fields
  have detail := Field.optional_injective fields.2.2.2.2.1
  have previous := Field.optional_injective fields.2.2.2.2.2.2.2.1
  simp_all

theorem SemanticProjectionReceipt.digest_inj {a b : SemanticProjectionReceipt D}
    (same : a.digest = b.digest) : a = b := by
  obtain ⟨-, fields⟩ := collision_free same
  cases a
  cases b
  simp only [List.cons.injEq, Field.nat.injEq, Field.digest.injEq] at fields
  simp_all

theorem ClockCompletionReceipt.digest_inj [LinearOrder D] {a b : ClockCompletionReceipt D}
    (same : a.digest = b.digest) : a = b := by
  obtain ⟨-, fields⟩ := collision_free same
  rcases a with ⟨_, _, _, _, _, ⟨_, _, _⟩⟩
  rcases b with ⟨_, _, _, _, _, ⟨_, _, _⟩⟩
  simp only [List.cons.injEq, Field.nat.injEq, Field.digest.injEq, Field.digests.injEq] at fields
  have previous := Field.optional_injective fields.2.2.2.2.2.1
  simp_all

/-- The contract types that a temporal store files. -/
inductive ContractName where
  | clockClaim
  | clockProjectionFailure
  | clockCompletionReceipt
  | semanticProjectionReceipt
  deriving DecidableEq

inductive ContractObject (D : Type) [LinearOrder D] where
  | clockClaim (contract : ClockClaim D)
  | clockProjectionFailure (contract : ClockProjectionFailure D)
  | clockCompletionReceipt (contract : ClockCompletionReceipt D)
  | semanticProjectionReceipt (contract : SemanticProjectionReceipt D)
  deriving DecidableEq

namespace ContractObject
variable [LinearOrder D]

omit [Sha256 D] in
def name : ContractObject D → ContractName
  | .clockClaim _ => .clockClaim
  | .clockProjectionFailure _ => .clockProjectionFailure
  | .clockCompletionReceipt _ => .clockCompletionReceipt
  | .semanticProjectionReceipt _ => .semanticProjectionReceipt

def digest : ContractObject D → D
  | .clockClaim contract => contract.digest
  | .clockProjectionFailure contract => contract.digest
  | .clockCompletionReceipt contract => contract.digest
  | .semanticProjectionReceipt contract => contract.digest

/-- Content addressing: the name and digest of a file determine its bytes. -/
theorem eq_of_digest {a b : ContractObject D} (names : a.name = b.name)
    (digests : a.digest = b.digest) : a = b := by
  cases a <;> cases b <;> simp only [name, reduceCtorEq] at names <;> congr 1
  · exact ClockClaim.digest_inj digests
  · exact ClockProjectionFailure.digest_inj digests
  · exact ClockCompletionReceipt.digest_inj digests
  · exact SemanticProjectionReceipt.digest_inj digests

end ContractObject

/-- `__post_init__` admits genesis without a completion and no other such head. -/
structure TemporalHead (D : Type) where
  clockSequence : Nat
  completionDigest : Option D
  genesis : clockSequence = 0 ↔ completionDigest = none
  deriving DecidableEq

namespace TemporalHead

def initial : TemporalHead D := ⟨0, none, by simp⟩

/-- The head that publishing this completion installs. -/
def publishing [LinearOrder D] (c : ClockCompletionReceipt D) : TemporalHead D :=
  ⟨c.clockSequence, some c.digest, by simpa using c.positive.ne'⟩

end TemporalHead
end CsdFoundry.Temporal

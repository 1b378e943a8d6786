import CsdFoundry.Synthesis.Attempts
import CsdFoundry.Synthesis.PublicationStore

/-! The execution inventory, and completions published under it. A record inside another one is
digested on its own. Objects go to the publication store, which gives back what was put in; the
reads that check this are left out. -/
namespace CsdFoundry.Synthesis

/-- `_UINT32_MAX`. -/
def uint32Max : Nat := 2 ^ 32 - 1

structure SampleExecutionSpec (D : Type) where
  globalOrdinal : Nat
  sampleKey : SampleKey
  attemptRange : AttemptRange
  producerContractId : String
  producerContractVersion : Nat
  producerContractDigest : D
  deriving DecidableEq

structure ExecutionInventory (D : Type) where
  generationNamespaceDigest : D
  rootSeedCommitment : D
  operationalRetryPolicyDigest : D
  shardCount : Nat
  samples : List (SampleExecutionSpec D)
  shardCount_pos : 1 ≤ shardCount
  shardCount_le : shardCount ≤ uint32Max
  nonempty : samples ≠ []
  contiguous : samples.map (·.globalOrdinal) = List.range samples.length
  distinct : (samples.map (·.sampleKey)).Nodup

inductive CompletionStatus where
  | accepted
  | rejected
  deriving DecidableEq

structure AttemptCompletionEnvelope (D : Type) where
  attemptKey : AttemptKey
  generationNamespaceDigest : D
  attemptInputCommitmentDigest : D
  completionStatus : CompletionStatus
  completionDigest : D
  searchBranchDigest : D
  choiceLedgerDigest : D
  identityLedgerDigest : D
  deriving DecidableEq

structure InventoryCompletionReference (D : Type) where
  inventoryDigest : D
  globalOrdinal : Nat
  sampleKey : SampleKey
  attemptKey : AttemptKey
  sampleExecutionSpecDigest : D
  completionEnvelopeDigest : D
  deriving DecidableEq

inductive PublicationObjectKind where
  | attemptCompletionEnvelope
  | inventoryCompletionReference
  deriving DecidableEq

structure OperationalPublicationReceipt (D : Type) where
  executionRunId : String
  inventoryDigest : D
  attemptKey : AttemptKey
  publicationOrdinal : Nat
  objectKind : PublicationObjectKind
  objectDigest : D
  disposition : PublicationDisposition
  previousPublicationReceiptDigest : Option D
  deriving DecidableEq

variable {D : Type} [Sha256 D]

def CompletionStatus.value : CompletionStatus → String
  | .accepted => "accepted"
  | .rejected => "rejected"

def PublicationObjectKind.value : PublicationObjectKind → String
  | .attemptCompletionEnvelope => "attempt-completion-envelope"
  | .inventoryCompletionReference => "inventory-completion-reference"

def PublicationDisposition.value : PublicationDisposition → String
  | .published => "published"
  | .existingIdentical => "existing-identical"

def SampleExecutionSpec.digest (spec : SampleExecutionSpec D) : D :=
  Sha256.sha256 "csd-sample-execution-spec/0.4" [.nat spec.attemptRange.maximumAttempts,
    .nat spec.globalOrdinal, .digest spec.producerContractDigest, .str spec.producerContractId,
    .nat spec.producerContractVersion, .nat spec.sampleKey.sampleIndex,
    .str spec.sampleKey.targetId]

def ExecutionInventory.digest (inventory : ExecutionInventory D) : D :=
  Sha256.sha256 "csd-execution-inventory/0.4" [.digest inventory.generationNamespaceDigest,
    .digest inventory.operationalRetryPolicyDigest, .digest inventory.rootSeedCommitment,
    .digests (inventory.samples.map (·.digest)), .nat inventory.shardCount]

def AttemptCompletionEnvelope.digest (envelope : AttemptCompletionEnvelope D) : D :=
  Sha256.sha256 "csd-attempt-completion-envelope/0.4"
    ([.digest envelope.attemptInputCommitmentDigest] ++ envelope.attemptKey.fields ++
      [.digest envelope.choiceLedgerDigest, .digest envelope.completionDigest,
        .str envelope.completionStatus.value, .digest envelope.generationNamespaceDigest,
        .digest envelope.identityLedgerDigest, .digest envelope.searchBranchDigest])

def InventoryCompletionReference.digest (reference : InventoryCompletionReference D) : D :=
  Sha256.sha256 "csd-inventory-completion-reference/0.4"
    (reference.attemptKey.fields ++ [.digest reference.completionEnvelopeDigest,
      .nat reference.globalOrdinal, .digest reference.inventoryDigest,
      .digest reference.sampleExecutionSpecDigest, .nat reference.sampleKey.sampleIndex,
      .str reference.sampleKey.targetId])

def OperationalPublicationReceipt.digest (receipt : OperationalPublicationReceipt D) : D :=
  Sha256.sha256 "csd-operational-publication/0.4"
    (receipt.attemptKey.fields ++ [.str receipt.disposition.value, .str receipt.executionRunId,
      .digest receipt.inventoryDigest, .digest receipt.objectDigest, .str receipt.objectKind.value,
      Field.optional receipt.previousPublicationReceiptDigest, .nat receipt.publicationOrdinal])

def AttemptCompletionEnvelope.fromCompletion (completion : AttemptCompletion D) :
    AttemptCompletionEnvelope D where
  attemptKey := completion.attemptKey
  generationNamespaceDigest := completion.generationNamespaceDigest
  attemptInputCommitmentDigest := completion.attemptInputCommitmentDigest
  completionStatus := if completion.isAccepted then .accepted else .rejected
  completionDigest := completion.completionDigest
  searchBranchDigest := completion.searchBranchDigest
  choiceLedgerDigest := completion.choiceLedgerDigest
  identityLedgerDigest := completion.identityLedgerDigest

variable [DecidableEq D]

def InventoryCompletionReference.fromInventory (inventory : ExecutionInventory D)
    (envelope : AttemptCompletionEnvelope D) :
    Except SynthesisError (InventoryCompletionReference D) := do
  require (envelope.generationNamespaceDigest = inventory.generationNamespaceDigest)
    .publicationProtocol
  match inventory.samples.filter (fun spec => spec.sampleKey = envelope.attemptKey.sampleKey) with
  | [spec] =>
      require (spec.attemptRange.contains envelope.attemptKey.attemptIndex = true)
        .publicationProtocol
      require (spec.globalOrdinal ≤ uint32Max) .publicationProtocol
      return ⟨inventory.digest, spec.globalOrdinal, spec.sampleKey, envelope.attemptKey,
        spec.digest, envelope.digest⟩
  | _ => throw .publicationProtocol

def InventoryCompletionReference.validateAgainst (reference : InventoryCompletionReference D)
    (inventory : ExecutionInventory D) (envelope : AttemptCompletionEnvelope D) :
    Except SynthesisError Unit := do
  let expected ← InventoryCompletionReference.fromInventory inventory envelope
  require (reference = expected) .publicationProtocol

def referenceSpec (inventory : ExecutionInventory D) (reference : InventoryCompletionReference D) :
    Except SynthesisError (SampleExecutionSpec D) := do
  require (reference.inventoryDigest = inventory.digest) .publicationProtocol
  match inventory.samples.filter (fun spec => spec.globalOrdinal = reference.globalOrdinal ∧
      spec.sampleKey = reference.sampleKey) with
  | [spec] =>
      require (spec.digest = reference.sampleExecutionSpecDigest) .publicationProtocol
      require (spec.attemptRange.contains reference.attemptKey.attemptIndex = true)
        .publicationProtocol
      return spec
  | _ => throw .publicationProtocol

/-- `OperationalPublicationReceipt.append`, for a predecessor of the same run and attempt. -/
def OperationalPublicationReceipt.append (previous : Option (OperationalPublicationReceipt D))
    (executionRunId : String) (inventoryDigest : D) (attemptKey : AttemptKey)
    (objectKind : PublicationObjectKind) (objectDigest : D) (disposition : PublicationDisposition) :
    OperationalPublicationReceipt D :=
  ⟨executionRunId, inventoryDigest, attemptKey,
    match previous with
    | none => 0
    | some receipt => receipt.publicationOrdinal + 1,
    objectKind, objectDigest, disposition, previous.map (·.digest)⟩

structure PublishedCompletion (D : Type) where
  envelope : AttemptCompletionEnvelope D
  reference : InventoryCompletionReference D
  envelopeReceipt : OperationalPublicationReceipt D
  referenceReceipt : OperationalPublicationReceipt D
  deriving DecidableEq

/-- How a completion came to the store: the run, and what the store answered. -/
structure Circumstances where
  executionRunId : String
  envelopeDisposition : PublicationDisposition
  referenceDisposition : PublicationDisposition

/-- `publish_completion`. The receipts chain by construction. -/
def publishCompletion (inventory : ExecutionInventory D) (completion : AttemptCompletion D)
    (how : Circumstances) : Except SynthesisError (PublishedCompletion D) := do
  let envelope := AttemptCompletionEnvelope.fromCompletion completion
  let envelopeReceipt := OperationalPublicationReceipt.append none how.executionRunId
    inventory.digest envelope.attemptKey .attemptCompletionEnvelope envelope.digest
    how.envelopeDisposition
  let reference ← InventoryCompletionReference.fromInventory inventory envelope
  let referenceReceipt := OperationalPublicationReceipt.append (some envelopeReceipt)
    how.executionRunId inventory.digest envelope.attemptKey .inventoryCompletionReference
    reference.digest how.referenceDisposition
  return ⟨envelope, reference, envelopeReceipt, referenceReceipt⟩

end CsdFoundry.Synthesis

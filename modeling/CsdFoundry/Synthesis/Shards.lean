import CsdFoundry.Synthesis.Publications
import Mathlib.Data.Prod.Lex

/-! Shard indexes and their sealed manifests. A completion belongs to the shard that its ordinal
has modulo the number of shards. -/
namespace CsdFoundry.Synthesis

structure ShardIndexEntry (D : Type) where
  inventoryDigest : D
  shardCount : Nat
  shardIndex : Nat
  globalOrdinal : Nat
  attemptKey : AttemptKey
  completionEnvelopeDigest : D
  inventoryCompletionReferenceDigest : D
  publicationReceiptDigest : D
  deriving DecidableEq

structure ShardIndex (D : Type) where
  inventoryDigest : D
  shardCount : Nat
  shardIndex : Nat
  entries : List (ShardIndexEntry D)
  deriving DecidableEq

structure SealedShardManifest (D : Type) where
  inventoryDigest : D
  generationNamespaceDigest : D
  shardCount : Nat
  shardIndex : Nat
  shardIndexDigest : D
  entryCount : Nat
  entryDigests : List D
  completionEnvelopeDigests : List D
  inventoryCompletionReferenceDigests : List D
  publicationReceiptDigests : List D
  objectSetDigest : D
  deriving DecidableEq

structure PublishedShard (D : Type) where
  index : ShardIndex D
  manifest : SealedShardManifest D

abbrev SortKey : Type := Nat ×ₗ Nat ×ₗ String ×ₗ String ×ₗ String

variable {D : Type} [Sha256 D] [DigestText D]

namespace ShardIndexEntry

def positionKey (entry : ShardIndexEntry D) : Nat ×ₗ Nat :=
  toLex (entry.globalOrdinal, entry.attemptKey.attemptIndex)

def sortKey (entry : ShardIndexEntry D) : SortKey :=
  toLex (entry.globalOrdinal, toLex (entry.attemptKey.attemptIndex,
    toLex (DigestText.text entry.completionEnvelopeDigest,
      toLex (DigestText.text entry.inventoryCompletionReferenceDigest,
        DigestText.text entry.publicationReceiptDigest))))

def digest (entry : ShardIndexEntry D) : D :=
  Sha256.sha256 "csd-shard-index-entry" (entry.attemptKey.fields ++
    [.digest entry.completionEnvelopeDigest, .nat entry.globalOrdinal,
      .digest entry.inventoryCompletionReferenceDigest, .digest entry.inventoryDigest,
      .digest entry.publicationReceiptDigest, .nat entry.shardCount, .nat entry.shardIndex])

/-- What the constructor asks of the numbers of an entry. -/
def Assigned (entry : ShardIndexEntry D) : Prop :=
  0 < entry.shardCount ∧ entry.shardIndex < entry.shardCount ∧
    entry.globalOrdinal % entry.shardCount = entry.shardIndex

instance (entry : ShardIndexEntry D) : Decidable entry.Assigned :=
  inferInstanceAs (Decidable (_ ∧ _ ∧ _))

variable [DecidableEq D]

def fromPublication (inventory : ExecutionInventory D) (publication : PublishedCompletion D) :
    Except SynthesisError (ShardIndexEntry D) := do
  publication.reference.validateAgainst inventory publication.envelope
  let receipt := publication.referenceReceipt
  require (receipt.inventoryDigest = inventory.digest) .shardPublication
  require (receipt.attemptKey = publication.envelope.attemptKey) .shardPublication
  return ⟨inventory.digest, inventory.shardCount,
    publication.reference.globalOrdinal % inventory.shardCount,
    publication.reference.globalOrdinal, publication.envelope.attemptKey,
    publication.envelope.digest, publication.reference.digest, receipt.digest⟩

end ShardIndexEntry

def ShardIndex.digest (index : ShardIndex D) : D :=
  Sha256.sha256 "csd-shard-index" [.digests (index.entries.map (·.digest)),
    .digest index.inventoryDigest, .nat index.shardCount, .nat index.shardIndex]

def SealedShardManifest.digest (manifest : SealedShardManifest D) : D :=
  Sha256.sha256 "csd-shard-manifest/0.4" [.digests manifest.completionEnvelopeDigests,
    .nat manifest.entryCount, .digests manifest.entryDigests,
    .digest manifest.generationNamespaceDigest,
    .digests manifest.inventoryCompletionReferenceDigests, .digest manifest.inventoryDigest,
    .digest manifest.objectSetDigest, .digests manifest.publicationReceiptDigests,
    .nat manifest.shardCount, .nat manifest.shardIndex, .digest manifest.shardIndexDigest]

variable [DecidableEq D]

/-- One entry of the `canonical` dictionary of `from_entries`. -/
def addEntry (inventory : ExecutionInventory D) (shardIndex : Nat)
    (canonical : List (ShardIndexEntry D)) (entry : ShardIndexEntry D) :
    Except SynthesisError (List (ShardIndexEntry D)) := do
  require (entry.inventoryDigest = inventory.digest) .shardPublication
  require (entry.shardCount = inventory.shardCount ∧ entry.shardIndex = shardIndex)
    .shardPublication
  match canonical.find? (fun other => other.positionKey = entry.positionKey) with
  | some existing =>
      require (existing = entry) .shardPublication
      return canonical
  | none => return canonical ++ [entry]

/-- The constructor repeats the checks of order and position, which hold by construction. -/
def ShardIndex.fromEntries (inventory : ExecutionInventory D) (shardIndex : Nat)
    (entries : List (ShardIndexEntry D)) : Except SynthesisError (ShardIndex D) := do
  require (shardIndex < inventory.shardCount) .shardPublication
  let canonical ← entries.foldlM (addEntry inventory shardIndex) []
  return ⟨inventory.digest, inventory.shardCount, shardIndex,
    canonical.insertionSort fun a b => a.sortKey ≤ b.sortKey⟩

def ShardIndex.extend (inventory : ExecutionInventory D) (previous : ShardIndex D)
    (additions : List (ShardIndexEntry D)) : Except SynthesisError (ShardIndex D) := do
  require (previous.inventoryDigest = inventory.digest) .shardPublication
  ShardIndex.fromEntries inventory previous.shardIndex (previous.entries ++ additions)

def ShardIndex.fromPublications (inventory : ExecutionInventory D) (shardIndex : Nat)
    (publications : List (PublishedCompletion D)) : Except SynthesisError (ShardIndex D) := do
  let own := publications.filter fun publication =>
    publication.reference.globalOrdinal % inventory.shardCount = shardIndex
  let entries ← own.mapM (ShardIndexEntry.fromPublication inventory)
  require (entries.length = publications.length) .shardPublication
  ShardIndex.fromEntries inventory shardIndex entries

/-- `seal` of an index that was just made from its publications. -/
def SealedShardManifest.seal (inventory : ExecutionInventory D) (index : ShardIndex D) :
    Except SynthesisError (SealedShardManifest D) := do
  let envelopes := index.entries.map (·.completionEnvelopeDigest)
  let references := index.entries.map (·.inventoryCompletionReferenceDigest)
  let receipts := index.entries.map (·.publicationReceiptDigest)
  require (index.entries.length ≤ uint32Max) .shardPublication
  return {
    inventoryDigest := inventory.digest
    generationNamespaceDigest := inventory.generationNamespaceDigest
    shardCount := inventory.shardCount
    shardIndex := index.shardIndex
    shardIndexDigest := index.digest
    entryCount := index.entries.length
    entryDigests := index.entries.map (·.digest)
    completionEnvelopeDigests := envelopes
    inventoryCompletionReferenceDigests := references
    publicationReceiptDigests := receipts
    objectSetDigest := Sha256.sha256 "object-set" [.digests envelopes, .digests references,
      .digests receipts, .digest index.digest] }

def publishShard (inventory : ExecutionInventory D) (shardIndex : Nat)
    (publications : List (PublishedCompletion D)) : Except SynthesisError (PublishedShard D) := do
  let index ← ShardIndex.fromPublications inventory shardIndex publications
  let manifest ← SealedShardManifest.seal inventory index
  return ⟨index, manifest⟩

/-- Every completion, then every shard with its completions, in the order of publication. -/
def publishAll (inventory : ExecutionInventory D) (how : AttemptCompletion D → Circumstances)
    (completions : List (AttemptCompletion D)) :
    Except SynthesisError (List (PublishedShard D)) := do
  let publications ← completions.mapM fun completion =>
    publishCompletion inventory completion (how completion)
  (List.range inventory.shardCount).mapM fun shardIndex =>
    publishShard inventory shardIndex (publications.filter fun publication =>
      publication.reference.globalOrdinal % inventory.shardCount = shardIndex)

end CsdFoundry.Synthesis

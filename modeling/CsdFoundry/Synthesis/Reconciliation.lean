import CsdFoundry.Synthesis.Merge
import CsdFoundry.Synthesis.Merkle
import CsdFoundry.Synthesis.Shards

/-! The streaming reconciler: the shards of a run are merged, every sample is resolved from its
attested completions, and what was accepted goes into the semantic corpus. -/
namespace CsdFoundry.Synthesis

inductive SampleResolutionStatus where
  | accepted
  | exhausted
  deriving DecidableEq

structure ReplayAttestation (D : Type) where
  attemptKey : AttemptKey
  completionEnvelopeDigest : D
  completionDigest : D
  replayEvidenceDigest : D
  attestorId : String
  attestorVersion : Nat
  deriving DecidableEq

structure SourcedShardEntry (D : Type) where
  entry : ShardIndexEntry D
  sourceManifestDigest : D

structure SemanticCorpusRecord (D : Type) where
  globalOrdinal : Nat
  sampleKey : SampleKey
  acceptedAttemptIndex : Nat
  acceptedCompletionDigest : D
  rejectedPrefixCompletionDigests : List D
  replayAttestationDigests : List D
  result : Json

structure RunEvidenceRecord (D : Type) where
  inventoryDigest : D
  globalOrdinal : Nat
  sampleKey : SampleKey
  sourceManifestDigests : List D
  completionEnvelopeDigests : List D
  completionDigests : List D
  replayAttestationDigests : List D
  resolutionStatus : SampleResolutionStatus
  selectedAttemptIndex : Option Nat
  resolutionDigest : D

structure SemanticCorpusManifest (D : Type) where
  generationNamespaceDigest : D
  merkleRootDigest : D
  recordCount : Nat
  peakCount : Nat

structure RunEvidenceManifest (D : Type) where
  inventoryDigest : D
  shardCount : Nat
  sourceManifestDigests : List D
  merkleRootDigest : D
  recordCount : Nat
  replayAttestationCount : Nat
  peakCount : Nat

structure CanonicalMergeSeal (D : Type) where
  inventoryDigest : D
  semanticCorpusManifestDigest : D
  runEvidenceManifestDigest : D
  sourceManifestDigests : List D

variable {D : Type} [Sha256 D] [DigestText D]

/-- A completion that the caller replayed. The constructor checks are fields. -/
structure AttestedCompletion (D : Type) [Sha256 D] where
  publication : PublishedCompletion D
  completion : AttemptCompletion D
  attestation : ReplayAttestation D
  envelope : AttemptCompletionEnvelope.fromCompletion completion = publication.envelope
  attempt : attestation.attemptKey = completion.attemptKey
  attestedEnvelope : attestation.completionEnvelopeDigest = publication.envelope.digest
  attestedCompletion : attestation.completionDigest = completion.completionDigest

def SampleResolutionStatus.value : SampleResolutionStatus → String
  | .accepted => "accepted"
  | .exhausted => "exhausted"

def ReplayAttestation.digest (attestation : ReplayAttestation D) : D :=
  Sha256.sha256 "csd-replay-attestation/0.4" (attestation.attemptKey.fields ++
    [.str attestation.attestorId, .nat attestation.attestorVersion,
      .digest attestation.completionDigest, .digest attestation.completionEnvelopeDigest,
      .digest attestation.replayEvidenceDigest])

def SourcedShardEntry.sortKey (sourced : SourcedShardEntry D) : SortKey ×ₗ String :=
  toLex (sourced.entry.sortKey, DigestText.text sourced.sourceManifestDigest)

def SourcedShardEntry.positionKey (sourced : SourcedShardEntry D) : Nat ×ₗ Nat :=
  sourced.entry.positionKey

def SemanticCorpusRecord.digest (record : SemanticCorpusRecord D) : D :=
  Sha256.sha256 "csd-semantic-corpus-record/0.4" [.nat record.acceptedAttemptIndex,
    .digest record.acceptedCompletionDigest, .nat record.globalOrdinal,
    .digests record.rejectedPrefixCompletionDigests, .digests record.replayAttestationDigests,
    .json record.result, .nat record.sampleKey.sampleIndex, .str record.sampleKey.targetId]

def RunEvidenceRecord.digest (record : RunEvidenceRecord D) : D :=
  Sha256.sha256 "csd-run-evidence-record/0.4" [.digests record.completionDigests,
    .digests record.completionEnvelopeDigests, .nat record.globalOrdinal,
    .digest record.inventoryDigest, .digests record.replayAttestationDigests,
    .digest record.resolutionDigest, .str record.resolutionStatus.value,
    .nat record.sampleKey.sampleIndex, .str record.sampleKey.targetId,
    match record.selectedAttemptIndex with
    | none => .null
    | some index => .nat index,
    .digests record.sourceManifestDigests]

def SemanticCorpusManifest.digest (manifest : SemanticCorpusManifest D) : D :=
  Sha256.sha256 "csd-semantic-corpus-manifest/0.4" [.digest manifest.generationNamespaceDigest,
    .digest manifest.merkleRootDigest, .nat manifest.peakCount, .nat manifest.recordCount]

def RunEvidenceManifest.digest (manifest : RunEvidenceManifest D) : D :=
  Sha256.sha256 "csd-run-evidence-manifest/0.4" [.digest manifest.inventoryDigest,
    .digest manifest.merkleRootDigest, .nat manifest.peakCount, .nat manifest.recordCount,
    .nat manifest.replayAttestationCount, .nat manifest.shardCount,
    .digests manifest.sourceManifestDigests]

def CanonicalMergeSeal.digest (merge : CanonicalMergeSeal D) : D :=
  Sha256.sha256 "csd-canonical-merge-seal/0.4" [.digest merge.inventoryDigest,
    .digest merge.runEvidenceManifestDigest, .digest merge.semanticCorpusManifestDigest,
    .digests merge.sourceManifestDigests]

/-- The constructor checks of `SemanticCorpusRecord`. -/
def SemanticCorpusRecord.check (record : SemanticCorpusRecord D) : Except SynthesisError Unit := do
  require (record.globalOrdinal ≤ uint32Max) .reconciliation
  require (record.acceptedAttemptIndex ≤ uint32Max) .reconciliation
  require (record.replayAttestationDigests.length =
    record.rejectedPrefixCompletionDigests.length + 1) .reconciliation

/-- The constructor checks of `RunEvidenceRecord`. -/
def RunEvidenceRecord.check (record : RunEvidenceRecord D) : Except SynthesisError Unit := do
  require (record.globalOrdinal ≤ uint32Max) .reconciliation
  require (record.completionDigests.length ≠ 0 ∧
    record.completionEnvelopeDigests.length = record.completionDigests.length) .reconciliation
  require (record.replayAttestationDigests.length = record.completionDigests.length) .reconciliation
  match record.resolutionStatus, record.selectedAttemptIndex with
  | .accepted, some index => require (index ≤ uint32Max) .reconciliation
  | .accepted, none => throw .reconciliation
  | .exhausted, selected => require (selected = none) .reconciliation

/-- Digests are sorted as texts. -/
def sortDigests (digests : List D) : List D :=
  digests.insertionSort fun a b => DigestText.text a ≤ DigestText.text b

/-- What the reconciler is given: the inventory and the two callbacks. -/
structure StreamingReconciler (D : Type) [Sha256 D] where
  inventory : ExecutionInventory D
  completionResolver : ShardIndexEntry D → Except SynthesisError (PublishedCompletion D)
  replayAttestor : PublishedCompletion D → Except SynthesisError (AttestedCompletion D)

/-- The locals of `_resolve_sample` while it goes through the entries. -/
structure SampleEvidence (D : Type) [Sha256 D] where
  authority : Option (SampleKey × AttemptRange)
  attested : List (AttestedCompletion D)
  sourceManifests : List D

namespace StreamingReconciler
variable [DecidableEq D] (reconciler : StreamingReconciler D)

def attestEntry (globalOrdinal : Nat) (evidence : SampleEvidence D)
    (sourced : SourcedShardEntry D) : Except SynthesisError (SampleEvidence D) := do
  let publication ← reconciler.completionResolver sourced.entry
  require (publication.envelope.digest = sourced.entry.completionEnvelopeDigest) .reconciliation
  require (publication.reference.digest = sourced.entry.inventoryCompletionReferenceDigest)
    .reconciliation
  publication.reference.validateAgainst reconciler.inventory publication.envelope
  let spec ← referenceSpec reconciler.inventory publication.reference
  require (spec.globalOrdinal = globalOrdinal) .reconciliation
  require (evidence.authority = none ∨ evidence.authority = some (spec.sampleKey, spec.attemptRange))
    .reconciliation
  let replayed ← reconciler.replayAttestor publication
  require (replayed.publication = publication) .reconciliation
  return ⟨some (spec.sampleKey, spec.attemptRange), evidence.attested ++ [replayed],
    evidence.sourceManifests ++ [sourced.sourceManifestDigest]⟩

/-- What a resolution comes to: the semantic record, the status, the selected attempt and the
digest of the resolution. -/
def semanticPart (globalOrdinal : Nat) (sampleKey : SampleKey) (attestations : List D) :
    AttemptResolution D → Except SynthesisError
      (Option (SemanticCorpusRecord D) × SampleResolutionStatus × Option Nat × D)
  | .incomplete .. => throw .reconciliation
  | .accepted replay => do
      let semantic : SemanticCorpusRecord D :=
        { globalOrdinal := globalOrdinal
          sampleKey := sampleKey
          acceptedAttemptIndex := replay.acceptedAttempt.attemptIndex
          acceptedCompletionDigest := replay.acceptedAttempt.completionDigest
          rejectedPrefixCompletionDigests := replay.rejectedPrefix.map (·.completionDigest)
          replayAttestationDigests := attestations
          result := replay.result }
      semantic.check
      return (some semantic, .accepted, some semantic.acceptedAttemptIndex, replay.replayDigest)
  | .exhausted evidence => return (none, .exhausted, none, evidence.exhaustionDigest)

def resolveSample (globalOrdinal : Nat) (sourcedEntries : List (SourcedShardEntry D)) :
    Except SynthesisError (Option (SemanticCorpusRecord D) × RunEvidenceRecord D × Nat) := do
  require (sourcedEntries ≠ []) .reconciliation
  let evidence ← sourcedEntries.foldlM (reconciler.attestEntry globalOrdinal) ⟨none, [], []⟩
  match evidence.authority with
  | none => throw .reconciliation
  | some (sampleKey, attemptRange) =>
      let ordered := evidence.attested.insertionSort fun a b =>
        a.completion.attemptIndex ≤ b.completion.attemptIndex
      let resolution ← resolveAttemptPrefix attemptRange (ordered.map (·.completion))
      let attestations := ordered.map (·.attestation.digest)
      let (semantic, status, selected, resolutionDigest) ←
        semanticPart globalOrdinal sampleKey attestations resolution
      let runEvidence : RunEvidenceRecord D :=
        { inventoryDigest := reconciler.inventory.digest
          globalOrdinal := globalOrdinal
          sampleKey := sampleKey
          sourceManifestDigests := sortDigests evidence.sourceManifests.dedup
          completionEnvelopeDigests := ordered.map (·.publication.envelope.digest)
          completionDigests := ordered.map (·.completion.completionDigest)
          replayAttestationDigests := attestations
          resolutionStatus := status
          selectedAttemptIndex := selected
          resolutionDigest := resolutionDigest }
      runEvidence.check
      return (semantic, runEvidence, ordered.length)

end StreamingReconciler

/-- The counters of `reconcile`, and the semantic records that went to the store. -/
structure Tally (D : Type) where
  semanticMerkle : MerkleAccumulator D
  runMerkle : MerkleAccumulator D
  semanticRecords : List (SemanticCorpusRecord D)
  expectedOrdinal : Nat
  sampleCount : Nat
  acceptedCount : Nat
  exhaustedCount : Nat
  replayCount : Nat
  peakBufferedEntries : Nat

/-- The group that is being collected. -/
structure Pending (D : Type) where
  currentOrdinal : Option Nat
  currentEntries : List (SourcedShardEntry D)
  tally : Tally D

structure ReconciliationResult (D : Type) where
  semanticRecords : List (SemanticCorpusRecord D)
  semanticManifest : SemanticCorpusManifest D
  runEvidenceManifest : RunEvidenceManifest D
  mergeSeal : CanonicalMergeSeal D
  sampleCount : Nat
  acceptedSampleCount : Nat
  exhaustedSampleCount : Nat
  replayAttestationCount : Nat
  peakBufferedEntries : Nat

def RunEvidenceManifest.check (manifest : RunEvidenceManifest D) : Except SynthesisError Unit := do
  require (manifest.sourceManifestDigests.length = manifest.shardCount) .reconciliation
  require (manifest.recordCount ≤ uint32Max) .reconciliation
  require (manifest.replayAttestationCount ≤ uint32Max) .reconciliation
  require (manifest.peakCount ≤ uint32Max) .reconciliation

def SemanticCorpusManifest.check (manifest : SemanticCorpusManifest D) :
    Except SynthesisError Unit := do
  require (manifest.recordCount ≤ uint32Max) .reconciliation
  require (manifest.peakCount ≤ uint32Max) .reconciliation

/-- The constructor checks of `ReconciliationResult`. -/
def ReconciliationResult.check (result : ReconciliationResult D) : Except SynthesisError Unit := do
  require (result.sampleCount ≤ uint32Max) .reconciliation
  require (result.acceptedSampleCount ≤ uint32Max) .reconciliation
  require (result.exhaustedSampleCount ≤ uint32Max) .reconciliation
  require (result.replayAttestationCount ≤ uint32Max) .reconciliation
  require (result.peakBufferedEntries ≤ uint32Max) .reconciliation
  require (result.acceptedSampleCount + result.exhaustedSampleCount = result.sampleCount)
    .reconciliation

namespace StreamingReconciler
variable [DecidableEq D] (reconciler : StreamingReconciler D)

/-- `_verify_shards`, without the reads of the store. -/
def verifyShards (shards : List (PublishedShard D)) :
    Except SynthesisError (List (PublishedShard D)) := do
  require (shards.length = reconciler.inventory.shardCount) .reconciliation
  let ordered := shards.insertionSort fun a b => a.index.shardIndex ≤ b.index.shardIndex
  require (ordered.map (·.index.shardIndex) = List.range reconciler.inventory.shardCount)
    .reconciliation
  require (∀ shard ∈ ordered, shard.index.inventoryDigest = reconciler.inventory.digest ∧
    shard.manifest.inventoryDigest = reconciler.inventory.digest ∧
    shard.index.shardCount = reconciler.inventory.shardCount ∧
    shard.manifest.shardCount = reconciler.inventory.shardCount) .reconciliation
  return ordered

/-- `flush` of a group, for `shardCount` shards. -/
def settle (tally : Tally D) (ordinal : Nat) (entries : List (SourcedShardEntry D)) :
    Except SynthesisError (Tally D) := do
  require (ordinal = tally.expectedOrdinal) .reconciliation
  let (semantic, runEvidence, replayed) ← reconciler.resolveSample ordinal entries
  let counted ← match semantic with
    | some record => do
        let merkle ← tally.semanticMerkle.addRecord record.digest
        pure { tally with
          semanticMerkle := merkle
          semanticRecords := tally.semanticRecords ++ [record]
          acceptedCount := tally.acceptedCount + 1 }
    | none => pure { tally with exhaustedCount := tally.exhaustedCount + 1 }
  let runMerkle ← tally.runMerkle.addRecord runEvidence.digest
  return { counted with
    runMerkle := runMerkle
    sampleCount := tally.sampleCount + 1
    replayCount := tally.replayCount + replayed
    expectedOrdinal := tally.expectedOrdinal + 1
    peakBufferedEntries := max tally.peakBufferedEntries
      (reconciler.inventory.shardCount + entries.length) }

def flush (pending : Pending D) : Except SynthesisError (Tally D) :=
  match pending.currentOrdinal with
  | none => return pending.tally
  | some ordinal => reconciler.settle pending.tally ordinal pending.currentEntries

/-- The body of the merge loop. -/
def collect (pending : Pending D) (sourced : SourcedShardEntry D) :
    Except SynthesisError (Pending D) :=
  let ordinal := sourced.entry.globalOrdinal
  if pending.currentOrdinal = none ∨ pending.currentOrdinal = some ordinal then
    return { pending with
      currentOrdinal := some ordinal
      currentEntries := pending.currentEntries ++ [sourced] }
  else do
    let tally ← reconciler.flush pending
    return ⟨some ordinal, [sourced], tally⟩

def streams (shards : List (PublishedShard D)) : List (List (SourcedShardEntry D)) :=
  shards.map fun shard => shard.index.entries.map fun entry => ⟨entry, shard.manifest.digest⟩

/-- `merge_sorted_entry_streams`. -/
def mergeSortedEntryStreams (streams : List (List (SourcedShardEntry D))) :
    List (SourcedShardEntry D) × Option Cursor.MergeError :=
  Cursor.merge SourcedShardEntry.sortKey SourcedShardEntry.positionKey (·.entry)
    (streams.flatten.length + 1) (Cursor.start SourcedShardEntry.sortKey streams) none

/-- The manifests and the seal, once every sample was resolved. -/
def conclude (shards : List (PublishedShard D)) (tally : Tally D) :
    Except SynthesisError (ReconciliationResult D) := do
  let (semanticRoot, semanticRecordCount, semanticPeakCount) := tally.semanticMerkle.finalize
  let (runRoot, runRecordCount, runPeakCount) := tally.runMerkle.finalize
  let semanticManifest : SemanticCorpusManifest D :=
    { generationNamespaceDigest := reconciler.inventory.generationNamespaceDigest
      merkleRootDigest := semanticRoot
      recordCount := semanticRecordCount
      peakCount := semanticPeakCount }
  semanticManifest.check
  let sourceManifests := sortDigests (shards.map (·.manifest.digest))
  let runManifest : RunEvidenceManifest D :=
    { inventoryDigest := reconciler.inventory.digest
      shardCount := reconciler.inventory.shardCount
      sourceManifestDigests := sourceManifests
      merkleRootDigest := runRoot
      recordCount := runRecordCount
      replayAttestationCount := tally.replayCount
      peakCount := runPeakCount }
  runManifest.check
  let result : ReconciliationResult D :=
    { semanticRecords := tally.semanticRecords
      semanticManifest := semanticManifest
      runEvidenceManifest := runManifest
      mergeSeal := ⟨reconciler.inventory.digest, semanticManifest.digest, runManifest.digest,
        sourceManifests⟩
      sampleCount := tally.sampleCount
      acceptedSampleCount := tally.acceptedCount
      exhaustedSampleCount := tally.exhaustedCount
      replayAttestationCount := tally.replayCount
      peakBufferedEntries := tally.peakBufferedEntries }
  result.check
  return result

def reconcile (shards : List (PublishedShard D)) :
    Except SynthesisError (ReconciliationResult D) := do
  let ordered ← reconciler.verifyShards shards
  let (merged, failed) := mergeSortedEntryStreams (streams ordered)
  let pending ← merged.foldlM reconciler.collect
    ⟨none, [], .empty "semantic-corpus-v1", .empty "run-evidence-v1", [], 0, 0, 0, 0, 0,
      ordered.length⟩
  match failed with
  | some .unsorted => throw .reconciliation
  | some .conflict => throw .conflict
  | none =>
      let tally ← reconciler.flush pending
      require (tally.sampleCount = reconciler.inventory.samples.length) .reconciliation
      reconciler.conclude ordered tally

end StreamingReconciler
end CsdFoundry.Synthesis

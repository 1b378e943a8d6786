import CsdFoundry.Synthesis.Samples

/-! Reconciliation does not see the topology: two ways to publish the same completions lead to the
same semantic corpus. -/
namespace CsdFoundry.Synthesis
variable {D : Type} [Sha256 D] [DigestText D] [DecidableEq D]
variable {inventory : ExecutionInventory D} {completions : List (AttemptCompletion D)}

/-- A sample whose attempts are those below a count, all rejected but possibly the last one; it is
accepted, or it is the last of the range. -/
def ResolvedPrefix (completions : List (AttemptCompletion D)) (spec : SampleExecutionSpec D) : Prop :=
  ∃ count > 0,
    (∀ index, (∃ completion ∈ completions, completion.sampleKey = spec.sampleKey ∧
      completion.attemptIndex = index) ↔ index < count) ∧
    (∀ completion ∈ completions, completion.sampleKey = spec.sampleKey →
      completion.isAccepted = true → completion.attemptIndex + 1 = count) ∧
    ((∃ completion ∈ completions, completion.sampleKey = spec.sampleKey ∧
      completion.isAccepted = true) ∨ spec.attemptRange.maximumAttempts ≤ count)

/-- The counters of the result are 32 bits wide; the buffer counts a cursor for each shard and the
largest group. -/
structure CountersFit (inventory : ExecutionInventory D)
    (completions : List (AttemptCompletion D)) : Prop where
  samples : inventory.samples.length ≤ uint32Max
  attestations : completions.dedup.length ≤ uint32Max
  buffered : ∀ spec ∈ inventory.samples, inventory.shardCount +
    (completions.dedup.filter fun completion => completion.sampleKey = spec.sampleKey).length ≤
      uint32Max

/-- The attempts of a sample, in the order of the corpus. -/
def attemptsAt (inventory : ExecutionInventory D) (completions : List (AttemptCompletion D))
    (ordinal : Nat) : List (AttemptCompletion D) :=
  (corpus inventory completions).filter fun completion => ordinalOf inventory completion = ordinal

omit [Sha256 D] [DigestText D] [DecidableEq D] in
theorem globalOrdinal_getElem {ordinal : Nat} (below : ordinal < inventory.samples.length) :
    inventory.samples[ordinal].globalOrdinal = ordinal := by
  have listed := congrArg (·[ordinal]?) inventory.contiguous
  simpa [below] using listed

omit [Sha256 D] [DigestText D] [DecidableEq D] in
theorem spec_unique {a b : SampleExecutionSpec D} (inA : a ∈ inventory.samples)
    (inB : b ∈ inventory.samples) (same : a.globalOrdinal = b.globalOrdinal) : a = b := by
  have distinct : (inventory.samples.map (·.globalOrdinal)).Nodup :=
    inventory.contiguous ▸ List.nodup_range
  exact List.inj_on_of_nodup_map distinct inA inB same

omit [Sha256 D] [DigestText D] [DecidableEq D] in
theorem ordinalOf_lt {completion : AttemptCompletion D} :
    ordinalOf inventory completion < inventory.samples.length := by
  have member : ordinalOf inventory completion ∈ inventory.samples.map (·.globalOrdinal) :=
    List.mem_map_of_mem specOf_mem
  rw [inventory.contiguous] at member
  exact List.mem_range.mp member

omit [Sha256 D] [DigestText D] [DecidableEq D] in
/-- The ordinals are those of the samples. -/
theorem forall_ordinal {P : Nat → Prop} :
    (∀ ordinal < inventory.samples.length, P ordinal) ↔
      ∀ spec ∈ inventory.samples, P spec.globalOrdinal := by
  have listed : ∀ ordinal, ordinal < inventory.samples.length ↔
      ∃ spec ∈ inventory.samples, spec.globalOrdinal = ordinal := by
    intro ordinal
    rw [← List.mem_range, ← inventory.contiguous, List.mem_map]
  simp only [listed]
  constructor
  · exact fun all spec member => all _ ⟨spec, member, rfl⟩
  · rintro all _ ⟨spec, member, rfl⟩
    exact all spec member

variable {spec : SampleExecutionSpec D}

omit [Sha256 D] [DigestText D] [DecidableEq D] in
theorem ordinalOf_eq_iff {completion : AttemptCompletion D} (placed : Placed inventory completion)
    (member : spec ∈ inventory.samples) :
    ordinalOf inventory completion = spec.globalOrdinal ↔ completion.sampleKey = spec.sampleKey := by
  constructor
  · intro same
    rw [← placed.sample, spec_unique specOf_mem member same]
  · intro same
    rw [ordinalOf, specOf_eq member same.symm]

omit [Sha256 D] [DigestText D] in
theorem mem_attemptsAt (placed : ∀ completion ∈ completions, Placed inventory completion)
    (member : spec ∈ inventory.samples) {completion : AttemptCompletion D} :
    completion ∈ attemptsAt inventory completions spec.globalOrdinal ↔
      completion ∈ completions ∧ completion.sampleKey = spec.sampleKey := by
  rw [attemptsAt, List.mem_filter, mem_corpus, decide_eq_true_iff]
  constructor
  · exact fun both => ⟨both.1, (ordinalOf_eq_iff (placed _ both.1) member).mp both.2⟩
  · exact fun both => ⟨both.1, (ordinalOf_eq_iff (placed _ both.1) member).mpr both.2⟩

omit [Sha256 D] [DigestText D] in
theorem attemptsAt_ascending (distinct : Distinct inventory completions) {ordinal : Nat} :
    (attemptsAt inventory completions ordinal).Pairwise fun a b => a.attemptIndex < b.attemptIndex := by
  have ascending := (corpus_ascending distinct).sublist
    (List.filter_sublist : (attemptsAt inventory completions ordinal).Sublist _)
  refine ascending.imp_of_mem ?_
  intro a b inA inB less
  have ordinalA := of_decide_eq_true (List.mem_filter.mp inA).2
  have ordinalB := of_decide_eq_true (List.mem_filter.mp inB).2
  rcases Prod.Lex.toLex_lt_toLex.mp less with lower | ⟨-, before⟩
  · exact absurd lower (by simp [ordinalA, ordinalB])
  · exact before

omit [Sha256 D] [DigestText D] in
theorem attemptsAt_ordered (placed : ∀ completion ∈ completions, Placed inventory completion)
    (distinct : Distinct inventory completions) (member : spec ∈ inventory.samples)
    (nonempty : attemptsAt inventory completions spec.globalOrdinal ≠ []) :
    Ordered spec.attemptRange (attemptsAt inventory completions spec.globalOrdinal) := by
  have own := fun completion => @mem_attemptsAt D _ inventory completions spec placed member completion
  refine ⟨nonempty, attemptsAt_ascending distinct, ?_, ?_, ?_⟩
  · intro completion among
    obtain ⟨inside, key⟩ := (own completion).mp among
    have within := (placed completion inside).inside
    rwa [specOf_eq member key.symm] at within
  · intro a inA b inB
    rw [((own a).mp inA).2, ((own b).mp inB).2]
  · intro a inA b inB
    rw [(placed a ((own a).mp inA).1).corpus, (placed b ((own b).mp inB).1).corpus]

omit [Sha256 D] [DigestText D] in
theorem ordinal_le (placed : ∀ completion ∈ completions, Placed inventory completion)
    (member : spec ∈ inventory.samples)
    (nonempty : attemptsAt inventory completions spec.globalOrdinal ≠ []) :
    spec.globalOrdinal ≤ uint32Max := by
  obtain ⟨completion, among⟩ := List.exists_mem_of_ne_nil _ nonempty
  obtain ⟨inside, key⟩ := (mem_attemptsAt placed member).mp among
  rw [← (ordinalOf_eq_iff (placed completion inside) member).mpr key]
  exact (placed completion inside).ordinal

omit [Sha256 D] [DigestText D] in
/-- The prefix of a sample, read off the set of completions. -/
theorem completePrefix_iff (placed : ∀ completion ∈ completions, Placed inventory completion)
    (distinct : Distinct inventory completions) (member : spec ∈ inventory.samples) :
    (attemptsAt inventory completions spec.globalOrdinal ≠ [] ∧
      CompletePrefix spec.attemptRange (attemptsAt inventory completions spec.globalOrdinal)) ↔
    ResolvedPrefix completions spec := by
  have own := fun completion => @mem_attemptsAt D _ inventory completions spec placed member completion
  have ascending := @attemptsAt_ascending D _ inventory completions distinct spec.globalOrdinal
  generalize attemptsAt inventory completions spec.globalOrdinal = attempts at own ascending
  have accepts : (∃ completion ∈ completions, completion.sampleKey = spec.sampleKey ∧
      completion.isAccepted = true) ↔ ∃ item ∈ attempts, item.isAccepted = true := by
    simp only [own, and_assoc]
  have indices : ∀ index, (∃ completion ∈ completions, completion.sampleKey = spec.sampleKey ∧
      completion.attemptIndex = index) ↔ index ∈ attempts.map (·.attemptIndex) := by
    intro index
    simp only [List.mem_map, own, and_assoc]
  rw [ResolvedPrefix, accepts]
  simp only [indices]
  constructor
  · rintro ⟨nonempty, contiguous, rejected, ends⟩
    refine ⟨attempts.length, List.length_pos_iff.mpr nonempty, ?_, ?_, ends⟩
    · intro index
      rw [contiguous, List.mem_range]
    · intro completion inside key accepted
      obtain ⟨k, found⟩ := List.getElem?_of_mem ((own completion).mpr ⟨inside, key⟩)
      have place := congrArg (·[k]?) contiguous
      have below := (List.getElem?_eq_some_iff.mp found).1
      simp only [List.getElem?_map, found, Option.map_some, List.getElem?_range below,
        Option.some.injEq] at place
      rw [place]
      exact rejected k completion found accepted
  · rintro ⟨count, positive, covers, last, ends⟩
    have sorted : (attempts.map (·.attemptIndex)).Pairwise (· < ·) :=
      List.pairwise_map.mpr ascending
    have perm : (attempts.map (·.attemptIndex)).Perm (List.range count) := by
      refine (List.perm_ext_iff_of_nodup (sorted.imp fun less => ne_of_lt less) List.nodup_range).mpr ?_
      intro index
      rw [covers, List.mem_range]
    have contiguous : attempts.map (·.attemptIndex) = List.range count :=
      perm.eq_of_pairwise (fun a b _ _ ab ba => absurd ab (lt_asymm ba)) sorted List.pairwise_lt_range
    have length : attempts.length = count := by
      have lengths := congrArg List.length contiguous
      simpa using lengths
    subst length
    refine ⟨List.length_pos_iff.mp positive, contiguous, ?_, ends⟩
    intro k item found accepted
    obtain ⟨inside, key⟩ := (own item).mp (List.mem_of_getElem? found)
    have place := congrArg (·[k]?) contiguous
    have below := (List.getElem?_eq_some_iff.mp found).1
    simp only [List.getElem?_map, found, Option.map_some, List.getElem?_range below,
      Option.some.injEq] at place
    rw [← place]
    exact last item inside key accepted

omit [Sha256 D] [DigestText D] in
theorem attemptsAt_length (placed : ∀ completion ∈ completions, Placed inventory completion)
    (member : spec ∈ inventory.samples) :
    (attemptsAt inventory completions spec.globalOrdinal).length =
      (completions.dedup.filter fun completion => completion.sampleKey = spec.sampleKey).length := by
  rw [attemptsAt, (corpus_perm.filter _).length_eq]
  congr 1
  refine List.filter_congr fun completion among => ?_
  have inside := placed completion (List.mem_dedup.mp among)
  simp only [ordinalOf_eq_iff inside member]

/-! ### One reconciliation -/

/-- The semantic record of an ordinal, read off the completions. -/
def semanticAt (attestation : AttemptCompletion D → ReplayAttestation D)
    (inventory : ExecutionInventory D) (completions : List (AttemptCompletion D)) (ordinal : Nat) :
    Option (SemanticCorpusRecord D) :=
  match inventory.samples[ordinal]? with
  | none => none
  | some spec =>
      match StreamingReconciler.outcomeOf attestation spec
          (attemptsAt inventory completions ordinal) with
      | .ok (semantic, _) => semantic
      | .error _ => none

section Reconciliation
open StreamingReconciler
variable {reconciler : StreamingReconciler D} {how : AttemptCompletion D → Circumstances}
variable {attestation : AttemptCompletion D → ReplayAttestation D}
variable {merged : List (SourcedShardEntry D)}

omit [DigestText D] in
theorem group_entries (corpora : merged.map (·.entry) =
      (corpus inventory completions).map (entryOf inventory how)) (ordinal : Nat) :
    (group merged ordinal).map (·.entry) =
      (attemptsAt inventory completions ordinal).map (entryOf inventory how) := by
  have filtered := congrArg (List.filter fun entry => entry.globalOrdinal = ordinal) corpora
  rw [List.filter_map, List.filter_map] at filtered
  exact filtered

omit [DigestText D] in
theorem merged_ascending (distinct : Distinct inventory completions)
    (corpora : merged.map (·.entry) = (corpus inventory completions).map (entryOf inventory how)) :
    merged.Pairwise fun a b => a.entry.globalOrdinal ≤ b.entry.globalOrdinal := by
  have ascending : ((corpus inventory completions).map (entryOf inventory how)).Pairwise
      fun a b => a.globalOrdinal ≤ b.globalOrdinal := by
    refine List.pairwise_map.mpr ((corpus_ascending distinct).imp fun {a b} less => ?_)
    rcases Prod.Lex.toLex_lt_toLex.mp less with lower | ⟨same, -⟩
    · exact le_of_lt lower
    · exact le_of_eq same
  rw [← corpora, List.pairwise_map] at ascending
  exact ascending

omit [DigestText D] in
theorem merged_bounded (corpora : merged.map (·.entry) =
      (corpus inventory completions).map (entryOf inventory how)) :
    ∀ sourced ∈ merged, sourced.entry.globalOrdinal < inventory.samples.length := by
  intro sourced member
  have among : sourced.entry ∈ merged.map (·.entry) := List.mem_map_of_mem member
  rw [corpora] at among
  obtain ⟨completion, -, same⟩ := List.mem_map.mp among
  rw [← same]
  exact ordinalOf_lt

theorem attemptsAt_nonempty (corpora : merged.map (·.entry) =
      (corpus inventory completions).map (entryOf inventory how)) {ordinal : Nat} {outcome}
    (resolved : reconciler.resolveSample ordinal (group merged ordinal) = .ok outcome) :
    attemptsAt inventory completions ordinal ≠ [] := by
  intro empty
  have entries := group_entries corpora ordinal
  rw [empty] at entries
  exact resolveSample_nonempty resolved (List.map_eq_nil_iff.mp entries)

/-- The entries of a sample resolve as its completions do. -/
theorem resolveSample_group (answers : Answers reconciler how completions attestation)
    (placed : ∀ completion ∈ completions, Placed reconciler.inventory completion)
    (distinct : Distinct reconciler.inventory completions)
    (corpora : merged.map (·.entry) = (corpus reconciler.inventory completions).map
      (entryOf reconciler.inventory how)) (member : spec ∈ reconciler.inventory.samples)
    (nonempty : attemptsAt reconciler.inventory completions spec.globalOrdinal ≠ [])
    {semantic : Option (SemanticCorpusRecord D)} {replayed : Nat} :
    (∃ runEvidence, reconciler.resolveSample spec.globalOrdinal (group merged spec.globalOrdinal) =
        .ok (semantic, runEvidence, replayed)) ↔
      (∃ rest, outcomeOf attestation spec
        (attemptsAt reconciler.inventory completions spec.globalOrdinal) = .ok (semantic, rest)) ∧
      replayed = (attemptsAt reconciler.inventory completions spec.globalOrdinal).length := by
  have own := fun completion =>
    @mem_attemptsAt D _ reconciler.inventory completions spec placed member completion
  refine resolveSample_eq answers (attemptsAt_ordered placed distinct member nonempty) ?_ ?_ ?_
    (ordinal_le placed member nonempty) (group_entries corpora _)
  · exact fun completion among => ((own completion).mp among).1
  · exact fun completion among => placed completion ((own completion).mp among).1
  · exact fun completion among => specOf_eq member ((own completion).mp among).2.symm

/-- A sample resolves when it has a complete prefix. -/
theorem resolveSample_ok_iff (answers : Answers reconciler how completions attestation)
    (placed : ∀ completion ∈ completions, Placed reconciler.inventory completion)
    (distinct : Distinct reconciler.inventory completions)
    (corpora : merged.map (·.entry) = (corpus reconciler.inventory completions).map
      (entryOf reconciler.inventory how)) (member : spec ∈ reconciler.inventory.samples) :
    (∃ outcome, reconciler.resolveSample spec.globalOrdinal (group merged spec.globalOrdinal) =
      .ok outcome) ↔ ResolvedPrefix completions spec := by
  rw [← completePrefix_iff placed distinct member]
  constructor
  · rintro ⟨⟨semantic, runEvidence, replayed⟩, resolved⟩
    have nonempty := attemptsAt_nonempty corpora resolved
    obtain ⟨⟨rest, outcome⟩, -⟩ := (resolveSample_group answers placed distinct corpora member
      nonempty).mp ⟨runEvidence, resolved⟩
    have ordered := attemptsAt_ordered placed distinct member nonempty
    refine ⟨nonempty, (outcomeOf_ok_iff ordered ?_).mp ⟨_, outcome⟩⟩
    exact ordinal_le placed member nonempty
  · rintro ⟨nonempty, whole⟩
    have ordered := attemptsAt_ordered placed distinct member nonempty
    obtain ⟨⟨semantic, rest⟩, outcome⟩ : ∃ outcome, outcomeOf attestation spec
        (attemptsAt reconciler.inventory completions spec.globalOrdinal) = .ok outcome :=
      (outcomeOf_ok_iff ordered (ordinal_le placed member nonempty)).mpr whole
    obtain ⟨runEvidence, resolved⟩ := (resolveSample_group answers placed distinct corpora member
      nonempty).mpr ⟨⟨rest, outcome⟩, rfl⟩
    exact ⟨_, resolved⟩

/-- One reconciliation of published shards: when it succeeds, and the corpus it finds. -/
theorem reconcile_published (answers : Answers reconciler how completions attestation)
    {published shards : List (PublishedShard D)}
    (publishes : publishAll reconciler.inventory how completions = .ok published)
    (order : shards.Perm published) :
    ((∃ result, reconciler.reconcile shards = .ok result) ↔
      (∀ spec ∈ reconciler.inventory.samples, ResolvedPrefix completions spec) ∧
        CountersFit reconciler.inventory completions) ∧
    ∀ result, reconciler.reconcile shards = .ok result → ∃ merkle : MerkleAccumulator D,
      result.semanticRecords = (List.range reconciler.inventory.samples.length).filterMap
        (semanticAt attestation reconciler.inventory completions) ∧
      result.semanticRecords.foldlM addSemantic (.empty "semantic-corpus-v1") = .ok merkle ∧
      result.semanticManifest = ⟨reconciler.inventory.generationNamespaceDigest, merkle.finalize.1,
        merkle.finalize.2.1, merkle.finalize.2.2⟩ := by
  obtain ⟨placed, whole⟩ := publishAll_spec publishes
  have distinct := distinct_of_shards whole
  obtain ⟨merged, yielded, corpora⟩ := merged_entries whole
  have sample : ∀ {ordinal} (below : ordinal < reconciler.inventory.samples.length),
      reconciler.inventory.samples[ordinal] ∈ reconciler.inventory.samples ∧
        reconciler.inventory.samples[ordinal].globalOrdinal = ordinal :=
    fun below => ⟨List.getElem_mem below, globalOrdinal_getElem below⟩
  have grouped : ∀ ordinal, (group merged ordinal).length =
      (attemptsAt reconciler.inventory completions ordinal).length := by
    intro ordinal
    rw [← List.length_map (entryOf reconciler.inventory how), ← group_entries corpora,
      List.length_map]
  have known : Known reconciler merged (semanticAt attestation reconciler.inventory completions)
      reconciler.inventory.samples.length := by
    intro ordinal below semantic runEvidence replayed resolved
    have nonempty := attemptsAt_nonempty corpora resolved
    obtain ⟨member, number⟩ := sample below
    have spec := @resolveSample_group _ _ _ _ _ _ _ _ _ _ answers placed distinct corpora member
      (number.symm ▸ nonempty) semantic replayed
    rw [number] at spec
    obtain ⟨⟨rest, outcome⟩, length⟩ := spec.mp ⟨runEvidence, resolved⟩
    constructor
    · simp only [semanticAt, List.getElem?_eq_getElem below, outcome]
    · rw [length, grouped]
  have total : merged.length = completions.dedup.length := by
    rw [← List.length_map (·.entry), corpora, List.length_map, corpus_perm.length_eq]
  obtain ⟨succeeds, results⟩ := reconcile_spec rfl whole order yielded
    (merged_ascending distinct corpora) (merged_bounded corpora) known
  constructor
  · rw [succeeds, forall_ordinal, forall_ordinal, total]
    have resolves : (∀ spec ∈ reconciler.inventory.samples, ∃ outcome, reconciler.resolveSample
        spec.globalOrdinal (group merged spec.globalOrdinal) = .ok outcome) ↔
        ∀ spec ∈ reconciler.inventory.samples, ResolvedPrefix completions spec :=
      forall₂_congr fun spec member => resolveSample_ok_iff answers placed distinct corpora member
    have lengths : ∀ spec ∈ reconciler.inventory.samples, (group merged spec.globalOrdinal).length =
        (completions.dedup.filter fun completion =>
          completion.sampleKey = spec.sampleKey).length := by
      intro spec member
      rw [grouped, attemptsAt_length placed member]
    rw [resolves]
    refine and_congr_right fun _ => ⟨?_, ?_⟩
    · rintro ⟨samples, attestations, buffered⟩
      exact ⟨samples, attestations, fun spec member => lengths spec member ▸ buffered spec member⟩
    · rintro ⟨samples, attestations, buffered⟩
      exact ⟨samples, attestations,
        fun spec member => (lengths spec member).symm ▸ buffered spec member⟩
  · intro result made
    obtain ⟨tally, swept, records, manifest⟩ := results result made
    refine ⟨tally.semanticMerkle, records.trans swept.records, ?_, manifest⟩
    rw [records]
    exact swept.semanticMerkle

/-- Two publications of the same completions, under inventories that differ in the topology, the
seed or the retry policy only, lead to the same semantic corpus. -/
theorem reconciliation_topology_independent {reconciler reconciler' : StreamingReconciler D}
    {how how' : AttemptCompletion D → Circumstances} {completions completions' : List (AttemptCompletion D)}
    {attestation : AttemptCompletion D → ReplayAttestation D}
    (generation : reconciler'.inventory.generationNamespaceDigest =
      reconciler.inventory.generationNamespaceDigest)
    (samples : reconciler'.inventory.samples = reconciler.inventory.samples)
    (same : ∀ completion, completion ∈ completions' ↔ completion ∈ completions)
    (answers : Answers reconciler how completions attestation)
    (answers' : Answers reconciler' how' completions' attestation)
    {published published' shards shards' : List (PublishedShard D)}
    (publishes : publishAll reconciler.inventory how completions = .ok published)
    (publishes' : publishAll reconciler'.inventory how' completions' = .ok published')
    (order : shards.Perm published) (order' : shards'.Perm published') :
    ((∃ result, reconciler.reconcile shards = .ok result) ↔
      (∀ spec ∈ reconciler.inventory.samples, ResolvedPrefix completions spec) ∧
        CountersFit reconciler.inventory completions) ∧
    ∀ result result', reconciler.reconcile shards = .ok result →
      reconciler'.reconcile shards' = .ok result' →
      result'.semanticRecords = result.semanticRecords ∧
        result'.semanticManifest = result.semanticManifest := by
  obtain ⟨succeeds, finds⟩ := reconcile_published answers publishes order
  obtain ⟨-, finds'⟩ := reconcile_published answers' publishes' order'
  refine ⟨succeeds, fun result result' made made' => ?_⟩
  obtain ⟨merkle, records, folded, manifest⟩ := finds result made
  obtain ⟨merkle', records', folded', manifest'⟩ := finds' result' made'
  have corpora := corpus_eq samples same (distinct_of_shards (publishAll_spec publishes).2)
  have semantics : semanticAt attestation reconciler'.inventory completions' =
      semanticAt attestation reconciler.inventory completions := by
    funext ordinal
    simp only [semanticAt, attemptsAt, corpora, ordinalOf_samples samples, samples]
  have equal : result'.semanticRecords = result.semanticRecords := by
    rw [records, records', samples, semantics]
  rw [equal, folded] at folded'
  obtain rfl : merkle = merkle' := Except.ok.inj folded'
  exact ⟨equal, by rw [manifest, manifest', generation]⟩

/-! ### Callbacks over the published completions -/

def attestationOf (completion : AttemptCompletion D) : ReplayAttestation D where
  attemptKey := completion.attemptKey
  completionEnvelopeDigest := (AttemptCompletionEnvelope.fromCompletion completion).digest
  completionDigest := completion.completionDigest
  replayEvidenceDigest := Sha256.sha256 "replay" [.digest completion.completionDigest]
  attestorId := "replay"
  attestorVersion := 1

/-- A reconciler that looks its completions up. -/
def replaying (inventory : ExecutionInventory D) (how : AttemptCompletion D → Circumstances)
    (completions : List (AttemptCompletion D)) : StreamingReconciler D where
  inventory := inventory
  completionResolver entry :=
    match completions.find? (fun completion => entryOf inventory how completion = entry) with
    | some completion => .ok (publicationOf inventory completion (how completion))
    | none => .error .reconciliation
  replayAttestor publication :=
    match completions.find? (fun completion =>
        AttemptCompletionEnvelope.fromCompletion completion = publication.envelope) with
    | some completion =>
        if same : AttemptCompletionEnvelope.fromCompletion completion = publication.envelope then
          .ok ⟨publication, completion, attestationOf completion, same, rfl,
            congrArg (·.digest) same, rfl⟩
        else .error .reconciliation
    | none => .error .reconciliation

omit [DigestText D] in
theorem replaying_answers (inventory : ExecutionInventory D)
    (how : AttemptCompletion D → Circumstances) (completions : List (AttemptCompletion D)) :
    Answers (replaying inventory how completions) how completions attestationOf := by
  constructor
  · intro completion member
    have found : completions.find? (fun other => entryOf inventory how other =
        entryOf inventory how completion) = some completion := by
      refine StableSort.find_unique member (decide_eq_true rfl) fun other _ same => ?_
      have entries := of_decide_eq_true same
      exact fromCompletion_injective (congrArg (·.completionEnvelopeDigest) entries)
    simp only [replaying, found]
  · intro completion member
    have found : completions.find? (fun other => AttemptCompletionEnvelope.fromCompletion other =
        (publicationOf inventory completion (how completion)).envelope) = some completion := by
      refine StableSort.find_unique member (decide_eq_true rfl) fun other _ same => ?_
      have envelopes := of_decide_eq_true same
      exact fromCompletion_injective (congrArg (·.digest) envelopes)
    refine ⟨⟨publicationOf inventory completion (how completion), completion,
      attestationOf completion, rfl, rfl, rfl, rfl⟩, ?_, rfl, rfl, rfl⟩
    simp only [replaying, found]
    exact dif_pos rfl

end Reconciliation

/-! ### Two samples -/

theorem twoAttempts : 1 ≤ 2 := by decide

def sampleSpec (ordinal : Nat) : SampleExecutionSpec (List Nat) :=
  ⟨ordinal, ⟨"target", ordinal⟩, ⟨2, twoAttempts, by decide⟩, "producer", 1, []⟩

def sampleInventory (shardCount : Nat) (positive : 1 ≤ shardCount) (small : shardCount ≤ uint32Max) :
    ExecutionInventory (List Nat) :=
  ⟨[1], [2], [3], shardCount, [sampleSpec 0, sampleSpec 1], positive, small, nofun, rfl, by decide⟩

def sampleAttempt (ordinal index : Nat) (outcome : AttemptOutcome (List Nat)) :
    AttemptCompletion (List Nat) :=
  ⟨⟨⟨"target", ordinal⟩, index⟩, [1], [], [], [], [], outcome⟩

/-- The first sample is accepted at its second attempt, the other one at its first. -/
def sampleCompletions : List (AttemptCompletion (List Nat)) :=
  [sampleAttempt 1 0 (.accepted (.int 1)), sampleAttempt 0 1 (.accepted (.int 0)),
    sampleAttempt 0 0 (.rejected ⟨.planConstructionFailure, "plan", [], .null, []⟩)]

def sampleHow (_ : AttemptCompletion (List Nat)) : Circumstances := ⟨"run", .published, .published⟩

section Samples
variable {shardCount : Nat} {positive : 1 ≤ shardCount} {small : shardCount ≤ uint32Max}

theorem sample_specOf {ordinal : Nat} (listed : ordinal = 0 ∨ ordinal = 1) (index : Nat)
    (outcome : AttemptOutcome (List Nat)) :
    specOf (sampleInventory shardCount positive small) (sampleAttempt ordinal index outcome) =
      sampleSpec ordinal := by
  refine specOf_eq ?_ rfl
  rcases listed with rfl | rfl
  · exact List.mem_cons_self
  · exact List.mem_cons_of_mem _ List.mem_cons_self

theorem sample_attempts : ∀ completion ∈ sampleCompletions, ∃ ordinal index outcome,
    completion = sampleAttempt ordinal index outcome ∧ (ordinal = 0 ∨ ordinal = 1) ∧ index < 2 := by
  intro completion member
  simp only [sampleCompletions, List.mem_cons, List.not_mem_nil, or_false] at member
  rcases member with rfl | rfl | rfl
  · exact ⟨1, 0, _, rfl, .inr rfl, by omega⟩
  · exact ⟨0, 1, _, rfl, .inl rfl, by omega⟩
  · exact ⟨0, 0, _, rfl, .inl rfl, by omega⟩

theorem sample_placed : ∀ completion ∈ sampleCompletions,
    Placed (sampleInventory shardCount positive small) completion := by
  intro completion member
  obtain ⟨ordinal, index, outcome, rfl, listed, below⟩ := sample_attempts completion member
  have spec := @sample_specOf shardCount positive small ordinal listed index outcome
  refine ⟨by rw [spec]; rfl, rfl, by rw [spec]; exact below, ?_⟩
  rw [ordinalOf, spec]
  show ordinal ≤ uint32Max
  rw [uint32Max]
  omega

theorem sample_keys : (sampleCompletions.map (·.attemptKey)).Nodup := by decide

theorem sample_published {completions : List (AttemptCompletion (List Nat))}
    (among : completions ⊆ sampleCompletions) (few : completions.length ≤ 3) :
    ∃ shards, publishAll (sampleInventory shardCount positive small) sampleHow completions =
      .ok shards := by
  have fits : completions.length ≤ uint32Max := few.trans (by decide)
  refine publishAll_ok (fun completion member => sample_placed _ (among member)) ?_ fits
  intro a inA b inB same
  refine List.inj_on_of_nodup_map sample_keys (among inA) (among inB) ?_
  have samples : ∀ completion ∈ sampleCompletions, completion.attemptKey =
      ⟨⟨"target", ordinalOf (sampleInventory shardCount positive small) completion⟩,
        completion.attemptIndex⟩ := by
    intro completion member
    obtain ⟨ordinal, index, outcome, rfl, listed, -⟩ := sample_attempts completion member
    rw [ordinalOf, sample_specOf listed]
    rfl
  obtain ⟨ordinals, indices⟩ := Prod.mk.inj (toLex.injective same)
  rw [samples a (among inA), samples b (among inB), ordinals, indices]

theorem sample_prefix : ∀ spec ∈ (sampleInventory shardCount positive small).samples,
    ResolvedPrefix sampleCompletions spec := by
  intro spec member
  simp only [sampleInventory, List.mem_cons, List.not_mem_nil, or_false] at member
  rcases member with rfl | rfl
  · refine ⟨2, by omega, fun index => ?_, ?_, .inr (le_refl _)⟩
    · simp only [sampleCompletions, List.exists_mem_cons_iff, List.not_mem_nil, false_and, exists_false,
        or_false]
      simp only [sampleAttempt, sampleSpec, AttemptCompletion.sampleKey, AttemptCompletion.attemptIndex,
        SampleKey.mk.injEq, true_and]
      omega
    · decide
  · refine ⟨1, by omega, fun index => ?_, ?_, .inl (by decide)⟩
    · simp only [sampleCompletions, List.exists_mem_cons_iff, List.not_mem_nil, false_and, exists_false,
        or_false]
      simp only [sampleAttempt, sampleSpec, AttemptCompletion.sampleKey, AttemptCompletion.attemptIndex,
        SampleKey.mk.injEq, true_and]
      omega
    · decide

theorem sample_counters (few : shardCount ≤ 2) {completions : List (AttemptCompletion (List Nat))}
    (short : completions.length ≤ 3) :
    CountersFit (sampleInventory shardCount positive small) completions := by
  have distinct : completions.dedup.length ≤ 3 := (List.dedup_sublist _).length_le.trans short
  refine ⟨Nat.le_of_ble_eq_true rfl, distinct.trans (by decide), fun spec _ => ?_⟩
  have group := List.length_filter_le (fun completion : AttemptCompletion (List Nat) =>
    completion.sampleKey = spec.sampleKey) completions.dedup
  show shardCount + _ ≤ uint32Max
  rw [uint32Max]
  omega

theorem sample_reconciled (few : shardCount ≤ 2) {completions : List (AttemptCompletion (List Nat))}
    (same : ∀ completion, completion ∈ completions ↔ completion ∈ sampleCompletions)
    (short : completions.length ≤ 3) :
    ∃ published result, publishAll (sampleInventory shardCount positive small) sampleHow completions =
        .ok published ∧
      (replaying (sampleInventory shardCount positive small) sampleHow completions).reconcile
        published = .ok result := by
  obtain ⟨published, publishes⟩ := @sample_published shardCount positive small completions
    (fun completion member => (same completion).mp member) short
  obtain ⟨succeeds, -⟩ := reconcile_published (replaying_answers _ sampleHow completions) publishes
    (.refl _)
  obtain ⟨result, made⟩ := succeeds.mpr
    ⟨fun spec member => by simpa only [ResolvedPrefix, same] using sample_prefix spec member,
      sample_counters few short⟩
  exact ⟨published, result, publishes, made⟩

end Samples

/-- One shard and two, the completions published in either order. -/
theorem reconciliation_topology_independent_sample :
    ∃ (shards shards' : List (PublishedShard (List Nat))) (result result' : ReconciliationResult _),
      (replaying (sampleInventory 1 (by decide) (by decide)) sampleHow
        sampleCompletions).reconcile shards = .ok result ∧
      (replaying (sampleInventory 2 (by decide) (by decide)) sampleHow
        sampleCompletions.reverse).reconcile shards' = .ok result' ∧
      result'.semanticRecords = result.semanticRecords ∧
      result'.semanticManifest = result.semanticManifest := by
  have same : ∀ completion, completion ∈ sampleCompletions.reverse ↔ completion ∈ sampleCompletions :=
    fun completion => List.mem_reverse
  obtain ⟨shards, result, publishes, made⟩ := @sample_reconciled 1 (by decide) (by decide) (by decide)
    sampleCompletions (fun _ => Iff.rfl) (by decide)
  obtain ⟨shards', result', publishes', made'⟩ := @sample_reconciled 2 (by decide) (by decide)
    (by decide) sampleCompletions.reverse same (by decide)
  have agree := (@reconciliation_topology_independent _ _ _ _
    (replaying (sampleInventory 1 (by decide) (by decide)) sampleHow sampleCompletions)
    (replaying (sampleInventory 2 (by decide) (by decide)) sampleHow sampleCompletions.reverse)
    sampleHow sampleHow sampleCompletions sampleCompletions.reverse attestationOf rfl rfl same
    (replaying_answers _ _ _) (replaying_answers _ _ _) shards shards' shards shards' publishes
    publishes' (.refl _) (.refl _)).2
  exact ⟨shards, shards', result, result', made, made', agree result result' made made'⟩

/-- With as many shards as an inventory may have, the buffer counter overflows. -/
theorem reconciliation_not_topology_independent :
    (∃ shards, publishAll (sampleInventory uint32Max (by decide) (by decide)) sampleHow
        sampleCompletions = .ok shards ∧
      ∀ result, (replaying (sampleInventory uint32Max (by decide) (by decide)) sampleHow
        sampleCompletions).reconcile shards ≠ .ok result) ∧
    ∀ spec ∈ (sampleInventory uint32Max (by decide) (by decide)).samples,
      ResolvedPrefix sampleCompletions spec := by
  obtain ⟨shards, publishes⟩ := sample_published (List.Subset.refl sampleCompletions) (by decide)
  refine ⟨⟨shards, publishes, fun result made => ?_⟩, sample_prefix⟩
  obtain ⟨succeeds, -⟩ := reconcile_published (replaying_answers _ sampleHow sampleCompletions)
    publishes (.refl _)
  obtain ⟨-, fits⟩ := succeeds.mp ⟨result, made⟩
  have buffered : uint32Max + (sampleCompletions.dedup.filter fun completion =>
      completion.sampleKey = (sampleSpec 0).sampleKey).length ≤ uint32Max :=
    fits.buffered (sampleSpec 0) List.mem_cons_self
  have some : (sampleCompletions.dedup.filter fun completion =>
      completion.sampleKey = (sampleSpec 0).sampleKey).length = 2 := by decide
  omega

end CsdFoundry.Synthesis

import CsdFoundry.Synthesis.Corpus

/-! The loop of `reconcile` settles one group after the other: the entries of one ordinal, in
their order. -/
namespace CsdFoundry.Synthesis
namespace StreamingReconciler
variable {D : Type} [Sha256 D] [DigestText D] [DecidableEq D]
variable {reconciler : StreamingReconciler D} {merged : List (SourcedShardEntry D)}

/-- The entries of an ordinal. -/
def group (merged : List (SourcedShardEntry D)) (ordinal : Nat) : List (SourcedShardEntry D) :=
  merged.filter fun sourced => sourced.entry.globalOrdinal = ordinal

/-- An ordinal without entries never reaches `flush`. -/
def settleGroup (reconciler : StreamingReconciler D) (merged : List (SourcedShardEntry D))
    (tally : Tally D) (ordinal : Nat) : Except SynthesisError (Tally D) :=
  if group merged ordinal = [] then .ok tally
  else reconciler.settle tally ordinal (group merged ordinal)

theorem bind_congr_ok {x : Except SynthesisError α} {f g : α → Except SynthesisError β}
    (same : ∀ a, x = .ok a → f a = g a) : (x >>= f) = (x >>= g) := by
  cases x with
  | error e => rfl
  | ok a => exact same a rfl

theorem collect_same {ordinal : Nat} {tally : Tally D} {entries more : List (SourcedShardEntry D)}
    (own : ∀ sourced ∈ more, sourced.entry.globalOrdinal = ordinal) :
    more.foldlM reconciler.collect ⟨some ordinal, entries, tally⟩ =
      .ok ⟨some ordinal, entries ++ more, tally⟩ := by
  induction more generalizing entries with
  | nil => simp [pure, Except.pure]
  | cons sourced more ih =>
      have first := own sourced List.mem_cons_self
      rw [List.foldlM_cons, collect]
      simp only [first, or_true, ↓reduceIte]
      have rest := @ih (entries ++ [sourced]) fun other later => own other (List.mem_cons_of_mem _ later)
      rw [List.append_assoc, List.singleton_append] at rest
      exact rest

/-- The first entry of another group flushes the pending one. -/
theorem collect_new {pending : Pending D} {sourced : SourcedShardEntry D}
    (other : pending.currentOrdinal ≠ some sourced.entry.globalOrdinal)
    (idle : pending.currentOrdinal = none → pending.currentEntries = []) :
    reconciler.collect pending sourced = (reconciler.flush pending >>= fun tally =>
      .ok ⟨some sourced.entry.globalOrdinal, [sourced], tally⟩) := by
  obtain ⟨current, entries, tally⟩ := pending
  cases current with
  | none =>
      have empty : entries = [] := idle rfl
      subst empty
      rfl
  | some ordinal =>
      have apart : ordinal ≠ sourced.entry.globalOrdinal := fun same => other (congrArg some same)
      simp only [collect, reduceCtorEq, Option.some.injEq, apart, or_self, ↓reduceIte]
      rfl

theorem fold_groups {ordinals : List Nat} (distinct : ordinals.Nodup) {pending : Pending D}
    (fresh : ∀ ordinal ∈ ordinals, pending.currentOrdinal ≠ some ordinal)
    (idle : pending.currentOrdinal = none → pending.currentEntries = []) :
    ((ordinals.flatMap (group merged)).foldlM reconciler.collect pending >>= reconciler.flush) =
      (reconciler.flush pending >>= fun tally =>
        ordinals.foldlM (reconciler.settleGroup merged) tally) := by
  induction ordinals generalizing pending with
  | nil =>
      simp only [List.flatMap_nil, List.foldlM_nil, pure_bind, bind_pure]
  | cons ordinal ordinals ih =>
      obtain ⟨alone, distinct⟩ := List.nodup_cons.mp distinct
      have later := fun other member => fresh other (List.mem_cons_of_mem ordinal member)
      rw [List.flatMap_cons, List.foldlM_append]
      cases entries : group merged ordinal with
      | nil =>
          have skipped : ∀ tally, reconciler.settleGroup merged tally ordinal = .ok tally :=
            fun tally => if_pos entries
          simp only [List.foldlM_nil, List.foldlM_cons, skipped]
          exact ih distinct later idle
      | cons sourced more =>
          have own : ∀ other ∈ sourced :: more, other.entry.globalOrdinal = ordinal := by
            intro other member
            rw [← entries] at member
            exact of_decide_eq_true (List.mem_filter.mp member).2
          have first := own sourced List.mem_cons_self
          have settled : ∀ tally, reconciler.settleGroup merged tally ordinal =
              reconciler.settle tally ordinal (sourced :: more) := by
            intro tally
            rw [settleGroup, entries, if_neg (List.cons_ne_nil _ _)]
          rw [List.foldlM_cons, collect_new (first ▸ fresh ordinal List.mem_cons_self) idle]
          simp only [bind_assoc, List.foldlM_cons, settled]
          refine bind_congr_ok fun tally _ => ?_
          rw [ok_bind, first, collect_same fun other member => own other (List.mem_cons_of_mem _ member),
            ok_bind, List.singleton_append]
          exact @ih distinct ⟨some ordinal, sourced :: more, tally⟩
            (fun other member same => alone (Option.some.inj same ▸ member)) nofun

/-- The loop over entries in ascending order. -/
theorem loop_eq {count : Nat} {tally : Tally D}
    (ascending : merged.Pairwise fun a b => a.entry.globalOrdinal ≤ b.entry.globalOrdinal)
    (bounded : ∀ sourced ∈ merged, sourced.entry.globalOrdinal < count) :
    (merged.foldlM reconciler.collect ⟨none, [], tally⟩ >>= reconciler.flush) =
      (List.range count).foldlM (reconciler.settleGroup merged) tally := by
  have groups := StableSort.eq_flatMap_filter ascending bounded
  have folded : (((List.range count).flatMap (group merged)).foldlM reconciler.collect
      ⟨none, [], tally⟩ >>= reconciler.flush) =
      (reconciler.flush ⟨none, [], tally⟩ >>= fun tally =>
        (List.range count).foldlM (reconciler.settleGroup merged) tally) :=
    fold_groups List.nodup_range (fun _ _ => nofun) fun _ => rfl
  have whole : (List.range count).flatMap (group merged) = merged := groups.symm
  rw [whole] at folded
  exact folded

/-! ### What a group does to the counters -/

def addSemantic (merkle : MerkleAccumulator D) (record : SemanticCorpusRecord D) :
    Except SynthesisError (MerkleAccumulator D) :=
  merkle.addRecord record.digest

/-- The effect of `flush` on a group with the given outcome. -/
structure Settles (reconciler : StreamingReconciler D) (tally : Tally D) (ordinal : Nat)
    (entries : List (SourcedShardEntry D)) (semantic : Option (SemanticCorpusRecord D))
    (replayed : Nat) (next : Tally D) : Prop where
  expected : ordinal = tally.expectedOrdinal
  expects : next.expectedOrdinal = ordinal + 1
  samples : next.sampleCount = tally.sampleCount + 1
  records : next.semanticRecords = tally.semanticRecords ++ semantic.toList
  semanticMerkle : semantic.toList.foldlM addSemantic tally.semanticMerkle = .ok next.semanticMerkle
  runMerkle : ∃ digest, tally.runMerkle.addRecord digest = .ok next.runMerkle
  accepted : next.acceptedCount = tally.acceptedCount + semantic.toList.length
  exhausted : next.acceptedCount + next.exhaustedCount =
    tally.acceptedCount + tally.exhaustedCount + 1
  replays : next.replayCount = tally.replayCount + replayed
  peak : next.peakBufferedEntries =
    max tally.peakBufferedEntries (reconciler.inventory.shardCount + entries.length)

variable {tally next : Tally D} {ordinal : Nat} {entries : List (SourcedShardEntry D)}

theorem settle_spec (settled : reconciler.settle tally ordinal entries = .ok next) :
    ∃ semantic runEvidence replayed,
      reconciler.resolveSample ordinal entries = .ok (semantic, runEvidence, replayed) ∧
      Settles reconciler tally ordinal entries semantic replayed next := by
  rw [settle] at settled
  obtain ⟨expected, settled⟩ := require_bind_ok.mp settled
  cases resolved : reconciler.resolveSample ordinal entries with
  | error e =>
      rw [resolved] at settled
      cases settled
  | ok outcome =>
      obtain ⟨semantic, runEvidence, replayed⟩ := outcome
      rw [resolved, ok_bind] at settled
      refine ⟨semantic, runEvidence, replayed, rfl, ?_⟩
      cases semantic with
      | none =>
          simp only [pure_bind] at settled
          cases runAdded : tally.runMerkle.addRecord runEvidence.digest with
          | error e =>
              rw [runAdded] at settled
              cases settled
          | ok runMerkle =>
              rw [runAdded] at settled
              cases settled
              exact ⟨expected, by rw [expected], rfl, (List.append_nil _).symm, rfl, ⟨_, runAdded⟩,
                rfl, rfl, rfl, rfl⟩
      | some record =>
          cases added : tally.semanticMerkle.addRecord record.digest with
          | error e =>
              simp only [added] at settled
              cases settled
          | ok merkle =>
              simp only [added, ok_bind, pure_bind] at settled
              cases runAdded : tally.runMerkle.addRecord runEvidence.digest with
              | error e =>
                  rw [runAdded] at settled
                  cases settled
              | ok runMerkle =>
                  rw [runAdded] at settled
                  cases settled
                  refine ⟨expected, by rw [expected], rfl, rfl, ?_, ⟨_, runAdded⟩, rfl, ?_, rfl, rfl⟩
                  · simp only [Option.toList_some, List.foldlM_cons, List.foldlM_nil, addSemantic,
                      added, ok_bind]
                    rfl
                  · show tally.acceptedCount + 1 + tally.exhaustedCount = _
                    omega

theorem settle_ok {semantic : Option (SemanticCorpusRecord D)} {runEvidence : RunEvidenceRecord D}
    {replayed : Nat} {merkle runMerkle : MerkleAccumulator D}
    (expected : ordinal = tally.expectedOrdinal)
    (resolved : reconciler.resolveSample ordinal entries = .ok (semantic, runEvidence, replayed))
    (added : semantic.toList.foldlM addSemantic tally.semanticMerkle = .ok merkle)
    (runAdded : tally.runMerkle.addRecord runEvidence.digest = .ok runMerkle) :
    ∃ next, reconciler.settle tally ordinal entries = .ok next := by
  rw [settle, require_pos expected, ok_bind, resolved, ok_bind]
  cases semantic with
  | none =>
      simp only [pure_bind, runAdded]
      exact ⟨_, rfl⟩
  | some record =>
      cases first : tally.semanticMerkle.addRecord record.digest with
      | error e => simp [addSemantic, first, Bind.bind, Except.bind] at added
      | ok merkle =>
          simp only [first, ok_bind, pure_bind, runAdded]
          exact ⟨_, rfl⟩

/-! ### The sweep over all ordinals -/

variable (reconciler merged) in
def sweep (count : Nat) (tally : Tally D) : Except SynthesisError (Tally D) :=
  (List.range count).foldlM (reconciler.settleGroup merged) tally

theorem sweep_succ {count : Nat} :
    reconciler.sweep merged (count + 1) tally =
      (reconciler.sweep merged count tally >>= fun tally =>
        reconciler.settleGroup merged tally count) := by
  rw [sweep, List.range_succ, List.foldlM_append]
  simp only [List.foldlM_cons, List.foldlM_nil, bind_pure]
  rfl

theorem sweep_succ_ok {count : Nat} (swept : reconciler.sweep merged (count + 1) tally = .ok next) :
    ∃ middle, reconciler.sweep merged count tally = .ok middle ∧
      reconciler.settleGroup merged middle count = .ok next := by
  rw [sweep_succ] at swept
  cases first : reconciler.sweep merged count tally with
  | error e =>
      rw [first] at swept
      cases swept
  | ok middle =>
      rw [first] at swept
      exact ⟨middle, rfl, swept⟩

/-- Every ordinal is counted only when none was skipped. -/
theorem sweep_counts {count : Nat} (start : tally.expectedOrdinal = 0 ∧ tally.sampleCount = 0)
    (swept : reconciler.sweep merged count tally = .ok next) :
    next.expectedOrdinal = next.sampleCount ∧ next.sampleCount ≤ count ∧
      (next.sampleCount = count → ∀ ordinal < count, group merged ordinal ≠ []) := by
  induction count generalizing next with
  | zero =>
      cases swept
      exact ⟨start.1.trans start.2.symm, le_of_eq start.2, fun _ _ => nofun⟩
  | succ count ih =>
      obtain ⟨middle, earlier, last⟩ := sweep_succ_ok swept
      obtain ⟨same, small, full⟩ := ih earlier
      rw [settleGroup] at last
      split at last
      · cases last
        exact ⟨same, by omega, fun equal => absurd equal (by omega)⟩
      · rename_i some
        obtain ⟨_, _, _, -, settles⟩ := settle_spec last
        have expected := settles.expected
        have expects := settles.expects
        have samples := settles.samples
        refine ⟨by omega, by omega, fun _ ordinal below => ?_⟩
        rcases Nat.lt_succ_iff_lt_or_eq.mp below with less | rfl
        · exact full (by omega) ordinal less
        · exact some

/-! ### The counters after a sweep -/

/-- The counters after the groups below an ordinal, each with its semantic record. -/
structure Swept (reconciler : StreamingReconciler D) (merged : List (SourcedShardEntry D))
    (semanticAt : Nat → Option (SemanticCorpusRecord D)) (count : Nat) (tally : Tally D) : Prop where
  expected : tally.expectedOrdinal = count
  samples : tally.sampleCount = count
  records : tally.semanticRecords = (List.range count).filterMap semanticAt
  accepted : tally.acceptedCount = tally.semanticRecords.length
  terminal : tally.acceptedCount + tally.exhaustedCount = count
  semanticMerkle : tally.semanticRecords.foldlM addSemantic (.empty "semantic-corpus-v1") =
    .ok tally.semanticMerkle
  semanticCounted : MerkleAccumulator.Counted tally.semanticMerkle.peaks tally.acceptedCount
  semanticCount : tally.semanticMerkle.recordCount = tally.acceptedCount
  runCounted : MerkleAccumulator.Counted tally.runMerkle.peaks count
  runCount : tally.runMerkle.recordCount = count
  replays : tally.replayCount = ((List.range count).flatMap (group merged)).length
  peak : ∀ bound, tally.peakBufferedEntries ≤ bound ↔ reconciler.inventory.shardCount ≤ bound ∧
    ∀ ordinal < count, reconciler.inventory.shardCount + (group merged ordinal).length ≤ bound

/-- What the resolver is known to return for the ordinals. -/
def Known (reconciler : StreamingReconciler D) (merged : List (SourcedShardEntry D))
    (semanticAt : Nat → Option (SemanticCorpusRecord D)) (count : Nat) : Prop :=
  ∀ ordinal < count, ∀ semantic runEvidence replayed,
    reconciler.resolveSample ordinal (group merged ordinal) = .ok (semantic, runEvidence, replayed) →
      semantic = semanticAt ordinal ∧ replayed = (group merged ordinal).length

/-- The counters when the loop begins. -/
def beginning (reconciler : StreamingReconciler D) : Tally D :=
  ⟨.empty "semantic-corpus-v1", .empty "run-evidence-v1", [], 0, 0, 0, 0, 0,
    reconciler.inventory.shardCount⟩

omit [DigestText D] [DecidableEq D] in
theorem Swept.beginning {semanticAt : Nat → Option (SemanticCorpusRecord D)} :
    Swept reconciler merged semanticAt 0 reconciler.beginning where
  expected := rfl
  samples := rfl
  records := rfl
  accepted := rfl
  terminal := rfl
  semanticMerkle := rfl
  semanticCounted := ⟨rfl, nofun⟩
  semanticCount := rfl
  runCounted := ⟨rfl, nofun⟩
  runCount := rfl
  replays := rfl
  peak _ := ⟨fun small => ⟨small, nofun⟩, fun both => both.1⟩

omit [DigestText D] [DecidableEq D] in
theorem addSemantic_counted {merkle added : MerkleAccumulator D}
    {semantic : Option (SemanticCorpusRecord D)}
    (counted : MerkleAccumulator.Counted merkle.peaks merkle.recordCount)
    (small : merkle.recordCount + 1 ≤ uint32Max)
    (folded : semantic.toList.foldlM addSemantic merkle = .ok added) :
    MerkleAccumulator.Counted added.peaks added.recordCount ∧
      added.recordCount = merkle.recordCount + semantic.toList.length := by
  cases semantic with
  | none =>
      cases folded
      exact ⟨counted, rfl⟩
  | some record =>
      obtain ⟨sum, made, counted', count⟩ :=
        MerkleAccumulator.addRecord_ok record.digest counted small
      simp only [Option.toList_some, List.foldlM_cons, List.foldlM_nil, addSemantic, made] at folded
      cases folded
      exact ⟨counted', count⟩

omit [DigestText D] [DecidableEq D] in
theorem Swept.step {semanticAt : Nat → Option (SemanticCorpusRecord D)} {count replayed : Nat}
    {semantic : Option (SemanticCorpusRecord D)} (swept : Swept reconciler merged semanticAt count tally)
    (small : count + 1 ≤ uint32Max) (known : semantic = semanticAt count)
    (replays : replayed = (group merged count).length)
    (settles : Settles reconciler tally count (group merged count) semantic replayed next) :
    Swept reconciler merged semanticAt (count + 1) next := by
  have within : tally.acceptedCount ≤ count := by
    have terminal := swept.terminal
    omega
  have counted : MerkleAccumulator.Counted tally.semanticMerkle.peaks
      tally.semanticMerkle.recordCount := swept.semanticCount ▸ swept.semanticCounted
  obtain ⟨semanticCounted, semanticCount⟩ := addSemantic_counted counted
    (by rw [swept.semanticCount]; omega) settles.semanticMerkle
  have accepted : next.acceptedCount = next.semanticRecords.length := by
    rw [settles.accepted, settles.records, List.length_append, swept.accepted]
  have semantics : next.semanticMerkle.recordCount = next.acceptedCount := by
    rw [semanticCount, settles.accepted, swept.semanticCount]
  obtain ⟨digest, added⟩ := settles.runMerkle
  have runs : MerkleAccumulator.Counted tally.runMerkle.peaks tally.runMerkle.recordCount :=
    swept.runCount ▸ swept.runCounted
  obtain ⟨merkle, made, runCounted, runCount⟩ := MerkleAccumulator.addRecord_ok digest runs
    (by rw [swept.runCount]; exact small)
  obtain rfl : merkle = next.runMerkle := Except.ok.inj (made.symm.trans added)
  have total : next.runMerkle.recordCount = count + 1 := by rw [runCount, swept.runCount]
  refine ⟨settles.expects, ?_, ?_, accepted, ?_, ?_, semantics ▸ semanticCounted, semantics,
    total ▸ runCounted, total, ?_, ?_⟩
  · rw [settles.samples, swept.samples]
  · rw [settles.records, swept.records, List.range_succ, List.filterMap_append, known]
    cases found : semanticAt count with
    | none => rw [List.filterMap_cons_none found, List.filterMap_nil, Option.toList_none]
    | some record =>
        rw [List.filterMap_cons_some found, List.filterMap_nil, Option.toList_some]
  · rw [settles.exhausted, swept.terminal]
  · rw [settles.records, List.foldlM_append, swept.semanticMerkle]
    exact settles.semanticMerkle
  · rw [settles.replays, swept.replays, replays, List.range_succ, List.flatMap_append,
      List.length_append, List.flatMap_singleton]
  · intro bound
    rw [settles.peak, max_le_iff, swept.peak]
    constructor
    · rintro ⟨⟨shards, earlier⟩, last⟩
      refine ⟨shards, fun ordinal below => ?_⟩
      rcases Nat.lt_succ_iff_lt_or_eq.mp below with less | rfl
      · exact earlier ordinal less
      · exact last
    · rintro ⟨shards, all⟩
      exact ⟨⟨shards, fun ordinal less => all ordinal (Nat.lt_succ_of_lt less)⟩,
        all count (Nat.lt_succ_self count)⟩

theorem Known.lower {semanticAt : Nat → Option (SemanticCorpusRecord D)} {count : Nat}
    (known : Known reconciler merged semanticAt (count + 1)) :
    Known reconciler merged semanticAt count :=
  fun ordinal below => known ordinal (Nat.lt_succ_of_lt below)

/-- A sweep that skipped nothing resolved every group. -/
theorem sweep_spec {semanticAt : Nat → Option (SemanticCorpusRecord D)} {count : Nat}
    (known : Known reconciler merged semanticAt count) (small : count ≤ uint32Max)
    (full : ∀ ordinal < count, group merged ordinal ≠ [])
    (swept : reconciler.sweep merged count reconciler.beginning = .ok next) :
    Swept reconciler merged semanticAt count next ∧ ∀ ordinal < count,
      ∃ outcome, reconciler.resolveSample ordinal (group merged ordinal) = .ok outcome := by
  induction count generalizing next with
  | zero =>
      cases swept
      exact ⟨.beginning, nofun⟩
  | succ count ih =>
      obtain ⟨middle, earlier, last⟩ := sweep_succ_ok swept
      obtain ⟨before, resolved⟩ := ih known.lower (Nat.le_of_succ_le small)
        (fun ordinal below => full ordinal (Nat.lt_succ_of_lt below)) earlier
      rw [settleGroup, if_neg (full count (Nat.lt_succ_self count))] at last
      obtain ⟨semantic, runEvidence, replayed, own, settles⟩ := settle_spec last
      obtain ⟨record, replays⟩ := known count (Nat.lt_succ_self count) _ _ _ own
      refine ⟨before.step small record replays settles, fun ordinal below => ?_⟩
      rcases Nat.lt_succ_iff_lt_or_eq.mp below with less | rfl
      · exact resolved ordinal less
      · exact ⟨_, own⟩

theorem resolveSample_nonempty {outcome}
    (resolved : reconciler.resolveSample ordinal entries = .ok outcome) : entries ≠ [] := by
  rw [resolveSample] at resolved
  exact (require_bind_ok.mp resolved).1

/-- Groups that all resolve make a sweep. -/
theorem sweep_ok {semanticAt : Nat → Option (SemanticCorpusRecord D)} {count : Nat}
    (known : Known reconciler merged semanticAt count) (small : count ≤ uint32Max)
    (resolved : ∀ ordinal < count,
      ∃ outcome, reconciler.resolveSample ordinal (group merged ordinal) = .ok outcome) :
    ∃ next, reconciler.sweep merged count reconciler.beginning = .ok next := by
  induction count with
  | zero => exact ⟨_, rfl⟩
  | succ count ih =>
      obtain ⟨middle, earlier⟩ := ih known.lower (Nat.le_of_succ_le small)
        fun ordinal below => resolved ordinal (Nat.lt_succ_of_lt below)
      have full : ∀ ordinal < count, group merged ordinal ≠ [] := by
        intro ordinal below
        obtain ⟨_, own⟩ := resolved ordinal (Nat.lt_succ_of_lt below)
        exact resolveSample_nonempty own
      obtain ⟨before, -⟩ := sweep_spec known.lower (Nat.le_of_succ_le small) full earlier
      obtain ⟨⟨semantic, runEvidence, replayed⟩, own⟩ := resolved count (Nat.lt_succ_self count)
      have within : middle.acceptedCount ≤ count := by
        have terminal := before.terminal
        omega
      obtain ⟨merkle, added⟩ : ∃ merkle,
          semantic.toList.foldlM addSemantic middle.semanticMerkle = .ok merkle := by
        cases semantic with
        | none => exact ⟨_, rfl⟩
        | some record =>
            obtain ⟨sum, made, -, -⟩ := MerkleAccumulator.addRecord_ok record.digest
              (before.semanticCount ▸ before.semanticCounted)
              (by rw [before.semanticCount]; omega)
            refine ⟨sum, ?_⟩
            simp only [Option.toList_some, List.foldlM_cons, List.foldlM_nil, addSemantic, made]
            rfl
      obtain ⟨runMerkle, runAdded, -, -⟩ := MerkleAccumulator.addRecord_ok runEvidence.digest
        (before.runCount ▸ before.runCounted) (by rw [before.runCount]; exact small)
      obtain ⟨next, settled⟩ := settle_ok before.expected.symm own added runAdded
      refine ⟨next, ?_⟩
      rw [sweep_succ, earlier, ok_bind, settleGroup, if_neg (resolveSample_nonempty own), settled]

/-! ### The result -/

def semanticManifestOf (reconciler : StreamingReconciler D) (tally : Tally D) :
    SemanticCorpusManifest D where
  generationNamespaceDigest := reconciler.inventory.generationNamespaceDigest
  merkleRootDigest := tally.semanticMerkle.finalize.1
  recordCount := tally.semanticMerkle.finalize.2.1
  peakCount := tally.semanticMerkle.finalize.2.2

omit [DecidableEq D] in
theorem conclude_spec {shards : List (PublishedShard D)} {result : ReconciliationResult D}
    (concluded : reconciler.conclude shards tally = .ok result) :
    result.semanticRecords = tally.semanticRecords ∧
      result.semanticManifest = reconciler.semanticManifestOf tally ∧
      tally.sampleCount ≤ uint32Max ∧ tally.replayCount ≤ uint32Max ∧
      tally.peakBufferedEntries ≤ uint32Max := by
  simp only [conclude, SemanticCorpusManifest.check, RunEvidenceManifest.check,
    ReconciliationResult.check, bind_assoc, require_bind_ok] at concluded
  obtain ⟨-, -, -, -, -, -, samples, -, -, replays, peak, -, made⟩ := concluded
  cases made
  exact ⟨rfl, rfl, samples, replays, peak⟩

omit [DecidableEq D] in
theorem conclude_ok {semanticAt : Nat → Option (SemanticCorpusRecord D)} {count : Nat}
    (swept : Swept reconciler merged semanticAt count tally) {shards : List (PublishedShard D)}
    (length : shards.length = reconciler.inventory.shardCount) (samples : count ≤ uint32Max)
    (replays : tally.replayCount ≤ uint32Max) (peak : tally.peakBufferedEntries ≤ uint32Max) :
    ∃ result, reconciler.conclude shards tally = .ok result := by
  have terminal := swept.terminal
  have same := swept.samples
  have semanticCount : tally.semanticMerkle.finalize.2.1 ≤ uint32Max := by
    show tally.semanticMerkle.recordCount ≤ uint32Max
    rw [swept.semanticCount]
    omega
  have semanticPeaks : tally.semanticMerkle.finalize.2.2 ≤ uint32Max := by
    rw [MerkleAccumulator.finalize_peakCount]
    have fewer := swept.semanticCounted.length_le
    omega
  have runCount : tally.runMerkle.finalize.2.1 ≤ uint32Max := by
    show tally.runMerkle.recordCount ≤ uint32Max
    rw [swept.runCount]
    exact samples
  have runPeaks : tally.runMerkle.finalize.2.2 ≤ uint32Max := by
    rw [MerkleAccumulator.finalize_peakCount]
    exact swept.runCounted.length_le.trans samples
  have manifests : (sortDigests (shards.map (·.manifest.digest))).length =
      reconciler.inventory.shardCount := by
    rw [sortDigests, List.length_insertionSort, List.length_map, length]
  simp only [conclude, SemanticCorpusManifest.check, RunEvidenceManifest.check,
    ReconciliationResult.check, bind_assoc, require_bind_ok]
  exact ⟨_, semanticCount, semanticPeaks, manifests, runCount, replays, runPeaks, by omega,
    by omega, by omega, replays, peak, by omega, rfl⟩

variable {inventory : ExecutionInventory D} {how : AttemptCompletion D → Circumstances}
variable {completions : List (AttemptCompletion D)}

/-- Reconciling published shards, once every answer of the resolver is known. -/
theorem reconcile_spec {published shards : List (PublishedShard D)}
    {semanticAt : Nat → Option (SemanticCorpusRecord D)}
    (same : reconciler.inventory = inventory)
    (whole : List.Forall₂ (IsShard inventory how completions)
      (List.range inventory.shardCount) published) (order : shards.Perm published)
    (yielded : mergeSortedEntryStreams (streams published) = (merged, none))
    (ascending : merged.Pairwise fun a b => a.entry.globalOrdinal ≤ b.entry.globalOrdinal)
    (bounded : ∀ sourced ∈ merged, sourced.entry.globalOrdinal < inventory.samples.length)
    (known : Known reconciler merged semanticAt inventory.samples.length) :
    ((∃ result, reconciler.reconcile shards = .ok result) ↔
      (∀ ordinal < inventory.samples.length,
        ∃ outcome, reconciler.resolveSample ordinal (group merged ordinal) = .ok outcome) ∧
      inventory.samples.length ≤ uint32Max ∧ merged.length ≤ uint32Max ∧
      ∀ ordinal < inventory.samples.length,
        inventory.shardCount + (group merged ordinal).length ≤ uint32Max) ∧
    ∀ result, reconciler.reconcile shards = .ok result →
      ∃ tally, Swept reconciler merged semanticAt inventory.samples.length tally ∧
        result.semanticRecords = tally.semanticRecords ∧
        result.semanticManifest = reconciler.semanticManifestOf tally := by
  subst same
  have length : published.length = reconciler.inventory.shardCount := by
    rw [← whole.length_eq, List.length_range]
  have replays : ((List.range reconciler.inventory.samples.length).flatMap (group merged)).length =
      merged.length := congrArg List.length (StableSort.eq_flatMap_filter ascending bounded).symm
  have reconciled : reconciler.reconcile shards =
      (reconciler.sweep merged reconciler.inventory.samples.length reconciler.beginning >>=
        fun tally => require (tally.sampleCount = reconciler.inventory.samples.length)
          .reconciliation >>= fun _ => reconciler.conclude published tally) := by
    rw [reconcile, verifyShards_ok rfl whole order, ok_bind, yielded, sweep,
      ← loop_eq ascending bounded, bind_assoc, beginning, length]
  have spec : ∀ result, reconciler.reconcile shards = .ok result ↔
      ∃ tally, reconciler.sweep merged reconciler.inventory.samples.length reconciler.beginning =
        .ok tally ∧ tally.sampleCount = reconciler.inventory.samples.length ∧
        reconciler.conclude published tally = .ok result := by
    intro result
    rw [reconciled]
    cases reconciler.sweep merged reconciler.inventory.samples.length reconciler.beginning with
    | error e => exact ⟨nofun, nofun⟩
    | ok tally =>
        rw [ok_bind, require_bind_ok]
        constructor
        · exact fun both => ⟨tally, rfl, both⟩
        · rintro ⟨_, ⟨⟩, both⟩
          exact both
  have swept : ∀ result, reconciler.reconcile shards = .ok result → ∃ tally,
      Swept reconciler merged semanticAt reconciler.inventory.samples.length tally ∧
      (∀ ordinal < reconciler.inventory.samples.length,
        ∃ outcome, reconciler.resolveSample ordinal (group merged ordinal) = .ok outcome) ∧
      reconciler.conclude published tally = .ok result := by
    intro result made
    obtain ⟨tally, run, samples, concluded⟩ := (spec result).mp made
    obtain ⟨-, -, small, -, -⟩ := conclude_spec concluded
    obtain ⟨-, -, full⟩ := sweep_counts ⟨rfl, rfl⟩ run
    obtain ⟨state, resolved⟩ := sweep_spec known (samples ▸ small) (full samples) run
    exact ⟨tally, state, resolved, concluded⟩
  refine ⟨⟨?_, ?_⟩, ?_⟩
  · rintro ⟨result, made⟩
    obtain ⟨tally, state, resolved, concluded⟩ := swept result made
    obtain ⟨-, -, samples, total, peak⟩ := conclude_spec concluded
    rw [state.samples] at samples
    rw [state.replays, replays] at total
    exact ⟨resolved, samples, total, ((state.peak _).mp peak).2⟩
  · rintro ⟨resolved, samples, total, peak⟩
    obtain ⟨tally, run⟩ := sweep_ok known samples resolved
    have full : ∀ ordinal < reconciler.inventory.samples.length, group merged ordinal ≠ [] := by
      intro ordinal below
      obtain ⟨_, own⟩ := resolved ordinal below
      exact resolveSample_nonempty own
    obtain ⟨state, -⟩ := sweep_spec known samples full run
    rw [← replays, ← state.replays] at total
    obtain ⟨result, concluded⟩ := conclude_ok state length samples total
      ((state.peak _).mpr ⟨reconciler.inventory.shardCount_le, peak⟩)
    exact ⟨result, (spec result).mpr ⟨tally, run, state.samples, concluded⟩⟩
  · intro result made
    obtain ⟨tally, state, -, concluded⟩ := swept result made
    obtain ⟨records, manifest, -⟩ := conclude_spec concluded
    exact ⟨tally, state, records, manifest⟩

end StreamingReconciler
end CsdFoundry.Synthesis

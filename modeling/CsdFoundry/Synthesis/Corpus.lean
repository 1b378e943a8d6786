import CsdFoundry.StableSort
import CsdFoundry.Synthesis.Placement
import CsdFoundry.Synthesis.Reconciliation

/-! The order of the corpus does not see the shards: whatever the topology, the merge yields one
entry for each completion, by ordinal and attempt. -/
namespace CsdFoundry.Synthesis
variable {D : Type} [Sha256 D] [DigestText D] [DecidableEq D]
variable {inventory : ExecutionInventory D} {how : AttemptCompletion D → Circumstances}
variable {completions : List (AttemptCompletion D)}

/-- The completions by ordinal and attempt, each once. -/
def corpus (inventory : ExecutionInventory D) (completions : List (AttemptCompletion D)) :
    List (AttemptCompletion D) :=
  completions.dedup.insertionSort fun a b => placeOf inventory a ≤ placeOf inventory b

omit [DigestText D] [Sha256 D] in
theorem corpus_perm : (corpus inventory completions).Perm completions.dedup :=
  List.perm_insertionSort _ _

omit [DigestText D] [Sha256 D] in
theorem mem_corpus {completion : AttemptCompletion D} :
    completion ∈ corpus inventory completions ↔ completion ∈ completions := by
  rw [corpus_perm.mem_iff, List.mem_dedup]

/-- No two completions share a place. -/
def Distinct (inventory : ExecutionInventory D) (completions : List (AttemptCompletion D)) : Prop :=
  ∀ a ∈ completions, ∀ b ∈ completions, placeOf inventory a = placeOf inventory b → a = b

instance placeOrder_trans : IsTrans (AttemptCompletion D) fun a b =>
    placeOf inventory a ≤ placeOf inventory b := ⟨fun _ _ _ ab bc => le_trans ab bc⟩

instance placeOrder_total : Std.Total fun a b : AttemptCompletion D =>
    placeOf inventory a ≤ placeOf inventory b := ⟨fun _ _ => le_total _ _⟩

omit [DigestText D] [Sha256 D] in
theorem corpus_ascending (distinct : Distinct inventory completions) :
    (corpus inventory completions).Pairwise fun a b => placeOf inventory a < placeOf inventory b := by
  have sorted : (corpus inventory completions).Pairwise fun a b =>
      placeOf inventory a ≤ placeOf inventory b := List.pairwise_insertionSort _ _
  have nodup : (corpus inventory completions).Nodup := corpus_perm.nodup_iff.mpr (List.nodup_dedup _)
  refine (List.pairwise_and_iff.mpr ⟨sorted, nodup⟩).imp_of_mem ?_
  rintro a b inA inB ⟨le, apart⟩
  refine lt_of_le_of_ne le fun same => apart ?_
  exact distinct a (mem_corpus.mp inA) b (mem_corpus.mp inB) same

omit [DigestText D] [Sha256 D] [DecidableEq D] in
theorem ordinalOf_samples {inventory' : ExecutionInventory D}
    (samples : inventory'.samples = inventory.samples) (completion : AttemptCompletion D) :
    ordinalOf inventory' completion = ordinalOf inventory completion := by
  simp only [ordinalOf, specOf, samples]

omit [DigestText D] [Sha256 D] in
/-- Two sets with the same completions have the same corpus, under inventories with the same
samples. -/
theorem corpus_eq {inventory' : ExecutionInventory D} {completions' : List (AttemptCompletion D)}
    (samples : inventory'.samples = inventory.samples)
    (same : ∀ completion, completion ∈ completions' ↔ completion ∈ completions)
    (distinct : Distinct inventory completions) :
    corpus inventory' completions' = corpus inventory completions := by
  have places : ∀ completion, placeOf inventory' completion = placeOf inventory completion := by
    intro completion
    rw [placeOf, placeOf, ordinalOf_samples samples]
  have distinct' : Distinct inventory' completions' := by
    intro a inA b inB
    rw [places, places]
    exact distinct a ((same a).mp inA) b ((same b).mp inB)
  have perm : (corpus inventory' completions').Perm (corpus inventory completions) := by
    refine (List.perm_ext_iff_of_nodup ?_ ?_).mpr fun completion => ?_
    · exact corpus_perm.nodup_iff.mpr (List.nodup_dedup _)
    · exact corpus_perm.nodup_iff.mpr (List.nodup_dedup _)
    · rw [mem_corpus, mem_corpus, same]
  have ascending : (corpus inventory' completions').Pairwise fun a b =>
      placeOf inventory a < placeOf inventory b :=
    (corpus_ascending distinct').imp fun less => by rwa [places, places] at less
  exact perm.eq_of_pairwise (fun a b _ _ ab ba => absurd ab (lt_asymm ba)) ascending
    (corpus_ascending distinct)

/-! ### The shards in order -/

theorem exists_of_forall₂_left {R : α → β → Prop} {l : List α} {m : List β}
    (both : List.Forall₂ R l m) {a : α} (member : a ∈ l) : ∃ b ∈ m, R a b := by
  induction both with
  | nil => cases member
  | cons first _ ih =>
      rcases List.mem_cons.mp member with rfl | later
      · exact ⟨_, List.mem_cons_self, first⟩
      · obtain ⟨b, among, holds⟩ := ih later
        exact ⟨b, List.mem_cons_of_mem _ among, holds⟩

theorem exists_of_forall₂_right {R : α → β → Prop} {l : List α} {m : List β}
    (both : List.Forall₂ R l m) {b : β} (member : b ∈ m) : ∃ a ∈ l, R a b :=
  exists_of_forall₂_left both.flip member

omit [DecidableEq D] in
/-- Published shards determine who shares a place. -/
theorem distinct_of_shards {shards : List (PublishedShard D)}
    (published : List.Forall₂ (IsShard inventory how completions)
      (List.range inventory.shardCount) shards) : Distinct inventory completions := by
  intro a inA b inB same
  have ordinals : ordinalOf inventory a = ordinalOf inventory b := congrArg Prod.fst same
  have inside : ordinalOf inventory a % inventory.shardCount < inventory.shardCount :=
    Nat.mod_lt _ inventory.shardCount_pos
  obtain ⟨shard, -, holds⟩ := exists_of_forall₂_left published (List.mem_range.mpr inside)
  have first : entryOf inventory how a ∈ shard.index.entries :=
    (holds.entries _).mpr ⟨a, inA, rfl, rfl⟩
  have second : entryOf inventory how b ∈ shard.index.entries :=
    (holds.entries _).mpr ⟨b, inB, by rw [ordinals], rfl⟩
  have equal := List.inj_on_of_nodup_map holds.distinct first second same
  exact fromCompletion_injective (congrArg (·.completionEnvelopeDigest) equal)

variable {reconciler : StreamingReconciler D}

instance shardOrder_trans : IsTrans (PublishedShard D) fun a b =>
    a.index.shardIndex ≤ b.index.shardIndex := ⟨fun _ _ _ ab bc => le_trans ab bc⟩

instance shardOrder_total : Std.Total fun a b : PublishedShard D =>
    a.index.shardIndex ≤ b.index.shardIndex := ⟨fun _ _ => le_total _ _⟩

omit [DecidableEq D] in
theorem shardIndices {published : List (PublishedShard D)}
    (whole : List.Forall₂ (IsShard inventory how completions)
      (List.range inventory.shardCount) published) :
    published.map (·.index.shardIndex) = List.range inventory.shardCount := by
  rw [← List.forall₂_eq_eq_eq, List.forall₂_map_left_iff]
  exact whole.flip.imp fun _ _ holds => holds.indexShard

/-- Shards in any order are put back in theirs. -/
theorem verifyShards_ok {published shards : List (PublishedShard D)}
    (same : reconciler.inventory = inventory)
    (whole : List.Forall₂ (IsShard inventory how completions)
      (List.range inventory.shardCount) published) (order : shards.Perm published) :
    reconciler.verifyShards shards = .ok published := by
  subst same
  have indices := shardIndices whole
  have sorted : published.Pairwise fun a b => a.index.shardIndex < b.index.shardIndex := by
    have numbers : (published.map (·.index.shardIndex)).Pairwise (· < ·) :=
      indices ▸ List.pairwise_lt_range
    exact List.pairwise_map.mp numbers
  have restored : (shards.insertionSort fun a b => a.index.shardIndex ≤ b.index.shardIndex) =
      published := by
    refine ((List.perm_insertionSort _ shards).trans order).eq_of_pairwise ?_
      (List.pairwise_insertionSort (fun a b => a.index.shardIndex ≤ b.index.shardIndex) shards)
      (sorted.imp fun less => le_of_lt less)
    intro a b inA inB ab ba
    have distinct : (published.map (·.index.shardIndex)).Nodup := indices ▸ List.nodup_range
    have among := ((List.perm_insertionSort _ shards).trans order).mem_iff.mp inA
    exact List.inj_on_of_nodup_map distinct among inB (le_antisymm ab ba)
  have every : ∀ shard ∈ published, shard.index.inventoryDigest = reconciler.inventory.digest ∧
      shard.manifest.inventoryDigest = reconciler.inventory.digest ∧
      shard.index.shardCount = reconciler.inventory.shardCount ∧
      shard.manifest.shardCount = reconciler.inventory.shardCount := by
    intro shard member
    obtain ⟨index, -, holds⟩ := exists_of_forall₂_right whole member
    exact ⟨holds.indexInventory, holds.manifestInventory, holds.indexShardCount,
      holds.manifestShardCount⟩
  have length : shards.length = reconciler.inventory.shardCount := by
    rw [order.length_eq, ← whole.length_eq, List.length_range]
  rw [StreamingReconciler.verifyShards]
  simp only [require_bind_ok, restored]
  exact ⟨length, indices, every, rfl⟩

/-! ### The merged entries -/

omit [Sha256 D] [DecidableEq D] in
theorem positionKey_le_of_sortKey_le {a b : ShardIndexEntry D} (before : a.sortKey ≤ b.sortKey) :
    a.positionKey ≤ b.positionKey := by
  simp only [ShardIndexEntry.sortKey, ShardIndexEntry.positionKey,
    Prod.Lex.toLex_le_toLex] at before ⊢
  rcases before with less | ⟨same, less | ⟨equal, -⟩⟩
  · exact .inl less
  · exact .inr ⟨same, le_of_lt less⟩
  · exact .inr ⟨same, le_of_eq equal⟩

omit [DecidableEq D] in
theorem streams_sorted {published : List (PublishedShard D)}
    (whole : List.Forall₂ (IsShard inventory how completions)
      (List.range inventory.shardCount) published) :
    ∀ stream ∈ StreamingReconciler.streams published,
      stream.Pairwise fun a b => a.sortKey ≤ b.sortKey := by
  intro stream member
  obtain ⟨shard, among, rfl⟩ := List.mem_map.mp member
  obtain ⟨index, -, holds⟩ := exists_of_forall₂_right whole among
  refine List.pairwise_map.mpr (holds.sorted.imp fun {a b} before => ?_)
  rcases lt_or_eq_of_le before with less | same
  · exact Prod.Lex.toLex_le_toLex.mpr (.inl less)
  · exact Prod.Lex.toLex_le_toLex.mpr (.inr ⟨same, le_refl _⟩)

omit [DigestText D] [DecidableEq D] in
theorem streams_entries (published : List (PublishedShard D)) :
    (StreamingReconciler.streams published).flatten.map (·.entry) =
      published.flatMap fun shard => shard.index.entries := by
  rw [List.map_flatten, StreamingReconciler.streams, List.map_map, List.flatMap]
  congr 1
  refine List.map_congr_left fun shard _ => ?_
  simp [Function.comp_def]

omit [DecidableEq D] in
/-- The shards hold one entry for each completion. -/
theorem mem_entries {published : List (PublishedShard D)}
    (whole : List.Forall₂ (IsShard inventory how completions)
      (List.range inventory.shardCount) published) {entry : ShardIndexEntry D} :
    entry ∈ published.flatMap (fun shard => shard.index.entries) ↔
      ∃ completion ∈ completions, entry = entryOf inventory how completion := by
  rw [List.mem_flatMap]
  constructor
  · rintro ⟨shard, among, member⟩
    obtain ⟨index, -, holds⟩ := exists_of_forall₂_right whole among
    obtain ⟨completion, inside, -, rfl⟩ := (holds.entries entry).mp member
    exact ⟨completion, inside, rfl⟩
  · rintro ⟨completion, inside, rfl⟩
    have small : ordinalOf inventory completion % inventory.shardCount < inventory.shardCount :=
      Nat.mod_lt _ inventory.shardCount_pos
    obtain ⟨shard, among, holds⟩ := exists_of_forall₂_left whole (List.mem_range.mpr small)
    exact ⟨shard, among, (holds.entries _).mpr ⟨completion, inside, rfl, rfl⟩⟩

omit [DecidableEq D] in
theorem entries_nodup {published : List (PublishedShard D)}
    (whole : List.Forall₂ (IsShard inventory how completions)
      (List.range inventory.shardCount) published) :
    ((published.flatMap fun shard => shard.index.entries).map (·.positionKey)).Nodup := by
  have ordinals : ∀ shard ∈ published, ∀ entry ∈ shard.index.entries,
      (ofLex entry.positionKey).1 % inventory.shardCount = shard.index.shardIndex := by
    intro shard among entry member
    obtain ⟨index, -, holds⟩ := exists_of_forall₂_right whole among
    obtain ⟨completion, -, assigned, rfl⟩ := (holds.entries entry).mp member
    rw [holds.indexShard]
    exact assigned
  rw [List.map_flatMap, List.nodup_flatMap]
  constructor
  · intro shard among
    obtain ⟨index, -, holds⟩ := exists_of_forall₂_right whole among
    exact holds.distinct
  · have apart : published.Pairwise fun a b => a.index.shardIndex ≠ b.index.shardIndex :=
      List.pairwise_map.mp (shardIndices whole ▸ List.nodup_range)
    refine apart.imp_of_mem fun {a b} inA inB differs => ?_
    intro key first second
    obtain ⟨left, memberL, rfl⟩ := List.mem_map.mp first
    obtain ⟨right, memberR, same⟩ := List.mem_map.mp second
    refine differs ?_
    rw [← ordinals a inA left memberL, ← ordinals b inB right memberR, same]

/-- The merge of published shards yields the corpus. -/
theorem merged_entries {published : List (PublishedShard D)}
    (whole : List.Forall₂ (IsShard inventory how completions)
      (List.range inventory.shardCount) published) :
    ∃ merged, StreamingReconciler.mergeSortedEntryStreams
        (StreamingReconciler.streams published) = (merged, none) ∧
      merged.map (·.entry) = (corpus inventory completions).map (entryOf inventory how) := by
  obtain ⟨heaped, content⟩ := Cursor.start_spec (streams_sorted whole)
  have positions : (StreamingReconciler.streams published).flatten.map (·.positionKey) =
      (published.flatMap fun shard => shard.index.entries).map (·.positionKey) := by
    rw [← streams_entries, List.map_map]
    rfl
  have nodup : ((StreamingReconciler.streams published).flatten.map (·.positionKey)).Nodup :=
    positions ▸ entries_nodup whole
  obtain ⟨merged, yielded, perm, sorted⟩ := @Cursor.merge_spec _ _ _ _ _ SourcedShardEntry.sortKey _ _
    SourcedShardEntry.positionKey (·.entry) _ _ none heaped
    ((content.map _).nodup_iff.mpr nodup) nofun (Nat.lt_succ_of_le (le_of_eq content.length_eq))
  refine ⟨merged, yielded, ?_⟩
  have order := perm.trans content
  have same : (merged.map (·.entry)).Perm (published.flatMap fun shard => shard.index.entries) :=
    streams_entries published ▸ order.map _
  have ascending : (merged.map (·.entry)).Pairwise fun a b => a.positionKey ≤ b.positionKey := by
    refine List.pairwise_map.mpr (sorted.imp fun {a b} before => ?_)
    refine positionKey_le_of_sortKey_le ?_
    rcases Prod.Lex.toLex_le_toLex.mp before with less | ⟨equal, -⟩
    · exact le_of_lt less
    · exact le_of_eq equal
  have distinct := (same.map (·.positionKey)).nodup_iff.mpr (entries_nodup whole)
  have corpora : ((corpus inventory completions).map (entryOf inventory how)).Pairwise fun a b =>
      a.positionKey ≤ b.positionKey :=
    List.pairwise_map.mpr ((corpus_ascending (distinct_of_shards whole)).imp fun less => le_of_lt less)
  have members : (merged.map (·.entry)).Perm ((corpus inventory completions).map
      (entryOf inventory how)) := by
    refine (List.perm_ext_iff_of_nodup distinct.of_map ?_).mpr fun entry => ?_
    · have places : ((corpus inventory completions).map (entryOf inventory how)).Pairwise
          fun a b => a.positionKey < b.positionKey :=
        List.pairwise_map.mpr (corpus_ascending (distinct_of_shards whole))
      refine places.imp ?_
      rintro a _ less rfl
      exact lt_irrefl _ less
    · rw [same.mem_iff, mem_entries whole, List.mem_map]
      simp only [mem_corpus, eq_comm (a := entry)]
  refine members.eq_of_pairwise ?_ ascending corpora
  intro a b inA inB ab ba
  exact List.inj_on_of_nodup_map distinct inA (members.mem_iff.mpr inB) (le_antisymm ab ba)

end CsdFoundry.Synthesis

import CsdFoundry.Synthesis.Corpus
import Mathlib.Data.List.Dedup

/-! The algebra of shard indexes. An index depends on the set of its entries only, so that entries
may come in any order, in copies and in several extensions. -/
namespace CsdFoundry.Synthesis
variable {D : Type} [Sha256 D] [DigestText D] {inventory : ExecutionInventory D} {shardIndex : Nat}
  {entries others : List (ShardIndexEntry D)}

/-- Two different entries at one position. -/
def Conflicting (entries : List (ShardIndexEntry D)) : Prop :=
  ∃ a ∈ entries, ∃ b ∈ entries, a.positionKey = b.positionKey ∧ a ≠ b

variable {index index' previous : ShardIndex D}

omit [Sha256 D] [DigestText D] in
theorem agrees_of_not_conflicting (consistent : ¬ Conflicting entries) :
    ∀ a ∈ entries, ∀ b ∈ entries, a.positionKey = b.positionKey → a = b := by
  intro a inA b inB same
  by_contra differ
  exact consistent ⟨a, inA, b, inB, same, differ⟩

namespace Indexes

theorem ascending (indexes : Indexes inventory shardIndex entries index) :
    index.entries.Pairwise fun a b => a.positionKey < b.positionKey := by
  have apart := List.pairwise_map.mp indexes.distinct
  refine (indexes.sorted.and apart).imp fun {a b} ordered => ?_
  exact lt_of_le_of_ne (positionKey_le_of_sortKey_le ordered.1) ordered.2

theorem consistent (indexes : Indexes inventory shardIndex entries index) :
    ¬ Conflicting entries := by
  rintro ⟨a, inA, b, inB, same, differ⟩
  exact differ (List.inj_on_of_nodup_map indexes.distinct ((indexes.members a).mpr inA)
    ((indexes.members b).mpr inB) same)

theorem nodup (indexes : Indexes inventory shardIndex entries index) : index.entries.Nodup :=
  indexes.distinct.of_map

/-- Positions are in strict order, so that the set of entries fixes their sequence. -/
theorem unique (indexes : Indexes inventory shardIndex entries index)
    (indexes' : Indexes inventory shardIndex others index')
    (same : ∀ entry, entry ∈ others ↔ entry ∈ entries) : index = index' := by
  have perm : index.entries.Perm index'.entries := by
    rw [List.perm_ext_iff_of_nodup indexes.nodup indexes'.nodup]
    intro entry
    rw [indexes.members, indexes'.members, same]
  have equal : index.entries = index'.entries := by
    refine perm.eq_of_pairwise ?_ indexes.ascending indexes'.ascending
    exact fun a b _ _ less more => absurd less (not_lt_of_gt more)
  obtain ⟨inventoryDigest, shardCount, shard, -, -, -⟩ := indexes
  obtain ⟨inventoryDigest', shardCount', shard', -, -, -⟩ := indexes'
  cases index
  cases index'
  simp_all

end Indexes

variable [DecidableEq D]

omit [DigestText D] in
theorem addEntry_error {canonical : List (ShardIndexEntry D)} {entry : ShardIndexEntry D}
    {failure : SynthesisError}
    (raised : addEntry inventory shardIndex canonical entry = .error failure) :
    failure = .shardPublication := by
  rw [addEntry] at raised
  by_cases own : entry.inventoryDigest = inventory.digest
  · rw [require_pos own, ok_bind] at raised
    by_cases assigned : entry.shardCount = inventory.shardCount ∧ entry.shardIndex = shardIndex
    · rw [require_pos assigned, ok_bind] at raised
      cases found : canonical.find? (fun other => other.positionKey = entry.positionKey) with
      | none =>
          rw [found] at raised
          cases raised
      | some existing =>
          rw [found] at raised
          by_cases same : existing = entry
          · simp only [require_pos same] at raised
            cases raised
          · simp only [require_neg_bind same] at raised
            exact (Except.error.inj raised).symm
    · rw [require_neg_bind assigned] at raised
      exact (Except.error.inj raised).symm
  · rw [require_neg_bind own] at raised
    exact (Except.error.inj raised).symm

omit [DigestText D] in
theorem addEntries_error {canonical : List (ShardIndexEntry D)} {failure : SynthesisError}
    (raised : entries.foldlM (addEntry inventory shardIndex) canonical = .error failure) :
    failure = .shardPublication := by
  induction entries generalizing canonical with
  | nil => cases raised
  | cons entry entries ih =>
      rw [List.foldlM_cons] at raised
      cases first : addEntry inventory shardIndex canonical entry with
      | ok next =>
          rw [first, ok_bind] at raised
          exact ih raised
      | error e =>
          rw [first] at raised
          cases raised
          exact addEntry_error first

theorem fromEntries_error {failure : SynthesisError}
    (raised : ShardIndex.fromEntries inventory shardIndex entries = .error failure) :
    failure = .shardPublication := by
  rw [ShardIndex.fromEntries] at raised
  by_cases inside : shardIndex < inventory.shardCount
  · rw [require_pos inside, ok_bind] at raised
    cases added : entries.foldlM (addEntry inventory shardIndex) [] with
    | ok canonical =>
        rw [added] at raised
        cases raised
    | error e =>
        rw [added] at raised
        cases raised
        exact addEntries_error added
  · rw [require_neg_bind inside] at raised
    cases raised
    rfl

theorem fromEntries_ok_iff :
    (∃ index, ShardIndex.fromEntries inventory shardIndex entries = .ok index) ↔
      shardIndex < inventory.shardCount ∧ (∀ entry ∈ entries, Belongs inventory shardIndex entry) ∧
        ¬ Conflicting entries := by
  constructor
  · rintro ⟨index, made⟩
    obtain ⟨inside, belongs, indexes⟩ := fromEntries_spec made
    exact ⟨inside, belongs, indexes.consistent⟩
  · rintro ⟨inside, belongs, consistent⟩
    exact fromEntries_ok inside belongs (agrees_of_not_conflicting consistent)

theorem fromEntries_error_iff :
    ShardIndex.fromEntries inventory shardIndex entries = .error .shardPublication ↔
      inventory.shardCount ≤ shardIndex ∨ (∃ entry ∈ entries, ¬ Belongs inventory shardIndex entry) ∨
        Conflicting entries := by
  have raises : ShardIndex.fromEntries inventory shardIndex entries = .error .shardPublication ↔
      ¬ ∃ index, ShardIndex.fromEntries inventory shardIndex entries = .ok index := by
    cases made : ShardIndex.fromEntries inventory shardIndex entries with
    | ok index => simp
    | error failure => simp [fromEntries_error made]
  rw [raises, fromEntries_ok_iff]
  by_cases inside : shardIndex < inventory.shardCount
  · simp only [inside, not_le.mpr inside, true_and, false_or, not_and_or, not_forall, not_not,
      exists_prop]
  · simp [inside, not_lt.mp inside]

/-- Order and copies do not matter. -/
theorem fromEntries_congr (same : ∀ entry, entry ∈ others ↔ entry ∈ entries) :
    ShardIndex.fromEntries inventory shardIndex others =
      ShardIndex.fromEntries inventory shardIndex entries := by
  cases made : ShardIndex.fromEntries inventory shardIndex entries with
  | ok index =>
      have possible : ∃ index', ShardIndex.fromEntries inventory shardIndex others = .ok index' := by
        have met := fromEntries_ok_iff.mp ⟨index, made⟩
        rw [fromEntries_ok_iff]
        simpa only [Conflicting, same] using met
      obtain ⟨index', made'⟩ := possible
      obtain ⟨-, -, indexes⟩ := fromEntries_spec made
      obtain ⟨-, -, indexes'⟩ := fromEntries_spec made'
      rw [made', indexes.unique indexes' same]
  | error failure =>
      cases fromEntries_error made
      rw [fromEntries_error_iff] at made ⊢
      simpa only [Conflicting, same] using made

/-- Extensions accumulate. -/
theorem extend_extend {first second additions : List (ShardIndexEntry D)}
    (same : ∀ entry, entry ∈ additions ↔ entry ∈ first ∨ entry ∈ second) :
    (previous.extend inventory first >>= fun index => index.extend inventory second) =
      previous.extend inventory additions := by
  unfold ShardIndex.extend
  by_cases own : previous.inventoryDigest = inventory.digest
  · rw [require_pos own, ok_bind, ok_bind]
    cases made : ShardIndex.fromEntries inventory previous.shardIndex (previous.entries ++ first) with
    | ok index =>
        obtain ⟨-, -, indexes⟩ := fromEntries_spec made
        rw [ok_bind, require_pos indexes.inventoryDigest, ok_bind, indexes.shardIndex]
        apply fromEntries_congr
        intro entry
        simp only [List.mem_append, indexes.members, same, or_assoc]
    | error failure =>
        cases fromEntries_error made
        symm
        change _ = Except.error SynthesisError.shardPublication
        rw [fromEntries_error_iff] at made ⊢
        rcases made with outside | ⟨entry, member, foreign⟩ | ⟨a, inA, b, inB, conflict⟩
        · exact .inl outside
        · refine .inr (.inl ⟨entry, ?_, foreign⟩)
          rw [List.mem_append] at member ⊢
          exact member.imp_right fun among => (same entry).mpr (.inl among)
        · refine .inr (.inr ⟨a, ?_, b, ?_, conflict⟩)
          · rw [List.mem_append] at inA ⊢
            exact inA.imp_right fun among => (same a).mpr (.inl among)
          · rw [List.mem_append] at inB ⊢
            exact inB.imp_right fun among => (same b).mpr (.inl among)
  · rw [require_neg_bind own, require_neg_bind own]
    rfl

/-! ### The shards of an inventory -/

/-- One index for each shard, from the entries that the shard policy assigns to it. -/
def indexAll (inventory : ExecutionInventory D) (entries : List (ShardIndexEntry D)) :
    Except SynthesisError (List (ShardIndex D)) :=
  (List.range inventory.shardCount).mapM fun shardIndex =>
    ShardIndex.fromEntries inventory shardIndex (entries.filter fun entry =>
      entry.globalOrdinal % inventory.shardCount = shardIndex)

/-- A shard of the inventory, with the entries of its ordinals. -/
def IsShardOf (inventory : ExecutionInventory D) (entries : List (ShardIndexEntry D))
    (shardIndex : Nat) (index : ShardIndex D) : Prop :=
  Indexes inventory shardIndex
    (entries.filter fun entry => entry.globalOrdinal % inventory.shardCount = shardIndex) index

variable {shards : List (ShardIndex D)}

omit [DecidableEq D] in
theorem shardIndex_range (whole : List.Forall₂ (IsShardOf inventory entries)
    (List.range inventory.shardCount) shards) :
    shards.map (·.shardIndex) = List.range inventory.shardCount := by
  symm
  rw [← List.forall₂_eq_eq_eq, List.forall₂_map_right_iff]
  exact whole.imp fun _ _ holds => holds.shardIndex.symm

omit [DecidableEq D] in
theorem mem_shard {index : ShardIndex D} (whole : List.Forall₂ (IsShardOf inventory entries)
    (List.range inventory.shardCount) shards) (member : index ∈ shards)
    (entry : ShardIndexEntry D) : entry ∈ index.entries ↔
      entry ∈ entries ∧ entry.globalOrdinal % inventory.shardCount = index.shardIndex := by
  obtain ⟨shardIndex, -, holds⟩ := exists_of_forall₂_right whole member
  rw [holds.members, holds.shardIndex, List.mem_filter, decide_eq_true_eq]

omit [DecidableEq D] in
/-- Every entry is in the shard of its ordinal. -/
theorem mem_shards (whole : List.Forall₂ (IsShardOf inventory entries)
    (List.range inventory.shardCount) shards) (entry : ShardIndexEntry D) :
    entry ∈ shards.flatMap (·.entries) ↔ entry ∈ entries := by
  rw [List.mem_flatMap]
  constructor
  · rintro ⟨index, member, among⟩
    exact ((mem_shard whole member entry).mp among).1
  · intro among
    have inside : entry.globalOrdinal % inventory.shardCount < inventory.shardCount :=
      Nat.mod_lt _ inventory.shardCount_pos
    obtain ⟨index, member, holds⟩ := exists_of_forall₂_left whole (List.mem_range.mpr inside)
    exact ⟨index, member, (mem_shard whole member entry).mpr ⟨among, holds.shardIndex.symm⟩⟩

omit [DecidableEq D] in
theorem nodup_shards (whole : List.Forall₂ (IsShardOf inventory entries)
    (List.range inventory.shardCount) shards) : (shards.flatMap (·.entries)).Nodup := by
  rw [List.nodup_flatMap]
  constructor
  · intro index member
    obtain ⟨_, -, holds⟩ := exists_of_forall₂_right whole member
    exact holds.nodup
  · have apart : shards.Pairwise fun a b => a.shardIndex ≠ b.shardIndex := by
      rw [← List.pairwise_map, shardIndex_range whole]
      exact List.nodup_range
    refine apart.imp_of_mem ?_
    intro a b inA inB differ entry left right
    have hereA := ((mem_shard whole inA entry).mp left).2
    have hereB := ((mem_shard whole inB entry).mp right).2
    exact differ (hereA.symm.trans hereB)

/-- The shards of entries that are the inventory's own. -/
theorem indexAll_spec (own : ∀ entry ∈ entries, entry.Assigned ∧
      entry.inventoryDigest = inventory.digest ∧ entry.shardCount = inventory.shardCount) :
    (indexAll inventory entries = .ok shards → ¬ Conflicting entries ∧
      List.Forall₂ (IsShardOf inventory entries) (List.range inventory.shardCount) shards) ∧
    (¬ Conflicting entries → ∃ shards, indexAll inventory entries = .ok shards) := by
  constructor
  · intro made
    rw [indexAll, mapM_ok_iff] at made
    have whole := made.imp fun _ _ succeeds => (fromEntries_spec succeeds).2.2
    refine ⟨?_, whole⟩
    -- both entries of a conflict have one ordinal, so that they meet in its shard
    rintro ⟨a, inA, b, inB, same, differ⟩
    have ordinals : a.globalOrdinal = b.globalOrdinal := (Prod.ext_iff.mp (toLex.injective same)).1
    have inside : a.globalOrdinal % inventory.shardCount < inventory.shardCount :=
      Nat.mod_lt _ inventory.shardCount_pos
    obtain ⟨index, -, holds⟩ := exists_of_forall₂_left whole (List.mem_range.mpr inside)
    refine holds.consistent ⟨a, ?_, b, ?_, same, differ⟩
    · exact List.mem_filter.mpr ⟨inA, decide_eq_true rfl⟩
    · exact List.mem_filter.mpr ⟨inB, decide_eq_true (by rw [ordinals])⟩
  · intro consistent
    refine mapM_ok fun shardIndex member => ?_
    refine fromEntries_ok (List.mem_range.mp member) ?_ ?_
    · intro entry among
      obtain ⟨inside, ordinal⟩ := List.mem_filter.mp among
      obtain ⟨⟨-, -, assigned⟩, digest, count⟩ := own entry inside
      refine ⟨digest, count, ?_⟩
      rw [← assigned, count]
      exact of_decide_eq_true ordinal
    · intro a inA b inB
      exact agrees_of_not_conflicting consistent a (List.mem_of_mem_filter inA) b
        (List.mem_of_mem_filter inB)

/-- An index is made from a set of entries, by one call or by several. It is refused for entries
that are not its own and for conflicts, and for nothing else; the shards of an inventory hold its
entries once each. -/
theorem shardIndex_algebra (inventory : ExecutionInventory D)
    (entries : List (ShardIndexEntry D)) (assigned : ∀ entry ∈ entries, entry.Assigned) :
    (∀ shardIndex others, (∀ entry, entry ∈ others ↔ entry ∈ entries) →
      ShardIndex.fromEntries inventory shardIndex others =
        ShardIndex.fromEntries inventory shardIndex entries) ∧
    (∀ (previous : ShardIndex D) first second,
      (∀ entry, entry ∈ entries ↔ entry ∈ first ∨ entry ∈ second) →
      (previous.extend inventory first >>= fun index => index.extend inventory second) =
        previous.extend inventory entries) ∧
    (∀ shardIndex, ShardIndex.fromEntries inventory shardIndex entries = .error .shardPublication ↔
      inventory.shardCount ≤ shardIndex ∨
        (∃ entry ∈ entries, ¬ Belongs inventory shardIndex entry) ∨ Conflicting entries) ∧
    (∀ shardIndex failure, ShardIndex.fromEntries inventory shardIndex entries = .error failure →
      failure = .shardPublication) ∧
    ((∀ entry ∈ entries, entry.inventoryDigest = inventory.digest ∧
        entry.shardCount = inventory.shardCount) →
      ((∃ failure, indexAll inventory entries = .error failure) ↔ Conflicting entries) ∧
      ∀ shards, indexAll inventory entries = .ok shards →
        shards.map (·.shardIndex) = List.range inventory.shardCount ∧
        (∀ index ∈ shards, ∀ entry, entry ∈ index.entries ↔ entry ∈ entries ∧
          entry.globalOrdinal % inventory.shardCount = index.shardIndex) ∧
        (shards.flatMap (·.entries)).Perm entries.dedup) := by
  refine ⟨fun _ _ => fromEntries_congr, fun _ _ _ => extend_extend,
    fun _ => fromEntries_error_iff, fun _ _ => fromEntries_error, fun own => ⟨?_, ?_⟩⟩
  · have all := fun entry among => And.intro (assigned entry among) (own entry among)
    cases made : indexAll inventory entries with
    | ok shards =>
        have consistent := ((indexAll_spec all).1 made).1
        simp [consistent]
    | error failure =>
        refine iff_of_true ⟨failure, rfl⟩ ?_
        by_contra consistent
        obtain ⟨shards, succeeds⟩ := (@indexAll_spec _ _ _ _ _ _ [] all).2 consistent
        cases made.symm.trans succeeds
  · intro shards made
    have all := fun entry among => And.intro (assigned entry among) (own entry among)
    obtain ⟨-, whole⟩ := (indexAll_spec all).1 made
    refine ⟨shardIndex_range whole, fun index => mem_shard whole, ?_⟩
    rw [List.perm_ext_iff_of_nodup (nodup_shards whole) (List.nodup_dedup _)]
    intro entry
    rw [mem_shards whole, List.mem_dedup]

section Run

/-- An inventory of two samples in two shards. -/
def twoShards : ExecutionInventory (List Nat) where
  generationNamespaceDigest := [1]
  rootSeedCommitment := [2]
  operationalRetryPolicyDigest := [3]
  shardCount := 2
  samples := [⟨0, ⟨"target", 0⟩, ⟨1, by decide, by decide⟩, "producer", 1, [4]⟩,
    ⟨1, ⟨"target", 1⟩, ⟨1, by decide, by decide⟩, "producer", 1, [4]⟩]
  shardCount_pos := by decide
  shardCount_le := by decide
  nonempty := by decide
  contiguous := by decide
  distinct := by decide

/-- The completion of a sample, as an entry of its shard. -/
def entryAt (ordinal : Nat) : ShardIndexEntry (List Nat) where
  inventoryDigest := twoShards.digest
  shardCount := 2
  shardIndex := ordinal % 2
  globalOrdinal := ordinal
  attemptKey := ⟨⟨"target", ordinal⟩, 0⟩
  completionEnvelopeDigest := [5]
  inventoryCompletionReferenceDigest := [6]
  publicationReceiptDigest := [7]

theorem shardIndex_algebra_sample :
    (∀ entry ∈ [entryAt 1, entryAt 0, entryAt 1], entry.Assigned) ∧
    ShardIndex.fromEntries twoShards 1 [entryAt 1, entryAt 0, entryAt 1] =
      .error .shardPublication ∧
    ∃ shards, indexAll twoShards [entryAt 1, entryAt 0, entryAt 1] = .ok shards ∧
      shards.map (·.shardIndex) = [0, 1] ∧
      (shards.flatMap (·.entries)).Perm [entryAt 0, entryAt 1] := by
  have assigned : ∀ entry ∈ [entryAt 1, entryAt 0, entryAt 1], entry.Assigned := by decide +kernel
  obtain ⟨-, -, raises, -, shards⟩ :=
    shardIndex_algebra twoShards [entryAt 1, entryAt 0, entryAt 1] assigned
  refine ⟨assigned, ?_, ?_⟩
  · rw [raises]
    refine .inr (.inl ⟨entryAt 0, by simp, ?_⟩)
    simp [Belongs, entryAt]
  · have own : ∀ entry ∈ [entryAt 1, entryAt 0, entryAt 1],
        entry.inventoryDigest = twoShards.digest ∧ entry.shardCount = twoShards.shardCount := by
      simp [entryAt, twoShards]
    obtain ⟨refused, partitioned⟩ := shards own
    cases made : indexAll twoShards [entryAt 1, entryAt 0, entryAt 1] with
    | ok made' =>
        obtain ⟨indices, -, entries⟩ := partitioned made' made
        have once : [entryAt 1, entryAt 0, entryAt 1].dedup = [entryAt 0, entryAt 1] := by
          decide +kernel
        rw [once] at entries
        exact ⟨made', rfl, indices, entries⟩
    | error failure =>
        obtain ⟨a, inA, b, inB, same, differ⟩ := refused.mp ⟨failure, made⟩
        refine absurd same ?_
        simp only [List.mem_cons, List.not_mem_nil, or_false] at inA inB
        rcases inA with rfl | rfl | rfl <;> rcases inB with rfl | rfl | rfl <;>
          first | exact absurd rfl differ | decide

/-- An entry of another shard is refused, although it conflicts with nothing. -/
theorem foreign_entry_refused :
    ShardIndex.fromEntries twoShards 0 [entryAt 1] = .error .shardPublication ∧
    ¬ Conflicting [entryAt 1] := by
  constructor
  · decide +kernel
  · rintro ⟨a, inA, b, inB, -, differ⟩
    rw [List.mem_singleton] at inA inB
    exact differ (inA.trans inB.symm)

end Run
end CsdFoundry.Synthesis

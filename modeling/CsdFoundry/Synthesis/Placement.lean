import CsdFoundry.Synthesis.Shards

/-! What publishing a set of completions comes to: every completion has a place in the inventory,
and the shards hold one entry for each of them. -/
namespace CsdFoundry.Synthesis
variable {D : Type} [Sha256 D] [DigestText D] [DecidableEq D]
variable {inventory : ExecutionInventory D} {completion : AttemptCompletion D}

/-- The sample of a completion; any sample when it has none. -/
def specOf (inventory : ExecutionInventory D) (completion : AttemptCompletion D) :
    SampleExecutionSpec D :=
  (inventory.samples.find? fun spec => spec.sampleKey = completion.sampleKey).getD
    (inventory.samples.head inventory.nonempty)

def ordinalOf (inventory : ExecutionInventory D) (completion : AttemptCompletion D) : Nat :=
  (specOf inventory completion).globalOrdinal

structure Placed (inventory : ExecutionInventory D) (completion : AttemptCompletion D) : Prop where
  sample : (specOf inventory completion).sampleKey = completion.sampleKey
  corpus : completion.generationNamespaceDigest = inventory.generationNamespaceDigest
  inside : completion.attemptIndex < (specOf inventory completion).attemptRange.maximumAttempts
  ordinal : ordinalOf inventory completion ≤ uint32Max

omit [Sha256 D] [DigestText D] [DecidableEq D] in
theorem specOf_mem : specOf inventory completion ∈ inventory.samples := by
  rw [specOf]
  cases found : inventory.samples.find? fun spec => spec.sampleKey = completion.sampleKey with
  | none => exact List.head_mem _
  | some spec => exact List.mem_of_find?_eq_some found

omit [Sha256 D] [DigestText D] [DecidableEq D] in
/-- Keys name samples. -/
theorem filter_sampleKey {spec : SampleExecutionSpec D} (member : spec ∈ inventory.samples) :
    inventory.samples.filter (fun other => other.sampleKey = spec.sampleKey) = [spec] :=
  Keyed.filter_key inventory.distinct member

omit [Sha256 D] [DigestText D] [DecidableEq D] in
theorem specOf_eq {spec : SampleExecutionSpec D} (member : spec ∈ inventory.samples)
    (same : spec.sampleKey = completion.sampleKey) : specOf inventory completion = spec := by
  have alone := filter_sampleKey member
  rw [same] at alone
  have head := congrArg List.head? alone
  rw [List.head?_filter, List.head?_cons] at head
  rw [specOf, head, Option.getD_some]

def referenceOf (inventory : ExecutionInventory D) (completion : AttemptCompletion D) :
    InventoryCompletionReference D :=
  ⟨inventory.digest, ordinalOf inventory completion, (specOf inventory completion).sampleKey,
    completion.attemptKey, (specOf inventory completion).digest,
    (AttemptCompletionEnvelope.fromCompletion completion).digest⟩

omit [DigestText D] in
theorem fromInventory_ok_iff {reference : InventoryCompletionReference D} :
    InventoryCompletionReference.fromInventory inventory
        (AttemptCompletionEnvelope.fromCompletion completion) = .ok reference ↔
      Placed inventory completion ∧ reference = referenceOf inventory completion := by
  rw [InventoryCompletionReference.fromInventory]
  simp only [require_bind_ok]
  constructor
  · rintro ⟨corpus, located⟩
    split at located
    · rename_i spec alone
      have member : spec ∈ inventory.samples.filter (fun other =>
          other.sampleKey = completion.sampleKey) := by
        have listed : spec ∈ [spec] := List.mem_singleton_self spec
        rwa [← alone] at listed
      obtain ⟨among, same⟩ := List.mem_filter.mp member
      have settled := specOf_eq among (of_decide_eq_true same)
      simp only [require_bind_ok] at located
      obtain ⟨inside, ordinal, made⟩ := located
      have sample : spec.sampleKey = completion.sampleKey := of_decide_eq_true same
      refine ⟨⟨?_, corpus, ?_, ?_⟩, ?_⟩
      · rw [settled, sample]
      · rw [settled]
        exact of_decide_eq_true inside
      · rw [ordinalOf, settled]
        exact ordinal
      · rw [referenceOf, ordinalOf, settled]
        exact (Except.ok.inj made).symm
    · cases located
  · rintro ⟨placed, rfl⟩
    refine ⟨placed.corpus, ?_⟩
    have alone := filter_sampleKey (specOf_mem : specOf inventory completion ∈ inventory.samples)
    have key : (AttemptCompletionEnvelope.fromCompletion completion).attemptKey.sampleKey =
        (specOf inventory completion).sampleKey := placed.sample.symm
    rw [key, alone]
    simp only [require_bind_ok]
    exact ⟨decide_eq_true placed.inside, placed.ordinal, rfl⟩

/-! ### Completions and entries -/

def publicationOf (inventory : ExecutionInventory D) (completion : AttemptCompletion D)
    (how : Circumstances) : PublishedCompletion D :=
  let envelope := AttemptCompletionEnvelope.fromCompletion completion
  let envelopeReceipt := OperationalPublicationReceipt.append none how.executionRunId
    inventory.digest envelope.attemptKey .attemptCompletionEnvelope envelope.digest
    how.envelopeDisposition
  ⟨envelope, referenceOf inventory completion, envelopeReceipt,
    OperationalPublicationReceipt.append (some envelopeReceipt) how.executionRunId inventory.digest
      envelope.attemptKey .inventoryCompletionReference (referenceOf inventory completion).digest
      how.referenceDisposition⟩

omit [DigestText D] in
theorem publishCompletion_ok_iff {how : Circumstances} {publication : PublishedCompletion D} :
    publishCompletion inventory completion how = .ok publication ↔
      Placed inventory completion ∧ publication = publicationOf inventory completion how := by
  rw [publishCompletion]
  cases made : InventoryCompletionReference.fromInventory inventory
      (AttemptCompletionEnvelope.fromCompletion completion) with
  | error e =>
      constructor
      · nofun
      · rintro ⟨placed, -⟩
        cases made.symm.trans (fromInventory_ok_iff.mpr ⟨placed, rfl⟩)
  | ok reference =>
      obtain ⟨placed, rfl⟩ := fromInventory_ok_iff.mp made
      exact ⟨fun same => ⟨placed, (Except.ok.inj same).symm⟩, fun both => both.2 ▸ rfl⟩

def entryOf (inventory : ExecutionInventory D) (how : AttemptCompletion D → Circumstances)
    (completion : AttemptCompletion D) : ShardIndexEntry D :=
  let publication := publicationOf inventory completion (how completion)
  ⟨inventory.digest, inventory.shardCount, ordinalOf inventory completion % inventory.shardCount,
    ordinalOf inventory completion, completion.attemptKey, publication.envelope.digest,
    publication.reference.digest, publication.referenceReceipt.digest⟩

omit [DigestText D] in
theorem validateAgainst_ok (placed : Placed inventory completion) :
    (referenceOf inventory completion).validateAgainst inventory
      (AttemptCompletionEnvelope.fromCompletion completion) = .ok () := by
  rw [InventoryCompletionReference.validateAgainst, fromInventory_ok_iff.mpr ⟨placed, rfl⟩]
  exact require_pos rfl

omit [DigestText D] in
theorem fromPublication_publicationOf (placed : Placed inventory completion)
    (how : AttemptCompletion D → Circumstances) :
    ShardIndexEntry.fromPublication inventory
        (publicationOf inventory completion (how completion)) =
      .ok (entryOf inventory how completion) := by
  rw [ShardIndexEntry.fromPublication]
  have valid : (publicationOf inventory completion (how completion)).reference.validateAgainst
      inventory (publicationOf inventory completion (how completion)).envelope = .ok () :=
    validateAgainst_ok placed
  rw [valid, ok_bind]
  simp only [require_bind_ok]
  exact ⟨rfl, rfl, rfl⟩

/-- The place of a completion in the order of the corpus. -/
def placeOf (inventory : ExecutionInventory D) (completion : AttemptCompletion D) : Nat ×ₗ Nat :=
  toLex (ordinalOf inventory completion, completion.attemptIndex)

omit [DigestText D] [DecidableEq D] in
theorem positionKey_entryOf (how : AttemptCompletion D → Circumstances) :
    (entryOf inventory how completion).positionKey = placeOf inventory completion := rfl

omit [DigestText D] [DecidableEq D] in
theorem fromCompletion_injective {a b : AttemptCompletion D}
    (same : (AttemptCompletionEnvelope.fromCompletion a).digest =
      (AttemptCompletionEnvelope.fromCompletion b).digest) : a = b := by
  obtain ⟨-, fields⟩ := Sha256.collision_free same
  simp only [AttemptKey.fields, List.cons_append, List.nil_append, List.cons.injEq,
    Field.digest.injEq, and_true] at fields
  exact AttemptCompletion.completionDigest_injective fields.2.2.2.2.2.1

/-! ### Shards -/

/-- The checks of `from_entries`. -/
def Belongs (inventory : ExecutionInventory D) (shardIndex : Nat) (entry : ShardIndexEntry D) :
    Prop :=
  entry.inventoryDigest = inventory.digest ∧ entry.shardCount = inventory.shardCount ∧
    entry.shardIndex = shardIndex

variable {shardIndex : Nat} {canonical next : List (ShardIndexEntry D)}

omit [DigestText D] in
theorem addEntry_spec {entry : ShardIndexEntry D}
    (added : addEntry inventory shardIndex canonical entry = .ok next) :
    Belongs inventory shardIndex entry ∧ (∀ other, other ∈ next ↔ other ∈ canonical ∨ other = entry) ∧
      ((canonical.map (·.positionKey)).Nodup → (next.map (·.positionKey)).Nodup) := by
  rw [addEntry] at added
  simp only [require_bind_ok] at added
  obtain ⟨own, ⟨shards, index⟩, located⟩ := added
  refine ⟨⟨own, shards, index⟩, ?_⟩
  cases found : canonical.find? (fun other => other.positionKey = entry.positionKey) with
  | some existing =>
      rw [found] at located
      simp only [require_bind_ok] at located
      obtain ⟨rfl, made⟩ := located
      cases made
      have member := List.mem_of_find?_eq_some found
      refine ⟨fun other => ⟨.inl, ?_⟩, id⟩
      rintro (older | rfl)
      · exact older
      · exact member
  | none =>
      rw [found] at located
      cases located
      refine ⟨fun other => by simp, fun distinct => ?_⟩
      rw [List.map_append, List.nodup_append]
      refine ⟨distinct, List.nodup_singleton _, ?_⟩
      rintro key among _ single rfl
      obtain ⟨other, older, same⟩ := List.mem_map.mp among
      rw [List.map_singleton, List.mem_singleton] at single
      rw [List.find?_eq_none] at found
      exact found other older (decide_eq_true (same.trans single))

omit [DigestText D] in
theorem addEntry_ok {entry : ShardIndexEntry D} (belongs : Belongs inventory shardIndex entry)
    (agrees : ∀ other ∈ canonical, other.positionKey = entry.positionKey → other = entry) :
    ∃ next, addEntry inventory shardIndex canonical entry = .ok next := by
  obtain ⟨own, shards, index⟩ := belongs
  rw [addEntry, require_pos own, ok_bind, require_pos ⟨shards, index⟩, ok_bind]
  cases found : canonical.find? (fun other => other.positionKey = entry.positionKey) with
  | none => exact ⟨_, rfl⟩
  | some existing =>
      have key : existing.positionKey = entry.positionKey := by simpa using List.find?_some found
      have same := agrees existing (List.mem_of_find?_eq_some found) key
      simp only [require_pos same]
      exact ⟨_, rfl⟩

omit [DigestText D] in
theorem addEntries_spec {entries : List (ShardIndexEntry D)}
    (added : entries.foldlM (addEntry inventory shardIndex) canonical = .ok next)
    (distinct : (canonical.map (·.positionKey)).Nodup) :
    (∀ entry ∈ entries, Belongs inventory shardIndex entry) ∧
      (∀ other, other ∈ next ↔ other ∈ canonical ∨ other ∈ entries) ∧
      (next.map (·.positionKey)).Nodup := by
  induction entries generalizing canonical with
  | nil =>
      cases added
      exact ⟨nofun, by simp, distinct⟩
  | cons entry entries ih =>
      rw [List.foldlM_cons] at added
      cases first : addEntry inventory shardIndex canonical entry with
      | error e => simp [first, Bind.bind, Except.bind] at added
      | ok middle =>
          rw [first, ok_bind] at added
          obtain ⟨belongs, members, keeps⟩ := addEntry_spec first
          obtain ⟨all, members', distinct'⟩ := ih added (keeps distinct)
          refine ⟨List.forall_mem_cons.mpr ⟨belongs, all⟩, ?_, distinct'⟩
          intro other
          rw [members', members, List.mem_cons, or_assoc]

omit [DigestText D] in
theorem addEntries_ok {entries : List (ShardIndexEntry D)}
    (belongs : ∀ entry ∈ entries, Belongs inventory shardIndex entry)
    (agrees : ∀ a ∈ canonical ++ entries, ∀ b ∈ entries, a.positionKey = b.positionKey → a = b) :
    ∃ next, entries.foldlM (addEntry inventory shardIndex) canonical = .ok next := by
  induction entries generalizing canonical with
  | nil => exact ⟨canonical, rfl⟩
  | cons entry entries ih =>
      obtain ⟨middle, first⟩ := addEntry_ok (belongs entry List.mem_cons_self)
        fun other older => agrees other (List.mem_append_left _ older) entry List.mem_cons_self
      obtain ⟨-, members, -⟩ := addEntry_spec first
      obtain ⟨next, rest⟩ := @ih middle (fun other later => belongs other (List.mem_cons_of_mem _ later))
        (by
          intro a among b later
          refine agrees a ?_ b (List.mem_cons_of_mem _ later)
          rcases List.mem_append.mp among with known | new
          · rcases (members a).mp known with older | rfl
            · exact List.mem_append_left _ older
            · exact List.mem_append_right _ List.mem_cons_self
          · exact List.mem_append_right _ (List.mem_cons_of_mem _ new))
      exact ⟨next, by rw [List.foldlM_cons, first, ok_bind, rest]⟩

/-- What `from_entries` makes of entries: each of them once, in canonical order. -/
structure Indexes (inventory : ExecutionInventory D) (shardIndex : Nat)
    (entries : List (ShardIndexEntry D)) (index : ShardIndex D) : Prop where
  inventoryDigest : index.inventoryDigest = inventory.digest
  shardCount : index.shardCount = inventory.shardCount
  shardIndex : index.shardIndex = shardIndex
  members : ∀ entry, entry ∈ index.entries ↔ entry ∈ entries
  sorted : index.entries.Pairwise fun a b => a.sortKey ≤ b.sortKey
  distinct : (index.entries.map (·.positionKey)).Nodup

theorem fromEntries_spec {entries : List (ShardIndexEntry D)} {index : ShardIndex D}
    (made : ShardIndex.fromEntries inventory shardIndex entries = .ok index) :
    shardIndex < inventory.shardCount ∧ (∀ entry ∈ entries, Belongs inventory shardIndex entry) ∧
      Indexes inventory shardIndex entries index := by
  rw [ShardIndex.fromEntries, require_bind_ok] at made
  obtain ⟨inside, made⟩ := made
  cases added : entries.foldlM (addEntry inventory shardIndex) [] with
  | error e =>
      rw [added] at made
      cases made
  | ok canonical =>
      rw [added] at made
      cases made
      obtain ⟨belongs, members, distinct⟩ := addEntries_spec added List.nodup_nil
      have perm := List.perm_insertionSort (fun a b : ShardIndexEntry D => a.sortKey ≤ b.sortKey)
        canonical
      refine ⟨inside, belongs, rfl, rfl, rfl, ?_, List.pairwise_insertionSort _ _,
        (perm.map _).nodup_iff.mpr distinct⟩
      intro entry
      rw [perm.mem_iff, members]
      simp

theorem fromEntries_ok {entries : List (ShardIndexEntry D)}
    (inside : shardIndex < inventory.shardCount)
    (belongs : ∀ entry ∈ entries, Belongs inventory shardIndex entry)
    (agrees : ∀ a ∈ entries, ∀ b ∈ entries, a.positionKey = b.positionKey → a = b) :
    ∃ index, ShardIndex.fromEntries inventory shardIndex entries = .ok index := by
  obtain ⟨canonical, added⟩ : ∃ canonical, entries.foldlM (addEntry inventory shardIndex) [] = _ :=
    addEntries_ok belongs agrees
  rw [ShardIndex.fromEntries, require_pos inside, ok_bind, added]
  exact ⟨_, rfl⟩

/-- A shard with one entry for each of its completions, in the order of the corpus. -/
structure IsShard (inventory : ExecutionInventory D) (how : AttemptCompletion D → Circumstances)
    (completions : List (AttemptCompletion D)) (shardIndex : Nat) (shard : PublishedShard D) :
    Prop where
  indexInventory : shard.index.inventoryDigest = inventory.digest
  indexShardCount : shard.index.shardCount = inventory.shardCount
  indexShard : shard.index.shardIndex = shardIndex
  manifestInventory : shard.manifest.inventoryDigest = inventory.digest
  manifestShardCount : shard.manifest.shardCount = inventory.shardCount
  entries : ∀ entry, entry ∈ shard.index.entries ↔ ∃ completion ∈ completions,
    ordinalOf inventory completion % inventory.shardCount = shardIndex ∧
      entry = entryOf inventory how completion
  sorted : shard.index.entries.Pairwise fun a b => a.sortKey ≤ b.sortKey
  distinct : (shard.index.entries.map (·.positionKey)).Nodup

variable {how : AttemptCompletion D → Circumstances} {completions own : List (AttemptCompletion D)}

theorem fromPublications_eq (placed : ∀ completion ∈ own, Placed inventory completion)
    (assigned : ∀ completion ∈ own, ordinalOf inventory completion % inventory.shardCount = shardIndex) :
    ShardIndex.fromPublications inventory shardIndex
        (own.map fun completion => publicationOf inventory completion (how completion)) =
      ShardIndex.fromEntries inventory shardIndex (own.map (entryOf inventory how)) := by
  have all : (own.map fun completion => publicationOf inventory completion (how completion)).filter
      (fun publication => publication.reference.globalOrdinal % inventory.shardCount = shardIndex) =
      own.map fun completion => publicationOf inventory completion (how completion) := by
    rw [List.filter_eq_self]
    intro publication member
    obtain ⟨completion, among, rfl⟩ := List.mem_map.mp member
    exact decide_eq_true (assigned completion among)
  have entries : (own.map fun completion => publicationOf inventory completion (how completion)).mapM
      (ShardIndexEntry.fromPublication inventory) = .ok (own.map (entryOf inventory how)) := by
    rw [mapM_ok_iff, List.forall₂_map_left_iff, List.forall₂_map_right_iff, List.forall₂_same]
    exact fun completion among => fromPublication_publicationOf (placed completion among) how
  rw [ShardIndex.fromPublications, all, entries, ok_bind, require_pos (by simp), ok_bind]

theorem publishShard_eq (placed : ∀ completion ∈ completions, Placed inventory completion) :
    publishShard inventory shardIndex
        ((completions.map fun completion => publicationOf inventory completion (how completion)).filter
          fun publication => publication.reference.globalOrdinal % inventory.shardCount = shardIndex) =
      (do
        let index ← ShardIndex.fromEntries inventory shardIndex
          ((completions.filter fun completion =>
            ordinalOf inventory completion % inventory.shardCount = shardIndex).map
              (entryOf inventory how))
        let manifest ← SealedShardManifest.seal inventory index
        return ⟨index, manifest⟩) := by
  rw [publishShard, List.filter_map, ← fromPublications_eq]
  · rfl
  · exact fun completion member => placed completion (List.mem_of_mem_filter member)
  · exact fun completion member => of_decide_eq_true (List.mem_filter.mp member).2

omit [DigestText D] [DecidableEq D] in
theorem mem_own {entry : ShardIndexEntry D} :
    entry ∈ ((completions.filter fun completion =>
        ordinalOf inventory completion % inventory.shardCount = shardIndex).map
          (entryOf inventory how)) ↔ ∃ completion ∈ completions,
      ordinalOf inventory completion % inventory.shardCount = shardIndex ∧
        entry = entryOf inventory how completion := by
  constructor
  · intro member
    obtain ⟨completion, own, rfl⟩ := List.mem_map.mp member
    obtain ⟨among, assigned⟩ := List.mem_filter.mp own
    exact ⟨completion, among, of_decide_eq_true assigned, rfl⟩
  · rintro ⟨completion, among, assigned, rfl⟩
    exact List.mem_map_of_mem (List.mem_filter.mpr ⟨among, decide_eq_true assigned⟩)

theorem isShard_of_publishShard {shard : PublishedShard D}
    (placed : ∀ completion ∈ completions, Placed inventory completion)
    (published : publishShard inventory shardIndex
      ((completions.map fun completion => publicationOf inventory completion (how completion)).filter
        fun publication => publication.reference.globalOrdinal % inventory.shardCount = shardIndex) =
      .ok shard) : IsShard inventory how completions shardIndex shard := by
  rw [publishShard_eq placed] at published
  cases made : ShardIndex.fromEntries inventory shardIndex
      ((completions.filter fun completion =>
        ordinalOf inventory completion % inventory.shardCount = shardIndex).map
          (entryOf inventory how)) with
  | error e =>
      rw [made] at published
      cases published
  | ok index =>
      obtain ⟨-, -, indexes⟩ := fromEntries_spec made
      rw [made] at published
      simp only [ok_bind, bind_assoc, require_bind_ok, pure_bind, SealedShardManifest.seal] at published
      obtain ⟨-, sealed⟩ := published
      cases sealed
      exact ⟨indexes.inventoryDigest, indexes.shardCount, indexes.shardIndex, rfl, rfl,
        fun entry => (indexes.members entry).trans mem_own, indexes.sorted, indexes.distinct⟩

theorem publishShard_ok (placed : ∀ completion ∈ completions, Placed inventory completion)
    (distinct : ∀ a ∈ completions, ∀ b ∈ completions,
      placeOf inventory a = placeOf inventory b → a = b)
    (small : completions.length ≤ uint32Max) (inside : shardIndex < inventory.shardCount) :
    ∃ shard, publishShard inventory shardIndex
      ((completions.map fun completion => publicationOf inventory completion (how completion)).filter
        fun publication => publication.reference.globalOrdinal % inventory.shardCount = shardIndex) =
      .ok shard := by
  obtain ⟨index, made⟩ : ∃ index, ShardIndex.fromEntries inventory shardIndex
      ((completions.filter fun completion =>
        ordinalOf inventory completion % inventory.shardCount = shardIndex).map
          (entryOf inventory how)) = .ok index := by
    refine fromEntries_ok inside ?_ ?_
    · intro entry member
      obtain ⟨completion, among, assigned, rfl⟩ := mem_own.mp member
      exact ⟨rfl, rfl, assigned⟩
    · intro first among second member same
      obtain ⟨a, inA, -, rfl⟩ := mem_own.mp among
      obtain ⟨b, inB, -, rfl⟩ := mem_own.mp member
      rw [positionKey_entryOf, positionKey_entryOf] at same
      rw [distinct a inA b inB same]
  obtain ⟨-, -, indexes⟩ := fromEntries_spec made
  have fits : index.entries.length ≤ uint32Max := by
    have sub : index.entries ⊆ completions.map (entryOf inventory how) := by
      intro entry member
      obtain ⟨completion, among, -, rfl⟩ := mem_own.mp ((indexes.members entry).mp member)
      exact List.mem_map_of_mem among
    have shorter := (indexes.distinct.of_map.subperm sub).length_le
    rw [List.length_map] at shorter
    omega
  rw [publishShard_eq placed, made, ok_bind]
  simp only [SealedShardManifest.seal, require_pos fits]
  exact ⟨_, rfl⟩

/-- The shards of a published set of completions. -/
theorem publishAll_spec {shards : List (PublishedShard D)}
    (published : publishAll inventory how completions = .ok shards) :
    (∀ completion ∈ completions, Placed inventory completion) ∧
      List.Forall₂ (IsShard inventory how completions) (List.range inventory.shardCount) shards := by
  rw [publishAll] at published
  cases made : completions.mapM fun completion =>
      publishCompletion inventory completion (how completion) with
  | error e =>
      rw [made] at published
      cases published
  | ok publications =>
      obtain ⟨placed, rfl⟩ := (mapM_known_iff fun _ _ => publishCompletion_ok_iff).mp made
      rw [made, ok_bind, mapM_ok_iff] at published
      exact ⟨placed, published.imp fun _ _ => isShard_of_publishShard placed⟩

theorem publishAll_ok (placed : ∀ completion ∈ completions, Placed inventory completion)
    (distinct : ∀ a ∈ completions, ∀ b ∈ completions,
      placeOf inventory a = placeOf inventory b → a = b)
    (small : completions.length ≤ uint32Max) :
    ∃ shards, publishAll inventory how completions = .ok shards := by
  have made : (completions.mapM fun completion =>
      publishCompletion inventory completion (how completion)) =
      .ok (completions.map fun completion => publicationOf inventory completion (how completion)) :=
    (mapM_known_iff fun _ _ => publishCompletion_ok_iff).mpr ⟨placed, rfl⟩
  rw [publishAll, made, ok_bind]
  exact mapM_ok fun shardIndex member =>
    publishShard_ok placed distinct small (List.mem_range.mp member)

end CsdFoundry.Synthesis

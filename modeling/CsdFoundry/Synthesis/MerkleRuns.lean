import CsdFoundry.Results
import CsdFoundry.Synthesis.MerkleForest

/-! Runs of the Merkle accumulator. After every accepted record the peaks are the forest over the
records so far, so the root is a function of the sequence, and a one-to-one one. -/
namespace CsdFoundry.Synthesis
open MerklePeak
variable {B D : Type} [DecidableEq D] [Sha256 D] [DigestText D]

namespace MerkleAccumulator

/-- The root over a list of leaves, by recursion over the list. -/
def merkleRoot (domain : String) (leaves : List D) : D :=
  let peaks := forest domain leaves.length leaves
  Sha256.sha256 "csd-streaming-merkle-root/0.4" [.str domain, .nat peaks.length,
    .json (.arr (peaks.map (·.toJsonValue))), .nat leaves.length]

/-- `add_record`. The bytes are published first, and the store compares their digest. -/
def addCanonical [Blob B D] (accumulator : MerkleAccumulator D) (record : B × D) :
    Except (PublicationError ⊕ SynthesisError) (MerkleAccumulator D) :=
  if Blob.sha256 record.1 = record.2 then (accumulator.addRecord record.2).mapError .inr
  else .error (.inl .corruption)

/-- The records in a row, from a new accumulator on. -/
def feed [Blob B D] (domain : String) (records : List (B × D)) :
    Except (PublicationError ⊕ SynthesisError) (MerkleAccumulator D) :=
  records.foldlM addCanonical (empty domain)

/-! ### The carry -/

omit [DigestText D] in
/-- The peaks form a forest, in whatever order the dictionary holds them; the loop carries a full
subtree into it that is no higher than any of them. -/
theorem carry_forest {domain : String} {fuel bound : Nat}
    {peaks descending carried : List (MerklePeak D)} {current : MerklePeak D} {leaves block : List D}
    (same : peaks.Perm descending) (held : Forest domain bound descending leaves)
    (covers : subtree domain current.level block = some current)
    (low : ∀ other ∈ descending, current.level ≤ other.level) (enough : descending.length ≤ fuel)
    (ended : carry domain fuel peaks current = .ok carried) :
    ∃ descending' bound', carried.Perm descending' ∧
      Forest domain bound' descending' (leaves ++ block) := by
  induction descending using List.reverseRecOn generalizing peaks current leaves block fuel with
  | nil =>
      cases held
      cases List.perm_nil.mp same
      refine ⟨[current], current.level + 1, ?_, ?_⟩
      · cases fuel <;> cases ended <;> exact .refl _
      · rw [List.nil_append, ← List.append_nil block]
        exact .cons (Nat.lt_succ_self _) covers .nil
  | append_singleton descending top ih =>
      obtain ⟨first, last, rfl, ends, below, forest, smaller⟩ := held.unsnoc
      have least := low top (by simp)
      obtain ⟨fuel, rfl⟩ : ∃ n, fuel = n + 1 := by
        refine Nat.exists_eq_succ_of_ne_zero ?_
        simp only [List.length_append, List.length_singleton] at enough
        omega
      rw [carry] at ended
      rcases Nat.lt_or_eq_of_le least with lower | level
      · -- no peak has the level of the subtree: it becomes the smallest peak
        have free : peaks.find? (fun peak => peak.level = current.level) = none := by
          refine List.find?_eq_none.mpr fun other member => ?_
          have above : current.level < other.level := by
            rcases List.mem_append.mp (same.mem_iff.mp member) with older | only
            · exact lower.trans (smaller other older)
            · rwa [List.mem_singleton.mp only]
          simpa using Nat.ne_of_gt above
        rw [free] at ended
        cases ended
        refine ⟨descending ++ [top] ++ [current], bound, same.append_right _, ?_⟩
        refine held.snoc (lower.trans below) covers fun other member => ?_
        rcases List.mem_append.mp member with older | only
        · exact lower.trans (smaller other older)
        · rwa [List.mem_singleton.mp only]
      · -- the smallest peak has that level: both become one subtree of the next level
        have taken : peaks.find? (fun peak => peak.level = current.level) = some top := by
          cases found : peaks.find? (fun peak => peak.level = current.level) with
          | none =>
              have missing := List.find?_eq_none.mp found top (same.mem_iff.mpr (by simp))
              exact absurd level.symm (by simpa using missing)
          | some left =>
              have height : left.level = current.level := by simpa using List.find?_some found
              have among := same.mem_iff.mp (List.mem_of_find?_eq_some found)
              rcases List.mem_append.mp among with older | only
              · have above := smaller left older
                omega
              · rw [List.mem_singleton.mp only]
        rw [taken] at ended
        obtain ⟨_, -, ended⟩ := Results.bind_ok.mp ended
        have rest := (StableSort.perm_of_find taken).symm.trans
          (same.trans (List.perm_append_singleton top descending))
        have joined : subtree domain (current.level + 1) (last ++ block) =
            some (join domain top current) :=
          subtree_append (level ▸ ends) covers
        obtain ⟨descending', bound', perm, whole⟩ := ih (List.Perm.cons_inv rest) forest joined
          (fun other member => by
            have above := smaller other member
            show current.level + 1 ≤ other.level
            omega)
          (by simpa using enough) ended
        exact ⟨descending', bound', perm, by rwa [List.append_assoc]⟩

omit [DecidableEq D] [DigestText D] in
/-- No peak leaves the loop that has more leaves than its constructor allows. -/
theorem carry_bounded {domain : String} {fuel : Nat} {peaks carried : List (MerklePeak D)}
    {current : MerklePeak D} (bounded : ∀ peak ∈ peaks, peak.leafCount ≤ uint32Max)
    (own : current.leafCount ≤ uint32Max) (ended : carry domain fuel peaks current = .ok carried) :
    ∀ peak ∈ carried, peak.leafCount ≤ uint32Max := by
  have appended : ∀ (peaks : List (MerklePeak D)) (current : MerklePeak D),
      (∀ peak ∈ peaks, peak.leafCount ≤ uint32Max) → current.leafCount ≤ uint32Max →
      ∀ peak ∈ peaks ++ [current], peak.leafCount ≤ uint32Max := by
    intro peaks current bounded own peak member
    rcases List.mem_append.mp member with older | only
    · exact bounded peak older
    · rwa [List.mem_singleton.mp only]
  induction fuel generalizing peaks current with
  | zero =>
      cases ended
      exact appended peaks current bounded own
  | succ fuel ih =>
      rw [carry] at ended
      cases found : peaks.find? (fun peak => peak.level = current.level) with
      | none =>
          rw [found] at ended
          cases ended
          exact appended peaks current bounded own
      | some left =>
          rw [found] at ended
          obtain ⟨_, checked, ended⟩ := Results.bind_ok.mp ended
          obtain ⟨-, checked⟩ := require_bind_ok.mp checked
          refine ih (fun peak member => ?_) (require_bind_ok.mp checked).1 ended
          exact bounded peak (List.mem_of_mem_eraseP member)

/-! ### The runs -/

/-- What an accumulator knows of the leaves it was given. -/
structure Holds (accumulator : MerkleAccumulator D) (leaves : List D) : Prop where
  count : accumulator.recordCount = leaves.length
  bounded : ∀ peak ∈ accumulator.peaks, peak.leafCount ≤ uint32Max
  forest : ∃ descending bound, accumulator.peaks.Perm descending ∧
    Forest accumulator.domain bound descending leaves

omit [DecidableEq D] [DigestText D] in
theorem Holds.empty (domain : String) : Holds (empty domain : MerkleAccumulator D) [] :=
  ⟨rfl, nofun, [], 0, .refl _, .nil⟩

omit [DigestText D] in
theorem Holds.add {accumulator added : MerkleAccumulator D} {leaves : List D} {digest : D}
    (held : Holds accumulator leaves) (accepted : accumulator.addRecord digest = .ok added) :
    added.domain = accumulator.domain ∧ Holds added (leaves ++ [digest]) := by
  obtain ⟨descending, bound, same, forest⟩ := held.forest
  obtain ⟨peaks, carried, accepted⟩ := Results.bind_ok.mp accepted
  cases accepted
  obtain ⟨descending', bound', perm, whole⟩ :=
    @carry_forest _ _ _ _ _ _ _ _ _ ⟨0, digest, 1⟩ _ [digest] same forest rfl
      (fun _ _ => Nat.zero_le _) (le_of_eq same.length_eq.symm) carried
  have single : 1 ≤ uint32Max := by decide
  refine ⟨rfl, ?_, carry_bounded held.bounded single carried, descending', bound', perm, whole⟩
  rw [List.length_append, ← held.count]
  rfl

variable [Blob B D] {domain : String} {records records' : List (B × D)}
  {accumulator : MerkleAccumulator D}

omit [DigestText D] in
theorem addCanonical_ok {record : B × D} {added : MerkleAccumulator D} :
    accumulator.addCanonical record = .ok added ↔
      Blob.sha256 record.1 = record.2 ∧ accumulator.addRecord record.2 = .ok added := by
  unfold addCanonical
  split_ifs with same
  · cases accumulator.addRecord record.2 <;> simp [Except.mapError, same]
  · simp [same]

omit [DigestText D] in
theorem feed_snoc (record : B × D) :
    feed domain (records ++ [record]) = (feed domain records).bind (·.addCanonical record) := by
  rw [feed, List.foldlM_append]
  simp only [List.foldlM_cons, List.foldlM_nil, bind_pure]
  rfl

omit [DigestText D] in
/-- What an accepted run has checked, and what it has built. -/
theorem feed_ok (fed : feed domain records = .ok accumulator) :
    (∀ record ∈ records, Blob.sha256 record.1 = record.2) ∧
      accumulator.domain = domain ∧ Holds accumulator (records.map (·.2)) := by
  induction records using List.reverseRecOn generalizing accumulator with
  | nil =>
      cases fed
      exact ⟨nofun, rfl, .empty domain⟩
  | append_singleton records record ih =>
      rw [feed_snoc] at fed
      obtain ⟨before, earlier, added⟩ := Results.bind_ok.mp fed
      obtain ⟨genuine, named, held⟩ := ih earlier
      obtain ⟨own, added⟩ := addCanonical_ok.mp added
      obtain ⟨same, held'⟩ := held.add added
      refine ⟨?_, same.trans named, by rwa [List.map_append]⟩
      intro other member
      rcases List.mem_append.mp member with older | only
      · exact genuine other older
      · rwa [List.mem_singleton.mp only]

omit [DecidableEq D] [DigestText D] [Blob B D] in
/-- A forest over `2 ^ 32` leaves is one peak, which is more than a peak may hold. -/
theorem Holds.small {leaves : List D} (held : Holds accumulator leaves) :
    leaves.length ≠ uint32Max + 1 := by
  intro length
  obtain ⟨descending, bound, same, forest⟩ := held.forest
  have digits := forest.binary
  have power : uint32Max + 1 = 2 ^ 32 := rfl
  rw [length, power, Nat.bitIndices_two_pow, List.reverse_singleton] at digits
  obtain ⟨peak, rfl, level⟩ := List.map_eq_singleton_iff.mp digits
  obtain ⟨blocks, -, each⟩ := forest.blocks
  cases each with
  | cons first _ =>
      have count := first.2.1
      have few := held.bounded peak (same.mem_iff.mpr List.mem_cons_self)
      rw [level] at count
      omega

omit [DigestText D] in
/-- The accumulator takes every record whose digest is its own, up to the limit of the counts. -/
theorem feed_accepts : (∃ accumulator, feed domain records = .ok accumulator) ↔
    (∀ record ∈ records, Blob.sha256 record.1 = record.2) ∧ records.length ≤ uint32Max := by
  constructor
  · rintro ⟨accumulator, fed⟩
    refine ⟨(feed_ok fed).1, ?_⟩
    by_contra large
    -- the run has passed through the record at the limit
    have split := List.take_append_drop (uint32Max + 1) records
    rw [← split, feed, List.foldlM_append] at fed
    obtain ⟨before, earlier, -⟩ := Results.bind_ok.mp fed
    refine (feed_ok earlier).2.2.small ?_
    rw [List.length_map, List.length_take]
    omega
  · rintro ⟨genuine, few⟩
    suffices ∃ accumulator, feed domain records = .ok accumulator ∧
        Counted accumulator.peaks accumulator.recordCount ∧
        accumulator.recordCount = records.length from
      ⟨this.choose, this.choose_spec.1⟩
    induction records using List.reverseRecOn with
    | nil => exact ⟨empty domain, rfl, ⟨rfl, nofun⟩, rfl⟩
    | append_singleton records record ih =>
        rw [List.length_append, List.length_singleton] at few
        obtain ⟨before, earlier, counted, count⟩ := ih
          (fun other member => genuine other (List.mem_append_left _ member)) (by omega)
        obtain ⟨added, accepted, counted', count'⟩ := addRecord_ok record.2 counted (by omega)
        refine ⟨added, ?_, counted', by simp [count', count]⟩
        rw [feed_snoc, earlier]
        exact addCanonical_ok.mpr ⟨genuine record (by simp), accepted⟩

/-! ### The root -/

omit [DecidableEq D] [DigestText D] [Blob B D] in
theorem Holds.ordered {leaves : List D} (held : Holds accumulator leaves) :
    ∃ bound, Forest accumulator.domain bound
      (accumulator.peaks.insertionSort fun a b => b.level ≤ a.level) leaves := by
  obtain ⟨descending, bound, same, forest⟩ := held.forest
  obtain ⟨-, sorted, -⟩ := forest.levels
  have total : Std.Total fun a b : MerklePeak D => b.level ≤ a.level :=
    ⟨fun a b => Nat.le_total b.level a.level⟩
  have trans : IsTrans (MerklePeak D) fun a b => b.level ≤ a.level :=
    ⟨fun _ _ _ ab bc => Nat.le_trans bc ab⟩
  have equal : accumulator.peaks.insertionSort (fun a b => b.level ≤ a.level) = descending := by
    rw [StableSort.insertionSort_perm same]
    · exact (sorted.imp fun less => Nat.le_of_lt less).insertionSort_eq
    · intro a inA b inB ba ab
      have distinct : (descending.map (·.level)).Nodup :=
        List.nodup_iff_pairwise_ne.mpr (List.pairwise_map.mpr (sorted.imp Nat.ne_of_gt))
      exact List.inj_on_of_nodup_map distinct (same.mem_iff.mp inA) (same.mem_iff.mp inB)
        (Nat.le_antisymm ab ba)
  exact ⟨bound, equal ▸ forest⟩

omit [DecidableEq D] [Blob B D] in
theorem Holds.root {leaves : List D} (held : Holds accumulator leaves) :
    accumulator.finalize.1 = merkleRoot accumulator.domain leaves := by
  obtain ⟨bound, forest⟩ := held.ordered
  rw [finalize, merkleRoot, forest.narrow.forest_eq, held.count]

omit [DecidableEq D] [Sha256 D] [Blob B D] in
theorem toJsonValue_injective : Function.Injective (MerklePeak.toJsonValue : MerklePeak D → Json) := by
  rintro ⟨level, digest, count⟩ ⟨level', digest', count'⟩ same
  simp only [MerklePeak.toJsonValue, Json.obj.injEq, List.cons.injEq, Prod.mk.injEq,
    Json.str.injEq, Json.int.injEq, true_and, and_true] at same
  obtain ⟨texts, counts, levels⟩ := same
  rw [DigestText.text_injective texts, Int.ofNat_inj.mp counts, Int.ofNat_inj.mp levels]

omit [DecidableEq D] [Blob B D] in
/-- The root names the leaves. -/
theorem Holds.root_injective {accumulator' : MerkleAccumulator D} {leaves leaves' : List D}
    (held : Holds accumulator leaves) (held' : Holds accumulator' leaves')
    (named : accumulator.domain = accumulator'.domain)
    (same : accumulator.finalize.1 = accumulator'.finalize.1) : leaves = leaves' := by
  obtain ⟨bound, forest⟩ := held.ordered
  obtain ⟨bound', forest'⟩ := held'.ordered
  have fields := (Sha256.collision_free same).2
  simp only [List.cons.injEq, Field.json.injEq, Json.arr.injEq] at fields
  have peaks := toJsonValue_injective.list_map fields.2.2.1
  rw [← peaks, ← named] at forest'
  exact forest.injective forest'

/-- After `n` records the peaks are the binary digits of `n` over consecutive blocks, the root is
the root of the list, and it names the sequence. No run of `2 ^ 32` records is accepted. -/
theorem streamingMerkle_exact (domain : String) :
    (∀ (records : List (B × D)) (accumulator : MerkleAccumulator D),
      feed domain records = .ok accumulator →
        let peaks := accumulator.peaks.insertionSort fun a b => b.level ≤ a.level
        peaks.map (·.level) = records.length.bitIndices.reverse ∧
        (∃ blocks : List (List D), blocks.flatten = records.map (·.2) ∧
          List.Forall₂ (fun peak block => block.length = 2 ^ peak.level ∧
            peak.leafCount = 2 ^ peak.level ∧ subtree domain peak.level block = some peak)
            peaks blocks) ∧
        accumulator.finalize.1 = merkleRoot domain (records.map (·.2))) ∧
    (∀ (records records' : List (B × D)) (accumulator accumulator' : MerkleAccumulator D),
      feed domain records = .ok accumulator → feed domain records' = .ok accumulator' →
        (accumulator.finalize.1 = accumulator'.finalize.1 ↔ records = records')) ∧
    ∀ records : List (B × D), (∃ accumulator, feed domain records = .ok accumulator) ↔
      (∀ record ∈ records, Blob.sha256 record.1 = record.2) ∧ records.length ≤ uint32Max := by
  refine ⟨?_, ?_, fun _ => feed_accepts⟩
  · intro records accumulator fed
    obtain ⟨-, rfl, held⟩ := feed_ok fed
    obtain ⟨bound, forest⟩ := held.ordered
    refine ⟨?_, forest.blocks, held.root⟩
    rw [forest.binary, List.length_map]
  · intro records records' accumulator accumulator' fed fed'
    obtain ⟨genuine, named, held⟩ := feed_ok fed
    obtain ⟨genuine', named', held'⟩ := feed_ok fed'
    constructor
    · intro same
      have digests := held.root_injective held' (named.trans named'.symm) same
      -- equal digests have equal bytes behind them
      have rebuilt : ∀ {records : List (B × D)}, (∀ record ∈ records, Blob.sha256 record.1 = record.2) →
          records.map (·.2) = (records.map (·.1)).map Blob.sha256 := by
        intro records genuine
        rw [List.map_map]
        exact List.map_congr_left fun record member => (genuine record member).symm
      have bytes : records.map (·.1) = records'.map (·.1) := by
        refine (Blob.collision_free (B := B) (D := D)).list_map ?_
        rw [← rebuilt genuine, ← rebuilt genuine', digests]
      exact (List.zip_of_prod bytes digests).trans (List.zip_of_prod rfl rfl).symm
    · rintro rfl
      rw [fed] at fed'
      cases fed'
      rfl

end MerkleAccumulator
end CsdFoundry.Synthesis

import CsdFoundry.Synthesis.Corpus
import CsdFoundry.Synthesis.MergeUnion

/-! Merging streams of sourced shard entries. The streams are merged as they are, whatever shards
they come from. -/
namespace CsdFoundry.Synthesis
variable {D : Type} [Sha256 D] [DigestText D]

namespace SourcedShardEntry

/-- The order that the merge asks of a stream: positions, digests, source manifest. -/
def Canonical (stream : List (SourcedShardEntry D)) : Prop :=
  stream.Pairwise fun a b => a.sortKey ≤ b.sortKey

instance (stream : List (SourcedShardEntry D)) : Decidable (Canonical stream) :=
  inferInstanceAs (Decidable (stream.Pairwise fun a b => a.sortKey ≤ b.sortKey))

omit [Sha256 D] in
theorem positionKey_le {a b : SourcedShardEntry D} (before : a.sortKey ≤ b.sortKey) :
    a.positionKey ≤ b.positionKey := by
  refine positionKey_le_of_sortKey_le ?_
  rcases Prod.Lex.toLex_le_toLex.mp before with less | ⟨same, -⟩
  · exact le_of_lt less
  · exact le_of_eq same

omit [Sha256 D] in
theorem Canonical.of_ascending {stream : List (SourcedShardEntry D)}
    (ascending : stream.Pairwise fun a b => a.positionKey < b.positionKey) : Canonical stream := by
  refine ascending.imp fun {a b} less => ?_
  by_contra descends
  exact not_le.mpr less (positionKey_le (le_of_lt (not_le.mp descends)))

omit [Sha256 D] in
theorem eq_of_sortKey {a b : SourcedShardEntry D} (entry : a.entry = b.entry)
    (key : a.sortKey = b.sortKey) : a = b := by
  obtain ⟨entryA, sourceA⟩ := a
  obtain ⟨entryB, sourceB⟩ := b
  cases entry
  have texts : DigestText.text sourceA = DigestText.text sourceB :=
    (Prod.ext_iff.mp (toLex.injective key)).2
  rw [DigestText.text_injective texts]

end SourcedShardEntry

open SourcedShardEntry

/-- Entries that share a position are one entry, whatever manifests they come from. -/
abbrev Agreeing (items : List (SourcedShardEntry D)) : Prop :=
  Cursor.Agreeing SourcedShardEntry.positionKey (·.entry) items

abbrev IsUnion (items yielded : List (SourcedShardEntry D)) : Prop :=
  Cursor.IsUnion SourcedShardEntry.sortKey SourcedShardEntry.positionKey items yielded

variable [DecidableEq D]

/-- `merge_sorted_entry_streams`, consumed to its end: what it yields, or what it raises. -/
def consumeMerged (streams : List (List (SourcedShardEntry D))) :
    Except SynthesisError (List (SourcedShardEntry D)) := do
  require (streams ≠ []) .reconciliation
  match StreamingReconciler.mergeSortedEntryStreams streams with
  | (items, none) => return items
  | (_, some .unsorted) => throw .reconciliation
  | (_, some .conflict) => throw .conflict

variable {streams streams' : List (List (SourcedShardEntry D))}

omit [Sha256 D] in
theorem merged_union (sorted : ∀ stream ∈ streams, Canonical stream) :
    (Agreeing streams.flatten → ∃ yielded,
      StreamingReconciler.mergeSortedEntryStreams streams = (yielded, none) ∧
      IsUnion streams.flatten yielded) ∧
    (¬ Agreeing streams.flatten →
      (StreamingReconciler.mergeSortedEntryStreams streams).2 = some .conflict) :=
  Cursor.merge_union positionKey_le sorted (Nat.lt_succ_self _)

omit [Sha256 D] in
theorem consumeMerged_union (some : streams ≠ [])
    (sorted : ∀ stream ∈ streams, Canonical stream) (agreeing : Agreeing streams.flatten) :
    ∃ yielded, consumeMerged streams = .ok yielded ∧ IsUnion streams.flatten yielded := by
  obtain ⟨yielded, merged, union⟩ := (merged_union sorted).1 agreeing
  refine ⟨yielded, require_bind_ok.mpr ⟨some, ?_⟩, union⟩
  simp only [merged]
  rfl

omit [Sha256 D] in
theorem consumeMerged_conflict (some : streams ≠ [])
    (sorted : ∀ stream ∈ streams, Canonical stream) (differ : ¬ Agreeing streams.flatten) :
    consumeMerged streams = .error .conflict := by
  have conflict := (merged_union sorted).2 differ
  rw [consumeMerged, require_pos some]
  generalize StreamingReconciler.mergeSortedEntryStreams streams = merged at conflict
  obtain ⟨yielded, failed⟩ := merged
  cases conflict
  rfl

omit [Sha256 D] in
/-- What was consumed to the end without an error was sorted throughout. -/
theorem canonical_of_consumed {yielded : List (SourcedShardEntry D)}
    (consumed : consumeMerged streams = .ok yielded) : ∀ stream ∈ streams, Canonical stream := by
  have ended : (StreamingReconciler.mergeSortedEntryStreams streams).2 = none := by
    have merged := (require_bind_ok.mp consumed).2
    generalize StreamingReconciler.mergeSortedEntryStreams streams = result at merged
    obtain ⟨items, failed⟩ := result
    rcases failed with _ | _ | _
    · rfl
    · cases merged
    · cases merged
  have flat := @Cursor.start_flatten _ _ _ SourcedShardEntry.sortKey streams
  have contents := (@Cursor.start_contents _ _ _ SourcedShardEntry.sortKey streams).1
  have sorted := Cursor.sorted_of_merge (Nat.lt_succ_of_le (le_of_eq flat.length_eq)) ended
  intro stream member
  by_cases empty : stream = []
  · rw [empty]
    exact .nil
  · have kept : stream ∈ streams.filter (· ≠ []) := by simp [member, empty]
    obtain ⟨cursor, among, rfl⟩ := List.mem_map.mp (contents.mem_iff.mpr kept)
    exact sorted cursor among

omit [Sha256 D] in
theorem consumeMerged_perm (some : streams ≠ []) (some' : streams' ≠ [])
    (sorted : ∀ stream ∈ streams, Canonical stream)
    (sorted' : ∀ stream ∈ streams', Canonical stream)
    (same : streams.flatten.Perm streams'.flatten) :
    consumeMerged streams = consumeMerged streams' := by
  by_cases agreeing : Agreeing streams.flatten
  · obtain ⟨yielded, consumed, union⟩ := consumeMerged_union some sorted agreeing
    obtain ⟨yielded', consumed', union'⟩ :=
      consumeMerged_union some' sorted' ((Cursor.Agreeing.perm same).mp agreeing)
    have equal : yielded = yielded' := union.unique same (fun a inA b inB place key =>
      eq_of_sortKey (agreeing a inA b inB place) key) union'
    rw [consumed, consumed', equal]
  · have differ' := fun agreeing' => agreeing ((Cursor.Agreeing.perm same).mpr agreeing')
    rw [consumeMerged_conflict some sorted agreeing, consumeMerged_conflict some' sorted' differ']

omit [Sha256 D] in
/-- Canonical streams merge into the union of their entries, each position once, with the least
manifest that has it; two entries in one position are a conflict; a stream out of order is
rejected; nothing depends on how the entries are dealt out to the streams. -/
theorem mergeSortedEntryStreams_exact (streams : List (List (SourcedShardEntry D)))
    (some : streams ≠ []) :
    ((∀ stream ∈ streams, Canonical stream) →
      (Agreeing streams.flatten →
        ∃ yielded, consumeMerged streams = .ok yielded ∧ IsUnion streams.flatten yielded) ∧
      (consumeMerged streams = .error .conflict ↔ ¬ Agreeing streams.flatten) ∧
      ∀ streams', streams' ≠ [] → (∀ stream ∈ streams', Canonical stream) →
        streams.flatten.Perm streams'.flatten → consumeMerged streams = consumeMerged streams') ∧
    ((∃ stream ∈ streams, ¬ Canonical stream) → ∃ e, consumeMerged streams = .error e) ∧
    ∀ stream : List (SourcedShardEntry D),
      stream.Pairwise (fun a b => a.positionKey < b.positionKey) → Canonical stream := by
  refine ⟨fun sorted => ⟨consumeMerged_union some sorted, ⟨?_, consumeMerged_conflict some sorted⟩,
    fun streams' some' sorted' => consumeMerged_perm some some' sorted sorted'⟩, ?_,
    fun _ => .of_ascending⟩
  · intro conflict agreeing
    obtain ⟨yielded, consumed, -⟩ := consumeMerged_union some sorted agreeing
    rw [consumed] at conflict
    cases conflict
  · rintro ⟨stream, member, unsorted⟩
    cases consumed : consumeMerged streams with
    | error e => exact ⟨e, rfl⟩
    | ok yielded => exact absurd (canonical_of_consumed consumed stream member) unsorted

section Run

/-- An entry of a sample at a position, with its source. -/
def sourcedAt (ordinal : Nat) (source : List Nat) : SourcedShardEntry (List Nat) :=
  ⟨{ inventoryDigest := [1]
     shardCount := 1
     shardIndex := 0
     globalOrdinal := ordinal
     attemptKey := ⟨⟨"target", 0⟩, 0⟩
     completionEnvelopeDigest := [2]
     inventoryCompletionReferenceDigest := [3]
     publicationReceiptDigest := [4] }, source⟩

theorem mergeSortedEntryStreams_exact_two :
    ∃ yielded, consumeMerged [[sourcedAt 0 [7], sourcedAt 1 [7]], [sourcedAt 0 [8]]] =
      .ok yielded ∧ IsUnion [sourcedAt 0 [7], sourcedAt 1 [7], sourcedAt 0 [8]] yielded := by
  refine ((mergeSortedEntryStreams_exact
    [[sourcedAt 0 [7], sourcedAt 1 [7]], [sourcedAt 0 [8]]] (by decide)).1 ?_).1 ?_
  · decide +kernel
  · decide +kernel

/-- Two copies of an entry are in order by position, but their sources are not. -/
theorem equal_positions_unsorted :
    (∀ stream ∈ [[sourcedAt 0 [8], sourcedAt 0 [7]]],
      stream.Pairwise fun a b => a.positionKey ≤ b.positionKey) ∧
    Agreeing [[sourcedAt 0 [8], sourcedAt 0 [7]]].flatten ∧
    consumeMerged [[sourcedAt 0 [8], sourcedAt 0 [7]]] = .error .reconciliation := by
  exact ⟨by decide +kernel, by decide +kernel, rfl⟩

end Run
end CsdFoundry.Synthesis

import CsdFoundry.Synthesis.CanonicalEncoding

/-! Canonical bytes do not depend on the orders in which dicts and sets were filled. -/
namespace CsdFoundry.Synthesis
open Admission Admission.Value Encoding Results

/-- An item as it is sorted and as it is written. -/
def written (pair : List UInt8 × Value) : List UInt8 × Value := (pair.1, sortCodes pair.2)

/-- A sorted collection is written as its sorted written items. -/
theorem sortCodes_sorted (pairs : List (List UInt8 × Value)) :
    sortCodes (.list ((pairs.insertionSort SortKeyLe).map (·.2))) =
      .list (((pairs.map written).insertionSort SortKeyLe).map (·.2)) := by
  have mapped := List.map_insertionSort SortKeyLe SortKeyLe written pairs
    (fun _ _ _ _ => Iff.rfl)
  rw [sortCodes_list, ← mapped, List.map_map, List.map_map]
  rfl

/-- Of items with one key, one is written. -/
theorem sortCodes_sorted_perm {items : List Value} {pairs pairs' : List (List UInt8 × Value)}
    (readable : ∀ item ∈ items, item.every isReadable = true)
    (keys : items.map sortKeyed = pairs.map .ok)
    (same : (pairs.map written).Perm (pairs'.map written)) :
    sortCodes (.list ((pairs.insertionSort SortKeyLe).map (·.2))) =
      sortCodes (.list ((pairs'.insertionSort SortKeyLe).map (·.2))) := by
  rw [sortCodes_sorted, sortCodes_sorted, StableSort.insertionSort_perm same]
  intro a ha b hb below above
  obtain ⟨a, first, rfl⟩ := List.mem_map.mp ha
  obtain ⟨b, second, rfl⟩ := List.mem_map.mp hb
  obtain ⟨item, member, key⟩ := mem_of_results keys first
  obtain ⟨item', member', key'⟩ := mem_of_results keys second
  obtain ⟨text, rendered, rfl⟩ := sortKeyed_ok.mp key
  obtain ⟨text', rendered', rfl⟩ := sortKeyed_ok.mp key'
  have texts : text = text' := utf8_injective (le_antisymm below above)
  subst texts
  have values : sortCodes item = sortCodes item' :=
    dumps_injective rendered rendered' (sortCodes_readable (readable item member))
      (sortCodes_readable (readable item' member'))
  rw [written, written, values]

namespace Refilled
variable {a b : Object}

theorem symm (same : Refilled a b) : Refilled b a := by
  induction same with
  | refl => exact .refl
  | trans _ _ first second => exact .trans second first
  | dict perm => exact .dict perm.symm
  | set perm => exact .set perm.symm
  | member _ ih => exact .member ih
  | field _ ih => exact .field ih
  | item _ ih => exact .item ih
  | element _ ih => exact .element ih

theorem unique (same : Refilled a b) (distinct : a.isUnique = true) : b.isUnique = true := by
  induction same with
  | refl => exact distinct
  | trans _ _ first second => exact second (first distinct)
  | dict perm =>
      obtain ⟨nodup, inner⟩ := isUnique_dict.mp distinct
      refine isUnique_dict.mpr ⟨?_, fun member among => inner member (perm.mem_iff.mpr among)⟩
      exact (perm.filterMap _).nodup_iff.mp nodup
  | set perm =>
      have inner := isUnique_set.mp distinct
      exact isUnique_set.mpr fun item among => inner item (perm.mem_iff.mpr among)
  | member _ ih =>
      obtain ⟨nodup, inner⟩ := isUnique_dict.mp distinct
      refine isUnique_dict.mpr ⟨?_, ?_⟩
      · simpa only [List.filterMap_append, List.filterMap_cons] using nodup
      · simp only [List.forall_mem_append, List.forall_mem_cons] at inner ⊢
        exact ⟨inner.1, ih inner.2.1, inner.2.2⟩
  | field _ ih =>
      obtain ⟨nodup, inner⟩ := isUnique_dataclass.mp distinct
      refine isUnique_dataclass.mpr ⟨?_, ?_⟩
      · simpa only [List.map_append, List.map_cons] using nodup
      · simp only [List.forall_mem_append, List.forall_mem_cons] at inner ⊢
        exact ⟨inner.1, ih inner.2.1, inner.2.2⟩
  | item _ ih =>
      have inner := isUnique_sequence.mp distinct
      rw [isUnique_sequence]
      simp only [List.forall_mem_append, List.forall_mem_cons] at inner ⊢
      exact ⟨inner.1, ih inner.2.1, inner.2.2⟩
  | element _ ih =>
      have inner := isUnique_set.mp distinct
      rw [isUnique_set]
      simp only [List.forall_mem_append, List.forall_mem_cons] at inner ⊢
      exact ⟨inner.1, ih inner.2.1, inner.2.2⟩

/-- What the encoder writes of a JSON value. -/
theorem written_alike {value : Value} (same : Refilled a b) (distinct : a.isUnique = true)
    (converted : toJsonValue a = .ok value) :
    ∃ value', toJsonValue b = .ok value' ∧ sortCodes value = sortCodes value' := by
  induction same generalizing value with
  | refl => exact ⟨value, converted, rfl⟩
  | trans first _ ih ih' =>
      obtain ⟨value', converted', equal⟩ := ih distinct converted
      obtain ⟨value'', converted'', equal'⟩ := ih' (first.unique distinct) converted'
      exact ⟨value'', converted'', equal.trans equal'⟩
  | dict perm =>
      obtain ⟨members, results, rfl⟩ := toJsonValue_dict.mp converted
      obtain ⟨members', results', perm'⟩ := image_perm (perm.map _) results
      refine ⟨_, toJsonValue_dict.mpr ⟨members', results', rfl⟩, ?_⟩
      apply sortCodes_perm perm'
      rw [← memberResults_keys results]
      exact (isUnique_dict.mp distinct).1
  | set perm =>
      obtain ⟨items, pairs, results, keys, rfl⟩ := toJsonValue_set.mp converted
      obtain ⟨items', results', perm'⟩ := image_perm (perm.map _) results
      obtain ⟨pairs', keys', perm''⟩ := image_perm (perm'.map _) keys
      refine ⟨_, toJsonValue_set.mpr ⟨items', pairs', results', keys', rfl⟩, ?_⟩
      refine sortCodes_sorted_perm ?_ keys (perm''.map written)
      intro item member
      obtain ⟨source, origin, result⟩ := mem_of_results results member
      exact toJsonValue_readable (isUnique_set.mp distinct source origin) result
  | @member key a b front back _ ih =>
      obtain ⟨members, results, rfl⟩ := toJsonValue_dict.mp converted
      obtain ⟨first, member, last, rfl, mine, exchange⟩ := results_exchange results
      obtain ⟨key', result⟩ := memberResult_ok.mp mine
      have part := (isUnique_dict.mp distinct).2 (key, a) (by simp)
      obtain ⟨value', converted', equal⟩ := ih part result
      have results' := exchange (key, b) (member.1, value') (memberResult_ok.mpr ⟨key', converted'⟩)
      refine ⟨_, toJsonValue_dict.mpr ⟨_, results', rfl⟩, ?_⟩
      simp only [sortCodes_dict, List.map_append, List.map_cons, equal]
  | @field name a b front back _ ih =>
      obtain ⟨members, results, rfl⟩ := toJsonValue_dataclass.mp converted
      obtain ⟨first, member, last, rfl, mine, exchange⟩ := results_exchange results
      obtain ⟨name', result⟩ := fieldResult_ok.mp mine
      have part := (isUnique_dataclass.mp distinct).2 (name, a) (by simp)
      obtain ⟨value', converted', equal⟩ := ih part result
      have results' := exchange (name, b) (member.1, value') (fieldResult_ok.mpr ⟨name', converted'⟩)
      refine ⟨_, toJsonValue_dataclass.mpr ⟨_, results', rfl⟩, ?_⟩
      simp only [sortCodes_dict, List.map_append, List.map_cons, equal]
  | @item a b front back _ ih =>
      obtain ⟨items, results, rfl⟩ := toJsonValue_sequence.mp converted
      obtain ⟨first, item, last, rfl, mine, exchange⟩ := results_exchange results
      have part := isUnique_sequence.mp distinct a (by simp)
      obtain ⟨value', converted', equal⟩ := ih part mine
      refine ⟨_, toJsonValue_sequence.mpr ⟨_, exchange b value' converted', rfl⟩, ?_⟩
      simp only [sortCodes_list, List.map_append, List.map_cons, equal]
  | @element a b front back _ ih =>
      obtain ⟨items, pairs, results, keys, rfl⟩ := toJsonValue_set.mp converted
      have readable : ∀ item ∈ items, item.every isReadable = true := by
        intro item member
        obtain ⟨source, origin, result⟩ := mem_of_results results member
        exact toJsonValue_readable (isUnique_set.mp distinct source origin) result
      obtain ⟨first, item, last, rfl, mine, exchange⟩ := results_exchange results
      have part := isUnique_set.mp distinct a (by simp)
      obtain ⟨value', converted', equal⟩ := ih part mine
      obtain ⟨before, pair, after, rfl, key, exchange'⟩ := results_exchange keys
      obtain ⟨text, rendered, rfl⟩ := sortKeyed_ok.mp key
      have keys' := exchange' value' (utf8 text, value')
        (sortKeyed_ok.mpr ⟨text, equal ▸ rendered, rfl⟩)
      refine ⟨_, toJsonValue_set.mpr ⟨_, _, exchange b value' converted', keys', rfl⟩, ?_⟩
      refine sortCodes_sorted_perm readable keys ?_
      simp only [List.map_append, List.map_cons, written, equal]
      exact .refl _

end Refilled

/-- Objects that were filled in different orders have the same bytes or none. -/
theorem canonicalJsonBytes_refilled {a b : Object} {bytes : List UInt8} (same : Refilled a b)
    (unique : a.isUnique = true) (encoded : canonicalJsonBytes a = .ok bytes) :
    canonicalJsonBytes b = .ok bytes := by
  unfold canonicalJsonBytes at encoded ⊢
  obtain ⟨value, converted, rendered⟩ := bind_ok.mp encoded
  obtain ⟨value', converted', equal⟩ := same.written_alike unique converted
  rw [equal] at rendered
  exact bind_ok.mpr ⟨value', converted', rendered⟩

end CsdFoundry.Synthesis

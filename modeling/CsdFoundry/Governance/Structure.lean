import CsdFoundry.Governance.NormalForm

/-! Canonical bytes identify exactly the documents that differ by the declared permutations. -/
namespace CsdFoundry.Governance
open Admission Admission.Value Encoding Results

variable {schema value normal : Value}

theorem normalize_readable (unique : value.every hasUniqueKeys = true)
    (accepted : normalize value schema = .ok normal) : normal.every isReadable = true := by
  induction value using nested_induction generalizing schema normal with
  | null | bool | int | str =>
      cases accepted
      rfl
  | float => cases accepted
  | list items ih =>
      obtain ⟨items', kind, arranged, results, -, sorted, rfl⟩ := normalize_list.mp accepted
      refine every_list.mpr ⟨rfl, fun item member => ?_⟩
      have among : item ∈ items' := (arrange_perm_input sorted).mem_iff.mp member
      obtain ⟨source, origin, normalized⟩ := mem_of_results results among
      exact ih source origin ((every_list.mp unique).2 source origin) normalized
  | dict members ih =>
      obtain ⟨members', ordered, rfl⟩ := normalize_dict.mp accepted
      obtain ⟨distinct, inner⟩ := every_dict.mp unique
      refine every_dict.mpr ⟨?_, fun member among => ?_⟩
      · have nodup : (members.map (·.1)).Nodup := of_decide_eq_true distinct
        exact decide_eq_true ((keys_perm ordered).nodup_iff.mpr nodup)
      · have entered : settled member ∈ members.map (entry schema) :=
          (settled_perm ordered).mem_iff.mp (List.mem_map_of_mem among)
        obtain ⟨source, origin, same⟩ := List.mem_map.mp entered
        obtain ⟨-, inner', -, normalized⟩ := entry_eq_settled.mp same
        exact ih source origin (inner source origin) normalized

namespace Same
variable {a b : Value}

theorem symm (same : Same schema a b) : Same schema b a := by
  induction same with
  | refl => exact .refl
  | trans _ _ first second => exact .trans second first
  | keys perm => exact .keys perm.symm
  | order declared unordered perm => exact .order declared unordered perm.symm
  | member property _ ih => exact .member property ih
  | item _ ih => exact .item ih

theorem unique (same : Same schema a b) (distinct : a.every hasUniqueKeys = true) :
    b.every hasUniqueKeys = true := by
  induction same with
  | refl => exact distinct
  | trans _ _ first second => exact second (first distinct)
  | keys perm =>
      obtain ⟨nodup, inner⟩ := every_dict.mp distinct
      refine every_dict.mpr ⟨?_, fun member among => inner member (perm.mem_iff.mpr among)⟩
      exact decide_eq_true ((perm.map _).nodup_iff.mp (of_decide_eq_true nodup))
  | order _ _ perm =>
      obtain ⟨-, inner⟩ := every_list.mp distinct
      exact every_list.mpr ⟨rfl, fun item among => inner item (perm.mem_iff.mpr among)⟩
  | member _ _ ih =>
      obtain ⟨nodup, inner⟩ := every_dict.mp distinct
      refine every_dict.mpr ⟨?_, ?_⟩
      · simpa [hasUniqueKeys] using nodup
      · simp only [List.forall_mem_append, List.forall_mem_cons] at inner ⊢
        exact ⟨inner.1, ih inner.2.1, inner.2.2⟩
  | item _ ih =>
      obtain ⟨-, inner⟩ := every_list.mp distinct
      refine every_list.mpr ⟨rfl, ?_⟩
      simp only [List.forall_mem_append, List.forall_mem_cons] at inner ⊢
      exact ⟨inner.1, ih inner.2.1, inner.2.2⟩

/-- One permutation does not change the normal form. -/
theorem normalize (same : Same schema a b) (distinct : a.every hasUniqueKeys = true)
    (accepted : Governance.normalize a schema = .ok normal) :
    Governance.normalize b schema = .ok normal := by
  induction same generalizing normal with
  | refl => exact accepted
  | trans first _ ih ih' => exact ih' (first.unique distinct) (ih distinct accepted)
  | keys perm =>
      obtain ⟨members', ordered, rfl⟩ := normalize_dict.mp accepted
      refine normalize_dict.mpr ⟨members', ?_, rfl⟩
      rw [← ordered]
      symm
      apply orderedKeys_perm (perm.map _)
      rw [List.map_map]
      exact of_decide_eq_true (every_dict.mp distinct).1
  | @order schema kind items items' declared unordered perm =>
      obtain ⟨values, kind', arranged, results, declared', sorted, rfl⟩ :=
        normalize_list.mp accepted
      cases declared.symm.trans declared'
      obtain ⟨values', results', perm'⟩ := image_perm (perm.map _) results
      refine normalize_list.mpr ⟨values', kind, arranged, results', declared, ?_, rfl⟩
      apply arrange_perm unordered perm' _ sorted
      intro item among
      obtain ⟨source, origin, normalized⟩ := mem_of_results results among
      exact normalize_readable ((every_list.mp distinct).2 source origin) normalized
  | @member schema inner a b key front back property _ ih =>
      obtain ⟨members', ordered, rfl⟩ := normalize_dict.mp accepted
      refine normalize_dict.mpr ⟨members', ?_, rfl⟩
      have entered : entry schema (key, a) ∈ members'.map settled := by
        apply (settled_perm ordered).mem_iff.mpr
        exact List.mem_map_of_mem (by simp)
      obtain ⟨member, -, same⟩ := List.mem_map.mp entered
      obtain ⟨keys, inner', property', normalized⟩ := entry_eq_settled.mp same.symm
      cases property.symm.trans property'
      have mine := (every_dict.mp distinct).2 (key, a) (by simp)
      have other : entry schema (key, b) = entry schema (key, a) := by
        rw [← same]
        exact entry_eq_settled.mpr ⟨keys, inner, property, ih mine normalized⟩
      rw [← ordered, List.map_append, List.map_append, List.map_cons, List.map_cons, other]
  | @item schema a b front back _ ih =>
      obtain ⟨values, kind, arranged, results, declared, sorted, rfl⟩ := normalize_list.mp accepted
      refine normalize_list.mpr ⟨values, kind, arranged, ?_, declared, sorted, rfl⟩
      have entered : Governance.normalize a (itemSchema schema) ∈ values.map Except.ok := by
        rw [← results]
        exact List.mem_map_of_mem (by simp)
      obtain ⟨value, -, normalized⟩ := List.mem_map.mp entered
      have mine := (every_list.mp distinct).2 a (by simp)
      have other := ih mine normalized.symm
      rw [← results, List.map_append, List.map_append, List.map_cons, List.map_cons, other,
        normalized]

theorem list {items values : List Value}
    (results : items.map (fun item => Governance.normalize item (itemSchema schema)) = values.map .ok)
    (each : ∀ item ∈ items, ∀ value, Governance.normalize item (itemSchema schema) = .ok value →
      Same (itemSchema schema) item value) :
    ∀ front : List Value, Same schema (.list (front ++ items)) (.list (front ++ values)) := by
  induction items generalizing values with
  | nil =>
      cases values with
      | nil => exact fun front => .refl
      | cons value values => cases results
  | cons item items ih =>
      obtain ⟨value, rest, rfl, first, others⟩ := List.map_eq_cons_iff.mp results.symm
      obtain ⟨head, tail⟩ := List.forall_mem_cons.mp each
      intro front
      apply Same.trans (.item (head value first.symm))
      have later := ih others.symm tail (front ++ [value])
      simpa only [List.append_assoc, List.singleton_append] using later

theorem dict {members values : Dict} (results : members.map (entry schema) = values.map settled)
    (each : ∀ member ∈ members, ∀ inner value, Governance.normalize member.2 inner = .ok value →
      Same inner member.2 value) :
    ∀ front : Dict, Same schema (.dict (front ++ members)) (.dict (front ++ values)) := by
  induction members generalizing values with
  | nil =>
      cases values with
      | nil => exact fun front => .refl
      | cons value values => cases results
  | cons member members ih =>
      obtain ⟨value, rest, rfl, first, others⟩ := List.map_eq_cons_iff.mp results.symm
      obtain ⟨head, tail⟩ := List.forall_mem_cons.mp each
      obtain ⟨key, value⟩ := value
      obtain ⟨rfl, inner, property, normalized⟩ := entry_eq_settled.mp first.symm
      intro front
      apply Same.trans (.member property (head inner value normalized))
      have later := ih others.symm tail (front ++ [(member.1, value)])
      simpa only [List.append_assoc, List.singleton_append] using later

end Same

/-- A value and its normal form differ by the declared permutations. -/
theorem same_normal (accepted : normalize value schema = .ok normal) : Same schema value normal := by
  induction value using nested_induction generalizing schema normal with
  | null | bool | int | str =>
      cases accepted
      exact .refl
  | float => cases accepted
  | list items ih =>
      obtain ⟨values, kind, arranged, results, declared, sorted, rfl⟩ := normalize_list.mp accepted
      have inside : Same schema (.list items) (.list values) :=
        Same.list results (fun item member value normalized => ih item member normalized) []
      by_cases ordered : kind = .orderedSequence
      · subst ordered
        cases sorted
        exact inside
      · exact inside.trans (.order declared ordered (arrange_perm_input sorted).symm)
  | dict members ih =>
      obtain ⟨members', ordered, rfl⟩ := normalize_dict.mp accepted
      obtain ⟨values, results, perm⟩ := image_perm (settled_perm ordered) rfl
      have inside : Same schema (.dict members) (.dict values) :=
        Same.dict results (fun member among inner value normalized => ih member among normalized) []
      exact inside.trans (.keys perm.symm)

/-- The normal forms of accepted values are equal exactly when the values differ by the
declared permutations. -/
theorem normalize_eq_iff {a b normal' : Value} (distinct : a.every hasUniqueKeys = true)
    (accepted : normalize a schema = .ok normal) (accepted' : normalize b schema = .ok normal') :
    normal = normal' ↔ Same schema a b := by
  constructor
  · rintro rfl
    exact (same_normal accepted).trans (same_normal accepted').symm
  · intro same
    exact Except.ok.inj ((same.normalize distinct accepted).symm.trans accepted')

theorem normalize_idempotent (distinct : value.every hasUniqueKeys = true)
    (accepted : normalize value schema = .ok normal) : normalize normal schema = .ok normal :=
  (same_normal accepted).normalize distinct accepted

section Sets
variable {outer inner : Value} {items : List Value}

/-- Whatever stands within an accepted value is accepted. -/
theorem Within.accepted (within : Within schema value outer inner)
    (distinct : value.every hasUniqueKeys = true) (whole : normalize value schema = .ok normal) :
    inner.every hasUniqueKeys = true ∧ ∃ normal', normalize inner outer = .ok normal' := by
  induction within with
  | whole => exact ⟨distinct, normal, whole⟩
  | @member outer inner members member _ among property ih =>
      obtain ⟨unique, normal', accepted⟩ := ih
      obtain ⟨members', ordered, rfl⟩ := normalize_dict.mp accepted
      have entered : entry outer member ∈ members'.map settled :=
        (settled_perm ordered).mem_iff.mpr (List.mem_map_of_mem among)
      obtain ⟨member', -, same⟩ := List.mem_map.mp entered
      obtain ⟨-, inner', property', normalized⟩ := entry_eq_settled.mp same.symm
      cases property.symm.trans property'
      exact ⟨(every_dict.mp unique).2 member among, _, normalized⟩
  | @item outer item items _ among ih =>
      obtain ⟨unique, normal', accepted⟩ := ih
      obtain ⟨values, kind, arranged, results, -, -, rfl⟩ := normalize_list.mp accepted
      have entered : normalize item (itemSchema outer) ∈ values.map Except.ok := by
        rw [← results]
        exact List.mem_map_of_mem among
      obtain ⟨value', -, normalized⟩ := List.mem_map.mp entered
      exact ⟨(every_list.mp unique).2 item among, value', normalized.symm⟩

/-- Neighbours differ in a list in ascending order, so all members do. -/
theorem nodup_of_sorted {keys : List (List UInt8)} (sorted : keys.Pairwise (· ≤ ·))
    (neighbours : keys.IsChain (· ≠ ·)) : keys.Nodup := by
  induction keys with
  | nil => exact .nil
  | cons key keys ih =>
      obtain ⟨below, rest⟩ := List.pairwise_cons.mp sorted
      cases keys with
      | nil => exact List.nodup_singleton key
      | cons next keys =>
          obtain ⟨apart, chain⟩ := List.isChain_cons_cons.mp neighbours
          refine List.nodup_cons.mpr ⟨?_, ih rest chain⟩
          have first : key < next := lt_of_le_of_ne (below next List.mem_cons_self) apart
          intro among
          rcases List.mem_cons.mp among with same | later
          · exact apart same
          · exact absurd ((List.pairwise_cons.mp rest).1 key later) (not_le.mpr first)

theorem nodup_of_keys {items : List Value} {pairs : List (List UInt8 × Value)}
    (results : items.map keyed = pairs.map .ok) (distinct : (pairs.map (·.1)).Nodup) :
    items.Nodup := by
  have images : (items.map keyed).Nodup := by
    rw [results]
    exact (List.Nodup.of_map _ distinct).map fun _ _ equal => Except.ok.inj equal
  exact List.Nodup.of_map _ images

/-- The members of an accepted set are pairwise different. -/
theorem set_members (distinct : (Value.list items).every hasUniqueKeys = true)
    (set : collectionKind schema = .ok .set)
    (accepted : normalize (.list items) schema = .ok normal) :
    items.Pairwise fun a b => ¬ Same (itemSchema schema) a b := by
  obtain ⟨values, kind, arranged, results, declared, sorted, rfl⟩ := normalize_list.mp accepted
  cases set.symm.trans declared
  obtain ⟨pairs, keys, chain, -⟩ := (arrange_eq_ok (by decide)).mp sorted
  have nodup : (pairs.map (·.1)).Nodup := by
    have ascending : ((pairs.insertionSort BytesLe).map (·.1)).Pairwise (· ≤ ·) :=
      List.pairwise_map.mpr (List.pairwise_insertionSort BytesLe pairs)
    have all := nodup_of_sorted ascending (chain rfl)
    exact (((List.perm_insertionSort BytesLe pairs).map (·.1)).nodup_iff).mp all
  have separate : values.Nodup := nodup_of_keys keys nodup
  have images : (items.map fun item => normalize item (itemSchema schema)).Nodup := by
    rw [results]
    exact separate.map fun _ _ equal => Except.ok.inj equal
  refine (List.pairwise_map.mp images).imp_of_mem ?_
  intro a b first _ apart same
  have entered : normalize a (itemSchema schema) ∈ values.map Except.ok := by
    rw [← results]
    exact List.mem_map_of_mem first
  obtain ⟨value, -, normalized⟩ := List.mem_map.mp entered
  apply apart
  rw [← normalized, same.normalize ((every_list.mp distinct).2 a first) normalized.symm]

end Sets

theorem canonicalBytes_eq_ok {bytes : List UInt8} (accepted : canonicalBytes value schema = .ok bytes) :
    ∃ normal text, normalize value schema = .ok normal ∧ normal.dumps = some text ∧
      bytes = utf8 (text ++ ['\n']) := by
  unfold canonicalBytes at accepted
  split at accepted
  · obtain ⟨normal, normalized, accepted⟩ := bind_ok.mp accepted
    split_ifs at accepted
    split at accepted
    · rename_i text rendered
      cases accepted
      exact ⟨normal, text, normalized, rendered, rfl⟩
    · cases accepted
  · cases accepted

theorem canonicalBytes_congr {a b : Value} (same : normalize a schema = normalize b schema) :
    canonicalBytes a schema = canonicalBytes b schema := by
  unfold canonicalBytes
  rw [same]

/-- Canonical bytes are those of one document up to the declared permutations; they are read
back to a document with the same bytes; and a set in which two members differ by the declared
permutations only is rejected, at any depth. -/
theorem canonicalBytes_exact (schema : Value) (a b : Document) :
    (∀ bytes bytes', canonicalBytes a.value schema = .ok bytes →
      canonicalBytes b.value schema = .ok bytes' → (bytes = bytes' ↔ Same schema a.value b.value)) ∧
    (∀ bytes, canonicalBytes a.value schema = .ok bytes →
      ∃ parsed, loadsUtf8 bytes = .ok parsed ∧ canonicalBytes parsed schema = .ok bytes) ∧
    ∀ outer x y front middle back,
      Within schema a.value outer (.list (front ++ x :: (middle ++ y :: back))) →
      collectionKind outer = .ok .set → Same (itemSchema outer) x y →
      ∃ failure, canonicalBytes a.value schema = .error failure := by
  refine ⟨?_, ?_, ?_⟩
  · intro bytes bytes' accepted accepted'
    obtain ⟨normal, text, normalized, rendered, rfl⟩ := canonicalBytes_eq_ok accepted
    obtain ⟨normal', text', normalized', rendered', rfl⟩ := canonicalBytes_eq_ok accepted'
    rw [utf8_injective.eq_iff, List.append_left_inj,
      ← normalize_eq_iff a.unique normalized normalized']
    constructor
    · rintro rfl
      exact dumps_injective rendered rendered' (normalize_readable a.unique normalized)
        (normalize_readable b.unique normalized')
    · rintro rfl
      exact Option.some.inj (rendered.symm.trans rendered')
  · intro bytes accepted
    obtain ⟨normal, text, normalized, rendered, rfl⟩ := canonicalBytes_eq_ok accepted
    refine ⟨normal, loadsUtf8_line rendered (normalize_readable a.unique normalized), ?_⟩
    rw [← accepted]
    apply canonicalBytes_congr
    rw [normalized, normalize_idempotent a.unique normalized]
  · intro outer x y front middle back within set same
    cases result : canonicalBytes a.value schema with
    | error failure => exact ⟨failure, rfl⟩
    | ok bytes =>
        obtain ⟨normal, text, normalized, -, -⟩ := canonicalBytes_eq_ok result
        obtain ⟨unique, normal', accepted⟩ := within.accepted a.unique normalized
        have apart := set_members unique set accepted
        rw [List.pairwise_append] at apart
        have first := (List.pairwise_cons.mp apart.2.1).1
        exact absurd same (first y (by simp))

/-- A schema that declares the tags of a document a set. -/
def tagSchema : Value :=
  .dict [(.text "properties", .dict [(.text "tags",
    .dict [(.text "x-csd-collection-kind", .str (.text "SET"))])])]

def tagged (front : Dict) (tags : List String) (back : Dict) : Value :=
  .dict (front ++ (.text "tags", .list (tags.map fun tag => .str (.text tag))) :: back)

def owner : PyStr × Value := (.text "owner", .null)

theorem canonicalBytes_exact_tags :
    (∃ bytes, canonicalBytes (tagged [owner] ["b", "a"] []) tagSchema = .ok bytes ∧
      canonicalBytes (tagged [] ["a", "b"] [owner]) tagSchema = .ok bytes ∧
      bytes = utf8 "\x7b\"owner\":null,\"tags\":[\"a\",\"b\"]\x7d\n".toList) ∧
    Same tagSchema (tagged [owner] ["b", "a"] []) (tagged [] ["a", "b"] [owner]) ∧
    ∃ failure, canonicalBytes (tagged [] ["a", "a"] []) tagSchema = .error failure := by
  have same := canonicalBytes_exact tagSchema ⟨tagged [owner] ["b", "a"] [], rfl⟩
    ⟨tagged [] ["a", "b"] [owner], rfl⟩
  have rejected := canonicalBytes_exact tagSchema ⟨tagged [] ["a", "a"] [], rfl⟩
    ⟨tagged [] ["a", "a"] [], rfl⟩
  refine ⟨⟨_, rfl, rfl, by decide +kernel⟩, (same.1 _ _ rfl rfl).mp rfl, ?_⟩
  exact rejected.2.2 _ (.str (.text "a")) (.str (.text "a")) [] [] []
    (.member .whole List.mem_cons_self rfl) rfl .refl

end CsdFoundry.Governance

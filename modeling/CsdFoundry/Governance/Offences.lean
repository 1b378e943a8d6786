import CsdFoundry.Governance.Rejection
import Mathlib.Data.Set.List

/-! What the normaliser rejects, said of the value and its schema alone: the places that offend, and,
where the stack is too small, whether one of them is reached in time. -/
namespace CsdFoundry.Governance
open Admission Admission.Value Encoding Results

/-- The value itself offends: it is a float; a key cannot be sorted; a list has no kind; a member of
a collection cannot be sorted; or two members of a set differ by the declared permutations only. -/
inductive Offends (schema : Value) : Value → Prop where
  | float {repr : Option String} : Offends schema (.float repr)
  | key {members : Dict} {member : PyStr × Value} : member ∈ members → member.1 ≠ schemaVersion →
      isText member.1 = false → Offends schema (.dict members)
  | kind {items : List Value} : (∀ kind, collectionKind schema ≠ .ok kind) →
      Offends schema (.list items)
  | member {kind : CollectionKind} {items : List Value} {item : Value} :
      collectionKind schema = .ok kind → kind ≠ .orderedSequence → item ∈ items →
      item.every isEncodable = false → Offends schema (.list items)
  | twins {items : List Value} : collectionKind schema = .ok .set →
      ¬ (items.Pairwise fun a b => ¬ Same (itemSchema schema) a b) → Offends schema (.list items)

/-- The value offends, or something within it does under its own schema. -/
inductive Offence : Value → Value → Prop where
  | here {schema value : Value} : Offends schema value → Offence schema value
  | member {schema inner : Value} {members : Dict} {member : PyStr × Value} : member ∈ members →
      propertySchema schema member.1 = .ok inner → Offence inner member.2 →
      Offence schema (.dict members)
  | item {schema item : Value} {items : List Value} : item ∈ items →
      Offence (itemSchema schema) item → Offence schema (.list items)

section Offence
variable {schema value normal : Value} {members : Dict} {items : List Value}

theorem offence_list : Offence schema (.list items) ↔
    (∃ item ∈ items, Offence (itemSchema schema) item) ∨ Offends schema (.list items) := by
  constructor
  · rintro (here | _ | ⟨among, offence⟩)
    · exact .inr here
    · exact .inl ⟨_, among, offence⟩
  · rintro (⟨item, among, offence⟩ | here)
    · exact .item among offence
    · exact .here here

theorem offence_dict : Offence schema (.dict members) ↔
    (∃ member ∈ members, ∃ inner, propertySchema schema member.1 = .ok inner ∧
      Offence inner member.2) ∨ Offends schema (.dict members) := by
  constructor
  · rintro (here | ⟨among, property, offence⟩ | _)
    · exact .inr here
    · exact .inl ⟨_, among, _, property, offence⟩
  · rintro (⟨member, among, inner, property, offence⟩ | here)
    · exact .member among property offence
    · exact .here here

/-- Results that are all there are the image of a list of values. -/
theorem results_of_each {α β ε : Type} {f : α → Except ε β} {inputs : List α}
    (each : ∀ input ∈ inputs, ∃ value, f input = .ok value) :
    ∃ values : List β, inputs.map f = values.map .ok := by
  have images : inputs.map f ∈ Set.range (List.map (Except.ok : β → Except ε β)) := by
    rw [Set.range_list_map]
    intro result among
    obtain ⟨input, origin, rfl⟩ := List.mem_map.mp among
    obtain ⟨value, found⟩ := each input origin
    exact ⟨value, found.symm⟩
  obtain ⟨values, same⟩ := images
  exact ⟨values, same.symm⟩

theorem value_of_results {α β ε : Type} {f : α → Except ε β} {inputs : List α} {values : List β}
    (results : inputs.map f = values.map .ok) :
    ∀ input ∈ inputs, ∃ value ∈ values, f input = .ok value := by
  intro input among
  have entered : f input ∈ values.map Except.ok := by
    rw [← results]
    exact List.mem_map_of_mem among
  obtain ⟨value, member, same⟩ := List.mem_map.mp entered
  exact ⟨value, member, same.symm⟩

theorem each_of_results {α β ε : Type} {f : α → Except ε β} {inputs : List α} {values : List β}
    (results : inputs.map f = values.map .ok) : ∀ input ∈ inputs, ∃ value, f input = .ok value :=
  fun input among => (value_of_results results input among).imp fun _ found => found.2

theorem map_accepts {α β ε : Type} {result : Except ε α} {f : α → β} :
    (∃ b, result.map f = .ok b) ↔ ∃ a, result = .ok a := by
  cases result <;> simp [Except.map]

/-- Members of a set that are not `Same` have different encodings. -/
theorem keys_nodup {values : List Value} {pairs : List (List UInt8 × Value)}
    (unique : ∀ item ∈ items, item.every hasUniqueKeys = true)
    (results : items.map (fun item => normalize item (itemSchema schema)) = values.map .ok)
    (encoded : values.map keyed = pairs.map .ok)
    (apart : items.Pairwise fun a b => ¬ Same (itemSchema schema) a b) :
    (pairs.map (·.1)).Nodup := by
  have combined : items.map (fun item => (normalize item (itemSchema schema)).bind keyed) =
      pairs.map .ok := by
    rw [← encoded]
    have images := congrArg (List.map fun result => Except.bind result keyed) results
    rwa [List.map_map, List.map_map] at images
  have different : (pairs.map (Except.ok (ε := Failure))).Pairwise
      fun result result' => result.map (·.1) ≠ result'.map (·.1) := by
    rw [← combined, List.pairwise_map]
    refine apart.imp_of_mem fun {a b} first second apart same => apart ?_
    obtain ⟨pair, found⟩ := each_of_results combined a first
    obtain ⟨pair', found'⟩ := each_of_results combined b second
    rw [found, found'] at same
    obtain ⟨normal, normalized, key⟩ := bind_ok.mp found
    obtain ⟨normal', normalized', key'⟩ := bind_ok.mp found'
    obtain ⟨text, rendered, rfl⟩ := keyed_eq_ok.mp key
    obtain ⟨text', rendered', rfl⟩ := keyed_eq_ok.mp key'
    obtain rfl : text = text' := utf8_injective (Except.ok.inj same)
    rw [← normalize_eq_iff (unique a first) normalized normalized']
    exact dumps_injective rendered rendered' (normalize_readable (unique a first) normalized)
      (normalize_readable (unique b second) normalized')
  rw [List.Nodup, List.pairwise_map]
  refine (List.pairwise_map.mp different).imp fun apart same => apart ?_
  exact congrArg Except.ok same

/-- The members of a list whose members are accepted are arranged unless the list offends. -/
theorem arrange_accepts {kind : CollectionKind} {values : List Value}
    (unique : ∀ item ∈ items, item.every hasUniqueKeys = true)
    (results : items.map (fun item => normalize item (itemSchema schema)) = values.map .ok)
    (declared : collectionKind schema = .ok kind) (sound : ¬ Offends schema (.list items)) :
    ∃ arranged, arrange kind values = .ok arranged := by
  by_cases ordered : kind = .orderedSequence
  · subst ordered
    exact ⟨values, rfl⟩
  have each : ∀ value ∈ values, ∃ pair, keyed value = .ok pair := by
    intro value among
    obtain ⟨item, origin, normalized⟩ := mem_of_results results among
    have encodable : item.every isEncodable = true := by
      by_contra unencodable
      exact sound (.member declared ordered origin (Bool.not_eq_true _ ▸ unencodable))
    rw [← normal_encodable normalized] at encodable
    obtain ⟨text, rendered⟩ := Option.isSome_iff_exists.mp encodable
    exact ⟨_, keyed_eq_ok.mpr ⟨text, rendered, rfl⟩⟩
  obtain ⟨pairs, encoded⟩ := results_of_each each
  refine ⟨_, (arrange_eq_ok ordered).mpr ⟨pairs, encoded, fun set => ?_, rfl⟩⟩
  subst set
  have nodup : (pairs.map (·.1)).Nodup := by
    apply keys_nodup unique results encoded
    by_contra twins
    exact sound (.twins declared twins)
  exact ((((List.perm_insertionSort BytesLe pairs).map (·.1)).nodup_iff).mpr nodup).isChain

theorem list_accepts (distinct : (Value.list items).every hasUniqueKeys = true) :
    (∃ normal, normalize (.list items) schema = .ok normal) ↔
      (∀ item ∈ items, ∃ normal, normalize item (itemSchema schema) = .ok normal) ∧
        ¬ Offends schema (.list items) := by
  constructor
  · rintro ⟨normal, accepted⟩
    obtain ⟨values, kind, arranged, results, declared, sorted, rfl⟩ := normalize_list.mp accepted
    refine ⟨each_of_results results, fun offends => ?_⟩
    cases offends with
    | kind undeclared => exact undeclared kind declared
    | @member kind' _ item declared' unordered among unencodable =>
        cases declared.symm.trans declared'
        obtain ⟨pairs, encoded, -⟩ := (arrange_eq_ok unordered).mp sorted
        obtain ⟨normal, entered, normalized⟩ := value_of_results results item among
        obtain ⟨pair, -, found⟩ := value_of_results encoded normal entered
        obtain ⟨text, rendered, -⟩ := keyed_eq_ok.mp found
        rw [← normal_encodable normalized, rendered] at unencodable
        cases unencodable
    | twins set twins => exact twins (set_members distinct set accepted)
  · rintro ⟨each, sound⟩
    obtain ⟨values, results⟩ := results_of_each each
    have declares : ∃ kind, collectionKind schema = .ok kind := by
      by_contra undeclared
      exact sound (.kind (not_exists.mp undeclared))
    obtain ⟨kind, declared⟩ := declares
    obtain ⟨arranged, sorted⟩ := arrange_accepts (every_list.mp distinct).2 results declared sound
    exact ⟨_, normalize_list.mpr ⟨values, kind, arranged, results, declared, sorted, rfl⟩⟩

theorem keyOrder_accepts :
    (∃ sorted, keyOrder members = .ok sorted) ↔ ¬ Offends schema (.dict members) := by
  have texts : ((members.map fun member => (member.1, member)).filter
      fun member => member.1 ≠ schemaVersion).all (fun member => isText member.1) = true ↔
        ¬ Offends schema (.dict members) := by
    rw [List.all_eq_true]
    constructor
    · intro texts offends
      cases offends with
      | @key _ member among named lone =>
          have text := texts (member.1, member)
            (List.mem_filter.mpr ⟨List.mem_map_of_mem among, decide_eq_true named⟩)
          rw [lone] at text
          cases text
    · intro sound entry listed
      obtain ⟨listed, named⟩ := List.mem_filter.mp listed
      obtain ⟨member, among, rfl⟩ := List.mem_map.mp listed
      by_contra lone
      exact sound (.key among (of_decide_eq_true named) (Bool.not_eq_true _ ▸ lone))
  rw [← texts]
  unfold keyOrder orderedKeys
  dsimp only
  split_ifs with accepted
  · exact iff_of_true ⟨_, rfl⟩ accepted
  · refine iff_of_false ?_ accepted
    rintro ⟨sorted, ordered⟩
    cases ordered

theorem dict_accepts : (∃ normal, normalize (.dict members) schema = .ok normal) ↔
    (∀ member ∈ members, ∃ inner, propertySchema schema member.1 = .ok inner ∧
      ∃ normal, normalize member.2 inner = .ok normal) ∧ ¬ Offends schema (.dict members) := by
  have own (member : PyStr × Value) (key : PyStr) :
      (∃ result, ((entry schema member).2.map fun value => (key, value)) = .ok result) ↔
        ∃ inner, propertySchema schema member.1 = .ok inner ∧
          ∃ normal, normalize member.2 inner = .ok normal := by
    rw [map_accepts]
    constructor
    · rintro ⟨normal, accepted⟩
      obtain ⟨inner, property, normalized⟩ := bind_ok.mp accepted
      exact ⟨inner, property, normal, normalized⟩
    · rintro ⟨inner, property, normal, normalized⟩
      exact ⟨normal, bind_ok.mpr ⟨inner, property, normalized⟩⟩
  rw [← keyOrder_accepts, normalize_keyOrder]
  constructor
  · rintro ⟨normal, accepted⟩
    obtain ⟨sorted, ordered, accepted⟩ := bind_ok.mp accepted
    obtain ⟨values, collected, -⟩ := bind_ok.mp accepted
    refine ⟨fun member among => ?_, sorted, ordered⟩
    obtain ⟨place, listed, rfl⟩ := (mem_keyOrder ordered).mp among
    exact (own place.2 place.1).mp (each_of_results (collect_eq_ok.mp collected) place listed)
  · rintro ⟨each, sorted, ordered⟩
    have images : ∀ place ∈ sorted, ∃ result,
        ((entry schema place.2).2.map fun value => (place.1, value)) = .ok result :=
      fun place listed => (own place.2 place.1).mpr
        (each place.2 ((mem_keyOrder ordered).mpr ⟨place, listed, rfl⟩))
    obtain ⟨values, results⟩ := results_of_each images
    exact ⟨_, bind_ok.mpr ⟨sorted, ordered, bind_ok.mpr ⟨values, collect_eq_ok.mpr results, rfl⟩⟩⟩

/-- A value is normalised exactly where neither it nor anything within it offends. -/
theorem normalize_accepts (wellFormed : WellFormed schema)
    (distinct : value.every hasUniqueKeys = true) :
    (∃ normal, normalize value schema = .ok normal) ↔ ¬ Offence schema value := by
  induction value using nested_induction generalizing schema with
  | null | bool | int | str =>
      refine iff_of_true ⟨_, rfl⟩ fun offence => ?_
      cases offence with
      | here offends => cases offends
  | float repr =>
      refine iff_of_false ?_ fun sound => sound (.here .float)
      rintro ⟨normal, accepted⟩
      cases accepted
  | list items ih =>
      rw [list_accepts distinct, offence_list, not_or]
      refine and_congr_left fun _ => ?_
      rw [not_exists]
      refine forall_congr' fun item => ?_
      rw [not_and]
      exact forall_congr' fun among => ih item among wellFormed.item ((every_list.mp distinct).2 item among)
  | dict members ih =>
      rw [dict_accepts, offence_dict, not_or]
      refine and_congr_left fun _ => ?_
      rw [not_exists]
      refine forall_congr' fun member => ?_
      rw [not_and]
      refine forall_congr' fun among => ?_
      obtain ⟨inner, property, formed⟩ := wellFormed.property member.1
      have mine := ih member among formed ((every_dict.mp distinct).2 member among)
      rw [property]
      simpa using mine

end Offence
end CsdFoundry.Governance

import CsdFoundry.Governance.Nesting
import CsdFoundry.Governance.Structure

/-! What the normaliser rejects under a well-formed schema it rejects with a
`GovernanceContractError`, and what it lets pass can be rendered unless a string or an integer in
it cannot. -/
namespace CsdFoundry.Governance
open Admission Admission.Value Encoding Results

/-- A schema whose declarations are what they should be, as those of the contracts are. -/
inductive WellFormed : Value → Prop where
  | dict {members : Dict} :
      (∀ declared, members.lookup (.text "properties") = some declared →
        ∃ properties, declared = .dict properties) →
      (∀ properties key inner, members.lookup (.text "properties") = some (.dict properties) →
        properties.lookup key = some inner → WellFormed inner) →
      (∀ inner, members.lookup (.text "items") = some inner → WellFormed inner) →
      (∀ kind, members.lookup (.text "x-csd-collection-kind") = some kind → ∃ name, kind = .str name) →
      WellFormed (.dict members)

namespace WellFormed
variable {schema : Value}

theorem empty : WellFormed (.dict []) :=
  .dict (fun _ found => (by cases found)) (fun _ _ _ found => (by cases found))
    (fun _ found => (by cases found)) fun _ found => (by cases found)

theorem property (wellFormed : WellFormed schema) (key : PyStr) :
    ∃ inner, propertySchema schema key = .ok inner ∧ WellFormed inner := by
  cases wellFormed with
  | @dict members declares properties items kind =>
      cases found : members.lookup (.text "properties") with
      | none =>
          refine ⟨.dict [], ?_, .empty⟩
          simp [propertySchema, declared, found]
      | some declaration =>
          obtain ⟨inners, rfl⟩ := declares declaration found
          cases own : inners.lookup key with
          | none =>
              refine ⟨.dict [], ?_, .empty⟩
              simp [propertySchema, declared, found, own]
          | some inner =>
              refine ⟨inner, ?_, properties inners key inner found own⟩
              simp [propertySchema, declared, found, own]

theorem of_property {inner : Value} {key : PyStr} (wellFormed : WellFormed schema)
    (property : propertySchema schema key = .ok inner) : WellFormed inner := by
  obtain ⟨inner', property', formed⟩ := wellFormed.property key
  cases property.symm.trans property'
  exact formed

theorem item (wellFormed : WellFormed schema) : WellFormed (itemSchema schema) := by
  cases wellFormed with
  | @dict members declares properties items kind =>
      unfold itemSchema declared
      dsimp only
      cases found : members.lookup (.text "items") with
      | none => exact .empty
      | some inner => exact items inner found

theorem kind_contract (wellFormed : WellFormed schema) {failure : Failure}
    (rejected : collectionKind schema = .error failure) : ∃ code, failure = .contract code := by
  cases wellFormed with
  | @dict members declares properties items kind =>
      cases found : members.lookup (.text "x-csd-collection-kind") with
      | none =>
          simp [collectionKind, declared, found] at rejected
      | some declaration =>
          obtain ⟨name, rfl⟩ := kind declaration found
          simp only [collectionKind, declared, found] at rejected
          cases name with
          | text name =>
              dsimp only at rejected
              split_ifs at rejected
              cases rejected
              exact ⟨_, rfl⟩
          | lone name =>
              cases rejected
              exact ⟨_, rfl⟩

end WellFormed

section Rejection
variable {schema value normal : Value} {failure : Failure}

theorem arrange_contract {kind : CollectionKind} {items : List Value}
    (rejected : arrange kind items = .error failure) : ∃ code, failure = .contract code := by
  have untexted : ∀ item, keyed item = .error failure → ∃ code, failure = .contract code := by
    intro item rejected
    unfold keyed at rejected
    cases rendered : item.dumps with
    | none =>
        rw [rendered] at rejected
        cases rejected
        exact ⟨_, rfl⟩
    | some text =>
        rw [rendered] at rejected
        cases rejected
  have unordered : ∀ pairs : List (List UInt8 × Value), (if kind = .set ∧
      ¬ ((pairs.insertionSort BytesLe).map (·.1)).IsChain (· ≠ ·) then
        (.error (.contract "DUPLICATE_SET_MEMBER") : Except Failure (List Value))
      else .ok ((pairs.insertionSort BytesLe).map (·.2))) = .error failure →
        ∃ code, failure = .contract code := by
    intro pairs rejected
    split_ifs at rejected
    cases rejected
    exact ⟨_, rfl⟩
  cases kind with
  | orderedSequence => cases rejected
  | set | multiset =>
      rcases bind_failed rejected with keys | ⟨pairs, -, rejected⟩
      · obtain ⟨item, -, rejected⟩ := List.mem_map.mp (collect_error keys)
        exact untexted item rejected
      · exact unordered pairs rejected

/-- The normaliser rejects with a `GovernanceContractError` alone. -/
theorem normalize_contract (wellFormed : WellFormed schema)
    (rejected : normalize value schema = .error failure) : ∃ code, failure = .contract code := by
  induction value using nested_induction generalizing schema with
  | null | bool | int | str => cases rejected
  | float =>
      cases rejected
      exact ⟨_, rfl⟩
  | list items ih =>
      rw [normalize, normalizeItems_eq] at rejected
      rcases bind_failed rejected with inside | ⟨normals, -, rejected⟩
      · obtain ⟨item, member, rejected⟩ := List.mem_map.mp (collect_error inside)
        exact ih item member wellFormed.item rejected
      rcases bind_failed rejected with kinds | ⟨kind, -, rejected⟩
      · exact wellFormed.kind_contract kinds
      rcases bind_failed rejected with arranging | ⟨arranged, -, rejected⟩
      · exact arrange_contract arranging
      · cases rejected
  | dict members ih =>
      rw [normalize_keyOrder] at rejected
      rcases bind_failed rejected with keys | ⟨sorted, ordered, rejected⟩
      · unfold keyOrder orderedKeys at keys
        dsimp only at keys
        split_ifs at keys
        cases keys
        exact ⟨_, rfl⟩
      rcases bind_failed rejected with inside | ⟨values, -, rejected⟩
      · obtain ⟨place, listed, rejected⟩ := List.mem_map.mp (collect_error inside)
        have member := (mem_keyOrder ordered).mpr ⟨place, listed, rfl⟩
        obtain ⟨inner, property, wellFormed⟩ := wellFormed.property place.2.1
        have own : (entry schema place.2).2 = normalize place.2.2 inner := by
          rw [entry, property]
          rfl
        rw [own] at rejected
        cases result : normalize place.2.2 inner with
        | error other =>
            rw [result] at rejected
            cases rejected
            exact ih place.2 member wellFormed result
        | ok normal =>
            rw [result] at rejected
            cases rejected
      · cases rejected

end Rejection

section Rendering
variable {schema value normal : Value}

/-- What the normaliser lets pass at a place: no float, and the keys of a dict in UTF-8. -/
def isPlain : Value → Bool
  | .float _ => false
  | value => hasTextKeys value

/-- A string in UTF-8. -/
def isWritten : Value → Bool
  | .str value => isText value
  | _ => true

/-- Keys that are sorted are in UTF-8. -/
theorem orderedKeys_text {α : Type} {members ordered : List (PyStr × α)}
    (accepted : orderedKeys members = .ok ordered) : ∀ member ∈ ordered, isText member.1 = true := by
  intro member among
  have source := (orderedKeys_perm_input accepted).mem_iff.mp among
  unfold orderedKeys at accepted
  dsimp only at accepted
  split_ifs at accepted with texts
  by_cases versioned : member.1 = schemaVersion
  · rw [versioned]
    rfl
  · apply List.all_eq_true.mp texts
    exact List.mem_filter.mpr ⟨source, decide_eq_true versioned⟩

theorem normalize_plain (accepted : normalize value schema = .ok normal) :
    normal.every isPlain = true := by
  induction value using nested_induction generalizing schema normal with
  | null | bool | int | str =>
      cases accepted
      rfl
  | float => cases accepted
  | list items ih =>
      obtain ⟨items', kind, arranged, results, -, sorted, rfl⟩ := normalize_list.mp accepted
      refine every_list.mpr ⟨rfl, fun item member => ?_⟩
      have among : item ∈ items' := (arrange_perm_input sorted).mem_iff.mp member
      obtain ⟨source, origin, normalized⟩ := mem_of_results results among
      exact ih source origin normalized
  | dict members ih =>
      obtain ⟨members', ordered, rfl⟩ := normalize_dict.mp accepted
      refine every_dict.mpr ⟨?_, fun member among => ?_⟩
      · have texts := orderedKeys_text ordered
        refine List.all_eq_true.mpr fun member among => ?_
        have own := texts (settled member) (List.mem_map_of_mem among)
        exact own
      · have entered : settled member ∈ members.map (entry schema) :=
          (settled_perm ordered).mem_iff.mp (List.mem_map_of_mem among)
        obtain ⟨source, origin, same⟩ := List.mem_map.mp entered
        obtain ⟨-, inner', -, normalized⟩ := entry_eq_settled.mp same
        exact ih source origin normalized

/-- One permutation moves what stands at the places, and nothing else. -/
theorem Same.every_iff {p : Value → Bool} {a b : Value}
    (dicts : ∀ members members' : Dict, p (.dict members) = p (.dict members'))
    (lists : ∀ items items' : List Value, p (.list items) = p (.list items')) (same : Same schema a b) :
    a.every p = true ↔ b.every p = true := by
  induction same with
  | refl => exact Iff.rfl
  | trans _ _ first second => exact first.trans second
  | keys perm =>
      rw [every_dict, every_dict, dicts]
      exact and_congr_right fun _ => forall_congr' fun member => by rw [perm.mem_iff]
  | order _ _ perm =>
      rw [every_list, every_list, lists]
      exact and_congr_right fun _ => forall_congr' fun item => by rw [perm.mem_iff]
  | @member schema inner a b key front back _ _ ih =>
      rw [every_dict, every_dict, dicts _ (front ++ (key, b) :: back)]
      simp only [List.forall_mem_append, List.forall_mem_cons, ih]
  | @item schema a b front back _ ih =>
      rw [every_list, every_list, lists _ (front ++ b :: back)]
      simp only [List.forall_mem_append, List.forall_mem_cons, ih]

/-- What can be rendered and encoded: strings in UTF-8 and integers short enough. -/
def isEncodable (value : Value) : Bool := hasDigits value && isWritten value

/-- A normal form is rendered unless a string or an integer of the value cannot be. -/
theorem normal_encodable (accepted : normalize value schema = .ok normal) :
    normal.dumps.isSome = value.every isEncodable := by
  have moved := (same_normal accepted).every_iff (p := isEncodable) (fun _ _ => rfl) fun _ _ => rfl
  have pointwise : normal.every isRenderable = normal.every isEncodable := by
    apply every_congr _ (normalize_plain accepted)
    intro value place
    cases value with
    | float repr => cases place
    | str value => rfl
    | int value => exact (Bool.and_true _).symm
    | null | bool | list => rfl
    | dict members => exact place
  rw [isSome_dumps, pointwise, Bool.eq_iff_iff, moved]

/-- Where the integers are short, only a string that is not in UTF-8 stands in the way. -/
theorem normal_rendered (accepted : normalize value schema = .ok normal)
    (digits : value.every hasDigits = true) :
    normal.every hasDigits = true ∧ normal.dumps.isSome = value.every isWritten := by
  have same := same_normal accepted
  refine ⟨(same.every_iff (fun _ _ => rfl) fun _ _ => rfl).mp digits, ?_⟩
  rw [normal_encodable accepted]
  apply every_congr _ digits
  intro value place
  rw [isEncodable, place, Bool.true_and]

end Rendering

end CsdFoundry.Governance

import CsdFoundry.Encoding.Weight
import CsdFoundry.Synthesis.ChoiceLedger
import Mathlib.Algebra.BigOperators.Group.List.Basic

/-! The bytes of records and ledgers: when there are any, how many, and that they tell the
records apart. -/
namespace CsdFoundry.Synthesis.Choices
open Admission Admission.Value Encoding Results

section Sorted
variable {value : Value}

/-- A property that the order of items and members has no part in. -/
theorem every_sortCodes {p : Value → Bool} (unordered : ∀ value, p (sortCodes value) = p value)
    (value : Value) : (sortCodes value).every p = value.every p := by
  induction value using nested_induction with
  | null | bool | int | float | str => rfl
  | list items ih =>
      have here := unordered (.list items)
      rw [Bool.eq_iff_iff, every_list]
      rw [sortCodes_list] at here ⊢
      rw [every_list, here, List.forall_mem_map]
      exact and_congr_right fun _ => forall₂_congr fun item member => by rw [ih item member]
  | dict members ih =>
      have here := unordered (.dict members)
      have perm := List.perm_insertionSort CodeLe
        (members.map fun member => (member.1, sortCodes member.2))
      rw [Bool.eq_iff_iff, every_dict]
      rw [sortCodes_dict] at here ⊢
      rw [every_dict, here]
      refine and_congr_right fun _ => ?_
      constructor
      · intro all member among
        rw [← ih member among]
        exact all _ (perm.mem_iff.mpr (List.mem_map_of_mem among))
      · intro all member among
        obtain ⟨source, origin, rfl⟩ := List.mem_map.mp (perm.mem_iff.mp among)
        rw [ih source origin]
        exact all source origin

theorem hasDigits_sortCodes (value : Value) : hasDigits (sortCodes value) = hasDigits value := by
  cases value <;> rfl

theorem isEncodable_sortCodes (value : Value) :
    isEncodable (sortCodes value) = isEncodable value := by
  cases value with
  | dict members =>
      have perm := List.perm_insertionSort CodeLe
        (members.map fun member => (member.1, sortCodes member.2))
      rw [sortCodes_dict]
      change List.all _ _ = List.all _ _
      rw [perm.all_eq, List.all_map]
      rfl
  | _ => rfl

theorem weight_sortCodes (value : Value) : weight (sortCodes value) = weight value := by
  induction value using nested_induction with
  | null | bool | int | float | str => rfl
  | list items ih =>
      rw [sortCodes_list, weight, weight, weightItems_eq, weightItems_eq, List.map_map]
      have same : items.map ((fun item => weight item + 1) ∘ sortCodes) =
          items.map fun item => weight item + 1 :=
        List.map_congr_left fun item member => congrArg (· + 1) (ih item member)
      rw [same]
  | dict members ih =>
      have perm := List.perm_insertionSort CodeLe
        (members.map fun member => (member.1, sortCodes member.2))
      have same : members.map ((fun member => size (quoted member.1) + 1 + weight member.2 + 1) ∘
          fun member => (member.1, sortCodes member.2)) =
          members.map fun member => size (quoted member.1) + 1 + weight member.2 + 1 := by
        apply List.map_congr_left
        intro member among
        simp only [Function.comp, ih member among]
      rw [sortCodes_dict, weight, weight, weightMembers_eq, weightMembers_eq,
        (perm.map _).sum_eq, List.map_map, same]

end Sorted

/-- The values that are built for records: no floats, unique keys, and text throughout. -/
structure WellBuilt (value : Value) : Prop where
  readable : value.every isReadable = true
  encodable : value.every isEncodable = true

namespace WellBuilt

theorem text (value : String) : WellBuilt (jsonText value) := ⟨rfl, rfl⟩

theorem nat (value : Nat) : WellBuilt (jsonNat value) := ⟨rfl, rfl⟩

theorem int (value : Int) : WellBuilt (.int value) := ⟨rfl, rfl⟩

theorem bool (value : Bool) : WellBuilt (.bool value) := ⟨rfl, rfl⟩

theorem list {items : List Value} (built : ∀ item ∈ items, WellBuilt item) :
    WellBuilt (.list items) :=
  ⟨every_list.mpr ⟨rfl, fun item member => (built item member).readable⟩,
    every_list.mpr ⟨rfl, fun item member => (built item member).encodable⟩⟩

theorem map {f : α → Value} (values : List α) (built : ∀ value, WellBuilt (f value)) :
    WellBuilt (.list (values.map f)) := by
  apply list
  intro item member
  obtain ⟨value, -, rfl⟩ := List.mem_map.mp member
  exact built value

theorem dict {members : List (String × Value)} (distinct : (members.map (·.1)).Nodup)
    (built : ∀ member ∈ members, WellBuilt member.2) : WellBuilt (jsonDict members) := by
  have keys : ((members.map fun member => (PyStr.text member.1, member.2)).map (·.1)).Nodup := by
    have mapped := distinct.map (fun _ _ equal => PyStr.text.inj equal : Function.Injective PyStr.text)
    rw [List.map_map] at mapped ⊢
    exact mapped
  constructor
  · refine every_dict.mpr ⟨decide_eq_true keys, ?_⟩
    rw [List.forall_mem_map]
    exact fun member among => (built member among).readable
  · refine every_dict.mpr ⟨?_, ?_⟩
    · change List.all _ _ = true
      rw [List.all_map]
      exact List.all_eq_true.mpr fun _ _ => rfl
    · rw [List.forall_mem_map]
      exact fun member among => (built member among).encodable

end WellBuilt

section Bytes
variable {value value' : Value} {bytes : List UInt8}

theorem jsonBytes_eq_ok (built : WellBuilt value) : jsonBytes value = .ok bytes ↔
    ∃ text, (sortCodes value).dumps = some text ∧ bytes = utf8 (text ++ ['\n']) := by
  have converted := toJsonValue_ofValue built.readable
  rw [jsonBytes, canonicalJsonBytes, converted, Results.ok_bind]
  cases (sortCodes value).dumps <;> simp [Except.mapError, eq_comm]

/-- A value has bytes unless an integer in it has too many digits. -/
theorem jsonBytes_exists (built : WellBuilt value) :
    (∃ bytes, jsonBytes value = .ok bytes) ↔ value.every hasDigits = true := by
  have encodable : (sortCodes value).every isEncodable = true := by
    rw [every_sortCodes isEncodable_sortCodes]
    exact built.encodable
  rw [← every_sortCodes hasDigits_sortCodes, ← dumps_isSome _ encodable,
    Option.isSome_iff_exists]
  simp only [jsonBytes_eq_ok built]
  constructor
  · rintro ⟨bytes, text, rendered, -⟩
    exact ⟨text, rendered⟩
  · rintro ⟨text, rendered⟩
    exact ⟨_, text, rendered, rfl⟩

theorem jsonBytes_length (built : WellBuilt value) (encoded : jsonBytes value = .ok bytes) :
    bytes.length = weight value + 1 := by
  obtain ⟨text, rendered, rfl⟩ := (jsonBytes_eq_ok built).mp encoded
  rw [utf8_append, List.length_append, weight_dumps _ rendered, weight_sortCodes]
  rfl

theorem jsonBytes_injective (built : WellBuilt value) (built' : WellBuilt value')
    (encoded : jsonBytes value = .ok bytes) (encoded' : jsonBytes value' = .ok bytes) :
    sortCodes value = sortCodes value' := by
  obtain ⟨text, rendered, rfl⟩ := (jsonBytes_eq_ok built).mp encoded
  obtain ⟨text', rendered', same⟩ := (jsonBytes_eq_ok built').mp encoded'
  obtain rfl : text = text' := List.append_cancel_right (utf8_injective same)
  exact dumps_injective rendered rendered' (sortCodes_readable built.readable)
    (sortCodes_readable built'.readable)

end Bytes

section Built

theorem ChoicePath.built (path : ChoicePath) : WellBuilt path.json := by
  have segments : WellBuilt (.list (path.segments.map ChoiceSegment.json)) := by
    apply WellBuilt.map
    intro segment
    cases segment with
    | token value => exact .text value
    | index value => exact .nat value
  apply WellBuilt.dict
  · simp
  · simp only [List.forall_mem_cons]
    exact ⟨.text _, .text _, .nat _, .nat _, .text _, segments, by simp⟩

theorem CandidateDrawRecord.built (draw : CandidateDrawRecord) : WellBuilt draw.json := by
  apply WellBuilt.dict
  · simp
  · simp only [List.forall_mem_cons]
    exact ⟨.nat _, .text _, .nat _, by simp⟩

theorem BoundedIntegerEvidence.built (evidence : BoundedIntegerEvidence) :
    WellBuilt evidence.json := by
  apply WellBuilt.dict
  · simp
  · simp only [List.forall_mem_cons]
    exact ⟨.nat _, .nat _, .text _, .text _, .nat _, .map _ CandidateDrawRecord.built, .nat _,
      .text _, .nat _, .nat _, by simp⟩

theorem canonicalValue_built (value : CanonicalValue) : WellBuilt value.json :=
  ⟨CanonicalTree.json_readable value.canonical, CanonicalTree.json_encodable value.tree⟩

theorem WeightedChoiceRecord.selectedValue_built (record : WeightedChoiceRecord) :
    WellBuilt record.selectedValue := by
  unfold selectedValue
  cases record.values[record.selectedIndex]? with
  | none => exact ⟨rfl, rfl⟩
  | some value => exact canonicalValue_built value

theorem ChoiceRecord.built (record : ChoiceRecord) : WellBuilt record.json := by
  cases record with
  | bounded record =>
      apply WellBuilt.dict
      · simp
      · simp only [List.forall_mem_cons]
        exact ⟨record.evidence.built, .text _, .text _, record.path.built, .text _, .text _,
          .int _, by simp⟩
  | weighted record =>
      apply WellBuilt.dict
      · simp
      · simp only [List.forall_mem_cons]
        exact ⟨.text _, .text _, record.path.built, .text _, .text _, .nat _,
          record.selectedValue_built, record.ticket.built, .map _ canonicalValue_built,
          .map _ WellBuilt.int, by simp⟩
  | ratio record =>
      apply WellBuilt.dict
      · simp
      · simp only [List.forall_mem_cons]
        exact ⟨.int _, .text _, .int _, .text _, record.path.built, .text _, .text _, .bool _,
          record.ticket.built, by simp⟩

theorem ChoiceLedger.built (ledger : ChoiceLedger) : WellBuilt ledger.json := by
  have attempt : WellBuilt (jsonDict [
      ("attempt_index", jsonNat ledger.attemptKey.attemptIndex),
      ("release", jsonText ledger.attemptKey.sampleKey.release),
      ("sample_index", jsonNat ledger.attemptKey.sampleKey.sampleIndex),
      ("target_id", jsonText ledger.attemptKey.sampleKey.targetId)]) := by
    apply WellBuilt.dict
    · simp
    · simp only [List.forall_mem_cons]
      exact ⟨.nat _, .text _, .nat _, .text _, by simp⟩
  apply WellBuilt.dict
  · simp
  · simp only [List.forall_mem_cons]
    exact ⟨.text _, attempt, .text _, .text _, .map _ ChoiceRecord.built, .text _, .text _,
      by simp⟩

end Built

section Injective
variable {members members' : List (String × Value)}

/-- A member as it is written. -/
def written (member : String × Value) : PyStr × Value := (.text member.1, sortCodes member.2)

theorem sortCodes_jsonDict (members : List (String × Value)) : sortCodes (jsonDict members) =
    .dict ((members.map written).insertionSort CodeLe) := by
  rw [jsonDict, sortCodes_dict, List.map_map]
  rfl

/-- Dicts that are written alike have the same members. -/
theorem member_injective (distinct : (members.map (·.1)).Nodup)
    (same : sortCodes (jsonDict members) = sortCodes (jsonDict members')) {key : String}
    {value value' : Value} (among : (key, value) ∈ members) (among' : (key, value') ∈ members') :
    sortCodes value = sortCodes value' := by
  rw [sortCodes_jsonDict, sortCodes_jsonDict] at same
  have sorted := Value.dict.inj same
  have there : written (key, value') ∈ (members'.map written).insertionSort CodeLe :=
    (List.mem_insertionSort CodeLe).mpr (List.mem_map_of_mem among')
  rw [← sorted, List.mem_insertionSort] at there
  obtain ⟨source, origin, equal⟩ := List.mem_map.mp there
  obtain ⟨sameKey, sameValue⟩ := Prod.mk.inj equal
  obtain rfl : source = (key, value) :=
    List.inj_on_of_nodup_map distinct origin among (PyStr.text.inj sameKey)
  exact sameValue

theorem jsonNat_injective {a b : Nat} (same : sortCodes (jsonNat a) = sortCodes (jsonNat b)) :
    a = b := Int.ofNat.inj (Value.int.inj same)

theorem jsonText_injective {a b : String} (same : sortCodes (jsonText a) = sortCodes (jsonText b)) :
    a = b := PyStr.text.inj (Value.str.inj same)

theorem list_injective {f : α → Value}
    (injective : ∀ a b, sortCodes (f a) = sortCodes (f b) → a = b) {values values' : List α}
    (same : sortCodes (.list (values.map f)) = sortCodes (.list (values'.map f))) :
    values = values' := by
  rw [sortCodes_list, sortCodes_list, List.map_map, List.map_map] at same
  exact List.map_injective_iff.mpr injective (Value.list.inj same)

theorem CandidateDrawRecord.json_injective (draw draw' : CandidateDrawRecord)
    (same : sortCodes draw.json = sortCodes draw'.json) : draw = draw' := by
  have read (key : String) {value value' : Value} :=
    @member_injective _ _ (by simp) same key value value'
  apply CandidateDrawRecord.ext
  · exact jsonNat_injective (read "draw_index" (by simp) (by simp))
  · exact jsonText_injective (read "candidate_hex" (by simp) (by simp))
  · exact jsonNat_injective (read "block_count" (by simp) (by simp))

theorem BoundedIntegerEvidence.json_injective (evidence evidence' : BoundedIntegerEvidence)
    (same : sortCodes evidence.json = sortCodes evidence'.json) : evidence = evidence' := by
  have read (key : String) {value value' : Value} :=
    @member_injective _ _ (by simp) same key value value'
  apply BoundedIntegerEvidence.ext
  · exact jsonNat_injective (read "value" (by simp) (by simp))
  · exact jsonNat_injective (read "draw_index" (by simp) (by simp))
  · exact jsonText_injective (read "candidate_hex" (by simp) (by simp))
  · exact jsonNat_injective (read "candidate" (by simp) (by simp))
  · exact jsonNat_injective (read "limit" (by simp) (by simp))
  · exact jsonNat_injective (read "width" (by simp) (by simp))
  · exact jsonNat_injective (read "block_count" (by simp) (by simp))
  · exact list_injective CandidateDrawRecord.json_injective (read "draws" (by simp) (by simp))
  · exact jsonText_injective (read "domain_digest" (by simp) (by simp))
  · exact jsonText_injective (read "material_digest" (by simp) (by simp))

end Injective
end CsdFoundry.Synthesis.Choices

import CsdFoundry.StableSort
import CsdFoundry.Synthesis.CanonicalValues

/-! The encoder writes objects that were filled in different orders alike, and it leaves the
fields of canonical values in their order. -/
namespace CsdFoundry.Synthesis
open Admission Admission.Value Encoding Results

section Order

theorem toNat_separates : Separates (fun c : Char => [c.toNat]) := by
  intro a b less rest rest'
  exact List.cons_lt_cons_iff.mpr (.inl less)

theorem codePoints_le_iff {a b : String} :
    codePoints (.text a) ≤ codePoints (.text b) ↔ a.toList ≤ b.toList := by
  have flat : ∀ text : List Char, text.map Char.toNat = text.flatMap fun c => [c.toNat] :=
    fun text => (List.flatMap_singleton' text ▸ List.map_eq_flatMap)
  rw [codePoints, codePoints, flat, flat]
  exact flatMap_le_iff toNat_separates (fun _ => List.cons_ne_nil _ _)

/-- Code points and bytes order texts alike. -/
theorem codeLe_iff_nameLe {a b : String} {x y : α} :
    CodeLe (.text a, x) (.text b, y) ↔ NameLe a b := by
  rw [NameLe, utf8_le_iff]
  exact codePoints_le_iff

theorem surrogates_found (value : PyStr) :
    (codePoints value).any isSurrogate = !isText value := by
  cases value with
  | text value =>
      rw [codePoints, List.any_map, isText, Bool.not_true, List.any_eq_false]
      intro c _
      have apart := not_surrogate c
      simp only [Function.comp, isSurrogate, Bool.and_eq_true, decide_eq_true_eq]
      omega
  | lone value =>
      rw [codePoints, List.any_map, isText]
      exact value.found

theorem codePoints_injective : ∀ {a b : PyStr}, codePoints a = codePoints b → a = b
  | .text a, .text b, same => by
      have letters : a.toList = b.toList :=
        List.map_injective_iff.mpr (fun _ _ equal => Char.toNat_inj.mp equal) same
      rw [String.toList_inj.mp letters]
  | .lone a, .lone b, same => by
      obtain ⟨a, found⟩ := a
      obtain ⟨b, found'⟩ := b
      have points : a = b := List.map_injective_iff.mpr Fin.val_injective same
      subst points
      rfl
  | .text a, .lone b, same => by
      have found := surrogates_found (.lone b)
      rw [← same, surrogates_found (.text a)] at found
      cases found
  | .lone a, .text b, same => by
      have found := surrogates_found (.lone a)
      rw [same, surrogates_found (.text b)] at found
      cases found

instance : IsTrans (PyStr × α) CodeLe := ⟨fun _ _ _ first second => le_trans first second⟩

instance : Std.Total (α := PyStr × α) CodeLe :=
  ⟨fun a b => le_total (codePoints a.1) (codePoints b.1)⟩

instance : IsTrans String NameLe := ⟨fun _ _ _ first second => le_trans first second⟩

instance : Std.Total (α := String) NameLe := ⟨fun a b => le_total (utf8 a.toList) (utf8 b.toList)⟩

instance : IsTrans (List UInt8 × Value) SortKeyLe := ⟨fun _ _ _ first second => le_trans first second⟩

instance : Std.Total (α := List UInt8 × Value) SortKeyLe := ⟨fun a b => le_total a.1 b.1⟩

end Order

section SortCodes
variable {items : List Value} {members : Dict}

theorem sortCodesItems_eq (items : List Value) : sortCodesItems items = items.map sortCodes := by
  induction items with
  | nil => rfl
  | cons item items ih => rw [sortCodesItems, ih, List.map_cons]

theorem sortCodesMembers_eq (members : Dict) :
    sortCodesMembers members = members.map fun member => (member.1, sortCodes member.2) := by
  induction members with
  | nil => rfl
  | cons member members ih => rw [sortCodesMembers, ih, List.map_cons]

theorem sortCodes_list : sortCodes (.list items) = .list (items.map sortCodes) := by
  rw [sortCodes, sortCodesItems_eq]

theorem sortCodes_dict : sortCodes (.dict members) =
    .dict ((members.map fun member => (member.1, sortCodes member.2)).insertionSort CodeLe) := by
  rw [sortCodes, sortCodesMembers_eq]

/-- The members of a dict are written in one order, however it was filled. -/
theorem sortCodes_perm {members' : Dict} (same : members.Perm members')
    (unique : (members.map (·.1)).Nodup) : sortCodes (.dict members) = sortCodes (.dict members') := by
  rw [sortCodes_dict, sortCodes_dict, StableSort.insertionSort_perm (same.map _)]
  intro a ha b hb below above
  have distinct : ((members.map fun member => (member.1, sortCodes member.2)).map (·.1)).Nodup := by
    rw [List.map_map]
    exact unique
  exact List.inj_on_of_nodup_map distinct ha hb (codePoints_injective (le_antisymm below above))

theorem sortCodes_readable {value : Value} (readable : value.every isReadable = true) :
    (sortCodes value).every isReadable = true := by
  induction value using nested_induction with
  | null | bool | int | str => rfl
  | float => cases readable
  | list items ih =>
      obtain ⟨-, inner⟩ := every_list.mp readable
      rw [sortCodes_list, every_list]
      refine ⟨rfl, fun item member => ?_⟩
      obtain ⟨source, origin, rfl⟩ := List.mem_map.mp member
      exact ih source origin (inner source origin)
  | dict members ih =>
      obtain ⟨distinct, inner⟩ := every_dict.mp readable
      have perm := List.perm_insertionSort CodeLe
        (members.map fun member => (member.1, sortCodes member.2))
      rw [sortCodes_dict, every_dict]
      refine ⟨?_, fun member among => ?_⟩
      · have keys := perm.map (·.1)
        rw [List.map_map] at keys
        exact decide_eq_true (keys.nodup_iff.mpr (of_decide_eq_true distinct))
      · obtain ⟨source, origin, rfl⟩ := List.mem_map.mp (perm.mem_iff.mp among)
        exact ih source origin (inner source origin)

end SortCodes

section Objects
variable {value : Value}

theorem itemResults_eq (items : List Object) : itemResults items = items.map toJsonValue := by
  induction items with
  | nil => rfl
  | cons item items ih => rw [itemResults, ih, List.map_cons]

def fieldResult (field : String × Object) : Except SerializationFailure (PyStr × Value) :=
  (toJsonValue field.2).map fun value => (.text field.1, value)

theorem fieldResults_eq (fields : List (String × Object)) :
    fieldResults fields = fields.map fieldResult := by
  induction fields with
  | nil => rfl
  | cons field fields ih =>
      rw [fieldResults, ih, List.map_cons]
      rfl

def memberResult (member : Option PyStr × Object) : Except SerializationFailure (PyStr × Value) :=
  match member.1 with
  | some key => (toJsonValue member.2).map fun value => (key, value)
  | none => .error .serialization

theorem memberResults_eq (members : List (Option PyStr × Object)) :
    memberResults members = members.map memberResult := by
  induction members with
  | nil => rfl
  | cons member members ih =>
      obtain ⟨key, item⟩ := member
      cases key <;> rw [memberResults, ih, List.map_cons] <;> rfl

theorem fieldResult_ok {field : String × Object} {member : PyStr × Value} :
    fieldResult field = .ok member ↔
      member.1 = .text field.1 ∧ toJsonValue field.2 = .ok member.2 := by
  unfold fieldResult
  cases toJsonValue field.2 with
  | error failure => simp [Except.map]
  | ok value => simp [Except.map, Prod.ext_iff, eq_comm]

theorem memberResult_ok {item : Option PyStr × Object} {member : PyStr × Value} :
    memberResult item = .ok member ↔
      item.1 = some member.1 ∧ toJsonValue item.2 = .ok member.2 := by
  obtain ⟨key, object⟩ := item
  unfold memberResult
  cases key with
  | none => simp
  | some key =>
      cases toJsonValue object with
      | error failure => simp [Except.map]
      | ok value => simp [Except.map, Prod.ext_iff]

theorem toJsonValue_dataclass {fields : List (String × Object)} :
    toJsonValue (.dataclass fields) = .ok value ↔ ∃ members,
      fields.map fieldResult = members.map .ok ∧ value = .dict members := by
  rw [toJsonValue, fieldResults_eq, bind_ok]
  simp only [collect_eq_ok, Except.ok.injEq, eq_comm (a := value)]

theorem toJsonValue_dict {members : List (Option PyStr × Object)} :
    toJsonValue (.dict members) = .ok value ↔ ∃ members',
      members.map memberResult = members'.map .ok ∧ value = .dict members' := by
  rw [toJsonValue, memberResults_eq, bind_ok]
  simp only [collect_eq_ok, Except.ok.injEq, eq_comm (a := value)]

theorem toJsonValue_sequence {items : List Object} :
    toJsonValue (.sequence items) = .ok value ↔ ∃ items',
      items.map toJsonValue = items'.map .ok ∧ value = .list items' := by
  rw [toJsonValue, itemResults_eq, bind_ok]
  simp only [collect_eq_ok, Except.ok.injEq, eq_comm (a := value)]

theorem toJsonValue_set {items : List Object} :
    toJsonValue (.set items) = .ok value ↔
      ∃ (items' : List Value) (pairs : List (List UInt8 × Value)), items.map toJsonValue = items'.map .ok ∧
        items'.map sortKeyed = pairs.map .ok ∧ value = .list ((pairs.insertionSort SortKeyLe).map (·.2)) := by
  rw [toJsonValue, itemResults_eq, bind_ok]
  simp only [bind_ok, collect_eq_ok, Except.ok.injEq, eq_comm (a := value), exists_and_left]

theorem sortKeyed_ok {item : Value} {pair : List UInt8 × Value} :
    sortKeyed item = .ok pair ↔
      ∃ text, (sortCodes item).dumps = some text ∧ pair = (utf8 text, item) := by
  unfold sortKeyed
  cases (sortCodes item).dumps <;> simp [eq_comm]

end Objects

/-- Induction over an object whose hypotheses are about what it holds. -/
@[elab_as_elim]
theorem Object.nested_induction {motive : Object → Prop} (null : motive .null)
    (bool : ∀ value, motive (.bool value)) (int : ∀ value, motive (.int value))
    (float : motive .float) (str : ∀ value, motive (.str value))
    (dataclass : ∀ fields, (∀ field ∈ fields, motive field.2) → motive (.dataclass fields))
    (dict : ∀ members, (∀ member ∈ members, motive member.2) → motive (.dict members))
    (sequence : ∀ items, (∀ item ∈ items, motive item) → motive (.sequence items))
    (set : ∀ items, (∀ item ∈ items, motive item) → motive (.set items))
    (unsupported : motive .unsupported) (object : Object) : motive object :=
  @Object.rec motive (fun fields => ∀ field ∈ fields, motive field.2)
    (fun members => ∀ member ∈ members, motive member.2) (fun items => ∀ item ∈ items, motive item)
    (fun field => motive field.2) (fun member => motive member.2)
    null bool int float str dataclass dict sequence set unsupported
    (by simp) (fun _ _ first rest => List.forall_mem_cons.mpr ⟨first, rest⟩)
    (by simp) (fun _ _ first rest => List.forall_mem_cons.mpr ⟨first, rest⟩)
    (by simp) (fun _ _ first rest => List.forall_mem_cons.mpr ⟨first, rest⟩)
    (fun _ _ second => second) (fun _ _ second => second) object

section Unique

theorem itemsUnique_iff {items : List Object} :
    itemsUnique items = true ↔ ∀ item ∈ items, item.isUnique = true := by
  induction items with
  | nil => simp [itemsUnique]
  | cons item items ih => rw [itemsUnique, Bool.and_eq_true, ih, List.forall_mem_cons]

theorem fieldsUnique_iff {fields : List (String × Object)} :
    fieldsUnique fields = true ↔ ∀ field ∈ fields, field.2.isUnique = true := by
  induction fields with
  | nil => simp [fieldsUnique]
  | cons field fields ih => rw [fieldsUnique, Bool.and_eq_true, ih, List.forall_mem_cons]

theorem membersUnique_iff {members : List (Option PyStr × Object)} :
    membersUnique members = true ↔ ∀ member ∈ members, member.2.isUnique = true := by
  induction members with
  | nil => simp [membersUnique]
  | cons member members ih => rw [membersUnique, Bool.and_eq_true, ih, List.forall_mem_cons]

theorem isUnique_dataclass {fields : List (String × Object)} :
    (Object.dataclass fields).isUnique = true ↔
      (fields.map (·.1)).Nodup ∧ ∀ field ∈ fields, field.2.isUnique = true := by
  rw [Object.isUnique, Bool.and_eq_true, fieldsUnique_iff, decide_eq_true_eq]

theorem isUnique_dict {members : List (Option PyStr × Object)} :
    (Object.dict members).isUnique = true ↔
      (members.filterMap (·.1)).Nodup ∧ ∀ member ∈ members, member.2.isUnique = true := by
  rw [Object.isUnique, Bool.and_eq_true, membersUnique_iff, decide_eq_true_eq]

theorem isUnique_sequence {items : List Object} :
    (Object.sequence items).isUnique = true ↔ ∀ item ∈ items, item.isUnique = true := by
  rw [Object.isUnique, itemsUnique_iff]

theorem isUnique_set {items : List Object} :
    (Object.set items).isUnique = true ↔ ∀ item ∈ items, item.isUnique = true := by
  rw [Object.isUnique, itemsUnique_iff]

/-- The keys of a converted dict are those of the dict. -/
theorem memberResults_keys {members : List (Option PyStr × Object)} {members' : Dict}
    (results : members.map memberResult = members'.map .ok) :
    members.filterMap (·.1) = members'.map (·.1) := by
  induction members generalizing members' with
  | nil =>
      cases members' with
      | nil => rfl
      | cons member members' => cases results
  | cons member members ih =>
      obtain ⟨member', rest, rfl, first, others⟩ := List.map_eq_cons_iff.mp results.symm
      obtain ⟨key, -⟩ := memberResult_ok.mp first.symm
      rw [List.filterMap_cons_some key, List.map_cons, ih others.symm]

theorem fieldResults_keys {fields : List (String × Object)} {members : Dict}
    (results : fields.map fieldResult = members.map .ok) :
    (fields.map (·.1)).map PyStr.text = members.map (·.1) := by
  induction fields generalizing members with
  | nil =>
      cases members with
      | nil => rfl
      | cons member members => cases results
  | cons field fields ih =>
      obtain ⟨member, rest, rfl, first, others⟩ := List.map_eq_cons_iff.mp results.symm
      obtain ⟨key, -⟩ := fieldResult_ok.mp first.symm
      rw [List.map_cons, List.map_cons, List.map_cons, ih others.symm, key]

theorem toJsonValue_readable {object : Object} {value : Value} (unique : object.isUnique = true)
    (converted : toJsonValue object = .ok value) : value.every isReadable = true := by
  induction object using Object.nested_induction generalizing value with
  | null | bool | int | str =>
      cases converted
      rfl
  | float => cases converted
  | dataclass fields ih =>
      obtain ⟨members, results, rfl⟩ := toJsonValue_dataclass.mp converted
      obtain ⟨distinct, inner⟩ := isUnique_dataclass.mp unique
      refine every_dict.mpr ⟨?_, fun member among => ?_⟩
      · have keys : (members.map (·.1)).Nodup := by
          rw [← fieldResults_keys results]
          exact distinct.map fun _ _ equal => PyStr.text.inj equal
        exact decide_eq_true keys
      · obtain ⟨field, origin, result⟩ := mem_of_results results among
        exact ih field origin (inner field origin) (fieldResult_ok.mp result).2
  | dict members ih =>
      obtain ⟨members', results, rfl⟩ := toJsonValue_dict.mp converted
      obtain ⟨distinct, inner⟩ := isUnique_dict.mp unique
      refine every_dict.mpr ⟨?_, fun member among => ?_⟩
      · rw [memberResults_keys results] at distinct
        exact decide_eq_true distinct
      · obtain ⟨source, origin, result⟩ := mem_of_results results among
        exact ih source origin (inner source origin) (memberResult_ok.mp result).2
  | sequence items ih =>
      obtain ⟨items', results, rfl⟩ := toJsonValue_sequence.mp converted
      refine every_list.mpr ⟨rfl, fun item among => ?_⟩
      obtain ⟨source, origin, result⟩ := mem_of_results results among
      exact ih source origin (isUnique_sequence.mp unique source origin) result
  | set items ih =>
      obtain ⟨items', pairs, results, keys, rfl⟩ := toJsonValue_set.mp converted
      refine every_list.mpr ⟨rfl, fun item among => ?_⟩
      obtain ⟨pair, member, rfl⟩ := List.mem_map.mp among
      obtain ⟨item, entered, key⟩ := mem_of_results keys ((List.mem_insertionSort SortKeyLe).mp member)
      obtain ⟨text, -, rfl⟩ := sortKeyed_ok.mp key
      obtain ⟨source, origin, result⟩ := mem_of_results results entered
      exact ih source origin (isUnique_set.mp unique source origin) result
  | unsupported => cases converted

end Unique
end CsdFoundry.Synthesis

import CsdFoundry.Synthesis.Refilling

/-! Canonical values are read back from their text, and no two have the same bytes. -/
namespace CsdFoundry.Synthesis
open Admission Admission.Value Encoding Results

theorem ofValueItems_eq (items : List Value) : ofValueItems items = items.map ofValue := by
  induction items with
  | nil => rfl
  | cons item items ih => rw [ofValueItems, ih, List.map_cons]

theorem ofValueMembers_eq (members : Dict) :
    ofValueMembers members = members.map fun member => (some member.1, ofValue member.2) := by
  induction members with
  | nil => rfl
  | cons member members ih => rw [ofValueMembers, ih, List.map_cons]

/-- A JSON value without floats is its own conversion. -/
theorem toJsonValue_ofValue {value : Value} (readable : value.every isReadable = true) :
    toJsonValue (ofValue value) = .ok value := by
  induction value using nested_induction with
  | null | bool | int | str => rfl
  | float => cases readable
  | list items ih =>
      obtain ⟨-, inner⟩ := every_list.mp readable
      rw [ofValue, ofValueItems_eq, toJsonValue_sequence]
      refine ⟨items, ?_, rfl⟩
      rw [List.map_map]
      exact List.map_congr_left fun item member => ih item member (inner item member)
  | dict members ih =>
      obtain ⟨-, inner⟩ := every_dict.mp readable
      rw [ofValue, ofValueMembers_eq, toJsonValue_dict]
      refine ⟨members, ?_, rfl⟩
      rw [List.map_map]
      apply List.map_congr_left
      intro member among
      exact memberResult_ok.mpr ⟨rfl, ih member among (inner member among)⟩

namespace CanonicalTree

/-- Induction over a tree whose hypotheses are about its values and fields. -/
@[elab_as_elim]
theorem nested_induction {motive : CanonicalTree → Prop} (null : motive .null)
    (bool : ∀ value, motive (.bool value)) (int : ∀ value, motive (.int value))
    (str : ∀ value, motive (.str value))
    (array : ∀ values, (∀ value ∈ values, motive value) → motive (.array values))
    (object : ∀ fields, (∀ field ∈ fields, motive field.2) → motive (.object fields))
    (tree : CanonicalTree) : motive tree :=
  @CanonicalTree.rec motive (fun values => ∀ value ∈ values, motive value)
    (fun fields => ∀ field ∈ fields, motive field.2) (fun field => motive field.2)
    null bool int str array object
    (by simp) (fun _ _ first rest => List.forall_mem_cons.mpr ⟨first, rest⟩)
    (by simp) (fun _ _ first rest => List.forall_mem_cons.mpr ⟨first, rest⟩)
    (fun _ _ second => second) tree

theorem jsonValues_eq (values : List CanonicalTree) : jsonValues values = values.map json := by
  induction values with
  | nil => rfl
  | cons value values ih => rw [jsonValues, ih, List.map_cons]

def jsonField (field : String × CanonicalTree) : PyStr × Value := (.text field.1, field.2.json)

theorem jsonFields_eq (fields : List (String × CanonicalTree)) :
    jsonFields fields = fields.map jsonField := by
  induction fields with
  | nil => rfl
  | cons field fields ih =>
      rw [jsonFields, ih, List.map_cons]
      rfl

theorem isCanonicalValues_iff {values : List CanonicalTree} :
    isCanonicalValues values = true ↔ ∀ value ∈ values, value.isCanonical = true := by
  induction values with
  | nil => simp [isCanonicalValues]
  | cons value values ih => rw [isCanonicalValues, Bool.and_eq_true, ih, List.forall_mem_cons]

theorem isCanonicalFields_inner {fields : List (String × CanonicalTree)}
    (canonical : isCanonicalFields fields = true) :
    ∀ field ∈ fields, field.2.isCanonical = true := by
  induction fields with
  | nil => simp
  | cons field fields ih =>
      rw [isCanonicalFields, Bool.and_eq_true, Bool.and_eq_true] at canonical
      exact List.forall_mem_cons.mpr ⟨canonical.1.2, ih canonical.2⟩

theorem isCanonical_object {fields : List (String × CanonicalTree)}
    (canonical : (object fields).isCanonical = true) :
    (fields.map (·.1)).Nodup ∧ (fields.map (·.1)).Pairwise NameLe ∧
      ∀ field ∈ fields, field.2.isCanonical = true := by
  rw [isCanonical, isOrdered, Bool.and_eq_true, Bool.and_eq_true] at canonical
  obtain ⟨⟨distinct, sorted⟩, inner⟩ := canonical
  refine ⟨of_decide_eq_true distinct, ?_, isCanonicalFields_inner inner⟩
  rw [of_decide_eq_true sorted]
  exact List.pairwise_insertionSort NameLe _

theorem json_keys (fields : List (String × CanonicalTree)) :
    (fields.map jsonField).map (·.1) = (fields.map (·.1)).map PyStr.text := by
  rw [List.map_map, List.map_map]
  rfl

theorem json_readable {tree : CanonicalTree} (canonical : tree.isCanonical = true) :
    tree.json.every isReadable = true := by
  induction tree using nested_induction with
  | null | bool | int | str => rfl
  | array values ih =>
      rw [isCanonical, isCanonicalValues_iff] at canonical
      rw [json, jsonValues_eq, every_list]
      refine ⟨rfl, fun item member => ?_⟩
      obtain ⟨value, origin, rfl⟩ := List.mem_map.mp member
      exact ih value origin (canonical value origin)
  | object fields ih =>
      obtain ⟨distinct, -, inner⟩ := isCanonical_object canonical
      rw [json, jsonFields_eq, every_dict]
      refine ⟨?_, fun member among => ?_⟩
      · have keys : ((fields.map jsonField).map (·.1)).Nodup := by
          rw [json_keys]
          exact distinct.map fun _ _ equal => PyStr.text.inj equal
        exact decide_eq_true keys
      · obtain ⟨field, origin, rfl⟩ := List.mem_map.mp among
        exact ih field origin (inner field origin)

theorem json_encodable (tree : CanonicalTree) : tree.json.every isEncodable = true := by
  induction tree using nested_induction with
  | null | bool | int | str => rfl
  | array values ih =>
      rw [json, jsonValues_eq, every_list]
      refine ⟨rfl, fun item member => ?_⟩
      obtain ⟨value, origin, rfl⟩ := List.mem_map.mp member
      exact ih value origin
  | object fields ih =>
      rw [json, jsonFields_eq, every_dict]
      refine ⟨?_, fun member among => ?_⟩
      · change (fields.map jsonField).all (fun member => isText member.1) = true
        rw [List.all_map, List.all_eq_true]
        exact fun _ _ => rfl
      · obtain ⟨field, origin, rfl⟩ := List.mem_map.mp among
        exact ih field origin

/-- The encoder leaves the fields of an object where they are. -/
theorem sortCodes_json {tree : CanonicalTree} (canonical : tree.isCanonical = true) :
    sortCodes tree.json = tree.json := by
  induction tree using nested_induction with
  | null | bool | int | str => rfl
  | array values ih =>
      rw [isCanonical, isCanonicalValues_iff] at canonical
      rw [json, jsonValues_eq, sortCodes_list, List.map_map]
      congr 1
      exact List.map_congr_left fun value member => ih value member (canonical value member)
  | object fields ih =>
      obtain ⟨-, sorted, inner⟩ := isCanonical_object canonical
      have fixed : ((fields.map jsonField).map fun member => (member.1, sortCodes member.2)) =
          fields.map jsonField := by
        rw [List.map_map]
        apply List.map_congr_left
        intro field member
        have same := ih field member (inner field member)
        simp only [Function.comp, jsonField, same]
      have ascending : (fields.map jsonField).Pairwise CodeLe := by
        rw [List.pairwise_map] at sorted ⊢
        exact sorted.imp fun le => codeLe_iff_nameLe.mpr le
      rw [json, jsonFields_eq, sortCodes_dict, fixed, ascending.insertionSort_eq]

theorem map_injective_on {f : α → β} {a b : List α}
    (injective : ∀ x ∈ a, ∀ y, f x = f y → x = y) (same : a.map f = b.map f) : a = b := by
  induction a generalizing b with
  | nil => exact (List.map_eq_nil_iff.mp same.symm).symm
  | cons x a ih =>
      obtain ⟨y, b, rfl, head, tail⟩ := List.map_eq_cons_iff.mp same.symm
      obtain ⟨first, others⟩ := List.forall_mem_cons.mp injective
      rw [first y head.symm, ih others tail.symm]

theorem json_injective : Function.Injective json := by
  intro a
  induction a using nested_induction with
  | null | bool | int | str =>
      intro b same
      cases b <;> simp_all [json]
  | array values ih =>
      intro b same
      cases b with
      | array values' =>
          rw [json, json, jsonValues_eq, jsonValues_eq] at same
          rw [map_injective_on (fun value member other => @ih value member other) (Value.list.inj same)]
      | _ => cases same
  | object fields ih =>
      intro b same
      cases b with
      | object fields' =>
          rw [json, json, jsonFields_eq, jsonFields_eq] at same
          rw [map_injective_on _ (Value.dict.inj same)]
          rintro ⟨name, value⟩ member ⟨name', value'⟩ equal
          obtain ⟨names, values⟩ := Prod.mk.inj equal
          exact Prod.ext (PyStr.text.inj names) (ih (name, value) member values)
      | _ => cases same

end CanonicalTree

section Pairs
variable {pairs pairs' : List (PyStr × CanonicalValue)} {fields fields' : List CanonicalField}

instance : IsTrans CanonicalField FieldLe := ⟨fun _ _ _ first second => le_trans first second⟩

instance : Std.Total (α := CanonicalField) FieldLe :=
  ⟨fun a b => le_total (utf8 a.name.toList) (utf8 b.name.toList)⟩

theorem nameLe_antisymm {a b : String} (below : NameLe a b) (above : NameLe b a) : a = b :=
  String.toList_inj.mp (utf8_injective (le_antisymm below above))

theorem canonicalObject_perm (same : fields.Perm fields') :
    canonicalObject (fields.insertionSort FieldLe) =
      canonicalObject (fields'.insertionSort FieldLe) := by
  by_cases distinct : (fields.map CanonicalField.name).Nodup
  · rw [StableSort.insertionSort_perm same]
    intro a ha b hb below above
    exact List.inj_on_of_nodup_map distinct ha hb (nameLe_antisymm below above)
  · have refused : ∀ others : List CanonicalField, others.Perm fields →
        canonicalObject others = .error .canonicalValue := by
      intro others perm
      rw [canonicalObject, dif_neg]
      intro ordered
      rw [isOrdered, Bool.and_eq_true, List.map_map] at ordered
      exact distinct ((perm.map CanonicalField.name).nodup_iff.mp (of_decide_eq_true ordered.1))
    rw [refused _ (List.perm_insertionSort _ _),
      refused _ ((List.perm_insertionSort _ _).trans same.symm)]

/-- An object is the same however its pairs are ordered. -/
theorem fromPairs_perm (same : pairs.Perm pairs') : fromPairs pairs = fromPairs pairs' := by
  have results := same.map fun pair => canonicalField pair.1 pair.2
  have refused : ∀ error : CanonicalValueError, error = .canonicalValue := fun error => by
    cases error
    rfl
  unfold fromPairs
  cases collected : collect (pairs.map fun pair => canonicalField pair.1 pair.2) with
  | ok fields =>
      obtain ⟨fields', image, perm⟩ := image_perm results (collect_eq_ok.mp collected)
      rw [collect_eq_ok.mpr image]
      exact canonicalObject_perm perm
  | error error =>
      cases collected' : collect (pairs'.map fun pair => canonicalField pair.1 pair.2) with
      | ok fields' =>
          obtain ⟨fields, image, -⟩ := image_perm results.symm (collect_eq_ok.mp collected')
          rw [collect_eq_ok.mpr image] at collected
          cases collected
      | error error' => rw [refused error, refused error']

end Pairs

namespace CanonicalValue
variable {v w : CanonicalValue}

theorem toJsonValue_json (v : CanonicalValue) : toJsonValue (ofValue v.json) = .ok v.json :=
  toJsonValue_ofValue (CanonicalTree.json_readable v.canonical)

theorem canonicalJsonBytes_json {bytes : List UInt8} :
    v.bytes = .ok bytes ↔ ∃ text, v.json.dumps = some text ∧ bytes = utf8 (text ++ ['\n']) := by
  have sorted : sortCodes v.json = v.json := CanonicalTree.sortCodes_json v.canonical
  rw [CanonicalValue.bytes, canonicalJsonBytes, bind_ok]
  simp only [toJsonValue_json, Except.ok.injEq, exists_eq_left', sorted]
  cases v.json.dumps <;> simp [eq_comm]

theorem canonicalJsonText_json {text : List Char} :
    canonicalJsonText (ofValue v.json) = .ok text ↔
      ∃ line, v.json.dumps = some line ∧ text = line ++ ['\n'] := by
  rw [canonicalJsonText, bind_ok]
  constructor
  · rintro ⟨bytes, encoded, decoded⟩
    obtain ⟨line, rendered, rfl⟩ := canonicalJsonBytes_json.mp encoded
    rw [decodeUtf8_utf8] at decoded
    cases decoded
    exact ⟨line, rendered, rfl⟩
  · rintro ⟨line, rendered, rfl⟩
    refine ⟨_, canonicalJsonBytes_json.mpr ⟨line, rendered, rfl⟩, ?_⟩
    rw [decodeUtf8_utf8]

theorem loadJsonText_json {text : List Char}
    (rendered : canonicalJsonText (ofValue v.json) = .ok text) :
    loadJsonText text = .ok v.json := by
  obtain ⟨line, dumped, rfl⟩ := canonicalJsonText_json.mp rendered
  have ends : Ends ['\n'] := .of_cons (by decide)
  have parsed := loads_dumps dumped (CanonicalTree.json_readable v.canonical) rfl ends
  rw [loadJsonText, parsed]
  exact toJsonValue_json v

theorem bytes_injective {bytes : List UInt8} (first : v.bytes = .ok bytes)
    (second : w.bytes = .ok bytes) : v = w := by
  obtain ⟨text, rendered, rfl⟩ := canonicalJsonBytes_json.mp first
  obtain ⟨text', rendered', same⟩ := canonicalJsonBytes_json.mp second
  have texts : text = text' := List.append_cancel_right (utf8_injective same)
  subst texts
  have values := dumps_injective rendered rendered' (CanonicalTree.json_readable v.canonical)
    (CanonicalTree.json_readable w.canonical)
  obtain ⟨tree, canonical⟩ := v
  obtain ⟨tree', canonical'⟩ := w
  obtain rfl : tree = tree' := CanonicalTree.json_injective values
  rfl

end CanonicalValue

theorem sort_keys_order (fields : List (String × Value)) :
    (fields.map fun field => (PyStr.text field.1, field.2)).insertionSort CodeLe =
      (fields.insertionSort fun a b => NameLe a.1 b.1).map
        fun field => (PyStr.text field.1, field.2) := by
  symm
  apply List.map_insertionSort
  intro a _ b _
  exact codeLe_iff_nameLe.symm

/-- A canonical value has a text exactly when its integers have at most 4300 digits, and it is
read back from that text; the bytes determine the value; objects made of the same pairs are one
value, and objects filled in different orders have the same bytes; and the encoder orders the
fields by their UTF-8 bytes. -/
theorem canonicalValue_encoding :
    (∀ v : CanonicalValue, (∃ text, canonicalJsonText (ofValue v.json) = .ok text) ↔
      v.json.every hasDigits = true) ∧
    (∀ (v : CanonicalValue) text, canonicalJsonText (ofValue v.json) = .ok text →
      loadJsonText text = .ok v.json) ∧
    (∀ (v w : CanonicalValue) bytes, v.bytes = .ok bytes → w.bytes = .ok bytes → v = w) ∧
    (∀ pairs pairs', pairs.Perm pairs' → fromPairs pairs = fromPairs pairs') ∧
    (∀ a b : PyObject, Refilled a.object b.object → ∀ bytes,
      canonicalJsonBytes a.object = .ok bytes ↔ canonicalJsonBytes b.object = .ok bytes) ∧
    (∀ v : CanonicalValue, sortCodes v.json = v.json) ∧
    ∀ fields : List (String × Value),
      (fields.map fun field => (PyStr.text field.1, field.2)).insertionSort CodeLe =
        (fields.insertionSort fun a b => NameLe a.1 b.1).map
          fun field => (PyStr.text field.1, field.2) := by
  refine ⟨?_, ?_, ?_, ?_, ?_, ?_, sort_keys_order⟩
  · intro v
    rw [← dumps_isSome v.json (CanonicalTree.json_encodable v.tree), Option.isSome_iff_exists]
    simp only [CanonicalValue.canonicalJsonText_json]
    constructor
    · rintro ⟨text, line, rendered, -⟩
      exact ⟨line, rendered⟩
    · rintro ⟨line, rendered⟩
      exact ⟨_, line, rendered, rfl⟩
  · intro v text rendered
    exact CanonicalValue.loadJsonText_json rendered
  · intro v w bytes first second
    exact CanonicalValue.bytes_injective first second
  · intro pairs pairs' same
    exact fromPairs_perm same
  · intro a b same bytes
    constructor
    · exact canonicalJsonBytes_refilled same a.unique
    · exact canonicalJsonBytes_refilled same.symm b.unique
  · intro v
    exact CanonicalTree.sortCodes_json v.canonical

theorem canonicalJsonText_int {value : Int} (long : hasDecimal value = false) (text : List Char) :
    canonicalJsonText (ofValue (CanonicalValue.json ⟨.int value, rfl⟩)) ≠ .ok text := by
  intro rendered
  obtain ⟨line, dumped, -⟩ := CanonicalValue.canonicalJsonText_json.mp rendered
  change dumps (.int value) = some line at dumped
  rw [dumps, long] at dumped
  cases dumped

theorem hasDecimal_pow : hasDecimal ((10 ^ maxStrDigits : Nat) : Int) = false := by
  unfold hasDecimal
  rw [Int.natAbs_natCast]
  exact decide_eq_false (lt_irrefl _)

/-- The integer has one digit more than `int.__repr__` writes. -/
theorem canonicalJsonText_long_integer :
    ¬ ∀ v : CanonicalValue, ∃ text, canonicalJsonText (ofValue v.json) = .ok text ∧
      loadJsonText text = .ok v.json := by
  intro claimed
  have short : ∀ value : Int, hasDecimal value ≠ false := by
    intro value long
    obtain ⟨text, rendered, -⟩ := claimed ⟨.int value, rfl⟩
    exact canonicalJsonText_int long text rendered
  exact short _ hasDecimal_pow

end CsdFoundry.Synthesis

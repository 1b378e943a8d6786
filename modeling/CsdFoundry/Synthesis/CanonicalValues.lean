import CsdFoundry.Admission.Normal
import CsdFoundry.Encoding.RoundTrip
import CsdFoundry.Results

/-! Canonical values and their integer-only JSON text. The value orders the fields of an object
by UTF-8 bytes, the encoder orders them by code points. -/
namespace CsdFoundry.Synthesis
open Admission Admission.Value Encoding Results

/-- `CanonicalSerializationError`, or what the rendering or the encoding of a text raises. -/
inductive SerializationFailure where
  | serialization
  | rendering
  | loading (refusal : Refusal)
  deriving DecidableEq

/-- A Python object as the serializer tells them apart. A `StrEnum` is a `str`; a key that is no
`str` is `none`; a set stands in the order of its iteration. -/
inductive Object where
  | null
  | bool (value : Bool)
  | int (value : Int)
  | float
  | str (value : PyStr)
  | dataclass (fields : List (String × Object))
  | dict (members : List (Option PyStr × Object))
  | sequence (items : List Object)
  | set (items : List Object)
  | unsupported

def codePoints : PyStr → List Nat
  | .text value => value.toList.map Char.toNat
  | .lone value => value.codePoints.map Fin.val

/-- The order of `sort_keys`. -/
def CodeLe (a b : PyStr × α) : Prop := codePoints a.1 ≤ codePoints b.1

instance : DecidableRel (CodeLe (α := α)) := fun a b =>
  inferInstanceAs (Decidable (codePoints a.1 ≤ codePoints b.1))

mutual
/-- The members of every object as `sort_keys` writes them. -/
def sortCodes : Value → Value
  | .list items => .list (sortCodesItems items)
  | .dict members => .dict ((sortCodesMembers members).insertionSort CodeLe)
  | value => value

def sortCodesItems : List Value → List Value
  | [] => []
  | item :: items => sortCodes item :: sortCodesItems items

def sortCodesMembers : Dict → Dict
  | [] => []
  | member :: members => (member.1, sortCodes member.2) :: sortCodesMembers members
end

/-- `_sort_key`, with the item. -/
def sortKeyed (item : Value) : Except SerializationFailure (List UInt8 × Value) :=
  match (sortCodes item).dumps with
  | some text => .ok (utf8 text, item)
  | none => .error .rendering

def SortKeyLe (a b : List UInt8 × Value) : Prop := a.1 ≤ b.1

instance : DecidableRel SortKeyLe := fun a b => inferInstanceAs (Decidable (a.1 ≤ b.1))

mutual
/-- `serialization.to_json_value`. -/
def toJsonValue : Object → Except SerializationFailure Value
  | .null => .ok .null
  | .bool value => .ok (.bool value)
  | .int value => .ok (.int value)
  | .float => .error .serialization
  | .str value => .ok (.str value)
  | .dataclass fields => do
      let members ← collect (fieldResults fields)
      .ok (.dict members)
  | .dict members => do
      let members ← collect (memberResults members)
      .ok (.dict members)
  | .sequence items => do
      let items ← collect (itemResults items)
      .ok (.list items)
  | .set items => do
      let items ← collect (itemResults items)
      let pairs ← collect (items.map sortKeyed)
      .ok (.list ((pairs.insertionSort SortKeyLe).map (·.2)))
  | .unsupported => .error .serialization

def itemResults : List Object → List (Except SerializationFailure Value)
  | [] => []
  | item :: items => toJsonValue item :: itemResults items

def fieldResults : List (String × Object) → List (Except SerializationFailure (PyStr × Value))
  | [] => []
  | (name, field) :: fields =>
      (toJsonValue field).map (fun value => (.text name, value)) :: fieldResults fields

def memberResults : List (Option PyStr × Object) →
    List (Except SerializationFailure (PyStr × Value))
  | [] => []
  | (some key, item) :: members =>
      (toJsonValue item).map (fun value => (key, value)) :: memberResults members
  | (none, _) :: members => .error .serialization :: memberResults members
end

/-- `canonical_json_bytes`. -/
def canonicalJsonBytes (object : Object) : Except SerializationFailure (List UInt8) := do
  let normalized ← toJsonValue object
  match (sortCodes normalized).dumps with
  | some text => .ok (utf8 (text ++ ['\n']))
  | none => .error .rendering

/-- `canonical_json_text`. -/
def canonicalJsonText (object : Object) : Except SerializationFailure (List Char) := do
  let bytes ← canonicalJsonBytes object
  match decodeUtf8 bytes with
  | some text => .ok text
  | none => .error .rendering

mutual
/-- A JSON value as an object. -/
def ofValue : Value → Object
  | .null => .null
  | .bool value => .bool value
  | .int value => .int value
  | .float _ => .float
  | .str value => .str value
  | .list items => .sequence (ofValueItems items)
  | .dict members => .dict (ofValueMembers members)

def ofValueItems : List Value → List Object
  | [] => []
  | item :: items => ofValue item :: ofValueItems items

def ofValueMembers : Dict → List (Option PyStr × Object)
  | [] => []
  | (key, value) :: members => (some key, ofValue value) :: ofValueMembers members
end

/-- `load_json_text` of a text without lone surrogates. -/
def loadJsonText (text : List Char) : Except SerializationFailure Value :=
  match loads text with
  | .ok parsed => toJsonValue (ofValue parsed)
  | .error refusal => .error (.loading refusal)

/-- The values that the dataclasses hold; a string that UTF-8 cannot encode is refused when a
value is made. -/
inductive CanonicalTree where
  | null
  | bool (value : Bool)
  | int (value : Int)
  | str (value : String)
  | array (values : List CanonicalTree)
  | object (fields : List (String × CanonicalTree))

/-- Unsigned UTF-8 byte order. -/
def NameLe (a b : String) : Prop := utf8 a.toList ≤ utf8 b.toList

instance : DecidableRel NameLe := fun a b =>
  inferInstanceAs (Decidable (utf8 a.toList ≤ utf8 b.toList))

/-- The checks of `CanonicalObject.__post_init__`. -/
def isOrdered (names : List String) : Bool := names.Nodup && names = names.insertionSort NameLe

namespace CanonicalTree

mutual
def isCanonical : CanonicalTree → Bool
  | .array values => isCanonicalValues values
  | .object fields => isOrdered (fields.map (·.1)) && isCanonicalFields fields
  | _ => true

def isCanonicalValues : List CanonicalTree → Bool
  | [] => true
  | value :: values => isCanonical value && isCanonicalValues values

def isCanonicalFields : List (String × CanonicalTree) → Bool
  | [] => true
  | (name, value) :: fields => name ≠ "" && isCanonical value && isCanonicalFields fields
end

mutual
/-- `canonical_to_json_value`. -/
def json : CanonicalTree → Value
  | .null => .null
  | .bool value => .bool value
  | .int value => .int value
  | .str value => .str (.text value)
  | .array values => .list (jsonValues values)
  | .object fields => .dict (jsonFields fields)

def jsonValues : List CanonicalTree → List Value
  | [] => []
  | value :: values => json value :: jsonValues values

def jsonFields : List (String × CanonicalTree) → Dict
  | [] => []
  | (name, value) :: fields => (.text name, json value) :: jsonFields fields
end

end CanonicalTree

structure CanonicalValue where
  tree : CanonicalTree
  canonical : tree.isCanonical = true

structure CanonicalField where
  name : String
  value : CanonicalValue
  named : name ≠ ""

inductive CanonicalValueError where
  | canonicalValue
  deriving DecidableEq

def canonicalField (name : PyStr) (value : CanonicalValue) :
    Except CanonicalValueError CanonicalField :=
  match name with
  | .text name => if named : name ≠ "" then .ok ⟨name, value, named⟩ else .error .canonicalValue
  | .lone _ => .error .canonicalValue

def CanonicalField.pair (field : CanonicalField) : String × CanonicalTree :=
  (field.name, field.value.tree)

theorem isCanonicalFields_pairs (fields : List CanonicalField) :
    CanonicalTree.isCanonicalFields (fields.map CanonicalField.pair) = true := by
  induction fields with
  | nil => rfl
  | cons field fields ih =>
      have head : (decide (field.name ≠ "") && field.value.tree.isCanonical) = true := by
        rw [field.value.canonical, Bool.and_true]
        exact decide_eq_true field.named
      rw [List.map_cons, CanonicalField.pair, CanonicalTree.isCanonicalFields, head, ih]
      rfl

theorem isCanonicalValues_trees (values : List CanonicalValue) :
    CanonicalTree.isCanonicalValues (values.map CanonicalValue.tree) = true := by
  induction values with
  | nil => rfl
  | cons value values ih =>
      rw [List.map_cons, CanonicalTree.isCanonicalValues, value.canonical, ih]
      rfl

def canonicalArray (values : List CanonicalValue) : CanonicalValue :=
  ⟨.array (values.map CanonicalValue.tree), isCanonicalValues_trees values⟩

def canonicalObject (fields : List CanonicalField) : Except CanonicalValueError CanonicalValue :=
  if ordered : isOrdered ((fields.map CanonicalField.pair).map (·.1)) = true then
    .ok ⟨.object (fields.map CanonicalField.pair), by
      rw [CanonicalTree.isCanonical, ordered, isCanonicalFields_pairs]
      rfl⟩
  else .error .canonicalValue

def FieldLe (a b : CanonicalField) : Prop := NameLe a.name b.name

instance : DecidableRel FieldLe := fun a b => inferInstanceAs (Decidable (NameLe a.name b.name))

/-- `CanonicalObject.from_pairs`. -/
def fromPairs (pairs : List (PyStr × CanonicalValue)) :
    Except CanonicalValueError CanonicalValue := do
  let fields ← collect (pairs.map fun pair => canonicalField pair.1 pair.2)
  canonicalObject (fields.insertionSort FieldLe)

namespace CanonicalValue

/-- `to_json_value`. -/
def json (value : CanonicalValue) : Value := value.tree.json

/-- `canonical_value_bytes`. -/
def bytes (value : CanonicalValue) : Except SerializationFailure (List UInt8) :=
  canonicalJsonBytes (ofValue value.json)

end CanonicalValue

mutual
/-- A dict has one member for each key, and so does a dataclass for each field. -/
def Object.isUnique : Object → Bool
  | .dataclass fields => (fields.map (·.1)).Nodup && fieldsUnique fields
  | .dict members => (members.filterMap (·.1)).Nodup && membersUnique members
  | .sequence items => itemsUnique items
  | .set items => itemsUnique items
  | _ => true

def itemsUnique : List Object → Bool
  | [] => true
  | item :: items => item.isUnique && itemsUnique items

def fieldsUnique : List (String × Object) → Bool
  | [] => true
  | (_, field) :: fields => field.isUnique && fieldsUnique fields

def membersUnique : List (Option PyStr × Object) → Bool
  | [] => true
  | (_, item) :: members => item.isUnique && membersUnique members
end

/-- An object as Python holds it. -/
structure PyObject where
  object : Object
  unique : object.isUnique = true

/-- Objects that differ by the orders in which dicts and sets were filled. -/
inductive Refilled : Object → Object → Prop where
  | refl {object : Object} : Refilled object object
  | trans {a b c : Object} : Refilled a b → Refilled b c → Refilled a c
  | dict {members members' : List (Option PyStr × Object)} :
      members.Perm members' → Refilled (.dict members) (.dict members')
  | set {items items' : List Object} : items.Perm items' → Refilled (.set items) (.set items')
  | member {key : Option PyStr} {a b : Object} {front back : List (Option PyStr × Object)} :
      Refilled a b →
      Refilled (.dict (front ++ (key, a) :: back)) (.dict (front ++ (key, b) :: back))
  | field {name : String} {a b : Object} {front back : List (String × Object)} :
      Refilled a b →
      Refilled (.dataclass (front ++ (name, a) :: back)) (.dataclass (front ++ (name, b) :: back))
  | item {a b : Object} {front back : List Object} :
      Refilled a b → Refilled (.sequence (front ++ a :: back)) (.sequence (front ++ b :: back))
  | element {a b : Object} {front back : List Object} :
      Refilled a b → Refilled (.set (front ++ a :: back)) (.set (front ++ b :: back))

end CsdFoundry.Synthesis

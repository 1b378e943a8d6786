import CsdFoundry.Encoding.Utf8
import CsdFoundry.Encoding.RoundTrip
import CsdFoundry.Results

/-! Canonical JSON under any frozen schema. The schema is itself a JSON value, which declares
what the collections of a document are and may be malformed. -/
namespace CsdFoundry.Governance
open Admission Admission.Value Encoding Results

/-- `GovernanceContractError` by its code, the `UnicodeEncodeError` of the last encoding, or
the `AttributeError` or `TypeError` that a malformed schema leads to. -/
inductive Failure where
  | contract (code : String)
  | unicodeEncode
  | malformedSchema
  deriving DecidableEq

def canonicalizationFailed : Failure := .contract "CANONICALIZATION_FAILED"

inductive CollectionKind where
  | set
  | multiset
  | orderedSequence
  deriving DecidableEq

/-- `schema.get(name)`, and nothing when the schema is no dict. -/
def declared (schema : Value) (name : String) : Option Value :=
  match schema with
  | .dict members => members.lookup (.text name)
  | _ => none

/-- `properties.get(key, {})`. -/
def propertySchema (schema : Value) (key : PyStr) : Except Failure Value :=
  match declared schema "properties" with
  | none => .ok (.dict [])
  | some (.dict properties) => .ok ((properties.lookup key).getD (.dict []))
  | some _ => .error .malformedSchema

/-- `schema.get("items", {})`. -/
def itemSchema (schema : Value) : Value := (declared schema "items").getD (.dict [])

/-- The kind of a list. A list or a dict in its place is not hashable. -/
def collectionKind (schema : Value) : Except Failure CollectionKind :=
  match schema with
  | .dict _ =>
      match declared schema "x-csd-collection-kind" with
      | none => .ok .orderedSequence
      | some (.str (.text kind)) =>
          if kind = "SET" then .ok .set
          else if kind = "MULTISET" then .ok .multiset
          else if kind = "ORDERED_SEQUENCE" then .ok .orderedSequence
          else .error (.contract "UNKNOWN_COLLECTION_KIND")
      | some (.list _) | some (.dict _) => .error .malformedSchema
      | some _ => .error (.contract "UNKNOWN_COLLECTION_KIND")
  | _ => .error .malformedSchema

/-- `key.encode("utf-8")` where it succeeds. -/
def keyBytes : PyStr → List UInt8
  | .text key => utf8 key.toList
  | .lone _ => []

def KeyBytesLe (a b : PyStr × α) : Prop := keyBytes a.1 ≤ keyBytes b.1

instance : DecidableRel (KeyBytesLe (α := α)) := fun a b =>
  inferInstanceAs (Decidable (keyBytes a.1 ≤ keyBytes b.1))

def schemaVersion : PyStr := .text "schema_version"

/-- `_ordered_keys`. -/
def orderedKeys (members : List (PyStr × α)) : Except Failure (List (PyStr × α)) :=
  let first := members.filter fun member => member.1 = schemaVersion
  let keys := members.filter fun member => member.1 ≠ schemaVersion
  if keys.all (fun member => isText member.1) = true then
    .ok (first ++ keys.insertionSort KeyBytesLe)
  else .error canonicalizationFailed

/-- A member with the bytes it is sorted by. -/
def keyed (item : Value) : Except Failure (List UInt8 × Value) :=
  match item.dumps with
  | some text => .ok (utf8 text, item)
  | none => .error canonicalizationFailed

def BytesLe (a b : List UInt8 × Value) : Prop := a.1 ≤ b.1

instance : DecidableRel BytesLe := fun a b => inferInstanceAs (Decidable (a.1 ≤ b.1))

/-- The members of a collection in the order of its kind. -/
def arrange (kind : CollectionKind) (items : List Value) : Except Failure (List Value) :=
  match kind with
  | .orderedSequence => .ok items
  | kind => do
      let pairs ← collect (items.map keyed)
      let sorted := pairs.insertionSort BytesLe
      if kind = .set ∧ ¬ (sorted.map (·.1)).IsChain (· ≠ ·) then
        .error (.contract "DUPLICATE_SET_MEMBER")
      else .ok (sorted.map (·.2))

mutual
/-- `_normalize`. -/
def normalize : Value → Value → Except Failure Value
  | .float _, _ => .error (.contract "FLOAT_PROHIBITED")
  | .dict members, schema => do
      let ordered ← orderedKeys (normalizeMembers members schema)
      let members ← collect (ordered.map fun member => member.2.map fun value => (member.1, value))
      .ok (.dict members)
  | .list items, schema => do
      let items ← collect (normalizeItems items (itemSchema schema))
      let kind ← collectionKind schema
      let items ← arrange kind items
      .ok (.list items)
  | value, _ => .ok value

def normalizeItems : List Value → Value → List (Except Failure Value)
  | [], _ => []
  | item :: items, schema => normalize item schema :: normalizeItems items schema

def normalizeMembers : Dict → Value → List (PyStr × Except Failure Value)
  | [], _ => []
  | (key, value) :: members, schema =>
      (key, (propertySchema schema key).bind (normalize value)) :: normalizeMembers members schema
end

/-- The handler turns the `ValueError` of a number with too many digits into a contract error;
the encoding stands after it. -/
def canonicalBytes (value schema : Value) : Except Failure (List UInt8) :=
  match schema with
  | .dict _ => do
      let normal ← normalize value schema
      if normal.every hasDigits = true then
        match normal.dumps with
        | some rendered => .ok (utf8 (rendered ++ ['\n']))
        | none => .error .unicodeEncode
      else .error canonicalizationFailed
  | _ => .error (.contract "SCHEMA_TYPE_INVALID")

/-- A dict has one member for each key. -/
def hasUniqueKeys : Value → Bool
  | .dict members => (members.map (·.1)).Nodup
  | _ => true

/-- A JSON value as Python holds it. -/
structure Document where
  value : Value
  unique : value.every hasUniqueKeys = true

/-- Two values that differ by the order of keys, and by the order of members in collections
that the schema declares to have none. -/
inductive Same : Value → Value → Value → Prop where
  | refl {schema value : Value} : Same schema value value
  | trans {schema a b c : Value} : Same schema a b → Same schema b c → Same schema a c
  | keys {schema : Value} {members members' : Dict} :
      members.Perm members' → Same schema (.dict members) (.dict members')
  | order {schema : Value} {kind : CollectionKind} {items items' : List Value} :
      collectionKind schema = .ok kind → kind ≠ .orderedSequence → items.Perm items' →
      Same schema (.list items) (.list items')
  | member {schema inner a b : Value} {key : PyStr} {front back : Dict} :
      propertySchema schema key = .ok inner → Same inner a b →
      Same schema (.dict (front ++ (key, a) :: back)) (.dict (front ++ (key, b) :: back))
  | item {schema a b : Value} {front back : List Value} :
      Same (itemSchema schema) a b →
      Same schema (.list (front ++ a :: back)) (.list (front ++ b :: back))

/-- A value within a document, with the schema that applies to it. -/
inductive Within (schema value : Value) : Value → Value → Prop where
  | whole : Within schema value schema value
  | member {outer inner : Value} {members : Dict} {member : PyStr × Value} :
      Within schema value outer (.dict members) → member ∈ members →
      propertySchema outer member.1 = .ok inner → Within schema value inner member.2
  | item {outer item : Value} {items : List Value} :
      Within schema value outer (.list items) → item ∈ items →
      Within schema value (itemSchema outer) item

end CsdFoundry.Governance

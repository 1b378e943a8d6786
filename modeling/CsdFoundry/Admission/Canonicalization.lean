import CsdFoundry.StableSort
import CsdFoundry.Admission.Value
import CsdFoundry.Digest

/-! Canonical JSON under a frozen schema. Canonical bytes are represented by the JSON value
that they are the text of. The text itself is needed to order the members of a set, and for
the digests of inputs that are no contracts. -/
namespace CsdFoundry.Admission

/-- What a call raises: `GovernanceContractError` by its code, the `UnicodeEncodeError` of an
encoding outside every handler, an exception of the schema library that is not handled, such as
the `ValueError` of a message that cannot be written, a conflict or refusal of the store, or a
failure of the file system. -/
inductive Raise where
  | governance (code : String)
  | unicodeEncode
  | schemaLibrary
  | storeConflict (reason : String)
  | os
  deriving DecidableEq

/-- The schemas of single values that the contracts use. -/
inductive Scalar where
  | const (value : String)
  | oneOf (values : List String)
  | token
  | digest
  | minLength (length : Nat)
  | minimum (bound : Int)

inductive Item where
  | scalar (schema : Scalar)
  | record (fields : List (String × Scalar))

/-- The schemas of the members of a contract. A set holds at least one item. -/
inductive Property where
  | scalar (schema : Scalar)
  | object
  | set (items : Item)

end CsdFoundry.Admission

namespace CsdFoundry.Admission.Value

/-- The escapes that JSON has under `ensure_ascii=False`. -/
def escape (c : Char) : List Char :=
  if c = '"' then ['\\', '"']
  else if c = '\\' then ['\\', '\\']
  else if c = '\n' then ['\\', 'n']
  else if c = '\r' then ['\\', 'r']
  else if c = '\t' then ['\\', 't']
  else if c.toNat = 8 then ['\\', 'b']
  else if c.toNat = 12 then ['\\', 'f']
  else if c.toNat < 32 then
    ['\\', 'u', '0', '0', (c.toNat / 16).digitChar, (c.toNat % 16).digitChar]
  else [c]

def quoted : PyStr → Option (List Char)
  | .text value => some ('"' :: (value.toList.flatMap escape ++ ['"']))
  | .lone _ => none

mutual
/-- The bytes of `json.dumps` with the separators `,` and `:`, unless the rendering or the
encoding raises. -/
def dumps : Value → Option (List Char)
  | .null => some "null".toList
  | .bool true => some "true".toList
  | .bool false => some "false".toList
  | .int value =>
      if hasDecimal value = true then some (toString value).toList else none
  | .float repr => repr.map String.toList
  | .str value => quoted value
  | .list items => (dumpsItems items).map fun text => '[' :: (text ++ [']'])
  | .dict members => (dumpsMembers members).map fun text => '\x7b' :: (text ++ ['\x7d'])

def dumpsItems : List Value → Option (List Char)
  | [] => some []
  | [item] => dumps item
  | item :: items => (dumps item).bind fun first =>
      (dumpsItems items).map fun rest => first ++ ',' :: rest

def dumpsMembers : Dict → Option (List Char)
  | [] => some []
  | [(key, value)] => (quoted key).bind fun name => (dumps value).map fun text => name ++ ':' :: text
  | (key, value) :: members => (quoted key).bind fun name => (dumps value).bind fun text =>
      (dumpsMembers members).map fun rest => name ++ ':' :: (text ++ ',' :: rest)
end

end CsdFoundry.Admission.Value

namespace CsdFoundry.Admission
open Value

def canonicalizationFailed : Raise := .governance "CANONICALIZATION_FAILED"

/-- `_normalize` of a frozen value under the empty schema. The keys are encoded to be sorted. -/
def normalizeFree (value : Value) : Except Raise Value :=
  if value.every hasTextKeys = true then .ok value.sortKeys else .error canonicalizationFailed

/-- The bytes by which a member of a set is sorted. -/
def setKey (item : Value) : List Char := item.dumps.getD []

def SetLe (a b : Value) : Prop := setKey a ≤ setKey b

instance : DecidableRel SetLe := fun a b => inferInstanceAs (Decidable (setKey a ≤ setKey b))

instance : IsTrans Value SetLe := ⟨fun _ _ _ first second => le_trans first second⟩

instance : Std.Total (α := Value) SetLe := ⟨fun a b => le_total (setKey a) (setKey b)⟩

/-- `_normalize` of a list under a schema of kind `SET`. -/
def normalizeSet (items : List Value) : Except Raise (List Value) :=
  let normal := items.map sortKeys
  let sorted := normal.insertionSort SetLe
  if ¬ items.all (every hasTextKeys) then .error canonicalizationFailed
  else if ¬ normal.all (fun item => item.dumps.isSome) then .error canonicalizationFailed
  else if ¬ (sorted.map setKey).IsChain (· ≠ ·) then .error (.governance "DUPLICATE_SET_MEMBER")
  else .ok sorted

def normalizeMember : Option Property → Value → Except Raise Value
  | some (.set _), .list items => (normalizeSet items).map .list
  | _, value => normalizeFree value

def propertyOf (properties : List (String × Property)) : PyStr → Option Property
  | .text key => properties.lookup key
  | .lone _ => none

def normalizeEach (properties : List (String × Property)) : Dict → Except Raise Dict
  | [] => .ok []
  | (key, value) :: members => do
      let value ← normalizeMember (propertyOf properties key) value
      let members ← normalizeEach properties members
      .ok ((key, value) :: members)

/-- `_normalize` of a frozen object under the schema of its contract. -/
def normalize (properties : List (String × Property)) (members : Dict) : Except Raise Dict :=
  if hasTextKeys (.dict members) = true then
    normalizeEach properties (members.insertionSort MemberLe)
  else .error canonicalizationFailed

/-- The encoding stands after the `try` statement, so its error escapes. -/
def canonicalBytes (properties : List (String × Property)) (members : Dict) :
    Except Raise JsonObject := do
  let normal ← normalize properties members
  if everyMember hasDigits normal = true then
    match encodeMembers normal with
    | some json => .ok json
    | none => .error .unicodeEncode
  else .error canonicalizationFailed

/-- `unsigned.pop(digest_field, None)`. -/
def unsigned (digestField : String) (members : Dict) : Dict :=
  members.filter (fun member => member.1 ≠ .text digestField)

def domainDigest {D : Type} [Sha256 D] (properties : List (String × Property))
    (digestField domainPrefix : String) (members : Dict) : Except Raise D := do
  let json ← canonicalBytes properties (unsigned digestField members)
  .ok (Sha256.sha256 domainPrefix [.json (.obj json)])

end CsdFoundry.Admission

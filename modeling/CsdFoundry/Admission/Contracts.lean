import CsdFoundry.Registry.Contracts
import CsdFoundry.Admission.Canonicalization
import CsdFoundry.Results

/-! The five contracts that event admission handles: their schemas, their digests, and the
validated objects. -/
namespace CsdFoundry.Admission
open Temporal (schemaToken)
open Registry (schemaDigest)

inductive ContractName where
  | rawEvent
  | signatureSet
  | validationPolicy
  | validatedEvent
  | eventValidationFailure
  deriving DecidableEq

inductive FailureCode where
  | authorityScopeRejected
  | rawDigestMismatch
  | rawSchemaRejected
  | signatureAlgorithmNotAllowed
  | signatureDigestMismatch
  | signatureInvalid
  | signatureThresholdNotMet
  | validationContextNotCommitted
  | validationContextUnavailable
  | validationPolicyNotAllowed
  deriving DecidableEq

def FailureCode.text : FailureCode → String
  | .authorityScopeRejected => "AUTHORITY_SCOPE_REJECTED"
  | .rawDigestMismatch => "RAW_DIGEST_MISMATCH"
  | .rawSchemaRejected => "RAW_SCHEMA_REJECTED"
  | .signatureAlgorithmNotAllowed => "SIGNATURE_ALGORITHM_NOT_ALLOWED"
  | .signatureDigestMismatch => "SIGNATURE_DIGEST_MISMATCH"
  | .signatureInvalid => "SIGNATURE_INVALID"
  | .signatureThresholdNotMet => "SIGNATURE_THRESHOLD_NOT_MET"
  | .validationContextNotCommitted => "VALIDATION_CONTEXT_NOT_COMMITTED"
  | .validationContextUnavailable => "VALIDATION_CONTEXT_UNAVAILABLE"
  | .validationPolicyNotAllowed => "VALIDATION_POLICY_NOT_ALLOWED"

/-- In the order of their texts. -/
def FailureCode.all : List FailureCode :=
  [.authorityScopeRejected, .rawDigestMismatch, .rawSchemaRejected, .signatureAlgorithmNotAllowed,
    .signatureDigestMismatch, .signatureInvalid, .signatureThresholdNotMet,
    .validationContextNotCommitted, .validationContextUnavailable, .validationPolicyNotAllowed]

def signatureAlgorithms : List String := ["ed25519", "ecdsa-p256-sha256", "rsa-pss-sha256"]

def signatureFields : List (String × Scalar) :=
  [("signer_id", .token), ("key_id", .token), ("algorithm", .oneOf signatureAlgorithms),
    ("signed_digest", .digest), ("signature_base64", .minLength 4), ("authority_scope", .token)]

namespace ContractName

def digestField : ContractName → String
  | rawEvent => "raw_event_digest"
  | signatureSet => "signature_set_digest"
  | validationPolicy => "policy_digest"
  | validatedEvent => "validated_event_digest"
  | eventValidationFailure => "failure_receipt_digest"

def domainPrefix : ContractName → String
  | rawEvent => "RAW_EVENT"
  | signatureSet => "SIGNATURE_SET"
  | validationPolicy => "VALIDATION_POLICY"
  | validatedEvent => "VALIDATED_EVENT"
  | eventValidationFailure => "EVENT_VALIDATION_FAILURE"

/-- The schema. All members are required and no other is allowed. -/
def properties : ContractName → List (String × Property)
  | rawEvent => [
      ("schema_version", .scalar (.const "raw-event/1")),
      ("event_id", .scalar .token),
      ("event_type", .scalar .token),
      ("payload_schema_version", .scalar .token),
      ("payload", .object),
      ("submitted_against_tick", .scalar (.minimum 0)),
      ("raw_event_digest", .scalar .digest)]
  | signatureSet => [
      ("schema_version", .scalar (.const "signature-set/1")),
      ("signatures", .set (.record signatureFields)),
      ("signature_set_digest", .scalar .digest)]
  | validationPolicy => [
      ("schema_version", .scalar (.const "validation-policy/1")),
      ("policy_id", .scalar .token),
      ("policy_version", .scalar (.minimum 1)),
      ("canonicalization_policy_digest", .scalar .digest),
      ("authority_policy_digest", .scalar .digest),
      ("accepted_raw_event_schemas", .set (.scalar .token)),
      ("allowed_signature_algorithms", .set (.scalar (.oneOf signatureAlgorithms))),
      ("minimum_signature_count", .scalar (.minimum 1)),
      ("policy_digest", .scalar .digest)]
  | validatedEvent => [
      ("schema_version", .scalar (.const "validated-event/1")),
      ("raw_event_digest", .scalar .digest),
      ("validation_policy_digest", .scalar .digest),
      ("signature_set_digest", .scalar .digest),
      ("validation_result", .scalar (.const "ACCEPTED")),
      ("validated_at_tick", .scalar (.minimum 0)),
      ("validated_event_digest", .scalar .digest)]
  | eventValidationFailure => [
      ("schema_version", .scalar (.const "event-validation-failure/1")),
      ("raw_event_digest", .scalar .digest),
      ("validation_policy_digest", .scalar .digest),
      ("signature_set_digest", .scalar .digest),
      ("validated_at_tick", .scalar (.minimum 0)),
      ("failure_codes", .set (.scalar (.oneOf (FailureCode.all.map FailureCode.text)))),
      ("failure_receipt_digest", .scalar .digest)]

end ContractName

/-- An object with exactly these members, each valid. The keys of a `dict` are distinct. -/
def closed (accepts : σ → Value → Bool) (fields : List (String × σ)) (members : Dict) : Bool :=
  (members.map (·.1)).Nodup && members.all (fun member => fields.any (fun field => member.1 == .text field.1)) &&
    fields.all (fun field => (members.lookup (.text field.1)).any (accepts field.2))

section Schemas
variable (D : Type) [DigestText D]

def Scalar.accepts : Scalar → Value → Bool
  | .const value, .str (.text text) => text == value
  | .oneOf values, .str (.text text) => values.contains text
  | .token, .str (.text text) => schemaToken text
  | .digest, .str (.text text) => schemaDigest D text
  | .minLength length, .str text => length ≤ text.length
  | .minimum bound, .int value => bound ≤ value
  | _, _ => false

def Item.accepts : Item → Value → Bool
  | .scalar schema, value => schema.accepts D value
  | .record fields, .dict members => closed (Scalar.accepts D) fields members
  | .record _, _ => false

def Property.accepts : Property → Value → Bool
  | .scalar schema, value => schema.accepts D value
  | .object, .dict _ => true
  | .set items, .list values => !values.isEmpty && values.all (items.accepts D)
  | _, _ => false

/-- Whether the value has no error under the schema. -/
def ContractName.accepts (kind : ContractName) (members : Dict) : Bool :=
  closed (Property.accepts D) kind.properties members

/-- A validation error whose message writes the value out, as Python does not do with an integer
of more than 4300 digits. -/
def refuse (value : Value) : Except Raise Unit :=
  .error (if value.every Value.hasDigits = true then .governance "SCHEMA_REJECTED"
    else .schemaLibrary)

/-- The message of a `const` writes the constant alone. -/
def Scalar.check (schema : Scalar) (value : Value) : Except Raise Unit :=
  if schema.accepts D value = true then .ok ()
  else
    match schema with
    | .const _ => .error (.governance "SCHEMA_REJECTED")
    | _ => refuse value

/-- A property is checked where it is present. -/
def checkMember (check : σ → Value → Except Raise Unit) (members : Dict) (field : String × σ) :
    Except Raise Unit :=
  match members.lookup (.text field.1) with
  | some value => check field.2 value
  | none => .ok ()

/-- `additionalProperties`, `properties` and `required`, in this order. -/
def checkClosed (check : σ → Value → Except Raise Unit) (fields : List (String × σ))
    (members : Dict) : Except Raise Unit := do
  Results.ensure ((members.map (·.1)).Nodup ∧
    members.all (fun member => fields.any (fun field => member.1 == .text field.1)) = true)
    (.governance "SCHEMA_REJECTED")
  Results.checkAll (checkMember check members) fields
  Results.ensure (fields.all (fun field => (members.lookup (.text field.1)).isSome) = true)
    (.governance "SCHEMA_REJECTED")

def Item.check : Item → Value → Except Raise Unit
  | .scalar schema, value => schema.check D value
  | .record fields, .dict members => checkClosed (Scalar.check D) fields members
  | .record _, value => refuse value

def Property.check : Property → Value → Except Raise Unit
  | .scalar schema, value => schema.check D value
  | .object, .dict _ => .ok ()
  | .set _, .list [] => refuse (.list [])
  | .set items, .list values => Results.checkAll (items.check D) values
  | _, value => refuse value

/-- `Draft202012Validator(schema).validate`: the first error is raised, with its message. -/
def ContractName.check (kind : ContractName) (members : Dict) : Except Raise Unit :=
  checkClosed (Property.check D) kind.properties members

end Schemas

variable {D : Type} [DigestText D] [Sha256 D]

def ContractName.canonical (kind : ContractName) (members : Dict) : Except Raise JsonObject :=
  canonicalBytes kind.properties members

def ContractName.expected (kind : ContractName) (members : Dict) : Except Raise D :=
  domainDigest kind.properties kind.digestField kind.domainPrefix members

/-- `members[key]` where it is a text. -/
def textAt (members : Dict) (key : String) : Option String :=
  match members.lookup (.text key) with
  | some (.str (.text value)) => some value
  | _ => none

/-- `_semantic_validate`, as far as it concerns these contracts. -/
def semanticValidate (kind : ContractName) (members : Dict) : Except Raise Unit :=
  if kind = .validatedEvent ∧ textAt members "validation_result" ≠ some "ACCEPTED" then
    .error (.governance "VALIDATION_RESULT_NOT_ACCEPTED")
  else .ok ()

variable (D) in
/-- `__post_init__`. -/
def ContractName.validate (kind : ContractName) (members : Dict) : Except Raise Unit := do
  kind.check D members
  semanticValidate kind members
  let expected : D ← kind.expected members
  if textAt members kind.digestField = some (DigestText.text expected) then .ok ()
  else .error (.governance "DIGEST_MISMATCH")

variable (D) in
/-- A contract: its value has passed every check. -/
structure ContractObject (kind : ContractName) where
  value : Dict
  frozen : Value.everyMember (fun value => !value.isFloat) value = true
  valid : kind.validate D value = .ok ()

namespace ContractObject
variable {kind : ContractName}

def fromJson (kind : ContractName) (members : Dict) : Except Raise (ContractObject D kind) :=
  if frozen : Value.everyMember (fun value => !value.isFloat) members = true then
    match valid : kind.validate D members with
    | .ok () => .ok ⟨members, frozen, valid⟩
    | .error e => .error e
  else .error (.governance "FLOAT_PROHIBITED")

def build (kind : ContractName) (members : Dict) : Except Raise (ContractObject D kind) :=
  if members.any (fun member => member.1 == .text kind.digestField) = true then
    .error (.governance "DIGEST_FIELD_ALREADY_PRESENT")
  else do
    let digest : D ← kind.expected members
    fromJson kind (members ++ [(.text kind.digestField, .str (.text (DigestText.text digest)))])

def canonicalBytes (object : ContractObject D kind) : Except Raise JsonObject :=
  kind.canonical object.value

/-- The empty text stands for a member that is missing or no text, which a validated object
does not have. -/
def text (object : ContractObject D kind) (key : String) : String :=
  (textAt object.value key).getD ""

def digest (object : ContractObject D kind) : String := object.text kind.digestField

def int (object : ContractObject D kind) (key : String) : Int :=
  match object.value.lookup (.text key) with
  | some (.int value) => value
  | _ => 0

def list (object : ContractObject D kind) (key : String) : List Value :=
  match object.value.lookup (.text key) with
  | some (.list items) => items
  | _ => []

end ContractObject

/-- `parse_contract`. -/
def parseContract (kind : ContractName) (members : Dict) : Except Raise (ContractObject D kind) :=
  ContractObject.fromJson kind members

end CsdFoundry.Admission

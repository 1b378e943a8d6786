import CsdFoundry.Admission.Store

/-! Event admission: a dozen checks collect failure codes over inputs that may be parsed only
in part, and the call ends in one receipt. -/
namespace CsdFoundry.Admission
open Storage

/-- An input: a contract or an untrusted object. -/
inductive Submission (D : Type) [DigestText D] [Sha256 D] (kind : ContractName) where
  | object (contract : ContractObject D kind)
  | dict (members : Dict)

structure SignatureRecord where
  signerId : PyStr
  keyId : PyStr
  algorithm : PyStr
  signedDigest : PyStr
  signatureBase64 : PyStr
  authorityScope : PyStr
  deriving DecidableEq

/-- How the validation of a payload by the schema library ends: without an error, with one of
the two errors that are handled, or otherwise. -/
inductive PayloadVerdict where
  | valid
  | invalid
  | raised
  deriving DecidableEq

variable {D : Type} [DigestText D] [Sha256 D]

def strAt (members : Dict) (key : String) : Option PyStr :=
  match members.lookup (.text key) with
  | some (.str value) => some value
  | _ => none

variable (D) in
def isDigestStr : PyStr → Bool
  | .text value => DigestText.isDigest D value
  | .lone _ => false

variable (D) in
/-- `SignatureRecord.from_json`. The digest has to match as a whole, which the schema does not
ask for. -/
def SignatureRecord.fromJson : Value → Except Raise SignatureRecord
  | .dict members =>
      match strAt members "signer_id", strAt members "key_id", strAt members "algorithm",
          strAt members "signed_digest", strAt members "signature_base64",
          strAt members "authority_scope" with
      | some signerId, some keyId, some algorithm, some signedDigest, some signatureBase64,
          some authorityScope =>
          if closed (fun _ _ => true) signatureFields members = false then
            .error (.governance "SIGNATURE_INVALID")
          else if isDigestStr D signedDigest = true then
            .ok ⟨signerId, keyId, algorithm, signedDigest, signatureBase64, authorityScope⟩
          else .error (.governance "DIGEST_MISMATCH")
      | _, _, _, _, _, _ => .error (.governance "SIGNATURE_INVALID")
  | _ => .error (.governance "SIGNATURE_INVALID")

variable (D) in
/-- The resolvers and the verifier of an engine, with what they answer during one call. A
resolver that raises is `error`. -/
structure EventAdmissionEngine where
  latestCommittedTick : Except Unit (Option Int)
  resolveContext : Int → Except Unit (Option (CommittedValidationContext D))
  resolvePayloadSchema : PyStr → Except Unit (Option Dict)
  validatePayload : Dict → Value → PayloadVerdict
  verify : SignatureRecord → String → Bool
  isAuthorized : SignatureRecord → ContractObject D .validationPolicy →
    CommittedValidationContext D → Bool
  resolvePolicy : String → Except Unit (Option (ContractObject D .validationPolicy))
  isAllowed : ContractObject D .validationPolicy → CommittedValidationContext D → Bool

/-- `_coerce_contract`. -/
def coerceContract {kind : ContractName} : Submission D kind → Except Raise (ContractObject D kind)
  | .object contract => .ok contract
  | .dict members => ContractObject.fromJson kind members

def inputDomain : ContractName → String
  | .rawEvent => "UNTRUSTED_RAW_EVENT"
  | .signatureSet => "UNTRUSTED_SIGNATURE_SET"
  | _ => "UNTRUSTED_VALIDATION_POLICY"

/-- The digest of an input that is no contract. The JSON text has the keys sorted; in which
order does not matter to what the digest tells apart. -/
def inputDigest (kind : ContractName) (members : Dict) : String :=
  let text := (Value.dict members).sortKeys.dumps.map String.ofList
  DigestText.text (Sha256.sha256 (inputDomain kind) [.str (text.getD "dict")] : D)

/-- `_declared_or_input_digest`. -/
def declaredOrInputDigest {kind : ContractName} : Submission D kind → String
  | .object contract => contract.digest
  | .dict members =>
      match textAt members kind.digestField with
      | some declared =>
          if DigestText.isDigest D declared = true then declared
          else inputDigest (D := D) kind members
      | none => inputDigest (D := D) kind members

/-- `try: ... except GovernanceContractError`. -/
def attempt (onFailure : String → FailureCode) :
    Except Raise α → Except Raise (Option α × List FailureCode)
  | .ok contract => .ok (some contract, [])
  | .error (.governance code) => .ok (none, [onFailure code])
  | .error other => .error other

def rawFailure (code : String) : FailureCode :=
  if code = "DIGEST_MISMATCH" then .rawDigestMismatch else .rawSchemaRejected

def failing (condition : Prop) [Decidable condition] (code : FailureCode) : List FailureCode :=
  if condition then [code] else []

/-- What the checks before the signatures found. -/
structure Inputs (D : Type) [DigestText D] [Sha256 D] where
  rawEvent : Option (ContractObject D .rawEvent)
  signatureSet : Option (ContractObject D .signatureSet)
  validationPolicy : Option (ContractObject D .validationPolicy)
  context : Option (CommittedValidationContext D)
  codes : List FailureCode

namespace EventAdmissionEngine
variable (engine : EventAdmissionEngine D)

/-- The latest tick and the context, both missing when either resolution raises. -/
def resolve (tick : Int) : Option Int × Option (CommittedValidationContext D) :=
  match engine.latestCommittedTick, engine.resolveContext tick with
  | .ok latest, .ok context => (latest, context)
  | _, _ => (none, none)

def contextAdmissible (tick : Int) : Bool :=
  match engine.resolve tick with
  | (latest, some context) => context.committed && context.tick == tick && latest == some tick
  | (_, none) => false

def contextCodes (tick : Int) : List FailureCode :=
  match (engine.resolve tick).2 with
  | none => [.validationContextUnavailable]
  | some _ => failing (engine.contextAdmissible tick = false) .validationContextNotCommitted

/-- The registered policy, if it is registered byte for byte. -/
def registeredPolicy (policy : ContractObject D .validationPolicy) :
    Except Raise (Option (ContractObject D .validationPolicy)) :=
  match engine.resolvePolicy policy.digest with
  | .ok (some registered) => do
      let there ← registered.canonicalBytes
      let here ← policy.canonicalBytes
      .ok (if there = here then some registered else none)
  | _ => .ok none

/-- The registered policy, if it is also allowed in the context. -/
def admissiblePolicy (tick : Int) (policy : ContractObject D .validationPolicy) :
    Except Raise (Option (ContractObject D .validationPolicy) × List FailureCode) := do
  match ← engine.registeredPolicy policy with
  | none => .ok (none, [.validationPolicyNotAllowed])
  | some registered =>
      match engine.contextAdmissible tick, (engine.resolve tick).2 with
      | true, some context =>
          if engine.isAllowed registered context = true then .ok (some registered, [])
          else .ok (none, [.validationPolicyNotAllowed])
      | _, _ => .ok (none, [])

end EventAdmissionEngine

def strOf : Value → Option PyStr
  | .str value => some value
  | _ => none

/-- The texts of a list member. -/
def ContractObject.texts {kind : ContractName} (contract : ContractObject D kind) (key : String) :
    List PyStr := (contract.list key).filterMap strOf

def ContractObject.payload (raw : ContractObject D .rawEvent) : Value :=
  (raw.value.lookup (.text "payload")).getD (.dict [])

/-- What the loop over the signatures carries. -/
structure Tally where
  seen : List PyStr
  valid : List PyStr
  codes : List FailureCode

namespace EventAdmissionEngine
variable (engine : EventAdmissionEngine D)

/-- `_validate_payload`. -/
def payloadCodes (raw : ContractObject D .rawEvent) (policy : ContractObject D .validationPolicy) :
    Except Raise (List FailureCode) :=
  let version : PyStr := .text (raw.text "payload_schema_version")
  if version ∉ policy.texts "accepted_raw_event_schemas" then .ok [.rawSchemaRejected]
  else match engine.resolvePayloadSchema version with
    | .ok (some schema) =>
        match engine.validatePayload schema raw.payload with
        | .valid => .ok []
        | .invalid => .ok [.rawSchemaRejected]
        | .raised => .error .schemaLibrary
    | _ => .ok [.rawSchemaRejected]

def eventCodes (raw : ContractObject D .rawEvent) (context : CommittedValidationContext D)
    (policy : Option (ContractObject D .validationPolicy)) : Except Raise (List FailureCode) := do
  let late := failing ((context.tick : Int) < raw.int "submitted_against_tick")
    .validationContextNotCommitted
  match policy with
  | some policy => do
      let codes ← engine.payloadCodes raw policy
      .ok (late ++ codes)
  | none => .ok late

/-- The failures of one signature. Authority is only asked for under an admissible policy. -/
def recordCodes (rawDigest : String) (allowed seen : List PyStr)
    (authorised : Option (SignatureRecord → Bool)) (signature : SignatureRecord) :
    List FailureCode :=
  failing (signature.signerId ∈ seen) .signatureInvalid ++
  failing (signature.signedDigest ≠ .text rawDigest) .signatureDigestMismatch ++
  failing (signature.algorithm ∉ allowed) .signatureAlgorithmNotAllowed ++
  failing (engine.verify signature rawDigest = false) .signatureInvalid ++
  failing (authorised.any (fun allows => !allows signature) = true) .authorityScopeRejected

def countSignature (rawDigest : String) (allowed : List PyStr)
    (authorised : Option (SignatureRecord → Bool)) (tally : Tally) (signature : SignatureRecord) :
    Tally :=
  let codes := engine.recordCodes rawDigest allowed tally.seen authorised signature
  { seen := signature.signerId :: tally.seen
    valid := if codes = [] ∧ authorised.isSome then tally.valid.insert signature.signerId
      else tally.valid
    codes := tally.codes ++ codes }

def countSignatures (rawDigest : String) (allowed : List PyStr)
    (authorised : Option (SignatureRecord → Bool)) : Tally → List Value → Except Raise Tally
  | tally, [] => .ok tally
  | tally, value :: values => do
      let signature ← SignatureRecord.fromJson D value
      countSignatures rawDigest allowed authorised
        (engine.countSignature rawDigest allowed authorised tally signature) values

/-- The authority to ask, under the admissible policy. -/
def authority (tick : Int) (registered : Option (ContractObject D .validationPolicy)) :
    Option (SignatureRecord → Bool) :=
  match registered, (engine.resolve tick).2 with
  | some registered, some context =>
      some (fun signature => engine.isAuthorized signature registered context)
  | _, _ => none

/-- The loop over the signatures and the threshold. `registered` is the admissible policy. -/
def signatureCodes (tick : Int) (raw : ContractObject D .rawEvent)
    (signatures : ContractObject D .signatureSet) (policy : ContractObject D .validationPolicy)
    (registered : Option (ContractObject D .validationPolicy)) :
    Except Raise (List FailureCode) := do
  let tally ← engine.countSignatures raw.digest (policy.texts "allowed_signature_algorithms")
    (engine.authority tick registered) ⟨[], [], []⟩ (signatures.list "signatures")
  .ok (tally.codes ++ failing (registered.isSome = true ∧ engine.contextAdmissible tick = true ∧
    (tally.valid.length : Int) < policy.int "minimum_signature_count") .signatureThresholdNotMet)

def registryStep (tick : Int) : Option (ContractObject D .validationPolicy) →
    Except Raise (Option (ContractObject D .validationPolicy) × List FailureCode)
  | some policy => engine.admissiblePolicy tick policy
  | none => .ok (none, [])

def eventStep (tick : Int) (raw : Option (ContractObject D .rawEvent))
    (policy : Option (ContractObject D .validationPolicy)) : Except Raise (List FailureCode) :=
  match raw, (engine.resolve tick).2 with
  | some raw, some context => engine.eventCodes raw context policy
  | _, _ => .ok []

def signatureStep (tick : Int) (registered : Option (ContractObject D .validationPolicy)) :
    Option (ContractObject D .rawEvent) → Option (ContractObject D .signatureSet) →
    Option (ContractObject D .validationPolicy) → Except Raise (List FailureCode)
  | some raw, some signatures, some policy =>
      engine.signatureCodes tick raw signatures policy registered
  | _, _, _ => .ok []

/-- All checks of `admit`. -/
def evaluate (rawInput : Submission D .rawEvent) (signatureInput : Submission D .signatureSet)
    (policyInput : Submission D .validationPolicy) (tick : Int) : Except Raise (Inputs D) := do
  let raw ← attempt rawFailure (coerceContract rawInput)
  let signatures ← attempt (fun _ => .signatureInvalid) (coerceContract signatureInput)
  let policy ← attempt (fun _ => .validationPolicyNotAllowed) (coerceContract policyInput)
  let registered ← engine.registryStep tick policy.1
  let event ← engine.eventStep tick raw.1 policy.1
  let signed ← engine.signatureStep tick registered.1 raw.1 signatures.1 policy.1
  .ok ⟨raw.1, signatures.1, policy.1, (engine.resolve tick).2, raw.2 ++ signatures.2 ++ policy.2 ++
    engine.contextCodes tick ++ registered.2 ++ event ++ signed⟩

end EventAdmissionEngine

/-- `sorted(failure_codes)`. -/
def sortedCodes (codes : List FailureCode) : List FailureCode :=
  FailureCode.all.filter (· ∈ codes)

def failureMembers (rawDigest policyDigest signatureDigest : String) (tick : Int)
    (codes : List FailureCode) : Dict :=
  [(.text "schema_version", .str (.text "event-validation-failure/1")),
    (.text "raw_event_digest", .str (.text rawDigest)),
    (.text "validation_policy_digest", .str (.text policyDigest)),
    (.text "signature_set_digest", .str (.text signatureDigest)),
    (.text "validated_at_tick", .int tick),
    (.text "failure_codes", .list ((sortedCodes codes).map fun code => .str (.text code.text)))]

def acceptedMembers (rawDigest policyDigest signatureDigest : String) (tick : Int) : Dict :=
  [(.text "schema_version", .str (.text "validated-event/1")),
    (.text "raw_event_digest", .str (.text rawDigest)),
    (.text "validation_policy_digest", .str (.text policyDigest)),
    (.text "signature_set_digest", .str (.text signatureDigest)),
    (.text "validation_result", .str (.text "ACCEPTED")),
    (.text "validated_at_tick", .int tick)]

/-- `AdmissionOutcome`: one of the two receipts, and not the other. -/
inductive AdmissionOutcome (D : Type) [DigestText D] [Sha256 D] where
  | accepted (receipt : ContractObject D .validatedEvent)
  | failure (receipt : ContractObject D .eventValidationFailure)

def putAvailable {kind : ContractName} : Option (ContractObject D kind) → AdmissionM D Unit
  | some contract => putContract contract
  | none => pure ()

/-- `_persist_available_inputs`. -/
def persistAvailableInputs (inputs : Inputs D) : AdmissionM D Unit := do
  putAvailable inputs.rawEvent
  putAvailable inputs.signatureSet
  putAvailable inputs.validationPolicy
  match inputs.context with
  | some context => putContext context
  | none => pure ()

/-- Persist the inputs and then the receipt on them. -/
def conclude (rawInput : Submission D .rawEvent) (signatureInput : Submission D .signatureSet)
    (policyInput : Submission D .validationPolicy) (tick : Int) (inputs : Inputs D) :
    AdmissionM D (AdmissionOutcome D) :=
  if inputs.codes ≠ [] then do
    let failure ← lift (ContractObject.build .eventValidationFailure (failureMembers
      ((inputs.rawEvent.map (·.digest)).getD (declaredOrInputDigest rawInput))
      ((inputs.validationPolicy.map (·.digest)).getD (declaredOrInputDigest policyInput))
      ((inputs.signatureSet.map (·.digest)).getD (declaredOrInputDigest signatureInput))
      tick inputs.codes))
    persistAvailableInputs inputs
    putContract failure
    return .failure failure
  else match inputs.rawEvent, inputs.signatureSet, inputs.validationPolicy, inputs.context with
    | some raw, some signatures, some policy, some _ => do
        let accepted ← lift (ContractObject.build .validatedEvent
          (acceptedMembers raw.digest policy.digest signatures.digest tick))
        persistAvailableInputs inputs
        putContract accepted
        return .accepted accepted
    | _, _, _, _ => throw (.governance "ADMISSION_INTERNAL_INCOMPLETE")

/-- `EventAdmissionEngine.admit`. -/
def admitEvent (engine : EventAdmissionEngine D) (rawInput : Submission D .rawEvent)
    (signatureInput : Submission D .signatureSet) (policyInput : Submission D .validationPolicy)
    (tick : Int) : AdmissionM D (AdmissionOutcome D) := do
  .require (0 ≤ tick) (.governance "VALIDATION_CONTEXT_NOT_COMMITTED")
  let inputs ← lift (engine.evaluate rawInput signatureInput policyInput tick)
  conclude rawInput signatureInput policyInput tick inputs

end CsdFoundry.Admission

import CsdFoundry.Admission.Contracts
import CsdFoundry.Storage.Install

/-! The filesystem store of admission evidence: contracts under their digests, contexts under
their ticks. -/
namespace CsdFoundry.Admission
open Storage

/-- The context digest is a function of the other fields. The constructor computes it, so the
tick has decimal digits. -/
@[ext] structure CommittedValidationContext (D : Type) [DigestText D] where
  tick : Nat
  stateRootDigest : String
  authorityRootDigest : String
  committed : Bool
  rendered : Value.hasDecimal tick = true
  stateRoot : DigestText.isDigest D stateRootDigest = true
  authorityRoot : DigestText.isDigest D authorityRootDigest = true

instance [DigestText D] : DecidableEq (CommittedValidationContext D) := fun a b =>
  decidable_of_iff (a.tick = b.tick ∧ a.stateRootDigest = b.stateRootDigest ∧
    a.authorityRootDigest = b.authorityRootDigest ∧ a.committed = b.committed)
    CommittedValidationContext.ext_iff.symm

/-- The canonical bytes of a context are represented by the context. -/
structure EventAdmissionStore (D : Type) [DigestText D] where
  contracts : ContractName × String → Option JsonObject
  contexts : Nat → Option (CommittedValidationContext D)

variable {D : Type} [DigestText D] [Sha256 D]

abbrev AdmissionM (D : Type) [DigestText D] (α : Type) : Type :=
  Prog (EventAdmissionStore D) Raise α

namespace EventAdmissionStore

/-- The store right after construction. -/
def initial : EventAdmissionStore D := ⟨fun _ => none, fun _ => none⟩

def fileContract (key : ContractName × String) (payload : JsonObject)
    (s : EventAdmissionStore D) : EventAdmissionStore D :=
  { s with contracts := Function.update s.contracts key (some payload) }

def fileContext (context : CommittedValidationContext D) (s : EventAdmissionStore D) :
    EventAdmissionStore D :=
  { s with contexts := Function.update s.contexts context.tick (some context) }

end EventAdmissionStore
open EventAdmissionStore

def lift (result : Except Raise α) : AdmissionM D α := .done result

/-- `_atomic_install`: look first, then link. -/
def atomicInstall {β : Type} [DecidableEq β] (find : EventAdmissionStore D → Option β)
    (put : EventAdmissionStore D → EventAdmissionStore D) (payload : β) : AdmissionM D Unit := do
  match ← (.read .os (fun s => .ok (find s)) : AdmissionM D (Option β)) with
  | some stored =>
      .require (stored = payload) (.storeConflict "immutable path already contains different bytes")
  | none =>
      .install .os (.storeConflict "concurrent immutable install contains different bytes")
        find put payload

/-- `_contract_path`. -/
def contractPath (kind : ContractName) (digest : String) :
    Except Raise (ContractName × String) :=
  if DigestText.isDigest D digest = true then .ok (kind, digest)
  else .error (.storeConflict "identity must be a canonical sha256 digest")

def putContract {kind : ContractName} (contract : ContractObject D kind) : AdmissionM D Unit := do
  let path ← lift (contractPath (D := D) kind contract.digest)
  let payload ← lift contract.canonicalBytes
  atomicInstall (fun s => s.contracts path) (.fileContract path payload) payload

def putContext (context : CommittedValidationContext D) : AdmissionM D Unit :=
  atomicInstall (fun s => s.contexts context.tick) (.fileContext context) context

/-- `_parse_contract_payload`. -/
def parseContractPayload (kind : ContractName) (payload : JsonObject) :
    Except Raise (ContractObject D kind) :=
  match parseContract kind (Value.ofMembers payload) with
  | .ok contract => do
      let canonical ← contract.canonicalBytes
      if canonical = payload then .ok contract
      else .error (.storeConflict "stored contract bytes are not canonical")
  | .error (.governance _) => .error (.storeConflict "stored contract fails frozen validation")
  | .error other => .error other

def getContract (kind : ContractName) (digest : String) :
    AdmissionM D (Option (ContractObject D kind)) := do
  let path ← lift (contractPath (D := D) kind digest)
  .read .os (fun s => match s.contracts path with
    | none => .ok none
    | some payload => do
        let contract ← parseContractPayload kind payload
        if contract.digest = digest then .ok (some contract)
        else .error (.storeConflict "stored contract does not match its identity path"))

def getContext (tick : Int) : AdmissionM D (Option (CommittedValidationContext D)) := do
  .require (0 ≤ tick) (.storeConflict "context tick must be an exact nonnegative integer")
  .read .os (fun s => match s.contexts tick.toNat with
    | none => .ok none
    | some context =>
        if (context.tick : Int) = tick then .ok (some context)
        else .error (.storeConflict "stored context does not match its tick path"))

/-- `AdmissionEvidenceBundle`. -/
structure AdmissionEvidenceBundle (D : Type) [DigestText D] [Sha256 D] where
  receipt : ContractObject D .validatedEvent
  rawEvent : ContractObject D .rawEvent
  signatureSet : ContractObject D .signatureSet
  validationPolicy : ContractObject D .validationPolicy
  context : CommittedValidationContext D

def requireContract {kind : ContractName} (code : String) :
    Option (ContractObject D kind) → Except Raise (ContractObject D kind)
  | some contract => .ok contract
  | none => .error (.governance code)

def requireCommitted : Option (CommittedValidationContext D) →
    Except Raise (CommittedValidationContext D)
  | some context =>
      if context.committed = true then .ok context
      else .error (.governance "VALIDATION_CONTEXT_NOT_COMMITTED")
  | none => .error (.governance "VALIDATION_CONTEXT_NOT_COMMITTED")

/-- The receipt is a `ValidatedEvent` by its type. -/
def reconstructAccepted (receipt : ContractObject D .validatedEvent) :
    AdmissionM D (AdmissionEvidenceBundle D) := do
  let raw ← getContract .rawEvent (receipt.text "raw_event_digest")
  let raw ← lift (requireContract "RAW_EVENT_UNAVAILABLE" raw)
  let signatures ← getContract .signatureSet (receipt.text "signature_set_digest")
  let signatures ← lift (requireContract "SIGNATURE_SET_UNAVAILABLE" signatures)
  let policy ← getContract .validationPolicy (receipt.text "validation_policy_digest")
  let policy ← lift (requireContract "VALIDATION_POLICY_UNAVAILABLE" policy)
  let context ← getContext (receipt.int "validated_at_tick")
  let context ← lift (requireCommitted context)
  return ⟨receipt, raw, signatures, policy, context⟩

end CsdFoundry.Admission

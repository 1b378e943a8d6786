import CsdFoundry.Keyed
import CsdFoundry.KeyedSort
import CsdFoundry.Synthesis.ChoiceBounds

/-! Identities of entities: their derivation from a seed, the ledger that allocates them, and the
replay of its records. -/
namespace CsdFoundry.Synthesis.Identities
open Admission Admission.Value Encoding Results
open Choices hiding GenerationNamespace require
open Choices.HashBytes (sha256)

inductive IdentityFailure where
  | choice (failure : ChoiceFailure)
  | overflow
  | identity (message : String)
  | duplicateRole (message : String)
  | collision (message : String)
  | replayMismatch (message : String)
  deriving DecidableEq

/-! ### Identities and their records -/

/-- The namespace with the fields that its digest covers. -/
structure GenerationNamespace where
  release : String
  choiceAlgorithmId : String
  choiceAlgorithmVersion : Nat
  identityAlgorithmId : String
  identityAlgorithmVersion : Nat
  identitySchemaVersion : String
  targetDefinitionDigest : String
  releasePolicyDigest : String
  arithmeticPolicyDigest : String
  replayPolicyId : String
  replayPolicyVersion : Nat
  replayPolicyDigest : String
  shardPolicyId : String
  shardPolicyVersion : Nat
  shardPolicyDigest : String
  isRelease : release = "v0.4"
  isSchema : identitySchemaVersion = "csd-identity/0.4"
  tokens : [choiceAlgorithmId, identityAlgorithmId, replayPolicyId, shardPolicyId].all isToken = true
  versions : ∀ version ∈ [choiceAlgorithmVersion, identityAlgorithmVersion, replayPolicyVersion,
    shardPolicyVersion], 0 < version
  digests : [targetDefinitionDigest, releasePolicyDigest, arithmeticPolicyDigest, replayPolicyDigest,
    shardPolicyDigest].all isHexDigest = true

namespace GenerationNamespace

/-- `to_canonical_object().to_json_value()`. -/
def json (generationNamespace : GenerationNamespace) : Value :=
  jsonDict [
    ("arithmetic_policy_digest", jsonText generationNamespace.arithmeticPolicyDigest),
    ("choice_algorithm_id", jsonText generationNamespace.choiceAlgorithmId),
    ("choice_algorithm_version", jsonNat generationNamespace.choiceAlgorithmVersion),
    ("identity_algorithm_id", jsonText generationNamespace.identityAlgorithmId),
    ("identity_algorithm_version", jsonNat generationNamespace.identityAlgorithmVersion),
    ("identity_schema_version", jsonText generationNamespace.identitySchemaVersion),
    ("release", jsonText generationNamespace.release),
    ("release_policy_digest", jsonText generationNamespace.releasePolicyDigest),
    ("replay_policy_digest", jsonText generationNamespace.replayPolicyDigest),
    ("replay_policy_id", jsonText generationNamespace.replayPolicyId),
    ("replay_policy_version", jsonNat generationNamespace.replayPolicyVersion),
    ("shard_policy_digest", jsonText generationNamespace.shardPolicyDigest),
    ("shard_policy_id", jsonText generationNamespace.shardPolicyId),
    ("shard_policy_version", jsonNat generationNamespace.shardPolicyVersion),
    ("target_definition_digest", jsonText generationNamespace.targetDefinitionDigest)]

end GenerationNamespace

inductive EntityKind where
  | trajectory
  | plan
  | control
  | evidence
  | basis
  | request
  | profile
  | event
  | auditEvent
  | mutation
  deriving DecidableEq

def EntityKind.value : EntityKind → String
  | .trajectory => "trajectory"
  | .plan => "plan"
  | .control => "control"
  | .evidence => "evidence"
  | .basis => "basis"
  | .request => "request"
  | .profile => "profile"
  | .event => "event"
  | .auditEvent => "audit-event"
  | .mutation => "mutation"

/-- `_DISPLAY_PREFIXES`. -/
def EntityKind.displayPrefix : EntityKind → String
  | .trajectory => "trj-v04"
  | .plan => "pln-v04"
  | .control => "ctl-v04"
  | .evidence => "evd-v04"
  | .basis => "bas-v04"
  | .request => "req-v04"
  | .profile => "prf-v04"
  | .event => "evt-v04"
  | .auditEvent => "aud-v04"
  | .mutation => "mut-v04"

def fullDigestBits : Nat := 256

def displayDigestBits : Nat := 128

def maxRoleOrdinal : Nat := 2 ^ 32 - 1

@[ext] structure IdentityRequest where
  attemptKey : Choices.AttemptKey
  entityKind : EntityKind
  roleSegments : List ChoiceSegment
  ordinal : Nat
  nonempty : roleSegments ≠ []
  valid : roleSegments.all ChoiceSegment.isValid = true
  bounded : ordinal ≤ maxRoleOrdinal

instance : DecidableEq IdentityRequest := fun _ _ =>
  decidable_of_iff _ IdentityRequest.ext_iff.symm

/-- `to_json_value`. -/
def IdentityRequest.json (request : IdentityRequest) : Value :=
  jsonDict [
    ("attempt_index", jsonNat request.attemptKey.attemptIndex),
    ("entity_kind", jsonText request.entityKind.value),
    ("ordinal", jsonNat request.ordinal),
    ("release", jsonText request.attemptKey.sampleKey.release),
    ("role_segments", .list (request.roleSegments.map ChoiceSegment.json)),
    ("sample_index", jsonNat request.attemptKey.sampleKey.sampleIndex),
    ("target_id", jsonText request.attemptKey.sampleKey.targetId)]

/-- `canonical_json_bytes(request.to_json_value())`. -/
def IdentityRequest.bytes (request : IdentityRequest) : Except IdentityFailure (List UInt8) :=
  (jsonBytes request.json).mapError .choice

/-- The display form: the prefix of the kind and the first digits of the digest. -/
def displayOf (kind : EntityKind) (fullDigest : String) : String :=
  kind.displayPrefix ++ "-" ++ String.ofList (fullDigest.toList.take (displayDigestBits / 4))

structure EntityIdentity where
  entityKind : EntityKind
  fullDigest : String
  displayId : String
  materialDigest : String
  generationNamespaceDigest : String
  isFull : isHexDigest fullDigest = true
  isMaterial : isHexDigest materialDigest = true
  isNamespace : isHexDigest generationNamespaceDigest = true
  isDisplay : displayId = displayOf entityKind fullDigest
  deriving DecidableEq

/-- `EntityIdentity(...)`. -/
def EntityIdentity.create (entityKind : EntityKind) (fullDigest displayId materialDigest
    generationNamespaceDigest : String) : Except IdentityFailure EntityIdentity :=
  if isFull : isHexDigest fullDigest = true then
    if isMaterial : isHexDigest materialDigest = true then
      if isNamespace : isHexDigest generationNamespaceDigest = true then
        if isDisplay : displayId = displayOf entityKind fullDigest then
          .ok ⟨entityKind, fullDigest, displayId, materialDigest, generationNamespaceDigest, isFull,
            isMaterial, isNamespace, isDisplay⟩
        else .error (.identity "display identity must match its kind and full-digest prefix")
      else .error (.identity "identity generation_namespace_digest must be a lowercase SHA-256 digest")
    else .error (.identity "identity material_digest must be a lowercase SHA-256 digest")
  else .error (.identity "identity full_digest must be a lowercase SHA-256 digest")

/-- `to_json_value`. -/
def EntityIdentity.json (identity : EntityIdentity) : Value :=
  jsonDict [
    ("display_id", jsonText identity.displayId),
    ("entity_kind", jsonText identity.entityKind.value),
    ("full_digest", jsonText identity.fullDigest),
    ("generation_namespace_digest", jsonText identity.generationNamespaceDigest),
    ("material_digest", jsonText identity.materialDigest)]

@[ext]
structure IdentityRecord where
  request : IdentityRequest
  identity : EntityIdentity
  sameKind : request.entityKind = identity.entityKind
  deriving DecidableEq

/-- `IdentityRecord(...)`. -/
def IdentityRecord.create (request : IdentityRequest) (identity : EntityIdentity) :
    Except IdentityFailure IdentityRecord :=
  if sameKind : request.entityKind = identity.entityKind then .ok ⟨request, identity, sameKind⟩
  else .error (.identity "identity record request and identity kinds must match")

/-- `to_json_value`. -/
def IdentityRecord.json (record : IdentityRecord) : Value :=
  jsonDict [("identity", record.identity.json), ("request", record.request.json)]

/-- `canonical_identity_material`. -/
def canonicalIdentityMaterial (generationNamespace : GenerationNamespace) (request : IdentityRequest) :
    Except IdentityFailure (List UInt8) :=
  (jsonBytes (jsonDict [
    ("algorithm_id", jsonText "csd-identity-hmac-sha256"),
    ("algorithm_version", jsonNat 1),
    ("generation_namespace", generationNamespace.json),
    ("request", request.json)])).mapError .choice

/-- `_PREFIX`. -/
def identityPrefix : List UInt8 := utf8 "csd-identity-hmac-sha256/v1".toList ++ [0]

def require (condition : Prop) [Decidable condition] (otherwise : IdentityFailure) :
    Except IdentityFailure Unit :=
  if condition then .ok () else .error otherwise

section Derivation
variable [HashBytes]

def GenerationNamespace.digest (generationNamespace : GenerationNamespace) :
    Except IdentityFailure String :=
  (jsonDigest generationNamespace.json).mapError .choice

/-- `_identity_digest`. -/
def identityDigest (seed : RootSeed) (material : List UInt8) :
    Except IdentityFailure (List UInt8) := do
  require (material.length < 2 ^ 64) .overflow
  .ok (hmacSha256 seed.material (identityPrefix ++ toBigEndian 8 material.length ++ material))

/-- `_identity_from_digest`. -/
def identityFromDigest (generationNamespace : GenerationNamespace) (request : IdentityRequest)
    (material digest : List UInt8) : Except IdentityFailure EntityIdentity := do
  require (digest.length * 8 = fullDigestBits)
    (.identity "identity digest must contain exactly 256 immutable bits")
  let fullDigest := hex digest
  let generationNamespaceDigest ← generationNamespace.digest
  EntityIdentity.create request.entityKind fullDigest (displayOf request.entityKind fullDigest)
    (hex (sha256 material)) generationNamespaceDigest

/-- `derive_identity`. -/
def deriveIdentity (seed : RootSeed) (generationNamespace : GenerationNamespace)
    (request : IdentityRequest) : Except IdentityFailure EntityIdentity := do
  let material ← canonicalIdentityMaterial generationNamespace request
  let digest ← identityDigest seed material
  identityFromDigest generationNamespace request material digest

end Derivation

/-! ### The ledger -/

/-- The dicts of the ledger; of two entries with one key the later one is found. -/
structure IdentityLedger where
  records : List (String × IdentityRecord)
  fullDigests : List (String × String)
  displayIds : List (String × String)

def IdentityLedger.empty : IdentityLedger := ⟨[], [], []⟩

/-- A computation that keeps what it changed before it raised. -/
abbrev LedgerM := ExceptT IdentityFailure (StateM IdentityLedger)

def LedgerM.exec (program : LedgerM α) (ledger : IdentityLedger) :
    Except IdentityFailure α × IdentityLedger := program.run ledger

/-- `records[key] = value`. -/
def assign (items : List (String × α)) (key : String) (value : α) : List (String × α) :=
  items ++ [(key, value)]

/-- `records.get(key)`. -/
def lookup (items : List (String × α)) (key : String) : Option α :=
  (Keyed.find (·.1) items key).map (·.2)

def liftExcept (result : Except IdentityFailure α) : LedgerM α := ExceptT.mk (pure result)

def raiseIf (condition : Prop) [Decidable condition] (failure : IdentityFailure) : LedgerM Unit :=
  if condition then throw failure else pure ()

section Ledger
variable [HashBytes]

/-- `_request_key`. -/
def requestKey (request : IdentityRequest) : Except IdentityFailure String :=
  (jsonDigest request.json).mapError .choice

/-- `_record_identity`. -/
def recordIdentity (generationNamespace : GenerationNamespace) (request : IdentityRequest)
    (identity : EntityIdentity) : LedgerM EntityIdentity := do
  let requestKey ← liftExcept (requestKey request)
  let ledger ← get
  raiseIf ((lookup ledger.records requestKey).isSome)
    (.duplicateRole "semantic identity role has already been allocated")
  let namespaceDigest ← liftExcept generationNamespace.digest
  raiseIf (identity.generationNamespaceDigest ≠ namespaceDigest)
    (.identity "identity belongs to a different generation namespace")
  raiseIf (∃ owner ∈ lookup ledger.fullDigests identity.fullDigest, owner ≠ requestKey)
    (.collision "distinct identity roles share a full digest")
  raiseIf (∃ owner ∈ lookup ledger.displayIds identity.displayId, owner ≠ requestKey)
    (.collision "distinct identity roles share a display identifier")
  let record ← liftExcept (IdentityRecord.create request identity)
  modify fun ledger => { ledger with records := assign ledger.records requestKey record }
  modify fun ledger =>
    { ledger with fullDigests := assign ledger.fullDigests identity.fullDigest requestKey }
  modify fun ledger =>
    { ledger with displayIds := assign ledger.displayIds identity.displayId requestKey }
  return identity

def allocate (seed : RootSeed) (generationNamespace : GenerationNamespace)
    (request : IdentityRequest) : LedgerM EntityIdentity := do
  let identity ← liftExcept (deriveIdentity seed generationNamespace request)
  recordIdentity generationNamespace request identity

end Ledger

/-- `canonical_identity_records`, which sorts with the key that `records` sorts with. -/
def canonicalIdentityRecords (records : List IdentityRecord) :
    Except IdentityFailure (List IdentityRecord) :=
  KeyedSort.sortedBy (fun record => record.request.bytes) records

/-- `records()`. -/
def IdentityLedger.sortedRecords (ledger : IdentityLedger) :
    Except IdentityFailure (List IdentityRecord) :=
  canonicalIdentityRecords ((Keyed.entries (·.1) ledger.records).map (·.2))

section Replay
variable [HashBytes]

def recordsDigest (records : List IdentityRecord) : Except IdentityFailure String :=
  (jsonDigest (.list (records.map IdentityRecord.json))).mapError .choice

def IdentityLedger.canonicalDigest (ledger : IdentityLedger) : Except IdentityFailure String := do
  recordsDigest (← ledger.sortedRecords)

/-- What the replay loop has seen. -/
structure ReplayScan where
  requests : List (List UInt8)
  fullDigests : List String
  displayIds : List String

local instance bytes_lawful : LawfulBEq (List UInt8) := inferInstance

/-- The body of the loop of `replay_identity_records`. -/
def replayRecord (seed : RootSeed) (generationNamespace : GenerationNamespace) (scan : ReplayScan)
    (record : IdentityRecord) : Except IdentityFailure ReplayScan := do
  let requestBytes ← record.request.bytes
  require (requestBytes ∉ scan.requests)
    (.replayMismatch "identity replay contains a duplicate semantic role")
  let replayed ← deriveIdentity seed generationNamespace record.request
  require (replayed = record.identity) (.replayMismatch "identity record replay diverged")
  require (record.identity.fullDigest ∉ scan.fullDigests)
    (.replayMismatch "identity replay contains a full-digest collision")
  require (record.identity.displayId ∉ scan.displayIds)
    (.replayMismatch "identity replay contains a display collision")
  return ⟨requestBytes :: scan.requests, record.identity.fullDigest :: scan.fullDigests,
    record.identity.displayId :: scan.displayIds⟩

def replayIdentityRecords (seed : RootSeed) (generationNamespace : GenerationNamespace)
    (records : List IdentityRecord) (expectedDigest : String) : Except IdentityFailure String := do
  require (isHexDigest expectedDigest = true)
    (.replayMismatch "expected identity digest must be a lowercase SHA-256 digest")
  let ordered ← canonicalIdentityRecords records
  let _ ← ordered.foldlM (replayRecord seed generationNamespace) ⟨[], [], []⟩
  let digest ← recordsDigest ordered
  require (digest = expectedDigest) (.replayMismatch "identity ledger digest diverged")
  return digest

end Replay
end CsdFoundry.Synthesis.Identities

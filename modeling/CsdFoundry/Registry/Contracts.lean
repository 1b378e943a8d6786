import CsdFoundry.Temporal.Contracts
import Mathlib.Data.String.Basic

/-! Registry events, entity heads and snapshots. -/
namespace CsdFoundry.Registry
open Temporal (schemaToken)

inductive RegistryType where
  | evidenceUnit
  | assumption
  | alternativeModel
  deriving DecidableEq

def RegistryType.text : RegistryType → String
  | .evidenceUnit => "EVIDENCE_UNIT"
  | .assumption => "ASSUMPTION"
  | .alternativeModel => "ALTERNATIVE_MODEL"

inductive ProjectionPhase where
  | semantic
  | evidenceRegistry
  | assumptionRegistry
  | alternativeModelRegistry
  | disposition
  | quarantineCommit
  deriving DecidableEq

def ProjectionPhase.text : ProjectionPhase → String
  | .semantic => "SEMANTIC"
  | .evidenceRegistry => "EVIDENCE_REGISTRY"
  | .assumptionRegistry => "ASSUMPTION_REGISTRY"
  | .alternativeModelRegistry => "ALTERNATIVE_MODEL_REGISTRY"
  | .disposition => "DISPOSITION"
  | .quarantineCommit => "QUARANTINE_COMMIT"

/-- `_REGISTRY_PHASE`. -/
def registryPhase : RegistryType → ProjectionPhase
  | .evidenceUnit => .evidenceRegistry
  | .assumption => .assumptionRegistry
  | .alternativeModel => .alternativeModelRegistry

theorem RegistryType.text_injective : Function.Injective RegistryType.text := by
  intro a b same
  cases a <;> cases b <;> first | rfl | exact absurd same (by decide)

theorem ProjectionPhase.text_injective : Function.Injective ProjectionPhase.text := by
  intro a b same
  cases a <;> cases b <;> first | rfl | exact absurd same (by decide)

/-- The exceptions of the registry and of the governed appends to it. -/
inductive RegistryError where
  | store (code : String)
  | conflict (code : String) (detail : Option String)
  | governed (code : String) (detail : Option String)
  | entity (code : String)
  | contract (code : String)
  | os
  deriving DecidableEq

/-- As for tokens, the schema pattern also matches before a final newline. -/
def schemaDigest (D : Type) [DigestText D] (value : String) : Bool :=
  DigestText.isDigest D value ||
    (value.toList.getLast? == some '\n' &&
      DigestText.isDigest D (String.ofList value.toList.dropLast))

@[ext] structure RegistryEvent (D : Type) [DigestText D] where
  registryType : RegistryType
  entityId : String
  entitySequence : Nat
  previousEntityEventDigest : Option D
  clockSequence : Nat
  projectionPhase : ProjectionPhase
  sourceReceiptDigest : String
  payloadSchemaVersion : String
  payload : JsonObject
  token : schemaToken entityId = true
  positive : 0 < entitySequence
  clock : 0 < clockSequence
  sourced : schemaDigest D sourceReceiptDigest = true
  version : schemaToken payloadSchemaVersion = true

instance {D : Type} [DigestText D] [DecidableEq D] : DecidableEq (RegistryEvent D) := fun _ _ =>
  decidable_of_iff _ RegistryEvent.ext_iff.symm

@[ext] structure RegistryEntityHead (D : Type) where
  registryType : RegistryType
  entityId : String
  entitySequence : Nat
  eventDigest : D
  named : entityId ≠ ""
  positive : 0 < entitySequence

instance {D : Type} [DecidableEq D] : DecidableEq (RegistryEntityHead D) := fun _ _ =>
  decidable_of_iff _ RegistryEntityHead.ext_iff.symm

structure RegistryAppendResult (D : Type) [DigestText D] where
  event : RegistryEvent D
  head : RegistryEntityHead D
  applied : Bool
  reason : String

theorem named_of_token (token : schemaToken entityId = true) : entityId ≠ "" := by
  rintro rfl
  exact absurd token (by decide)

/-- `RegistryEvent.build`: the schema is checked before the digest is taken. -/
def RegistryEvent.build {D : Type} [DigestText D] (registryType : RegistryType)
    (entityId : String) (entitySequence : Nat) (previousEntityEventDigest : Option D)
    (clockSequence : Nat) (sourceReceiptDigest : String) (payloadSchemaVersion : String)
    (payload : JsonObject) :
    Except RegistryError (RegistryEvent D) :=
  if valid : schemaToken entityId = true ∧ 0 < entitySequence ∧ 0 < clockSequence ∧
      schemaDigest D sourceReceiptDigest = true ∧ schemaToken payloadSchemaVersion = true then
    .ok {
      registryType := registryType
      entityId := entityId
      entitySequence := entitySequence
      previousEntityEventDigest := previousEntityEventDigest
      clockSequence := clockSequence
      projectionPhase := registryPhase registryType
      sourceReceiptDigest := sourceReceiptDigest
      payloadSchemaVersion := payloadSchemaVersion
      payload := payload
      token := valid.1
      positive := valid.2.1
      clock := valid.2.2.1
      sourced := valid.2.2.2.1
      version := valid.2.2.2.2 }
  else .error (.contract "SCHEMA_REJECTED")

variable {D : Type} [DigestText D] [Sha256 D]
open Sha256

def RegistryEvent.digest (e : RegistryEvent D) : D :=
  sha256 "REGISTRY_EVENT" [.str "registry-event/1", .nat e.clockSequence, .str e.entityId,
    .nat e.entitySequence, .str e.payloadSchemaVersion, .optional e.previousEntityEventDigest,
    .str e.projectionPhase.text, .str e.registryType.text, .str e.sourceReceiptDigest,
    .json (.obj e.payload)]

/-- The name of the head file of an entity, in the directory of its type. -/
def headName (registryType : RegistryType) (entityId : String) : D :=
  sha256 "REGISTRY_ENTITY_PATH" [.str registryType.text, .str entityId]

/-- `_snapshot_root`. -/
def snapshotRoot (registryType : RegistryType) (heads : List (RegistryEntityHead D)) : D :=
  sha256 "REGISTRY_SNAPSHOT" [.str "registry-snapshot/1",
    .heads (heads.map (fun head => (head.entityId, head.entitySequence, head.eventDigest))),
    .str registryType.text]

theorem RegistryEvent.digest_inj {a b : RegistryEvent D} (same : a.digest = b.digest) : a = b := by
  obtain ⟨-, fields⟩ := collision_free same
  cases a
  cases b
  simp only [List.cons.injEq, Field.str.injEq, Field.nat.injEq, Field.json.injEq,
    Json.obj.injEq] at fields
  obtain ⟨-, rfl, rfl, rfl, rfl, previous, phase, type_, rfl, rfl, -⟩ := fields
  obtain rfl := Field.optional_injective previous
  obtain rfl := ProjectionPhase.text_injective phase
  obtain rfl := RegistryType.text_injective type_
  rfl

omit [DigestText D] in
/-- Entities do not share head files. -/
theorem headName_inj {type_ type_' : RegistryType} {id id' : String}
    (same : (headName type_ id : D) = headName type_' id') : type_ = type_' ∧ id = id' := by
  obtain ⟨-, fields⟩ := collision_free same
  simp only [List.cons.injEq, Field.str.injEq, and_true] at fields
  exact ⟨RegistryType.text_injective fields.1, fields.2⟩

/-- The head that an event becomes when it is appended. -/
def RegistryEvent.head (event : RegistryEvent D) : RegistryEntityHead D where
  registryType := event.registryType
  entityId := event.entityId
  entitySequence := event.entitySequence
  eventDigest := event.digest
  named := named_of_token event.token
  positive := event.positive

structure RegistrySnapshot (D : Type) [Sha256 D] where
  registryType : RegistryType
  heads : List (RegistryEntityHead D)
  rootDigest : D
  ordered : heads.Pairwise (fun a b => a.entityId ≤ b.entityId)
  distinct : (heads.map (·.entityId)).Nodup
  typed : ∀ head ∈ heads, head.registryType = registryType
  root : rootDigest = snapshotRoot registryType heads

/-- `RegistrySnapshot(...)`, whose `__post_init__` may raise. -/
def RegistrySnapshot.create [DecidableEq D] (registryType : RegistryType)
    (heads : List (RegistryEntityHead D)) (rootDigest : D) :
    Except RegistryError (RegistrySnapshot D) :=
  if ordered : heads.Pairwise (fun a b => a.entityId ≤ b.entityId) then
    if distinct : (heads.map (·.entityId)).Nodup then
      if typed : ∀ head ∈ heads, head.registryType = registryType then
        if root : rootDigest = snapshotRoot registryType heads then
          .ok ⟨registryType, heads, rootDigest, ordered, distinct, typed, root⟩
        else .error (.store "REGISTRY_SNAPSHOT_ROOT_MISMATCH")
      else .error (.store "REGISTRY_SNAPSHOT_TYPE_MISMATCH")
    else .error (.store "REGISTRY_SNAPSHOT_DUPLICATE_ENTITY")
  else .error (.store "REGISTRY_SNAPSHOT_ORDER_INVALID")

end CsdFoundry.Registry

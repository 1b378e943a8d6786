import CsdFoundry.Keyed
import CsdFoundry.Storage.Chain
import CsdFoundry.Registry.Contracts

/-! The filesystem registry store. The head directories are lists of files read as a
dictionary by path: a file that replaces another one comes later. -/
namespace CsdFoundry.Registry
open Storage

/-- A file `heads/<directory>/<name>.json`. -/
structure HeadFile (D : Type) where
  directory : RegistryType
  name : D
  head : RegistryEntityHead D
  deriving DecidableEq

def HeadFile.path (file : HeadFile D) : RegistryType × D := (file.directory, file.name)

structure RegistryStore (D : Type) [DigestText D] where
  objects : D → Option (RegistryEvent D)
  heads : List (HeadFile D)

variable {D : Type} [LinearOrder D] [DigestText D]

abbrev RegistryM (D : Type) [DigestText D] (α : Type) : Type :=
  Prog (RegistryStore D) RegistryError α

namespace RegistryStore

/-- The store directory right after construction. -/
def initial : RegistryStore D := ⟨fun _ => none, []⟩

variable [Sha256 D]

def fileObject (event : RegistryEvent D) (s : RegistryStore D) : RegistryStore D :=
  { s with objects := Function.update s.objects event.digest (some event) }

def replaceHead (head : RegistryEntityHead D) (s : RegistryStore D) : RegistryStore D :=
  { s with heads := s.heads ++
      [⟨head.registryType, headName head.registryType head.entityId, head⟩] }

/-- `sorted(directory.glob("*.json"))`. -/
def headFiles (registryType : RegistryType) (s : RegistryStore D) : List (HeadFile D) :=
  ((Keyed.entries HeadFile.path s.heads).filter (fun file => file.directory = registryType)
    ).insertionSort (fun a b => a.name ≤ b.name)

end RegistryStore

def lift (result : Except RegistryError α) : RegistryM D α := .done result

variable [Sha256 D]

/-- `_verify_event`. -/
def verifyEvent (event : RegistryEvent D) : Except RegistryError Unit :=
  if event.projectionPhase ≠ registryPhase event.registryType then
    .error (.store "REGISTRY_PROJECTION_PHASE_MISMATCH")
  else if event.entityId = "" then .error (.store "REGISTRY_ENTITY_ID_INVALID")
  else .ok ()

def verifyHeadEvent (head : RegistryEntityHead D) (event : RegistryEvent D) :
    Except RegistryError Unit :=
  if event.registryType ≠ head.registryType ∨ event.entityId ≠ head.entityId ∨
      event.entitySequence ≠ head.entitySequence ∨ event.digest ≠ head.eventDigest then
    .error (.conflict "REGISTRY_HEAD_EVENT_MISMATCH" none)
  else .ok ()

def getEvent (digest : D) : RegistryM D (Option (RegistryEvent D)) :=
  .read .os (fun s => match s.objects digest with
    | none => .ok none
    | some event =>
        if event.digest ≠ digest then .error (.conflict "REGISTRY_EVENT_IDENTITY_MISMATCH" none)
        else .ok (some event))

/-- `_read_head`, which computes the path first. -/
def readHead (registryType : RegistryType) (entityId : String) :
    RegistryM D (Option (RegistryEntityHead D)) := do
  .require (entityId ≠ "") (.store "REGISTRY_ENTITY_ID_INVALID")
  .read .os (fun s =>
    match Keyed.find HeadFile.path s.heads (registryType, headName registryType entityId) with
    | none => .ok none
    | some file =>
        if file.head.registryType ≠ registryType ∨ file.head.entityId ≠ entityId then
          .error (.conflict "REGISTRY_HEAD_IDENTITY_MISMATCH" none)
        else .ok (some file.head))

/-- `_install` of an event object: look first, then link. -/
def install (event : RegistryEvent D) : RegistryM D Unit := do
  match ← (.read .os (fun s => .ok (s.objects event.digest)) :
    RegistryM D (Option (RegistryEvent D))) with
  | some stored =>
      .require (stored = event) (.conflict "REGISTRY_IMMUTABLE_PATH_CONFLICT" none)
  | none =>
      .install .os (.conflict "REGISTRY_CONCURRENT_INSTALL_CONFLICT" none)
        (fun s => s.objects event.digest) (.fileObject event) event

/-- Compare with the position that the current head leaves open, and append. -/
def advance (event : RegistryEvent D) (expectedSequence : Nat) (expectedPrevious : Option D) :
    RegistryM D (RegistryAppendResult D) := do
  .require (event.entitySequence = expectedSequence)
    (.conflict "REGISTRY_SEQUENCE_CONFLICT"
      (some ("expected " ++ toString expectedSequence ++
        ", observed " ++ toString event.entitySequence)))
  .require (event.previousEntityEventDigest = expectedPrevious)
    (.conflict "REGISTRY_PREDECESSOR_CONFLICT" none)
  Prog.write .os (.replaceHead event.head)
  return ⟨event, event.head, true, "APPENDED"⟩

/-- The part of `append` that runs under the lock. -/
def appendLocked (event : RegistryEvent D) : RegistryM D (RegistryAppendResult D) := do
  match ← readHead event.registryType event.entityId with
  | some current =>
      if current.eventDigest = event.digest then
        .require (current.entitySequence = event.entitySequence)
          (.conflict "REGISTRY_IDEMPOTENT_SEQUENCE_MISMATCH" none)
        return ⟨event, current, false, "IDEMPOTENT_APPEND"⟩
      else advance event (current.entitySequence + 1) (some current.eventDigest)
  | none => advance event 1 none

def append (event : RegistryEvent D) : RegistryM D (RegistryAppendResult D) := do
  lift (verifyEvent event)
  install event
  .locked (appendLocked event)

def entityHead (registryType : RegistryType) (entityId : String) :
    RegistryM D (Option (RegistryEntityHead D)) := do
  .require (entityId ≠ "") (.store "REGISTRY_ENTITY_ID_INVALID")
  .locked (readHead registryType entityId)

/-- The dictionary `found` of a snapshot, in the order of the head files. -/
def collectHeads (registryType : RegistryType) :
    List (HeadFile D) → List (RegistryEntityHead D) →
      Except RegistryError (List (RegistryEntityHead D))
  | [], found => .ok found
  | file :: files, found =>
      if file.head.registryType ≠ registryType then
        .error (.conflict "REGISTRY_HEAD_TYPE_MISMATCH" none)
      else if file.path ≠ (file.head.registryType,
          headName file.head.registryType file.head.entityId) then
        .error (.conflict "REGISTRY_HEAD_PATH_MISMATCH" none)
      else match Keyed.find (·.entityId) found file.head.entityId with
        | none => collectHeads registryType files (found ++ [file.head])
        | some existing =>
            if existing ≠ file.head then
              .error (.conflict "REGISTRY_HEAD_DUPLICATE_ENTITY" none)
            else collectHeads registryType files found

/-- The events that the heads of a snapshot cite. -/
def verifyHeads : List (RegistryEntityHead D) → RegistryM D Unit
  | [] => pure ()
  | head :: heads => do
      match ← getEvent head.eventDigest with
      | none => throw (.conflict "REGISTRY_HEAD_EVENT_MISSING" none)
      | some event => lift (verifyHeadEvent head event)
      verifyHeads heads

def byEntity (heads : List (RegistryEntityHead D)) : List (RegistryEntityHead D) :=
  heads.insertionSort (fun a b => a.entityId ≤ b.entityId)

def snapshotUnlocked (registryType : RegistryType) : RegistryM D (RegistrySnapshot D) := do
  let files ← (.read .os (fun s => .ok (s.headFiles registryType)) : RegistryM D (List (HeadFile D)))
  let found ← lift (collectHeads registryType files [])
  let heads := byEntity found
  verifyHeads heads
  lift (RegistrySnapshot.create registryType heads (snapshotRoot registryType heads))

def snapshot (registryType : RegistryType) : RegistryM D (RegistrySnapshot D) :=
  .locked (snapshotUnlocked registryType)

/-- One event of an entity's chain, less the check of its sequence. -/
def chainEvent (registryType : RegistryType) (entityId : String) (seen : List D) (digest : D) :
    RegistryM D (RegistryEvent D) := do
  .require (digest ∉ seen) (.conflict "REGISTRY_EVENT_CYCLE" none)
  match ← getEvent digest with
  | none => throw (.conflict "REGISTRY_CHAIN_EVENT_MISSING" none)
  | some event =>
      .require (event.registryType = registryType ∧ event.entityId = entityId)
        (.conflict "REGISTRY_CHAIN_ENTITY_MISMATCH" none)
      return event

/-- The loop of `reconstruct_entity`. It descends on the expected sequence: an event found
where 0 is expected has a positive sequence. -/
def chainFrom (registryType : RegistryType) (entityId : String) :
    Nat → List D → Option D → RegistryM D (List (RegistryEvent D))
  | 0, _, none => pure []
  | _ + 1, _, none => throw (.conflict "REGISTRY_CHAIN_NOT_GENESIS_LINKED" none)
  | 0, seen, some digest => do
      let _ ← chainEvent registryType entityId seen digest
      throw (.conflict "REGISTRY_CHAIN_SEQUENCE_MISMATCH" none)
  | expected + 1, seen, some digest => do
      let event ← chainEvent registryType entityId seen digest
      .require (event.entitySequence = expected + 1)
        (.conflict "REGISTRY_CHAIN_SEQUENCE_MISMATCH" none)
      return (← chainFrom registryType entityId expected (digest :: seen)
        event.previousEntityEventDigest) ++ [event]

def chainOf (registryType : RegistryType) (entityId : String) :
    Option (RegistryEntityHead D) → RegistryM D (List (RegistryEvent D))
  | none => pure []
  | some head => chainFrom registryType entityId head.entitySequence [] (some head.eventDigest)

def reconstructEntityUnlocked (registryType : RegistryType) (entityId : String) :
    RegistryM D (List (RegistryEvent D)) := do
  chainOf registryType entityId (← readHead registryType entityId)

def reconstructEntity (registryType : RegistryType) (entityId : String) :
    RegistryM D (List (RegistryEvent D)) := do
  chainOf registryType entityId (← entityHead registryType entityId)

def reconstructHeads (registryType : RegistryType) :
    List (RegistryEntityHead D) → RegistryM D (List (List (RegistryEvent D)))
  | [] => pure []
  | head :: heads => do
      let first ← reconstructEntity registryType head.entityId
      return first :: (← reconstructHeads registryType heads)

def reconstructSnapshot (registryType : RegistryType) :
    RegistryM D (List (List (RegistryEvent D))) := do
  reconstructHeads registryType (← snapshot registryType).heads

end CsdFoundry.Registry

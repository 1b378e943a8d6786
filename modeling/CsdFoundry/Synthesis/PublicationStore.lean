import CsdFoundry.Digest
import CsdFoundry.Storage.Program
import Mathlib.Data.List.Sort

/-! The content-addressed publication store: objects and claims are installed by hard links that
never replace a file. Directories and the fault injector are left out: a process may crash or
fail at every file operation. -/
namespace CsdFoundry.Synthesis
open Storage

/-- The bytes of files. A collision of SHA-256 is excluded by assumption; `claimBytes` is
`_publication_claim_bytes`, and `claimOwner` reads the owner back from a canonical claim. -/
class Blob (B D : Type) where
  sha256 : B → D
  collision_free : Function.Injective sha256
  claimBytes : D → B
  claimOwner : B → Option D
  claimOwner_claimBytes : ∀ owner, claimOwner (claimBytes owner) = some owner

inductive PublicationError where
  | store
  | conflict
  | corruption
  | os
  deriving DecidableEq

inductive PublicationDisposition where
  | published
  | existingIdentical
  deriving DecidableEq

/-- The name of a temporary file: `claim.{digest}.{uuid}.tmp` or `{digest}.{uuid}.tmp`. -/
structure Temporary (D : Type) where
  claim : Bool
  digest : D
  uuid : Nat
  deriving DecidableEq

def Temporary.name {D : Type} [DigestText D] (temporary : Temporary D) : String :=
  (if temporary.claim then "claim." else "") ++ DigestText.text temporary.digest ++ "." ++
    toString temporary.uuid ++ ".tmp"

/-- Nothing but the link of its writer reads a temporary, so it is written in one step; `uuids`
counts the names handed out by `uuid4`. -/
structure PublicationStore (B D : Type) where
  objects : D → Option B
  claims : String → D → Option B
  temporaries : List (Temporary D × B)
  uuids : Nat

structure PublicationResult (D : Type) where
  digest : D
  disposition : PublicationDisposition
  deriving DecidableEq

structure RecoveryReport where
  temporaryObjectsRemoved : Nat
  authoritativeObjectsVerified : Nat

variable {B D : Type} [DecidableEq B] [DecidableEq D]

namespace PublicationStore

def initial : PublicationStore B D := ⟨fun _ => none, fun _ _ => none, [], 0⟩

def unlink (temporary : Temporary D) (s : PublicationStore B D) : PublicationStore B D :=
  { s with temporaries := s.temporaries.filter (fun entry => entry.1 ≠ temporary) }

def create (claim : Bool) (digest : D) (bytes : B) (s : PublicationStore B D) :
    PublicationStore B D :=
  { s with
    temporaries := (⟨claim, digest, s.uuids⟩, bytes) :: s.temporaries
    uuids := s.uuids + 1 }

def installObject (digest : D) (bytes : B) (s : PublicationStore B D) : PublicationStore B D :=
  { s with objects := Function.update s.objects digest (some bytes) }

def installClaim (kind : String) (digest : D) (bytes : B) (s : PublicationStore B D) :
    PublicationStore B D :=
  let claimed := Function.update (s.claims kind) digest (some bytes)
  { s with claims := Function.update s.claims kind claimed }

end PublicationStore

abbrev PublicationProg (B D : Type) : Type → Type :=
  Prog (PublicationStore B D) PublicationError

/-- `_TOKEN_PATTERN.fullmatch`. -/
def isKindToken (value : String) : Bool :=
  match value.toList with
  | [] => false
  | first :: rest => (first.isLower || first.isDigit) &&
      rest.all (fun c => c.isLower || c.isDigit || c == '-')

def readObject (digest : D) : PublicationProg B D (Option B) :=
  Prog.read .os (fun s => .ok (s.objects digest))

def readClaim (kind : String) (digest : D) : PublicationProg B D (Option B) :=
  Prog.read .os (fun s => .ok (s.claims kind digest))

/-- A fresh temporary with its bytes. -/
def createTemporary (claim : Bool) (digest : D) (bytes : B) : PublicationProg B D (Temporary D) :=
  Prog.atomically .os (PublicationStore.create claim digest bytes)
    (fun s => .ok ⟨claim, digest, s.uuids⟩)

def unlinkTemporary (temporary : Temporary D) : PublicationProg B D Unit :=
  Prog.write .os (PublicationStore.unlink temporary)

/-- `os.link`: whether the file was installed, and not there before. A temporary that has been
removed cannot be linked. -/
def link (find : PublicationStore B D → Option B) (install : B → PublicationStore B D →
    PublicationStore B D) (temporary : Temporary D) : PublicationProg B D Bool :=
  Prog.atomically .os
    (fun s => match s.temporaries.lookup temporary with
      | none => s
      | some bytes => if find s = none then install bytes s else s)
    (fun s => match s.temporaries.lookup temporary with
      | none => .error .os
      | some _ => .ok (decide (find s = none)))

variable [Blob B D]

/-- `_read_publication_claim_owner`. -/
def readPublicationClaimOwner (kind : String) (digest : D) : PublicationProg B D D := do
  match ← readClaim kind digest with
  | none => throw .os
  | some bytes =>
      match Blob.claimOwner bytes with
      | none => throw .corruption
      | some owner => pure owner

def claimPublication (kind : String) (digest owner : D) : PublicationProg B D Bool := do
  Prog.require (isKindToken kind = true) .store
  let claimed ← readClaim kind digest
  if claimed.isSome then
    return (← readPublicationClaimOwner (B := B) kind digest) = owner
  let temporary ← createTemporary true digest (Blob.claimBytes owner)
  let installed ← link (fun s => s.claims kind digest)
    (PublicationStore.installClaim kind digest) temporary
  if installed then
    unlinkTemporary temporary
    return true
  let found ← readPublicationClaimOwner kind digest
  unlinkTemporary temporary
  return found = owner

/-- `_durable_existing`. -/
def durableExisting (payload : B) (digest : D) :
    PublicationProg B D (PublicationResult D) := do
  match ← readObject digest with
  | none => throw .os
  | some existing =>
      Prog.require (Blob.sha256 existing = digest) .corruption
      Prog.require (existing = payload) .conflict
      return ⟨digest, .existingIdentical⟩

/-- `publish_bytes` after its digest checks. -/
def publishObject (payload : B) (digest : D) :
    PublicationProg B D (PublicationResult D) := do
  let present ← readObject digest
  if present.isSome then
    durableExisting payload digest
  else
    let temporary ← createTemporary false digest payload
    let installed ← link (fun s => s.objects digest) (PublicationStore.installObject digest)
      temporary
    if installed then
      unlinkTemporary temporary
      return ⟨digest, .published⟩
    else
      let result ← durableExisting payload digest
      unlinkTemporary temporary
      return result

def publishBytes (payload : B) (expectedDigest : Option D) :
    PublicationProg B D (PublicationResult D) := do
  Prog.require (∀ expected, expectedDigest = some expected → Blob.sha256 payload = expected)
    .corruption
  publishObject payload (Blob.sha256 payload)

/-- `object_path.exists() and not claim_path.exists()`. -/
def existsUnclaimed (objectKind : String) (digest : D) : PublicationProg B D Bool := do
  let present ← readObject digest
  if present.isSome then
    let claimed ← readClaim objectKind digest
    return claimed.isNone
  else
    return false

def claimAndPublishBytes (payload : B) (expectedDigest : D) (objectKind : String)
    (ownerDigest : D) : PublicationProg B D (PublicationResult D) := do
  let digest := Blob.sha256 payload
  Prog.require (digest = expectedDigest) .corruption
  Prog.require (isKindToken objectKind = true) .store
  let unclaimed ← existsUnclaimed objectKind digest
  if unclaimed then
    publishBytes payload (some digest)
  else
    let owned ← claimPublication objectKind digest ownerDigest
    let result ← publishBytes payload (some digest)
    return ⟨result.digest, if owned then .published else .existingIdentical⟩

def readVerified (digest : D) : PublicationProg B D B := do
  match ← readObject digest with
  | none => throw .store
  | some payload =>
      Prog.require (Blob.sha256 payload = digest) .corruption
      return payload

/-- The object a temporary is for; the name of a claim begins with no digest. -/
def readDeclared (temporary : Temporary D) : PublicationProg B D (Option B) :=
  if temporary.claim then pure none else readObject temporary.digest

/-- One temporary of `recover`. The report is counted up. -/
def recoverTemporary (temporary : Temporary D) (report : RecoveryReport) :
    PublicationProg B D RecoveryReport := do
  let present ← readDeclared temporary
  if present.isSome then
    let _ ← readVerified (B := B) temporary.digest
    unlinkTemporary temporary
    return ⟨report.temporaryObjectsRemoved + 1, report.authoritativeObjectsVerified + 1⟩
  else
    unlinkTemporary temporary
    return ⟨report.temporaryObjectsRemoved + 1, report.authoritativeObjectsVerified⟩

def recoverTemporaries : List (Temporary D) → RecoveryReport → PublicationProg B D RecoveryReport
  | [], report => pure report
  | temporary :: rest, report => do
      let next ← recoverTemporary temporary report
      recoverTemporaries rest next

def recover [DigestText D] : PublicationProg B D RecoveryReport := do
  let found ← Prog.read .os (fun s => .ok (s.temporaries.map (·.1)))
  recoverTemporaries (found.insertionSort (fun a b => a.name ≤ b.name)) ⟨0, 0⟩

/-- Bytes that are their own digest; a claim is its owner and a line break. -/
instance : Blob (List Nat) (List Nat) where
  sha256 := id
  collision_free := Function.injective_id
  claimBytes owner := owner ++ [10]
  claimOwner bytes := if bytes.getLast? = some 10 then some bytes.dropLast else none
  claimOwner_claimBytes owner := by simp

end CsdFoundry.Synthesis

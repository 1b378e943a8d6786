import CsdFoundry.Storage.Install
import CsdFoundry.Temporal.Contracts

/-! The filesystem temporal store. A file is the contract it holds; its path is the
key. Temporaries under `.tmp` are never read back: a temporary that `recover` swept
away shows up as an I/O error of the operation that was about to link it. -/
namespace CsdFoundry.Temporal
open Storage

/-- The exceptions of the temporal protocol and of what it calls. -/
inductive TemporalError (D : Type) where
  | protocol (message : String)
  | claimRejected (reason : String)
  | projection (phase code : String) (detailDigest : Option D)
  | store (message : String)
  | conflict (message : String)
  | contract (code : String)
  | os
  | foreign (qualname text : String)
  deriving DecidableEq

/-- The names under which an attempt directory keeps contracts. -/
inductive ArtifactName where
  | claim
  | semantic
  | completion
  | failure
  deriving DecidableEq

structure ProjectionArtifacts (D : Type) where
  evidenceUnitRootDigest : D
  assumptionRootDigest : D
  alternativeModelRootDigest : D
  dispositionReceiptDigest : D
  quarantineEpoch : Int
  quarantineMarkerDigests : List D
  observedPhaseOrder : List String
  releaseCompilationInvocations : Int
  deriving DecidableEq

/-- `projection-bundle.json`, less the digest that its writer computes over the rest. -/
structure ProjectionBundle (D : Type) where
  clockClaimDigest : D
  semanticProjectionReceiptDigest : D
  registryRootDigests : RegistryRootDigests D
  dispositionReceiptDigest : D
  quarantineEpoch : Int
  quarantineMarkerDigests : List D
  observedPhaseOrder : List String
  releaseCompilationInvocations : Int
  deriving DecidableEq

/-- `active` is the claim digest that `active-claim.json` cites. -/
structure TemporalStore (D : Type) [LinearOrder D] where
  objects : ContractName × D → Option (ContractObject D)
  attempts : String × ArtifactName → Option (ContractObject D)
  bundles : String → Option (ProjectionBundle D)
  head : TemporalHead D
  active : Option D

variable {D : Type} [LinearOrder D]

abbrev StoreM (D : Type) [LinearOrder D] (α : Type) : Type :=
  Prog (TemporalStore D) (TemporalError D) α

namespace TemporalStore

/-- The store directory right after construction. -/
def initial : TemporalStore D := ⟨fun _ => none, fun _ => none, fun _ => none, .initial, none⟩

def fileAttempt (attempt : String) (artifact : ArtifactName) (contract : ContractObject D)
    (s : TemporalStore D) : TemporalStore D :=
  { s with attempts := Function.update s.attempts (attempt, artifact) (some contract) }

def fileBundle (attempt : String) (bundle : ProjectionBundle D) (s : TemporalStore D) :
    TemporalStore D :=
  { s with bundles := Function.update s.bundles attempt (some bundle) }

variable [Sha256 D]

def fileObject (contract : ContractObject D) (s : TemporalStore D) : TemporalStore D :=
  let path := (contract.name, contract.digest)
  { s with objects := Function.update s.objects path (some contract) }

end TemporalStore

structure ClaimInstallResult (D : Type) where
  claim : ClockClaim D
  acquired : Bool
  reason : String

def phases : List String :=
  ["EVIDENCE_REGISTRY", "ASSUMPTION_REGISTRY", "ALTERNATIVE_MODEL_REGISTRY", "DISPOSITION",
    "QUARANTINE_COMMIT"]

def sorted (digests : List D) : List D := digests.insertionSort (· ≤ ·)

variable [Sha256 D]

def projectionBundle (claim : ClockClaim D) (semantic : SemanticProjectionReceipt D)
    (artifacts : ProjectionArtifacts D) : ProjectionBundle D where
  clockClaimDigest := claim.digest
  semanticProjectionReceiptDigest := semantic.digest
  registryRootDigests := {
    evidenceUnit := artifacts.evidenceUnitRootDigest
    assumption := artifacts.assumptionRootDigest
    alternativeModel := artifacts.alternativeModelRootDigest }
  dispositionReceiptDigest := artifacts.dispositionReceiptDigest
  quarantineEpoch := artifacts.quarantineEpoch
  quarantineMarkerDigests := sorted artifacts.quarantineMarkerDigests
  observedPhaseOrder := artifacts.observedPhaseOrder
  releaseCompilationInvocations := artifacts.releaseCompilationInvocations

def verifyProjectionBundle (bundle : ProjectionBundle D) (claim : ClockClaim D)
    (completion : ClockCompletionReceipt D) : Except (TemporalError D) Unit :=
  let checks : ProjectionBundle D := {
    clockClaimDigest := claim.digest
    semanticProjectionReceiptDigest := completion.semanticProjectionReceiptDigest
    registryRootDigests := completion.registryRootDigests
    dispositionReceiptDigest := completion.dispositionReceiptDigest
    quarantineEpoch := completion.quarantineEpoch
    quarantineMarkerDigests := sorted completion.quarantineMarkerDigests
    observedPhaseOrder := phases
    releaseCompilationInvocations := 0 }
  if bundle = checks then .ok ()
  else .error (.conflict "projection bundle does not match completion")

def verifyClaim (head : TemporalHead D) (claim : ClockClaim D) : Except (TemporalError D) Unit :=
  if claim.previousCommittedSequence ≠ head.clockSequence ∨
      claim.previousCompletionDigest ≠ head.completionDigest ∨
      claim.proposedSequence ≠ head.clockSequence + 1 then
    .error (.conflict "claim does not match its expected predecessor")
  else .ok ()

def verifyFailure (claim : ClockClaim D) (failure : ClockProjectionFailure D) :
    Except (TemporalError D) Unit :=
  if failure.attemptId ≠ claim.attemptId ∨
      failure.previousCommittedSequence ≠ claim.previousCommittedSequence ∨
      failure.previousCompletionDigest ≠ claim.previousCompletionDigest ∨
      failure.proposedSequence ≠ claim.proposedSequence ∨
      failure.validatedEventDigest ≠ claim.validatedEventDigest then
    .error (.conflict "failure receipt does not match its claim")
  else if failure.clockClaimDigest ≠ claim.digest then
    .error (.conflict "failure receipt cites a different claim")
  else .ok ()

def verifyCompletion (claim : ClockClaim D) (completion : ClockCompletionReceipt D) :
    Except (TemporalError D) Unit :=
  if completion.clockClaimDigest ≠ claim.digest ∨
      completion.validatedEventDigest ≠ claim.validatedEventDigest ∨
      completion.clockSequence ≠ claim.proposedSequence ∨
      completion.previousCompletionDigest ≠ claim.previousCompletionDigest then
    .error (.conflict "completion does not match its claim")
  else .ok ()

def recoveryFailure (claim : ClockClaim D) : ClockProjectionFailure D where
  attemptId := claim.attemptId
  previousCommittedSequence := claim.previousCommittedSequence
  previousCompletionDigest := claim.previousCompletionDigest
  proposedSequence := claim.proposedSequence
  clockClaimDigest := claim.digest
  validatedEventDigest := claim.validatedEventDigest
  failurePhase := "SEMANTIC"
  failureCode := "RECOVERY_INCOMPLETE_ATTEMPT"
  failureDetailDigest := none
  recordedAgainstTick := claim.previousCommittedSequence
  successor := claim.successor
  tick := rfl

/-- `TemporalHead(sequence, digest)`, whose `__post_init__` may raise. -/
def temporalHead (sequence : Nat) (digest : Option D) :
    Except (TemporalError D) (TemporalHead D) :=
  if genesis : sequence = 0 ↔ digest = none then .ok ⟨sequence, digest, genesis⟩
  else if sequence = 0 then .error (.protocol "genesis head cannot cite a completion")
  else .error (.protocol "non-genesis head must cite a completion")

def attemptId (claim : ClockClaim D) : Except (TemporalError D) String :=
  if isToken claim.attemptId then .ok claim.attemptId
  else .error (.store "attempt path token is invalid")

def lift (result : Except (TemporalError D) α) : StoreM D α := .done result

def readHead : StoreM D (TemporalHead D) := .read .os (fun s => .ok s.head)

def putContract (contract : ContractObject D) : StoreM D Unit :=
  .install .os (.conflict "immutable path contains different bytes")
    (fun s => s.objects (contract.name, contract.digest)) (.fileObject contract) contract

/-- `_parse_contract` under the name of the path, and the identity check on its result. -/
def parseObject (name : ContractName) (digest : D) :
    Option (ContractObject D) → Except (TemporalError D) (Option (ContractObject D))
  | none => .ok none
  | some contract =>
      if contract.name ≠ name then .error (.conflict "stored contract fails validation")
      else if contract.digest ≠ digest then
        .error (.conflict "stored contract identity path is invalid")
      else .ok (some contract)

def getContract (name : ContractName) (digest : D) : StoreM D (Option (ContractObject D)) :=
  .read .os (fun s => parseObject name digest (s.objects (name, digest)))

def recordAttemptArtifact (attempt : String) (artifact : ArtifactName)
    (contract : ContractObject D) : StoreM D Unit := do
  .require (isToken attempt) (.store "attempt path token is invalid")
  putContract contract
  .install .os (.conflict "immutable path contains different bytes")
    (fun s => s.attempts (attempt, artifact)) (.fileAttempt attempt artifact contract) contract

def recordProjectionArtifacts (claim : ClockClaim D) (semantic : SemanticProjectionReceipt D)
    (artifacts : ProjectionArtifacts D) : StoreM D Unit := do
  let attempt ← lift (attemptId claim)
  let bundle := projectionBundle claim semantic artifacts
  .install .os (.conflict "immutable path contains different bytes")
    (fun s => s.bundles attempt) (.fileBundle attempt bundle) bundle

def readActive : StoreM D (Option (ClockClaim D)) := do
  match ← (.read .os (fun s => .ok s.active) : StoreM D (Option D)) with
  | none => pure none
  | some digest =>
      match ← getContract .clockClaim digest with
      | some (.clockClaim claim) => pure (some claim)
      | _ => throw (.conflict "active claim object is unavailable")

def clearActive : StoreM D Unit := .write .os (fun s => { s with active := none })

def claimSuccessor (expectedHead : TemporalHead D) (claim : ClockClaim D) :
    StoreM D (ClaimInstallResult D) := do
  lift (verifyClaim expectedHead claim)
  recordAttemptArtifact (← lift (attemptId claim)) .claim (.clockClaim claim)
  .locked do
    if (← readHead) ≠ expectedHead then return ⟨claim, false, "STALE_EXPECTED_HEAD"⟩
    match ← readActive with
    | some active =>
        if active.digest = claim.digest then return ⟨claim, true, "IDEMPOTENT_ACTIVE_CLAIM"⟩
        return ⟨claim, false, "ACTIVE_SUCCESSOR_EXISTS"⟩
    | none =>
        Prog.write .os (fun s => { s with active := some claim.digest })
        return ⟨claim, true, "CLAIM_ACQUIRED"⟩

def recordFailure (claim : ClockClaim D) (failure : ClockProjectionFailure D) : StoreM D Unit := do
  lift (verifyFailure claim failure)
  recordAttemptArtifact (← lift (attemptId claim)) .failure (.clockProjectionFailure failure)
  .locked do
    match ← readActive with
    | some active =>
        .require (active.digest = claim.digest)
          (.conflict "failure does not own the active claim")
        clearActive
    | none => throw (.conflict "failure does not own the active claim")

/-- The bundle and the semantic receipt that a completion depends on, as `prepare_completion`
and `_verify_prepared` both check them; `unavailable` is the message that differs. -/
def verifyDependencies (claim : ClockClaim D) (completion : ClockCompletionReceipt D)
    (bundle : ProjectionBundle D) (stored : ContractObject D) (unavailable : String) :
    StoreM D Unit := do
  lift (verifyProjectionBundle bundle claim completion)
  match ← getContract .semanticProjectionReceipt completion.semanticProjectionReceiptDigest with
  | none => throw (.conflict unavailable)
  | some semantic => .require (stored = semantic) (.conflict unavailable)

def prepareCompletion (claim : ClockClaim D) (completion : ClockCompletionReceipt D) :
    StoreM D Unit := do
  lift (verifyCompletion claim completion)
  let attempt ← lift (attemptId claim)
  let files ← (.read .os (fun s => .ok (s.bundles attempt, s.attempts (attempt, .semantic))) :
    StoreM D (Option (ProjectionBundle D) × Option (ContractObject D)))
  match files with
  | (some bundle, some stored) =>
      verifyDependencies claim completion bundle stored "completion semantic receipt is unavailable"
      recordAttemptArtifact attempt .completion (.clockCompletionReceipt completion)
  | _ => throw (.conflict "completion dependencies are incomplete")

/-- `_publish`: the head moves only from the expected head, and only for the owner of the
active claim. A sequence that is already committed returns early, after the clean-up. -/
def publish (expectedHead : TemporalHead D) (claim : ClockClaim D)
    (completion : ClockCompletionReceipt D) : StoreM D (TemporalHead D) := do
  let current ← readHead
  if current.clockSequence = completion.clockSequence then
    .require (current.completionDigest = some completion.digest)
      (.conflict "clock sequence already committed with different bytes")
    clearActive
    return current
  .require (current = expectedHead) (.conflict "committed head changed before publication")
  match ← readActive with
  | some active =>
      .require (active.digest = claim.digest)
        (.conflict "completion does not own the active claim")
      Prog.write .os (fun s => { s with head := .publishing completion })
      clearActive
      return .publishing completion
  | none => throw (.conflict "completion does not own the active claim")

def publishCompletion (expectedHead : TemporalHead D) (claim : ClockClaim D)
    (completion : ClockCompletionReceipt D) : StoreM D (TemporalHead D) := do
  prepareCompletion claim completion
  .locked (publish expectedHead claim completion)

/-- `_verify_prepared` reads the bundle and the receipt without looking for them first: a
missing file is an `OSError`. -/
def verifyPrepared (claim : ClockClaim D) (completion : ClockCompletionReceipt D) :
    StoreM D Unit := do
  lift (verifyCompletion claim completion)
  let attempt ← lift (attemptId claim)
  let files ← (.read .os (fun s => .ok (s.bundles attempt, s.attempts (attempt, .semantic))) :
    StoreM D (Option (ProjectionBundle D) × Option (ContractObject D)))
  match files with
  | (some bundle, some stored) =>
      verifyDependencies claim completion bundle stored "prepared semantic receipt is unavailable"
  | _ => throw .os

def recover : StoreM D String :=
  .locked do
    match ← readActive with
    | none => return "NO_ACTIVE_CLAIM"
    | some active =>
        let attempt ← lift (attemptId active)
        let prepared ← (.read .os (fun s => .ok (s.attempts (attempt, .completion))) :
          StoreM D (Option (ContractObject D)))
        match prepared with
        | some (.clockCompletionReceipt completion) =>
            verifyPrepared active completion
            let expected ← lift
              (temporalHead active.previousCommittedSequence active.previousCompletionDigest)
            let _ ← publish expected active completion
            return "PREPARED_COMPLETION_PUBLISHED"
        | some _ => throw (.conflict "stored contract fails validation")
        | none =>
            recordAttemptArtifact attempt .failure
              (.clockProjectionFailure (recoveryFailure active))
            clearActive
            return "INCOMPLETE_ATTEMPT_FAILED"

def readCompletion (digest : D) : StoreM D (ClockCompletionReceipt D) := do
  match ← getContract .clockCompletionReceipt digest with
  | some (.clockCompletionReceipt completion) => pure completion
  | _ => throw (.conflict "completion chain object is unavailable")

/-- The loop of `reconstruct_chain`. It descends on `expected`: a receipt found where the
expected sequence is 0 has a positive sequence and is discontinuous. -/
def chainFrom : Nat → Option D → StoreM D (List (ClockCompletionReceipt D))
  | 0, none => pure []
  | _ + 1, none => throw (.conflict "completion chain does not terminate at genesis")
  | 0, some digest => do
      let _ ← readCompletion digest
      throw (.conflict "completion chain is discontinuous")
  | expected + 1, some digest => do
      let item ← readCompletion digest
      .require (item.clockSequence = expected + 1)
        (.conflict "completion chain is discontinuous")
      return (← chainFrom expected item.previousCompletionDigest) ++ [item]

def reconstructChain : StoreM D (List (ClockCompletionReceipt D)) := do
  let head ← (.locked readHead : StoreM D (TemporalHead D))
  chainFrom head.clockSequence head.completionDigest

end CsdFoundry.Temporal

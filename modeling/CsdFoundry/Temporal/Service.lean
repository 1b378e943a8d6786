import CsdFoundry.Temporal.Interference

/-! The projection coordinator over the temporal store. The semantic projector and the
projection adapter are its parameters; every exception on the way to publication, an I/O
error included, is converted into a failure receipt. -/
namespace CsdFoundry.Temporal
open Storage TemporalStore
open Storage.Discipline (After)
variable {D : Type} [LinearOrder D] [Sha256 D]

/-- A validated event enters the protocol as its digest. `osText` is what the class and text
of the `OSError` are that the platform raises. -/
structure ProjectionCoordinator (D : Type) where
  semanticProjector : ClockClaim D → D → Except (TemporalError D) (SemanticProjectionReceipt D)
  projectionAdapter : ClockClaim D → D → SemanticProjectionReceipt D →
    Except (TemporalError D) (ProjectionArtifacts D)
  claimPolicyDigest : D
  completionPolicyDigest : D
  osText : String

/-- An attempt ends in exactly one terminal receipt. -/
structure TemporalAttemptOutcome (D : Type) [LinearOrder D] where
  claim : ClockClaim D
  semanticReceipt : Option (SemanticProjectionReceipt D)
  terminal : Except (ClockProjectionFailure D) (ClockCompletionReceipt D)

def orderedPhases : List String := "SEMANTIC" :: phases

/-- `type(exc).__qualname__ + ":" + str(exc)`. -/
def TemporalError.text (osText : String) : TemporalError D → String
  | .protocol message => "TemporalProtocolError:" ++ message
  | .claimRejected reason => "TemporalClaimRejected:" ++ reason
  | .projection phase code _ => "TemporalProjectionError:" ++ phase ++ ": " ++ code
  | .store message => "TemporalStoreError:" ++ message
  | .conflict message => "TemporalStoreConflictError:" ++ message
  | .contract code => "GovernanceContractError:" ++ code
  | .os => osText
  | .foreign qualname text => qualname ++ ":" ++ text

omit [LinearOrder D] in
def textDigest (value : String) : D := Sha256.sha256 "" [.str value]

def verifyClaimEvent (claim : ClockClaim D) (event : D) : Except (TemporalError D) Unit :=
  if claim.validatedEventDigest ≠ event then
    .error (.projection "SEMANTIC" "VALIDATED_EVENT_MISMATCH" none)
  else .ok ()

def verifySemanticReceipt (claim : ClockClaim D) (event : D)
    (receipt : SemanticProjectionReceipt D) : Except (TemporalError D) Unit :=
  if receipt.clockClaimDigest ≠ claim.digest then
    .error (.projection "SEMANTIC" "SEMANTIC_CLAIM_MISMATCH" none)
  else if receipt.validatedEventDigest ≠ event then
    .error (.projection "SEMANTIC" "SEMANTIC_EVENT_MISMATCH" none)
  else if receipt.projectionSequence ≠ claim.proposedSequence then
    .error (.projection "SEMANTIC" "SEMANTIC_SEQUENCE_MISMATCH" none)
  else .ok ()

def verifyProjectionArtifacts (artifacts : ProjectionArtifacts D) :
    Except (TemporalError D) Unit :=
  if artifacts.observedPhaseOrder ≠ orderedPhases.tail then
    .error (.projection "QUARANTINE_COMMIT" "PROJECTION_ORDER_MISMATCH"
      (some (textDigest ("|".intercalate artifacts.observedPhaseOrder))))
  else if artifacts.releaseCompilationInvocations ≠ 0 then
    .error (.projection "QUARANTINE_COMMIT" "RELEASE_COMPILATION_IN_TICK" none)
  else if artifacts.quarantineEpoch < 0 then
    .error (.projection "QUARANTINE_COMMIT" "QUARANTINE_EPOCH_INVALID" none)
  else .ok ()

namespace ProjectionCoordinator

/-- `ClockCompletionReceipt.build` rejects a marker that occurs twice. -/
def buildCompletion (coordinator : ProjectionCoordinator D) (claim : ClockClaim D) (event : D)
    (semantic : SemanticProjectionReceipt D) (artifacts : ProjectionArtifacts D) :
    Except (TemporalError D) (ClockCompletionReceipt D) :=
  if canonical : (sorted artifacts.quarantineMarkerDigests).Pairwise (· < ·) then
    .ok {
      clockSequence := claim.proposedSequence
      previousCompletionDigest := claim.previousCompletionDigest
      clockClaimDigest := claim.digest
      validatedEventDigest := event
      semanticProjectionReceiptDigest := semantic.digest
      registryRootDigests := {
        evidenceUnit := artifacts.evidenceUnitRootDigest
        assumption := artifacts.assumptionRootDigest
        alternativeModel := artifacts.alternativeModelRootDigest }
      dispositionReceiptDigest := artifacts.dispositionReceiptDigest
      quarantineEpoch := artifacts.quarantineEpoch.toNat
      quarantineMarkerDigests := sorted artifacts.quarantineMarkerDigests
      completionPolicyDigest := coordinator.completionPolicyDigest
      positive := claim.successor ▸ Nat.succ_pos _
      canonical := canonical }
  else .error (.contract "DUPLICATE_SET_MEMBER")

omit [LinearOrder D] [Sha256 D] in
theorem tick_refl (claim : ClockClaim D) :
    claim.previousCommittedSequence = claim.previousCommittedSequence := rfl

/-- `_build_failure`. The code of the error has to be a token. -/
def buildFailure (claim : ClockClaim D) (phase code : String) (detail : Option D) :
    Except (TemporalError D) (ClockProjectionFailure D) :=
  if schemaToken code then
    .ok {
      attemptId := claim.attemptId
      previousCommittedSequence := claim.previousCommittedSequence
      previousCompletionDigest := claim.previousCompletionDigest
      proposedSequence := claim.proposedSequence
      clockClaimDigest := claim.digest
      validatedEventDigest := claim.validatedEventDigest
      failurePhase := if phase ∈ orderedPhases then phase else "SEMANTIC"
      failureCode := code
      failureDetailDigest := detail
      recordedAgainstTick := claim.previousCommittedSequence
      successor := claim.successor
      tick := tick_refl claim }
  else .error (.contract "SCHEMA_REJECTED:$.failure_code")

/-- The two `except` clauses of `complete_claim`. -/
def fail (coordinator : ProjectionCoordinator D) (claim : ClockClaim D)
    (receipt : Option (SemanticProjectionReceipt D)) (error : TemporalError D) :
    StoreM D (TemporalAttemptOutcome D) := do
  let failure ← lift (match error with
    | .projection phase code detail => buildFailure claim phase code detail
    | other => buildFailure claim "SEMANTIC" "UNHANDLED_PROJECTION_FAILURE"
        (some (textDigest (other.text coordinator.osText))))
  recordFailure claim failure
  return ⟨claim, receipt, .error failure⟩

/-- The body of the `try` once the projector has returned. -/
def project (coordinator : ProjectionCoordinator D) (expectedHead : TemporalHead D)
    (claim : ClockClaim D) (event : D) (receipt : SemanticProjectionReceipt D) :
    StoreM D (TemporalAttemptOutcome D) := do
  lift (verifySemanticReceipt claim event receipt)
  putContract (.semanticProjectionReceipt receipt)
  recordAttemptArtifact claim.attemptId .semantic (.semanticProjectionReceipt receipt)
  let artifacts ← lift (coordinator.projectionAdapter claim event receipt)
  lift (verifyProjectionArtifacts artifacts)
  recordProjectionArtifacts claim receipt artifacts
  let completion ← lift (coordinator.buildCompletion claim event receipt artifacts)
  prepareCompletion claim completion
  let _ ← publishCompletion expectedHead claim completion
  return ⟨claim, some receipt, .ok completion⟩

def completeClaim (coordinator : ProjectionCoordinator D) (expectedHead : TemporalHead D)
    (claim : ClockClaim D) (event : D) : StoreM D (TemporalAttemptOutcome D) := do
  lift (verifyClaimEvent claim event)
  match coordinator.semanticProjector claim event with
  | .error error => coordinator.fail claim none error
  | .ok receipt =>
      tryCatch (coordinator.project expectedHead claim event receipt)
        (coordinator.fail claim (some receipt))

/-- `observed_head or self._store.read_head()`. -/
def observeHead : Option (TemporalHead D) → StoreM D (TemporalHead D)
  | some head => pure head
  | none => .locked readHead

def buildClaim (coordinator : ProjectionCoordinator D) (event : D) (attemptId claimantId : String)
    (observedHead : Option (TemporalHead D)) : StoreM D (TemporalHead D × ClockClaim D) := do
  let head ← observeHead observedHead
  .require (schemaToken attemptId) (.contract "SCHEMA_REJECTED:$.attempt_id")
  .require (schemaToken claimantId) (.contract "SCHEMA_REJECTED:$.claimant_id")
  return (head, {
    attemptId := attemptId
    previousCommittedSequence := head.clockSequence
    previousCompletionDigest := head.completionDigest
    proposedSequence := head.clockSequence + 1
    validatedEventDigest := event
    claimantId := claimantId
    claimPolicyDigest := coordinator.claimPolicyDigest
    successor := rfl })

def claim (coordinator : ProjectionCoordinator D) (event : D) (attemptId claimantId : String)
    (observedHead : Option (TemporalHead D)) :
    StoreM D (TemporalHead D × ClaimInstallResult D) := do
  let (head, claim) ← coordinator.buildClaim event attemptId claimantId observedHead
  let result ← claimSuccessor head claim
  return (head, result)

def execute (coordinator : ProjectionCoordinator D) (event : D) (attemptId claimantId : String) :
    StoreM D (TemporalAttemptOutcome D) := do
  let (head, result) ← coordinator.claim event attemptId claimantId none
  .require (result.acquired = true) (.claimRejected result.reason)
  coordinator.completeClaim head result.claim event

end ProjectionCoordinator

/-- What a returned outcome vouches for: a failure has its receipt in the attempt directory. -/
def Recorded (outcome : TemporalAttemptOutcome D) (s : TemporalStore D) : Prop :=
  ∀ failure, outcome.terminal = .error failure →
    s.attempts (outcome.claim.attemptId, .failure) = some (.clockProjectionFailure failure)

variable {s : TemporalStore D} (coordinator : ProjectionCoordinator D)

theorem holds_fail (claim : ClockClaim D) (receipt : Option (SemanticProjectionReceipt D))
    (error : TemporalError D) (valid : s.Valid) :
    discipline.Holds false (coordinator.fail claim receipt error) (After false fun outcome t =>
      ∀ u, discipline.env false t u → u.Valid → Recorded outcome u) s := by
  refine .bind valid (.result fun failure t _ _ inv => ?_)
  refine (holds_recordFailure claim failure inv).seq inv fun _ u _ kept => ?_
  refine .pure fun v moves _ w later _ => ?_
  rintro _ ⟨⟩
  exact (env_grown later).attempts _ _ ((env_grown moves).attempts _ _ kept)

theorem holds_project (expectedHead : TemporalHead D) (claim : ClockClaim D) (event : D)
    (receipt : SemanticProjectionReceipt D) (valid : s.Valid) :
    discipline.Holds false (coordinator.project expectedHead claim event receipt)
      (After false fun outcome _ => ∀ u, Recorded outcome u) s := by
  refine .bind valid (.result fun _ t _ _ inv => ?_)
  refine .bind inv (holds_putContract fun t _ inv _ => ?_)
  refine .bind inv (holds_recordAttemptArtifact inv (by simp) fun t _ inv _ _ _ => ?_)
  refine .bind inv (.result fun artifacts t _ _ inv => ?_)
  refine .bind inv (.result fun _ t _ _ inv => ?_)
  refine (holds_recordProjectionArtifacts claim receipt artifacts inv).seq inv
    fun _ t inv _ => ?_
  refine .bind inv (.result fun completion t _ _ inv => ?_)
  refine .bind inv (holds_prepareCompletion inv fun t _ inv _ => ?_)
  refine (holds_publishCompletion expectedHead claim completion inv).seq inv fun _ t inv _ => ?_
  refine .pure fun _ _ _ _ _ failed => ?_
  cases failed

theorem holds_completeClaim (expectedHead : TemporalHead D) (claim : ClockClaim D) (event : D)
    (valid : s.Valid) :
    discipline.Holds false (coordinator.completeClaim expectedHead claim event)
      (After false fun outcome t => ∀ u, discipline.env false t u → u.Valid → Recorded outcome u)
      s := by
  refine .bind valid (.result fun _ t _ _ inv => ?_)
  cases coordinator.semanticProjector claim event with
  | error error => exact holds_fail coordinator claim none error inv
  | ok receipt =>
      refine .tryCatch inv ?_ fun e u inv => holds_fail coordinator claim (some receipt) e inv
      have body := holds_project coordinator expectedHead claim event receipt inv
      exact body.weaken fun outcome _ _ recorded _ _ _ v _ _ => recorded v

theorem holds_buildClaim (event : D) (attemptId claimantId : String)
    (observedHead : Option (TemporalHead D)) (valid : s.Valid) :
    discipline.Holds false (coordinator.buildClaim event attemptId claimantId observedHead)
      (After false fun _ _ => True) s := by
  have head : discipline.Holds false (ProjectionCoordinator.observeHead observedHead)
      (After false fun _ _ => True) s := by
    cases observedHead with
    | some head => exact .pure fun _ _ _ => trivial
    | none => exact .locked fun t moves inv => holds_readHead fun _ _ _ _ _ _ _ _ _ => trivial
  refine head.seq valid fun head t inv _ => ?_
  refine .bind inv (.require fun t _ _ inv => ?_)
  refine .bind inv (.require fun t _ _ inv => ?_)
  exact .pure fun _ _ _ => trivial

theorem holds_claim (event : D) (attemptId claimantId : String)
    (observedHead : Option (TemporalHead D)) (valid : s.Valid) :
    discipline.Holds false (coordinator.claim event attemptId claimantId observedHead)
      (After false fun _ _ => True) s := by
  have built := holds_buildClaim coordinator event attemptId claimantId observedHead valid
  refine built.seq valid fun built t inv _ => ?_
  refine (holds_claimSuccessor built.1 built.2 inv).seq inv fun _ t inv _ => ?_
  exact .pure fun _ _ _ => trivial

theorem holds_execute (event : D) (attemptId claimantId : String) (valid : s.Valid) :
    discipline.Holds false (coordinator.execute event attemptId claimantId)
      (After false fun outcome t => ∀ u, discipline.env false t u → u.Valid → Recorded outcome u)
      s := by
  have claimed := holds_claim coordinator event attemptId claimantId none valid
  refine claimed.seq valid fun claimed t inv _ => ?_
  refine .bind inv (.require fun t _ _ inv => ?_)
  exact holds_completeClaim coordinator claimed.1 claimed.2.claim event inv

/-- The calls on the service, next to those that go to the store directly. -/
inductive ServiceCall : StoreM D (Option (TemporalAttemptOutcome D)) → Prop where
  | store (call : Call p) : ServiceCall (p.map fun _ => none)
  | claim (coordinator : ProjectionCoordinator D) (event : D) (attemptId claimantId : String)
      (observedHead : Option (TemporalHead D)) :
      ServiceCall ((coordinator.claim event attemptId claimantId observedHead).map fun _ => none)
  | completeClaim (coordinator : ProjectionCoordinator D) (expectedHead : TemporalHead D)
      (claim : ClockClaim D) (event : D) :
      ServiceCall ((coordinator.completeClaim expectedHead claim event).map some)
  | execute (coordinator : ProjectionCoordinator D) (event : D) (attemptId claimantId : String) :
      ServiceCall ((coordinator.execute event attemptId claimantId).map some)

/-- What a finished service call leaves behind. -/
def Finished (result : Option (TemporalAttemptOutcome D)) (s : TemporalStore D) : Prop :=
  ∀ outcome, result = some outcome → Recorded outcome s

theorem ServiceCall.holds {p : StoreM D (Option (TemporalAttemptOutcome D))}
    (call : ServiceCall p) (s : TemporalStore D) (valid : s.Valid) :
    discipline.Holds false p (After false Finished) s := by
  have reported : ∀ {q : StoreM D (TemporalAttemptOutcome D)},
      discipline.Holds false q (After false fun outcome t =>
        ∀ u, discipline.env false t u → u.Valid → Recorded outcome u) s →
      discipline.Holds false (q.map some) (After false Finished) s := by
    refine fun holds => .map valid (holds.weaken fun outcome t _ recorded u moves inv => ?_)
    rintro _ ⟨⟩
    exact recorded u moves inv
  have silent : ∀ {α : Type} {q : StoreM D α},
      discipline.Holds false q (After false fun _ _ => True) s →
      discipline.Holds false (q.map fun _ => none) (After false Finished) s := by
    refine fun holds => .map valid (holds.weaken fun _ _ _ _ _ _ _ => ?_)
    rintro _ ⟨⟩
  cases call with
  | store call => exact silent (call.holds s valid)
  | claim coordinator event attemptId claimantId observedHead =>
      exact silent (holds_claim coordinator event attemptId claimantId observedHead valid)
  | completeClaim coordinator expectedHead claim event =>
      exact reported (holds_completeClaim coordinator expectedHead claim event valid)
  | execute coordinator event attemptId claimantId =>
      exact reported (holds_execute coordinator event attemptId claimantId valid)

end CsdFoundry.Temporal

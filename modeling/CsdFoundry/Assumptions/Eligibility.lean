import CsdFoundry.Evidence.Lifecycle
import CsdFoundry.Policy.Values
import CsdFoundry.Registry.Store

/-! The evidence gate of assumption admission: a decision about the current status of one
evidence unit, bound to a root of the evidence registry. -/
namespace CsdFoundry.Assumptions
open Registry Storage
open Evidence (EvidenceUnit projectEvidenceHistory)
open Policy (digestValue domainDigest optionalDigestValue)
open Temporal (isToken)

/-- `EVIDENCE_ADMISSION_CODES`. -/
inductive EvidenceAdmissionCode where
  | dependencyMissing
  | historyInvalid
  | notVerified
  | challenged
  | notYetValid
  | expired
  | terminal
  | eligible
  deriving DecidableEq

def EvidenceAdmissionCode.text : EvidenceAdmissionCode → String
  | .dependencyMissing => "ASSUMPTION_EVIDENCE_DEPENDENCY_MISSING"
  | .historyInvalid => "ASSUMPTION_EVIDENCE_HISTORY_INVALID"
  | .notVerified => "ASSUMPTION_EVIDENCE_NOT_VERIFIED"
  | .challenged => "ASSUMPTION_EVIDENCE_CHALLENGED"
  | .notYetValid => "ASSUMPTION_EVIDENCE_NOT_YET_VALID"
  | .expired => "ASSUMPTION_EVIDENCE_EXPIRED"
  | .terminal => "ASSUMPTION_EVIDENCE_TERMINAL"
  | .eligible => "EVIDENCE_ADMISSION_ELIGIBLE"

@[ext] structure EvidenceAdmissionEligibilityDecision (D : Type) where
  eligible : Bool
  code : EvidenceAdmissionCode
  evidenceId : String
  evaluatedAtSequence : Nat
  evidenceRegistryRoot : D
  currentEventDigest : Option D
  currentStatus : Option String
  result : eligible = (code == .eligible)
  named : isToken evidenceId = true
  status : ∀ token ∈ currentStatus, isToken token = true

instance {D : Type} [DecidableEq D] :
    DecidableEq (EvidenceAdmissionEligibilityDecision D) := fun _ _ =>
  decidable_of_iff _ EvidenceAdmissionEligibilityDecision.ext_iff.symm

variable {D : Type}

namespace EvidenceAdmissionEligibilityDecision

/-- `build`, whose `__post_init__` may raise. -/
def build (eligible : Bool) (code : EvidenceAdmissionCode) (evidenceId : String)
    (evaluatedAtSequence : Nat) (evidenceRegistryRoot : D) (currentEventDigest : Option D)
    (currentStatus : Option String) :
    Except String (EvidenceAdmissionEligibilityDecision D) :=
  if result : eligible = (code == .eligible) then
    if named : isToken evidenceId = true then
      if status : ∀ token ∈ currentStatus, isToken token = true then
        .ok ⟨eligible, code, evidenceId, evaluatedAtSequence, evidenceRegistryRoot,
          currentEventDigest, currentStatus, result, named, status⟩
      else .error "EVIDENCE_ADMISSION_ELIGIBILITY_STATUS_INVALID"
    else .error "EVIDENCE_ADMISSION_ELIGIBILITY_ID_INVALID"
  else .error "EVIDENCE_ADMISSION_ELIGIBILITY_RESULT_MISMATCH"

variable [DigestText D] [Sha256 D] (decision : EvidenceAdmissionEligibilityDecision D)

def unsignedValue : Json :=
  .obj [("code", .str decision.code.text),
    ("current_event_digest", optionalDigestValue decision.currentEventDigest),
    ("current_status", (decision.currentStatus.map .str).getD .null),
    ("eligible", .bool decision.eligible),
    ("evaluated_at_sequence", .int decision.evaluatedAtSequence),
    ("evidence_id", .str decision.evidenceId),
    ("evidence_registry_root", digestValue decision.evidenceRegistryRoot),
    ("schema_version", .str "evidence-admission-eligibility/1")]

def decisionDigest : D := domainDigest "EVIDENCE_ADMISSION_ELIGIBILITY" decision.unsignedValue

def toJsonValue : Json :=
  .obj [("code", .str decision.code.text),
    ("current_event_digest", optionalDigestValue decision.currentEventDigest),
    ("current_status", (decision.currentStatus.map .str).getD .null),
    ("decision_digest", digestValue decision.decisionDigest),
    ("eligible", .bool decision.eligible),
    ("evaluated_at_sequence", .int decision.evaluatedAtSequence),
    ("evidence_id", .str decision.evidenceId),
    ("evidence_registry_root", digestValue decision.evidenceRegistryRoot),
    ("schema_version", .str "evidence-admission-eligibility/1")]

end EvidenceAdmissionEligibilityDecision

open EvidenceAdmissionEligibilityDecision (build)
variable [DigestText D] [Sha256 D]

/-- The code for the current status of a unit. -/
def currentEvidenceCode (current : EvidenceUnit D) (evaluatedAtSequence : Nat) :
    EvidenceAdmissionCode :=
  match current.status with
  | .registered => .notVerified
  | .challenged => .challenged
  | .expired => .expired
  | .invalidated | .rejected | .superseded => .terminal
  | .verified =>
      if evaluatedAtSequence < current.validFromSequence then .notYetValid
      else if ∃ expires ∈ current.expiresAtSequence, expires ≤ evaluatedAtSequence then .expired
      else .eligible

/-- `_evaluate_current_evidence`. -/
def evaluateCurrentEvidence (current : EvidenceUnit D) (evaluatedAtSequence : Nat)
    (evidenceRegistryRoot : D) : Except String (EvidenceAdmissionEligibilityDecision D) :=
  let code := currentEvidenceCode current evaluatedAtSequence
  build (code == .eligible) code current.evidenceId evaluatedAtSequence evidenceRegistryRoot
    (some current.currentEventDigest) (some current.status.text)

/-- What the history that was read says, at the root that was read. -/
def evaluateEvidenceHistory [DecidableEq D] (evidenceId : String) (evaluatedAtSequence : Nat)
    (root : D) (history : List (RegistryEvent D)) :
    Except String (EvidenceAdmissionEligibilityDecision D) :=
  match history.getLast? with
  | none => build false .dependencyMissing evidenceId evaluatedAtSequence root none none
  | some last =>
      match projectEvidenceHistory history with
      | .error _ | .ok none =>
          build false .historyInvalid evidenceId evaluatedAtSequence root (some last.digest) none
      | .ok (some current) => evaluateCurrentEvidence current evaluatedAtSequence root

variable [LinearOrder D]

/-- The exceptions of the governance contracts. -/
def contractError (result : Except String α) : RegistryM D α :=
  lift (result.mapError fun code => .governed code none)

def evaluateEvidenceAdmissionEligibility (evidenceId : String) (evaluatedAtSequence : Nat) :
    RegistryM D (EvidenceAdmissionEligibilityDecision D) := do
  contractError (check (isToken evidenceId = true) "EVIDENCE_ADMISSION_ELIGIBILITY_ID_INVALID")
  let root := (← snapshot .evidenceUnit).rootDigest
  let history ← reconstructEntity .evidenceUnit evidenceId
  contractError (evaluateEvidenceHistory evidenceId evaluatedAtSequence root history)

end CsdFoundry.Assumptions

import CsdFoundry.Keyed
import Mathlib.Data.String.Basic
import Mathlib.Data.Prod.Lex

/-! Domain model of the executable kernel. Times and profile versions are integers, as
nothing but the verifier keeps them from being negative. -/
namespace CsdFoundry.Kernel

theorem any_iff {α : Type} {p : α → Bool} {value : Option α} :
    value.any p = true ↔ ∃ x ∈ value, p x = true := by
  cases value <;> simp

theorem not_any_iff {α : Type} {p : α → Bool} {value : Option α} :
    ¬ value.any p = true ↔ ∀ x ∈ value, ¬ p x = true := by
  cases value <;> simp

inductive EvidenceStatus where
  | current
  | invalidated
  | expired
  deriving DecidableEq

def EvidenceStatus.value : EvidenceStatus → String
  | .current => "currentEvidence"
  | .invalidated => "invalidated"
  | .expired => "expired"

inductive ObligationStatus where
  | current
  | planned
  | retired
  deriving DecidableEq

inductive SourceState where
  | connected
  | wiredInert
  | unknown
  deriving DecidableEq

def SourceState.value : SourceState → String
  | .connected => "connected"
  | .wiredInert => "wiredInert"
  | .unknown => "sourceUnknown"

inductive Assurance where
  | pass
  | partial_
  | fail
  | unverified
  | stale
  | na
  deriving DecidableEq

def Assurance.value : Assurance → String
  | .pass => "pass"
  | .partial_ => "partial"
  | .fail => "fail"
  | .unverified => "unverified"
  | .stale => "stale"
  | .na => "assuranceNA"

/-- `_SUBSTANTIVE`. -/
def Assurance.substantive : Assurance → Bool
  | .pass | .partial_ | .fail => true
  | .unverified | .stale | .na => false

inductive BasisKind where
  | source
  | deployment
  | verdict
  deriving DecidableEq

def BasisKind.value : BasisKind → String
  | .source => "source"
  | .deployment => "deployment"
  | .verdict => "verdict"

inductive RequestStatus where
  | pending
  | closed
  deriving DecidableEq

structure Evidence where
  evidenceId : String
  dimension : String
  status : EvidenceStatus := .current
  dependencies : Finset String := ∅
  outcome : Option String := none
  issuedAt : Int := 0
  expiresAt : Option Int := none
  profileId : Option String := none
  profileVersion : Option Int := none
  deriving DecidableEq

namespace Evidence

def invalidate (item : Evidence) : Evidence :=
  if item.status ≠ .current then item else { item with status := .invalidated }

def expire (item : Evidence) : Evidence :=
  if item.status ≠ .current then item else { item with status := .expired }

/-- `expires_at is not None and expires_at <= time`. -/
def due (item : Evidence) (time : Int) : Bool := item.expiresAt.any (· ≤ time)

/-- `_evidence_matches_required_profile`, for an item that exists. -/
def matchesProfile (profileId : Option String) (profileVersion : Option Int)
    (item : Evidence) : Bool :=
  profileId = none || item.profileId = none ||
    (item.profileId = profileId && item.profileVersion = profileVersion)

def isCurrent (item : Evidence) : Bool := item.status = .current

theorem isCurrent_iff {item : Evidence} : item.isCurrent = true ↔ item.status = .current :=
  decide_eq_true_iff

end Evidence

structure Basis where
  basisId : String
  kind : BasisKind
  claim : String
  memberEvidenceIds : Finset String
  approved : Bool := true
  deriving DecidableEq

/-- The shared body of the four currency predicates: an approved basis with members, each
of them found in the dictionary and acceptable. -/
def Basis.supportedBy (evidence : String → Option Evidence) (acceptable : Evidence → Bool)
    (basis : Basis) : Bool :=
  basis.approved && basis.memberEvidenceIds ≠ ∅ &&
    decide (∀ member ∈ basis.memberEvidenceIds, (evidence member).any acceptable = true)

structure ReassessmentRequest where
  requestId : String
  reason : String
  requestedAt : Int
  dueAt : Int
  status : RequestStatus := .pending
  closedAt : Option Int := none
  deriving DecidableEq

def ReassessmentRequest.close (time : Int) (request : ReassessmentRequest) :
    ReassessmentRequest :=
  if request.status = .closed then request
  else { request with status := .closed, closedAt := some time }

structure HeartbeatState where
  interval : Int
  lastRecordedAt : Int
  dueAt : Int
  deriving DecidableEq

structure AuditEvent where
  eventType : String
  details : List (String × String)
  deriving DecidableEq

/-- The details are sorted by their names. -/
def AuditEvent.create (eventType : String) (details : List (String × String)) : AuditEvent :=
  ⟨eventType, details.insertionSort (fun a b => a.1 ≤ b.1)⟩

structure ControlState where
  controlId : String
  obligation : ObligationStatus := .current
  sourceState : SourceState := .unknown
  assurance : Assurance := .unverified
  evidence : List Evidence := []
  bases : List Basis := []
  currentSourceBasisIds : Finset String := ∅
  currentVerdictBasisIds : Finset String := ∅
  history : List AuditEvent := []
  logicalTime : Int := 0
  requiredProfileId : Option String := none
  requiredProfileVersion : Option Int := none
  reassessmentRequests : List ReassessmentRequest := []
  heartbeat : Option HeartbeatState := none
  deriving DecidableEq

namespace ControlState

def evidenceById (state : ControlState) : String → Option Evidence :=
  Keyed.find Evidence.evidenceId state.evidence

def basesById (state : ControlState) : String → Option Basis :=
  Keyed.find Basis.basisId state.bases

def requestsById (state : ControlState) : String → Option ReassessmentRequest :=
  Keyed.find ReassessmentRequest.requestId state.reassessmentRequests

def evidenceIds (state : ControlState) : Finset String :=
  Keyed.keys Evidence.evidenceId state.evidence

def basisIds (state : ControlState) : Finset String := Keyed.keys Basis.basisId state.bases

def requestIds (state : ControlState) : Finset String :=
  Keyed.keys ReassessmentRequest.requestId state.reassessmentRequests

def currentBasisIds (state : ControlState) : Finset String :=
  state.currentSourceBasisIds ∪ state.currentVerdictBasisIds

/-- `heartbeat is not None and heartbeat.due_at <= time`. -/
def heartbeatMissed (state : ControlState) (time : Int) : Bool :=
  state.heartbeat.any (·.dueAt ≤ time)

end ControlState

/-! The events that the kernel accepts. -/

structure DependencyChange where
  dependencyId : String
  apparentDirection : Option String := none

structure Reassess where
  newEvidence : List Evidence
  newBases : List Basis
  sourceState : Option SourceState := none
  assurance : Option Assurance := none
  authority : String := "I3"
  closeRequestIds : List String := []

structure RetireControl where
  retirementEvidence : Evidence
  authority : String := "I3"

structure AdvanceClock where
  targetTime : Int

structure ProfileChange where
  profileId : String
  profileVersion : Int
  authority : String := "I3"
  requestId : Option String := none
  requestDueAt : Option Int := none

structure RequestReassessment where
  requestId : String
  reason : String
  dueAt : Int
  authority : String := "I3"

structure RecordHeartbeat where
  atTime : Int
  interval : Option Int := none
  authority : String := "I3"

inductive CsdEvent where
  | dependencyChange (event : DependencyChange)
  | reassess (event : Reassess)
  | retireControl (event : RetireControl)
  | advanceClock (event : AdvanceClock)
  | profileChange (event : ProfileChange)
  | requestReassessment (event : RequestReassessment)
  | recordHeartbeat (event : RecordHeartbeat)

/-- The public trace of a transition. -/
structure TransitionTrace where
  eventType : String
  invalidatedEvidence : List String := []
  preservedEvidence : List String := []
  removedBases : List String := []
  survivingBases : List String := []
  previousSourceState : Option String := none
  resultingSourceState : Option String := none
  previousAssurance : Option String := none
  resultingAssurance : Option String := none
  forbiddenInferences : List String := []
  rulesFired : List String := []
  nextGovernedStep : Option String := none

end CsdFoundry.Kernel

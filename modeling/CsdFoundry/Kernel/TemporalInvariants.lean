import CsdFoundry.Kernel.Invariants
import Mathlib.Data.Finset.Option

/-! Independent verification of logical time and governance. -/
namespace CsdFoundry.Kernel

def validateExactAudit (before after : ControlState) (expected : AuditEvent)
    (invariantId : InvariantId) : List Violation :=
  flag (after.history ≠ before.history ++ [expected]) invariantId
    s!"{expected.eventType} audit append is not canonical"

theorem validateExactAudit_eq_nil : validateExactAudit before after expected invariantId = [] ↔
    after.history = before.history ++ [expected] := by
  simp [validateExactAudit]

/-- `_basis_is_supported` under a required profile. -/
def basisIsSupportedUnder (profileId : Option String) (profileVersion : Option Int)
    (evidence : String → Option Evidence) (basis : Basis) : Bool :=
  basis.supportedBy evidence (fun item =>
    item.isCurrent && item.matchesProfile profileId profileVersion)

/-- The bases of the earlier state that the later evidence supports. -/
def expectedBasisSurvival (before after : ControlState) (profileId : Option String)
    (profileVersion : Option Int) : Finset String × Finset String :=
  let supported := fun basisId => (before.basesById basisId).any
    (basisIsSupportedUnder profileId profileVersion after.evidenceById)
  (before.currentSourceBasisIds.filter (fun basisId => supported basisId),
    before.currentVerdictBasisIds.filter (fun basisId => supported basisId))

def validateProfilePair (profileId : Option String) (profileVersion : Option Int)
    (subject : String) : List Violation :=
  flag (profileId.isNone ≠ profileVersion.isNone) .pInv01
    s!"{subject} has an incomplete profile binding" ++
  flag (profileVersion.any (· ≤ 0) = true) .pInv01
    s!"{subject} has a non-positive profile version"

structure ProfilePair (profileId : Option String) (profileVersion : Option Int) : Prop where
  complete : profileId.isNone = profileVersion.isNone
  positive : ∀ version ∈ profileVersion, 0 < version

theorem validateProfilePair_eq_nil : validateProfilePair profileId profileVersion subject = [] ↔
    ProfilePair profileId profileVersion := by
  simp only [validateProfilePair, List.append_eq_nil_iff, flag_eq_nil, not_not, not_any_iff,
    decide_eq_true_eq, Int.not_le]
  constructor
  · rintro ⟨complete, positive⟩
    exact ⟨complete, positive⟩
  · rintro ⟨complete, positive⟩
    exact ⟨complete, positive⟩

def evidenceViolations (time : Int) (item : Evidence) : List Violation :=
  flag (item.issuedAt < 0 ∨ time < item.issuedAt) .tInv02
    s!"evidence {item.evidenceId} has an invalid issue time" ++
  flag (item.expiresAt.any (· ≤ item.issuedAt) = true) .tInv02
    s!"evidence {item.evidenceId} has an invalid expiry" ++
  flag (item.status = .current ∧ item.due time = true) .tInv02
    s!"evidence {item.evidenceId} remained current after expiry" ++
  flag (item.status = .expired ∧ item.expiresAt.any (time < ·) = true) .tInv02
    s!"evidence {item.evidenceId} expired before its deadline" ++
  validateProfilePair item.profileId item.profileVersion s!"evidence {item.evidenceId}"

/-- Everything about the times of an item that does not depend on its status. -/
structure Evidence.Issued (time : Int) (item : Evidence) : Prop where
  notNegative : 0 ≤ item.issuedAt
  notFuture : item.issuedAt ≤ time
  expiry : ∀ deadline ∈ item.expiresAt, item.issuedAt < deadline
  profile : ProfilePair item.profileId item.profileVersion

/-- The statuses that an item may have at a time: current only before its deadline, expired
only from it on. -/
def Evidence.allows (time : Int) (item : Evidence) : EvidenceStatus → Prop
  | .current => ∀ deadline ∈ item.expiresAt, time < deadline
  | .expired => ∀ deadline ∈ item.expiresAt, deadline ≤ time
  | .invalidated => True

theorem evidenceViolations_eq_nil : evidenceViolations time item = [] ↔
    item.Issued time ∧ item.allows time item.status := by
  simp only [evidenceViolations, List.append_eq_nil_iff, flag_eq_nil, validateProfilePair_eq_nil]
  simp only [Evidence.due, not_and, not_any_iff, decide_eq_true_eq, Int.not_le, Int.not_lt]
  constructor
  · rintro ⟨⟨⟨⟨issued, expiry⟩, current⟩, expired⟩, profile⟩
    refine ⟨⟨by omega, by omega, expiry, profile⟩, ?_⟩
    cases status : item.status with
    | current => exact current status
    | expired => exact expired status
    | invalidated => trivial
  · rintro ⟨⟨notNegative, notFuture, expiry, profile⟩, allowed⟩
    refine ⟨⟨⟨⟨by omega, expiry⟩, ?_⟩, ?_⟩, profile⟩
    · intro status
      rwa [status] at allowed
    · intro status
      rwa [status] at allowed

def profileBasisViolations (state : ControlState) (basisId : String) : List Violation :=
  match state.basesById basisId with
  | none => []
  | some basis => flag (basisIsSupportedUnder state.requiredProfileId
        state.requiredProfileVersion state.evidenceById basis = false) .pInv02
      s!"current basis {basisId} is incomplete under the required profile"

def requestViolations (time : Int) (request : ReassessmentRequest) : List Violation :=
  flag (request.requestedAt < 0 ∨ time < request.requestedAt) .rInv01
    s!"request {request.requestId} has an invalid request time" ++
  flag (request.dueAt < request.requestedAt) .rInv01
    s!"request {request.requestId} has an invalid due time" ++
  flag (request.status = .pending ∧ request.closedAt.isSome = true) .rInv03
    s!"pending request {request.requestId} has a close time" ++
  flag (request.status = .closed ∧
      (request.closedAt.isNone = true ∨ request.closedAt.any (time < ·) = true)) .rInv03
    s!"closed request {request.requestId} has an invalid close time"

structure ReassessmentRequest.Valid (time : Int) (request : ReassessmentRequest) : Prop where
  notNegative : 0 ≤ request.requestedAt
  notFuture : request.requestedAt ≤ time
  due : request.requestedAt ≤ request.dueAt
  pending : request.status = .pending → request.closedAt = none
  closed : request.status = .closed → ∃ closedAt ≤ time, request.closedAt = some closedAt

theorem requestViolations_eq_nil : requestViolations time request = [] ↔
    request.Valid time := by
  simp only [requestViolations, List.append_eq_nil_iff, flag_eq_nil]
  constructor
  · rintro ⟨⟨⟨requested, due⟩, pending⟩, closed⟩
    refine ⟨by omega, by omega, by omega, ?_, ?_⟩
    · intro status
      simpa [status] using pending
    · intro status
      cases at_ : request.closedAt with
      | none => simp [status, at_] at closed
      | some closedAt => simpa [status, at_] using closed
  · rintro ⟨notNegative, notFuture, due, pending, closed⟩
    refine ⟨⟨⟨by omega, by omega⟩, ?_⟩, ?_⟩
    · rintro ⟨status, closedAt⟩
      simp [pending status] at closedAt
    · rintro ⟨status, early⟩
      obtain ⟨closedAt, le, set⟩ := closed status
      simp [set] at early
      omega

def heartbeatViolations (state : ControlState) : List Violation :=
  match state.heartbeat with
  | none => []
  | some heartbeat =>
      flag (heartbeat.interval ≤ 0) .hInv01 "heartbeat interval must be positive" ++
      flag (state.logicalTime < heartbeat.lastRecordedAt) .hInv01
        "heartbeat is recorded in the future" ++
      flag (heartbeat.dueAt ≠ heartbeat.lastRecordedAt + heartbeat.interval) .hInv01
        "heartbeat deadline is not canonical" ++
      flag (heartbeat.dueAt ≤ state.logicalTime ∧ state.assurance.substantive = true) .tInv06
        "missed heartbeat retained a substantive verdict"

structure HeartbeatState.Valid (time : Int) (heartbeat : HeartbeatState) : Prop where
  positive : 0 < heartbeat.interval
  notFuture : heartbeat.lastRecordedAt ≤ time
  deadline : heartbeat.dueAt = heartbeat.lastRecordedAt + heartbeat.interval

theorem heartbeatViolations_eq_nil : heartbeatViolations state = [] ↔
    (∀ heartbeat ∈ state.heartbeat, heartbeat.Valid state.logicalTime) ∧
      (state.heartbeatMissed state.logicalTime = true → state.assurance.substantive = false) := by
  cases recorded : state.heartbeat with
  | none => simp [heartbeatViolations, ControlState.heartbeatMissed, recorded]
  | some heartbeat =>
      simp only [heartbeatViolations, ControlState.heartbeatMissed, recorded,
        List.append_eq_nil_iff, flag_eq_nil, Option.mem_some_iff, forall_eq', Option.any_some,
        not_not, decide_eq_true_eq, not_and, Bool.not_eq_true]
      constructor
      · rintro ⟨⟨⟨positive, past⟩, deadline⟩, missed⟩
        exact ⟨⟨by omega, by omega, deadline⟩, missed⟩
      · rintro ⟨⟨positive, past, deadline⟩, missed⟩
        exact ⟨⟨⟨by omega, by omega⟩, deadline⟩, missed⟩

def validateTemporalState (state : ControlState) : List Violation :=
  flag (state.logicalTime < 0) .tInv01 "logical time cannot be negative" ++
  validateProfilePair state.requiredProfileId state.requiredProfileVersion "required profile" ++
  state.evidence.flatMap (evidenceViolations state.logicalTime) ++
  (sortedSet state.currentBasisIds).flatMap (profileBasisViolations state) ++
  flag (state.requestIds.card ≠ state.reassessmentRequests.length) .rInv01
    "duplicate reassessment request identity" ++
  state.reassessmentRequests.flatMap (requestViolations state.logicalTime) ++
  heartbeatViolations state

structure TemporalValid (state : ControlState) : Prop where
  time : 0 ≤ state.logicalTime
  profile : ProfilePair state.requiredProfileId state.requiredProfileVersion
  evidence : ∀ item ∈ state.evidence,
    item.Issued state.logicalTime ∧ item.allows state.logicalTime item.status
  bases : ∀ basisId ∈ state.currentBasisIds, ∀ basis, state.basesById basisId = some basis →
    basisIsSupportedUnder state.requiredProfileId state.requiredProfileVersion
      state.evidenceById basis = true
  distinct : (state.reassessmentRequests.map ReassessmentRequest.requestId).Nodup
  requests : ∀ request ∈ state.reassessmentRequests, request.Valid state.logicalTime
  heartbeat : ∀ heartbeat ∈ state.heartbeat, heartbeat.Valid state.logicalTime
  alive : state.heartbeatMissed state.logicalTime = true → state.assurance.substantive = false

theorem profileBasisViolations_eq_nil : profileBasisViolations state basisId = [] ↔
    ∀ basis, state.basesById basisId = some basis →
      basisIsSupportedUnder state.requiredProfileId state.requiredProfileVersion
        state.evidenceById basis = true := by
  cases found : state.basesById basisId <;> simp [profileBasisViolations, found]

theorem validateTemporalState_eq_nil : validateTemporalState state = [] ↔
    TemporalValid state := by
  simp only [validateTemporalState, List.append_eq_nil_iff, flag_eq_nil, not_not,
    validateProfilePair_eq_nil, List.flatMap_eq_nil_iff, evidenceViolations_eq_nil,
    mem_sortedSet, profileBasisViolations_eq_nil, requestViolations_eq_nil,
    heartbeatViolations_eq_nil, Int.not_lt]
  simp only [ControlState.requestIds, Keyed.nodup_iff]
  constructor
  · rintro ⟨⟨⟨⟨⟨⟨time, profile⟩, evidence⟩, bases⟩, distinct⟩, requests⟩, heartbeat, alive⟩
    exact ⟨time, profile, evidence, bases, distinct, requests, heartbeat, alive⟩
  · rintro ⟨time, profile, evidence, bases, distinct, requests, heartbeat, alive⟩
    exact ⟨⟨⟨⟨⟨⟨time, profile⟩, evidence⟩, bases⟩, distinct⟩, requests⟩, heartbeat, alive⟩

/-- `validate_temporal_transition`, for one item of evidence. -/
def metadataViolations (after : ControlState) (old : Evidence) : List Violation :=
  match after.evidenceById old.evidenceId with
  | none => []
  | some new => flag (old.issuedAt ≠ new.issuedAt ∨ old.expiresAt ≠ new.expiresAt ∨
        old.profileId ≠ new.profileId ∨ old.profileVersion ≠ new.profileVersion) .tInv03
      s!"evidence {old.evidenceId} temporal metadata was rewritten"

structure Evidence.SameMetadata (old new : Evidence) : Prop where
  issuedAt : old.issuedAt = new.issuedAt
  expiresAt : old.expiresAt = new.expiresAt
  profileId : old.profileId = new.profileId
  profileVersion : old.profileVersion = new.profileVersion

/-- A request stays as it is, or a pending one is closed at the given time. -/
def ReassessmentRequest.validClosure (time : Int) (old new : ReassessmentRequest) : Bool :=
  old = new || (old.status = .pending && new.status = .closed && new.closedAt = some time &&
    old.requestId = new.requestId && old.reason = new.reason &&
    old.requestedAt = new.requestedAt && old.dueAt = new.dueAt)

theorem ReassessmentRequest.validClosure_iff {old new : ReassessmentRequest} :
    validClosure time old new = true ↔
      new = old ∨ (old.status = .pending ∧ new = old.close time) := by
  cases old
  cases new
  simp only [validClosure, close, Bool.or_eq_true, Bool.and_eq_true, decide_eq_true_eq]
  grind

def preservedRequestViolations (after : ControlState) (old : ReassessmentRequest) :
    List Violation :=
  match after.requestsById old.requestId with
  | none => [⟨.rInv03, s!"request {old.requestId} was deleted"⟩]
  | some new => flag (old.validClosure after.logicalTime new = false) .rInv03
      s!"request {old.requestId} was rewritten"

def validateTemporalTransition (before after : ControlState) : List Violation :=
  validateTemporalState after ++
  flag (after.logicalTime < before.logicalTime) .tInv01 "logical time moved backward" ++
  Keyed.checkEach Evidence.evidenceId before.evidence (metadataViolations after) ++
  Keyed.checkEach ReassessmentRequest.requestId before.reassessmentRequests
    (preservedRequestViolations after) ++
  flag (before.requiredProfileId = after.requiredProfileId ∧
      before.requiredProfileVersion.any (fun old =>
        after.requiredProfileVersion.any (· < old)) = true) .pInv01
    "required profile version moved backward"

structure TemporalPreserved (before after : ControlState) : Prop where
  time : before.logicalTime ≤ after.logicalTime
  evidence : ∀ evidenceId old new, before.evidenceById evidenceId = some old →
    after.evidenceById evidenceId = some new → old.SameMetadata new
  requests : ∀ requestId old, before.requestsById requestId = some old →
    ∃ new, after.requestsById requestId = some new ∧
      (new = old ∨ (old.status = .pending ∧ new = old.close after.logicalTime))
  profile : before.requiredProfileId = after.requiredProfileId →
    ∀ old ∈ before.requiredProfileVersion, ∀ new ∈ after.requiredProfileVersion, old ≤ new

theorem metadataViolations_eq_nil (named : old.evidenceId = evidenceId) :
    metadataViolations after old = [] ↔
      ∀ new, after.evidenceById evidenceId = some new → old.SameMetadata new := by
  subst named
  cases located : after.evidenceById old.evidenceId with
  | none => simp [metadataViolations, located]
  | some new =>
      simp only [metadataViolations, located, flag_eq_nil, Option.some.injEq, forall_eq']
      constructor
      · intro same
        constructor <;> grind
      · rintro ⟨issuedAt, expiresAt, profileId, profileVersion⟩
        grind

theorem preservedRequestViolations_eq_nil (named : old.requestId = requestId) :
    preservedRequestViolations after old = [] ↔
      ∃ new, after.requestsById requestId = some new ∧
        (new = old ∨ (old.status = .pending ∧ new = old.close after.logicalTime)) := by
  subst named
  cases located : after.requestsById old.requestId with
  | none => simp [preservedRequestViolations, located]
  | some new =>
      simp only [preservedRequestViolations, located, flag_eq_nil, Bool.not_eq_false,
        ReassessmentRequest.validClosure_iff, Option.some.injEq, exists_eq_left']

theorem validateTemporalTransition_eq_nil : validateTemporalTransition before after = [] ↔
    TemporalValid after ∧ TemporalPreserved before after := by
  simp only [validateTemporalTransition, List.append_eq_nil_iff, flag_eq_nil,
    validateTemporalState_eq_nil, Keyed.checkEach_eq_nil, Int.not_lt, and_assoc]
  refine and_congr_right (fun _ => ?_)
  constructor
  · rintro ⟨time, evidence, requests, profile⟩
    constructor
    · exact time
    · intro evidenceId old new found located
      exact (metadataViolations_eq_nil (Keyed.key_of_find found)).mp
        (evidence evidenceId old found) new located
    · intro requestId old found
      exact (preservedRequestViolations_eq_nil (Keyed.key_of_find found)).mp
        (requests requestId old found)
    · intro same old set new set'
      rw [Option.mem_def.mp set, Option.mem_def.mp set'] at profile
      simpa [same] using profile
  · rintro ⟨time, evidence, requests, profile⟩
    refine ⟨time, ?_, ?_, ?_⟩
    · intro evidenceId old found
      exact (metadataViolations_eq_nil (Keyed.key_of_find found)).mpr
        (fun new located => evidence evidenceId old new found located)
    · intro requestId old found
      exact (preservedRequestViolations_eq_nil (Keyed.key_of_find found)).mpr
        (requests requestId old found)
    · rintro ⟨same, backward⟩
      obtain ⟨old, set, behind⟩ := any_iff.mp backward
      obtain ⟨new, set', behind⟩ := any_iff.mp behind
      have advanced := profile same old set new set'
      simp only [decide_eq_true_eq] at behind
      omega

def unchangedTemporalGovernance (before after : ControlState) (allowRequests : Bool) :
    List Violation :=
  flag (after.logicalTime ≠ before.logicalTime) .tInv01
    "event changed logical time unexpectedly" ++
  flag (after.requiredProfileId ≠ before.requiredProfileId ∨
      after.requiredProfileVersion ≠ before.requiredProfileVersion) .pInv01
    "event changed the required profile unexpectedly" ++
  flag (allowRequests = false ∧ after.reassessmentRequests ≠ before.reassessmentRequests) .rInv03
    "event changed requests unexpectedly" ++
  flag (after.heartbeat ≠ before.heartbeat) .hInv01 "event changed heartbeat state unexpectedly"

structure SameProfile (before after : ControlState) : Prop where
  profileId : after.requiredProfileId = before.requiredProfileId
  profileVersion : after.requiredProfileVersion = before.requiredProfileVersion

structure SameGovernance (before after : ControlState) : Prop where
  time : after.logicalTime = before.logicalTime
  profile : SameProfile before after
  heartbeat : after.heartbeat = before.heartbeat

theorem unchangedTemporalGovernance_eq_nil :
    unchangedTemporalGovernance before after allowRequests = [] ↔
      SameGovernance before after ∧
        (allowRequests = false → after.reassessmentRequests = before.reassessmentRequests) := by
  simp only [unchangedTemporalGovernance, List.append_eq_nil_iff, flag_eq_nil]
  constructor
  · rintro ⟨⟨⟨time, profile⟩, requests⟩, heartbeat⟩
    exact ⟨⟨not_not.mp time, ⟨by grind, by grind⟩, not_not.mp heartbeat⟩, by grind⟩
  · rintro ⟨⟨time, ⟨profileId, profileVersion⟩, heartbeat⟩, requests⟩
    grind

/-- A missed heartbeat is expected to leave no verdict basis, whatever the assurance. -/
def expectedClockClaims (before : ControlState) (event : AdvanceClock) (after : ControlState) :
    Claims :=
  let (source, verdict) := expectedBasisSurvival before after after.requiredProfileId
    after.requiredProfileVersion
  let heartbeatMissed := before.heartbeatMissed event.targetTime
  expectedClaims before (source, if heartbeatMissed then ∅ else verdict)

def clockStatus (event : AdvanceClock) (old : Evidence) : EvidenceStatus :=
  if old.isCurrent && old.due event.targetTime then .expired else old.status

def validateAdvanceClock (before : ControlState) (event : AdvanceClock) (after : ControlState) :
    List Violation :=
  let expected := expectedClockClaims before event after
  flag (event.targetTime < before.logicalTime ∨ after.logicalTime ≠ event.targetTime) .tInv01
    "clock result does not match the target time" ++
  flag (after.evidenceIds ≠ before.evidenceIds) .tInv02
    "clock advance altered evidence identities" ++
  flag (after.bases ≠ before.bases) .tInv03 "clock advance rewrote historical bases" ++
  Keyed.checkEach Evidence.evidenceId before.evidence
    (statusViolations after (fun _ => .tInv02) (clockStatus event)) ++
  flag (after.currentSourceBasisIds ≠ expected.sourceBases) .tInv03
    "clock source-basis survival is not canonical" ++
  flag (after.currentVerdictBasisIds ≠ expected.verdictBases) .tInv06
    "clock verdict-basis survival is not canonical" ++
  flag (after.sourceState ≠ expected.sourceState) .tInv03
    "clock source result is not canonical" ++
  flag (after.assurance ≠ expected.assurance) .tInv06
    "clock assurance result is not canonical" ++
  flag (after.requiredProfileId ≠ before.requiredProfileId ∨
      after.requiredProfileVersion ≠ before.requiredProfileVersion ∨
      after.reassessmentRequests ≠ before.reassessmentRequests ∨
      after.heartbeat ≠ before.heartbeat) .tInv01
    "clock changed unrelated governance state" ++
  validateExactAudit before after (advanceAudit before event) .tInv04

structure ClockAdvanced (before : ControlState) (event : AdvanceClock) (after : ControlState) :
    Prop where
  forward : before.logicalTime ≤ event.targetTime
  time : after.logicalTime = event.targetTime
  evidenceIds : after.evidenceIds = before.evidenceIds
  bases : after.bases = before.bases
  statuses : ∀ evidenceId old new, before.evidenceById evidenceId = some old →
    after.evidenceById evidenceId = some new → new.status = clockStatus event old
  claims : after.claims = expectedClockClaims before event after
  profile : SameProfile before after
  requests : after.reassessmentRequests = before.reassessmentRequests
  heartbeat : after.heartbeat = before.heartbeat
  audit : after.history = before.history ++ [advanceAudit before event]

theorem validateAdvanceClock_eq_nil : validateAdvanceClock before event after = [] ↔
    ClockAdvanced before event after := by
  simp only [validateAdvanceClock, List.append_eq_nil_iff, flag_eq_nil, not_not,
    statusViolations_eq_nil, validateExactAudit_eq_nil]
  constructor
  · rintro ⟨⟨⟨⟨⟨⟨⟨⟨⟨time, evidenceIds⟩, bases⟩, statuses⟩, sources⟩, verdicts⟩, source⟩,
      assurance⟩, governance⟩, audit⟩
    constructor
    · omega
    · omega
    · exact evidenceIds
    · exact bases
    · exact statuses
    · simp [ControlState.claims, *]
    · exact ⟨by grind, by grind⟩
    · grind
    · grind
    · exact audit
  · rintro ⟨forward, time, evidenceIds, bases, statuses, claims, ⟨profileId, profileVersion⟩,
      requests, heartbeat, audit⟩
    simp only [← claims, ControlState.claims]
    grind

def expectedProfileClaims (before : ControlState) (event : ProfileChange) (after : ControlState) :
    Claims :=
  expectedClaims before (expectedBasisSurvival before after (some event.profileId)
    (some event.profileVersion))

def validateProfileChange (before : ControlState) (event : ProfileChange)
    (after : ControlState) : List Violation :=
  let expected := expectedProfileClaims before event after
  flag (event.authority ≠ "I3") .pInv01 "profile change requires I3 authority" ++
  flag (after.logicalTime ≠ before.logicalTime) .pInv01
    "profile change altered logical time" ++
  flag (after.requiredProfileId ≠ some event.profileId ∨
      after.requiredProfileVersion ≠ some event.profileVersion) .pInv01
    "profile result does not match the event" ++
  flag (after.evidence ≠ before.evidence) .pInv02
    "profile change rewrote historical evidence" ++
  flag (after.bases ≠ before.bases) .pInv02 "profile change rewrote historical bases" ++
  flag (after.currentSourceBasisIds ≠ expected.sourceBases) .pInv02
    "profile source-basis eligibility is not canonical" ++
  flag (after.currentVerdictBasisIds ≠ expected.verdictBases) .pInv02
    "profile verdict-basis eligibility is not canonical" ++
  flag (after.sourceState ≠ expected.sourceState) .pInv02
    "profile source result is not canonical" ++
  flag (after.assurance ≠ expected.assurance) .pInv02
    "profile assurance result is not canonical" ++
  flag (after.obligation ≠ before.obligation) .pInv02
    "profile change altered obligation state" ++
  flag (after.requestIds \ before.requestIds ≠ event.requestId.toFinset) .pInv03
    "profile request identities do not match the event" ++
  (match event.request before.logicalTime with
    | none => []
    | some expected => flag (after.requestsById expected.requestId ≠ some expected) .pInv03
        "profile reassessment request is not canonical") ++
  flag (after.heartbeat ≠ before.heartbeat) .hInv01 "profile change altered heartbeat state" ++
  validateExactAudit before after (profileAudit before event) .pInv04

structure ProfileChanged (before : ControlState) (event : ProfileChange)
    (after : ControlState) : Prop where
  authority : event.authority = "I3"
  time : after.logicalTime = before.logicalTime
  profileId : after.requiredProfileId = some event.profileId
  profileVersion : after.requiredProfileVersion = some event.profileVersion
  evidence : after.evidence = before.evidence
  bases : after.bases = before.bases
  claims : after.claims = expectedProfileClaims before event after
  obligation : after.obligation = before.obligation
  requestIds : after.requestIds \ before.requestIds = event.requestId.toFinset
  request : ∀ request ∈ event.request before.logicalTime,
    after.requestsById request.requestId = some request
  heartbeat : after.heartbeat = before.heartbeat
  audit : after.history = before.history ++ [profileAudit before event]

theorem validateProfileChange_eq_nil : validateProfileChange before event after = [] ↔
    ProfileChanged before event after := by
  have canonical : (match event.request before.logicalTime with
      | none => []
      | some expected => flag (after.requestsById expected.requestId ≠ some expected) .pInv03
          "profile reassessment request is not canonical") = [] ↔
      ∀ request ∈ event.request before.logicalTime,
        after.requestsById request.requestId = some request := by
    cases event.request before.logicalTime <;> simp
  simp only [validateProfileChange, List.append_eq_nil_iff, flag_eq_nil, not_not,
    validateExactAudit_eq_nil, canonical]
  constructor
  · rintro ⟨⟨⟨⟨⟨⟨⟨⟨⟨⟨⟨⟨⟨authority, time⟩, profile⟩, evidence⟩, bases⟩, sources⟩, verdicts⟩,
      source⟩, assurance⟩, obligation⟩, requestIds⟩, request⟩, heartbeat⟩, audit⟩
    exact ⟨authority, time, by grind, by grind, evidence, bases,
      by simp [ControlState.claims, *], obligation, requestIds, request, heartbeat, audit⟩
  · rintro ⟨authority, time, profileId, profileVersion, evidence, bases, claims, obligation,
      requestIds, request, heartbeat, audit⟩
    simp only [← claims, ControlState.claims]
    grind

/-- A change of the evidence, the bases, the claims or the obligation. -/
def substanceChanged (before after : ControlState) : Bool :=
  after.evidence ≠ before.evidence || after.bases ≠ before.bases ||
    after.currentSourceBasisIds ≠ before.currentSourceBasisIds ||
    after.currentVerdictBasisIds ≠ before.currentVerdictBasisIds ||
    after.sourceState ≠ before.sourceState || after.assurance ≠ before.assurance ||
    after.obligation ≠ before.obligation

structure SameSubstance (before after : ControlState) : Prop where
  evidence : after.evidence = before.evidence
  bases : after.bases = before.bases
  claims : after.claims = before.claims
  obligation : after.obligation = before.obligation

theorem substanceChanged_eq_false : substanceChanged before after = false ↔
    SameSubstance before after := by
  simp only [substanceChanged, Bool.or_eq_false_iff, decide_eq_false_iff_not, not_not]
  constructor
  · rintro ⟨⟨⟨⟨⟨⟨evidence, bases⟩, sources⟩, verdicts⟩, source⟩, assurance⟩, obligation⟩
    exact ⟨evidence, bases, by simp [ControlState.claims, *], obligation⟩
  · rintro ⟨evidence, bases, claims, obligation⟩
    simp only [ControlState.claims, Claims.mk.injEq] at claims
    simp [*]

def RequestReassessment.request (event : RequestReassessment) (time : Int) :
    ReassessmentRequest where
  requestId := event.requestId
  reason := event.reason
  requestedAt := time
  dueAt := event.dueAt

def validateRequest (before : ControlState) (event : RequestReassessment)
    (after : ControlState) : List Violation :=
  unchangedTemporalGovernance before after true ++
  flag (event.authority ≠ "I3") .rInv01 "reassessment request requires I3 authority" ++
  flag (substanceChanged before after = true) .rInv02
    "reassessment request changed substantive state" ++
  flag (after.requestIds \ before.requestIds ≠ {event.requestId} ∨
      after.requestsById event.requestId ≠ some (event.request before.logicalTime)) .rInv01
    "request result does not match the event" ++
  Keyed.checkEach ReassessmentRequest.requestId before.reassessmentRequests (fun existing =>
    flag (after.requestsById existing.requestId ≠ some existing) .rInv01
      s!"request creation rewrote existing request {existing.requestId}") ++
  validateExactAudit before after (requestAudit event) .rInv04

structure Requested (before : ControlState) (event : RequestReassessment)
    (after : ControlState) : Prop where
  governance : SameGovernance before after
  authority : event.authority = "I3"
  substance : SameSubstance before after
  requestIds : after.requestIds \ before.requestIds = {event.requestId}
  request : after.requestsById event.requestId = some (event.request before.logicalTime)
  existing : ∀ requestId old, before.requestsById requestId = some old →
    after.requestsById requestId = some old
  audit : after.history = before.history ++ [requestAudit event]

theorem validateRequest_eq_nil : validateRequest before event after = [] ↔
    Requested before event after := by
  simp only [validateRequest, List.append_eq_nil_iff, flag_eq_nil, not_not,
    unchangedTemporalGovernance_eq_nil, Bool.not_eq_true, substanceChanged_eq_false,
    Keyed.checkEach_eq_nil, validateExactAudit_eq_nil]
  constructor
  · rintro ⟨⟨⟨⟨⟨⟨governance, -⟩, authority⟩, substance⟩, result⟩, existing⟩, audit⟩
    refine ⟨governance, authority, substance, by grind, by grind, ?_, audit⟩
    intro requestId old found
    have kept := existing requestId old found
    rwa [Keyed.key_of_find found] at kept
  · rintro ⟨governance, authority, substance, requestIds, request, existing, audit⟩
    refine ⟨⟨⟨⟨⟨⟨governance, by simp⟩, authority⟩, substance⟩, by grind⟩, ?_⟩, audit⟩
    intro requestId old found
    rw [Keyed.key_of_find found]
    exact existing requestId old found

/-- The heartbeat afterwards is the one that the event asks for. -/
def heartbeatMismatch (event : RecordHeartbeat) (interval : Option Int)
    (recorded : Option HeartbeatState) : Bool :=
  match interval, recorded with
  | some interval, some heartbeat =>
      heartbeat.interval ≠ interval || heartbeat.lastRecordedAt ≠ event.atTime ||
        heartbeat.dueAt ≠ event.atTime + interval
  | _, _ => true

theorem heartbeatMismatch_eq_false : heartbeatMismatch event interval recorded = false ↔
    ∃ length, interval = some length ∧
      recorded = some ⟨length, event.atTime, event.atTime + length⟩ := by
  cases interval with
  | none => simp [heartbeatMismatch]
  | some length =>
      cases recorded with
      | none => simp [heartbeatMismatch]
      | some heartbeat =>
          cases heartbeat
          simp [heartbeatMismatch, and_assoc]

def validateHeartbeat (before : ControlState) (event : RecordHeartbeat) (after : ControlState) :
    List Violation :=
  let interval := heartbeatInterval before event
  flag (event.authority ≠ "I3") .hInv01 "heartbeat requires I3 authority" ++
  flag (after.logicalTime ≠ before.logicalTime) .tInv01 "heartbeat altered logical time" ++
  flag (after.requiredProfileId ≠ before.requiredProfileId ∨
      after.requiredProfileVersion ≠ before.requiredProfileVersion) .pInv01
    "heartbeat altered the required profile" ++
  flag (after.reassessmentRequests ≠ before.reassessmentRequests) .rInv03
    "heartbeat altered reassessment requests" ++
  flag (substanceChanged before after = true ∨
      after.reassessmentRequests ≠ before.reassessmentRequests) .hInv02
    "heartbeat changed substantive state" ++
  flag (heartbeatMismatch event interval after.heartbeat = true) .hInv01
    "heartbeat result does not match the event" ++
  (match interval with
    | none => []
    | some interval => validateExactAudit before after (heartbeatAudit event interval) .hInv03)

structure HeartbeatRecorded (before : ControlState) (event : RecordHeartbeat)
    (after : ControlState) : Prop where
  authority : event.authority = "I3"
  time : after.logicalTime = before.logicalTime
  profile : SameProfile before after
  requests : after.reassessmentRequests = before.reassessmentRequests
  substance : SameSubstance before after
  recorded : ∃ interval, heartbeatInterval before event = some interval ∧
    after.heartbeat = some ⟨interval, event.atTime, event.atTime + interval⟩ ∧
    after.history = before.history ++ [heartbeatAudit event interval]

theorem validateHeartbeat_eq_nil : validateHeartbeat before event after = [] ↔
    HeartbeatRecorded before event after := by
  simp only [validateHeartbeat, List.append_eq_nil_iff, flag_eq_nil, not_not, Bool.not_eq_true,
    heartbeatMismatch_eq_false, not_or, substanceChanged_eq_false]
  constructor
  · rintro ⟨⟨⟨⟨⟨⟨authority, time⟩, profile⟩, requests⟩, substance, -⟩,
      interval, chosen, recorded⟩, audit⟩
    refine ⟨authority, time, ⟨profile.1, profile.2⟩, requests, substance, interval, chosen,
      recorded, ?_⟩
    rw [chosen] at audit
    exact validateExactAudit_eq_nil.mp audit
  · rintro ⟨authority, time, ⟨profileId, profileVersion⟩, requests, substance, interval, chosen,
      recorded, audit⟩
    refine ⟨⟨⟨⟨⟨⟨authority, time⟩, profileId, profileVersion⟩, requests⟩, substance, requests⟩,
      interval, chosen, recorded⟩, ?_⟩
    rw [chosen]
    exact validateExactAudit_eq_nil.mpr audit

/-- The closure of an old request is the one that the event asks for. -/
def closureViolations (before : ControlState) (requested : Finset String) (after : ControlState)
    (old : ReassessmentRequest) : List Violation :=
  match after.requestsById old.requestId with
  | none => []
  | some new =>
      let expected :=
        if old.requestId ∈ requested then old.close before.logicalTime else old
      flag (new ≠ expected) .rInv03
        s!"request {old.requestId} closure does not match the event"

def nonpendingIds (before : ControlState) (requested : Finset String) : Finset String :=
  (requested ∩ before.requestIds).filter (fun requestId =>
    (before.requestsById requestId).any (·.status ≠ .pending))

def validateReassessmentRequests (before : ControlState) (event : Reassess)
    (after : ControlState) : List Violation :=
  let requested := event.closeRequestIds.toFinset
  let unknown := requested \ before.requestIds
  let nonpending := nonpendingIds before requested
  flag (requested.card ≠ event.closeRequestIds.length) .rInv03
    "request closure identities are duplicated" ++
  flag (unknown ≠ ∅) .rInv03
    ("unknown request closure identities: " ++ listText (sortedSet unknown)) ++
  flag (nonpending ≠ ∅) .rInv03
    ("request closures must target pending requests: " ++ listText (sortedSet nonpending)) ++
  flag (after.requestIds ≠ before.requestIds) .rInv03
    "reassessment altered request identities" ++
  Keyed.checkEach ReassessmentRequest.requestId before.reassessmentRequests
    (closureViolations before requested after)

structure RequestsClosed (before : ControlState) (event : Reassess) (after : ControlState) :
    Prop where
  distinct : event.closeRequestIds.toFinset.card = event.closeRequestIds.length
  known : event.closeRequestIds.toFinset \ before.requestIds = ∅
  pending : nonpendingIds before event.closeRequestIds.toFinset = ∅
  requestIds : after.requestIds = before.requestIds
  requests : ∀ requestId old new, before.requestsById requestId = some old →
    after.requestsById requestId = some new →
      new = if requestId ∈ event.closeRequestIds.toFinset then old.close before.logicalTime
        else old

theorem closureViolations_eq_nil (named : old.requestId = requestId) :
    closureViolations before requested after old = [] ↔
      ∀ new, after.requestsById requestId = some new →
        new = if requestId ∈ requested then old.close before.logicalTime else old := by
  subst named
  cases located : after.requestsById old.requestId with
  | none => simp [closureViolations, located]
  | some new =>
      simp only [closureViolations, located, flag_eq_nil, not_not, Option.some.injEq, forall_eq']

theorem validateReassessmentRequests_eq_nil :
    validateReassessmentRequests before event after = [] ↔
      RequestsClosed before event after := by
  simp only [validateReassessmentRequests, List.append_eq_nil_iff, flag_eq_nil, not_not,
    Keyed.checkEach_eq_nil]
  constructor
  · rintro ⟨⟨⟨⟨distinct, known⟩, pending⟩, requestIds⟩, requests⟩
    refine ⟨distinct, known, pending, requestIds, ?_⟩
    intro requestId old new found located
    exact (closureViolations_eq_nil (Keyed.key_of_find found)).mp (requests requestId old found)
      new located
  · rintro ⟨distinct, known, pending, requestIds, requests⟩
    refine ⟨⟨⟨⟨distinct, known⟩, pending⟩, requestIds⟩, ?_⟩
    intro requestId old found
    exact (closureViolations_eq_nil (Keyed.key_of_find found)).mpr
      (fun new located => requests requestId old new found located)

/-- The verifier lists every item of the event, also when two of them have one identity. -/
def expectedReassessAudit (event : Reassess) : AuditEvent :=
  .create "Reassess" ([
    ("authority", event.authority),
    ("evidence_ids",
      commaJoined ((event.newEvidence.map Evidence.evidenceId).insertionSort (· ≤ ·))),
    ("basis_ids", commaJoined ((event.newBases.map Basis.basisId).insertionSort (· ≤ ·)))] ++
    if event.closeRequestIds = [] then []
    else [("closed_request_ids", commaJoined (event.closeRequestIds.insertionSort (· ≤ ·)))])

def validateTemporalEvent (before : ControlState) (event : CsdEvent) (after : ControlState) :
    List Violation :=
  match event with
  | .advanceClock event => validateAdvanceClock before event after
  | .profileChange event => validateProfileChange before event after
  | .requestReassessment event => validateRequest before event after
  | .recordHeartbeat event => validateHeartbeat before event after
  | .reassess event =>
      unchangedTemporalGovernance before after true ++
      validateReassessmentRequests before event after ++
      validateExactAudit before after (expectedReassessAudit event) .rInv04
  | .dependencyChange _ | .retireControl _ => unchangedTemporalGovernance before after false

end CsdFoundry.Kernel

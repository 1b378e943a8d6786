import CsdFoundry.Kernel.Models

/-! Deterministic logical-time and governance transitions. -/
namespace CsdFoundry.Kernel

inductive KernelError where
  | transition (message : String)
  | temporal (message : String)
  deriving DecidableEq

abbrev Transition : Type := Except KernelError (ControlState × TransitionTrace)

/-- `value or default`: the empty string counts as absent. -/
def textOr (value : Option String) (default : String) : String :=
  match value with
  | none => default
  | some text => if text = "" then default else text

def commaJoined (names : List String) : String := ",".intercalate names

/-- The text of a list of names, none of which needs an escape. -/
def listText (names : List String) : String :=
  let quote := String.singleton (Char.ofNat 39)
  "[" ++ ", ".intercalate (names.map (fun name => quote ++ name ++ quote)) ++ "]"

def isTemporalEvent : CsdEvent → Bool
  | .advanceClock _ | .profileChange _ | .requestReassessment _ | .recordHeartbeat _ => true
  | .dependencyChange _ | .reassess _ | .retireControl _ => false

/-- `_basis_is_current` of the temporal transitions: members fit the required profile too. -/
def basisIsCurrentUnderProfile (state : ControlState) (basisId : String) : Bool :=
  (state.basesById basisId).any (Basis.supportedBy state.evidenceById (fun item =>
    item.isCurrent && item.matchesProfile state.requiredProfileId state.requiredProfileVersion))

def survivingBases (state : ControlState) : Finset String × Finset String :=
  (state.currentSourceBasisIds.filter (fun basisId => basisIsCurrentUnderProfile state basisId),
    state.currentVerdictBasisIds.filter (fun basisId => basisIsCurrentUnderProfile state basisId))

structure Claims where
  sourceState : SourceState
  assurance : Assurance
  sourceBases : Finset String
  verdictBases : Finset String
  deriving DecidableEq

/-- `replace(interim, …)`: the claims and the audit event that close a transition. -/
def ControlState.claiming (interim : ControlState) (claims : Claims) (audit : AuditEvent) :
    ControlState :=
  { interim with
    sourceState := claims.sourceState
    assurance := claims.assurance
    currentSourceBasisIds := claims.sourceBases
    currentVerdictBasisIds := claims.verdictBases
    history := interim.history ++ [audit] }

/-- A substantive source state without a basis becomes unknown. -/
def supportedSource (before : SourceState) (bases : Finset String) : SourceState :=
  if before ≠ .unknown ∧ bases = ∅ then .unknown else before

def canonicalClaims (before interim : ControlState) (forceStale : Bool) : Claims :=
  let (sourceBases, verdictBases) := survivingBases interim
  let sourceState := supportedSource before.sourceState sourceBases
  if before.obligation ≠ .current then ⟨sourceState, .na, sourceBases, ∅⟩
  else if forceStale && before.assurance.substantive then ⟨sourceState, .stale, sourceBases, ∅⟩
  else if before.assurance.substantive && verdictBases = ∅ then
    ⟨sourceState, .stale, sourceBases, verdictBases⟩
  else ⟨sourceState, before.assurance, sourceBases, verdictBases⟩

def requestFromEvent (event : RequestReassessment) (logicalTime : Int) :
    Except KernelError ReassessmentRequest :=
  if event.authority ≠ "I3" then
    .error (.temporal "reassessment request requires I3 authority")
  else if event.requestId = "" then
    .error (.temporal "reassessment request requires an identity")
  else if event.dueAt < logicalTime then
    .error (.temporal "reassessment request due time cannot precede logical time")
  else .ok {
    requestId := event.requestId
    reason := event.reason
    requestedAt := logicalTime
    dueAt := event.dueAt }

/-- Current evidence whose deadline is not after the target time. -/
def expiredIds (evidence : List Evidence) (time : Int) : Finset String :=
  ((evidence.filter (fun item => item.isCurrent && item.due time)).map
    Evidence.evidenceId).toFinset

def currentIds (evidence : List Evidence) : List String :=
  ((evidence.filter Evidence.isCurrent).map Evidence.evidenceId).insertionSort (· ≤ ·)

def advanceAudit (before : ControlState) (event : AdvanceClock) : AuditEvent :=
  .create "AdvanceClock" [
    ("from_time", toString before.logicalTime),
    ("target_time", toString event.targetTime),
    ("expired_evidence", commaJoined (sortedSet (expiredIds before.evidence event.targetTime))),
    ("heartbeat_missed", toString (before.heartbeatMissed event.targetTime))]

/-- The state at the target time, before its claims are recomputed. -/
def clockInterim (state : ControlState) (event : AdvanceClock) : ControlState :=
  { state with
    evidence := state.evidence.map (fun item =>
      if item.isCurrent && item.due event.targetTime then item.expire else item)
    logicalTime := event.targetTime }

def applyAdvanceClock (state : ControlState) (event : AdvanceClock) : Transition :=
  if event.targetTime < state.logicalTime then
    .error (.temporal "logical time cannot move backward")
  else
    let missed := state.heartbeatMissed event.targetTime
    let interim := clockInterim state event
    let claims := canonicalClaims state interim missed
    let removed := (state.currentBasisIds \ claims.sourceBases) \ claims.verdictBases
    let expired := expiredIds state.evidence event.targetTime
    let post := interim.claiming claims (advanceAudit state event)
    .ok (post, {
      eventType := "AdvanceClock"
      invalidatedEvidence := sortedSet expired
      preservedEvidence := currentIds post.evidence
      removedBases := sortedSet removed
      survivingBases := sortedSet (claims.sourceBases ∪ claims.verdictBases)
      previousSourceState := state.sourceState.value
      resultingSourceState := post.sourceState.value
      previousAssurance := state.assurance.value
      resultingAssurance := post.assurance.value
      forbiddenInferences := ["heartbeat or expiry based substantive promotion"]
      rulesFired := ["T-INV-01", "T-INV-02", "T-INV-03", "T-INV-06"]
      nextGovernedStep := some (if expired ≠ ∅ ∨ missed then "complete governed reassessment"
        else "none required") })

/-- Current evidence that is bound to another profile. -/
def incompatibleIds (evidence : List Evidence) (event : ProfileChange) : Finset String :=
  ((evidence.filter (fun item => item.isCurrent && item.profileId ≠ none &&
    (item.profileId ≠ some event.profileId ||
      item.profileVersion ≠ some event.profileVersion))).map Evidence.evidenceId).toFinset

def profileAudit (before : ControlState) (event : ProfileChange) : AuditEvent :=
  .create "ProfileChange" [
    ("authority", event.authority),
    ("profile_id", event.profileId),
    ("profile_version", toString event.profileVersion),
    ("profile_incompatible_evidence",
      commaJoined (sortedSet (incompatibleIds before.evidence event))),
    ("request_id", textOr event.requestId "none")]

/-- The request that a profile change files along with it, if any. -/
def profileRequests (state : ControlState) (event : ProfileChange) :
    Except KernelError (List ReassessmentRequest) :=
  match event.requestId, event.requestDueAt with
  | some requestId, some dueAt =>
      if requestId ∈ state.requestIds then
        .error (.temporal "profile change request identity already exists")
      else
        (requestFromEvent ⟨requestId, "required profile changed", dueAt, event.authority⟩
          state.logicalTime).map (fun request => state.reassessmentRequests ++ [request])
  | _, _ => .ok state.reassessmentRequests

/-- The state under the new profile, before its claims are recomputed. -/
def profileInterim (state : ControlState) (event : ProfileChange)
    (requests : List ReassessmentRequest) : ControlState :=
  { state with
    requiredProfileId := some event.profileId
    requiredProfileVersion := some event.profileVersion
    reassessmentRequests := requests }

def applyProfileChange (state : ControlState) (event : ProfileChange) : Transition :=
  if event.authority ≠ "I3" then
    .error (.temporal "profile change requires I3 authority")
  else if event.profileId = "" ∨ event.profileVersion ≤ 0 then
    .error (.temporal "profile identity and positive version are required")
  else if state.requiredProfileId = some event.profileId ∧
      state.requiredProfileVersion.any (event.profileVersion ≤ ·) then
    .error (.temporal "profile version must advance monotonically")
  else if event.requestId.isNone ≠ event.requestDueAt.isNone then
    .error (.temporal "profile request identity and due time must be supplied together")
  else do
    let requests ← profileRequests state event
    let interim := profileInterim state event requests
    let claims := canonicalClaims state interim false
    let removed := (state.currentBasisIds \ claims.sourceBases) \ claims.verdictBases
    let post := interim.claiming claims (profileAudit state event)
    .ok (post, {
      eventType := "ProfileChange"
      preservedEvidence := currentIds post.evidence
      removedBases := sortedSet removed
      survivingBases := sortedSet (claims.sourceBases ∪ claims.verdictBases)
      previousSourceState := state.sourceState.value
      resultingSourceState := post.sourceState.value
      previousAssurance := state.assurance.value
      resultingAssurance := post.assurance.value
      forbiddenInferences := ["profile-change based substantive promotion"]
      rulesFired := ["P-INV-01", "P-INV-02", "P-INV-03"]
      nextGovernedStep := some (if event.requestId.isSome then
          "complete the profile-change reassessment request"
        else "issue a governed reassessment request if current support was removed") })

def requestAudit (event : RequestReassessment) : AuditEvent :=
  .create "RequestReassessment" [
    ("authority", event.authority),
    ("request_id", event.requestId),
    ("due_at", toString event.dueAt),
    ("reason", event.reason)]

def applyRequestReassessment (state : ControlState) (event : RequestReassessment) :
    Transition :=
  if event.requestId ∈ state.requestIds then
    .error (.temporal "reassessment request identity already exists")
  else do
    let request ← requestFromEvent event state.logicalTime
    let post := { state with
      reassessmentRequests := state.reassessmentRequests ++ [request]
      history := state.history ++ [requestAudit event] }
    .ok (post, {
      eventType := "RequestReassessment"
      preservedEvidence := (state.evidence.map Evidence.evidenceId).insertionSort (· ≤ ·)
      survivingBases := sortedSet (state.currentBasisIds)
      previousSourceState := state.sourceState.value
      resultingSourceState := post.sourceState.value
      previousAssurance := state.assurance.value
      resultingAssurance := post.assurance.value
      forbiddenInferences := ["request-based source state or verdict change"]
      rulesFired := ["R-INV-01", "R-INV-02"]
      nextGovernedStep := some "complete reassessment before the governed due time" })

/-- The interval of the event, else that of the heartbeat already recorded. -/
def heartbeatInterval (state : ControlState) (event : RecordHeartbeat) : Option Int :=
  event.interval.or (state.heartbeat.map HeartbeatState.interval)

def heartbeatAudit (event : RecordHeartbeat) (interval : Int) : AuditEvent :=
  .create "RecordHeartbeat" [
    ("authority", event.authority),
    ("at_time", toString event.atTime),
    ("interval", toString interval),
    ("due_at", toString (event.atTime + interval))]

def applyRecordHeartbeat (state : ControlState) (event : RecordHeartbeat) : Transition :=
  if event.authority ≠ "I3" then
    .error (.temporal "heartbeat recording requires I3 authority")
  else if event.atTime ≠ state.logicalTime then
    .error (.temporal "heartbeat must be recorded at the current logical time")
  else match heartbeatInterval state event with
    | none => .error (.temporal "heartbeat requires a positive interval")
    | some interval =>
        if interval ≤ 0 then .error (.temporal "heartbeat requires a positive interval")
        else
          let heartbeat : HeartbeatState := ⟨interval, event.atTime, event.atTime + interval⟩
          let post := { state with
            heartbeat := some heartbeat
            history := state.history ++ [heartbeatAudit event interval] }
          .ok (post, {
            eventType := "RecordHeartbeat"
            preservedEvidence := (state.evidence.map Evidence.evidenceId).insertionSort (· ≤ ·)
            survivingBases :=
              sortedSet (state.currentBasisIds)
            previousSourceState := state.sourceState.value
            resultingSourceState := post.sourceState.value
            previousAssurance := state.assurance.value
            resultingAssurance := post.assurance.value
            forbiddenInferences := ["heartbeat-based substantive promotion"]
            rulesFired := ["H-INV-01", "H-INV-02"]
            nextGovernedStep := some ("record the next heartbeat by logical time " ++
              toString heartbeat.dueAt) })

def closedIds (state : ControlState) (requested : Finset String) : Finset String :=
  requested.filter (fun requestId => (state.requestsById requestId).any (·.status = .closed))

def closing (time : Int) (requested : Finset String) (request : ReassessmentRequest) :
    ReassessmentRequest :=
  if request.requestId ∈ requested then request.close time else request

def closeReassessmentRequests (state : ControlState) (requestIds : List String) :
    Except KernelError (List ReassessmentRequest) :=
  let requested := requestIds.toFinset
  let missing := requested \ state.requestIds
  let alreadyClosed := closedIds state requested
  if requested.card ≠ requestIds.length then
    .error (.temporal "reassessment request closures must be unique")
  else if missing ≠ ∅ then
    .error (.temporal ("unknown reassessment requests: " ++ listText (sortedSet missing)))
  else if alreadyClosed ≠ ∅ then
    .error (.temporal ("reassessment requests are already closed: " ++
      listText (sortedSet alreadyClosed)))
  else .ok (state.reassessmentRequests.map (closing state.logicalTime requested))

/-! What an accepted event does. -/

variable {state post : ControlState} {trace : TransitionTrace}

theorem applyAdvanceClock_ok (accepted : applyAdvanceClock state event = .ok (post, trace)) :
    state.logicalTime ≤ event.targetTime ∧
      post = (clockInterim state event).claiming
        (canonicalClaims state (clockInterim state event)
          (state.heartbeatMissed event.targetTime)) (advanceAudit state event) := by
  simp only [applyAdvanceClock] at accepted
  split at accepted
  · cases accepted
  · case isFalse forward =>
      cases accepted
      exact ⟨Int.not_lt.mp forward, rfl⟩

theorem requestFromEvent_ok (created : requestFromEvent event time = .ok request) :
    event.authority = "I3" ∧ event.requestId ≠ "" ∧ time ≤ event.dueAt ∧
      request = {
        requestId := event.requestId
        reason := event.reason
        requestedAt := time
        dueAt := event.dueAt } := by
  simp only [requestFromEvent] at created
  split at created
  · cases created
  split at created
  · cases created
  split at created
  · cases created
  · case isFalse authority identified due =>
      cases created
      exact ⟨not_not.mp authority, identified, Int.not_lt.mp due, rfl⟩

/-- The request that accompanies a profile change. -/
def ProfileChange.request (event : ProfileChange) (time : Int) : Option ReassessmentRequest :=
  match event.requestId, event.requestDueAt with
  | some requestId, some dueAt => some {
      requestId := requestId
      reason := "required profile changed"
      requestedAt := time
      dueAt := dueAt }
  | _, _ => none

theorem profileRequests_ok (extended : profileRequests state event = .ok requests) :
    requests = state.reassessmentRequests ++ (event.request state.logicalTime).toList ∧
      ∀ request ∈ event.request state.logicalTime,
        request.requestId ∉ state.requestIds ∧ request.requestedAt ≤ request.dueAt := by
  simp only [profileRequests] at extended
  split at extended
  · case h_1 requestId dueAt named dated =>
      split at extended
      · cases extended
      · case isFalse fresh =>
          cases created : requestFromEvent
              ⟨requestId, "required profile changed", dueAt, event.authority⟩ state.logicalTime with
          | error e => rw [created] at extended; cases extended
          | ok request =>
              rw [created] at extended
              obtain ⟨-, -, due, rfl⟩ := requestFromEvent_ok created
              cases extended
              simp only [ProfileChange.request, named, dated, Option.toList_some,
                Option.mem_some_iff, forall_eq']
              exact ⟨trivial, fresh, due⟩
  · case h_2 missing =>
      cases extended
      have unrequested : event.request state.logicalTime = none := by
        simp only [ProfileChange.request]
      simp [unrequested]

/-- What the kernel checks before it changes the required profile. -/
structure ProfileChange.Admissible (state : ControlState) (event : ProfileChange) : Prop where
  authority : event.authority = "I3"
  positive : 0 < event.profileVersion
  advances : state.requiredProfileId = some event.profileId →
    ∀ version ∈ state.requiredProfileVersion, version < event.profileVersion
  paired : event.requestId.isNone = event.requestDueAt.isNone
  request : ∀ request ∈ event.request state.logicalTime,
    request.requestId ∉ state.requestIds ∧ request.requestedAt ≤ request.dueAt

theorem applyProfileChange_ok (accepted : applyProfileChange state event = .ok (post, trace)) :
    event.Admissible state ∧
      post = (profileInterim state event (state.reassessmentRequests ++
          (event.request state.logicalTime).toList)).claiming
        (canonicalClaims state (profileInterim state event (state.reassessmentRequests ++
          (event.request state.logicalTime).toList)) false) (profileAudit state event) := by
  simp only [applyProfileChange] at accepted
  split at accepted
  · cases accepted
  split at accepted
  · cases accepted
  split at accepted
  · cases accepted
  split at accepted
  · cases accepted
  · case isFalse authority identified advancing paired =>
      cases extended : profileRequests state event with
      | error e => simp [extended] at accepted; cases accepted
      | ok requests =>
          obtain ⟨rfl, request⟩ := profileRequests_ok extended
          rw [extended] at accepted
          cases accepted
          refine ⟨⟨not_not.mp authority, by omega, ?_, not_not.mp paired, request⟩, rfl⟩
          intro same version current
          apply Int.not_le.mp
          intro behind
          apply advancing ⟨same, _⟩
          rw [Option.mem_def.mp current]
          simpa using behind

theorem applyRequestReassessment_ok
    (accepted : applyRequestReassessment state event = .ok (post, trace)) :
    event.requestId ∉ state.requestIds ∧
      ∃ request, requestFromEvent event state.logicalTime = .ok request ∧
        post = { state with
          reassessmentRequests := state.reassessmentRequests ++ [request]
          history := state.history ++ [requestAudit event] } := by
  simp only [applyRequestReassessment] at accepted
  split at accepted
  · cases accepted
  · case isFalse fresh =>
      cases created : requestFromEvent event state.logicalTime with
      | error e => rw [created] at accepted; cases accepted
      | ok request =>
          rw [created] at accepted
          cases accepted
          exact ⟨fresh, request, rfl, rfl⟩

theorem applyRecordHeartbeat_ok
    (accepted : applyRecordHeartbeat state event = .ok (post, trace)) :
    event.authority = "I3" ∧ event.atTime = state.logicalTime ∧
      ∃ interval, heartbeatInterval state event = some interval ∧ 0 < interval ∧
        post = { state with
          heartbeat := some ⟨interval, event.atTime, event.atTime + interval⟩
          history := state.history ++ [heartbeatAudit event interval] } := by
  simp only [applyRecordHeartbeat] at accepted
  split at accepted
  · cases accepted
  split at accepted
  · cases accepted
  · case isFalse authority now =>
      split at accepted
      · cases accepted
      · case h_2 interval chosen =>
          split at accepted
          · cases accepted
          · case isFalse positive =>
              cases accepted
              exact ⟨not_not.mp authority, not_not.mp now, interval, chosen,
                Int.not_le.mp positive, rfl⟩

theorem closeReassessmentRequests_ok
    (closed : closeReassessmentRequests state requestIds = .ok requests) :
    requestIds.toFinset.card = requestIds.length ∧
      requestIds.toFinset \ state.requestIds = ∅ ∧
      closedIds state requestIds.toFinset = ∅ ∧
      requests = state.reassessmentRequests.map
        (closing state.logicalTime requestIds.toFinset) := by
  simp only [closeReassessmentRequests] at closed
  split at closed
  · cases closed
  split at closed
  · cases closed
  split at closed
  · cases closed
  · case isFalse distinct known pending =>
      cases closed
      exact ⟨not_not.mp distinct, not_not.mp known, not_not.mp pending, rfl⟩

end CsdFoundry.Kernel

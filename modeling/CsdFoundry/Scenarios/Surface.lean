import CsdFoundry.Scenarios.Spec

/-! Changes of the surface of a scenario: its identities are renamed in every namespace, its tuples
are reordered, and the times of each case are shifted. -/
namespace CsdFoundry.Scenarios
open Kernel NamespaceIds

/-- An injective renaming of the identities of each namespace. -/
structure Renaming where
  evidence : String ↪ String
  bases : String ↪ String
  dependencies : String ↪ String
  requests : String ↪ String
  profiles : String ↪ String

/-- The same items in another order. Items of one identity, if a tuple has any, keep theirs. -/
def Reordered {α : Type} (key : α → String) (items items' : List α) : Prop :=
  ∀ k, items.filter (fun item => key item = k) = items'.filter (fun item => key item = k)

def shiftHeartbeat (shift : Int) (heartbeat : HeartbeatState) : HeartbeatState :=
  { heartbeat with
    lastRecordedAt := heartbeat.lastRecordedAt + shift
    dueAt := heartbeat.dueAt + shift }

namespace Renaming
variable (renames : Renaming)

def onEvidence (shift : Int) (item : Evidence) : Evidence :=
  { item with
    evidenceId := renames.evidence item.evidenceId
    dependencies := item.dependencies.map renames.dependencies
    issuedAt := item.issuedAt + shift
    expiresAt := item.expiresAt.map (· + shift)
    profileId := item.profileId.map renames.profiles }

def onBasis (item : Basis) : Basis :=
  { item with
    basisId := renames.bases item.basisId
    memberEvidenceIds := item.memberEvidenceIds.map renames.evidence }

def onRequest (shift : Int) (request : ReassessmentRequest) : ReassessmentRequest :=
  { request with
    requestId := renames.requests request.requestId
    requestedAt := request.requestedAt + shift
    dueAt := request.dueAt + shift
    closedAt := request.closedAt.map (· + shift) }

def onExpectation (expected : StateExpectation) : StateExpectation :=
  { expected with
    evidenceStatuses := expected.evidenceStatuses.map fun pair => (renames.evidence pair.1, pair.2)
    evidenceOutcomes := expected.evidenceOutcomes.map fun pair => (renames.evidence pair.1, pair.2)
    basisClaims := expected.basisClaims.map fun pair => (renames.bases pair.1, pair.2)
    currentSourceBasisIds := expected.currentSourceBasisIds.map (Finset.map renames.bases)
    currentVerdictBasisIds := expected.currentVerdictBasisIds.map (Finset.map renames.bases) }

/-- The image of all identities. -/
def onIds (ids : NamespaceIds) : NamespaceIds where
  evidence := ids.evidence.map renames.evidence
  bases := ids.bases.map renames.bases
  dependencies := ids.dependencies.map renames.dependencies
  requests := ids.requests.map renames.requests
  profiles := ids.profiles.map renames.profiles

end Renaming

/-- A history keeps the types of its events and the names of their details; the details, which
spell identities and times out, may follow the change. -/
def SameOutline (history history' : List AuditEvent) : Prop :=
  history.map (fun item => (item.eventType, item.details.map (·.1))) =
    history'.map fun item => (item.eventType, item.details.map (·.1))

variable (renames : Renaming) (shift : Int)

/-- A state after the change of its surface. -/
structure StateChanged (state state' : ControlState) : Prop where
  controlId : state'.controlId = state.controlId
  obligation : state'.obligation = state.obligation
  sourceState : state'.sourceState = state.sourceState
  assurance : state'.assurance = state.assurance
  evidence : Reordered Evidence.evidenceId (state.evidence.map (renames.onEvidence shift))
    state'.evidence
  bases : Reordered Basis.basisId (state.bases.map renames.onBasis) state'.bases
  sourceBases : state'.currentSourceBasisIds = state.currentSourceBasisIds.map renames.bases
  verdictBases : state'.currentVerdictBasisIds = state.currentVerdictBasisIds.map renames.bases
  history : SameOutline state.history state'.history
  logicalTime : state'.logicalTime = state.logicalTime + shift
  profileId : state'.requiredProfileId = state.requiredProfileId.map renames.profiles
  profileVersion : state'.requiredProfileVersion = state.requiredProfileVersion
  requests : Reordered ReassessmentRequest.requestId
    (state.reassessmentRequests.map (renames.onRequest shift)) state'.reassessmentRequests
  heartbeat : state'.heartbeat = state.heartbeat.map (shiftHeartbeat shift)

/-- An event after the change of its surface. -/
inductive EventChanged : CsdEvent → CsdEvent → Prop where
  | dependencyChange (event : DependencyChange) : EventChanged (.dependencyChange event)
      (.dependencyChange { event with dependencyId := renames.dependencies event.dependencyId })
  | reassess (event : Reassess) {evidence : List Evidence} {bases : List Basis}
      {closed : List String}
      (newEvidence : Reordered Evidence.evidenceId
        (event.newEvidence.map (renames.onEvidence shift)) evidence)
      (newBases : Reordered Basis.basisId (event.newBases.map renames.onBasis) bases)
      (requests : (event.closeRequestIds.map renames.requests).Perm closed) :
      EventChanged (.reassess event) (.reassess
        { event with newEvidence := evidence, newBases := bases, closeRequestIds := closed })
  | retireControl (event : RetireControl) : EventChanged (.retireControl event)
      (.retireControl
        { event with retirementEvidence := renames.onEvidence shift event.retirementEvidence })
  | advanceClock (event : AdvanceClock) : EventChanged (.advanceClock event)
      (.advanceClock { event with targetTime := event.targetTime + shift })
  | profileChange (event : ProfileChange) : EventChanged (.profileChange event)
      (.profileChange { event with
        profileId := renames.profiles event.profileId
        requestId := event.requestId.map renames.requests
        requestDueAt := event.requestDueAt.map (· + shift) })
  | requestReassessment (event : RequestReassessment) : EventChanged (.requestReassessment event)
      (.requestReassessment { event with
        requestId := renames.requests event.requestId
        dueAt := event.dueAt + shift })
  | recordHeartbeat (event : RecordHeartbeat) : EventChanged (.recordHeartbeat event)
      (.recordHeartbeat { event with atTime := event.atTime + shift })

/-- A case after the change of its surface. All its times are shifted alike. -/
inductive CaseChanged : ScenarioCase → ScenarioCase → Prop where
  | transition (body : TransitionCase) {before : ControlState} {event : CsdEvent}
      (state : StateChanged renames shift body.before before)
      (changed : EventChanged renames shift body.event event) :
      CaseChanged (.transition body) (.transition { body with
        before := before
        event := event
        expected := renames.onExpectation body.expected
        expectedInvalidatedEvidence :=
          body.expectedInvalidatedEvidence.map (Finset.map renames.evidence)
        expectedSurvivingBases := body.expectedSurvivingBases.map (Finset.map renames.bases) })
  | observation (body : ObservationCase) {state : ControlState}
      (changed : StateChanged renames shift body.state state) :
      CaseChanged (.observation body) (.observation { body with
        state := state
        expected := renames.onExpectation body.expected })
  | rejectedTransition (body : RejectedTransitionCase) {before proposedAfter : ControlState}
      {event : Option CsdEvent}
      (state : StateChanged renames shift body.before before)
      (proposed : StateChanged renames shift body.proposedAfter proposedAfter)
      (changed : Option.Rel (EventChanged renames shift) body.event event) :
      CaseChanged (.rejectedTransition body) (.rejectedTransition { body with
        before := before
        proposedAfter := proposedAfter
        event := event })

/-- Two scenarios that differ in their surface: one renaming for all cases, a shift for each. The
names of the scenarios and their declared families and splits are free. -/
structure ScenarioChanged (spec spec' : ScenarioSpec) : Prop where
  mode : spec'.mode = spec.mode
  ruleIds : spec'.ruleIds = spec.ruleIds
  cases : List.Forall₂ (fun body body' => ∃ shift, CaseChanged renames shift body body')
    spec.cases spec'.cases

end CsdFoundry.Scenarios

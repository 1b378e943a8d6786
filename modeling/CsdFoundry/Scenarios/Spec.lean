import CsdFoundry.Kernel.Models
import Mathlib.Data.Finset.Option
import Mathlib.Data.Finset.Image
import Mathlib.Data.Nat.Factorial.Basic

/-! Executable scenarios, and the identities that they mention in each namespace. -/
namespace CsdFoundry.Scenarios
open Kernel

inductive ScenarioMode where
  | transition
  | sequence
  | multiControl
  | observation
  | rejectedTransition
  deriving DecidableEq

def ScenarioMode.value : ScenarioMode → String
  | .transition => "transition"
  | .sequence => "sequence"
  | .multiControl => "multi_control"
  | .observation => "observation"
  | .rejectedTransition => "rejected_transition"

structure StateExpectation where
  obligation : Option ObligationStatus := none
  sourceState : Option SourceState := none
  assurance : Option Assurance := none
  evidenceStatuses : List (String × EvidenceStatus) := []
  evidenceOutcomes : List (String × Option String) := []
  basisClaims : List (String × String) := []
  currentSourceBasisIds : Option (Finset String) := none
  currentVerdictBasisIds : Option (Finset String) := none
  historyLength : Option Int := none
  historyEventTypes : Option (List String) := none

structure TransitionCase where
  caseId : String
  before : ControlState
  event : CsdEvent
  expected : StateExpectation
  expectedInvalidatedEvidence : Option (Finset String) := none
  expectedSurvivingBases : Option (Finset String) := none
  requiredTraceRules : Finset String := ∅

structure ObservationCase where
  caseId : String
  state : ControlState
  expected : StateExpectation

structure RejectedTransitionCase where
  caseId : String
  before : ControlState
  proposedAfter : ControlState
  expectedInvariants : Finset String
  event : Option CsdEvent := none

inductive ScenarioCase where
  | transition (body : TransitionCase)
  | observation (body : ObservationCase)
  | rejectedTransition (body : RejectedTransitionCase)

def ScenarioCase.caseId : ScenarioCase → String
  | .transition body => body.caseId
  | .observation body => body.caseId
  | .rejectedTransition body => body.caseId

structure ScenarioSpec where
  scenarioId : String
  split : String
  family : String
  ruleIds : Finset String
  mode : ScenarioMode
  cases : List ScenarioCase

/-- The identities of the five namespaces. -/
structure NamespaceIds where
  evidence : Finset String := ∅
  bases : Finset String := ∅
  dependencies : Finset String := ∅
  requests : Finset String := ∅
  profiles : Finset String := ∅

namespace NamespaceIds

instance : Union NamespaceIds := ⟨fun a b => {
  evidence := a.evidence ∪ b.evidence
  bases := a.bases ∪ b.bases
  dependencies := a.dependencies ∪ b.dependencies
  requests := a.requests ∪ b.requests
  profiles := a.profiles ∪ b.profiles }⟩

/-- The identities that all the items mention. -/
def gather {α : Type} (mentions : α → NamespaceIds) (items : List α) : NamespaceIds :=
  items.foldr (fun item ids => mentions item ∪ ids) {}

/-- `labeling_count`. -/
def labelingCount (ids : NamespaceIds) : Nat :=
  ids.evidence.card.factorial * ids.bases.card.factorial * ids.dependencies.card.factorial *
    ids.requests.card.factorial * ids.profiles.card.factorial

end NamespaceIds
open NamespaceIds

def evidenceMentions (item : Evidence) : NamespaceIds where
  evidence := {item.evidenceId}
  dependencies := item.dependencies
  profiles := item.profileId.toFinset

def basisMentions (item : Basis) : NamespaceIds where
  evidence := item.memberEvidenceIds
  bases := {item.basisId}

/-- `_add_state_ids`. -/
def stateMentions (state : ControlState) : NamespaceIds :=
  gather evidenceMentions state.evidence ∪ gather basisMentions state.bases ∪ {
    bases := state.currentSourceBasisIds ∪ state.currentVerdictBasisIds
    requests := state.requestIds
    profiles := state.requiredProfileId.toFinset }

/-- `_add_event_ids`. -/
def eventMentions : CsdEvent → NamespaceIds
  | .dependencyChange event => { dependencies := {event.dependencyId} }
  | .reassess event =>
      gather evidenceMentions event.newEvidence ∪ gather basisMentions event.newBases ∪
        { requests := event.closeRequestIds.toFinset }
  | .retireControl event => evidenceMentions event.retirementEvidence
  | .advanceClock _ => {}
  | .profileChange event =>
      { profiles := {event.profileId}, requests := event.requestId.toFinset }
  | .requestReassessment event => { requests := {event.requestId} }
  | .recordHeartbeat _ => {}

/-- `_add_expectation_ids`. -/
def expectationMentions (expected : StateExpectation) : NamespaceIds where
  evidence := (expected.evidenceStatuses.map (·.1)).toFinset ∪
    (expected.evidenceOutcomes.map (·.1)).toFinset
  bases := (expected.basisClaims.map (·.1)).toFinset ∪
    expected.currentSourceBasisIds.getD ∅ ∪ expected.currentVerdictBasisIds.getD ∅

/-- `_add_case_ids`. -/
def caseMentions : ScenarioCase → NamespaceIds
  | .transition body =>
      stateMentions body.before ∪ eventMentions body.event ∪ expectationMentions body.expected ∪ {
        evidence := body.expectedInvalidatedEvidence.getD ∅
        bases := body.expectedSurvivingBases.getD ∅ }
  | .observation body => stateMentions body.state ∪ expectationMentions body.expected
  | .rejectedTransition body =>
      stateMentions body.before ∪ stateMentions body.proposedAfter ∪
        match body.event with
        | none => {}
        | some event => eventMentions event

/-- `_collect_scenario_ids`. -/
def collectScenarioIds (spec : ScenarioSpec) : NamespaceIds := gather caseMentions spec.cases

end CsdFoundry.Scenarios

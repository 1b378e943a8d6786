import Mathlib.Data.List.Induction
import CsdFoundry.Evidence.Lifecycle
import CsdFoundry.Assumptions.Transition
import CsdFoundry.AlternativeModels.Transition

/-! The three lifecycles under one interface: the projected state by the type of the registry,
its reducer and the projection of a history. -/
namespace CsdFoundry.Registry
open Evidence (EvidenceUnit reduceEvidence projectEvidenceHistory)
open Assumptions (Assumption reduceAssumption projectAssumptionHistory)
open AlternativeModels (AlternativeModel reduceAlternativeModel projectAlternativeModelHistory)

/-- The projected state of an entity. -/
def State (D : Type) : RegistryType → Type
  | .evidenceUnit => EvidenceUnit D
  | .assumption => Assumption D
  | .alternativeModel => AlternativeModel D

namespace State
variable {D : Type}

def currentEntitySequence : {type : RegistryType} → State D type → Nat
  | .evidenceUnit, state => EvidenceUnit.currentEntitySequence state
  | .assumption, state => Assumption.currentEntitySequence state
  | .alternativeModel, state => AlternativeModel.currentEntitySequence state

def currentEventDigest : {type : RegistryType} → State D type → D
  | .evidenceUnit, state => EvidenceUnit.currentEventDigest state
  | .assumption, state => Assumption.currentEventDigest state
  | .alternativeModel, state => AlternativeModel.currentEventDigest state

end State

variable {D : Type} [DecidableEq D] [DigestText D] [Sha256 D]

/-- `reduce_evidence`, `reduce_assumption` and `reduce_alternative_model`. -/
def reduce : (type : RegistryType) → Option (State D type) → RegistryEvent D →
    Except String (State D type)
  | .evidenceUnit => reduceEvidence
  | .assumption => reduceAssumption
  | .alternativeModel => reduceAlternativeModel

/-- `project_evidence_history`, `project_assumption_history` and
`project_alternative_model_history`. -/
def project : (type : RegistryType) → List (RegistryEvent D) →
    Except String (Option (State D type))
  | .evidenceUnit => projectEvidenceHistory
  | .assumption => projectAssumptionHistory
  | .alternativeModel => projectAlternativeModelHistory

variable {type : RegistryType} {previous state : Option (State D type)} {next : State D type}
  {event : RegistryEvent D} {events before : List (RegistryEvent D)}

/-- An accepted event takes the place right after the events that were projected. -/
structure Succeeds (type : RegistryType) (previous : Option (State D type))
    (event : RegistryEvent D) (next : State D type) : Prop where
  registryType : event.registryType = type
  successor : event.entitySequence = (previous.map State.currentEntitySequence).getD 0 + 1
  predecessor : event.previousEntityEventDigest = previous.map State.currentEventDigest
  sequence : next.currentEntitySequence = event.entitySequence
  digest : next.currentEventDigest = event.digest

theorem reduceEvidence_succeeds {previous : Option (EvidenceUnit D)} {next : EvidenceUnit D}
    (accepted : reduceEvidence previous event = .ok next) :
    Succeeds .evidenceUnit previous event next := by
  have typed : event.registryType = .evidenceUnit := by
    obtain ⟨⟨⟩, checked, -⟩ := except_bind_ok.mp accepted
    exact Evidence.eventValue_type checked
  cases previous with
  | none =>
      have made := Evidence.reduceEvidence_none_ok accepted
      exact ⟨typed, made.first, made.genesis, made.currentEntitySequence, made.currentEventDigest⟩
  | some previous =>
      have follows := Evidence.reduceEvidence_some_ok accepted
      exact ⟨typed, follows.successor, follows.predecessor,
        follows.advances.currentEntitySequence, follows.advances.currentEventDigest⟩

theorem reduceAssumption_succeeds {previous : Option (Assumption D)} {next : Assumption D}
    (accepted : reduceAssumption previous event = .ok next) :
    Succeeds .assumption previous event next := by
  have typed : event.registryType = .assumption := by
    obtain ⟨⟨⟩, checked, -⟩ := except_bind_ok.mp accepted
    exact Assumptions.eventValue_type checked
  cases previous with
  | none =>
      have proposes := Assumptions.reduceAssumption_none_ok accepted
      exact ⟨typed, proposes.first, proposes.genesis, proposes.sequence, proposes.digest⟩
  | some previous =>
      have reduces := Assumptions.reduceAssumption_some_ok accepted
      exact ⟨typed, reduces.successor, reduces.predecessor, reduces.sequence, reduces.digest⟩

theorem reduceAlternativeModel_succeeds {previous : Option (AlternativeModel D)}
    {next : AlternativeModel D} (accepted : reduceAlternativeModel previous event = .ok next) :
    Succeeds .alternativeModel previous event next := by
  obtain ⟨⟨⟩, checked, rest⟩ := except_bind_ok.mp accepted
  obtain ⟨operation, -, rest⟩ := except_bind_ok.mp rest
  obtain ⟨⟨⟩, chained, -⟩ := except_bind_ok.mp rest
  have typed := AlternativeModels.eventValue_type checked
  cases previous with
  | none =>
      have linked := AlternativeModels.verifyChain_none_ok chained
      obtain ⟨-, sequence, digest, -⟩ := AlternativeModels.reduceAlternativeModel_none_ok accepted
      exact ⟨typed, linked.1, linked.2, sequence, digest⟩
  | some previous =>
      have linked := AlternativeModels.verifyChain_some_ok chained
      obtain ⟨-, sequence, digest, -⟩ := AlternativeModels.reduceAlternativeModel_some_ok accepted
      exact ⟨typed, linked.1, linked.2, sequence, digest⟩

theorem reduce_ok (accepted : reduce type previous event = .ok next) :
    Succeeds type previous event next := by
  cases type with
  | evidenceUnit => exact reduceEvidence_succeeds accepted
  | assumption => exact reduceAssumption_succeeds accepted
  | alternativeModel => exact reduceAlternativeModel_succeeds accepted

/-- The loop of the projections. -/
def projectFrom (type : RegistryType) (state : Option (State D type)) :
    List (RegistryEvent D) → Except String (Option (State D type))
  | [] => .ok state
  | event :: events => do
      let next ← reduce type state event
      projectFrom type (some next) events

theorem project_eq (type : RegistryType) (events : List (RegistryEvent D)) :
    project type events = projectFrom type none events := by
  cases type with
  | evidenceUnit =>
      suffices all : ∀ state, Evidence.projectFrom state events = projectFrom .evidenceUnit state events
        from all none
      induction events with
      | nil => exact fun _ => rfl
      | cons event events ih => exact fun state => congrArg _ (funext fun next => ih (some next))
  | assumption =>
      suffices all : ∀ state, Assumptions.projectFrom state events = projectFrom .assumption state events
        from all none
      induction events with
      | nil => exact fun _ => rfl
      | cons event events ih => exact fun state => congrArg _ (funext fun next => ih (some next))
  | alternativeModel =>
      suffices all : ∀ state, AlternativeModels.projectFrom state events =
        projectFrom .alternativeModel state events from all none
      induction events with
      | nil => exact fun _ => rfl
      | cons event events ih => exact fun state => congrArg _ (funext fun next => ih (some next))

theorem projectFrom_append {result : Option (State D type)} :
    projectFrom type state (before ++ events) = .ok result ↔
      ∃ middle, projectFrom type state before = .ok middle ∧
        projectFrom type middle events = .ok result := by
  induction before generalizing state with
  | nil => simp [projectFrom]
  | cons event before ih =>
      simp only [List.cons_append, projectFrom, except_bind_ok, ih]
      constructor
      · rintro ⟨next, reduced, middle, first, second⟩
        exact ⟨middle, ⟨next, reduced, first⟩, second⟩
      · rintro ⟨middle, ⟨next, reduced, first⟩, second⟩
        exact ⟨next, reduced, middle, first, second⟩

theorem project_concat {result : Option (State D type)} :
    project type (before ++ [event]) = .ok result ↔ ∃ state next, project type before = .ok state ∧
      reduce type state event = .ok next ∧ result = some next := by
  rw [project_eq, project_eq, projectFrom_append]
  constructor
  · rintro ⟨state, first, last⟩
    obtain ⟨next, reduced, same⟩ := except_bind_ok.mp last
    exact ⟨state, next, first, reduced, (Except.ok.inj same).symm⟩
  · rintro ⟨state, next, first, reduced, rfl⟩
    exact ⟨state, first, except_bind_ok.mpr ⟨next, reduced, rfl⟩⟩

/-- A projection stands at the last event of its history. -/
theorem project_last {result : Option (State D type)} (accepted : project type events = .ok result) :
    result.map State.currentEntitySequence = events.getLast?.map (·.entitySequence) ∧
      result.map State.currentEventDigest = events.getLast?.map (·.digest) := by
  induction events using List.reverseRecOn with
  | nil =>
      rw [project_eq] at accepted
      obtain rfl := Except.ok.inj accepted
      exact ⟨rfl, rfl⟩
  | append_singleton before event _ =>
      obtain ⟨state, next, -, reduced, rfl⟩ := project_concat.mp accepted
      have succeeds := reduce_ok reduced
      simp [succeeds.sequence, succeeds.digest]

end CsdFoundry.Registry

import CsdFoundry.Assumptions.History
import CsdFoundry.Registry.Lifecycles
import CsdFoundry.Registry.Store
import CsdFoundry.Storage.Confined

/-! The entity of a history: its identity, its clock and its expiry, under the interface of the
three lifecycles. -/
namespace CsdFoundry.Registry
open Storage
open Evidence (EvidenceUnit)
open Assumptions (Assumption)
open AlternativeModels (AlternativeModel)

namespace State
variable {D : Type}

def entityId : {type : RegistryType} → State D type → String
  | .evidenceUnit, state => EvidenceUnit.evidenceId state
  | .assumption, state => Assumption.assumptionId state
  | .alternativeModel, state => AlternativeModel.modelId state

def lastClockSequence : {type : RegistryType} → State D type → Nat
  | .evidenceUnit, state => EvidenceUnit.lastClockSequence state
  | .assumption, state => Assumption.lastClockSequence state
  | .alternativeModel, state => AlternativeModel.lastClockSequence state

def expiresAtSequence : {type : RegistryType} → State D type → Option Nat
  | .evidenceUnit, state => EvidenceUnit.expiresAtSequence state
  | .assumption, state => Assumption.expiresAtSequence state
  | .alternativeModel, state => AlternativeModel.expiresAtSequence state

end State

variable {D : Type} [DecidableEq D] [DigestText D] [Sha256 D] {type : RegistryType}
  {previous : Option (State D type)} {next : State D type} {event : RegistryEvent D}
  {events : List (RegistryEvent D)}

/-- An accepted event is one of the entity, and moves its clock. -/
structure Moves (previous : Option (State D type)) (event : RegistryEvent D)
    (next : State D type) : Prop where
  entity : next.entityId = event.entityId
  clock : next.lastClockSequence = event.clockSequence
  same : ∀ before ∈ previous, before.entityId = event.entityId
  later : ∀ before ∈ previous, before.lastClockSequence < event.clockSequence
  expires : ∀ before ∈ previous, next.expiresAtSequence = before.expiresAtSequence

omit [DecidableEq D] [Sha256 D] in
/-- A first event has nothing before it to agree with. -/
theorem Moves.first (entity : next.entityId = event.entityId)
    (clock : next.lastClockSequence = event.clockSequence) : Moves none event next where
  entity := entity
  clock := clock
  same before found := absurd found (Option.not_mem_none before)
  later before found := absurd found (Option.not_mem_none before)
  expires before found := absurd found (Option.not_mem_none before)

theorem reduceEvidence_moves {previous : Option (EvidenceUnit D)} {next : EvidenceUnit D}
    (accepted : Evidence.reduceEvidence previous event = .ok next) :
    @Moves D _ .evidenceUnit previous event next := by
  cases previous with
  | none =>
      have made := Evidence.reduceEvidence_none_ok accepted
      exact .first made.evidenceId made.lastClockSequence
  | some before =>
      have follows := Evidence.reduceEvidence_some_ok accepted
      refine ⟨follows.advances.evidenceId.trans follows.identity.symm,
        follows.advances.lastClockSequence, ?_, ?_, ?_⟩ <;> rintro _ ⟨⟩
      · exact follows.identity.symm
      · exact follows.clock
      · exact follows.advances.expiresAtSequence

theorem reduceAssumption_moves {previous : Option (Assumption D)} {next : Assumption D}
    (accepted : Assumptions.reduceAssumption previous event = .ok next) :
    @Moves D _ .assumption previous event next := by
  cases previous with
  | none =>
      have proposes := Assumptions.reduceAssumption_none_ok accepted
      exact .first proposes.identity proposes.clock
  | some before =>
      have reduces := Assumptions.reduceAssumption_some_ok accepted
      refine ⟨(Assumptions.proposal_assumptionId reduces.proposal).trans reduces.identity.symm,
        reduces.clock, ?_, ?_, ?_⟩ <;> rintro _ ⟨⟩
      · exact reduces.identity.symm
      · exact reduces.advances
      · exact congrArg Assumptions.Proposal.expiresAtSequence reduces.proposal

theorem reduceAlternativeModel_moves {previous : Option (AlternativeModel D)}
    {next : AlternativeModel D}
    (accepted : AlternativeModels.reduceAlternativeModel previous event = .ok next) :
    @Moves D _ .alternativeModel previous event next := by
  cases previous with
  | none =>
      have moves := AlternativeModels.reduceAlternativeModel_none_moves accepted
      exact .first moves.1 moves.2
  | some before =>
      obtain ⟨identity, later, same, clock, expires⟩ :=
        AlternativeModels.reduceAlternativeModel_some_moves accepted
      refine ⟨same.trans identity.symm, clock, ?_, ?_, ?_⟩ <;> rintro _ ⟨⟩
      · exact identity.symm
      · exact later
      · exact expires

theorem reduce_moves (accepted : reduce type previous event = .ok next) :
    Moves previous event next := by
  cases type with
  | evidenceUnit => exact reduceEvidence_moves accepted
  | assumption => exact reduceAssumption_moves accepted
  | alternativeModel => exact reduceAlternativeModel_moves accepted

/-- A projection is of the entity of its events, and there is one where there are events. -/
theorem project_entity {state : Option (State D type)} (accepted : project type events = .ok state) :
    (∀ entity ∈ state, ∀ event ∈ events, event.entityId = entity.entityId) ∧
      (state = none → events = []) := by
  induction events using List.reverseRecOn generalizing state with
  | nil => exact ⟨fun _ _ => List.forall_mem_nil _, fun _ => rfl⟩
  | append_singleton before event ih =>
      obtain ⟨previous, next, first, reduced, rfl⟩ := project_concat.mp accepted
      obtain ⟨same, empty⟩ := ih first
      have moves := reduce_moves reduced
      refine ⟨?_, nofun⟩
      rintro _ ⟨⟩ other member
      rcases List.mem_append.mp member with old | new
      · cases previous with
        | none => simp [empty rfl] at old
        | some previous => rw [same previous rfl other old, moves.entity, moves.same previous rfl]
      · obtain rfl := List.mem_singleton.mp new
        exact moves.entity.symm

/-! ### What a read returns, whatever other writers do in between -/

section Reads
variable {D : Type} [LinearOrder D] [DigestText D] [Sha256 D] {type : RegistryType}
  {entityId : String}

/-- The events are of the entity. -/
def OfEntity (type : RegistryType) (entityId : String) (events : List (RegistryEvent D)) : Prop :=
  ∀ event ∈ events, event.registryType = type ∧ event.entityId = entityId

theorem yields_chainEvent (seen : List D) (digest : D) :
    (chainEvent type entityId seen digest).Yields fun event =>
      event.registryType = type ∧ event.entityId = entityId := by
  refine .bind (.require _ _) fun _ _ => .bind (.any _) fun found _ => ?_
  cases found with
  | none => exact .throw _
  | some event => exact .bind (.require _ _) fun _ same => .pure same

theorem yields_chainFrom (expected : Nat) (seen : List D) (digest : Option D) :
    (chainFrom type entityId expected seen digest).Yields (OfEntity type entityId) := by
  induction expected generalizing seen digest with
  | zero =>
      cases digest with
      | none => exact .pure nofun
      | some digest => exact .bind (.any _) fun _ _ => .throw _
  | succ expected ih =>
      cases digest with
      | none => exact .throw _
      | some digest =>
          refine .bind (yields_chainEvent _ _) fun event same => ?_
          refine .bind (.any _) fun _ _ => .bind (ih _ _) fun below all => .pure ?_
          intro other member
          rcases List.mem_append.mp member with old | new
          · exact all other old
          · obtain rfl := List.mem_singleton.mp new
            exact same

theorem yields_reconstructEntity :
    (reconstructEntity type entityId : RegistryM D _).Yields (OfEntity type entityId) := by
  refine .bind (.any _) fun head _ => ?_
  cases head with
  | none => exact .pure nofun
  | some head => exact yields_chainFrom _ _ _

end Reads

end CsdFoundry.Registry

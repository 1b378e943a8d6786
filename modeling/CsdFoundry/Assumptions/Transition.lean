import CsdFoundry.Assumptions.Lifecycle

/-! What one accepted event does to an assumption: its place in the chain, and the change of
standing and of the challenges that are open. -/
namespace CsdFoundry.Assumptions
open Registry
open Temporal (isToken)
variable {D : Type}

/-- The identity and the fields that the proposal declares. -/
structure Proposal where
  assumptionId : String
  propositionId : String
  scopeIds : List String
  materiality : String
  proposerAuthorityId : String
  proposedAtSequence : Nat
  validFromSequence : Nat
  expiresAtSequence : Option Nat
  assumptionDependencyIds : List String
  evidenceDependencyIds : List String
  limitations : List String
  maximumReuseClass : String
  proposalSourceReceiptDigest : String
  deriving DecidableEq

def Assumption.proposal (a : Assumption D) : Proposal where
  assumptionId := a.assumptionId
  propositionId := a.propositionId
  scopeIds := a.scopeIds
  materiality := a.materiality
  proposerAuthorityId := a.proposerAuthorityId
  proposedAtSequence := a.proposedAtSequence
  validFromSequence := a.validFromSequence
  expiresAtSequence := a.expiresAtSequence
  assumptionDependencyIds := a.assumptionDependencyIds
  evidenceDependencyIds := a.evidenceDependencyIds
  limitations := a.limitations
  maximumReuseClass := a.maximumReuseClass
  proposalSourceReceiptDigest := a.proposalSourceReceiptDigest

variable [DigestText D]

/-- The event is an operation of this name. -/
def Operates (event : RegistryEvent D) (operation : String) : Prop :=
  event.payload.get "operation" = .str operation

/-- The event resolves challenges, and names this one. -/
def Names (event : RegistryEvent D) (challengeId : String) : Prop :=
  Operates event "RESOLVE_CHALLENGES" ∧
    ∃ items, event.payload.get "resolved_challenge_ids" = .arr items ∧ .str challengeId ∈ items

variable [Sha256 D]

/-- The event opens a challenge, which carries what the event says of it. -/
structure Opens (event : RegistryEvent D) (opened : AssumptionChallenge D) : Prop where
  operation : Operates event "CHALLENGE"
  id : event.payload.get "challenge_id" = .str opened.challengeId
  authority : event.payload.get "challenger_authority_id" = .str opened.challengerAuthorityId
  reason : event.payload.get "challenge_reason_code" = .str opened.reasonCode
  receipt : event.payload.get "challenge_receipt_digest" = .str opened.challengeReceiptDigest
  clock : opened.openedAtSequence = event.clockSequence
  digest : opened.openingEventDigest = event.digest

/-- The changes of standing and challenges, one for each kind of operation. -/
inductive Transition (before : Assumption D) (event : RegistryEvent D) :
    Standing → List (AssumptionChallenge D) → Prop where
  | admission (operation : Operates event "ADMIT") (was : before.standing = .proposed) :
      Transition before event .admitted before.activeChallenges
  | confirmation (operation : Operates event "CONFIRM") (was : before.standing = .admitted)
      (quiet : before.activeChallenges = []) :
      Transition before event .confirmed before.activeChallenges
  | challenge (opens : Opens event opened) (was : before.standing.active = true)
      (fresh : opened.challengeId ∉ before.activeChallengeIds) :
      Transition before event before.standing
        (Assumption.byChallengeId (before.activeChallenges ++ [opened]))
  | resolution (operation : Operates event "RESOLVE_CHALLENGES")
      (was : before.standing.active = true)
      (outcome : event.payload.get "resolution_outcome" = .str result)
      (listed : event.payload.get "resolved_challenge_ids" = .arr items)
      (parsed : strings items = some ids) (named : ids ≠ [])
      (known : ∀ id ∈ ids, id ∈ before.activeChallengeIds) :
      Transition before event (resolutionStanding result)
        (if (resolutionStanding result).terminal = true then []
          else before.activeChallenges.filter (fun item => item.challengeId ∉ ids))
  | closing (operation : Operates event "REJECT" ∨ Operates event "EXPIRE" ∨
        Operates event "SUPERSEDE") (terminal : standing.terminal = true) :
      Transition before event standing []

/-- Everything that one accepted event does to an assumption. -/
structure Reduces [DecidableEq D] (before : Assumption D) (event : RegistryEvent D)
    (after : Assumption D) : Prop where
  live : before.terminal = false
  proposal : after.proposal = before.proposal
  identity : event.entityId = before.assumptionId
  successor : event.entitySequence = before.currentEntitySequence + 1
  predecessor : event.previousEntityEventDigest = some before.currentEventDigest
  advances : before.lastClockSequence < event.clockSequence
  sequence : after.currentEntitySequence = event.entitySequence
  clock : after.lastClockSequence = event.clockSequence
  digest : after.currentEventDigest = event.digest
  transition : Transition before event after.standing after.activeChallenges
  valid : after.postInit = .ok ()

variable [DecidableEq D] {before after : Assumption D} {event : RegistryEvent D}

omit [Sha256 D] in
theorem create_ok {a b : Assumption D} : Assumption.create a = .ok b ↔ a.postInit = .ok () ∧ a = b := by
  unfold Assumption.create
  rw [except_bind_ok]
  constructor
  · rintro ⟨done, passed, same⟩
    exact ⟨passed, Except.ok.inj same⟩
  · rintro ⟨passed, rfl⟩
    exact ⟨(), passed, rfl⟩

omit [DecidableEq D] [Sha256 D] [DigestText D] in
theorem requiredToken_ok {payload : JsonObject}
    (passed : requiredToken payload field code = .ok token) : payload.get field = .str token :=
  (requireToken_ok passed).1

omit [DecidableEq D] [Sha256 D] in
theorem requiredDigest_ok {payload : JsonObject}
    (passed : requiredDigest D payload field code = .ok value) :
    payload.get field = .str value := by
  unfold requiredDigest requireDigest at passed
  split at passed
  · rename_i found
    split at passed
    · cases passed
      exact found
    · cases passed
  · cases passed

/-- An event that passes the chain check and changes the state by `advance`. -/
theorem Reduces.of_advance {change : Change D} (live : before.terminal = false)
    (chained : verifyChain (some before) event = .ok ())
    (changed : advance before event change = .ok after)
    (transition : Transition before event (change.standing.getD before.standing)
      (change.activeChallenges.getD before.activeChallenges)) : Reduces before event after := by
  obtain ⟨valid, rfl⟩ := create_ok.mp changed
  simp only [verifyChain, except_bind_ok, check_ok] at chained
  obtain ⟨-, identity, -, successor, -, predecessor, -, advances, -⟩ := chained
  exact ⟨live, rfl, identity, successor, predecessor, advances, rfl, rfl, rfl, transition, valid⟩

theorem admitAssumption_ok (operation : Operates event "ADMIT")
    (accepted : admitAssumption before event = .ok after) :
    ∃ change, advance before event change = .ok after ∧
      Transition before event (change.standing.getD before.standing)
        (change.activeChallenges.getD before.activeChallenges) := by
  simp only [admitAssumption, except_bind_ok, check_ok] at accepted
  obtain ⟨-, was, -, -, authority, -, -, -, changed⟩ := accepted
  exact ⟨_, changed, .admission operation was⟩

theorem confirm_ok (operation : Operates event "CONFIRM")
    (accepted : confirm before event = .ok after) :
    ∃ change, advance before event change = .ok after ∧
      Transition before event (change.standing.getD before.standing)
        (change.activeChallenges.getD before.activeChallenges) := by
  simp only [confirm, except_bind_ok, check_ok] at accepted
  obtain ⟨-, was, -, quiet, -, -, authority, -, -, -, changed⟩ := accepted
  exact ⟨_, changed, .confirmation operation was quiet⟩

theorem challenge_ok (operation : Operates event "CHALLENGE")
    (accepted : challenge before event = .ok after) :
    ∃ change, advance before event change = .ok after ∧
      Transition before event (change.standing.getD before.standing)
        (change.activeChallenges.getD before.activeChallenges) := by
  simp only [challenge, except_bind_ok, check_ok] at accepted
  obtain ⟨-, was, -, -, id, named, -, fresh, authority, authorised, reason, given, receipt,
    received, -, -, changed⟩ := accepted
  refine ⟨_, changed, .challenge ?_ was fresh⟩
  exact ⟨operation, requiredToken_ok named, requiredToken_ok authorised, requiredToken_ok given,
    requiredDigest_ok received, rfl, rfl⟩

theorem resolveChallenges_ok (operation : Operates event "RESOLVE_CHALLENGES")
    (accepted : resolveChallenges before event = .ok after) :
    ∃ change, advance before event change = .ok after ∧
      Transition before event (change.standing.getD before.standing)
        (change.activeChallenges.getD before.activeChallenges) := by
  simp only [resolveChallenges, except_bind_ok, check_ok] at accepted
  obtain ⟨-, was, -, -, -, -, outcome, decided, -, -, -, -, -, -, -, -, ids, listed, -, known,
    replacement, -, changed⟩ := accepted
  obtain ⟨items, found, parsed, -, nonempty⟩ := requiredTokenTuple_ok listed
  exact ⟨_, changed, .resolution operation was (requiredToken_ok decided) found parsed
    (nonempty rfl) known⟩

theorem reject_ok (operation : Operates event "REJECT")
    (accepted : reject before event = .ok after) :
    ∃ change, advance before event change = .ok after ∧
      Transition before event (change.standing.getD before.standing)
        (change.activeChallenges.getD before.activeChallenges) := by
  simp only [reject, except_bind_ok, check_ok] at accepted
  obtain ⟨-, -, -, -, -, -, -, -, -, -, changed⟩ := accepted
  exact ⟨_, changed, .closing (.inl operation) rfl⟩

theorem expire_ok (operation : Operates event "EXPIRE")
    (accepted : expire before event = .ok after) :
    ∃ change, advance before event change = .ok after ∧
      Transition before event (change.standing.getD before.standing)
        (change.activeChallenges.getD before.activeChallenges) := by
  simp only [expire, except_bind_ok, check_ok] at accepted
  obtain ⟨-, -, -, -, -, -, -, -, dated⟩ := accepted
  cases declared : before.expiresAtSequence with
  | none =>
      rw [declared] at dated
      cases dated
  | some expires =>
      rw [declared] at dated
      obtain ⟨-, -, changed⟩ := except_bind_ok.mp dated
      exact ⟨_, changed, .closing (.inr (.inl operation)) rfl⟩

theorem supersede_ok (operation : Operates event "SUPERSEDE")
    (accepted : supersede before event = .ok after) :
    ∃ change, advance before event change = .ok after ∧
      Transition before event (change.standing.getD before.standing)
        (change.activeChallenges.getD before.activeChallenges) := by
  simp only [supersede, except_bind_ok, check_ok] at accepted
  obtain ⟨-, -, -, -, replacement, -, -, -, -, -, -, -, -, -, changed⟩ := accepted
  exact ⟨_, changed, .closing (.inr (.inr operation)) rfl⟩

/-- Each handler changes the state by `advance`, in its own way. -/
theorem operate_ok (operation : Operates event name) (accepted : operate name before event = .ok after) :
    ∃ change, advance before event change = .ok after ∧
      Transition before event (change.standing.getD before.standing)
        (change.activeChallenges.getD before.activeChallenges) := by
  unfold operate at accepted
  split at accepted
  case h_1 => cases accepted
  case h_2 => exact admitAssumption_ok operation accepted
  case h_3 => exact confirm_ok operation accepted
  case h_4 => exact challenge_ok operation accepted
  case h_5 => exact resolveChallenges_ok operation accepted
  case h_6 => exact reject_ok operation accepted
  case h_7 => exact expire_ok operation accepted
  case h_8 => exact supersede_ok operation accepted
  case h_9 => cases accepted

theorem reduceAssumption_some_ok (accepted : reduceAssumption (some before) event = .ok after) :
    Reduces before event after := by
  simp only [reduceAssumption, except_bind_ok, check_ok] at accepted
  obtain ⟨-, -, name, operation, done, chained, -, live, operated⟩ := accepted
  obtain ⟨change, changed, transition⟩ := operate_ok (requiredToken_ok operation) operated
  exact .of_advance live chained changed transition

omit [DecidableEq D] [Sha256 D] in
theorem eventValue_type (checked : eventValue event = .ok ()) :
    event.registryType = .assumption := by
  simp only [eventValue, except_bind_ok, check_ok] at checked
  obtain ⟨-, typed, -⟩ := checked
  exact typed

/-- What the first accepted event makes. -/
structure Proposes (event : RegistryEvent D) (after : Assumption D) : Prop where
  operation : Operates event "PROPOSE"
  identity : after.assumptionId = event.entityId
  first : event.entitySequence = 1
  genesis : event.previousEntityEventDigest = none
  sequence : after.currentEntitySequence = event.entitySequence
  clock : after.lastClockSequence = event.clockSequence
  digest : after.currentEventDigest = event.digest
  standing : after.standing = .proposed
  challenges : after.activeChallenges = []
  valid : after.postInit = .ok ()

theorem reduceAssumption_none_ok (accepted : reduceAssumption none event = .ok after) :
    Proposes event after := by
  simp only [reduceAssumption, except_bind_ok, check_ok] at accepted
  obtain ⟨-, -, name, operation, done, chained, -, rfl, proposed⟩ := accepted
  simp only [verifyChain, check_ok] at chained
  simp only [propose, except_bind_ok, check_ok, create_ok] at proposed
  obtain ⟨-, -, proposedAt, -, -, -, materiality, -, -, -, proposition, -, scopes, -, proposer, -,
    validFrom, -, expires, -, dependencies, -, evidence, -, limitations, -, reuse, -, valid, rfl⟩ :=
    proposed
  exact ⟨requiredToken_ok operation, rfl, chained.1, chained.2, rfl, rfl, rfl, rfl, rfl, valid⟩

end CsdFoundry.Assumptions

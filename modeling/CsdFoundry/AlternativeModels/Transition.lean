import CsdFoundry.AlternativeModels.Lifecycle

/-! What one accepted event does to an alternative model: its place in the chain, and that
PROPOSED is left for good. -/
namespace CsdFoundry.AlternativeModels
open Registry
variable {D : Type} [DecidableEq D] [DigestText D] [Sha256 D] {before after : AlternativeModel D}
  {event : RegistryEvent D} {events : List (RegistryEvent D)} {name : String}

omit [Sha256 D] in
theorem create_ok {m n : AlternativeModel D} :
    AlternativeModel.create m = .ok n ↔ m.postInit = .ok () ∧ m = n := by
  unfold AlternativeModel.create
  rw [except_bind_ok]
  constructor
  · rintro ⟨done, passed, same⟩
    exact ⟨passed, Except.ok.inj same⟩
  · rintro ⟨passed, rfl⟩
    exact ⟨(), passed, rfl⟩

theorem challengeable_left {status : SeparationStatus} (live : status.challengeable = true) :
    status ≠ .proposed := by
  rintro rfl
  cases live

/-- The state changes by `advance`, and PROPOSED is left, by an ADMIT only from it. -/
def Leaves (name : String) (before : AlternativeModel D) (event : RegistryEvent D)
    (after : AlternativeModel D) : Prop :=
  ∃ change, advance before event change = .ok after ∧
    change.separationStatus.getD before.separationStatus ≠ .proposed ∧
    (name = "ADMIT" → before.separationStatus = .proposed)

theorem admitModel_ok (accepted : admitModel before event = .ok after) :
    Leaves "ADMIT" before event after := by
  simp only [admitModel, except_bind_ok, check_ok] at accepted
  obtain ⟨-, was, -, -, authority, -, changed⟩ := accepted
  exact ⟨_, changed, by simp, fun _ => was⟩

theorem confirm_ok (accepted : confirm before event = .ok after) :
    Leaves "CONFIRM" before event after := by
  simp only [confirm, except_bind_ok, check_ok] at accepted
  obtain ⟨-, -, -, -, -, -, authority, -, changed⟩ := accepted
  exact ⟨_, changed, by simp, by simp⟩

theorem challenge_ok (accepted : challenge before event = .ok after) :
    Leaves "CHALLENGE" before event after := by
  simp only [challenge, except_bind_ok, check_ok] at accepted
  obtain ⟨-, was, -, -, id, -, -, -, challenger, -, reason, -, receipt, -, changed⟩ := accepted
  exact ⟨_, changed, challengeable_left was, by simp⟩

theorem resolveChallenges_ok (accepted : resolveChallenges before event = .ok after) :
    Leaves "RESOLVE_CHALLENGES" before event after := by
  simp only [resolveChallenges, except_bind_ok, check_ok] at accepted
  obtain ⟨-, was, -, -, -, -, outcome, -, -, -, resolver, -, receipt, -, basis, -, ids, -, -, -, -,
    -, changed⟩ := accepted
  split at changed
  · exact ⟨_, changed, by simp, by simp⟩
  · exact ⟨_, changed, challengeable_left was, by simp⟩

theorem reject_ok (accepted : reject before event = .ok after) :
    Leaves "REJECT" before event after := by
  simp only [reject, except_bind_ok, check_ok] at accepted
  obtain ⟨-, -, -, -, authority, -, reason, -, changed⟩ := accepted
  exact ⟨_, changed, by simp, by simp⟩

theorem expire_ok (accepted : expire before event = .ok after) :
    Leaves "EXPIRE" before event after := by
  simp only [expire, except_bind_ok, check_ok] at accepted
  obtain ⟨-, -, -, -, authority, -, receipt, -, rest⟩ := accepted
  cases expires : before.expiresAtSequence with
  | none =>
      rw [expires] at rest
      obtain ⟨done, thrown, -⟩ := except_bind_ok.mp rest
      cases thrown
  | some limit =>
      rw [expires] at rest
      obtain ⟨-, -, changed⟩ := except_bind_ok.mp rest
      exact ⟨_, changed, by simp, by simp⟩

theorem supersede_ok (accepted : supersede before event = .ok after) :
    Leaves "SUPERSEDE" before event after := by
  simp only [supersede, except_bind_ok, check_ok] at accepted
  obtain ⟨-, -, -, -, replacement, -, -, -, authority, -, receipt, -, reason, -, changed⟩ := accepted
  exact ⟨_, changed, by simp, by simp⟩

theorem operate_ok (accepted : operate name before event = .ok after) :
    Leaves name before event after := by
  unfold operate at accepted
  split at accepted
  · cases accepted
  · exact admitModel_ok accepted
  · exact confirm_ok accepted
  · exact challenge_ok accepted
  · exact resolveChallenges_ok accepted
  · exact reject_ok accepted
  · exact expire_ok accepted
  · exact supersede_ok accepted
  · cases accepted

theorem reduceAlternativeModel_some_ok
    (accepted : reduceAlternativeModel (some before) event = .ok after) :
    event.entitySequence = before.currentEntitySequence + 1 ∧
      after.currentEntitySequence = event.entitySequence ∧
      after.currentEventDigest = event.digest ∧ after.separationStatus ≠ .proposed ∧
      (event.payload.get "operation" = .str "ADMIT" → before.separationStatus = .proposed) := by
  simp only [reduceAlternativeModel, except_bind_ok, check_ok] at accepted
  obtain ⟨-, -, name, operation, done, chained, -, -, operated⟩ := accepted
  obtain ⟨change, changed, left, admission⟩ := operate_ok operated
  obtain ⟨-, rfl⟩ := create_ok.mp changed
  simp only [verifyChain, except_bind_ok, check_ok] at chained
  obtain ⟨-, -, -, successor, -⟩ := chained
  refine ⟨successor, rfl, rfl, left, fun operates => admission ?_⟩
  exact Json.str.inj ((requireToken_ok operation).1.symm.trans operates)

theorem reduceAlternativeModel_none_ok (accepted : reduceAlternativeModel none event = .ok after) :
    event.entitySequence = 1 ∧ after.currentEntitySequence = event.entitySequence ∧
      after.currentEventDigest = event.digest ∧
      event.payload.get "operation" = .str "PROPOSE" := by
  simp only [reduceAlternativeModel, except_bind_ok, check_ok] at accepted
  obtain ⟨-, -, name, operation, done, chained, -, rfl, proposed⟩ := accepted
  simp only [propose, except_bind_ok, check_ok] at proposed
  obtain ⟨-, -, version, -, primary, -, graph, -, difference, -, basis, -, scopes, -, assumptions, -,
    evidence, -, proposer, -, materiality, -, -, -, valid, -, expires, -, -, -, limitations, -, reuse, -,
    -, -, created⟩ := proposed
  obtain ⟨-, rfl⟩ := create_ok.mp created
  simp only [verifyChain, check_ok] at chained
  exact ⟨chained.1, rfl, rfl, (requireToken_ok operation).1⟩

theorem reduceAlternativeModel_none_moves
    (accepted : reduceAlternativeModel none event = .ok after) :
    after.modelId = event.entityId ∧ after.lastClockSequence = event.clockSequence := by
  simp only [reduceAlternativeModel, except_bind_ok, check_ok] at accepted
  obtain ⟨-, -, name, operation, done, chained, -, rfl, proposed⟩ := accepted
  simp only [propose, except_bind_ok, check_ok] at proposed
  obtain ⟨-, -, version, -, primary, -, graph, -, difference, -, basis, -, scopes, -, assumptions, -,
    evidence, -, proposer, -, materiality, -, -, -, valid, -, expires, -, -, -, limitations, -, reuse, -,
    -, -, created⟩ := proposed
  obtain ⟨-, rfl⟩ := create_ok.mp created
  exact ⟨rfl, rfl⟩

theorem reduceAlternativeModel_some_moves
    (accepted : reduceAlternativeModel (some before) event = .ok after) :
    event.entityId = before.modelId ∧ before.lastClockSequence < event.clockSequence ∧
      after.modelId = before.modelId ∧ after.lastClockSequence = event.clockSequence ∧
      after.expiresAtSequence = before.expiresAtSequence := by
  simp only [reduceAlternativeModel, except_bind_ok, check_ok] at accepted
  obtain ⟨-, -, name, operation, done, chained, -, -, operated⟩ := accepted
  obtain ⟨change, changed, -, -⟩ := operate_ok operated
  obtain ⟨-, rfl⟩ := create_ok.mp changed
  simp only [verifyChain, except_bind_ok, check_ok] at chained
  obtain ⟨-, identity, -, -, -, -, -, clock, -⟩ := chained
  exact ⟨identity, clock, rfl, rfl, rfl⟩

omit [DecidableEq D] [Sha256 D] in
theorem eventValue_type (checked : eventValue event = .ok ()) :
    event.registryType = .alternativeModel := by
  simp only [eventValue, except_bind_ok, check_ok] at checked
  obtain ⟨-, typed, -⟩ := checked
  exact typed

theorem verifyChain_none_ok (chained : verifyChain none event = .ok ()) :
    event.entitySequence = 1 ∧ event.previousEntityEventDigest = none := by
  simpa only [verifyChain, check_ok] using chained

theorem verifyChain_some_ok (chained : verifyChain (some before) event = .ok ()) :
    event.entitySequence = before.currentEntitySequence + 1 ∧
      event.previousEntityEventDigest = some before.currentEventDigest := by
  simp only [verifyChain, except_bind_ok, check_ok] at chained
  obtain ⟨-, -, -, successor, -, predecessor, -⟩ := chained
  exact ⟨successor, predecessor⟩

/-- Where a model stands in its history: PROPOSED at the first event only. -/
structure Placed (events : List (RegistryEvent D)) (m : AlternativeModel D) : Prop where
  last : ∃ event, events.getLast? = some event ∧
    m.currentEntitySequence = event.entitySequence ∧ m.currentEventDigest = event.digest
  proposed : m.separationStatus = .proposed → m.currentEntitySequence = 1
  second : ∀ event ∈ events, event.payload.get "operation" = .str "ADMIT" →
    event.entitySequence = 2

theorem Placed.next (placed : Placed events before)
    (accepted : reduceAlternativeModel (some before) event = .ok after) :
    Placed (events ++ [event]) after := by
  obtain ⟨successor, sequence, digest, left, admission⟩ := reduceAlternativeModel_some_ok accepted
  refine ⟨⟨event, by simp, sequence, digest⟩, fun proposed => absurd proposed left, ?_⟩
  intro other member operates
  rcases List.mem_append.mp member with old | new
  · exact placed.second other old operates
  · obtain rfl := List.mem_singleton.mp new
    rw [successor, placed.proposed (admission operates)]

theorem projectFrom_placed {past : List (RegistryEvent D)} {result : Option (AlternativeModel D)}
    (placed : Placed past before) (accepted : projectFrom (some before) events = .ok result) :
    ∃ m, result = some m ∧ Placed (past ++ events) m := by
  induction events generalizing past before with
  | nil => exact ⟨before, (Except.ok.inj accepted).symm, by simpa using placed⟩
  | cons event events ih =>
      obtain ⟨next, reduced, rest⟩ := except_bind_ok.mp accepted
      have moved := ih (placed.next reduced) rest
      simpa using moved

theorem project_placed {result : Option (AlternativeModel D)}
    (accepted : projectAlternativeModelHistory events = .ok result) :
    (events = [] ∧ result = none) ∨ ∃ m, result = some m ∧ Placed events m := by
  cases events with
  | nil => exact .inl ⟨rfl, (Except.ok.inj accepted).symm⟩
  | cons event events =>
      obtain ⟨first, reduced, rest⟩ := except_bind_ok.mp accepted
      obtain ⟨genesis, sequence, digest, proposes⟩ := reduceAlternativeModel_none_ok reduced
      have placed : Placed [event] first := by
        refine ⟨⟨event, rfl, sequence, digest⟩, fun _ => sequence.trans genesis, ?_⟩
        intro other member operates
        obtain rfl := List.mem_singleton.mp member
        exact absurd (Json.str.inj (operates.symm.trans proposes)) (by decide)
      exact .inr (projectFrom_placed placed rest)

end CsdFoundry.AlternativeModels

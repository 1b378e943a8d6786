import CsdFoundry.AlternativeModels.Transition

/-! The projection of a whole alternative-model history: what its standing and its active
challenges say about the events. -/
namespace CsdFoundry.AlternativeModels
open Registry
variable {D : Type} [DecidableEq D] [DigestText D] [Sha256 D]

def Operates (name : String) (event : RegistryEvent D) : Prop :=
  event.payload.get "operation" = .str name

/-- The event opens the challenge. -/
def Opens (event : RegistryEvent D) (challengeId : String) : Prop :=
  Operates "CHALLENGE" event ∧ event.payload.get "challenge_id" = .str challengeId

/-- The event resolves the challenge, and upholds the model. -/
def Upholds (event : RegistryEvent D) (challengeId : String) : Prop :=
  Operates "RESOLVE_CHALLENGES" event ∧
    event.payload.get "resolution_outcome" = .str "UPHOLD" ∧
    ∃ items resolvedIds, event.payload.get "resolved_challenge_ids" = .arr items ∧
      strings items = some resolvedIds ∧ challengeId ∈ resolvedIds

/-- What an accepted event after the proposal does to standing and challenges. -/
inductive Moves (before : AlternativeModel D) (event : RegistryEvent D)
    (after : AlternativeModel D) : Prop where
  | admitted (operates : Operates "ADMIT" event) (was : before.separationStatus = .proposed)
      (status : after.separationStatus = .unverified)
      (challenges : after.activeChallenges = before.activeChallenges)
  | confirmed (operates : Operates "CONFIRM" event)
      (was : before.separationStatus.challengeable = true)
      (unchallenged : before.activeChallenges = [])
      (status : after.separationStatus = .confirmed)
  | challenged (challengeId : String) (opens : Opens event challengeId)
      (status : after.separationStatus = before.separationStatus)
      (challenges : ∀ id, id ∈ after.activeChallengeIds ↔
        id ∈ before.activeChallengeIds ∨ id = challengeId)
  | upheld (resolvedIds : List String) (operates : Operates "RESOLVE_CHALLENGES" event)
      (upholds : ∀ id ∈ resolvedIds, Upholds event id)
      (status : after.separationStatus = before.separationStatus)
      (challenges : ∀ id, id ∈ after.activeChallengeIds ↔
        id ∈ before.activeChallengeIds ∧ id ∉ resolvedIds)
  | ended (terminal : after.terminal = true)

variable {before after : AlternativeModel D} {event : RegistryEvent D}
  {events : List (RegistryEvent D)}

theorem admitModel_moves (operates : Operates "ADMIT" event)
    (accepted : admitModel before event = .ok after) : Moves before event after := by
  simp only [admitModel, except_bind_ok, check_ok] at accepted
  obtain ⟨-, was, -, -, authority, -, changed⟩ := accepted
  obtain ⟨-, rfl⟩ := create_ok.mp changed
  exact .admitted operates was rfl rfl

theorem confirm_moves (operates : Operates "CONFIRM" event)
    (accepted : confirm before event = .ok after) : Moves before event after := by
  simp only [confirm, except_bind_ok, check_ok] at accepted
  obtain ⟨-, was, -, unchallenged, -, -, authority, -, changed⟩ := accepted
  obtain ⟨-, rfl⟩ := create_ok.mp changed
  exact .confirmed operates was unchallenged rfl

theorem challenge_moves (operates : Operates "CHALLENGE" event)
    (accepted : challenge before event = .ok after) : Moves before event after := by
  simp only [challenge, except_bind_ok, check_ok] at accepted
  obtain ⟨-, -, -, -, challengeId, named, -, -, challenger, -, reason, -, receipt, -, changed⟩ :=
    accepted
  obtain ⟨-, rfl⟩ := create_ok.mp changed
  refine .challenged challengeId ⟨operates, (requireToken_ok named).1⟩ rfl fun id => ?_
  simp [advanced, AlternativeModel.activeChallengeIds, AlternativeModel.byChallengeId, or_and_right,
    exists_or, eq_comm]

theorem resolveChallenges_moves (operates : Operates "RESOLVE_CHALLENGES" event)
    (accepted : resolveChallenges before event = .ok after) : Moves before event after := by
  simp only [resolveChallenges, except_bind_ok, check_ok] at accepted
  obtain ⟨-, -, -, -, -, -, outcome, named, -, known, resolver, -, receipt, -, basis, -, ids, listed,
    -, -, -, -, changed⟩ := accepted
  split at changed
  · obtain ⟨-, rfl⟩ := create_ok.mp changed
    exact .ended rfl
  · case isFalse other =>
      have upholds : outcome = "UPHOLD" := by simpa [resolutionOutcomes, other] using known
      obtain ⟨items, found, parsed, -⟩ := requiredTokenTuple_ok listed
      obtain ⟨-, rfl⟩ := create_ok.mp changed
      refine .upheld ids operates (fun id member => ⟨operates, ?_, items, ids, found, parsed, member⟩)
        rfl fun id => ?_
      · rw [← upholds]
        exact (requireToken_ok named).1
      · simp only [advanced, AlternativeModel.activeChallengeIds, Option.getD_some, List.mem_map,
          List.mem_filter, decide_eq_true_eq]
        constructor
        · rintro ⟨item, ⟨active, kept⟩, rfl⟩
          exact ⟨⟨item, active, rfl⟩, kept⟩
        · rintro ⟨⟨item, active, rfl⟩, kept⟩
          exact ⟨item, ⟨active, kept⟩, rfl⟩

theorem reject_ends (accepted : reject before event = .ok after) : after.terminal = true := by
  simp only [reject, except_bind_ok, check_ok] at accepted
  obtain ⟨-, -, -, -, authority, -, reason, -, changed⟩ := accepted
  obtain ⟨-, rfl⟩ := create_ok.mp changed
  rfl

theorem expire_ends (accepted : expire before event = .ok after) : after.terminal = true := by
  simp only [expire, except_bind_ok, check_ok] at accepted
  obtain ⟨-, -, -, -, authority, -, receipt, -, rest⟩ := accepted
  cases expires : before.expiresAtSequence with
  | none =>
      rw [expires] at rest
      obtain ⟨done, thrown, -⟩ := except_bind_ok.mp rest
      cases thrown
  | some limit =>
      rw [expires] at rest
      obtain ⟨-, -, changed⟩ := except_bind_ok.mp rest
      obtain ⟨-, rfl⟩ := create_ok.mp changed
      rfl

theorem supersede_ends (accepted : supersede before event = .ok after) :
    after.terminal = true := by
  simp only [supersede, except_bind_ok, check_ok] at accepted
  obtain ⟨-, -, -, -, replacement, -, -, -, authority, -, receipt, -, reason, -, changed⟩ := accepted
  obtain ⟨-, rfl⟩ := create_ok.mp changed
  rfl

theorem operate_moves (operates : Operates name event)
    (accepted : operate name before event = .ok after) : Moves before event after := by
  unfold operate at accepted
  split at accepted
  · cases accepted
  · exact admitModel_moves operates accepted
  · exact confirm_moves operates accepted
  · exact challenge_moves operates accepted
  · exact resolveChallenges_moves operates accepted
  · exact .ended (reject_ends accepted)
  · exact .ended (expire_ends accepted)
  · exact .ended (supersede_ends accepted)
  · cases accepted

theorem reduceAlternativeModel_moves
    (accepted : reduceAlternativeModel (some before) event = .ok after) :
    before.terminal = false ∧ after.postInit = .ok () ∧ Moves before event after := by
  simp only [reduceAlternativeModel, except_bind_ok, check_ok] at accepted
  obtain ⟨-, -, name, operation, done, chained, -, live, operated⟩ := accepted
  obtain ⟨change, changed, -⟩ := operate_ok operated
  obtain ⟨valid, -⟩ := create_ok.mp changed
  obtain ⟨-, rfl⟩ := create_ok.mp changed
  exact ⟨live, valid, operate_moves (requireToken_ok operation).1 operated⟩

theorem reduceAlternativeModel_proposes
    (accepted : reduceAlternativeModel none event = .ok after) :
    Operates "PROPOSE" event ∧ after.postInit = .ok () ∧ after.separationStatus = .proposed := by
  simp only [reduceAlternativeModel, except_bind_ok, check_ok] at accepted
  obtain ⟨-, -, name, operation, done, chained, -, rfl, proposed⟩ := accepted
  simp only [propose, except_bind_ok, check_ok] at proposed
  obtain ⟨-, -, version, -, primary, -, graph, -, difference, -, basis, -, scopes, -, assumptions, -,
    evidence, -, proposer, -, materiality, -, -, -, valid, -, expires, -, -, -, limitations, -, reuse, -,
    -, -, created⟩ := proposed
  obtain ⟨fine, rfl⟩ := create_ok.mp created
  exact ⟨(requireToken_ok operation).1, fine, rfl⟩

/-! ### Whole histories -/

/-- One event comes after another. -/
def Followed (first second : RegistryEvent D → Prop) (events : List (RegistryEvent D)) : Prop :=
  ∃ front earlier middle later back, events = front ++ earlier :: middle ++ later :: back ∧
    first earlier ∧ second later

/-- Every challenge that was opened is still active, or was resolved later and the model
upheld. -/
def Answered (events : List (RegistryEvent D)) (active : List String) : Prop :=
  ∀ front opening back challengeId, events = front ++ opening :: back →
    Opens opening challengeId → challengeId ∈ active ∨ ∃ later ∈ back, Upholds later challengeId

/-- What the projection tells about the history. ADMITTED is the standing of no history. -/
structure Told (events : List (RegistryEvent D)) (m : AlternativeModel D) : Prop where
  valid : m.postInit = .ok ()
  reachable : m.separationStatus ≠ .admitted
  admitted : m.separationStatus.challengeable = true → ∃ event ∈ events, Operates "ADMIT" event
  confirmed : m.separationStatus = .confirmed →
    Followed (Operates "ADMIT") (Operates "CONFIRM") events
  challenges : m.terminal = false → Answered events m.activeChallengeIds

omit [DecidableEq D] [Sha256 D] in
theorem Followed.append {first second : RegistryEvent D → Prop}
    (followed : Followed first second events) : Followed first second (events ++ [event]) := by
  obtain ⟨front, earlier, middle, later, back, rfl, one, two⟩ := followed
  exact ⟨front, earlier, middle, later, back ++ [event], by simp, one, two⟩

omit [DecidableEq D] [Sha256 D] in
theorem Followed.last {first second : RegistryEvent D → Prop}
    (earlier : ∃ event ∈ events, first event) (later : second event) :
    Followed first second (events ++ [event]) := by
  obtain ⟨one, member, holds⟩ := earlier
  obtain ⟨front, middle, rfl⟩ := List.append_of_mem member
  exact ⟨front, one, middle, event, [], by simp, holds, later⟩

omit [DecidableEq D] [Sha256 D] in
theorem split_append {front back : List (RegistryEvent D)} {opening : RegistryEvent D}
    (split : events ++ [event] = front ++ opening :: back) :
    (back = [] ∧ opening = event) ∨ ∃ rest, back = rest ++ [event] ∧ events = front ++ opening :: rest := by
  rcases List.eq_nil_or_concat' back with rfl | ⟨rest, last, rfl⟩
  · obtain ⟨-, same⟩ := List.append_inj' split rfl
    exact .inl ⟨rfl, (List.singleton_inj.mp same).symm⟩
  · rw [← List.cons_append, ← List.append_assoc] at split
    obtain ⟨same, last'⟩ := List.append_inj' split rfl
    obtain rfl := List.singleton_inj.mp last'
    exact .inr ⟨rest, rfl, same⟩

omit [DecidableEq D] [Sha256 D] in
theorem Answered.append {active active' : List String} (answered : Answered events active)
    (kept : ∀ id ∈ active, id ∈ active' ∨ Upholds event id)
    (opened : ∀ id, Opens event id → id ∈ active') : Answered (events ++ [event]) active' := by
  intro front opening back challengeId split opens
  rcases split_append split with ⟨rfl, rfl⟩ | ⟨rest, rfl, same⟩
  · exact .inl (opened challengeId opens)
  · rcases answered front opening rest challengeId same opens with active | ⟨later, member, upholds⟩
    · rcases kept challengeId active with still | upholds
      · exact .inl still
      · exact .inr ⟨event, List.mem_append_right _ (List.mem_singleton_self _), upholds⟩
    · exact .inr ⟨later, List.mem_append_left _ member, upholds⟩

omit [DecidableEq D] [Sha256 D] in
theorem Operates.unique {name name' : String} (one : Operates name event)
    (other : Operates name' event) : name = name' := Json.str.inj (one.symm.trans other)

theorem Told.next (told : Told events before)
    (accepted : reduceAlternativeModel (some before) event = .ok after) :
    Told (events ++ [event]) after := by
  obtain ⟨live, valid, moves⟩ := reduceAlternativeModel_moves accepted
  have answered := told.challenges live
  have keeps : ∀ {p : RegistryEvent D → Prop}, (∃ event ∈ events, p event) →
      ∃ other ∈ events ++ [event], p other := by
    rintro p ⟨other, member, holds⟩
    exact ⟨other, List.mem_append_left _ member, holds⟩
  have last : event ∈ events ++ [event] := List.mem_append_right _ (List.mem_singleton_self _)
  cases moves with
  | admitted operates was status challenges =>
      refine ⟨valid, by simp [status], fun _ => ⟨event, last, operates⟩, by simp [status], fun _ => ?_⟩
      refine answered.append (fun id active => .inl ?_) fun id opens =>
        absurd (operates.unique opens.1) (by decide)
      rwa [AlternativeModel.activeChallengeIds, challenges]
  | confirmed operates was unchallenged status =>
      refine ⟨valid, by simp [status], fun _ => keeps (told.admitted was),
        fun _ => Followed.last (told.admitted was) operates, fun _ => ?_⟩
      refine answered.append (fun id active => ?_) fun id opens =>
        absurd (operates.unique opens.1) (by decide)
      rw [AlternativeModel.activeChallengeIds, unchallenged] at active
      cases active
  | challenged challengeId opens status challenges =>
      refine ⟨valid, status ▸ told.reachable, fun live => keeps (told.admitted (status ▸ live)),
        fun confirmed => (told.confirmed (status ▸ confirmed)).append, fun _ => ?_⟩
      refine answered.append (fun id active => .inl ((challenges id).mpr (.inl active)))
        fun id opens' => (challenges id).mpr (.inr ?_)
      exact Json.str.inj (opens'.2.symm.trans opens.2)
  | upheld resolvedIds operates upholds status challenges =>
      refine ⟨valid, status ▸ told.reachable, fun live => keeps (told.admitted (status ▸ live)),
        fun confirmed => (told.confirmed (status ▸ confirmed)).append, fun _ => ?_⟩
      refine answered.append (fun id active => ?_) fun id opens =>
        absurd (operates.unique opens.1) (by decide)
      by_cases resolved : id ∈ resolvedIds
      · exact .inr (upholds id resolved)
      · exact .inl ((challenges id).mpr ⟨active, resolved⟩)
  | ended terminal =>
      have ends : after.separationStatus.terminal = true := terminal
      refine ⟨valid, ?_, ?_, ?_, fun live => ?_⟩
      · intro admitted
        rw [admitted] at ends
        cases ends
      · intro challengeable
        cases status : after.separationStatus <;> rw [status] at ends challengeable <;>
          first | exact absurd ends (by decide) | exact absurd challengeable (by decide)
      · intro confirmed
        rw [confirmed] at ends
        cases ends
      · rw [terminal] at live
        cases live

theorem projectFrom_told {past : List (RegistryEvent D)} {m : AlternativeModel D}
    (told : Told past before) (accepted : projectFrom (some before) events = .ok (some m)) :
    Told (past ++ events) m := by
  induction events generalizing past before with
  | nil =>
      obtain rfl := Option.some.inj (Except.ok.inj accepted)
      rwa [List.append_nil]
  | cons event events ih =>
      obtain ⟨next, reduced, rest⟩ := except_bind_ok.mp accepted
      have longer := ih (told.next reduced) rest
      rwa [List.append_assoc] at longer

theorem project_told {m : AlternativeModel D}
    (accepted : projectAlternativeModelHistory events = .ok (some m)) : Told events m := by
  cases events with
  | nil => cases Except.ok.inj accepted
  | cons event events =>
      obtain ⟨first, reduced, rest⟩ := except_bind_ok.mp accepted
      obtain ⟨operates, valid, proposed⟩ := reduceAlternativeModel_proposes reduced
      have initially : Told [event] first := by
        refine ⟨valid, by simp [proposed], ?_, by simp [proposed], ?_⟩
        · intro challengeable
          rw [proposed] at challengeable
          cases challengeable
        · intro _ front opening back challengeId split opens
          have sole : opening ∈ [event] := split ▸ List.mem_append_right _ List.mem_cons_self
          obtain rfl := List.mem_singleton.mp sole
          exact absurd (operates.unique opens.1) (by decide)
      exact projectFrom_told initially rest

end CsdFoundry.AlternativeModels

import Mathlib.Data.List.Sort
import CsdFoundry.Assumptions.Transition
import CsdFoundry.Results

/-! The projection of a whole assumption history, and what it says about the events. -/
namespace CsdFoundry.Assumptions
open Registry
variable {D : Type} [DecidableEq D] [DigestText D] [Sha256 D]

/-- The projections of accepted histories, one event at a time. -/
inductive Folds : List (RegistryEvent D) → Assumption D → Prop where
  | proposal (proposes : Proposes event a) : Folds [event] a
  | next (folds : Folds events b) (reduces : Reduces b event a) : Folds (events ++ [event]) a

variable {events : List (RegistryEvent D)} {event : RegistryEvent D} {a b : Assumption D}

theorem projectFrom_folds {past : List (RegistryEvent D)} (folds : Folds past b)
    (accepted : projectFrom (some b) events = .ok (some a)) : Folds (past ++ events) a := by
  induction events generalizing past b with
  | nil =>
      obtain rfl := Option.some.inj (Except.ok.inj accepted)
      rwa [List.append_nil]
  | cons event events ih =>
      obtain ⟨next, reduced, rest⟩ := except_bind_ok.mp accepted
      have longer := ih (folds.next (reduceAssumption_some_ok reduced)) rest
      rwa [List.append_assoc] at longer

theorem project_folds (accepted : projectAssumptionHistory events = .ok (some a)) :
    Folds events a := by
  cases events with
  | nil => cases Except.ok.inj accepted
  | cons event events =>
      obtain ⟨first, reduced, rest⟩ := except_bind_ok.mp accepted
      exact projectFrom_folds (.proposal (reduceAssumption_none_ok reduced)) rest

theorem projectFrom_append {state : Option (Assumption D)} {past : List (RegistryEvent D)} :
    projectFrom state (past ++ events) = .ok result ↔
      ∃ middle, projectFrom state past = .ok middle ∧ projectFrom middle events = .ok result := by
  induction past generalizing state with
  | nil => simp [projectFrom]
  | cons event past ih =>
      simp only [List.cons_append, projectFrom, except_bind_ok, ih]
      constructor
      · rintro ⟨next, reduced, middle, first, second⟩
        exact ⟨middle, ⟨next, reduced, first⟩, second⟩
      · rintro ⟨middle, ⟨next, reduced, first⟩, second⟩
        exact ⟨next, reduced, middle, first, second⟩

/-- The event is one of this assumption's history at its own place: places count up from 1 and
the clock advances. -/
structure Folds.Ordered (events : List (RegistryEvent D)) (a : Assumption D) : Prop where
  entity : ∀ event ∈ events, event.entityId = a.assumptionId
  sequences : events.map (·.entitySequence) = List.range' 1 a.currentEntitySequence
  clocks : (events.map (·.clockSequence)).Pairwise (· < ·)
  last : (events.map (·.clockSequence)).getLast? = some a.lastClockSequence

omit [DigestText D] [Sha256 D] [DecidableEq D] in
theorem proposal_assumptionId (same : a.proposal = b.proposal) : a.assumptionId = b.assumptionId :=
  congrArg Proposal.assumptionId same

theorem Folds.ordered (folds : Folds events a) : Folds.Ordered events a := by
  induction folds with
  | @proposal event a proposes =>
      refine ⟨?_, ?_, List.pairwise_singleton _ _, ?_⟩
      · intro other member
        obtain rfl := List.mem_singleton.mp member
        exact proposes.identity.symm
      · simp [proposes.sequence, proposes.first]
      · simp [proposes.clock]
  | @next events b event a folds reduces ih =>
      have same := proposal_assumptionId reduces.proposal
      refine ⟨?_, ?_, ?_, ?_⟩
      · intro other member
        rcases List.mem_append.mp member with old | new
        · rw [ih.entity other old, same]
        · obtain rfl := List.mem_singleton.mp new
          rw [reduces.identity, same]
      · have next : a.currentEntitySequence = b.currentEntitySequence + 1 :=
          reduces.sequence.trans reduces.successor
        rw [List.map_append, ih.sequences, next, List.range'_concat]
        simp [reduces.successor, Nat.add_comm]
      · rw [List.map_append]
        refine List.pairwise_append.mpr ⟨ih.clocks, List.pairwise_singleton _ _, ?_⟩
        intro earlier member later final
        obtain rfl := List.mem_singleton.mp final
        have bounded : earlier ≤ b.lastClockSequence := by
          -- the clocks are sorted, so none exceeds the last
          obtain ⟨front, split⟩ := List.getLast?_eq_some_iff.mp ih.last
          have sorted := ih.clocks
          rw [split] at sorted member
          rcases List.mem_append.mp member with inFront | isLast
          · exact ((List.pairwise_append.mp sorted).2.2 _ inFront _ (by simp)).le
          · exact (List.mem_singleton.mp isLast).le
        exact lt_of_le_of_lt bounded reduces.advances
      · simp [reduces.clock]

/-- A challenge that an event opened, and that no later event resolves. -/
def Unresolved (events : List (RegistryEvent D)) (opened : AssumptionChallenge D) : Prop :=
  ∃ before event after, events = before ++ event :: after ∧ Opens event opened ∧
    ∀ later ∈ after, ¬ Names later opened.challengeId

omit [DecidableEq D] in
theorem unresolved_concat {opened : AssumptionChallenge D} :
    Unresolved (events ++ [event]) opened ↔
      Opens event opened ∨ (Unresolved events opened ∧ ¬ Names event opened.challengeId) := by
  constructor
  · rintro ⟨before, opening, after, split, opens, unnamed⟩
    rcases List.eq_nil_or_concat after with rfl | ⟨middle, last, rfl⟩
    · obtain ⟨-, rfl⟩ := List.append_inj' split rfl |>.imp id List.singleton_inj.mp
      exact .inl opens
    · have ends : events ++ [event] = (before ++ opening :: middle) ++ [last] := by
        simpa using split
      obtain ⟨rfl, rfl⟩ := List.append_inj' ends rfl |>.imp id List.singleton_inj.mp
      refine .inr ⟨⟨before, opening, middle, rfl, opens, ?_⟩, ?_⟩
      · exact fun later member => unnamed later (by simp [member])
      · exact unnamed event (by simp)
  · rintro (opens | ⟨⟨before, opening, after, rfl, opens, unnamed⟩, spared⟩)
    · exact ⟨events, event, [], rfl, opens, by simp⟩
    · refine ⟨before, opening, after ++ [event], by simp, opens, ?_⟩
      intro later member
      rcases List.mem_append.mp member with old | new
      · exact unnamed later old
      · obtain rfl := List.mem_singleton.mp new
        exact spared

omit [DecidableEq D] [Sha256 D] in
theorem Operates.unique (first : Operates event name) (second : Operates event name') :
    name = name' :=
  Json.str.inj (Eq.trans (Eq.symm first) second)

omit [DecidableEq D] in
theorem Opens.unique {opened other : AssumptionChallenge D} (first : Opens event opened)
    (second : Opens event other) : opened = other := by
  have ids := Json.str.inj (first.id.symm.trans second.id)
  have authorities := Json.str.inj (first.authority.symm.trans second.authority)
  have reasons := Json.str.inj (first.reason.symm.trans second.reason)
  have receipts := Json.str.inj (first.receipt.symm.trans second.receipt)
  have clocks := first.clock.trans second.clock.symm
  have digests := first.digest.trans second.digest.symm
  cases opened
  cases other
  simp_all

theorem strings_mem {items : List Json} (parsed : strings items = some values) :
    .str value ∈ items ↔ value ∈ values := by
  induction items generalizing values with
  | nil =>
      cases parsed
      simp
  | cons item items ih =>
      cases item with
      | str text =>
          obtain ⟨rest, tail, rfl⟩ := Option.map_eq_some_iff.mp parsed
          simp [ih tail]
      | null | bool _ | int _ | arr _ | obj _ => cases parsed

omit [DecidableEq D] in
theorem Opens.spares {opened : AssumptionChallenge D} (opens : Opens event opened) :
    ¬ Names event challengeId := fun names =>
  absurd (opens.operation.unique names.1) (by decide)

omit [DecidableEq D] in
/-- An operation of another name neither opens nor resolves. -/
theorem quiet_step {c : AssumptionChallenge D} (operation : Operates event name)
    (other : name ≠ "CHALLENGE") (other' : name ≠ "RESOLVE_CHALLENGES") :
    Unresolved (events ++ [event]) c ↔ Unresolved events c := by
  have closed : ¬ Opens event c := fun opens => other (operation.unique opens.operation)
  have silent : ¬ Names event c.challengeId := fun names => other' (operation.unique names.1)
  rw [unresolved_concat]
  simp [closed, silent]

omit [DecidableEq D] in
/-- What one event does to the open challenges, as long as the assumption is live. -/
theorem Transition.unresolved {standing : Standing} {challenges : List (AssumptionChallenge D)}
    (transition : Transition b event standing challenges)
    (exact_ : ∀ c, c ∈ b.activeChallenges ↔ Unresolved events c)
    (live : standing.terminal = false) (c : AssumptionChallenge D) :
    c ∈ challenges ↔ Unresolved (events ++ [event]) c := by
  cases transition with
  | admission operation was =>
      rw [quiet_step operation (by decide) (by decide)]
      exact exact_ c
  | confirmation operation was quiet =>
      rw [quiet_step operation (by decide) (by decide)]
      exact exact_ c
  | @challenge opened opens was fresh =>
      have only : Opens event c ↔ c = opened :=
        ⟨fun also => also.unique opens, fun same => same ▸ opens⟩
      rw [unresolved_concat, only, ← exact_ c]
      simp [Assumption.byChallengeId, opens.spares, or_comm]
  | @resolution outcome items ids operation was decided listed parsed named known =>
      have closed : ¬ Opens event c := fun opens =>
        absurd (operation.unique opens.operation) (by decide)
      have names : Names event c.challengeId ↔ c.challengeId ∈ ids := by
        constructor
        · rintro ⟨-, items', listed', member⟩
          obtain rfl := Json.arr.inj (listed.symm.trans listed')
          exact (strings_mem parsed).mp member
        · exact fun member => ⟨operation, items, listed, (strings_mem parsed).mpr member⟩
      rw [unresolved_concat, names, ← exact_ c]
      simp [live, closed]
  | closing operation terminal =>
      rw [live] at terminal
      cases terminal

omit [DecidableEq D] in
theorem Transition.closed {standing : Standing} {challenges : List (AssumptionChallenge D)}
    (transition : Transition b event standing challenges) (live : b.terminal = false)
    (terminal : standing.terminal = true) : challenges = [] := by
  cases transition with
  | admission => cases terminal
  | confirmation => cases terminal
  | challenge =>
      unfold Assumption.terminal at live
      rw [live] at terminal
      cases terminal
  | resolution => simp [terminal]
  | closing => rfl

theorem Folds.unresolved (folds : Folds events a) :
    (a.terminal = false → ∀ c, c ∈ a.activeChallenges ↔ Unresolved events c) ∧
      (a.terminal = true → a.activeChallenges = []) := by
  induction folds with
  | @proposal event a proposes =>
      refine ⟨fun _ c => ?_, fun _ => proposes.challenges⟩
      have none_ : ¬ Unresolved [event] c := by
        have concat : Unresolved ([] ++ [event]) c ↔ Unresolved [] c :=
          quiet_step proposes.operation (by decide) (by decide)
        rw [List.nil_append] at concat
        rw [concat]
        rintro ⟨before, opening, after, split, -⟩
        simp at split
      simp [proposes.challenges, none_]
  | @next events b event a folds reduces ih =>
      refine ⟨fun live c => ?_, fun terminal => ?_⟩
      · exact reduces.transition.unresolved (ih.1 reduces.live) live c
      · exact reduces.transition.closed reduces.live terminal

omit [Sha256 D] in
/-- What the checks of `__post_init__` say of the challenges. -/
theorem postInit_challenges (valid : a.postInit = .ok ()) :
    a.activeChallengeIds.Nodup ∧ (a.activeChallenges = [] ∨ a.standing.active = true) := by
  simp only [Assumption.postInit, except_bind_ok, check_ok] at valid
  obtain ⟨-, -, -, -, -, -, -, -, -, -, -, -, -, -, -, -, -, -, -, -, -, -, -, -, -, -, -, -, -,
    -, done, challenges, -⟩ := valid
  simp only [Assumption.checkChallenges, except_bind_ok, check_ok] at challenges
  obtain ⟨-, -, -, distinct, standing⟩ := challenges
  exact ⟨distinct, standing⟩

theorem Folds.valid (folds : Folds events a) : a.postInit = .ok () := by
  cases folds with
  | proposal proposes => exact proposes.valid
  | next folds reduces => exact reduces.valid

theorem Standing.active_iff {standing : Standing} :
    standing.active = true ↔ standing = .admitted ∨ standing = .confirmed := by
  cases standing <;> simp [Standing.active]

omit [DecidableEq D] in
/-- The ways into CONFIRMED. -/
theorem Transition.confirms {challenges : List (AssumptionChallenge D)}
    (transition : Transition b event .confirmed challenges) (was : b.standing ≠ .confirmed) :
    (Operates event "CONFIRM" ∧ b.activeChallenges = []) ∨
      (Operates event "RESOLVE_CHALLENGES" ∧
        event.payload.get "resolution_outcome" = .str "CONFIRM" ∧
        ∃ id ∈ b.activeChallengeIds, Names event id) := by
  generalize target : Standing.confirmed = standing at transition
  cases transition with
  | admission => cases target
  | confirmation operation before quiet => exact .inl ⟨operation, quiet⟩
  | challenge => exact absurd target.symm was
  | @resolution outcome items ids operation active decided listed parsed named known =>
      have confirms : outcome = "CONFIRM" := by
        by_contra other
        unfold resolutionStanding at target
        split at target
        · cases target
        · split at target
          · cases target
          · cases target
      subst confirms
      obtain ⟨id, member⟩ := List.exists_mem_of_ne_nil ids named
      exact .inr ⟨operation, decided, id, known id member, operation, items, listed,
        (strings_mem parsed).mpr member⟩
  | closing operation terminal =>
      subst target
      cases terminal

omit [DecidableEq D] in
/-- PROPOSED is left for good, by an ADMIT only from it. -/
theorem Transition.left {standing : Standing} {challenges : List (AssumptionChallenge D)}
    (transition : Transition b event standing challenges) :
    standing ≠ .proposed ∧ (Operates event "ADMIT" → b.standing = .proposed) := by
  cases transition with
  | admission operation was => exact ⟨by decide, fun _ => was⟩
  | confirmation operation was quiet =>
      exact ⟨by decide, fun operates => absurd (operation.unique operates) (by decide)⟩
  | challenge opens was fresh =>
      refine ⟨?_, fun operates => absurd (opens.operation.unique operates) (by decide)⟩
      intro proposed
      rw [proposed] at was
      cases was
  | resolution operation was outcome listed parsed named known =>
      refine ⟨?_, fun operates => absurd (operation.unique operates) (by decide)⟩
      unfold resolutionStanding
      split <;> try split <;> try split
      all_goals decide
  | closing operation terminal =>
      constructor
      · rintro rfl
        cases terminal
      · intro operates
        rcases operation with rejects | expires | supersedes
        · exact absurd (rejects.unique operates) (by decide)
        · exact absurd (expires.unique operates) (by decide)
        · exact absurd (supersedes.unique operates) (by decide)

/-- Where an assumption stands in its history: PROPOSED at the first event only. -/
structure Folds.Placed (events : List (RegistryEvent D)) (a : Assumption D) : Prop where
  last : ∃ event, events.getLast? = some event ∧
    a.currentEntitySequence = event.entitySequence ∧ a.currentEventDigest = event.digest
  proposed : a.standing = .proposed → a.currentEntitySequence = 1
  second : ∀ event ∈ events, Operates event "ADMIT" → event.entitySequence = 2

theorem Folds.placed (folds : Folds events a) : Folds.Placed events a := by
  induction folds with
  | @proposal event a proposes =>
      refine ⟨⟨event, rfl, proposes.sequence, proposes.digest⟩,
        fun _ => proposes.sequence.trans proposes.first, ?_⟩
      intro other member operates
      obtain rfl := List.mem_singleton.mp member
      exact absurd (proposes.operation.unique operates) (by decide)
  | @next events b event a folds reduces ih =>
      obtain ⟨left, admission⟩ := reduces.transition.left
      refine ⟨⟨event, by simp, reduces.sequence, reduces.digest⟩,
        fun proposed => absurd proposed left, ?_⟩
      intro other member operates
      rcases List.mem_append.mp member with old | new
      · exact ih.second other old operates
      · obtain rfl := List.mem_singleton.mp new
        rw [reduces.successor, ih.proposed (admission operates)]

/-- A state is never lost once the first event has been accepted. -/
theorem projectFrom_some (accepted : projectFrom (some b) events = .ok result) :
    ∃ a, result = some a := by
  induction events generalizing b with
  | nil => exact ⟨b, (Except.ok.inj accepted).symm⟩
  | cons event events ih =>
      obtain ⟨next, -, rest⟩ := except_bind_ok.mp accepted
      exact ih rest

theorem project_some {result : Option (Assumption D)}
    (accepted : projectAssumptionHistory events = .ok result) :
    (events = [] ∧ result = none) ∨ ∃ a, result = some a ∧ Folds events a := by
  cases events with
  | nil => exact .inl ⟨rfl, (Except.ok.inj accepted).symm⟩
  | cons event events =>
      obtain ⟨first, reduced, rest⟩ := except_bind_ok.mp accepted
      obtain ⟨a, rfl⟩ := projectFrom_some rest
      exact .inr ⟨a, rfl, project_folds accepted⟩

/-- The proposal of an accepted history is that of each of its beginnings. -/
theorem projectFrom_proposal (accepted : projectFrom (some b) events = .ok (some a)) :
    a.proposal = b.proposal := by
  induction events generalizing b with
  | nil =>
      obtain rfl := Option.some.inj (Except.ok.inj accepted)
      rfl
  | cons event events ih =>
      obtain ⟨next, reduced, rest⟩ := except_bind_ok.mp accepted
      rw [ih rest, (reduceAssumption_some_ok reduced).proposal]

/-- The lifecycle of every accepted history. -/
theorem lifecycle_fold (accepted : projectAssumptionHistory events = .ok (some a)) :
    (a.terminal = true → ∀ event, ∃ code, reduceAssumption (some a) event = .error code) ∧
    (∀ before after, events = before ++ after → before ≠ [] →
      ∃ b, projectAssumptionHistory before = .ok (some b) ∧ a.proposal = b.proposal) ∧
    (∀ event ∈ events, event.entityId = a.assumptionId) ∧
    events.map (·.entitySequence) = List.range' 1 events.length ∧
    a.currentEntitySequence = events.length ∧
    (events.map (·.clockSequence)).Pairwise (· < ·) ∧
    (events.map (·.clockSequence)).getLast? = some a.lastClockSequence ∧
    (∀ c, c ∈ a.activeChallenges ↔ a.terminal = false ∧ Unresolved events c) ∧
    a.activeChallengeIds.Nodup ∧
    (a.activeChallenges ≠ [] → a.standing = .admitted ∨ a.standing = .confirmed) ∧
    (∀ before event after b b', events = before ++ event :: after →
      projectAssumptionHistory before = .ok (some b) → reduceAssumption (some b) event = .ok b' →
      b'.standing = .confirmed → b.standing ≠ .confirmed →
      (Operates event "CONFIRM" ∧ b.activeChallenges = []) ∨
      (Operates event "RESOLVE_CHALLENGES" ∧
        event.payload.get "resolution_outcome" = .str "CONFIRM" ∧
        ∃ id ∈ b.activeChallengeIds, Names event id)) := by
  have folds := project_folds accepted
  have ordered := folds.ordered
  have challenges := postInit_challenges folds.valid
  have length : a.currentEntitySequence = events.length := by
    have counted := congrArg List.length ordered.sequences
    simpa using counted.symm
  refine ⟨?_, ?_, ordered.entity, length ▸ ordered.sequences, length, ordered.clocks,
    ordered.last, ?_, challenges.1, ?_, ?_⟩
  · intro terminal event
    cases reduced : reduceAssumption (some a) event with
    | error code => exact ⟨code, rfl⟩
    | ok after =>
        have live := (reduceAssumption_some_ok reduced).live
        rw [terminal] at live
        cases live
  · rintro before after rfl nonempty
    obtain ⟨middle, first, second⟩ := projectFrom_append.mp accepted
    cases middle with
    | some b => exact ⟨b, first, projectFrom_proposal second⟩
    | none =>
        cases before with
        | nil => exact absurd rfl nonempty
        | cons event before =>
            obtain ⟨b, -, rest⟩ := except_bind_ok.mp first
            obtain ⟨c, same⟩ := projectFrom_some rest
            cases same
  · intro c
    cases terminal : a.terminal with
    | false => simp [folds.unresolved.1 terminal c]
    | true => simp [folds.unresolved.2 terminal]
  · intro nonempty
    exact Standing.active_iff.mp (challenges.2.resolve_left nonempty)
  · intro before event after b b' _ _ reduced confirmed was
    have transition := (reduceAssumption_some_ok reduced).transition
    rw [confirmed] at transition
    exact transition.confirms was

/-! A history that opens two challenges and resolves one of them with a confirmation. -/
section Sample

theorem sampleToken_a : Temporal.schemaToken "a" = true := by decide

theorem sampleToken_b : Temporal.schemaToken "b" = true := by decide

theorem sampleReceipt_digest : schemaDigest (List Nat) "sha256:receipt" = true := by decide

theorem payloadSchemaVersion_token : Temporal.schemaToken payloadSchemaVersion = true := by decide

def sampleEvent (place : Nat) (previous : Option (List Nat)) (payload : JsonObject) :
    RegistryEvent (List Nat) where
  registryType := .assumption
  entityId := "a"
  entitySequence := place + 1
  previousEntityEventDigest := previous
  clockSequence := place + 1
  projectionPhase := .assumptionRegistry
  sourceReceiptDigest := "sha256:receipt"
  payloadSchemaVersion := payloadSchemaVersion
  payload := payload
  token := sampleToken_a
  positive := Nat.succ_pos place
  clock := Nat.succ_pos place
  sourced := sampleReceipt_digest
  version := payloadSchemaVersion_token

def sampleProposal (dependencies : List String) : JsonObject :=
  [("assumption_dependency_ids", .arr (dependencies.map .str)), ("evidence_dependency_ids", .arr []),
    ("expires_at_sequence", .null), ("limitations", .arr []), ("materiality", .str "MATERIAL"),
    ("maximum_reuse_class", .str "D1"), ("operation", .str "PROPOSE"),
    ("proposed_at_sequence", .int 1), ("proposer_authority_id", .str "proposer"),
    ("proposition_id", .str "p"), ("scope_ids", .arr [.str "scope"]),
    ("valid_from_sequence", .int 1)]

def sampleChallenge (challengeId : String) : JsonObject :=
  [("challenge_id", .str challengeId), ("challenge_reason_code", .str "reason"),
    ("challenge_receipt_digest", .str "sha256:challenge"),
    ("challenger_authority_id", .str "challenger"), ("operation", .str "CHALLENGE")]

/-- Events with these payloads, each citing the one before. -/
def sampleChain : List JsonObject → Nat → Option (List Nat) → List (RegistryEvent (List Nat))
  | [], _, _ => []
  | payload :: payloads, place, previous =>
      let event := sampleEvent place previous payload
      event :: sampleChain payloads (place + 1) (some event.digest)

def sampleHistory : List (RegistryEvent (List Nat)) :=
  sampleChain [sampleProposal [],
    [("admission_receipt_digest", .str "sha256:admission"),
      ("admitting_authority_id", .str "admitting"), ("operation", .str "ADMIT")],
    sampleChallenge "first", sampleChallenge "second",
    [("operation", .str "RESOLVE_CHALLENGES"), ("replacement_assumption_id", .null),
      ("resolution_basis_code", .str "basis"), ("resolution_outcome", .str "CONFIRM"),
      ("resolution_receipt_digest", .str "sha256:resolution"),
      ("resolved_challenge_ids", .arr [.str "first"]),
      ("resolver_authority_id", .str "resolver")]] 0 none

set_option maxRecDepth 100000 in
theorem lifecycle_fold_sample : ∃ a, projectAssumptionHistory sampleHistory = .ok (some a) ∧
    a.standing = .confirmed ∧ a.activeChallengeIds = ["second"] ∧
    ∀ c, c ∈ a.activeChallenges ↔ a.terminal = false ∧ Unresolved sampleHistory c := by
  have accepted : ∃ a, projectAssumptionHistory sampleHistory = .ok (some a) ∧
      a.standing = .confirmed ∧ a.activeChallengeIds = ["second"] := by
    have summary : (projectAssumptionHistory sampleHistory).toOption.join.map (fun a =>
        decide (a.standing = .confirmed ∧ a.activeChallengeIds = ["second"])) = some true := by
      decide +kernel
    obtain ⟨a, projected, passes⟩ := Results.ok_some_of_join summary
    exact ⟨a, projected, of_decide_eq_true passes⟩
  obtain ⟨a, projected, standing, ids⟩ := accepted
  obtain ⟨-, -, -, -, -, -, -, challenges, -⟩ := lifecycle_fold projected
  exact ⟨a, projected, standing, ids, challenges⟩

end Sample
end CsdFoundry.Assumptions

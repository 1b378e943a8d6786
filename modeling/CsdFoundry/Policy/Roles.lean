import CsdFoundry.Assumptions.History
import CsdFoundry.Policy.Contracts

/-! The governance roles that an authority took in the history of an assumption. -/
namespace CsdFoundry.Policy
open Assumptions (Assumption Reduces Folds reduceAssumption projectFrom projectAssumptionHistory)
open Registry (RegistryEvent requiredToken requireToken except_bind_ok check_ok)
open Temporal (isToken)
variable {D : Type} [DecidableEq D] [DigestText D] [Sha256 D]

/-- `_OPERATION_TO_ROLE`: the field that names the authority, and its role. -/
def operationRole : String → Option (String × GovernanceRole)
  | "PROPOSE" => some ("proposer_authority_id", .proposer)
  | "ADMIT" => some ("admitting_authority_id", .admitter)
  | "CONFIRM" => some ("confirming_authority_id", .confirmer)
  | "CHALLENGE" => some ("challenger_authority_id", .challenger)
  | "RESOLVE_CHALLENGES" => some ("resolver_authority_id", .resolver)
  | "REJECT" => some ("rejecting_authority_id", .rejector)
  | "EXPIRE" => some ("expiry_authority_id", .expiryAuthority)
  | "SUPERSEDE" => some ("superseding_authority_id", .superseder)
  | _ => none

def requiredStr (payload : JsonObject) (field code : String) : Except PolicyError String :=
  match payload.get field with
  | .str value => if value = "" then .error (.governance code) else .ok value
  | _ => .error (.governance code)

/-- `_require_assumption_envelope`; the type fixes the envelope version and the digest. -/
def requireAssumptionEnvelope (event : RegistryEvent D) : Except PolicyError Unit := do
  require (event.projectionPhase = .assumptionRegistry)
    (.governance "ASSUMPTION_ROLE_DERIVATION_REGISTRY_PHASE_INVALID")
  require (event.payloadSchemaVersion = Assumptions.payloadSchemaVersion)
    (.governance "ASSUMPTION_ROLE_DERIVATION_PAYLOAD_SCHEMA_UNSUPPORTED")

/-- `derive_assumption_governance_role`: the authority and the role of the fact, after the checks
of its constructor. -/
def deriveAssumptionGovernanceRole (event : RegistryEvent D) :
    Except PolicyError (String × GovernanceRole) := do
  requireAssumptionEnvelope event
  let operation ← requiredStr event.payload "operation"
    "ASSUMPTION_ROLE_DERIVATION_OPERATION_MISSING"
  match operationRole operation with
  | none => throw (.governance "ASSUMPTION_ROLE_DERIVATION_OPERATION_UNSUPPORTED")
  | some (authorityField, role) =>
      let authorityId ← requiredStr event.payload authorityField
        "ASSUMPTION_ROLE_DERIVATION_AUTHORITY_MISSING"
      require (isToken event.entityId = true)
        (.governance "ASSUMPTION_ROLE_FACT_ASSUMPTION_ID_INVALID")
      require (isToken authorityId = true) (.governance "ASSUMPTION_ROLE_FACT_AUTHORITY_ID_INVALID")
      return (authorityId, role)

/-- The replay loop of `derive_prior_governance_roles`. -/
def replayHistory : Option String → Option (Assumption D) → List (RegistryEvent D) →
    Except PolicyError Unit
  | _, _, [] => .ok ()
  | assumptionId, state, event :: rest => do
      requireAssumptionEnvelope event
      require (∀ known ∈ assumptionId, event.entityId = known)
        (.governance "ASSUMPTION_ROLE_DERIVATION_HISTORY_IDENTITY_MIXED")
      let next ← (reduceAssumption state event).mapError PolicyError.assumption
      replayHistory (some event.entityId) (some next) rest

/-- The derivation loop: the roles of the authority before the candidate. -/
def observedRoles (candidateEntitySequence : Nat) (authorityId : String) :
    List (RegistryEvent D) → Except PolicyError (List GovernanceRole)
  | [] => .ok []
  | event :: rest =>
      if candidateEntitySequence ≤ event.entitySequence then .ok []
      else do
        let (actor, role) ← deriveAssumptionGovernanceRole event
        let observed ← observedRoles candidateEntitySequence authorityId rest
        return if actor = authorityId then role :: observed else observed

/-- `_ordered_roles`, and the order of `derive_prior_governance_roles`. -/
def orderedRoles (among : GovernanceRole → Bool) : List GovernanceRole :=
  GovernanceRole.all.filter among

@[simp] theorem mem_orderedRoles {among : GovernanceRole → Bool} {role : GovernanceRole} :
    role ∈ orderedRoles among ↔ among role = true := by
  simp [orderedRoles, GovernanceRole.mem_all]

def derivePriorGovernanceRoles (history : List (RegistryEvent D)) (candidateEntitySequence : Nat)
    (authorityId : String) : Except PolicyError (List GovernanceRole) := do
  require (1 ≤ candidateEntitySequence)
    (.governance "ASSUMPTION_ROLE_DERIVATION_CANDIDATE_SEQUENCE_INVALID")
  require (isToken authorityId = true)
    (.governance "ASSUMPTION_ROLE_DERIVATION_AUTHORITY_ID_INVALID")
  match history.getLast? with
  | none =>
      require (candidateEntitySequence = 1)
        (.governance "ASSUMPTION_ROLE_DERIVATION_HISTORY_EMPTY")
      return []
  | some head =>
      replayHistory none none history
      require (candidateEntitySequence ≤ head.entitySequence + 1)
        (.governance "ASSUMPTION_ROLE_DERIVATION_CANDIDATE_BEYOND_HISTORY")
      let observed ← observedRoles candidateEntitySequence authorityId history
      return orderedRoles fun role => role ∈ observed

/-! ### The roles of a valid history -/

/-- The event is an operation of this role, by this authority. -/
def Performs (event : RegistryEvent D) (actor : String) (role : GovernanceRole) : Prop :=
  ∃ operation field, event.payload.get "operation" = .str operation ∧
    operationRole operation = some (field, role) ∧ event.payload.get field = .str actor

omit [DecidableEq D] [DigestText D] [Sha256 D] in
theorem token_ne_empty {value : String} (token : isToken value = true) : value ≠ "" := by
  rintro rfl
  exact absurd token (by decide)

theorem requiredStr_ok {payload : JsonObject} {field code value : String}
    (found : payload.get field = .str value) (token : isToken value = true) :
    requiredStr payload field code = .ok value := by
  rw [requiredStr, found]
  exact if_neg (token_ne_empty token)

/-- An operation whose authority the lifecycle has read. -/
structure Authorised (event : RegistryEvent D) (actor : String) (role : GovernanceRole) : Prop where
  performs : Performs event actor role
  actor : isToken actor = true
  phase : event.projectionPhase = .assumptionRegistry
  schema : event.payloadSchemaVersion = Assumptions.payloadSchemaVersion

theorem operate_performs {previous after : Assumption D} {event : RegistryEvent D}
    {operation : String} (named : event.payload.get "operation" = .str operation)
    (accepted : Assumptions.operate operation previous event = .ok after) :
    ∃ actor role, Performs event actor role ∧ isToken actor = true := by
  have reads : ∀ {field code actor role},
      requiredToken event.payload field code = .ok actor →
      operationRole operation = some (field, role) →
      ∃ actor role, Performs event actor role ∧ isToken actor = true := by
    intro field code actor role read listed
    obtain ⟨found, token⟩ := Registry.requireToken_ok read
    exact ⟨actor, role, ⟨operation, field, named, listed, found⟩, token⟩
  unfold Assumptions.operate at accepted
  split at accepted
  case h_1 => cases accepted
  case h_2 =>
    simp only [Assumptions.admitAssumption, except_bind_ok, check_ok] at accepted
    obtain ⟨-, -, -, -, actor, read, -⟩ := accepted
    exact reads read rfl
  case h_3 =>
    simp only [Assumptions.confirm, except_bind_ok, check_ok] at accepted
    obtain ⟨-, -, -, -, -, -, actor, read, -⟩ := accepted
    exact reads read rfl
  case h_4 =>
    simp only [Assumptions.challenge, except_bind_ok, check_ok] at accepted
    obtain ⟨-, -, -, -, -, -, -, -, actor, read, -⟩ := accepted
    exact reads read rfl
  case h_5 =>
    simp only [Assumptions.resolveChallenges, except_bind_ok, check_ok] at accepted
    obtain ⟨-, -, -, -, -, -, -, -, -, -, actor, read, -⟩ := accepted
    exact reads read rfl
  case h_6 =>
    simp only [Assumptions.reject, except_bind_ok, check_ok] at accepted
    obtain ⟨-, -, -, -, actor, read, -⟩ := accepted
    exact reads read rfl
  case h_7 =>
    simp only [Assumptions.expire, except_bind_ok, check_ok] at accepted
    obtain ⟨-, -, -, -, actor, read, -⟩ := accepted
    exact reads read rfl
  case h_8 =>
    simp only [Assumptions.supersede, except_bind_ok, check_ok] at accepted
    obtain ⟨-, -, -, -, -, -, -, -, actor, read, -⟩ := accepted
    exact reads read rfl
  case h_9 => cases accepted

/-- An event that the lifecycle accepts has its role, whatever it changes. -/
theorem reduceAssumption_authorised {previous : Option (Assumption D)} {after : Assumption D}
    {event : RegistryEvent D} (accepted : reduceAssumption previous event = .ok after) :
    ∃ actor role, Authorised event actor role := by
  have whole := accepted
  rw [reduceAssumption, except_bind_ok] at accepted
  obtain ⟨_, checked, accepted⟩ := accepted
  obtain ⟨operation, read, accepted⟩ := except_bind_ok.mp accepted
  obtain ⟨_, -, accepted⟩ := except_bind_ok.mp accepted
  have named := (Registry.requireToken_ok read).1
  rw [Assumptions.eventValue] at checked
  simp only [except_bind_ok, check_ok] at checked
  obtain ⟨_, -, _, phase, schema⟩ := checked
  suffices performs : ∃ actor role, Performs event actor role ∧ isToken actor = true by
    obtain ⟨actor, role, performs, token⟩ := performs
    exact ⟨actor, role, performs, token, phase, schema⟩
  cases previous with
  | none =>
      simp only [except_bind_ok, check_ok, Assumptions.propose] at accepted
      obtain ⟨-, rfl, -, -, -, -, -, -, -, -, -, -, -, -, -, -, actor, proposer, -⟩ := accepted
      obtain ⟨found, token⟩ := Registry.requireToken_ok proposer
      exact ⟨actor, .proposer, ⟨_, _, named, rfl, found⟩, token⟩
  | some previous =>
      obtain ⟨_, -, operated⟩ := except_bind_ok.mp accepted
      exact operate_performs named operated

omit [DecidableEq D] [Sha256 D] in
theorem Performs.unique {event : RegistryEvent D} {actor other : String}
    {role second : GovernanceRole} (performs : Performs event actor role)
    (again : Performs event other second) : actor = other ∧ role = second := by
  obtain ⟨operation, field, named, listed, found⟩ := performs
  obtain ⟨operation', field', named', listed', found'⟩ := again
  obtain rfl := Json.str.inj (named.symm.trans named')
  obtain ⟨rfl, rfl⟩ := Prod.mk.inj (Option.some.inj (listed.symm.trans listed'))
  exact ⟨Json.str.inj (found.symm.trans found'), rfl⟩

omit [DecidableEq D] [Sha256 D] in
theorem requireAssumptionEnvelope_ok {event : RegistryEvent D} :
    requireAssumptionEnvelope event = .ok () ↔ event.projectionPhase = .assumptionRegistry ∧
      event.payloadSchemaVersion = Assumptions.payloadSchemaVersion := by
  rw [requireAssumptionEnvelope, require_bind_ok, require_ok]

omit [DecidableEq D] [Sha256 D] in
theorem deriveAssumptionGovernanceRole_ok {event : RegistryEvent D} {actor : String}
    {role : GovernanceRole} (authorised : Authorised event actor role)
    (named : isToken event.entityId = true) :
    deriveAssumptionGovernanceRole event = .ok (actor, role) := by
  obtain ⟨operation, field, operates, listed, found⟩ := authorised.performs
  have token : operation ≠ "" := by
    rintro rfl
    cases listed
  rw [deriveAssumptionGovernanceRole, bind_ok]
  refine ⟨(), requireAssumptionEnvelope_ok.mpr ⟨authorised.phase, authorised.schema⟩, ?_⟩
  rw [bind_ok]
  refine ⟨operation, ?_, ?_⟩
  · rw [requiredStr, operates]
    exact if_neg token
  · rw [listed]
    simp only
    rw [bind_ok]
    refine ⟨actor, requiredStr_ok found authorised.actor, ?_⟩
    rw [require_bind_ok, require_bind_ok]
    exact ⟨named, authorised.actor, rfl⟩

theorem projectFrom_authorised {state result : Option (Assumption D)}
    {events : List (RegistryEvent D)} (accepted : projectFrom state events = .ok result) :
    ∀ event ∈ events, ∃ actor role, Authorised event actor role := by
  induction events generalizing state with
  | nil =>
      intro event member
      cases member
  | cons first rest ih =>
      obtain ⟨next, reduced, remaining⟩ := except_bind_ok.mp accepted
      intro event member
      rcases List.mem_cons.mp member with rfl | later
      · exact reduceAssumption_authorised reduced
      · exact ih remaining event later

theorem replayHistory_ok {known : Option String} {common : String}
    {state result : Option (Assumption D)} {events : List (RegistryEvent D)}
    (accepted : projectFrom state events = .ok result)
    (same : ∀ event ∈ events, event.entityId = common) (before : ∀ id ∈ known, id = common) :
    replayHistory known state events = .ok () := by
  induction events generalizing known state with
  | nil => rfl
  | cons first rest ih =>
      obtain ⟨next, reduced, remaining⟩ := except_bind_ok.mp accepted
      obtain ⟨actor, role, authorised⟩ := reduceAssumption_authorised reduced
      have here := same first List.mem_cons_self
      rw [replayHistory, bind_ok]
      refine ⟨(), requireAssumptionEnvelope_ok.mpr ⟨authorised.phase, authorised.schema⟩, ?_⟩
      rw [require_bind_ok, reduced]
      refine ⟨fun id given => here.trans (before id given).symm, ?_⟩
      apply ih remaining fun event later => same event (List.mem_cons_of_mem _ later)
      intro id given
      rw [← Option.some.inj given, here]

omit [DecidableEq D] [Sha256 D] in
theorem observedRoles_ok {candidateEntitySequence : Nat} {authorityId : String}
    {events : List (RegistryEvent D)}
    (authorised : ∀ event ∈ events, ∃ actor role, Authorised event actor role)
    (named : ∀ event ∈ events, isToken event.entityId = true)
    (ascending : events.Pairwise fun a b => a.entitySequence < b.entitySequence) :
    ∃ observed, observedRoles candidateEntitySequence authorityId events = .ok observed ∧
      ∀ role, role ∈ observed ↔ ∃ event ∈ events,
        event.entitySequence < candidateEntitySequence ∧ Performs event authorityId role := by
  induction events with
  | nil => exact ⟨[], rfl, by simp⟩
  | cons first rest ih =>
      obtain ⟨later, ascending⟩ := List.pairwise_cons.mp ascending
      rw [observedRoles]
      by_cases stops : candidateEntitySequence ≤ first.entitySequence
      · refine ⟨[], if_pos stops, ?_⟩
        intro role
        constructor
        · intro none
          cases none
        · rintro ⟨event, member, prior, -⟩
          rcases List.mem_cons.mp member with rfl | after
          · omega
          · have order := later event after
            omega
      · rw [if_neg stops]
        obtain ⟨observed, walked, exact_roles⟩ :=
          ih (fun event member => authorised event (List.mem_cons_of_mem _ member))
            (fun event member => named event (List.mem_cons_of_mem _ member)) ascending
        obtain ⟨actor, performed, does⟩ := authorised first List.mem_cons_self
        have derived := deriveAssumptionGovernanceRole_ok does (named first List.mem_cons_self)
        refine ⟨if actor = authorityId then performed :: observed else observed,
          bind_ok.mpr ⟨_, derived, bind_ok.mpr ⟨observed, walked, rfl⟩⟩, ?_⟩
        intro role
        have here : (actor = authorityId ∧ role = performed) ↔ Performs first authorityId role := by
          constructor
          · rintro ⟨rfl, rfl⟩
            exact does.performs
          · intro performs
            obtain ⟨same, role⟩ := does.performs.unique performs
            exact ⟨same, role.symm⟩
        have prior : first.entitySequence < candidateEntitySequence := by omega
        simp only [List.mem_cons, exists_eq_or_imp, ← exact_roles, prior, true_and, ← here]
        split
        · rename_i mine
          simp [mine]
        · rename_i other
          simp [other]

/-- The position of the last event. -/
def headSequence (history : List (RegistryEvent D)) : Nat :=
  (history.getLast?.map (·.entitySequence)).getD 0

omit [DecidableEq D] [Sha256 D] in
theorem headSequence_within {history : List (RegistryEvent D)} {position : Nat} :
    position ≤ headSequence history + 1 ↔ (history = [] → position ≤ 1) ∧
      ∀ head, history.getLast? = some head → position ≤ head.entitySequence + 1 := by
  unfold headSequence
  cases located : history.getLast? with
  | none => simp [List.getLast?_eq_none_iff.mp located]
  | some head =>
      have begun : history ≠ [] := by
        rintro rfl
        cases located
      simp [begun]

/-- Before a candidate of an accepted history the authority has the roles of the operations it
performed, in their order. -/
theorem derivePriorGovernanceRoles_accepted {history : List (RegistryEvent D)}
    {state : Option (Assumption D)} {candidateEntitySequence : Nat} {authorityId : String}
    (accepted : projectAssumptionHistory history = .ok state)
    (candidate : 1 ≤ candidateEntitySequence)
    (within : candidateEntitySequence ≤ headSequence history + 1)
    (authority : isToken authorityId = true) :
    ∃ among, derivePriorGovernanceRoles history candidateEntitySequence authorityId =
        .ok (orderedRoles among) ∧
      ∀ role, among role = true ↔ ∃ event ∈ history,
        event.entitySequence < candidateEntitySequence ∧ Performs event authorityId role := by
  obtain ⟨genesis, within⟩ := headSequence_within.mp within
  rw [derivePriorGovernanceRoles]
  simp only [require_bind_ok, candidate, authority, true_and]
  cases located : history.getLast? with
  | none =>
      have empty := List.getLast?_eq_none_iff.mp located
      subst empty
      refine ⟨fun _ => false, require_bind_ok.mpr ⟨?_, rfl⟩, ?_⟩
      · have first := genesis rfl
        omega
      · intro role
        simp
  | some head =>
      rcases Assumptions.project_some accepted with ⟨rfl, -⟩ | ⟨a, rfl, folds⟩
      · cases located
      have ordered := folds.ordered
      have token : isToken a.assumptionId = true := by
        obtain ⟨passed, checked, -⟩ := except_bind_ok.mp folds.valid
        exact check_ok.mp checked
      have named : ∀ event ∈ history, isToken event.entityId = true := by
        intro event member
        rw [ordered.entity event member]
        exact token
      have ascending : history.Pairwise fun a b => a.entitySequence < b.entitySequence := by
        apply List.pairwise_map.mp
        rw [ordered.sequences]
        exact List.pairwise_lt_range'
      have replayed := @replayHistory_ok _ _ _ _ none _ _ _ _ accepted ordered.entity (by simp)
      obtain ⟨observed, walked, exact_roles⟩ :=
        @observedRoles_ok _ _ candidateEntitySequence authorityId _
          (projectFrom_authorised accepted) named ascending
      refine ⟨fun role => role ∈ observed, ?_, ?_⟩
      · apply bind_ok.mpr
        refine ⟨(), replayed, require_bind_ok.mpr ⟨within head located, ?_⟩⟩
        exact bind_ok.mpr ⟨observed, walked, rfl⟩
      · intro role
        rw [decide_eq_true_eq]
        exact exact_roles role

/-- The history that the store reconstructs for an assumption, up to the candidate. -/
structure PriorHistory (history : List (RegistryEvent D)) (assumptionId : String)
    (candidateEntitySequence eventSequence : Nat) : Prop where
  replays : ∃ state, projectAssumptionHistory history = .ok state
  entity : ∀ event ∈ history, event.entityId = assumptionId
  candidate : 1 ≤ candidateEntitySequence
  genesis : history = [] → candidateEntitySequence = 1
  within : ∀ head, history.getLast? = some head →
    candidateEntitySequence ≤ head.entitySequence + 1
  prior : ∀ event ∈ history, event.entitySequence < candidateEntitySequence →
    event.clockSequence < eventSequence

/-- Before a candidate the authority has the roles of the operations it performed. -/
theorem derivePriorGovernanceRoles_ok {history : List (RegistryEvent D)} {assumptionId : String}
    {candidateEntitySequence eventSequence : Nat} {authorityId : String}
    (valid : PriorHistory history assumptionId candidateEntitySequence eventSequence)
    (authority : isToken authorityId = true) :
    ∃ prior, derivePriorGovernanceRoles history candidateEntitySequence authorityId = .ok prior ∧
      ∀ role, role ∈ prior ↔ ∃ event ∈ history,
        event.entitySequence < candidateEntitySequence ∧ Performs event authorityId role := by
  obtain ⟨state, accepted⟩ := valid.replays
  have within : candidateEntitySequence ≤ headSequence history + 1 :=
    headSequence_within.mpr ⟨fun empty => (valid.genesis empty).le, valid.within⟩
  obtain ⟨among, derived, exact_roles⟩ :=
    derivePriorGovernanceRoles_accepted accepted valid.candidate within authority
  refine ⟨_, derived, fun role => ?_⟩
  rw [mem_orderedRoles]
  exact exact_roles role

/-- An accepted history continues with later positions. -/
theorem projectAssumptionHistory_continues {history more : List (RegistryEvent D)}
    {state : Option (Assumption D)}
    (accepted : projectAssumptionHistory (history ++ more) = .ok state) :
    (∃ before, projectAssumptionHistory history = .ok before) ∧
      headSequence history ≤ headSequence (history ++ more) ∧
      ∀ event ∈ more, headSequence history < event.entitySequence := by
  have split := accepted
  rw [projectAssumptionHistory, Assumptions.projectFrom_append] at split
  obtain ⟨before, taken, -⟩ := split
  refine ⟨⟨before, taken⟩, ?_⟩
  rcases Assumptions.project_some accepted with ⟨none, -⟩ | ⟨a, -, folds⟩
  · obtain ⟨rfl, rfl⟩ := List.append_eq_nil_iff.mp none
    exact ⟨le_rfl, by simp⟩
  have ascending : (history ++ more).Pairwise fun a b => a.entitySequence < b.entitySequence := by
    apply List.pairwise_map.mp
    rw [folds.ordered.sequences]
    exact List.pairwise_lt_range'
  obtain ⟨-, -, apart⟩ := List.pairwise_append.mp ascending
  have later : ∀ event ∈ more, headSequence history < event.entitySequence := by
    intro event member
    unfold headSequence
    cases located : history.getLast? with
    | none => exact event.positive
    | some head => exact apart head (List.mem_of_getLast? located) event member
  refine ⟨?_, later⟩
  cases ending : more.getLast? with
  | none =>
      rw [List.getLast?_eq_none_iff.mp ending, List.append_nil]
  | some last =>
      have beyond := later last (List.mem_of_getLast? ending)
      have head : headSequence (history ++ more) = last.entitySequence := by
        rw [headSequence, List.getLast?_append, ending]
        rfl
      omega

/-- Of every accepted history the derivation returns the roles that the authority took before the
candidate, in the order of the roles. What is appended changes nothing, and a later candidate has
these roles too. -/
theorem prior_roles_match_reducer (history more : List (RegistryEvent D))
    (candidateEntitySequence : Nat) (authorityId : String)
    (accepted : ∃ state, projectAssumptionHistory (history ++ more) = .ok state)
    (candidate : 1 ≤ candidateEntitySequence)
    (within : candidateEntitySequence ≤ headSequence history + 1)
    (authority : isToken authorityId = true) :
    ∃ prior,
      derivePriorGovernanceRoles history candidateEntitySequence authorityId = .ok prior ∧
      prior.Sublist GovernanceRole.all ∧
      (∀ role, role ∈ prior ↔ ∃ event ∈ history,
        event.entitySequence < candidateEntitySequence ∧ Performs event authorityId role) ∧
      derivePriorGovernanceRoles (history ++ more) candidateEntitySequence authorityId =
        .ok prior ∧
      ∀ later, candidateEntitySequence ≤ later → later ≤ headSequence (history ++ more) + 1 →
        ∃ wider, derivePriorGovernanceRoles (history ++ more) later authorityId = .ok wider ∧
          prior.Sublist wider := by
  obtain ⟨state, accepted⟩ := accepted
  obtain ⟨⟨before, taken⟩, longer, beyond⟩ := projectAssumptionHistory_continues accepted
  obtain ⟨among, derived, exact_roles⟩ :=
    derivePriorGovernanceRoles_accepted taken candidate within authority
  obtain ⟨whole, appended, whole_roles⟩ :=
    derivePriorGovernanceRoles_accepted accepted candidate (within.trans (by omega)) authority
  have same : among = whole := by
    funext role
    rw [Bool.eq_iff_iff, exact_roles, whole_roles]
    constructor
    · rintro ⟨event, member, prior, performs⟩
      exact ⟨event, List.mem_append_left _ member, prior, performs⟩
    · rintro ⟨event, member, prior, performs⟩
      rcases List.mem_append.mp member with old | new
      · exact ⟨event, old, prior, performs⟩
      · have order := beyond event new
        omega
  subst same
  refine ⟨_, derived, List.filter_sublist, fun role => ?_, appended, ?_⟩
  · rw [mem_orderedRoles]
    exact exact_roles role
  · intro later order ends
    obtain ⟨wide, wider, wide_roles⟩ :=
      derivePriorGovernanceRoles_accepted accepted (candidate.trans order) ends authority
    refine ⟨_, wider, List.monotone_filter_right _ fun role mine => ?_⟩
    obtain ⟨event, member, prior, performs⟩ := (whole_roles role).mp mine
    exact (wide_roles role).mpr ⟨event, member, by omega, performs⟩

set_option maxRecDepth 100000 in
/-- The proposer keeps its role while the other events follow. -/
theorem prior_roles_match_reducer_sample : ∃ prior,
    derivePriorGovernanceRoles (Assumptions.sampleHistory.take 2) 2 "proposer" = .ok prior ∧
      GovernanceRole.proposer ∈ prior := by
  have split : Assumptions.sampleHistory.take 2 ++ Assumptions.sampleHistory.drop 2 =
      Assumptions.sampleHistory := List.take_append_drop 2 _
  have accepted : ∃ state, projectAssumptionHistory Assumptions.sampleHistory = .ok state := by
    have passes : (projectAssumptionHistory Assumptions.sampleHistory).toBool = true := by
      decide +kernel
    generalize projectAssumptionHistory Assumptions.sampleHistory = result at passes ⊢
    match result, passes with
    | .ok state, _ => exact ⟨state, rfl⟩
  obtain ⟨prior, derived, -, exact_roles, -⟩ := prior_roles_match_reducer
    (Assumptions.sampleHistory.take 2) (Assumptions.sampleHistory.drop 2) 2 "proposer"
    (split.symm ▸ accepted) (by decide) (by decide) (by decide)
  refine ⟨prior, derived, (exact_roles _).mpr ?_⟩
  exact ⟨_, List.mem_cons_self, by decide, "PROPOSE", "proposer_authority_id", rfl, rfl, rfl⟩

theorem replayHistory_projects {known : Option String} {state : Option (Assumption D)}
    {events : List (RegistryEvent D)} (replayed : replayHistory known state events = .ok ()) :
    ∃ result, projectFrom state events = .ok result ∧
      ∀ id ∈ known, ∀ event ∈ events, event.entityId = id := by
  induction events generalizing known state with
  | nil => exact ⟨state, rfl, by simp⟩
  | cons first rest ih =>
      obtain ⟨_, -, replayed⟩ := bind_ok.mp replayed
      obtain ⟨same, replayed⟩ := require_bind_ok.mp replayed
      obtain ⟨next, reduced, replayed⟩ := bind_ok.mp replayed
      cases accepted : reduceAssumption state first with
      | error error =>
          rw [accepted] at reduced
          cases reduced
      | ok value =>
          rw [accepted] at reduced
          cases reduced
          obtain ⟨result, projected, identity⟩ := ih replayed
          refine ⟨result, except_bind_ok.mpr ⟨_, accepted, projected⟩, ?_⟩
          intro id given event member
          rcases List.mem_cons.mp member with rfl | later
          · exact same id given
          · exact (identity first.entityId rfl event later).trans (same id given)

/-- A derivation that returns has replayed the history. -/
theorem derivePriorGovernanceRoles_replays {history : List (RegistryEvent D)}
    {candidateEntitySequence : Nat} {authorityId : String} {prior : List GovernanceRole}
    (derived : derivePriorGovernanceRoles history candidateEntitySequence authorityId = .ok prior) :
    1 ≤ candidateEntitySequence ∧ (∃ state, projectAssumptionHistory history = .ok state) ∧
      (history = [] → candidateEntitySequence = 1) ∧
      ∀ head, history.getLast? = some head → candidateEntitySequence ≤ head.entitySequence + 1 := by
  rw [derivePriorGovernanceRoles] at derived
  obtain ⟨candidate, derived⟩ := require_bind_ok.mp derived
  obtain ⟨-, derived⟩ := require_bind_ok.mp derived
  refine ⟨candidate, ?_⟩
  cases located : history.getLast? with
  | none =>
      rw [located] at derived
      obtain ⟨genesis, -⟩ := require_bind_ok.mp derived
      rw [List.getLast?_eq_none_iff.mp located]
      exact ⟨⟨none, rfl⟩, fun _ => genesis, by simp⟩
  | some head =>
      rw [located] at derived
      obtain ⟨_, replayed, derived⟩ := bind_ok.mp derived
      obtain ⟨within, -⟩ := require_bind_ok.mp derived
      obtain ⟨state, projected, -⟩ := replayHistory_projects replayed
      refine ⟨⟨state, projected⟩, ?_, ?_⟩
      · rintro rfl
        cases located
      · intro last same
        rw [← Option.some.inj same]
        exact within

end CsdFoundry.Policy

import CsdFoundry.Policy.Contracts

/-! The overlap check of an activated policy against the coverage tests that run later: two
grants overlap exactly when one request is covered by both, two duty exceptions when one role is
waived by both. -/
namespace CsdFoundry.Policy
open Temporal (isToken)

/-! ### The activation check -/

/-- `float("inf")` stands for an open end. -/
def before (start : Nat) : Option Nat → Bool
  | none => true
  | some limit => start < limit

/-- `_intervals_overlap`. -/
def intervalsOverlap (leftStart : Nat) (leftEnd : Option Nat) (rightStart : Nat)
    (rightEnd : Option Nat) : Bool :=
  before leftStart rightEnd && before rightStart leftEnd

/-- `bool(set(left).intersection(right))`. -/
def meets [DecidableEq α] (left right : List α) : Bool := left.any fun item => item ∈ right

/-- `_scopes_intersect`. -/
def scopesIntersect (left right : List String) : Bool :=
  if globalAssumptionScope ∈ left then true
  else if globalAssumptionScope ∈ right then true
  else meets left right

def grantsOverlap (left right : AssumptionAuthorityGrant) : Bool :=
  if left.authorityId ≠ right.authorityId then false
  else if left.action ≠ right.action then false
  else if intervalsOverlap left.effectiveFromSequence left.effectiveUntilSequence
      right.effectiveFromSequence right.effectiveUntilSequence = false then false
  else if scopesIntersect left.scopeIds right.scopeIds = false then false
  else if meets left.assumptionMaterialities right.assumptionMaterialities = false then false
  else if left.action.resolution = false then true
  else meets left.challengeMaterialities right.challengeMaterialities

def dutyExceptionsOverlap (left right : AssumptionDutyException) : Bool :=
  if left.ruleId ≠ right.ruleId then false
  else if left.action ≠ right.action ∨ left.authorityId ≠ right.authorityId then false
  else if intervalsOverlap left.effectiveFromSequence (some left.effectiveUntilSequence)
      right.effectiveFromSequence (some right.effectiveUntilSequence) = false then false
  else if scopesIntersect left.scopeIds right.scopeIds = false then false
  else if meets left.assumptionMaterialities right.assumptionMaterialities = false then false
  else if meets left.conflictingRoles right.conflictingRoles = false then false
  else if left.assumptionIds = [] ∨ right.assumptionIds = [] then true
  else meets left.assumptionIds right.assumptionIds

/-- The nested loops over `items[index]` and `items[index + 1 :]`. -/
def refusePairs (overlap : α → α → Bool) (otherwise : PolicyError) : List α → Except PolicyError Unit
  | [] => .ok ()
  | left :: rest => do
      require (∀ right ∈ rest, overlap left right = false) otherwise
      refusePairs overlap otherwise rest

def validatePolicyOverlap (policy : AssumptionAuthorityPolicy D) : Except PolicyError Unit := do
  refusePairs grantsOverlap (.activation "ASSUMPTION_AUTHORITY_GRANT_OVERLAP") policy.grants
  refusePairs dutyExceptionsOverlap (.activation "ASSUMPTION_DUTY_EXCEPTION_OVERLAP")
    policy.dutyExceptions

/-! ### The coverage tests -/

structure SelectionRequest where
  action : AuthorityAction
  authorityId : String
  scopeId : String
  assumptionMateriality : Materiality
  challengeMateriality : Option Materiality
  deriving DecidableEq

/-- `_scope_matches`, and `_scope_covers_request` of the separation-of-duty evaluator. -/
def scopeMatches (requestScope : String) (scopeIds : List String) : Bool :=
  scopeIds = [globalAssumptionScope] || requestScope ∈ scopeIds

/-- The challenge dimension of `_grant_covers_request`. -/
def challengeMatches (challengeMateriality : Option Materiality) (accepted : List Materiality) :
    Bool :=
  match challengeMateriality with
  | some materiality => materiality ∈ accepted
  | none => accepted = []

/-- `_grant_covers_request`. -/
def grantCoversRequest (grant : AssumptionAuthorityGrant) (request : SelectionRequest)
    (eventSequence : Nat) : Bool :=
  if grant.action ≠ request.action then false
  else if grant.authorityId ≠ request.authorityId then false
  else if scopeMatches request.scopeId grant.scopeIds = false then false
  else if request.assumptionMateriality ∉ grant.assumptionMaterialities then false
  else if challengeMatches request.challengeMateriality grant.challengeMaterialities = false then
    false
  else if eventSequence < grant.effectiveFromSequence then false
  else before eventSequence grant.effectiveUntilSequence

/-- `_rule_applies`. -/
def ruleApplies (rule : AssumptionSeparationDutyRule) (request : SelectionRequest) : Bool :=
  rule.action = request.action && scopeMatches request.scopeId rule.scopeIds &&
    request.assumptionMateriality ∈ rule.assumptionMaterialities

/-- `_exception_applies`. -/
def exceptionApplies (exception : AssumptionDutyException) (rule : AssumptionSeparationDutyRule)
    (request : SelectionRequest) (assumptionId : String) (eventSequence : Nat) : Bool :=
  exception.ruleId = rule.ruleId && exception.action = request.action &&
    exception.authorityId = request.authorityId &&
    scopeMatches request.scopeId exception.scopeIds &&
    request.assumptionMateriality ∈ exception.assumptionMaterialities &&
    (exception.assumptionIds = [] || assumptionId ∈ exception.assumptionIds) &&
    exception.effectiveFromSequence ≤ eventSequence &&
    eventSequence < exception.effectiveUntilSequence

/-- The request passes the checks of the selector and names no global scope. -/
structure SelectionRequest.WellFormed (request : SelectionRequest) : Prop where
  authority : isToken request.authorityId = true
  scope : isToken request.scopeId = true
  narrow : request.scopeId ≠ globalAssumptionScope
  challenge : request.challengeMateriality.isSome = request.action.resolution

/-- The exception takes this role away from the conflicts under an applicable rule. -/
structure Waives (exception : AssumptionDutyException) (rule : AssumptionSeparationDutyRule)
    (request : SelectionRequest) (assumptionId : String) (eventSequence : Nat)
    (role : GovernanceRole) : Prop where
  applicable : ruleApplies rule request = true
  applies : exceptionApplies exception rule request assumptionId eventSequence = true
  conflicting : role ∈ rule.conflictingRoles
  waived : role ∈ exception.conflictingRoles

/-! ### Dimensions -/

theorem meets_iff [DecidableEq α] {left right : List α} :
    meets left right = true ↔ ∃ item, item ∈ left ∧ item ∈ right := by
  simp [meets]

/-- Half-open intervals overlap exactly when they share a point: the later start. -/
theorem intervalsOverlap_iff {leftStart rightStart : Nat} {leftEnd rightEnd : Option Nat}
    (left : requireInterval leftStart leftEnd = true)
    (right : requireInterval rightStart rightEnd = true) :
    intervalsOverlap leftStart leftEnd rightStart rightEnd = true ↔
      ∃ point, (leftStart ≤ point ∧ before point leftEnd = true) ∧
        rightStart ≤ point ∧ before point rightEnd = true := by
  rw [intervalsOverlap, Bool.and_eq_true]
  constructor
  · rintro ⟨leftBefore, rightBefore⟩
    refine ⟨max leftStart rightStart, ⟨le_max_left _ _, ?_⟩, le_max_right _ _, ?_⟩
    · cases leftEnd with
      | none => rfl
      | some limit =>
          simp only [requireInterval, before, decide_eq_true_eq] at left rightBefore ⊢
          omega
    · cases rightEnd with
      | none => rfl
      | some limit =>
          simp only [requireInterval, before, decide_eq_true_eq] at right leftBefore ⊢
          omega
  · rintro ⟨point, ⟨leftFrom, leftUntil⟩, rightFrom, rightUntil⟩
    constructor
    · cases rightEnd with
      | none => rfl
      | some limit =>
          simp only [before, decide_eq_true_eq] at rightUntil ⊢
          omega
    · cases leftEnd with
      | none => rfl
      | some limit =>
          simp only [before, decide_eq_true_eq] at leftUntil ⊢
          omega

theorem scopeMatches_global (scope : String) :
    scopeMatches scope [globalAssumptionScope] = true := by
  simp [scopeMatches]

theorem scopeMatches_of_mem {scope : String} {scopeIds : List String} (member : scope ∈ scopeIds) :
    scopeMatches scope scopeIds = true := by
  simp [scopeMatches, member]

/-- Some narrow scope is in every set of scopes. -/
theorem exists_narrow {scopeIds : List String} (valid : requireScopes scopeIds = true) :
    ∃ scope, isToken scope = true ∧ scopeMatches scope scopeIds = true := by
  rcases requireScopes_cases valid with rfl | ⟨-, some, tokens⟩
  · exact ⟨"scope", by decide, scopeMatches_global _⟩
  · obtain ⟨scope, rest, rfl⟩ := List.exists_cons_of_ne_nil some
    exact ⟨scope, tokens scope List.mem_cons_self, scopeMatches_of_mem List.mem_cons_self⟩

theorem narrow_of_token {scope : String} (token : isToken scope = true) :
    scope ≠ globalAssumptionScope := by
  rintro rfl
  rw [globalAssumptionScope_not_token] at token
  cases token

theorem scopesIntersect_iff {left right : List String} (leftValid : requireScopes left = true)
    (rightValid : requireScopes right = true) :
    scopesIntersect left right = true ↔ ∃ scope, isToken scope = true ∧
      scopeMatches scope left = true ∧ scopeMatches scope right = true := by
  rcases requireScopes_cases leftValid with rfl | ⟨leftNarrow, -, leftTokens⟩
  · have intersect : scopesIntersect [globalAssumptionScope] right = true := by
      simp [scopesIntersect]
    obtain ⟨scope, token, matched⟩ := exists_narrow rightValid
    exact ⟨fun _ => ⟨scope, token, scopeMatches_global _, matched⟩, fun _ => intersect⟩
  · rcases requireScopes_cases rightValid with rfl | ⟨rightNarrow, -, -⟩
    · have intersect : scopesIntersect left [globalAssumptionScope] = true := by
        simp [scopesIntersect]
      obtain ⟨scope, token, matched⟩ := exists_narrow leftValid
      exact ⟨fun _ => ⟨scope, token, matched, scopeMatches_global _⟩, fun _ => intersect⟩
    · have leftApart : left ≠ [globalAssumptionScope] := by
        rintro rfl
        exact leftNarrow List.mem_cons_self
      have rightApart : right ≠ [globalAssumptionScope] := by
        rintro rfl
        exact rightNarrow List.mem_cons_self
      rw [scopesIntersect, if_neg leftNarrow, if_neg rightNarrow, meets_iff]
      simp only [scopeMatches, leftApart, rightApart, decide_false, Bool.false_or,
        decide_eq_true_eq]
      constructor
      · rintro ⟨scope, inLeft, inRight⟩
        exact ⟨scope, leftTokens scope inLeft, inLeft, inRight⟩
      · rintro ⟨scope, -, inLeft, inRight⟩
        exact ⟨scope, inLeft, inRight⟩

theorem refusePairs_ok {overlap : α → α → Bool} {otherwise : PolicyError} {items : List α} :
    refusePairs overlap otherwise items = .ok () ↔ items.Pairwise fun a b => overlap a b = false := by
  induction items with
  | nil => simp [refusePairs]
  | cons left rest ih => rw [refusePairs, require_bind_ok, ih, List.pairwise_cons]

/-! ### Grants -/

theorem grantCoversRequest_iff {grant : AssumptionAuthorityGrant} {request : SelectionRequest}
    {eventSequence : Nat} :
    grantCoversRequest grant request eventSequence = true ↔
      grant.action = request.action ∧ grant.authorityId = request.authorityId ∧
      scopeMatches request.scopeId grant.scopeIds = true ∧
      request.assumptionMateriality ∈ grant.assumptionMaterialities ∧
      challengeMatches request.challengeMateriality grant.challengeMaterialities = true ∧
      grant.effectiveFromSequence ≤ eventSequence ∧
      before eventSequence grant.effectiveUntilSequence = true := by
  rw [grantCoversRequest]
  split_ifs <;> simp_all

theorem grantsOverlap_iff_dimensions {left right : AssumptionAuthorityGrant} :
    grantsOverlap left right = true ↔
      left.authorityId = right.authorityId ∧ left.action = right.action ∧
      intervalsOverlap left.effectiveFromSequence left.effectiveUntilSequence
        right.effectiveFromSequence right.effectiveUntilSequence = true ∧
      scopesIntersect left.scopeIds right.scopeIds = true ∧
      meets left.assumptionMaterialities right.assumptionMaterialities = true ∧
      (left.action.resolution = true →
        meets left.challengeMaterialities right.challengeMaterialities = true) := by
  rw [grantsOverlap]
  split_ifs <;> simp_all

/-- The challenge dimension of two grants of one action. -/
theorem challenges_meet_iff {left right : AssumptionAuthorityGrant}
    (same : left.action = right.action) :
    (left.action.resolution = true →
        meets left.challengeMaterialities right.challengeMaterialities = true) ↔
      ∃ challenge : Option Materiality, challenge.isSome = left.action.resolution ∧
        challengeMatches challenge left.challengeMaterialities = true ∧
        challengeMatches challenge right.challengeMaterialities = true := by
  have leftResolving := left.resolving
  have rightResolving := right.resolving
  rw [← same] at rightResolving
  cases resolution : left.action.resolution with
  | true =>
      simp only [meets_iff, forall_const]
      constructor
      · rintro ⟨item, inLeft, inRight⟩
        exact ⟨some item, rfl, decide_eq_true inLeft, decide_eq_true inRight⟩
      · rintro ⟨challenge, given, inLeft, inRight⟩
        cases challenge with
        | none => cases given
        | some item => exact ⟨item, of_decide_eq_true inLeft, of_decide_eq_true inRight⟩
  | false =>
      rw [resolution] at leftResolving rightResolving
      have leftNone : left.challengeMaterialities = [] := by
        by_contra some
        exact Bool.false_ne_true (leftResolving.mp some)
      have rightNone : right.challengeMaterialities = [] := by
        by_contra some
        exact Bool.false_ne_true (rightResolving.mp some)
      rw [leftNone, rightNone]
      exact ⟨fun _ => ⟨none, rfl, rfl, rfl⟩, fun _ absurdity => by cases absurdity⟩

theorem grantsOverlap_iff {left right : AssumptionAuthorityGrant} :
    grantsOverlap left right = true ↔ ∃ request eventSequence, request.WellFormed ∧
      grantCoversRequest left request eventSequence = true ∧
      grantCoversRequest right request eventSequence = true := by
  rw [grantsOverlap_iff_dimensions, intervalsOverlap_iff left.interval right.interval,
    scopesIntersect_iff left.scopes right.scopes, meets_iff]
  constructor
  · rintro ⟨authority, action, ⟨point, ⟨leftFrom, leftUntil⟩, rightFrom, rightUntil⟩,
      ⟨scope, token, leftScope, rightScope⟩, ⟨materiality, inLeft, inRight⟩, challenges⟩
    obtain ⟨challenge, given, leftChallenge, rightChallenge⟩ :=
      (challenges_meet_iff action).mp challenges
    have wellFormed : SelectionRequest.WellFormed
        ⟨left.action, left.authorityId, scope, materiality, challenge⟩ :=
      ⟨left.authority, token, narrow_of_token token, given⟩
    refine ⟨_, point, wellFormed, ?_, ?_⟩
    · exact grantCoversRequest_iff.mpr
        ⟨rfl, rfl, leftScope, inLeft, leftChallenge, leftFrom, leftUntil⟩
    · exact grantCoversRequest_iff.mpr
        ⟨action.symm, authority.symm, rightScope, inRight, rightChallenge, rightFrom, rightUntil⟩
  · rintro ⟨request, point, wellFormed, leftCovers, rightCovers⟩
    obtain ⟨leftAction, leftAuthority, leftScope, inLeft, leftChallenge, leftFrom, leftUntil⟩ :=
      grantCoversRequest_iff.mp leftCovers
    obtain ⟨rightAction, rightAuthority, rightScope, inRight, rightChallenge, rightFrom,
      rightUntil⟩ := grantCoversRequest_iff.mp rightCovers
    have action := leftAction.trans rightAction.symm
    refine ⟨leftAuthority.trans rightAuthority.symm, action, ?_, ?_, ?_, ?_⟩
    · exact ⟨point, ⟨leftFrom, leftUntil⟩, rightFrom, rightUntil⟩
    · exact ⟨request.scopeId, wellFormed.scope, leftScope, rightScope⟩
    · exact ⟨request.assumptionMateriality, inLeft, inRight⟩
    · apply (challenges_meet_iff action).mpr
      refine ⟨request.challengeMateriality, ?_, leftChallenge, rightChallenge⟩
      rw [leftAction]
      exact wellFormed.challenge

/-! ### Duty exceptions -/

theorem exceptionApplies_iff {exception : AssumptionDutyException}
    {rule : AssumptionSeparationDutyRule} {request : SelectionRequest} {assumptionId : String}
    {eventSequence : Nat} :
    exceptionApplies exception rule request assumptionId eventSequence = true ↔
      exception.ruleId = rule.ruleId ∧ exception.action = request.action ∧
      exception.authorityId = request.authorityId ∧
      scopeMatches request.scopeId exception.scopeIds = true ∧
      request.assumptionMateriality ∈ exception.assumptionMaterialities ∧
      (exception.assumptionIds = [] ∨ assumptionId ∈ exception.assumptionIds) ∧
      exception.effectiveFromSequence ≤ eventSequence ∧
      eventSequence < exception.effectiveUntilSequence := by
  simp [exceptionApplies, and_assoc]

theorem dutyExceptionsOverlap_iff_dimensions {left right : AssumptionDutyException} :
    dutyExceptionsOverlap left right = true ↔
      left.ruleId = right.ruleId ∧ (left.action = right.action ∧ left.authorityId = right.authorityId) ∧
      intervalsOverlap left.effectiveFromSequence (some left.effectiveUntilSequence)
        right.effectiveFromSequence (some right.effectiveUntilSequence) = true ∧
      scopesIntersect left.scopeIds right.scopeIds = true ∧
      meets left.assumptionMaterialities right.assumptionMaterialities = true ∧
      meets left.conflictingRoles right.conflictingRoles = true ∧
      (left.assumptionIds = [] ∨ right.assumptionIds = [] ∨
        meets left.assumptionIds right.assumptionIds = true) := by
  rw [dutyExceptionsOverlap]
  split_ifs <;> simp_all <;> tauto

/-- The assumptions of two exceptions, where none named stands for any. -/
theorem assumptions_meet_iff {left right : List String} (leftValid : requireTokens left true = true)
    (rightValid : requireTokens right true = true) :
    (left = [] ∨ right = [] ∨ meets left right = true) ↔
      ∃ assumptionId, isToken assumptionId = true ∧ (left = [] ∨ assumptionId ∈ left) ∧
        (right = [] ∨ assumptionId ∈ right) := by
  have some : ∀ {items : List String}, requireTokens items true = true →
      ∃ assumptionId, isToken assumptionId = true ∧ (items = [] ∨ assumptionId ∈ items) := by
    intro items valid
    simp only [requireTokens, Bool.true_or, Bool.true_and, Bool.and_eq_true,
      List.all_eq_true] at valid
    cases items with
    | nil => exact ⟨"assumption", by decide, .inl rfl⟩
    | cons first rest =>
        exact ⟨first, valid.2 first List.mem_cons_self, .inr List.mem_cons_self⟩
  constructor
  · rintro (rfl | rfl | both)
    · obtain ⟨assumptionId, token, among⟩ := some rightValid
      exact ⟨assumptionId, token, .inl rfl, among⟩
    · obtain ⟨assumptionId, token, among⟩ := some leftValid
      exact ⟨assumptionId, token, among, .inl rfl⟩
    · obtain ⟨assumptionId, inLeft, inRight⟩ := meets_iff.mp both
      simp only [requireTokens, Bool.true_or, Bool.true_and, Bool.and_eq_true,
        List.all_eq_true] at leftValid
      exact ⟨assumptionId, leftValid.2 assumptionId inLeft, .inr inLeft, .inr inRight⟩
  · rintro ⟨assumptionId, -, inLeft, inRight⟩
    rcases inLeft with none | inLeft
    · exact .inl none
    · rcases inRight with none | inRight
      · exact .inr (.inl none)
      · exact .inr (.inr (meets_iff.mpr ⟨assumptionId, inLeft, inRight⟩))

theorem scopeMatches_subset {candidate boundary : List String} {scope : String}
    (subset : scopeIsSubset candidate boundary = true) (matched : scopeMatches scope candidate = true) :
    scopeMatches scope boundary = true := by
  rw [scopeIsSubset] at subset
  split at subset
  · rename_i everywhere
    rw [everywhere]
    exact scopeMatches_global _
  · split at subset
    · cases subset
    · rename_i narrow
      have member : scope ∈ candidate := by simpa [scopeMatches, narrow] using matched
      exact scopeMatches_of_mem (of_decide_eq_true (List.all_eq_true.mp subset scope member))

/-- An exception that applies stays inside its rule. -/
theorem Within.applicable {rules : List AssumptionSeparationDutyRule}
    {grants : List AssumptionAuthorityGrant} {exception : AssumptionDutyException}
    {rule : AssumptionSeparationDutyRule} (within : Within rules grants exception rule)
    {request : SelectionRequest} {assumptionId : String} {eventSequence : Nat}
    (applies : exceptionApplies exception rule request assumptionId eventSequence = true) :
    ruleApplies rule request = true := by
  obtain ⟨-, action, -, scope, materiality, -⟩ := exceptionApplies_iff.mp applies
  have matched := scopeMatches_subset within.scopes scope
  have member := within.materialities _ materiality
  simp [ruleApplies, ← within.action, action, matched, member]

theorem dutyExceptionsOverlap_iff {rules : List AssumptionSeparationDutyRule}
    {grants : List AssumptionAuthorityGrant} {left right : AssumptionDutyException}
    (leftValid : validateException rules grants left = .ok ()) :
    dutyExceptionsOverlap left right = true ↔
      ∃ rule ∈ rules, ∃ request assumptionId eventSequence role, request.WellFormed ∧
        isToken assumptionId = true ∧ Waives left rule request assumptionId eventSequence role ∧
        Waives right rule request assumptionId eventSequence role := by
  have leftInterval : requireInterval left.effectiveFromSequence (some left.effectiveUntilSequence) =
      true := decide_eq_true left.interval
  have rightInterval : requireInterval right.effectiveFromSequence
      (some right.effectiveUntilSequence) = true := decide_eq_true right.interval
  rw [dutyExceptionsOverlap_iff_dimensions, intervalsOverlap_iff leftInterval rightInterval,
    scopesIntersect_iff left.scopes right.scopes, meets_iff, meets_iff,
    assumptions_meet_iff left.assumptions right.assumptions]
  constructor
  · rintro ⟨ruleId, ⟨action, authority⟩, ⟨point, ⟨leftFrom, leftUntil⟩, rightFrom, rightUntil⟩,
      ⟨scope, token, leftScope, rightScope⟩, ⟨materiality, inLeft, inRight⟩,
      ⟨role, leftRole, rightRole⟩, ⟨assumptionId, named, leftAssumption, rightAssumption⟩⟩
    obtain ⟨rule, within⟩ := validateException_ok leftValid
    let challenge := if left.action.resolution then some Materiality.advisory else none
    have given : challenge.isSome = left.action.resolution := by
      cases resolution : left.action.resolution <;> simp [challenge, resolution]
    let request : SelectionRequest :=
      ⟨left.action, left.authorityId, scope, materiality, challenge⟩
    have wellFormed : request.WellFormed := ⟨left.authority, token, narrow_of_token token, given⟩
    have leftApplies : exceptionApplies left rule request assumptionId point = true :=
      exceptionApplies_iff.mpr ⟨within.ruleId.symm, rfl, rfl, leftScope, inLeft, leftAssumption,
        leftFrom, of_decide_eq_true leftUntil⟩
    have rightApplies : exceptionApplies right rule request assumptionId point = true :=
      exceptionApplies_iff.mpr ⟨ruleId.symm.trans within.ruleId.symm, action.symm, authority.symm,
        rightScope, inRight, rightAssumption, rightFrom, of_decide_eq_true rightUntil⟩
    have applicable := within.applicable leftApplies
    have conflicting := within.roles role leftRole
    exact ⟨rule, within.member, request, assumptionId, point, role, wellFormed, named,
      ⟨applicable, leftApplies, conflicting, leftRole⟩,
      ⟨applicable, rightApplies, conflicting, rightRole⟩⟩
  · rintro ⟨rule, -, request, assumptionId, point, role, wellFormed, named, leftWaives, rightWaives⟩
    obtain ⟨leftRule, leftAction, leftAuthority, leftScope, inLeft, leftAssumption, leftFrom,
      leftUntil⟩ := exceptionApplies_iff.mp leftWaives.applies
    obtain ⟨rightRule, rightAction, rightAuthority, rightScope, inRight, rightAssumption, rightFrom,
      rightUntil⟩ := exceptionApplies_iff.mp rightWaives.applies
    refine ⟨leftRule.trans rightRule.symm,
      ⟨leftAction.trans rightAction.symm, leftAuthority.trans rightAuthority.symm⟩, ?_, ?_, ?_, ?_, ?_⟩
    · exact ⟨point, ⟨leftFrom, decide_eq_true leftUntil⟩, rightFrom, decide_eq_true rightUntil⟩
    · exact ⟨request.scopeId, wellFormed.scope, leftScope, rightScope⟩
    · exact ⟨request.assumptionMateriality, inLeft, inRight⟩
    · exact ⟨role, leftWaives.waived, rightWaives.waived⟩
    · exact ⟨assumptionId, named, leftAssumption, rightAssumption⟩

/-! ### Policies -/

/-- Two grants that one request is covered by. -/
def AmbiguousGrants (policy : AssumptionAuthorityPolicy D) : Prop :=
  ∃ request eventSequence, SelectionRequest.WellFormed request ∧
    ∃ left ∈ policy.grants, ∃ right ∈ policy.grants, left ≠ right ∧
      grantCoversRequest left request eventSequence = true ∧
      grantCoversRequest right request eventSequence = true

/-- Two duty exceptions that waive one role. -/
def AmbiguousExceptions (policy : AssumptionAuthorityPolicy D) : Prop :=
  ∃ rule ∈ policy.separationDutyRules, ∃ request assumptionId eventSequence role,
    SelectionRequest.WellFormed request ∧ isToken assumptionId = true ∧
    ∃ left ∈ policy.dutyExceptions, ∃ right ∈ policy.dutyExceptions, left ≠ right ∧
      Waives left rule request assumptionId eventSequence role ∧
      Waives right rule request assumptionId eventSequence role

/-- Items with ascending names: no pair overlaps exactly when no two items do. -/
theorem pairwise_apart_iff {overlap : α → α → Bool} {name : α → String} {items : List α}
    (ordered : (items.map name).Pairwise (· < ·))
    (symmetric : ∀ a ∈ items, ∀ b ∈ items, overlap a b = overlap b a) :
    (items.Pairwise fun a b => overlap a b = false) ↔
      ¬ ∃ left ∈ items, ∃ right ∈ items, left ≠ right ∧ overlap left right = true := by
  rw [List.pairwise_map] at ordered
  induction items with
  | nil => simp
  | cons first rest ih =>
      obtain ⟨below, ascending⟩ := List.pairwise_cons.mp ordered
      rw [List.pairwise_cons, ih ascending fun a inA b inB =>
        symmetric a (List.mem_cons_of_mem _ inA) b (List.mem_cons_of_mem _ inB)]
      constructor
      · rintro ⟨apart, none⟩ ⟨left, inLeft, right, inRight, differ, overlaps⟩
        rcases List.mem_cons.mp inLeft with rfl | leftLater
        · rcases List.mem_cons.mp inRight with rfl | rightLater
          · exact differ rfl
          · exact Bool.false_ne_true ((apart right rightLater).symm.trans overlaps)
        · rcases List.mem_cons.mp inRight with rfl | rightLater
          · have flipped := symmetric left inLeft right List.mem_cons_self
            exact Bool.false_ne_true ((apart left leftLater).symm.trans (flipped.symm.trans overlaps))
          · exact none ⟨left, leftLater, right, rightLater, differ, overlaps⟩
      · intro none
        constructor
        · intro right inRight
          by_contra overlaps
          have differ : first ≠ right := by
            rintro rfl
            exact lt_irrefl _ (below first inRight)
          exact none ⟨first, List.mem_cons_self, right, List.mem_cons_of_mem _ inRight, differ,
            Bool.of_not_eq_false overlaps⟩
        · rintro ⟨left, inLeft, right, inRight, differ, overlaps⟩
          exact none ⟨left, List.mem_cons_of_mem _ inLeft, right, List.mem_cons_of_mem _ inRight,
            differ, overlaps⟩

theorem validatePolicyOverlap_ok {policy : AssumptionAuthorityPolicy D} :
    validatePolicyOverlap policy = .ok () ↔
      (policy.grants.Pairwise fun a b => grantsOverlap a b = false) ∧
      policy.dutyExceptions.Pairwise fun a b => dutyExceptionsOverlap a b = false := by
  rw [validatePolicyOverlap, bind_ok]
  constructor
  · rintro ⟨_, grants, exceptions⟩
    exact ⟨refusePairs_ok.mp grants, refusePairs_ok.mp exceptions⟩
  · rintro ⟨grants, exceptions⟩
    exact ⟨(), refusePairs_ok.mpr grants, refusePairs_ok.mpr exceptions⟩

theorem validatePolicyOverlap_iff {policy : AssumptionAuthorityPolicy D} :
    validatePolicyOverlap policy = .ok () ↔
      ¬ AmbiguousGrants policy ∧ ¬ AmbiguousExceptions policy := by
  have grantsSymmetric : ∀ a ∈ policy.grants, ∀ b ∈ policy.grants,
      grantsOverlap a b = grantsOverlap b a := by
    intro a _ b _
    rw [Bool.eq_iff_iff, grantsOverlap_iff, grantsOverlap_iff]
    constructor
    · rintro ⟨request, point, wellFormed, left, right⟩
      exact ⟨request, point, wellFormed, right, left⟩
    · rintro ⟨request, point, wellFormed, left, right⟩
      exact ⟨request, point, wellFormed, right, left⟩
  have exceptionsSymmetric : ∀ a ∈ policy.dutyExceptions, ∀ b ∈ policy.dutyExceptions,
      dutyExceptionsOverlap a b = dutyExceptionsOverlap b a := by
    intro a inA b inB
    rw [Bool.eq_iff_iff, dutyExceptionsOverlap_iff (policy.exceptionsValid a inA),
      dutyExceptionsOverlap_iff (policy.exceptionsValid b inB)]
    constructor
    · rintro ⟨rule, member, request, assumptionId, point, role, wellFormed, named, left, right⟩
      exact ⟨rule, member, request, assumptionId, point, role, wellFormed, named, right, left⟩
    · rintro ⟨rule, member, request, assumptionId, point, role, wellFormed, named, left, right⟩
      exact ⟨rule, member, request, assumptionId, point, role, wellFormed, named, right, left⟩
  rw [validatePolicyOverlap_ok, pairwise_apart_iff policy.grantsOrdered grantsSymmetric,
    pairwise_apart_iff policy.exceptionsOrdered exceptionsSymmetric]
  have grants : (∃ left ∈ policy.grants, ∃ right ∈ policy.grants, left ≠ right ∧
      grantsOverlap left right = true) ↔ AmbiguousGrants policy := by
    simp only [grantsOverlap_iff]
    constructor
    · rintro ⟨left, inLeft, right, inRight, differ, request, point, wellFormed, covers⟩
      exact ⟨request, point, wellFormed, left, inLeft, right, inRight, differ, covers⟩
    · rintro ⟨request, point, wellFormed, left, inLeft, right, inRight, differ, covers⟩
      exact ⟨left, inLeft, right, inRight, differ, request, point, wellFormed, covers⟩
  have exceptions : (∃ left ∈ policy.dutyExceptions, ∃ right ∈ policy.dutyExceptions,
      left ≠ right ∧ dutyExceptionsOverlap left right = true) ↔ AmbiguousExceptions policy := by
    constructor
    · rintro ⟨left, inLeft, right, inRight, differ, overlaps⟩
      obtain ⟨rule, member, request, assumptionId, point, role, wellFormed, named, waives⟩ :=
        (dutyExceptionsOverlap_iff (policy.exceptionsValid left inLeft)).mp overlaps
      exact ⟨rule, member, request, assumptionId, point, role, wellFormed, named, left, inLeft,
        right, inRight, differ, waives⟩
    · rintro ⟨rule, member, request, assumptionId, point, role, wellFormed, named, left, inLeft,
        right, inRight, differ, waives⟩
      exact ⟨left, inLeft, right, inRight, differ,
        (dutyExceptionsOverlap_iff (policy.exceptionsValid left inLeft)).mpr
          ⟨rule, member, request, assumptionId, point, role, wellFormed, named, waives⟩⟩
  rw [grants, exceptions]

end CsdFoundry.Policy

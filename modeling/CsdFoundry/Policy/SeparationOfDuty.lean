import CsdFoundry.Policy.Resolution
import CsdFoundry.Policy.Roles
import Mathlib

/-! Separation of duty: the roles an authority had before, the rules they conflict with, and the
exceptions that waive the conflicts. -/
namespace CsdFoundry.Policy
open Registry (RegistryEvent)
open Temporal (isToken)
variable {D : Type} [Sha256 D] [DigestText D] [DecidableEq D]

/-! ### The receipt -/

structure SeparationOfDutyRuleEvaluation (D : Type) where
  ruleId : String
  ruleDigest : D
  conflictingRoles : List GovernanceRole
  waivingExceptions : List (String × D)
  waivedRoles : List GovernanceRole
  remainingConflicts : List GovernanceRole
  deriving DecidableEq

/-- `_require_role_tuple`. -/
def requireRoleTuple (roles : List GovernanceRole) (code : String) : Except PolicyError Unit :=
  require (roles = orderedRoles fun role => role ∈ roles) (.governance code)

/-- The loop over the waiving exceptions, with the ids that were seen and the last of them. -/
def checkWaiving : List String → Option String → List (String × D) → Except PolicyError Unit
  | _, _, [] => .ok ()
  | seen, last, (exceptionId, _) :: rest => do
      require (isToken exceptionId = true) (.governance "SOD_RULE_EVALUATION_WAIVING_ID_INVALID")
      require (exceptionId ∉ seen) (.governance "SOD_RULE_EVALUATION_WAIVING_DUPLICATE")
      require (∀ earlier ∈ last, earlier < exceptionId)
        (.governance "SOD_RULE_EVALUATION_WAIVING_UNORDERED")
      checkWaiving (exceptionId :: seen) (some exceptionId) rest

/-- `__post_init__` of the evaluation of a rule. -/
def SeparationOfDutyRuleEvaluation.postInit (evaluation : SeparationOfDutyRuleEvaluation D) :
    Except PolicyError Unit := do
  require (isToken evaluation.ruleId = true) (.governance "SOD_RULE_EVALUATION_RULE_ID_INVALID")
  requireRoleTuple evaluation.conflictingRoles "SOD_RULE_EVALUATION_CONFLICTS_INVALID"
  requireRoleTuple evaluation.waivedRoles "SOD_RULE_EVALUATION_WAIVED_INVALID"
  requireRoleTuple evaluation.remainingConflicts "SOD_RULE_EVALUATION_REMAINING_INVALID"
  require (∀ role ∈ evaluation.waivedRoles, role ∈ evaluation.conflictingRoles)
    (.governance "SOD_RULE_EVALUATION_WAIVED_NOT_SUBSET")
  require (evaluation.remainingConflicts.toFinset =
      evaluation.conflictingRoles.toFinset \ evaluation.waivedRoles.toFinset)
    (.governance "SOD_RULE_EVALUATION_REMAINING_MISMATCH")
  checkWaiving [] none evaluation.waivingExceptions
  require (evaluation.waivingExceptions ≠ [] ↔ evaluation.waivedRoles ≠ [])
    (.governance "SOD_RULE_EVALUATION_WAIVING_INCONSISTENT")

inductive DutyResult where
  | allow
  | deny
  deriving DecidableEq

/-- The decision, less its digest over all of it. -/
structure SeparationOfDutyDecision (D : Type) where
  assumptionId : String
  candidateEntitySequence : Nat
  request : SelectionRequest
  eventSequence : Nat
  selectionDecisionType : DecisionType
  selectionDigest : D
  selectedGrantId : Option String
  grantDigest : Option D
  ledgerRootDigest : D
  policyDigest : D
  commitReceiptDigest : D
  priorRoles : List GovernanceRole
  ruleEvaluations : List (SeparationOfDutyRuleEvaluation D)
  evaluatedRuleDigests : List D
  conflictingRoles : List GovernanceRole
  waivingExceptionDigests : List D
  waivedRoles : List GovernanceRole
  remainingConflicts : List GovernanceRole
  decision : DutyResult
  deriving DecidableEq

/-- The union over the evaluations, in the frozen order of the roles. -/
def unionRoles (roles : SeparationOfDutyRuleEvaluation D → List GovernanceRole)
    (evaluations : List (SeparationOfDutyRuleEvaluation D)) : List GovernanceRole :=
  orderedRoles fun role => evaluations.any fun evaluation => role ∈ roles evaluation

/-- `pairs.sort(key=lambda pair: pair[0])`. -/
def sortPairs (pairs : List (String × D)) : List (String × D) :=
  pairs.mergeSort fun a b => a.1 ≤ b.1

def exceptionDigests (evaluations : List (SeparationOfDutyRuleEvaluation D)) : List D :=
  (sortPairs (evaluations.flatMap (·.waivingExceptions))).map (·.2)

def expectedDecision (selectionDecisionType : DecisionType)
    (evaluations : List (SeparationOfDutyRuleEvaluation D)) : DutyResult :=
  if selectionDecisionType = .selected then
    if evaluations.all (·.remainingConflicts = []) then .allow else .deny
  else .deny

namespace SeparationOfDutyDecision
variable (decision : SeparationOfDutyDecision D)

def checkScalars : Except PolicyError Unit := do
  require (isToken decision.assumptionId = true) (.governance "SOD_DECISION_ASSUMPTION_ID_INVALID")
  require (1 ≤ decision.candidateEntitySequence)
    (.governance "SOD_DECISION_CANDIDATE_SEQUENCE_INVALID")
  require (isToken decision.request.authorityId = true)
    (.governance "SOD_DECISION_AUTHORITY_ID_INVALID")
  require (isToken decision.request.scopeId = true) (.governance "SOD_DECISION_SCOPE_ID_INVALID")
  require (decision.request.action.resolution = true → decision.request.challengeMateriality ≠ none)
    (.governance "SOD_DECISION_CHALLENGE_MATERIALITY_REQUIRED")
  require (decision.request.action.resolution = false →
      decision.request.challengeMateriality = none)
    (.governance "SOD_DECISION_CHALLENGE_MATERIALITY_UNEXPECTED")
  requireRoleTuple decision.priorRoles "SOD_DECISION_PRIOR_ROLES_INVALID"

def checkOutcome : Except PolicyError Unit := do
  if decision.selectionDecisionType ≠ .selected then
    require (decision.selectedGrantId = none ∧ decision.grantDigest = none)
      (.governance "SOD_DECISION_DENIAL_GRANT_PRESENT")
    require (decision.priorRoles = []) (.governance "SOD_DECISION_DENIAL_PRIOR_ROLES_PRESENT")
    require (decision.ruleEvaluations = [])
      (.governance "SOD_DECISION_DENIAL_RULE_EVALUATIONS_PRESENT")
  else
    require (decision.selectedGrantId ≠ none) (.governance "SOD_DECISION_SELECTED_GRANT_MISSING")
    require (∀ grantId ∈ decision.selectedGrantId, isToken grantId = true)
      (.governance "SOD_DECISION_SELECTED_GRANT_ID_INVALID")
    require (decision.grantDigest ≠ none) (.governance "SOD_DECISION_SELECTED_GRANT_DIGEST_MISSING")

def checkEvaluations : Except PolicyError Unit := do
  require (∀ evaluation ∈ decision.ruleEvaluations, ∀ role ∈ evaluation.conflictingRoles,
      role ∈ decision.priorRoles) (.governance "SOD_DECISION_RULE_CONFLICT_NOT_PRIOR")
  require ((decision.ruleEvaluations.map (·.ruleId)).Pairwise (· ≤ ·))
    (.governance "SOD_DECISION_RULE_EVALUATIONS_UNORDERED")
  require (decision.ruleEvaluations.map (·.ruleId)).Nodup
    (.governance "SOD_DECISION_RULE_EVALUATIONS_DUPLICATE")
  require ((decision.ruleEvaluations.flatMap (·.waivingExceptions)).map (·.1)).Nodup
    (.governance "SOD_DECISION_CROSS_RULE_EXCEPTION_DUPLICATE")

def checkAggregates : Except PolicyError Unit := do
  require (decision.evaluatedRuleDigests = decision.ruleEvaluations.map (·.ruleDigest))
    (.governance "SOD_DECISION_RULE_DIGESTS_MISMATCH")
  require (decision.conflictingRoles = unionRoles (·.conflictingRoles) decision.ruleEvaluations)
    (.governance "SOD_DECISION_CONFLICTING_ROLES_MISMATCH")
  require (decision.waivedRoles = unionRoles (·.waivedRoles) decision.ruleEvaluations)
    (.governance "SOD_DECISION_WAIVED_ROLES_MISMATCH")
  require (decision.remainingConflicts = unionRoles (·.remainingConflicts) decision.ruleEvaluations)
    (.governance "SOD_DECISION_REMAINING_CONFLICTS_MISMATCH")
  require (decision.waivingExceptionDigests = exceptionDigests decision.ruleEvaluations)
    (.governance "SOD_DECISION_WAIVING_EXCEPTION_DIGESTS_MISMATCH")

/-- `__post_init__` of the decision. -/
def postInit : Except PolicyError Unit := do
  decision.checkScalars
  decision.checkOutcome
  decision.checkEvaluations
  decision.checkAggregates
  require (decision.decision =
      expectedDecision decision.selectionDecisionType decision.ruleEvaluations)
    (.governance "SOD_DECISION_RESULT_INCONSISTENT")

end SeparationOfDutyDecision

/-! ### The evaluator -/

/-- What the evaluator is asked, less the ledger. -/
structure DutyQuestion (D : Type) [DigestText D] where
  eventSequence : Nat
  request : SelectionRequest
  assumptionId : String
  candidateEntitySequence : Nat
  assumptionHistory : List (RegistryEvent D)

/-- `prior_set & set(rule.conflicting_roles)`. -/
def ruleConflicts (priorRoles : List GovernanceRole) (rule : AssumptionSeparationDutyRule) :
    List GovernanceRole :=
  orderedRoles fun role => role ∈ priorRoles && role ∈ rule.conflictingRoles

/-- The exceptions that apply under a rule and waive some of its conflicts. -/
def waivingExceptions (question : DutyQuestion D) (exceptions : List AssumptionDutyException)
    (priorRoles : List GovernanceRole) (rule : AssumptionSeparationDutyRule) :
    List AssumptionDutyException :=
  exceptions.filter fun exception =>
    exceptionApplies exception rule question.request question.assumptionId question.eventSequence &&
      meets exception.conflictingRoles (ruleConflicts priorRoles rule)

/-- One turn of the rule loop: the conflicts, the exceptions that waive some, and the rest. -/
def evaluateRule (question : DutyQuestion D) (exceptions : List AssumptionDutyException)
    (priorRoles : List GovernanceRole) (rule : AssumptionSeparationDutyRule) :
    SeparationOfDutyRuleEvaluation D :=
  let conflicts := ruleConflicts priorRoles rule
  let waiving := waivingExceptions question exceptions priorRoles rule
  let waived := orderedRoles fun role =>
    role ∈ conflicts && waiving.any fun exception => role ∈ exception.conflictingRoles
  { ruleId := rule.ruleId
    ruleDigest := rule.ruleDigest D
    conflictingRoles := conflicts
    waivingExceptions :=
      sortPairs (waiving.map fun exception => (exception.exceptionId, exception.exceptionDigest D))
    waivedRoles := waived
    remainingConflicts := orderedRoles fun role => role ∈ conflicts && role ∉ waived }

/-- The rule loop. -/
def evaluateRules (question : DutyQuestion D) (exceptions : List AssumptionDutyException)
    (priorRoles : List GovernanceRole) :
    List AssumptionSeparationDutyRule → Except PolicyError (List (SeparationOfDutyRuleEvaluation D))
  | [] => .ok []
  | rule :: rest =>
      if ruleApplies rule question.request = true then do
        let evaluation := evaluateRule question exceptions priorRoles rule
        evaluation.postInit
        let others ← evaluateRules question exceptions priorRoles rest
        return evaluation :: others
      else evaluateRules question exceptions priorRoles rest

/-- The receipt over the evaluations. -/
def receipt (question : DutyQuestion D) (resolved : ResolvedPolicyAtSequence D)
    (selection : GrantSelectionDecision D) (priorRoles : List GovernanceRole)
    (evaluations : List (SeparationOfDutyRuleEvaluation D)) : SeparationOfDutyDecision D where
  assumptionId := question.assumptionId
  candidateEntitySequence := question.candidateEntitySequence
  request := question.request
  eventSequence := question.eventSequence
  selectionDecisionType := selection.decisionType
  selectionDigest := selection.selectionDigest
  selectedGrantId := selection.selectedGrantId
  grantDigest := selection.grantDigest
  ledgerRootDigest := resolved.ledgerRootDigest
  policyDigest := resolved.policyDigest
  commitReceiptDigest := resolved.commitReceiptDigest
  priorRoles := priorRoles
  ruleEvaluations := evaluations
  evaluatedRuleDigests := evaluations.map (·.ruleDigest)
  conflictingRoles := unionRoles (·.conflictingRoles) evaluations
  waivingExceptionDigests := exceptionDigests evaluations
  waivedRoles := unionRoles (·.waivedRoles) evaluations
  remainingConflicts := unionRoles (·.remainingConflicts) evaluations
  decision := if evaluations.all (·.remainingConflicts = []) then .allow else .deny

/-- `_build_denial_decision`, before its checks. -/
def denialReceipt (question : DutyQuestion D) (resolved : ResolvedPolicyAtSequence D)
    (selection : GrantSelectionDecision D) : SeparationOfDutyDecision D where
  assumptionId := question.assumptionId
  candidateEntitySequence := question.candidateEntitySequence
  request := question.request
  eventSequence := question.eventSequence
  selectionDecisionType := selection.decisionType
  selectionDigest := selection.selectionDigest
  selectedGrantId := none
  grantDigest := none
  ledgerRootDigest := resolved.ledgerRootDigest
  policyDigest := resolved.policyDigest
  commitReceiptDigest := resolved.commitReceiptDigest
  priorRoles := []
  ruleEvaluations := []
  evaluatedRuleDigests := []
  conflictingRoles := []
  waivingExceptionDigests := []
  waivedRoles := []
  remainingConflicts := []
  decision := .deny

def evaluateSeparationOfDuty (ledger : AssumptionPolicyLedgerV3 D) (question : DutyQuestion D) :
    Except PolicyError (SeparationOfDutyDecision D) := do
  let resolved ← resolvePolicyAtV3 ledger question.eventSequence
  let selection ← selectApplicableGrantV3 ledger resolved question.request
  if selection.decisionType ≠ .selected then
    let decision := denialReceipt question resolved selection
    decision.postInit
    return decision
  else
    let source ← sourceEntryForResolution ledger resolved
    let priorRoles ← derivePriorGovernanceRoles question.assumptionHistory
      question.candidateEntitySequence question.request.authorityId
    require (∀ first ∈ question.assumptionHistory.head?, first.entityId = question.assumptionId)
      (.governance "SOD_HISTORY_ASSUMPTION_IDENTITY_MISMATCH")
    require (∀ event ∈ question.assumptionHistory,
        event.entitySequence < question.candidateEntitySequence →
          event.clockSequence < question.eventSequence)
      (.governance "SOD_HISTORY_CLOCK_NOT_PRIOR")
    let evaluations ← evaluateRules question source.policy.dutyExceptions priorRoles
      source.policy.separationDutyRules
    let decision := receipt question resolved selection priorRoles evaluations
    decision.postInit
    return decision

/-! ### The checks of the receipt -/

theorem requireRoleTuple_ordered {among : GovernanceRole → Bool} {code : String} :
    requireRoleTuple (orderedRoles among) code = .ok () := by
  rw [requireRoleTuple, require_ok]
  simp

omit [Sha256 D] [DigestText D] [DecidableEq D] in
theorem sortPairs_ascending {pairs : List (String × D)}
    (ascending : (pairs.map (·.1)).Pairwise (· < ·)) : sortPairs pairs = pairs := by
  apply List.mergeSort_of_pairwise
  apply (List.pairwise_map.mp ascending).imp
  intro a b below
  exact decide_eq_true (le_of_lt below)

omit [Sha256 D] [DigestText D] [DecidableEq D] in
theorem checkWaiving_ok {seen : List String} {last : Option String} {pairs : List (String × D)}
    (ascending : (pairs.map (·.1)).Pairwise (· < ·))
    (tokens : ∀ pair ∈ pairs, isToken pair.1 = true)
    (fresh : ∀ pair ∈ pairs, pair.1 ∉ seen) (above : ∀ pair ∈ pairs, ∀ id ∈ last, id < pair.1) :
    checkWaiving seen last pairs = .ok () := by
  induction pairs generalizing seen last with
  | nil => rfl
  | cons first rest ih =>
      rw [List.map_cons, List.pairwise_cons] at ascending
      rw [checkWaiving]
      simp only [require_bind_ok]
      refine ⟨tokens first List.mem_cons_self, fresh first List.mem_cons_self,
        above first List.mem_cons_self, ?_⟩
      have later : ∀ pair ∈ rest, first.1 < pair.1 := fun pair member =>
        ascending.1 pair.1 (List.mem_map_of_mem member)
      apply ih ascending.2 fun pair member => tokens pair (List.mem_cons_of_mem _ member)
      · intro pair member seenAgain
        rcases List.mem_cons.mp seenAgain with same | earlier
        · exact absurd (later pair member) (by rw [same]; exact lt_irrefl _)
        · exact fresh pair (List.mem_cons_of_mem _ member) earlier
      · intro pair member id given
        rw [← Option.some.inj given]
        exact later pair member

section Rules
variable {question : DutyQuestion D} {policy : AssumptionAuthorityPolicy D}
  {priorRoles : List GovernanceRole} {rule : AssumptionSeparationDutyRule}

theorem mem_ruleConflicts {role : GovernanceRole} :
    role ∈ ruleConflicts priorRoles rule ↔ role ∈ priorRoles ∧ role ∈ rule.conflictingRoles := by
  simp [ruleConflicts]

omit [Sha256 D] [DecidableEq D] in
theorem mem_waivingExceptions {exceptions : List AssumptionDutyException}
    {exception : AssumptionDutyException} :
    exception ∈ waivingExceptions question exceptions priorRoles rule ↔ exception ∈ exceptions ∧
      exceptionApplies exception rule question.request question.assumptionId
        question.eventSequence = true ∧
      ∃ role, role ∈ exception.conflictingRoles ∧ role ∈ ruleConflicts priorRoles rule := by
  rw [waivingExceptions, List.mem_filter, Bool.and_eq_true, meets_iff]

omit [Sha256 D] [DecidableEq D] in
/-- The ids of the waiving exceptions ascend, as those of the policy do. -/
theorem waivingExceptions_ascending :
    ((waivingExceptions question policy.dutyExceptions priorRoles rule).map
      (·.exceptionId)).Pairwise (· < ·) := by
  apply List.pairwise_map.mpr
  exact (List.pairwise_map.mp policy.exceptionsOrdered).filter _

omit [DecidableEq D] in
theorem mem_waivedRoles {exceptions : List AssumptionDutyException} {role : GovernanceRole} :
    role ∈ (evaluateRule question exceptions priorRoles rule).waivedRoles ↔
      role ∈ ruleConflicts priorRoles rule ∧
      ∃ exception ∈ waivingExceptions question exceptions priorRoles rule,
        role ∈ exception.conflictingRoles := by
  simp only [evaluateRule, mem_orderedRoles, Bool.and_eq_true, decide_eq_true_eq, List.any_eq_true]

omit [DecidableEq D] in
theorem mem_remainingConflicts {exceptions : List AssumptionDutyException} {role : GovernanceRole} :
    role ∈ (evaluateRule question exceptions priorRoles rule).remainingConflicts ↔
      role ∈ (evaluateRule question exceptions priorRoles rule).conflictingRoles ∧
      role ∉ (evaluateRule question exceptions priorRoles rule).waivedRoles := by
  simp only [evaluateRule, mem_orderedRoles, Bool.and_eq_true, decide_eq_true_eq]

omit [DecidableEq D] in
theorem evaluateRule_waiving :
    (evaluateRule question policy.dutyExceptions priorRoles rule).waivingExceptions =
      (waivingExceptions question policy.dutyExceptions priorRoles rule).map
        fun exception => (exception.exceptionId, exception.exceptionDigest D) := by
  rw [evaluateRule]
  apply sortPairs_ascending
  rw [List.map_map]
  exact waivingExceptions_ascending

omit [DecidableEq D] in
/-- The evaluation of a rule of the policy passes its own checks. -/
theorem evaluateRule_postInit :
    (evaluateRule question policy.dutyExceptions priorRoles rule).postInit = .ok () := by
  have waiving : (evaluateRule question policy.dutyExceptions priorRoles rule).waivingExceptions =
      _ := evaluateRule_waiving
  have checked : checkWaiving [] none
      (evaluateRule question policy.dutyExceptions priorRoles rule).waivingExceptions = .ok () := by
    rw [waiving]
    apply checkWaiving_ok
    · rw [List.map_map]
      exact waivingExceptions_ascending
    · intro pair member
      obtain ⟨exception, -, rfl⟩ := List.mem_map.mp member
      exact exception.named
    · intro pair _ seen
      cases seen
    · intro pair _ id none
      cases none
  have conflicts {code : String} : requireRoleTuple
      (evaluateRule question policy.dutyExceptions priorRoles rule).conflictingRoles code = .ok () := by
    simp only [evaluateRule, ruleConflicts, requireRoleTuple_ordered]
  have waived {code : String} : requireRoleTuple
      (evaluateRule question policy.dutyExceptions priorRoles rule).waivedRoles code = .ok () := by
    simp only [evaluateRule, requireRoleTuple_ordered]
  have remaining {code : String} : requireRoleTuple
      (evaluateRule question policy.dutyExceptions priorRoles rule).remainingConflicts code =
        .ok () := by
    simp only [evaluateRule, requireRoleTuple_ordered]
  rw [SeparationOfDutyRuleEvaluation.postInit]
  refine require_bind_ok.mpr ⟨rule.named, bind_ok.mpr ⟨(), conflicts, bind_ok.mpr ⟨(), waived,
    bind_ok.mpr ⟨(), remaining, require_bind_ok.mpr ⟨?_, require_bind_ok.mpr ⟨?_,
      bind_ok.mpr ⟨(), checked, require_ok.mpr ?_⟩⟩⟩⟩⟩⟩⟩
  · intro role waives
    exact (mem_waivedRoles.mp waives).1
  · ext role
    rw [Finset.mem_sdiff, List.mem_toFinset, List.mem_toFinset, List.mem_toFinset]
    exact mem_remainingConflicts
  · rw [waiving, ne_eq, List.map_eq_nil_iff]
    constructor
    · intro some
      obtain ⟨exception, member⟩ := List.exists_mem_of_ne_nil _ some
      obtain ⟨-, -, role, among, conflicting⟩ := mem_waivingExceptions.mp member
      exact List.ne_nil_of_mem (mem_waivedRoles.mpr ⟨conflicting, exception, member, among⟩)
    · intro some
      obtain ⟨role, waives⟩ := List.exists_mem_of_ne_nil _ some
      obtain ⟨-, exception, member, -⟩ := mem_waivedRoles.mp waives
      exact List.ne_nil_of_mem member

omit [DecidableEq D] in
theorem evaluateRules_ok {rules : List AssumptionSeparationDutyRule} :
    evaluateRules question policy.dutyExceptions priorRoles rules =
      .ok ((rules.filter fun rule => ruleApplies rule question.request).map
        (evaluateRule question policy.dutyExceptions priorRoles)) := by
  induction rules with
  | nil => rfl
  | cons rule rest ih =>
      rw [evaluateRules]
      by_cases applies : ruleApplies rule question.request = true
      · rw [if_pos applies, List.filter_cons, if_pos applies]
        exact bind_ok.mpr ⟨(), evaluateRule_postInit, bind_ok.mpr ⟨_, ih, rfl⟩⟩
      · rw [if_neg applies, List.filter_cons, if_neg applies, ih]

omit [DecidableEq D] in
/-- No conflict of the rule remains exactly when an exception of the rule covers each. -/
theorem evaluateRule_remaining {exceptions : List AssumptionDutyException} :
    (evaluateRule question exceptions priorRoles rule).remainingConflicts = [] ↔
      ∀ role ∈ priorRoles, role ∈ rule.conflictingRoles → ∃ exception ∈ exceptions,
        exceptionApplies exception rule question.request question.assumptionId
          question.eventSequence = true ∧ role ∈ exception.conflictingRoles := by
  rw [List.eq_nil_iff_forall_not_mem]
  have conflicts : ∀ {role}, role ∈ (evaluateRule question exceptions priorRoles
      rule).conflictingRoles ↔ role ∈ priorRoles ∧ role ∈ rule.conflictingRoles :=
    mem_ruleConflicts
  constructor
  · intro none role prior conflicting
    by_contra uncovered
    apply none role
    refine mem_remainingConflicts.mpr ⟨conflicts.mpr ⟨prior, conflicting⟩, ?_⟩
    intro waives
    obtain ⟨-, exception, member, among⟩ := mem_waivedRoles.mp waives
    obtain ⟨inPolicy, applies, -⟩ := mem_waivingExceptions.mp member
    exact uncovered ⟨exception, inPolicy, applies, among⟩
  · intro covered role remains
    obtain ⟨conflict, unwaived⟩ := mem_remainingConflicts.mp remains
    obtain ⟨prior, conflicting⟩ := conflicts.mp conflict
    obtain ⟨exception, inPolicy, applies, among⟩ := covered role prior conflicting
    apply unwaived
    have waiving := mem_waivingExceptions.mpr ⟨inPolicy, applies, role, among, conflict⟩
    exact mem_waivedRoles.mpr ⟨conflict, exception, waiving, among⟩

omit [DecidableEq D] in
/-- One exception is of one rule, so no id appears under two. -/
theorem evaluations_distinct {rules : List AssumptionSeparationDutyRule}
    (ordered : (rules.map (·.ruleId)).Pairwise (· < ·)) :
    (((rules.map (evaluateRule question policy.dutyExceptions priorRoles)).flatMap
      (·.waivingExceptions)).map (·.1)).Nodup := by
  rw [List.map_flatMap, List.flatMap_map, List.nodup_flatMap]
  have ids : ∀ rule, ((evaluateRule question policy.dutyExceptions priorRoles
      rule).waivingExceptions).map (·.1) =
      (waivingExceptions question policy.dutyExceptions priorRoles rule).map (·.exceptionId) := by
    intro rule
    rw [evaluateRule_waiving, List.map_map]
    rfl
  constructor
  · intro rule _
    rw [ids]
    exact waivingExceptions_ascending.imp ne_of_lt
  · apply (List.pairwise_map.mp ordered).imp
    intro a b below
    rw [Function.onFun, ids, ids, List.disjoint_left]
    intro id inA inB
    obtain ⟨first, waivesA, rfl⟩ := List.mem_map.mp inA
    obtain ⟨second, waivesB, same⟩ := List.mem_map.mp inB
    obtain ⟨memberA, appliesA, -⟩ := mem_waivingExceptions.mp waivesA
    obtain ⟨memberB, appliesB, -⟩ := mem_waivingExceptions.mp waivesB
    have distinct : (policy.dutyExceptions.map (·.exceptionId)).Nodup :=
      policy.exceptionsOrdered.imp ne_of_lt
    obtain rfl := List.inj_on_of_nodup_map distinct memberB memberA same
    have ruleA := (exceptionApplies_iff.mp appliesA).1
    have ruleB := (exceptionApplies_iff.mp appliesB).1
    exact absurd below (by rw [← ruleA, ← ruleB]; exact lt_irrefl _)

/-! ### The decision -/

/-- The evaluations of the applicable rules of the policy. -/
def evaluationsOf (question : DutyQuestion D) (policy : AssumptionAuthorityPolicy D)
    (priorRoles : List GovernanceRole) : List (SeparationOfDutyRuleEvaluation D) :=
  (policy.separationDutyRules.filter fun rule => ruleApplies rule question.request).map
    (evaluateRule question policy.dutyExceptions priorRoles)

theorem derivePriorGovernanceRoles_canonical
    {code : String} (derived : derivePriorGovernanceRoles question.assumptionHistory
      question.candidateEntitySequence question.request.authorityId = .ok priorRoles) :
    requireRoleTuple priorRoles code = .ok () := by
  rw [derivePriorGovernanceRoles] at derived
  obtain ⟨-, derived⟩ := require_bind_ok.mp derived
  obtain ⟨-, derived⟩ := require_bind_ok.mp derived
  split at derived
  · obtain ⟨-, same⟩ := require_bind_ok.mp derived
    cases same
    exact require_ok.mpr rfl
  · obtain ⟨_, -, derived⟩ := bind_ok.mp derived
    obtain ⟨-, derived⟩ := require_bind_ok.mp derived
    obtain ⟨observed, -, same⟩ := bind_ok.mp derived
    rw [← Except.ok.inj same]
    exact requireRoleTuple_ordered

/-- What the checks of either receipt ask of the question. -/
structure DutyQuestion.Fit (question : DutyQuestion D) : Prop where
  wellFormed : question.request.WellFormed
  assumption : isToken question.assumptionId = true
  candidate : 1 ≤ question.candidateEntitySequence

omit [Sha256 D] [DigestText D] [DecidableEq D] in
theorem checkScalars_ok {decision : SeparationOfDutyDecision D}
    (roles : requireRoleTuple decision.priorRoles "SOD_DECISION_PRIOR_ROLES_INVALID" = .ok ()) :
    decision.checkScalars = .ok () ↔ isToken decision.assumptionId = true ∧
      1 ≤ decision.candidateEntitySequence ∧ decision.request.WellFormed := by
  rw [SeparationOfDutyDecision.checkScalars]
  simp only [require_bind_ok, roles, and_true]
  constructor
  · rintro ⟨assumption, candidate, authority, scope, needed, unexpected⟩
    refine ⟨assumption, candidate, authority, scope, narrow_of_token scope, ?_⟩
    cases resolution : decision.request.action.resolution with
    | true => exact Option.isSome_iff_ne_none.mpr (needed resolution)
    | false =>
        rw [unexpected resolution]
        rfl
  · rintro ⟨assumption, candidate, wellFormed⟩
    refine ⟨assumption, candidate, wellFormed.authority, wellFormed.scope, ?_, ?_⟩
    · intro resolution
      rw [← Option.isSome_iff_ne_none, wellFormed.challenge, resolution]
    · intro resolution
      rw [← Option.isNone_iff_eq_none, ← Option.isSome_eq_false_iff, wellFormed.challenge,
        resolution]

omit [DecidableEq D] in
theorem checkEvaluations_ok {decision : SeparationOfDutyDecision D}
    (roles : decision.priorRoles = priorRoles)
    (evaluations : decision.ruleEvaluations = evaluationsOf question policy priorRoles) :
    decision.checkEvaluations = .ok () := by
  have ordered : ((policy.separationDutyRules.filter fun rule =>
      ruleApplies rule question.request).map (·.ruleId)).Pairwise (· < ·) :=
    List.pairwise_map.mpr ((List.pairwise_map.mp policy.rulesOrdered).filter _)
  have ids : (evaluationsOf question policy priorRoles).map (·.ruleId) =
      (policy.separationDutyRules.filter fun rule =>
        ruleApplies rule question.request).map (·.ruleId) := by
    rw [evaluationsOf, List.map_map]
    rfl
  rw [SeparationOfDutyDecision.checkEvaluations]
  simp only [require_bind_ok, require_ok, evaluations, roles, ids]
  refine ⟨?_, ordered.imp le_of_lt, ordered.imp ne_of_lt, evaluations_distinct ordered⟩
  intro evaluation member role conflicting
  obtain ⟨rule, -, rfl⟩ := List.mem_map.mp member
  exact (mem_ruleConflicts.mp conflicting).1

theorem receipt_postInit {resolved : ResolvedPolicyAtSequence D} {grant : AssumptionAuthorityGrant}
    {selection : GrantSelectionDecision D} (selected : selection.decisionType = .selected)
    (named : selection.selectedGrantId = some grant.grantId)
    (bound : selection.grantDigest = some (grant.grantDigest D))
    (roles : ∀ code, requireRoleTuple priorRoles code = .ok ()) :
    (receipt question resolved selection priorRoles
      (evaluationsOf question policy priorRoles)).postInit = .ok () ↔ question.Fit := by
  have outcome : (receipt question resolved selection priorRoles
      (evaluationsOf question policy priorRoles)).checkOutcome = .ok () := by
    simp [SeparationOfDutyDecision.checkOutcome, receipt, selected, named, bound, require_bind_ok,
      require_ok, grant.named]
  have evaluations : (receipt question resolved selection priorRoles
      (evaluationsOf question policy priorRoles)).checkEvaluations = .ok () :=
    checkEvaluations_ok rfl rfl
  have aggregates : (receipt question resolved selection priorRoles
      (evaluationsOf question policy priorRoles)).checkAggregates = .ok () := by
    simp [SeparationOfDutyDecision.checkAggregates, receipt, require_bind_ok, require_ok]
  rw [SeparationOfDutyDecision.postInit]
  simp only [bind_ok, outcome, evaluations, aggregates, exists_const, true_and, require_ok,
    @checkScalars_ok _ (receipt question resolved selection priorRoles
      (evaluationsOf question policy priorRoles)) (roles _)]
  constructor
  · rintro ⟨⟨assumption, candidate, wellFormed⟩, -⟩
    exact ⟨wellFormed, assumption, candidate⟩
  · rintro ⟨wellFormed, assumption, candidate⟩
    refine ⟨⟨assumption, candidate, wellFormed⟩, ?_⟩
    simp [receipt, expectedDecision, selected]

theorem denialReceipt_postInit {resolved : ResolvedPolicyAtSequence D}
    {selection : GrantSelectionDecision D} (denied : selection.decisionType ≠ .selected) :
    (denialReceipt question resolved selection).postInit = .ok () ↔ question.Fit := by
  have outcome : (denialReceipt question resolved selection).checkOutcome = .ok () := by
    simp [SeparationOfDutyDecision.checkOutcome, denialReceipt, denied, require_bind_ok, require_ok]
  have evaluations : (denialReceipt question resolved selection).checkEvaluations = .ok () := by
    simp [SeparationOfDutyDecision.checkEvaluations, denialReceipt, require_bind_ok, require_ok]
  have aggregates : (denialReceipt question resolved selection).checkAggregates = .ok () := by
    simp [SeparationOfDutyDecision.checkAggregates, denialReceipt, require_bind_ok, require_ok,
      unionRoles, orderedRoles, exceptionDigests, sortPairs]
  have roles : requireRoleTuple (denialReceipt question resolved selection).priorRoles
      "SOD_DECISION_PRIOR_ROLES_INVALID" = .ok () := require_ok.mpr rfl
  rw [SeparationOfDutyDecision.postInit]
  simp only [bind_ok, outcome, evaluations, aggregates, exists_const, true_and, require_ok,
    checkScalars_ok roles]
  constructor
  · rintro ⟨⟨assumption, candidate, wellFormed⟩, -⟩
    exact ⟨wellFormed, assumption, candidate⟩
  · rintro ⟨wellFormed, assumption, candidate⟩
    refine ⟨⟨assumption, candidate, wellFormed⟩, ?_⟩
    simp [denialReceipt, expectedDecision, denied]

/-- The history is that of the assumption, and what precedes the candidate precedes the event. -/
structure DutyQuestion.Bound (question : DutyQuestion D) : Prop where
  identity : ∀ first ∈ question.assumptionHistory.head?, first.entityId = question.assumptionId
  clock : ∀ event ∈ question.assumptionHistory,
    event.entitySequence < question.candidateEntitySequence →
      event.clockSequence < question.eventSequence

/-- The two ways to an answer: a denial that looks at no history, or the evaluation of the rules. -/
theorem evaluateSeparationOfDuty_ok {ledger : AssumptionPolicyLedgerV3 D}
    {resolved : ResolvedPolicyAtSequence D} {source : AssumptionPolicyLedgerEntryV3 D}
    {decision : SeparationOfDutyDecision D}
    (resolution : resolvePolicyAtV3 ledger question.eventSequence = .ok resolved)
    (sourced : sourceEntryForResolution ledger resolved = .ok source)
    {selection : GrantSelectionDecision D}
    (selects : selection = selectionOf resolved question.request
      (source.policy.covering question.request resolved.eventSequence)) :
    evaluateSeparationOfDuty ledger question = .ok decision ↔ question.Fit ∧
      ((selection.decisionType ≠ .selected ∧
          decision = denialReceipt question resolved selection) ∨
        (selection.decisionType = .selected ∧ question.Bound ∧ ∃ priorRoles,
          derivePriorGovernanceRoles question.assumptionHistory question.candidateEntitySequence
            question.request.authorityId = .ok priorRoles ∧
          decision = receipt question resolved selection priorRoles
            (evaluationsOf question source.policy priorRoles))) := by
  have walk : evaluateSeparationOfDuty ledger question = .ok decision ↔
      question.request.WellFormed ∧ (if selection.decisionType ≠ .selected then
        (do
          let decision := denialReceipt question resolved selection
          decision.postInit
          return decision)
      else do
        let priorRoles ← derivePriorGovernanceRoles question.assumptionHistory
          question.candidateEntitySequence question.request.authorityId
        require (∀ first ∈ question.assumptionHistory.head?, first.entityId = question.assumptionId)
          (.governance "SOD_HISTORY_ASSUMPTION_IDENTITY_MISMATCH")
        require (∀ event ∈ question.assumptionHistory,
            event.entitySequence < question.candidateEntitySequence →
              event.clockSequence < question.eventSequence)
          (.governance "SOD_HISTORY_CLOCK_NOT_PRIOR")
        let evaluations ← evaluateRules question source.policy.dutyExceptions priorRoles
          source.policy.separationDutyRules
        let decision := receipt question resolved selection priorRoles evaluations
        decision.postInit
        return decision) = .ok decision := by
    rw [evaluateSeparationOfDuty, resolution]
    constructor
    · intro evaluated
      obtain ⟨_, same, evaluated⟩ := bind_ok.mp evaluated
      cases same
      obtain ⟨chosen, selected, evaluated⟩ := bind_ok.mp evaluated
      obtain ⟨wellFormed, rfl⟩ := (selectApplicableGrantV3_ok sourced).mp selected
      subst selects
      refine ⟨wellFormed, ?_⟩
      rw [sourced] at evaluated
      exact evaluated
    · rintro ⟨wellFormed, evaluated⟩
      have selected := (selectApplicableGrantV3_ok sourced).mpr ⟨wellFormed, selects⟩
      refine bind_ok.mpr ⟨resolved, rfl, bind_ok.mpr ⟨selection, selected, ?_⟩⟩
      rw [sourced]
      exact evaluated
  rw [walk]
  by_cases denied : selection.decisionType ≠ .selected
  · rw [if_pos denied, bind_ok]
    constructor
    · rintro ⟨-, _, checked, same⟩
      exact ⟨(denialReceipt_postInit denied).mp checked, .inl ⟨denied, (Except.ok.inj same).symm⟩⟩
    · rintro ⟨fit, ⟨-, rfl⟩ | ⟨selected, -⟩⟩
      · exact ⟨fit.wellFormed, (), (denialReceipt_postInit denied).mpr fit, rfl⟩
      · exact absurd selected denied
  · have selected := not_not.mp denied
    obtain ⟨grant, named, bound⟩ : ∃ grant : AssumptionAuthorityGrant,
        selection.selectedGrantId = some grant.grantId ∧
        selection.grantDigest = some (grant.grantDigest D) := by
      subst selects
      match covered : source.policy.covering question.request resolved.eventSequence with
      | [] => simp [selectionOf, covered, decisionTypeOf] at selected
      | [grant] => exact ⟨grant, rfl, rfl⟩
      | _ :: _ :: _ => simp [selectionOf, covered, decisionTypeOf] at selected
    rw [if_neg denied, bind_ok]
    constructor
    · rintro ⟨-, priorRoles, derived, evaluated⟩
      obtain ⟨identity, evaluated⟩ := require_bind_ok.mp evaluated
      obtain ⟨clock, evaluated⟩ := require_bind_ok.mp evaluated
      obtain ⟨evaluations, ruled, evaluated⟩ := bind_ok.mp evaluated
      obtain ⟨_, checked, same⟩ := bind_ok.mp evaluated
      obtain rfl : evaluationsOf question source.policy priorRoles = evaluations :=
        Except.ok.inj (evaluateRules_ok.symm.trans ruled)
      have fit := (receipt_postInit selected named bound fun _ =>
        derivePriorGovernanceRoles_canonical derived).mp checked
      exact ⟨fit, .inr ⟨selected, ⟨identity, clock⟩, priorRoles, derived,
        (Except.ok.inj same).symm⟩⟩
    · rintro ⟨fit, ⟨other, -⟩ | ⟨-, ⟨identity, clock⟩, priorRoles, derived, rfl⟩⟩
      · exact absurd other denied
      · refine ⟨fit.wellFormed, priorRoles, derived, require_bind_ok.mpr ⟨identity,
          require_bind_ok.mpr ⟨clock, bind_ok.mpr ⟨_, evaluateRules_ok, bind_ok.mpr ⟨(), ?_, rfl⟩⟩⟩⟩⟩
        exact (receipt_postInit selected named bound fun _ =>
          derivePriorGovernanceRoles_canonical derived).mpr fit

end Rules

/-! ### Exactness and monotonicity -/

/-- Exactly one grant of the policy covers the request. -/
def SoleGrant (policy : AssumptionAuthorityPolicy D) (question : DutyQuestion D) : Prop :=
  ∃! grant, grant ∈ policy.grants ∧
    grantCoversRequest grant question.request question.eventSequence = true

/-- The authority had the role before the candidate event. -/
def HeldBefore (question : DutyQuestion D) (role : GovernanceRole) : Prop :=
  ∃ event ∈ question.assumptionHistory, event.entitySequence < question.candidateEntitySequence ∧
    Performs event question.request.authorityId role

/-- Every role held before that conflicts under an applicable rule is covered by an exception of
that rule. -/
def Separated (policy : AssumptionAuthorityPolicy D) (question : DutyQuestion D) : Prop :=
  ∀ rule ∈ policy.separationDutyRules, ruleApplies rule question.request = true →
    ∀ role ∈ rule.conflictingRoles, HeldBefore question role →
      ∃ exception ∈ policy.dutyExceptions,
        exceptionApplies exception rule question.request question.assumptionId
          question.eventSequence = true ∧ role ∈ exception.conflictingRoles

variable {question : DutyQuestion D} {ledger : AssumptionPolicyLedgerV3 D}
  {source : AssumptionPolicyLedgerEntryV3 D} {decision : SeparationOfDutyDecision D}

omit [Sha256 D] [DecidableEq D] in
theorem decisionTypeOf_selected {policy : AssumptionAuthorityPolicy D} :
    decisionTypeOf (policy.covering question.request question.eventSequence) = .selected ↔
      SoleGrant policy question := decisionTypeOf_covering

theorem governed (governs : governingEntry ledger.entries question.eventSequence = some source) :
    ∃ resolved, resolvePolicyAtV3 ledger question.eventSequence = .ok resolved ∧
      sourceEntryForResolution ledger resolved = .ok source ∧
      resolved.eventSequence = question.eventSequence := by
  obtain ⟨resolved, bound⟩ :=
    @fromEntry_ok _ _ _ _ source ledger _ (ledger.governingEntry_latest.mp governs).2.1
  exact ⟨resolved, resolvePolicyAtV3_ok.mpr ⟨source, governs, bound⟩,
    sourceEntryForResolution_ok governs bound, (fromEntry_digest bound).1⟩

/-- What an answer needs, which no rule and no exception has a part in. -/
theorem evaluateSeparationOfDuty_answers
    (governs : governingEntry ledger.entries question.eventSequence = some source) :
    (∃ decision, evaluateSeparationOfDuty ledger question = .ok decision) ↔ question.Fit ∧
      (SoleGrant source.policy question → question.Bound ∧ ∃ priorRoles,
        derivePriorGovernanceRoles question.assumptionHistory question.candidateEntitySequence
          question.request.authorityId = .ok priorRoles) := by
  obtain ⟨resolved, resolution, sourced, asked⟩ := governed governs
  simp only [evaluateSeparationOfDuty_ok resolution sourced rfl, selectionOf, asked, ne_eq,
    decisionTypeOf_selected]
  constructor
  · rintro ⟨decision, fit, ⟨denied, -⟩ | ⟨-, bound, priorRoles, derived, -⟩⟩
    · exact ⟨fit, fun granted => absurd granted denied⟩
    · exact ⟨fit, fun _ => ⟨bound, priorRoles, derived⟩⟩
  · rintro ⟨fit, answers⟩
    by_cases granted : SoleGrant source.policy question
    · obtain ⟨bound, priorRoles, derived⟩ := answers granted
      exact ⟨_, fit, .inr ⟨granted, bound, priorRoles, derived, rfl⟩⟩
    · exact ⟨_, fit, .inl ⟨granted, rfl⟩⟩

/-- An answer allows exactly what the policy allows. -/
theorem evaluateSeparationOfDuty_allows
    (governs : governingEntry ledger.entries question.eventSequence = some source)
    (evaluated : evaluateSeparationOfDuty ledger question = .ok decision) :
    decision.decision = .allow ↔
      SoleGrant source.policy question ∧ Separated source.policy question := by
  obtain ⟨resolved, resolution, sourced, asked⟩ := governed governs
  obtain ⟨fit, answer⟩ := (evaluateSeparationOfDuty_ok resolution sourced rfl).mp evaluated
  simp only [selectionOf, asked, ne_eq, decisionTypeOf_selected] at answer
  rcases answer with ⟨denied, rfl⟩ | ⟨granted, bound, priorRoles, derived, rfl⟩
  · simp [denialReceipt, denied]
  · obtain ⟨candidate, ⟨state, projected⟩, genesis, within⟩ :=
      derivePriorGovernanceRoles_replays derived
    have history : PriorHistory question.assumptionHistory question.assumptionId
        question.candidateEntitySequence question.eventSequence := by
      refine ⟨⟨state, projected⟩, ?_, candidate, genesis, within, bound.clock⟩
      intro event member
      rcases Assumptions.project_some projected with ⟨none, -⟩ | ⟨a, -, folds⟩
      · rw [none] at member
        cases member
      · cases shape : question.assumptionHistory with
        | nil =>
            rw [shape] at member
            cases member
        | cons first rest =>
            have entity := folds.ordered.entity
            have here := bound.identity first (by rw [shape]; rfl)
            rw [entity event member, ← here, entity first (by rw [shape]; exact List.mem_cons_self)]
    obtain ⟨found, again, roles⟩ := derivePriorGovernanceRoles_ok history fit.wellFormed.authority
    obtain rfl : found = priorRoles := Except.ok.inj (again.symm.trans derived)
    have result : (receipt question resolved (selectionOf resolved question.request
        (source.policy.covering question.request resolved.eventSequence)) found
        (evaluationsOf question source.policy found)).decision = .allow ↔
        ∀ evaluation ∈ evaluationsOf question source.policy found,
          evaluation.remainingConflicts = [] := by
      simp [receipt]
    have separated : (∀ evaluation ∈ evaluationsOf question source.policy found,
        evaluation.remainingConflicts = []) ↔ Separated source.policy question := by
      simp only [evaluationsOf, List.forall_mem_map, List.mem_filter, evaluateRule_remaining, roles]
      constructor
      · intro covered rule member applies role conflicting held
        exact covered rule ⟨member, applies⟩ role held conflicting
      · rintro covered rule ⟨member, applies⟩ role held conflicting
        exact covered rule member applies role conflicting held
    have same := result.trans separated
    constructor
    · intro allowed
      exact ⟨granted, same.mp allowed⟩
    · rintro ⟨-, apart⟩
      exact same.mpr apart

omit [Sha256 D] [DecidableEq D] in
theorem soleGrant_congr {before after : AssumptionAuthorityPolicy D}
    (same : after.grants = before.grants) : SoleGrant after question ↔ SoleGrant before question := by
  rw [SoleGrant, SoleGrant, same]

/-- The answers of policies with the same grants exist together. -/
theorem evaluateSeparationOfDuty_congr {after : AssumptionPolicyLedgerV3 D}
    {source' : AssumptionPolicyLedgerEntryV3 D}
    (governs : governingEntry ledger.entries question.eventSequence = some source)
    (governs' : governingEntry after.entries question.eventSequence = some source')
    (same : source'.policy.grants = source.policy.grants)
    (evaluated : evaluateSeparationOfDuty ledger question = .ok decision) :
    ∃ decision', evaluateSeparationOfDuty after question = .ok decision' := by
  obtain ⟨fit, answers⟩ := (evaluateSeparationOfDuty_answers governs).mp ⟨decision, evaluated⟩
  apply (evaluateSeparationOfDuty_answers governs').mpr
  refine ⟨fit, ?_⟩
  intro granted
  exact answers ((soleGrant_congr same).mp granted)

omit [Sha256 D] [DigestText D] [DecidableEq D] in
theorem deny_iff : decision.decision = .deny ↔ decision.decision ≠ .allow := by
  cases decision.decision with
  | allow => simp
  | deny => simp

/-- The evaluator answers every valid question, allows exactly what the one applicable grant and
the exceptions of each applicable rule allow, only allows more under more exceptions, and only
allows less under more rules. -/
theorem evaluateSeparationOfDuty_exact :
    (∀ (ledger : AssumptionPolicyLedgerV3 D) question source,
      governingEntry ledger.entries question.eventSequence = some source →
      question.request.WellFormed → isToken question.assumptionId = true →
      PriorHistory question.assumptionHistory question.assumptionId
        question.candidateEntitySequence question.eventSequence →
      ∃ decision, evaluateSeparationOfDuty ledger question = .ok decision) ∧
    (∀ (ledger : AssumptionPolicyLedgerV3 D) question source decision,
      governingEntry ledger.entries question.eventSequence = some source →
      evaluateSeparationOfDuty ledger question = .ok decision →
      (decision.decision = .allow ↔
        SoleGrant source.policy question ∧ Separated source.policy question)) ∧
    (∀ (ledger after : AssumptionPolicyLedgerV3 D) question source source' decision,
      governingEntry ledger.entries question.eventSequence = some source →
      governingEntry after.entries question.eventSequence = some source' →
      source'.policy.grants = source.policy.grants →
      source'.policy.separationDutyRules = source.policy.separationDutyRules →
      source.policy.dutyExceptions ⊆ source'.policy.dutyExceptions →
      evaluateSeparationOfDuty ledger question = .ok decision →
      ∃ decision', evaluateSeparationOfDuty after question = .ok decision' ∧
        (decision.decision = .allow → decision'.decision = .allow) ∧
        (¬ SoleGrant source.policy question → decision'.decision = .deny)) ∧
    ∀ (ledger after : AssumptionPolicyLedgerV3 D) question source source' decision,
      governingEntry ledger.entries question.eventSequence = some source →
      governingEntry after.entries question.eventSequence = some source' →
      source'.policy.grants = source.policy.grants →
      source.policy.separationDutyRules ⊆ source'.policy.separationDutyRules →
      source'.policy.dutyExceptions = source.policy.dutyExceptions →
      evaluateSeparationOfDuty ledger question = .ok decision →
      ∃ decision', evaluateSeparationOfDuty after question = .ok decision' ∧
        (decision.decision = .deny → decision'.decision = .deny) := by
  refine ⟨?_, ?_, ?_, ?_⟩
  · intro ledger question source governs wellFormed assumption history
    apply (evaluateSeparationOfDuty_answers governs).mpr
    refine ⟨⟨wellFormed, assumption, history.candidate⟩, ?_⟩
    intro _
    obtain ⟨prior, derived, -⟩ := derivePriorGovernanceRoles_ok history wellFormed.authority
    refine ⟨⟨?_, history.prior⟩, prior, derived⟩
    intro first given
    exact history.entity first (List.mem_of_mem_head? given)
  · intro ledger question source decision governs evaluated
    exact evaluateSeparationOfDuty_allows governs evaluated
  · intro ledger after question source source' decision governs governs' grants rules more evaluated
    obtain ⟨decision', answered⟩ :=
      evaluateSeparationOfDuty_congr governs governs' grants evaluated
    have allows := evaluateSeparationOfDuty_allows governs evaluated
    have allows' := evaluateSeparationOfDuty_allows governs' answered
    refine ⟨decision', answered, ?_, ?_⟩
    · intro allowed
      obtain ⟨granted, separated⟩ := allows.mp allowed
      apply allows'.mpr
      refine ⟨(soleGrant_congr grants).mpr granted, ?_⟩
      intro rule member applies role conflicting held
      rw [rules] at member
      obtain ⟨exception, among, covers⟩ := separated rule member applies role conflicting held
      exact ⟨exception, more among, covers⟩
    · intro ungranted
      apply deny_iff.mpr
      intro allowed
      exact ungranted ((soleGrant_congr grants).mp (allows'.mp allowed).1)
  · intro ledger after question source source' decision governs governs' grants more exceptions
      evaluated
    obtain ⟨decision', answered⟩ :=
      evaluateSeparationOfDuty_congr governs governs' grants evaluated
    have allows := evaluateSeparationOfDuty_allows governs evaluated
    have allows' := evaluateSeparationOfDuty_allows governs' answered
    refine ⟨decision', answered, ?_⟩
    intro denied
    apply deny_iff.mpr
    intro allowed
    obtain ⟨granted, separated⟩ := allows'.mp allowed
    apply deny_iff.mp denied
    apply allows.mpr
    refine ⟨(soleGrant_congr grants).mp granted, ?_⟩
    intro rule member applies role conflicting held
    rw [← exceptions]
    exact separated rule (more member) applies role conflicting held

end CsdFoundry.Policy

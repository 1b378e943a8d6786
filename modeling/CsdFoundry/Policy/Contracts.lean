import CsdFoundry.Temporal.Contracts
import Mathlib.Data.String.Basic

/-! The contracts of the assumption authority policy: grants, separation-of-duty rules and the
duty exceptions that relax them. -/
namespace CsdFoundry.Policy
open Temporal (isToken)

/-- The stable codes of the governance layer, by exception class, and what no handler catches. -/
inductive PolicyError where
  | governance (code : String)
  | execution (code : String)
  | activation (code : String)
  | denied (code : String) (stage : String)
  | conflict (code : String)
  | assumption (code : String)
  | uncaught (message : String)
  deriving DecidableEq

def require (condition : Prop) [Decidable condition] (otherwise : PolicyError) :
    Except PolicyError Unit :=
  if condition then .ok () else .error otherwise

theorem require_bind_ok {condition : Prop} [Decidable condition] {otherwise : PolicyError}
    {next : Unit → Except PolicyError α} {a : α} :
    (require condition otherwise >>= next) = .ok a ↔ condition ∧ next () = .ok a := by
  by_cases met : condition
  · simp [require, met, Bind.bind, Except.bind]
  · simp [require, met, Bind.bind, Except.bind]

theorem require_ok {condition : Prop} [Decidable condition] {otherwise : PolicyError} :
    require condition otherwise = .ok () ↔ condition := by
  by_cases met : condition
  · simp [require, met]
  · simp [require, met]

theorem bind_ok {first : Except PolicyError α} {next : α → Except PolicyError β} {b : β} :
    (first >>= next) = .ok b ↔ ∃ a, first = .ok a ∧ next a = .ok b := by
  cases first with
  | error error => simp [Bind.bind, Except.bind]
  | ok a => simp [Bind.bind, Except.bind]

/-- `ASSUMPTION_AUTHORITY_ACTIONS`. -/
inductive AuthorityAction where
  | admission
  | challenge
  | confirm
  | expire
  | propose
  | reject
  | resolveToAdmitted
  | resolveToConfirmed
  | resolveToRejected
  | resolveToSuperseded
  | supersede
  deriving DecidableEq

namespace AuthorityAction

def text : AuthorityAction → String
  | admission => "ADMIT"
  | challenge => "CHALLENGE"
  | confirm => "CONFIRM"
  | expire => "EXPIRE"
  | propose => "PROPOSE"
  | reject => "REJECT"
  | resolveToAdmitted => "RESOLVE_TO_ADMITTED"
  | resolveToConfirmed => "RESOLVE_TO_CONFIRMED"
  | resolveToRejected => "RESOLVE_TO_REJECTED"
  | resolveToSuperseded => "RESOLVE_TO_SUPERSEDED"
  | supersede => "SUPERSEDE"

/-- `RESOLUTION_AUTHORITY_ACTIONS`. -/
def resolution : AuthorityAction → Bool
  | resolveToAdmitted | resolveToConfirmed | resolveToRejected | resolveToSuperseded => true
  | admission | challenge | confirm | expire | propose | reject | supersede => false

end AuthorityAction

inductive GovernanceRole where
  | admitter
  | challenger
  | confirmer
  | expiryAuthority
  | proposer
  | rejector
  | resolver
  | superseder
  deriving DecidableEq

namespace GovernanceRole

def text : GovernanceRole → String
  | admitter => "ADMITTER"
  | challenger => "CHALLENGER"
  | confirmer => "CONFIRMER"
  | expiryAuthority => "EXPIRY_AUTHORITY"
  | proposer => "PROPOSER"
  | rejector => "REJECTOR"
  | resolver => "RESOLVER"
  | superseder => "SUPERSEDER"

/-- `ASSUMPTION_GOVERNANCE_ROLES`. -/
def all : List GovernanceRole :=
  [admitter, challenger, confirmer, expiryAuthority, proposer, rejector, resolver, superseder]

theorem mem_all (role : GovernanceRole) : role ∈ all := by
  cases role <;> decide

end GovernanceRole

inductive Materiality where
  | advisory
  | material
  | critical
  deriving DecidableEq

namespace Materiality

def text : Materiality → String
  | advisory => "ADVISORY"
  | material => "MATERIAL"
  | critical => "CRITICAL"

/-- `_MATERIALITY_RANK`. -/
def rank : Materiality → Nat
  | advisory => 0
  | material => 1
  | critical => 2

end Materiality

def globalAssumptionScope : String := "scope:*"

theorem globalAssumptionScope_not_token : isToken globalAssumptionScope = false := by decide

/-- `_require_tokens`. -/
def requireTokens (items : List String) (allowEmpty : Bool) : Bool :=
  (allowEmpty || items ≠ []) && items.Pairwise (· < ·) && items.all isToken

/-- `_require_scopes`. -/
def requireScopes (items : List String) : Bool :=
  if items = [] ∨ ¬ items.Nodup then false
  else if globalAssumptionScope ∈ items then items = [globalAssumptionScope]
  else items.Pairwise (· ≤ ·) && items.all isToken

theorem requireScopes_cases (valid : requireScopes items = true) :
    items = [globalAssumptionScope] ∨
      globalAssumptionScope ∉ items ∧ items ≠ [] ∧ ∀ item ∈ items, isToken item = true := by
  rw [requireScopes] at valid
  split at valid
  · cases valid
  · rename_i kept
    split at valid
    · exact .inl (of_decide_eq_true valid)
    · rename_i narrow
      rw [Bool.and_eq_true, List.all_eq_true] at valid
      exact .inr ⟨narrow, fun none => kept (.inl none), valid.2⟩

/-- `_require_materialities`. -/
def requireMaterialities (items : List Materiality) (allowEmpty : Bool) : Bool :=
  (allowEmpty || items ≠ []) && items.Pairwise (fun a b => a.rank < b.rank)

/-- `_require_members` for the governance roles. -/
def requireRoles (items : List GovernanceRole) : Bool :=
  items ≠ [] && items.Pairwise (fun a b => a.text < b.text)

/-- `_require_interval`. -/
def requireInterval (start : Nat) : Option Nat → Bool
  | none => true
  | some limit => start < limit

structure AssumptionAuthorityGrant where
  grantId : String
  action : AuthorityAction
  authorityId : String
  scopeIds : List String
  assumptionMaterialities : List Materiality
  challengeMaterialities : List Materiality
  effectiveFromSequence : Nat
  effectiveUntilSequence : Option Nat
  named : isToken grantId = true
  authority : isToken authorityId = true
  scopes : requireScopes scopeIds = true
  materialities : requireMaterialities assumptionMaterialities false = true
  challenges : requireMaterialities challengeMaterialities true = true
  resolving : challengeMaterialities ≠ [] ↔ action.resolution = true
  interval : requireInterval effectiveFromSequence effectiveUntilSequence = true
  deriving DecidableEq

structure AssumptionSeparationDutyRule where
  ruleId : String
  action : AuthorityAction
  conflictingRoles : List GovernanceRole
  scopeIds : List String
  assumptionMaterialities : List Materiality
  named : isToken ruleId = true
  roles : requireRoles conflictingRoles = true
  scopes : requireScopes scopeIds = true
  materialities : requireMaterialities assumptionMaterialities false = true
  deriving DecidableEq

structure AssumptionDutyException where
  exceptionId : String
  ruleId : String
  action : AuthorityAction
  authorityId : String
  conflictingRoles : List GovernanceRole
  scopeIds : List String
  assumptionIds : List String
  assumptionMaterialities : List Materiality
  reasonCode : String
  effectiveFromSequence : Nat
  effectiveUntilSequence : Nat
  named : isToken exceptionId = true
  ruled : isToken ruleId = true
  authority : isToken authorityId = true
  roles : requireRoles conflictingRoles = true
  scopes : requireScopes scopeIds = true
  assumptions : requireTokens assumptionIds true = true
  materialities : requireMaterialities assumptionMaterialities false = true
  reason : isToken reasonCode = true
  interval : effectiveFromSequence < effectiveUntilSequence
  deriving DecidableEq

/-- `_scope_is_subset`. -/
def scopeIsSubset (candidate boundary : List String) : Bool :=
  if boundary = [globalAssumptionScope] then true
  else if candidate = [globalAssumptionScope] then false
  else candidate.all fun scope => scope ∈ boundary

/-- `_exception_covered`. -/
def exceptionCovered (exception : AssumptionDutyException) (grant : AssumptionAuthorityGrant) :
    Bool :=
  grant.action = exception.action && grant.authorityId = exception.authorityId &&
    scopeIsSubset exception.scopeIds grant.scopeIds &&
    exception.assumptionMaterialities.all (fun item => item ∈ grant.assumptionMaterialities) &&
    grant.effectiveFromSequence ≤ exception.effectiveFromSequence &&
    match grant.effectiveUntilSequence with
    | none => true
    | some limit => exception.effectiveUntilSequence ≤ limit

/-- One turn of `_validate_exceptions`. The rules have distinct names. -/
def validateException (rules : List AssumptionSeparationDutyRule)
    (grants : List AssumptionAuthorityGrant) (exception : AssumptionDutyException) :
    Except PolicyError Unit :=
  match rules.find? fun rule => rule.ruleId = exception.ruleId with
  | none => .error (.governance "ASSUMPTION_DUTY_EXCEPTION_RULE_MISSING")
  | some rule => do
      require (exception.action = rule.action)
        (.governance "ASSUMPTION_DUTY_EXCEPTION_ACTION_MISMATCH")
      require (∀ role ∈ exception.conflictingRoles, role ∈ rule.conflictingRoles)
        (.governance "ASSUMPTION_DUTY_EXCEPTION_ROLE_WIDENING")
      require (scopeIsSubset exception.scopeIds rule.scopeIds = true)
        (.governance "ASSUMPTION_DUTY_EXCEPTION_SCOPE_WIDENING")
      require (∀ item ∈ exception.assumptionMaterialities, item ∈ rule.assumptionMaterialities)
        (.governance "ASSUMPTION_DUTY_EXCEPTION_MATERIALITY_WIDENING")
      require (∃ grant ∈ grants, exceptionCovered exception grant = true)
        (.governance "ASSUMPTION_DUTY_EXCEPTION_GRANT_MISSING")

/-- `AssumptionAuthorityPolicy`; the three set digests and its own are functions here. -/
structure AssumptionAuthorityPolicy (D : Type) where
  policyId : String
  authorityRootDigest : D
  grants : List AssumptionAuthorityGrant
  separationDutyRules : List AssumptionSeparationDutyRule
  dutyExceptions : List AssumptionDutyException
  named : isToken policyId = true
  granted : grants ≠ []
  grantsOrdered : (grants.map (·.grantId)).Pairwise (· < ·)
  rulesOrdered : (separationDutyRules.map (·.ruleId)).Pairwise (· < ·)
  exceptionsOrdered : (dutyExceptions.map (·.exceptionId)).Pairwise (· < ·)
  exceptionsValid : ∀ exception ∈ dutyExceptions,
    validateException separationDutyRules grants exception = .ok ()
  deriving DecidableEq

/-- What `_validate_exceptions` lets pass: the exception stays inside one rule and one grant. -/
structure Within (policyRules : List AssumptionSeparationDutyRule)
    (policyGrants : List AssumptionAuthorityGrant) (exception : AssumptionDutyException)
    (rule : AssumptionSeparationDutyRule) : Prop where
  member : rule ∈ policyRules
  ruleId : rule.ruleId = exception.ruleId
  action : exception.action = rule.action
  roles : ∀ role ∈ exception.conflictingRoles, role ∈ rule.conflictingRoles
  scopes : scopeIsSubset exception.scopeIds rule.scopeIds = true
  materialities : ∀ item ∈ exception.assumptionMaterialities, item ∈ rule.assumptionMaterialities
  covered : ∃ grant ∈ policyGrants, exceptionCovered exception grant = true

theorem validateException_ok {rules : List AssumptionSeparationDutyRule}
    {grants : List AssumptionAuthorityGrant} {exception : AssumptionDutyException}
    (valid : validateException rules grants exception = .ok ()) :
    ∃ rule, Within rules grants exception rule := by
  rw [validateException] at valid
  cases found : rules.find? fun rule => rule.ruleId = exception.ruleId with
  | none =>
      rw [found] at valid
      cases valid
  | some rule =>
      rw [found] at valid
      simp only [require_bind_ok, require_ok] at valid
      obtain ⟨action, roles, scopes, materialities, covered⟩ := valid
      have named := List.find?_some found
      exact ⟨rule, List.mem_of_find?_eq_some found, of_decide_eq_true named, action, roles, scopes,
        materialities, covered⟩

end CsdFoundry.Policy

import CsdFoundry.Results
import CsdFoundry.Search.Replay
import CsdFoundry.Assumptions.Eligibility

/-! The receipt of an admission-time dependency validation. Its constructor replays the traversal
from the records that the receipt carries, and accepts nothing that does not replay. -/
namespace CsdFoundry.Assumptions
open Registry Search Relation
open Policy (digestValue optionalDigestValue optionalSequence texts domainDigest)
open Temporal (isToken)

/-- `_TRAVERSAL_CODES`. -/
inductive TraversalCode where
  | dependencyPresent
  | dependencyMissing
  | historyInvalid
  deriving DecidableEq

def TraversalCode.text : TraversalCode → String
  | .dependencyPresent => "DEPENDENCY_PRESENT"
  | .dependencyMissing => "ASSUMPTION_DEPENDENCY_MISSING"
  | .historyInvalid => "ASSUMPTION_DEPENDENCY_HISTORY_INVALID"

inductive ValidationResult where
  | pass
  | deny
  deriving DecidableEq

def ValidationResult.text : ValidationResult → String
  | .pass => "PASS"
  | .deny => "DENY"

def cycleCode : String := "ASSUMPTION_DEPENDENCY_CYCLE"

/-- `_ASSUMPTION_DENY_CODES`. -/
def assumptionDenyCodes : List String :=
  [TraversalCode.dependencyMissing.text, TraversalCode.historyInvalid.text, cycleCode]

/-- `_PASS_CODE`. -/
def passCode : String := "DEPENDENCY_VALIDATION_PASSED"

structure TraversedFields (D : Type) where
  assumptionId : String
  validationCode : TraversalCode
  currentEntitySequence : Option Nat
  currentEventDigest : Option D
  directDependencyIds : List String
  deriving DecidableEq

namespace TraversedFields
variable {D : Type}

/-- The sequence and the digest of a head, which a record must have unless it is missing. -/
def checkHead (record : TraversedFields D) (incomplete : String) : Except String Unit := do
  check (record.currentEntitySequence.isSome = true ∧ record.currentEventDigest.isSome = true)
    incomplete
  check (∃ sequence ∈ record.currentEntitySequence, 1 ≤ sequence)
    "TRAVERSED_DEPENDENCY_SEQUENCE_INVALID"

/-- `TraversedDependency.__post_init__`. -/
def postInit (record : TraversedFields D) : Except String Unit := do
  check (isToken record.assumptionId = true) "TRAVERSED_DEPENDENCY_ID_INVALID"
  check (SortedTokens record.directDependencyIds) "TRAVERSED_DEPENDENCY_DEPS_INVALID"
  match record.validationCode with
  | .dependencyPresent => do
      record.checkHead "TRAVERSED_DEPENDENCY_PRESENT_INCOMPLETE"
      check (record.assumptionId ∉ record.directDependencyIds)
        "TRAVERSED_DEPENDENCY_SELF_REFERENCE"
  | .dependencyMissing => do
      check (record.currentEntitySequence = none ∧ record.currentEventDigest.isSome = false)
        "TRAVERSED_DEPENDENCY_MISSING_FIELDS_PRESENT"
      check (record.directDependencyIds = []) "TRAVERSED_DEPENDENCY_MISSING_DEPS_PRESENT"
  | .historyInvalid => do
      record.checkHead "TRAVERSED_DEPENDENCY_HISTORY_INCOMPLETE"
      check (record.directDependencyIds = []) "TRAVERSED_DEPENDENCY_HISTORY_DEPS_PRESENT"

/-- The nodes that a record sends the traversal on to. -/
def children (record : TraversedFields D) : Option (List String) :=
  if record.validationCode = .dependencyPresent then some record.directDependencyIds else none

end TraversedFields

structure TraversedDependency (D : Type) extends TraversedFields D where
  valid : toTraversedFields.postInit = .ok ()

/-- `TraversedDependency(...)`. -/
def TraversedDependency.create {D : Type} (record : TraversedFields D) :
    Except String (TraversedDependency D) :=
  match valid : record.postInit with
  | .ok () => .ok ⟨record, valid⟩
  | .error code => .error code

def TraversedDependency.toJsonValue {D : Type} [DigestText D] (record : TraversedDependency D) :
    Json :=
  .obj [("assumption_id", .str record.assumptionId),
    ("current_entity_sequence", optionalSequence record.currentEntitySequence),
    ("current_event_digest", optionalDigestValue record.currentEventDigest),
    ("direct_dependency_ids", texts record.directDependencyIds),
    ("validation_code", .str record.validationCode.text)]

/-- Rotate a directed cycle so that its smallest identity is first. -/
def canonicalCycleWitness (cyclePath : List String) : Except String (List String) := do
  check (2 ≤ cyclePath.length ∧ cyclePath.head? = cyclePath.getLast?)
    "ASSUMPTION_CYCLE_WITNESS_NOT_CLOSED"
  let ring := cyclePath.dropLast
  check (∀ identity ∈ ring, isToken identity = true) "ASSUMPTION_CYCLE_WITNESS_ID_INVALID"
  check ring.Nodup "ASSUMPTION_CYCLE_WITNESS_REPEATED_NODE"
  let start := (ring.min?.map ring.idxOf).getD 0
  let rotated := ring.drop start ++ ring.take start
  return rotated ++ rotated.take 1

/-- The fields of a receipt that are signed. -/
structure UnsignedReceipt (D : Type) where
  assumptionId : String
  candidatePredecessorEventDigest : D
  candidateEntitySequence : Nat
  eventSequence : Nat
  assumptionRegistryRoot : D
  evidenceRegistryRoot : D
  assumptionDependencyIds : List String
  evidenceDependencyIds : List String
  traversedDependencies : List (TraversedDependency D)
  cycleWitness : List String
  evidenceEligibilityDecisions : List (EvidenceAdmissionEligibilityDecision D)
  validationCode : String
  validationResult : ValidationResult

namespace UnsignedReceipt
variable {D : Type} (receipt : UnsignedReceipt D)

/-- The code on which the replay ended, and whether it ended on a cycle. -/
def terminalOf : Option (Halt String (TraversedDependency D)) → Except String (Option String × Bool)
  | none => .ok (none, false)
  | some (.stopped record) => .ok (some record.validationCode.text, false)
  | some (.cycle path) => do
      let witness ← canonicalCycleWitness path
      check (receipt.cycleWitness = witness) "DEPENDENCY_RECEIPT_CYCLE_WITNESS_MISMATCH"
      check (receipt.validationCode = cycleCode) "DEPENDENCY_RECEIPT_CYCLE_CODE_MISMATCH"
      .ok (some cycleCode, true)
  | some .exhausted => .error "DEPENDENCY_RECEIPT_TRAVERSAL_INCOMPLETE"

/-- `_validate_traversal_closure`. Each level of the replay takes a record, so that the fuel is
never used up. -/
def validateTraversalClosure : Except String (Option String × Bool) := do
  let outcome ← replay (fun record => record.assumptionId)
    (fun record => record.toTraversedFields.children)
    "DEPENDENCY_RECEIPT_TRAVERSAL_INCOMPLETE" "DEPENDENCY_RECEIPT_TRAVERSAL_ORDER_MISMATCH"
    (receipt.traversedDependencies.length + 1) [receipt.assumptionId] {}
    receipt.assumptionDependencyIds receipt.traversedDependencies
  let terminal ← receipt.terminalOf outcome.1.1
  check (outcome.2.length = 0) "DEPENDENCY_RECEIPT_TRAVERSAL_HAS_EXTRA_RECORDS"
  return terminal

/-- Every traversed dependency is present. -/
def AllPresent : Prop :=
  ∀ record ∈ receipt.traversedDependencies, record.validationCode = .dependencyPresent

instance : Decidable receipt.AllPresent :=
  inferInstanceAs (Decidable (∀ record ∈ receipt.traversedDependencies, _))

def validatePhaseResultConsistency : Except String Unit :=
  if receipt.validationResult = .pass then do
    check (receipt.validationCode = passCode) "DEPENDENCY_RECEIPT_PASS_CODE_MISMATCH"
    check (receipt.cycleWitness = []) "DEPENDENCY_RECEIPT_PASS_CYCLE_PRESENT"
    check receipt.AllPresent "DEPENDENCY_RECEIPT_PASS_HAS_FAILURE"
  else if receipt.validationCode ∈ assumptionDenyCodes then do
    check (receipt.evidenceEligibilityDecisions.length = 0)
      "DEPENDENCY_RECEIPT_ASSUMPTION_DENY_HAS_EVIDENCE"
    if receipt.validationCode = cycleCode then
      check (receipt.cycleWitness ≠ []) "DEPENDENCY_RECEIPT_CYCLE_WITNESS_EMPTY"
    else check (receipt.cycleWitness = []) "DEPENDENCY_RECEIPT_NONCYCLE_WITNESS_PRESENT"
  else do
    check (receipt.cycleWitness = []) "DEPENDENCY_RECEIPT_EVIDENCE_DENY_CYCLE_PRESENT"
    check receipt.AllPresent "DEPENDENCY_RECEIPT_EVIDENCE_DENY_HAS_FAILURE"

/-- The code on which the replay ended is that of the receipt, or there is none of either. -/
def validateTerminalCode (terminal : Option String) : Except String Unit :=
  if receipt.validationCode ∈ assumptionDenyCodes then
    match terminal with
    | none => .error "DEPENDENCY_RECEIPT_ASSUMPTION_DENY_NO_TERMINAL_EVIDENCE"
    | some code => check (code = receipt.validationCode) "DEPENDENCY_RECEIPT_TERMINAL_CODE_MISMATCH"
  else check (terminal = none) "DEPENDENCY_RECEIPT_UNEXPECTED_TERMINAL_EVIDENCE"

def decisionIds : List String := receipt.evidenceEligibilityDecisions.map (·.evidenceId)

/-- The decisions are those of all evidence, or go up to the first that is not eligible. -/
def validateDecisionSequence : Except String Unit :=
  match receipt.validationResult with
  | .pass => do
      check (receipt.decisionIds = receipt.evidenceDependencyIds)
        "DEPENDENCY_RECEIPT_EVIDENCE_PREFIX_MISMATCH"
      check (∀ decision ∈ receipt.evidenceEligibilityDecisions, decision.eligible = true)
        "DEPENDENCY_RECEIPT_PASS_HAS_INELIGIBLE_EVIDENCE"
  | .deny =>
      if receipt.validationCode ∈ assumptionDenyCodes then .ok ()
      else match receipt.evidenceEligibilityDecisions.getLast? with
        | none => .error "DEPENDENCY_RECEIPT_EVIDENCE_DENY_NO_DECISIONS"
        | some final => do
            check (receipt.decisionIds =
                receipt.evidenceDependencyIds.take receipt.decisionIds.length)
              "DEPENDENCY_RECEIPT_EVIDENCE_PREFIX_MISMATCH"
            check (∀ decision ∈ receipt.evidenceEligibilityDecisions.dropLast,
              decision.eligible = true) "DEPENDENCY_RECEIPT_EVIDENCE_DENY_NOT_FAILFAST"
            check (final.eligible = false) "DEPENDENCY_RECEIPT_EVIDENCE_DENY_FINAL_ELIGIBLE"
            check (receipt.validationCode = final.code.text)
              "DEPENDENCY_RECEIPT_EVIDENCE_DENY_CODE_MISMATCH"

def checkDecision [DecidableEq D] (decision : EvidenceAdmissionEligibilityDecision D) :
    Except String Unit := do
  check (decision.evidenceId ∈ receipt.evidenceDependencyIds)
    "DEPENDENCY_RECEIPT_EVIDENCE_ID_NOT_DIRECT_DEP"
  check (decision.evaluatedAtSequence = receipt.eventSequence)
    "DEPENDENCY_RECEIPT_EVIDENCE_SEQUENCE_MISMATCH"
  check (decision.evidenceRegistryRoot = receipt.evidenceRegistryRoot)
    "DEPENDENCY_RECEIPT_EVIDENCE_ROOT_MISMATCH"

def validateEvidenceDecisions [DecidableEq D] : Except String Unit := do
  receipt.validateDecisionSequence
  let _ ← Results.collect (receipt.evidenceEligibilityDecisions.map receipt.checkDecision)
  check (receipt.decisionIds.Pairwise (· ≤ ·)) "DEPENDENCY_RECEIPT_EVIDENCE_NOT_CANONICAL"

variable [DigestText D] [Sha256 D]

def unsignedValue : Json :=
  .obj [("assumption_dependency_ids", texts receipt.assumptionDependencyIds),
    ("assumption_id", .str receipt.assumptionId),
    ("assumption_registry_root", digestValue receipt.assumptionRegistryRoot),
    ("candidate_entity_sequence", .int receipt.candidateEntitySequence),
    ("candidate_predecessor_event_digest", digestValue receipt.candidatePredecessorEventDigest),
    ("cycle_witness", texts receipt.cycleWitness),
    ("event_sequence", .int receipt.eventSequence),
    ("evidence_dependency_ids", texts receipt.evidenceDependencyIds),
    ("evidence_eligibility_decisions",
      .arr (receipt.evidenceEligibilityDecisions.map (·.toJsonValue))),
    ("evidence_registry_root", digestValue receipt.evidenceRegistryRoot),
    ("schema_version", .str "assumption-dependency-validation/1"),
    ("traversed_dependencies", .arr (receipt.traversedDependencies.map (·.toJsonValue))),
    ("validation_code", .str receipt.validationCode),
    ("validation_result", .str receipt.validationResult.text)]

end UnsignedReceipt

structure ReceiptFields (D : Type) extends UnsignedReceipt D where
  receiptDigest : D

/-- `_domain_digest` of the signed fields. -/
def UnsignedReceipt.digest {D : Type} [DigestText D] [Sha256 D] (receipt : UnsignedReceipt D) : D :=
  domainDigest "ASSUMPTION_DEPENDENCY_VALIDATION" receipt.unsignedValue

variable {D : Type}

/-- `DependencyValidationReceipt.__post_init__`. -/
def ReceiptFields.postInit [DecidableEq D] [DigestText D] [Sha256 D] (receipt : ReceiptFields D) :
    Except String Unit := do
  check (isToken receipt.assumptionId = true) "DEPENDENCY_RECEIPT_ASSUMPTION_ID_INVALID"
  check (receipt.candidateEntitySequence = 2) "DEPENDENCY_RECEIPT_CANDIDATE_SEQUENCE_INVALID"
  check (1 ≤ receipt.eventSequence) "DEPENDENCY_RECEIPT_EVENT_SEQUENCE_INVALID"
  check (SortedTokens receipt.assumptionDependencyIds) "DEPENDENCY_RECEIPT_ASSUMPTION_DEPS_INVALID"
  check (SortedTokens receipt.evidenceDependencyIds) "DEPENDENCY_RECEIPT_EVIDENCE_DEPS_INVALID"
  let terminal ← receipt.validateTraversalClosure
  receipt.validatePhaseResultConsistency
  receipt.validateTerminalCode terminal.1
  receipt.validateEvidenceDecisions
  check (receipt.receiptDigest = receipt.digest) "DEPENDENCY_RECEIPT_DIGEST_MISMATCH"

structure DependencyValidationReceipt (D : Type) [DecidableEq D] [DigestText D] [Sha256 D]
    extends ReceiptFields D where
  valid : toReceiptFields.postInit = .ok ()

/-- `DependencyValidationReceipt(...)`. -/
def DependencyValidationReceipt.create [DecidableEq D] [DigestText D] [Sha256 D]
    (receipt : ReceiptFields D) : Except String (DependencyValidationReceipt D) :=
  match valid : receipt.postInit with
  | .ok () => .ok ⟨receipt, valid⟩
  | .error code => .error code

/-! ### What a receipt that passes says of its records -/

/-- One traversed assumption depends directly on the other, by its record. -/
def UnsignedReceipt.Depends (receipt : UnsignedReceipt D) : String → String → Prop :=
  Link (fun record => record.assumptionId) (fun record => record.toTraversedFields.children)
    receipt.traversedDependencies

def UnsignedReceipt.traversedIds (receipt : UnsignedReceipt D) : List String :=
  receipt.traversedDependencies.map (fun record => record.assumptionId)

/-- The records of the receipt are the whole dependency graph of the candidate: each assumption
is there once, and so are its direct dependencies; everything there is reached from the
candidate, nothing there depends on itself, and nothing leads back to the candidate. -/
structure UnsignedReceipt.Closed (receipt : UnsignedReceipt D) : Prop where
  once : receipt.traversedIds.Nodup
  direct : ∀ id ∈ receipt.assumptionDependencyIds, id ∈ receipt.traversedIds
  closed : ∀ record ∈ receipt.traversedDependencies, ∀ id ∈ record.directDependencyIds,
    id ∈ receipt.traversedIds
  reached : ∀ id ∈ receipt.traversedIds, ∃ first ∈ receipt.assumptionDependencyIds,
    ReflTransGen receipt.Depends first id
  acyclic : ∀ id, ¬ TransGen receipt.Depends id id
  away : ∀ first ∈ receipt.assumptionDependencyIds,
    ¬ ReflTransGen receipt.Depends first receipt.assumptionId

variable {receipt : UnsignedReceipt D}

/-- A replay that consumes all records and does not halt shows that they are closed. -/
theorem UnsignedReceipt.closed_of_replays {progress : Progress String (TraversedDependency D)}
    (replays : Replays (fun record => record.assumptionId)
      (fun record => record.toTraversedFields.children) [receipt.assumptionId] {}
      receipt.assumptionDependencyIds receipt.traversedDependencies none progress [])
    (present : receipt.AllPresent) : receipt.Closed := by
  obtain ⟨layered, apart, -, listed, found, split, perm⟩ := replays.layered .nil nofun
  rw [List.append_nil] at split
  subst split
  simp only [List.map_nil, List.append_nil] at perm
  have ids : receipt.traversedIds.Perm progress.done := by
    have keys : (progress.left.map Prod.snd).map (fun record => record.assumptionId) =
        progress.done := List.map_map.trans layered.keys
    rw [← keys]
    exact (perm.map _).symm
  have link : ∀ {v w}, receipt.Depends v w ↔ Link (fun record => record.assumptionId)
      (fun record => record.toTraversedFields.children) (progress.left.map Prod.snd) v w := by
    intro v w
    exact ⟨fun l => l.mono fun _ => perm.mem_iff.mpr, fun l => l.mono fun _ => perm.mem_iff.mp⟩
  have steps : ∀ {v w}, receipt.Depends v w → w ∈ progress.done := fun depends =>
    (layered.descends (link.mp depends)).2.1
  refine ⟨ids.nodup_iff.mpr layered.nodup, fun id member => ids.mem_iff.mpr (listed id member),
    ?_, ?_, ?_, ?_⟩
  · intro record member id declared
    refine ids.mem_iff.mpr (steps ⟨record, member, rfl, _, ?_, declared⟩)
    exact if_pos (present record member)
  · intro id member
    obtain ⟨record, among, rfl⟩ := List.mem_map.mp member
    obtain ⟨found, split, entered⟩ := replays.found
    rw [List.append_nil] at split
    have all : ∀ other ∈ progress.entered, other ∈ receipt.traversedDependencies := by
      rw [entered, ← split]
      exact fun _ member => member
    have taken : record ∈ progress.entered := by
      rw [entered, ← split]
      exact among
    rcases replays.reached all taken with old | reached
    · exact absurd old List.not_mem_nil
    · exact reached
  · intro id around
    exact layered.acyclic (around.lift (fun v => v) fun _ _ depends => link.mp depends)
  · intro first member path
    have inside : receipt.assumptionId ∈ progress.done := by
      rcases ReflTransGen.cases_tail path with same | ⟨last, -, depends⟩
      · rw [same]
        exact listed first member
      · exact steps depends
    exact apart receipt.assumptionId (List.mem_singleton_self _) inside

/-- Where the replay of a receipt ends without a terminal code, it has gone through. -/
theorem UnsignedReceipt.replays_of_closure {cyclic : Bool}
    (replayed : receipt.validateTraversalClosure = .ok (none, cyclic)) :
    ∃ progress, Replays (fun record => record.assumptionId)
      (fun record => record.toTraversedFields.children) [receipt.assumptionId] {}
      receipt.assumptionDependencyIds receipt.traversedDependencies none progress [] := by
  obtain ⟨⟨⟨halt, progress⟩, left⟩, walked, rest⟩ := except_bind_ok.mp replayed
  obtain ⟨ended, outcome, rest⟩ := except_bind_ok.mp rest
  obtain ⟨⟨⟩, consumed, returned⟩ := except_bind_ok.mp rest
  obtain rfl := Except.ok.inj returned
  obtain rfl := List.length_eq_zero_iff.mp (check_ok.mp consumed)
  have replays := replays_of_replay (Nat.lt_succ_self _) walked
  cases halt with
  | none => exact ⟨progress, replays⟩
  | some halt =>
      cases halt with
      | stopped record => cases outcome
      | exhausted => cases outcome
      | cycle path =>
          obtain ⟨_, -, outcome⟩ := except_bind_ok.mp outcome
          obtain ⟨⟨⟩, -, outcome⟩ := except_bind_ok.mp outcome
          obtain ⟨⟨⟩, -, outcome⟩ := except_bind_ok.mp outcome
          cases outcome

variable [DecidableEq D] [DigestText D] [Sha256 D]

/-- However the fields were chosen, a receipt that passes records the whole graph. -/
theorem DependencyValidationReceipt.closed (receipt : DependencyValidationReceipt D)
    (passes : receipt.validationResult = .pass) : receipt.Closed := by
  have valid := receipt.valid
  simp only [ReceiptFields.postInit, except_bind_ok, check_ok] at valid
  obtain ⟨-, -, -, -, -, -, -, -, -, -, ⟨terminal, cyclic⟩, replayed, ⟨⟩, consistent, ⟨⟩, bound, -⟩ :=
    valid
  simp only [UnsignedReceipt.validatePhaseResultConsistency, passes, if_true, except_bind_ok,
    check_ok] at consistent
  obtain ⟨-, passed, -, -, present⟩ := consistent
  have outside : receipt.validationCode ∉ assumptionDenyCodes := by
    rw [passed]
    decide
  simp only [UnsignedReceipt.validateTerminalCode, if_neg outside, check_ok] at bound
  subst bound
  obtain ⟨progress, replays⟩ := UnsignedReceipt.replays_of_closure replayed
  exact UnsignedReceipt.closed_of_replays replays present

end CsdFoundry.Assumptions

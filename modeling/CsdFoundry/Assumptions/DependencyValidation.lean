import CsdFoundry.Assumptions.DependencyReceipt
import CsdFoundry.Registry.Entities
import CsdFoundry.Registry.Governed
import CsdFoundry.Search.Live

/-! The admission-time dependency validation. It reads the registry while others write to it,
and the receipt that it derives passes the checks of its constructor. -/
namespace CsdFoundry.Assumptions
open Registry Search Storage
open Temporal (isToken)
variable {D : Type} [LinearOrder D] [DigestText D] [Sha256 D]

/-- `standing` as the detail of an error shows it. -/
def Standing.text : Standing → String
  | .proposed => "PROPOSED"
  | .admitted => "ADMITTED"
  | .confirmed => "CONFIRMED"
  | .rejected => "REJECTED"
  | .expired => "EXPIRED"
  | .superseded => "SUPERSEDED"

/-- `except (RegistryStoreError, AssumptionRegistryError)`. -/
def historyDefect : RegistryError → Bool
  | .store _ | .conflict _ _ | .entity _ => true
  | .governed _ _ | .contract _ | .os => false

/-- The projection of a dependency, or nothing where its history has a defect. -/
def projectDependency (node : String) : RegistryM D (Option (Assumption D)) :=
  tryCatch (do entityError (projectAssumptionHistory (← reconstructEntity .assumption node)))
    fun e => if historyDefect e = true then pure none else throw e

/-- What `_dfs` records of a node that it has not seen. -/
def traversedFields (node : String) (head : Option (RegistryEntityHead D))
    (state : Option (Assumption D)) : TraversedFields D :=
  match head with
  | none => ⟨node, .dependencyMissing, none, none, []⟩
  | some head =>
      match state with
      | none => ⟨node, .historyInvalid, some head.entitySequence, some head.eventDigest, []⟩
      | some state =>
          if state.currentEntitySequence ≠ head.entitySequence ∨
              state.currentEventDigest ≠ head.eventDigest then
            ⟨node, .historyInvalid, some head.entitySequence, some head.eventDigest, []⟩
          else ⟨node, .dependencyPresent, some state.currentEntitySequence,
            some state.currentEventDigest, state.assumptionDependencyIds⟩

/-- The head first, then the history, each under a lock of its own. -/
def examineDependency (node : String) :
    RegistryM D (Finding String (TraversedDependency D)) := do
  let head ← entityHead .assumption node
  let state ← (if head = none then pure none else projectDependency node)
  let record ← contractError (TraversedDependency.create (traversedFields node head state))
  return findingOf (fun record => record.toTraversedFields.children) record

/-- The depth-first search, as deep as the fuel. -/
def traverseDependencies (fuel : Nat) (assumptionId : String) (dependencyIds : List String) :
    RegistryM D (Option (Halt String (TraversedDependency D)) ×
      Progress String (TraversedDependency D)) :=
  sweepM (visitM examineDependency true fuel [assumptionId]) {} dependencyIds

/-- The decisions up to the first piece of evidence that is not eligible. -/
def evaluateEvidence (evidenceRoot : D) (eventSequence : Nat) :
    List String → RegistryM D (List (EvidenceAdmissionEligibilityDecision D))
  | [] => pure []
  | evidenceId :: evidenceIds => do
      let decision ← evaluateEvidenceAdmissionEligibility evidenceId eventSequence
      .require (decision.evidenceRegistryRoot = evidenceRoot)
        (.governed "ASSUMPTION_DEPENDENCY_EVIDENCE_SNAPSHOT_CHANGED" none)
      .require (decision.evaluatedAtSequence = eventSequence)
        (.governed "DEPENDENCY_VALIDATION_EVIDENCE_SEQUENCE_UNEXPECTED" none)
      if decision.eligible = true then
        return decision :: (← evaluateEvidence evidenceRoot eventSequence evidenceIds)
      else return [decision]

/-- The roots at the start. -/
structure Roots (D : Type) where
  assumption : D
  evidence : D

def readRoots : RegistryM D (Roots D) := do
  let assumption ← snapshot .assumption
  let evidence ← snapshot .evidenceUnit
  return ⟨assumption.rootDigest, evidence.rootDigest⟩

/-- The authoritative proposal that the candidate history must be. -/
def candidateProposal (candidateHistory : List (RegistryEvent D)) (eventSequence : Nat) :
    RegistryM D (Assumption D) := do
  match ← entityError (projectAssumptionHistory candidateHistory) with
  | none => throw (.governed "DEPENDENCY_VALIDATION_HISTORY_EMPTY" none)
  | some projected =>
      let authoritative ← reconstructEntity .assumption projected.assumptionId
      .require (candidateHistory.length = authoritative.length)
        (.governed "DEPENDENCY_VALIDATION_HISTORY_LENGTH_MISMATCH" none)
      .require (candidateHistory = authoritative)
        (.governed "DEPENDENCY_VALIDATION_HISTORY_CANONICAL_BYTES_MISMATCH" none)
      match ← entityError (projectAssumptionHistory authoritative) with
      | none => throw (.governed "DEPENDENCY_VALIDATION_AUTHORITATIVE_HISTORY_EMPTY" none)
      | some proposal =>
          .require (proposal.standing = .proposed) (.governed "DEPENDENCY_VALIDATION_NOT_PROPOSED"
            (some ("standing=" ++ proposal.standing.text)))
          .require (proposal.currentEntitySequence = 1)
            (.governed "DEPENDENCY_VALIDATION_NOT_GENESIS"
              (some ("sequence=" ++ toString proposal.currentEntitySequence)))
          .require (proposal.lastClockSequence < eventSequence)
            (.governed "DEPENDENCY_VALIDATION_CLOCK_NOT_ADVANCING"
              (some ("event_sequence=" ++ toString eventSequence ++ " <= propose_clock=" ++
                toString proposal.lastClockSequence)))
          return proposal

/-- What a validation came to. -/
structure Verdict (D : Type) where
  code : String
  result : ValidationResult
  traversed : List (TraversedDependency D)
  cycleWitness : List String
  decisions : List (EvidenceAdmissionEligibilityDecision D)

/-- The receipt before it is signed. -/
def unsignedReceipt (roots : Roots D) (proposal : Assumption D) (eventSequence : Nat)
    (verdict : Verdict D) : UnsignedReceipt D where
  assumptionId := proposal.assumptionId
  candidatePredecessorEventDigest := proposal.currentEventDigest
  candidateEntitySequence := 2
  eventSequence := eventSequence
  assumptionRegistryRoot := roots.assumption
  evidenceRegistryRoot := roots.evidence
  assumptionDependencyIds := proposal.assumptionDependencyIds
  evidenceDependencyIds := proposal.evidenceDependencyIds
  traversedDependencies := verdict.traversed
  cycleWitness := verdict.cycleWitness
  evidenceEligibilityDecisions := verdict.decisions
  validationCode := verdict.code
  validationResult := verdict.result

/-- The verdict where the assumption graph is complete: that of the evidence. -/
def evidenceVerdict (traversed : List (TraversedDependency D))
    (decisions : List (EvidenceAdmissionEligibilityDecision D)) : Verdict D :=
  match decisions.find? (fun decision => decision.eligible = false) with
  | some denied => ⟨denied.code.text, .deny, traversed, [], decisions⟩
  | none => ⟨passCode, .pass, traversed, [], decisions⟩

/-- The search, and then the evidence unless the search has denied. -/
def reachVerdict (fuel : Nat) (roots : Roots D) (proposal : Assumption D) (eventSequence : Nat) :
    RegistryM D (Verdict D) := do
  let outcome ← traverseDependencies fuel proposal.assumptionId proposal.assumptionDependencyIds
  let traversed := outcome.2.entered
  match outcome.1 with
  | some .exhausted => throw (.governed "RECURSION_LIMIT" none)
  | some (.cycle path) => do
      let witness ← contractError (canonicalCycleWitness path)
      return ⟨cycleCode, .deny, traversed, witness, []⟩
  | some (.stopped record) => return ⟨record.validationCode.text, .deny, traversed, [], []⟩
  | none => do
      let decisions ← evaluateEvidence roots.evidence eventSequence proposal.evidenceDependencyIds
      return evidenceVerdict traversed decisions

/-- `_finalize` up to the constructor: the roots must not have changed, and the receipt is
signed. -/
def finalize (start : Roots D) (receipt : UnsignedReceipt D) : RegistryM D (ReceiptFields D) := do
  let last ← readRoots
  .require (last.assumption = start.assumption)
    (.governed "ASSUMPTION_DEPENDENCY_ASSUMPTION_SNAPSHOT_CHANGED" none)
  .require (last.evidence = start.evidence)
    (.governed "ASSUMPTION_DEPENDENCY_EVIDENCE_SNAPSHOT_CHANGED" none)
  return ⟨receipt, receipt.digest⟩

/-- `validate_assumption_dependencies` up to the constructor of its receipt. -/
def deriveReceipt (fuel : Nat) (candidateHistory : List (RegistryEvent D)) (eventSequence : Nat) :
    RegistryM D (ReceiptFields D) := do
  let roots ← readRoots
  let proposal ← candidateProposal candidateHistory eventSequence
  let verdict ← reachVerdict fuel roots proposal eventSequence
  finalize roots (unsignedReceipt roots proposal eventSequence verdict)

def validateAssumptionDependencies (fuel : Nat) (candidateHistory : List (RegistryEvent D))
    (eventSequence : Nat) : RegistryM D (DependencyValidationReceipt D) := do
  let fields ← deriveReceipt fuel candidateHistory eventSequence
  contractError (DependencyValidationReceipt.create fields)

/-! ### What each step yields, whatever other writers do -/

/-- A decision about the evidence, at the root and the sequence of the validation. -/
structure Judges (evidenceRoot : D) (eventSequence : Nat) (evidenceId : String)
    (decision : EvidenceAdmissionEligibilityDecision D) : Prop where
  evidence : decision.evidenceId = evidenceId
  root : decision.evidenceRegistryRoot = evidenceRoot
  sequence : decision.evaluatedAtSequence = eventSequence

/-- The decisions on a list of evidence, up to the first that denies. -/
inductive Judged (evidenceRoot : D) (eventSequence : Nat) :
    List String → List (EvidenceAdmissionEligibilityDecision D) → Prop where
  | nil : Judged evidenceRoot eventSequence [] []
  | denied (judges : Judges evidenceRoot eventSequence evidenceId decision)
      (denies : decision.eligible = false) :
      Judged evidenceRoot eventSequence (evidenceId :: evidenceIds) [decision]
  | passed (judges : Judges evidenceRoot eventSequence evidenceId decision)
      (passes : decision.eligible = true)
      (rest : Judged evidenceRoot eventSequence evidenceIds decisions) :
      Judged evidenceRoot eventSequence (evidenceId :: evidenceIds) (decision :: decisions)

variable {eventSequence : Nat} {evidenceRoot : D} {evidenceId : String}
  {evidenceIds : List String} {decision : EvidenceAdmissionEligibilityDecision D}
  {decisions : List (EvidenceAdmissionEligibilityDecision D)}

omit [LinearOrder D] [Sha256 D] in
theorem yields_contractError {result : Except String α} {good : α → Prop}
    (met : ∀ a, result = .ok a → good a) : (contractError result : RegistryM D α).Yields good :=
  .done fun a returned => met a (Results.mapError_ok.mp returned)

omit [LinearOrder D] [Sha256 D] in
theorem yields_entityError {result : Except String α} {good : α → Prop}
    (met : ∀ a, result = .ok a → good a) : (entityError result : RegistryM D α).Yields good :=
  .done fun a returned => met a (Results.mapError_ok.mp returned)

omit [LinearOrder D] [DigestText D] [Sha256 D] in
theorem TraversedDependency.create_ok {fields : TraversedFields D} {record : TraversedDependency D}
    (created : TraversedDependency.create fields = .ok record) :
    record.toTraversedFields = fields := by
  unfold TraversedDependency.create at created
  split at created
  · cases created
    rfl
  · cases created

omit [DigestText D] [Sha256 D] in
theorem traversedFields_assumptionId (node : String) (head : Option (RegistryEntityHead D))
    (state : Option (Assumption D)) : (traversedFields node head state).assumptionId = node := by
  unfold traversedFields
  split
  · rfl
  · split
    · rfl
    · split_ifs <;> rfl

theorem yields_examineDependency (node : String) :
    (examineDependency node : RegistryM D _).Yields fun finding => ∃ record,
      finding = findingOf (fun record => record.toTraversedFields.children) record ∧
        record.assumptionId = node := by
  refine .bind (.any _) fun head _ => .bind (.any _) fun state _ => ?_
  refine .bind (yields_contractError fun _ => id) fun record created => .pure ⟨record, rfl, ?_⟩
  rw [TraversedDependency.create_ok created, traversedFields_assumptionId]

omit [LinearOrder D] [DigestText D] [Sha256 D] in
theorem build_ok {eligible : Bool} {code : EvidenceAdmissionCode} {root : D} {event : Option D}
    {status : Option String} (built : EvidenceAdmissionEligibilityDecision.build eligible code
      evidenceId eventSequence root event status = .ok decision) :
    decision.evidenceId = evidenceId := by
  unfold EvidenceAdmissionEligibilityDecision.build at built
  split_ifs at built
  cases built
  rfl

theorem evaluateEvidenceHistory_ok {history : List (RegistryEvent D)}
    (own : OfEntity .evidenceUnit evidenceId history)
    (evaluated : evaluateEvidenceHistory evidenceId eventSequence evidenceRoot history =
      .ok decision) : decision.evidenceId = evidenceId := by
  unfold evaluateEvidenceHistory at evaluated
  split at evaluated
  · exact build_ok evaluated
  · rename_i last found
    split at evaluated
    · exact build_ok evaluated
    · exact build_ok evaluated
    · rename_i current accepted
      have member := List.mem_of_getLast? found
      have projected : project .evidenceUnit history = .ok (some current) := accepted
      have same := (project_entity projected).1 current rfl last member
      rw [build_ok evaluated]
      exact same.symm.trans (own last member).2

theorem yields_evaluateEligibility :
    (evaluateEvidenceAdmissionEligibility evidenceId eventSequence : RegistryM D _).Yields
      fun decision => decision.evidenceId = evidenceId :=
  .bind (.any _) fun _ _ => .bind (.any _) fun _ _ => .bind yields_reconstructEntity fun _ own =>
    yields_contractError fun _ evaluated => evaluateEvidenceHistory_ok own evaluated

theorem yields_evaluateEvidence (evidenceIds : List String) :
    (evaluateEvidence evidenceRoot eventSequence evidenceIds).Yields
      (Judged evidenceRoot eventSequence evidenceIds) := by
  induction evidenceIds with
  | nil => exact .pure .nil
  | cons evidenceId evidenceIds ih =>
      refine .bind yields_evaluateEligibility fun decision evidence => ?_
      refine .bind (.require _ _) fun _ root => .bind (.require _ _) fun _ sequence => ?_
      have judges : Judges evidenceRoot eventSequence evidenceId decision :=
        ⟨evidence, root, sequence⟩
      split_ifs with passes
      · exact .bind ih fun decisions rest => .pure (.passed judges passes rest)
      · exact .pure (.denied judges (Bool.eq_false_iff.mpr passes))

namespace Judged

omit [LinearOrder D] [DigestText D] [Sha256 D] in
theorem listed (judged : Judged evidenceRoot eventSequence evidenceIds decisions) :
    decisions.map (·.evidenceId) = evidenceIds.take decisions.length := by
  induction judged with
  | nil => rfl
  | denied judges => simp [judges.evidence]
  | passed judges _ _ ih => simp [judges.evidence, ih]

omit [LinearOrder D] [DigestText D] [Sha256 D] in
theorem judges (judged : Judged evidenceRoot eventSequence evidenceIds decisions) :
    ∀ decision ∈ decisions, decision.evidenceId ∈ evidenceIds ∧
      decision.evidenceRegistryRoot = evidenceRoot ∧ decision.evaluatedAtSequence = eventSequence := by
  induction judged with
  | nil => nofun
  | denied judges =>
      intro decision member
      obtain rfl := List.mem_singleton.mp member
      exact ⟨by simp [judges.evidence], judges.root, judges.sequence⟩
  | passed judges _ _ ih =>
      intro decision member
      rcases List.mem_cons.mp member with rfl | member
      · exact ⟨by simp [judges.evidence], judges.root, judges.sequence⟩
      · obtain ⟨among, rest⟩ := ih decision member
        exact ⟨List.mem_cons_of_mem _ among, rest⟩

omit [LinearOrder D] [DigestText D] [Sha256 D] in
/-- Where nothing denies there is a decision on each piece of evidence. -/
theorem complete (judged : Judged evidenceRoot eventSequence evidenceIds decisions)
    (passes : ∀ decision ∈ decisions, decision.eligible = true) :
    decisions.map (·.evidenceId) = evidenceIds := by
  induction judged with
  | nil => rfl
  | @denied _ decision _ _ denies =>
      have contrary := passes decision (List.mem_singleton_self _)
      rw [denies] at contrary
      cases contrary
  | passed judges _ _ ih =>
      simp [judges.evidence, ih fun decision member => passes decision (List.mem_cons_of_mem _ member)]

omit [LinearOrder D] [DigestText D] [Sha256 D] in
/-- Only the last decision can deny. -/
theorem last (judged : Judged evidenceRoot eventSequence evidenceIds decisions)
    (denies : decision.eligible = false) (member : decision ∈ decisions) :
    decisions.getLast? = some decision ∧
      ∀ other ∈ decisions.dropLast, other.eligible = true := by
  induction judged with
  | nil => cases member
  | denied =>
      obtain rfl := List.mem_singleton.mp member
      exact ⟨rfl, nofun⟩
  | @passed _ first _ others _ passes _ ih =>
      rcases List.mem_cons.mp member with rfl | member
      · rw [denies] at passes
        cases passes
      · obtain ⟨ends, before⟩ := ih member
        cases others with
        | nil => cases member
        | cons next others =>
            refine ⟨by rw [List.getLast?_cons_cons]; exact ends, ?_⟩
            intro other among
            rw [List.dropLast_cons_cons] at among
            rcases List.mem_cons.mp among with rfl | among
            · exact passes
            · exact before other among

end Judged

/-- The proposal that a validation is about. -/
structure Candidate (eventSequence : Nat) (proposal : Assumption D) : Prop where
  named : isToken proposal.assumptionId = true
  dependencies : SortedTokens proposal.assumptionDependencyIds
  evidence : SortedTokens proposal.evidenceDependencyIds
  advances : proposal.lastClockSequence < eventSequence

theorem yields_candidateProposal (candidateHistory : List (RegistryEvent D)) :
    (candidateProposal candidateHistory eventSequence).Yields (Candidate eventSequence) := by
  refine .bind (.any _) fun projected _ => ?_
  cases projected with
  | none => exact .throw _
  | some projected =>
      refine .bind (.any _) fun authoritative _ => .bind (.any _) fun _ _ => .bind (.any _) fun _ _ => ?_
      refine .bind (yields_entityError fun _ => id) fun state accepted => ?_
      cases state with
      | none => exact .throw _
      | some proposal =>
          refine .bind (.any _) fun _ _ => .bind (.any _) fun _ _ => .bind (.require _ _) fun _ advances =>
            .pure ?_
          have valid := (project_folds accepted).valid
          simp only [Assumption.postInit, except_bind_ok, check_ok] at valid
          obtain ⟨-, named, -, -, -, -, -, -, -, -, -, -, -, -, -, -, -, -, -, -, ⟨⟩, dependencies, ⟨⟩, evidence, -⟩ := valid
          exact ⟨named, requireSortedTokens_ok dependencies, requireSortedTokens_ok evidence, advances⟩

/-- The checks of a receipt past those of its single fields. -/
structure Consistent (receipt : UnsignedReceipt D) : Prop where
  replay : ∃ terminal, receipt.validateTraversalClosure = .ok terminal ∧
    receipt.validateTerminalCode terminal.1 = .ok ()
  phase : receipt.validatePhaseResultConsistency = .ok ()
  decisions : receipt.validateEvidenceDecisions = .ok ()

variable {receipt : UnsignedReceipt D} {progress : Progress String (TraversedDependency D)}
  {halt : Option (Halt String (TraversedDependency D))}

omit [LinearOrder D] [DigestText D] [Sha256 D] in
theorem closure_of_replays {terminal : Option String × Bool}
    (replays : Replays (fun record => record.assumptionId)
      (fun record => record.toTraversedFields.children) [receipt.assumptionId] {}
      receipt.assumptionDependencyIds receipt.traversedDependencies halt progress [])
    (ends : receipt.terminalOf halt = .ok terminal) :
    receipt.validateTraversalClosure = .ok terminal := by
  unfold UnsignedReceipt.validateTraversalClosure
  rw [replays.replay (Nat.lt_succ_self _)]
  change (receipt.terminalOf halt >>= fun terminal => _) = _
  rw [ends]
  rfl

omit [DigestText D] [Sha256 D] in
theorem decisions_of_judged
    (judged : Judged receipt.evidenceRegistryRoot receipt.eventSequence
      receipt.evidenceDependencyIds receipt.evidenceEligibilityDecisions)
    (sorted : SortedTokens receipt.evidenceDependencyIds)
    (sequence : receipt.validateDecisionSequence = .ok ()) :
    receipt.validateEvidenceDecisions = .ok () := by
  have each : receipt.evidenceEligibilityDecisions.map receipt.checkDecision =
      (receipt.evidenceEligibilityDecisions.map fun _ => ()).map .ok := by
    rw [List.map_map]
    refine List.map_congr_left fun decision member => ?_
    obtain ⟨among, root, sequence⟩ := judged.judges decision member
    simp only [UnsignedReceipt.checkDecision, except_bind_ok, check_ok, Function.comp_apply]
    exact ⟨(), among, (), sequence, root⟩
  have ordered : receipt.decisionIds.Pairwise (· ≤ ·) := by
    rw [UnsignedReceipt.decisionIds, judged.listed]
    exact (sorted.1.imp le_of_lt).sublist (List.take_sublist _ _)
  simp only [UnsignedReceipt.validateEvidenceDecisions, except_bind_ok, check_ok]
  exact ⟨(), sequence, _, Results.collect_eq_ok.mpr each, ordered⟩

/-- The records of a search replay as those of the receipt. -/
abbrev Retraces (proposal : Assumption D) (halt : Option (Halt String (TraversedDependency D)))
    (progress : Progress String (TraversedDependency D)) : Prop :=
  Replays (fun record => record.assumptionId) (fun record => record.toTraversedFields.children)
    [proposal.assumptionId] {} proposal.assumptionDependencyIds progress.entered halt progress []

omit [LinearOrder D] [DigestText D] [Sha256 D] in
theorem retraces_of_replayable {proposal : Assumption D}
    {outcome : Option (Halt String (TraversedDependency D)) × Progress String (TraversedDependency D)}
    (replayable : Replayable (fun record => record.assumptionId)
      (fun record => record.toTraversedFields.children) [proposal.assumptionId] {}
      proposal.assumptionDependencyIds outcome) :
    outcome.1 = some .exhausted ∨ Retraces proposal outcome.1 outcome.2 := by
  refine replayable.imp_right fun ⟨found, entered, replays⟩ => ?_
  have all : outcome.2.entered = found := entered
  have replay := replays []
  rwa [List.append_nil, ← all] at replay

variable {roots : Roots D} {proposal : Assumption D} {record : TraversedDependency D}

omit [DigestText D] [Sha256 D] in
/-- A denial of the assumption phase: the replay ends on its code, and there are no decisions. -/
theorem consistent_denial {cyclic : Bool} (result : receipt.validationResult = .deny)
    (denies : receipt.validationCode ∈ assumptionDenyCodes)
    (replayed : receipt.validateTraversalClosure = .ok (some receipt.validationCode, cyclic))
    (witnessed : if receipt.validationCode = cycleCode then receipt.cycleWitness ≠ []
      else receipt.cycleWitness = [])
    (undecided : receipt.evidenceEligibilityDecisions = []) : Consistent receipt := by
  have other : ¬ receipt.validationResult = .pass := by
    rw [result]
    nofun
  refine ⟨⟨_, replayed, ?_⟩, ?_, ?_⟩
  · simp only [UnsignedReceipt.validateTerminalCode, if_pos denies, check_ok]
  · simp only [UnsignedReceipt.validatePhaseResultConsistency, if_neg other, if_pos denies,
      except_bind_ok, check_ok]
    refine ⟨(), by rw [undecided]; rfl, ?_⟩
    split_ifs at witnessed ⊢ with cycle
    · exact check_ok.mpr witnessed
    · exact check_ok.mpr witnessed
  · have sequence : receipt.validateDecisionSequence = .ok () := by
      simp only [UnsignedReceipt.validateDecisionSequence, result, if_pos denies]
    simp only [UnsignedReceipt.validateEvidenceDecisions, except_bind_ok, check_ok]
    exact ⟨(), sequence, [], by rw [undecided]; rfl, by
      rw [UnsignedReceipt.decisionIds, undecided]; exact .nil⟩

omit [DigestText D] [Sha256 D] in
theorem consistent_stopped (retraces : Retraces proposal (some (.stopped record)) progress) :
    Consistent (unsignedReceipt roots proposal eventSequence
      ⟨record.validationCode.text, .deny, progress.entered, [], []⟩) := by
  have leaf : record.validationCode ≠ .dependencyPresent := by
    have closed := (retraces.opened (r := record)).1 rfl
    intro present
    simp [TraversedFields.children, present] at closed
  have denies : record.validationCode.text ∈ assumptionDenyCodes ∧
      record.validationCode.text ≠ cycleCode := by
    cases code : record.validationCode with
    | dependencyPresent => exact absurd code leaf
    | dependencyMissing => decide
    | historyInvalid => decide
  refine consistent_denial rfl denies.1 (closure_of_replays retraces rfl) ?_ rfl
  simp only [unsignedReceipt, if_neg denies.2]

theorem canonicalCycleWitness_ne {path witness : List String}
    (made : canonicalCycleWitness path = .ok witness) : witness ≠ [] := by
  simp only [canonicalCycleWitness, except_bind_ok, check_ok] at made
  obtain ⟨⟨⟩, ⟨long, -⟩, ⟨⟩, -, ⟨⟩, -, returned⟩ := made
  obtain rfl := Except.ok.inj returned
  intro empty
  have lengths := congrArg List.length empty
  simp only [List.length_append, List.length_drop, List.length_take, List.length_dropLast,
    List.length_nil] at lengths
  omega

omit [DigestText D] [Sha256 D] in
theorem consistent_cycle {path witness : List String}
    (retraces : Retraces proposal (some (.cycle path)) progress)
    (made : canonicalCycleWitness path = .ok witness) :
    Consistent (unsignedReceipt roots proposal eventSequence
      ⟨cycleCode, .deny, progress.entered, witness, []⟩) := by
  have denies : cycleCode ∈ assumptionDenyCodes := by decide
  have terminal : (unsignedReceipt roots proposal eventSequence
      ⟨cycleCode, .deny, progress.entered, witness, []⟩).terminalOf (some (.cycle path)) =
        .ok (some cycleCode, true) := by
    simp only [UnsignedReceipt.terminalOf, except_bind_ok, unsignedReceipt]
    exact ⟨witness, made, (), check_ok.mpr rfl, (), check_ok.mpr trivial, trivial⟩
  refine consistent_denial rfl denies (closure_of_replays retraces terminal) ?_ rfl
  exact canonicalCycleWitness_ne made

omit [LinearOrder D] [DigestText D] [Sha256 D] in
theorem code_outside (code : EvidenceAdmissionCode) : code.text ∉ assumptionDenyCodes := by
  cases code <;> decide

omit [LinearOrder D] [DigestText D] [Sha256 D] in
theorem allPresent_of_retraces (retraces : Retraces proposal none progress) :
    ∀ record ∈ progress.entered, record.validationCode = .dependencyPresent := by
  intro record member
  rcases (retraces.opened (r := record)).2 rfl member with old | ⟨below, opens⟩
  · cases old
  · by_contra other
    simp [TraversedFields.children, other] at opens

omit [DigestText D] [Sha256 D] in
/-- Where the assumption graph is complete the receipt goes by the evidence. -/
theorem consistent_evidence (candidate : Candidate eventSequence proposal)
    (retraces : Retraces proposal none progress)
    (judged : Judged roots.evidence eventSequence proposal.evidenceDependencyIds decisions) :
    Consistent (unsignedReceipt roots proposal eventSequence
      (evidenceVerdict progress.entered decisions)) := by
  have present := allPresent_of_retraces retraces
  unfold evidenceVerdict
  cases found : decisions.find? (fun decision => decision.eligible = false) with
  | none =>
      have passes : ∀ decision ∈ decisions, decision.eligible = true := by
        intro decision member
        have kept := List.find?_eq_none.mp found decision member
        simpa using kept
      have outside : passCode ∉ assumptionDenyCodes := by decide
      refine ⟨⟨_, closure_of_replays retraces rfl, ?_⟩, ?_, ?_⟩
      · simp only [UnsignedReceipt.validateTerminalCode, unsignedReceipt, if_neg outside, check_ok]
      · simp only [UnsignedReceipt.validatePhaseResultConsistency, unsignedReceipt, if_true,
          except_bind_ok, check_ok]
        exact ⟨(), trivial, (), trivial, check_ok.mpr present⟩
      · refine decisions_of_judged judged candidate.evidence ?_
        simp only [UnsignedReceipt.validateDecisionSequence, unsignedReceipt, except_bind_ok]
        exact ⟨(), check_ok.mpr (judged.complete passes), check_ok.mpr passes⟩
  | some denied =>
      have member := List.mem_of_find?_eq_some found
      have denies : denied.eligible = false := by simpa using List.find?_some found
      obtain ⟨last, before⟩ := judged.last denies member
      have outside := code_outside denied.code
      refine ⟨⟨_, closure_of_replays retraces rfl, ?_⟩, ?_, ?_⟩
      · simp only [UnsignedReceipt.validateTerminalCode, unsignedReceipt, if_neg outside, check_ok]
      · simp only [UnsignedReceipt.validatePhaseResultConsistency, unsignedReceipt, if_neg outside,
          reduceCtorEq, if_false, except_bind_ok, check_ok]
        exact ⟨(), trivial, check_ok.mpr present⟩
      · refine decisions_of_judged judged candidate.evidence ?_
        simp only [UnsignedReceipt.validateDecisionSequence, unsignedReceipt, if_neg outside, last,
          except_bind_ok]
        refine ⟨(), check_ok.mpr ?_, (), check_ok.mpr before, (), check_ok.mpr denies,
          check_ok.mpr trivial⟩
        simpa [UnsignedReceipt.decisionIds] using judged.listed

theorem yields_reachVerdict (fuel : Nat) (candidate : Candidate eventSequence proposal) :
    (reachVerdict fuel roots proposal eventSequence).Yields fun verdict =>
      Consistent (unsignedReceipt roots proposal eventSequence verdict) := by
  refine .bind (yields_sweep yields_examineDependency fuel _ _ _) ?_
  rintro ⟨halt, progress⟩ replayable
  rcases retraces_of_replayable replayable with rfl | retraces
  · exact .throw _
  cases halt with
  | none =>
      exact .bind (yields_evaluateEvidence _) fun decisions judged =>
        .pure (consistent_evidence candidate retraces judged)
  | some halt =>
      cases halt with
      | exhausted => exact .throw _
      | stopped record => exact .pure (consistent_stopped retraces)
      | cycle path =>
          exact .bind (yields_contractError fun _ => id) fun witness made =>
            .pure (consistent_cycle retraces made)

/-- What the validator derives passes the constructor of the receipt. -/
theorem yields_deriveReceipt (fuel : Nat) (candidateHistory : List (RegistryEvent D))
    (eventSequence : Nat) : (deriveReceipt fuel candidateHistory eventSequence).Yields
      fun fields => fields.postInit = .ok () := by
  refine .bind (.any _) fun roots _ => .bind (yields_candidateProposal _) fun proposal candidate => ?_
  refine .bind (yields_reachVerdict fuel candidate) fun verdict consistent => ?_
  refine .bind (.any _) fun last _ => .bind (.any _) fun _ _ => .bind (.any _) fun _ _ => .pure ?_
  obtain ⟨terminal, replayed, bound⟩ := consistent.replay
  have positive : 1 ≤ eventSequence := by
    have advances := candidate.advances
    omega
  simp only [ReceiptFields.postInit, except_bind_ok, check_ok]
  exact ⟨(), candidate.named, (), rfl, (), positive, (), candidate.dependencies, (),
    candidate.evidence, terminal, replayed, (), consistent.phase, (), bound, (),
    consistent.decisions, trivial⟩

omit [LinearOrder D] in
theorem DependencyValidationReceipt.create_ok [DecidableEq D] {fields : ReceiptFields D}
    {receipt : DependencyValidationReceipt D}
    (created : DependencyValidationReceipt.create fields = .ok receipt) :
    receipt.toReceiptFields = fields := by
  unfold DependencyValidationReceipt.create at created
  split at created
  · cases created
    rfl
  · cases created

omit [LinearOrder D] in
theorem DependencyValidationReceipt.create_of_postInit [DecidableEq D] {fields : ReceiptFields D}
    (valid : fields.postInit = .ok ()) : ∃ receipt,
      DependencyValidationReceipt.create fields = .ok receipt ∧
        receipt.toReceiptFields = fields := by
  refine ⟨⟨fields, valid⟩, ?_, rfl⟩
  unfold DependencyValidationReceipt.create
  split
  · rfl
  · rename_i code failed
    rw [valid] at failed
    cases failed

/-- A PASS receipt records the closed, acyclic dependency graph of its candidate, whatever fields
it is constructed from; and whatever others write while the validator reads, the constructor
accepts the fields that it derives. -/
theorem dependency_receipts_sound :
    (∀ (fields : ReceiptFields D) (receipt : DependencyValidationReceipt D),
      DependencyValidationReceipt.create fields = .ok receipt →
        fields.validationResult = .pass → fields.Closed) ∧
    ∀ (fuel : Nat) (candidateHistory : List (RegistryEvent D)) (eventSequence : Nat),
      (deriveReceipt fuel candidateHistory eventSequence).Yields fun fields =>
        ∃ receipt, DependencyValidationReceipt.create fields = .ok receipt ∧
          receipt.toReceiptFields = fields := by
  refine ⟨fun fields receipt created passes => ?_, fun fuel candidateHistory eventSequence => ?_⟩
  · obtain rfl := DependencyValidationReceipt.create_ok created
    exact receipt.closed passes
  · exact (yields_deriveReceipt fuel candidateHistory eventSequence).mono fun fields valid =>
      DependencyValidationReceipt.create_of_postInit valid

/-! A candidate that depends on two assumptions, which share a dependency. -/
section Sample

def sampleNode (assumptionId : String) (named : Temporal.schemaToken assumptionId = true)
    (dependencies : List String) : RegistryEvent (List Nat) :=
  { sampleEvent 0 none (sampleProposal dependencies) with entityId := assumptionId, token := named }

def sampleCandidate : RegistryEvent (List Nat) := sampleNode "a" sampleToken_a ["b", "c"]

def sampleGraph : RegistryStore (List Nat) :=
  ((do
    let _ ← append (sampleNode "d" (by decide) [])
    let _ ← append (sampleNode "c" (by decide) ["d"])
    let _ ← append (sampleNode "b" sampleToken_b ["d"])
    append sampleCandidate : RegistryM (List Nat) _).exec .initial).2

def passes : Except RegistryError (ReceiptFields D) → Bool
  | .ok fields => fields.validationResult = .pass
  | .error _ => false

set_option maxRecDepth 100000 in
theorem sampleGraph_passes :
    passes ((deriveReceipt 4 [sampleCandidate] 2).exec sampleGraph).1 = true := by
  decide +kernel

/-- Where nothing disturbs the validator it passes the candidate. -/
theorem dependency_receipts_sound_sample : ∃ fields,
    ((deriveReceipt 4 [sampleCandidate] 2).exec sampleGraph).1 = .ok fields ∧
      fields.validationResult = .pass ∧ fields.Closed := by
  obtain ⟨sound, complete⟩ := @dependency_receipts_sound (List Nat) _ _ _
  have closed : ∀ fields t, (deriveReceipt 4 [sampleCandidate] 2).exec sampleGraph =
      (.ok fields, t) → fields.validationResult = .pass → fields.Closed := by
    intro fields t ran passing
    obtain ⟨receipt, created, -⟩ := (complete 4 [sampleCandidate] 2).exec ran
    exact sound fields receipt created passing
  have passing := sampleGraph_passes
  revert closed passing
  generalize (deriveReceipt 4 [sampleCandidate] 2).exec sampleGraph = outcome
  intro closed passing
  obtain ⟨_ | fields, t⟩ := outcome
  · cases passing
  · have passed : fields.validationResult = .pass := of_decide_eq_true passing
    exact ⟨fields, rfl, passed, closed fields t rfl passed⟩

end Sample

end CsdFoundry.Assumptions

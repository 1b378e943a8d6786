import CsdFoundry.Kernel.Traces

/-! The response ABI: what becomes of the bases of a transition, as one of five classes, and the
strict parser of their codewords. -/
namespace CsdFoundry.Empirical
open Kernel

inductive SemanticResponseClass where
  | neither
  | removesOnly
  | survivesOnly
  | both
  | notApplicable
  deriving DecidableEq

namespace SemanticResponseClass

def value : SemanticResponseClass → String
  | .neither => "NEITHER"
  | .removesOnly => "REMOVES_ONLY"
  | .survivesOnly => "SURVIVES_ONLY"
  | .both => "BOTH"
  | .notApplicable => "NOT_APPLICABLE"

/-- The classes, in the order of the enumeration. -/
def all : List SemanticResponseClass :=
  [.neither, .removesOnly, .survivesOnly, .both, .notApplicable]

/-- `_CODEWORD_BY_CLASS`. -/
def codeword : SemanticResponseClass → String
  | .neither => "A"
  | .removesOnly => "B"
  | .survivesOnly => "C"
  | .both => "D"
  | .notApplicable => "E"

theorem mem_all (response : SemanticResponseClass) : response ∈ all := by
  cases response <;> decide

theorem codeword_injective {response response' : SemanticResponseClass}
    (same : response.codeword = response'.codeword) : response = response' := by
  cases response <;> cases response' <;> first | rfl | exact absurd same (by decide)

theorem value_injective {response response' : SemanticResponseClass}
    (same : response.value = response'.value) : response = response' := by
  cases response <;> cases response' <;> first | rfl | exact absurd same (by decide)

end SemanticResponseClass

/-- `_basis_disposition_class`. -/
def basisDispositionClass (anyBasisRemoved anyBasisSurvives : Bool) : SemanticResponseClass :=
  if anyBasisRemoved && anyBasisSurvives then .both
  else if anyBasisRemoved then .removesOnly
  else if anyBasisSurvives then .survivesOnly
  else .neither

/-- The rows of the truth table that the contract of the ABI is built with. -/
def basisTruthTable : List ((Bool × Bool) × String) :=
  [(false, false), (true, false), (false, true), (true, true)].map fun pair =>
    (pair, (basisDispositionClass pair.1 pair.2).value)

structure ParsedResponse where
  isValid : Bool
  semanticClass : Option SemanticResponseClass
  reasonCode : Option String

/-- `parse_response`. -/
def parseResponse (rawOutput : String) : ParsedResponse :=
  match SemanticResponseClass.all.find? (fun response => response.codeword = rawOutput) with
  | some response => ⟨true, some response, none⟩
  | none => ⟨false, none, some "MALFORMED"⟩

/-- `_derive_transition_gold`. -/
def deriveTransitionGold (before : ControlState) (event : CsdEvent) :
    Except OracleError SemanticResponseClass := do
  let oracle ← CsdOracle.apply before event
  .ok (basisDispositionClass (0 < oracle.trace.removedBases.length)
    (0 < oracle.trace.survivingBases.length))

/-- What is read of a compiled record. The trace may be missing. -/
structure FoundryRecord where
  caseType : String
  trace : Option TransitionTrace

inductive FoundryFailure where
  | unsupportedCaseType
  | traceMissing
  | noEntry

/-- `_project_foundry_semantic_class`. -/
def projectFoundrySemanticClass (record : FoundryRecord)
    (truthTable : List ((Bool × Bool) × String)) : Except FoundryFailure String :=
  if record.caseType = "observation" then .ok "NOT_APPLICABLE"
  else if record.caseType ≠ "transition" then .error .unsupportedCaseType
  else match record.trace with
    | none => .error .traceMissing
    | some trace =>
        match truthTable.lookup
            (decide (0 < trace.removedBases.length), decide (0 < trace.survivingBases.length)) with
        | none => .error .noEntry
        | some semanticClass => .ok semanticClass

theorem lookup_basisTruthTable (removed survives : Bool) :
    basisTruthTable.lookup (removed, survives) =
      some (basisDispositionClass removed survives).value := by
  cases removed <;> cases survives <;> rfl

/-! ### Traces and the classes read from them -/

/-- The class that the state change itself determines. -/
def changeClass (before after : ControlState) : SemanticResponseClass :=
  basisDispositionClass (before.currentBasisIds \ after.currentBasisIds ≠ ∅)
    (before.currentBasisIds ∩ after.currentBasisIds ≠ ∅)

theorem length_sortedSet_pos (names : Finset String) :
    decide (0 < (sortedSet names).length) = decide (names ≠ ∅) := by
  have card : (sortedSet names).length = names.card := by
    rw [← Multiset.coe_card, coe_sortedSet]
    rfl
  rw [card]
  exact decide_eq_decide.mpr (Finset.card_pos.trans Finset.nonempty_iff_ne_empty)

/-- A trace that reports the change has the class of the change. -/
theorem class_of_reported {before after : ControlState} {trace : TransitionTrace}
    (reported : Reported before after trace) :
    basisDispositionClass (0 < trace.removedBases.length) (0 < trace.survivingBases.length) =
      changeClass before after := by
  rw [reported.removed, reported.surviving, length_sortedSet_pos, length_sortedSet_pos]
  rfl

/-- An event that changes the bases by a decision and not by what has become of the evidence. -/
def isReassess : CsdEvent → Bool
  | .reassess _ => true
  | _ => false

theorem applied_reported {before after : ControlState} {event : CsdEvent} {trace : TransitionTrace}
    (distinct : (before.evidence.map Evidence.evidenceId).Nodup) (other : isReassess event = false)
    (applied : applyEvent before event = .ok (after, trace)) : Reported before after trace := by
  cases event with
  | dependencyChange event =>
      cases applied
      exact dependency_reported distinct event
  | reassess event => cases other
  | retireControl event => exact retire_reported applied
  | advanceClock event => exact advanceClock_reported distinct applied
  | profileChange event => exact profileChange_reported applied
  | requestReassessment event => exact requestReassessment_reported applied
  | recordHeartbeat event => exact recordHeartbeat_reported applied

/-- The trace of every event but a reassessment reports exactly what the state change is about, and
the classes that are read from it are those of the change. A reassessment lists the bases that are
current after it, and no trace lists a removal that has not taken place. -/
theorem transition_traces_conserved (before : ControlState) (event : CsdEvent) (result : OracleResult)
    (accepted : CsdOracle.apply before event = .ok result) :
    result.trace.invalidatedEvidence =
      sortedSet (before.currentEvidenceIds \ result.after.currentEvidenceIds) ∧
    (∀ basisId ∈ result.trace.removedBases,
      basisId ∈ before.currentBasisIds \ result.after.currentBasisIds) ∧
    (isReassess event = true →
      result.trace.survivingBases = sortedSet result.after.currentBasisIds) ∧
    (isReassess event = false →
      result.trace.removedBases =
        sortedSet (before.currentBasisIds \ result.after.currentBasisIds) ∧
      result.trace.survivingBases =
        sortedSet (before.currentBasisIds ∩ result.after.currentBasisIds) ∧
      deriveTransitionGold before event = .ok (changeClass before result.after) ∧
      projectFoundrySemanticClass ⟨"transition", some result.trace⟩ basisTruthTable =
        .ok (changeClass before result.after).value) := by
  obtain ⟨valid, -, -⟩ := CsdOracle.apply_ok accepted
  have applied := CsdOracle.apply_applied accepted
  cases decision : isReassess event with
  | true =>
      cases event with
      | reassess event =>
          obtain ⟨removed, surviving, invalidated⟩ := reassess_reported applied
          refine ⟨invalidated, ?_, fun _ => surviving, fun other => by cases other⟩
          rw [removed]
          exact fun basisId listed => absurd listed List.not_mem_nil
      | _ => cases decision
  | false =>
      have reported := applied_reported valid.core.evidence decision applied
      refine ⟨reported.invalidated, ?_, (fun other => by cases other), fun _ =>
        ⟨reported.removed, reported.surviving, ?_, ?_⟩⟩
      · intro basisId listed
        rw [reported.removed] at listed
        exact mem_sortedSet.mp listed
      · rw [deriveTransitionGold, accepted, ← class_of_reported reported]
        rfl
      · have entry := lookup_basisTruthTable (0 < result.trace.removedBases.length)
          (0 < result.trace.survivingBases.length)
        rw [class_of_reported reported] at entry
        simp only [projectFoundrySemanticClass, entry]
        rfl

section Sample

def sampleRestored : ControlState where
  controlId := "CTRL-M09"
  evidence := [{ evidenceId := "EV-M09-OLD", dimension := "S1", status := .invalidated }]
  bases := [{
    basisId := "BASIS-M09-OLD"
    kind := .source
    claim := "connected"
    memberEvidenceIds := {"EV-M09-OLD"} }]

def sampleRestoration : CsdEvent := .reassess {
  newEvidence := [{ evidenceId := "EV-M09-NEW", dimension := "S1" }]
  newBases := [{
    basisId := "BASIS-M09-NEW"
    kind := .source
    claim := "connected"
    memberEvidenceIds := {"EV-M09-NEW"} }]
  sourceState := some .connected }

/-- A control without current bases is reassessed: its trace lists the new basis as a survivor. -/
theorem reassessment_lists_new_basis :
    ∃ result, CsdOracle.apply sampleRestored sampleRestoration = .ok result ∧
      result.trace.survivingBases = ["BASIS-M09-NEW"] ∧
      sortedSet (sampleRestored.currentBasisIds ∩ result.after.currentBasisIds) = [] ∧
      deriveTransitionGold sampleRestored sampleRestoration = .ok .survivesOnly ∧
      changeClass sampleRestored result.after = .neither :=
  ⟨_, CsdOracle.apply_of_clean (validStates.mp (by decide +kernel)) rfl (by decide +kernel),
    by decide +kernel, by decide +kernel, by decide +kernel, by decide +kernel⟩

theorem transition_traces_conserved_sample :
    ∃ result, CsdOracle.apply sampleCurrent (.dependencyChange ⟨"library", none⟩) = .ok result ∧
      result.trace.removedBases = ["static"] ∧
      result.trace.removedBases =
        sortedSet (sampleCurrent.currentBasisIds \ result.after.currentBasisIds) ∧
      result.trace.survivingBases =
        sortedSet (sampleCurrent.currentBasisIds ∩ result.after.currentBasisIds) := by
  have accepted := CsdOracle.apply_of_clean (validStates.mp (by decide +kernel))
    (rfl : applyEvent sampleCurrent (.dependencyChange ⟨"library", none⟩) = .ok _)
    (by decide +kernel)
  obtain ⟨removed, surviving, -⟩ := (transition_traces_conserved sampleCurrent
    (.dependencyChange ⟨"library", none⟩) _ accepted).2.2.2 rfl
  exact ⟨_, accepted, by decide +kernel, removed, surviving⟩

end Sample
end CsdFoundry.Empirical

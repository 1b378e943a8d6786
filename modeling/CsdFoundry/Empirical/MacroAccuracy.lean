import CsdFoundry.Empirical.Responses
import CsdFoundry.Results
import Mathlib.Algebra.BigOperators.Field
import Mathlib.Algebra.Order.BigOperators.Group.Finset
import Mathlib.Algebra.Order.Field.Basic
import Mathlib.Data.Rat.Cast.Order
import Mathlib.Tactic.FieldSimp

/-! The primary metric: the accuracy of the predictions on transitions, family by family. -/
namespace CsdFoundry.Empirical
open Results

/-- What is read of an evaluation case. -/
structure EvaluationCase where
  caseId : String
  caseKind : String
  familyDigest : String
  declaredFamily : String := ""
  goldClass : String
  deriving DecidableEq

structure MemberResult where
  caseId : String
  goldClass : String
  rawOutput : String
  isValid : Bool
  parsedClass : Option String
  reasonCode : Option String
  isCorrect : Bool

structure FamilyResult where
  familyDigest : String
  declaredFamily : String
  transitionCount : Nat
  correctCount : Nat
  familyAccuracy : Bool
  members : List MemberResult

structure FamilyMacroAccuracy where
  metricIdentity : String
  developmentFamilyCount : Nat
  familyResults : List FamilyResult
  familyMacroAccuracyNumerator : Nat
  familyMacroAccuracyDenominator : Nat

inductive ScoreFailure where
  | unknownClass (value : String)
  | families (expected observed : Nat)

/-- `SemanticResponseClass(value)`. -/
def SemanticResponseClass.ofValue (value : String) : Except ScoreFailure SemanticResponseClass :=
  match SemanticResponseClass.all.find? (fun response => response.value = value) with
  | some response => .ok response
  | none => .error (.unknownClass value)

def primaryMetricIdentity : String :=
  "structural-holdout-exact-semantic-decision-accuracy/family-macro/1"

def expectedDevelopmentFamilyCount : Nat := 4

/-- `_transition_is_correct`. -/
def transitionIsCorrect (gold : SemanticResponseClass) (parsed : ParsedResponse) : Bool :=
  if parsed.isValid = false then false
  else match parsed.semanticClass with
    | none => false
    | some response => response = gold

/-- The predictions by case. -/
abbrev Predictions : Type := String → Option String

/-- `predictions.get(case_id, "")`. -/
def Predictions.raw (predictions : Predictions) (item : EvaluationCase) : String :=
  (predictions item.caseId).getD ""

/-- The body of the loop over the members of a family. -/
def scoreMember (predictions : Predictions) (item : EvaluationCase) :
    Except ScoreFailure MemberResult := do
  let gold ← SemanticResponseClass.ofValue item.goldClass
  let parsed := parseResponse (predictions.raw item)
  .ok {
    caseId := item.caseId
    goldClass := gold.value
    rawOutput := predictions.raw item
    isValid := parsed.isValid
    parsedClass := parsed.semanticClass.map SemanticResponseClass.value
    reasonCode := parsed.reasonCode
    isCorrect := transitionIsCorrect gold parsed }

/-- The cases of a family, in the order in which they are given. -/
def membersOf (cases : List EvaluationCase) (familyDigest : String) : List EvaluationCase :=
  cases.filter fun item => item.familyDigest = familyDigest

/-- The body of the loop over the families. -/
def scoreFamily (predictions : Predictions) (cases : List EvaluationCase) (familyDigest : String) :
    Except ScoreFailure FamilyResult := do
  let members := membersOf cases familyDigest
  let results ← collect (members.map (scoreMember predictions))
  let correct := results.countP MemberResult.isCorrect
  .ok {
    familyDigest := familyDigest
    declaredFamily := (members.head?.map EvaluationCase.declaredFamily).getD ""
    transitionCount := members.length
    correctCount := correct
    familyAccuracy := correct = members.length
    members := results }

def transitionsOf (cases : List EvaluationCase) : List EvaluationCase :=
  cases.filter fun item => item.caseKind = "transition"

/-- The families of the transitions. -/
def familiesOf (cases : List EvaluationCase) : Finset String :=
  ((transitionsOf cases).map EvaluationCase.familyDigest).toFinset

/-- `score_family_macro_accuracy`. -/
def scoreFamilyMacroAccuracy (cases : List EvaluationCase) (predictions : Predictions) :
    Except ScoreFailure FamilyMacroAccuracy := do
  let devCases := transitionsOf cases
  let byFamily := sortedSet (familiesOf cases)
  let familyResults ← collect (byFamily.map (scoreFamily predictions devCases))
  ensure (byFamily.length = expectedDevelopmentFamilyCount)
    (.families expectedDevelopmentFamilyCount byFamily.length)
  .ok {
    metricIdentity := primaryMetricIdentity
    developmentFamilyCount := byFamily.length
    familyResults := familyResults
    familyMacroAccuracyNumerator := familyResults.countP FamilyResult.familyAccuracy
    familyMacroAccuracyDenominator := byFamily.length }

/-! ### What the metric is meant to be -/

/-- The code's own verdict on a case. -/
def isCorrect (predictions : Predictions) (item : EvaluationCase) : Bool :=
  (SemanticResponseClass.ofValue item.goldClass).toOption.any fun gold =>
    transitionIsCorrect gold (parseResponse (predictions.raw item))

/-- Correct cases over the cases of the family. -/
def familyAccuracy (predictions : Predictions) (cases : List EvaluationCase) (familyDigest : String) :
    ℚ :=
  (membersOf (transitionsOf cases) familyDigest).countP (isCorrect predictions) /
    (membersOf (transitionsOf cases) familyDigest).length

/-- The arithmetic mean across the families. -/
def macroAccuracy (predictions : Predictions) (cases : List EvaluationCase) : ℚ :=
  (∑ familyDigest ∈ familiesOf cases, familyAccuracy predictions cases familyDigest) /
    (familiesOf cases).card

/-- Every gold class is one of the five. -/
def Labelled (cases : List EvaluationCase) : Prop :=
  ∀ item ∈ transitionsOf cases, ∃ gold, SemanticResponseClass.ofValue item.goldClass = .ok gold

/-- The predictions of a family are all correct, or none of them is. -/
def Uniform (predictions : Predictions) (cases : List EvaluationCase) : Prop :=
  ∀ familyDigest ∈ familiesOf cases,
    (∀ item ∈ membersOf (transitionsOf cases) familyDigest, isCorrect predictions item = true) ∨
      ∀ item ∈ membersOf (transitionsOf cases) familyDigest, isCorrect predictions item = false

/-- Predictions that are missing or malformed, or say that no class applies. -/
def Inapplicable (predictions : Predictions) (item : EvaluationCase) : Prop :=
  ∀ response : SemanticResponseClass, response ≠ .notApplicable →
    predictions item.caseId ≠ some response.codeword

variable {predictions : Predictions} {cases cases' : List EvaluationCase}

theorem scoreMember_ok {item : EvaluationCase}
    (labelled : ∃ gold, SemanticResponseClass.ofValue item.goldClass = .ok gold) :
    ∃ result, scoreMember predictions item = .ok result ∧
      result.isCorrect = isCorrect predictions item := by
  obtain ⟨gold, known⟩ := labelled
  refine ⟨_, bind_ok.mpr ⟨gold, known, rfl⟩, ?_⟩
  rw [isCorrect, known]
  rfl

/-- Inputs that all succeed are collected, and keep what their results say. -/
theorem collect_exists {α β γ : Type} {f : α → Except ScoreFailure β} {view : β → γ} {expected : α → γ}
    {inputs : List α}
    (succeeds : ∀ input ∈ inputs, ∃ result, f input = .ok result ∧ view result = expected input) :
    ∃ results, collect (inputs.map f) = .ok results ∧ results.map view = inputs.map expected := by
  induction inputs with
  | nil => exact ⟨[], rfl, rfl⟩
  | cons input inputs ih =>
      obtain ⟨result, mine, seen⟩ := succeeds input List.mem_cons_self
      obtain ⟨results, others, views⟩ := ih fun input later =>
        succeeds input (List.mem_cons_of_mem _ later)
      refine ⟨result :: results, collect_cons.mpr ⟨result, results, mine, others, rfl⟩, ?_⟩
      rw [List.map_cons, List.map_cons, seen, views]

theorem scoreFamily_ok {familyDigest : String} (labelled : Labelled cases) :
    ∃ result, scoreFamily predictions (transitionsOf cases) familyDigest = .ok result ∧
      result.familyAccuracy = decide (∀ item ∈ membersOf (transitionsOf cases) familyDigest,
        isCorrect predictions item = true) := by
  obtain ⟨results, collected, views⟩ := @collect_exists _ _ _ (scoreMember predictions)
    MemberResult.isCorrect (isCorrect predictions) (membersOf (transitionsOf cases) familyDigest)
    fun item member => scoreMember_ok (labelled item (List.mem_filter.mp member).1)
  refine ⟨_, bind_ok.mpr ⟨results, collected, rfl⟩, ?_⟩
  have counted : results.countP MemberResult.isCorrect =
      (membersOf (transitionsOf cases) familyDigest).countP (isCorrect predictions) := by
    have through := congrArg (List.countP id) views
    rw [List.countP_map, List.countP_map] at through
    exact through
  refine decide_eq_decide.mpr ?_
  rw [counted, List.countP_eq_length]

/-- The families that the numerator counts. -/
def accurateFamilies (predictions : Predictions) (cases : List EvaluationCase) : Finset String :=
  (familiesOf cases).filter fun familyDigest =>
    ∀ item ∈ membersOf (transitionsOf cases) familyDigest, isCorrect predictions item = true

theorem length_sortedSet {names : Finset String} : (sortedSet names).length = names.card := by
  rw [← Multiset.coe_card, coe_sortedSet]
  rfl

theorem countP_sortedSet {names : Finset String} (p : String → Prop) [DecidablePred p] :
    (sortedSet names).countP (fun name => decide (p name)) = (names.filter p).card := by
  rw [← Multiset.coe_countP, coe_sortedSet, Multiset.countP_eq_card_filter]
  rfl

/-- The numerator is the number of families without an incorrect case. -/
theorem score_ok (labelled : Labelled cases)
    (spans : (familiesOf cases).card = expectedDevelopmentFamilyCount) :
    ∃ result, scoreFamilyMacroAccuracy cases predictions = .ok result ∧
      result.familyMacroAccuracyNumerator = (accurateFamilies predictions cases).card ∧
      result.familyMacroAccuracyDenominator = (familiesOf cases).card := by
  obtain ⟨results, collected, views⟩ := @collect_exists _ _ _
    (scoreFamily predictions (transitionsOf cases)) FamilyResult.familyAccuracy
    (fun familyDigest => decide (∀ item ∈ membersOf (transitionsOf cases) familyDigest,
      isCorrect predictions item = true))
    (sortedSet (familiesOf cases)) fun familyDigest _ => scoreFamily_ok labelled
  have counted : (sortedSet (familiesOf cases)).length = expectedDevelopmentFamilyCount := by
    rw [length_sortedSet, spans]
  refine ⟨_, bind_ok.mpr ⟨results, collected, ensure_bind.mpr ⟨counted, rfl⟩⟩, ?_, length_sortedSet⟩
  have through := congrArg (List.countP id) views
  rw [List.countP_map, List.countP_map] at through
  change results.countP FamilyResult.familyAccuracy = _
  exact through.trans (countP_sortedSet _)

theorem membersOf_ne_nil {familyDigest : String} (family : familyDigest ∈ familiesOf cases) :
    0 < (membersOf (transitionsOf cases) familyDigest).length := by
  obtain ⟨item, member, own⟩ := List.mem_map.mp (List.mem_toFinset.mp family)
  exact List.length_pos_of_mem (List.mem_filter.mpr ⟨member, decide_eq_true own⟩)

/-- What the numerator counts of a family. -/
def counted (predictions : Predictions) (cases : List EvaluationCase) (familyDigest : String) : ℚ :=
  if familyDigest ∈ accurateFamilies predictions cases then 1 else 0

theorem mem_accurateFamilies {familyDigest : String} (family : familyDigest ∈ familiesOf cases) :
    familyDigest ∈ accurateFamilies predictions cases ↔
      (membersOf (transitionsOf cases) familyDigest).countP (isCorrect predictions) =
        (membersOf (transitionsOf cases) familyDigest).length := by
  rw [accurateFamilies, Finset.mem_filter, List.countP_eq_length]
  exact and_iff_right family

theorem counted_le {familyDigest : String} (family : familyDigest ∈ familiesOf cases) :
    counted predictions cases familyDigest ≤ familyAccuracy predictions cases familyDigest := by
  have filled := membersOf_ne_nil family
  unfold counted familyAccuracy
  split_ifs with accurate
  · rw [(mem_accurateFamilies family).mp accurate, div_self (by exact_mod_cast filled.ne')]
  · positivity

theorem counted_eq {familyDigest : String} (family : familyDigest ∈ familiesOf cases) :
    counted predictions cases familyDigest = familyAccuracy predictions cases familyDigest ↔
      (∀ item ∈ membersOf (transitionsOf cases) familyDigest, isCorrect predictions item = true) ∨
        ∀ item ∈ membersOf (transitionsOf cases) familyDigest,
          isCorrect predictions item = false := by
  have filled := membersOf_ne_nil family
  have whole : ((membersOf (transitionsOf cases) familyDigest).length : ℚ) ≠ 0 := by
    exact_mod_cast filled.ne'
  have all : familyDigest ∈ accurateFamilies predictions cases ↔ _ := mem_accurateFamilies family
  rw [← List.countP_eq_length, ← all]
  have none_correct : (∀ item ∈ membersOf (transitionsOf cases) familyDigest,
      isCorrect predictions item = false) ↔
        (membersOf (transitionsOf cases) familyDigest).countP (isCorrect predictions) = 0 := by
    rw [List.countP_eq_zero]
    simp only [Bool.not_eq_true]
  rw [none_correct]
  unfold counted familyAccuracy
  split_ifs with accurate
  · rw [all.mp accurate, div_self whole]
    simp [accurate]
  · rw [eq_comm, div_eq_zero_iff]
    simp [accurate, whole]

theorem card_accurateFamilies : ((accurateFamilies predictions cases).card : ℚ) =
    ∑ familyDigest ∈ familiesOf cases, counted predictions cases familyDigest := by
  have inside : accurateFamilies predictions cases ⊆ familiesOf cases := Finset.filter_subset _ _
  unfold counted
  rw [Finset.sum_ite_mem, Finset.inter_eq_right.mpr inside, Finset.sum_const, nsmul_one]

/-- The numerator is the sum of the accuracies exactly where no family is answered in part. -/
theorem accurate_eq_macro_iff (some_family : (familiesOf cases).card ≠ 0) :
    ((accurateFamilies predictions cases).card : ℚ) / (familiesOf cases).card =
        macroAccuracy predictions cases ↔ Uniform predictions cases := by
  have whole : ((familiesOf cases).card : ℚ) ≠ 0 := by exact_mod_cast some_family
  rw [macroAccuracy, div_left_inj' whole, card_accurateFamilies,
    Finset.sum_eq_sum_iff_of_le fun familyDigest family => counted_le family]
  exact forall₂_congr fun familyDigest family => counted_eq family

section Order

theorem transitionsOf_perm (same : cases.Perm cases') :
    (transitionsOf cases).Perm (transitionsOf cases') := same.filter _

theorem familiesOf_perm (same : cases.Perm cases') : familiesOf cases = familiesOf cases' :=
  List.toFinset_eq_of_perm _ _ ((transitionsOf_perm same).map _)

theorem accurateFamilies_perm (same : cases.Perm cases') :
    accurateFamilies predictions cases = accurateFamilies predictions cases' := by
  rw [accurateFamilies, accurateFamilies, familiesOf_perm same]
  refine Finset.filter_congr fun familyDigest _ => forall_congr' fun item => ?_
  have member : item ∈ membersOf (transitionsOf cases) familyDigest ↔
      item ∈ membersOf (transitionsOf cases') familyDigest :=
    ((transitionsOf_perm same).filter _).mem_iff
  rw [member]

end Order

section Correct
variable {item : EvaluationCase}

/-- A class is found by what tells the classes apart. -/
theorem find_all_eq_some {key : SemanticResponseClass → String}
    (injective : ∀ response response', key response = key response' → response = response')
    {text : String} {response : SemanticResponseClass} :
    SemanticResponseClass.all.find? (fun response => key response = text) = some response ↔
      key response = text := by
  constructor
  · intro search
    have matched := List.find?_some search
    exact of_decide_eq_true matched
  · intro same
    cases search : SemanticResponseClass.all.find? (fun response => key response = text) with
    | none =>
        have unmatched := List.find?_eq_none.mp search response response.mem_all
        exact absurd (decide_eq_true same) unmatched
    | some found =>
        have matched := List.find?_some search
        rw [decide_eq_true_iff] at matched
        rw [injective found response (matched.trans same.symm)]

theorem semanticClass_eq_some {rawOutput : String} {response : SemanticResponseClass} :
    (parseResponse rawOutput).semanticClass = some response ↔ response.codeword = rawOutput := by
  have found : SemanticResponseClass.all.find? (fun response => response.codeword = rawOutput) =
      some response ↔ _ := find_all_eq_some fun _ _ => SemanticResponseClass.codeword_injective
  rw [← found, parseResponse]
  split
  · case h_1 other search => rw [search]
  · case h_2 search => rw [search]

theorem isValid_iff {rawOutput : String} : (parseResponse rawOutput).isValid =
    (parseResponse rawOutput).semanticClass.isSome := by
  unfold parseResponse
  split <;> rfl

theorem transitionIsCorrect_iff {gold : SemanticResponseClass} {rawOutput : String} :
    transitionIsCorrect gold (parseResponse rawOutput) = true ↔ gold.codeword = rawOutput := by
  rw [← semanticClass_eq_some, transitionIsCorrect, isValid_iff]
  cases (parseResponse rawOutput).semanticClass with
  | none => simp
  | some response => simp

theorem ofValue_ok {value : String} {gold : SemanticResponseClass} :
    SemanticResponseClass.ofValue value = .ok gold ↔ gold.value = value := by
  have found : SemanticResponseClass.all.find? (fun response => response.value = value) =
      some gold ↔ _ := find_all_eq_some fun _ _ => SemanticResponseClass.value_injective
  rw [← found, SemanticResponseClass.ofValue]
  split
  · case h_1 other search => rw [search, Except.ok.injEq, Option.some.injEq]
  · case h_2 search =>
      rw [search]
      exact ⟨fun unknown => (by cases unknown), fun missing => (by cases missing)⟩

/-- A case is counted correct where the codeword of its gold class is predicted. -/
theorem isCorrect_iff : isCorrect predictions item = true ↔
    ∃ gold : SemanticResponseClass, gold.value = item.goldClass ∧
      predictions item.caseId = some gold.codeword := by
  have predicted : ∀ gold : SemanticResponseClass, gold.codeword = predictions.raw item ↔
      predictions item.caseId = some gold.codeword := by
    intro gold
    have written : gold.codeword ≠ "" := by cases gold <;> decide
    rw [Predictions.raw]
    cases predictions item.caseId with
    | none => simp [written]
    | some raw => simp [eq_comm]
  rw [isCorrect]
  cases labelled : SemanticResponseClass.ofValue item.goldClass with
  | error failure =>
      constructor
      · exact fun unlabelled => by cases unlabelled
      · rintro ⟨gold, own, -⟩
        rw [ofValue_ok.mpr own] at labelled
        cases labelled
  | ok gold =>
      change transitionIsCorrect gold _ = true ↔ _
      rw [transitionIsCorrect_iff, predicted]
      constructor
      · exact fun right => ⟨gold, ofValue_ok.mp labelled, right⟩
      · rintro ⟨gold', own, right⟩
        have same := ofValue_ok.mpr own
        rw [labelled] at same
        cases same
        exact right

/-- What is inapplicable is counted correct where the gold class does not apply either. -/
theorem inapplicable_incorrect_iff :
    (Inapplicable predictions item → isCorrect predictions item = false) ↔
      ¬(item.goldClass = SemanticResponseClass.notApplicable.value ∧
        predictions item.caseId = some SemanticResponseClass.notApplicable.codeword) := by
  rw [← Bool.not_eq_true, isCorrect_iff]
  constructor
  · rintro incorrect ⟨gold, predicted⟩
    refine incorrect ?_ ⟨.notApplicable, gold.symm, predicted⟩
    intro response applies same
    rw [predicted, Option.some.injEq] at same
    exact applies (SemanticResponseClass.codeword_injective same).symm
  · rintro apart inapplicable ⟨gold, own, predicted⟩
    by_cases applies : gold = .notApplicable
    · subst applies
      exact apart ⟨own.symm, predicted⟩
    · exact inapplicable gold applies predicted

end Correct

/-- The metric does not depend on the order of the cases. It is the mean of the accuracies of the
families, and counts nothing that is inapplicable, exactly where no family is answered in part and
no transition whose gold class does not apply is answered so. -/
theorem family_macro_accuracy_iff (cases : List EvaluationCase) (predictions : Predictions)
    (labelled : Labelled cases) (spans : (familiesOf cases).card = expectedDevelopmentFamilyCount) :
    ∃ result, scoreFamilyMacroAccuracy cases predictions = .ok result ∧
      (((result.familyMacroAccuracyNumerator : ℚ) / result.familyMacroAccuracyDenominator =
          macroAccuracy predictions cases ∧
        ∀ item ∈ transitionsOf cases,
          Inapplicable predictions item → isCorrect predictions item = false) ↔
        Uniform predictions cases ∧
        ∀ item ∈ transitionsOf cases,
          ¬(item.goldClass = SemanticResponseClass.notApplicable.value ∧
            predictions item.caseId = some SemanticResponseClass.notApplicable.codeword)) ∧
      ∀ cases', cases.Perm cases' →
        ∃ result', scoreFamilyMacroAccuracy cases' predictions = .ok result' ∧
          result'.familyMacroAccuracyNumerator = result.familyMacroAccuracyNumerator ∧
          result'.familyMacroAccuracyDenominator = result.familyMacroAccuracyDenominator := by
  obtain ⟨result, scored, numerator, denominator⟩ :
      ∃ result, scoreFamilyMacroAccuracy cases predictions = .ok result ∧ _ :=
    score_ok labelled spans
  refine ⟨result, scored, ?_, ?_⟩
  · have some_family : (familiesOf cases).card ≠ 0 := by
      rw [spans]
      decide
    rw [numerator, denominator, accurate_eq_macro_iff some_family]
    exact and_congr_right fun _ => forall₂_congr fun item _ => inapplicable_incorrect_iff
  · intro cases' same
    have labelled' : Labelled cases' := fun item member =>
      labelled item ((transitionsOf_perm same).mem_iff.mpr member)
    have spans' : (familiesOf cases').card = expectedDevelopmentFamilyCount := by
      rw [← familiesOf_perm same, spans]
    obtain ⟨result', scored', numerator', denominator'⟩ :
        ∃ result', scoreFamilyMacroAccuracy cases' predictions = .ok result' ∧ _ :=
      score_ok labelled' spans'
    refine ⟨result', scored', ?_, ?_⟩
    · rw [numerator, numerator', accurateFamilies_perm same]
    · rw [denominator, denominator', familiesOf_perm same]

section Sample

/-- Four families, the first of two transitions. -/
def sampleCases : List EvaluationCase := [
  { caseId := "1", caseKind := "transition", familyDigest := "a", goldClass := "NEITHER" },
  { caseId := "2", caseKind := "transition", familyDigest := "a", goldClass := "BOTH" },
  { caseId := "3", caseKind := "transition", familyDigest := "b", goldClass := "NEITHER" },
  { caseId := "4", caseKind := "transition", familyDigest := "c", goldClass := "NEITHER" },
  { caseId := "5", caseKind := "transition", familyDigest := "d", goldClass := "NEITHER" }]

/-- One answer for all. -/
def sampleAnswers : Predictions := fun _ => some "A"

theorem sampleCases_labelled : Labelled sampleCases := by
  have all : ∀ item ∈ sampleCases, ∃ gold, SemanticResponseClass.ofValue item.goldClass = .ok gold := by
    simp only [sampleCases, List.forall_mem_cons]
    exact ⟨⟨.neither, rfl⟩, ⟨.both, rfl⟩, ⟨.neither, rfl⟩, ⟨.neither, rfl⟩, ⟨.neither, rfl⟩, by simp⟩
  exact fun item member => all item (List.mem_filter.mp member).1

/-- A family that is answered in part counts for nothing: the metric is three quarters where the
mean is seven eighths. -/
theorem family_in_part_uncounted :
    Labelled sampleCases ∧ (familiesOf sampleCases).card = expectedDevelopmentFamilyCount ∧
    ∃ result, scoreFamilyMacroAccuracy sampleCases sampleAnswers = .ok result ∧
      result.familyMacroAccuracyNumerator = 3 ∧ result.familyMacroAccuracyDenominator = 4 ∧
      macroAccuracy sampleAnswers sampleCases = 7 / 8 :=
  ⟨sampleCases_labelled, by decide, _, rfl, by decide +kernel, by decide +kernel, by decide +kernel⟩

theorem family_macro_accuracy_sample :
    Labelled sampleCases ∧ (familiesOf sampleCases).card = expectedDevelopmentFamilyCount ∧
    ∃ result, scoreFamilyMacroAccuracy sampleCases sampleAnswers = .ok result ∧
      ∀ cases', sampleCases.Perm cases' →
        ∃ result', scoreFamilyMacroAccuracy cases' sampleAnswers = .ok result' ∧
          result'.familyMacroAccuracyNumerator = result.familyMacroAccuracyNumerator ∧
          result'.familyMacroAccuracyDenominator = result.familyMacroAccuracyDenominator := by
  obtain ⟨result, scored, -, unordered⟩ :=
    family_macro_accuracy_iff sampleCases sampleAnswers sampleCases_labelled (by decide)
  exact ⟨sampleCases_labelled, by decide, result, scored, unordered⟩

end Sample
end CsdFoundry.Empirical

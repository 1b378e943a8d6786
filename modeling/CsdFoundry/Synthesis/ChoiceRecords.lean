import CsdFoundry.Synthesis.ChoicePrimitives
import Mathlib

/-! Records of choices, with the checks of their constructors. -/
namespace CsdFoundry.Synthesis.Choices
open Admission Admission.Value Encoding Results

def choiceRecordSchemaVersion : String := "csd-choice-record/0.4"

/-- `_HEX_BYTES_PATTERN.fullmatch`. -/
def isHexBytes (value : String) : Bool :=
  value ≠ "" && value.toList.length % 2 = 0 && value.toList.all isHexDigit

/-- `int(value, 16)` of hexadecimal digits. -/
def hexValue (value : String) : Nat :=
  value.toList.foldl (fun total c => total * 16 + (hexDigit c).getD 0) 0

@[ext]
structure CandidateDrawRecord where
  drawIndex : Nat
  candidateHex : String
  blockCount : Nat
  deriving DecidableEq

@[ext]
structure BoundedIntegerEvidence where
  value : Nat
  drawIndex : Nat
  candidateHex : String
  candidate : Nat
  limit : Nat
  width : Nat
  blockCount : Nat
  draws : List CandidateDrawRecord
  domainDigest : String
  materialDigest : String
  deriving DecidableEq

structure BoundedIntegerChoiceRecord where
  path : ChoicePath
  generationNamespaceDigest : String
  seedCommitment : String
  upperExclusive : Int
  evidence : BoundedIntegerEvidence

structure WeightedChoiceRecord where
  path : ChoicePath
  generationNamespaceDigest : String
  seedCommitment : String
  values : List CanonicalValue
  weights : List Int
  selectedIndex : Nat
  ticket : BoundedIntegerEvidence

structure BooleanRatioChoiceRecord where
  path : ChoicePath
  generationNamespaceDigest : String
  seedCommitment : String
  numerator : Int
  denominator : Int
  selected : Bool
  ticket : BoundedIntegerEvidence

inductive ChoiceRecord where
  | bounded (record : BoundedIntegerChoiceRecord)
  | weighted (record : WeightedChoiceRecord)
  | ratio (record : BooleanRatioChoiceRecord)

def CandidateDrawRecord.isValid (draw : CandidateDrawRecord) : Bool :=
  isHexBytes draw.candidateHex && 0 < draw.blockCount

/-- `BoundedIntegerEvidence.__post_init__`. -/
def BoundedIntegerEvidence.isValid (evidence : BoundedIntegerEvidence) : Bool :=
  0 < evidence.width && 0 < evidence.blockCount &&
    evidence.candidateHex.toList.length = evidence.width * 2 && isHexBytes evidence.candidateHex &&
    evidence.draws.map (·.drawIndex) = List.range evidence.draws.length &&
    (match evidence.draws.getLast? with
      | none => false
      | some final => evidence.drawIndex = final.drawIndex &&
          evidence.candidateHex = final.candidateHex && evidence.blockCount = final.blockCount) &&
    evidence.candidate = hexValue evidence.candidateHex &&
    evidence.draws.dropLast.all (fun draw => evidence.limit ≤ hexValue draw.candidateHex) &&
    evidence.candidate < evidence.limit &&
    isHexDigest evidence.domainDigest && isHexDigest evidence.materialDigest

def drawRecord (draw : CandidateDraw) : Except ChoiceFailure CandidateDrawRecord := do
  let record : CandidateDrawRecord := ⟨draw.drawIndex, draw.candidateHex, draw.blockCount⟩
  require (record.isValid = true) .record
  .ok record

/-- `BoundedIntegerEvidence.from_result`. -/
def evidenceFromResult (result : BoundedIntegerResult) :
    Except ChoiceFailure BoundedIntegerEvidence := do
  let draws ← collect (result.draws.map drawRecord)
  let evidence : BoundedIntegerEvidence := {
    value := result.value
    drawIndex := result.drawIndex
    candidateHex := result.candidateHex
    candidate := result.candidate
    limit := result.limit
    width := result.width
    blockCount := result.blockCount
    draws := draws
    domainDigest := result.domainDigest
    materialDigest := result.materialDigest }
  require (evidence.isValid = true) .record
  .ok evidence

/-- `record_from_bounded_result`. -/
def recordFromBoundedResult (path : ChoicePath) (generationNamespaceDigest seedCommitment : String)
    (upperExclusive : Int) (result : BoundedIntegerResult) : Except ChoiceFailure ChoiceRecord := do
  let evidence ← evidenceFromResult result
  require (isHexDigest generationNamespaceDigest = true) .record
  require (isHexDigest seedCommitment = true) .record
  require (0 < upperExclusive) .record
  require ((evidence.value : Int) < upperExclusive) .record
  require ((evidence.value : Int) = (evidence.candidate : Int) % upperExclusive) .record
  .ok (.bounded ⟨path, generationNamespaceDigest, seedCommitment, upperExclusive, evidence⟩)

/-- The first index whose running total is above the ticket, or zero. -/
def expectedIndex (ticket : Nat) (weights : List Int) : Nat :=
  let rec search (index : Nat) (cumulative : Int) : List Int → Nat
    | [] => 0
    | weight :: weights =>
        if (ticket : Int) < cumulative + weight then index
        else search (index + 1) (cumulative + weight) weights
  search 0 0 weights

/-- `canonical_value_bytes` of each value. -/
def encodedValues (values : List CanonicalValue) : Except ChoiceFailure (List (List UInt8)) :=
  collect (values.map fun value => value.bytes.mapError .serialization)

/-- `record_from_weighted_result`. -/
def recordFromWeightedResult (path : ChoicePath) (generationNamespaceDigest seedCommitment : String)
    (values : List CanonicalValue) (weights : List Int) (result : WeightedChoiceResult) :
    Except ChoiceFailure ChoiceRecord := do
  let _ ← getItem values result.selectedIndex
  let ticket ← evidenceFromResult result.ticket
  require (isHexDigest generationNamespaceDigest = true) .record
  require (isHexDigest seedCommitment = true) .record
  require (values ≠ []) .record
  require (weights.length = values.length) .record
  require (∀ weight ∈ weights, 0 < weight) .record
  let encoded ← encodedValues values
  require encoded.Nodup .record
  require (result.selectedIndex < weights.length) .record
  require ((ticket.value : Int) < weights.sum) .record
  require (result.selectedIndex = expectedIndex ticket.value weights) .record
  .ok (.weighted ⟨path, generationNamespaceDigest, seedCommitment, values, weights,
    result.selectedIndex, ticket⟩)

/-- `record_from_boolean_result`. -/
def recordFromBooleanResult (path : ChoicePath) (generationNamespaceDigest seedCommitment : String)
    (numerator denominator : Int) (result : BooleanChoiceResult) :
    Except ChoiceFailure ChoiceRecord := do
  let ticket ← evidenceFromResult result.ticket
  require (isHexDigest generationNamespaceDigest = true) .record
  require (isHexDigest seedCommitment = true) .record
  require (0 < denominator ∧ 0 ≤ numerator ∧ numerator ≤ denominator) .record
  require ((ticket.value : Int) < denominator) .record
  require (result.selected = decide ((ticket.value : Int) < numerator)) .record
  .ok (.ratio ⟨path, generationNamespaceDigest, seedCommitment, numerator, denominator,
    result.selected, ticket⟩)

namespace ChoiceRecord

def path : ChoiceRecord → ChoicePath
  | bounded record => record.path
  | weighted record => record.path
  | ratio record => record.path

def seedCommitment : ChoiceRecord → String
  | bounded record => record.seedCommitment
  | weighted record => record.seedCommitment
  | ratio record => record.seedCommitment

def generationNamespaceDigest : ChoiceRecord → String
  | bounded record => record.generationNamespaceDigest
  | weighted record => record.generationNamespaceDigest
  | ratio record => record.generationNamespaceDigest

end ChoiceRecord

def CandidateDrawRecord.json (draw : CandidateDrawRecord) : Value :=
  jsonDict [
    ("block_count", jsonNat draw.blockCount),
    ("candidate_hex", jsonText draw.candidateHex),
    ("draw_index", jsonNat draw.drawIndex)]

def BoundedIntegerEvidence.json (evidence : BoundedIntegerEvidence) : Value :=
  jsonDict [
    ("block_count", jsonNat evidence.blockCount),
    ("candidate", jsonNat evidence.candidate),
    ("candidate_hex", jsonText evidence.candidateHex),
    ("domain_digest", jsonText evidence.domainDigest),
    ("draw_index", jsonNat evidence.drawIndex),
    ("draws", .list (evidence.draws.map CandidateDrawRecord.json)),
    ("limit", jsonNat evidence.limit),
    ("material_digest", jsonText evidence.materialDigest),
    ("value", jsonNat evidence.value),
    ("width", jsonNat evidence.width)]

def BoundedIntegerChoiceRecord.json (record : BoundedIntegerChoiceRecord) : Value :=
  jsonDict [
    ("evidence", record.evidence.json),
    ("generation_namespace_digest", jsonText record.generationNamespaceDigest),
    ("operation", jsonText ChoiceOperation.boundedInteger.value),
    ("path", record.path.json),
    ("schema_version", jsonText choiceRecordSchemaVersion),
    ("seed_commitment", jsonText record.seedCommitment),
    ("upper_exclusive", .int record.upperExclusive)]

/-- The constructor has checked the index. -/
def WeightedChoiceRecord.selectedValue (record : WeightedChoiceRecord) : Value :=
  ((record.values[record.selectedIndex]?).map CanonicalValue.json).getD .null

def WeightedChoiceRecord.json (record : WeightedChoiceRecord) : Value :=
  jsonDict [
    ("generation_namespace_digest", jsonText record.generationNamespaceDigest),
    ("operation", jsonText ChoiceOperation.integerWeightedIndex.value),
    ("path", record.path.json),
    ("schema_version", jsonText choiceRecordSchemaVersion),
    ("seed_commitment", jsonText record.seedCommitment),
    ("selected_index", jsonNat record.selectedIndex),
    ("selected_value", record.selectedValue),
    ("ticket", record.ticket.json),
    ("values", .list (record.values.map CanonicalValue.json)),
    ("weights", .list (record.weights.map Value.int))]

def BooleanRatioChoiceRecord.json (record : BooleanRatioChoiceRecord) : Value :=
  jsonDict [
    ("denominator", .int record.denominator),
    ("generation_namespace_digest", jsonText record.generationNamespaceDigest),
    ("numerator", .int record.numerator),
    ("operation", jsonText ChoiceOperation.booleanRatio.value),
    ("path", record.path.json),
    ("schema_version", jsonText choiceRecordSchemaVersion),
    ("seed_commitment", jsonText record.seedCommitment),
    ("selected", .bool record.selected),
    ("ticket", record.ticket.json)]

/-- `to_json_value`. -/
def ChoiceRecord.json : ChoiceRecord → Value
  | .bounded record => record.json
  | .weighted record => record.json
  | .ratio record => record.json

/-- `choice_record_bytes`. -/
def choiceRecordBytes (record : ChoiceRecord) : Except ChoiceFailure (List UInt8) :=
  jsonBytes record.json

end CsdFoundry.Synthesis.Choices

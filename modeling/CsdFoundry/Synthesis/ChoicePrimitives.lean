import CsdFoundry.Synthesis.ChoicePaths

/-! The choice primitives: integers below a bound by rejection of HMAC blocks, and what is drawn
from them. -/
namespace CsdFoundry.Synthesis.Choices
open Admission Admission.Value Encoding Results HashBytes

def algorithmId : String := "csd-choice-hmac-sha256-rejection"
def algorithmVersion : Nat := 1
def pathSchemaVersion : String := "csd-choice-path/0.4"

def choicePrefix : List UInt8 := utf8 "csd-choice-hmac-sha256-rejection/v1".toList ++ [0]

def maxUint64 : Nat := 2 ^ 64 - 1

structure CandidateDraw where
  drawIndex : Nat
  candidateHex : String
  candidate : Nat
  blockCount : Nat
  deriving DecidableEq

structure BoundedIntegerResult where
  value : Nat
  drawIndex : Nat
  candidateHex : String
  candidate : Nat
  limit : Nat
  width : Nat
  blockCount : Nat
  draws : List CandidateDraw
  domainDigest : String
  materialDigest : String

structure WeightedChoiceResult where
  selectedIndex : Nat
  selectedValue : Value
  ticket : BoundedIntegerResult
  cumulativeWeights : List Nat

structure BooleanChoiceResult where
  selected : Bool
  ticket : BoundedIntegerResult

/-- `_uint64`. -/
def uint64 (value : Nat) : Except ChoiceFailure (List UInt8) :=
  if value ≤ maxUint64 then .ok (toBigEndian 8 value) else .error .validation

/-- `_choice_material`. -/
def choiceMaterial (path : ChoicePath) (operation : ChoiceOperation) (domainDigest : String) :
    Except ChoiceFailure (List UInt8) :=
  jsonBytes (jsonDict [
    ("algorithm_id", jsonText algorithmId),
    ("algorithm_version", jsonNat algorithmVersion),
    ("attempt_index", jsonNat path.attemptKey.attemptIndex),
    ("domain_digest", jsonText domainDigest),
    ("namespace", jsonText path.pathNamespace),
    ("operation", jsonText operation.value),
    ("path_schema_version", jsonText pathSchemaVersion),
    ("release", jsonText path.attemptKey.sampleKey.release),
    ("sample_index", jsonNat path.attemptKey.sampleKey.sampleIndex),
    ("segments", .list (path.segments.map ChoiceSegment.json)),
    ("target_id", jsonText path.attemptKey.sampleKey.targetId)])

section Draws
variable [HashBytes]

/-- `_hmac_block`. -/
def hmacBlock (seed : RootSeed) (material : List UInt8) (drawIndex blockIndex : Nat) :
    Except ChoiceFailure (List UInt8) := do
  let size ← uint64 material.length
  let draw ← uint64 drawIndex
  let block ← uint64 blockIndex
  .ok (hmacSha256 seed.material (choicePrefix ++ size ++ material ++ draw ++ block))

/-- The loop of `_candidate_bytes`. Every block adds bytes, so there are at most `width` rounds. -/
def candidateLoop (seed : RootSeed) (material : List UInt8) (drawIndex width : Nat) :
    Nat → List UInt8 → Nat → Except ChoiceFailure (List UInt8 × Nat)
  | 0, output, blockIndex => .ok (output.take width, blockIndex)
  | rounds + 1, output, blockIndex =>
      if output.length < width then
        if maxUint64 < blockIndex then .error .validation
        else do
          let block ← hmacBlock seed material drawIndex blockIndex
          candidateLoop seed material drawIndex width rounds (output ++ block) (blockIndex + 1)
      else .ok (output.take width, blockIndex)

/-- `_candidate_bytes`. -/
def candidateBytes (seed : RootSeed) (material : List UInt8) (drawIndex width : Nat) :
    Except ChoiceFailure (List UInt8 × Nat) :=
  candidateLoop seed material drawIndex width width [] 0

/-- A block is as long as a digest. -/
theorem length_hmacBlock {seed : RootSeed} {material block : List UInt8} {drawIndex blockIndex : Nat}
    (drawn : hmacBlock seed material drawIndex blockIndex = .ok block) : block.length = 32 := by
  obtain ⟨size, -, drawn⟩ := bind_ok.mp drawn
  obtain ⟨draw, -, drawn⟩ := bind_ok.mp drawn
  obtain ⟨counter, -, drawn⟩ := bind_ok.mp drawn
  cases drawn
  exact length_hmacSha256 _ _

theorem candidateLoop_length {seed : RootSeed} {material : List UInt8} {drawIndex width : Nat} :
    ∀ {rounds : Nat} {output : List UInt8} {blockIndex : Nat} {candidate : List UInt8} {blocks : Nat},
      width ≤ output.length + rounds →
      candidateLoop seed material drawIndex width rounds output blockIndex =
        .ok (candidate, blocks) → candidate.length = width := by
  intro rounds
  induction rounds with
  | zero =>
      intro output blockIndex candidate blocks enough drawn
      cases drawn
      rw [List.length_take]
      omega
  | succ rounds ih =>
      intro output blockIndex candidate blocks enough drawn
      rw [candidateLoop] at drawn
      split_ifs at drawn with short
      · obtain ⟨block, first, rest⟩ := bind_ok.mp drawn
        apply ih _ rest
        rw [List.length_append, length_hmacBlock first]
        omega
      · cases drawn
        rw [List.length_take]
        omega

/-- The rounds suffice: a candidate is as wide as it is meant to be. -/
theorem candidateBytes_length {seed : RootSeed} {material candidate : List UInt8}
    {drawIndex width blocks : Nat}
    (drawn : candidateBytes seed material drawIndex width = .ok (candidate, blocks)) :
    candidate.length = width := by
  apply candidateLoop_length _ drawn
  omega

/-- `int.bit_length`. -/
def bitLength (value : Nat) : Nat := if value = 0 then 0 else value.log2 + 1

/-- The loop of `_bounded_integer_for_domain` over the draws that are left. -/
def drawLoop (seed : RootSeed) (material : List UInt8) (domainDigest : String)
    (upperExclusive limit width : Nat) :
    Nat → Nat → List CandidateDraw → Except ChoiceFailure BoundedIntegerResult
  | 0, _, _ => .error .validation
  | left + 1, drawIndex, draws => do
      let (bytes, blockCount) ← candidateBytes seed material drawIndex width
      let candidate := fromBigEndian bytes
      let draws := draws ++ [⟨drawIndex, hex bytes, candidate, blockCount⟩]
      if candidate < limit then
        .ok {
          value := candidate % upperExclusive
          drawIndex := drawIndex
          candidateHex := hex bytes
          candidate := candidate
          limit := limit
          width := width
          blockCount := blockCount
          draws := draws
          domainDigest := domainDigest
          materialDigest := hex (sha256 material) }
      else
        drawLoop seed material domainDigest upperExclusive limit width left (drawIndex + 1) draws

/-- `_bounded_integer_for_domain`. -/
def boundedIntegerForDomain (seed : RootSeed) (path : ChoicePath) (operation : ChoiceOperation)
    (upperExclusive : Int) (domain : Value) : Except ChoiceFailure BoundedIntegerResult := do
  require (0 < upperExclusive) .validation
  let upper := upperExclusive.toNat
  let domainDigest ← jsonDigest domain
  let material ← choiceMaterial path operation domainDigest
  let width := max 1 ((bitLength (upper - 1) + 7) / 8)
  let space := 2 ^ (width * 8)
  let limit := space - space % upper
  drawLoop seed material domainDigest upper limit width (maxUint64 + 1) 0 []

/-- `bounded_integer`. -/
def boundedInteger (seed : RootSeed) (path : ChoicePath) (upperExclusive : Int) :
    Except ChoiceFailure BoundedIntegerResult :=
  boundedIntegerForDomain seed path .boundedInteger upperExclusive
    (jsonDict [("upper_exclusive", .int upperExclusive)])

/-- The running totals of the weights. -/
def cumulate (total : Nat) : List Int → Except ChoiceFailure (List Nat)
  | [] => .ok []
  | weight :: weights => do
      require (0 < weight) .validation
      let later ← cumulate (total + weight.toNat) weights
      .ok ((total + weight.toNat) :: later)

/-- `bisect.bisect_right` of an ascending list. -/
def bisectRight (cumulative : List Nat) (value : Nat) : Nat :=
  (cumulative.takeWhile (· ≤ value)).length

def getItem (values : List α) (index : Nat) : Except ChoiceFailure α :=
  match values[index]? with
  | some value => .ok value
  | none => .error .index

/-- `weighted_choice`. -/
def weightedChoice (seed : RootSeed) (path : ChoicePath) (values : List Value)
    (weights : List Int) : Except ChoiceFailure WeightedChoiceResult := do
  require (values ≠ []) .validation
  require (values.length = weights.length) .validation
  let canonicalValues ← collect (values.map jsonBytes)
  require canonicalValues.Nodup .validation
  let cumulative ← cumulate 0 weights
  let ticket ← boundedIntegerForDomain seed path .integerWeightedIndex
    (cumulative.getLast?.getD 0)
    (jsonDict [("values", .list values), ("weights", .list (weights.map Value.int))])
  let selectedIndex := bisectRight cumulative ticket.value
  let selectedValue ← getItem values selectedIndex
  .ok ⟨selectedIndex, selectedValue, ticket, cumulative⟩

/-- `choose_ratio`. -/
def chooseRatio (seed : RootSeed) (path : ChoicePath) (numerator denominator : Int) :
    Except ChoiceFailure BooleanChoiceResult := do
  require (0 < denominator) .validation
  require (0 ≤ numerator ∧ numerator ≤ denominator) .validation
  let ticket ← boundedIntegerForDomain seed path .booleanRatio denominator
    (jsonDict [("numerator", .int numerator), ("denominator", .int denominator)])
  .ok ⟨(ticket.value : Int) < numerator, ticket⟩

end Draws
end CsdFoundry.Synthesis.Choices

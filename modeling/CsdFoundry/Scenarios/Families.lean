import CsdFoundry.Scenarios.Rendering

/-! Symbolic families of scenarios: the least of all renderings, and its digest. Whether a
character is a decimal digit, and which, is left open. -/
namespace CsdFoundry.Scenarios
open Kernel Results
open Admission (Value)
open Synthesis (SerializationFailure canonicalJsonBytes ofValue)
open Synthesis.Choices (HashBytes hex isHexDigest)

/-- `FamilySplitError`, the refusal of `int` to read a long ordinal, and the serializer's own
failures. -/
inductive FamilyFailure where
  | family
  | ordinal
  | serialization (failure : SerializationFailure)
  deriving DecidableEq

/-- `canonical_json_bytes`. -/
def familyBytes (value : Value) : Except FamilyFailure (List UInt8) :=
  (canonicalJsonBytes (ofValue value)).mapError .serialization

/-- The value of a decimal digit, if a character is one. -/
class DecimalDigits where
  decimal : Char → Option Nat

open DecimalDigits (decimal)

/-- `_COORDINATE_TOKEN.fullmatch`: the ordinal before a dash, if there is one, and the rest. -/
def coordinateToken [DecimalDigits] (part : List Char) : Option (Option (List Nat) × List Char) :=
  if '\n' ∈ part then none
  else
    let digits := part.takeWhile fun c => (decimal c).isSome
    match digits, part.drop digits.length with
    | _ :: _, separator :: rest =>
        if separator = '-' ∨ separator = '_' then some (some (digits.filterMap decimal), rest)
        else some (none, part)
    | _, _ => some (none, part)

/-- `int` of decimal digits. -/
def ordinalValue (digits : List Nat) : Except FamilyFailure Nat :=
  if 4300 < digits.length then .error .ordinal
  else .ok (digits.foldl (fun value digit => value * 10 + digit) 0)

/-- The label of a token at one depth. A token that is new there gets the next one. -/
def labelToken (labels : List (List Char × String)) (token : List Char) :
    List (List Char × String) × String :=
  match labels.lookup token with
  | some label => (labels, label)
  | none =>
      let label := "C" ++ Nat.repr labels.length
      (labels ++ [(token, label)], label)

/-- The parts of one case id, with the labels of every depth. -/
def coordinateParts [DecimalDigits] : List (List (List Char × String)) → List (List Char) →
    Except FamilyFailure (List (List (List Char × String)) × List CoordinatePart)
  | labelMaps, [] => .ok (labelMaps, [])
  | labelMaps, part :: parts =>
      match coordinateToken part with
      | none => .error .family
      | some (digits, token) => do
          let labeled := labelToken (labelMaps.headD []) token
          let ordinal ← match digits with
            | none => .ok none
            | some digits => (ordinalValue digits).map some
          let (deeper, others) ← coordinateParts labelMaps.tail parts
          .ok (labeled.1 :: deeper, ⟨ordinal, labeled.2⟩ :: others)

def coordinatesFrom [DecimalDigits] : List (List (List Char × String)) → Nat → List String →
    Except FamilyFailure (List Coordinate)
  | _, _, [] => .ok []
  | labelMaps, position, caseId :: caseIds => do
      let (labelMaps, path) ← coordinateParts labelMaps (caseId.toList.splitOn '/')
      let others ← coordinatesFrom labelMaps (position + 1) caseIds
      .ok (⟨position, path⟩ :: others)

/-- `_case_coordinates`. -/
def caseCoordinates [DecimalDigits] (spec : ScenarioSpec) : Except FamilyFailure (List Coordinate) :=
  coordinatesFrom [] 0 (spec.cases.map ScenarioCase.caseId)

/-- `_candidate_maps`. Of the candidates only the least bytes are used, so their order is free. -/
def candidateMaps (ids : NamespaceIds) : Except FamilyFailure (List IdMap) :=
  if maxCanonicalLabelings < ids.labelingCount then .error .family else .ok (labelings ids)

/-- A candidate with its bytes. -/
def candidate (spec : ScenarioSpec) (coordinates : List Coordinate) (ids : IdMap) :
    Except FamilyFailure (RenderedScenario × List UInt8) :=
  match renderScenario spec ids coordinates with
  | none => .error .family
  | some shape => do
      let bytes ← familyBytes shape.json
      .ok (shape, bytes)

/-- The loop of `_family_material` over the candidates. -/
def leastCandidate (spec : ScenarioSpec) (coordinates : List Coordinate) :
    Option (RenderedScenario × List UInt8) → List IdMap →
      Except FamilyFailure (Option (RenderedScenario × List UInt8))
  | best, [] => .ok best
  | best, ids :: others => do
      let next ← candidate spec coordinates ids
      match best with
      | none => leastCandidate spec coordinates (some next) others
      | some least =>
          leastCandidate spec coordinates (some (if next.2 < least.2 then next else least)) others

/-- `_family_material`. -/
def familyMaterial [DecimalDigits] (spec : ScenarioSpec) : Except FamilyFailure RenderedScenario := do
  let coordinates ← caseCoordinates spec
  let candidates ← candidateMaps (collectScenarioIds spec)
  let best ← leastCandidate spec coordinates none candidates
  match best with
  | none => .error .family
  | some least => .ok least.1

structure ScenarioFamilyIdentity where
  scenarioId : String
  declaredFamily : String
  sourceSplit : String
  familyDigest : String
  caseCount : Nat

section Digest
variable [HashBytes] [DecimalDigits]

/-- `canonical_sha256`. -/
def familyDigestOf (material : RenderedScenario) : Except FamilyFailure String := do
  let bytes ← familyBytes material.json
  .ok (hex (HashBytes.sha256 bytes))

/-- `derive_scenario_family_identity`. -/
def deriveScenarioFamilyIdentity (spec : ScenarioSpec) :
    Except FamilyFailure ScenarioFamilyIdentity := do
  ensure (spec.cases ≠ []) .family
  let material ← familyMaterial spec
  let familyDigest ← familyDigestOf material
  ensure (hasText spec.scenarioId = true) .family
  ensure (hasText spec.family = true) .family
  ensure (hasText spec.split = true) .family
  ensure (isHexDigest familyDigest = true) .family
  .ok {
    scenarioId := spec.scenarioId
    declaredFamily := spec.family
    sourceSplit := spec.split
    familyDigest := familyDigest
    caseCount := spec.cases.length }

/-- The digest of the family of a scenario. -/
def familyDigest (spec : ScenarioSpec) : Except FamilyFailure String := do
  let material ← familyMaterial spec
  familyDigestOf material

end Digest
end CsdFoundry.Scenarios

import CsdFoundry.Scenarios.Families

/-! Whole-family assignments of scenarios to the splits of a manifest. -/
namespace CsdFoundry.Scenarios
open Results
open Synthesis.Choices (HashBytes isHexDigest isHexDigit)

inductive E1Split where
  | train
  | development
  deriving DecidableEq

structure FamilySplitAssignment where
  familyDigest : String
  split : E1Split
  scenarioIds : List String
  declaredFamilies : List String
  sourceSplits : List String
  deriving DecidableEq

structure FamilySplitManifest where
  release : String
  sourceCommit : String
  assignments : List FamilySplitAssignment
  deriving DecidableEq

/-- A tuple that equals `tuple(sorted(set(tuple)))`. -/
def isCanonicalTuple (values : List String) : Prop := values = sortedSet values.toFinset

instance (values : List String) : Decidable (isCanonicalTuple values) :=
  inferInstanceAs (Decidable (values = sortedSet values.toFinset))

/-- `FamilySplitAssignment.__post_init__`. -/
def checkedAssignment (assignment : FamilySplitAssignment) :
    Except FamilyFailure FamilySplitAssignment := do
  ensure (isHexDigest assignment.familyDigest = true) .family
  ensure (assignment.scenarioIds ≠ []) .family
  ensure (isCanonicalTuple assignment.scenarioIds) .family
  ensure (isCanonicalTuple assignment.declaredFamilies) .family
  ensure (isCanonicalTuple assignment.sourceSplits) .family
  .ok assignment

/-- `_GIT_COMMIT.fullmatch`. -/
def isGitCommit (value : String) : Bool :=
  (value.toList.length = 40 || value.toList.length = 64) && value.toList.all isHexDigit

def DigestLe (a b : FamilySplitAssignment) : Prop := a.familyDigest ≤ b.familyDigest

instance : DecidableRel DigestLe :=
  fun a b => inferInstanceAs (Decidable (a.familyDigest ≤ b.familyDigest))

/-- `FamilySplitManifest.__post_init__`. -/
def checkedManifest (manifest : FamilySplitManifest) : Except FamilyFailure FamilySplitManifest := do
  ensure (hasText manifest.release = true) .family
  ensure (isGitCommit manifest.sourceCommit = true) .family
  ensure (manifest.assignments ≠ []) .family
  ensure (manifest.assignments = manifest.assignments.insertionSort DigestLe) .family
  ensure (manifest.assignments.map (·.familyDigest)).Nodup .family
  ensure (manifest.assignments.flatMap (·.scenarioIds)).Nodup .family
  ensure (E1Split.train ∈ manifest.assignments.map (·.split) ∧
    E1Split.development ∈ manifest.assignments.map (·.split)) .family
  .ok manifest

/-- The identities of each family, in the order in which the families first appear. -/
def grouped (identities : List ScenarioFamilyIdentity) :
    List (String × List ScenarioFamilyIdentity) :=
  (identities.map (·.familyDigest)).eraseDups.map fun digest =>
    (digest, identities.filter fun identity => identity.familyDigest = digest)

/-- The assignment of one family. -/
def assignmentOf (developmentFamilyDigests : Finset String)
    (family : String × List ScenarioFamilyIdentity) : FamilySplitAssignment where
  familyDigest := family.1
  split := if family.1 ∈ developmentFamilyDigests then .development else .train
  scenarioIds := (family.2.map (·.scenarioId)).insertionSort (· ≤ ·)
  declaredFamilies := sortedSet (family.2.map (·.declaredFamily)).toFinset
  sourceSplits := sortedSet (family.2.map (·.sourceSplit)).toFinset

def ScenarioIdLe (a b : ScenarioSpec) : Prop := a.scenarioId ≤ b.scenarioId

instance : DecidableRel ScenarioIdLe :=
  fun a b => inferInstanceAs (Decidable (a.scenarioId ≤ b.scenarioId))

/-- `compile_family_split_manifest`. -/
def compileFamilySplitManifest [HashBytes] [DecimalDigits] (scenarios : List ScenarioSpec)
    (developmentFamilyDigests : Finset String) (release sourceCommit : String) :
    Except FamilyFailure FamilySplitManifest := do
  let orderedScenarios := scenarios.insertionSort ScenarioIdLe
  ensure (orderedScenarios ≠ []) .family
  ensure (orderedScenarios.map (·.scenarioId)).Nodup .family
  let identities ← collect (orderedScenarios.map deriveScenarioFamilyIdentity)
  let knownFamilies := (identities.map (·.familyDigest)).toFinset
  ensure (developmentFamilyDigests ⊆ knownFamilies) .family
  ensure (developmentFamilyDigests ≠ ∅) .family
  ensure (developmentFamilyDigests ≠ knownFamilies) .family
  let assignments ← collect ((grouped identities).map fun family =>
    checkedAssignment (assignmentOf developmentFamilyDigests family))
  checkedManifest {
    release := release
    sourceCommit := sourceCommit
    assignments := assignments.insertionSort DigestLe }

end CsdFoundry.Scenarios

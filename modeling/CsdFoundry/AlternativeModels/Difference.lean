import Mathlib.Data.Finset.Dedup
import CsdFoundry.AlternativeModels.Graphs
import CsdFoundry.Keyed

/-! The structural difference of two graphs, and the receipt of it. -/
namespace CsdFoundry.AlternativeModels
open Admission Admission.Value Encoding Results
open Synthesis (codePoints)
open Synthesis.Choices (HashBytes isHexDigest jsonText jsonDict)

/-- `_DIFFERENCE_FAMILIES`. -/
inductive DifferenceFamily where
  | addedRemoved
  | relabeled
  | scope
  | temporal
  | authority
  | evidenceAdmission
  deriving DecidableEq

def DifferenceFamily.text : DifferenceFamily → String
  | addedRemoved => "ADDED_REMOVED"
  | relabeled => "RELABELED"
  | scope => "SCOPE"
  | temporal => "TEMPORAL"
  | authority => "AUTHORITY"
  | evidenceAdmission => "EVIDENCE_ADMISSION"

theorem DifferenceFamily.text_injective : Function.Injective text := by
  intro a b same
  cases a <;> cases b <;> first | rfl | exact absurd same (by decide)

/-- Families are sorted as texts. -/
instance : LinearOrder DifferenceFamily :=
  LinearOrder.lift' DifferenceFamily.text DifferenceFamily.text_injective

/-- `word in text`. -/
def contains (text : List Char) (word : String) : Bool := decide (word.toList <:+: text)

/-- `_classify_difference`. The keywords are ASCII, and no other letter is lowered into one of
them. -/
def classifyDifference (path : String) (presentBothSides : Bool) : DifferenceFamily :=
  let lower := path.toList.map Char.toLower
  if contains lower "scope" then .scope
  else if contains lower "temporal" || contains lower "time" || contains lower "sequence" ||
      contains lower "valid_from" || contains lower "expires" then .temporal
  else if contains lower "authority" then .authority
  else if contains lower "evidence" || contains lower "admission" then .evidenceAdmission
  else if presentBothSides then .relabeled
  else .addedRemoved

/-- `str.replace` of one character. -/
def replaceChar (old : Char) (new text : List Char) : List Char :=
  text.flatMap fun c => if c = old then new else [c]

/-- `_escape_pointer_segment`. -/
def escapePointerSegment (key : String) : String :=
  String.ofList (replaceChar '/' ['~', '1'] (replaceChar '~' ['~', '0'] key.toList))

/-- A key of a graph is text. -/
def keyText : PyStr → String
  | .text value => value
  | .lone _ => ""

/-- `==` of floats. NaN equals nothing, and there is no infinity in a graph. -/
def sameFloat : Option String → Option String → Bool
  | some a, some b => a = b || (a ∈ ["0.0", "-0.0"] && b ∈ ["0.0", "-0.0"])
  | _, _ => false

/-- The types are the same and the values are equal; two containers are compared before. -/
def sameScalar : Value → Value → Bool
  | .null, .null => true
  | .bool a, .bool b => a = b
  | .int a, .int b => a = b
  | .float a, .float b => sameFloat a b
  | .str a, .str b => a = b
  | _, _ => false

/-- An entry of `paths` with that of `families`. -/
structure Difference where
  path : String
  family : DifferenceFamily
  deriving DecidableEq

/-- What a value is compared with, at which path. -/
abbrev Comparison := Value → String → List Difference

/-- The body of both loops. -/
def compareMember (primary : Option Comparison) (shadow : Option Value) (path : String) :
    List Difference :=
  match primary, shadow with
  | some compare, some value => compare value path
  | none, none => []
  | _, _ => [⟨path, classifyDifference path false⟩]

def comparePath (path segment : String) : String := path ++ "/" ++ segment

/-- `sorted(all_keys)`. -/
def allKeys (primary shadow : Dict) : List PyStr :=
  ((primary ++ shadow).map (·.1)).dedup.insertionSort fun a b => codePoints a ≤ codePoints b

mutual
/-- `_collect_differences` and `_collect_list_differences`, and the comparison of other values. -/
def collectDifferences : Value → Comparison
  | .dict primary, .dict shadow, path =>
      (allKeys primary shadow).flatMap fun key =>
        compareMember ((memberComparisons primary).lookup key) (shadow.lookup key)
          (comparePath path (escapePointerSegment (keyText key)))
  | .list primary, .list shadow, path =>
      (List.range (max primary.length shadow.length)).flatMap fun i =>
        compareMember (itemComparisons primary)[i]? shadow[i]? (comparePath path i.repr)
  | primary, shadow, path =>
      if sameScalar primary shadow = true then [] else [⟨path, classifyDifference path true⟩]

def memberComparisons : Dict → List (PyStr × Comparison)
  | [] => []
  | (key, value) :: members => (key, collectDifferences value) :: memberComparisons members

def itemComparisons : List Value → List Comparison
  | [] => []
  | item :: items => collectDifferences item :: itemComparisons items
end

/-- A set as a sorted tuple. -/
def uniquePaths (differences : List Difference) : List String :=
  sortedSet (differences.map (·.path)).toFinset

def uniqueFamilies (differences : List Difference) : List DifferenceFamily :=
  sortedSet (differences.map (·.family)).toFinset

def textList (texts : List String) : Value := .list (texts.map jsonText)

section Digests
variable [HashBytes]

/-- `_compute_difference_set_digest`. -/
def computeDifferenceSetDigest (families : List DifferenceFamily) (paths : List String) :
    Except GraphFailure String :=
  domainDigest "ALTERNATIVE_MODEL_STRUCTURAL_DIFFERENCE"
    (jsonDict [("difference_families", textList (families.map DifferenceFamily.text)),
      ("difference_paths", textList paths)])

structure StructuralDifferenceReceipt where
  primaryGraphDigest : String
  shadowGraphDigest : String
  computedDifferenceDigest : String
  declaredDifferenceDigest : String
  differenceFamilies : List DifferenceFamily
  differencePaths : List String
  hasMaterialDifference : Bool
  receiptDigest : String
  deriving DecidableEq

/-- `_DIGEST.fullmatch`. -/
def isDigest (value : String) : Bool :=
  "sha256:".toList.isPrefixOf value.toList && isHexDigest (String.ofList (value.toList.drop 7))

/-- What `_require_difference_paths` and `_require_difference_families` ask of their tuples. -/
def isSortedUnique [LinearOrder α] (items : List α) : Prop :=
  items.insertionSort (· ≤ ·) = items ∧ items.Nodup

instance [LinearOrder α] (items : List α) : Decidable (isSortedUnique items) :=
  inferInstanceAs (Decidable (_ ∧ _))

namespace StructuralDifferenceReceipt

/-- `_unsigned_value`. -/
def unsignedValue (receipt : StructuralDifferenceReceipt) : Value :=
  jsonDict
    [("schema_version", jsonText "alternative-model-structural-difference-receipt/1"),
      ("primary_graph_digest", jsonText receipt.primaryGraphDigest),
      ("shadow_graph_digest", jsonText receipt.shadowGraphDigest),
      ("computed_difference_digest", jsonText receipt.computedDifferenceDigest),
      ("declared_difference_digest", jsonText receipt.declaredDifferenceDigest),
      ("difference_families", textList (receipt.differenceFamilies.map DifferenceFamily.text)),
      ("difference_paths", textList receipt.differencePaths),
      ("has_material_difference", .bool receipt.hasMaterialDifference)]

/-- `__post_init__`. -/
def postInit (receipt : StructuralDifferenceReceipt) : Except GraphFailure Unit := do
  ensure (isDigest receipt.primaryGraphDigest = true)
    (.contract "STRUCTURAL_DIFFERENCE_PRIMARY_GRAPH_DIGEST_INVALID")
  ensure (isDigest receipt.shadowGraphDigest = true)
    (.contract "STRUCTURAL_DIFFERENCE_SHADOW_GRAPH_DIGEST_INVALID")
  ensure (isDigest receipt.computedDifferenceDigest = true)
    (.contract "STRUCTURAL_DIFFERENCE_COMPUTED_DIGEST_INVALID")
  ensure (isDigest receipt.declaredDifferenceDigest = true)
    (.contract "STRUCTURAL_DIFFERENCE_DECLARED_DIGEST_INVALID")
  ensure (isSortedUnique receipt.differenceFamilies)
    (.contract "STRUCTURAL_DIFFERENCE_FAMILIES_INVALID")
  ensure ((∀ path ∈ receipt.differencePaths, path ≠ "") ∧
      isSortedUnique receipt.differencePaths)
    (.contract "STRUCTURAL_DIFFERENCE_PATHS_INVALID")
  ensure (receipt.differenceFamilies = [] ↔ receipt.differencePaths = [])
    (.contract "STRUCTURAL_DIFFERENCE_FAMILY_PATH_INCONSISTENT")
  ensure (receipt.hasMaterialDifference = decide (0 < receipt.differencePaths.length))
    (.contract "STRUCTURAL_DIFFERENCE_MATERIALITY_INCONSISTENT")
  let recomputed ← computeDifferenceSetDigest receipt.differenceFamilies receipt.differencePaths
  ensure (recomputed = receipt.computedDifferenceDigest)
    (.contract "STRUCTURAL_DIFFERENCE_COMPUTED_DIGEST_MISMATCH")
  ensure (receipt.computedDifferenceDigest = receipt.declaredDifferenceDigest)
    (.contract "STRUCTURAL_DIFFERENCE_DECLARED_MISMATCH")
  ensure (isDigest receipt.receiptDigest = true)
    (.contract "STRUCTURAL_DIFFERENCE_RECEIPT_DIGEST_MISMATCH")
  let expected ← domainDigest "ALTERNATIVE_MODEL_STRUCTURAL_DIFFERENCE_RECEIPT"
    receipt.unsignedValue
  ensure (receipt.receiptDigest = expected)
    (.contract "STRUCTURAL_DIFFERENCE_RECEIPT_DIGEST_MISMATCH")

end StructuralDifferenceReceipt

/-- `json.loads` of the canonical bytes, twice. -/
def loadRoots (parseFloat : ParseFloat) (primary shadow : List UInt8) :
    Except GraphFailure (Dict × Dict) :=
  match loadsFloats parseFloat primary, loadsFloats parseFloat shadow with
  | .ok (.dict primary), .ok (.dict shadow) => .ok (primary, shadow)
  | .ok _, .ok _ => .error (.contract "STRUCTURAL_DIFFERENCE_GRAPH_NOT_OBJECT")
  | _, _ => .error .value

/-- `compute_structural_difference_digest`. -/
def computeStructuralDifferenceDigest (parseFloat : ParseFloat)
    (primaryGraphBytes shadowGraphBytes : List UInt8) : Except GraphFailure String := do
  let primaryCanon ← canonicalGraphBytes parseFloat primaryGraphBytes
  let shadowCanon ← canonicalGraphBytes parseFloat shadowGraphBytes
  let (primary, shadow) ← loadRoots parseFloat primaryCanon shadowCanon
  let differences := collectDifferences (.dict primary) (.dict shadow) ""
  computeDifferenceSetDigest (uniqueFamilies differences) (uniquePaths differences)

/-- `detect_structural_difference`. -/
def detectStructuralDifference (parseFloat : ParseFloat)
    (primaryGraphBytes shadowGraphBytes : List UInt8)
    (primaryGraphDigest shadowGraphDigest declaredDifferenceDigest : String) :
    Except GraphFailure StructuralDifferenceReceipt := do
  let primaryCanon ← canonicalGraphBytes parseFloat primaryGraphBytes
  let shadowCanon ← canonicalGraphBytes parseFloat shadowGraphBytes
  ensure (graphDigestOf primaryCanon = primaryGraphDigest)
    (.contract "STRUCTURAL_DIFFERENCE_PRIMARY_GRAPH_DIGEST_MISMATCH")
  ensure (graphDigestOf shadowCanon = shadowGraphDigest)
    (.contract "STRUCTURAL_DIFFERENCE_SHADOW_GRAPH_DIGEST_MISMATCH")
  let (primary, shadow) ← loadRoots parseFloat primaryCanon shadowCanon
  let differences := collectDifferences (.dict primary) (.dict shadow) ""
  let paths := uniquePaths differences
  let families := uniqueFamilies differences
  let computed ← computeDifferenceSetDigest families paths
  let unsigned : StructuralDifferenceReceipt :=
    ⟨primaryGraphDigest, shadowGraphDigest, computed, declaredDifferenceDigest, families, paths,
      decide (0 < paths.length), ""⟩
  let receiptDigest ← domainDigest "ALTERNATIVE_MODEL_STRUCTURAL_DIFFERENCE_RECEIPT"
    unsigned.unsignedValue
  let receipt := { unsigned with receiptDigest }
  receipt.postInit
  return receipt

end Digests
end CsdFoundry.AlternativeModels

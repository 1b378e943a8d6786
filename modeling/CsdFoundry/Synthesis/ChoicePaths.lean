import CsdFoundry.Synthesis.CanonicalRoundTrip

/-! Paths, seeds and digests of deterministic choices. SHA-256 is left open but for the length
of its digests. -/
namespace CsdFoundry.Synthesis.Choices
open Admission Admission.Value Encoding

/-- `hashlib.sha256`. -/
class HashBytes where
  sha256 : List UInt8 → List UInt8
  length_sha256 : ∀ message, (sha256 message).length = 32

open HashBytes (sha256)

/-- `bytes.hex`. -/
def hex (bytes : List UInt8) : String :=
  String.ofList (bytes.flatMap fun byte =>
    [(byte.toNat / 16).digitChar, (byte.toNat % 16).digitChar])

/-- `int.to_bytes(width, "big")`. -/
def toBigEndian : Nat → Nat → List UInt8
  | 0, _ => []
  | width + 1, value => toBigEndian width (value / 256) ++ [UInt8.ofNat (value % 256)]

/-- `int.from_bytes(bytes, "big")`. -/
def fromBigEndian (bytes : List UInt8) : Nat :=
  bytes.foldl (fun value byte => value * 256 + byte.toNat) 0

/-- `hmac.new(key, message, hashlib.sha256).digest()`. -/
def hmacSha256 [HashBytes] (key message : List UInt8) : List UInt8 :=
  let key := if 64 < key.length then sha256 key else key
  let padded := key ++ List.replicate (64 - key.length) 0
  sha256 (padded.map (· ^^^ 0x5c) ++ sha256 (padded.map (· ^^^ 0x36) ++ message))

theorem length_hmacSha256 [HashBytes] (key message : List UInt8) :
    (hmacSha256 key message).length = 32 := HashBytes.length_sha256 _

/-- The error classes of choice sessions and of their replay. An `index` is out of range. -/
inductive ChoiceFailure where
  | session
  | duplicatePath
  | record
  | validation
  | budget (choiceCount maximumChoices canonicalBytes maximumCanonicalBytes : Nat)
  | serialization (failure : SerializationFailure)
  | index
  | replayMismatch
  deriving DecidableEq

def require (condition : Prop) [Decidable condition] (otherwise : ChoiceFailure) :
    Except ChoiceFailure Unit :=
  if condition then .ok () else .error otherwise

/-- `canonical_json_bytes` of a JSON value. -/
def jsonBytes (value : Value) : Except ChoiceFailure (List UInt8) :=
  (canonicalJsonBytes (ofValue value)).mapError .serialization

/-- `canonical_sha256`. -/
def jsonDigest [HashBytes] (value : Value) : Except ChoiceFailure String := do
  let bytes ← jsonBytes value
  .ok (hex (sha256 bytes))

def jsonText (value : String) : Value := .str (.text value)

def jsonNat (value : Nat) : Value := .int value

def jsonDict (members : List (String × Value)) : Value :=
  .dict (members.map fun member => (.text member.1, member.2))

def isTokenStart (c : Char) : Bool := c.isDigit || ('a' ≤ c && c ≤ 'z')

/-- `_TOKEN_PATTERN.fullmatch`. -/
def isToken (value : String) : Bool :=
  match value.toList with
  | [] => false
  | first :: rest =>
      isTokenStart first && rest.all fun c => isTokenStart c || c = '.' || c = '_' || c = '-'

def isHexDigit (c : Char) : Bool := c.isDigit || ('a' ≤ c && c ≤ 'f')

/-- `_HEX_256_PATTERN.fullmatch`. -/
def isHexDigest (value : String) : Bool :=
  value.toList.length = 64 && value.toList.all isHexDigit

structure RootSeed where
  material : List UInt8
  size : material.length = 32

def RootSeed.commitment [HashBytes] (seed : RootSeed) : String :=
  hex (sha256 (utf8 "csd-root-seed-commitment/v1".toList ++ 0 :: seed.material))

/-- A namespace is known by its digest. -/
structure GenerationNamespace where
  digest : String

structure SampleKey where
  release : String
  targetId : String
  sampleIndex : Nat
  isRelease : release = "v0.4"
  isTarget : isToken targetId = true
  deriving DecidableEq

def maxAttemptIndex : Nat := 2 ^ 32 - 1

structure AttemptKey where
  sampleKey : SampleKey
  attemptIndex : Nat
  bounded : attemptIndex ≤ maxAttemptIndex
  deriving DecidableEq

inductive ChoiceSegment where
  | token (value : String)
  | index (value : Nat)
  deriving DecidableEq

def ChoiceSegment.isValid : ChoiceSegment → Bool
  | .token value => isToken value
  | .index _ => true

structure ChoicePath where
  attemptKey : AttemptKey
  pathNamespace : String
  segments : List ChoiceSegment
  isNamespace : isToken pathNamespace = true
  nonempty : segments ≠ []
  valid : segments.all ChoiceSegment.isValid = true
  deriving DecidableEq

def ChoiceSegment.json : ChoiceSegment → Value
  | .token value => jsonText value
  | .index value => jsonNat value

/-- `to_json_value`. -/
def ChoicePath.json (path : ChoicePath) : Value :=
  jsonDict [
    ("release", jsonText path.attemptKey.sampleKey.release),
    ("target_id", jsonText path.attemptKey.sampleKey.targetId),
    ("sample_index", jsonNat path.attemptKey.sampleKey.sampleIndex),
    ("attempt_index", jsonNat path.attemptKey.attemptIndex),
    ("namespace", jsonText path.pathNamespace),
    ("segments", .list (path.segments.map ChoiceSegment.json))]

/-- `_path_bytes`. -/
def ChoicePath.bytes (path : ChoicePath) : Except ChoiceFailure (List UInt8) := jsonBytes path.json

inductive ChoiceOperation where
  | boundedInteger
  | integerWeightedIndex
  | booleanRatio

def ChoiceOperation.value : ChoiceOperation → String
  | .boundedInteger => "bounded_integer"
  | .integerWeightedIndex => "integer_weighted_index"
  | .booleanRatio => "boolean_ratio"

end CsdFoundry.Synthesis.Choices

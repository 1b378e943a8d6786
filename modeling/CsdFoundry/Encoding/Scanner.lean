import CsdFoundry.Admission.Canonicalization
import Mathlib.Data.Char

/-! `json.loads` of a decoded text, with hooks that refuse floats and constants. The scanners
consume a text and return the rest of it. -/
namespace CsdFoundry.Encoding
open Admission Admission.Value

/-- What `json.loads` raises: `JSONDecodeError`, the `ValueError` of an integer with too many
digits, or the error of a hook. -/
inductive Refusal where
  | decode
  | digits
  | float
  | constant
  deriving DecidableEq

def isSpace (c : Char) : Bool := c = ' ' || c = '\t' || c = '\n' || c = '\r'

def skip (text : List Char) : List Char := text.dropWhile isSpace

def hexDigit (c : Char) : Option Nat :=
  if c.isDigit then some (c.toNat - 48)
  else if 'a' ≤ c && c ≤ 'f' then some (c.toNat - 87)
  else if 'A' ≤ c && c ≤ 'F' then some (c.toNat - 55)
  else none

def unescape (c : Char) : Option Nat :=
  match c with
  | '"' | '\\' | '/' => some c.toNat
  | 'b' => some 8
  | 'f' => some 12
  | 'n' => some 10
  | 'r' => some 13
  | 't' => some 9
  | _ => none

/-- `scanstring` after the opening quote. An escape stands for a unit of UTF-16. -/
def scanUnits : List Char → Except Refusal (List Nat × List Char)
  | [] => .error .decode
  | '"' :: rest => .ok ([], rest)
  | '\\' :: 'u' :: a :: b :: c :: d :: rest =>
      match hexDigit a, hexDigit b, hexDigit c, hexDigit d with
      | some a, some b, some c, some d => do
          let (units, rest) ← scanUnits rest
          .ok ((((a * 16 + b) * 16 + c) * 16 + d) :: units, rest)
      | _, _, _, _ => .error .decode
  | '\\' :: c :: rest =>
      match unescape c with
      | some unit => do
          let (units, rest) ← scanUnits rest
          .ok (unit :: units, rest)
      | none => .error .decode
  | c :: rest =>
      if c.toNat < 32 then .error .decode
      else do
        let (units, rest) ← scanUnits rest
        .ok (c.toNat :: units, rest)

/-- Two escapes that form a surrogate pair are one code point. -/
def joinPairs : List Nat → List Nat
  | high :: low :: units =>
      if 0xD800 ≤ high ∧ high ≤ 0xDBFF ∧ 0xDC00 ≤ low ∧ low ≤ 0xDFFF then
        (0x10000 + (high - 0xD800) * 0x400 + (low - 0xDC00)) :: joinPairs units
      else high :: joinPairs (low :: units)
  | units => units

def ofCodePoints (codePoints : List Nat) : PyStr :=
  if found : (codePoints.map (Fin.ofNat 0x110000)).any (fun c => isSurrogate c.val) = true then
    .lone ⟨codePoints.map (Fin.ofNat 0x110000), found⟩
  else .text (String.ofList (codePoints.map Char.ofNat))

def scanString (text : List Char) : Except Refusal (PyStr × List Char) := do
  let (units, rest) ← scanUnits text
  .ok (ofCodePoints (joinPairs units), rest)

/-- A fraction or an exponent follows the digits of an integer. -/
def isFloating : List Char → Bool
  | '.' :: c :: _ => c.isDigit
  | e :: c :: rest => (e = 'e' || e = 'E') &&
      (c.isDigit || ((c = '+' || c = '-') && rest.head?.any Char.isDigit))
  | _ => false

def scanInteger (negative : Bool) (digits rest : List Char) :
    Except Refusal (Value × List Char) :=
  if isFloating rest = true then .error .float
  else if maxStrDigits < digits.length then .error .digits
  else
    let magnitude : Int := Nat.ofDigitChars 10 digits 0
    .ok (.int (if negative = true then -magnitude else magnitude), rest)

/-- `_match_number` after the sign. -/
def scanNumber (negative : Bool) : List Char → Except Refusal (Value × List Char)
  | [] => .error .decode
  | c :: rest =>
      if c = '0' then scanInteger negative [c] rest
      else if c.isDigit then
        scanInteger negative (c :: rest.takeWhile Char.isDigit) (rest.dropWhile Char.isDigit)
      else .error .decode

/-- The words of JSON, and the constants that `parse_constant` is called for. -/
def words : List (String × Option Value) :=
  [("null", some .null), ("true", some (.bool true)), ("false", some (.bool false)),
    ("NaN", none), ("Infinity", none), ("-Infinity", none)]

def scanAtom (text : List Char) : Except Refusal (Value × List Char) :=
  match words.find? fun word => word.1.toList.isPrefixOf text with
  | some (word, some value) => .ok (value, text.drop word.toList.length)
  | some (_, none) => .error .constant
  | none =>
      match text with
      | '-' :: rest => scanNumber true rest
      | text => scanNumber false text

/-- `dict.__setitem__`: an old key keeps its place. -/
def setItem (members : Dict) (key : PyStr) (value : Value) : Dict :=
  if (members.map (·.1)).contains key = true then
    members.map fun member => if member.1 = key then (key, value) else member
  else members ++ [(key, value)]

def dictOf (pairs : Dict) : Dict :=
  pairs.foldl (fun members pair => setItem members pair.1 pair.2) []

mutual
/-- `scan_once`. Every call consumes a character before the next, so that the length of the
text bounds the depth. -/
def scanOnce : Nat → List Char → Except Refusal (Value × List Char)
  | 0, _ => .error .decode
  | _ + 1, '"' :: rest => do
      let (value, rest) ← scanString rest
      .ok (.str value, rest)
  | fuel + 1, '[' :: rest =>
      match skip rest with
      | ']' :: rest => .ok (.list [], rest)
      | rest => do
          let (items, rest) ← scanItems fuel rest
          .ok (.list items, rest)
  | fuel + 1, '\x7b' :: rest =>
      match skip rest with
      | '\x7d' :: rest => .ok (.dict [], rest)
      | rest => do
          let (pairs, rest) ← scanMembers fuel rest
          .ok (.dict (dictOf pairs), rest)
  | _ + 1, text => scanAtom text

/-- The items of an array from the first one on. -/
def scanItems : Nat → List Char → Except Refusal (List Value × List Char)
  | 0, _ => .error .decode
  | fuel + 1, text => do
      let (item, rest) ← scanOnce fuel text
      match skip rest with
      | ']' :: rest => .ok ([item], rest)
      | ',' :: rest => do
          let (items, rest) ← scanItems fuel (skip rest)
          .ok (item :: items, rest)
      | _ => .error .decode

/-- The members of an object from the first one on. -/
def scanMembers : Nat → List Char → Except Refusal (Dict × List Char)
  | fuel + 1, '"' :: rest => do
      let (key, rest) ← scanString rest
      match skip rest with
      | ':' :: rest => do
          let (value, rest) ← scanOnce fuel (skip rest)
          match skip rest with
          | '\x7d' :: rest => .ok ([(key, value)], rest)
          | ',' :: rest => do
              let (pairs, rest) ← scanMembers fuel (skip rest)
              .ok ((key, value) :: pairs, rest)
          | _ => .error .decode
      | _ => .error .decode
  | _, _ => .error .decode
end

/-- `json.loads`. -/
def loads (text : List Char) : Except Refusal Value := do
  let (value, rest) ← scanOnce text.length (skip text)
  if skip rest = [] then .ok value else .error .decode

end CsdFoundry.Encoding

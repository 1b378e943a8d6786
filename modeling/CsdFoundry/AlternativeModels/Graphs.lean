import Mathlib.Data.List.Induction
import CsdFoundry.Governance.Canonicalization
import CsdFoundry.Synthesis.ChoiceEncoding

/-! The bytes of a graph. They are read by `json.loads` without hooks: numerals with a fraction or
an exponent are floats, and so are the constants. -/
namespace CsdFoundry.AlternativeModels
open Admission Admission.Value Encoding Results
open Governance (hasUniqueKeys)
open Synthesis (sortCodes)
open Synthesis.Choices (HashBytes hex)

/-- `float`: the `repr` of the nearest double, and nothing for one that is infinite. -/
abbrev ParseFloat := List Char → Option String

/-- The fraction of a numeral, and the rest. -/
def scanFraction : List Char → List Char × List Char
  | '.' :: c :: rest =>
      if c.isDigit then
        ('.' :: c :: rest.takeWhile Char.isDigit, rest.dropWhile Char.isDigit)
      else ([], '.' :: c :: rest)
  | text => ([], text)

/-- The exponent of a numeral, and the rest. -/
def scanExponent : List Char → List Char × List Char
  | e :: c :: rest =>
      if (e = 'e' || e = 'E') && c.isDigit then
        (e :: c :: rest.takeWhile Char.isDigit, rest.dropWhile Char.isDigit)
      else if (e = 'e' || e = 'E') && (c = '+' || c = '-') && rest.head?.any Char.isDigit then
        (e :: c :: rest.takeWhile Char.isDigit, rest.dropWhile Char.isDigit)
      else ([], e :: c :: rest)
  | text => ([], text)

/-- The numeral that starts with these digits. -/
def scanNumeral (parseFloat : ParseFloat) (negative : Bool) (digits rest : List Char) :
    Except Refusal (Value × List Char) :=
  if isFloating rest = true then
    let (fraction, rest) := scanFraction rest
    let (exponent, rest) := scanExponent rest
    let sign := if negative = true then ['-'] else []
    .ok (.float (parseFloat (sign ++ digits ++ fraction ++ exponent)), rest)
  else scanInteger negative digits rest

/-- `_match_number` after the sign. -/
def scanNumberOrFloat (parseFloat : ParseFloat) (negative : Bool) :
    List Char → Except Refusal (Value × List Char)
  | [] => .error .decode
  | c :: rest =>
      if c = '0' then scanNumeral parseFloat negative [c] rest
      else if c.isDigit then
        scanNumeral parseFloat negative (c :: rest.takeWhile Char.isDigit)
          (rest.dropWhile Char.isDigit)
      else .error .decode

/-- The constants are NaN and the infinities. -/
def scanAtomOrFloat (parseFloat : ParseFloat) (text : List Char) :
    Except Refusal (Value × List Char) :=
  match words.find? fun word => word.1.toList.isPrefixOf text with
  | some (word, some value) => .ok (value, text.drop word.toList.length)
  | some (word, none) => .ok (.float none, text.drop word.toList.length)
  | none =>
      match text with
      | '-' :: rest => scanNumberOrFloat parseFloat true rest
      | text => scanNumberOrFloat parseFloat false text

mutual
/-- `scan_once`, as with hooks but for the atoms. -/
def scanValue (parseFloat : ParseFloat) : Nat → List Char → Except Refusal (Value × List Char)
  | 0, _ => .error .decode
  | _ + 1, '"' :: rest => do
      let (value, rest) ← scanString rest
      .ok (.str value, rest)
  | fuel + 1, '[' :: rest =>
      match skip rest with
      | ']' :: rest => .ok (.list [], rest)
      | rest => do
          let (items, rest) ← scanValues parseFloat fuel rest
          .ok (.list items, rest)
  | fuel + 1, '\x7b' :: rest =>
      match skip rest with
      | '\x7d' :: rest => .ok (.dict [], rest)
      | rest => do
          let (pairs, rest) ← scanPairs parseFloat fuel rest
          .ok (.dict (dictOf pairs), rest)
  | _ + 1, text => scanAtomOrFloat parseFloat text

def scanValues (parseFloat : ParseFloat) : Nat → List Char →
    Except Refusal (List Value × List Char)
  | 0, _ => .error .decode
  | fuel + 1, text => do
      let (item, rest) ← scanValue parseFloat fuel text
      match skip rest with
      | ']' :: rest => .ok ([item], rest)
      | ',' :: rest => do
          let (items, rest) ← scanValues parseFloat fuel (skip rest)
          .ok (item :: items, rest)
      | _ => .error .decode

def scanPairs (parseFloat : ParseFloat) : Nat → List Char → Except Refusal (Dict × List Char)
  | fuel + 1, '"' :: rest => do
      let (key, rest) ← scanString rest
      match skip rest with
      | ':' :: rest => do
          let (value, rest) ← scanValue parseFloat fuel (skip rest)
          match skip rest with
          | '\x7d' :: rest => .ok ([(key, value)], rest)
          | ',' :: rest => do
              let (pairs, rest) ← scanPairs parseFloat fuel (skip rest)
              .ok ((key, value) :: pairs, rest)
          | _ => .error .decode
      | _ => .error .decode
  | _, _ => .error .decode
end

/-- `json.loads(supplied.decode("utf-8"))`. -/
def loadsFloats (parseFloat : ParseFloat) (supplied : List UInt8) : Except Refusal Value :=
  match decodeUtf8 supplied with
  | none => .error .decode
  | some text => do
      let (value, rest) ← scanValue parseFloat text.length (skip text)
      if skip rest = [] then .ok value else .error .decode

/-- `AssumptionGovernanceContractError` with its code, or a `ValueError` from the library. -/
inductive GraphFailure where
  | contract (code : String)
  | value
  deriving DecidableEq

/-- `_json_bytes`. -/
def jsonBytes (value : Value) : Option (List UInt8) :=
  (sortCodes value).dumps.map fun text => utf8 (text ++ ['\n'])

/-- `_canonical_graph_bytes`. -/
def canonicalGraphBytes (parseFloat : ParseFloat) (supplied : List UInt8) :
    Except GraphFailure (List UInt8) :=
  match loadsFloats parseFloat supplied with
  | .error .digits => .error .value
  | .error _ => .error (.contract "ALTERNATIVE_MODEL_GRAPH_BYTES_INVALID")
  | .ok value =>
      match jsonBytes value with
      | none => .error (.contract "ALTERNATIVE_MODEL_GRAPH_BYTES_INVALID")
      | some canonical =>
          if canonical = supplied then .ok canonical
          else .error (.contract "ALTERNATIVE_MODEL_GRAPH_BYTES_NONCANONICAL")

/-- `_graph_digest_of`. -/
def graphDigestOf [HashBytes] (canonical : List UInt8) : String :=
  "sha256:" ++ hex (HashBytes.sha256 canonical)

/-- `_domain_digest`. -/
def domainDigest [HashBytes] (domain : String) (value : Value) : Except GraphFailure String :=
  match jsonBytes value with
  | none => .error .value
  | some bytes => .ok ("sha256:" ++ hex (HashBytes.sha256 (utf8 domain.toList ++ bytes)))

/-! ### Unique keys -/

theorem keys_setItem (members : Dict) (key : PyStr) (value : Value) :
    (setItem members key value).map (·.1) =
      if key ∈ members.map (·.1) then members.map (·.1) else members.map (·.1) ++ [key] := by
  unfold setItem
  by_cases old : key ∈ members.map (·.1)
  · have kept : (members.map fun member => if member.1 = key then (key, value) else member).map
        (·.1) = members.map (·.1) := by
      rw [List.map_map]
      refine List.map_congr_left fun member _ => ?_
      by_cases same : member.1 = key
      · simp [same]
      · simp [same]
    rw [if_pos (List.contains_iff_mem.mpr old), if_pos old, kept]
  · rw [if_neg fun found => old (List.contains_iff_mem.mp found), if_neg old, List.map_append]
    rfl

theorem nodup_setItem {members : Dict} (unique : (members.map (·.1)).Nodup) (key : PyStr)
    (value : Value) : ((setItem members key value).map (·.1)).Nodup := by
  rw [keys_setItem]
  split
  · exact unique
  · rename_i new
    exact List.nodup_append.mpr ⟨unique, List.nodup_singleton key, by
      rintro other inside _ only rfl
      rw [List.mem_singleton.mp only] at inside
      exact new inside⟩

theorem mem_setItem {members : Dict} {key : PyStr} {value : Value} {member : PyStr × Value}
    (inside : member ∈ setItem members key value) : member = (key, value) ∨ member ∈ members := by
  unfold setItem at inside
  split at inside
  · obtain ⟨old, listed, rfl⟩ := List.mem_map.mp inside
    split
    · exact .inl rfl
    · exact .inr listed
  · rcases List.mem_append.mp inside with old | new
    · exact .inr old
    · exact .inl (List.mem_singleton.mp new)

/-- A dict is filled with unique keys, from values that are among the pairs. -/
theorem dictOf_spec (pairs : Dict) :
    ((dictOf pairs).map (·.1)).Nodup ∧ ∀ member ∈ dictOf pairs, member ∈ pairs := by
  induction pairs using List.reverseRecOn with
  | nil => exact ⟨List.nodup_nil, nofun⟩
  | append_singleton pairs pair ih =>
      have filled : dictOf (pairs ++ [pair]) = setItem (dictOf pairs) pair.1 pair.2 := by
        rw [dictOf, List.foldl_append]
        rfl
      rw [filled]
      refine ⟨nodup_setItem ih.1 _ _, fun member inside => ?_⟩
      rcases mem_setItem inside with rfl | old
      · exact List.mem_append_right _ (List.mem_singleton.mpr rfl)
      · exact List.mem_append_left _ (ih.2 member old)

/-- Every dict in the value has unique keys. -/
abbrev Unique (value : Value) : Prop := value.every hasUniqueKeys = true

theorem scanNumeral_unique {parseFloat : ParseFloat} {negative : Bool} {digits text : List Char}
    (scanned : scanNumeral parseFloat negative digits text = .ok (value, rest)) : Unique value := by
  unfold scanNumeral at scanned
  split at scanned
  · cases scanned
    rfl
  · unfold scanInteger at scanned
    split at scanned
    · cases scanned
    · split at scanned
      · cases scanned
      · cases scanned
        rfl

theorem scanNumberOrFloat_unique {parseFloat : ParseFloat} {negative : Bool} {text : List Char}
    (scanned : scanNumberOrFloat parseFloat negative text = .ok (value, rest)) :
    Unique value := by
  unfold scanNumberOrFloat at scanned
  split at scanned
  · cases scanned
  · split at scanned
    · exact scanNumeral_unique scanned
    · split at scanned
      · exact scanNumeral_unique scanned
      · cases scanned

theorem words_unique : ∀ word ∈ words, ∀ value, word.2 = some value → Unique value := by
  intro word listed value found
  simp only [words, List.mem_cons, List.not_mem_nil, or_false] at listed
  rcases listed with rfl | rfl | rfl | rfl | rfl | rfl <;> cases found <;> rfl

theorem scanAtomOrFloat_unique {parseFloat : ParseFloat} {text : List Char}
    (scanned : scanAtomOrFloat parseFloat text = .ok (value, rest)) : Unique value := by
  unfold scanAtomOrFloat at scanned
  split at scanned
  · rename_i word known found
    cases scanned
    exact words_unique _ (List.mem_of_find?_eq_some found) _ rfl
  · cases scanned
    rfl
  · split at scanned
    · exact scanNumberOrFloat_unique scanned
    · exact scanNumberOrFloat_unique scanned

theorem scan_unique (parseFloat : ParseFloat) (fuel : Nat) :
    (∀ text value rest, scanValue parseFloat fuel text = .ok (value, rest) → Unique value) ∧
    (∀ text items rest, scanValues parseFloat fuel text = .ok (items, rest) →
      ∀ item ∈ items, Unique item) ∧
    ∀ text pairs rest, scanPairs parseFloat fuel text = .ok (pairs, rest) →
      ∀ pair ∈ pairs, Unique pair.2 := by
  induction fuel with
  | zero =>
      refine ⟨?_, ?_, ?_⟩
      · intro text value rest scanned
        cases scanned
      · intro text items rest scanned
        cases scanned
      · intro text pairs rest scanned
        unfold scanPairs at scanned
        cases scanned
  | succ fuel ih =>
      obtain ⟨values, sequences, members⟩ := ih
      refine ⟨?_, ?_, ?_⟩
      · intro text value rest scanned
        unfold scanValue at scanned
        split at scanned
        · rename_i none
          cases none
        · obtain ⟨⟨key, tail⟩, -, done⟩ := bind_ok.mp scanned
          cases done
          rfl
        · split at scanned
          · cases scanned
            rfl
          · obtain ⟨⟨items, tail⟩, listed, done⟩ := bind_ok.mp scanned
            cases done
            rename_i same _ _
            cases same
            exact every_list.mpr ⟨rfl, sequences _ _ _ listed⟩
        · split at scanned
          · cases scanned
            rfl
          · obtain ⟨⟨pairs, tail⟩, listed, done⟩ := bind_ok.mp scanned
            cases done
            rename_i same _ _
            cases same
            obtain ⟨unique, among⟩ := dictOf_spec pairs
            refine every_dict.mpr ⟨decide_eq_true unique, fun member inside => ?_⟩
            exact members _ _ _ listed member (among member inside)
        · exact scanAtomOrFloat_unique scanned
      · intro text items rest scanned
        unfold scanValues at scanned
        obtain ⟨⟨first, tail⟩, head, scanned⟩ := bind_ok.mp scanned
        dsimp only at scanned
        split at scanned
        · cases scanned
          rintro item only
          rw [List.mem_singleton.mp only]
          exact values _ _ _ head
        · obtain ⟨⟨more, tail⟩, listed, done⟩ := bind_ok.mp scanned
          cases done
          rintro item inside
          rcases List.mem_cons.mp inside with rfl | later
          · exact values _ _ _ head
          · exact sequences _ _ _ listed item later
        · cases scanned
      · intro text pairs rest scanned
        unfold scanPairs at scanned
        split at scanned
        · rename_i same
          cases same
          obtain ⟨⟨key, tail⟩, -, scanned⟩ := bind_ok.mp scanned
          dsimp only at scanned
          split at scanned
          · obtain ⟨⟨value, tail⟩, head, scanned⟩ := bind_ok.mp scanned
            dsimp only at scanned
            split at scanned
            · cases scanned
              rintro pair only
              rw [List.mem_singleton.mp only]
              exact values _ _ _ head
            · obtain ⟨⟨more, tail⟩, listed, done⟩ := bind_ok.mp scanned
              cases done
              rintro pair inside
              rcases List.mem_cons.mp inside with rfl | later
              · exact values _ _ _ head
              · exact members _ _ _ listed pair later
            · cases scanned
          · cases scanned
        · cases scanned

theorem loadsFloats_unique {parseFloat : ParseFloat} {supplied : List UInt8}
    (loaded : loadsFloats parseFloat supplied = .ok value) : Unique value := by
  unfold loadsFloats at loaded
  split at loaded
  · cases loaded
  · obtain ⟨⟨found, rest⟩, scanned, done⟩ := bind_ok.mp loaded
    dsimp only at done
    split at done
    · cases done
      exact (scan_unique parseFloat _).1 _ _ _ scanned
    · cases done

/-! ### Canonical bytes -/

section Canonical
variable {parseFloat : ParseFloat} {value value' : Value} {supplied : List UInt8}

theorem canonicalGraphBytes_ok {canonical : List UInt8} :
    canonicalGraphBytes parseFloat supplied = .ok canonical ↔ canonical = supplied ∧
      ∃ value, loadsFloats parseFloat supplied = .ok value ∧ jsonBytes value = some supplied := by
  unfold canonicalGraphBytes
  cases loaded : loadsFloats parseFloat supplied with
  | error refusal => cases refusal <;> simp
  | ok value =>
      cases rendered : jsonBytes value with
      | none => simp [rendered]
      | some bytes =>
          by_cases same : bytes = supplied
          · simp [same, rendered, eq_comm]
          · simp [same, rendered]

theorem isRenderable_sortCodes (value : Value) :
    isRenderable (sortCodes value) = isRenderable value := by
  cases value with
  | dict members =>
      have perm := List.perm_insertionSort Synthesis.CodeLe
        (members.map fun member => (member.1, sortCodes member.2))
      rw [Synthesis.sortCodes_dict]
      change List.all _ _ = List.all _ _
      rw [perm.all_eq, List.all_map]
      rfl
  | _ => rfl

/-- Everything in the value has a text. -/
abbrev Renderable (value : Value) : Prop := value.every isRenderable = true

theorem jsonBytes_isSome : (jsonBytes value).isSome = true ↔ Renderable value := by
  rw [jsonBytes, Option.isSome_map, isSome_dumps,
    Synthesis.Choices.every_sortCodes isRenderable_sortCodes]

theorem jsonBytes_congr (same : sortCodes value = sortCodes value') :
    jsonBytes value = jsonBytes value' := by
  rw [jsonBytes, jsonBytes, same]

end Canonical
end CsdFoundry.AlternativeModels

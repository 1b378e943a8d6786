import CsdFoundry.Encoding.Scanner

/-! The scanners read back the strings and the integers that `json.dumps` writes. -/
namespace CsdFoundry.Encoding
open Admission Admission.Value

section Strings
variable {c : Char} {rest tail : List Char} {units : List Nat}

theorem hexDigit_digitChar : ∀ n < 16, hexDigit n.digitChar = some n := by decide

theorem scanUnits_plain (quote : c ≠ '"') (backslash : c ≠ '\\') (visible : 32 ≤ c.toNat)
    (scanned : scanUnits rest = .ok (units, tail)) :
    scanUnits (c :: rest) = .ok (c.toNat :: units, tail) := by
  have printed : ¬ c.toNat < 32 := by omega
  rw [scanUnits.eq_5 c rest quote (fun _ _ _ _ _ same => absurd same backslash)
    (fun _ _ same => absurd same backslash), if_neg printed, scanned]
  rfl

theorem scanUnits_escaped {unit : Nat} (known : unescape c = some unit) (other : c ≠ 'u')
    (scanned : scanUnits rest = .ok (units, tail)) :
    scanUnits ('\\' :: c :: rest) = .ok (unit :: units, tail) := by
  rw [scanUnits.eq_4 c rest (fun _ _ _ _ _ same => absurd same other), known, scanned]
  rfl

theorem scanUnits_control {n : Nat} (small : n < 32)
    (scanned : scanUnits rest = .ok (units, tail)) :
    scanUnits ('\\' :: 'u' :: '0' :: '0' :: (n / 16).digitChar :: (n % 16).digitChar :: rest) =
      .ok (n :: units, tail) := by
  have zero : hexDigit '0' = some 0 := by decide
  have high := hexDigit_digitChar (n / 16) (by omega)
  have low := hexDigit_digitChar (n % 16) (by omega)
  have value : ((0 * 16 + 0) * 16 + n / 16) * 16 + n % 16 = n := by omega
  simp only [scanUnits, zero, high, low, scanned, value]
  rfl

theorem scanUnits_escape (scanned : scanUnits rest = .ok (units, tail)) :
    scanUnits (escape c ++ rest) = .ok (c.toNat :: units, tail) := by
  unfold escape
  split_ifs with quote backslash newline carriage tab backspace feed control
  · subst quote
    exact scanUnits_escaped (by decide) (by decide) scanned
  · subst backslash
    exact scanUnits_escaped (by decide) (by decide) scanned
  · subst newline
    exact scanUnits_escaped (by decide) (by decide) scanned
  · subst carriage
    exact scanUnits_escaped (by decide) (by decide) scanned
  · subst tab
    exact scanUnits_escaped (by decide) (by decide) scanned
  · rw [backspace]
    exact scanUnits_escaped (by decide) (by decide) scanned
  · rw [feed]
    exact scanUnits_escaped (by decide) (by decide) scanned
  · exact scanUnits_control control scanned
  · exact scanUnits_plain quote backslash (by omega) scanned

theorem scanUnits_text (text rest : List Char) :
    scanUnits (text.flatMap escape ++ '"' :: rest) = .ok (text.map Char.toNat, rest) := by
  induction text with
  | nil => rfl
  | cons c text ih =>
      rw [List.flatMap_cons, List.append_assoc]
      exact scanUnits_escape ih

theorem not_surrogate (c : Char) : c.toNat < 0xD800 ∨ 0xDFFF < c.toNat := by
  rcases c.valid with low | ⟨high, -⟩
  · exact .inl low
  · exact .inr high

theorem joinPairs_text (text : List Char) :
    joinPairs (text.map Char.toNat) = text.map Char.toNat := by
  induction text with
  | nil => rfl
  | cons c text ih =>
      cases text with
      | nil => rfl
      | cons d text =>
          have apart := not_surrogate c
          rw [List.map_cons] at ih
          rw [List.map_cons, List.map_cons, joinPairs, if_neg (by omega), ih]

theorem ofCodePoints_text (text : List Char) :
    ofCodePoints (text.map Char.toNat) = .text (String.ofList text) := by
  have whole : ∀ c : Char, isSurrogate (Fin.ofNat 0x110000 c.toNat).val = false := by
    intro c
    have apart := not_surrogate c
    have bound : c.toNat < 0x110000 := by
      rcases c.valid with low | ⟨-, high⟩
      · exact low.trans (by decide)
      · exact high
    have same : (Fin.ofNat 0x110000 c.toNat).val = c.toNat := Nat.mod_eq_of_lt bound
    simp only [isSurrogate, same, Bool.and_eq_false_iff, decide_eq_false_iff_not]
    omega
  have none : ((text.map Char.toNat).map (Fin.ofNat 0x110000)).any
      (fun c => isSurrogate c.val) = false := by
    rw [List.map_map, List.any_map, List.any_eq_false]
    intro c _
    exact Bool.eq_false_iff.mp (whole c)
  have letters : (text.map Char.toNat).map Char.ofNat = text := by
    rw [List.map_map]
    exact List.map_congr_left (fun c _ => Char.ofNat_toNat c) |>.trans (List.map_id text)
  rw [ofCodePoints, dif_neg (Bool.eq_false_iff.mp none), letters]

theorem scanString_quoted (value : String) :
    scanString (value.toList.flatMap escape ++ '"' :: rest) = .ok (.text value, rest) := by
  rw [scanString, scanUnits_text]
  change Except.ok (ofCodePoints (joinPairs (value.toList.map Char.toNat)), rest) = _
  rw [joinPairs_text, ofCodePoints_text, String.ofList_toList]

end Strings

/-- What may follow a value in the texts that `json.dumps` writes. -/
def Ends (rest : List Char) : Prop := ∀ c ∈ rest.head?, c = ',' ∨ c = ']' ∨ c = '\x7d' ∨ c = '\n'

section Integers
variable {rest : List Char}

theorem Ends.not_floating (ends : Ends rest) : isFloating rest = false := by
  cases rest with
  | nil => rfl
  | cons c rest =>
      rcases ends c rfl with rfl | rfl | rfl | rfl <;> cases rest <;> rfl

theorem Ends.digits (ends : Ends rest) {digits : List Char} (all : ∀ c ∈ digits, c.isDigit) :
    (digits ++ rest).takeWhile Char.isDigit = digits ∧
      (digits ++ rest).dropWhile Char.isDigit = rest := by
  have none : rest.takeWhile Char.isDigit = [] ∧ rest.dropWhile Char.isDigit = rest := by
    cases rest with
    | nil => exact ⟨rfl, rfl⟩
    | cons c rest => rcases ends c rfl with rfl | rfl | rfl | rfl <;> exact ⟨rfl, rfl⟩
  rw [List.takeWhile_append_of_pos all, List.dropWhile_append_of_pos all, none.1, none.2,
    List.append_nil]
  exact ⟨rfl, rfl⟩

theorem digitChar_ne_zero : ∀ n < 10, 0 < n → n.digitChar ≠ '0' := by decide

theorem toDigits_head {n : Nat} (positive : 0 < n) :
    ∀ c ∈ (Nat.toDigits 10 n).head?, c ≠ '0' := by
  induction n using Nat.strong_induction_on with
  | h n ih =>
      rw [Nat.toDigits_eq_if (by decide)]
      split_ifs with small
      · intro c head
        cases head
        exact digitChar_ne_zero n small positive
      · have shorter := ih (n / 10) (by omega) (by omega)
        rwa [List.head?_append_of_ne_nil _ Nat.toDigits_ne_nil]

theorem scanNumber_toDigits {negative : Bool} {n : Nat} (short : n < 10 ^ maxStrDigits)
    (ends : Ends rest) : scanNumber negative (Nat.toDigits 10 n ++ rest) =
      .ok (.int (if negative = true then -(n : Int) else n), rest) := by
  have counted : ¬ maxStrDigits < (Nat.toDigits 10 n).length := by
    rw [Nat.not_lt, Nat.length_toDigits_le_iff (by decide) (by decide)]
    exact short
  have scanned : scanInteger negative (Nat.toDigits 10 n) rest =
      .ok (.int (if negative = true then -(n : Int) else n), rest) := by
    rw [scanInteger, ends.not_floating, if_neg (by decide), if_neg counted,
      Nat.ofDigitChars_ten_toDigits]
  have all : ∀ c ∈ Nat.toDigits 10 n, c.isDigit :=
    fun c member => Nat.isDigit_of_mem_toDigits (by decide) (by decide) member
  cases digits : Nat.toDigits 10 n with
  | nil => exact absurd digits Nat.toDigits_ne_nil
  | cons c others =>
      rw [digits] at scanned all
      rw [List.cons_append, scanNumber]
      rcases Nat.eq_zero_or_pos n with rfl | positive
      · cases digits
        exact scanned
      · have leading : c ≠ '0' := toDigits_head positive c (by rw [digits]; rfl)
        obtain ⟨taken, dropped⟩ := ends.digits (fun d member => all d (List.mem_cons_of_mem c member))
        rw [if_neg leading, if_pos (all c List.mem_cons_self), taken, dropped, scanned]

end Integers
end CsdFoundry.Encoding

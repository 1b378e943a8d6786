import CsdFoundry.Synthesis.ChoiceRecords
import Mathlib.Data.List.Induction

/-! The two notations of a candidate. Its bytes are a number in base 256, most significant byte
first, and its hexadecimal digits are the same number in base 16. -/
namespace CsdFoundry.Synthesis.Choices
open Encoding

theorem isHexDigit_digitChar : ∀ n < 16, isHexDigit n.digitChar = true := by decide

theorem toList_hex (bytes : List UInt8) : (hex bytes).toList =
    bytes.flatMap fun byte => [(byte.toNat / 16).digitChar, (byte.toNat % 16).digitChar] :=
  String.toList_ofList

theorem length_hex (bytes : List UInt8) : (hex bytes).toList.length = bytes.length * 2 := by
  rw [toList_hex]
  induction bytes with
  | nil => rfl
  | cons byte bytes ih =>
      rw [List.flatMap_cons, List.length_append, ih]
      simp only [List.length_cons, List.length_nil]
      omega

theorem hex_digits (bytes : List UInt8) : (hex bytes).toList.all isHexDigit = true := by
  rw [toList_hex, List.all_flatMap]
  refine List.all_eq_true.mpr fun byte _ => ?_
  have small := byte.toNat_lt
  have high := isHexDigit_digitChar (byte.toNat / 16) (by omega)
  have low := isHexDigit_digitChar (byte.toNat % 16) (by omega)
  simp [high, low]

theorem isHexBytes_hex {bytes : List UInt8} (some : bytes ≠ []) : isHexBytes (hex bytes) = true := by
  have length := length_hex bytes
  have long : bytes.length ≠ 0 := fun empty => some (List.eq_nil_of_length_eq_zero empty)
  have filled : hex bytes ≠ "" := by
    intro empty
    rw [empty] at length
    simp only [String.toList_empty, List.length_nil] at length
    omega
  simp [isHexBytes, filled, length, hex_digits]

theorem isHexDigest_hex {bytes : List UInt8} (length : bytes.length = 32) :
    isHexDigest (hex bytes) = true := by
  simp [isHexDigest, length_hex, length, hex_digits]

/-- Two digits are a byte. -/
theorem hexValue_hex (bytes : List UInt8) : hexValue (hex bytes) = fromBigEndian bytes := by
  have read : ∀ (bytes : List UInt8) (total : Nat),
      (bytes.flatMap fun byte =>
        [(byte.toNat / 16).digitChar, (byte.toNat % 16).digitChar]).foldl
          (fun total c => total * 16 + (hexDigit c).getD 0) total =
        bytes.foldl (fun value byte => value * 256 + byte.toNat) total := by
    intro bytes
    induction bytes with
    | nil => exact fun _ => rfl
    | cons byte bytes ih =>
        intro total
        have small := byte.toNat_lt
        have high := hexDigit_digitChar (byte.toNat / 16) (by omega)
        have low := hexDigit_digitChar (byte.toNat % 16) (by omega)
        rw [List.flatMap_cons, List.foldl_append, List.foldl_cons (l := bytes), ← ih]
        congr 1
        simp only [List.foldl_cons, List.foldl_nil, high, low, Option.getD_some]
        omega
  rw [hexValue, toList_hex, read, fromBigEndian]

theorem fromBigEndian_snoc (bytes : List UInt8) (byte : UInt8) :
    fromBigEndian (bytes ++ [byte]) = fromBigEndian bytes * 256 + byte.toNat := by
  rw [fromBigEndian, List.foldl_append]
  rfl

theorem length_toBigEndian (width value : Nat) : (toBigEndian width value).length = width := by
  induction width generalizing value with
  | zero => rfl
  | succ width ih => rw [toBigEndian, List.length_append, ih, List.length_singleton]

theorem fromBigEndian_toBigEndian {width value : Nat} (small : value < 256 ^ width) :
    fromBigEndian (toBigEndian width value) = value := by
  induction width generalizing value with
  | zero =>
      have zero : value = 0 := by simpa using small
      subst zero
      rfl
  | succ width ih =>
      have less : value / 256 < 256 ^ width := by
        apply (Nat.div_lt_iff_lt_mul (by decide)).mpr
        rwa [← pow_succ]
      rw [toBigEndian, fromBigEndian_snoc, ih less, UInt8.toNat_ofNat']
      omega

theorem toBigEndian_fromBigEndian (bytes : List UInt8) :
    toBigEndian bytes.length (fromBigEndian bytes) = bytes := by
  induction bytes using List.reverseRecOn with
  | nil => rfl
  | append_singleton bytes byte ih =>
      have small := byte.toNat_lt
      have above : (fromBigEndian bytes * 256 + byte.toNat) / 256 = fromBigEndian bytes := by omega
      have below : (fromBigEndian bytes * 256 + byte.toNat) % 256 = byte.toNat := by omega
      rw [fromBigEndian_snoc, List.length_append, List.length_singleton, toBigEndian, above, below,
        ih, UInt8.ofNat_toNat]

end CsdFoundry.Synthesis.Choices

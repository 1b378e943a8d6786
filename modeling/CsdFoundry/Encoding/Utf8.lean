import Mathlib.Data.Char
import Mathlib.Data.List.Lex
import Mathlib.Data.String.Basic

/-! UTF-8 keeps the order of code points: texts compare as their encodings do, byte by byte. -/
namespace CsdFoundry.Encoding

section Codes
variable {α β : Type*} [LinearOrder α] [LinearOrder β] {code : α → List β}

/-- The code words of different symbols differ at a position that both have, and they differ
there as the symbols do. -/
def Separates (code : α → List β) : Prop :=
  ∀ {a b : α}, a < b → ∀ rest rest', code a ++ rest < code b ++ rest'

theorem append_lt_append {shared rest rest' : List β} (less : rest < rest') :
    shared ++ rest < shared ++ rest' := by
  induction shared with
  | nil => exact less
  | cons head tail ih => exact List.cons_lt_cons_iff.mpr (.inr ⟨rfl, ih⟩)

theorem flatMap_lt (separates : Separates code) (nonempty : ∀ a, code a ≠ []) :
    ∀ {a b : List α}, a < b → a.flatMap code < b.flatMap code := by
  intro a
  induction a with
  | nil =>
      intro b less
      cases b with
      | nil => exact absurd less (lt_irrefl _)
      | cons head tail =>
          obtain ⟨first, word, equal⟩ := List.exists_cons_of_ne_nil (nonempty head)
          rw [List.flatMap_cons, equal]
          exact List.nil_lt_cons _ _
  | cons head tail ih =>
      intro b less
      cases b with
      | nil => exact absurd less (List.not_lt_nil _)
      | cons head' tail' =>
          simp only [List.flatMap_cons]
          rcases List.cons_lt_cons_iff.mp less with smaller | ⟨rfl, tails⟩
          · exact separates smaller _ _
          · exact append_lt_append (ih tails)

theorem flatMap_lt_iff (separates : Separates code) (nonempty : ∀ a, code a ≠ [])
    {a b : List α} : a.flatMap code < b.flatMap code ↔ a < b := by
  constructor
  · intro less
    rcases lt_trichotomy a b with smaller | rfl | greater
    · exact smaller
    · exact absurd less (lt_irrefl _)
    · exact absurd (flatMap_lt separates nonempty greater) (lt_asymm less)
  · intro less
    exact flatMap_lt separates nonempty less

theorem flatMap_le_iff (separates : Separates code) (nonempty : ∀ a, code a ≠ [])
    {a b : List α} : a.flatMap code ≤ b.flatMap code ↔ a ≤ b := by
  rw [← not_lt, flatMap_lt_iff separates nonempty, not_lt]

theorem flatMap_injective (separates : Separates code) (nonempty : ∀ a, code a ≠ []) :
    Function.Injective (fun a : List α => a.flatMap code) := by
  intro a b same
  have same : a.flatMap code = b.flatMap code := same
  apply le_antisymm
  · exact (flatMap_le_iff separates nonempty).mp same.le
  · exact (flatMap_le_iff separates nonempty).mp same.ge

end Codes

/-- Bytes in their numeric order. -/
instance linearOrderUInt8 : LinearOrder UInt8 where
  le_refl _ := UInt8.le_refl _
  le_trans _ _ _ first second := UInt8.le_trans first second
  lt_iff_le_not_ge a b := by
    simp only [UInt8.lt_iff_toNat_lt, UInt8.le_iff_toNat_le]
    omega
  le_antisymm _ _ first second := UInt8.le_antisymm first second
  le_total := UInt8.le_total
  toDecidableLE := inferInstance

/-- `.encode("utf-8")` of a text without lone surrogates. -/
def utf8 (text : List Char) : List UInt8 := text.flatMap String.utf8EncodeChar

/-- `.decode("utf-8")`. -/
def decodeUtf8 (bytes : List UInt8) : Option (List Char) :=
  bytes.toByteArray.utf8Decode?.map Array.toList

theorem ofNat_lt_ofNat {m n : Nat} : UInt8.ofNat m < UInt8.ofNat n ↔ m % 256 < n % 256 := by
  simp [UInt8.lt_iff_toNat_lt]

theorem ofNat_eq_ofNat {m n : Nat} : UInt8.ofNat m = UInt8.ofNat n ↔ m % 256 = n % 256 := by
  simp [← UInt8.toNat_inj]

/-- A longer encoding starts with a greater byte; encodings of one length compare as numbers
in base 64. -/
theorem utf8EncodeChar_separates : Separates String.utf8EncodeChar := by
  intro a b less rest rest'
  have less : a.val.toNat < b.val.toNat := less
  have bound : b.val.toNat < 0x110000 := by
    have valid := b.valid
    rcases valid with low | ⟨-, high⟩
    · exact low.trans (by decide)
    · exact high
  unfold String.utf8EncodeChar
  dsimp only
  generalize a.val.toNat = v at *
  generalize b.val.toNat = w at *
  split_ifs <;> simp (disch := omega) only [List.cons_lt_cons_iff, ofNat_lt_ofNat, ofNat_eq_ofNat,
    List.cons_append, List.nil_append, Nat.mod_eq_of_lt] <;> omega

theorem utf8EncodeChar_ne_nil (c : Char) : String.utf8EncodeChar c ≠ [] :=
  String.utf8EncodeChar_ne_nil

@[simp]
theorem utf8_append (a b : List Char) : utf8 (a ++ b) = utf8 a ++ utf8 b :=
  List.flatMap_append

theorem utf8_le_iff {a b : List Char} : utf8 a ≤ utf8 b ↔ a ≤ b :=
  flatMap_le_iff utf8EncodeChar_separates utf8EncodeChar_ne_nil

theorem utf8_injective : Function.Injective utf8 :=
  flatMap_injective utf8EncodeChar_separates utf8EncodeChar_ne_nil

theorem decodeUtf8_utf8 (text : List Char) : decodeUtf8 (utf8 text) = some text := by
  have decoded := List.utf8Decode?_utf8Encode (l := text)
  simp only [List.utf8Encode] at decoded
  rw [decodeUtf8, utf8, decoded]
  rfl

end CsdFoundry.Encoding

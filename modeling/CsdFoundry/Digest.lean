import CsdFoundry.Json
import Mathlib.Order.Lattice
import Mathlib.Data.List.Lex

/-! Domain-separated SHA-256 over the fields of a contract, in canonical order.
Collisions are excluded by assumption. The transparent digest at the end is the
message itself, which makes every protocol computation executable. -/
namespace CsdFoundry

/-- The field values that occur in digested contracts. -/
inductive Field (D : Type) where
  | null
  | nat (value : Nat)
  | str (value : String)
  | digest (value : D)
  | digests (values : List D)
  | heads (values : List (String × Nat × D))
  | json (value : Json)
  deriving DecidableEq

def Field.optional : Option D → Field D
  | none => .null
  | some d => .digest d

theorem Field.optional_injective {a b : Option D} (same : Field.optional a = Field.optional b) :
    a = b := by
  cases a <;> cases b <;> simp_all [Field.optional]

class Sha256 (D : Type) where
  sha256 : String → List (Field D) → D
  collision_free : sha256 domain message = sha256 domain' message' →
    domain = domain' ∧ message = message'

/-- Digests as texts. `isDigest` is `_DIGEST.fullmatch`; it is left open because texts of one
length are too few for a hash without collisions. -/
class DigestText (D : Type) where
  text : D → String
  isDigest : String → Bool
  text_injective : Function.Injective text
  isDigest_text : ∀ d, isDigest (text d) = true

namespace Transparent

def item (head : String × Nat × List Nat) : List Nat :=
  text head.1 ++ head.2.1 :: block head.2.2

def sequence (code : α → List Nat) (values : List α) : List Nat :=
  values.length :: values.flatMap code

def field : Field (List Nat) → List Nat
  | .null => [0]
  | .nat value => [1, value]
  | .str value => 2 :: text value
  | .digest value => 3 :: block value
  | .digests values => 4 :: sequence block values
  | .heads values => 5 :: sequence item values
  | .json value => 6 :: value.code

theorem item_delimits : Delimits item := by
  rintro ⟨name, position, digest⟩ ⟨name', position', digest'⟩ rest rest' same
  simp only [item, List.append_assoc, List.cons_append] at same
  obtain ⟨rfl, tails⟩ := text_delimits same
  obtain ⟨rfl, digests⟩ := List.cons.inj tails
  obtain ⟨rfl, ends⟩ := block_delimits digests
  exact ⟨rfl, ends⟩

theorem sequence_delimits {code : α → List Nat} (delimits : Delimits code) :
    Delimits (sequence code) := by
  intro values
  induction values with
  | nil =>
      intro values' rest rest' same
      cases values' with
      | nil => exact ⟨rfl, List.tail_eq_of_cons_eq same⟩
      | cons value tail => simp [sequence] at same
  | cons value tail ih =>
      intro values' rest rest' same
      cases values' with
      | nil => simp [sequence] at same
      | cons value' tail' =>
          simp only [sequence, List.length_cons, List.flatMap_cons, List.cons_append,
            List.append_assoc, List.cons.injEq, Nat.add_right_cancel_iff] at same
          obtain ⟨rfl, rests⟩ := delimits same.2
          have shorter : sequence code tail ++ rest = sequence code tail' ++ rest' := by
            simp only [sequence, List.cons_append, same.1, rests]
          obtain ⟨rfl, ends⟩ := ih shorter
          exact ⟨rfl, ends⟩

theorem field_delimits : Delimits field := by
  intro a b rest rest' same
  cases a <;> cases b <;> simp only [field, List.cons_append, List.cons.injEq] at same <;>
    first | exact absurd same.1 (by decide) | replace same := same.2
  case null.null => exact ⟨rfl, same⟩
  case nat.nat => exact ⟨congrArg Field.nat same.1, same.2⟩
  case str.str =>
      obtain ⟨rfl, tails⟩ := text_delimits same
      exact ⟨rfl, tails⟩
  case digest.digest =>
      obtain ⟨rfl, tails⟩ := block_delimits same
      exact ⟨rfl, tails⟩
  case digests.digests =>
      obtain ⟨rfl, tails⟩ := sequence_delimits block_delimits same
      exact ⟨rfl, tails⟩
  case heads.heads =>
      obtain ⟨rfl, tails⟩ := sequence_delimits item_delimits same
      exact ⟨rfl, tails⟩
  case json.json =>
      obtain ⟨rfl, tails⟩ := Json.code_delimits _ _ same
      exact ⟨rfl, tails⟩

/-- The digest that is its own preimage. It is used to run the protocols. -/
instance : Sha256 (List Nat) where
  sha256 domain message := text domain ++ sequence field message
  collision_free same := by
    obtain ⟨rfl, tails⟩ := text_delimits same
    have padded := congrArg (· ++ ([] : List Nat)) tails
    exact ⟨rfl, (sequence_delimits field_delimits padded).1⟩

/-- A number as characters: zeros for the multiples of 50000, then the remainder. -/
def letters (value : Nat) : List Char :=
  List.replicate (value / 50000) (Char.ofNat 0) ++ [Char.ofNat (value % 50000 + 1)]

theorem letter_toNat (value : Nat) : (Char.ofNat (value % 50000 + 1)).toNat = value % 50000 + 1 := by
  have small : value % 50000 < 50000 := Nat.mod_lt _ (by omega)
  have valid : (value % 50000 + 1).isValidChar := .inl (by omega)
  rw [Char.ofNat, dif_pos valid]
  rfl

theorem letters_delimits {a b : Nat} {rest rest' : List Char}
    (same : letters a ++ rest = letters b ++ rest') : a = b ∧ rest = rest' := by
  have counted : ∀ (m n : Nat), List.replicate m (Char.ofNat 0) ++
      ([Char.ofNat (a % 50000 + 1)] ++ rest) = List.replicate n (Char.ofNat 0) ++
      ([Char.ofNat (b % 50000 + 1)] ++ rest') →
      m = n ∧ Char.ofNat (a % 50000 + 1) = Char.ofNat (b % 50000 + 1) ∧ rest = rest' := by
    intro m
    induction m with
    | zero =>
        intro n equal
        cases n with
        | zero => simpa using equal
        | succ n =>
            simp only [List.replicate_succ, List.replicate_zero, List.nil_append, List.cons_append,
              List.cons.injEq] at equal
            have code := congrArg Char.toNat equal.1
            rw [letter_toNat] at code
            exact absurd code (by simp)
    | succ m ih =>
        intro n equal
        cases n with
        | zero =>
            simp only [List.replicate_succ, List.replicate_zero, List.nil_append, List.cons_append,
              List.cons.injEq] at equal
            have code := congrArg Char.toNat equal.1
            rw [letter_toNat] at code
            exact absurd code.symm (by simp)
        | succ n =>
            simp only [List.replicate_succ, List.cons_append, List.cons.injEq, true_and] at equal
            obtain ⟨rfl, more⟩ := ih n equal
            exact ⟨rfl, more⟩
  simp only [letters, List.append_assoc] at same
  obtain ⟨quotients, remainders, ends⟩ := counted _ _ same
  have codes := congrArg Char.toNat remainders
  rw [letter_toNat, letter_toNat] at codes
  exact ⟨by omega, ends⟩

theorem flatMap_letters_injective : ∀ {a b : List Nat}, a.flatMap letters = b.flatMap letters → a = b
  | [], [], _ => rfl
  | [], _ :: _, same => by simp [letters] at same
  | _ :: _, [], same => by simp [letters] at same
  | head :: tail, head' :: tail', same => by
      simp only [List.flatMap_cons] at same
      obtain ⟨rfl, tails⟩ := letters_delimits same
      rw [flatMap_letters_injective tails]

instance : DigestText (List Nat) where
  text digest := String.ofList ("sha256:".toList ++ digest.flatMap letters)
  isDigest value := value.toList.take 7 == "sha256:".toList
  text_injective a b same := by
    have characters := congrArg String.toList same
    simp only [String.toList_ofList, List.append_cancel_left_eq] at characters
    exact flatMap_letters_injective characters
  isDigest_text digest := by
    simp

end Transparent
end CsdFoundry

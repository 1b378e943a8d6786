import Mathlib.Data.List.Basic
import Mathlib.Order.Lattice

/-! JSON values without floats, and self-delimiting codes for them. The members of an
object are listed in canonical order, so that equal values have equal canonical bytes. -/
namespace CsdFoundry
namespace Transparent

/-- A code is self-delimiting when no code word continues another. -/
def Delimits (code : α → List Nat) : Prop :=
  ∀ {a b rest rest'}, code a ++ rest = code b ++ rest' → a = b ∧ rest = rest'

def block (values : List Nat) : List Nat := values.length :: values

def text (value : String) : List Nat := block (value.toList.map Char.toNat)

theorem block_delimits : Delimits block := by
  intro a b rest rest' same
  simp only [block, List.cons_append, List.cons.injEq] at same
  exact List.append_inj same.2 same.1

theorem text_delimits : Delimits text := by
  intro a b rest rest' same
  obtain ⟨codes, tails⟩ := block_delimits same
  have letters : a.toList = b.toList :=
    List.map_injective_iff.mpr (fun _ _ h => Char.toNat_inj.mp h) codes
  exact ⟨String.toList_inj.mp letters, tails⟩

end Transparent

inductive Json where
  | null
  | bool (value : Bool)
  | int (value : Int)
  | str (value : String)
  | arr (items : List Json)
  | obj (members : List (String × Json))

namespace Json
open Transparent

mutual
def code : Json → List Nat
  | .null => [0]
  | .bool value => [1, value.toNat]
  | .int value => [2, if value < 0 then 1 else 0, value.natAbs]
  | .str value => 3 :: text value
  | .arr items => 4 :: codeItems items
  | .obj members => 5 :: codeMembers members

def codeItems : List Json → List Nat
  | [] => [0]
  | item :: items => 1 :: (code item ++ codeItems items)

def codeMembers : List (String × Json) → List Nat
  | [] => [0]
  | (key, value) :: members => 1 :: (text key ++ (code value ++ codeMembers members))
end

mutual
theorem code_delimits : ∀ (a b : Json) {rest rest' : List Nat},
    code a ++ rest = code b ++ rest' → a = b ∧ rest = rest'
  | .null, b, rest, rest', same => by
      cases b <;> simp_all [code]
  | .bool value, b, rest, rest', same => by
      cases b <;> simp_all [code]
      cases value <;> rename_i other <;> cases other <;> simp_all
  | .int value, b, rest, rest', same => by
      cases b <;> simp_all [code]
      obtain ⟨sign, magnitude, -⟩ := same
      split at sign <;> split at sign <;> omega
  | .str value, b, rest, rest', same => by
      cases b <;> simp_all [code]
      exact text_delimits same
  | .arr items, b, rest, rest', same => by
      cases b <;> simp_all [code]
      exact codeItems_delimits _ _ same
  | .obj members, b, rest, rest', same => by
      cases b <;> simp_all [code]
      exact codeMembers_delimits _ _ same

theorem codeItems_delimits : ∀ (a b : List Json) {rest rest' : List Nat},
    codeItems a ++ rest = codeItems b ++ rest' → a = b ∧ rest = rest'
  | [], b, rest, rest', same => by
      cases b <;> simp_all [codeItems]
  | item :: items, b, rest, rest', same => by
      cases b with
      | nil => simp [codeItems] at same
      | cons other others =>
          simp only [codeItems, List.cons_append, List.append_assoc, List.cons.injEq,
            true_and] at same
          obtain ⟨rfl, tails⟩ := code_delimits item other same
          obtain ⟨rfl, ends⟩ := codeItems_delimits items others tails
          exact ⟨rfl, ends⟩

theorem codeMembers_delimits : ∀ (a b : List (String × Json)) {rest rest' : List Nat},
    codeMembers a ++ rest = codeMembers b ++ rest' → a = b ∧ rest = rest'
  | [], b, rest, rest', same => by
      cases b <;> simp_all [codeMembers]
  | (key, value) :: members, b, rest, rest', same => by
      cases b with
      | nil => simp [codeMembers] at same
      | cons other others =>
          obtain ⟨key', value'⟩ := other
          simp only [codeMembers, List.cons_append, List.append_assoc, List.cons.injEq,
            true_and] at same
          obtain ⟨rfl, tails⟩ := text_delimits same
          obtain ⟨rfl, more⟩ := code_delimits value value' tails
          obtain ⟨rfl, ends⟩ := codeMembers_delimits members others more
          exact ⟨rfl, ends⟩
end

theorem code_injective {a b : Json} (same : a.code = b.code) : a = b :=
  (code_delimits a b (congrArg (· ++ ([] : List Nat)) same)).1

instance : DecidableEq Json := fun a b =>
  decidable_of_iff (a.code = b.code) ⟨code_injective, congrArg code⟩

end Json

/-- A `dict` read from JSON. -/
abbrev JsonObject : Type := List (String × Json)

namespace JsonObject

/-- `value.get(key)`, which does not tell a missing member from `null`. -/
def get (object : JsonObject) (key : String) : Json := (object.lookup key).getD .null

/-- `set(value) == expected`. -/
def hasKeys (object : JsonObject) (expected : List String) : Bool :=
  object.all (fun member => expected.contains member.1) &&
    expected.all (fun key => object.any (fun member => member.1 == key))

end JsonObject
end CsdFoundry

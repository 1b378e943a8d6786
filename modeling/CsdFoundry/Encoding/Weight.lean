import CsdFoundry.Encoding.RoundTrip
import Mathlib

/-! The number of bytes of a JSON text. It does not depend on the order of items or members. -/
namespace CsdFoundry.Encoding
open Admission Admission.Value

/-- The bytes of an optional text. -/
def size (text : Option (List Char)) : Nat := (utf8 (text.getD [])).length

mutual
/-- The bytes of the text of a value, if it has one. -/
def weight : Value → Nat
  | .list items => 1 + max 1 (weightItems items)
  | .dict members => 1 + max 1 (weightMembers members)
  | value => size value.dumps

/-- Every item brings a comma or the closing bracket. -/
def weightItems : List Value → Nat
  | [] => 0
  | item :: items => weight item + 1 + weightItems items

def weightMembers : Dict → Nat
  | [] => 0
  | (key, value) :: members => size (quoted key) + 1 + weight value + 1 + weightMembers members
end

theorem weightItems_eq (items : List Value) :
    weightItems items = (items.map fun item => weight item + 1).sum := by
  induction items with
  | nil => rfl
  | cons item items ih => rw [weightItems, ih, List.map_cons, List.sum_cons]

theorem weightMembers_eq (members : Dict) : weightMembers members =
    (members.map fun member => size (quoted member.1) + 1 + weight member.2 + 1).sum := by
  induction members with
  | nil => rfl
  | cons member members ih => rw [weightMembers, ih, List.map_cons, List.sum_cons]

theorem length_utf8_ascii {c : Char} {text : List Char} (ascii : c.toNat < 128) :
    (utf8 (c :: text)).length = (utf8 text).length + 1 := by
  have one : String.utf8EncodeChar c = [UInt8.ofNat c.val.toNat] := by
    have small : c.val.toNat ≤ 127 := Nat.lt_succ_iff.mp ascii
    unfold String.utf8EncodeChar
    dsimp only
    rw [if_pos small]
  rw [utf8, List.flatMap_cons, one, List.singleton_append, List.length_cons, utf8]

mutual
theorem weight_dumps : ∀ (value : Value) {text : List Char}, value.dumps = some text →
    (utf8 text).length = weight value
  | .list [], text, rendered => by
      cases rendered
      rfl
  | .list (item :: items), text, rendered => by
      rw [dumps, Option.map_eq_some_iff] at rendered
      obtain ⟨inner, rendered, rfl⟩ := rendered
      have items := weightItems_dumps (item :: items) (List.cons_ne_nil _ _) rendered
      rw [length_utf8_ascii (by decide), utf8_append, List.length_append,
        length_utf8_ascii (by decide), weight, ← items]
      change (utf8 inner).length + (0 + 1) + 1 = _
      omega
  | .dict [], text, rendered => by
      cases rendered
      rfl
  | .dict (member :: members), text, rendered => by
      rw [dumps, Option.map_eq_some_iff] at rendered
      obtain ⟨inner, rendered, rfl⟩ := rendered
      have members := weightMembers_dumps (member :: members) (List.cons_ne_nil _ _) rendered
      rw [length_utf8_ascii (by decide), utf8_append, List.length_append,
        length_utf8_ascii (by decide), weight, ← members]
      change (utf8 inner).length + (0 + 1) + 1 = _
      omega
  | .null, text, rendered => by
      cases rendered
      rfl
  | .bool value, text, rendered => by
      change _ = size (dumps (.bool value))
      rw [rendered]
      rfl
  | .int value, text, rendered => by
      change _ = size (dumps (.int value))
      rw [rendered]
      rfl
  | .float repr, text, rendered => by
      change _ = size (dumps (.float repr))
      rw [rendered]
      rfl
  | .str value, text, rendered => by
      change _ = size (dumps (.str value))
      rw [rendered]
      rfl

theorem weightItems_dumps : ∀ (items : List Value) {text : List Char}, items ≠ [] →
    dumpsItems items = some text → (utf8 text).length + 1 = weightItems items
  | [], _, nonempty, _ => absurd rfl nonempty
  | [item], text, _, rendered => by
      rw [weightItems, weightItems, ← weight_dumps item rendered]
  | item :: next :: items, text, _, rendered => by
      rw [dumpsItems.eq_3 _ _ (by simp), Option.bind_eq_some_iff] at rendered
      obtain ⟨first, head, others⟩ := rendered
      rw [Option.map_eq_some_iff] at others
      obtain ⟨more, others, rfl⟩ := others
      have rest := weightItems_dumps (next :: items) (List.cons_ne_nil _ _) others
      rw [weightItems, ← rest, ← weight_dumps item head, utf8_append, List.length_append,
        length_utf8_ascii (by decide)]
      omega

theorem weightMembers_dumps : ∀ (members : Dict) {text : List Char}, members ≠ [] →
    dumpsMembers members = some text → (utf8 text).length + 1 = weightMembers members
  | [], _, nonempty, _ => absurd rfl nonempty
  | [(key, value)], text, _, rendered => by
      rw [dumpsMembers, Option.bind_eq_some_iff] at rendered
      obtain ⟨name, quote, others⟩ := rendered
      rw [Option.map_eq_some_iff] at others
      obtain ⟨inner, head, rfl⟩ := others
      rw [weightMembers, weightMembers, ← weight_dumps value head, quote, utf8_append,
        List.length_append, length_utf8_ascii (by decide), size, Option.getD_some]
      omega
  | (key, value) :: next :: members, text, _, rendered => by
      rw [dumpsMembers.eq_3 _ _ _ (by simp), Option.bind_eq_some_iff] at rendered
      obtain ⟨name, quote, others⟩ := rendered
      rw [Option.bind_eq_some_iff] at others
      obtain ⟨inner, head, others⟩ := others
      rw [Option.map_eq_some_iff] at others
      obtain ⟨more, others, rfl⟩ := others
      have rest := weightMembers_dumps (next :: members) (List.cons_ne_nil _ _) others
      rw [weightMembers, ← rest, ← weight_dumps value head, quote, utf8_append,
        List.length_append, length_utf8_ascii (by decide), utf8_append, List.length_append,
        length_utf8_ascii (by decide), size, Option.getD_some]
      omega
end

end CsdFoundry.Encoding

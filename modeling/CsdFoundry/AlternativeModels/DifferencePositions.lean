import Std.Data.String.ToNat
import CsdFoundry.AlternativeModels.Difference
import CsdFoundry.Positions

/-! Graphs as trees: the tokens of a JSON pointer name the members of an object and the items of an
array. Graphs that agree at every position are written alike. -/
namespace CsdFoundry.AlternativeModels
open Admission Admission.Value Encoding Positions
open Synthesis (sortCodes CodeLe)
open Governance (hasUniqueKeys)

/-- What a pointer names one step below. -/
def child : Value → String → Option Value
  | .dict members, token => members.lookup (.text token)
  | .list items, token => token.toNat?.bind fun i => if i.repr = token then items[i]? else none
  | _, _ => none

/-- What stands at one position, without what is below it. -/
inductive Node where
  | object
  | array
  | leaf (value : Value)

def node : Value → Node
  | .dict _ => .object
  | .list _ => .array
  | value => .leaf value

/-- The two zeros are equal as values. -/
def unsigned : Option String → Option String
  | some repr => some (if repr = "-0.0" then "0.0" else repr)
  | none => none

/-- What stands at one position, as `==` sees it. -/
def valueNode : Value → Node
  | .float repr => .leaf (.float (unsigned repr))
  | value => node value

/-- The graphs agree at every position. -/
def Agree (a b : Option Value) : Prop :=
  ∀ position, nodeAt child node a position = nodeAt child node b position

variable {a b value : Value} {token : String} {position : List String} {items : List Value}
  {members : Dict}

section Children

theorem child_list_repr (i : Nat) : child (.list items) i.repr = items[i]? := by
  simp [child]

theorem child_list_some (found : child (.list items) token = some value) :
    ∃ i : Nat, token = i.repr ∧ items[i]? = some value := by
  obtain ⟨i, -, chosen⟩ := Option.bind_eq_some_iff.mp found
  split at chosen
  · rename_i written
    exact ⟨i, written.symm, chosen⟩
  · cases chosen

theorem child_dict_some (found : child (.dict members) token = some value) :
    (.text token, value) ∈ members := StableSort.mem_of_lookup found

/-- What holds throughout a value holds throughout its children. -/
theorem every_child {p : Value → Bool} (all : value.every p = true)
    (found : child value token = some b) : b.every p = true := by
  cases value with
  | dict members => exact (every_dict.mp all).2 _ (child_dict_some found)
  | list items =>
      obtain ⟨i, -, listed⟩ := child_list_some found
      exact (every_list.mp all).2 b (List.mem_of_getElem? listed)
  | _ => cases found

theorem unique_keys (unique : Unique (.dict members)) : (members.map (·.1)).Nodup :=
  of_decide_eq_true (every_dict.mp unique).1

theorem text_of_mem (renderable : Renderable (.dict members)) {member : PyStr × Value}
    (inside : member ∈ members) : ∃ text, member.1 = .text text := by
  have texts : hasTextKeys (.dict members) = true := (every_dict.mp renderable).1
  have isText := List.all_eq_true.mp texts member inside
  cases key : member.1 with
  | text text => exact ⟨text, rfl⟩
  | lone text =>
      rw [key] at isText
      cases isText

theorem node_leaf (same : node b = .leaf value) : b = value := by
  cases b <;> simp_all [node]

theorem node_object (same : node b = .object) : ∃ members, b = .dict members := by
  cases b <;> simp_all [node]

theorem node_array (same : node b = .array) : ∃ items, b = .list items := by
  cases b <;> simp_all [node]

end Children

section Extensionality

theorem Agree.child (agree : Agree (some a) (some b)) (token : String) :
    Agree (child a token) (child b token) := fun position => agree (token :: position)

theorem Agree.node (agree : Agree (some a) (some b)) : node a = node b :=
  Option.some.inj (agree [])

theorem Agree.symm {a b : Option Value} (agree : Agree a b) : Agree b a :=
  fun position => (agree position).symm

theorem Agree.exists {found : Option Value} (agree : Agree (some a) found) :
    ∃ b, found = some b ∧ Agree (some a) (some b) := by
  cases found with
  | none => cases agree []
  | some b => exact ⟨b, rfl, agree⟩

/-- The members of agreeing objects have each other's keys, and agree. -/
theorem Agree.member {others : Dict} (agree : Agree (some (.dict members)) (some (.dict others)))
    (unique : Unique (.dict members)) (renderable : Renderable (.dict members))
    {member : PyStr × Value} (inside : member ∈ members) :
    ∃ other ∈ others, other.1 = member.1 ∧ Agree (some member.2) (some other.2) := by
  obtain ⟨text, key⟩ := text_of_mem renderable inside
  have named : (PyStr.text text, member.2) ∈ members := by
    rw [← key]
    exact inside
  have below := agree.child text
  rw [show AlternativeModels.child (.dict members) text = some member.2 from
    StableSort.lookup_of_mem (unique_keys unique) named] at below
  obtain ⟨found, there, same⟩ := below.exists
  exact ⟨(.text text, found), child_dict_some there, key.symm, same⟩

theorem Agree.item {others : List Value}
    (agree : Agree (some (.list items)) (some (.list others))) (i : Nat) :
    Agree items[i]? others[i]? := by
  rw [← child_list_repr, ← child_list_repr]
  exact agree.child _

/-- Graphs that agree everywhere have one canonical form. -/
theorem sortCodes_eq_of_agree (uniqueA : Unique a) (renderableA : Renderable a) (uniqueB : Unique b)
    (renderableB : Renderable b) (agree : Agree (some a) (some b)) :
    sortCodes a = sortCodes b := by
  induction a using nested_induction generalizing b with
  | null | bool | int | float | str => rw [node_leaf agree.node.symm]
  | list items ih =>
      obtain ⟨others, rfl⟩ := node_array agree.node.symm
      rw [Synthesis.sortCodes_list, Synthesis.sortCodes_list]
      congr 1
      apply List.ext_getElem?
      intro i
      rw [List.getElem?_map, List.getElem?_map]
      have same := agree.item i
      cases item : items[i]? with
      | none =>
          rw [item] at same
          cases other : others[i]? with
          | none => rfl
          | some value =>
              rw [other] at same
              cases same []
      | some value =>
          rw [item] at same
          obtain ⟨other, found, same⟩ := same.exists
          have listed := List.mem_of_getElem? item
          rw [found, Option.map_some, Option.map_some,
            ih value listed ((every_list.mp uniqueA).2 value listed)
              ((every_list.mp renderableA).2 value listed)
              ((every_list.mp uniqueB).2 other (List.mem_of_getElem? found))
              ((every_list.mp renderableB).2 other (List.mem_of_getElem? found)) same]
  | dict members ih =>
      obtain ⟨others, rfl⟩ := node_object agree.node.symm
      have settled : ∀ member ∈ members, ∀ other ∈ others,
          Agree (some member.2) (some other.2) → sortCodes member.2 = sortCodes other.2 :=
        fun member inside other among same =>
          ih member inside ((every_dict.mp uniqueA).2 member inside)
            ((every_dict.mp renderableA).2 member inside)
            ((every_dict.mp uniqueB).2 other among) ((every_dict.mp renderableB).2 other among) same
      have keys (members : Dict) : (members.map fun member => (member.1, sortCodes member.2)).map
          (·.1) = members.map (·.1) := by
        rw [List.map_map]
        rfl
      have distinctA := unique_keys uniqueA
      have distinctB := unique_keys uniqueB
      rw [← keys] at distinctA distinctB
      rw [Synthesis.sortCodes_dict, Synthesis.sortCodes_dict]
      congr 1
      apply StableSort.insertionSort_perm
      · refine (List.perm_ext_iff_of_nodup distinctA.of_map distinctB.of_map).mpr fun entry => ?_
        simp only [List.mem_map]
        constructor
        · rintro ⟨member, inside, rfl⟩
          obtain ⟨other, among, key, same⟩ := agree.member uniqueA renderableA inside
          exact ⟨other, among, Prod.ext key (settled member inside other among same).symm⟩
        · rintro ⟨other, among, rfl⟩
          obtain ⟨member, inside, key, same⟩ := agree.symm.member uniqueB renderableB among
          exact ⟨member, inside, Prod.ext key (settled member inside other among same.symm)⟩
      · intro x inX y inY below above
        exact List.inj_on_of_nodup_map distinctA inX inY
          (Synthesis.codePoints_injective (le_antisymm below above))

end Extensionality
end CsdFoundry.AlternativeModels

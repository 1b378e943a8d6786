import Mathlib.Data.List.Chain
import CsdFoundry.Storage.Install

/-! Chains of content-addressed items: each item states its position and cites the
item before it, and the first item cites nothing. -/
namespace CsdFoundry.Storage
variable {κ ν : Type} {find find' : κ → Option ν} {sequence : ν → Nat} {previous : ν → Option κ}

/-- The chain that ends in `key` at position `n`, oldest item first. -/
inductive Linked (find : κ → Option ν) (sequence : ν → Nat) (previous : ν → Option κ) :
    Nat → Option κ → List ν → Prop where
  | genesis : Linked find sequence previous 0 none []
  | next (found : find key = some item) (position : sequence item = n + 1)
      (rest : Linked find sequence previous n (previous item) items) :
      Linked find sequence previous (n + 1) (some key) (items ++ [item])

namespace Linked

theorem length (linked : Linked find sequence previous n key items) : items.length = n := by
  induction linked with
  | genesis => rfl
  | next found position rest ih => simp [ih]

/-- A chain is determined by where it ends. -/
theorem unique (linked : Linked find sequence previous n key items)
    (other : Linked find sequence previous n key items') : items = items' := by
  induction linked generalizing items' with
  | genesis =>
      cases other
      rfl
  | next found position rest ih =>
      cases other with
      | next found' position' rest' =>
          obtain rfl := Option.some.inj (found.symm.trans found')
          rw [ih rest']

theorem mono (linked : Linked find sequence previous n key items) (grows : Grows find find') :
    Linked find' sequence previous n key items := by
  induction linked with
  | genesis => exact .genesis
  | next found position rest ih => exact .next (grows _ _ found) position ih

/-- Positions count up from 1. -/
theorem sequences (linked : Linked find sequence previous n key items) :
    items.map sequence = List.range' 1 n := by
  induction linked with
  | genesis => rfl
  | next found position rest ih =>
      rw [List.map_append, ih, List.range'_concat]
      simp [position, Nat.add_comm]

theorem zero_iff (linked : Linked find sequence previous n key items) : n = 0 ↔ key = none := by
  cases linked <;> simp

/-- The last item is the one at the head. -/
theorem getLast (linked : Linked find sequence previous n (some key) items) :
    ∃ item, items.getLast? = some item ∧ find key = some item := by
  cases linked with
  | next found position rest => exact ⟨_, by simp, found⟩

theorem adjacent_end (linked : Linked find sequence previous n (previous item) items) :
    List.IsChain (fun older newer => ∃ key, previous newer = some key ∧ find key = some older)
      items →
    List.IsChain (fun older newer => ∃ key, previous newer = some key ∧ find key = some older)
      (items ++ [item]) := by
  intro chained
  refine List.isChain_append.mpr ⟨chained, List.isChain_singleton _, ?_⟩
  rintro older last newer ⟨⟩
  generalize cited : previous item = link at linked ⊢
  cases link with
  | none =>
      cases linked
      simp at last
  | some key =>
      obtain ⟨item', isLast, found⟩ := linked.getLast
      obtain rfl := Option.some.inj (isLast.symm.trans last)
      exact ⟨key, rfl, found⟩

/-- Every item but the first cites the one before it. -/
theorem adjacent (linked : Linked find sequence previous n key items) :
    List.IsChain (fun older newer => ∃ key, previous newer = some key ∧ find key = some older)
      items := by
  induction linked with
  | genesis => exact .nil
  | next found position rest ih => exact adjacent_end rest ih

/-- The first item cites nothing. -/
theorem first (linked : Linked find sequence previous n key items)
    (isFirst : items.head? = some item) : previous item = none := by
  induction linked with
  | genesis => simp at isFirst
  | @next key last n items found position rest ih =>
      cases items with
      | nil =>
          obtain rfl : last = item := by simpa using isFirst
          have empty : n = 0 := rest.length.symm
          exact rest.zero_iff.mp empty
      | cons oldest middle => exact ih isFirst

/-- Members of a chain are stored, at their own position and behind their own link. -/
theorem of_mem (linked : Linked find sequence previous n key items) (member : item ∈ items) :
    ∃ key', find key' = some item ∧ ∃ m before, sequence item = m + 1 ∧ m + 1 ≤ n ∧
      Linked find sequence previous m (previous item) before ∧ before ++ [item] <+: items := by
  induction linked with
  | genesis => simp at member
  | @next key last n items found position rest ih =>
      rcases List.mem_append.mp member with earlier | latest
      · obtain ⟨key', found', m, before, at_, below, linked', extends_⟩ := ih earlier
        exact ⟨key', found', m, before, at_, by omega, linked',
          extends_.trans (List.prefix_append _ _)⟩
      · obtain rfl := List.mem_singleton.mp latest
        exact ⟨key, found, n, items, position, le_rfl, rest, List.prefix_rfl⟩

/-- The beginnings of a chain are chains. -/
theorem of_prefix (linked : Linked find sequence previous n key items) (begins : before <+: items) :
    ∃ m key', Linked find sequence previous m key' before := by
  induction linked with
  | genesis =>
      obtain rfl := List.prefix_nil.mp begins
      exact ⟨0, none, .genesis⟩
  | next found position rest ih =>
      rcases List.prefix_concat_iff.mp begins with rfl | shorter
      · exact ⟨_, _, .next found position rest⟩
      · exact ih shorter

end Linked
end CsdFoundry.Storage

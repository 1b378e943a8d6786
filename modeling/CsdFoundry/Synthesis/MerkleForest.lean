import CsdFoundry.Synthesis.Merkle
import CsdFoundry.Synthesis.PublicationStore
import Mathlib.Data.Nat.BitIndices

/-! What the Merkle accumulator stands for: a list of leaves cut into blocks whose lengths are the
powers of two of the binary expansion, from the greatest down. -/
namespace CsdFoundry.Synthesis
variable {D : Type} [Sha256 D]

namespace MerklePeak

/-- The node over two peaks of one level. -/
def join (domain : String) (left right : MerklePeak D) : MerklePeak D :=
  { level := right.level + 1
    digest := Sha256.sha256 "csd-streaming-merkle-node/0.4" [.str domain,
      .nat (left.leafCount + right.leafCount), .digest left.digest, .nat (right.level + 1),
      .digest right.digest]
    leafCount := left.leafCount + right.leafCount }

/-- The peak over the leaves of a full subtree, and nothing over any other number of leaves. -/
def subtree (domain : String) : Nat → List D → Option (MerklePeak D)
  | 0, [leaf] => some ⟨0, leaf, 1⟩
  | 0, _ => none
  | level + 1, leaves => do
      let left ← subtree domain level (leaves.take (2 ^ level))
      let right ← subtree domain level (leaves.drop (2 ^ level))
      return join domain left right

/-- The peaks over a list of leaves: as many leaves as fit into the greatest full subtree, then
the rest. -/
def forest (domain : String) : Nat → List D → List (MerklePeak D)
  | 0, _ => []
  | level + 1, leaves =>
      if 2 ^ level ≤ leaves.length then
        (subtree domain level (leaves.take (2 ^ level))).toList ++
          forest domain level (leaves.drop (2 ^ level))
      else forest domain level leaves

variable {domain : String} {level : Nat} {block block' : List D} {peak : MerklePeak D}

theorem subtree_zero (covers : subtree domain 0 block = some peak) :
    ∃ leaf, block = [leaf] ∧ peak = ⟨0, leaf, 1⟩ := by
  match block, covers with
  | [leaf], rfl => exact ⟨leaf, rfl, rfl⟩

theorem subtree_succ :
    subtree domain (level + 1) block = some peak ↔
      ∃ left right, subtree domain level (block.take (2 ^ level)) = some left ∧
        subtree domain level (block.drop (2 ^ level)) = some right ∧ join domain left right = peak := by
  rw [subtree]
  simp only [Option.bind_eq_bind, Option.bind_eq_some_iff, Option.pure_def, Option.some.injEq]
  constructor
  · rintro ⟨left, first, right, second, same⟩
    exact ⟨left, right, first, second, same⟩
  · rintro ⟨left, right, first, second, same⟩
    exact ⟨left, first, right, second, same⟩

/-- A peak knows its level and the number of its leaves. -/
theorem subtree_size (covers : subtree domain level block = some peak) :
    block.length = 2 ^ level ∧ peak.level = level ∧ peak.leafCount = 2 ^ level := by
  induction level generalizing block peak with
  | zero =>
      obtain ⟨leaf, rfl, rfl⟩ := subtree_zero covers
      exact ⟨rfl, rfl, rfl⟩
  | succ level ih =>
      obtain ⟨left, right, first, second, rfl⟩ := subtree_succ.mp covers
      obtain ⟨lengthL, levelL, countL⟩ := ih first
      obtain ⟨lengthR, levelR, countR⟩ := ih second
      rw [List.length_take] at lengthL
      rw [List.length_drop] at lengthR
      refine ⟨?_, congrArg (· + 1) levelR, ?_⟩
      · rw [pow_succ]
        omega
      · change left.leafCount + right.leafCount = 2 ^ (level + 1)
        rw [countL, countR, pow_succ]
        omega

theorem subtree_append {left right : MerklePeak D}
    (first : subtree domain level block = some left)
    (second : subtree domain level block' = some right) :
    subtree domain (level + 1) (block ++ block') = some (join domain left right) := by
  have length := (subtree_size first).1
  refine subtree_succ.mpr ⟨left, right, ?_, ?_, rfl⟩
  · rwa [← length, List.take_left]
  · rwa [← length, List.drop_left]

/-- Subtrees of one level with one digest have the same leaves. -/
theorem subtree_injective {peak' : MerklePeak D} (covers : subtree domain level block = some peak)
    (covers' : subtree domain level block' = some peak') (same : peak.digest = peak'.digest) :
    block = block' := by
  induction level generalizing block block' peak peak' with
  | zero =>
      obtain ⟨leaf, rfl, rfl⟩ := subtree_zero covers
      obtain ⟨leaf', rfl, rfl⟩ := subtree_zero covers'
      exact congrArg (fun leaf => [leaf]) same
  | succ level ih =>
      obtain ⟨left, right, first, second, rfl⟩ := subtree_succ.mp covers
      obtain ⟨left', right', first', second', rfl⟩ := subtree_succ.mp covers'
      have fields := (Sha256.collision_free same).2
      simp only [List.cons.injEq, Field.digest.injEq] at fields
      obtain ⟨-, -, digestL, -, digestR, -⟩ := fields
      rw [← List.take_append_drop (2 ^ level) block, ih first first' digestL,
        ih second second' digestR, List.take_append_drop]

end MerklePeak

open MerklePeak

/-- Peaks of descending levels below a bound, each over the next block of the leaves. -/
inductive Forest (domain : String) : Nat → List (MerklePeak D) → List D → Prop
  | nil {bound : Nat} : Forest domain bound [] []
  | cons {bound level : Nat} {peak : MerklePeak D} {peaks : List (MerklePeak D)}
      {block leaves : List D} (below : level < bound)
      (covers : subtree domain level block = some peak) (rest : Forest domain level peaks leaves) :
      Forest domain bound (peak :: peaks) (block ++ leaves)

namespace Forest
variable {domain : String} {bound bound' : Nat} {peaks : List (MerklePeak D)}
  {leaves leaves' : List D}

theorem length_lt (held : Forest domain bound peaks leaves) : leaves.length < 2 ^ bound := by
  induction held with
  | nil => exact Nat.two_pow_pos _
  | @cons bound level peak peaks block leaves below covers rest ih =>
      have length := (subtree_size covers).1
      have double : 2 ^ (level + 1) ≤ 2 ^ bound := Nat.pow_le_pow_right Nat.two_pos below
      rw [pow_succ] at double
      rw [List.length_append]
      omega

/-- No level reaches the number of leaves. -/
theorem narrow (held : Forest domain bound peaks leaves) :
    Forest domain leaves.length peaks leaves := by
  cases held with
  | nil => exact .nil
  | @cons _ level _ _ block leaves _ covers rest =>
      refine .cons ?_ covers rest
      have less : level < 2 ^ level := Nat.lt_two_pow_self
      rw [List.length_append, (subtree_size covers).1]
      omega

/-- The recursion over the leaves finds the peaks. -/
theorem forest_eq (held : Forest domain bound peaks leaves) :
    forest domain bound leaves = peaks := by
  induction bound generalizing peaks leaves with
  | zero =>
      cases held with
      | nil => rfl
      | cons below => exact absurd below (Nat.not_lt_zero _)
  | succ bound ih =>
      cases held with
      | nil =>
          have small : ¬ 2 ^ bound ≤ ([] : List D).length :=
            Nat.not_le_of_gt (Nat.two_pow_pos bound)
          rw [forest, if_neg small]
          exact ih .nil
      | @cons _ level peak peaks block leaves below covers rest =>
          have length := (subtree_size covers).1
          rcases Nat.lt_or_eq_of_le (Nat.le_of_lt_succ below) with lower | rfl
          · have whole : Forest domain bound (peak :: peaks) (block ++ leaves) :=
              .cons lower covers rest
            rw [forest, if_neg (Nat.not_le_of_gt whole.length_lt)]
            exact ih whole
          · have large : 2 ^ level ≤ (block ++ leaves).length := by
              rw [List.length_append]
              omega
            rw [forest, if_pos large, ← length, List.take_left, List.drop_left, covers,
              ih rest]
            rfl

theorem levels (held : Forest domain bound peaks leaves) :
    (∀ peak ∈ peaks, peak.level < bound) ∧ peaks.Pairwise (fun a b => b.level < a.level) ∧
      (peaks.map fun peak => 2 ^ peak.level).sum = leaves.length := by
  induction held with
  | nil => exact ⟨nofun, .nil, rfl⟩
  | @cons bound level peak peaks block leaves below covers rest ih =>
      obtain ⟨length, height, -⟩ := subtree_size covers
      obtain ⟨lower, descending, total⟩ := ih
      refine ⟨?_, List.pairwise_cons.mpr ⟨?_, descending⟩, ?_⟩
      · intro other member
        rcases List.mem_cons.mp member with rfl | later
        · rwa [height]
        · exact (lower other later).trans below
      · intro other member
        rw [height]
        exact lower other member
      · rw [List.map_cons, List.sum_cons, height, total, List.length_append, length]

/-- The levels of the peaks are the positions of the ones in the binary expansion of the number of
leaves. -/
theorem binary (held : Forest domain bound peaks leaves) :
    peaks.map (·.level) = leaves.length.bitIndices.reverse := by
  obtain ⟨-, descending, total⟩ := held.levels
  have ascending : (peaks.map (·.level)).reverse.SortedLT := by
    refine List.sortedLT_iff_pairwise.mpr (List.pairwise_reverse.mpr ?_)
    exact List.pairwise_map.mpr descending
  have digits := Nat.bitIndices_sum_map_two_pow ascending
  rw [List.map_reverse, List.sum_reverse, List.map_map] at digits
  have sum : (peaks.map ((fun i => 2 ^ i) ∘ (·.level))).sum = leaves.length := total
  rw [sum] at digits
  rw [digits, List.reverse_reverse]

/-- The blocks of the peaks: full subtrees over consecutive leaves. -/
theorem blocks (held : Forest domain bound peaks leaves) :
    ∃ blocks : List (List D), blocks.flatten = leaves ∧
      List.Forall₂ (fun peak block => block.length = 2 ^ peak.level ∧
        peak.leafCount = 2 ^ peak.level ∧ subtree domain peak.level block = some peak)
        peaks blocks := by
  induction held with
  | nil => exact ⟨[], rfl, .nil⟩
  | @cons bound level peak peaks block leaves below covers rest ih =>
      obtain ⟨length, height, count⟩ := subtree_size covers
      obtain ⟨blocks, flat, each⟩ := ih
      refine ⟨block :: blocks, by rw [List.flatten_cons, flat], .cons ?_ each⟩
      rw [height]
      exact ⟨length, count, covers⟩

theorem injective (held : Forest domain bound peaks leaves)
    (held' : Forest domain bound' peaks leaves') : leaves = leaves' := by
  induction held generalizing bound' leaves' with
  | nil =>
      cases held'
      rfl
  | @cons bound level peak peaks block leaves below covers rest ih =>
      cases held' with
      | @cons _ level' _ _ block' leaves' below' covers' rest' =>
          have same : level = level' :=
            (subtree_size covers).2.1.symm.trans (subtree_size covers').2.1
          subst same
          rw [subtree_injective covers covers' rfl, ih rest']

/-- A block at the end, smaller than all before it. -/
theorem snoc {level : Nat} {block : List D} {peak : MerklePeak D}
    (held : Forest domain bound peaks leaves) (below : level < bound)
    (covers : subtree domain level block = some peak) (smaller : ∀ other ∈ peaks, level < other.level) :
    Forest domain bound (peaks ++ [peak]) (leaves ++ block) := by
  induction held with
  | nil => simpa using Forest.cons below covers .nil
  | @cons bound level' other peaks block' leaves below' covers' rest ih =>
      have lower : level < level' := by
        have first := smaller other List.mem_cons_self
        rwa [(subtree_size covers').2.1] at first
      rw [List.cons_append, List.append_assoc]
      exact .cons below' covers' (ih lower fun later member =>
        smaller later (List.mem_cons_of_mem _ member))

/-- The smallest peak and the leaves at the end. -/
theorem unsnoc {peak : MerklePeak D} (held : Forest domain bound (peaks ++ [peak]) leaves) :
    ∃ first block, leaves = first ++ block ∧ subtree domain peak.level block = some peak ∧
      peak.level < bound ∧ Forest domain bound peaks first ∧
      ∀ other ∈ peaks, peak.level < other.level := by
  induction peaks generalizing bound leaves with
  | nil =>
      cases held with
      | @cons _ level _ _ block _ below covers rest =>
          cases rest
          have height := (subtree_size covers).2.1
          subst height
          exact ⟨[], block, by simp, covers, below, .nil, nofun⟩
  | cons head peaks ih =>
      cases held with
      | @cons _ level _ _ block leaves below covers rest =>
          obtain ⟨first, last, rfl, ends, lower, forest, smaller⟩ := ih rest
          have height := (subtree_size covers).2.1
          refine ⟨block ++ first, last, (List.append_assoc _ _ _).symm, ends, lower.trans below,
            .cons below covers forest, ?_⟩
          intro other member
          rcases List.mem_cons.mp member with rfl | later
          · rwa [height]
          · exact smaller other later

end Forest
end CsdFoundry.Synthesis

import CsdFoundry.Bisection
import CsdFoundry.Synthesis.ChoiceBounds
import Mathlib.Order.Interval.Finset.Nat

/-! Selection by weight. A ticket falls in the bucket of an index: bisection of the running totals and
the scan of the weighted records find the same one. -/
namespace CsdFoundry.Synthesis.Choices
open Admission Results Bisection

/-- The running totals above what came before. -/
def running (total : Nat) : List Nat → List Nat
  | [] => []
  | weight :: weights => (total + weight) :: running (total + weight) weights

theorem cumulate_ok {weights : List Int} (positive : ∀ weight ∈ weights, 0 < weight) (total : Nat) :
    cumulate total weights = .ok (running total (weights.map Int.toNat)) := by
  induction weights generalizing total with
  | nil => rfl
  | cons weight weights ih =>
      have first := positive weight (by simp)
      have rest := ih (fun weight later => positive weight (List.mem_cons_of_mem _ later))
        (total + weight.toNat)
      refine require_bind.mpr ⟨first, ?_⟩
      rw [rest]
      rfl

theorem positive_of_cumulate {weights : List Int} {total : Nat} {cumulative : List Nat}
    (totals : cumulate total weights = .ok cumulative) : ∀ weight ∈ weights, 0 < weight := by
  induction weights generalizing total cumulative with
  | nil => simp
  | cons weight weights ih =>
      obtain ⟨first, totals⟩ := require_bind.mp totals
      obtain ⟨later, rest, -⟩ := bind_ok.mp totals
      exact List.forall_mem_cons.mpr ⟨first, ih rest⟩

theorem le_of_mem_running {total sum : Nat} {weights : List Nat} (among : sum ∈ running total weights) :
    total ≤ sum := by
  induction weights generalizing total with
  | nil => cases among
  | cons weight weights ih =>
      rcases List.mem_cons.mp among with rfl | later
      · omega
      · have above := ih later
        omega

theorem running_ascending (total : Nat) (weights : List Nat) :
    (running total weights).Pairwise (· ≤ ·) := by
  induction weights generalizing total with
  | nil => exact .nil
  | cons weight weights ih => exact .cons (fun _ later => le_of_mem_running later) (ih _)

theorem getLast_running (total : Nat) (weights : List Nat) :
    (running total weights).getLast?.getD total = total + weights.sum := by
  induction weights generalizing total with
  | nil => rfl
  | cons weight weights ih =>
      have rest := ih (total + weight)
      rw [running, List.getLast?_cons, Option.getD_some, rest, List.sum_cons]
      omega

theorem bisectRight_running_cons (total weight ticket : Nat) (weights : List Nat) :
    bisectRight (running total (weight :: weights)) ticket =
      if ticket < total + weight then 0
      else bisectRight (running (total + weight) weights) ticket + 1 := by
  have split := countBelow_cons (total + weight) (running (total + weight) weights) ticket
  by_cases below : ticket < total + weight
  · rw [if_pos below]
    rw [if_neg (by omega)] at split
    exact split
  · rw [if_neg below]
    rw [if_pos (by omega)] at split
    exact split

/-- The scan of the records, from any index and any running total. -/
theorem search_eq {ticket total : Nat} {weights : List Int} (index : Nat)
    (positive : ∀ weight ∈ weights, 0 < weight) (least : total ≤ ticket)
    (within : (ticket : Int) < total + weights.sum) :
    expectedIndex.search ticket index total weights =
      index + bisectRight (running total (weights.map Int.toNat)) ticket := by
  induction weights generalizing index total with
  | nil =>
      rw [List.sum_nil] at within
      omega
  | cons weight weights ih =>
      have first := positive weight (by simp)
      have whole : ((total + weight.toNat : Nat) : Int) = total + weight := by omega
      rw [List.sum_cons] at within
      rw [expectedIndex.search, List.map_cons, bisectRight_running_cons]
      by_cases below : ticket < total + weight.toNat
      · rw [if_pos (by omega), if_pos below]
        rfl
      · have rest := @ih (total + weight.toNat) (index + 1)
          (fun weight later => positive weight (List.mem_cons_of_mem _ later)) (by omega)
          (by omega)
        rw [if_neg (by omega), if_neg below, ← whole, rest]
        omega

theorem expectedIndex_eq {ticket : Nat} {weights : List Int}
    (positive : ∀ weight ∈ weights, 0 < weight) (within : (ticket : Int) < weights.sum) :
    expectedIndex ticket weights = bisectRight (running 0 (weights.map Int.toNat)) ticket := by
  have searched := search_eq 0 positive (Nat.zero_le ticket) (by omega)
  rw [Nat.zero_add] at searched
  exact searched

/-- A ticket below the total falls in some bucket. -/
theorem bisectRight_running_lt {total ticket : Nat} {weights : List Nat} (least : total ≤ ticket)
    (within : ticket < total + weights.sum) :
    bisectRight (running total weights) ticket < weights.length := by
  induction weights generalizing total with
  | nil =>
      rw [List.sum_nil] at within
      omega
  | cons weight weights ih =>
      rw [List.sum_cons] at within
      rw [bisectRight_running_cons, List.length_cons]
      split_ifs with below
      · omega
      · have rest := @ih (total + weight) (by omega) (by omega)
        omega

/-- The tickets of a bucket are as many as its weight. -/
theorem card_tickets (total : Nat) (weights : List Nat) {index : Nat} (inside : index < weights.length) :
    ((Finset.Ico total (total + weights.sum)).filter
      fun ticket => bisectRight (running total weights) ticket = index).card = weights[index] := by
  induction weights generalizing total index with
  | nil => exact absurd inside (Nat.not_lt_zero _)
  | cons weight weights ih =>
      rw [List.sum_cons]
      cases index with
      | zero =>
          -- the first bucket ends with the first running total
          have first : (Finset.Ico total (total + (weight + weights.sum))).filter
              (fun ticket => bisectRight (running total (weight :: weights)) ticket = 0) =
                Finset.Ico total (total + weight) := by
            ext ticket
            rw [Finset.mem_filter, Finset.mem_Ico, Finset.mem_Ico, bisectRight_running_cons]
            by_cases below : ticket < total + weight
            · rw [if_pos below]
              omega
            · rw [if_neg below]
              omega
          rw [first, Nat.card_Ico, List.getElem_cons_zero]
          omega
      | succ index =>
          have later : (Finset.Ico total (total + (weight + weights.sum))).filter
              (fun ticket => bisectRight (running total (weight :: weights)) ticket = index + 1) =
                (Finset.Ico (total + weight) (total + weight + weights.sum)).filter
                  (fun ticket => bisectRight (running (total + weight) weights) ticket = index) := by
            ext ticket
            rw [Finset.mem_filter, Finset.mem_filter, Finset.mem_Ico, Finset.mem_Ico,
              bisectRight_running_cons]
            by_cases below : ticket < total + weight
            · rw [if_pos below]
              omega
            · rw [if_neg below]
              omega
          rw [later, ih (total + weight) (Nat.lt_of_succ_lt_succ inside), List.getElem_cons_succ]

theorem sum_toNat {weights : List Int} (positive : ∀ weight ∈ weights, 0 < weight) :
    ((weights.map Int.toNat).sum : Int) = weights.sum := by
  induction weights with
  | nil => rfl
  | cons weight weights ih =>
      have first := positive weight (by simp)
      have rest := ih fun weight later => positive weight (List.mem_cons_of_mem _ later)
      rw [List.map_cons, List.sum_cons, List.sum_cons]
      omega

/-- The bisection of the running totals and the scan of the record select the same index of the
domain, and every index has as many tickets as its weight says. -/
theorem weighted_selection (weights : List Int)
    (positive : ∀ weight ∈ weights, 0 < weight) :
    ∃ cumulative : List Nat, cumulate 0 weights = .ok cumulative ∧
      (cumulative.getLast?.getD 0 : Int) = weights.sum ∧
      (∀ ticket : Nat, (ticket : Int) < weights.sum →
        bisectRight cumulative ticket = bisect cumulative ticket 0 cumulative.length ∧
        bisectRight cumulative ticket = expectedIndex ticket weights ∧
        bisectRight cumulative ticket < weights.length) ∧
      ∀ (index : Nat) (inside : index < weights.length),
        ((Finset.range weights.sum.toNat).filter
          fun ticket => bisectRight cumulative ticket = index).card = weights[index] := by
  have whole := sum_toNat positive
  refine ⟨running 0 (weights.map Int.toNat), cumulate_ok positive 0, ?_, ?_, ?_⟩
  · rw [getLast_running, Nat.zero_add, whole]
  · intro ticket within
    have lower : ticket < 0 + (weights.map Int.toNat).sum := by omega
    have bounded := bisectRight_running_lt (Nat.zero_le ticket) lower
    rw [List.length_map] at bounded
    exact ⟨(bisect_eq (running_ascending 0 _) ticket).symm, (expectedIndex_eq positive within).symm,
      bounded⟩
  · intro index inside
    have present : index < (weights.map Int.toNat).length := by rwa [List.length_map]
    have counted := card_tickets 0 (weights.map Int.toNat) present
    have sum : weights.sum.toNat = 0 + (weights.map Int.toNat).sum := by omega
    have weight := positive weights[index] (List.getElem_mem inside)
    rw [Finset.range_eq_Ico, sum, counted, List.getElem_map]
    omega

theorem weighted_selection_sample :
    (∀ weight ∈ ([2, 1, 3] : List Int), 0 < weight) ∧
    ∃ cumulative : List Nat, cumulate 0 [2, 1, 3] = .ok cumulative ∧
      (cumulative.getLast?.getD 0 : Int) = ([2, 1, 3] : List Int).sum ∧
      (∀ ticket : Nat, (ticket : Int) < ([2, 1, 3] : List Int).sum →
        bisectRight cumulative ticket = bisect cumulative ticket 0 cumulative.length ∧
        bisectRight cumulative ticket = expectedIndex ticket [2, 1, 3] ∧
        bisectRight cumulative ticket < ([2, 1, 3] : List Int).length) ∧
      ∀ (index : Nat) (inside : index < ([2, 1, 3] : List Int).length),
        ((Finset.range ([2, 1, 3] : List Int).sum.toNat).filter
          fun ticket => bisectRight cumulative ticket = index).card =
            ([2, 1, 3] : List Int)[index] :=
  ⟨by decide, weighted_selection [2, 1, 3] (by decide)⟩

/-- What is selected is what the record expects. -/
theorem weightedChoice_agrees [HashBytes] {seed : RootSeed} {path : ChoicePath} {values : List Value}
    {weights : List Int} {result : WeightedChoiceResult}
    (chosen : weightedChoice seed path values weights = .ok result) :
    result.selectedIndex = expectedIndex result.ticket.value weights ∧
      values[result.selectedIndex]? = some result.selectedValue := by
  obtain ⟨filled, chosen⟩ := require_bind.mp chosen
  obtain ⟨paired, chosen⟩ := require_bind.mp chosen
  obtain ⟨_, -, chosen⟩ := bind_ok.mp chosen
  obtain ⟨-, chosen⟩ := require_bind.mp chosen
  obtain ⟨cumulative, totals, chosen⟩ := bind_ok.mp chosen
  obtain ⟨ticket, drawn, chosen⟩ := bind_ok.mp chosen
  obtain ⟨selected, found, chosen⟩ := bind_ok.mp chosen
  cases chosen
  have positive := positive_of_cumulate totals
  rw [cumulate_ok positive] at totals
  cases totals
  rw [getLast_running, Nat.zero_add, sum_toNat positive] at drawn
  obtain ⟨-, material, earlier, final, bounded⟩ := boundedIntegerForDomain_ok drawn
  have within : (ticket.value : Int) < weights.sum := by
    have small := Nat.mod_lt final.candidate bounded.positive
    have value : ticket.value = final.candidate % weights.sum.toNat := by rw [bounded.fields]
    have room := bounded.positive
    omega
  refine ⟨(expectedIndex_eq positive within).symm, ?_⟩
  unfold getItem at found
  split at found
  · cases found
    assumption
  · cases found

end CsdFoundry.Synthesis.Choices

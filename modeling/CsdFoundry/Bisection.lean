import Mathlib

/-! Bisection of an ascending list: the first place whose value is above the one sought. -/
namespace CsdFoundry.Bisection
variable {α : Type} [LinearOrder α]

/-- `bisect.bisect_right` between two places. -/
def bisect (values : List α) (value : α) (low high : Nat) : Nat :=
  if _inside : low < high then
    let middle := (low + high) / 2
    match values[middle]? with
    | none => low
    | some found =>
        if value < found then bisect values value low middle
        else bisect values value (middle + 1) high
  else low
termination_by high - low

/-- How many values come before the first that is above. -/
def countBelow (values : List α) (value : α) : Nat := (values.takeWhile (· ≤ value)).length

theorem countBelow_le (values : List α) (value : α) : countBelow values value ≤ values.length :=
  (List.takeWhile_sublist _).length_le

theorem countBelow_cons (head : α) (values : List α) (value : α) :
    countBelow (head :: values) value = if head ≤ value then countBelow values value + 1 else 0 := by
  unfold countBelow
  rw [List.takeWhile_cons]
  by_cases below : head ≤ value
  · simp [below]
  · simp [below]

/-- In an ascending list the values that are not above are those before the place. -/
theorem le_iff_lt_countBelow {values : List α} (ascending : values.Pairwise (· ≤ ·)) {value found : α}
    {place : Nat} (at_place : values[place]? = some found) :
    found ≤ value ↔ place < countBelow values value := by
  induction values generalizing place with
  | nil => cases at_place
  | cons head values ih =>
      obtain ⟨least, ascending⟩ := List.pairwise_cons.mp ascending
      rw [countBelow_cons]
      cases place with
      | zero =>
          obtain rfl : head = found := Option.some.inj at_place
          by_cases below : head ≤ value
          · simp [below]
          · simp [below]
      | succ place =>
          have found_later : values[place]? = some found := at_place
          have above := least found (List.mem_of_getElem? found_later)
          split_ifs with below
          · rw [ih ascending found_later]
            omega
          · have greater : ¬found ≤ value := fun less => below (above.trans less)
            simp [greater]

theorem bisect_eq_of_between {values : List α} (ascending : values.Pairwise (· ≤ ·)) {value : α}
    (low high : Nat) (least : low ≤ countBelow values value) (most : countBelow values value ≤ high)
    (inside : high ≤ values.length) : bisect values value low high = countBelow values value := by
  induction low, high using bisect.induct values value with
  | case1 low high room middle missing =>
      have beyond : values.length ≤ middle := List.getElem?_eq_none_iff.mp missing
      omega
  | case2 low high room middle found at_middle less ih =>
      have after : found ≤ value ↔ middle < countBelow values value :=
        le_iff_lt_countBelow ascending at_middle
      have early : countBelow values value ≤ middle := by
        by_contra late
        exact absurd (after.mpr (by omega)) (not_le.mpr less)
      have halfway : values[(low + high) / 2]? = some found := at_middle
      rw [bisect, dif_pos room]
      simp only [halfway, if_pos less]
      exact ih least early (by omega)
  | case3 low high room middle found at_middle more ih =>
      have late : middle < countBelow values value :=
        (le_iff_lt_countBelow ascending at_middle).mp (not_lt.mp more)
      have halfway : values[(low + high) / 2]? = some found := at_middle
      rw [bisect, dif_pos room]
      simp only [halfway, if_neg more]
      exact ih late most inside
  | case4 low high empty =>
      rw [bisect, dif_neg empty]
      omega

/-- Bisection of the whole of an ascending list finds the place. -/
theorem bisect_eq {values : List α} (ascending : values.Pairwise (· ≤ ·)) (value : α) :
    bisect values value 0 values.length = countBelow values value :=
  bisect_eq_of_between ascending 0 values.length (Nat.zero_le _) (countBelow_le values value)
    (Nat.le_refl _)

end CsdFoundry.Bisection

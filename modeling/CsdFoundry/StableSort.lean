import Mathlib.Data.List.Sort

/-! Insertion sort is stable: it commutes with filters, so a sorted association list answers
every lookup as the given one does. -/
namespace CsdFoundry
namespace StableSort
variable {α β : Type} {r : α → α → Prop} [DecidableRel r]

theorem filter_head (p : α → Bool) {a : α} {l : List α}
    (below : ∀ b ∈ l, r a b) : (l.filter p).orderedInsert r a = a :: l.filter p := by
  cases kept : l.filter p with
  | nil => rfl
  | cons b rest =>
      have member : b ∈ l := List.mem_of_mem_filter (p := p) (by simp [kept])
      exact List.orderedInsert_cons_of_le r rest (below b member)

theorem filter_orderedInsert [IsTrans α r] (p : α → Bool) (a : α) {l : List α}
    (sorted : l.Pairwise r) : (l.orderedInsert r a).filter p =
      if p a then (l.filter p).orderedInsert r a else l.filter p := by
  induction l with
  | nil => by_cases kept : p a <;> simp [kept]
  | cons b l ih =>
      obtain ⟨first, rest⟩ := List.pairwise_cons.mp sorted
      by_cases before : r a b
      · rw [List.orderedInsert_cons_of_le r l before]
        have below : ∀ c ∈ b :: l, r a c := by
          intro c member
          rcases List.mem_cons.mp member with rfl | later
          · exact before
          · exact IsTrans.trans a b c before (first c later)
        rw [filter_head p below, List.filter_cons]
      · rw [List.orderedInsert_of_not_le r l before, List.filter_cons, List.filter_cons, ih rest]
        by_cases kept : p b
        · by_cases mine : p a
          · simp [kept, mine, before]
          · simp [kept, mine]
        · simp [kept]

theorem filter_insertionSort [IsTrans α r] [Std.Total r] (p : α → Bool) (l : List α) :
    (l.insertionSort r).filter p = (l.filter p).insertionSort r := by
  induction l with
  | nil => rfl
  | cons a l ih =>
      rw [List.insertionSort_cons, filter_orderedInsert p a (List.pairwise_insertionSort r l), ih,
        List.filter_cons]
      by_cases kept : p a <;> simp [kept]

/-- Entries that compare both ways keep their order, those of one key among them. -/
theorem find_insertionSort [IsTrans α r] [Std.Total r] (p : α → Bool) (l : List α)
    (same : ∀ a ∈ l, ∀ b ∈ l, p a → p b → r a b) :
    (l.insertionSort r).find? p = l.find? p := by
  have settled : (l.filter p).Pairwise r := by
    refine List.pairwise_of_forall_mem_list ?_
    intro a ha b hb
    obtain ⟨inA, keptA⟩ := List.mem_filter.mp ha
    obtain ⟨inB, keptB⟩ := List.mem_filter.mp hb
    exact same a inA b inB keptA keptB
  rw [← List.head?_filter, ← List.head?_filter, filter_insertionSort, settled.insertionSort_eq]

/-- Permuted lists are sorted into one list when no two of their entries compare both ways. -/
theorem insertionSort_perm [IsTrans α r] [Std.Total r] {l l' : List α} (same : l.Perm l')
    (apart : ∀ a ∈ l, ∀ b ∈ l, r a b → r b a → a = b) :
    l.insertionSort r = l'.insertionSort r := by
  apply List.Perm.eq_of_pairwise _ (List.pairwise_insertionSort r l)
    (List.pairwise_insertionSort r l')
  · exact (List.perm_insertionSort r l).trans (same.trans (List.perm_insertionSort r l').symm)
  · intro a b ha hb
    apply apart a ((List.mem_insertionSort r).mp ha)
    exact same.mem_iff.mpr ((List.mem_insertionSort r).mp hb)

/-- Sorted lists with the same items under every key are one list. -/
theorem sorted_eq {κ : Type} [LinearOrder κ] {key : α → κ} {l l' : List α}
    (sorted : l.Pairwise (key · ≤ key ·)) (sorted' : l'.Pairwise (key · ≤ key ·))
    (same : ∀ k, l.filter (fun a => key a = k) = l'.filter (fun a => key a = k)) : l = l' := by
  induction l generalizing l' with
  | nil =>
      cases l' with
      | nil => rfl
      | cons b l' => simpa using same (key b)
  | cons a l ih =>
      cases l' with
      | nil => simpa using same (key a)
      | cons b l' =>
          obtain ⟨first, rest⟩ := List.pairwise_cons.mp sorted
          obtain ⟨first', rest'⟩ := List.pairwise_cons.mp sorted'
          have inA : b ∈ a :: l := by
            apply List.mem_of_mem_filter (p := fun c => decide (key c = key b))
            rw [same]
            simp
          have inB : a ∈ b :: l' := by
            apply List.mem_of_mem_filter (p := fun c => decide (key c = key a))
            rw [← same]
            simp
          have below : key a ≤ key b := by
            rcases List.mem_cons.mp inA with rfl | later
            · exact le_refl _
            · exact first b later
          have above : key b ≤ key a := by
            rcases List.mem_cons.mp inB with rfl | later
            · exact le_refl _
            · exact first' a later
          have here := same (key a)
          have equal : key b = key a := le_antisymm above below
          rw [List.filter_cons, List.filter_cons, if_pos (by simp), if_pos (by simp [equal])] at here
          obtain ⟨rfl, -⟩ := List.cons.inj here
          congr 1
          apply ih rest rest'
          intro k
          have there := same k
          rw [List.filter_cons, List.filter_cons] at there
          split_ifs at there with mine
          · exact (List.cons.inj there).2
          · exact there

/-- Lists are sorted alike exactly when they have the same items, in the same order, under every
key. -/
theorem insertionSort_eq_iff {κ : Type} [LinearOrder κ] {key : α → κ} {r : α → α → Prop}
    [DecidableRel r] (ordered : ∀ a b, r a b ↔ key a ≤ key b) {l l' : List α} :
    l.insertionSort r = l'.insertionSort r ↔
      ∀ k, l.filter (fun a => key a = k) = l'.filter (fun a => key a = k) := by
  have total : Std.Total r := ⟨fun a b => by simpa [ordered] using le_total (key a) (key b)⟩
  have trans : IsTrans α r := ⟨fun a b c first second => by
    rw [ordered] at first second ⊢
    exact le_trans first second⟩
  have settled (k : κ) (l : List α) : (l.insertionSort r).filter (fun a => key a = k) =
      l.filter (fun a => key a = k) := by
    rw [filter_insertionSort, List.Pairwise.insertionSort_eq]
    refine List.pairwise_of_forall_mem_list ?_
    intro a ha b hb
    have sameA : key a = k := by simpa using List.of_mem_filter ha
    have sameB : key b = k := by simpa using List.of_mem_filter hb
    rw [ordered, sameA, sameB]
  constructor
  · intro same k
    rw [← settled k l, same, settled]
  · intro same
    have sorted (l : List α) : (l.insertionSort r).Pairwise (key · ≤ key ·) :=
      (List.pairwise_insertionSort r l).imp fun related => (ordered _ _).mp related
    apply sorted_eq (sorted l) (sorted l')
    intro k
    rw [settled, settled, same]

theorem lookup_eq_find [BEq α] (key : α) (l : List (α × β)) :
    l.lookup key = (l.find? fun entry => key == entry.1).map (·.2) := by
  induction l with
  | nil => rfl
  | cons entry l ih =>
      rw [List.lookup_cons, List.find?_cons]
      cases key == entry.1 <;> simp [ih]

theorem mem_of_lookup [BEq α] [LawfulBEq α] {l : List (α × β)} {key : α} {value : β}
    (found : l.lookup key = some value) : (key, value) ∈ l := by
  rw [lookup_eq_find, Option.map_eq_some_iff] at found
  obtain ⟨entry, one, rfl⟩ := found
  have hit := List.find?_some one
  obtain rfl : key = entry.1 := by simpa using hit
  exact List.mem_of_find?_eq_some one

theorem lookup_of_mem [BEq α] [LawfulBEq α] {l : List (α × β)} (distinct : (l.map (·.1)).Nodup)
    {key : α} {value : β} (member : (key, value) ∈ l) : l.lookup key = some value := by
  induction l with
  | nil => cases member
  | cons entry l ih =>
      obtain ⟨head, first⟩ := entry
      rw [List.map_cons, List.nodup_cons] at distinct
      rw [List.lookup_cons]
      rcases List.mem_cons.mp member with same | later
      · cases same
        simp
      · have other : key ≠ head := by
          rintro rfl
          exact distinct.1 (List.mem_map_of_mem (f := (·.1)) later)
        have unequal : (key == head) = false := beq_eq_false_iff_ne.mpr other
        rw [unequal]
        exact ih distinct.2 later

/-- Filtering by the key changes the value found only by losing it. -/
theorem lookup_of_filter [BEq α] [LawfulBEq α] {p : α → Bool} {l : List (α × β)} {key : α}
    {value : β} (found : (l.filter (fun entry => p entry.1)).lookup key = some value) :
    l.lookup key = some value := by
  induction l with
  | nil => cases found
  | cons entry l ih =>
      rw [List.filter_cons] at found
      rw [List.lookup_cons]
      cases same : key == entry.1 with
      | true =>
          obtain rfl : key = entry.1 := by simpa using same
          split at found
          · rwa [List.lookup_cons, same] at found
          · rename_i dropped
            have member := List.mem_filter.mp (mem_of_lookup found)
            exact absurd member.2 dropped
      | false =>
          split at found
          · rw [List.lookup_cons, same] at found
            exact ih found
          · exact ih found

theorem find_unique {p : α → Bool} {l : List α} {a : α} (member : a ∈ l) (met : p a = true)
    (alone : ∀ b ∈ l, p b = true → b = a) : l.find? p = some a := by
  cases found : l.find? p with
  | none => exact absurd met (List.find?_eq_none.mp found a member)
  | some b => rw [alone b (List.mem_of_find?_eq_some found) (List.find?_some found)]

theorem perm_of_find {p : α → Bool} {l : List α} {a : α} (found : l.find? p = some a) :
    l.Perm (a :: l.eraseP p) := by
  induction l with
  | nil => cases found
  | cons b l ih =>
      rw [List.find?_cons] at found
      cases met : p b with
      | true =>
          rw [met] at found
          cases found
          rw [List.eraseP_cons_of_pos met]
      | false =>
          rw [met] at found
          rw [List.eraseP_cons_of_neg (by simp [met])]
          exact ((ih found).cons b).trans (.swap a b _)

/-- A list in ascending order is made of its groups. -/
theorem eq_flatMap_filter {f : α → Nat} {l : List α} {n : Nat}
    (ascending : l.Pairwise fun a b => f a ≤ f b) (bounded : ∀ a ∈ l, f a < n) :
    l = (List.range n).flatMap fun k => l.filter fun a => f a = k := by
  induction n generalizing l with
  | zero =>
      cases l with
      | nil => rfl
      | cons a l => exact absurd (bounded a List.mem_cons_self) (Nat.not_lt_zero _)
  | succ n ih =>
      have cut : l = (l.filter fun a => f a < n) ++ l.filter fun a => f a = n := by
        clear ih
        induction l with
        | nil => rfl
        | cons a l ihl =>
            obtain ⟨first, rest⟩ := List.pairwise_cons.mp ascending
            have tail := ihl rest fun b later => bounded b (List.mem_cons_of_mem _ later)
            by_cases below : f a < n
            · have apart : f a ≠ n := by omega
              simp only [List.filter_cons, below, apart, decide_true, decide_false, ↓reduceIte,
                List.cons_append, List.cons.injEq, true_and, Bool.false_eq_true]
              exact tail
            · have top : f a = n := by
                have under := bounded a List.mem_cons_self
                omega
              have none : l.filter (fun b => f b < n) = [] := by
                rw [List.filter_eq_nil_iff]
                intro b later
                have above := first b later
                simp only [decide_eq_true_eq]
                omega
              rw [none, List.nil_append] at tail
              simp only [List.filter_cons, top, none, decide_true, decide_false, ↓reduceIte,
                List.nil_append, Bool.false_eq_true, List.cons.injEq, true_and, lt_self_iff_false]
              exact tail
      have lower := @ih (l.filter fun a => f a < n) (ascending.sublist List.filter_sublist)
        fun a member => of_decide_eq_true (List.mem_filter.mp member).2
      have groups : ∀ k ∈ List.range n, (l.filter fun a => f a < n).filter (fun a => f a = k) =
          l.filter fun a => f a = k := by
        intro k member
        have under := List.mem_range.mp member
        rw [List.filter_filter]
        refine List.filter_congr fun a _ => ?_
        by_cases same : f a = k
        · simp [same, under]
        · simp [same]
      rw [List.range_succ, List.flatMap_append, List.flatMap_singleton, ← List.flatMap_congr groups,
        ← lower]
      exact cut

end StableSort
end CsdFoundry

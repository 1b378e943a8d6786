import Mathlib.Data.Finset.Basic
import Mathlib.Data.Finset.Card
import Mathlib.Data.List.Sort

/-! Lists of items with an identity, read as dictionaries: of two items with one
identity the later one is found. Sets of identities are listed in ascending order. -/
namespace CsdFoundry
variable {α β κ : Type} [DecidableEq κ]

namespace Keyed

def find (key : α → κ) (items : List α) (k : κ) : Option α :=
  items.reverse.find? (fun item => key item = k)

def keys (key : α → κ) (items : List α) : Finset κ := (items.map key).toFinset

/-- The items of the dictionary, in the order in which their keys were first inserted. -/
def entries (key : α → κ) (items : List α) : List α :=
  (items.map key).eraseDups.filterMap (find key items)

variable {key : α → κ} {items : List α} {k : κ}

theorem key_of_find (found : find key items k = some item) : key item = k := by
  have checked := List.find?_some found
  simpa using checked

theorem mem_of_find (found : find key items k = some item) : item ∈ items := by
  have member := List.mem_of_find?_eq_some found
  simpa using member

theorem find_eq_none : find key items k = none ↔ ∀ item ∈ items, key item ≠ k := by
  simp [find]

theorem mem_keys : k ∈ keys key items ↔ ∃ item ∈ items, key item = k := by
  simp [keys]

theorem mem_keys_iff_find : k ∈ keys key items ↔ ∃ item, find key items k = some item := by
  rw [← Option.isSome_iff_exists, ← not_iff_not, mem_keys]
  simp [find_eq_none]

theorem mem_added {old new : List α} (unknown : find key old k = none)
    (located : find key new k = some item) : k ∈ keys key new \ keys key old := by
  refine Finset.mem_sdiff.mpr ⟨mem_keys_iff_find.mpr ⟨item, located⟩, ?_⟩
  rw [mem_keys_iff_find]
  rintro ⟨other, found⟩
  cases unknown.symm.trans found

theorem find_isSome_of_mem (member : item ∈ items) :
    ∃ found, find key items (key item) = some found :=
  mem_keys_iff_find.mp (mem_keys.mpr ⟨item, member, rfl⟩)

theorem mem_entries : item ∈ entries key items ↔ find key items (key item) = some item := by
  simp only [entries, List.mem_filterMap, List.mem_eraseDups, List.mem_map]
  constructor
  · rintro ⟨k, -, found⟩
    rwa [key_of_find found]
  · exact fun found => ⟨key item, ⟨item, mem_of_find found, rfl⟩, found⟩

/-- Identities are distinct exactly when the dictionary is as long as the list. -/
theorem nodup_iff : (keys key items).card = items.length ↔ (items.map key).Nodup := by
  rw [keys, ← List.length_map key]
  have counted : (items.map key : Multiset κ).toFinset.card = _ ↔ _ :=
    Multiset.toFinset_card_eq_card_iff_nodup
  exact counted

theorem find_of_mem (distinct : (items.map key).Nodup) (member : item ∈ items) :
    find key items (key item) = some item := by
  have present : ∃ found, find key items (key item) = some found := find_isSome_of_mem member
  obtain ⟨found, located⟩ := present
  rw [located, List.inj_on_of_nodup_map distinct (mem_of_find located) member (key_of_find located)]

theorem nodup_eraseDups (names : List κ) : names.eraseDups.Nodup := by
  induction length : names.length using Nat.strong_induction_on generalizing names with
  | h count ih =>
      cases names with
      | nil => simp
      | cons head tail =>
          rw [List.eraseDups_cons, List.nodup_cons]
          constructor
          · simp
          · apply ih (tail.filter (fun other => !other == head)).length _ _ rfl
            rw [← length]
            exact Nat.lt_succ_of_le (List.length_filter_le _ _)

theorem map_entries : (entries key items).map key = (items.map key).eraseDups := by
  have known : ∀ k ∈ (items.map key).eraseDups, ∃ item, find key items k = some item := by
    intro k member
    apply mem_keys_iff_find.mp
    simpa [keys] using member
  rw [entries]
  generalize (items.map key).eraseDups = names at known
  induction names with
  | nil => rfl
  | cons name names ih =>
      obtain ⟨item, found⟩ := known name List.mem_cons_self
      rw [List.filterMap_cons_some found, List.map_cons, key_of_find found,
        ih (fun k member => known k (List.mem_cons_of_mem _ member))]

theorem nodup_entries : ((entries key items).map key).Nodup := by
  rw [map_entries]
  exact nodup_eraseDups _

theorem keys_entries : keys key (entries key items) = keys key items := by
  ext k
  simp [keys, map_entries]

/-- The list of a dictionary's items makes the same dictionary. -/
theorem find_entries (k : κ) : find key (entries key items) k = find key items k := by
  cases found : find key items k with
  | none =>
      rw [find_eq_none] at found ⊢
      intro item member
      exact found item (mem_of_find (mem_entries.mp member))
  | some item =>
      have same : key item = k := key_of_find found
      have member : item ∈ entries key items := by
        rw [mem_entries, same]
        exact found
      rw [← same]
      exact find_of_mem nodup_entries member

theorem find_append (items' : List α) (k : κ) :
    find key (items ++ items') k = (find key items' k).or (find key items k) := by
  simp [find, List.find?_append]

/-- An update that keeps the identities. -/
theorem find_map {f : α → α} (keeps : ∀ item, key (f item) = key item) (k : κ) :
    find key (items.map f) k = (find key items k).map f := by
  simp only [find, ← List.map_reverse, List.find?_map]
  congr 2
  funext item
  simp [keeps]

/-- A dictionary with the same identities that holds the image of every item. -/
theorem find_eq_map {old new : List α} {f : α → α} (same : keys key new = keys key old)
    (images : ∀ k item, find key old k = some item → find key new k = some (f item)) (k : κ) :
    find key new k = (find key old k).map f := by
  cases found : find key old k with
  | some item => exact images k item found
  | none =>
      have unknown : k ∉ keys key new := by
        rw [same, mem_keys_iff_find]
        simp [found]
      rw [mem_keys_iff_find, not_exists] at unknown
      exact Option.eq_none_iff_forall_ne_some.mpr unknown

theorem keys_map {f : α → α} (keeps : ∀ item, key (f item) = key item) :
    keys key (items.map f) = keys key items := by
  ext k
  simp [mem_keys, keeps]

theorem keys_append (items' : List α) :
    keys key (items ++ items') = keys key items ∪ keys key items' := by
  ext k
  simp [mem_keys, or_and_right, exists_or]

theorem find_nil (k : κ) : find key [] k = none := rfl

theorem find_singleton (item : α) (k : κ) :
    find key [item] k = if key item = k then some item else none := by
  by_cases same : key item = k <;> simp [find, same]

/-- Of items with distinct identities, one has the identity of `item`. -/
theorem filter_key (distinct : (items.map key).Nodup) (member : item ∈ items) :
    items.filter (fun other => key other = key item) = [item] := by
  induction items with
  | nil => cases member
  | cons first rest ih =>
      rw [List.map_cons, List.nodup_cons] at distinct
      rw [List.filter_cons]
      rcases List.mem_cons.mp member with rfl | later
      · have others : rest.filter (fun other => key other = key item) = [] := by
          rw [List.filter_eq_nil_iff]
          intro other among same
          exact distinct.1 (List.mem_map.mpr ⟨other, among, by simpa using same⟩)
        simp [others]
      · have apart : key first ≠ key item := by
          intro same
          exact distinct.1 (List.mem_map.mpr ⟨item, later, same.symm⟩)
        simpa [apart] using ih distinct.2 later

end Keyed

section Sorted
variable [LinearOrder κ] {k : κ}

/-- `sorted` of a set. -/
def sortedSet (set : Finset κ) : List κ :=
  Quotient.liftOn set.val (List.insertionSort (· ≤ ·)) (fun a b (same : a.Perm b) =>
    List.Perm.eq_of_pairwise' (List.pairwise_insertionSort _ a) (List.pairwise_insertionSort _ b)
      ((List.perm_insertionSort _ a).trans (same.trans (List.perm_insertionSort _ b).symm)))

omit [DecidableEq κ] in
@[simp] theorem mem_sortedSet {set : Finset κ} : k ∈ sortedSet set ↔ k ∈ set := by
  obtain ⟨values, distinct⟩ := set
  induction values using Quotient.inductionOn with
  | h values =>
      change k ∈ values.insertionSort _ ↔ k ∈ (values : Multiset κ)
      simp

omit [DecidableEq κ] in
theorem coe_sortedSet (set : Finset κ) : (sortedSet set : Multiset κ) = set.val := by
  obtain ⟨values, distinct⟩ := set
  induction values using Quotient.inductionOn with
  | h values => exact Multiset.coe_eq_coe.mpr (List.perm_insertionSort _ values)

end Sorted
end CsdFoundry

import CsdFoundry.Results
import CsdFoundry.StableSort

/-! Stable sorting by keys whose computation may fail. -/
namespace CsdFoundry
namespace KeyedSort
open Results
variable {α ε κ : Type} [LinearOrder κ]

/-- An item with its key. -/
def keyed (keyOf : α → Except ε κ) (item : α) : Except ε (κ × α) :=
  (keyOf item).map fun key => (key, item)

def KeyLe (a b : κ × α) : Prop := a.1 ≤ b.1

instance : DecidableRel (KeyLe (κ := κ) (α := α)) := fun a b => inferInstanceAs (Decidable (a.1 ≤ b.1))

instance : IsTrans (κ × α) KeyLe := ⟨fun _ _ _ first second => le_trans first second⟩

instance : Std.Total (α := κ × α) KeyLe := ⟨fun a b => le_total a.1 b.1⟩

/-- The keys are computed first, in the order of the items. -/
def sortedBy (keyOf : α → Except ε κ) (items : List α) : Except ε (List α) := do
  let pairs ← collect (items.map (keyed keyOf))
  return (pairs.insertionSort KeyLe).map (·.2)

variable {keyOf : α → Except ε κ} {items items' ordered : List α} {pairs : List (κ × α)}

omit [LinearOrder κ] in
theorem keyed_ok {item : α} {pair : κ × α} :
    keyed keyOf item = .ok pair ↔ pair.2 = item ∧ keyOf pair.2 = .ok pair.1 := by
  obtain ⟨key, value⟩ := pair
  unfold keyed
  constructor
  · intro made
    cases computed : keyOf item with
    | error failure => simp [computed, Except.map] at made
    | ok found =>
        rw [computed] at made
        cases made
        exact ⟨rfl, computed⟩
  · rintro ⟨rfl, computed⟩
    rw [show keyOf value = .ok key from computed]
    rfl

omit [LinearOrder κ] in
theorem collect_keyed : collect (items.map (keyed keyOf)) = .ok pairs ↔
    pairs.map (·.2) = items ∧ ∀ pair ∈ pairs, keyOf pair.2 = .ok pair.1 := by
  rw [collect_eq_ok]
  induction items generalizing pairs with
  | nil => cases pairs <;> simp
  | cons item items ih =>
      rw [List.map_cons, eq_comm, List.map_eq_cons_iff, List.map_eq_cons_iff]
      constructor
      · rintro ⟨pair, rest, rfl, first, others⟩
        obtain ⟨rfl, key⟩ := keyed_ok.mp first.symm
        obtain ⟨rfl, keys⟩ := ih.mp others.symm
        exact ⟨⟨pair, rest, rfl, rfl, rfl⟩, List.forall_mem_cons.mpr ⟨key, keys⟩⟩
      · rintro ⟨⟨pair, rest, rfl, rfl, rfl⟩, keys⟩
        obtain ⟨key, keys⟩ := List.forall_mem_cons.mp keys
        exact ⟨pair, rest, rfl, (keyed_ok.mpr ⟨rfl, key⟩).symm, (ih.mpr ⟨rfl, keys⟩).symm⟩

theorem sortedBy_ok : sortedBy keyOf items = .ok ordered ↔ ∃ pairs : List (κ × α),
    pairs.map (·.2) = items ∧ (∀ pair ∈ pairs, keyOf pair.2 = .ok pair.1) ∧
      ordered = (pairs.insertionSort KeyLe).map (·.2) := by
  rw [sortedBy, bind_ok]
  constructor
  · rintro ⟨pairs, made, returned⟩
    obtain ⟨values, keys⟩ := collect_keyed.mp made
    exact ⟨pairs, values, keys, (Except.ok.inj returned).symm⟩
  · rintro ⟨pairs, values, keys, rfl⟩
    exact ⟨pairs, collect_keyed.mpr ⟨values, keys⟩, rfl⟩

theorem sortedBy_perm (sorted : sortedBy keyOf items = .ok ordered) : ordered.Perm items := by
  obtain ⟨pairs, rfl, -, rfl⟩ := sortedBy_ok.mp sorted
  exact (List.perm_insertionSort KeyLe pairs).map _

/-- The keys ascend. -/
theorem sortedBy_ascending (sorted : sortedBy keyOf items = .ok ordered) :
    ordered.Pairwise fun a b => ∃ first second, keyOf a = .ok first ∧ keyOf b = .ok second ∧
      first ≤ second := by
  obtain ⟨pairs, rfl, keys, rfl⟩ := sortedBy_ok.mp sorted
  rw [List.pairwise_map]
  have ascending := List.pairwise_insertionSort KeyLe pairs
  refine ascending.imp_of_mem fun {a b} inA inB order => ?_
  exact ⟨a.1, b.1, keys a ((List.mem_insertionSort KeyLe).mp inA),
    keys b ((List.mem_insertionSort KeyLe).mp inB), order⟩

theorem sortedBy_exists (keys : ∀ item ∈ items, ∃ key, keyOf item = .ok key) :
    ∃ ordered, sortedBy keyOf items = .ok ordered := by
  suffices paired : ∃ pairs : List (κ × α), pairs.map (·.2) = items ∧
      ∀ pair ∈ pairs, keyOf pair.2 = .ok pair.1 by
    obtain ⟨pairs, values, found⟩ := paired
    exact ⟨_, sortedBy_ok.mpr ⟨pairs, values, found, rfl⟩⟩
  induction items with
  | nil => exact ⟨[], rfl, by simp⟩
  | cons item items ih =>
      obtain ⟨⟨key, first⟩, others⟩ := List.forall_mem_cons.mp keys
      obtain ⟨pairs, rfl, found⟩ := ih others
      exact ⟨(key, item) :: pairs, rfl, List.forall_mem_cons.mpr ⟨first, found⟩⟩

/-- Items of distinct keys are sorted into one list, whatever order they come in. -/
theorem sortedBy_exchange (same : items.Perm items')
    (apart : ∀ a ∈ items, ∀ b ∈ items, keyOf a = keyOf b → a = b)
    (sorted : sortedBy keyOf items = .ok ordered) : sortedBy keyOf items' = .ok ordered := by
  obtain ⟨pairs, rfl, keys, rfl⟩ := sortedBy_ok.mp sorted
  obtain ⟨pairs', rfl, perm⟩ := image_perm same rfl
  refine sortedBy_ok.mpr ⟨pairs', rfl, fun pair member => keys pair (perm.mem_iff.mpr member), ?_⟩
  congr 1
  apply StableSort.insertionSort_perm perm
  intro a inA b inB below above
  have order : a.1 = b.1 := le_antisymm below above
  have value : a.2 = b.2 := by
    apply apart _ (List.mem_map_of_mem inA) _ (List.mem_map_of_mem inB)
    rw [keys a inA, keys b inB, order]
  exact Prod.ext order value

end KeyedSort
end CsdFoundry

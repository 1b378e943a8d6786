import CsdFoundry.Synthesis.Merge

/-! The merge of sorted streams as a union. Items are ordered by their keys, the keys refine the
positions, and items of one position are one item unless their entries differ. -/
namespace CsdFoundry.Synthesis.Cursor
variable {α κ π β : Type} [LinearOrder κ] [LinearOrder π] {key : α → κ} {position : α → π}
  {entry : α → β}

/-- Items of one position have one entry. -/
def Agreeing (position : α → π) (entry : α → β) (items : List α) : Prop :=
  ∀ a ∈ items, ∀ b ∈ items, position a = position b → entry a = entry b

instance [DecidableEq β] (items : List α) : Decidable (Agreeing position entry items) :=
  inferInstanceAs (Decidable (∀ a ∈ items, ∀ b ∈ items, position a = position b → entry a = entry b))

/-- Every position once, in order, through its least item. -/
structure IsUnion (key : α → κ) (position : α → π) (items yielded : List α) : Prop where
  ascending : yielded.Pairwise fun a b => position a < position b
  among : ∀ item ∈ yielded, item ∈ items
  least : ∀ item ∈ yielded, ∀ other ∈ items, position other = position item → key item ≤ key other
  covers : ∀ other ∈ items, ∃ item ∈ yielded, position item = position other

omit [LinearOrder π] in
theorem Agreeing.perm {items items' : List α} (same : items.Perm items') :
    Agreeing position entry items ↔ Agreeing position entry items' := by
  simp only [Agreeing, same.mem_iff]

omit [LinearOrder π] in
theorem Agreeing.tail {item : α} {items : List α} (agreeing : Agreeing position entry (item :: items)) :
    Agreeing position entry items := fun a inA b inB =>
  agreeing a (List.mem_cons_of_mem _ inA) b (List.mem_cons_of_mem _ inB)

omit [LinearOrder π] in
/-- An item that agrees with one of its position agrees with all of them. -/
theorem Agreeing.insert {previous item : α} {items : List α}
    (agreeing : Agreeing position entry (previous :: items))
    (place : position previous = position item) (same : entry previous = entry item) :
    Agreeing position entry (previous :: item :: items) := by
  have known : ∀ a ∈ previous :: item :: items, ∃ b ∈ previous :: items,
      position b = position a ∧ entry b = entry a := by
    intro a member
    rcases List.mem_cons.mp member with rfl | member
    · exact ⟨a, List.mem_cons_self, rfl, rfl⟩
    · rcases List.mem_cons.mp member with rfl | member
      · exact ⟨previous, List.mem_cons_self, place, same⟩
      · exact ⟨a, List.mem_cons_of_mem _ member, rfl, rfl⟩
  intro a inA b inB equal
  obtain ⟨a', inA', placeA, entryA⟩ := known a inA
  obtain ⟨b', inB', placeB, entryB⟩ := known b inB
  rw [← entryA, ← entryB]
  exact agreeing a' inA' b' inB' (placeA.trans (equal.trans placeB.symm))

/-- An item below all others agrees with them. -/
theorem Agreeing.cons {item : α} {items : List α} (agreeing : Agreeing position entry items)
    (below : ∀ other ∈ items, position item < position other) :
    Agreeing position entry (item :: items) := by
  intro a inA b inB equal
  rcases List.mem_cons.mp inA with rfl | laterA <;> rcases List.mem_cons.mp inB with rfl | laterB
  · rfl
  · exact absurd equal (ne_of_lt (below b laterB))
  · exact absurd equal.symm (ne_of_lt (below a laterA))
  · exact agreeing a laterA b laterB equal

namespace IsUnion

theorem mem_iff {items yielded : List α} (union : IsUnion key position items yielded)
    (identified : ∀ a ∈ items, ∀ b ∈ items, position a = position b → key a = key b → a = b)
    {item : α} : item ∈ yielded ↔
      item ∈ items ∧ ∀ other ∈ items, position other = position item → key item ≤ key other := by
  constructor
  · exact fun member => ⟨union.among item member, union.least item member⟩
  · rintro ⟨member, least⟩
    obtain ⟨other, kept, place⟩ := union.covers item member
    have inside := union.among other kept
    have low := least other inside place
    have high := union.least other kept item member place.symm
    have same := identified item member other inside place.symm (le_antisymm low high)
    exact same ▸ kept

/-- The union does not depend on the order of the items. -/
theorem unique {items items' yielded yielded' : List α} (perm : items.Perm items')
    (identified : ∀ a ∈ items, ∀ b ∈ items, position a = position b → key a = key b → a = b)
    (union : IsUnion key position items yielded) (union' : IsUnion key position items' yielded') :
    yielded = yielded' := by
  have identified' : ∀ a ∈ items', ∀ b ∈ items', position a = position b → key a = key b → a = b :=
    fun a inA b inB => identified a (perm.mem_iff.mpr inA) b (perm.mem_iff.mpr inB)
  have : Std.Irrefl fun a b : α => position a < position b := ⟨fun _ => lt_irrefl _⟩
  have : Std.Antisymm fun a b : α => position a < position b :=
    ⟨fun _ _ ab ba => absurd ab (lt_asymm ba)⟩
  refine union.ascending.eq_of_mem_iff union'.ascending fun item => ?_
  rw [union.mem_iff identified, union'.mem_iff identified', perm.mem_iff]
  simp only [perm.mem_iff]

theorem single (item : α) : IsUnion key position [item] [item] := by
  refine ⟨List.pairwise_singleton _ _, fun _ member => member, ?_, fun other member => ?_⟩
  · intro kept member other inside _
    rw [List.mem_singleton.mp member, List.mem_singleton.mp inside]
  · exact ⟨other, member, rfl⟩

/-- A later item of the first position changes nothing. -/
theorem insert {previous item : α} {items yielded : List α}
    (union : IsUnion key position (previous :: items) (previous :: yielded))
    (place : position previous = position item) (above : key previous ≤ key item) :
    IsUnion key position (previous :: item :: items) (previous :: yielded) := by
  have wider : ∀ other, other ∈ previous :: item :: items ↔
      other = item ∨ other ∈ previous :: items := by
    intro other
    simp only [List.mem_cons]
    tauto
  refine ⟨union.ascending, fun kept member => (wider kept).mpr (.inr (union.among kept member)), ?_, ?_⟩
  · intro kept member other inside same
    rcases (wider other).mp inside with rfl | inside
    · have low := union.least kept member previous List.mem_cons_self (place.trans same)
      exact low.trans above
    · exact union.least kept member other inside same
  · intro other inside
    rcases (wider other).mp inside with rfl | inside
    · exact ⟨previous, List.mem_cons_self, place⟩
    · exact union.covers other inside

theorem cons {item : α} {items yielded : List α} (union : IsUnion key position items yielded)
    (below : ∀ other ∈ items, position item < position other) :
    IsUnion key position (item :: items) (item :: yielded) := by
  refine ⟨List.pairwise_cons.mpr ⟨fun kept member => ?_, union.ascending⟩, ?_, ?_, ?_⟩
  · exact below kept (union.among kept member)
  · intro kept member
    rcases List.mem_cons.mp member with rfl | member
    · exact List.mem_cons_self
    · exact List.mem_cons_of_mem _ (union.among kept member)
  · intro kept member other inside same
    rcases List.mem_cons.mp member with rfl | old <;>
      rcases List.mem_cons.mp inside with rfl | later
    · exact le_refl _
    · exact absurd same.symm (ne_of_lt (below other later))
    · exact absurd same (ne_of_lt (below kept (union.among kept old)))
    · exact union.least kept old other later same
  · intro other inside
    rcases List.mem_cons.mp inside with rfl | inside
    · exact ⟨other, List.mem_cons_self, rfl⟩
    · obtain ⟨kept, member, same⟩ := union.covers other inside
      exact ⟨kept, List.mem_cons_of_mem _ member, same⟩

end IsUnion

section Scan
variable [DecidableEq β] (refines : ∀ {a b}, key a ≤ key b → position a ≤ position b)
include refines

theorem below_all {previous item : α} {items : List α}
    (sorted : (previous :: item :: items).Pairwise fun a b => key a ≤ key b)
    (apart : position previous ≠ position item) :
    ∀ other ∈ item :: items, position previous < position other := by
  obtain ⟨first, rest⟩ := List.pairwise_cons.mp sorted
  have step := lt_of_le_of_ne (refines (first item List.mem_cons_self)) apart
  intro other member
  rcases List.mem_cons.mp member with rfl | later
  · exact step
  · exact step.trans_le (refines ((List.pairwise_cons.mp rest).1 other later))

/-- Behind its first item, the scan of sorted items yields the rest of their union, and a conflict
is all that can stop it. -/
theorem scan_spec {items : List α} {previous : α}
    (sorted : (previous :: items).Pairwise fun a b => key a ≤ key b) :
    (Agreeing position entry (previous :: items) → ∃ yielded,
      scan position entry (some previous) items = (yielded, none) ∧
      IsUnion key position (previous :: items) (previous :: yielded)) ∧
    (¬ Agreeing position entry (previous :: items) →
      (scan position entry (some previous) items).2 = some .conflict) := by
  induction items generalizing previous with
  | nil =>
      refine ⟨fun _ => ⟨[], rfl, .single previous⟩, fun differ => absurd ?_ differ⟩
      intro a inA b inB _
      rw [List.mem_singleton.mp inA, List.mem_singleton.mp inB]
  | cons item items ih =>
      obtain ⟨first, rest⟩ := List.pairwise_cons.mp sorted
      have skipped : (previous :: items).Pairwise fun a b => key a ≤ key b :=
        sorted.sublist (.cons_cons _ (List.sublist_cons_self item items))
      by_cases place : position previous = position item
      · by_cases same : entry previous = entry item
        · have step : scan position entry (some previous) (item :: items) =
              scan position entry (some previous) items := by
            simp only [scan, yields, if_pos place, if_pos same]
          obtain ⟨agreed, differed⟩ := ih skipped
          rw [step]
          constructor
          · intro agreeing
            obtain ⟨yielded, ended, union⟩ := agreed fun a inA b inB =>
              agreeing a (List.cons_subset_cons _ (List.subset_cons_self item items) inA) b
                (List.cons_subset_cons _ (List.subset_cons_self item items) inB)
            exact ⟨yielded, ended, union.insert place (first item List.mem_cons_self)⟩
          · exact fun differ => differed fun agreeing => differ (agreeing.insert place same)
        · constructor
          · intro agreeing
            exact absurd (agreeing previous List.mem_cons_self item
              (List.mem_cons_of_mem _ List.mem_cons_self) place) same
          · intro _
            simp only [scan, yields, if_pos place, if_neg same]
      · have below := below_all refines sorted place
        obtain ⟨agreed, differed⟩ := ih rest
        constructor
        · intro agreeing
          obtain ⟨yielded, ended, union⟩ := agreed agreeing.tail
          refine ⟨item :: yielded, ?_, union.cons below⟩
          simp only [scan, yields, if_neg place, ended]
        · intro differ
          have later := differed fun agreeing => differ (agreeing.cons below)
          simp only [scan, yields, if_neg place, later]

variable {streams streams' : List (List α)}

/-- Sorted streams merge into the union of their items, unless two of these are in conflict. -/
theorem merge_union {fuel : Nat}
    (sorted : ∀ stream ∈ streams, stream.Pairwise fun a b => key a ≤ key b)
    (enough : streams.flatten.length < fuel) :
    (Agreeing position entry streams.flatten → ∃ yielded,
      merge key position entry fuel (start key streams) none = (yielded, none) ∧
      IsUnion key position streams.flatten yielded) ∧
    (¬ Agreeing position entry streams.flatten →
      (merge key position entry fuel (start key streams) none).2 = some .conflict) := by
  obtain ⟨heaped, flat⟩ := start_spec sorted
  obtain ⟨items, perm, ordered, scanned⟩ :=
    @merge_scan _ _ _ _ _ key _ _ position entry _ _ heaped (flat.length_eq.trans_lt enough)
  have same := perm.trans flat
  rw [scanned, ← Agreeing.perm same]
  have union : ∀ {yielded}, IsUnion key position items yielded →
      IsUnion key position streams.flatten yielded := by
    intro yielded union
    obtain ⟨ascending, among, least, covers⟩ := union
    simp only [same.mem_iff] at among least covers
    exact ⟨ascending, among, least, covers⟩
  cases items with
  | nil =>
      refine ⟨fun _ => ⟨[], rfl, union ⟨.nil, nofun, nofun, nofun⟩⟩, fun differ => absurd ?_ differ⟩
      exact nofun
  | cons item items =>
      obtain ⟨agreed, differed⟩ := @scan_spec _ _ _ _ _ _ key position entry _ refines _ _ ordered
      constructor
      · intro agreeing
        obtain ⟨yielded, ended, whole⟩ := agreed agreeing
        refine ⟨item :: yielded, ?_, union whole⟩
        simp only [scan, yields, ended]
      · intro differ
        have conflict := differed differ
        simp only [scan, yields, conflict]

end Scan
end CsdFoundry.Synthesis.Cursor

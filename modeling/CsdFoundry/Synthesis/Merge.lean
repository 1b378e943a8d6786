import Mathlib.Data.List.Sort
import Mathlib.Data.Prod.Lex

/-! The merge of sorted streams through a heap that holds the head of every stream. Nothing here
names what the streams carry. -/
namespace CsdFoundry.Synthesis

/-- A stream in the heap: its number, its head, and what the cursor yields next. -/
structure Cursor (α : Type) where
  index : Nat
  item : α
  rest : List α

namespace Cursor
variable {α κ π β : Type} [LinearOrder κ] (key : α → κ)

def content (cursor : Cursor α) : List α := cursor.item :: cursor.rest

/-- The order of the heap tuples; two streams never tie. -/
def Before (a b : Cursor α) : Prop := toLex (key a.item, a.index) ≤ toLex (key b.item, b.index)

instance : DecidableRel (Before key) := fun a b =>
  inferInstanceAs (Decidable (toLex (key a.item, a.index) ≤ toLex (key b.item, b.index)))

instance : IsTrans (Cursor α) (Before key) := ⟨fun _ _ _ ab bc => le_trans (α := κ ×ₗ Nat) ab bc⟩

instance : Std.Total (Before key) := ⟨fun _ _ => le_total (α := κ ×ₗ Nat) _ _⟩

/-- `heappush`. The heap is kept as a sorted list. -/
def push (cursor : Cursor α) (heap : List (Cursor α)) : List (Cursor α) :=
  heap.orderedInsert (Before key) cursor

/-- The heap with the heads of all streams. -/
def start (streams : List (List α)) : List (Cursor α) :=
  streams.zipIdx.foldl (fun heap (stream, index) => match stream with
    | [] => heap
    | item :: rest => push key ⟨index, item, rest⟩ heap) []

inductive MergeError where
  | unsorted
  | conflict
  deriving DecidableEq

/-- Replace the popped head by the next item of its stream. -/
def advance (cursor : Cursor α) (heap : List (Cursor α)) : Except MergeError (List (Cursor α)) :=
  match cursor.rest with
  | [] => .ok heap
  | next :: rest =>
      if key next < key cursor.item then .error .unsorted
      else .ok (push key ⟨cursor.index, next, rest⟩ heap)

variable [DecidableEq π] [DecidableEq β] (position : α → π) (entry : α → β)

/-- Whether an item is yielded: an item at the position of the previous one must agree with it. -/
def yields (previous : Option α) (item : α) : Except MergeError Bool :=
  match previous with
  | none => .ok true
  | some other =>
      if position other = position item then
        if entry other = entry item then .ok false else .error .conflict
      else .ok true

/-- The loop of `merge_sorted_entry_streams`: what was yielded, and the error that ended it. -/
def merge : Nat → List (Cursor α) → Option α → List α × Option MergeError
  | 0, _, _ => ([], none)
  | _ + 1, [], _ => ([], none)
  | fuel + 1, cursor :: heap, previous =>
      match advance key cursor heap with
      | .error e => ([], some e)
      | .ok heap =>
          match yields position entry previous cursor.item with
          | .error e => ([], some e)
          | .ok false => merge fuel heap previous
          | .ok true =>
              let (items, failed) := merge fuel heap (some cursor.item)
              (cursor.item :: items, failed)

/-- The loop over the items alone, in the order in which they leave the heap. -/
def scan : Option α → List α → List α × Option MergeError
  | _, [] => ([], none)
  | previous, item :: items =>
      match yields position entry previous item with
      | .error e => ([], some e)
      | .ok false => scan previous items
      | .ok true =>
          let (yielded, failed) := scan (some item) items
          (item :: yielded, failed)

variable {key position entry}

/-- Every stream is sorted, and so is the heap. -/
structure Heaped (key : α → κ) (heap : List (Cursor α)) : Prop where
  heads : heap.Pairwise (Before key)
  streams : ∀ cursor ∈ heap, cursor.content.Pairwise fun a b => key a ≤ key b

omit [DecidableEq π] [DecidableEq β] in
theorem Before.head_le {a b : Cursor α} (before : Before key a b) : key a.item ≤ key b.item :=
  (Prod.Lex.le_iff.mp before).elim (fun less => le_of_lt less) (fun both => le_of_eq both.1)

theorem Heaped.push {heap : List (Cursor α)} (heaped : Heaped key heap) {cursor : Cursor α}
    (sorted : cursor.content.Pairwise fun a b => key a ≤ key b) :
    Heaped key (push key cursor heap) := by
  refine ⟨heaped.heads.orderedInsert cursor heap, ?_⟩
  intro other member
  rcases (List.mem_orderedInsert (Before key)).mp member with rfl | older
  · exact sorted
  · exact heaped.streams other older

theorem content_push (cursor : Cursor α) (heap : List (Cursor α)) :
    ((push key cursor heap).flatMap content).Perm (cursor.content ++ heap.flatMap content) :=
  (List.perm_orderedInsert _ cursor heap).flatMap_right content

theorem Heaped.advance {cursor : Cursor α} {heap : List (Cursor α)}
    (heaped : Heaped key (cursor :: heap)) :
    ∃ next, advance key cursor heap = .ok next ∧ Heaped key next ∧
      (next.flatMap content).Perm (cursor.rest ++ heap.flatMap content) := by
  obtain ⟨first, more⟩ := List.pairwise_cons.mp heaped.heads
  have rest : Heaped key heap :=
    ⟨more, fun other member => heaped.streams other (List.mem_cons_of_mem _ member)⟩
  have sorted := heaped.streams cursor List.mem_cons_self
  obtain ⟨index, item, tail⟩ := cursor
  cases tail with
  | nil => exact ⟨heap, rfl, rest, .refl _⟩
  | cons next tail =>
      obtain ⟨least, sorted⟩ := List.pairwise_cons.mp sorted
      have grows : ¬ key next < key item := not_lt.mpr (least next List.mem_cons_self)
      refine ⟨Cursor.push key ⟨index, next, tail⟩ heap, ?_, rest.push sorted, content_push _ _⟩
      simp only [Cursor.advance, if_neg grows]

/-- The popped head is the least item. -/
theorem Heaped.least {cursor : Cursor α} {heap : List (Cursor α)}
    (heaped : Heaped key (cursor :: heap)) {item : α}
    (member : item ∈ cursor.rest ++ heap.flatMap content) : key cursor.item ≤ key item := by
  obtain ⟨first, -⟩ := List.pairwise_cons.mp heaped.heads
  rcases List.mem_append.mp member with own | other
  · exact (List.pairwise_cons.mp (heaped.streams cursor List.mem_cons_self)).1 item own
  · obtain ⟨holder, among, inside⟩ := List.mem_flatMap.mp other
    have heads := (first holder among).head_le
    rcases List.mem_cons.mp inside with rfl | later
    · exact heads
    · have sorted := heaped.streams holder (List.mem_cons_of_mem _ among)
      exact heads.trans ((List.pairwise_cons.mp sorted).1 item later)

/-- The heap of sorted streams gives all items in the order of their keys. -/
theorem merge_scan {fuel : Nat} {heap : List (Cursor α)} (heaped : Heaped key heap)
    (enough : (heap.flatMap content).length < fuel) :
    ∃ items, items.Perm (heap.flatMap content) ∧ items.Pairwise (fun a b => key a ≤ key b) ∧
      ∀ previous, merge key position entry fuel heap previous =
        scan position entry previous items := by
  induction fuel generalizing heap with
  | zero => exact absurd enough (Nat.not_lt_zero _)
  | succ fuel ih =>
      cases heap with
      | nil => exact ⟨[], .refl _, .nil, fun _ => rfl⟩
      | cons cursor heap =>
          obtain ⟨next, advanced, heaped', same⟩ := heaped.advance
          obtain ⟨items, perm, sorted, scanned⟩ := ih heaped' (by
            rw [same.length_eq]
            simpa [content] using enough)
          refine ⟨cursor.item :: items, .cons _ (perm.trans same), ?_, ?_⟩
          · refine List.pairwise_cons.mpr ⟨?_, sorted⟩
            intro item member
            exact heaped.least ((perm.trans same).mem_iff.mp member)
          · intro previous
            simp only [merge, advanced, scan, scanned]

theorem scan_distinct {previous : Option α} {items : List α}
    (distinct : (items.map position).Nodup)
    (fresh : ∀ other, previous = some other → position other ∉ items.map position) :
    scan position entry previous items = (items, none) := by
  induction items generalizing previous with
  | nil => rfl
  | cons item items ih =>
      have yielded : yields position entry previous item = .ok true := by
        cases previous with
        | none => rfl
        | some other =>
            have apart : position other ≠ position item := by
              intro equal
              exact fresh other rfl (by rw [equal]; exact List.mem_cons_self)
            simp only [yields, if_neg apart]
      obtain ⟨alone, distinct⟩ := List.nodup_cons.mp distinct
      have rest := @ih (some item) distinct fun other same => by
        cases same
        exact alone
      simp only [scan, yielded, rest]

/-- Sorted streams without a common position merge into one sorted list of all their items. -/
theorem merge_spec {fuel : Nat} {heap : List (Cursor α)} {previous : Option α}
    (heaped : Heaped key heap) (distinct : ((heap.flatMap content).map position).Nodup)
    (fresh : ∀ other, previous = some other → position other ∉ (heap.flatMap content).map position)
    (enough : (heap.flatMap content).length < fuel) :
    ∃ items, merge key position entry fuel heap previous = (items, none) ∧
      items.Perm (heap.flatMap content) ∧ items.Pairwise fun a b => key a ≤ key b := by
  obtain ⟨items, perm, sorted, scanned⟩ :=
    @merge_scan _ _ _ _ _ key _ _ position entry _ _ heaped enough
  have same := perm.map position
  refine ⟨items, ?_, perm, sorted⟩
  rw [scanned, scan_distinct (same.nodup_iff.mpr distinct)]
  exact fun other given member => fresh other given (same.mem_iff.mp member)

omit [DecidableEq π] [DecidableEq β] in
theorem advance_ok {cursor : Cursor α} {heap next : List (Cursor α)}
    (advanced : advance key cursor heap = .ok next) :
    (next.flatMap content).Perm (cursor.rest ++ heap.flatMap content) ∧
      (∀ other ∈ heap, other ∈ next) ∧
      (cursor.rest = [] ∨ ∃ item rest, cursor.rest = item :: rest ∧
        key cursor.item ≤ key item ∧ ⟨cursor.index, item, rest⟩ ∈ next) := by
  obtain ⟨index, item, tail⟩ := cursor
  cases tail with
  | nil =>
      cases advanced
      exact ⟨.refl _, fun _ member => member, .inl rfl⟩
  | cons later rest =>
      simp only [advance] at advanced
      split_ifs at advanced with descends
      cases advanced
      have among : ∀ other, other ∈ push key ⟨index, later, rest⟩ heap ↔
          other = ⟨index, later, rest⟩ ∨ other ∈ heap :=
        fun other => List.mem_orderedInsert (Before key)
      refine ⟨content_push _ _, fun other member => (among other).mpr (.inr member), .inr ?_⟩
      exact ⟨later, rest, rfl, not_lt.mp descends, (among _).mpr (.inl rfl)⟩

/-- A merge that ends without an error has seen every stream in order. -/
theorem sorted_of_merge {fuel : Nat} {heap : List (Cursor α)} {previous : Option α}
    (enough : (heap.flatMap content).length < fuel)
    (ended : (merge key position entry fuel heap previous).2 = none) :
    ∀ cursor ∈ heap, cursor.content.Pairwise fun a b => key a ≤ key b := by
  induction fuel generalizing heap previous with
  | zero => exact absurd enough (Nat.not_lt_zero _)
  | succ fuel ih =>
      cases heap with
      | nil => exact fun cursor member => absurd member List.not_mem_nil
      | cons cursor heap =>
          rw [merge] at ended
          cases advanced : advance key cursor heap with
          | error e => simp [advanced] at ended
          | ok next =>
              obtain ⟨perm, kept, first⟩ := advance_ok advanced
              have shorter : (next.flatMap content).length < fuel := by
                rw [perm.length_eq]
                simpa [content] using enough
              have sorted : ∀ cursor ∈ next, cursor.content.Pairwise fun a b => key a ≤ key b := by
                simp only [advanced] at ended
                split at ended
                · cases ended
                · exact ih shorter ended
                · exact ih shorter ended
              intro other member
              rcases List.mem_cons.mp member with rfl | older
              · rcases first with none_left | ⟨item, rest, left, grows, among⟩
                · simp [content, none_left]
                · have tail := sorted _ among
                  rw [content, left]
                  refine List.pairwise_cons.mpr ⟨?_, tail⟩
                  intro later inside
                  rcases List.mem_cons.mp inside with rfl | deeper
                  · exact grows
                  · exact grows.trans ((List.pairwise_cons.mp tail).1 later deeper)
              · exact sorted other (kept other older)

omit [DecidableEq π] [DecidableEq β] in
/-- The heap starts with one cursor for each stream that is not empty. -/
theorem start_contents (streams : List (List α)) :
    ((start key streams).map content).Perm (streams.filter (· ≠ [])) ∧
      (start key streams).Pairwise (Before key) := by
  have pushed : ∀ (numbered : List (List α × Nat)) (heap : List (Cursor α)),
      heap.Pairwise (Before key) →
      ((numbered.foldl (fun heap (stream, index) => match stream with
        | [] => heap
        | item :: rest => push key ⟨index, item, rest⟩ heap) heap).map content).Perm
        (heap.map content ++ (numbered.map (·.1)).filter (· ≠ [])) ∧
      (numbered.foldl (fun heap (stream, index) => match stream with
        | [] => heap
        | item :: rest => push key ⟨index, item, rest⟩ heap) heap).Pairwise (Before key) := by
    intro numbered
    induction numbered with
    | nil => exact fun heap heads => ⟨by simp, heads⟩
    | cons entry numbered ih =>
        intro heap heads
        obtain ⟨stream, index⟩ := entry
        cases stream with
        | nil => simpa using ih heap heads
        | cons item rest =>
            obtain ⟨perm, heads'⟩ := ih (push key ⟨index, item, rest⟩ heap)
              (heads.orderedInsert _ heap)
            have inserted := (List.perm_orderedInsert (Before key) ⟨index, item, rest⟩ heap).map
              content
            have moved := List.Perm.append_right ((numbered.map (·.1)).filter (· ≠ [])) inserted
            refine ⟨perm.trans (moved.trans ?_), heads'⟩
            simp only [List.map_cons, content, ne_eq, reduceCtorEq, not_false_eq_true, decide_true,
              List.filter_cons_of_pos, List.cons_append]
            exact List.perm_middle.symm
  have all := pushed streams.zipIdx [] .nil
  simpa [start, List.zipIdx_map_fst] using all

omit [DecidableEq π] [DecidableEq β] in
theorem start_flatten (streams : List (List α)) :
    ((start key streams).flatMap content).Perm streams.flatten := by
  have perm := (@start_contents _ _ _ key streams).1.flatten
  rw [List.flatten_filter_ne_nil] at perm
  exact perm

theorem start_spec {streams : List (List α)}
    (sorted : ∀ stream ∈ streams, stream.Pairwise fun a b => key a ≤ key b) :
    Heaped key (start key streams) ∧
      ((start key streams).flatMap content).Perm streams.flatten := by
  obtain ⟨contents, heads⟩ := @start_contents _ _ _ key streams
  refine ⟨⟨heads, fun cursor member => ?_⟩, start_flatten streams⟩
  have among := contents.mem_iff.mp (List.mem_map_of_mem member)
  exact sorted _ (List.mem_filter.mp among).1

end Cursor
end CsdFoundry.Synthesis

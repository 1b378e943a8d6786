import CsdFoundry.AlternativeModels.DifferencePositions

/-! The walk reports the outermost positions at which two graphs differ by value, each by its
pointer. -/
namespace CsdFoundry.AlternativeModels
open Admission Admission.Value Encoding Positions
open Synthesis (codePoints)

/-- The JSON pointer of a position below a path. -/
def pointerFrom (path : String) : List String → String
  | [] => path
  | token :: position => pointerFrom (comparePath path (escapePointerSegment token)) position

def pointer (position : List String) : String := pointerFrom "" position

/-- What is reported for a position below a path. -/
def differenceAt (a b : Option Value) (path : String) (position : List String) : Difference where
  path := pointerFrom path position
  family := classifyDifference (pointerFrom path position)
    ((nodeAt child node a position).isSome && (nodeAt child node b position).isSome)

section Pointers

def escapeChar (c : Char) : List Char :=
  if c = '~' then ['~', '0'] else if c = '/' then ['~', '1'] else [c]

theorem escapePointerSegment_toList (key : String) :
    (escapePointerSegment key).toList = key.toList.flatMap escapeChar := by
  rw [escapePointerSegment, String.toList_ofList, replaceChar, replaceChar, List.flatMap_assoc]
  congr 1
  funext c
  by_cases tilde : c = '~'
  · subst tilde
    rfl
  · by_cases slash : c = '/'
    · subst slash
      rfl
    · simp [escapeChar, tilde, slash]

/-- No segment holds the separator. -/
theorem slash_not_mem (key : String) : '/' ∉ (escapePointerSegment key).toList := by
  rw [escapePointerSegment_toList, List.mem_flatMap]
  rintro ⟨c, -, inside⟩
  unfold escapeChar at inside
  split_ifs at inside with tilde slash
  · simp at inside
  · simp at inside
  · exact slash (List.mem_singleton.mp inside).symm

theorem escapeChar_delimits : ∀ {a b : Char} {rest rest' : List Char},
    escapeChar a ++ rest = escapeChar b ++ rest' → a = b ∧ rest = rest' := by
  intro a b rest rest' same
  unfold escapeChar at same
  split_ifs at same <;> grind

theorem flatMap_escapeChar_injective : ∀ {a b : List Char},
    a.flatMap escapeChar = b.flatMap escapeChar → a = b
  | [], [], _ => rfl
  | [], c :: _, same => by
      have nonempty : escapeChar c ≠ [] := by
        unfold escapeChar
        split_ifs <;> simp
      rw [List.flatMap_nil, List.flatMap_cons, eq_comm, List.append_eq_nil_iff] at same
      exact absurd same.1 nonempty
  | c :: _, [], same => by
      have nonempty : escapeChar c ≠ [] := by
        unfold escapeChar
        split_ifs <;> simp
      rw [List.flatMap_nil, List.flatMap_cons, List.append_eq_nil_iff] at same
      exact absurd same.1 nonempty
  | a :: as, b :: bs, same => by
      rw [List.flatMap_cons, List.flatMap_cons] at same
      obtain ⟨rfl, rest⟩ := escapeChar_delimits same
      rw [flatMap_escapeChar_injective rest]

theorem escapePointerSegment_injective : Function.Injective escapePointerSegment := by
  intro a b same
  have letters := congrArg String.toList same
  rw [escapePointerSegment_toList, escapePointerSegment_toList] at letters
  exact String.toList_inj.mp (flatMap_escapeChar_injective letters)

/-- An index is its own segment. -/
theorem escapePointerSegment_repr (i : Nat) : escapePointerSegment i.repr = i.repr := by
  apply String.toList_inj.mp
  rw [escapePointerSegment_toList]
  have digits : ∀ c ∈ i.repr.toList, escapeChar c = [c] := by
    intro c inside
    rw [Nat.repr_eq_ofList_toDigits, String.toList_ofList] at inside
    have digit : c.isDigit = true := Nat.isDigit_of_mem_toDigits (by omega) (by omega) inside
    have tilde : c ≠ '~' := (ne_of_isDigit digit (by decide : Char.isDigit '~' = false)).symm
    have slash : c ≠ '/' := (ne_of_isDigit digit (by decide : Char.isDigit '/' = false)).symm
    rw [escapeChar, if_neg tilde, if_neg slash]
  rw [List.flatMap_congr digits, List.flatMap_singleton']

theorem pointerFrom_toList (path : String) (position : List String) :
    (pointerFrom path position).toList =
      path.toList ++ position.flatMap fun token => '/' :: (escapePointerSegment token).toList := by
  induction position generalizing path with
  | nil => simp [pointerFrom]
  | cons token position ih => simp [pointerFrom, ih, comparePath]

/-- Up to the next separator the segment is read back. -/
theorem segment_of_append {a b : List Char} (freeA : '/' ∉ a) (freeB : '/' ∉ b)
    {rest rest' : List Char} (starts : rest.head?.all (· = '/') = true)
    (starts' : rest'.head?.all (· = '/') = true) (same : a ++ rest = b ++ rest') :
    a = b ∧ rest = rest' := by
  have read {segment tail : List Char} (free : '/' ∉ segment)
      (starts : tail.head?.all (· = '/') = true) :
      (segment ++ tail).takeWhile (· ≠ '/') = segment := by
    have others : ∀ c ∈ segment, decide (c ≠ '/') = true := by
      intro c inside
      refine decide_eq_true fun slash => ?_
      rw [slash] at inside
      exact free inside
    rw [List.takeWhile_append_of_pos others]
    cases tail with
    | nil => simp
    | cons c tail => simp_all
  have first : a = b := by rw [← read freeA starts, same, read freeB starts']
  subst first
  exact ⟨rfl, List.append_cancel_left same⟩

theorem pointer_injective : Function.Injective pointer := by
  intro p q same
  have letters := congrArg String.toList same
  rw [pointer, pointer, pointerFrom_toList, pointerFrom_toList] at letters
  have tails := List.append_cancel_left letters
  clear letters same
  induction p generalizing q with
  | nil =>
      cases q with
      | nil => rfl
      | cons token q => simp at tails
  | cons token p ih =>
      cases q with
      | nil => simp at tails
      | cons token' q =>
          have starts (position : List String) : ((position.flatMap fun token =>
              '/' :: (escapePointerSegment token).toList).head?.all (· = '/')) = true := by
            cases position <;> simp
          rw [List.flatMap_cons, List.flatMap_cons, List.cons_append, List.cons_append] at tails
          obtain ⟨segment, rest⟩ := segment_of_append (slash_not_mem token) (slash_not_mem token')
            (starts p) (starts q) (List.cons.inj tails).2
          rw [escapePointerSegment_injective (String.toList_inj.mp segment), ih rest]

theorem pointer_ne_empty {token : String} {position : List String} :
    pointer (token :: position) ≠ "" := by
  intro empty
  have letters := congrArg String.toList empty
  rw [pointer, pointerFrom_toList] at letters
  simp at letters

end Pointers

section Walk

theorem sameFloat_iff {x y : Option String} (some : x.isSome = true) (some' : y.isSome = true) :
    sameFloat x y = true ↔ unsigned x = unsigned y := by
  obtain ⟨x, rfl⟩ := Option.isSome_iff_exists.mp some
  obtain ⟨y, rfl⟩ := Option.isSome_iff_exists.mp some'
  simp only [sameFloat, unsigned, Option.some.injEq, Bool.or_eq_true, decide_eq_true_eq,
    Bool.and_eq_true, List.mem_cons, List.not_mem_nil, or_false]
  split_ifs with first second second
  · simp [first, second]
  · subst first
    constructor
    · rintro (equal | ⟨-, zero | zero⟩)
      · exact absurd equal.symm second
      · exact zero.symm
      · exact absurd zero second
    · rintro rfl
      exact .inr ⟨.inr rfl, .inl rfl⟩
  · subst second
    constructor
    · rintro (equal | ⟨zero | zero, -⟩)
      · exact absurd equal first
      · exact zero
      · exact absurd zero first
    · rintro rfl
      exact .inr ⟨.inl rfl, .inr rfl⟩
  · constructor
    · rintro (equal | ⟨zero | zero, zero' | zero'⟩)
      · exact equal
      · rw [zero, zero']
      · exact absurd zero' second
      · exact absurd zero first
      · exact absurd zero first
    · exact .inl

/-- What the walk takes for equal stands alike at one position. -/
theorem sameScalar_iff (renderable : Renderable a) (renderable' : Renderable b)
    (apart : ∀ primary shadow, a = .dict primary → b = .dict shadow → False)
    (apart' : ∀ primary shadow, a = .list primary → b = .list shadow → False) :
    sameScalar a b = true ↔ valueNode a = valueNode b := by
  cases a <;> cases b <;> simp only [sameScalar, valueNode, node, Node.leaf.injEq, float.injEq,
    bool.injEq, int.injEq, str.injEq, decide_eq_true_eq, reduceCtorEq]
  · exact sameFloat_iff renderable renderable'
  · exact (apart' _ _ rfl rfl).elim
  · exact (apart _ _ rfl rfl).elim

theorem memberComparisons_lookup (members : Dict) (key : PyStr) :
    (memberComparisons members).lookup key = (members.lookup key).map collectDifferences := by
  induction members with
  | nil => rfl
  | cons member members ih =>
      rw [memberComparisons, List.lookup_cons, List.lookup_cons, ih]
      cases key == member.1 <;> rfl

theorem itemComparisons_eq (items : List Value) :
    itemComparisons items = items.map collectDifferences := by
  induction items with
  | nil => rfl
  | cons item items ih => rw [itemComparisons, ih, List.map_cons]

theorem mem_allKeys {primary shadow : Dict} {key : PyStr} : key ∈ allKeys primary shadow ↔
    key ∈ primary.map (·.1) ∨ key ∈ shadow.map (·.1) := by
  rw [allKeys, List.mem_insertionSort, List.mem_dedup, List.map_append, List.mem_append]

/-- Two values that are not containers of one kind differ at their root or nowhere. -/
theorem outermost_apart (apart : ∀ primary shadow, a = .dict primary → b = .dict shadow → False)
    (apart' : ∀ primary shadow, a = .list primary → b = .list shadow → False) :
    Outermost child valueNode (some a) (some b) position ↔
      position = [] ∧ valueNode a ≠ valueNode b := by
  cases position with
  | nil => simp [outermost_nil]
  | cons token position =>
      rw [outermost_cons]
      simp only [Option.map_some, Option.some.injEq, Option.bind_some, reduceCtorEq, false_and,
        iff_false, not_and]
      intro same
      have alone : child a token = none ∧ child b token = none := by
        cases a <;> cases b <;> first
          | exact ⟨rfl, rfl⟩
          | exact (apart _ _ rfl rfl).elim
          | exact (apart' _ _ rfl rfl).elim
          | cases same
      rw [alone.1, alone.2]
      exact not_outermost_none

/-- What the walk has to report for two values that may be missing. -/
def Reported (a b : Option Value) (path : String) (difference : Difference) : Prop :=
  ∃ position, Outermost child valueNode a b position ∧ difference = differenceAt a b path position

/-- The walk from this value is right, whatever it is compared with. -/
def Reports (a : Value) : Prop :=
  ∀ b path difference, Renderable b →
    (difference ∈ collectDifferences a b path ↔ Reported (some a) (some b) path difference)

variable {path : String} {difference : Difference}

theorem mem_compareMember {a b : Option Value} (right : ∀ x, a = some x → Reports x)
    (renderable : ∀ y, b = some y → Renderable y) :
    difference ∈ compareMember (a.map collectDifferences) b path ↔
      Reported a b path difference := by
  cases a with
  | none =>
      cases b with
      | none => simp [compareMember, Reported, not_outermost_none]
      | some y =>
          simp only [Reported, outermost_comm (a := none), outermost_alone, exists_eq_left]
          exact List.mem_singleton
  | some x =>
      cases b with
      | none =>
          simp only [Reported, outermost_alone, exists_eq_left]
          exact List.mem_singleton
      | some y => exact right x rfl y path difference (renderable y rfl)

/-- Under containers of one kind the differences are those of their children. -/
theorem reported_below (same : valueNode a = valueNode b) :
    Reported (some a) (some b) path difference ↔ ∃ token, Reported (child a token) (child b token)
      (comparePath path (escapePointerSegment token)) difference := by
  constructor
  · rintro ⟨position, outermost, reported⟩
    cases position with
    | nil => exact absurd (congrArg some same) (outermost_nil.mp outermost)
    | cons token position => exact ⟨token, position, (outermost_cons.mp outermost).2, reported⟩
  · rintro ⟨token, position, outermost, reported⟩
    exact ⟨token :: position, outermost_cons.mpr ⟨congrArg some same, outermost⟩, reported⟩

theorem not_reported_none : ¬ Reported none none path difference := by
  rintro ⟨position, outermost, -⟩
  exact not_outermost_none outermost

theorem reports_apart (renderable : Renderable a) (renderable' : Renderable b)
    (apart : ∀ primary shadow, a = .dict primary → b = .dict shadow → False)
    (apart' : ∀ primary shadow, a = .list primary → b = .list shadow → False) :
    difference ∈ collectDifferences a b path ↔ Reported (some a) (some b) path difference := by
  have equal := sameScalar_iff renderable renderable' apart apart'
  rw [collectDifferences.eq_3 _ _ _ apart apart']
  constructor
  · intro listed
    split_ifs at listed with same
    · cases listed
    · exact ⟨[], (outermost_apart apart apart').mpr ⟨rfl, mt equal.mpr same⟩,
        List.mem_singleton.mp listed⟩
  · rintro ⟨position, outermost, rfl⟩
    obtain ⟨rfl, unequal⟩ := (outermost_apart apart apart').mp outermost
    rw [if_neg (mt equal.mp unequal)]
    exact List.mem_singleton_self _

theorem reports_list (renderable : Renderable (.list items))
    (right : ∀ item ∈ items, Reports item) : Reports (.list items) := by
  intro b path difference renderable'
  by_cases kind : ∃ others, b = .list others
  · obtain ⟨others, rfl⟩ := kind
    have each (i : Nat) : difference ∈ compareMember (itemComparisons items)[i]? others[i]?
        (comparePath path i.repr) ↔ Reported (child (.list items) i.repr)
          (child (.list others) i.repr) (comparePath path (escapePointerSegment i.repr))
          difference := by
      rw [itemComparisons_eq, List.getElem?_map, child_list_repr, child_list_repr,
        escapePointerSegment_repr]
      exact mem_compareMember (fun x found => right x (List.mem_of_getElem? found))
        fun y found => (every_list.mp renderable').2 y (List.mem_of_getElem? found)
    have same : valueNode (.list items) = valueNode (.list others) := rfl
    rw [reported_below same, collectDifferences, List.mem_flatMap]
    constructor
    · rintro ⟨i, -, reported⟩
      exact ⟨i.repr, (each i).mp reported⟩
    · rintro ⟨token, reported⟩
      -- a token that names no index names an item of neither list
      have index : ∃ i : Nat, token = i.repr ∧ i < max items.length others.length := by
        cases found : child (.list items) token with
        | some x =>
            obtain ⟨i, written, listed⟩ := child_list_some found
            obtain ⟨inside, -⟩ := List.getElem?_eq_some_iff.mp listed
            exact ⟨i, written, by omega⟩
        | none =>
            cases found' : child (.list others) token with
            | some y =>
                obtain ⟨i, written, listed⟩ := child_list_some found'
                obtain ⟨inside, -⟩ := List.getElem?_eq_some_iff.mp listed
                exact ⟨i, written, by omega⟩
            | none =>
                rw [found, found'] at reported
                exact absurd reported not_reported_none
      obtain ⟨i, rfl, inside⟩ := index
      exact ⟨i, List.mem_range.mpr inside, (each i).mpr reported⟩
  · exact reports_apart renderable renderable' nofun
      fun _ others _ same => kind ⟨others, same⟩

theorem reports_dict (renderable : Renderable (.dict members))
    (right : ∀ member ∈ members, Reports member.2) : Reports (.dict members) := by
  intro b path difference renderable'
  by_cases kind : ∃ others, b = .dict others
  · obtain ⟨others, rfl⟩ := kind
    have each (text : String) : difference ∈ compareMember
        ((memberComparisons members).lookup (.text text)) (others.lookup (.text text))
        (comparePath path (escapePointerSegment text)) ↔ Reported (child (.dict members) text)
          (child (.dict others) text) (comparePath path (escapePointerSegment text))
          difference := by
      rw [memberComparisons_lookup]
      exact mem_compareMember (fun x found => right _ (StableSort.mem_of_lookup found))
        fun y found => (every_dict.mp renderable').2 _ (StableSort.mem_of_lookup found)
    have named {key : PyStr} (inside : key ∈ allKeys members others) :
        ∃ text, key = .text text := by
      rcases mem_allKeys.mp inside with mine | theirs
      · obtain ⟨member, among, rfl⟩ := List.mem_map.mp mine
        exact text_of_mem renderable among
      · obtain ⟨member, among, rfl⟩ := List.mem_map.mp theirs
        exact text_of_mem renderable' among
    have same : valueNode (.dict members) = valueNode (.dict others) := rfl
    rw [reported_below same, collectDifferences, List.mem_flatMap]
    constructor
    · rintro ⟨key, inside, reported⟩
      obtain ⟨text, rfl⟩ := named inside
      exact ⟨text, (each text).mp reported⟩
    · rintro ⟨token, reported⟩
      refine ⟨.text token, mem_allKeys.mpr ?_, (each token).mpr reported⟩
      cases found : child (.dict members) token with
      | some x => exact .inl (List.mem_map_of_mem (f := (·.1)) (child_dict_some found))
      | none =>
          cases found' : child (.dict others) token with
          | some y => exact .inr (List.mem_map_of_mem (f := (·.1)) (child_dict_some found'))
          | none =>
              rw [found, found'] at reported
              exact absurd reported not_reported_none
  · exact reports_apart renderable renderable' (fun _ others _ same => kind ⟨others, same⟩) nofun

/-- The walk reports the outermost positions at which the values differ, and no other. -/
theorem reports_of_renderable (renderable : Renderable a) : Reports a := by
  induction a using nested_induction with
  | list items ih =>
      exact reports_list renderable fun item listed =>
        ih item listed ((every_list.mp renderable).2 item listed)
  | dict members ih =>
      exact reports_dict renderable fun member inside =>
        ih member inside ((every_dict.mp renderable).2 member inside)
  | null | bool | int | float | str =>
      intro b path difference renderable'
      exact reports_apart renderable renderable' nofun nofun

end Walk
end CsdFoundry.AlternativeModels

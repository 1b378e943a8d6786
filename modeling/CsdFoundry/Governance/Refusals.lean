import CsdFoundry.Governance.Offences

/-! A value that is nested too deep is still rejected where an offence in it is read before the
stack runs out. Values are read depth first, the members of a dict in the order of their keys. -/
namespace CsdFoundry.Governance
open Admission Admission.Value Encoding Results

/-- The value is read to its end. -/
def Passes (room : Nat) (schema value : Value) : Prop :=
  nesting value ≤ room ∧ ¬ Offence schema value

/-- Keys are read in the order of their bytes, the schema version first. -/
def Precedes (a b : PyStr) : Prop :=
  b ≠ schemaVersion ∧ (a = schemaVersion ∨ keyBytes a < keyBytes b)

/-- An offence is met while there is room: the value offends by itself or, once whatever is read
before it is read to its end, through one of its members or in the end by the list that they are. -/
inductive Refused : Nat → Value → Value → Prop where
  | float {room : Nat} {schema : Value} {repr : Option String} : Refused room schema (.float repr)
  | keys {room : Nat} {schema : Value} {members : Dict} : Offends schema (.dict members) →
      Refused (room + 1) schema (.dict members)
  | member {room : Nat} {schema inner : Value} {members : Dict} {member : PyStr × Value} :
      member ∈ members → propertySchema schema member.1 = .ok inner →
      (∀ other ∈ members, Precedes other.1 member.1 →
        ∀ inner, propertySchema schema other.1 = .ok inner → Passes room inner other.2) →
      Refused room inner member.2 → Refused (room + 1) schema (.dict members)
  | item {room : Nat} {schema item : Value} {front back : List Value} :
      (∀ other ∈ front, Passes room (itemSchema schema) other) →
      Refused room (itemSchema schema) item →
      Refused (room + 1) schema (.list (front ++ item :: back))
  | list {room : Nat} {schema : Value} {items : List Value} :
      (∀ item ∈ items, Passes room (itemSchema schema) item) → Offends schema (.list items) →
      Refused (room + 1) schema (.list items)

section Order
variable {members : Dict} {sorted : List (PyStr × PyStr × Value)}

theorem Precedes.irrefl {key : PyStr} : ¬ Precedes key key :=
  fun precedes => precedes.2.elim precedes.1 (lt_irrefl _)

theorem Precedes.asymm {a b : PyStr} (precedes : Precedes a b) : ¬ Precedes b a := by
  intro reverse
  rcases precedes.2 with first | below
  · exact reverse.1 first
  rcases reverse.2 with first | above
  · exact precedes.1 first
  · exact lt_asymm below above

/-- The members are read in this order. -/
theorem keyOrder_pairwise (unique : (members.map (·.1)).Nodup)
    (ordered : keyOrder members = .ok sorted) :
    sorted.Pairwise fun a b => Precedes a.1 b.1 := by
  have perm := orderedKeys_perm_input ordered
  have texts := orderedKeys_text ordered
  have distinct : sorted.Pairwise fun a b => a.1 ≠ b.1 := by
    have keys := perm.map (·.1)
    rw [List.map_map] at keys
    exact List.pairwise_map.mp ((keys.nodup_iff).mpr unique)
  unfold keyOrder orderedKeys at ordered
  dsimp only at ordered
  split_ifs at ordered
  cases ordered
  obtain ⟨first, rest, -⟩ := List.pairwise_append.mp distinct
  refine List.pairwise_append.mpr ⟨?_, ?_, ?_⟩
  · refine first.imp_of_mem fun {a b} one other apart => absurd ?_ apart
    have named := of_decide_eq_true (List.mem_filter.mp one).2
    have named' := of_decide_eq_true (List.mem_filter.mp other).2
    exact named.trans named'.symm
  · have ascending := List.pairwise_insertionSort KeyBytesLe
      ((members.map fun member => (member.1, member)).filter
        fun member => member.1 ≠ schemaVersion)
    refine (ascending.and rest).imp_of_mem fun {a b} one other both => ?_
    have named := (List.mem_filter.mp ((List.mem_insertionSort _).mp other)).2
    refine ⟨of_decide_eq_true named, .inr (lt_of_le_of_ne both.1 fun same => both.2 ?_)⟩
    exact keyBytes_injective (texts a (List.mem_append_right _ one))
      (texts b (List.mem_append_right _ other)) same
  · intro a one b other
    have named := of_decide_eq_true (List.mem_filter.mp one).2
    have named' := (List.mem_filter.mp ((List.mem_insertionSort _).mp other)).2
    exact ⟨of_decide_eq_true named', .inl named⟩

/-- What is read before a member is what precedes it. -/
theorem mem_front_iff {front back : List (PyStr × PyStr × Value)} {place other : PyStr × PyStr × Value}
    (order : (front ++ place :: back).Pairwise fun a b => Precedes a.1 b.1)
    (among : other ∈ front ++ place :: back) : other ∈ front ↔ Precedes other.1 place.1 := by
  obtain ⟨-, last, across⟩ := List.pairwise_append.mp order
  constructor
  · exact fun first => across other first place List.mem_cons_self
  · intro precedes
    rcases List.mem_append.mp among with first | later
    · exact first
    rcases List.mem_cons.mp later with rfl | later
    · exact absurd precedes Precedes.irrefl
    · exact absurd precedes ((List.pairwise_cons.mp last).1 other later).asymm

end Order

section Refused
variable {room : Nat} {schema value : Value} {members : Dict} {items : List Value}

/-- A value is normalised on a limited stack exactly where it is read to its end. -/
theorem normalizeWithin_accepts (wellFormed : WellFormed schema)
    (distinct : value.every hasUniqueKeys = true) :
    (∃ normal, normalizeWithin room value schema = .ok normal) ↔ Passes room schema value := by
  rw [Passes, ← normalize_accepts wellFormed distinct]
  have agrees := normalizeWithin_agrees room value schema
  constructor
  · rintro ⟨normal, accepted⟩
    refine ⟨nesting_le_of_ok accepted, normal, ?_⟩
    rcases agrees with exhausted | same
    · rw [accepted] at exhausted
      cases exhausted
    · rw [accepted] at same
      exact mapError_ok.mp same.symm
  · rintro ⟨fits, normal, accepted⟩
    rcases agrees with exhausted | same
    · exact absurd exhausted (normalizeWithin_fits fits)
    · exact ⟨normal, by rw [same, accepted]; rfl⟩

/-- With room enough the failures are those of a stack without limit. -/
theorem fails_of_fits (wellFormed : WellFormed schema)
    (distinct : value.every hasUniqueKeys = true) (fits : nesting value ≤ room) :
    (∃ failure, normalizeWithin room value schema = .error (.failure failure)) ↔
      Offence schema value := by
  have accepts : (∃ normal, normalizeWithin room value schema = .ok normal) ↔
      Passes room schema value := normalizeWithin_accepts wellFormed distinct
  rw [Passes, and_iff_right fits] at accepts
  rw [← not_iff_not, ← accepts]
  cases outcome : normalizeWithin room value schema with
  | ok normal => simp
  | error raised =>
      cases raised with
      | recursion => exact absurd outcome (normalizeWithin_fits fits)
      | failure failure => simp

theorem memberWithin_ok {inner : Value} {member : PyStr × Value}
    (property : propertySchema schema member.1 = .ok inner) :
    memberWithin room schema member = normalizeWithin room member.2 inner := by
  rw [memberWithin, property]
  rfl

theorem memberWithin_accepts {member : PyStr × Value} (wellFormed : WellFormed schema)
    (distinct : member.2.every hasUniqueKeys = true) :
    (∃ normal, memberWithin room schema member = .ok normal) ↔
      ∀ inner, propertySchema schema member.1 = .ok inner → Passes room inner member.2 := by
  obtain ⟨inner, property, formed⟩ := wellFormed.property member.1
  rw [memberWithin_ok property, normalizeWithin_accepts formed distinct, property]
  simp

theorem map_error {α β ε : Type} {result : Except ε α} {f : α → β} {failure : ε} :
    result.map f = .error failure ↔ result = .error failure := by
  cases result <;> simp [Except.map]

/-- A list fails with its first member that does, or by itself once all of them pass. -/
theorem list_refused (wellFormed : WellFormed schema)
    (distinct : (Value.list items).every hasUniqueKeys = true)
    (inner : ∀ item ∈ items, (∃ failure, normalizeWithin room item (itemSchema schema) =
      .error (.failure failure)) ↔ Refused room (itemSchema schema) item) :
    (∃ failure, normalizeWithin (room + 1) (.list items) schema = .error (.failure failure)) ↔
      Refused (room + 1) schema (.list items) := by
  have unique := (every_list.mp distinct).2
  have passes : ∀ item ∈ items, (∃ normal, normalizeWithin room item (itemSchema schema) =
      .ok normal) ↔ Passes room (itemSchema schema) item :=
    fun item among => normalizeWithin_accepts wellFormed.item (unique item among)
  constructor
  · rintro ⟨failure, rejected⟩
    rw [normalizeWithin_list] at rejected
    rcases bind_failed rejected with inside | ⟨values, collected, -⟩
    · obtain ⟨front, item, back, rfl, before, fails⟩ := first_of_collect inside
      have among : item ∈ front ++ item :: back := by simp
      refine .item (fun other first => ?_)
        ((inner item among).mp ⟨failure, fails⟩)
      exact (passes other (List.mem_append_left _ first)).mp (before other first)
    · have each : ∀ item ∈ items, Passes room (itemSchema schema) item :=
        fun item among => (passes item among).mp
          (each_of_results (collect_eq_ok.mp collected) item among)
      have fits : nesting (.list items) ≤ room + 1 :=
        Nat.succ_le_succ (nestingItems_le.mpr fun item among => (each item among).1)
      rw [← normalizeWithin_list] at rejected
      rcases offence_list.mp ((fails_of_fits wellFormed distinct fits).mp ⟨_, rejected⟩)
        with ⟨item, among, offence⟩ | offends
      · exact absurd offence (each item among).2
      · exact .list each offends
  · intro refused
    cases refused with
    | @item _ _ item front back before refused =>
        have among : item ∈ front ++ item :: back := by simp
        obtain ⟨failure, fails⟩ := (inner item among).mpr refused
        refine ⟨failure, ?_⟩
        rw [normalizeWithin_list, collect_first (fun other first =>
          (passes other (List.mem_append_left _ first)).mpr (before other first)) fails]
        rfl
    | list each offends =>
        refine (fails_of_fits wellFormed distinct ?_).mpr (.here offends)
        exact Nat.succ_le_succ (nestingItems_le.mpr fun item among => (each item among).1)

/-- A dict fails by its keys, or with the first member that does in their order. -/
theorem dict_refused (wellFormed : WellFormed schema)
    (distinct : (Value.dict members).every hasUniqueKeys = true)
    (inners : ∀ member ∈ members, ∀ inner, propertySchema schema member.1 = .ok inner →
      ((∃ failure, normalizeWithin room member.2 inner = .error (.failure failure)) ↔
        Refused room inner member.2)) :
    (∃ failure, normalizeWithin (room + 1) (.dict members) schema = .error (.failure failure)) ↔
      Refused (room + 1) schema (.dict members) := by
  obtain ⟨nodup, unique⟩ := every_dict.mp distinct
  rw [normalizeWithin_dict]
  cases ordered : keyOrder members with
  | error failure =>
      refine iff_of_true ⟨failure, rfl⟩ (.keys ?_)
      by_contra sound
      obtain ⟨sorted, accepted⟩ := keyOrder_accepts.mpr sound
      rw [ordered] at accepted
      cases accepted
  | ok sorted =>
      have order := keyOrder_pairwise (of_decide_eq_true nodup) ordered
      have keys : ∀ place ∈ sorted, place.2 ∈ members ∧ place.1 = place.2.1 := by
        intro place among
        obtain ⟨member, origin, rfl⟩ := List.mem_map.mp
          ((orderedKeys_perm_input ordered).mem_iff.mp among)
        exact ⟨origin, rfl⟩
      change (∃ failure, (collect _ >>= _) = _) ↔ _
      constructor
      · rintro ⟨failure, rejected⟩
        rcases bind_failed rejected with inside | ⟨values, -, rejected⟩
        · obtain ⟨front, place, back, rfl, before, fails⟩ := first_of_collect inside
          obtain ⟨among, key⟩ := keys place (by simp)
          obtain ⟨inner, property, -⟩ := wellFormed.property place.2.1
          rw [map_error, memberWithin_ok property] at fails
          refine .member among property (fun other member precedes => ?_)
            ((inners place.2 among inner property).mp ⟨failure, fails⟩)
          obtain ⟨place', listed, rfl⟩ := (mem_keyOrder ordered).mp member
          rw [← (keys place' listed).2, ← key] at precedes
          exact (memberWithin_accepts wellFormed (unique place'.2 member)).mp
            (map_accepts.mp (before place' ((mem_front_iff order listed).mpr precedes)))
        · cases rejected
      · intro refused
        cases refused with
        | keys offends => exact absurd offends (keyOrder_accepts.mp ⟨sorted, ordered⟩)
        | @member _ _ inner _ member among property before refused =>
            obtain ⟨place, listed, rfl⟩ := (mem_keyOrder ordered).mp among
            obtain ⟨failure, fails⟩ := (inners place.2 among inner property).mpr refused
            obtain ⟨front, back, rfl⟩ := List.append_of_mem listed
            refine ⟨failure, ?_⟩
            rw [collect_first]
            · rfl
            · intro place' first
              have listed' := List.mem_append_left (place :: back) first
              have precedes := (mem_front_iff order listed').mp first
              rw [(keys place' listed').2, (keys place listed).2] at precedes
              have member := (keys place' listed').1
              exact map_accepts.mpr ((memberWithin_accepts wellFormed
                (unique place'.2 member)).mpr (before place'.2 member precedes))
            · rw [map_error, memberWithin_ok property, fails]

/-- The stack is limited: an offence is reported exactly where it is met in time. -/
theorem refused_iff (wellFormed : WellFormed schema) (distinct : value.every hasUniqueKeys = true) :
    (∃ failure, normalizeWithin room value schema = .error (.failure failure)) ↔
      Refused room schema value := by
  induction value using nested_induction generalizing room schema with
  | null | bool | int | str =>
      refine iff_of_false ?_ (fun refused => by cases refused)
      rintro ⟨failure, rejected⟩
      cases rejected
  | float repr => exact iff_of_true ⟨_, rfl⟩ .float
  | list items ih =>
      cases room with
      | zero =>
          refine iff_of_false ?_ (fun refused => by cases refused)
          rintro ⟨failure, rejected⟩
          cases rejected
      | succ room =>
          exact list_refused wellFormed distinct fun item among =>
            ih item among wellFormed.item ((every_list.mp distinct).2 item among)
  | dict members ih =>
      cases room with
      | zero =>
          refine iff_of_false ?_ (fun refused => by cases refused)
          rintro ⟨failure, rejected⟩
          cases rejected
      | succ room =>
          exact dict_refused wellFormed distinct fun member among inner property =>
            ih member among (wellFormed.of_property property)
              ((every_dict.mp distinct).2 member among)

end Refused
end CsdFoundry.Governance

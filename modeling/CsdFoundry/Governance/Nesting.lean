import CsdFoundry.Governance.NormalForm

/-! The normaliser on a stack of limited depth. Every list and dict that is entered takes a frame; a
value that is nested deeper raises `RecursionError`, unless it is rejected before. -/
namespace CsdFoundry.Governance
open Admission Admission.Value Encoding Results

mutual
/-- The lists and dicts around the innermost value. -/
def nesting : Value → Nat
  | .list items => nestingItems items + 1
  | .dict members => nestingMembers members + 1
  | _ => 0

def nestingItems : List Value → Nat
  | [] => 0
  | item :: items => max (nesting item) (nestingItems items)

def nestingMembers : Dict → Nat
  | [] => 0
  | (_, value) :: members => max (nesting value) (nestingMembers members)
end

theorem nestingItems_le {items : List Value} {room : Nat} :
    nestingItems items ≤ room ↔ ∀ item ∈ items, nesting item ≤ room := by
  induction items with
  | nil => simp [nestingItems]
  | cons item items ih => rw [nestingItems, max_le_iff, ih, List.forall_mem_cons]

theorem nestingMembers_le {members : Dict} {room : Nat} :
    nestingMembers members ≤ room ↔ ∀ member ∈ members, nesting member.2 ≤ room := by
  induction members with
  | nil => simp [nestingMembers]
  | cons member members ih => rw [nestingMembers, max_le_iff, ih, List.forall_mem_cons]

/-- What is raised besides: the stack is exhausted. -/
inductive Raised where
  | failure (failure : Failure)
  | recursion
  deriving DecidableEq

mutual
/-- `_normalize` with room for so many more frames. -/
def normalizeWithin : Nat → Value → Value → Except Raised Value
  | _, .float _, _ => .error (.failure (.contract "FLOAT_PROHIBITED"))
  | 0, .dict _, _ | 0, .list _, _ => .error .recursion
  | room + 1, .dict members, schema => do
      let ordered ← (orderedKeys (membersWithin room members schema)).mapError Raised.failure
      let members ← collect (ordered.map fun member => member.2.map fun value => (member.1, value))
      .ok (.dict members)
  | room + 1, .list items, schema => do
      let items ← collect (itemsWithin room items (itemSchema schema))
      let kind ← (collectionKind schema).mapError Raised.failure
      let items ← (arrange kind items).mapError Raised.failure
      .ok (.list items)
  | _, value, _ => .ok value

def itemsWithin : Nat → List Value → Value → List (Except Raised Value)
  | _, [], _ => []
  | room, item :: items, schema => normalizeWithin room item schema :: itemsWithin room items schema

def membersWithin : Nat → Dict → Value → List (PyStr × Except Raised Value)
  | _, [], _ => []
  | room, (key, value) :: members, schema =>
      (key, ((propertySchema schema key).mapError Raised.failure).bind (normalizeWithin room value)) ::
        membersWithin room members schema
end

theorem itemsWithin_eq (room : Nat) (items : List Value) (schema : Value) :
    itemsWithin room items schema = items.map fun item => normalizeWithin room item schema := by
  induction items with
  | nil => rfl
  | cons item items ih => rw [itemsWithin, ih, List.map_cons]

/-- The result for a member. -/
def memberWithin (room : Nat) (schema : Value) (member : PyStr × Value) : Except Raised Value :=
  ((propertySchema schema member.1).mapError Raised.failure).bind (normalizeWithin room member.2)

theorem membersWithin_eq (room : Nat) (members : Dict) (schema : Value) :
    membersWithin room members schema =
      members.map fun member => (member.1, memberWithin room schema member) := by
  induction members with
  | nil => rfl
  | cons member members ih =>
      rw [membersWithin, ih, List.map_cons]
      rfl

/-! ### The same outcome, or none -/

/-- The stack is exhausted, or it makes no difference. -/
def Agrees {α : Type} (limited : Except Raised α) (unlimited : Except Failure α) : Prop :=
  limited = .error .recursion ∨ limited = unlimited.mapError .failure

section Agrees
variable {α β : Type}

theorem Agrees.bind {limited : Except Raised α} {unlimited : Except Failure α}
    {next : α → Except Raised β} {next' : α → Except Failure β} (agrees : Agrees limited unlimited)
    (following : ∀ a, Agrees (next a) (next' a)) : Agrees (limited >>= next) (unlimited >>= next') := by
  rcases agrees with rfl | rfl
  · exact .inl rfl
  · cases unlimited with
    | error failure => exact .inr rfl
    | ok a => exact following a

theorem Agrees.mapped (result : Except Failure α) : Agrees (result.mapError .failure) result := .inr rfl

theorem Agrees.map {limited : Except Raised α} {unlimited : Except Failure α} (f : α → β)
    (agrees : Agrees limited unlimited) : Agrees (limited.map f) (unlimited.map f) := by
  rcases agrees with rfl | rfl
  · exact .inl rfl
  · cases unlimited <;> exact .inr rfl

/-- The first result that differs exhausts the stack. -/
theorem Agrees.collect {inputs : List α} {f : α → Except Raised β} {g : α → Except Failure β}
    (agrees : ∀ input ∈ inputs, Agrees (f input) (g input)) :
    Agrees (collect (inputs.map f)) (collect (inputs.map g)) := by
  induction inputs with
  | nil => exact .inr rfl
  | cons input inputs ih =>
      obtain ⟨first, rest⟩ := List.forall_mem_cons.mp agrees
      apply first.bind
      intro value
      apply (ih rest).bind
      exact fun values => .inr rfl

/-- The order of the keys has nothing to do with what they stand for. -/
theorem orderedKeys_map (f : α → β) (members : List (PyStr × α)) :
    orderedKeys (members.map fun member => (member.1, f member.2)) =
      (orderedKeys members).map (List.map fun member => (member.1, f member.2)) := by
  have sorted (members : List (PyStr × α)) :
      (members.insertionSort KeyBytesLe).map (fun member => (member.1, f member.2)) =
        (members.map fun member => (member.1, f member.2)).insertionSort KeyBytesLe :=
    List.map_insertionSort _ _ _ _ fun _ _ _ _ => Iff.rfl
  simp only [orderedKeys, List.filter_map, List.all_map]
  simp only [Function.comp_def]
  split_ifs with texts
  · rw [← sorted]
    simp [Except.map]
  · rfl

theorem orderedKeys_entries {members : Dict} (f : PyStr × Value → α) :
    orderedKeys (members.map fun member => (member.1, f member)) =
      (orderedKeys (members.map fun member => (member.1, member))).map
        (List.map fun member => (member.1, f member.2)) := by
  rw [← orderedKeys_map, List.map_map]
  rfl

end Agrees

section Within
variable {room : Nat} {schema value normal : Value} {members : Dict} {items : List Value}

/-- The members beside their keys, in the order of the keys. -/
def keyOrder (members : Dict) : Except Failure (List (PyStr × PyStr × Value)) :=
  orderedKeys (members.map fun member => (member.1, member))

theorem mem_keyOrder {sorted : List (PyStr × PyStr × Value)} (ordered : keyOrder members = .ok sorted)
    {member : PyStr × Value} : member ∈ members ↔ ∃ entry ∈ sorted, entry.2 = member := by
  have perm := orderedKeys_perm_input ordered
  constructor
  · intro among
    exact ⟨_, perm.mem_iff.mpr (List.mem_map_of_mem among), rfl⟩
  · rintro ⟨entry, among, rfl⟩
    obtain ⟨source, origin, rfl⟩ := List.mem_map.mp (perm.mem_iff.mp among)
    exact origin

theorem normalizeWithin_dict : normalizeWithin (room + 1) (.dict members) schema = (do
    let sorted ← (keyOrder members).mapError Raised.failure
    let members ← collect (sorted.map fun entry =>
      (memberWithin room schema entry.2).map fun value => (entry.1, value))
    .ok (.dict members)) := by
  rw [normalizeWithin, membersWithin_eq, orderedKeys_entries]
  change (Except.mapError _ (Except.map _ (keyOrder members)) >>= _) = _
  cases keyOrder members with
  | error failure => rfl
  | ok sorted =>
      change (collect (List.map _ (List.map _ sorted)) >>= _) = _
      rw [List.map_map]
      rfl

theorem normalize_keyOrder : normalize (.dict members) schema = (do
    let sorted ← keyOrder members
    let members ← collect (sorted.map fun entry =>
      (Governance.entry schema entry.2).2.map fun value => (entry.1, value))
    .ok (.dict members)) := by
  have entries : members.map (entry schema) =
      members.map fun member => (member.1, (entry schema member).2) := rfl
  rw [normalize, normalizeMembers_eq, entries, orderedKeys_entries]
  change (Except.map _ (keyOrder members) >>= _) = _
  cases keyOrder members with
  | error failure => rfl
  | ok sorted =>
      change (collect (List.map _ (List.map _ sorted)) >>= _) = _
      rw [List.map_map]
      rfl

theorem normalizeWithin_list : normalizeWithin (room + 1) (.list items) schema = (do
    let items ← collect (items.map fun item => normalizeWithin room item (itemSchema schema))
    let kind ← (collectionKind schema).mapError Raised.failure
    let items ← (arrange kind items).mapError Raised.failure
    .ok (.list items)) := by
  rw [normalizeWithin, itemsWithin_eq]

/-- A limited stack does not change the outcome, but for its exhaustion. -/
theorem normalizeWithin_agrees (room : Nat) (value schema : Value) :
    Agrees (normalizeWithin room value schema) (normalize value schema) := by
  induction value using nested_induction generalizing room schema with
  | null | bool | int | str | float => exact .inr rfl
  | list items ih =>
      cases room with
      | zero => exact .inl rfl
      | succ room =>
          rw [normalizeWithin_list, normalize, normalizeItems_eq]
          apply Agrees.bind (.collect fun item member => ih item member room (itemSchema schema))
          intro normals
          apply Agrees.bind (.mapped _)
          intro kind
          apply Agrees.bind (.mapped _)
          exact fun arranged => .inr rfl
  | dict members ih =>
      cases room with
      | zero => exact .inl rfl
      | succ room =>
          rw [normalizeWithin_dict, normalize_keyOrder]
          cases ordered : keyOrder members with
          | error failure => exact .inr rfl
          | ok sorted =>
              have each : ∀ entry ∈ sorted, Agrees
                  ((memberWithin room schema entry.2).map fun value => (entry.1, value))
                  ((Governance.entry schema entry.2).2.map fun value => (entry.1, value)) := by
                intro entry among
                have member := (mem_keyOrder ordered).mpr ⟨entry, among, rfl⟩
                apply Agrees.map
                apply Agrees.bind (.mapped _)
                exact fun inner => ih entry.2 member room inner
              apply Agrees.bind (.collect each)
              exact fun members => .inr rfl

theorem collect_error {α ε : Type} {results : List (Except ε α)} {failure : ε}
    (failed : collect results = .error failure) : .error failure ∈ results := by
  induction results with
  | nil => cases failed
  | cons result results ih =>
      cases result with
      | error first =>
          cases failed
          exact List.mem_cons_self
      | ok value =>
          cases rest : collect results with
          | error later =>
              rw [collect, rest] at failed
              cases failed
              exact List.mem_cons_of_mem _ (ih rest)
          | ok values =>
              rw [collect, rest] at failed
              cases failed

theorem mapped_ne_recursion {α : Type} {result : Except Failure α} :
    result.mapError Raised.failure ≠ .error .recursion := by
  cases result <;> exact fun exhausted => by cases exhausted

/-- What is nested within the room for it is normalised as ever. -/
theorem normalizeWithin_fits (fits : nesting value ≤ room) :
    normalizeWithin room value schema ≠ .error .recursion := by
  induction value using nested_induction generalizing room schema with
  | null | bool | int | str | float => exact fun exhausted => by cases exhausted
  | list items ih =>
      cases room with
      | zero => exact absurd fits (Nat.not_succ_le_zero _)
      | succ room =>
          rw [normalizeWithin_list]
          have inner := nestingItems_le.mp (Nat.le_of_succ_le_succ fits)
          intro exhausted
          rcases bind_failed exhausted with inside | ⟨normals, -, exhausted⟩
          · obtain ⟨item, member, deeper⟩ := List.mem_map.mp (collect_error inside)
            exact ih item member (inner item member) deeper
          rcases bind_failed exhausted with kinds | ⟨kind, -, exhausted⟩
          · exact mapped_ne_recursion kinds
          rcases bind_failed exhausted with arranging | ⟨arranged, -, exhausted⟩
          · exact mapped_ne_recursion arranging
          · cases exhausted
  | dict members ih =>
      cases room with
      | zero => exact absurd fits (Nat.not_succ_le_zero _)
      | succ room =>
          rw [normalizeWithin_dict]
          have inner := nestingMembers_le.mp (Nat.le_of_succ_le_succ fits)
          intro exhausted
          rcases bind_failed exhausted with keys | ⟨sorted, ordered, exhausted⟩
          · exact mapped_ne_recursion keys
          rcases bind_failed exhausted with inside | ⟨values, -, exhausted⟩
          · obtain ⟨entry, listed, deeper⟩ := List.mem_map.mp (collect_error inside)
            have member := (mem_keyOrder (mapError_ok.mp ordered)).mpr ⟨entry, listed, rfl⟩
            have below : memberWithin room schema entry.2 ≠ .error .recursion := by
              intro exhausted
              rcases bind_failed exhausted with property | ⟨within, -, exhausted⟩
              · exact mapped_ne_recursion property
              · exact ih entry.2 member (inner entry.2 member) exhausted
            cases result : memberWithin room schema entry.2 with
            | error raised =>
                rw [result] at deeper below
                cases deeper
                exact below rfl
            | ok value =>
                rw [result] at deeper
                cases deeper
          · cases exhausted

/-- What is normalised is nested within the room for it. -/
theorem nesting_le_of_ok (accepted : normalizeWithin room value schema = .ok normal) :
    nesting value ≤ room := by
  induction value using nested_induction generalizing room schema normal with
  | null | bool | int | str => exact Nat.zero_le _
  | float => cases room <;> cases accepted
  | list items ih =>
      cases room with
      | zero => cases accepted
      | succ room =>
          rw [normalizeWithin_list] at accepted
          obtain ⟨normals, collected, -⟩ := bind_ok.mp accepted
          apply Nat.succ_le_succ
          apply nestingItems_le.mpr
          intro item member
          have entered := List.mem_map_of_mem (f := fun item =>
            normalizeWithin room item (itemSchema schema)) member
          rw [collect_eq_ok.mp collected] at entered
          obtain ⟨value, -, same⟩ := List.mem_map.mp entered
          exact ih item member same.symm
  | dict members ih =>
      cases room with
      | zero => cases accepted
      | succ room =>
          rw [normalizeWithin_dict] at accepted
          obtain ⟨sorted, ordered, accepted⟩ := bind_ok.mp accepted
          obtain ⟨values, collected, -⟩ := bind_ok.mp accepted
          apply Nat.succ_le_succ
          apply nestingMembers_le.mpr
          intro member among
          obtain ⟨entry, listed, rfl⟩ := (mem_keyOrder (mapError_ok.mp ordered)).mp among
          have entered := List.mem_map_of_mem (f := fun entry : PyStr × PyStr × Value =>
            (memberWithin room schema entry.2).map fun value => (entry.1, value)) listed
          rw [collect_eq_ok.mp collected] at entered
          obtain ⟨value, -, same⟩ := List.mem_map.mp entered
          cases result : memberWithin room schema entry.2 with
          | error raised =>
              rw [result] at same
              cases same
          | ok normal =>
              obtain ⟨within, -, normalized⟩ := bind_ok.mp result
              exact ih entry.2 among normalized

end Within
end CsdFoundry.Governance

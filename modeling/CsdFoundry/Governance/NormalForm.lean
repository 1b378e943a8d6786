import CsdFoundry.Governance.Canonicalization
import CsdFoundry.Admission.Normal
import CsdFoundry.StableSort

/-! The normal form of an accepted value differs from it by the declared permutations only, and
values that differ so have one normal form. -/
namespace CsdFoundry.Governance
open Admission Admission.Value Encoding Results

theorem normalizeItems_eq (items : List Value) (schema : Value) :
    normalizeItems items schema = items.map fun item => normalize item schema := by
  induction items with
  | nil => rfl
  | cons item items ih => rw [normalizeItems, ih, List.map_cons]

/-- The result for a member, which its key decides the schema of. -/
def entry (schema : Value) (member : PyStr × Value) : PyStr × Except Failure Value :=
  (member.1, (propertySchema schema member.1).bind (normalize member.2))

def settled (member : PyStr × Value) : PyStr × Except Failure Value := (member.1, .ok member.2)

theorem normalizeMembers_eq (members : Dict) (schema : Value) :
    normalizeMembers members schema = members.map (entry schema) := by
  induction members with
  | nil => rfl
  | cons member members ih =>
      rw [normalizeMembers, ih, List.map_cons]
      rfl

section Keys
variable {α β : Type}

instance : IsTrans (PyStr × α) KeyBytesLe := ⟨fun _ _ _ first second => le_trans first second⟩

instance : Std.Total (α := PyStr × α) KeyBytesLe := ⟨fun a b => le_total (keyBytes a.1) (keyBytes b.1)⟩

theorem keyBytes_injective {a b : PyStr} (text : isText a = true) (text' : isText b = true)
    (same : keyBytes a = keyBytes b) : a = b := by
  cases a <;> cases b
  case text.lone | lone.lone => cases text'
  case lone.text => cases text
  exact congrArg PyStr.text (String.toList_inj.mp (utf8_injective same))

theorem orderedKeys_perm_input {members ordered : List (PyStr × α)}
    (accepted : orderedKeys members = .ok ordered) : ordered.Perm members := by
  unfold orderedKeys at accepted
  dsimp only at accepted
  split_ifs at accepted
  cases accepted
  have sorted := List.perm_insertionSort KeyBytesLe
    (members.filter fun member => member.1 ≠ schemaVersion)
  have split := List.filter_append_perm (fun member => decide (member.1 = schemaVersion)) members
  simp only [decide_not] at sorted ⊢
  exact (sorted.append_left _).trans split

/-- The order of the keys forgets the order of the members. -/
theorem orderedKeys_perm {members members' : List (PyStr × α)} (same : members.Perm members')
    (unique : (members.map (·.1)).Nodup) : orderedKeys members = orderedKeys members' := by
  have apart : ∀ a ∈ members, ∀ b ∈ members, a.1 = b.1 → a = b :=
    fun a ha b hb => List.inj_on_of_nodup_map unique ha hb
  have first : (members.filter fun member => member.1 = schemaVersion) =
      members'.filter fun member => member.1 = schemaVersion := by
    have always : ∀ (members : List (PyStr × α)), members.Pairwise fun _ _ => True :=
      fun _ => List.pairwise_of_forall fun _ _ => trivial
    apply List.Perm.eq_of_pairwise _ (always _) (always _) (same.filter _)
    intro a b ha hb _ _
    obtain ⟨ha, key⟩ := List.mem_filter.mp ha
    obtain ⟨hb, key'⟩ := List.mem_filter.mp hb
    exact apart a ha b (same.mem_iff.mpr hb)
      ((of_decide_eq_true key).trans (of_decide_eq_true key').symm)
  have keys := same.filter fun member => decide (member.1 ≠ schemaVersion)
  unfold orderedKeys
  dsimp only
  rw [← first, ← keys.all_eq]
  split_ifs with texts
  · rw [List.all_eq_true] at texts
    rw [StableSort.insertionSort_perm keys]
    intro a ha b hb below above
    apply apart a (List.mem_of_mem_filter ha) b (List.mem_of_mem_filter hb)
    exact keyBytes_injective (texts a ha) (texts b hb) (le_antisymm below above)
  · rfl

end Keys

theorem collect_members {entries : List (PyStr × Except Failure Value)} {members : Dict} :
    collect (entries.map fun member => member.2.map fun value => (member.1, value)) = .ok members ↔
      entries = members.map settled := by
  induction entries generalizing members with
  | nil => simp [collect, eq_comm]
  | cons first entries ih =>
      obtain ⟨key, result⟩ := first
      rw [List.map_cons, collect_cons, eq_comm (b := members.map settled), List.map_eq_cons_iff]
      constructor
      · rintro ⟨member, rest, equal, others, rfl⟩
        cases result with
        | error failure => cases equal
        | ok value =>
            cases equal
            exact ⟨_, rest, rfl, rfl, (ih.mp others).symm⟩
      · rintro ⟨member, rest, rfl, equal, others⟩
        cases equal
        exact ⟨member, rest, rfl, ih.mpr others.symm, rfl⟩

theorem normalize_dict {members : Dict} {schema normal : Value} :
    normalize (.dict members) schema = .ok normal ↔ ∃ members' : Dict,
      orderedKeys (members.map (entry schema)) = .ok (members'.map settled) ∧
        normal = .dict members' := by
  rw [normalize, normalizeMembers_eq]
  constructor
  · intro accepted
    obtain ⟨entries, ordered, accepted⟩ := bind_ok.mp accepted
    obtain ⟨members', collected, accepted⟩ := bind_ok.mp accepted
    cases accepted
    refine ⟨members', ?_, rfl⟩
    rw [ordered, collect_members.mp collected]
  · rintro ⟨members', ordered, rfl⟩
    apply bind_ok.mpr ⟨_, ordered, ?_⟩
    rw [collect_members.mpr rfl]
    rfl

theorem normalize_list {items : List Value} {schema normal : Value} :
    normalize (.list items) schema = .ok normal ↔ ∃ items' kind arranged,
      items.map (fun item => normalize item (itemSchema schema)) = items'.map .ok ∧
        collectionKind schema = .ok kind ∧ arrange kind items' = .ok arranged ∧
        normal = .list arranged := by
  rw [normalize, normalizeItems_eq]
  constructor
  · intro accepted
    obtain ⟨items', collected, accepted⟩ := bind_ok.mp accepted
    obtain ⟨kind, declared, accepted⟩ := bind_ok.mp accepted
    obtain ⟨arranged, sorted, accepted⟩ := bind_ok.mp accepted
    cases accepted
    exact ⟨items', kind, arranged, collect_eq_ok.mp collected, declared, sorted, rfl⟩
  · rintro ⟨items', kind, arranged, results, declared, sorted, rfl⟩
    rw [collect_eq_ok.mpr results, declared]
    simp only [bind, Except.bind, sorted]

theorem entry_eq_settled {schema : Value} {member member' : PyStr × Value} :
    entry schema member = settled member' ↔ member'.1 = member.1 ∧ ∃ inner,
      propertySchema schema member.1 = .ok inner ∧ normalize member.2 inner = .ok member'.2 := by
  simp only [entry, settled, Prod.mk.injEq, eq_comm (a := member.1)]
  cases propertySchema schema member.1 <;> simp [Except.bind]

/-- The entries of the normal form are those of the members, in another order. -/
theorem settled_perm {members members' : Dict} {schema : Value}
    (ordered : orderedKeys (members.map (entry schema)) = .ok (members'.map settled)) :
    (members'.map settled).Perm (members.map (entry schema)) := orderedKeys_perm_input ordered

theorem keys_perm {members members' : Dict} {schema : Value}
    (ordered : orderedKeys (members.map (entry schema)) = .ok (members'.map settled)) :
    (members'.map (·.1)).Perm (members.map (·.1)) := by
  have keys := (settled_perm ordered).map (·.1)
  simp only [List.map_map] at keys
  exact keys

section Arrangement
variable {kind : CollectionKind} {items items' arranged : List Value}

instance : IsTrans (List UInt8 × Value) BytesLe := ⟨fun _ _ _ first second => le_trans first second⟩

instance : Std.Total (α := List UInt8 × Value) BytesLe := ⟨fun a b => le_total a.1 b.1⟩

theorem keyed_eq_ok {item : Value} {pair : List UInt8 × Value} :
    keyed item = .ok pair ↔ ∃ text, item.dumps = some text ∧ pair = (utf8 text, item) := by
  unfold keyed
  cases item.dumps <;> simp [eq_comm]

theorem keyed_items {pairs : List (List UInt8 × Value)} (results : items.map keyed = pairs.map .ok) :
    pairs.map (·.2) = items := by
  induction items generalizing pairs with
  | nil =>
      rw [List.map_nil, eq_comm, List.map_eq_nil_iff] at results
      rw [results, List.map_nil]
  | cons item items ih =>
      rw [List.map_cons, eq_comm, List.map_eq_cons_iff] at results
      obtain ⟨pair, rest, rfl, first, others⟩ := results
      obtain ⟨text, -, rfl⟩ := keyed_eq_ok.mp first.symm
      rw [List.map_cons, ih others.symm]

theorem arrange_eq_ok (unordered : kind ≠ .orderedSequence) :
    arrange kind items = .ok arranged ↔ ∃ pairs : List (List UInt8 × Value),
      items.map keyed = pairs.map .ok ∧
        (kind = .set → ((pairs.insertionSort BytesLe).map (·.1)).IsChain (· ≠ ·)) ∧
        arranged = (pairs.insertionSort BytesLe).map (·.2) := by
  have unfolded : arrange kind items = (collect (items.map keyed)).bind fun pairs =>
      if kind = .set ∧ ¬ ((pairs.insertionSort BytesLe).map (·.1)).IsChain (· ≠ ·) then
        .error (.contract "DUPLICATE_SET_MEMBER")
      else .ok ((pairs.insertionSort BytesLe).map (·.2)) := by
    cases kind with
    | orderedSequence => exact absurd rfl unordered
    | set => rfl
    | multiset => rfl
  rw [unfolded]
  constructor
  · intro accepted
    obtain ⟨pairs, collected, accepted⟩ := bind_ok.mp accepted
    split_ifs at accepted with duplicate
    cases accepted
    refine ⟨pairs, collect_eq_ok.mp collected, fun set => ?_, rfl⟩
    by_contra adjacent
    exact duplicate ⟨set, adjacent⟩
  · rintro ⟨pairs, results, distinct, rfl⟩
    apply bind_ok.mpr ⟨pairs, collect_eq_ok.mpr results, ?_⟩
    rw [if_neg]
    rintro ⟨set, adjacent⟩
    exact adjacent (distinct set)

theorem arrange_perm_input (accepted : arrange kind items = .ok arranged) : arranged.Perm items := by
  by_cases ordered : kind = .orderedSequence
  · subst ordered
    cases accepted
    exact .refl _
  · obtain ⟨pairs, results, -, rfl⟩ := (arrange_eq_ok ordered).mp accepted
    rw [← keyed_items results]
    exact (List.perm_insertionSort BytesLe pairs).map _

/-- Members of one encoding are one value, so the order they come in leaves no trace. -/
theorem arrange_perm (unordered : kind ≠ .orderedSequence) (same : items.Perm items')
    (readable : ∀ item ∈ items, item.every isReadable = true)
    (accepted : arrange kind items = .ok arranged) : arrange kind items' = .ok arranged := by
  obtain ⟨pairs, results, distinct, rfl⟩ := (arrange_eq_ok unordered).mp accepted
  obtain ⟨pairs', results', perm⟩ := image_perm (same.map keyed) results
  have sorted : pairs.insertionSort BytesLe = pairs'.insertionSort BytesLe := by
    apply StableSort.insertionSort_perm perm
    intro a ha b hb below above
    obtain ⟨item, member, key⟩ := mem_of_results results ha
    obtain ⟨item', member', key'⟩ := mem_of_results results hb
    obtain ⟨text, rendered, rfl⟩ := keyed_eq_ok.mp key
    obtain ⟨text', rendered', rfl⟩ := keyed_eq_ok.mp key'
    have texts : text = text' := utf8_injective (le_antisymm below above)
    subst texts
    rw [dumps_injective rendered rendered' (readable item member) (readable item' member')]
  rw [arrange_eq_ok unordered]
  refine ⟨pairs', results', ?_, ?_⟩
  · rwa [← sorted]
  · rw [sorted]

end Arrangement

end CsdFoundry.Governance

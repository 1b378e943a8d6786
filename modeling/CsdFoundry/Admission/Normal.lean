import CsdFoundry.Admission.Canonicalization
import CsdFoundry.Registry.Payload

/-! Canonical values: they are what their text parses to, and normalizing them again changes
nothing. -/
namespace CsdFoundry.Admission
namespace Value

theorem everyItem_eq (p : Value → Bool) (items : List Value) :
    everyItem p items = items.all (every p) := by
  induction items with
  | nil => rw [everyItem, List.all_nil]
  | cons item items ih => rw [everyItem, List.all_cons, ih]

theorem everyMember_eq (p : Value → Bool) (members : Dict) :
    everyMember p members = members.all (fun member => every p member.2) := by
  induction members with
  | nil => rw [everyMember, List.all_nil]
  | cons member members ih => rw [everyMember, List.all_cons, ih]

theorem every_list {p : Value → Bool} {items : List Value} : (Value.list items).every p = true ↔
    p (.list items) = true ∧ ∀ item ∈ items, item.every p = true := by
  rw [every, everyItem_eq, Bool.and_eq_true, List.all_eq_true]

theorem every_dict {p : Value → Bool} {members : Dict} : (Value.dict members).every p = true ↔
    p (.dict members) = true ∧ ∀ member ∈ members, member.2.every p = true := by
  rw [every, everyMember_eq, Bool.and_eq_true, List.all_eq_true]

/-- Two predicates that agree at every place of the value. -/
theorem every_congr {p q r : Value → Bool} (same : ∀ value, r value = true → p value = q value)
    {value : Value} (places : value.every r = true) : value.every p = value.every q := by
  induction value using nested_induction with
  | null | bool | int | float | str => exact same _ places
  | list items ih =>
      obtain ⟨here, inside⟩ := every_list.mp places
      rw [every, every, same _ here, everyItem_eq, everyItem_eq]
      congr 1
      rw [Bool.eq_iff_iff, List.all_eq_true, List.all_eq_true]
      exact forall₂_congr fun item member => by rw [ih item member (inside item member)]
  | dict members ih =>
      obtain ⟨here, inside⟩ := every_dict.mp places
      rw [every, every, same _ here, everyMember_eq, everyMember_eq]
      congr 1
      rw [Bool.eq_iff_iff, List.all_eq_true, List.all_eq_true]
      exact forall₂_congr fun member among => by rw [ih member among (inside member among)]

theorem sortMembers_eq (members : Dict) :
    sortMembers members = members.map (fun member => (member.1, sortKeys member.2)) := by
  induction members with
  | nil => rw [sortMembers, List.map_nil]
  | cons member members ih => rw [sortMembers, List.map_cons, ih]

mutual
theorem ofJson_of_encode : ∀ {value : Value} {json : Json}, encode value = some json →
    ofJson json = value
  | .null, _, coded => by cases coded; rfl
  | .bool _, _, coded => by cases coded; rfl
  | .int _, _, coded => by cases coded; rfl
  | .float _, _, coded => by cases coded
  | .str (.text _), _, coded => by cases coded; rfl
  | .str (.lone _), _, coded => by cases coded
  | .list items, _, coded => by
      rw [encode, Option.map_eq_some_iff] at coded
      obtain ⟨codes, each, rfl⟩ := coded
      rw [ofJson, ofItems_of_encode each]
  | .dict members, _, coded => by
      rw [encode, Option.map_eq_some_iff] at coded
      obtain ⟨codes, each, rfl⟩ := coded
      rw [ofJson, ofMembers_of_encode each]

theorem ofItems_of_encode : ∀ {items : List Value} {codes : List Json},
    encodeItems items = some codes → ofItems codes = items
  | [], _, coded => by
      rw [encodeItems] at coded
      cases coded
      rfl
  | item :: items, _, coded => by
      rw [encodeItems, Option.bind_eq_some_iff] at coded
      obtain ⟨first, one, more⟩ := coded
      obtain ⟨rest, each, rfl⟩ := Option.map_eq_some_iff.mp more
      rw [ofItems, ofJson_of_encode one, ofItems_of_encode each]

theorem ofMembers_of_encode : ∀ {members : Dict} {codes : JsonObject},
    encodeMembers members = some codes → ofMembers codes = members
  | [], _, coded => by
      rw [encodeMembers] at coded
      cases coded
      rfl
  | (.text key, value) :: members, _, coded => by
      rw [encodeMembers, Option.bind_eq_some_iff] at coded
      obtain ⟨first, one, more⟩ := coded
      obtain ⟨rest, each, rfl⟩ := Option.map_eq_some_iff.mp more
      rw [ofMembers, ofJson_of_encode one, ofMembers_of_encode each]
  | (.lone _, _) :: _, _, coded => by
      rw [encodeMembers] at coded
      cases coded
end

/-- UTF-8 encodes what stands at this place of the value. -/
def isEncodable : Value → Bool
  | .float _ => false
  | .str value => isText value
  | value => value.hasTextKeys

mutual
theorem isSome_encode : ∀ value : Value, (encode value).isSome = every isEncodable value
  | .null => rfl
  | .bool _ => rfl
  | .int _ => rfl
  | .float _ => rfl
  | .str (.text _) => rfl
  | .str (.lone _) => rfl
  | .list items => by
      rw [encode, every, Option.isSome_map, isSome_encodeItems items]
      rfl
  | .dict members => by
      rw [encode, every, Option.isSome_map, isSome_encodeMembers members]
      rfl

theorem isSome_encodeItems : ∀ items : List Value,
    (encodeItems items).isSome = everyItem isEncodable items
  | [] => rfl
  | item :: items => by
      have first := isSome_encode item
      have rest := isSome_encodeItems items
      rw [everyItem, ← first, ← rest, encodeItems]
      cases encode item <;> simp

theorem isSome_encodeMembers : ∀ members : Dict, (encodeMembers members).isSome =
    (hasTextKeys (.dict members) && everyMember isEncodable members)
  | [] => rfl
  | (.text key, value) :: members => by
      have first := isSome_encode value
      have rest := isSome_encodeMembers members
      rw [hasTextKeys] at rest ⊢
      rw [everyMember, ← first, List.all_cons, encodeMembers]
      cases encode value with
      | none => simp
      | some code => simp [rest, isText]
  | (.lone _, _) :: _ => by simp [encodeMembers, hasTextKeys, isText]
end

/-- Sorting the keys leaves what stands at each place, up to the order of the members. -/
def Unordered (p : Value → Bool) : Prop := ∀ value, p value.sortKeys = p value

theorem perm_sorted (members : Dict) :
    ((sortMembers members).insertionSort MemberLe).Perm (sortMembers members) :=
  List.perm_insertionSort _ _

theorem hasTextKeys_unordered : Unordered hasTextKeys := by
  intro value
  cases value with
  | dict members =>
      rw [sortKeys, hasTextKeys, hasTextKeys, (perm_sorted members).all_eq, sortMembers_eq,
        List.all_map]
      rfl
  | _ => rfl

theorem hasDigits_unordered : Unordered hasDigits := by
  intro value
  cases value <;> rfl

theorem isFloat_unordered : Unordered (fun value => !value.isFloat) := by
  intro value
  cases value <;> rfl

theorem isEncodable_unordered : Unordered isEncodable := by
  intro value
  cases value with
  | dict members => exact hasTextKeys_unordered (.dict members)
  | _ => rfl

theorem everyMember_perm {p : Value → Bool} {a b : Dict} (perm : a.Perm b) :
    everyMember p a = everyMember p b := by
  rw [everyMember_eq, everyMember_eq, perm.all_eq]

mutual
theorem every_sortKeys {p : Value → Bool} (unordered : Unordered p) :
    ∀ value : Value, every p value.sortKeys = every p value
  | .list items => by
      have here := unordered (.list items)
      rw [sortKeys] at here
      rw [sortKeys, every, every, here, everyItem_sortItems unordered items]
  | .dict members => by
      have here := unordered (.dict members)
      rw [sortKeys] at here
      rw [sortKeys, every, every, here, everyMember_perm (perm_sorted members),
        everyMember_sortMembers unordered members]
  | .null => rfl
  | .bool _ => rfl
  | .int _ => rfl
  | .float _ => rfl
  | .str _ => rfl

theorem everyItem_sortItems {p : Value → Bool} (unordered : Unordered p) :
    ∀ items : List Value, everyItem p (sortItems items) = everyItem p items
  | [] => rfl
  | item :: items => by
      rw [sortItems, everyItem, everyItem, every_sortKeys unordered item,
        everyItem_sortItems unordered items]

theorem everyMember_sortMembers {p : Value → Bool} (unordered : Unordered p) :
    ∀ members : Dict, everyMember p (sortMembers members) = everyMember p members
  | [] => rfl
  | member :: members => by
      rw [sortMembers, everyMember, everyMember, every_sortKeys unordered member.2,
        everyMember_sortMembers unordered members]
end

mutual
theorem sortKeys_sortKeys : ∀ value : Value, value.sortKeys.sortKeys = value.sortKeys
  | .list items => by
      rw [sortKeys, sortKeys, sortItems_sortItems items]
  | .dict members => by
      have settled : sortMembers ((sortMembers members).insertionSort MemberLe) =
          (sortMembers members).insertionSort MemberLe := by
        rw [sortMembers_eq]
        refine (List.map_congr_left ?_).trans (List.map_id _)
        intro member inside
        exact Prod.ext rfl (sortMembers_settled members member ((perm_sorted members).mem_iff.mp inside))
      rw [sortKeys, sortKeys, settled, (List.pairwise_insertionSort MemberLe _).insertionSort_eq]
  | .null => rfl
  | .bool _ => rfl
  | .int _ => rfl
  | .float _ => rfl
  | .str _ => rfl

theorem sortItems_sortItems : ∀ items : List Value, sortItems (sortItems items) = sortItems items
  | [] => rfl
  | item :: items => by
      rw [sortItems, sortItems, sortKeys_sortKeys item, sortItems_sortItems items]

theorem sortMembers_settled : ∀ members : Dict, ∀ member ∈ sortMembers members,
    member.2.sortKeys = member.2
  | [], _, inside => nomatch inside
  | (key, value) :: members, member, inside => by
      rw [sortMembers] at inside
      rcases List.mem_cons.mp inside with rfl | later
      · exact sortKeys_sortKeys value
      · exact sortMembers_settled members member later
end

theorem quoted_isSome (value : PyStr) : (quoted value).isSome = isText value := by
  cases value <;> rfl

mutual
/-- What has JSON text and no floats in it can be encoded. -/
theorem encodable_of_dumps : ∀ {value : Value} {text : List Char}, value.dumps = some text →
    value.every (fun part => !part.isFloat) = true → value.every isEncodable = true
  | .null, _, _, _ => rfl
  | .bool _, _, _, _ => rfl
  | .int _, _, _, _ => rfl
  | .float _, _, _, frozen => nomatch frozen
  | .str value, _, dumped, _ => by
      cases value with
      | text value => rfl
      | lone value => cases dumped
  | .list items, _, dumped, frozen => by
      rw [dumps, Option.map_eq_some_iff] at dumped
      obtain ⟨text, each, -⟩ := dumped
      rw [every, Bool.and_eq_true] at frozen ⊢
      exact ⟨rfl, encodableItems_of_dumps each frozen.2⟩
  | .dict members, _, dumped, frozen => by
      rw [dumps, Option.map_eq_some_iff] at dumped
      obtain ⟨text, each, -⟩ := dumped
      rw [every, Bool.and_eq_true] at frozen ⊢
      exact encodableMembers_of_dumps each frozen.2

theorem encodableItems_of_dumps : ∀ {items : List Value} {text : List Char},
    dumpsItems items = some text → everyItem (fun part => !part.isFloat) items = true →
    everyItem isEncodable items = true
  | [], _, _, _ => rfl
  | [item], _, dumped, frozen => by
      rw [dumpsItems] at dumped
      rw [everyItem, Bool.and_eq_true] at frozen ⊢
      exact ⟨encodable_of_dumps dumped frozen.1, rfl⟩
  | item :: next :: items, _, dumped, frozen => by
      rw [dumpsItems, Option.bind_eq_some_iff] at dumped
      · obtain ⟨first, one, more⟩ := dumped
        obtain ⟨rest, each, -⟩ := Option.map_eq_some_iff.mp more
        rw [everyItem, Bool.and_eq_true] at frozen ⊢
        exact ⟨encodable_of_dumps one frozen.1, encodableItems_of_dumps each frozen.2⟩
      · simp

theorem encodableMembers_of_dumps : ∀ {members : Dict} {text : List Char},
    dumpsMembers members = some text → everyMember (fun part => !part.isFloat) members = true →
    hasTextKeys (.dict members) = true ∧ everyMember isEncodable members = true
  | [], _, _, _ => ⟨rfl, rfl⟩
  | [(key, value)], _, dumped, frozen => by
      rw [dumpsMembers, Option.bind_eq_some_iff] at dumped
      obtain ⟨name, named, more⟩ := dumped
      obtain ⟨text, one, -⟩ := Option.map_eq_some_iff.mp more
      have key_text : isText key = true := by rw [← quoted_isSome, named, Option.isSome_some]
      rw [everyMember, Bool.and_eq_true] at frozen
      have inner := encodable_of_dumps one frozen.1
      exact ⟨by simp [hasTextKeys, key_text], by rw [everyMember, inner]; rfl⟩
  | (key, value) :: next :: members, _, dumped, frozen => by
      rw [dumpsMembers, Option.bind_eq_some_iff] at dumped
      · obtain ⟨name, named, more⟩ := dumped
        obtain ⟨text, one, rest⟩ := Option.bind_eq_some_iff.mp more
        obtain ⟨others, each, -⟩ := Option.map_eq_some_iff.mp rest
        have key_text : isText key = true := by rw [← quoted_isSome, named, Option.isSome_some]
        rw [everyMember, Bool.and_eq_true] at frozen
        have inner := encodable_of_dumps one frozen.1
        obtain ⟨keys, values⟩ := encodableMembers_of_dumps each frozen.2
        rw [hasTextKeys] at keys ⊢
        exact ⟨by rw [List.all_cons, key_text, keys]; rfl, by rw [everyMember, inner, values]; rfl⟩
      · simp
end

end Value

open Value

theorem normalizeFree_ok {value normal : Value} : normalizeFree value = .ok normal ↔
    value.every hasTextKeys = true ∧ normal = value.sortKeys := by
  unfold normalizeFree
  split
  · rename_i keys
    rw [Except.ok.injEq, eq_comm]
    simp [keys]
  · rename_i keys
    simp [keys]

/-- The list that a set is written as. -/
def sortedSet (items : List Value) : List Value := (items.map sortKeys).insertionSort SetLe

theorem normalizeSet_ok {items normal : List Value} : normalizeSet items = .ok normal ↔
    (items.all (every hasTextKeys) = true ∧
      (items.map sortKeys).all (fun item => item.dumps.isSome) = true ∧
      ((sortedSet items).map setKey).IsChain (· ≠ ·)) ∧ normal = sortedSet items := by
  unfold normalizeSet sortedSet
  simp only
  split
  · rename_i keys
    simp [keys]
  · rename_i keys
    split
    · rename_i texts
      simp [texts]
    · rename_i texts
      split
      · rename_i chain
        simp [chain]
      · rename_i chain
        rw [Except.ok.injEq, eq_comm]
        exact (and_iff_right ⟨not_not.mp keys, not_not.mp texts, not_not.mp chain⟩).symm

theorem sortedSet_perm (items : List Value) : (sortedSet items).Perm (items.map sortKeys) :=
  List.perm_insertionSort _ _

theorem sortedSet_settled {items : List Value} {item : Value} (member : item ∈ sortedSet items) :
    item.sortKeys = item := by
  obtain ⟨given, -, rfl⟩ := List.mem_map.mp ((sortedSet_perm items).mem_iff.mp member)
  exact sortKeys_sortKeys given

theorem map_sortedSet (items : List Value) : (sortedSet items).map sortKeys = sortedSet items :=
  (List.map_congr_left fun _ member => sortedSet_settled member).trans (List.map_id _)

theorem sortedSet_sortedSet (items : List Value) : sortedSet (sortedSet items) = sortedSet items := by
  have settled : (sortedSet items).Pairwise SetLe := List.pairwise_insertionSort SetLe _
  rw [sortedSet, map_sortedSet, settled.insertionSort_eq]

theorem sortedSet_every {p : Value → Bool} (unordered : Unordered p) (items : List Value) :
    (sortedSet items).all (every p) = items.all (every p) := by
  rw [(sortedSet_perm items).all_eq, List.all_map]
  congr 1
  funext item
  exact every_sortKeys unordered item

theorem normalizeSet_again {items normal : List Value} (normalized : normalizeSet items = .ok normal) :
    normalizeSet normal = .ok normal := by
  obtain ⟨⟨keys, texts, chain⟩, rfl⟩ := normalizeSet_ok.mp normalized
  refine normalizeSet_ok.mpr ⟨⟨?_, ?_, ?_⟩, (sortedSet_sortedSet items).symm⟩
  · rw [sortedSet_every hasTextKeys_unordered, keys]
  · rw [map_sortedSet, (sortedSet_perm items).all_eq, texts]
  · rw [sortedSet_sortedSet]
    exact chain

theorem normalizeFree_again {value normal : Value} (normalized : normalizeFree value = .ok normal) :
    normalizeFree normal = .ok normal := by
  obtain ⟨keys, rfl⟩ := normalizeFree_ok.mp normalized
  exact normalizeFree_ok.mpr
    ⟨(every_sortKeys hasTextKeys_unordered value).trans keys, (sortKeys_sortKeys value).symm⟩

theorem normalizeMember_free {property : Option Property} {value : Value}
    (free : ∀ items values, property = some (.set items) → value ≠ .list values) :
    normalizeMember property value = normalizeFree value := by
  cases property with
  | none => rfl
  | some schema =>
      cases schema with
      | set items =>
          cases value with
          | list values => exact absurd rfl (free items values rfl)
          | _ => rfl
      | _ => rfl

theorem normalizeMember_cases {property : Option Property} {value normal : Value}
    (normalized : normalizeMember property value = .ok normal) :
    (∃ items values sorted, property = some (.set items) ∧ value = .list values ∧
      normalizeSet values = .ok sorted ∧ normal = .list sorted) ∨
    (normalizeFree value = .ok normal ∧
      ∀ items values, property = some (.set items) → normal ≠ .list values) := by
  by_cases listed : ∃ items values, property = some (.set items) ∧ value = .list values
  · obtain ⟨items, values, rfl, rfl⟩ := listed
    rw [normalizeMember] at normalized
    cases result : normalizeSet values with
    | error e => rw [result] at normalized; cases normalized
    | ok sorted =>
        rw [result] at normalized
        exact .inl ⟨items, values, sorted, rfl, rfl, result, (Except.ok.inj normalized).symm⟩
  · push Not at listed
    rw [normalizeMember_free listed] at normalized
    refine .inr ⟨normalized, fun items values kind same => ?_⟩
    obtain ⟨-, rfl⟩ := normalizeFree_ok.mp normalized
    cases value with
    | list given => exact listed items given kind rfl
    | _ => simp only [sortKeys, reduceCtorEq] at same

theorem normalizeMember_again {property : Option Property} {value normal : Value}
    (normalized : normalizeMember property value = .ok normal) :
    normalizeMember property normal = .ok normal := by
  rcases normalizeMember_cases normalized with
    ⟨items, values, sorted, rfl, rfl, done, rfl⟩ | ⟨done, free⟩
  · rw [normalizeMember, normalizeSet_again done]
    rfl
  · rw [normalizeMember_free free, normalizeFree_again done]

/-- A member and its canonical form. -/
def Normalizes (properties : List (String × Property)) (member normal : PyStr × Value) : Prop :=
  normal.1 = member.1 ∧
    normalizeMember (propertyOf properties member.1) member.2 = .ok normal.2

section Normalize
variable {properties : List (String × Property)} {members normal : Dict}

theorem normalizeEach_ok : normalizeEach properties members = .ok normal ↔
    List.Forall₂ (Normalizes properties) members normal := by
  induction members generalizing normal with
  | nil =>
      rw [normalizeEach, List.forall₂_nil_left_iff, Except.ok.injEq, eq_comm]
  | cons member members ih =>
      obtain ⟨key, value⟩ := member
      rw [normalizeEach, Registry.except_bind_ok]
      constructor
      · rintro ⟨first, one, more⟩
        obtain ⟨rest, each, same⟩ := Registry.except_bind_ok.mp more
        obtain rfl := Except.ok.inj same
        exact .cons ⟨rfl, one⟩ (ih.mp each)
      · rintro (_ | ⟨⟨named, one⟩, each⟩)
        rename_i first rest
        obtain ⟨_, _⟩ := first
        simp only at named one
        subst named
        exact ⟨_, one, Registry.except_bind_ok.mpr ⟨_, ih.mpr each, rfl⟩⟩

theorem Normalizes.again {given kept : Dict} (each : List.Forall₂ (Normalizes properties) given kept) :
    List.Forall₂ (Normalizes properties) kept kept := by
  induction each with
  | nil => exact .nil
  | cons first _ ih =>
      refine .cons ⟨rfl, ?_⟩ ih
      rw [first.1]
      exact normalizeMember_again first.2

theorem Normalizes.keys {given kept : Dict} (each : List.Forall₂ (Normalizes properties) given kept) :
    kept.map (·.1) = given.map (·.1) := by
  induction each with
  | nil => rfl
  | cons first _ ih => rw [List.map_cons, List.map_cons, first.1, ih]

theorem normalize_ok : normalize properties members = .ok normal ↔
    hasTextKeys (.dict members) = true ∧
      List.Forall₂ (Normalizes properties) (members.insertionSort MemberLe) normal := by
  unfold normalize
  split
  · rename_i keys
    rw [normalizeEach_ok]
    exact (and_iff_right keys).symm
  · rename_i keys
    simp [keys]

theorem normalize_keys (normalized : normalize properties members = .ok normal) :
    normal.map (·.1) = (members.insertionSort MemberLe).map (·.1) :=
  Normalizes.keys (normalize_ok.mp normalized).2

theorem normalize_sorted (normalized : normalize properties members = .ok normal) :
    normal.Pairwise MemberLe := by
  have keys : (normal.map (·.1)).Pairwise KeyLe := by
    rw [normalize_keys normalized]
    exact List.Pairwise.map _ (fun _ _ le => le) (List.pairwise_insertionSort MemberLe members)
  rw [List.pairwise_map] at keys
  exact keys

theorem normalize_textKeys (normalized : normalize properties members = .ok normal) :
    hasTextKeys (.dict normal) = true := by
  have same : hasTextKeys (.dict normal) = (normal.map (·.1)).all isText := by
    rw [hasTextKeys, List.all_map]
    rfl
  have perm : (members.insertionSort MemberLe).Perm members := List.perm_insertionSort _ _
  have keys : hasTextKeys (.dict members) = true := (normalize_ok.mp normalized).1
  rw [same, normalize_keys normalized, List.all_map, perm.all_eq]
  exact keys

theorem normalize_again (normalized : normalize properties members = .ok normal) :
    normalize properties normal = .ok normal := by
  refine normalize_ok.mpr ⟨normalize_textKeys normalized, ?_⟩
  rw [(normalize_sorted normalized).insertionSort_eq]
  exact Normalizes.again (normalize_ok.mp normalized).2

theorem forall₂_filter {R : PyStr × Value → PyStr × Value → Prop} (keep : PyStr → Bool)
    {given kept : Dict} (each : List.Forall₂ R given kept)
    (named : ∀ a b, R a b → b.1 = a.1) :
    List.Forall₂ R (given.filter fun member => keep member.1)
      (kept.filter fun member => keep member.1) := by
  induction each with
  | nil => exact .nil
  | @cons a b _ _ first _ ih =>
      rw [List.filter_cons, List.filter_cons, named a b first]
      split
      · exact .cons first ih
      · exact ih

theorem unsigned_eq (digestField : String) (members : Dict) : unsigned digestField members =
    members.filter (fun member => decide (member.1 ≠ .text digestField)) := rfl

/-- Taking the digest out and normalizing commute. -/
theorem normalize_unsigned (digestField : String)
    (normalized : normalize properties members = .ok normal) :
    normalize properties (unsigned digestField members) = .ok (unsigned digestField normal) := by
  obtain ⟨keys, each⟩ := normalize_ok.mp normalized
  refine normalize_ok.mpr ⟨?_, ?_⟩
  · rw [hasTextKeys, List.all_eq_true] at keys ⊢
    exact fun member inside => keys member (List.mem_of_mem_filter inside)
  · rw [unsigned_eq, ← StableSort.filter_insertionSort]
    exact forall₂_filter (fun key => decide (key ≠ .text digestField)) each fun a b related => related.1

theorem canonicalBytes_ok {json : JsonObject} : canonicalBytes properties members = .ok json ↔
    ∃ normal, normalize properties members = .ok normal ∧ everyMember hasDigits normal = true ∧
      encodeMembers normal = some json := by
  unfold canonicalBytes
  rw [Registry.except_bind_ok]
  refine exists_congr fun normal => and_congr_right fun _ => ?_
  split
  · rename_i digits
    cases encodeMembers normal <;> simp [digits]
  · rename_i digits
    simp [digits]

/-- Canonical bytes are those of the value that they parse to. -/
theorem canonicalBytes_again {json : JsonObject} (bytes : canonicalBytes properties members = .ok json) :
    canonicalBytes properties (ofMembers json) = .ok json := by
  obtain ⟨normal, normalized, digits, coded⟩ := canonicalBytes_ok.mp bytes
  rw [ofMembers_of_encode coded]
  exact canonicalBytes_ok.mpr ⟨normal, normalize_again normalized, digits, coded⟩

end Normalize
end CsdFoundry.Admission

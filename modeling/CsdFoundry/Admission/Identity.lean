import CsdFoundry.Admission.Normal
import CsdFoundry.Admission.Schema

/-! The canonical bytes of a contract parse back to a contract with the same bytes and the same
digest, and the digest determines the bytes. -/
namespace CsdFoundry.Admission
open Value
open Registry (except_bind_ok)

theorem lookup_sorted (key : PyStr) (members : Dict) :
    (members.insertionSort MemberLe).lookup key = members.lookup key := by
  rw [StableSort.lookup_eq_find, StableSort.lookup_eq_find, StableSort.find_insertionSort]
  intro a _ b _ isA isB
  have first : key = a.1 := beq_iff_eq.mp isA
  have second : key = b.1 := beq_iff_eq.mp isB
  have same : MemberLe a b ∨ MemberLe b a := Std.Total.total a b
  unfold MemberLe at same ⊢
  rw [← first, ← second] at same ⊢
  exact same.elim id id

section Closed
variable {σ : Type} {accepts : σ → Value → Bool} {fields : List (String × σ)} {members : Dict}

/-- A change of the values that keeps the keys, up to their order. -/
theorem closed_related {given kept : Dict} (accepted : closed accepts fields given = true)
    (keys : (kept.map (·.1)).Perm (given.map (·.1)))
    (related : ∀ field ∈ fields, ∀ value, given.lookup (.text field.1) = some value →
      accepts field.2 value = true →
      ∃ value', kept.lookup (.text field.1) = some value' ∧ accepts field.2 value' = true) :
    closed accepts fields kept = true := by
  obtain ⟨distinct, known, each⟩ := closed_iff.mp accepted
  refine closed_iff.mpr ⟨keys.nodup_iff.mpr distinct, ?_, ?_⟩
  · intro member inside
    obtain ⟨other, inside', same⟩ :=
      List.mem_map.mp (keys.mem_iff.mp (List.mem_map_of_mem (f := (·.1)) inside))
    rw [← same]
    exact known other inside'
  · intro field inside
    obtain ⟨value, found, valid⟩ := each field inside
    exact related field inside value found valid

end Closed

section Accepts
variable {D : Type} [DigestText D]

theorem Scalar.sortKeys_of_accepts {schema : Scalar} {value : Value}
    (accepted : schema.accepts D value = true) : value.sortKeys = value := by
  cases schema <;> cases value <;> first | rfl | (simp [Scalar.accepts] at accepted)

theorem lookup_sortMembers (key : PyStr) (members : Dict) :
    (sortMembers members).lookup key = (members.lookup key).map sortKeys := by
  rw [sortMembers_eq]
  induction members with
  | nil => rfl
  | cons member members ih =>
      obtain ⟨name, value⟩ := member
      rw [List.map_cons, List.lookup_cons, List.lookup_cons, ih]
      cases key == name <;> rfl

theorem Item.accepts_sortKeys {items : Item} {value : Value} (accepted : items.accepts D value = true) :
    items.accepts D value.sortKeys = true := by
  cases items with
  | scalar schema =>
      rw [Item.accepts] at accepted ⊢
      rwa [Scalar.sortKeys_of_accepts accepted]
  | record fields =>
      cases value with
      | dict members =>
          rw [sortKeys]
          rw [Item.accepts] at accepted ⊢
          refine closed_related accepted ?_ ?_
          · refine ((perm_sorted members).map (·.1)).trans (.of_eq ?_)
            rw [sortMembers_eq, List.map_map]
            rfl
          · intro field _ value found valid
            refine ⟨value, ?_, valid⟩
            rw [lookup_sorted, lookup_sortMembers, found, Option.map_some,
              Scalar.sortKeys_of_accepts valid]
      | _ => simp [Item.accepts] at accepted

theorem Property.accepts_normal {property : Property} {value normal : Value}
    (accepted : property.accepts D value = true)
    (normalized : normalizeMember (some property) value = .ok normal) :
    property.accepts D normal = true := by
  rcases normalizeMember_cases normalized with
    ⟨items, values, sorted, same, rfl, done, rfl⟩ | ⟨done, free⟩
  · obtain rfl := Option.some.inj same
    obtain ⟨-, rfl⟩ := normalizeSet_ok.mp done
    simp only [Property.accepts, Bool.and_eq_true, List.all_eq_true] at accepted ⊢
    obtain ⟨some_, each⟩ := accepted
    have perm := sortedSet_perm values
    refine ⟨?_, fun item member => ?_⟩
    · cases values with
      | nil => simp at some_
      | cons first rest =>
          cases empty : sortedSet (first :: rest) with
          | nil => simpa [empty] using perm.length_eq
          | cons => rfl
    · obtain ⟨given, inside, rfl⟩ := List.mem_map.mp (perm.mem_iff.mp member)
      exact Item.accepts_sortKeys (each given inside)
  · obtain ⟨-, rfl⟩ := normalizeFree_ok.mp done
    cases property with
    | scalar schema =>
        rw [Property.accepts] at accepted ⊢
        rwa [Scalar.sortKeys_of_accepts accepted]
    | object =>
        cases value <;> first | rfl | simp [Property.accepts] at accepted
    | set items =>
        cases value with
        | list values => exact absurd (by rw [sortKeys]) (free items (sortItems values) rfl)
        | _ => simp [Property.accepts] at accepted

end Accepts

section Normal
variable {properties : List (String × Property)} {members normal : Dict}

theorem Normalizes.lookup {given kept : Dict}
    (each : List.Forall₂ (Normalizes properties) given kept) {key : PyStr} {value : Value}
    (found : given.lookup key = some value) : ∃ value', kept.lookup key = some value' ∧
      normalizeMember (propertyOf properties key) value = .ok value' := by
  induction each with
  | nil => cases found
  | @cons member other given kept first _ ih =>
      obtain ⟨name, content⟩ := member
      obtain ⟨name', content'⟩ := other
      obtain ⟨named, one⟩ := first
      simp only at named one
      subst named
      rw [List.lookup_cons] at found ⊢
      cases hit : key == name' with
      | true =>
          rw [hit] at found
          obtain rfl := Option.some.inj found
          rw [← beq_iff_eq.mp hit] at one
          exact ⟨content', rfl, one⟩
      | false =>
          rw [hit] at found
          exact ih found

theorem normalize_lookup (normalized : normalize properties members = .ok normal) {key : PyStr}
    {value : Value} (found : members.lookup key = some value) : ∃ value',
      normal.lookup key = some value' ∧
      normalizeMember (propertyOf properties key) value = .ok value' :=
  Normalizes.lookup (normalize_ok.mp normalized).2 ((lookup_sorted key members).trans found)

theorem normalize_keys_perm (normalized : normalize properties members = .ok normal) :
    (normal.map (·.1)).Perm (members.map (·.1)) := by
  rw [normalize_keys normalized]
  exact (List.perm_insertionSort MemberLe members).map _

theorem lookup_eq_none {kept : Dict} {key : PyStr} :
    kept.lookup key = none ↔ key ∉ kept.map (·.1) := by
  rw [List.lookup_eq_none_iff]
  constructor
  · intro absent inside
    obtain ⟨member, there, rfl⟩ := List.mem_map.mp inside
    simpa using absent member there
  · intro absent member there
    rw [bne_iff_ne]
    rintro rfl
    exact absent (List.mem_map_of_mem there)

/-- Texts and numbers stay what they are. -/
theorem normalizeMember_scalar {property : Option Property} {value kept : Value}
    (normalized : normalizeMember property value = .ok kept) :
    (∀ text, kept = .str text ↔ value = .str text) ∧
    (∀ number, kept = .int number ↔ value = .int number) := by
  rcases normalizeMember_cases normalized with ⟨_, _, _, _, rfl, _, rfl⟩ | ⟨done, -⟩
  · simp
  · obtain ⟨-, rfl⟩ := normalizeFree_ok.mp done
    cases value <;> simp [sortKeys]

theorem lookup_normal (normalized : normalize properties members = .ok normal) {target : Value}
    (fixed : ∀ {property value kept}, normalizeMember property value = .ok kept →
      (kept = target ↔ value = target)) (key : PyStr) :
    normal.lookup key = some target ↔ members.lookup key = some target := by
  cases found : members.lookup key with
  | none =>
      have missing : normal.lookup key = none := by
        rw [lookup_eq_none, (normalize_keys_perm normalized).mem_iff, ← lookup_eq_none, found]
      rw [missing]
  | some value =>
      obtain ⟨value', found', one⟩ := normalize_lookup normalized found
      rw [found', Option.some.injEq, Option.some.injEq]
      exact fixed one

theorem textAt_iff {given : Dict} {key text : String} :
    textAt given key = some text ↔ given.lookup (.text key) = some (.str (.text text)) := by
  unfold textAt
  split
  · rename_i value found
    simp [found]
  · rename_i other
    constructor
    · intro impossible
      cases impossible
    · intro found
      exact absurd found (other text)

theorem textAt_normal (normalized : normalize properties members = .ok normal) (key : String) :
    textAt normal key = textAt members key := by
  apply Option.ext
  intro text
  rw [textAt_iff, textAt_iff]
  exact lookup_normal normalized (fun one => (normalizeMember_scalar one).1 _) _

/-- Where every member has a canonical form, so does the object. -/
theorem normalize_exists (keys : hasTextKeys (.dict members) = true)
    (each : ∀ member ∈ members, ∃ kept,
      normalizeMember (propertyOf properties member.1) member.2 = .ok kept) :
    ∃ normal, normalize properties members = .ok normal := by
  have sorted : ∀ {given : Dict}, (∀ member ∈ given, ∃ kept,
      normalizeMember (propertyOf properties member.1) member.2 = .ok kept) →
      ∃ kept, List.Forall₂ (Normalizes properties) given kept := by
    intro given all
    induction given with
    | nil => exact ⟨[], .nil⟩
    | cons member given ih =>
        obtain ⟨first, one⟩ := all member List.mem_cons_self
        obtain ⟨rest, more⟩ := ih fun other inside => all other (List.mem_cons_of_mem _ inside)
        exact ⟨(member.1, first) :: rest, .cons ⟨rfl, one⟩ more⟩
  obtain ⟨normal, related⟩ := sorted fun member inside =>
    each member ((List.perm_insertionSort MemberLe members).mem_iff.mp inside)
  exact ⟨normal, normalize_ok.mpr ⟨keys, related⟩⟩

end Normal

theorem properties_distinct (kind : ContractName) : (kind.properties.map (·.1)).Nodup := by
  cases kind <;> decide

section Objects
variable {D : Type} [DigestText D] {kind : ContractName} {members normal : Dict}

theorem propertyOf_field {field : String × Property} (member : field ∈ kind.properties) :
    propertyOf kind.properties (.text field.1) = some field.2 :=
  StableSort.lookup_of_mem (properties_distinct kind) member

theorem accepts_normal (accepted : kind.accepts D members = true)
    (normalized : normalize kind.properties members = .ok normal) :
    kind.accepts D normal = true := by
  refine closed_related accepted (normalize_keys_perm normalized) ?_
  intro field member value found valid
  obtain ⟨value', found', one⟩ := normalize_lookup normalized found
  rw [propertyOf_field member] at one
  exact ⟨value', found', Property.accepts_normal valid one⟩

theorem accepts_textKeys (accepted : kind.accepts D members = true) :
    hasTextKeys (.dict members) = true := by
  rw [hasTextKeys, List.all_eq_true]
  intro member inside
  obtain ⟨field, -, named⟩ := (closed_iff.mp accepted).2.1 member inside
  rw [named]
  rfl

theorem accepts_keys (accepted : kind.accepts D members = true) :
    (members.map (·.1)).Nodup := (closed_iff.mp accepted).1

variable [Sha256 D]

theorem validate_ok : kind.validate D members = .ok () ↔ kind.accepts D members = true ∧
    semanticValidate kind members = .ok () ∧ ∃ digest : D,
      kind.expected members = .ok digest ∧
      textAt members kind.digestField = some (DigestText.text digest) := by
  unfold ContractName.validate
  rw [except_bind_ok]
  constructor
  · rintro ⟨_, checked, rest⟩
    obtain ⟨_, semantic, rest⟩ := except_bind_ok.mp rest
    obtain ⟨digest, taken, compared⟩ := except_bind_ok.mp rest
    split at compared
    · exact ⟨ContractName.check_ok.mp checked, semantic, digest, taken, ‹_›⟩
    · cases compared
  · rintro ⟨accepted, semantic, digest, taken, same⟩
    exact ⟨(), ContractName.check_ok.mpr accepted, except_bind_ok.mpr ⟨(), semantic,
      except_bind_ok.mpr ⟨digest, taken, if_pos same⟩⟩⟩

omit [DigestText D] in
theorem expected_ok {digest : D} : kind.expected members = .ok digest ↔ ∃ json,
    canonicalBytes kind.properties (unsigned kind.digestField members) = .ok json ∧
    digest = Sha256.sha256 kind.domainPrefix [.json (.obj json)] := by
  unfold ContractName.expected domainDigest
  rw [except_bind_ok]
  exact exists_congr fun json => and_congr_right fun _ =>
    ⟨fun same => (Except.ok.inj same).symm, fun same => congrArg Except.ok same.symm⟩

theorem keyLe_antisymm {a b : PyStr} (textA : isText a = true) (textB : isText b = true)
    (le : KeyLe a b) (ge : KeyLe b a) : a = b := by
  cases a with
  | lone => cases textA
  | text a =>
      cases b with
      | lone => cases textB
      | text b =>
          simp only [KeyLe] at le ge
          congr 1
          rcases le with firstA | ⟨laterB, le⟩
          · rcases ge with firstB | ⟨laterA, -⟩
            · rw [firstA, firstB]
            · exact absurd firstA laterA
          · rcases ge with firstB | ⟨-, ge⟩
            · exact absurd firstB laterB
            · exact le_antisymm le ge

theorem filter_key {key : PyStr} {value : Value} (keys : (members.map (·.1)).Nodup)
    (found : members.lookup key = some value) :
    members.filter (fun member => decide (member.1 = key)) = [(key, value)] := by
  induction members with
  | nil => cases found
  | cons member rest ih =>
      obtain ⟨name, content⟩ := member
      rw [List.map_cons, List.nodup_cons] at keys
      by_cases named : name = key
      · subst named
        rw [List.lookup_cons, beq_self_eq_true] at found
        obtain rfl := Option.some.inj found
        have others : rest.filter (fun member => decide (member.1 = name)) = [] := by
          rw [List.filter_eq_nil_iff]
          intro other there
          rw [decide_eq_true_eq]
          rintro same
          exact keys.1 (same ▸ List.mem_map_of_mem (f := (·.1)) there)
        rw [List.filter_cons_of_pos (by simp), others]
      · have unequal : (key == name) = false := beq_eq_false_iff_ne.mpr (Ne.symm named)
        rw [List.lookup_cons, unequal] at found
        rw [List.filter_cons_of_neg (by simpa using named)]
        exact ih keys.2 found

theorem perm_unsigned {field : String} {value : Value} (keys : (members.map (·.1)).Nodup)
    (found : members.lookup (.text field) = some value) :
    members.Perm ((.text field, value) :: unsigned field members) := by
  have parts := List.filter_append_perm
    (fun member : PyStr × Value => decide (member.1 = .text field)) members
  rw [filter_key keys found] at parts
  refine parts.symm.trans (.of_eq ?_)
  rw [unsigned_eq, List.singleton_append]
  congr 2
  funext member
  simp

/-- The canonical form of a contract: the digest and what it is the digest of. -/
structure Canonical (kind : ContractName) (digest : D) (normal : Dict) (json : JsonObject) :
    Prop where
  sorted : normal.Pairwise MemberLe
  keys : (normal.map (·.1)).Nodup
  textKeys : hasTextKeys (.dict normal) = true
  coded : encodeMembers normal = some json
  signed : normal.lookup (.text kind.digestField) = some (.str (.text (DigestText.text digest)))
  covers : ∃ payload, encodeMembers (unsigned kind.digestField normal) = some payload ∧
    digest = Sha256.sha256 kind.domainPrefix [.json (.obj payload)]

/-- A digest determines the canonical bytes. -/
theorem Canonical.unique {digest : D} {normal' : Dict} {json json' : JsonObject}
    (first : Canonical kind digest normal json) (second : Canonical kind digest normal' json') :
    json = json' := by
  obtain ⟨payload, coded, taken⟩ := first.covers
  obtain ⟨payload', coded', taken'⟩ := second.covers
  have messages := (Sha256.collision_free (taken.symm.trans taken')).2
  simp only [List.cons.injEq, Field.json.injEq, Json.obj.injEq, and_true] at messages
  have rests : unsigned kind.digestField normal = unsigned kind.digestField normal' := by
    rw [← ofMembers_of_encode coded, ← ofMembers_of_encode coded', messages]
  have perm : normal.Perm normal' := by
    refine (perm_unsigned first.keys first.signed).trans ?_
    rw [rests]
    exact (perm_unsigned second.keys second.signed).symm
  have same : normal = normal' := by
    refine perm.eq_of_pairwise ?_ first.sorted second.sorted
    intro a b inA inB le ge
    have isText : ∀ member ∈ normal, isText member.1 = true := List.all_eq_true.mp first.textKeys
    have inB' : b ∈ normal := perm.mem_iff.mpr inB
    have keyed : a.1 = b.1 := keyLe_antisymm (isText a inA) (isText b inB') le ge
    have lookA := StableSort.lookup_of_mem first.keys (show (a.1, a.2) ∈ normal from inA)
    have lookB := StableSort.lookup_of_mem first.keys (show (b.1, b.2) ∈ normal from inB')
    rw [keyed, lookB] at lookA
    exact Prod.ext keyed (Option.some.inj lookA).symm
  subst same
  exact Option.some.inj (first.coded.symm.trans second.coded)

theorem normalize_unique {normal' : Dict} {properties : List (String × Property)}
    (first : normalize properties members = .ok normal)
    (second : normalize properties members = .ok normal') : normal = normal' :=
  Except.ok.inj (first.symm.trans second)

theorem normalizeMember_text (property : Property) (value : String) :
    normalizeMember (some property) (.str (.text value)) = .ok (.str (.text value)) := by
  cases property <;> rfl

theorem digestProperty (kind : ContractName) :
    (kind.digestField, Property.scalar .digest) ∈ kind.properties := by
  cases kind <;> simp [ContractName.properties, ContractName.digestField]

/-- Every contract has a canonical form, and its canonical bytes are taken without an error. -/
theorem ContractObject.canonical (object : ContractObject D kind) :
    ∃ normal json, ∃ digest : D, normalize kind.properties object.value = .ok normal ∧
      object.canonicalBytes = .ok json ∧ Canonical kind digest normal json ∧
      object.digest = DigestText.text digest := by
  obtain ⟨accepted, -, digest, taken, listed⟩ := validate_ok.mp object.valid
  obtain ⟨payload, bytes, same⟩ := expected_ok.mp taken
  obtain ⟨part, normalized, digits, coded⟩ := canonicalBytes_ok.mp bytes
  have signed := textAt_iff.mp listed
  have keys := accepts_keys accepted
  have partKeys : ((unsigned kind.digestField object.value).map (·.1)).Nodup :=
    keys.sublist (List.filter_sublist.map _)
  obtain ⟨normal, whole⟩ : ∃ normal, normalize kind.properties object.value = .ok normal := by
    refine normalize_exists (accepts_textKeys accepted) ?_
    intro member inside
    rcases List.mem_cons.mp ((perm_unsigned keys signed).mem_iff.mp inside) with rfl | rest
    · rw [propertyOf_field (digestProperty kind)]
      exact ⟨_, normalizeMember_text _ _⟩
    · obtain ⟨kept, -, done⟩ := normalize_lookup normalized (StableSort.lookup_of_mem partKeys rest)
      exact ⟨kept, done⟩
  have normalKeys : (normal.map (·.1)).Nodup := (normalize_keys_perm whole).nodup_iff.mpr keys
  have kept : normal.lookup (.text kind.digestField) = some (.str (.text (DigestText.text digest))) := by
    rw [← textAt_iff, textAt_normal whole, listed]
  obtain rfl : part = unsigned kind.digestField normal :=
    normalize_unique normalized (normalize_unsigned kind.digestField whole)
  have perm := perm_unsigned normalKeys kept
  have textKeys := normalize_textKeys whole
  have wholeDigits : everyMember hasDigits normal = true := by
    rw [everyMember_perm perm, everyMember, digits]
    rfl
  have encodable : everyMember isEncodable normal = true := by
    have inner := isSome_encodeMembers (unsigned kind.digestField normal)
    rw [coded, Option.isSome_some, eq_comm, Bool.and_eq_true] at inner
    rw [everyMember_perm perm, everyMember, inner.2]
    rfl
  obtain ⟨json, text⟩ : ∃ json, encodeMembers normal = some json := by
    rw [← Option.isSome_iff_exists, isSome_encodeMembers, textKeys, encodable]
    rfl
  refine ⟨normal, json, digest, whole, canonicalBytes_ok.mpr ⟨normal, whole, wholeDigits, text⟩,
    ⟨normalize_sorted whole, normalKeys, textKeys, text, kept, payload, coded, same⟩, ?_⟩
  rw [ContractObject.digest, ContractObject.text, listed, Option.getD_some]

theorem ContractObject.digest_bytes {object object' : ContractObject D kind}
    (same : object.digest = object'.digest) : object.canonicalBytes = object'.canonicalBytes := by
  obtain ⟨_, json, digest, -, bytes, form, named⟩ := object.canonical
  obtain ⟨_, json', digest', -, bytes', form', named'⟩ := object'.canonical
  obtain rfl : digest = digest' := DigestText.text_injective (named.symm.trans (same.trans named'))
  rw [bytes, bytes', form.unique form']

/-- Two objects of one contract: they differ in the order of keys and of sets only. -/
structure ContractObject.Same (object object' : ContractObject D kind) : Prop where
  bytes : object.canonicalBytes = object'.canonicalBytes
  digest : object.digest = object'.digest

/-- Texts and numbers can be read off the canonical bytes. -/
theorem ContractObject.Same.lookup {object object' : ContractObject D kind}
    (same : object.Same object') (key : PyStr) :
    (∀ text, object.value.lookup key = some (.str text) ↔
      object'.value.lookup key = some (.str text)) ∧
    (∀ number, object.value.lookup key = some (.int number) ↔
      object'.value.lookup key = some (.int number)) := by
  obtain ⟨normal, json, _, whole, bytes, form, -⟩ := object.canonical
  obtain ⟨normal', json', _, whole', bytes', form', -⟩ := object'.canonical
  obtain rfl : json = json' := Except.ok.inj (bytes.symm.trans (same.bytes.trans bytes'))
  obtain rfl : normal = normal' := by
    rw [← ofMembers_of_encode form.coded, ← ofMembers_of_encode form'.coded]
  refine ⟨fun text => ?_, fun number => ?_⟩
  · have fixed : ∀ {property value kept}, normalizeMember property value = .ok kept →
        (kept = .str text ↔ value = .str text) := fun one => (normalizeMember_scalar one).1 text
    exact (lookup_normal whole fixed key).symm.trans (lookup_normal whole' fixed key)
  · have fixed : ∀ {property value kept}, normalizeMember property value = .ok kept →
        (kept = .int number ↔ value = .int number) := fun one => (normalizeMember_scalar one).2 number
    exact (lookup_normal whole fixed key).symm.trans (lookup_normal whole' fixed key)

theorem ContractObject.isDigest (object : ContractObject D kind) :
    DigestText.isDigest D object.digest = true := by
  obtain ⟨_, _, digest, -, -, -, named⟩ := object.canonical
  rw [named]
  exact DigestText.isDigest_text digest

end Objects
end CsdFoundry.Admission

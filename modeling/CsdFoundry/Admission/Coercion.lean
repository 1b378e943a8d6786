import CsdFoundry.Admission.Identity
import CsdFoundry.Admission.Store

/-! What reading a contract from an untrusted object comes to: a contract, an error of the
contract layer, or an encoding error that no handler expects. Canonical bytes that were stored
are always read back. -/
namespace CsdFoundry.Admission
open Value
open Registry (except_bind_ok)

namespace Value

mutual
theorem every_mono {p q : Value → Bool} (weaker : ∀ value, p value = true → q value = true) :
    ∀ value : Value, value.every p = true → value.every q = true
  | .list items, all => by
      rw [every, Bool.and_eq_true] at all ⊢
      exact ⟨weaker _ all.1, everyItem_mono weaker items all.2⟩
  | .dict members, all => by
      rw [every, Bool.and_eq_true] at all ⊢
      exact ⟨weaker _ all.1, everyMember_mono weaker members all.2⟩
  | .null, all => weaker _ all
  | .bool _, all => weaker _ all
  | .int _, all => weaker _ all
  | .float _, all => weaker _ all
  | .str _, all => weaker _ all

theorem everyItem_mono {p q : Value → Bool} (weaker : ∀ value, p value = true → q value = true) :
    ∀ items : List Value, everyItem p items = true → everyItem q items = true
  | [], _ => rfl
  | item :: items, all => by
      rw [everyItem, Bool.and_eq_true] at all ⊢
      exact ⟨every_mono weaker item all.1, everyItem_mono weaker items all.2⟩

theorem everyMember_mono {p q : Value → Bool} (weaker : ∀ value, p value = true → q value = true) :
    ∀ members : Dict, everyMember p members = true → everyMember q members = true
  | [], _ => rfl
  | member :: members, all => by
      rw [everyMember, Bool.and_eq_true] at all ⊢
      exact ⟨every_mono weaker member.2 all.1, everyMember_mono weaker members all.2⟩
end

theorem frozen_of_encodable (value : Value) (encodable : isEncodable value = true) :
    (!value.isFloat) = true := by
  cases value <;> first | rfl | cases encodable

end Value

variable {D : Type} [DigestText D] [Sha256 D] {kind : ContractName} {members normal : Dict}

theorem fromJson_ok {object : ContractObject D kind} :
    ContractObject.fromJson kind members = .ok object ↔ object.value = members := by
  unfold ContractObject.fromJson
  constructor
  · intro read
    split at read
    · split at read
      · cases read
        rfl
      · cases read
    · cases read
  · rintro rfl
    rw [dif_pos object.frozen]
    split
    · rfl
    · rename_i failed
      rw [object.valid] at failed
      cases failed

theorem semantic_normal {properties : List (String × Property)}
    (normalized : normalize properties members = .ok normal) :
    semanticValidate kind normal = semanticValidate kind members := by
  unfold semanticValidate
  rw [textAt_normal normalized]

/-- Stored canonical bytes are read back as a contract with these bytes. -/
theorem ContractObject.reparse {object : ContractObject D kind} {json : JsonObject}
    (bytes : object.canonicalBytes = .ok json) : ∃ parsed : ContractObject D kind,
      parseContractPayload kind json = .ok parsed ∧ parsed.canonicalBytes = .ok json ∧
      parsed.digest = object.digest := by
  obtain ⟨normal, json', digest, whole, bytes', form, named⟩ := object.canonical
  obtain rfl : json' = json := Except.ok.inj (bytes'.symm.trans bytes)
  obtain ⟨accepted, semantic, digest', taken, listed⟩ := validate_ok.mp object.valid
  obtain ⟨payload, hashed, same⟩ := expected_ok.mp taken
  have read : ofMembers json' = normal := ofMembers_of_encode form.coded
  have again : kind.canonical normal = .ok json' :=
    read ▸ canonicalBytes_again bytes
  have signed : textAt normal kind.digestField = some (DigestText.text digest') := by
    rw [textAt_normal whole, listed]
  have hashed' : kind.canonical (unsigned kind.digestField normal) = .ok payload := by
    obtain ⟨part, normalized, -, coded⟩ := canonicalBytes_ok.mp hashed
    have unsigned_ := normalize_unique normalized (normalize_unsigned kind.digestField whole)
    rw [← unsigned_, ← ofMembers_of_encode coded]
    exact canonicalBytes_again hashed
  have frozen : everyMember (fun value => !value.isFloat) normal = true := by
    have encodable := isSome_encodeMembers normal
    rw [form.coded, Option.isSome_some, eq_comm, Bool.and_eq_true] at encodable
    exact everyMember_mono frozen_of_encodable normal encodable.2
  have valid : kind.validate D normal = .ok () := by
    refine validate_ok.mpr ⟨accepts_normal accepted whole, ?_, digest', ?_, signed⟩
    · rw [semantic_normal whole, semantic]
    · exact expected_ok.mpr ⟨payload, hashed', same⟩
  let parsed : ContractObject D kind := ⟨normal, frozen, valid⟩
  refine ⟨parsed, ?_, again, ?_⟩
  · have parses : parseContract kind (ofMembers json') = .ok parsed := fromJson_ok.mpr read.symm
    have parsedBytes : parsed.canonicalBytes = .ok json' := again
    rw [parseContractPayload, parses]
    exact except_bind_ok.mpr ⟨json', parsedBytes, if_pos rfl⟩
  · rw [ContractObject.digest, ContractObject.text, ContractObject.digest, ContractObject.text,
      signed, listed]

/-! The one error that escapes from a coercion. -/
section Escape

/-- An error of the contract layer. -/
def Handled (e : Raise) : Prop := ∃ code, e = .governance code

theorem normalizeFree_error {value : Value} (failed : normalizeFree value = .error e) :
    Handled e := by
  unfold normalizeFree at failed
  split at failed
  · cases failed
  · cases failed
    exact ⟨_, rfl⟩

theorem normalizeSet_error {items : List Value} (failed : normalizeSet items = .error e) :
    Handled e := by
  unfold normalizeSet at failed
  simp only at failed
  split at failed
  · cases failed
    exact ⟨_, rfl⟩
  · split at failed
    · cases failed
      exact ⟨_, rfl⟩
    · split at failed
      · cases failed
        exact ⟨_, rfl⟩
      · cases failed

theorem normalizeMember_error {property : Option Property} {value : Value}
    (failed : normalizeMember property value = .error e) : Handled e := by
  by_cases listed : ∃ items values, property = some (.set items) ∧ value = .list values
  · obtain ⟨items, values, rfl, rfl⟩ := listed
    rw [normalizeMember] at failed
    cases result : normalizeSet values with
    | error e' =>
        rw [result] at failed
        cases failed
        exact normalizeSet_error result
    | ok sorted => rw [result] at failed; cases failed
  · push Not at listed
    rw [normalizeMember_free listed] at failed
    exact normalizeFree_error failed

theorem except_bind_error {x : Except ε α} {f : α → Except ε β} :
    (x >>= f) = .error e ↔ x = .error e ∨ ∃ a, x = .ok a ∧ f a = .error e := by
  cases x with
  | error e' => simp [bind, Except.bind]
  | ok a => simp [bind, Except.bind]

theorem normalizeEach_error {properties : List (String × Property)} {members : Dict}
    (failed : normalizeEach properties members = .error e) : Handled e := by
  induction members with
  | nil => cases failed
  | cons member members ih =>
      rw [normalizeEach] at failed
      rcases except_bind_error.mp failed with first | ⟨kept, -, more⟩
      · exact normalizeMember_error first
      · rcases except_bind_error.mp more with rest | ⟨_, -, done⟩
        · exact ih rest
        · cases done

theorem normalize_error {properties : List (String × Property)}
    (failed : normalize properties members = .error e) : Handled e := by
  unfold normalize at failed
  split at failed
  · exact normalizeEach_error failed
  · cases failed
    exact ⟨_, rfl⟩

theorem canonicalBytes_error {properties : List (String × Property)}
    (failed : canonicalBytes properties members = .error e) : Handled e ∨
      (e = .unicodeEncode ∧ ∃ normal, normalize properties members = .ok normal ∧
        everyMember hasDigits normal = true ∧ encodeMembers normal = none) := by
  unfold canonicalBytes at failed
  rcases except_bind_error.mp failed with early | ⟨normal, normalized, late⟩
  · exact .inl (normalize_error early)
  · split at late
    · rename_i digits
      split at late
      · cases late
      · rename_i lost
        cases late
        exact .inr ⟨rfl, normal, normalized, digits, lost⟩
    · cases late
      exact .inl ⟨_, rfl⟩

theorem canonicalBytes_unicode {properties : List (String × Property)}
    (normalized : normalize properties members = .ok normal)
    (digits : everyMember hasDigits normal = true) (lost : encodeMembers normal = none) :
    canonicalBytes properties members = .error .unicodeEncode := by
  unfold canonicalBytes
  rw [normalized]
  simp only [bind, Except.bind, digits, lost, if_true]

variable (D) in
/-- An object without floats whose first fault under the schema cannot be written out. -/
structure LosesFault (kind : ContractName) (members : Dict) : Prop where
  frozen : everyMember (fun value => !value.isFloat) members = true
  unwritable : kind.Unwritable D members

theorem fromJson_error {e : Raise} (failed : (ContractObject.fromJson kind members :
    Except Raise (ContractObject D kind)) = .error e) : Handled e ∨
      (e = .schemaLibrary ∧ LosesFault D kind members) ∨
      (e = .unicodeEncode ∧ everyMember (fun value => !value.isFloat) members = true ∧
        kind.accepts D members = true ∧
        ∃ normal, normalize kind.properties (unsigned kind.digestField members) = .ok normal ∧
          everyMember hasDigits normal = true ∧ encodeMembers normal = none) := by
  unfold ContractObject.fromJson at failed
  split at failed
  · rename_i frozen
    split at failed
    · cases failed
    · rename_i e' invalid
      cases failed
      unfold ContractName.validate at invalid
      rcases except_bind_error.mp invalid with checked | ⟨_, passed, rest⟩
      · rcases ContractName.check_refuses checked with rfl | rfl
        · exact .inl ⟨_, rfl⟩
        · exact .inr (.inl ⟨rfl, frozen, ContractName.check_error.mp checked⟩)
      · have accepted := ContractName.check_ok.mp passed
        rcases except_bind_error.mp rest with semantic | ⟨_, -, rest⟩
        · unfold semanticValidate at semantic
          split at semantic
          · cases semantic
            exact .inl ⟨_, rfl⟩
          · cases semantic
        · rcases except_bind_error.mp rest with hashing | ⟨digest, -, compared⟩
          · rcases except_bind_error.mp hashing with bytes | ⟨_, -, impossible⟩
            · rcases canonicalBytes_error bytes with handled | ⟨rfl, lost⟩
              · exact .inl handled
              · exact .inr (.inr ⟨rfl, frozen, accepted, lost⟩)
            · cases impossible
          · split at compared
            · cases compared
            · cases compared
              exact .inl ⟨_, rfl⟩
  · cases failed
    exact .inl ⟨_, rfl⟩

/-- What cannot be validated cannot be read. -/
theorem fromJson_invalid {e : Raise}
    (frozen : everyMember (fun value => !value.isFloat) members = true)
    (invalid : kind.validate D members = .error e) :
    (ContractObject.fromJson kind members : Except Raise (ContractObject D kind)) = .error e := by
  unfold ContractObject.fromJson
  rw [dif_pos frozen]
  split
  · rename_i valid
    rw [invalid] at valid
    cases valid
  · rename_i e' failed
    rw [invalid] at failed
    cases failed
    rfl

/-- A message that cannot be written escapes. -/
theorem fromJson_schemaLibrary : (ContractObject.fromJson kind members :
    Except Raise (ContractObject D kind)) = .error .schemaLibrary ↔ LosesFault D kind members := by
  constructor
  · intro failed
    rcases fromJson_error failed with ⟨_, impossible⟩ | ⟨-, loses⟩ | ⟨impossible, -⟩
    · cases impossible
    · exact loses
    · cases impossible
  · rintro ⟨frozen, unwritable⟩
    apply fromJson_invalid frozen
    unfold ContractName.validate
    rw [ContractName.check_error.mpr unwritable]
    rfl

theorem Normalizes.mem {properties : List (String × Property)} {given kept : Dict}
    (each : List.Forall₂ (Normalizes properties) given kept) {member : PyStr × Value}
    (inside : member ∈ kept) : ∃ source ∈ given, Normalizes properties source member := by
  induction each with
  | nil => cases inside
  | @cons source _ _ _ first _ ih =>
      rcases List.mem_cons.mp inside with rfl | later
      · exact ⟨source, List.mem_cons_self, first⟩
      · obtain ⟨other, there, related⟩ := ih later
        exact ⟨other, List.mem_cons_of_mem _ there, related⟩

omit [Sha256 D] in
theorem accepts_member (accepted : kind.accepts D members = true) {member : PyStr × Value}
    (inside : member ∈ members) : ∃ field ∈ kind.properties, member.1 = .text field.1 ∧
      field.2.accepts D member.2 = true := by
  obtain ⟨distinct, known, each⟩ := closed_iff.mp accepted
  obtain ⟨field, listed, named⟩ := known member inside
  obtain ⟨value, found, valid⟩ := each field listed
  have here := StableSort.lookup_of_mem distinct (show (member.1, member.2) ∈ members from inside)
  rw [named, found] at here
  exact ⟨field, listed, named, Option.some.inj here ▸ valid⟩

/-- The schemas that only admit texts which UTF-8 encodes, once they are in canonical form. -/
def Property.plain : Property → Bool
  | .scalar (.minLength _) => false
  | .object => false
  | _ => true

omit [Sha256 D] in
theorem plain_encodable {property : Property} {value kept : Value} (plain : property.plain = true)
    (accepted : property.accepts D value = true)
    (frozen : value.every (fun part => !part.isFloat) = true)
    (normalized : normalizeMember (some property) value = .ok kept) :
    kept.every isEncodable = true := by
  rcases normalizeMember_cases normalized with
    ⟨items, values, sorted, -, rfl, done, rfl⟩ | ⟨done, free⟩
  · obtain ⟨⟨-, texts, -⟩, rfl⟩ := normalizeSet_ok.mp done
    rw [every, Bool.and_eq_true, everyItem_eq] at frozen
    rw [every, Bool.and_eq_true, everyItem_eq, List.all_eq_true]
    refine ⟨rfl, fun item inside => ?_⟩
    have dumped : item.dumps.isSome = true :=
      List.all_eq_true.mp texts item ((sortedSet_perm values).mem_iff.mp inside)
    have unfloated : item.every (fun part => !part.isFloat) = true := by
      refine List.all_eq_true.mp ?_ item inside
      rw [sortedSet_every isFloat_unordered]
      exact frozen.2
    obtain ⟨text, same⟩ := Option.isSome_iff_exists.mp dumped
    exact encodable_of_dumps same unfloated
  · obtain ⟨-, rfl⟩ := normalizeFree_ok.mp done
    cases property with
    | object => cases plain
    | set items =>
        cases value with
        | list values => exact absurd (by rw [sortKeys]) (free items (sortItems values) rfl)
        | _ => simp [Property.accepts] at accepted
    | scalar schema =>
        rw [Property.accepts] at accepted
        rw [Scalar.sortKeys_of_accepts accepted]
        cases schema with
        | minLength length => cases plain
        | _ =>
            cases value with
            | int value => rfl
            | str value =>
                cases value with
                | text value => rfl
                | lone value => simp [Scalar.accepts] at accepted
            | _ => simp [Scalar.accepts] at accepted

/-- Signature sets and policies are read or refused by the contract layer, but for a fault that
cannot be written out. -/
theorem fromJson_plain (plain : kind.properties.all (fun field => field.2.plain) = true) {e : Raise}
    (failed : (ContractObject.fromJson kind members :
      Except Raise (ContractObject D kind)) = .error e) :
    Handled e ∨ (e = .schemaLibrary ∧ LosesFault D kind members) := by
  rcases fromJson_error failed with handled | loses |
    ⟨-, frozen, accepted, normal, normalized, -, lost⟩
  · exact .inl handled
  · exact .inr loses
  · exfalso
    obtain ⟨-, each⟩ := normalize_ok.mp normalized
    have encodable : everyMember isEncodable normal = true := by
      rw [everyMember_eq, List.all_eq_true]
      intro member inside
      obtain ⟨source, there, named, one⟩ := Normalizes.mem each inside
      have given : source ∈ members :=
        List.mem_of_mem_filter ((List.perm_insertionSort MemberLe _).mem_iff.mp there)
      obtain ⟨field, listed, key, valid⟩ := accepts_member accepted given
      rw [key, propertyOf_field listed] at one
      rw [everyMember_eq, List.all_eq_true] at frozen
      exact plain_encodable (List.all_eq_true.mp plain field listed) valid (frozen source given) one
    have coded := isSome_encodeMembers normal
    rw [lost, normalize_textKeys normalized, encodable] at coded
    cases coded

theorem signatureSet_plain :
    ContractName.signatureSet.properties.all (fun field => field.2.plain) = true := rfl

theorem validationPolicy_plain :
    ContractName.validationPolicy.properties.all (fun field => field.2.plain) = true := rfl

variable (D) in
/-- A raw event that passes its schema, and that has canonical JSON text, which UTF-8 does not
encode. -/
structure LosesText (raw : Dict) : Prop where
  frozen : everyMember (fun value => !value.isFloat) raw = true
  accepted : ContractName.rawEvent.accepts D raw = true
  textKeys : everyMember hasTextKeys raw = true
  digits : everyMember hasDigits raw = true
  lone : everyMember isEncodable raw = false

omit [DigestText D] [Sha256 D] in
theorem normalizeEach_setFree {properties : List (String × Property)}
    (free : ∀ key items, propertyOf properties key ≠ some (.set items)) {given kept : Dict} :
    List.Forall₂ (Normalizes properties) given kept ↔
      everyMember hasTextKeys given = true ∧ kept = sortMembers given := by
  induction given generalizing kept with
  | nil => simp [everyMember, sortMembers]
  | cons member given ih =>
      rw [everyMember, sortMembers, Bool.and_eq_true, List.forall₂_cons_left_iff]
      have single : ∀ other : PyStr × Value, Normalizes properties member other ↔
          member.2.every hasTextKeys = true ∧ other = (member.1, member.2.sortKeys) := by
        intro other
        rw [Normalizes, normalizeMember_free (fun items values kind => absurd kind (free _ items)),
          normalizeFree_ok, Prod.ext_iff]
        tauto
      constructor
      · rintro ⟨other, rest, first, more, rfl⟩
        obtain ⟨keys, rfl⟩ := (single other).mp first
        obtain ⟨others, rfl⟩ := ih.mp more
        exact ⟨⟨keys, others⟩, rfl⟩
      · rintro ⟨⟨keys, others⟩, rfl⟩
        exact ⟨_, _, (single _).mpr ⟨keys, rfl⟩, ih.mpr ⟨others, rfl⟩, rfl⟩

theorem rawEvent_setFree (key : PyStr) (items : Item) :
    propertyOf ContractName.rawEvent.properties key ≠ some (.set items) := by
  intro found
  cases key with
  | lone other => cases found
  | text name =>
      have listed := StableSort.mem_of_lookup found
      simp [ContractName.properties] at listed

omit [DigestText D] [Sha256 D] in
theorem every_normal {p : Value → Bool} (unordered : Unordered p)
    (lists : ∀ items, p (.list items) = true) {property : Option Property} {value kept : Value}
    (normalized : normalizeMember property value = .ok kept) : kept.every p = value.every p := by
  rcases normalizeMember_cases normalized with ⟨_, values, _, -, rfl, done, rfl⟩ | ⟨done, -⟩
  · obtain ⟨-, rfl⟩ := normalizeSet_ok.mp done
    rw [every, every, lists, lists, everyItem_eq, everyItem_eq, sortedSet_every unordered]
  · obtain ⟨-, rfl⟩ := normalizeFree_ok.mp done
    exact every_sortKeys unordered value

omit [DigestText D] [Sha256 D] in
theorem Normalizes.every {p : Value → Bool} (unordered : Unordered p)
    (lists : ∀ items, p (.list items) = true) {properties : List (String × Property)}
    {given kept : Dict} (each : List.Forall₂ (Normalizes properties) given kept) :
    everyMember p kept = everyMember p given := by
  induction each with
  | nil => rfl
  | cons first _ ih =>
      rw [everyMember, everyMember, every_normal unordered lists first.2, ih]

omit [DigestText D] [Sha256 D] in
/-- Normalizing keeps what holds at every place. -/
theorem everyMember_normal {p : Value → Bool} (unordered : Unordered p)
    (lists : ∀ items, p (.list items) = true) {properties : List (String × Property)}
    (normalized : normalize properties members = .ok normal) :
    everyMember p normal = everyMember p members := by
  rw [← everyMember_perm (List.perm_insertionSort MemberLe members)]
  exact Normalizes.every unordered lists (normalize_ok.mp normalized).2

omit [Sha256 D] in
/-- The digest of an accepted object is a text. -/
theorem everyMember_unsigned (accepted : kind.accepts D members = true) {p : Value → Bool}
    (texts : ∀ value, p (.str (.text value)) = true) :
    everyMember p (unsigned kind.digestField members) = everyMember p members := by
  obtain ⟨distinct, -, each⟩ := closed_iff.mp accepted
  obtain ⟨value, found, valid⟩ := each _ (digestProperty kind)
  rw [everyMember_perm (perm_unsigned distinct found), everyMember]
  cases value with
  | str value =>
      cases value with
      | text value =>
          have here : every p (.str (.text value)) = true := texts value
          rw [here, Bool.true_and]
      | lone value => cases valid
  | _ => cases valid

theorem fromJson_rawEvent {raw : Dict} : (ContractObject.fromJson .rawEvent raw :
    Except Raise (ContractObject D .rawEvent)) = .error .unicodeEncode ↔ LosesText D raw := by
  have keyed : ∀ normal, normalize ContractName.rawEvent.properties
      (unsigned ContractName.rawEvent.digestField raw) = .ok normal ↔
      hasTextKeys (.dict (unsigned ContractName.rawEvent.digestField raw)) = true ∧
      everyMember hasTextKeys (unsigned ContractName.rawEvent.digestField raw) = true ∧
      normal = sortMembers ((unsigned ContractName.rawEvent.digestField raw).insertionSort MemberLe) := by
    intro normal
    rw [normalize_ok, normalizeEach_setFree rawEvent_setFree,
      everyMember_perm (List.perm_insertionSort MemberLe _)]
  have lostIff : ∀ {normal : Dict}, normalize ContractName.rawEvent.properties
      (unsigned ContractName.rawEvent.digestField raw) = .ok normal →
      ContractName.rawEvent.accepts D raw = true →
      (encodeMembers normal = none ↔ everyMember isEncodable raw = false) := by
    intro normal normalized accepted
    have coded := isSome_encodeMembers normal
    rw [normalize_textKeys normalized, Bool.true_and,
      everyMember_normal isEncodable_unordered (fun _ => rfl) normalized,
      everyMember_unsigned accepted (fun _ => rfl)] at coded
    rw [← coded]
    cases encodeMembers normal <;> simp
  constructor
  · intro failed
    rcases fromJson_error failed with ⟨_, impossible⟩ | ⟨impossible, -⟩ |
      ⟨-, frozen, accepted, normal, normalized, digits, lost⟩
    · cases impossible
    · cases impossible
    · refine ⟨frozen, accepted, ?_, ?_, (lostIff normalized accepted).mp lost⟩
      · rw [← everyMember_unsigned accepted (p := hasTextKeys) (fun _ => rfl)]
        exact ((keyed normal).mp normalized).2.1
      · rw [← everyMember_unsigned accepted (p := hasDigits) (fun _ => rfl),
          ← everyMember_normal hasDigits_unordered (fun _ => rfl) normalized]
        exact digits
  · rintro ⟨frozen, accepted, textKeys, digits, lone⟩
    have above : hasTextKeys (.dict (unsigned ContractName.rawEvent.digestField raw)) = true := by
      have all := accepts_textKeys accepted
      rw [hasTextKeys, List.all_eq_true] at all ⊢
      exact fun member inside => all member (List.mem_of_mem_filter inside)
    rw [← everyMember_unsigned accepted (p := hasTextKeys) (fun _ => rfl)] at textKeys
    rw [← everyMember_unsigned accepted (p := hasDigits) (fun _ => rfl)] at digits
    obtain ⟨normal, normalized⟩ : ∃ normal, normalize ContractName.rawEvent.properties
        (unsigned ContractName.rawEvent.digestField raw) = .ok normal :=
      ⟨_, (keyed _).mpr ⟨above, textKeys, rfl⟩⟩
    have written : everyMember hasDigits normal = true :=
      (everyMember_normal hasDigits_unordered (fun _ => rfl) normalized).trans digits
    have escapes := canonicalBytes_unicode normalized written ((lostIff normalized accepted).mpr lone)
    apply fromJson_invalid frozen
    unfold ContractName.validate ContractName.expected domainDigest
    rw [ContractName.check_ok.mpr accepted, escapes]
    rfl

end Escape

section Build

theorem unsigned_signed {digest : Value} (fresh : ∀ member ∈ members, member.1 ≠ .text field) :
    unsigned field (members ++ [(.text field, digest)]) = members := by
  rw [unsigned_eq, List.filter_append, List.filter_eq_self.mpr (by simpa using fresh)]
  simp

/-- A contract is built where it will be accepted and has canonical bytes. -/
theorem ContractObject.build_ok {payload : JsonObject}
    (fresh : ∀ member ∈ members, member.1 ≠ .text kind.digestField)
    (frozen : everyMember (fun value => !value.isFloat) members = true)
    (accepted : ∀ digest : D, kind.accepts D (members ++
      [(.text kind.digestField, .str (.text (DigestText.text digest)))]) = true)
    (semantic : ∀ value, semanticValidate kind (members ++ [(.text kind.digestField, value)]) = .ok ())
    (bytes : kind.canonical members = .ok payload) : ∃ object : ContractObject D kind,
      ContractObject.build kind members = .ok object ∧ object.value = members ++
        [(.text kind.digestField, .str (.text object.digest))] := by
  let digest : D := Sha256.sha256 kind.domainPrefix [.json (.obj payload)]
  let signed := members ++ [(.text kind.digestField, .str (.text (DigestText.text digest)))]
  have unsigned_ : unsigned kind.digestField members = members := by
    rw [unsigned_eq, List.filter_eq_self]
    simpa using fresh
  have taken : kind.expected members = .ok digest := by
    refine expected_ok.mpr ⟨payload, ?_, rfl⟩
    rw [unsigned_]
    exact bytes
  have listed : textAt signed kind.digestField = some (DigestText.text digest) := by
    rw [textAt_iff]
    refine StableSort.lookup_of_mem (accepts_keys (accepted digest)) ?_
    simp
  have valid : kind.validate D signed = .ok () := by
    refine validate_ok.mpr ⟨accepted digest, semantic _, digest, ?_, listed⟩
    refine expected_ok.mpr ⟨payload, ?_, rfl⟩
    rw [unsigned_signed fresh]
    exact bytes
  have unfloated : everyMember (fun value => !value.isFloat) signed = true := by
    rw [everyMember_eq, List.all_append, ← everyMember_eq, frozen]
    rfl
  let object : ContractObject D kind := ⟨signed, unfloated, valid⟩
  have named : object.digest = DigestText.text digest := by
    rw [ContractObject.digest, ContractObject.text, listed, Option.getD_some]
  refine ⟨object, ?_, by rw [named]⟩
  have absent : ¬ members.any (fun member => member.1 == .text kind.digestField) = true := by
    rw [List.any_eq_true]
    rintro ⟨member, inside, same⟩
    exact fresh member inside (beq_iff_eq.mp same)
  unfold ContractObject.build
  rw [if_neg absent]
  exact except_bind_ok.mpr ⟨digest, taken, fromJson_ok.mpr rfl⟩

end Build
end CsdFoundry.Admission

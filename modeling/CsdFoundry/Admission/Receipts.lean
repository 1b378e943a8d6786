import CsdFoundry.Admission.Evaluation

/-! The two receipts: they can be built exactly where the tick has decimal digits. -/
namespace CsdFoundry.Admission
open Value
open Registry (except_bind_ok)
variable {D : Type} [DigestText D] [Sha256 D]

theorem canonical_exists {kind : ContractName} {members : Dict}
    (keys : hasTextKeys (.dict members) = true)
    (each : ∀ member ∈ members, ∃ kept,
      normalizeMember (propertyOf kind.properties member.1) member.2 = .ok kept)
    (digits : everyMember hasDigits members = true)
    (encodable : everyMember isEncodable members = true) :
    ∃ payload, kind.canonical members = .ok payload := by
  obtain ⟨normal, normalized⟩ := normalize_exists keys each
  have coded : (encodeMembers normal).isSome = true := by
    rw [isSome_encodeMembers, normalize_textKeys normalized,
      everyMember_normal isEncodable_unordered (fun _ => rfl) normalized, encodable]
    rfl
  obtain ⟨payload, text⟩ := Option.isSome_iff_exists.mp coded
  refine ⟨payload, canonicalBytes_ok.mpr ⟨normal, normalized, ?_, text⟩⟩
  rw [everyMember_normal hasDigits_unordered (fun _ => rfl) normalized, digits]

theorem text_of_lookup {kind : ContractName} {object : ContractObject D kind} {key text : String}
    (found : object.value.lookup (.text key) = some (.str (.text text))) :
    object.text key = text := by
  rw [ContractObject.text, textAt_iff.mpr found, Option.getD_some]

theorem int_of_lookup {kind : ContractName} {object : ContractObject D kind} {key : String}
    {number : Int} (found : object.value.lookup (.text key) = some (.int number)) :
    object.int key = number := by
  rw [ContractObject.int, found]

theorem list_of_lookup {kind : ContractName} {object : ContractObject D kind} {key : String}
    {items : List Value} (found : object.value.lookup (.text key) = some (.list items)) :
    object.list key = items := by
  rw [ContractObject.list, found]

/-- What is built is the members and their digest. -/
theorem ContractObject.build_value {kind : ContractName} {members : Dict}
    {object : ContractObject D kind} (built : ContractObject.build kind members = .ok object) :
    ∃ digest : D, object.value =
      members ++ [(.text kind.digestField, .str (.text (DigestText.text digest)))] := by
  unfold ContractObject.build at built
  split at built
  · cases built
  · obtain ⟨digest, -, built⟩ := except_bind_ok.mp built
    exact ⟨digest, fromJson_ok.mp built⟩

/-- What a built contract holds has decimal digits. -/
theorem build_digits {kind : ContractName} {members : Dict} {object : ContractObject D kind}
    (fresh : ∀ member ∈ members, member.1 ≠ .text kind.digestField)
    (built : ContractObject.build kind members = .ok object) :
    everyMember hasDigits members = true := by
  unfold ContractObject.build at built
  split at built
  · cases built
  · obtain ⟨digest, taken, -⟩ := except_bind_ok.mp built
    obtain ⟨payload, bytes, -⟩ := expected_ok.mp taken
    obtain ⟨normal, normalized, digits, -⟩ := canonicalBytes_ok.mp bytes
    have same : unsigned kind.digestField members = members := by
      rw [unsigned_eq, List.filter_eq_self]
      simpa using fresh
    rw [← same, ← everyMember_normal hasDigits_unordered (fun _ => rfl) normalized, digits]

/-- A set that is in order already, and without repetition. -/
theorem normalizeSet_sorted {items : List Value} (settled : items.map sortKeys = items)
    (keys : items.all (every hasTextKeys) = true)
    (texts : items.all (fun item => item.dumps.isSome) = true)
    (sorted : items.Pairwise (fun a b => setKey a < setKey b)) : normalizeSet items = .ok items := by
  have inOrder : sortedSet items = items := by
    rw [sortedSet, settled]
    exact (sorted.imp fun less => le_of_lt less).insertionSort_eq
  refine normalizeSet_ok.mpr ⟨⟨keys, by rw [settled, texts], ?_⟩, inOrder.symm⟩
  rw [inOrder]
  exact (sorted.map setKey fun _ _ less => ne_of_lt less).isChain

def codeValue (code : FailureCode) : Value := .str (.text code.text)

theorem codes_sorted : FailureCode.all.Pairwise
    (fun a b => setKey (codeValue a) < setKey (codeValue b)) := by
  decide +kernel

theorem mem_all (code : FailureCode) : code ∈ FailureCode.all := by
  cases code <;> decide

@[simp] theorem mem_sortedCodes {codes : List FailureCode} {code : FailureCode} :
    code ∈ sortedCodes codes ↔ code ∈ codes := by
  simp [sortedCodes, mem_all]

theorem sortedCodes_normal (codes : List FailureCode) :
    normalizeSet ((sortedCodes codes).map codeValue) = .ok ((sortedCodes codes).map codeValue) := by
  refine normalizeSet_sorted ?_ ?_ ?_ ?_
  · rw [List.map_map]
    rfl
  · simp [List.all_map, codeValue, every, hasTextKeys]
  · simp [List.all_map, codeValue, dumps, quoted]
  · exact (codes_sorted.sublist List.filter_sublist).map _ fun _ _ less => less

theorem sortedCodes_ne_nil {codes : List FailureCode} (some_ : codes ≠ []) :
    sortedCodes codes ≠ [] := by
  obtain ⟨code, rest, rfl⟩ := List.exists_cons_of_ne_nil some_
  exact List.ne_nil_of_mem (mem_sortedCodes.mpr List.mem_cons_self)

variable {rawDigest policyDigest signatureDigest : String} {tick : Int} {codes : List FailureCode}

omit [Sha256 D] in
theorem isDigest_schema {value : String} (digest : DigestText.isDigest D value = true) :
    Registry.schemaDigest D value = true := by
  rw [Registry.schemaDigest, digest, Bool.true_or]

theorem closed_of_members {σ : Type} {accepts : σ → Value → Bool} {fields : List (String × σ)}
    {members : Dict} (distinct : (members.map (·.1)).Nodup)
    (known : ∀ member ∈ members, ∃ field ∈ fields, member.1 = .text field.1)
    (each : ∀ field ∈ fields, ∃ value, (.text field.1, value) ∈ members ∧
      accepts field.2 value = true) : closed accepts fields members = true := by
  refine closed_iff.mpr ⟨distinct, known, fun field inside => ?_⟩
  obtain ⟨value, listed, accepted⟩ := each field inside
  exact ⟨value, StableSort.lookup_of_mem distinct listed, accepted⟩

/-- The three digests of a receipt. -/
structure Digests (D : Type) [DigestText D] (rawDigest policyDigest signatureDigest : String) :
    Prop where
  raw : DigestText.isDigest D rawDigest = true
  policy : DigestText.isDigest D policyDigest = true
  signatures : DigestText.isDigest D signatureDigest = true

theorem failureMembers_value : everyMember (fun value => !value.isFloat)
      (failureMembers rawDigest policyDigest signatureDigest tick codes) = true ∧
    everyMember isEncodable
      (failureMembers rawDigest policyDigest signatureDigest tick codes) = true ∧
    everyMember hasDigits (failureMembers rawDigest policyDigest signatureDigest tick codes) =
      hasDecimal tick := by
  refine ⟨?_, ?_, ?_⟩ <;>
    simp [failureMembers, everyMember, every, everyItem_eq, List.all_map, isFloat, isEncodable,
      hasDigits, hasTextKeys, isText]

theorem failureMembers_canonical (decimal : hasDecimal tick = true) :
    ∃ payload, ContractName.eventValidationFailure.canonical
      (failureMembers rawDigest policyDigest signatureDigest tick codes) = .ok payload := by
  have set_ : propertyOf ContractName.eventValidationFailure.properties (.text "failure_codes") =
      some (.set (.scalar (.oneOf (FailureCode.all.map FailureCode.text)))) := rfl
  refine canonical_exists rfl ?_ (failureMembers_value.2.2.trans decimal) failureMembers_value.2.1
  intro member inside
  simp only [failureMembers, List.mem_cons, List.not_mem_nil, or_false] at inside
  rcases inside with rfl | rfl | rfl | rfl | rfl | rfl
  case inr.inr.inr.inr.inr =>
    refine ⟨.list ((sortedCodes codes).map codeValue), ?_⟩
    have done := sortedCodes_normal codes
    unfold codeValue at done ⊢
    simp only [set_, normalizeMember, done]
    rfl
  all_goals exact ⟨_, rfl⟩

omit [Sha256 D] in
theorem failureMembers_accepted (digests : Digests D rawDigest policyDigest signatureDigest)
    (natural : 0 ≤ tick) (some_ : codes ≠ []) (digest : D) :
    ContractName.eventValidationFailure.accepts D
      (failureMembers rawDigest policyDigest signatureDigest tick codes ++
        [(.text "failure_receipt_digest", .str (.text (DigestText.text digest)))]) = true := by
  have listed := sortedCodes_ne_nil some_
  refine closed_of_members (by simp [failureMembers])
    (by simp [failureMembers, ContractName.properties]) fun field inside => ?_
  simp only [ContractName.properties, List.mem_cons, List.not_mem_nil, or_false] at inside
  rcases inside with rfl | rfl | rfl | rfl | rfl | rfl | rfl
  · exact ⟨.str (.text "event-validation-failure/1"), by simp [failureMembers], rfl⟩
  · exact ⟨.str (.text rawDigest), by simp [failureMembers], isDigest_schema digests.raw⟩
  · exact ⟨.str (.text policyDigest), by simp [failureMembers], isDigest_schema digests.policy⟩
  · exact ⟨.str (.text signatureDigest), by simp [failureMembers],
      isDigest_schema digests.signatures⟩
  · exact ⟨.int tick, by simp [failureMembers], decide_eq_true natural⟩
  · refine ⟨.list ((sortedCodes codes).map codeValue), by simp [failureMembers, codeValue], ?_⟩
    simp [Property.accepts, Item.accepts, Scalar.accepts, codeValue, mem_all, listed]
  · exact ⟨.str (.text (DigestText.text digest)), by simp [failureMembers],
      isDigest_schema (DigestText.isDigest_text digest)⟩

/-- A failure receipt is built exactly where the tick has decimal digits. -/
theorem failure_built (digests : Digests D rawDigest policyDigest signatureDigest)
    (natural : 0 ≤ tick) (some_ : codes ≠ []) :
    (∃ receipt : ContractObject D .eventValidationFailure,
      ContractObject.build .eventValidationFailure
        (failureMembers rawDigest policyDigest signatureDigest tick codes) = .ok receipt) ↔
      hasDecimal tick = true := by
  have fresh : ∀ member ∈ failureMembers rawDigest policyDigest signatureDigest tick codes,
      member.1 ≠ .text ContractName.eventValidationFailure.digestField := by
    simp [failureMembers, ContractName.digestField]
  constructor
  · rintro ⟨receipt, built⟩
    rw [← failureMembers_value.2.2, build_digits fresh built]
  · intro decimal
    obtain ⟨payload, bytes⟩ := failureMembers_canonical decimal
    obtain ⟨receipt, built, -⟩ := ContractObject.build_ok fresh failureMembers_value.1
      (failureMembers_accepted (D := D) digests natural some_)
      (fun _ => if_neg (fun both => by cases both.1)) bytes
    exact ⟨receipt, built⟩

theorem acceptedMembers_canonical (decimal : hasDecimal tick = true) :
    ∃ payload, ContractName.validatedEvent.canonical
      (acceptedMembers rawDigest policyDigest signatureDigest tick) = .ok payload := by
  refine canonical_exists rfl ?_ ?_ rfl
  · intro member inside
    simp only [acceptedMembers, List.mem_cons, List.not_mem_nil, or_false] at inside
    rcases inside with rfl | rfl | rfl | rfl | rfl | rfl
    all_goals exact ⟨_, rfl⟩
  · simp [acceptedMembers, everyMember, every, hasDigits, decimal]

omit [Sha256 D] in
theorem acceptedMembers_accepted (digests : Digests D rawDigest policyDigest signatureDigest)
    (natural : 0 ≤ tick) (digest : D) :
    ContractName.validatedEvent.accepts D
      (acceptedMembers rawDigest policyDigest signatureDigest tick ++
        [(.text "validated_event_digest", .str (.text (DigestText.text digest)))]) = true := by
  refine closed_of_members (by simp [acceptedMembers])
    (by simp [acceptedMembers, ContractName.properties]) fun field inside => ?_
  simp only [ContractName.properties, List.mem_cons, List.not_mem_nil, or_false] at inside
  rcases inside with rfl | rfl | rfl | rfl | rfl | rfl | rfl
  · exact ⟨.str (.text "validated-event/1"), by simp [acceptedMembers], rfl⟩
  · exact ⟨.str (.text rawDigest), by simp [acceptedMembers], isDigest_schema digests.raw⟩
  · exact ⟨.str (.text policyDigest), by simp [acceptedMembers], isDigest_schema digests.policy⟩
  · exact ⟨.str (.text signatureDigest), by simp [acceptedMembers],
      isDigest_schema digests.signatures⟩
  · exact ⟨.str (.text "ACCEPTED"), by simp [acceptedMembers], rfl⟩
  · exact ⟨.int tick, by simp [acceptedMembers], decide_eq_true natural⟩
  · exact ⟨.str (.text (DigestText.text digest)), by simp [acceptedMembers],
      isDigest_schema (DigestText.isDigest_text digest)⟩

theorem accepted_built (digests : Digests D rawDigest policyDigest signatureDigest)
    (natural : 0 ≤ tick) (decimal : hasDecimal tick = true) :
    ∃ receipt : ContractObject D .validatedEvent, ContractObject.build .validatedEvent
      (acceptedMembers rawDigest policyDigest signatureDigest tick) = .ok receipt ∧
      receipt.value = acceptedMembers rawDigest policyDigest signatureDigest tick ++
        [(.text "validated_event_digest", .str (.text receipt.digest))] := by
  obtain ⟨payload, bytes⟩ := acceptedMembers_canonical decimal
  refine ContractObject.build_ok ?_ rfl (acceptedMembers_accepted digests natural) ?_ bytes
  · simp [acceptedMembers, ContractName.digestField]
  · intro value
    refine if_neg fun both => both.2 ?_
    rw [textAt_iff]
    rfl

end CsdFoundry.Admission

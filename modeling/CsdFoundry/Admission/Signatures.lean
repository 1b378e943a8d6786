import CsdFoundry.Admission.Engine

/-! The loop over the signatures: which codes it adds and which signers it counts. Records of
different signers may change places. -/
namespace CsdFoundry.Admission
variable {D : Type} [DigestText D] [Sha256 D]

/-- The records of a signature set. Every item is one, see `countSignatures_ok`. -/
def ContractObject.records (signatures : ContractObject D .signatureSet) : List SignatureRecord :=
  (signatures.list "signatures").filterMap fun item => (SignatureRecord.fromJson D item).toOption

variable (D) in
/-- Every signed digest is a digest as a whole. -/
def Readable (items : List Value) : Prop :=
  ∀ item ∈ items, ∃ signature, SignatureRecord.fromJson D item = .ok signature

@[simp] theorem mem_failing {condition : Prop} [Decidable condition] {code other : FailureCode} :
    other ∈ failing condition code ↔ condition ∧ other = code := by
  unfold failing
  split <;> simp_all

@[simp] theorem failing_eq_nil {condition : Prop} [Decidable condition] {code : FailureCode} :
    failing condition code = [] ↔ ¬ condition := by
  unfold failing
  split <;> simp_all

namespace EventAdmissionEngine
variable {engine : EventAdmissionEngine D} {rawDigest : String} {allowed : List PyStr}
  {authorised : Option (SignatureRecord → Bool)} {tally : Tally}

/-- The loop once the records are read. -/
def countRecords (engine : EventAdmissionEngine D) (rawDigest : String) (allowed : List PyStr)
    (authorised : Option (SignatureRecord → Bool)) (tally : Tally)
    (records : List SignatureRecord) : Tally :=
  records.foldl (engine.countSignature rawDigest allowed authorised) tally

theorem countSignatures_ok {items : List Value} (readable : Readable D items) :
    engine.countSignatures rawDigest allowed authorised tally items =
      .ok (engine.countRecords rawDigest allowed authorised tally
        (items.filterMap fun item => (SignatureRecord.fromJson D item).toOption)) := by
  induction items generalizing tally with
  | nil => rfl
  | cons item items ih =>
      obtain ⟨signature, read⟩ := readable item List.mem_cons_self
      rw [countSignatures, read]
      simp only [bind, Except.bind]
      rw [ih fun other inside => readable other (List.mem_cons_of_mem _ inside),
        List.filterMap_cons, read]
      rfl

theorem countSignatures_error {items : List Value} (unreadable : ¬ Readable D items) :
    ∃ e, engine.countSignatures rawDigest allowed authorised tally items = .error e := by
  induction items generalizing tally with
  | nil => exact absurd (fun _ inside => nomatch inside) unreadable
  | cons item items ih =>
      rw [countSignatures]
      cases read : SignatureRecord.fromJson D item with
      | error e => exact ⟨e, rfl⟩
      | ok signature =>
          refine ih fun rest => unreadable fun other inside => ?_
          rcases List.mem_cons.mp inside with rfl | later
          · exact ⟨signature, read⟩
          · exact rest other later

/-- The codes of a record on its own. -/
def ownCodes (engine : EventAdmissionEngine D) (rawDigest : String) (allowed : List PyStr)
    (authorised : Option (SignatureRecord → Bool)) (signature : SignatureRecord) :
    List FailureCode := engine.recordCodes rawDigest allowed [] authorised signature

theorem mem_recordCodes {seen : List PyStr} {signature : SignatureRecord} {code : FailureCode} :
    code ∈ engine.recordCodes rawDigest allowed seen authorised signature ↔
      code ∈ engine.ownCodes rawDigest allowed authorised signature ∨
      (code = .signatureInvalid ∧ signature.signerId ∈ seen) := by
  simp only [ownCodes, recordCodes, List.mem_append, mem_failing, List.not_mem_nil, false_and,
    false_or]
  tauto

theorem recordCodes_eq_nil {seen : List PyStr} {signature : SignatureRecord} :
    engine.recordCodes rawDigest allowed seen authorised signature = [] ↔
      engine.ownCodes rawDigest allowed authorised signature = [] ∧ signature.signerId ∉ seen := by
  simp only [ownCodes, recordCodes, List.append_eq_nil_iff, failing_eq_nil, List.not_mem_nil,
    not_false_eq_true, true_and]
  tauto

/-- A signer appears again, or has been seen before. -/
def Repeats (seen : List PyStr) (records : List SignatureRecord) : Prop :=
  ¬ ((records.map (·.signerId)).Nodup ∧ ∀ record ∈ records, record.signerId ∉ seen)

theorem repeats_cons {seen : List PyStr} {record : SignatureRecord}
    {records : List SignatureRecord} : Repeats seen (record :: records) ↔
      record.signerId ∈ seen ∨ Repeats (record.signerId :: seen) records := by
  unfold Repeats
  simp only [List.map_cons, List.nodup_cons, List.mem_map, List.mem_cons, forall_eq_or_imp, not_or,
    not_exists, not_and]
  grind

theorem mem_countRecords {records : List SignatureRecord} {code : FailureCode} :
    code ∈ (engine.countRecords rawDigest allowed authorised tally records).codes ↔
      code ∈ tally.codes ∨
      (∃ record ∈ records, code ∈ engine.ownCodes rawDigest allowed authorised record) ∨
      (code = .signatureInvalid ∧ Repeats tally.seen records) := by
  induction records generalizing tally with
  | nil => simp [countRecords, Repeats]
  | cons record records ih =>
      rw [countRecords, List.foldl_cons, ← countRecords, ih]
      simp only [countSignature, List.mem_append, mem_recordCodes, repeats_cons, List.mem_cons,
        exists_eq_or_imp, and_or_left]
      generalize (∃ other ∈ records, code ∈ engine.ownCodes rawDigest allowed authorised other) = own
      tauto

/-- A signer counts when its first record passes. -/
theorem mem_valid {records : List SignatureRecord} {signer : PyStr} :
    signer ∈ (engine.countRecords rawDigest allowed authorised tally records).valid ↔
      signer ∈ tally.valid ∨ (authorised.isSome = true ∧ signer ∉ tally.seen ∧
        ∃ record, (records.filter (·.signerId = signer)).head? = some record ∧
          engine.ownCodes rawDigest allowed authorised record = []) := by
  induction records generalizing tally with
  | nil => simp [countRecords]
  | cons record records ih =>
      rw [countRecords, List.foldl_cons, ← countRecords, ih, List.filter_cons]
      simp only [countSignature, recordCodes_eq_nil]
      by_cases mine : record.signerId = signer
      · subst mine
        simp only [List.mem_cons, true_or, not_true_eq_false, false_and, and_false, or_false,
          decide_true, if_true, List.head?_cons, Option.some.injEq, exists_eq_left']
        split
        · rename_i passes
          simp only [List.mem_insert_iff]
          tauto
        · rename_i fails
          tauto
      · have other : signer ≠ record.signerId := Ne.symm mine
        simp only [mine, decide_false, Bool.false_eq_true, if_false, List.mem_cons, other, false_or]
        split
        · simp only [List.mem_insert_iff, other, false_or]
        · rfl

theorem valid_nodup {records : List SignatureRecord} (distinct : tally.valid.Nodup) :
    (engine.countRecords rawDigest allowed authorised tally records).valid.Nodup := by
  induction records generalizing tally with
  | nil => exact distinct
  | cons record records ih =>
      rw [countRecords, List.foldl_cons, ← countRecords]
      refine ih ?_
      simp only [countSignature]
      split
      · exact distinct.insert
      · exact distinct

/-- Records of different signers may change places, those of one signer may not: the later
ones fail for being later. -/
structure Rearranged (records records' : List SignatureRecord) : Prop where
  perm : records.Perm records'
  perSigner : ∀ signer, records.filter (·.signerId = signer) = records'.filter (·.signerId = signer)

theorem Rearranged.codes {records records' : List SignatureRecord}
    (rearranged : Rearranged records records') (code : FailureCode) :
    code ∈ (engine.countRecords rawDigest allowed authorised tally records).codes ↔
    code ∈ (engine.countRecords rawDigest allowed authorised tally records').codes := by
  have repeated : Repeats tally.seen records ↔ Repeats tally.seen records' := by
    unfold Repeats
    rw [(rearranged.perm.map (·.signerId)).nodup_iff]
    simp only [rearranged.perm.mem_iff]
  rw [mem_countRecords, mem_countRecords, repeated]
  simp only [rearranged.perm.mem_iff]

theorem Rearranged.counted {records records' : List SignatureRecord}
    (rearranged : Rearranged records records') (distinct : tally.valid.Nodup) :
    (engine.countRecords rawDigest allowed authorised tally records).valid.length =
    (engine.countRecords rawDigest allowed authorised tally records').valid.length := by
  refine List.Perm.length_eq ?_
  rw [List.perm_ext_iff_of_nodup (valid_nodup distinct) (valid_nodup distinct)]
  intro signer
  rw [mem_valid, mem_valid, rearranged.perSigner]

/-- A record that passes on its own. -/
structure Passes (engine : EventAdmissionEngine D) (rawDigest : String) (allowed : List PyStr)
    (allows : SignatureRecord → Bool) (record : SignatureRecord) : Prop where
  target : record.signedDigest = .text rawDigest
  algorithm : record.algorithm ∈ allowed
  verified : engine.verify record rawDigest = true
  authorised : allows record = true

theorem ownCodes_eq_nil {allows : SignatureRecord → Bool} {record : SignatureRecord} :
    engine.ownCodes rawDigest allowed (some allows) record = [] ↔
      engine.Passes rawDigest allowed allows record := by
  simp only [ownCodes, recordCodes, List.append_eq_nil_iff, failing_eq_nil, List.not_mem_nil,
    not_false_eq_true, true_and, Decidable.not_not, Bool.not_eq_false, Option.any_some,
    Bool.not_eq_true']
  constructor
  · rintro ⟨⟨⟨target, algorithm⟩, verified⟩, authorised⟩
    exact ⟨target, algorithm, verified, authorised⟩
  · rintro ⟨target, algorithm, verified, authorised⟩
    exact ⟨⟨⟨target, algorithm⟩, verified⟩, authorised⟩

theorem countRecords_eq_nil {records : List SignatureRecord} :
    (engine.countRecords rawDigest allowed authorised ⟨[], [], []⟩ records).codes = [] ↔
      (records.map (·.signerId)).Nodup ∧
      ∀ record ∈ records, engine.ownCodes rawDigest allowed authorised record = [] := by
  have members : ∀ code, code ∈
      (engine.countRecords rawDigest allowed authorised ⟨[], [], []⟩ records).codes ↔
      (∃ record ∈ records, code ∈ engine.ownCodes rawDigest allowed authorised record) ∨
      (code = .signatureInvalid ∧ ¬ (records.map (·.signerId)).Nodup) := by
    intro code
    rw [mem_countRecords]
    simp [Repeats]
  rw [List.eq_nil_iff_forall_not_mem]
  constructor
  · intro none_
    constructor
    · by_contra repeats
      exact none_ .signatureInvalid ((members _).mpr (.inr ⟨rfl, repeats⟩))
    · intro record inside
      rw [List.eq_nil_iff_forall_not_mem]
      exact fun code own => none_ code ((members code).mpr (.inl ⟨record, inside, own⟩))
  · rintro ⟨distinct, own⟩ code member
    rcases (members code).mp member with ⟨record, inside, coded⟩ | ⟨-, repeats⟩
    · rw [own record inside] at coded
      cases coded
    · exact repeats distinct

/-- Where every record passes, every record counts. -/
theorem counted_all {records : List SignatureRecord} (asked : authorised.isSome = true)
    (distinct : (records.map (·.signerId)).Nodup)
    (own : ∀ record ∈ records, engine.ownCodes rawDigest allowed authorised record = []) :
    (engine.countRecords rawDigest allowed authorised ⟨[], [], []⟩ records).valid.length =
      records.length := by
  have perm : (engine.countRecords rawDigest allowed authorised ⟨[], [], []⟩ records).valid.Perm
      (records.map (·.signerId)) := by
    rw [List.perm_ext_iff_of_nodup (valid_nodup List.nodup_nil) distinct]
    intro signer
    rw [mem_valid, List.mem_map]
    constructor
    · rintro (impossible | ⟨-, -, record, first, -⟩)
      · cases impossible
      · obtain ⟨inside, mine⟩ := List.mem_filter.mp (List.mem_of_mem_head? first)
        exact ⟨record, inside, by simpa using mine⟩
    · rintro ⟨record, inside, rfl⟩
      have some_ : record ∈ records.filter (fun other => other.signerId = record.signerId) :=
        List.mem_filter.mpr ⟨inside, by simp⟩
      obtain ⟨first, rest, listed⟩ := List.exists_cons_of_ne_nil (List.ne_nil_of_mem some_)
      have firstIn : first ∈ records := List.mem_of_mem_filter (listed ▸ List.mem_cons_self)
      exact .inr ⟨asked, List.not_mem_nil, first, by rw [listed]; rfl, own first firstIn⟩
  rw [perm.length_eq, List.length_map]

end EventAdmissionEngine
end CsdFoundry.Admission

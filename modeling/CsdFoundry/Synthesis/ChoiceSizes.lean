import CsdFoundry.StableSort
import CsdFoundry.Synthesis.ChoiceReplay

/-! The bytes of a ledger do not depend on the order that its records come in, and fewer records
do not have more bytes. -/
namespace CsdFoundry.Synthesis.Choices
open Admission Admission.Value Encoding Results

instance : IsTrans (List UInt8 × ChoiceRecord) PathLe := ⟨fun _ _ _ first second => le_trans first second⟩

instance : Std.Total PathLe := ⟨fun a b => le_total a.1 b.1⟩

section Sorting
variable {records ordered : List ChoiceRecord} {pairs : List (List UInt8 × ChoiceRecord)}

theorem pathKeyed_ok {record : ChoiceRecord} {pair : List UInt8 × ChoiceRecord} :
    pathKeyed record = .ok pair ↔ pair.2 = record ∧ record.path.bytes = .ok pair.1 := by
  unfold pathKeyed
  cases record.path.bytes with
  | error failure => simp [Except.map]
  | ok bytes =>
      constructor
      · rintro ⟨⟩
        exact ⟨rfl, rfl⟩
      · rintro ⟨rfl, same⟩
        cases same
        rfl

theorem keyed_iff : collect (records.map pathKeyed) = .ok pairs ↔
    pairs.map (·.2) = records ∧ ∀ pair ∈ pairs, pair.2.path.bytes = .ok pair.1 := by
  rw [collect_eq_ok]
  induction records generalizing pairs with
  | nil =>
      rw [List.map_nil, eq_comm, List.map_eq_nil_iff, List.map_eq_nil_iff]
      constructor
      · rintro rfl
        exact ⟨rfl, by simp⟩
      · exact fun facts => facts.1
  | cons record records ih =>
      rw [List.map_cons, eq_comm, List.map_eq_cons_iff, List.map_eq_cons_iff]
      constructor
      · rintro ⟨pair, rest, rfl, first, others⟩
        obtain ⟨rfl, bytes⟩ := pathKeyed_ok.mp first.symm
        obtain ⟨rfl, keyed⟩ := ih.mp others.symm
        exact ⟨⟨pair, rest, rfl, rfl, rfl⟩, List.forall_mem_cons.mpr ⟨bytes, keyed⟩⟩
      · rintro ⟨⟨pair, rest, rfl, rfl, rfl⟩, keyed⟩
        obtain ⟨bytes, keyed⟩ := List.forall_mem_cons.mp keyed
        exact ⟨pair, rest, rfl, (pathKeyed_ok.mpr ⟨rfl, bytes⟩).symm, (ih.mpr ⟨rfl, keyed⟩).symm⟩

theorem sortedRecords_ok : sortedRecords records = .ok ordered ↔
    ∃ pairs, collect (records.map pathKeyed) = .ok pairs ∧
      ordered = (pairs.insertionSort PathLe).map (·.2) := by
  unfold sortedRecords
  rw [bind_ok]
  exact exists_congr fun pairs => and_congr_right fun _ => by
    rw [Except.ok.injEq, eq_comm]

theorem sortedRecords_perm (sorted : sortedRecords records = .ok ordered) :
    ordered.Perm records := by
  obtain ⟨pairs, keyed, rfl⟩ := sortedRecords_ok.mp sorted
  obtain ⟨rfl, -⟩ := keyed_iff.mp keyed
  exact (List.perm_insertionSort PathLe pairs).map _

theorem sortedRecords_exists : (∃ ordered, sortedRecords records = .ok ordered) ↔
    ∀ record ∈ records, ∃ bytes, record.path.bytes = .ok bytes := by
  constructor
  · rintro ⟨ordered, sorted⟩ record member
    obtain ⟨pairs, keyed, -⟩ := sortedRecords_ok.mp sorted
    obtain ⟨rfl, bytes⟩ := keyed_iff.mp keyed
    obtain ⟨pair, among, rfl⟩ := List.mem_map.mp member
    exact ⟨pair.1, bytes pair among⟩
  · intro encodes
    induction records with
    | nil => exact ⟨[], rfl⟩
    | cons record records ih =>
        obtain ⟨⟨bytes, first⟩, others⟩ := List.forall_mem_cons.mp encodes
        obtain ⟨ordered, sorted⟩ := ih others
        obtain ⟨pairs, keyed, -⟩ := sortedRecords_ok.mp sorted
        obtain ⟨rfl, encoded⟩ := keyed_iff.mp keyed
        refine ⟨_, sortedRecords_ok.mpr ⟨(bytes, record) :: pairs, keyed_iff.mpr ⟨rfl, ?_⟩, rfl⟩⟩
        exact List.forall_mem_cons.mpr ⟨first, encoded⟩

theorem keys_of_keyed (encoded : ∀ pair ∈ pairs, pair.2.path.bytes = .ok pair.1)
    {keys : List (List UInt8)}
    (bytes : (pairs.map (·.2)).map (fun record => record.path.bytes) = keys.map .ok) :
    pairs.map (·.1) = keys := by
  rw [List.map_map] at bytes
  have results : pairs.map (fun pair => pair.2.path.bytes) = (pairs.map (·.1)).map .ok := by
    rw [List.map_map]
    exact List.map_congr_left encoded
  exact List.map_injective_iff.mpr (fun _ _ equal => Except.ok.inj equal) (results.symm.trans bytes)

/-- The sorted records of distinct paths do not depend on the order they come in. -/
theorem sortedRecords_exchange {records' : List ChoiceRecord} (same : records.Perm records')
    (sorted : sortedRecords records = .ok ordered) {keys : List (List UInt8)}
    (bytes : records.map (fun record => record.path.bytes) = keys.map .ok) (distinct : keys.Nodup) :
    sortedRecords records' = .ok ordered := by
  obtain ⟨pairs, keyed, rfl⟩ := sortedRecords_ok.mp sorted
  obtain ⟨rfl, encoded⟩ := keyed_iff.mp keyed
  obtain ⟨pairs', rfl, perm⟩ := image_perm same rfl
  have sameKeys : pairs.map (·.1) = keys := keys_of_keyed encoded bytes
  refine sortedRecords_ok.mpr ⟨pairs', keyed_iff.mpr ⟨rfl, ?_⟩, ?_⟩
  · intro pair member
    exact encoded pair (perm.mem_iff.mpr member)
  · congr 1
    apply StableSort.insertionSort_perm perm
    intro a inA b inB below above
    rw [← sameKeys] at distinct
    exact List.inj_on_of_nodup_map distinct inA inB (le_antisymm below above)

end Sorting

section Bytes
variable [HashBytes] {inputs : SessionInputs} {records records' : List ChoiceRecord}

/-- The integers of a ledger are those of its attempt and of its records. -/
theorem ledger_hasDigits : (ledgerOf inputs records).json.every hasDigits = true ↔
    (ledgerOf inputs []).json.every hasDigits = true ∧
      ∀ record ∈ records, record.json.every hasDigits = true := by
  simp only [ledgerOf, ChoiceLedger.json, jsonDict, every_dict, List.map_cons, List.map_nil,
    List.forall_mem_cons, every_list, List.forall_mem_map]
  simp [hasDigits, and_assoc, and_comm, and_left_comm]

theorem ledger_weight_perm (same : records.Perm records') :
    weight (ledgerOf inputs records).json = weight (ledgerOf inputs records').json := by
  have items : weightItems (records.map ChoiceRecord.json) =
      weightItems (records'.map ChoiceRecord.json) := by
    rw [weightItems_eq, weightItems_eq]
    exact ((same.map _).map _).sum_eq
  simp only [ledgerOf, ChoiceLedger.json, jsonDict, List.map_cons, weight, weightMembers, items]

theorem ledger_weight_append : weight (ledgerOf inputs records).json ≤
    weight (ledgerOf inputs (records ++ records')).json := by
  have items : weightItems (records.map ChoiceRecord.json) ≤
      weightItems ((records ++ records').map ChoiceRecord.json) := by
    rw [weightItems_eq, weightItems_eq, List.map_append, List.map_append, List.sum_append]
    omega
  simp only [ledgerOf, ChoiceLedger.json, jsonDict, List.map_cons, weight, weightMembers]
  omega

/-- A record adds its own text and at most a comma. -/
theorem ledger_weight_cons {record : ChoiceRecord} :
    weight (ledgerOf inputs (record :: records)).json ≤
      weight (ledgerOf inputs records).json + weight record.json + 1 := by
  simp only [ledgerOf, ChoiceLedger.json, jsonDict, List.map_cons, weight, weightMembers,
    weightItems]
  omega

/-- A ledger of the records has so many bytes, whatever order they come in. -/
structure Measured (inputs : SessionInputs) (records : List ChoiceRecord) (size : Nat) : Prop where
  encodes : ∀ record ∈ records, ∃ bytes, record.path.bytes = .ok bytes
  digits : (ledgerOf inputs records).json.every hasDigits = true
  weighs : size = weight (ledgerOf inputs records).json + 1

theorem Measured.perm {size : Nat} (measured : Measured inputs records size)
    (same : records.Perm records') : Measured inputs records' size := by
  refine ⟨?_, ?_, ?_⟩
  · intro record member
    exact measured.encodes record (same.mem_iff.mpr member)
  · obtain ⟨attempt, digits⟩ := ledger_hasDigits.mp measured.digits
    exact ledger_hasDigits.mpr ⟨attempt, fun record member => digits record (same.mem_iff.mpr member)⟩
  · rw [measured.weighs, ledger_weight_perm same]

/-- Fewer records do not have more bytes. -/
theorem Measured.of_append {size : Nat} (measured : Measured inputs (records ++ records') size) :
    ∃ smaller, Measured inputs records smaller ∧ smaller ≤ size := by
  refine ⟨_, ⟨?_, ?_, rfl⟩, ?_⟩
  · intro record member
    exact measured.encodes record (List.mem_append_left _ member)
  · obtain ⟨attempt, digits⟩ := ledger_hasDigits.mp measured.digits
    refine ledger_hasDigits.mpr ⟨attempt, fun record member => ?_⟩
    exact digits record (List.mem_append_left _ member)
  · have less : weight (ledgerOf inputs records).json ≤
        weight (ledgerOf inputs (records ++ records')).json := ledger_weight_append
    rw [measured.weighs]
    omega

theorem canonicalBytes_ok {size : Nat} :
    (∃ bytes, (ledgerOf inputs records).canonicalBytes = .ok bytes ∧ bytes.length = size) ↔
      (ledgerOf inputs records).json.every hasDigits = true ∧
        size = weight (ledgerOf inputs records).json + 1 := by
  have built := (ledgerOf inputs records).built
  constructor
  · rintro ⟨bytes, encoded, rfl⟩
    exact ⟨(jsonBytes_exists built).mp ⟨bytes, encoded⟩, jsonBytes_length built encoded⟩
  · rintro ⟨digits, rfl⟩
    obtain ⟨bytes, encoded⟩ := (jsonBytes_exists built).mpr digits
    exact ⟨bytes, encoded, jsonBytes_length built encoded⟩

theorem ledgerBytesFor_ok {size : Nat} :
    ledgerBytesFor inputs records = .ok size ↔ Measured inputs records size := by
  unfold ledgerBytesFor
  rw [bind_ok]
  constructor
  · rintro ⟨ordered, sorted, measured⟩
    obtain ⟨bytes, encoded, length⟩ := bind_ok.mp measured
    obtain ⟨digits, weighs⟩ := canonicalBytes_ok.mp ⟨bytes, encoded, Except.ok.inj length⟩
    have perm := sortedRecords_perm sorted
    have encodes : ∀ record ∈ ordered, ∃ bytes, record.path.bytes = .ok bytes := by
      intro record member
      exact sortedRecords_exists.mp ⟨ordered, sorted⟩ record (perm.mem_iff.mp member)
    exact Measured.perm ⟨encodes, digits, weighs⟩ perm
  · intro measured
    obtain ⟨ordered, sorted⟩ := sortedRecords_exists.mpr measured.encodes
    have there := measured.perm (sortedRecords_perm sorted).symm
    obtain ⟨bytes, encoded, length⟩ := canonicalBytes_ok.mpr ⟨there.digits, there.weighs⟩
    exact ⟨ordered, sorted, bind_ok.mpr ⟨bytes, encoded, congrArg Except.ok length⟩⟩

end Bytes

end CsdFoundry.Synthesis.Choices

import CsdFoundry.Synthesis.ChoiceEncoding

/-! Live drawing and replay go through one production of records, and a record that replays is
the one that is produced. -/
namespace CsdFoundry.Synthesis.Choices
open Admission Admission.Value Encoding Results

theorem require_ok {condition : Prop} [Decidable condition] {otherwise : ChoiceFailure} {u : Unit} :
    require condition otherwise = .ok u ↔ condition := by
  unfold require
  split <;> simp_all

theorem require_bind {condition : Prop} [Decidable condition] {otherwise : ChoiceFailure}
    {next : Unit → Except ChoiceFailure β} {b : β} :
    (require condition otherwise >>= next) = .ok b ↔ condition ∧ next () = .ok b := by
  rw [bind_ok]
  constructor
  · rintro ⟨u, held, rest⟩
    exact ⟨require_ok.mp held, rest⟩
  · rintro ⟨held, rest⟩
    exact ⟨(), require_ok.mpr held, rest⟩

def Choice.path : Choice → ChoicePath
  | .boundedInteger path _ => path
  | .weightedChoice path _ _ => path
  | .chooseRatio path _ _ => path

/-- The path and the domain of a record. -/
def ChoiceRecord.choice : ChoiceRecord → Choice
  | .bounded record => .boundedInteger record.path record.upperExclusive
  | .weighted record => .weightedChoice record.path record.values record.weights
  | .ratio record => .chooseRatio record.path record.numerator record.denominator

section Produce
variable [HashBytes] (seed : RootSeed) (generationNamespace : GenerationNamespace)

/-- What the primitive of a choice produces for its path and its domain. -/
def produce : Choice → Except ChoiceFailure ChoiceRecord
  | .boundedInteger path upperExclusive => do
      let result ← boundedInteger seed path upperExclusive
      recordFromBoundedResult path generationNamespace.digest seed.commitment upperExclusive result
  | .weightedChoice path values weights => do
      let result ← weightedChoice seed path (values.map CanonicalValue.json) weights
      recordFromWeightedResult path generationNamespace.digest seed.commitment values weights result
  | .chooseRatio path numerator denominator => do
      let result ← chooseRatio seed path numerator denominator
      recordFromBooleanResult path generationNamespace.digest seed.commitment numerator denominator
        result

/-- A live choice draws its record by that production. -/
theorem perform_choice (inputs : SessionInputs) (session : ChoiceSession) (choice : Choice) :
    perform inputs session (.choice choice) = answered (choose inputs session choice.path
      (produce inputs.seed inputs.generationNamespace choice)) := by
  cases choice <;> rfl

/-- Replay draws a record again by that production. -/
theorem replayedRecord_eq (record : ChoiceRecord) :
    replayedRecord seed generationNamespace record = (do
      require (record.seedCommitment = seed.commitment) .replayMismatch
      require (record.generationNamespaceDigest = generationNamespace.digest) .replayMismatch
      produce seed generationNamespace record.choice) := by
  cases record <;> rfl

variable {seed generationNamespace} {choice : Choice} {record : ChoiceRecord}

/-- A produced record keeps its path and domain, and the commitments it was produced under. -/
structure Produced (seed : RootSeed) (generationNamespace : GenerationNamespace) (choice : Choice)
    (record : ChoiceRecord) : Prop where
  choice : record.choice = choice
  commitment : record.seedCommitment = seed.commitment
  digest : record.generationNamespaceDigest = generationNamespace.digest
  isCommitment : isHexDigest seed.commitment = true
  isDigest : isHexDigest generationNamespace.digest = true

theorem produce_ok (produced : produce seed generationNamespace choice = .ok record) :
    Produced seed generationNamespace choice record := by
  cases choice with
  | boundedInteger path upperExclusive =>
      obtain ⟨result, -, recorded⟩ := bind_ok.mp produced
      obtain ⟨evidence, -, checks⟩ := bind_ok.mp recorded
      obtain ⟨digest, checks⟩ := require_bind.mp checks
      obtain ⟨commitment, checks⟩ := require_bind.mp checks
      obtain ⟨-, checks⟩ := require_bind.mp checks
      obtain ⟨-, checks⟩ := require_bind.mp checks
      obtain ⟨-, checks⟩ := require_bind.mp checks
      cases checks
      exact ⟨rfl, rfl, rfl, commitment, digest⟩
  | weightedChoice path values weights =>
      obtain ⟨result, -, recorded⟩ := bind_ok.mp produced
      obtain ⟨_, -, checks⟩ := bind_ok.mp recorded
      obtain ⟨ticket, -, checks⟩ := bind_ok.mp checks
      obtain ⟨digest, checks⟩ := require_bind.mp checks
      obtain ⟨commitment, checks⟩ := require_bind.mp checks
      obtain ⟨-, checks⟩ := require_bind.mp checks
      obtain ⟨-, checks⟩ := require_bind.mp checks
      obtain ⟨-, checks⟩ := require_bind.mp checks
      obtain ⟨encoded, -, checks⟩ := bind_ok.mp checks
      obtain ⟨-, checks⟩ := require_bind.mp checks
      obtain ⟨-, checks⟩ := require_bind.mp checks
      obtain ⟨-, checks⟩ := require_bind.mp checks
      obtain ⟨-, checks⟩ := require_bind.mp checks
      cases checks
      exact ⟨rfl, rfl, rfl, commitment, digest⟩
  | chooseRatio path numerator denominator =>
      obtain ⟨result, -, recorded⟩ := bind_ok.mp produced
      obtain ⟨ticket, -, checks⟩ := bind_ok.mp recorded
      obtain ⟨digest, checks⟩ := require_bind.mp checks
      obtain ⟨commitment, checks⟩ := require_bind.mp checks
      obtain ⟨-, checks⟩ := require_bind.mp checks
      obtain ⟨-, checks⟩ := require_bind.mp checks
      obtain ⟨-, checks⟩ := require_bind.mp checks
      cases checks
      exact ⟨rfl, rfl, rfl, commitment, digest⟩

omit [HashBytes] in
theorem ChoiceRecord.path_choice (record : ChoiceRecord) : record.choice.path = record.path := by
  cases record <;> rfl

/-- A record that was drawn live replays to itself. -/
theorem replayedRecord_produced (produced : produce seed generationNamespace choice = .ok record) :
    replayedRecord seed generationNamespace record = .ok record := by
  have facts := produce_ok produced
  rw [replayedRecord_eq, facts.choice, produced, require, if_pos facts.commitment, require,
    if_pos facts.digest]
  rfl

theorem replayChoiceRecord_produced {bytes : List UInt8}
    (produced : produce seed generationNamespace choice = .ok record)
    (encoded : choiceRecordBytes record = .ok bytes) :
    replayChoiceRecord seed generationNamespace record = .ok () := by
  refine bind_ok.mpr ⟨record, replayedRecord_produced produced, ?_⟩
  refine bind_ok.mpr ⟨bytes, encoded, bind_ok.mpr ⟨bytes, encoded, require_ok.mpr rfl⟩⟩

end Produce

/-- Records of one choice and of the same commitments are told apart by their bytes. -/
theorem ChoiceRecord.eq_of_written {record record' : ChoiceRecord}
    (choice : record.choice = record'.choice)
    (commitment : record.seedCommitment = record'.seedCommitment)
    (digest : record.generationNamespaceDigest = record'.generationNamespaceDigest)
    (same : sortCodes record.json = sortCodes record'.json) : record = record' := by
  cases record with
  | bounded record =>
      cases record' with
      | bounded record' =>
          obtain ⟨path, domain⟩ := Choice.boundedInteger.inj choice
          have evidence := BoundedIntegerEvidence.json_injective _ _
            (@member_injective _ _ (by simp) same "evidence" record.evidence.json
              record'.evidence.json (by simp) (by simp))
          cases record
          cases record'
          simp_all [ChoiceRecord.seedCommitment, ChoiceRecord.generationNamespaceDigest]
      | weighted | ratio => cases choice
  | weighted record =>
      cases record' with
      | weighted record' =>
          obtain ⟨path, values, weights⟩ := Choice.weightedChoice.inj choice
          have ticket := BoundedIntegerEvidence.json_injective _ _
            (@member_injective _ _ (by simp) same "ticket" record.ticket.json
              record'.ticket.json (by simp) (by simp))
          have index := jsonNat_injective (@member_injective _ _ (by simp) same "selected_index"
            (jsonNat record.selectedIndex) (jsonNat record'.selectedIndex) (by simp) (by simp))
          cases record
          cases record'
          simp_all [ChoiceRecord.seedCommitment, ChoiceRecord.generationNamespaceDigest]
      | bounded | ratio => cases choice
  | ratio record =>
      cases record' with
      | ratio record' =>
          obtain ⟨path, numerator, denominator⟩ := Choice.chooseRatio.inj choice
          have ticket := BoundedIntegerEvidence.json_injective _ _
            (@member_injective _ _ (by simp) same "ticket" record.ticket.json
              record'.ticket.json (by simp) (by simp))
          have selected := Value.bool.inj (@member_injective _ _ (by simp) same "selected"
            (.bool record.selected) (.bool record'.selected) (by simp) (by simp))
          cases record
          cases record'
          simp_all [ChoiceRecord.seedCommitment, ChoiceRecord.generationNamespaceDigest]
      | bounded | weighted => cases choice

/-- A record that replays is the one that is produced for its path and its domain. -/
theorem produce_of_replay [HashBytes] {seed : RootSeed} {generationNamespace : GenerationNamespace}
    {record : ChoiceRecord} {u : Unit}
    (replays : replayChoiceRecord seed generationNamespace record = .ok u) :
    produce seed generationNamespace record.choice = .ok record := by
  obtain ⟨replayed, again, compared⟩ := bind_ok.mp replays
  obtain ⟨bytes, encoded, compared⟩ := bind_ok.mp compared
  obtain ⟨bytes', encoded', compared⟩ := bind_ok.mp compared
  obtain rfl := require_ok.mp compared
  rw [replayedRecord_eq] at again
  obtain ⟨commitment, again⟩ := require_bind.mp again
  obtain ⟨digest, again⟩ := require_bind.mp again
  have facts := produce_ok again
  have same := jsonBytes_injective replayed.built record.built encoded encoded'
  have equal : replayed = record := by
    apply ChoiceRecord.eq_of_written facts.choice _ _ same
    · rw [facts.commitment, commitment]
    · rw [facts.digest, digest]
  rw [again, equal]

/-- What an accepted ledger is. -/
structure Replayed [HashBytes] (seed : RootSeed) (generationNamespace : GenerationNamespace)
    (ledger : ChoiceLedger) : Prop where
  commitment : ledger.seedCommitment = seed.commitment
  digest : ledger.generationNamespaceDigest = generationNamespace.digest
  checked : checkedLedger ledger = .ok ledger
  produced : ∀ record ∈ ledger.records,
    produce seed generationNamespace record.choice = .ok record

section Ledger
variable [HashBytes] {seed : RootSeed} {generationNamespace : GenerationNamespace}
  {ledger : ChoiceLedger}

omit [HashBytes] in
theorem checkedLedger_ok {ledger' : ChoiceLedger} (checked : checkedLedger ledger = .ok ledger') :
    ledger' = ledger := by
  obtain ⟨-, checks⟩ := require_bind.mp checked
  obtain ⟨-, checks⟩ := require_bind.mp checks
  obtain ⟨-, checks⟩ := require_bind.mp checks
  obtain ⟨-, checks⟩ := require_bind.mp checks
  obtain ⟨pairs, -, checks⟩ := bind_ok.mp checks
  obtain ⟨-, checks⟩ := require_bind.mp checks
  obtain ⟨-, checks⟩ := require_bind.mp checks
  obtain ⟨-, checks⟩ := require_bind.mp checks
  obtain ⟨-, checks⟩ := require_bind.mp checks
  cases checks
  rfl

theorem replayed_of_ok {digest : String}
    (accepted : replayChoiceLedger seed generationNamespace ledger = .ok digest) :
    Replayed seed generationNamespace ledger := by
  obtain ⟨commitment, checks⟩ := require_bind.mp accepted
  obtain ⟨namespaceDigest, checks⟩ := require_bind.mp checks
  obtain ⟨units, records, checks⟩ := bind_ok.mp checks
  obtain ⟨reconstructed, checked, -⟩ := bind_ok.mp checks
  obtain rfl := checkedLedger_ok checked
  refine ⟨commitment, namespaceDigest, checked, ?_⟩
  intro record member
  have results := collect_eq_ok.mp records
  have among : replayChoiceRecord seed generationNamespace record ∈ units.map Except.ok := by
    rw [← results]
    exact List.mem_map_of_mem member
  obtain ⟨u, -, replays⟩ := List.mem_map.mp among
  exact produce_of_replay replays.symm

end Ledger
end CsdFoundry.Synthesis.Choices

import CsdFoundry.Synthesis.ChoiceRecords

/-! Choice sessions of one producer, the ledgers they freeze to, and the replay of a ledger. -/
namespace CsdFoundry.Synthesis.Choices
open Admission Admission.Value Encoding Results

def choiceLedgerSchemaVersion : String := "csd-choice-ledger/0.4"

structure ChoiceLedger where
  seedCommitment : String
  generationNamespaceDigest : String
  attemptKey : AttemptKey
  producerContractId : String
  allowedNamespacePrefix : String
  records : List ChoiceRecord
  schemaVersion : String

/-- A namespace is the declared prefix or continues it after a dot. -/
def isDeclared (allowed : String) (path : ChoicePath) : Bool :=
  path.pathNamespace = allowed || (allowed ++ ".").toList.isPrefixOf path.pathNamespace.toList

/-- A record with the bytes of its path. -/
def pathKeyed (record : ChoiceRecord) : Except ChoiceFailure (List UInt8 × ChoiceRecord) :=
  record.path.bytes.map fun bytes => (bytes, record)

def PathLe (a b : List UInt8 × ChoiceRecord) : Prop := a.1 ≤ b.1

instance : DecidableRel PathLe := fun a b => inferInstanceAs (Decidable (a.1 ≤ b.1))

/-- `sorted(records, key=lambda record: _path_bytes(record.path))`. -/
def sortedRecords (records : List ChoiceRecord) : Except ChoiceFailure (List ChoiceRecord) := do
  let pairs ← collect (records.map pathKeyed)
  .ok ((pairs.insertionSort PathLe).map (·.2))

def ChoiceLedger.admits (ledger : ChoiceLedger) (record : ChoiceRecord) : Bool :=
  record.path.attemptKey = ledger.attemptKey && record.seedCommitment = ledger.seedCommitment &&
    record.generationNamespaceDigest = ledger.generationNamespaceDigest &&
    isDeclared ledger.allowedNamespacePrefix record.path

/-- `ChoiceLedger.__post_init__`. Records equal their sorted tuple when their paths ascend. -/
def checkedLedger (ledger : ChoiceLedger) : Except ChoiceFailure ChoiceLedger := do
  require (isHexDigest ledger.seedCommitment = true) .record
  require (isHexDigest ledger.generationNamespaceDigest = true) .record
  require (isToken ledger.producerContractId = true) .session
  require (isToken ledger.allowedNamespacePrefix = true) .session
  let pairs ← collect (ledger.records.map pathKeyed)
  require (pairs.Pairwise PathLe) .record
  require (pairs.map (·.1)).Nodup .record
  require (ledger.records.all ledger.admits = true) .record
  require (ledger.schemaVersion = choiceLedgerSchemaVersion) .record
  .ok ledger

/-- `_ledger_value`. -/
def ChoiceLedger.json (ledger : ChoiceLedger) : Value :=
  jsonDict [
    ("allowed_namespace_prefix", jsonText ledger.allowedNamespacePrefix),
    ("attempt_key", jsonDict [
      ("attempt_index", jsonNat ledger.attemptKey.attemptIndex),
      ("release", jsonText ledger.attemptKey.sampleKey.release),
      ("sample_index", jsonNat ledger.attemptKey.sampleKey.sampleIndex),
      ("target_id", jsonText ledger.attemptKey.sampleKey.targetId)]),
    ("generation_namespace_digest", jsonText ledger.generationNamespaceDigest),
    ("producer_contract_id", jsonText ledger.producerContractId),
    ("records", .list (ledger.records.map ChoiceRecord.json)),
    ("schema_version", jsonText ledger.schemaVersion),
    ("seed_commitment", jsonText ledger.seedCommitment)]

def ChoiceLedger.canonicalBytes (ledger : ChoiceLedger) : Except ChoiceFailure (List UInt8) :=
  jsonBytes ledger.json

inductive ChoiceSessionState where
  | open'
  | frozen
  | poisoned
  deriving DecidableEq

structure ChoiceBudget where
  maximumChoicesPerAttempt : Nat
  maximumCanonicalLedgerBytes : Nat
  choices : 0 < maximumChoicesPerAttempt
  bytes : 0 < maximumCanonicalLedgerBytes

/-- What a session is opened with. -/
structure SessionInputs where
  seed : RootSeed
  generationNamespace : GenerationNamespace
  attemptKey : AttemptKey
  producerContractId : String
  allowedNamespacePrefix : String
  budget : ChoiceBudget

structure ChoiceSession where
  state : ChoiceSessionState
  reservedPaths : List (List UInt8)
  records : List ChoiceRecord

/-- `ChoiceSession.__init__`. -/
def openSession (inputs : SessionInputs) : Except ChoiceFailure ChoiceSession := do
  require (isToken inputs.producerContractId = true) .session
  require (isToken inputs.allowedNamespacePrefix = true) .session
  .ok ⟨.open', [], []⟩

section Session
variable [HashBytes] (inputs : SessionInputs)

/-- `_require_open_path`. -/
def requireOpenPath (session : ChoiceSession) (path : ChoicePath) :
    Except ChoiceFailure (List UInt8) := do
  require (session.state = .open') .session
  let pathBytes ← path.bytes
  require (path.attemptKey = inputs.attemptKey) .session
  require (isDeclared inputs.allowedNamespacePrefix path = true) .session
  require (¬ pathBytes ∈ session.reservedPaths) .duplicatePath
  .ok pathBytes

/-- The ledger of a session with the given records, in their order. -/
def ledgerOf (records : List ChoiceRecord) : ChoiceLedger where
  seedCommitment := inputs.seed.commitment
  generationNamespaceDigest := inputs.generationNamespace.digest
  attemptKey := inputs.attemptKey
  producerContractId := inputs.producerContractId
  allowedNamespacePrefix := inputs.allowedNamespacePrefix
  records := records
  schemaVersion := choiceLedgerSchemaVersion

/-- `_ledger_bytes_for`. -/
def ledgerBytesFor (records : List ChoiceRecord) : Except ChoiceFailure Nat := do
  let ordered ← sortedRecords records
  let bytes ← (ledgerOf inputs ordered).canonicalBytes
  .ok bytes.length

/-- `_preflight_choice_count`. -/
def preflightChoiceCount (session : ChoiceSession) : Except ChoiceFailure Unit :=
  let choiceCount := session.records.length + 1
  if inputs.budget.maximumChoicesPerAttempt < choiceCount then do
    let canonicalBytes ← ledgerBytesFor inputs session.records
    .error (.budget choiceCount inputs.budget.maximumChoicesPerAttempt canonicalBytes
      inputs.budget.maximumCanonicalLedgerBytes)
  else .ok ()

/-- `_commit`. -/
def commit (session : ChoiceSession) (record : ChoiceRecord) :
    Except ChoiceFailure ChoiceSession := do
  let records := session.records ++ [record]
  let canonicalBytes ← ledgerBytesFor inputs records
  require (canonicalBytes ≤ inputs.budget.maximumCanonicalLedgerBytes)
    (.budget records.length inputs.budget.maximumChoicesPerAttempt canonicalBytes
      inputs.budget.maximumCanonicalLedgerBytes)
  .ok { session with records := records }

/-- `_poison_if_open`. -/
def poisonIfOpen (session : ChoiceSession) : ChoiceSession :=
  if session.state = .open' then { session with state := .poisoned } else session

/-- The body that the three choices share: `make` draws the record. -/
def choose (session : ChoiceSession) (path : ChoicePath)
    (make : Except ChoiceFailure ChoiceRecord) :
    ChoiceSession × Except ChoiceFailure ChoiceRecord :=
  match requireOpenPath inputs session path with
  | .error failure => (poisonIfOpen session, .error failure)
  | .ok pathBytes =>
      let reserved := { session with reservedPaths := pathBytes :: session.reservedPaths }
      let attempted : Except ChoiceFailure (ChoiceSession × ChoiceRecord) := do
        preflightChoiceCount inputs reserved
        let record ← make
        let committed ← commit inputs reserved record
        .ok (committed, record)
      match attempted with
      | .error failure => (poisonIfOpen reserved, .error failure)
      | .ok (committed, record) => (committed, .ok record)

/-- What a session returns. -/
inductive Answer where
  | integer (value : Nat)
  | selected (value : Value)
  | boolean (value : Bool)
  | ledger (ledger : ChoiceLedger)

/-- `record.evidence.value`, `record.selected_value` and `record.selected`. -/
def ChoiceRecord.answer : ChoiceRecord → Answer
  | .bounded record => .integer record.evidence.value
  | .weighted record => .selected record.selectedValue
  | .ratio record => .boolean record.selected

def answered (result : ChoiceSession × Except ChoiceFailure ChoiceRecord) :
    ChoiceSession × Except ChoiceFailure Answer :=
  (result.1, result.2.map ChoiceRecord.answer)

def ChoiceSession.boundedInteger (session : ChoiceSession) (path : ChoicePath)
    (upperExclusive : Int) : ChoiceSession × Except ChoiceFailure Answer :=
  answered (choose inputs session path do
    let result ← Choices.boundedInteger inputs.seed path upperExclusive
    recordFromBoundedResult path inputs.generationNamespace.digest inputs.seed.commitment
      upperExclusive result)

def ChoiceSession.weightedChoice (session : ChoiceSession) (path : ChoicePath)
    (values : List CanonicalValue) (weights : List Int) :
    ChoiceSession × Except ChoiceFailure Answer :=
  answered (choose inputs session path do
    let primitiveValues := values.map CanonicalValue.json
    let result ← Choices.weightedChoice inputs.seed path primitiveValues weights
    recordFromWeightedResult path inputs.generationNamespace.digest inputs.seed.commitment
      values weights result)

def ChoiceSession.chooseRatio (session : ChoiceSession) (path : ChoicePath)
    (numerator denominator : Int) : ChoiceSession × Except ChoiceFailure Answer :=
  answered (choose inputs session path do
    let result ← Choices.chooseRatio inputs.seed path numerator denominator
    recordFromBooleanResult path inputs.generationNamespace.digest inputs.seed.commitment
      numerator denominator result)

/-- The ledger that `freeze` makes of an open session. -/
def frozenLedger (session : ChoiceSession) : Except ChoiceFailure ChoiceLedger := do
  let records ← sortedRecords session.records
  let ledger ← checkedLedger (ledgerOf inputs records)
  let bytes ← ledger.canonicalBytes
  require (bytes.length ≤ inputs.budget.maximumCanonicalLedgerBytes)
    (.budget records.length inputs.budget.maximumChoicesPerAttempt bytes.length
      inputs.budget.maximumCanonicalLedgerBytes)
  .ok ledger

def ChoiceSession.freeze (session : ChoiceSession) :
    ChoiceSession × Except ChoiceFailure Answer :=
  if session.state ≠ .open' then (session, .error .session)
  else
    match frozenLedger inputs session with
    | .error failure => (poisonIfOpen session, .error failure)
    | .ok ledger => ({ session with state := .frozen }, .ok (.ledger ledger))

/-- A choice with its path and its domain. -/
inductive Choice where
  | boundedInteger (path : ChoicePath) (upperExclusive : Int)
  | weightedChoice (path : ChoicePath) (values : List CanonicalValue) (weights : List Int)
  | chooseRatio (path : ChoicePath) (numerator denominator : Int)

inductive Operation where
  | choice (choice : Choice)
  | freeze

def perform (session : ChoiceSession) : Operation → ChoiceSession × Except ChoiceFailure Answer
  | .choice (.boundedInteger path upperExclusive) =>
      session.boundedInteger inputs path upperExclusive
  | .choice (.weightedChoice path values weights) =>
      session.weightedChoice inputs path values weights
  | .choice (.chooseRatio path numerator denominator) =>
      session.chooseRatio inputs path numerator denominator
  | .freeze => session.freeze inputs

/-- The outcomes of a sequence of operations. -/
def run : ChoiceSession → List Operation → ChoiceSession × List (Except ChoiceFailure Answer)
  | session, [] => (session, [])
  | session, operation :: operations =>
      let first := perform inputs session operation
      let rest := run first.1 operations
      (rest.1, first.2 :: rest.2)

end Session

section Replay
variable [HashBytes] (seed : RootSeed) (generationNamespace : GenerationNamespace)

/-- `_replayed_record`. -/
def replayedRecord (record : ChoiceRecord) : Except ChoiceFailure ChoiceRecord := do
  require (record.seedCommitment = seed.commitment) .replayMismatch
  require (record.generationNamespaceDigest = generationNamespace.digest) .replayMismatch
  match record with
  | .bounded record =>
      let result ← boundedInteger seed record.path record.upperExclusive
      recordFromBoundedResult record.path generationNamespace.digest seed.commitment
        record.upperExclusive result
  | .weighted record =>
      let result ← weightedChoice seed record.path (record.values.map CanonicalValue.json)
        record.weights
      recordFromWeightedResult record.path generationNamespace.digest seed.commitment
        record.values record.weights result
  | .ratio record =>
      let result ← chooseRatio seed record.path record.numerator record.denominator
      recordFromBooleanResult record.path generationNamespace.digest seed.commitment
        record.numerator record.denominator result

/-- `replay_choice_record`. -/
def replayChoiceRecord (record : ChoiceRecord) : Except ChoiceFailure Unit := do
  let replayed ← replayedRecord seed generationNamespace record
  let bytes ← choiceRecordBytes replayed
  let bytes' ← choiceRecordBytes record
  require (bytes = bytes') .replayMismatch

/-- `replay_choice_ledger`. -/
def replayChoiceLedger (ledger : ChoiceLedger) : Except ChoiceFailure String := do
  require (ledger.seedCommitment = seed.commitment) .replayMismatch
  require (ledger.generationNamespaceDigest = generationNamespace.digest) .replayMismatch
  let _ ← collect (ledger.records.map (replayChoiceRecord seed generationNamespace))
  let reconstructed ← checkedLedger {
    seedCommitment := ledger.seedCommitment
    generationNamespaceDigest := ledger.generationNamespaceDigest
    attemptKey := ledger.attemptKey
    producerContractId := ledger.producerContractId
    allowedNamespacePrefix := ledger.allowedNamespacePrefix
    records := ledger.records
    schemaVersion := ledger.schemaVersion }
  let bytes ← reconstructed.canonicalBytes
  let bytes' ← ledger.canonicalBytes
  require (bytes = bytes') .replayMismatch
  jsonDigest ledger.json

end Replay
end CsdFoundry.Synthesis.Choices

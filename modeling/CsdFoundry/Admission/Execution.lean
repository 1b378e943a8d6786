import CsdFoundry.Admission.Invariant

/-! An undisturbed call of `admit`: when it ends with a receipt, and with which. -/
namespace CsdFoundry.Admission
open Storage
open Value (hasDecimal)
variable {D : Type} [DigestText D] [Sha256 D]

namespace EventAdmissionStore
variable {s t : EventAdmissionStore D}

/-- Contracts are stored under their digests. -/
def Filed (s : EventAdmissionStore D) : Prop :=
  ∀ kind digest payload, s.contracts (kind, digest) = some payload →
    ∃ contract : ContractObject D kind, contract.canonicalBytes = .ok payload ∧
      contract.digest = digest

omit [Sha256 D] in
/-- No other context has been stored under the tick. -/
def Agrees (s : EventAdmissionStore D) (context : CommittedValidationContext D) : Prop :=
  ∀ other, s.contexts context.tick = some other → other = context

theorem Filed.fileContract (filed : s.Filed) {kind : ContractName}
    {contract : ContractObject D kind} {payload : JsonObject}
    (bytes : contract.canonicalBytes = .ok payload) :
    (s.fileContract (kind, contract.digest) payload).Filed := by
  intro kind' digest' payload' stored
  by_cases same : (kind', digest') = (kind, contract.digest)
  · obtain ⟨rfl, rfl⟩ := Prod.mk.inj same
    simp only [EventAdmissionStore.fileContract, Function.update_self] at stored
    obtain rfl := Option.some.inj stored
    exact ⟨contract, bytes, rfl⟩
  · simp only [EventAdmissionStore.fileContract, Function.update_of_ne same] at stored
    exact filed kind' digest' payload' stored

/-- The new store has the contracts of the old one and more, and the same contexts. -/
structure Deposit (s t : EventAdmissionStore D) : Prop where
  filed : t.Filed
  grown : Grown s t
  contexts : t.contexts = s.contexts

theorem Deposit.trans {u : EventAdmissionStore D} (first : Deposit s t) (second : Deposit t u) :
    Deposit s u :=
  ⟨second.filed, first.grown.trans second.grown, second.contexts.trans first.contexts⟩

omit [Sha256 D] in
theorem exec_atomicInstall_fresh {β : Type} [DecidableEq β]
    {find : EventAdmissionStore D → Option β} {put : EventAdmissionStore D → EventAdmissionStore D}
    {payload : β} (fresh : find s = none) :
    (atomicInstall find put payload).exec s = (.ok (), put s) := by
  unfold atomicInstall
  rw [Prog.exec_bind, Prog.exec_read]
  simp only [fresh]
  exact Prog.exec_install_fresh fresh

omit [Sha256 D] in
theorem exec_atomicInstall_taken {β : Type} [DecidableEq β]
    {find : EventAdmissionStore D → Option β} {put : EventAdmissionStore D → EventAdmissionStore D}
    {payload stored : β} (taken : find s = some stored) :
    (atomicInstall find put payload).exec s = (if stored = payload then .ok () else
      .error (.storeConflict "immutable path already contains different bytes"), s) := by
  unfold atomicInstall
  rw [Prog.exec_bind, Prog.exec_read]
  simp only [taken]
  rfl

/-- A contract can always be stored: what its path holds already are its bytes. -/
theorem exec_putContract (filed : s.Filed) {kind : ContractName}
    (contract : ContractObject D kind) : ∃ t, (putContract contract).exec s = (.ok (), t) ∧
      Deposit s t ∧ t.Holds contract := by
  obtain ⟨_, payload, _, -, bytes, -⟩ := contract.canonical
  have located : contractPath (D := D) kind contract.digest = .ok (kind, contract.digest) :=
    if_pos contract.isDigest
  have opened : (putContract contract).exec s =
      (atomicInstall (fun s : EventAdmissionStore D => s.contracts (kind, contract.digest))
        (.fileContract (kind, contract.digest) payload) payload).exec s := by
    unfold putContract
    rw [located, bytes]
    refine (Prog.exec_bind_ok _ (Prog.exec_done _ s)).trans ?_
    exact Prog.exec_bind_ok _ (Prog.exec_done _ s)
  rw [opened]
  cases found : s.contracts (kind, contract.digest) with
  | none =>
      refine ⟨s.fileContract (kind, contract.digest) payload, exec_atomicInstall_fresh found,
        ⟨filed.fileContract bytes, grown_fileContract found, rfl⟩, payload, bytes, ?_⟩
      simp [EventAdmissionStore.fileContract]
  | some stored =>
      obtain ⟨other, otherBytes, named⟩ := filed kind contract.digest stored found
      have same : payload = stored :=
        Except.ok.inj (bytes.symm.trans ((ContractObject.digest_bytes named.symm).trans otherBytes))
      subst same
      refine ⟨s, ?_, ⟨filed, .refl s, rfl⟩, payload, bytes, found⟩
      rw [exec_atomicInstall_taken found, if_pos rfl]

theorem exec_putAvailable (filed : s.Filed) {kind : ContractName}
    (contract : Option (ContractObject D kind)) : ∃ t,
      (putAvailable contract).exec s = (.ok (), t) ∧ Deposit s t ∧
      ∀ c, contract = some c → t.Holds c := by
  cases contract with
  | none => exact ⟨s, rfl, ⟨filed, .refl s, rfl⟩, by rintro _ ⟨⟩⟩
  | some contract =>
      obtain ⟨t, ran, deposit, held⟩ := exec_putContract filed contract
      refine ⟨t, ran, deposit, ?_⟩
      rintro _ ⟨⟩
      exact held

omit [Sha256 D] in
/-- A context can be stored where no other is. -/
theorem exec_putContext (context : CommittedValidationContext D) :
    (s.Agrees context → ∃ t, (putContext context).exec s = (.ok (), t) ∧ Grown s t ∧
      t.contracts = s.contracts ∧ t.contexts context.tick = some context) ∧
    (¬ s.Agrees context → ∃ e, (putContext context).exec s = (.error e, s)) := by
  unfold putContext
  cases found : s.contexts context.tick with
  | none =>
      constructor
      · intro _
        refine ⟨s.fileContext context, exec_atomicInstall_fresh found, grown_fileContext found, rfl,
          ?_⟩
        simp [EventAdmissionStore.fileContext]
      · intro disagrees
        refine absurd ?_ disagrees
        intro other stored
        rw [found] at stored
        cases stored
  | some stored =>
      constructor
      · intro agrees
        obtain rfl := agrees stored found
        exact ⟨s, by rw [exec_atomicInstall_taken found, if_pos rfl], .refl s, rfl, found⟩
      · intro disagrees
        have different : stored ≠ context := by
          rintro rfl
          refine disagrees fun other there => ?_
          exact (Option.some.inj (found.symm.trans there)).symm
        exact ⟨_, by rw [exec_atomicInstall_taken found, if_neg different]⟩

/-- The inputs can be stored unless another context holds the tick. -/
theorem exec_persist (filed : s.Filed) (inputs : Inputs D) :
    ((∀ context, inputs.context = some context → s.Agrees context) → ∃ t,
      (persistAvailableInputs inputs).exec s = (.ok (), t) ∧ t.Filed ∧ Grown s t ∧
      Persisted inputs t) ∧
    (∀ context, inputs.context = some context → ¬ s.Agrees context → ∃ e t,
      (persistAvailableInputs inputs).exec s = (.error e, t)) := by
  obtain ⟨t, ranRaw, depositRaw, heldRaw⟩ := exec_putAvailable filed inputs.rawEvent
  obtain ⟨u, ranSet, depositSet, heldSet⟩ := exec_putAvailable depositRaw.filed inputs.signatureSet
  obtain ⟨v, ranPolicy, depositPolicy, heldPolicy⟩ :=
    exec_putAvailable depositSet.filed inputs.validationPolicy
  have deposit : Deposit s v := depositRaw.trans (depositSet.trans depositPolicy)
  have agrees : ∀ context, v.Agrees context ↔ s.Agrees context := by
    intro context
    unfold Agrees
    rw [deposit.contexts]
  have opened : (persistAvailableInputs inputs).exec s =
      (inputs.context.elim (pure ()) putContext : AdmissionM D Unit).exec v := by
    unfold persistAvailableInputs
    cases inputs.context <;> exact (Prog.exec_bind_ok _ ranRaw).trans
      ((Prog.exec_bind_ok _ ranSet).trans (Prog.exec_bind_ok _ ranPolicy))
  have persisted : ∀ w, Grown v w →
      (∀ context, inputs.context = some context → w.contexts context.tick = some context) →
      Persisted inputs w := by
    intro w grown stored
    have later := (depositSet.trans depositPolicy).grown.trans grown
    exact ⟨fun c same => later.holds (heldRaw c same),
      fun c same => (depositPolicy.grown.trans grown).holds (heldSet c same),
      fun c same => grown.holds (heldPolicy c same), stored⟩
  rw [opened]
  cases given : inputs.context with
  | none =>
      refine ⟨fun _ => ⟨v, rfl, deposit.filed, deposit.grown, persisted v (.refl v) ?_⟩, fun _ stored => by
        cases stored⟩
      rw [given]
      rintro _ ⟨⟩
  | some context =>
      constructor
      · intro all
        obtain ⟨w, ran, grown, contracts, stored⟩ :=
          (exec_putContext context).1 ((agrees context).mpr (all context rfl))
        refine ⟨w, ran, ?_, deposit.grown.trans grown, persisted w grown ?_⟩
        · intro kind digest payload there
          rw [contracts] at there
          exact deposit.filed kind digest payload there
        · rw [given]
          rintro _ ⟨⟩
          exact stored
      · rintro _ ⟨⟩ disagrees
        obtain ⟨e, ran⟩ := (exec_putContext (s := v) context).2 (mt (agrees context).mp disagrees)
        exact ⟨e, v, ran⟩

end EventAdmissionStore
open EventAdmissionStore

section Outcome

def AdmissionOutcome.isAccepted : AdmissionOutcome D → Bool
  | .accepted _ => true
  | .failure _ => false

/-- The failure codes that the receipt lists. -/
def AdmissionOutcome.codes : AdmissionOutcome D → List Value
  | .accepted _ => []
  | .failure receipt => receipt.list "failure_codes"

theorem failure_codes {rawDigest policyDigest signatureDigest : String} {tick : Int}
    {codes : List FailureCode} {receipt : ContractObject D .eventValidationFailure}
    (built : ContractObject.build .eventValidationFailure
      (failureMembers rawDigest policyDigest signatureDigest tick codes) = .ok receipt) :
    receipt.list "failure_codes" = (sortedCodes codes).map codeValue := by
  obtain ⟨digest, value⟩ := ContractObject.build_value built
  rw [ContractObject.list, value]
  rfl

/-- A declared digest is only taken over when it is one. -/
theorem declaredOrInputDigest_isDigest {kind : ContractName} (input : Submission D kind) :
    DigestText.isDigest D (declaredOrInputDigest input) = true := by
  cases input with
  | object contract => exact contract.isDigest
  | dict members =>
      rw [declaredOrInputDigest]
      split
      · split
        · assumption
        · exact DigestText.isDigest_text _
      · exact DigestText.isDigest_text _

theorem failure_digest {kind : ContractName} (input : Submission D kind)
    (contract : Option (ContractObject D kind)) :
    DigestText.isDigest D ((contract.map (·.digest)).getD (declaredOrInputDigest input)) = true := by
  cases contract with
  | none => exact declaredOrInputDigest_isDigest input
  | some contract => exact contract.isDigest

end Outcome

section Call
variable {s t : EventAdmissionStore D} {call : AdmitCall D} {inputs : Inputs D}
  {outcome : AdmissionOutcome D}

theorem exec_persist_ok (filed : s.Filed)
    (ran : (persistAvailableInputs inputs).exec s = (.ok (), t)) :
    t.Filed ∧ Persisted inputs t := by
  have agrees : ∀ context, inputs.context = some context → s.Agrees context := by
    intro context given
    by_contra disagrees
    obtain ⟨e, u, failed⟩ := (exec_persist filed inputs).2 context given disagrees
    rw [failed] at ran
    cases ran
  obtain ⟨u, persisted, filedU, -, kept⟩ := (exec_persist filed inputs).1 agrees
  rw [persisted] at ran
  obtain ⟨-, rfl⟩ := Prod.mk.inj ran
  exact ⟨filedU, kept⟩

/-- The receipt tells what the checks found, and the context is stored. -/
theorem exec_conclude_ok (filed : s.Filed) (ran : (conclude call.rawEvent call.signatureSet
      call.validationPolicy call.tick inputs).exec s = (.ok outcome, t)) :
    (outcome.isAccepted = true ↔ inputs.codes = []) ∧
    outcome.codes = (sortedCodes inputs.codes).map codeValue ∧
    ∀ context, inputs.context = some context → t.contexts context.tick = some context := by
  have stored : ∀ {u v w : EventAdmissionStore D} {kind : ContractName}
      {receipt : Except Raise (ContractObject D kind)} {contract : ContractObject D kind},
      (lift receipt : AdmissionM D _).exec s = (.ok contract, u) →
      (persistAvailableInputs inputs).exec u = (.ok (), v) →
      (putContract contract).exec v = (.ok (), w) →
      ∀ context, inputs.context = some context → w.contexts context.tick = some context := by
    intro u v w kind receipt contract lifted persisted put context given
    obtain ⟨-, rfl⟩ := Prod.mk.inj lifted
    obtain ⟨filedV, kept⟩ := exec_persist_ok filed persisted
    obtain ⟨w', put', deposit, -⟩ := exec_putContract filedV contract
    rw [put'] at put
    obtain ⟨-, rfl⟩ := Prod.mk.inj put
    exact deposit.grown.contexts _ _ (kept.context context given)
  unfold conclude at ran
  split at ran
  · rename_i failed
    obtain ⟨receipt, u, built, ran⟩ := Prog.exec_bind_ok_iff.mp ran
    obtain ⟨_, v, persisted, ran⟩ := Prog.exec_bind_ok_iff.mp ran
    obtain ⟨_, w, put, ran⟩ := Prog.exec_bind_ok_iff.mp ran
    obtain ⟨⟨⟩, rfl⟩ := Prod.mk.inj ran
    exact ⟨by simp [AdmissionOutcome.isAccepted, failed], failure_codes (Prod.mk.inj built).1,
      stored built persisted put⟩
  · rename_i passed
    have nothing : inputs.codes = [] := not_not.mp passed
    split at ran
    · obtain ⟨receipt, u, built, ran⟩ := Prog.exec_bind_ok_iff.mp ran
      obtain ⟨_, v, persisted, ran⟩ := Prog.exec_bind_ok_iff.mp ran
      obtain ⟨_, w, put, ran⟩ := Prog.exec_bind_ok_iff.mp ran
      obtain ⟨⟨⟩, rfl⟩ := Prod.mk.inj ran
      rw [nothing]
      exact ⟨by simp [AdmissionOutcome.isAccepted], rfl, stored built persisted put⟩
    · cases ran

/-- The call ends with a receipt. -/
structure AdmitCall.Served (call : AdmitCall D) (s : EventAdmissionStore D) : Prop where
  natural : 0 ≤ call.tick
  decimal : hasDecimal call.tick = true
  answers : call.engine.Answers call.rawEvent call.signatureSet call.validationPolicy call.tick
  agrees : ∀ context, (call.engine.resolve call.tick).2 = some context → s.Agrees context

theorem exec_finish {β : Type} {kind : ContractName} (filed : s.Filed)
    {receipt : Except Raise (ContractObject D kind)} (result : ContractObject D kind → β) :
    (∃ b t, (do
        let receipt ← lift receipt
        persistAvailableInputs inputs
        putContract receipt
        return result receipt : AdmissionM D β).exec s = (.ok b, t)) ↔
      (∃ r, receipt = .ok r) ∧ ∀ context, inputs.context = some context → s.Agrees context := by
  cases receipt with
  | error e =>
      refine iff_of_false ?_ ?_
      · rintro ⟨b, t, ran⟩
        obtain ⟨_, _, failed, -⟩ := Prog.exec_bind_ok_iff.mp ran
        cases failed
      · rintro ⟨⟨r, impossible⟩, -⟩
        cases impossible
  | ok receipt =>
      constructor
      · rintro ⟨b, t, ran⟩
        refine ⟨⟨receipt, rfl⟩, fun context given => ?_⟩
        by_contra disagrees
        obtain ⟨e, u, failed⟩ := (exec_persist filed inputs).2 context given disagrees
        obtain ⟨_, _, lifted, ran⟩ := Prog.exec_bind_ok_iff.mp ran
        obtain ⟨-, rfl⟩ := Prod.mk.inj lifted
        obtain ⟨_, _, persisted, -⟩ := Prog.exec_bind_ok_iff.mp ran
        rw [failed] at persisted
        cases persisted
      · rintro ⟨-, agrees⟩
        obtain ⟨t, persisted, filedT, -, -⟩ := (exec_persist filed inputs).1 agrees
        obtain ⟨u, put, -, -⟩ := exec_putContract filedT receipt
        refine ⟨result receipt, u, ?_⟩
        refine (Prog.exec_bind_ok _ (Prog.exec_done _ s)).trans ?_
        refine (Prog.exec_bind_ok _ persisted).trans ?_
        exact (Prog.exec_bind_ok _ put).trans rfl

theorem exec_conclude (filed : s.Filed) (natural : 0 ≤ call.tick)
    (evaluated : call.engine.evaluate call.rawEvent call.signatureSet call.validationPolicy
      call.tick = .ok inputs) :
    (∃ outcome t, (conclude call.rawEvent call.signatureSet call.validationPolicy call.tick
      inputs).exec s = (.ok outcome, t)) ↔ hasDecimal call.tick = true ∧
      ∀ context, (call.engine.resolve call.tick).2 = some context → s.Agrees context := by
  have given := EventAdmissionEngine.evaluate_given evaluated
  unfold conclude
  rw [← given.context]
  split
  · rename_i failed
    rw [exec_finish filed, failure_built ⟨failure_digest _ _, failure_digest _ _,
      failure_digest _ _⟩ natural failed]
  · rename_i passed
    obtain ⟨raw, signatures, policy, context, registered, isRaw, isSet, isPolicy, admissible⟩ :=
      (EventAdmissionEngine.evaluate_nil evaluated).mp (not_not.mp passed)
    have decimal : hasDecimal call.tick = true := by
      rw [← admissible.current.tick]
      exact context.rendered
    have isContext : inputs.context = some context := by
      rw [given.context, admissible.current.resolve]
    obtain ⟨receipt, built, -⟩ := accepted_built (D := D)
      ⟨raw.isDigest, policy.isDigest, signatures.isDigest⟩ natural decimal
    rw [(given.raw raw).mpr isRaw, (given.signatures signatures).mpr isSet,
      (given.policy policy).mpr isPolicy, isContext]
    simp only
    rw [exec_finish filed, isContext]
    simp [built, decimal]

/-- When a call ends with a receipt. -/
theorem exec_run (filed : s.Filed) :
    (∃ outcome t, call.run.exec s = (.ok outcome, t)) ↔ call.Served s := by
  unfold AdmitCall.run admitEvent
  constructor
  · rintro ⟨outcome, t, ran⟩
    obtain ⟨_, u, required, ran⟩ := Prog.exec_bind_ok_iff.mp ran
    have natural : 0 ≤ call.tick := by
      by_contra negative
      rw [Prog.exec_require_error negative] at required
      cases required
    rw [Prog.exec_require_ok natural] at required
    obtain ⟨-, rfl⟩ := Prod.mk.inj required
    obtain ⟨inputs, u, lifted, ran⟩ := Prog.exec_bind_ok_iff.mp ran
    obtain ⟨evaluated, rfl⟩ := Prod.mk.inj lifted
    obtain ⟨decimal, agrees⟩ := (exec_conclude filed natural evaluated).mp ⟨outcome, t, ran⟩
    exact ⟨natural, decimal, EventAdmissionEngine.evaluate_total.mp ⟨inputs, evaluated⟩, agrees⟩
  · rintro ⟨natural, decimal, answers, agrees⟩
    obtain ⟨inputs, evaluated⟩ := EventAdmissionEngine.evaluate_total.mpr answers
    obtain ⟨outcome, t, ran⟩ := (exec_conclude filed natural evaluated).mpr ⟨decimal, agrees⟩
    refine ⟨outcome, t, ?_⟩
    rw [Prog.exec_bind_ok _ (Prog.exec_require_ok natural _ s), evaluated]
    exact (Prog.exec_bind_ok _ (Prog.exec_done _ s)).trans ran

/-- The outcome is what the checks found. -/
theorem exec_run_ok (filed : s.Filed) (ran : call.run.exec s = (.ok outcome, t)) : ∃ inputs,
    call.engine.evaluate call.rawEvent call.signatureSet call.validationPolicy call.tick =
      .ok inputs ∧ (outcome.isAccepted = true ↔ inputs.codes = []) ∧
    outcome.codes = (sortedCodes inputs.codes).map codeValue ∧
    ∀ context, (call.engine.resolve call.tick).2 = some context →
      t.contexts context.tick = some context := by
  unfold AdmitCall.run admitEvent at ran
  obtain ⟨_, u, required, ran⟩ := Prog.exec_bind_ok_iff.mp ran
  obtain ⟨-, rfl⟩ := Prod.mk.inj required
  obtain ⟨inputs, v, lifted, ran⟩ := Prog.exec_bind_ok_iff.mp ran
  obtain ⟨evaluated, rfl⟩ := Prod.mk.inj lifted
  rw [← (EventAdmissionEngine.evaluate_given evaluated).context]
  exact ⟨inputs, evaluated, exec_conclude_ok filed ran⟩

end Call

def AdmitCall.Accepts (call : AdmitCall D) : Prop :=
  call.engine.Accepts call.rawEvent call.signatureSet call.validationPolicy call.tick

/-! A call that passes every check, but for its context when that is not committed. -/
section Sample
open Value Registry

/-- The members with their digest. -/
def ContractName.sign (kind : ContractName) (members : Dict) : Dict :=
  match (kind.expected members : Except Raise (List Nat)) with
  | .ok digest => members ++ [(.text kind.digestField, .str (.text (DigestText.text digest)))]
  | .error _ => members

/-- Signed members are a contract where the schema admits them. -/
theorem signed_ok {kind : ContractName} {members : Dict}
    (fresh : ∀ member ∈ members, member.1 ≠ .text kind.digestField)
    (frozen : everyMember (fun value => !value.isFloat) members = true)
    (accepted : ∀ digest : List Nat, kind.accepts (List Nat) (members ++
      [(.text kind.digestField, .str (.text (DigestText.text digest)))]) = true)
    (semantic : ∀ value, semanticValidate kind (members ++ [(.text kind.digestField, value)]) = .ok ())
    (each : ∀ member ∈ members, ∃ kept,
      normalizeMember (propertyOf kind.properties member.1) member.2 = .ok kept)
    (digits : everyMember hasDigits members = true)
    (encodable : everyMember isEncodable members = true) : ∃ object : ContractObject (List Nat) kind,
      ContractObject.fromJson kind (kind.sign members) = .ok object ∧
      object.value = members ++ [(.text kind.digestField, .str (.text object.digest))] := by
  have keys : hasTextKeys (.dict members) = true := by
    have whole := accepts_textKeys (accepted [])
    rw [hasTextKeys, List.all_append, Bool.and_eq_true] at whole
    exact whole.1
  obtain ⟨payload, bytes⟩ := canonical_exists keys each digits encodable
  obtain ⟨object, built, value⟩ := ContractObject.build_ok fresh frozen accepted semantic bytes
  refine ⟨object, ?_, value⟩
  unfold ContractObject.build at built
  split at built
  · cases built
  · obtain ⟨digest, taken, read⟩ := except_bind_ok.mp built
    rw [ContractName.sign, taken]
    exact read

theorem decimal_one : hasDecimal 0 = true ∧ hasDecimal 1 = true :=
  ⟨hasDecimal_of_lt (by decide), hasDecimal_of_lt (by decide)⟩

def sampleRoot : String := DigestText.text ([] : List Nat)

def sampleEventMembers : Dict :=
  [(.text "schema_version", .str (.text "raw-event/1")),
    (.text "event_id", .str (.text "event")),
    (.text "event_type", .str (.text "type")),
    (.text "payload_schema_version", .str (.text "payload")),
    (.text "payload", .dict []),
    (.text "submitted_against_tick", .int 0)]

def sampleEvent : Dict := ContractName.rawEvent.sign sampleEventMembers

theorem sampleEvent_ok : ∃ raw : ContractObject (List Nat) .rawEvent,
    ContractObject.fromJson .rawEvent sampleEvent = .ok raw ∧ raw.value = sampleEventMembers ++
      [(.text "raw_event_digest", .str (.text raw.digest))] := by
  unfold sampleEvent sampleEventMembers
  refine signed_ok ?_ rfl ?_ (fun _ => rfl) ?_ ?_ rfl
  · simp [ContractName.digestField]
  · intro digest
    refine closed_of_members (by simp [ContractName.digestField])
      (by simp [ContractName.properties, ContractName.digestField]) fun field inside => ?_
    simp only [ContractName.properties, List.mem_cons, List.not_mem_nil, or_false] at inside
    rcases inside with rfl | rfl | rfl | rfl | rfl | rfl | rfl
    all_goals refine ⟨_, StableSort.mem_of_lookup rfl, ?_⟩
    all_goals first
      | rfl
      | decide +kernel
      | exact isDigest_schema (DigestText.isDigest_text digest)
  · intro member inside
    simp only [List.mem_cons, List.not_mem_nil, or_false] at inside
    rcases inside with rfl | rfl | rfl | rfl | rfl | rfl
    all_goals exact ⟨_, rfl⟩
  · simp [everyMember, every, hasDigits, decimal_one]

def sampleRecord (digest : String) : Dict :=
  [(.text "signer_id", .str (.text "signer")),
    (.text "key_id", .str (.text "key")),
    (.text "algorithm", .str (.text "ed25519")),
    (.text "signed_digest", .str (.text digest)),
    (.text "signature_base64", .str (.text "AAAA")),
    (.text "authority_scope", .str (.text "scope"))]

def sampleSignatureMembers (digest : String) : Dict :=
  [(.text "schema_version", .str (.text "signature-set/1")),
    (.text "signatures", .list [.dict (sampleRecord digest)])]

def sampleSignatures : Dict := ContractName.signatureSet.sign
  (sampleSignatureMembers ((textAt sampleEvent "raw_event_digest").getD ""))

theorem sampleRecord_accepted {digest : String}
    (isDigest : DigestText.isDigest (List Nat) digest = true) :
    Item.accepts (List Nat) (.record signatureFields) (.dict (sampleRecord digest)) = true := by
  refine closed_of_members (by simp [sampleRecord]) (by simp [sampleRecord, signatureFields])
    fun field inside => ?_
  simp only [signatureFields, List.mem_cons, List.not_mem_nil, or_false] at inside
  rcases inside with rfl | rfl | rfl | rfl | rfl | rfl
  all_goals refine ⟨_, StableSort.mem_of_lookup rfl, ?_⟩
  all_goals first
    | rfl
    | decide +kernel
    | exact isDigest_schema isDigest

theorem sampleSignatures_ok {digest : String}
    (isDigest : DigestText.isDigest (List Nat) digest = true) :
    ∃ signatures : ContractObject (List Nat) .signatureSet,
      ContractObject.fromJson .signatureSet
        (ContractName.signatureSet.sign (sampleSignatureMembers digest)) = .ok signatures ∧
      signatures.value = sampleSignatureMembers digest ++
        [(.text "signature_set_digest", .str (.text signatures.digest))] := by
  unfold sampleSignatureMembers
  refine signed_ok ?_ rfl ?_ (fun _ => rfl) ?_ rfl rfl
  · simp [ContractName.digestField]
  · intro signed
    refine closed_of_members (by simp [ContractName.digestField])
      (by simp [ContractName.properties, ContractName.digestField]) fun field inside => ?_
    simp only [ContractName.properties, List.mem_cons, List.not_mem_nil, or_false] at inside
    rcases inside with rfl | rfl | rfl
    all_goals refine ⟨_, StableSort.mem_of_lookup rfl, ?_⟩
    · rfl
    · simp [Property.accepts, sampleRecord_accepted isDigest]
    · exact isDigest_schema (DigestText.isDigest_text signed)
  · intro member inside
    simp only [List.mem_cons, List.not_mem_nil, or_false] at inside
    rcases inside with rfl | rfl
    · exact ⟨_, rfl⟩
    · have sorted : normalizeSet [.dict (sampleRecord digest)] =
          .ok (sortedSet [.dict (sampleRecord digest)]) :=
        normalizeSet_ok.mpr ⟨⟨rfl, rfl, .singleton _⟩, rfl⟩
      refine ⟨.list (sortedSet [.dict (sampleRecord digest)]), ?_⟩
      have set_ : propertyOf ContractName.signatureSet.properties (.text "signatures") =
          some (.set (.record signatureFields)) := rfl
      simp only [set_, normalizeMember, sorted]
      rfl

def samplePolicyMembers : Dict :=
  [(.text "schema_version", .str (.text "validation-policy/1")),
    (.text "policy_id", .str (.text "policy")),
    (.text "policy_version", .int 1),
    (.text "canonicalization_policy_digest", .str (.text sampleRoot)),
    (.text "authority_policy_digest", .str (.text sampleRoot)),
    (.text "accepted_raw_event_schemas", .list [.str (.text "payload")]),
    (.text "allowed_signature_algorithms", .list [.str (.text "ed25519")]),
    (.text "minimum_signature_count", .int 1)]

def samplePolicy : Dict := ContractName.validationPolicy.sign samplePolicyMembers

theorem samplePolicy_ok : ∃ policy : ContractObject (List Nat) .validationPolicy,
    ContractObject.fromJson .validationPolicy samplePolicy = .ok policy ∧
    policy.value = samplePolicyMembers ++ [(.text "policy_digest", .str (.text policy.digest))] := by
  unfold samplePolicy samplePolicyMembers
  refine signed_ok ?_ rfl ?_ (fun _ => rfl) ?_ ?_ rfl
  · simp [ContractName.digestField]
  · intro digest
    refine closed_of_members (by simp [ContractName.digestField])
      (by simp [ContractName.properties, ContractName.digestField]) fun field inside => ?_
    simp only [ContractName.properties, List.mem_cons, List.not_mem_nil, or_false] at inside
    rcases inside with rfl | rfl | rfl | rfl | rfl | rfl | rfl | rfl | rfl
    all_goals refine ⟨_, StableSort.mem_of_lookup rfl, ?_⟩
    all_goals first
      | rfl
      | decide +kernel
      | exact isDigest_schema (DigestText.isDigest_text digest)
  · intro member inside
    simp only [List.mem_cons, List.not_mem_nil, or_false] at inside
    rcases inside with rfl | rfl | rfl | rfl | rfl | rfl | rfl | rfl
    all_goals exact ⟨_, rfl⟩
  · simp [everyMember, every, everyItem, hasDigits, decimal_one]

def sampleContext (committed : Bool) : CommittedValidationContext (List Nat) where
  tick := 0
  stateRootDigest := sampleRoot
  authorityRootDigest := sampleRoot
  committed := committed
  rendered := decimal_one.1
  stateRoot := DigestText.isDigest_text []
  authorityRoot := DigestText.isDigest_text []

def sampleEngine (committed : Bool) : EventAdmissionEngine (List Nat) where
  latestCommittedTick := .ok (some 0)
  resolveContext _ := .ok (some (sampleContext committed))
  resolvePayloadSchema _ := .ok (some [])
  validatePayload _ _ := .valid
  verify _ _ := true
  isAuthorized _ _ _ := true
  resolvePolicy _ := .ok (ContractObject.fromJson .validationPolicy samplePolicy).toOption
  isAllowed _ _ := true

def sampleCall (committed : Bool) : AdmitCall (List Nat) :=
  ⟨sampleEngine committed, .dict sampleEvent, .dict sampleSignatures, .dict samplePolicy, 0⟩

/-- The call with another context, or without one, at another tick. -/
def sampleAt (context : Option (CommittedValidationContext (List Nat))) (tick : Int) :
    AdmitCall (List Nat) :=
  { sampleCall true with
    engine := { sampleEngine true with resolveContext := fun _ => .ok context }
    tick := tick }

def sampleSigned (digest : String) : SignatureRecord :=
  ⟨.text "signer", .text "key", .text "ed25519", .text digest, .text "AAAA", .text "scope"⟩

theorem sampleRecord_read {digest : String}
    (isDigest : DigestText.isDigest (List Nat) digest = true) :
    SignatureRecord.fromJson (List Nat) (.dict (sampleRecord digest)) =
      .ok (sampleSigned digest) := by
  have fields : closed (fun _ _ => true) signatureFields (sampleRecord digest) = true := by rfl
  have whole : isDigestStr (List Nat) (.text digest) = true := isDigest
  have parts : strAt (sampleRecord digest) "signer_id" = some (.text "signer") ∧
      strAt (sampleRecord digest) "key_id" = some (.text "key") ∧
      strAt (sampleRecord digest) "algorithm" = some (.text "ed25519") ∧
      strAt (sampleRecord digest) "signed_digest" = some (.text digest) ∧
      strAt (sampleRecord digest) "signature_base64" = some (.text "AAAA") ∧
      strAt (sampleRecord digest) "authority_scope" = some (.text "scope") := ⟨rfl, rfl, rfl, rfl, rfl, rfl⟩
  obtain ⟨signer, key, algorithm, signed, base64, scope⟩ := parts
  simp [SignatureRecord.fromJson, signer, key, algorithm, signed, base64, scope, fields, whole,
    sampleSigned]

/-- The inputs of the sample are contracts. -/
structure SampleContracts (raw : ContractObject (List Nat) .rawEvent)
    (signatures : ContractObject (List Nat) .signatureSet)
    (policy : ContractObject (List Nat) .validationPolicy) : Prop where
  rawEvent : ContractObject.fromJson .rawEvent sampleEvent = .ok raw
  signatureSet : ContractObject.fromJson .signatureSet sampleSignatures = .ok signatures
  validationPolicy : ContractObject.fromJson .validationPolicy samplePolicy = .ok policy
  records : signatures.list "signatures" = [.dict (sampleRecord raw.digest)]
  version : raw.text "payload_schema_version" = "payload"
  tick : raw.int "submitted_against_tick" = 0
  schemas : policy.texts "accepted_raw_event_schemas" = [.text "payload"]
  algorithms : policy.texts "allowed_signature_algorithms" = [.text "ed25519"]
  minimum : policy.int "minimum_signature_count" = 1

theorem sampleContracts : ∃ raw signatures policy, SampleContracts raw signatures policy := by
  obtain ⟨raw, readRaw, rawValue⟩ := sampleEvent_ok
  obtain ⟨policy, readPolicy, policyValue⟩ := samplePolicy_ok
  obtain ⟨signatures, readSet, setValue⟩ := sampleSignatures_ok raw.isDigest
  have named : (textAt sampleEvent "raw_event_digest").getD "" = raw.digest := by
    rw [← fromJson_ok.mp readRaw]
    rfl
  refine ⟨raw, signatures, policy, readRaw, ?_, readPolicy, ?_, ?_, ?_, ?_, ?_, ?_⟩
  · rw [sampleSignatures, named, readSet]
  · exact list_of_lookup (by rw [setValue]; rfl)
  · exact text_of_lookup (by rw [rawValue]; rfl)
  · exact int_of_lookup (by rw [rawValue]; rfl)
  · rw [ContractObject.texts, list_of_lookup (by rw [policyValue]; rfl)]
    rfl
  · rw [ContractObject.texts, list_of_lookup (by rw [policyValue]; rfl)]
    rfl
  · exact int_of_lookup (by rw [policyValue]; rfl)

theorem SampleContracts.readable {raw : ContractObject (List Nat) .rawEvent}
    {signatures : ContractObject (List Nat) .signatureSet}
    {policy : ContractObject (List Nat) .validationPolicy}
    (sample : SampleContracts raw signatures policy) :
    Readable (List Nat) (signatures.list "signatures") ∧
    signatures.records = [sampleSigned raw.digest] := by
  have read := sampleRecord_read raw.isDigest
  rw [ContractObject.records, sample.records]
  refine ⟨?_, ?_⟩
  · intro item inside
    obtain rfl := List.mem_singleton.mp inside
    exact ⟨_, read⟩
  · simp [read, Except.toOption]

theorem sampleCall_accepts : (sampleCall true).Accepts := by
  obtain ⟨raw, signatures, policy, sample⟩ := sampleContracts
  obtain ⟨readable, records⟩ := sample.readable
  refine ⟨raw, signatures, policy, sampleContext true, policy, sample.rawEvent,
    sample.signatureSet, sample.validationPolicy, ?_⟩
  refine ⟨⟨rfl, rfl, rfl, rfl⟩, ?_, ⟨?_, rfl⟩, rfl, ⟨?_, ?_⟩, readable, ?_, ?_, ?_⟩
  · rw [sample.tick]
    rfl
  · change Except.ok (Except.toOption _) = _
    rw [sample.validationPolicy]
    rfl
  · rw [EventAdmissionEngine.payloadVersion, sample.version, sample.schemas]
    exact List.mem_singleton_self _
  · exact ⟨[], rfl, rfl⟩
  · rw [records]
    exact List.nodup_singleton _
  · rw [records, sample.algorithms]
    intro record inside
    obtain rfl := List.mem_singleton.mp inside
    exact ⟨rfl, List.mem_singleton_self _, rfl, rfl⟩
  · rw [records, sample.minimum]
    rfl

theorem sampleAt_served {context : Option (CommittedValidationContext (List Nat))} {tick : Int}
    {s : EventAdmissionStore (List Nat)} (natural : 0 ≤ tick) (decimal : hasDecimal tick = true)
    (agrees : ∀ resolved, context = some resolved → s.Agrees resolved) :
    (sampleAt context tick).Served s := by
  obtain ⟨raw, signatures, policy, sample⟩ := sampleContracts
  obtain ⟨readable, -⟩ := sample.readable
  have ready : ∀ {kind : ContractName} {input : Submission (List Nat) kind}
      {object : ContractObject (List Nat) kind}, coerceContract input = .ok object →
      Settled (coerceContract input) := by
    intro kind input object read e failed
    rw [read] at failed
    cases failed
  refine ⟨natural, decimal, ⟨ready sample.rawEvent, ready sample.signatureSet,
    ready sample.validationPolicy, ?_, ?_⟩, agrees⟩
  · rintro raw' policy' context - - - schema - - impossible
    cases impossible
  · intro raw' signatures' policy' _ read _
    obtain rfl := Except.ok.inj (sample.signatureSet.symm.trans read)
    exact readable

theorem sampleCall_served {committed : Bool} {s : EventAdmissionStore (List Nat)}
    (agrees : s.Agrees (sampleContext committed)) : (sampleCall committed).Served s := by
  refine sampleAt_served (le_refl 0) decimal_one.1 ?_
  rintro context ⟨⟩
  exact agrees

end Sample
end CsdFoundry.Admission

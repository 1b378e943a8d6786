import CsdFoundry.Admission.Signatures
import CsdFoundry.Admission.Coercion

/-! When the checks end without an exception, and when they find nothing. -/
namespace CsdFoundry.Admission
open Registry (except_bind_ok)
variable {D : Type} [DigestText D] [Sha256 D]

theorem attempt_ok {onFailure : String → FailureCode} {coerced : Except Raise α}
    {result : Option α × List FailureCode} : attempt onFailure coerced = .ok result ↔
      (∃ a, coerced = .ok a ∧ result = (some a, [])) ∨
      (∃ code, coerced = .error (.governance code) ∧ result = (none, [onFailure code])) := by
  cases coerced with
  | ok a => simp [attempt, eq_comm]
  | error e => cases e <;> simp [attempt, eq_comm]

/-- An input that is a contract, or that the contract layer refuses. -/
def Settled (coerced : Except Raise α) : Prop :=
  ∀ e, coerced = .error e → Handled e

theorem attempt_settled {onFailure : String → FailureCode} {coerced : Except Raise α} :
    (∃ result, attempt onFailure coerced = .ok result) ↔ Settled coerced := by
  cases coerced with
  | ok a => simp [attempt, Settled]
  | error e => cases e <;> simp [attempt, Settled, Handled]

namespace EventAdmissionEngine
variable {engine : EventAdmissionEngine D} {tick : Int} {raw : ContractObject D .rawEvent}
  {signatures : ContractObject D .signatureSet} {policy : ContractObject D .validationPolicy}
  {context : CommittedValidationContext D}

def payloadVersion (raw : ContractObject D .rawEvent) : PyStr :=
  .text (raw.text "payload_schema_version")

/-- The schema library answers, where it is asked. -/
def PayloadAnswers (engine : EventAdmissionEngine D) (raw : ContractObject D .rawEvent)
    (policy : ContractObject D .validationPolicy) : Prop :=
  ∀ schema, payloadVersion raw ∈ policy.texts "accepted_raw_event_schemas" →
    engine.resolvePayloadSchema (payloadVersion raw) = .ok (some schema) →
    engine.validatePayload schema raw.payload ≠ .raised

/-- The payload matches an accepted schema. -/
def PayloadMatches (engine : EventAdmissionEngine D) (raw : ContractObject D .rawEvent)
    (policy : ContractObject D .validationPolicy) : Prop :=
  payloadVersion raw ∈ policy.texts "accepted_raw_event_schemas" ∧
  ∃ schema, engine.resolvePayloadSchema (payloadVersion raw) = .ok (some schema) ∧
    engine.validatePayload schema raw.payload = .valid

theorem payloadCodes_total :
    (∃ codes, engine.payloadCodes raw policy = .ok codes) ↔ engine.PayloadAnswers raw policy := by
  unfold payloadCodes PayloadAnswers payloadVersion
  simp only
  split
  · rename_i refused
    simp [refused]
  · rename_i accepted
    simp only [not_not] at accepted
    split
    · rename_i schema found
      split <;> rename_i verdict <;> simp [accepted, found, verdict]
    · rename_i other
      simp only [Except.ok.injEq, exists_eq', true_iff]
      exact fun schema _ found => absurd found (other schema)

theorem payloadCodes_nil :
    engine.payloadCodes raw policy = .ok [] ↔ engine.PayloadMatches raw policy := by
  unfold payloadCodes PayloadMatches payloadVersion
  simp only
  split
  · rename_i refused
    simp [refused]
  · rename_i accepted
    simp only [not_not] at accepted
    split
    · rename_i schema found
      split <;> rename_i verdict <;> simp [accepted, found, verdict]
    · rename_i other
      constructor
      · intro impossible
        cases impossible
      · rintro ⟨-, schema, found, -⟩
        exact absurd found (other schema)

/-- The policy is registered byte for byte. -/
def Registered (engine : EventAdmissionEngine D) (policy registered :
    ContractObject D .validationPolicy) : Prop :=
  engine.resolvePolicy policy.digest = .ok (some registered) ∧
    registered.canonicalBytes = policy.canonicalBytes

theorem registeredPolicy_total (policy : ContractObject D .validationPolicy) :
    ∃ found, engine.registeredPolicy policy = .ok found ∧
      ∀ registered, found = some registered ↔ engine.Registered policy registered := by
  unfold registeredPolicy Registered
  split
  · rename_i other resolved
    obtain ⟨_, there, _, -, bytes, -⟩ := other.canonical
    obtain ⟨_, here, _, -, bytes', -⟩ := policy.canonical
    refine ⟨if there = here then some other else none, ?_, ?_⟩
    · rw [bytes, bytes']
      rfl
    · intro registered
      rw [resolved, bytes']
      constructor
      · intro found
        split at found
        · rename_i same
          cases found
          exact ⟨rfl, by rw [bytes, same]⟩
        · cases found
      · rintro ⟨same, equal⟩
        obtain rfl := Option.some.inj (Except.ok.inj same)
        rw [bytes] at equal
        rw [if_pos (Except.ok.inj equal)]
  · rename_i unresolved
    refine ⟨none, rfl, fun registered => ?_⟩
    constructor
    · intro impossible
      cases impossible
    · rintro ⟨resolved, -⟩
      exact absurd resolved (unresolved registered)

/-- The committed context of the latest tick. -/
structure Current (engine : EventAdmissionEngine D) (tick : Int)
    (context : CommittedValidationContext D) : Prop where
  latest : engine.latestCommittedTick = .ok (some tick)
  resolved : engine.resolveContext tick = .ok (some context)
  committed : context.committed = true
  tick : (context.tick : Int) = tick

theorem resolve_some : engine.resolve tick = (latest, some context) ↔
    engine.latestCommittedTick = .ok latest ∧ engine.resolveContext tick = .ok (some context) := by
  unfold resolve
  split
  · rename_i first second
    rw [first, second]
    simp
  · rename_i other
    constructor
    · intro impossible
      cases impossible
    · rintro ⟨first, second⟩
      exact absurd second (other _ _ first)

theorem contextAdmissible_iff : engine.contextAdmissible tick = true ↔
    ∃ context, engine.Current tick context := by
  unfold contextAdmissible
  split
  · rename_i latest context found
    obtain ⟨first, second⟩ := resolve_some.mp found
    simp only [Bool.and_eq_true, beq_iff_eq]
    constructor
    · rintro ⟨⟨committed, same⟩, last⟩
      exact ⟨context, by rw [first, last], second, committed, same⟩
    · rintro ⟨context', current⟩
      have same := second.symm.trans current.resolved
      obtain rfl := Option.some.inj (Except.ok.inj same)
      exact ⟨⟨current.committed, current.tick⟩, Except.ok.inj (first.symm.trans current.latest)⟩
  · rename_i latest found
    constructor
    · intro impossible
      cases impossible
    · rintro ⟨context, current⟩
      rw [resolve_some.mpr ⟨current.latest, current.resolved⟩] at found
      cases found

theorem Current.resolve (current : engine.Current tick context) :
    engine.resolve tick = (some tick, some context) :=
  resolve_some.mpr ⟨current.latest, current.resolved⟩

theorem Current.authority (current : engine.Current tick context)
    (registered : ContractObject D .validationPolicy) : engine.authority tick (some registered) =
      some (fun signature => engine.isAuthorized signature registered context) := by
  unfold EventAdmissionEngine.authority
  rw [current.resolve]

theorem contextCodes_nil :
    engine.contextCodes tick = [] ↔ ∃ context, engine.Current tick context := by
  unfold contextCodes
  cases found : engine.resolve tick with
  | mk latest context =>
      cases context with
      | none =>
          simp only [List.cons_ne_nil, false_iff]
          rintro ⟨context, current⟩
          rw [current.resolve] at found
          cases found
      | some context =>
          simp only [failing_eq_nil, Bool.not_eq_false]
          exact contextAdmissible_iff

theorem admissiblePolicy_total (engine : EventAdmissionEngine D) (tick : Int)
    (policy : ContractObject D .validationPolicy) :
    ∃ result, engine.admissiblePolicy tick policy = .ok result ∧
      (∀ context, engine.Current tick context → ∀ registered,
        (result = (some registered, []) ↔
          engine.Registered policy registered ∧ engine.isAllowed registered context = true)) ∧
      (∀ context, engine.Current tick context → result.2 = [] →
        ∃ registered, result.1 = some registered) := by
  have total : ∃ found, engine.registeredPolicy policy = .ok found ∧ _ :=
    registeredPolicy_total policy
  obtain ⟨found, ran, exactly⟩ := total
  unfold admissiblePolicy
  rw [ran]
  simp only [bind, Except.bind]
  cases found with
  | none =>
      refine ⟨_, rfl, ?_, ?_⟩
      · intro context _ registered
        constructor
        · intro impossible
          cases impossible
        · rintro ⟨there, -⟩
          cases (exactly registered).mpr there
      · rintro _ _ ⟨⟩
  | some registered =>
      simp only
      split
      · rename_i latest context admissible resolved
        split
        · rename_i allowed
          refine ⟨_, rfl, ?_, fun _ _ _ => ⟨registered, rfl⟩⟩
          intro context' current other
          rw [current.resolve] at resolved
          obtain rfl := Option.some.inj resolved
          constructor
          · intro same
            cases same
            exact ⟨(exactly _).mp rfl, allowed⟩
          · rintro ⟨there, -⟩
            rw [Option.some.inj ((exactly other).mpr there)]
        · rename_i refused
          refine ⟨_, rfl, ?_, ?_⟩
          · intro context' current other
            rw [current.resolve] at resolved
            obtain rfl := Option.some.inj resolved
            constructor
            · intro impossible
              cases impossible
            · rintro ⟨there, allowed⟩
              rw [← Option.some.inj ((exactly other).mpr there)] at allowed
              exact absurd allowed refused
          · rintro _ _ ⟨⟩
      · rename_i inadmissible
        refine ⟨_, rfl, ?_, ?_⟩
        · intro context current
          exact absurd (by rw [current.resolve]) (inadmissible context
            (contextAdmissible_iff.mpr ⟨context, current⟩))
        · intro context current
          exact absurd (by rw [current.resolve]) (inadmissible context
            (contextAdmissible_iff.mpr ⟨context, current⟩))

/-- Every check of `admit` passes. -/
structure Admissible (engine : EventAdmissionEngine D) (tick : Int)
    (raw : ContractObject D .rawEvent) (signatures : ContractObject D .signatureSet)
    (policy : ContractObject D .validationPolicy) (context : CommittedValidationContext D)
    (registered : ContractObject D .validationPolicy) : Prop where
  current : engine.Current tick context
  submitted : raw.int "submitted_against_tick" ≤ context.tick
  entered : engine.Registered policy registered
  allowed : engine.isAllowed registered context = true
  payload : engine.PayloadMatches raw policy
  readable : Readable D (signatures.list "signatures")
  signers : (signatures.records.map (·.signerId)).Nodup
  passes : ∀ record ∈ signatures.records, engine.Passes raw.digest
    (policy.texts "allowed_signature_algorithms")
    (fun record => engine.isAuthorized record registered context) record
  threshold : policy.int "minimum_signature_count" ≤ signatures.records.length

theorem signatureCodes_total {registered : Option (ContractObject D .validationPolicy)} :
    (∃ codes, engine.signatureCodes tick raw signatures policy registered = .ok codes) ↔
      Readable D (signatures.list "signatures") := by
  constructor
  · rintro ⟨codes, ran⟩
    by_contra unreadable
    unfold signatureCodes at ran
    obtain ⟨tally, counted, -⟩ := except_bind_ok.mp ran
    obtain ⟨e, failed⟩ := countSignatures_error unreadable
    rw [failed] at counted
    cases counted
  · intro readable
    unfold signatureCodes
    rw [countSignatures_ok readable]
    exact ⟨_, rfl⟩

theorem signatureCodes_nil {registered : ContractObject D .validationPolicy}
    (current : engine.Current tick context) :
    engine.signatureCodes tick raw signatures policy (some registered) = .ok [] ↔
      Readable D (signatures.list "signatures") ∧ (signatures.records.map (·.signerId)).Nodup ∧
      (∀ record ∈ signatures.records, engine.Passes raw.digest
        (policy.texts "allowed_signature_algorithms")
        (fun record => engine.isAuthorized record registered context) record) ∧
      policy.int "minimum_signature_count" ≤ signatures.records.length := by
  have admissible : engine.contextAdmissible tick = true :=
    contextAdmissible_iff.mpr ⟨context, current⟩
  by_cases readable : Readable D (signatures.list "signatures")
  · unfold signatureCodes
    rw [countSignatures_ok readable, current.authority]
    simp only [bind, Except.bind, Except.ok.injEq, List.append_eq_nil_iff, failing_eq_nil,
      admissible, Option.isSome_some, true_and, Int.not_lt, readable]
    rw [← ContractObject.records, countRecords_eq_nil]
    simp only [ownCodes_eq_nil, and_assoc]
    refine and_congr_right fun distinct => and_congr_right fun passes => ?_
    rw [counted_all rfl distinct fun record inside => ownCodes_eq_nil.mpr (passes record inside)]
  · refine iff_of_false (fun ran => ?_) (fun all => readable all.1)
    exact readable (signatureCodes_total.mp ⟨_, ran⟩)

theorem eventCodes_total : (∃ codes, engine.eventCodes raw context (some policy) = .ok codes) ↔
    engine.PayloadAnswers raw policy := by
  rw [← payloadCodes_total]
  unfold eventCodes
  cases ran : engine.payloadCodes raw policy <;> simp [ran, bind, Except.bind]

theorem eventCodes_nil : engine.eventCodes raw context (some policy) = .ok [] ↔
    raw.int "submitted_against_tick" ≤ context.tick ∧ engine.PayloadMatches raw policy := by
  rw [← payloadCodes_nil]
  unfold eventCodes
  cases ran : engine.payloadCodes raw policy <;> simp [ran, bind, Except.bind]

theorem registryStep_total (engine : EventAdmissionEngine D) (tick : Int)
    (policy : Option (ContractObject D .validationPolicy)) :
    ∃ result, engine.registryStep tick policy = .ok result := by
  cases policy with
  | none => exact ⟨_, rfl⟩
  | some policy =>
      obtain ⟨result, ran, -⟩ := admissiblePolicy_total engine tick policy
      exact ⟨result, ran⟩

theorem eventStep_total {raw : Option (ContractObject D .rawEvent)}
    {policy : Option (ContractObject D .validationPolicy)} :
    (∃ codes, engine.eventStep tick raw policy = .ok codes) ↔ ∀ raw' policy' context,
      raw = some raw' → policy = some policy' → (engine.resolve tick).2 = some context →
      engine.PayloadAnswers raw' policy' := by
  unfold eventStep
  cases raw with
  | none => simp
  | some raw =>
      cases (engine.resolve tick).2 with
      | none => simp
      | some context =>
          cases policy with
          | none => simp [eventCodes]
          | some policy => simp [eventCodes_total]

theorem Current.eventStep (current : engine.Current tick context)
    (policy : Option (ContractObject D .validationPolicy)) :
    engine.eventStep tick (some raw) policy = engine.eventCodes raw context policy := by
  unfold EventAdmissionEngine.eventStep
  rw [current.resolve]

theorem signatureStep_total {registered policy : Option (ContractObject D .validationPolicy)}
    {raw : Option (ContractObject D .rawEvent)} {signatures : Option (ContractObject D .signatureSet)} :
    (∃ codes, engine.signatureStep tick registered raw signatures policy = .ok codes) ↔
      ∀ signatures', raw.isSome = true → signatures = some signatures' → policy.isSome = true →
      Readable D (signatures'.list "signatures") := by
  cases raw <;> cases signatures <;> cases policy <;>
    simp [signatureStep, signatureCodes_total]

section Evaluate
variable {rawInput : Submission D .rawEvent} {signatureInput : Submission D .signatureSet}
  {policyInput : Submission D .validationPolicy} {inputs : Inputs D}

/-- The checks end without an exception. -/
structure Answers (engine : EventAdmissionEngine D) (rawInput : Submission D .rawEvent)
    (signatureInput : Submission D .signatureSet) (policyInput : Submission D .validationPolicy)
    (tick : Int) : Prop where
  raw : Settled (coerceContract rawInput)
  signatures : Settled (coerceContract signatureInput)
  policy : Settled (coerceContract policyInput)
  payload : ∀ raw policy context, coerceContract rawInput = .ok raw →
    coerceContract policyInput = .ok policy → (engine.resolve tick).2 = some context →
    engine.PayloadAnswers raw policy
  readable : ∀ raw signatures policy, coerceContract rawInput = .ok raw →
    coerceContract signatureInput = .ok signatures → coerceContract policyInput = .ok policy →
    Readable D (signatures.list "signatures")

theorem attempt_fst {onFailure : String → FailureCode} {coerced : Except Raise α}
    {result : Option α × List FailureCode} (ran : attempt onFailure coerced = .ok result) (a : α) :
    result.1 = some a ↔ coerced = .ok a := by
  rcases attempt_ok.mp ran with ⟨b, rfl, rfl⟩ | ⟨code, rfl, rfl⟩ <;> simp

theorem attempt_snd {onFailure : String → FailureCode} {coerced : Except Raise α}
    {result : Option α × List FailureCode} (ran : attempt onFailure coerced = .ok result) :
    result.2 = [] ↔ ∃ a, coerced = .ok a := by
  rcases attempt_ok.mp ran with ⟨b, rfl, rfl⟩ | ⟨code, rfl, rfl⟩ <;> simp

theorem evaluate_total :
    (∃ inputs, engine.evaluate rawInput signatureInput policyInput tick = .ok inputs) ↔
      engine.Answers rawInput signatureInput policyInput tick := by
  constructor
  · rintro ⟨inputs, ran⟩
    unfold evaluate at ran
    obtain ⟨raw, first, ran⟩ := except_bind_ok.mp ran
    obtain ⟨signatures, second, ran⟩ := except_bind_ok.mp ran
    obtain ⟨policy, third, ran⟩ := except_bind_ok.mp ran
    obtain ⟨registered, _, ran⟩ := except_bind_ok.mp ran
    obtain ⟨event, fifth, ran⟩ := except_bind_ok.mp ran
    obtain ⟨signed, sixth, -⟩ := except_bind_ok.mp ran
    refine ⟨attempt_settled.mp ⟨_, first⟩, attempt_settled.mp ⟨_, second⟩,
      attempt_settled.mp ⟨_, third⟩, ?_, ?_⟩
    · intro raw' policy' context isRaw isPolicy found
      exact eventStep_total.mp ⟨event, fifth⟩ raw' policy' context
        ((attempt_fst first raw').mpr isRaw) ((attempt_fst third policy').mpr isPolicy) found
    · intro raw' signatures' policy' isRaw isSet isPolicy
      refine signatureStep_total.mp ⟨signed, sixth⟩ signatures' ?_
        ((attempt_fst second signatures').mpr isSet) ?_
      · rw [(attempt_fst first raw').mpr isRaw, Option.isSome_some]
      · rw [(attempt_fst third policy').mpr isPolicy, Option.isSome_some]
  · rintro ⟨rawSettled, setSettled, policySettled, payload, readable⟩
    obtain ⟨raw, first⟩ := attempt_settled.mpr rawSettled
    obtain ⟨signatures, second⟩ := attempt_settled.mpr setSettled
    obtain ⟨policy, third⟩ := attempt_settled.mpr policySettled
    obtain ⟨registered, fourth⟩ := registryStep_total engine tick policy.1
    obtain ⟨event, fifth⟩ : ∃ codes, engine.eventStep tick raw.1 policy.1 = .ok codes := by
      refine eventStep_total.mpr fun raw' policy' context isRaw isPolicy found => ?_
      exact payload raw' policy' context ((attempt_fst first raw').mp isRaw)
        ((attempt_fst third policy').mp isPolicy) found
    obtain ⟨signed, sixth⟩ : ∃ codes, engine.signatureStep tick registered.1 raw.1 signatures.1
        policy.1 = .ok codes := by
      refine signatureStep_total.mpr fun signatures' isRaw isSet isPolicy => ?_
      obtain ⟨raw', rawIs⟩ := Option.isSome_iff_exists.mp isRaw
      obtain ⟨policy', policyIs⟩ := Option.isSome_iff_exists.mp isPolicy
      exact readable raw' signatures' policy' ((attempt_fst first raw').mp rawIs)
        ((attempt_fst second signatures').mp isSet) ((attempt_fst third policy').mp policyIs)
    refine ⟨_, except_bind_ok.mpr ⟨_, first, except_bind_ok.mpr ⟨_, second, except_bind_ok.mpr
      ⟨_, third, except_bind_ok.mpr ⟨_, fourth, except_bind_ok.mpr ⟨_, fifth, except_bind_ok.mpr
      ⟨_, sixth, rfl⟩⟩⟩⟩⟩⟩⟩

/-- The inputs that are at hand are those that are contracts. -/
structure Given (engine : EventAdmissionEngine D) (rawInput : Submission D .rawEvent)
    (signatureInput : Submission D .signatureSet) (policyInput : Submission D .validationPolicy)
    (tick : Int) (inputs : Inputs D) : Prop where
  raw : ∀ raw, inputs.rawEvent = some raw ↔ coerceContract rawInput = .ok raw
  signatures : ∀ signatures, inputs.signatureSet = some signatures ↔
    coerceContract signatureInput = .ok signatures
  policy : ∀ policy, inputs.validationPolicy = some policy ↔
    coerceContract policyInput = .ok policy
  context : inputs.context = (engine.resolve tick).2

theorem evaluate_given
    (ran : engine.evaluate rawInput signatureInput policyInput tick = .ok inputs) :
    engine.Given rawInput signatureInput policyInput tick inputs := by
  unfold evaluate at ran
  obtain ⟨raw, first, ran⟩ := except_bind_ok.mp ran
  obtain ⟨signatures, second, ran⟩ := except_bind_ok.mp ran
  obtain ⟨policy, third, ran⟩ := except_bind_ok.mp ran
  obtain ⟨registered, _, ran⟩ := except_bind_ok.mp ran
  obtain ⟨event, _, ran⟩ := except_bind_ok.mp ran
  obtain ⟨signed, _, ran⟩ := except_bind_ok.mp ran
  obtain rfl := Except.ok.inj ran
  exact ⟨attempt_fst first, attempt_fst second, attempt_fst third, rfl⟩

/-- The call passes every check. -/
def Accepts (engine : EventAdmissionEngine D) (rawInput : Submission D .rawEvent)
    (signatureInput : Submission D .signatureSet) (policyInput : Submission D .validationPolicy)
    (tick : Int) : Prop :=
  ∃ raw signatures policy context registered, coerceContract rawInput = .ok raw ∧
    coerceContract signatureInput = .ok signatures ∧ coerceContract policyInput = .ok policy ∧
    engine.Admissible tick raw signatures policy context registered

theorem evaluate_nil
    (ran : engine.evaluate rawInput signatureInput policyInput tick = .ok inputs) :
    inputs.codes = [] ↔ engine.Accepts rawInput signatureInput policyInput tick := by
  unfold evaluate at ran
  obtain ⟨raw, first, ran⟩ := except_bind_ok.mp ran
  obtain ⟨signatures, second, ran⟩ := except_bind_ok.mp ran
  obtain ⟨policy, third, ran⟩ := except_bind_ok.mp ran
  obtain ⟨registered, fourth, ran⟩ := except_bind_ok.mp ran
  obtain ⟨event, fifth, ran⟩ := except_bind_ok.mp ran
  obtain ⟨signed, sixth, ran⟩ := except_bind_ok.mp ran
  obtain rfl := Except.ok.inj ran
  simp only [List.append_eq_nil_iff]
  constructor
  · rintro ⟨⟨⟨⟨⟨⟨noRaw, noSet⟩, noPolicy⟩, noContext⟩, noRegistry⟩, rfl⟩, rfl⟩
    obtain ⟨raw', isRaw⟩ := (attempt_snd first).mp noRaw
    obtain ⟨signatures', isSet⟩ := (attempt_snd second).mp noSet
    obtain ⟨policy', isPolicy⟩ := (attempt_snd third).mp noPolicy
    obtain ⟨context, current⟩ := contextCodes_nil.mp noContext
    rw [(attempt_fst first raw').mpr isRaw, (attempt_fst third policy').mpr isPolicy] at fifth sixth
    rw [(attempt_fst second signatures').mpr isSet] at sixth
    rw [(attempt_fst third policy').mpr isPolicy] at fourth
    obtain ⟨result, step, exactly, found⟩ :=
      admissiblePolicy_total engine tick policy'
    obtain rfl : registered = result := Except.ok.inj (fourth.symm.trans step)
    obtain ⟨registered', isRegistered⟩ := found context current noRegistry
    obtain ⟨entered, allowed⟩ :=
      (exactly context current registered').mp (Prod.ext isRegistered noRegistry)
    rw [current.eventStep] at fifth
    obtain ⟨submitted, payload⟩ := eventCodes_nil.mp fifth
    rw [isRegistered, signatureStep] at sixth
    obtain ⟨readable, signers, passes, threshold⟩ := (signatureCodes_nil current).mp sixth
    exact ⟨raw', signatures', policy', context, registered', isRaw, isSet, isPolicy,
      ⟨current, submitted, entered, allowed, payload, readable, signers, passes, threshold⟩⟩
  · rintro ⟨raw', signatures', policy', context, registered', isRaw, isSet, isPolicy, all⟩
    have current := all.current
    rw [(attempt_fst first raw').mpr isRaw, (attempt_fst third policy').mpr isPolicy] at fifth sixth
    rw [(attempt_fst second signatures').mpr isSet] at sixth
    rw [(attempt_fst third policy').mpr isPolicy] at fourth
    obtain ⟨result, step, exactly, -⟩ :=
      admissiblePolicy_total engine tick policy'
    obtain rfl : registered = result := Except.ok.inj (fourth.symm.trans step)
    obtain rfl := (exactly context current registered').mpr ⟨all.entered, all.allowed⟩
    rw [current.eventStep] at fifth
    rw [signatureStep] at sixth
    have noEvent := eventCodes_nil.mpr ⟨all.submitted, all.payload⟩
    have noSigned := (signatureCodes_nil current).mpr
      ⟨all.readable, all.signers, all.passes, all.threshold⟩
    refine ⟨⟨⟨⟨⟨⟨(attempt_snd first).mpr ⟨_, isRaw⟩, (attempt_snd second).mpr ⟨_, isSet⟩⟩,
      (attempt_snd third).mpr ⟨_, isPolicy⟩⟩, contextCodes_nil.mpr ⟨context, current⟩⟩, rfl⟩, ?_⟩, ?_⟩
    · exact Except.ok.inj (fifth.symm.trans noEvent)
    · exact Except.ok.inj (sixth.symm.trans noSigned)

/-- A call that passes is one whose checks end. -/
theorem accepts_answers (accepts : engine.Accepts rawInput signatureInput policyInput tick) :
    engine.Answers rawInput signatureInput policyInput tick := by
  obtain ⟨raw, signatures, policy, context, registered, isRaw, isSet, isPolicy, admissible⟩ := accepts
  have settled : ∀ {α : Type} {coerced : Except Raise α} {a : α}, coerced = .ok a →
      Settled coerced := by
    rintro α _ a rfl e failed
    cases failed
  refine ⟨settled isRaw, settled isSet, settled isPolicy, ?_, ?_⟩
  · intro raw' policy' _ isRaw' isPolicy' _ schema _ found
    obtain rfl := Except.ok.inj (isRaw.symm.trans isRaw')
    obtain ⟨-, schema', found', valid⟩ := admissible.payload
    obtain rfl := Option.some.inj (Except.ok.inj (found'.symm.trans found))
    rw [valid]
    exact nofun
  · intro _ signatures' _ _ isSet' _
    obtain rfl := Except.ok.inj (isSet.symm.trans isSet')
    exact admissible.readable

end Evaluate

section Rearrange
variable {signatures signatures' : ContractObject D .signatureSet}

theorem signatureCodes_rearranged {registered : Option (ContractObject D .validationPolicy)}
    {codes codes' : List FailureCode}
    (rearranged : Rearranged signatures.records signatures'.records)
    (ran : engine.signatureCodes tick raw signatures policy registered = .ok codes)
    (ran' : engine.signatureCodes tick raw signatures' policy registered = .ok codes')
    (code : FailureCode) : code ∈ codes ↔ code ∈ codes' := by
  have readable := signatureCodes_total.mp ⟨_, ran⟩
  have readable' := signatureCodes_total.mp ⟨_, ran'⟩
  unfold signatureCodes at ran ran'
  rw [countSignatures_ok readable] at ran
  rw [countSignatures_ok readable'] at ran'
  obtain rfl := Except.ok.inj ran
  obtain rfl := Except.ok.inj ran'
  unfold ContractObject.records at rearranged
  rw [List.mem_append, List.mem_append, rearranged.codes,
    rearranged.counted (show (⟨[], [], []⟩ : Tally).valid.Nodup from List.nodup_nil)]

/-- Signatures of different signers may change places: the failures stay. -/
theorem evaluate_rearranged {rawInput : Submission D .rawEvent}
    {signatureInput signatureInput' : Submission D .signatureSet}
    {policyInput : Submission D .validationPolicy} {inputs inputs' : Inputs D}
    (given : coerceContract signatureInput = .ok signatures)
    (given' : coerceContract signatureInput' = .ok signatures')
    (rearranged : Rearranged signatures.records signatures'.records)
    (ran : engine.evaluate rawInput signatureInput policyInput tick = .ok inputs)
    (ran' : engine.evaluate rawInput signatureInput' policyInput tick = .ok inputs')
    (code : FailureCode) : code ∈ inputs.codes ↔ code ∈ inputs'.codes := by
  unfold evaluate at ran ran'
  rw [given] at ran
  rw [given'] at ran'
  obtain ⟨raw, first, ran⟩ := except_bind_ok.mp ran
  obtain ⟨_, ⟨⟩, ran⟩ := except_bind_ok.mp ran
  obtain ⟨policy, third, ran⟩ := except_bind_ok.mp ran
  obtain ⟨registered, fourth, ran⟩ := except_bind_ok.mp ran
  obtain ⟨event, fifth, ran⟩ := except_bind_ok.mp ran
  obtain ⟨signed, sixth, ran⟩ := except_bind_ok.mp ran
  rw [first] at ran'
  obtain ⟨_, ⟨⟩, ran'⟩ := except_bind_ok.mp ran'
  obtain ⟨_, ⟨⟩, ran'⟩ := except_bind_ok.mp ran'
  rw [third] at ran'
  obtain ⟨_, ⟨⟩, ran'⟩ := except_bind_ok.mp ran'
  rw [fourth] at ran'
  obtain ⟨_, ⟨⟩, ran'⟩ := except_bind_ok.mp ran'
  rw [fifth] at ran'
  obtain ⟨_, ⟨⟩, ran'⟩ := except_bind_ok.mp ran'
  obtain ⟨signed', sixth', ran'⟩ := except_bind_ok.mp ran'
  obtain rfl := Except.ok.inj ran
  obtain rfl := Except.ok.inj ran'
  have same : code ∈ signed ↔ code ∈ signed' := by
    unfold signatureStep at sixth sixth'
    cases there : raw.1 with
    | none =>
        rw [there] at sixth sixth'
        rw [← Except.ok.inj sixth, ← Except.ok.inj sixth']
    | some raw' =>
        cases listed : policy.1 with
        | none =>
            rw [there, listed] at sixth sixth'
            rw [← Except.ok.inj sixth, ← Except.ok.inj sixth']
        | some policy' =>
            rw [there, listed] at sixth sixth'
            exact signatureCodes_rearranged rearranged sixth sixth' code
  simp only [List.mem_append, same]

end Rearrange
end EventAdmissionEngine
end CsdFoundry.Admission

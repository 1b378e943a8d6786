import Mathlib
import CsdFoundry.Admission.Acceptance

/-! Which calls on untrusted objects end with a receipt, and what can be said of it. -/
namespace CsdFoundry.Admission
open Storage
open Value
open EventAdmissionStore
variable {D : Type} [DigestText D] [Sha256 D]

def AdmitCall.resubmit (call : AdmitCall D) (signatureSet : Submission D .signatureSet) :
    AdmitCall D := { call with signatureSet := signatureSet }

/-- The call ends with one receipt, an acceptance exactly where every check passes, and which
failures it lists does not depend on the order of signatures of different signers. -/
structure AdmitCall.Total (call : AdmitCall D) (s : EventAdmissionStore D) : Prop where
  returns : ∃ outcome t, call.run.exec s = (.ok outcome, t)
  exact : ∀ outcome t, call.run.exec s = (.ok outcome, t) →
    (outcome.isAccepted = true ↔ call.Accepts)
  rearranged : ∀ signatures signatures' signatureInput',
    coerceContract call.signatureSet = .ok signatures →
    coerceContract signatureInput' = .ok signatures' →
    EventAdmissionEngine.Rearranged signatures.records signatures'.records →
    ∀ outcome t outcome' t', call.run.exec s = (.ok outcome, t) →
    (call.resubmit signatureInput').run.exec s = (.ok outcome', t') →
    outcome.codes = outcome'.codes

theorem exact_outcome {call : AdmitCall D} {s t : EventAdmissionStore D}
    {outcome : AdmissionOutcome D} (filed : s.Filed) (ran : call.run.exec s = (.ok outcome, t)) :
    outcome.isAccepted = true ↔ call.Accepts := by
  obtain ⟨inputs, evaluated, accepted, -, -⟩ := exec_run_ok filed ran
  exact accepted.trans (EventAdmissionEngine.evaluate_nil evaluated)

theorem sortedCodes_congr {codes codes' : List FailureCode}
    (same : ∀ code, code ∈ codes ↔ code ∈ codes') : sortedCodes codes = sortedCodes codes' :=
  List.filter_congr fun code _ => by simp only [same]

theorem total_iff_served {call : AdmitCall D} {s : EventAdmissionStore D} (filed : s.Filed) :
    call.Total s ↔ call.Served s := by
  constructor
  · exact fun total => (exec_run filed).mp total.returns
  · intro served
    refine ⟨(exec_run filed).mpr served, fun outcome t => exact_outcome filed, ?_⟩
    intro signatures signatures' input given given' rearranged outcome t outcome' t' ran ran'
    obtain ⟨inputs, evaluated, -, codes, -⟩ := exec_run_ok filed ran
    obtain ⟨inputs', evaluated', -, codes', -⟩ := exec_run_ok filed ran'
    rw [codes, codes', sortedCodes_congr
      (EventAdmissionEngine.evaluate_rearranged given given' rearranged evaluated evaluated')]

/-- A call on untrusted objects. -/
def AdmitCall.ofDicts (engine : EventAdmissionEngine D) (raw signatures policy : Dict)
    (tick : Int) : AdmitCall D := ⟨engine, .dict raw, .dict signatures, .dict policy, tick⟩

/-- The tick is a natural number with decimal digits, the raw event does not lose its text, no
input has a first fault that cannot be written out, the schema library answers, signed digests are
digests as a whole, and no other context is stored under the tick of the context. -/
structure Orderly (engine : EventAdmissionEngine D) (raw signatures policy : Dict) (tick : Int)
    (s : EventAdmissionStore D) : Prop where
  natural : 0 ≤ tick
  decimal : hasDecimal tick = true
  written : ¬ LosesText D raw
  rawFault : ¬ LosesFault D .rawEvent raw
  signatureFault : ¬ LosesFault D .signatureSet signatures
  policyFault : ¬ LosesFault D .validationPolicy policy
  payload : ∀ (raw' : ContractObject D .rawEvent) (policy' : ContractObject D .validationPolicy)
    context, ContractObject.fromJson .rawEvent raw = .ok raw' →
    ContractObject.fromJson .validationPolicy policy = .ok policy' →
    (engine.resolve tick).2 = some context → engine.PayloadAnswers raw' policy'
  readable : ∀ (raw' : ContractObject D .rawEvent)
    (signatures' : ContractObject D .signatureSet) (policy' : ContractObject D .validationPolicy),
    ContractObject.fromJson .rawEvent raw = .ok raw' →
    ContractObject.fromJson .signatureSet signatures = .ok signatures' →
    ContractObject.fromJson .validationPolicy policy = .ok policy' →
    Readable D (signatures'.list "signatures")
  agrees : ∀ context, (engine.resolve tick).2 = some context → s.Agrees context

theorem settled_rawEvent {raw : Dict} :
    Settled (ContractObject.fromJson .rawEvent raw : Except Raise (ContractObject D .rawEvent)) ↔
      ¬ LosesText D raw ∧ ¬ LosesFault D .rawEvent raw := by
  rw [← fromJson_rawEvent, ← fromJson_schemaLibrary]
  constructor
  · intro settled
    constructor
    · intro failed
      obtain ⟨_, impossible⟩ := settled _ failed
      cases impossible
    · intro failed
      obtain ⟨_, impossible⟩ := settled _ failed
      cases impossible
  · rintro ⟨written, writable⟩ e failed
    rcases fromJson_error failed with handled | ⟨rfl, -⟩ | ⟨rfl, -⟩
    · exact handled
    · exact absurd failed writable
    · exact absurd failed written

theorem settled_plain {kind : ContractName} {members : Dict}
    (plain : kind.properties.all (fun field => field.2.plain) = true) :
    Settled (ContractObject.fromJson kind members : Except Raise (ContractObject D kind)) ↔
      ¬ LosesFault D kind members := by
  constructor
  · intro settled loses
    obtain ⟨_, impossible⟩ := settled _ (fromJson_schemaLibrary.mpr loses)
    cases impossible
  · intro writable e failed
    rcases fromJson_plain plain failed with handled | ⟨-, loses⟩
    · exact handled
    · exact absurd loses writable

theorem served_ofDicts {engine : EventAdmissionEngine D} {raw signatures policy : Dict}
    {tick : Int} {s : EventAdmissionStore D} :
    (AdmitCall.ofDicts engine raw signatures policy tick).Served s ↔
      Orderly engine raw signatures policy tick s := by
  constructor
  · rintro ⟨natural, decimal, answers, agrees⟩
    obtain ⟨written, writable⟩ := settled_rawEvent.mp answers.raw
    exact ⟨natural, decimal, written, writable, (settled_plain signatureSet_plain).mp
      answers.signatures, (settled_plain validationPolicy_plain).mp answers.policy,
      answers.payload, answers.readable, agrees⟩
  · intro orderly
    exact ⟨orderly.natural, orderly.decimal,
      ⟨settled_rawEvent.mpr ⟨orderly.written, orderly.rawFault⟩,
        (settled_plain signatureSet_plain).mpr orderly.signatureFault,
        (settled_plain validationPolicy_plain).mpr orderly.policyFault,
        orderly.payload, orderly.readable⟩, orderly.agrees⟩

section Runs
variable {ι : Type} [DecidableEq ι] {issued : AdmitCall D → Prop}
  {c : Pool ι (EventAdmissionStore D) Raise (AdmitCall D × AdmissionOutcome D)}

/-- On every store that a run reaches, a call is total exactly where it is orderly. -/
theorem total_iff (run : Pool.Reaches (Admissions issued) (Pool.idle initial) c)
    (engine : EventAdmissionEngine D) (raw signatures policy : Dict) (tick : Int) :
    (AdmitCall.ofDicts engine raw signatures policy tick).Total c.store ↔
      Orderly engine raw signatures policy tick c.store := by
  have filed : c.store.Filed := (run_sound run).valid.contracts
  rw [total_iff_served filed, served_ofDicts]

theorem total_sample :
    (AdmitCall.ofDicts (sampleEngine true) sampleEvent sampleSignatures samplePolicy 0).Total
      (initial : EventAdmissionStore (List Nat)) := by
  let issued : AdmitCall (List Nat) → Prop := fun _ => False
  have start : Pool.Reaches (Admissions issued)
      (Pool.idle initial : Pool Unit (EventAdmissionStore (List Nat)) Raise _)
      (Pool.idle initial) := .refl
  refine (total_iff start (sampleEngine true) sampleEvent sampleSignatures samplePolicy 0).mpr ?_
  exact served_ofDicts.mp (sampleCall_served fun _ stored => nomatch stored)

local instance codePoint_neZero : NeZero 0x110000 := ⟨by decide⟩

/-- A raw event whose payload holds a lone surrogate, with some digest. -/
def surrogateEvent : Dict :=
  [(.text "schema_version", .str (.text "raw-event/1")),
    (.text "event_id", .str (.text "event")),
    (.text "event_type", .str (.text "type")),
    (.text "payload_schema_version", .str (.text "payload")),
    (.text "payload", .dict [(.text "key", .str (.lone ⟨[0xD800], rfl⟩))]),
    (.text "submitted_against_tick", .int 0),
    (.text "raw_event_digest", .str (.text sampleRoot))]

theorem surrogateEvent_losesText : LosesText (List Nat) surrogateEvent where
  frozen := rfl
  accepted := by
    refine closed_of_members (by simp [surrogateEvent])
      (by simp [surrogateEvent, ContractName.properties]) fun field inside => ?_
    simp only [ContractName.properties, List.mem_cons, List.not_mem_nil, or_false] at inside
    rcases inside with rfl | rfl | rfl | rfl | rfl | rfl | rfl
    all_goals refine ⟨_, StableSort.mem_of_lookup rfl, ?_⟩
    all_goals rfl
  textKeys := rfl
  digits := by simp [surrogateEvent, everyMember, every, hasDigits, decimal_one]
  lone := rfl

/-- The encoding error escapes. There is no receipt. -/
theorem surrogateEvent_not_total :
    ((AdmitCall.ofDicts (sampleEngine true) surrogateEvent [] [] 0).run.exec initial).1 =
      .error .unicodeEncode ∧
    ¬ (AdmitCall.ofDicts (sampleEngine true) surrogateEvent [] [] 0).Total initial := by
  constructor
  · have escapes : coerceContract (.dict surrogateEvent : Submission (List Nat) .rawEvent) =
        .error .unicodeEncode := fromJson_rawEvent.mpr surrogateEvent_losesText
    have evaluated : (sampleEngine true).evaluate (.dict surrogateEvent) (.dict []) (.dict []) 0 =
        .error .unicodeEncode := by
      rw [EventAdmissionEngine.evaluate, escapes]
      rfl
    unfold AdmitCall.run admitEvent AdmitCall.ofDicts
    rw [Prog.exec_bind_ok _ (Prog.exec_require_ok (le_refl 0) _ initial), evaluated]
    rfl
  · rw [total_iff_served (initial_valid fun _ => False).contracts, served_ofDicts]
    exact fun orderly => orderly.written surrogateEvent_losesText

end Runs
end CsdFoundry.Admission

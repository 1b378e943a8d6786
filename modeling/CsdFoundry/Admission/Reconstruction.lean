import CsdFoundry.Admission.Execution

/-! Every accepted receipt in the store can be reconstructed, for good. -/
namespace CsdFoundry.Admission
open Storage
open Storage.Discipline (After)
variable {D : Type} [DigestText D] [Sha256 D]

/-- A receipt on the evidence cites it. -/
structure Evidence.CitedBy (evidence : Evidence D) (tick : Int)
    (receipt : ContractObject D .validatedEvent) : Prop where
  raw : receipt.text "raw_event_digest" = evidence.rawEvent.digest
  signatures : receipt.text "signature_set_digest" = evidence.signatureSet.digest
  policy : receipt.text "validation_policy_digest" = evidence.validationPolicy.digest
  tick : receipt.int "validated_at_tick" = tick

theorem Evidence.cited_by {evidence : Evidence D} {tick : Int}
    {built receipt : ContractObject D .validatedEvent}
    (made : ContractObject.build .validatedEvent (evidence.cited tick) = .ok built)
    (same : receipt.Same built) : evidence.CitedBy tick receipt := by
  obtain ⟨digest, value⟩ := ContractObject.build_value made
  refine ⟨text_of_lookup ?_, text_of_lookup ?_, text_of_lookup ?_, int_of_lookup ?_⟩
  · rw [(same.lookup _).1, value]
    rfl
  · rw [(same.lookup _).1, value]
    rfl
  · rw [(same.lookup _).1, value]
    rfl
  · rw [(same.lookup _).2, value]
    rfl

namespace EventAdmissionStore
variable {s : EventAdmissionStore D}

theorem exec_getContract {kind : ContractName} {contract : ContractObject D kind}
    (held : s.Holds contract) : ∃ found : ContractObject D kind,
      (getContract kind contract.digest).exec s = (.ok (some found), s) ∧ found.Same contract := by
  obtain ⟨payload, bytes, stored⟩ := held
  obtain ⟨parsed, parses, again, named⟩ := contract.reparse bytes
  have located : contractPath (D := D) kind contract.digest = .ok (kind, contract.digest) :=
    if_pos contract.isDigest
  refine ⟨parsed, ?_, again.trans bytes.symm, named⟩
  rw [getContract, located]
  refine (Prog.exec_bind_ok _ (Prog.exec_done _ s)).trans ?_
  simp only [Prog.exec_read, stored, parses, bind, Except.bind, named, if_true]

omit [Sha256 D] in
theorem exec_getContext {context : CommittedValidationContext D}
    (stored : s.contexts context.tick = some context) :
    (getContext (context.tick : Int)).exec s = (.ok (some context), s) := by
  unfold getContext
  rw [Prog.exec_bind_ok _ (Prog.exec_require_ok (Int.natCast_nonneg _) _ s), Prog.exec_read,
    Int.toNat_natCast, stored]
  simp only [if_true]

end EventAdmissionStore
open EventAdmissionStore

/-- The bundle holds exactly this evidence. -/
structure Evidence.In (evidence : Evidence D) (bundle : AdmissionEvidenceBundle D) : Prop where
  raw : bundle.rawEvent.Same evidence.rawEvent
  signatures : bundle.signatureSet.Same evidence.signatureSet
  policy : bundle.validationPolicy.Same evidence.validationPolicy
  context : bundle.context = evidence.context

/-- `reconstruct_accepted` succeeds where the evidence of the receipt is stored. -/
theorem exec_reconstructAccepted {s : EventAdmissionStore D} {evidence : Evidence D}
    {receipt : ContractObject D .validatedEvent} (backed : s.Backed evidence)
    (cited : evidence.CitedBy evidence.context.tick receipt)
    (committed : evidence.context.committed = true) : ∃ bundle,
      (reconstructAccepted receipt).exec s = (.ok bundle, s) ∧ bundle.receipt = receipt ∧
      evidence.In bundle := by
  obtain ⟨raw, readRaw, sameRaw⟩ := exec_getContract backed.raw
  obtain ⟨signatures, readSet, sameSet⟩ := exec_getContract backed.signatures
  obtain ⟨policy, readPolicy, samePolicy⟩ := exec_getContract backed.policy
  have readContext := exec_getContext backed.context
  refine ⟨⟨receipt, raw, signatures, policy, evidence.context⟩, ?_, rfl,
    ⟨sameRaw, sameSet, samePolicy, rfl⟩⟩
  unfold reconstructAccepted
  rw [cited.raw, cited.signatures, cited.policy, cited.tick]
  refine (Prog.exec_bind_ok _ readRaw).trans ?_
  refine (Prog.exec_bind_ok _ (Prog.exec_done _ s)).trans ?_
  refine (Prog.exec_bind_ok _ readSet).trans ?_
  refine (Prog.exec_bind_ok _ (Prog.exec_done _ s)).trans ?_
  refine (Prog.exec_bind_ok _ readPolicy).trans ?_
  refine (Prog.exec_bind_ok _ (Prog.exec_done _ s)).trans ?_
  refine (Prog.exec_bind_ok _ readContext).trans ?_
  refine (Prog.exec_bind_ok _ (Prog.exec_done _ s)).trans ?_
  rw [requireCommitted, if_pos committed]
  rfl

/-- The receipt of the call on the evidence, with the evidence, is in the store. -/
structure Accepted (call : AdmitCall D) (evidence : Evidence D)
    (receipt : ContractObject D .validatedEvent) (s : EventAdmissionStore D) : Prop where
  accepts : call.AcceptsOn evidence
  cited : evidence.CitedBy call.tick receipt
  held : s.Holds receipt
  backed : s.Backed evidence

theorem Accepted.reconstructed {call : AdmitCall D} {evidence : Evidence D}
    {receipt : ContractObject D .validatedEvent} {s : EventAdmissionStore D}
    (accepted : Accepted call evidence receipt s) : ∃ bundle,
      (reconstructAccepted receipt).exec s = (.ok bundle, s) ∧ bundle.receipt = receipt ∧
      evidence.In bundle := by
  obtain ⟨registered, admissible⟩ := accepted.accepts.admissible
  have current := admissible.current
  refine exec_reconstructAccepted accepted.backed ?_ current.committed
  rw [current.tick]
  exact accepted.cited

theorem Accepted.grown {call : AdmitCall D} {evidence : Evidence D}
    {receipt : ContractObject D .validatedEvent} {s t : EventAdmissionStore D}
    (accepted : Accepted call evidence receipt s) (grown : Grown s t) :
    Accepted call evidence receipt t :=
  ⟨accepted.accepts, accepted.cited, grown.holds accepted.held, grown.backed accepted.backed⟩

/-- Every receipt in a valid store is that of an issued call. -/
theorem Valid.accepted {s : EventAdmissionStore D} {issued : AdmitCall D → Prop}
    (valid : s.Valid issued) {receipt : ContractObject D .validatedEvent}
    (held : s.Holds receipt) : ∃ call evidence, issued call ∧ Accepted call evidence receipt s := by
  obtain ⟨payload, bytes, stored⟩ := held
  obtain ⟨call, evidence, built, ran, accepts, made, builtBytes, named, backed⟩ :=
    valid.receipts receipt.digest payload stored
  have same : receipt.Same built := ⟨bytes.trans builtBytes.symm, named.symm⟩
  exact ⟨call, evidence, ran, accepts, Evidence.cited_by made same, ⟨payload, bytes, stored⟩, backed⟩

/-- What a call leaves in the store when it has returned. -/
def Accounted (call : AdmitCall D) : AdmissionOutcome D → EventAdmissionStore D → Prop
  | .accepted receipt, s => ∃ evidence, Accepted call evidence receipt s
  | .failure _, _ => True

theorem Accounted.grown {call : AdmitCall D} {outcome : AdmissionOutcome D}
    {s t : EventAdmissionStore D} (accounted : Accounted call outcome s) (grown : Grown s t) :
    Accounted call outcome t := by
  cases outcome with
  | accepted receipt =>
      obtain ⟨evidence, accepted⟩ := accounted
      exact ⟨evidence, accepted.grown grown⟩
  | failure receipt => exact True.intro

section Call
variable {issued : AdmitCall D → Prop} {locked : Bool} {s : EventAdmissionStore D}
  {call : AdmitCall D}

theorem acceptsOn_of_nil {inputs : Inputs D} {evidence : Evidence D}
    (ran : call.engine.evaluate call.rawEvent call.signatureSet call.validationPolicy call.tick =
      .ok inputs) (passed : inputs.codes = []) (raw : inputs.rawEvent = some evidence.rawEvent)
    (signatures : inputs.signatureSet = some evidence.signatureSet)
    (policy : inputs.validationPolicy = some evidence.validationPolicy)
    (context : inputs.context = some evidence.context) : call.AcceptsOn evidence := by
  have given := EventAdmissionEngine.evaluate_given ran
  obtain ⟨raw', signatures', policy', context', registered, isRaw, isSet, isPolicy, admissible⟩ :=
    (EventAdmissionEngine.evaluate_nil ran).mp passed
  obtain rfl := Option.some.inj (raw.symm.trans ((given.raw raw').mpr isRaw))
  obtain rfl := Option.some.inj (signatures.symm.trans ((given.signatures signatures').mpr isSet))
  obtain rfl := Option.some.inj (policy.symm.trans ((given.policy policy').mpr isPolicy))
  have resolved := given.context
  rw [context, admissible.current.resolve] at resolved
  obtain rfl := Option.some.inj resolved
  exact ⟨isRaw, isSet, isPolicy, registered, admissible⟩

theorem holds_conclude {inputs : Inputs D} (valid : s.Valid issued) (ran : issued call)
    (evaluated : call.engine.evaluate call.rawEvent call.signatureSet call.validationPolicy
      call.tick = .ok inputs) :
    (discipline issued).Holds locked (conclude call.rawEvent call.signatureSet
      call.validationPolicy call.tick inputs) (After locked (Accounted call)) s := by
  have resolved : ∀ context, inputs.context = some context → Resolved issued context := by
    intro context given
    exact ⟨call, ran, (EventAdmissionEngine.evaluate_given evaluated).context.symm.trans given⟩
  unfold conclude
  split
  · refine .bind valid (holds_lift fun failure t _ _ invT => ?_)
    refine .bind invT (holds_persist invT resolved fun u _ invU _ => ?_)
    refine .bind invU (holds_putContract invU nofun fun v _ invV _ => ?_)
    exact .pure fun _ _ _ => True.intro
  · rename_i passed
    split
    · rename_i raw signatures policy context isRaw isSet isPolicy isContext
      let evidence : Evidence D := ⟨raw, signatures, policy, context⟩
      have accepts : call.AcceptsOn evidence :=
        acceptsOn_of_nil evaluated (not_not.mp passed) isRaw isSet isPolicy isContext
      refine .bind valid (holds_lift fun receipt t made _ invT => ?_)
      refine .bind invT (holds_persist invT resolved fun u _ invU persisted => ?_)
      have backed : u.Backed evidence := ⟨persisted.raw raw isRaw,
        persisted.signatures signatures isSet, persisted.policy policy isPolicy,
        persisted.context context isContext⟩
      refine .bind invU (holds_putContract invU ?_ fun v grown invV held => ?_)
      · rintro - payload bytes
        exact ⟨call, evidence, receipt, ran, accepts, made, bytes, rfl, backed⟩
      · refine .pure fun w moves _ => ?_
        have later := grown.trans (env_grown moves)
        exact ⟨evidence, accepts, Evidence.cited_by made ⟨rfl, rfl⟩,
          (env_grown moves).holds held, later.backed backed⟩
    · exact .throw

theorem holds_run (valid : s.Valid issued) (ran : issued call) :
    (discipline issued).Holds locked call.run (After locked (Accounted call)) s := by
  refine .bind valid (.require fun t _ _ invT => ?_)
  refine .bind invT (holds_lift fun inputs u evaluated _ invU => ?_)
  exact holds_conclude invU ran evaluated

end Call

/-- The programs of the processes: issued calls, each reporting what it was. -/
def Admissions (issued : AdmitCall D → Prop) (p : AdmissionM D (AdmitCall D × AdmissionOutcome D)) :
    Prop :=
  ∃ call, issued call ∧ p = call.run.map (Prod.mk call)

theorem checked (issued : AdmitCall D → Prop) :
    ∀ p, Admissions issued p → ∀ s, (discipline issued).inv s →
      (discipline issued).Holds false p (After false fun result => Accounted result.1 result.2) s := by
  rintro _ ⟨call, ran, rfl⟩ s valid
  refine .map valid ((holds_run valid ran).weaken fun outcome t _ accounted u moves _ => ?_)
  exact accounted.grown (env_grown moves)

/-- An undisturbed call that is issued is a run. -/
theorem run_reaches {issued : AdmitCall D → Prop} {call : AdmitCall D} {s : EventAdmissionStore D}
    (ran : issued call) (valid : s.Valid issued) :
    Pool.Reaches (Admissions issued) (Pool.idle s : Pool Unit (EventAdmissionStore D) Raise
      (AdmitCall D × AdmissionOutcome D)) (Pool.idle (call.run.exec s).2) := by
  have reached : Pool.Reaches (Admissions issued) (Pool.idle s : Pool Unit _ _ _)
      (Pool.idle ((call.run.map (Prod.mk call)).exec s).2) :=
    Discipline.exec_reaches (checked issued) () ⟨call, ran, rfl⟩ valid
  rwa [Prog.exec_map] at reached

/-- What an undisturbed call leaves behind. -/
theorem exec_accounted {issued : AdmitCall D → Prop} {call : AdmitCall D}
    {s t : EventAdmissionStore D} {outcome : AdmissionOutcome D} (ran : issued call)
    (valid : s.Valid issued) (done : call.run.exec s = (.ok outcome, t)) :
    Accounted call outcome t ∧ t.Valid issued := by
  have holds : (discipline issued).Holds false call.run (After false (Accounted call)) s :=
    holds_run valid ran
  obtain ⟨count, lock, -, goal, kept, -⟩ := Discipline.Holds.alone holds valid
  rw [done] at goal kept
  exact ⟨goal.2 outcome rfl, kept⟩

section Runs
variable {ι : Type} [DecidableEq ι] {issued : AdmitCall D → Prop}
  {c c' : Pool ι (EventAdmissionStore D) Raise (AdmitCall D × AdmissionOutcome D)}

theorem run_sound (run : Pool.Reaches (Admissions issued) (Pool.idle initial) c) :
    Discipline.Sound (discipline issued) (fun result => Accounted result.1 result.2) c :=
  (Discipline.reaches_sound (checked issued) run (Discipline.sound_idle (initial_valid issued))).1

theorem run_grown (run : Pool.Reaches (Admissions issued) (Pool.idle initial) c)
    (later : Pool.Reaches (Admissions issued) c c') : Grown c.store c'.store := by
  have moved : (discipline issued).env false c.store c'.store :=
    (Discipline.reaches_sound (checked issued) later (run_sound run)).2
  exact env_grown moved

/-- A receipt in the store is that of an issued call, and it is reconstructed for good. So is
the receipt that a call returns, with the evidence of that call. -/
theorem receipts_reconstructed (run : Pool.Reaches (Admissions issued) (Pool.idle initial) c)
    (later : Pool.Reaches (Admissions issued) c c') :
    (∀ receipt : ContractObject D .validatedEvent, c.store.Holds receipt →
      ∃ call evidence bundle, issued call ∧ Accepted call evidence receipt c.store ∧
        (reconstructAccepted receipt).exec c'.store = (.ok bundle, c'.store) ∧
        bundle.receipt = receipt ∧ evidence.In bundle) ∧
    (∀ i call receipt, c.task i = some (.done (.ok (call, .accepted receipt))) →
      ∃ evidence bundle, Accepted call evidence receipt c.store ∧
        (reconstructAccepted receipt).exec c'.store = (.ok bundle, c'.store) ∧
        bundle.receipt = receipt ∧ evidence.In bundle) := by
  have sound := run_sound run
  have grown := run_grown run later
  constructor
  · intro receipt held
    obtain ⟨call, evidence, ran, accepted⟩ := Valid.accepted sound.valid held
    obtain ⟨bundle, reconstructed⟩ := (accepted.grown grown).reconstructed
    exact ⟨call, evidence, bundle, ran, accepted, reconstructed⟩
  · intro i call receipt found
    obtain ⟨evidence, accepted⟩ := sound.returned found
    obtain ⟨bundle, reconstructed⟩ := (accepted.grown grown).reconstructed
    exact ⟨evidence, bundle, accepted, reconstructed⟩

end Runs

theorem receipts_reconstructed_sample :
    ∃ receipt : ContractObject (List Nat) .validatedEvent, ∃ bundle,
      (reconstructAccepted receipt).exec ((sampleCall true).run.exec initial).2 =
        (.ok bundle, ((sampleCall true).run.exec initial).2) ∧
      bundle.receipt = receipt ∧ bundle.context = sampleContext true := by
  let issued : AdmitCall (List Nat) → Prop := (· = sampleCall true)
  have ran : issued (sampleCall true) := rfl
  have valid : (initial : EventAdmissionStore (List Nat)).Valid issued := initial_valid issued
  obtain ⟨outcome, t, done⟩ := (exec_run valid.contracts).mpr
    (sampleCall_served (fun other stored => nomatch stored))
  obtain ⟨inputs, evaluated, accepted, -, -⟩ := exec_run_ok valid.contracts done
  have passed := accepted.mpr
    ((EventAdmissionEngine.evaluate_nil evaluated).mpr sampleCall_accepts)
  cases outcome with
  | failure receipt => cases passed
  | accepted receipt =>
      obtain ⟨⟨evidence, kept⟩, -⟩ := exec_accounted ran valid done
      have run := run_reaches ran valid
      rw [done] at run
      obtain ⟨call, evidence, bundle, rfl, kept, read, same, holds⟩ :=
        (receipts_reconstructed run .refl).1 receipt kept.held
      rw [done]
      refine ⟨receipt, bundle, read, same, ?_⟩
      rw [holds.context]
      obtain ⟨registered, admissible⟩ := kept.accepts.admissible
      exact (Option.some.inj (Except.ok.inj admissible.current.resolved)).symm

end CsdFoundry.Admission

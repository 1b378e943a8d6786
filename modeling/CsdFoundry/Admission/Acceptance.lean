import CsdFoundry.Admission.Reconstruction

/-! Whether a call that passes every check is accepted. The one thing that stands in its way is
another context under its tick, which a rejected call may have stored. -/
namespace CsdFoundry.Admission
open Storage
open EventAdmissionStore
variable {D : Type} [DigestText D] [Sha256 D]

/-- The call is accepted at this store, and its receipt is persisted with the evidence. -/
def AdmitCall.Admitted (call : AdmitCall D) (s : EventAdmissionStore D) : Prop :=
  ∃ receipt evidence t, call.run.exec s = (.ok (.accepted receipt), t) ∧
    Accepted call evidence receipt t

/-- No other context is stored under the tick of the call's context. -/
def AdmitCall.Free (call : AdmitCall D) (s : EventAdmissionStore D) : Prop :=
  ∀ context, (call.engine.resolve call.tick).2 = some context → s.Agrees context

theorem served_of_accepts {call : AdmitCall D} {s : EventAdmissionStore D}
    (accepts : call.Accepts) (free : call.Free s) : call.Served s := by
  have answers := EventAdmissionEngine.accepts_answers accepts
  obtain ⟨_, _, _, context, _, _, _, _, admissible⟩ := accepts
  have ticks := admissible.current.tick
  refine ⟨?_, ?_, answers, free⟩
  · omega
  · rw [← ticks]
    exact context.rendered

theorem admitted_iff {issued : AdmitCall D → Prop} {call : AdmitCall D}
    {s : EventAdmissionStore D} (valid : s.Valid issued) (ran : issued call)
    (accepts : call.Accepts) : call.Admitted s ↔ call.Free s := by
  constructor
  · rintro ⟨receipt, evidence, t, done, -⟩
    exact ((exec_run valid.contracts).mp ⟨_, t, done⟩).agrees
  · intro free
    obtain ⟨outcome, t, done⟩ := (exec_run valid.contracts).mpr (served_of_accepts accepts free)
    obtain ⟨inputs, evaluated, accepted, -, -⟩ := exec_run_ok valid.contracts done
    have passed := accepted.mpr ((EventAdmissionEngine.evaluate_nil evaluated).mpr accepts)
    obtain ⟨accounted, -⟩ := exec_accounted ran valid done
    cases outcome with
    | failure receipt => cases passed
    | accepted receipt =>
        obtain ⟨evidence, kept⟩ := accounted
        exact ⟨receipt, evidence, t, done, kept⟩

/-- The issued calls resolve one context for each tick. -/
def Steady (issued : AdmitCall D → Prop) : Prop :=
  ∀ context context', Resolved issued context → Resolved issued context' →
    context.tick = context'.tick → context = context'

theorem Steady.free {issued : AdmitCall D → Prop} {call : AdmitCall D}
    {s : EventAdmissionStore D} (steady : Steady issued) (valid : s.Valid issued)
    (ran : issued call) : call.Free s := by
  intro context resolved other stored
  obtain ⟨ticks, earlier⟩ := valid.contexts context.tick other stored
  exact steady other context earlier ⟨call, ran, resolved⟩ ticks

section Runs
variable {ι : Type} [DecidableEq ι] {issued : AdmitCall D → Prop}
  {c : Pool ι (EventAdmissionStore D) Raise (AdmitCall D × AdmissionOutcome D)}

/-- After every run a passing call is accepted exactly where no other context is stored under
its tick. Where the issued calls resolve one context for each tick, all of them are. -/
theorem passing_call_admitted (run : Pool.Reaches (Admissions issued) (Pool.idle initial) c) :
    (∀ call, issued call → call.Accepts → (call.Admitted c.store ↔ call.Free c.store)) ∧
    (Steady issued → ∀ call, issued call → call.Accepts → call.Admitted c.store) := by
  have valid : c.store.Valid issued := (run_sound run).valid
  constructor
  · exact fun call ran accepts => admitted_iff valid ran accepts
  · exact fun steady call ran accepts =>
      (admitted_iff valid ran accepts).mpr (steady.free valid ran)

/-- A call that is served and does not pass ends in a failure receipt, and keeps its context. -/
theorem exec_rejected {call : AdmitCall D} {s : EventAdmissionStore D} (valid : s.Valid issued)
    (ran : issued call) (served : call.Served s) (refused : ¬ call.Accepts) :
    ∃ receipt t, call.run.exec s = (.ok (.failure receipt), t) ∧ t.Valid issued ∧
      ∀ context, (call.engine.resolve call.tick).2 = some context →
        t.contexts context.tick = some context := by
  obtain ⟨outcome, t, done⟩ := (exec_run valid.contracts).mpr served
  obtain ⟨inputs, evaluated, accepted, -, stored⟩ := exec_run_ok valid.contracts done
  obtain ⟨-, after⟩ := exec_accounted ran valid done
  cases outcome with
  | accepted receipt =>
      exact absurd ((EventAdmissionEngine.evaluate_nil evaluated).mp (accepted.mp rfl)) refused
  | failure receipt => exact ⟨receipt, t, done, after, stored⟩

/-- The context of the next tick, which is not committed. -/
def sampleLater : CommittedValidationContext (List Nat) :=
  { sampleContext false with
    tick := 1
    rendered := decimal_one.2 }

/-- One call is rejected without a context and one at the next tick, and the third passes. -/
def SampleIssued (call : AdmitCall (List Nat)) : Prop :=
  call = sampleAt none 0 ∨ call = sampleAt (some sampleLater) 1 ∨ call = sampleCall true

theorem sampleIssued_steady : Steady SampleIssued := by
  have resolved : ∀ {context}, Resolved SampleIssued context →
      context = sampleLater ∨ context = sampleContext true := by
    rintro context ⟨_, rfl | rfl | rfl, ⟨⟩⟩
    · exact .inl rfl
    · exact .inr rfl
  intro context context' first second ticks
  rcases resolved first with rfl | rfl
  · rcases resolved second with rfl | rfl
    · rfl
    · cases ticks
  · rcases resolved second with rfl | rfl
    · cases ticks
    · rfl

theorem passing_call_admitted_sample : ∃ missing later : ContractObject (List Nat) .eventValidationFailure,
    ∃ s t : EventAdmissionStore (List Nat),
      (sampleAt none 0).run.exec initial = (.ok (.failure missing), s) ∧
      (sampleAt (some sampleLater) 1).run.exec s = (.ok (.failure later), t) ∧
      t.contexts 1 = some sampleLater ∧ (sampleCall true).Admitted t := by
  have valid : (initial : EventAdmissionStore (List Nat)).Valid SampleIssued :=
    initial_valid SampleIssued
  have unresolved : ¬ (sampleAt none 0).Accepts := by
    rintro ⟨_, _, _, context, _, _, _, _, admissible⟩
    cases admissible.current.resolved
  have uncommitted : ¬ (sampleAt (some sampleLater) 1).Accepts := by
    rintro ⟨_, _, _, context, _, _, _, _, admissible⟩
    have committed := admissible.current.committed
    obtain rfl : sampleLater = context :=
      Option.some.inj (Except.ok.inj admissible.current.resolved)
    cases committed
  obtain ⟨missing, s, first, valid', -⟩ := exec_rejected valid (.inl rfl)
    (sampleAt_served (le_refl 0) decimal_one.1 (by rintro _ ⟨⟩)) unresolved
  have free := sampleIssued_steady.free valid' (.inr (.inl rfl))
  obtain ⟨later, t, second, -, stored⟩ := exec_rejected valid' (.inr (.inl rfl))
    (sampleAt_served Int.one_nonneg decimal_one.2 free) uncommitted
  have runs : Pool.Reaches (Admissions SampleIssued)
      (Pool.idle initial : Pool Unit (EventAdmissionStore (List Nat)) Raise _)
      (Pool.idle t) := by
    have before := run_reaches (.inl rfl) valid
    have after := run_reaches (.inr (.inl rfl)) valid'
    rw [first] at before
    rw [second] at after
    exact before.trans after
  refine ⟨missing, later, s, t, first, second, stored sampleLater rfl, ?_⟩
  exact (passing_call_admitted runs).2 sampleIssued_steady (sampleCall true) (.inr (.inr rfl))
    sampleCall_accepts

/-- A call is rejected while the context of its tick is not committed, and stores the context.
The same call is passed by every check once the context is committed, and cannot be accepted. -/
theorem rejected_call_blocks :
    (∃ receipt, ((sampleCall false).run.exec initial).1 = .ok (.failure receipt)) ∧
    (sampleCall true).Accepts ∧
    ¬ (sampleCall true).Admitted ((sampleCall false).run.exec initial).2 := by
  let issued : AdmitCall (List Nat) → Prop := fun _ => True
  have valid : (initial : EventAdmissionStore (List Nat)).Valid issued := initial_valid issued
  have refused : ¬ (sampleCall false).Accepts := by
    rintro ⟨_, _, _, context, _, _, _, _, admissible⟩
    have resolved := admissible.current.resolved
    have committed := admissible.current.committed
    obtain rfl : sampleContext false = context := Option.some.inj (Except.ok.inj resolved)
    cases committed
  obtain ⟨receipt, t, done, after, stored⟩ := exec_rejected valid True.intro
    (sampleCall_served (by rintro _ ⟨⟩)) refused
  rw [done]
  refine ⟨⟨receipt, rfl⟩, sampleCall_accepts, ?_⟩
  rw [admitted_iff after True.intro sampleCall_accepts]
  intro free
  have there : t.contexts 0 = some (sampleContext false) := stored (sampleContext false) rfl
  have same : sampleContext false = sampleContext true := free (sampleContext true) rfl _ there
  cases congrArg (·.committed) same

end Runs
end CsdFoundry.Admission

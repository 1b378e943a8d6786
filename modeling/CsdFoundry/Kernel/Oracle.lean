import CsdFoundry.Kernel.TemporalInvariants

/-! The oracle: one governed transition, and the independent validation of its result. -/
namespace CsdFoundry.Kernel

inductive OracleError where
  | rejected (message : String)
  | raised (error : KernelError)
  deriving DecidableEq

structure OracleResult where
  before : ControlState
  after : ControlState
  trace : TransitionTrace
  violations : List Violation := []

def formatViolations (subject : String) (violations : List Violation) : String :=
  subject ++ ": " ++ "; ".intercalate (violations.map (fun item =>
    item.invariantId.value ++ ": " ++ item.message))

/-- Everything that the oracle runs on a state, an event and a proposed result. -/
def transitionViolations (state : ControlState) (event : CsdEvent) (after : ControlState) :
    List Violation :=
  let coreEventViolations :=
    if isTemporalEvent event then [] else validateEventTransition state event after
  validateTransition state after ++ validateTemporalTransition state after ++
    coreEventViolations ++ validateTemporalEvent state event after

def CsdOracle.apply (state : ControlState) (event : CsdEvent) :
    Except OracleError OracleResult :=
  let initial := validateState state ++ validateTemporalState state
  if initial ≠ [] then .error (.rejected (formatViolations "invalid pre-state" initial))
  else match applyEvent state event with
    | .error error => .error (.raised error)
    | .ok (after, trace) =>
        let violations := transitionViolations state event after
        if violations ≠ [] then
          .error (.rejected (formatViolations "invalid post-state" violations))
        else .ok { before := state, after := after, trace := trace }

/-- A state on which neither validator of states reports a violation. -/
structure ValidState (state : ControlState) : Prop where
  core : CoreValid state
  temporal : TemporalValid state

theorem validStates : validateState state ++ validateTemporalState state = [] ↔
    ValidState state := by
  rw [List.append_eq_nil_iff, validateState_eq_nil, validateTemporalState_eq_nil]
  exact ⟨fun valid => ⟨valid.1, valid.2⟩, fun valid => ⟨valid.core, valid.temporal⟩⟩

/-- What the validators of single events ask for. -/
def EventChecked (before : ControlState) (event : CsdEvent) (after : ControlState) : Prop :=
  match event with
  | .dependencyChange event => DependencyChanged before event after ∧
      SameGovernance before after ∧ after.reassessmentRequests = before.reassessmentRequests
  | .reassess event => Reassessed before event after ∧ SameGovernance before after ∧
      RequestsClosed before event after ∧
      after.history = before.history ++ [expectedReassessAudit event]
  | .retireControl event => Retired before event after ∧
      SameGovernance before after ∧ after.reassessmentRequests = before.reassessmentRequests
  | .advanceClock event => ClockAdvanced before event after
  | .profileChange event => ProfileChanged before event after
  | .requestReassessment event => Requested before event after
  | .recordHeartbeat event => HeartbeatRecorded before event after

/-- A proposed result on which the oracle finds no violation. -/
structure Accepted (before : ControlState) (event : CsdEvent) (after : ControlState) :
    Prop where
  valid : ValidState after
  corePreserved : CorePreserved before after
  temporalPreserved : TemporalPreserved before after
  checked : EventChecked before event after

theorem transitionViolations_eq_nil : transitionViolations before event after = [] ↔
    Accepted before event after := by
  have checks : (if isTemporalEvent event = true then []
        else validateEventTransition before event after) = [] ∧
      validateTemporalEvent before event after = [] ↔ EventChecked before event after := by
    cases event with
    | dependencyChange event =>
        simp [isTemporalEvent, validateEventTransition, validateTemporalEvent, EventChecked,
          validateDependencyChange_eq_nil, unchangedTemporalGovernance_eq_nil]
    | reassess event =>
        simp [isTemporalEvent, validateEventTransition, validateTemporalEvent, EventChecked,
          validateReassess_eq_nil, unchangedTemporalGovernance_eq_nil,
          validateReassessmentRequests_eq_nil, validateExactAudit_eq_nil]
    | retireControl event =>
        simp [isTemporalEvent, validateEventTransition, validateTemporalEvent, EventChecked,
          validateRetirement_eq_nil, unchangedTemporalGovernance_eq_nil]
    | advanceClock event =>
        simp [isTemporalEvent, validateTemporalEvent, EventChecked, validateAdvanceClock_eq_nil]
    | profileChange event =>
        simp [isTemporalEvent, validateTemporalEvent, EventChecked, validateProfileChange_eq_nil]
    | requestReassessment event =>
        simp [isTemporalEvent, validateTemporalEvent, EventChecked, validateRequest_eq_nil]
    | recordHeartbeat event =>
        simp [isTemporalEvent, validateTemporalEvent, EventChecked, validateHeartbeat_eq_nil]
  simp only [transitionViolations, List.append_eq_nil_iff, validateTransition_eq_nil,
    validateTemporalTransition_eq_nil, and_assoc, checks]
  constructor
  · rintro ⟨core, corePreserved, temporal, temporalPreserved, checked⟩
    exact ⟨⟨core, temporal⟩, corePreserved, temporalPreserved, checked⟩
  · rintro ⟨⟨core, temporal⟩, corePreserved, temporalPreserved, checked⟩
    exact ⟨core, corePreserved, temporal, temporalPreserved, checked⟩

/-- The oracle passes on the kernel's result exactly when it finds no violation in it. -/
theorem CsdOracle.apply_iff (valid : ValidState state)
    (accepted : applyEvent state event = .ok (post, trace)) :
    CsdOracle.apply state event = .ok { before := state, after := post, trace := trace } ↔
      Accepted state event post := by
  rw [← transitionViolations_eq_nil]
  simp only [CsdOracle.apply, validStates.mpr valid, accepted]
  by_cases clean : transitionViolations state event post = [] <;> simp [clean]

end CsdFoundry.Kernel

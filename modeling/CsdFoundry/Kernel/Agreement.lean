import CsdFoundry.Kernel.Acceptance

/-! The verifier recomputes the claims apart from the kernel. They agree on the kernel's own
transitions, but for those in which a verdict basis outlives the verdict. -/
namespace CsdFoundry.Kernel

variable {state post : ControlState} {trace : TransitionTrace}

/-- No member of some current verdict basis has a deadline up to the given time. -/
def VerdictOutlives (state : ControlState) (time : Int) : Prop :=
  ∃ basisId ∈ state.currentVerdictBasisIds, ∃ basis, state.basesById basisId = some basis ∧
    ∀ member ∈ basis.memberEvidenceIds, ∀ item, state.evidenceById member = some item →
      item.due time = false

/-- Every member of some current verdict basis fits the new profile. -/
def VerdictFits (state : ControlState) (event : ProfileChange) : Prop :=
  ∃ basisId ∈ state.currentVerdictBasisIds, ∃ basis, state.basesById basisId = some basis ∧
    ∀ member ∈ basis.memberEvidenceIds, ∀ item, state.evidenceById member = some item →
      item.matchesProfile (some event.profileId) (some event.profileVersion) = true

/-- Where kernel and verifier part: the kernel drops the verdict bases of a control that is
not current and keeps those of an unsubstantiated one through a missed heartbeat, while the
verifier does the opposite. -/
def Diverges (state : ControlState) : CsdEvent → Prop
  | .advanceClock event => VerdictOutlives state event.targetTime ∧
      if state.obligation = .current then
        state.heartbeatMissed event.targetTime = true ∧ state.assurance.substantive = false
      else state.heartbeatMissed event.targetTime = false
  | .profileChange event => VerdictFits state event ∧ state.obligation ≠ .current
  | .dependencyChange _ | .reassess _ | .retireControl _ | .requestReassessment _
  | .recordHeartbeat _ => False

/-- The two accounts of the claims coincide unless surviving verdict bases are dropped by one
of them only. -/
theorem canonicalClaims_eq_iff :
    canonicalClaims state interim missed = expectedClaims state
        ((survivingBases interim).1, if missed then ∅ else (survivingBases interim).2) ↔
      ¬ ((survivingBases interim).2 ≠ ∅ ∧
        if state.obligation = .current then missed = true ∧ state.assurance.substantive = false
        else missed = false) := by
  simp only [canonicalClaims, expectedClaims, supportedSource]
  by_cases current : state.obligation = .current
  · cases missed with
    | false =>
        cases substantive : state.assurance.substantive with
        | false => simp [current]
        | true => by_cases lost : (survivingBases interim).2 = ∅ <;> simp [current, lost]
    | true => cases substantive : state.assurance.substantive <;> simp [current]
  · cases missed with
    | false => simp [current, eq_comm]
    | true => simp [current]

theorem canonicalClaims_unforced :
    canonicalClaims state interim false = expectedClaims state (survivingBases interim) ↔
      ¬ ((survivingBases interim).2 ≠ ∅ ∧ state.obligation ≠ .current) := by
  have agree : canonicalClaims state interim false = _ ↔ _ := canonicalClaims_eq_iff
  rw [if_neg Bool.false_ne_true] at agree
  rw [agree]
  by_cases current : state.obligation = .current <;> simp [current]

theorem clockSurvivors_eq (valid : ValidState state) :
    (survivingBases (clockInterim state event)).2 ≠ ∅ ↔
      VerdictOutlives state event.targetTime := by
  have extension : Extends state (clockInterim state event) (clockStatus event) [] [] := by
    apply Extends.same
    · simp only [clockInterim, restatus, expire_due]
    · rfl
  rw [← Finset.nonempty_iff_ne_empty]
  refine exists_congr (fun basisId => ?_)
  simp only [survivingBases, Finset.mem_filter]
  refine and_congr_right (fun known => ?_)
  have current : basisId ∈ state.currentBasisIds := Finset.mem_union_right _ known
  rw [basisIsCurrentUnderProfile, any_iff]
  refine exists_congr (fun basis => and_congr_right (fun found => ?_))
  rw [extension.supportedBy_iff valid.core current found]
  refine forall₂_congr (fun member inside => forall₂_congr (fun item located => ?_))
  obtain ⟨fresh, fits⟩ := valid.current_member current found inside located
  simp only [Bool.and_eq_true]
  constructor
  · rintro ⟨kept, -⟩
    by_contra due
    rw [Bool.not_eq_false] at due
    simp [Evidence.isCurrent, clockStatus, due, fresh] at kept
  · intro notDue
    refine ⟨?_, fits⟩
    simp [Evidence.isCurrent, clockStatus, notDue, fresh]

theorem profileSurvivors_eq (valid : ValidState state) :
    (survivingBases (profileInterim state event requests)).2 ≠ ∅ ↔ VerdictFits state event := by
  have extension : Extends state (profileInterim state event requests) Evidence.status [] [] := by
    apply Extends.same
    · rw [restatus_same]
      rfl
    · rfl
  rw [← Finset.nonempty_iff_ne_empty]
  refine exists_congr (fun basisId => ?_)
  simp only [survivingBases, Finset.mem_filter]
  refine and_congr_right (fun known => ?_)
  have current : basisId ∈ state.currentBasisIds := Finset.mem_union_right _ known
  rw [basisIsCurrentUnderProfile, any_iff]
  refine exists_congr (fun basis => and_congr_right (fun found => ?_))
  rw [extension.supportedBy_iff valid.core current found]
  refine forall₂_congr (fun member inside => forall₂_congr (fun item located => ?_))
  obtain ⟨fresh, -⟩ := valid.current_member current found inside located
  simp only [Bool.and_eq_true, withStatus_same]
  constructor
  · exact fun kept => kept.2
  · exact fun fits => ⟨by simpa [Evidence.isCurrent] using fresh, fits⟩

/-- The kernel's result is the one that the verifier asks for, or it is rejected. -/
theorem advanceClock_accepted_iff (valid : ValidState state)
    (applied : applyAdvanceClock state event = .ok (post, trace)) :
    Accepted state (.advanceClock event) post ↔ ¬ Diverges state (.advanceClock event) := by
  obtain ⟨forward, rfl⟩ := applyAdvanceClock_ok applied
  rw [Diverges, ← clockSurvivors_eq valid, ← canonicalClaims_eq_iff]
  constructor
  · exact fun accepted => accepted.checked.claims
  · intro same
    rw [same]
    exact clockCandidate_accepted valid forward (.inl rfl)

theorem profileChange_accepted_iff (valid : ValidState state)
    (applied : applyProfileChange state event = .ok (post, trace)) :
    Accepted state (.profileChange event) post ↔ ¬ Diverges state (.profileChange event) := by
  obtain ⟨admissible, rfl⟩ := applyProfileChange_ok applied
  rw [Diverges, ← profileSurvivors_eq valid, ← canonicalClaims_unforced]
  constructor
  · exact fun accepted => accepted.checked.claims
  · intro same
    rw [same]
    have accepted := profileCandidate_accepted valid admissible revises_id
    rwa [profileCandidate, List.map_id] at accepted

/-- The oracle accepts the kernel's own transition exactly where the two do not diverge. -/
theorem verifier_agrees_iff (core : validateState state = [])
    (temporal : validateTemporalState state = [])
    (kind : isTemporalEvent event = true ∨ ∃ change, event = .dependencyChange change)
    (applied : applyEvent state event = .ok (post, trace)) :
    (transitionViolations state event post = [] ∧
      CsdOracle.apply state event = .ok { before := state, after := post, trace := trace }) ↔
      ¬ Diverges state event := by
  have valid : ValidState state :=
    ⟨validateState_eq_nil.mp core, validateTemporalState_eq_nil.mp temporal⟩
  rw [CsdOracle.apply_iff valid applied, transitionViolations_eq_nil, and_self]
  cases event with
  | dependencyChange change =>
      simp only [Diverges, not_false_eq_true, iff_true]
      cases applied
      exact dependencyCandidate_accepted valid (.inl rfl)
  | reassess event => simp [isTemporalEvent] at kind
  | retireControl event => simp [isTemporalEvent] at kind
  | advanceClock event => exact advanceClock_accepted_iff valid applied
  | profileChange event => exact profileChange_accepted_iff valid applied
  | requestReassessment event =>
      simp only [Diverges, not_false_eq_true, iff_true]
      obtain ⟨fresh, request, created, rfl⟩ := applyRequestReassessment_ok applied
      exact requestReassessment_accepted valid fresh created
  | recordHeartbeat event =>
      simp only [Diverges, not_false_eq_true, iff_true]
      obtain ⟨authority, now, interval, chosen, positive, rfl⟩ := applyRecordHeartbeat_ok applied
      exact recordHeartbeat_accepted valid authority now chosen positive

section Sample

/-- A connected control that passes on two verdict bases: one rests on evidence of a library, the
other on evidence that expires. -/
def sampleCurrent : ControlState where
  controlId := "control"
  sourceState := .connected
  assurance := .pass
  evidence := [
    { evidenceId := "review", dimension := "source" },
    { evidenceId := "scan", dimension := "design", dependencies := {"library"} },
    { evidenceId := "test", dimension := "operation", expiresAt := some 3 }]
  bases := [
    { basisId := "wiring", kind := .source, claim := SourceState.connected.value
      memberEvidenceIds := {"review"} },
    { basisId := "static", kind := .verdict, claim := Assurance.pass.value
      memberEvidenceIds := {"scan"} },
    { basisId := "dynamic", kind := .verdict, claim := Assurance.pass.value
      memberEvidenceIds := {"review", "test"} }]
  currentSourceBasisIds := {"wiring"}
  currentVerdictBasisIds := {"static", "dynamic"}
  heartbeat := some ⟨5, 0, 5⟩

/-- The clock withdraws one of the two verdict bases. -/
theorem verifier_agrees_sample :
    ∃ post trace, applyEvent sampleCurrent (.advanceClock ⟨3⟩) = .ok (post, trace) ∧
      post.currentVerdictBasisIds = {"static"} ∧
      ((transitionViolations sampleCurrent (.advanceClock ⟨3⟩) post = [] ∧
        CsdOracle.apply sampleCurrent (.advanceClock ⟨3⟩) =
          .ok { before := sampleCurrent, after := post, trace := trace }) ↔
        ¬ Diverges sampleCurrent (.advanceClock ⟨3⟩)) :=
  ⟨_, _, rfl, by decide +kernel,
    verifier_agrees_iff (by decide +kernel) (by decide +kernel) (.inl rfl) rfl⟩

/-- A planned control with a verdict basis for the assurance that it has. -/
def samplePlanned : ControlState where
  controlId := "control"
  obligation := .planned
  assurance := .na
  evidence := [{ evidenceId := "evidence", dimension := "design" }]
  bases := [{
    basisId := "basis"
    kind := .verdict
    claim := Assurance.na.value
    memberEvidenceIds := {"evidence"} }]
  currentVerdictBasisIds := {"basis"}

/-- The clock moves on and the oracle rejects what the kernel made of it. -/
theorem clock_result_rejected :
    validateState samplePlanned = [] ∧ validateTemporalState samplePlanned = [] ∧
      ∃ post trace, applyEvent samplePlanned (.advanceClock ⟨1⟩) = .ok (post, trace) ∧
        (transitionViolations samplePlanned (.advanceClock ⟨1⟩) post).map
          Violation.invariantId = [.tInv06] ∧
        ∃ message, CsdOracle.apply samplePlanned (.advanceClock ⟨1⟩) =
          .error (.rejected message) :=
  ⟨by decide +kernel, by decide +kernel, _, _, rfl, by decide +kernel, _, rfl⟩

end Sample
end CsdFoundry.Kernel

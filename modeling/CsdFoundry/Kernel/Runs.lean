import CsdFoundry.Kernel.Agreement
import CsdFoundry.Kernel.Reassessment
import CsdFoundry.Kernel.Weakening

/-! Runs of the oracle: what holds in every state, and what later states keep of earlier ones. -/
namespace CsdFoundry.Kernel

/-- A run from one state to another, each event accepted by the oracle. -/
inductive Runs : ControlState → List CsdEvent → ControlState → Prop where
  | nil : Runs state [] state
  | cons : CsdOracle.apply state event = .ok result → Runs result.after events final →
      Runs state (event :: events) final

variable {start state final : ControlState} {event : CsdEvent} {events later : List CsdEvent}
  {result : OracleResult}

theorem CsdOracle.apply_ok (accepted : CsdOracle.apply state event = .ok result) :
    ValidState state ∧ Accepted state event result.after ∧
      ∃ trace, applyEvent state event = .ok (result.after, trace) := by
  simp only [CsdOracle.apply] at accepted
  split at accepted
  · cases accepted
  · case isFalse valid =>
      split at accepted
      · cases accepted
      · case h_2 after trace applied =>
          split at accepted
          · cases accepted
          · case isFalse clean =>
              cases accepted
              exact ⟨validStates.mp (not_not.mp valid),
                transitionViolations_eq_nil.mp (not_not.mp clean), trace, applied⟩

theorem CsdOracle.apply_of_clean (valid : ValidState state)
    (applied : applyEvent state event = .ok (post, trace))
    (clean : transitionViolations state event post = []) :
    CsdOracle.apply state event = .ok { before := state, after := post, trace := trace } :=
  (CsdOracle.apply_iff valid applied).mpr (transitionViolations_eq_nil.mp clean)

namespace Runs

theorem one (accepted : CsdOracle.apply state event = .ok result) :
    Runs state [event] result.after := .cons accepted .nil

theorem append (run : Runs start events state) (rest : Runs state later final) :
    Runs start (events ++ later) final := by
  induction run with
  | nil => exact rest
  | cons accepted _ ih => exact .cons accepted (ih rest)

/-- What a step keeps holds at the end of a run. -/
theorem invariant {holds : ControlState → Prop} (run : Runs start events final)
    (initially : holds start) (step : ∀ state event result,
      CsdOracle.apply state event = .ok result → holds state → holds result.after) :
    holds final := by
  induction run with
  | nil => exact initially
  | cons accepted _ ih => exact ih (step _ _ _ accepted initially)

/-- A relation of states to later ones that every step establishes. -/
theorem relates {relation : ControlState → ControlState → Prop} (run : Runs start events final)
    (refl : ∀ state, relation state state)
    (trans : ∀ {a b c}, relation a b → relation b c → relation a c)
    (step : ∀ state event result, CsdOracle.apply state event = .ok result →
      relation state result.after) : relation start final := by
  induction run with
  | nil => exact refl _
  | cons accepted _ ih => exact trans (step _ _ _ accepted) ih

theorem valid (run : Runs start events final) (initially : ValidState start) :
    ValidState final :=
  run.invariant initially fun _ _ _ accepted _ => (CsdOracle.apply_ok accepted).2.1.valid

end Runs

/-! ### What supports a claim -/

/-- A current basis of a claim: approved, not empty, and every member is current, before its
deadline and fit for the required profile. -/
def Supports (state : ControlState) (kind : BasisKind) (claim basisId : String) : Prop :=
  ∃ basis, state.basesById basisId = some basis ∧ basis.kind = kind ∧ basis.claim = claim ∧
    basis.approved = true ∧ basis.memberEvidenceIds ≠ ∅ ∧
    ∀ member ∈ basis.memberEvidenceIds, ∃ item, state.evidenceById member = some item ∧
      item.status = .current ∧ (∀ deadline ∈ item.expiresAt, state.logicalTime < deadline) ∧
      item.matchesProfile state.requiredProfileId state.requiredProfileVersion = true

/-- Every current basis supports its claim, and every substantive claim has one. -/
structure Grounded (state : ControlState) : Prop where
  sources : ∀ basisId ∈ state.currentSourceBasisIds,
    Supports state .source state.sourceState.value basisId
  verdicts : ∀ basisId ∈ state.currentVerdictBasisIds,
    Supports state .verdict state.assurance.value basisId
  source : state.sourceState ≠ .unknown → ∃ basisId ∈ state.currentSourceBasisIds,
    Supports state .source state.sourceState.value basisId
  verdict : state.assurance.substantive = true → ∃ basisId ∈ state.currentVerdictBasisIds,
    Supports state .verdict state.assurance.value basisId

theorem ValidState.supports (valid : ValidState state) (current : basisId ∈ state.currentBasisIds)
    (claimed : ∀ basis, state.basesById basisId = some basis →
      basis.kind = kind ∧ basis.claim = claim) : Supports state kind claim basisId := by
  obtain ⟨basis, found, fits⟩ := any_iff.mp (valid.coherent.supported basisId current)
  simp only [Basis.supportedBy, Bool.and_eq_true, decide_eq_true_eq] at fits
  obtain ⟨⟨approved, complete⟩, members⟩ := fits
  obtain ⟨sort, claims⟩ := claimed basis found
  refine ⟨basis, found, sort, claims, approved, complete, fun member inside => ?_⟩
  obtain ⟨item, located, active⟩ := any_iff.mp (members member inside)
  rw [Bool.and_eq_true, Evidence.isCurrent_iff] at active
  have allowed := (valid.temporal.evidence item (Keyed.mem_of_find located)).2
  rw [active.1] at allowed
  exact ⟨item, located, active.1, allowed, active.2⟩

theorem ValidState.grounded (valid : ValidState state) : Grounded state := by
  have sources : ∀ basisId ∈ state.currentSourceBasisIds,
      Supports state .source state.sourceState.value basisId :=
    fun basisId current => valid.supports (Finset.mem_union_left _ current)
      (valid.core.sources basisId current)
  have verdicts : ∀ basisId ∈ state.currentVerdictBasisIds,
      Supports state .verdict state.assurance.value basisId :=
    fun basisId current => valid.supports (Finset.mem_union_right _ current)
      (valid.core.verdicts basisId current)
  refine ⟨sources, verdicts, fun substantive => ?_, fun substantive => ?_⟩
  · obtain ⟨basisId, current⟩ := Finset.nonempty_iff_ne_empty.mpr (valid.core.sourced substantive)
    exact ⟨basisId, current, sources basisId current⟩
  · have applicable : state.obligation = .current := by
      by_contra other
      rw [valid.core.inapplicable other] at substantive
      cases substantive
    obtain ⟨basisId, current⟩ :=
      Finset.nonempty_iff_ne_empty.mpr (valid.core.verified applicable substantive)
    exact ⟨basisId, current, verdicts basisId current⟩

/-! ### What a step cannot do -/

def CsdEvent.reassesses : CsdEvent → Bool
  | .reassess _ => true
  | _ => false

theorem supportedSource_substantive (substantive : supportedSource source bases ≠ .unknown) :
    supportedSource source bases = source := by
  simp only [supportedSource] at substantive ⊢
  split at substantive
  · exact absurd rfl substantive
  · case isFalse kept => rw [if_neg kept]

theorem Claims.weaken_source
    (substantive : (Claims.weaken obligation keeps clears forces claims).sourceState ≠ .unknown) :
    (Claims.weaken obligation keeps clears forces claims).sourceState = claims.sourceState :=
  supportedSource_substantive substantive

/-- The assurance that is left is the old one, or it is not substantive. -/
theorem remaining_assurance (obligation : ObligationStatus) (before : Assurance)
    (verdicts : Finset String) {after : Assurance}
    (remains : after = if obligation ≠ .current then .na
      else if before.substantive && verdicts = ∅ then .stale else before) :
    after = before ∨ after.substantive = false := by
  subst remains
  split
  · exact .inr rfl
  split
  · exact .inr rfl
  · exact .inl rfl

theorem Claims.weaken_assurance
    (substantive : (Claims.weaken obligation keeps clears forces claims).assurance.substantive = true) :
    (Claims.weaken obligation keeps clears forces claims).assurance = claims.assurance := by
  refine (remaining_assurance obligation claims.assurance _ rfl).resolve_right fun withdrawn => ?_
  exact Bool.false_ne_true (withdrawn.symm.trans substantive)

/-- Without a reassessment a substantive claim is one that was made before. -/
theorem CsdOracle.no_promotion (accepted : CsdOracle.apply state event = .ok result)
    (other : event.reassesses = false) :
    (result.after.assurance.substantive = true → result.after.assurance = state.assurance) ∧
      (result.after.sourceState ≠ .unknown → result.after.sourceState = state.sourceState) := by
  obtain ⟨valid, -, trace, applied⟩ := CsdOracle.apply_ok accepted
  by_cases weakens : event.weakens = true
  · have claims := (applyEvent_weakens valid.coherent weakens applied).claims
    have assurance : result.after.assurance = _ := congrArg Claims.assurance claims
    have source : result.after.sourceState = _ := congrArg Claims.sourceState claims
    rw [assurance, source]
    exact ⟨Claims.weaken_assurance, Claims.weaken_source⟩
  · cases event with
    | retireControl event =>
        obtain ⟨-, -, retired⟩ := applyRetire_ok applied
        rw [retired]
        exact ⟨fun substantive => (nomatch substantive), fun known => absurd rfl known⟩
    | reassess event => cases other
    | _ => exact absurd rfl weakens

/-- The obligation of a retired control is retired for good. -/
theorem CsdOracle.stays_retired (accepted : CsdOracle.apply state event = .ok result)
    (retired : state.obligation = .retired) : result.after.obligation = .retired := by
  obtain ⟨valid, -, trace, applied⟩ := CsdOracle.apply_ok accepted
  by_cases weakens : event.weakens = true
  · exact (applyEvent_weakens valid.coherent weakens applied).obligation.trans retired
  · cases event with
    | retireControl event =>
        obtain ⟨-, -, changed⟩ := applyRetire_ok applied
        rw [changed]
        rfl
    | reassess event =>
        obtain ⟨-, changed⟩ := applyReassess_ok applied
        rw [changed]
        exact retired
    | _ => exact absurd rfl weakens

/-! ### What later states keep -/

/-- The records of a state, found again later: evidence may lose its currency, and nothing else
about an item changes. -/
structure Persists (before after : ControlState) : Prop where
  time : before.logicalTime ≤ after.logicalTime
  history : before.history <+: after.history
  evidence : ∀ evidenceId old, before.evidenceById evidenceId = some old →
    ∃ status, after.evidenceById evidenceId = some (old.withStatus status) ∧
      (status = .current → old.status = .current)
  bases : ∀ basisId old, before.basesById basisId = some old → after.basesById basisId = some old
  evidenceIds : before.evidence.map Evidence.evidenceId <+: after.evidence.map Evidence.evidenceId
  basisIds : before.bases.map Basis.basisId <+: after.bases.map Basis.basisId
  requestIds : before.reassessmentRequests.map ReassessmentRequest.requestId <+:
    after.reassessmentRequests.map ReassessmentRequest.requestId

theorem Persists.refl (state : ControlState) : Persists state state where
  time := le_rfl
  history := List.prefix_rfl
  evidence := fun _ old found => ⟨old.status, found, id⟩
  bases := fun _ _ => id
  evidenceIds := List.prefix_rfl
  basisIds := List.prefix_rfl
  requestIds := List.prefix_rfl

theorem Persists.trans (first : Persists a b) (second : Persists b c) : Persists a c where
  time := first.time.trans second.time
  history := first.history.trans second.history
  evidence := by
    intro evidenceId old found
    obtain ⟨status, found', current⟩ := first.evidence evidenceId old found
    obtain ⟨status', found'', current'⟩ := second.evidence evidenceId _ found'
    exact ⟨status', found'', fun active => current (current' active)⟩
  bases := fun basisId old found => second.bases basisId old (first.bases basisId old found)
  evidenceIds := first.evidenceIds.trans second.evidenceIds
  basisIds := first.basisIds.trans second.basisIds
  requestIds := first.requestIds.trans second.requestIds

/-- An item that is found again with the same content differs in its status at most. -/
theorem Evidence.eq_withStatus {old new : Evidence} (identity : old.evidenceId = new.evidenceId)
    (dimension : old.dimension = new.dimension) (dependencies : old.dependencies = new.dependencies)
    (outcome : old.outcome = new.outcome) (metadata : old.SameMetadata new) :
    new = old.withStatus new.status := by
  obtain ⟨issuedAt, expiresAt, profileId, profileVersion⟩ := metadata
  cases old
  cases new
  simp_all [Evidence.withStatus]

theorem ids_of_withdrawal (coherent : Coherent state) (weakens : event.weakens = true)
    (applied : applyEvent state event = .ok (after, trace)) :
    after.evidence.map Evidence.evidenceId = state.evidence.map Evidence.evidenceId ∧
      after.bases.map Basis.basisId = state.bases.map Basis.basisId := by
  have left := applyEvent_weakens coherent weakens applied
  rw [left.evidence, left.bases, restatus_ids]
  exact ⟨rfl, rfl⟩

/-- Requests keep their places, and new ones come behind them. -/
theorem applyEvent_requestIds (applied : applyEvent state event = .ok (after, trace)) :
    state.reassessmentRequests.map ReassessmentRequest.requestId <+:
      after.reassessmentRequests.map ReassessmentRequest.requestId := by
  cases event with
  | dependencyChange event => cases applied; exact List.prefix_rfl
  | reassess event =>
      obtain ⟨-, rfl⟩ := applyReassess_ok applied
      have same : (event.requests state).map ReassessmentRequest.requestId =
          state.reassessmentRequests.map ReassessmentRequest.requestId := by
        rw [Reassess.requests, List.map_map]
        exact List.map_congr_left fun request _ => revises_closing.requestId request
      exact same ▸ List.prefix_rfl
  | retireControl event => obtain ⟨-, -, rfl⟩ := applyRetire_ok applied; exact List.prefix_rfl
  | advanceClock event => obtain ⟨-, rfl⟩ := applyAdvanceClock_ok applied; exact List.prefix_rfl
  | profileChange event =>
      obtain ⟨-, rfl⟩ := applyProfileChange_ok applied
      exact (List.prefix_append _ _).map _
  | requestReassessment event =>
      obtain ⟨-, request, -, rfl⟩ := applyRequestReassessment_ok applied
      exact (List.prefix_append _ _).map _
  | recordHeartbeat event =>
      obtain ⟨-, -, interval, -, -, rfl⟩ := applyRecordHeartbeat_ok applied
      exact List.prefix_rfl

/-- Identities are only ever added, behind the old ones. -/
theorem applyEvent_ids (coherent : Coherent state)
    (applied : applyEvent state event = .ok (after, trace)) :
    state.evidence.map Evidence.evidenceId <+: after.evidence.map Evidence.evidenceId ∧
      state.bases.map Basis.basisId <+: after.bases.map Basis.basisId := by
  by_cases weakens : event.weakens = true
  · obtain ⟨evidence, bases⟩ := ids_of_withdrawal coherent weakens applied
    exact ⟨evidence ▸ List.prefix_rfl, bases ▸ List.prefix_rfl⟩
  · cases event with
    | reassess event =>
        obtain ⟨-, rfl⟩ := applyReassess_ok applied
        exact ⟨(List.prefix_append _ _).map _, (List.prefix_append _ _).map _⟩
    | retireControl event =>
        obtain ⟨-, -, rfl⟩ := applyRetire_ok applied
        exact ⟨(List.prefix_append _ _).map _, List.prefix_rfl⟩
    | _ => exact absurd rfl weakens

theorem CsdOracle.persists (accepted : CsdOracle.apply state event = .ok result) :
    Persists state result.after := by
  obtain ⟨valid, accepts, trace, applied⟩ := CsdOracle.apply_ok accepted
  obtain ⟨evidenceIds, basisIds⟩ := applyEvent_ids valid.coherent applied
  refine ⟨accepts.temporalPreserved.time, accepts.corePreserved.history, ?_,
    accepts.corePreserved.bases, evidenceIds, basisIds, applyEvent_requestIds applied⟩
  intro evidenceId old found
  obtain ⟨new, located, current, dimension, dependencies, outcome⟩ :=
    accepts.corePreserved.evidence evidenceId old found
  have metadata := accepts.temporalPreserved.evidence evidenceId old new found located
  have identity : old.evidenceId = new.evidenceId :=
    (Keyed.key_of_find found).trans (Keyed.key_of_find located).symm
  refine ⟨new.status, ?_, current⟩
  rw [located, ← Evidence.eq_withStatus identity dimension dependencies outcome metadata]

theorem Runs.persists (run : Runs start events final) : Persists start final :=
  run.relates Persists.refl Persists.trans fun _ _ _ => CsdOracle.persists

theorem Runs.retired (run : Runs start events final) (retired : start.obligation = .retired) :
    final.obligation = .retired :=
  run.invariant retired fun _ _ _ => CsdOracle.stays_retired

/-- Along every run of the oracle no claim is without support, evidence that was withdrawn stays
withdrawn, only a reassessment makes a claim substantive, and a retired control stays retired. -/
theorem claims_supported (valid : ValidState start) (run : Runs start events state) :
    Grounded state ∧
    (∀ later final, Runs state later final →
      ∀ evidenceId old, state.evidenceById evidenceId = some old → old.status ≠ .current →
        ∃ new, final.evidenceById evidenceId = some new ∧ new.status ≠ .current) ∧
    (∀ event result, CsdOracle.apply state event = .ok result → event.reassesses = false →
      (result.after.assurance.substantive = true → result.after.assurance = state.assurance) ∧
        (result.after.sourceState ≠ .unknown → result.after.sourceState = state.sourceState)) ∧
    ∀ event result later final, CsdOracle.apply state (.retireControl event) = .ok result →
      Runs result.after later final → final.obligation = .retired ∧ final.assurance = .na := by
  refine ⟨(run.valid valid).grounded, ?_, fun event result => CsdOracle.no_promotion, ?_⟩
  · intro later final rest evidenceId old found withdrawn
    obtain ⟨status, located, current⟩ := rest.persists.evidence evidenceId old found
    exact ⟨old.withStatus status, located, fun active => withdrawn (current active)⟩
  · intro event result later final accepted rest
    obtain ⟨-, accepts, trace, applied⟩ := CsdOracle.apply_ok accepted
    obtain ⟨-, -, changed⟩ := applyRetire_ok applied
    have retired : final.obligation = .retired := rest.retired (by rw [changed]; rfl)
    refine ⟨retired, (rest.valid accepts.valid).core.inapplicable ?_⟩
    rw [retired]
    decide

section Sample

theorem sampleCurrent_valid : ValidState sampleCurrent := validStates.mp (by decide +kernel)

/-- A library changes and a reassessment is asked for. -/
def sampleWithdrawal : List CsdEvent :=
  [.dependencyChange ⟨"library", none⟩, .requestReassessment ⟨"request", "library", 4, "I3"⟩]

/-- The other test expires, and the control is reassessed as it was asked for. -/
def sampleRepair : List CsdEvent := [.advanceClock ⟨3⟩, .reassess {
  newEvidence := [{ evidenceId := "retest", dimension := "operation", issuedAt := 3 }]
  newBases := [{
    basisId := "repeat"
    kind := .verdict
    claim := Assurance.fail.value
    memberEvidenceIds := {"review", "retest"} }]
  assurance := some .fail
  closeRequestIds := ["request"] }]

def sampleRequest : ReassessmentRequest where
  requestId := "request"
  reason := "library"
  requestedAt := 0
  dueAt := 4

theorem sampleRuns : ∃ middle final, Runs sampleCurrent sampleWithdrawal middle ∧
    Runs middle sampleRepair final ∧ middle.requestsById "request" = some sampleRequest ∧
    final.currentEvidenceIds = {"review", "retest"} := by
  have changed : Runs sampleCurrent [.dependencyChange ⟨"library", none⟩] _ :=
    Runs.one (CsdOracle.apply_of_clean sampleCurrent_valid rfl (by decide +kernel))
  have valid := changed.valid sampleCurrent_valid
  have asked : Runs _ [.requestReassessment ⟨"request", "library", 4, "I3"⟩] _ :=
    Runs.one (CsdOracle.apply_of_clean valid rfl (by decide +kernel))
  have expired : Runs _ [.advanceClock ⟨3⟩] _ :=
    Runs.one (CsdOracle.apply_of_clean (asked.valid valid) rfl (by decide +kernel))
  have repaired : Runs _ (sampleRepair.drop 1) _ :=
    Runs.one (CsdOracle.apply_of_clean (expired.valid (asked.valid valid)) rfl (by decide +kernel))
  exact ⟨_, _, changed.append asked, expired.append repaired, by decide +kernel,
    by decide +kernel⟩

theorem claims_supported_sample : ∃ final,
    Runs sampleCurrent (sampleWithdrawal ++ sampleRepair) final ∧
      final.currentEvidenceIds = {"review", "retest"} ∧ Grounded final := by
  obtain ⟨middle, final, withdrawn, repaired, -, evidence⟩ := sampleRuns
  have run := withdrawn.append repaired
  exact ⟨final, run, evidence, (claims_supported sampleCurrent_valid run).1⟩

end Sample

/-! ### Requests and profiles -/

/-- The run closes the request: it is pending up to one of the events, which closes it at the
time that holds then. -/
def Closes (state : ControlState) (events : List CsdEvent) (final : ControlState)
    (request closed : ReassessmentRequest) : Prop :=
  request.status = .pending ∧ ∃ first event last middle result,
    events = first ++ event :: last ∧ Runs state first middle ∧
    middle.requestsById request.requestId = some request ∧
    CsdOracle.apply middle event = .ok result ∧ Runs result.after last final ∧
    closed = request.close result.after.logicalTime

theorem Closes.cons (accepted : CsdOracle.apply state event = .ok result)
    (closes : Closes result.after events final request closed) :
    Closes state (event :: events) final request closed := by
  obtain ⟨pending, first, closer, last, middle, result', rfl, run, found, accepted', rest, is⟩ :=
    closes
  exact ⟨pending, event :: first, closer, last, middle, result', rfl, .cons accepted run, found,
    accepted', rest, is⟩

theorem close_status (request : ReassessmentRequest) : (request.close time).status = .closed := by
  rw [ReassessmentRequest.close]
  split
  · assumption
  · rfl

theorem Runs.request (run : Runs start events final)
    (found : start.requestsById requestId = some old) :
    ∃ new, final.requestsById requestId = some new ∧
      (new = old ∨ Closes start events final old new) := by
  induction run generalizing old with
  | nil => exact ⟨old, found, .inl rfl⟩
  | @cons state event result events final accepted rest ih =>
      obtain ⟨-, accepts, -⟩ := CsdOracle.apply_ok accepted
      obtain ⟨next, found', same | ⟨pending, closed⟩⟩ :=
        accepts.temporalPreserved.requests requestId old found
      · subst same
        obtain ⟨new, located, kept | closes⟩ := ih found'
        · exact ⟨new, located, .inl kept⟩
        · exact ⟨new, located, .inr (closes.cons accepted)⟩
      · obtain ⟨new, located, kept | ⟨open_, -⟩⟩ := ih found'
        · refine ⟨new, located, .inr ⟨pending, [], event, events, state, result, rfl, .nil, ?_,
            accepted, rest, kept.trans closed⟩⟩
          rw [Keyed.key_of_find found]
          exact found
        · rw [closed, close_status] at open_
          cases open_

/-- Every state of the run requires the profile. -/
def Requires (profileId : String) (start : ControlState) (events : List CsdEvent) : Prop :=
  ∀ first last middle, events = first ++ last → Runs start first middle →
    middle.requiredProfileId = some profileId

theorem Runs.profile (run : Runs start events final) (valid : ValidState start)
    (requires : Requires profileId start events) :
    ∀ old ∈ start.requiredProfileVersion, ∀ new ∈ final.requiredProfileVersion, old ≤ new := by
  induction run with
  | nil =>
      intro old set new set'
      rw [Option.mem_unique set set']
  | @cons state event result events final accepted rest ih =>
      obtain ⟨-, accepts, -⟩ := CsdOracle.apply_ok accepted
      have before := requires [] _ _ rfl .nil
      have after := requires [event] events _ rfl (Runs.one accepted)
      intro old set new set'
      have complete := accepts.valid.temporal.profile.complete
      rw [after] at complete
      obtain ⟨version, required⟩ := Option.isSome_iff_exists.mp (by simpa using complete)
      have tail : Requires profileId result.after events :=
        fun first last middle split run => requires (event :: first) last middle
          (by rw [split]; rfl) (.cons accepted run)
      have step := accepts.temporalPreserved.profile (before.trans after.symm) old set version
        required
      exact step.trans (ih accepts.valid tail version required new set')

/-- Along every run of the oracle time does not go back, records keep everything but the status
of evidence, a request is closed at most once, no identity is used twice and the history only
grows. The version of a profile does not decrease while no other profile is required. -/
theorem governance_monotone (valid : ValidState start) (run : Runs start events state)
    (rest : Runs state later final) :
    state.logicalTime ≤ final.logicalTime ∧
    (∀ profileId, Requires profileId state later →
      ∀ old ∈ state.requiredProfileVersion, ∀ new ∈ final.requiredProfileVersion, old ≤ new) ∧
    (∀ basisId old, state.basesById basisId = some old → final.basesById basisId = some old) ∧
    (∀ evidenceId old, state.evidenceById evidenceId = some old →
      ∃ status, final.evidenceById evidenceId = some (old.withStatus status)) ∧
    (∀ requestId old, state.requestsById requestId = some old →
      ∃ new, final.requestsById requestId = some new ∧
        (new = old ∨ Closes state later final old new)) ∧
    (state.evidence.map Evidence.evidenceId <+: final.evidence.map Evidence.evidenceId ∧
      state.bases.map Basis.basisId <+: final.bases.map Basis.basisId ∧
      state.reassessmentRequests.map ReassessmentRequest.requestId <+:
        final.reassessmentRequests.map ReassessmentRequest.requestId) ∧
    ((final.evidence.map Evidence.evidenceId).Nodup ∧ (final.bases.map Basis.basisId).Nodup ∧
      (final.reassessmentRequests.map ReassessmentRequest.requestId).Nodup) ∧
    state.history <+: final.history := by
  have valid' := run.valid valid
  have valid'' := rest.valid valid'
  have persists := rest.persists
  refine ⟨persists.time, fun profileId requires => rest.profile valid' requires, persists.bases,
    ?_, fun requestId old found => rest.request found,
    ⟨persists.evidenceIds, persists.basisIds, persists.requestIds⟩,
    ⟨valid''.core.evidence, valid''.core.bases, valid''.temporal.distinct⟩, persists.history⟩
  intro evidenceId old found
  obtain ⟨status, located, -⟩ := persists.evidence evidenceId old found
  exact ⟨status, located⟩

section Sample

/-- The request that the first events open is kept, or closed once by the later ones. -/
theorem governance_monotone_sample : ∃ middle final,
    Runs sampleCurrent sampleWithdrawal middle ∧ Runs middle sampleRepair final ∧
      ∃ new, final.requestsById "request" = some new ∧
        (new = sampleRequest ∨ Closes middle sampleRepair final sampleRequest new) := by
  obtain ⟨middle, final, withdrawn, repaired, asked, -⟩ := sampleRuns
  exact ⟨middle, final, withdrawn, repaired,
    (governance_monotone sampleCurrent_valid withdrawn repaired).2.2.2.2.1 _ _ asked⟩

def requiring (profileId : String) (version : Int) : ProfileChange :=
  ⟨profileId, version, "I3", none, none⟩

/-- A control without evidence that requires the profiles of the list, one after the other. -/
def sampleRequired (changes : List ProfileChange) : ControlState where
  controlId := "control"
  requiredProfileId := changes.getLast?.map ProfileChange.profileId
  requiredProfileVersion := changes.getLast?.map ProfileChange.profileVersion
  history := changes.map (profileAudit { controlId := "control" })

/-- A profile is required at version 5 and, after another profile, at version 1. -/
theorem profile_version_regresses :
    let first := sampleRequired [requiring "a" 5]
    let final := sampleRequired [requiring "a" 5, requiring "b" 1, requiring "a" 1]
    ValidState (sampleRequired []) ∧
      Runs (sampleRequired []) [.profileChange (requiring "a" 5)] first ∧
      Runs first [.profileChange (requiring "b" 1), .profileChange (requiring "a" 1)] final ∧
      first.requiredProfileId = final.requiredProfileId ∧
      first.requiredProfileVersion = some 5 ∧ final.requiredProfileVersion = some 1 := by
  have valid : ValidState (sampleRequired []) := validStates.mp (by decide +kernel)
  have first : Runs (sampleRequired []) [.profileChange (requiring "a" 5)]
      (sampleRequired [requiring "a" 5]) :=
    Runs.one (CsdOracle.apply_of_clean valid rfl (by decide +kernel))
  have second : Runs (sampleRequired [requiring "a" 5]) [.profileChange (requiring "b" 1)]
      (sampleRequired [requiring "a" 5, requiring "b" 1]) :=
    Runs.one (CsdOracle.apply_of_clean (first.valid valid) rfl (by decide +kernel))
  have third : Runs (sampleRequired [requiring "a" 5, requiring "b" 1])
      [.profileChange (requiring "a" 1)]
      (sampleRequired [requiring "a" 5, requiring "b" 1, requiring "a" 1]) :=
    Runs.one (CsdOracle.apply_of_clean (second.valid (first.valid valid)) rfl (by decide +kernel))
  exact ⟨valid, first, second.append third, rfl, rfl, rfl⟩

end Sample
end CsdFoundry.Kernel

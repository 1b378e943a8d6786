import CsdFoundry.Kernel.Grounds

/-! Exactness of the verifier: when a result of the same control that passes it can only be
the kernel's. -/
namespace CsdFoundry.Kernel

variable {state post candidate other : ControlState} {trace : TransitionTrace}

namespace Agrees

/-- Agreement at an old item that only the statuses can differ in. -/
theorem status_eq (agrees : Agrees candidate post)
    (found : candidate.evidenceById evidenceId = some (item.withStatus status))
    (found' : post.evidenceById evidenceId = some item) : status = item.status := by
  rw [agrees.evidence, found'] at found
  cases item
  cases found
  rfl

end Agrees

/-- Only results that agree with the kernel's pass the verifier. -/
def OnlyResult (state : ControlState) (event : CsdEvent) (post : ControlState) : Prop :=
  ∀ candidate, candidate.controlId = state.controlId →
    transitionViolations state event candidate = [] → Agrees candidate post

theorem OnlyResult.agrees (only : OnlyResult state event post)
    (accepted : Accepted state event candidate)
    (same : candidate.controlId = state.controlId) : Agrees candidate post :=
  only candidate same (transitionViolations_eq_nil.mpr accepted)

theorem OnlyResult.of (agrees : ∀ candidate, Accepted state event candidate →
    Agrees candidate post) : OnlyResult state event post :=
  fun candidate _ clean => agrees candidate (transitionViolations_eq_nil.mp clean)

/-- The supported claims are those of the kernel, and nothing else supports them. -/
structure Reassess.Determined (state : ControlState) (event : Reassess) (kept : Finset String) :
    Prop where
  whole : kept = state.currentEvidenceIds
  pinned : ∀ item ∈ state.evidence, item.status ≠ .current → item.Pinned state.logicalTime
  applicable : event.resultingAssurance state ≠ .na
  obligation : state.obligation = .current
  claims : event.supportedClaims state kept = reassessedClaims state event

/-- The exact condition, for each event. Where no assurance applies the verifier overlooks the
obligation; a profile change overlooks closed requests; retirement and reassessment overlook
the statuses of old evidence, which is no loss only where a reassessment rests on all of it. -/
def Exact (state : ControlState) : CsdEvent → Prop
  | .dependencyChange _ => state.assurance ≠ .na
  | .advanceClock event => state.assurance ≠ .na ∧ ¬ Diverges state (.advanceClock event)
  | .profileChange event =>
      (∀ request ∈ state.reassessmentRequests, request.status ≠ .pending) ∧
        ¬ Diverges state (.profileChange event)
  | .requestReassessment _ | .recordHeartbeat _ => True
  | .retireControl event =>
      ¬ (event.retirementEvidence.Issued state.logicalTime ∧
        event.retirementEvidence.allows state.logicalTime .current) ∨
      ∀ item ∈ state.evidence, item.Pinned state.logicalTime
  | .reassess event =>
      ¬ event.Timely state ∨
      (state.heartbeatMissed state.logicalTime = true ∧
        (event.resultingAssurance state).substantive = true) ∨
      ∀ ground ∈ event.grounds state, event.Tenable state ground →
        ground = state.currentEvidenceIds ∧ event.Undisputed state

/-- An obligation other than the present one. -/
def otherObligation : ObligationStatus → ObligationStatus
  | .current => .planned
  | .planned => .retired
  | .retired => .planned

theorem otherObligation_ne : otherObligation obligation ≠ obligation := by
  cases obligation <;> decide

theorem dependency_exact_iff (valid : ValidState state) :
    OnlyResult state (.dependencyChange event) (applyDependencyChange state event).1 ↔
      Exact state (.dependencyChange event) := by
  constructor
  · intro only na
    have accepted : Accepted state (.dependencyChange event)
        (dependencyCandidate state event (otherObligation state.obligation)) :=
      dependencyCandidate_accepted valid (.inr na)
    exact otherObligation_ne (only.agrees accepted rfl).obligation
  · intro applicable
    apply OnlyResult.of
    intro candidate accepted
    exact dependency_unique valid applicable accepted
      (dependencyCandidate_accepted valid (.inl rfl))

theorem clock_exact_iff (valid : ValidState state)
    (applied : applyAdvanceClock state event = .ok (post, trace)) :
    OnlyResult state (.advanceClock event) post ↔ Exact state (.advanceClock event) := by
  obtain ⟨forward, rfl⟩ := applyAdvanceClock_ok applied
  constructor
  · intro only
    constructor
    · intro na
      have accepted : Accepted state (.advanceClock event)
          (clockCandidate state event (otherObligation state.obligation)) :=
        clockCandidate_accepted valid forward (.inr na)
      exact otherObligation_ne (only.agrees accepted rfl).obligation
    · have accepted : Accepted state (.advanceClock event)
          (clockCandidate state event state.obligation) :=
        clockCandidate_accepted valid forward (.inl rfl)
      rw [Diverges, ← clockSurvivors_eq valid, ← canonicalClaims_eq_iff]
      exact (only.agrees accepted rfl).claims.symm
  · rintro ⟨applicable, agreed⟩
    have kernel := (advanceClock_accepted_iff valid applied).mpr agreed
    apply OnlyResult.of
    intro candidate accepted
    exact clock_unique valid applicable accepted kernel

theorem profile_exact_iff (valid : ValidState state)
    (applied : applyProfileChange state event = .ok (post, trace)) :
    OnlyResult state (.profileChange event) post ↔ Exact state (.profileChange event) := by
  have kernel := profileChange_accepted_iff valid applied
  obtain ⟨admissible, rfl⟩ := applyProfileChange_ok applied
  constructor
  · intro only
    constructor
    · intro request member pending
      have accepted := profileCandidate_accepted valid admissible revises_close
      have agree := congrFun (only.agrees accepted rfl).requests request.requestId
      have found : state.requestsById request.requestId = some request :=
        Keyed.find_of_mem valid.temporal.distinct member
      have unfiled : Keyed.find ReassessmentRequest.requestId
          (event.request state.logicalTime).toList request.requestId = none := by
        rw [Keyed.find_eq_none]
        intro filed inside same
        apply (admissible.request filed (Option.mem_toList.mp inside)).1
        exact Keyed.mem_keys.mpr ⟨request, member, same.symm⟩
      have present : Keyed.find ReassessmentRequest.requestId (state.reassessmentRequests ++
          (event.request state.logicalTime).toList) request.requestId = some request := by
        rw [Keyed.find_append, unfiled, Option.none_or]
        exact found
      rw [profileCandidate_requests revises_close, unfiled, found, Option.none_or,
        Option.map_some] at agree
      have same : request.close state.logicalTime = request :=
        Option.some.inj (agree.trans present)
      have status := congrArg ReassessmentRequest.status same
      simp [ReassessmentRequest.close, pending] at status
    · have accepted := profileCandidate_accepted valid admissible revises_id
      rw [Diverges, ← profileSurvivors_eq valid, ← canonicalClaims_unforced]
      rw [profileCandidate, List.map_id] at accepted
      exact (only.agrees accepted rfl).claims.symm
  · rintro ⟨settled, agreed⟩
    apply OnlyResult.of
    intro candidate accepted
    exact profile_unique settled admissible accepted (kernel.mpr agreed)

theorem retire_exact_iff (valid : ValidState state)
    (applied : applyRetire state event = .ok (post, trace)) :
    OnlyResult state (.retireControl event) post ↔ Exact state (.retireControl event) := by
  obtain ⟨fresh, current, rfl⟩ := applyRetire_ok applied
  have kernel : retireCandidate state event Evidence.status =
      (retireInterim state event).claiming ⟨.unknown, .na, ∅, ∅⟩ (retireAudit event) := by
    rw [retireCandidate, restatus_same]
    rfl
  constructor
  · intro only
    by_contra inexact
    rw [Exact, not_or, not_not] at inexact
    obtain ⟨⟨issued, allowed⟩, unpinned⟩ := inexact
    apply unpinned
    intro item member
    by_contra loose
    obtain ⟨status, different, inactive, possible⟩ := unpinned_other loose
    -- the same item with another status passes as well
    have accepted := retireCandidate_accepted valid fresh issued (current ▸ allowed)
      (valid.admits.restated inactive possible)
    have extension : Extends state (retireCandidate state event
        (restated item status Evidence.status)) _
        [event.retirementEvidence] [] := retireCandidate_extends fresh
    have found : state.evidenceById item.evidenceId = some item :=
      Keyed.find_of_mem valid.core.evidence member
    have located := extension.find_old found
    rw [restated, if_pos rfl] at located
    apply different
    apply (only.agrees accepted rfl).status_eq located
    rw [← kernel]
    have same : Extends state (retireCandidate state event Evidence.status) _
        [event.retirementEvidence] [] := retireCandidate_extends fresh
    exact same.find_old found
  · rintro (untimely | pinned)
    · apply OnlyResult.of
      intro candidate accepted
      apply absurd _ untimely
      obtain ⟨checked, governance, -⟩ := accepted.checked
      have valid' := accepted.valid.temporal.evidence _ (Keyed.mem_of_find checked.evidence)
      rwa [governance.time, current] at valid'
    · by_cases timely : event.retirementEvidence.Issued state.logicalTime ∧
          event.retirementEvidence.allows state.logicalTime .current
      · rw [← kernel]
        apply OnlyResult.of
        intro candidate accepted
        exact retire_unique pinned accepted (retireCandidate_accepted valid fresh timely.1
          (current ▸ timely.2) valid.admits)
      · apply OnlyResult.of
        intro candidate accepted
        apply absurd _ timely
        obtain ⟨checked, governance, -⟩ := accepted.checked
        have valid' := accepted.valid.temporal.evidence _ (Keyed.mem_of_find checked.evidence)
        rwa [governance.time, current] at valid'

section Reassess
variable {event : Reassess}

/-- Statuses that leave just the given old evidence current. -/
def keeping (kept : Finset String) (item : Evidence) : EvidenceStatus :=
  if item.status = .current ∧ item.evidenceId ∉ kept then .invalidated else item.status

theorem keeping_admits (valid : ValidState state) :
    Admits state.logicalTime state.evidence (keeping kept) := by
  intro item member
  rw [keeping]
  split
  · exact ⟨trivial, fun active => by cases active⟩
  · exact valid.admits item member

theorem keptIds_keeping (known : kept ⊆ state.currentEvidenceIds) :
    keptIds state (keeping kept) = kept := by
  ext evidenceId
  rw [keptIds, Finset.mem_filter]
  constructor
  · rintro ⟨-, active⟩
    obtain ⟨item, found, current⟩ := any_iff.mp active
    rw [decide_eq_true_eq, keeping] at current
    split at current
    · cases current
    · case isFalse retained =>
        have named : item.evidenceId = evidenceId := Keyed.key_of_find found
        rw [named] at retained
        by_contra dropped
        exact retained ⟨current, dropped⟩
  · intro inside
    obtain ⟨present, current⟩ := Finset.mem_filter.mp (known inside)
    obtain ⟨item, found, active⟩ := any_iff.mp current
    have named : item.evidenceId = evidenceId := Keyed.key_of_find found
    refine ⟨present, any_iff.mpr ⟨item, found, ?_⟩⟩
    rw [decide_eq_true_eq, keeping, if_neg]
    · exact Evidence.isCurrent_iff.mp active
    · rintro ⟨-, dropped⟩
      exact dropped (named ▸ inside)

/-- Giving evidence that is not current another such status keeps what is current. -/
theorem keptIds_restated (different : item.status ≠ .current) (inactive : value ≠ .current)
    (unchanged : ∀ other : Evidence, status other = .current → other.status = .current) :
    keptIds state (restated item value status) = keptIds state status := by
  have same : ∀ other, restated item value status other = .current ↔ status other = .current := by
    intro other
    by_cases is : other = item
    · rw [restated, if_pos is]
      subst is
      exact ⟨fun active => absurd active inactive,
        fun active => absurd (unchanged other active) different⟩
    · rw [restated, if_neg is]
  simp only [keptIds, same]

theorem keeping_current (active : keeping kept item = .current) : item.status = .current := by
  rw [keeping] at active
  split at active
  · cases active
  · exact active

/-- An old item in a candidate, and in the kernel's result. -/
theorem reassessCandidate_old (admissible : event.Admissible state)
    (found : state.evidenceById evidenceId = some item) :
    (reassessCandidate state event status obligation).evidenceById evidenceId =
      some (item.withStatus (status item)) := by
  rw [reassessCandidate_evidence admissible, Reassess.merged_old admissible found,
    Option.none_or, found]
  rfl

theorem reassessed_old (admissible : event.Admissible state)
    (found : state.evidenceById evidenceId = some item) :
    ((reassessInterim state event requests).claiming claims audit).evidenceById evidenceId =
      some item := by
  change (event.merged state).evidenceById evidenceId = some item
  rw [Reassess.merged_evidence, Reassess.merged_old admissible found, Option.none_or, found]

/-- If only the kernel's result passes, each way to support the claims is determined. -/
theorem determined_of_only (valid : ValidState state) (admissible : event.Admissible state)
    (only : OnlyResult state (.reassess event) ((reassessInterim state event
      (event.requests state)).claiming (reassessedClaims state event) (reassessAudit event)))
    (timely : event.Timely state)
    (alive : state.heartbeatMissed state.logicalTime = true →
      (event.resultingAssurance state).substantive = false)
    (known : kept ⊆ state.currentEvidenceIds) (supports : event.Supports state kept) :
    event.Determined state kept := by
  have supports' : event.Supports state (keptIds state (keeping kept)) := by
    rwa [keptIds_keeping known]
  have accepted : Accepted state (.reassess event)
      (reassessCandidate state event (keeping kept) .current) :=
    reassessCandidate_accepted valid admissible timely alive supports' (keeping_admits valid)
      (.inl rfl)
  have agrees := only.agrees accepted rfl
  have obligation : state.obligation = .current := agrees.obligation.symm
  constructor
  · apply Finset.Subset.antisymm known
    intro evidenceId inside
    obtain ⟨item, found, active⟩ := any_iff.mp (Finset.mem_filter.mp inside).2
    have status := agrees.status_eq (reassessCandidate_old admissible found)
      (reassessed_old admissible found)
    rw [Evidence.isCurrent_iff.mp active] at status
    rw [← keptIds_keeping known, keptIds, Finset.mem_filter]
    exact ⟨(Finset.mem_filter.mp inside).1,
      any_iff.mpr ⟨item, found, decide_eq_true_iff.mpr status⟩⟩
  · intro item member inactive
    by_contra loose
    obtain ⟨status, different, other, possible⟩ := unpinned_other loose
    have found : state.evidenceById item.evidenceId = some item :=
      Keyed.find_of_mem valid.core.evidence member
    have sameKept : keptIds state (restated item status (keeping kept)) = kept := by
      rw [keptIds_restated inactive other (fun _ => keeping_current), keptIds_keeping known]
    have accepted' : Accepted state (.reassess event)
        (reassessCandidate state event (restated item status (keeping kept)) .current) :=
      reassessCandidate_accepted valid admissible timely alive (sameKept.symm ▸ supports)
        ((keeping_admits valid).restated other possible) (.inl rfl)
    have located : (reassessCandidate state event (restated item status (keeping kept))
        .current).evidenceById item.evidenceId = _ := reassessCandidate_old admissible found
    rw [restated, if_pos rfl] at located
    exact different ((only.agrees accepted' rfl).status_eq located
      (reassessed_old admissible found))
  · intro na
    have accepted' : Accepted state (.reassess event)
        (reassessCandidate state event (keeping kept) .planned) :=
      reassessCandidate_accepted valid admissible timely alive supports' (keeping_admits valid)
        (.inr na)
    have planned : ObligationStatus.planned = state.obligation :=
      (only.agrees accepted' rfl).obligation
    cases planned.trans obligation
  · exact obligation
  · have claims : event.supportedClaims state (keptIds state (keeping kept)) =
        reassessedClaims state event := agrees.claims
    rwa [keptIds_keeping known] at claims

theorem determined_iff (core : CoreValid state) (admissible : event.Admissible state) :
    event.Determined state state.currentEvidenceIds ↔ event.Undisputed state := by
  constructor
  · intro determined
    obtain ⟨sources, verdicts⟩ :=
      (Reassess.supportedClaims_eq_iff core admissible).mp determined.claims
    exact ⟨determined.pinned, determined.applicable, determined.obligation, sources, verdicts⟩
  · intro undisputed
    exact ⟨rfl, undisputed.pinned, undisputed.applicable, undisputed.obligation,
      (Reassess.supportedClaims_eq_iff core admissible).mpr
        ⟨undisputed.sources, undisputed.verdicts⟩⟩

/-- Every way to support the claims is determined where every tenable ground is all of the
current evidence: what supports the claims contains such a ground, and is one itself. -/
theorem all_determined_iff (core : CoreValid state) (admissible : event.Admissible state) :
    (∀ kept ⊆ state.currentEvidenceIds, event.Supports state kept →
      event.Determined state kept) ↔
    ∀ ground ∈ event.grounds state, event.Tenable state ground →
      ground = state.currentEvidenceIds ∧ event.Undisputed state := by
  constructor
  · intro all ground member tenable
    have determined := all ground tenable.current (tenable.supports member)
    have whole := determined.whole
    rw [whole] at determined
    exact ⟨whole, (determined_iff core admissible).mp determined⟩
  · intro all kept known supports
    obtain ⟨ground, member, within, tenable⟩ := supports.tenable known
    obtain ⟨whole, undisputed⟩ := all ground member tenable
    obtain rfl : kept = state.currentEvidenceIds := known.antisymm (whole ▸ within)
    exact (determined_iff core admissible).mpr undisputed

/-- Where every way to support the claims is determined, a result that passes is the kernel's. -/
theorem reassess_agrees (admissible : event.Admissible state)
    (accepted : Accepted state (.reassess event) candidate)
    (determined : event.Determined state (retainedIds state candidate)) :
    Agrees candidate ((reassessInterim state event (event.requests state)).claiming
      (reassessedClaims state event) (reassessAudit event)) := by
  obtain ⟨checked, governance, closed, -⟩ := accepted.checked
  have claims := reassessed_claims admissible accepted
  have assurance : candidate.assurance = event.resultingAssurance state :=
    congrArg Claims.assurance claims
  constructor
  · change candidate.obligation = state.obligation
    rw [determined.obligation]
    by_contra inapplicable
    apply determined.applicable
    rw [← assurance]
    exact accepted.valid.core.inapplicable inapplicable
  · rw [claims]
    exact determined.claims
  · funext evidenceId
    change _ = (event.merged state).evidenceById evidenceId
    rw [Reassess.merged_evidence]
    cases given : Keyed.find Evidence.evidenceId event.newEvidence evidenceId with
    | some item => rw [checked.evidence evidenceId item given, Option.some_or]
    | none =>
        rw [Option.none_or]
        cases found : state.evidenceById evidenceId with
        | none => exact reassessed_unknown accepted given found
        | some old =>
            obtain ⟨status, located, inactive, allowed⟩ := accepted.oldEvidence found
            have same : status = old.status := by
              by_cases active : old.status = .current
              · have inside : evidenceId ∈ state.currentEvidenceIds :=
                  Finset.mem_filter.mpr ⟨Keyed.mem_keys_iff_find.mpr ⟨old, found⟩,
                    any_iff.mpr ⟨old, found, Evidence.isCurrent_iff.mpr active⟩⟩
                rw [← determined.whole] at inside
                have kept := (Finset.mem_filter.mp inside).2
                rw [located, Option.any_some] at kept
                exact (Evidence.isCurrent_iff.mp kept).trans active.symm
              · rw [governance.time] at allowed
                exact pinned_unique (determined.pinned old (Keyed.mem_of_find found) active)
                  inactive allowed
            rw [located, same, withStatus_same]
  · funext basisId
    exact reassessed_bases accepted basisId
  · funext requestId
    have images : ∀ k old, state.requestsById k = some old → candidate.requestsById k =
        some (closing state.logicalTime event.closeRequestIds.toFinset old) := by
      intro k old found
      obtain ⟨new, located, -⟩ := accepted.temporalPreserved.requests k old found
      have named : old.requestId = k := Keyed.key_of_find found
      rw [located, closed.requests k old new found located, closing, named]
    have mapped : candidate.requestsById requestId = (state.requestsById requestId).map
        (closing state.logicalTime event.closeRequestIds.toFinset) :=
      Keyed.find_eq_map closed.requestIds images requestId
    have kernel : Keyed.find ReassessmentRequest.requestId (event.requests state) requestId =
        (state.requestsById requestId).map
          (closing state.logicalTime event.closeRequestIds.toFinset) :=
      Keyed.find_map revises_closing.requestId requestId
    exact mapped.trans kernel.symm
  · exact governance.time
  · exact governance.profile.profileId
  · exact governance.profile.profileVersion
  · exact governance.heartbeat

theorem reassess_exact_iff (valid : ValidState state)
    (applied : applyReassess state event = .ok (post, trace)) :
    OnlyResult state (.reassess event) post ↔ Exact state (.reassess event) := by
  obtain ⟨admissible, rfl⟩ := applyReassess_ok applied
  constructor
  · intro only
    rw [Exact, or_iff_not_imp_left, not_not]
    intro timely
    rw [or_iff_not_imp_left, not_and, Bool.not_eq_true]
    intro alive
    rw [← all_determined_iff valid.core admissible]
    intro kept known supports
    exact determined_of_only valid admissible only timely alive known supports
  · intro condition
    rw [Exact, ← all_determined_iff valid.core admissible] at condition
    apply OnlyResult.of
    intro candidate accepted
    apply reassess_agrees admissible accepted
    rcases condition with untimely | ⟨missed, substantive⟩ | determined
    · exact absurd (reassessed_timely admissible accepted) untimely
    · rw [reassessed_alive admissible accepted missed] at substantive
      cases substantive
    · exact determined _ (Finset.filter_subset _ _) (reassessed_supports admissible accepted)

end Reassess

/-- On a valid state and an accepted event, the kernel's result is the only one that passes
the verifier exactly under the conditions of `Exact`. -/
theorem verifier_exact_iff (core : validateState state = [])
    (temporal : validateTemporalState state = [])
    (applied : applyEvent state event = .ok (post, trace)) :
    (∀ candidate, candidate.controlId = state.controlId →
      transitionViolations state event candidate = [] → Agrees candidate post) ↔
      Exact state event := by
  have valid : ValidState state :=
    ⟨validateState_eq_nil.mp core, validateTemporalState_eq_nil.mp temporal⟩
  change OnlyResult state event post ↔ Exact state event
  cases event with
  | dependencyChange event =>
      cases applied
      exact dependency_exact_iff valid
  | reassess event => exact reassess_exact_iff valid applied
  | retireControl event => exact retire_exact_iff valid applied
  | advanceClock event => exact clock_exact_iff valid applied
  | profileChange event => exact profile_exact_iff valid applied
  | requestReassessment event =>
      obtain ⟨fresh, request, created, rfl⟩ := applyRequestReassessment_ok applied
      refine iff_of_true (OnlyResult.of fun candidate accepted => ?_) trivial
      exact request_unique accepted (requestReassessment_accepted valid fresh created)
  | recordHeartbeat event =>
      obtain ⟨authority, now, interval, chosen, positive, rfl⟩ := applyRecordHeartbeat_ok applied
      refine iff_of_true (OnlyResult.of fun candidate accepted => ?_) trivial
      exact heartbeat_unique accepted
        (recordHeartbeat_accepted valid authority now chosen positive)

/-- Both verdict bases are replaced by one on a failed test. -/
def sampleRepeat : Reassess where
  newEvidence := [{ evidenceId := "retest", dimension := "operation" }]
  newBases := [{
    basisId := "repeat"
    kind := .verdict
    claim := Assurance.fail.value
    memberEvidenceIds := {"review", "retest"} }]
  assurance := some .fail

theorem verifier_exact_sample :
    ∃ post trace, applyEvent sampleCurrent (.reassess sampleRepeat) = .ok (post, trace) ∧
      post.currentVerdictBasisIds = {"repeat"} ∧
      ((∀ candidate, candidate.controlId = sampleCurrent.controlId →
        transitionViolations sampleCurrent (.reassess sampleRepeat) candidate = [] →
          Agrees candidate post) ↔
        Exact sampleCurrent (.reassess sampleRepeat)) :=
  ⟨_, _, rfl, by decide +kernel,
    verifier_exact_iff (by decide +kernel) (by decide +kernel) rfl⟩

/-- The planned control, retired although nothing but a dependency changed. -/
def sampleRetired : ControlState :=
  { (applyDependencyChange samplePlanned ⟨"library", none⟩).1 with obligation := .retired }

/-- The retirement passes the verifier of the dependency change. -/
theorem retired_mutant_survives :
    validateState samplePlanned = [] ∧ validateTemporalState samplePlanned = [] ∧
      ∃ post trace, applyEvent samplePlanned (.dependencyChange ⟨"library", none⟩) =
          .ok (post, trace) ∧
        sampleRetired.controlId = samplePlanned.controlId ∧
        transitionViolations samplePlanned (.dependencyChange ⟨"library", none⟩)
          sampleRetired = [] ∧
        ¬ Agrees sampleRetired post := by
  refine ⟨by decide +kernel, by decide +kernel, _, _, rfl, rfl, by decide +kernel, ?_⟩
  intro agrees
  have same : ObligationStatus.retired = .planned := agrees.obligation
  cases same

end CsdFoundry.Kernel
